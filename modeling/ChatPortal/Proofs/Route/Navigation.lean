import ChatPortal.Route.Guard

/-!
# Where the guard leads

The targets of the client's own table are `Target.IsStandard`: the portal, which needs a
signed-in user, and the way to sign in, which does not.  From any of them the guard leads to
one of them, and to the way to sign in exactly when nobody is signed in
(`RouteTable.navigate_isDue`).
-/

namespace ChatPortal

/-- A target of the client's own table, with any query. -/
inductive Target.IsStandard (target : Target) : Prop where
  | sign (hname : target.name = RouteTable.signName) (hneeds : target.needsSession = false)
  | portal (hname : target.name = RouteTable.portalName) (hneeds : target.needsSession = true)

namespace RouteTable

/-- A target is where the client should be: signing in exactly when nobody is signed in. -/
def IsDue (signedIn : Bool) (target : Target) : Prop :=
  target.name = signName ↔ signedIn = false

theorem portalName_ne_signName :
  portalName ≠ signName
  := by
  decide

theorem home_isStandard :
  standard.home.target.IsStandard
  := .portal rfl rfl

/-- A target is allowed where the client should be at it. -/
theorem decide_of_isDue {target : Target} (h : target.IsStandard) {signedIn : Bool}
    (hdue : IsDue signedIn target) :
  standard.decide signedIn target = .allow
  := by
  cases h with
  | sign hname hneeds =>
    obtain rfl : signedIn = false := hdue.mp hname
    simp [decide, hneeds]
  | portal hname hneeds =>
    have hsigned : signedIn = true := by
      rw [← Bool.not_eq_false]
      intro hout
      apply portalName_ne_signName
      rw [← hname]
      exact hdue.mpr hout
    simp [decide, hsigned, hname, standard, signRoute, portalName_ne_signName]

/-- From any other target the guard redirects to one where the client should be. -/
theorem decide_of_not_isDue {target : Target} (h : target.IsStandard) {signedIn : Bool}
    (hdue : ¬ IsDue signedIn target) :
  ∃ next, standard.decide signedIn target = .redirect next ∧ next.IsStandard
    ∧ IsDue signedIn next
  := by
  cases h with
  | sign hname hneeds =>
    have hsigned : signedIn = true := by simpa [IsDue, hname] using hdue
    refine ⟨standard.home.target, ?_, home_isStandard, ?_⟩
    · simp [decide, hsigned, hname, standard, signRoute]
    · simp [IsDue, hsigned, standard, portalRoute, Route.target, portalName_ne_signName]
  | portal hname hneeds =>
    have hsigned : signedIn = false := by
      simpa [IsDue, hname, portalName_ne_signName] using hdue
    refine ⟨standard.signInFor target, ?_, .sign rfl rfl, ?_⟩
    · simp [decide, hsigned, hneeds]
    · exact ⟨fun _ => hsigned, fun _ => rfl⟩

/-- The guard leaves the client where it should be. -/
theorem follow_of_isDue {target : Target} (h : target.IsStandard) {signedIn : Bool}
    (hdue : IsDue signedIn target) (count : Nat) :
  standard.follow signedIn count target = target
  := by
  cases count with
  | zero => rfl
  | succ count => rw [follow, decide_of_isDue h hdue]

/-- The guard leads to where the client should be. -/
theorem navigate_isDue {target : Target} (h : target.IsStandard) (signedIn : Bool) :
  (standard.navigate signedIn target).IsStandard
    ∧ IsDue signedIn (standard.navigate signedIn target)
  := by
  by_cases hdue : IsDue signedIn target
  · rw [navigate, follow_of_isDue h hdue]
    exact ⟨h, hdue⟩
  · obtain ⟨next, hredirect, hnext, hnextDue⟩ := decide_of_not_isDue h hdue
    rw [navigate, maxRedirects, follow, hredirect]
    simp only
    rw [follow_of_isDue hnext hnextDue]
    exact ⟨hnext, hnextDue⟩

/-- A path that can be read leads to a target of the table. -/
theorem resolve_isStandard {fullPath : String} {target : Target}
    (h : standard.resolve? fullPath = some target) :
  target.IsStandard
  := by
  rw [resolve?] at h
  split at h
  · cases h
  · obtain ⟨route, hfind, rfl⟩ := Option.map_eq_some_iff.mp h
    have hmem : route ∈ [portalRoute, signRoute] := List.mem_of_find?_eq_some hfind
    obtain rfl | rfl : route = portalRoute ∨ route = signRoute := by simpa using hmem
    · exact .portal rfl rfl
    · exact .sign rfl rfl

/-- Where the client goes after signing in is in the table. -/
theorem afterSignIn_isStandard (signIn : Target) :
  (standard.afterSignIn signIn).IsStandard
  := by
  rw [afterSignIn]
  cases hresolved : (signIn.value? returnKey).bind standard.resolve? with
  | none => exact home_isStandard
  | some target =>
    obtain ⟨path, -, hpath⟩ := Option.bind_eq_some_iff.mp hresolved
    apply resolve_isStandard hpath

end RouteTable

end ChatPortal
