import Mathlib.Logic.Function.Iterate
import ChatPortal.Proofs.Route.FullPath
import ChatPortal.Proofs.Route.Navigation
import ChatPortal.Session.Basic

/-!
# There and back

The full path of a route of the client's own table leads back to that route, with all pairs of
the query (`RouteTable.resolve?_standard`).  So somebody who is sent to sign in on the way to the
portal gets there afterwards (`RouteTable.signIn_and_return`), and whatever else the way to sign
in keeps as the place to return to, it leads to a route of the table.
-/

namespace ChatPortal

namespace RouteTable

open Url

/-- The full path of a route leads back to it, with any query. -/
theorem resolve?_standard {route : Route} (h : route ∈ standard.routes)
    (query : List (String × String)) :
  standard.resolve? (Target.fullPath { route.target with query })
    = some { route.target with query }
  := by
  obtain ⟨target, htarget⟩ : ∃ target : Target, { route.target with query } = target := ⟨_, rfl⟩
  obtain rfl | rfl : route = portalRoute ∨ route = signRoute := by simpa [standard] using h
  · have hnormal : Path.normal target.path.toList = ['/'] := by
      rw [← htarget]
      show Path.normal portalRoute.path.toList = ['/']
      decide
    rw [htarget, standard.resolve?_fullPath (by rw [hnormal]; decide), hnormal, ← htarget]
    rfl
  · have hnormal : Path.normal target.path.toList = "/sign".toList := by
      rw [← htarget]
      show Path.normal signRoute.path.toList = "/sign".toList
      decide
    rw [htarget, standard.resolve?_fullPath (by rw [hnormal]; decide), hnormal, ← htarget]
    rfl

/-- Writing and reading a target again and again leads nowhere else. -/
theorem iterate_resolve? {table : RouteTable} {target : Target}
    (h : table.resolve? target.fullPath = some target) (count : Nat) :
  (fun target? : Option Target => target?.bind (table.resolve? ·.fullPath))^[count] (some target)
    = some target
  := by
  induction count with
  | zero => rfl
  | succ count ih => rw [Function.iterate_succ_apply, Option.bind_some, h, ih]

/-- A place that can be read leads to a route of the table. -/
theorem resolve?_eq_some {table : RouteTable} {fullPath : String} {target : Target}
    (h : table.resolve? fullPath = some target) :
  ∃ route ∈ table.routes, target = { route.target with query := target.query }
  := by
  rw [resolve?] at h
  split at h
  · cases h
  · obtain ⟨route, hfind, rfl⟩ := Option.map_eq_some_iff.mp h
    exact ⟨route, List.mem_of_find?_eq_some hfind, rfl⟩

/-- After signing in the client goes where the place to return to leads, or home. -/
theorem afterSignIn_cases (table : RouteTable) (signIn : Target) :
  (∃ value ∈ signIn.value? returnKey, table.resolve? value = some (table.afterSignIn signIn))
    ∨ (∀ value ∈ signIn.value? returnKey, table.resolve? value = none)
      ∧ table.afterSignIn signIn = table.home.target
  := by
  rw [afterSignIn]
  cases hkept : signIn.value? returnKey with
  | none => exact .inr ⟨by simp, rfl⟩
  | some value =>
    cases hresolved : table.resolve? value with
    | none =>
      refine .inr ⟨?_, by simp [hresolved]⟩
      rintro found ⟨⟩
      exact hresolved
    | some target => exact .inl ⟨value, rfl, by simp [hresolved]⟩

/-- Whoever wants to see the portal, with any query, and is not signed in is sent to sign in,
with the full path of the portal as the only pair of the query.  Writing and reading that
target again and again leads nowhere else.  Once somebody is signed in the client goes to the
very target that was wanted, with all pairs of the query in their order, and may stay there.
Whatever the way to sign in keeps as the place to return to, the client goes to a route of
the table afterwards, and to home where that place cannot be read. -/
theorem signIn_and_return
    (query : List (String × String)) {account : Account}
    (hout : account.session.credential = "") (now : Calendar.Instant) {token : String}
    (htoken : token ≠ "") :
  let wanted : Target := ⟨"Portal", "/", query, true⟩
  let landed : Target := standard.navigate account.session.isSignedIn wanted
  let later : Account := account.setCredential now token
  landed = ⟨"Sign", "/sign", [("redirect", wanted.fullPath)], false⟩
    ∧ (∀ count, (fun target? : Option Target =>
          target?.bind (standard.resolve? ·.fullPath))^[count] (some landed) = some landed)
    ∧ standard.afterSignIn landed = wanted
    ∧ standard.navigate later.session.isSignedIn wanted = wanted
    ∧ ∀ signIn : Target,
      (∃ route ∈ standard.routes, (standard.afterSignIn signIn).name = route.name
          ∧ (standard.afterSignIn signIn).path = route.path
          ∧ (standard.afterSignIn signIn).needsSession = route.needsSession)
        ∧ ((∀ value ∈ signIn.value? "redirect", standard.resolve? value = none) →
          standard.afterSignIn signIn = standard.home.target)
  := by
  intro wanted landed later
  have hsignedOut : account.session.isSignedIn = false := by simp [Session.isSignedIn, hout]
  have hsignedIn : later.session.isSignedIn = true := bne_iff_ne.mpr htoken
  have hportal : portalRoute ∈ standard.routes := by simp [standard]
  have hsign : signRoute ∈ standard.routes := by simp [standard]
  have hwanted : wanted.IsStandard := .portal rfl rfl
  have hlanded : landed = ⟨"Sign", "/sign", [("redirect", wanted.fullPath)], false⟩ := by
    simp only [landed, hsignedOut]
    rfl
  refine ⟨hlanded, ?again, ?back, ?stays, fun signIn => ⟨?within, ?home⟩⟩
  case again =>
    rw [hlanded]
    exact iterate_resolve? (resolve?_standard hsign _)
  case back =>
    have hkept : landed.value? returnKey = some wanted.fullPath := by
      rw [hlanded]
      rfl
    have hresolved : standard.resolve? wanted.fullPath = some wanted :=
      resolve?_standard hportal query
    rw [afterSignIn, hkept, Option.bind_some, hresolved, Option.getD_some]
  case stays =>
    rw [navigate, hsignedIn]
    apply follow_of_isDue hwanted
    exact iff_of_false portalName_ne_signName (by decide)
  case within =>
    rcases afterSignIn_cases standard signIn with ⟨value, -, hresolved⟩ | ⟨-, hhome⟩
    · obtain ⟨route, hroute, heq⟩ := resolve?_eq_some hresolved
      rw [heq]
      exact ⟨route, hroute, rfl, rfl, rfl⟩
    · rw [hhome]
      exact ⟨portalRoute, hportal, rfl, rfl, rfl⟩
  case home =>
    intro hnone
    rcases afterSignIn_cases standard signIn with ⟨value, hvalue, hresolved⟩ | ⟨-, hhome⟩
    · rw [hnone value hvalue] at hresolved
      cases hresolved
    · exact hhome

/-- Signs that set pairs apart, keys and values that are empty, and pairs that come twice
survive the way through the sign-in. -/
theorem return_to_odd_query :
  let account : Account := ⟨{}, none⟩
  let wanted : Target :=
    ⟨"Portal", "/", [("a&b", "=+%#? é€😀"), ("", ""), ("", ""), ("redirect", "/sign")], true⟩
  account.session.credential = "" ∧ "token" ≠ ""
    ∧ standard.afterSignIn (standard.navigate account.session.isSignedIn wanted) = wanted
  := by
  intro account wanted
  have hout : account.session.credential = "" := rfl
  have htoken : "token" ≠ "" := by decide
  obtain ⟨-, -, hback, -⟩ := signIn_and_return wanted.query hout ⟨0, 0, 0⟩ htoken
  exact ⟨hout, htoken, hback⟩

end RouteTable

end ChatPortal
