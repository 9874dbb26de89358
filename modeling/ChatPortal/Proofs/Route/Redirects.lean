import ChatPortal.Route.Guard
import ChatPortal.Session.Basic
import Mathlib.Tactic.ByContra

/-!
# One redirect is enough

A table `RouteTable.Enforces` the guard when the guard allows whatever it redirects to: home is
not the route to sign in, and nobody needs to be signed in to sign in.  Then one redirect leads
to where the client may go (`RouteTable.follow_of_redirect`).  Otherwise one redirect leads to
the next, and the client ends up where it may not go
(`RouteTable.decide_follow_of_not_enforces`).
-/

namespace ChatPortal.RouteTable

variable {table : RouteTable} {signedIn : Bool} {target next : Target}

/-- The guard allows whatever it redirects to. -/
def Enforces (table : RouteTable) (signedIn : Bool) : Prop :=
  if signedIn = true then table.home.name ≠ table.signIn.name
  else table.signIn.needsSession = false

/-! ### Single decisions -/

theorem decide_signedIn (table : RouteTable) (target : Target) :
  table.decide true target
    = if target.name = table.signIn.name then .redirect table.home.target else .allow
  := by
  simp [decide]

/-- A user who is not signed in is sent to sign in from where a session is needed. -/
theorem decide_signedOut (table : RouteTable) (target : Target) :
  table.decide false target
    = if target.needsSession = true then .redirect (table.signInFor target) else .allow
  := by
  cases hneeds : target.needsSession with
  | false => simp [decide, hneeds]
  | true => simp [decide, hneeds]

/-- The guard keeps those who are signed in from signing in again, and the others from where a
session is needed. -/
theorem decide_eq_allow :
  table.decide signedIn target = .allow
    ↔ if signedIn = true then target.name ≠ table.signIn.name else target.needsSession = false
  := by
  cases signedIn with
  | true => simp [decide_signedIn]
  | false => simp [decide_signedOut]

theorem exists_redirect (table : RouteTable) (signedIn : Bool) :
  ∃ target next, table.decide signedIn target = .redirect next
  := by
  cases signedIn with
  | true => exact ⟨table.signIn.target, _, (table.decide_signedIn _).trans (if_pos rfl)⟩
  | false => exact ⟨⟨"", "", [], true⟩, _, (table.decide_signedOut _).trans (if_pos rfl)⟩

/-- Whether the guard allows what it redirects to is up to the table alone. -/
theorem decide_of_redirect (h : table.decide signedIn target = .redirect next) :
  table.decide signedIn next = .allow ↔ table.Enforces signedIn
  := by
  rw [decide_eq_allow]
  cases signedIn with
  | true =>
    rw [decide_signedIn] at h
    split at h
    · cases h
      exact Iff.rfl
    · cases h
  | false =>
    rw [decide_signedOut] at h
    split at h
    · cases h
      exact Iff.rfl
    · cases h

/-! ### Several redirects -/

theorem follow_of_allow (h : table.decide signedIn target = .allow) (count : Nat) :
  table.follow signedIn count target = target
  := by
  cases count with
  | zero => rfl
  | succ count => rw [follow, h]

theorem follow_of_redirect (henforces : table.Enforces signedIn)
    (h : table.decide signedIn target = .redirect next) (count : Nat) :
  table.follow signedIn (count + 1) target = next
  := by
  rw [follow, h]
  exact follow_of_allow ((decide_of_redirect h).mpr henforces) count

/-- The client goes where it may go. -/
theorem decide_follow (henforces : table.Enforces signedIn) (target : Target) (count : Nat) :
  table.decide signedIn (table.follow signedIn (count + 1) target) = .allow
  := by
  cases h : table.decide signedIn target with
  | allow =>
    rw [follow_of_allow h]
    exact h
  | redirect next =>
    rw [follow_of_redirect henforces h]
    exact (decide_of_redirect h).mpr henforces

/-- A client that is redirected once is redirected again and again. -/
theorem decide_follow_of_not_enforces (henforces : ¬ table.Enforces signedIn)
    (h : table.decide signedIn target = .redirect next) (count : Nat) :
  table.decide signedIn (table.follow signedIn count target) ≠ .allow
  := by
  induction count generalizing target next with
  | zero =>
    rw [follow, h]
    nofun
  | succ count ih =>
    rw [follow, h]
    cases hnext : table.decide signedIn next with
    | allow => exact absurd ((decide_of_redirect h).mp hnext) henforces
    | redirect last => exact ih hnext

/-- Whatever the routes of a table are, and whether somebody is signed in or not: every way ends
where the guard lets the client go exactly when home is not the route to sign in, for somebody
who is signed in, and when nobody needs to be signed in to sign in, for anybody else.  Then the
client goes where it wants to go if the guard allows that, and otherwise to where it is
redirected first, however many redirects it would follow; from there it goes nowhere else.  A
user who is signed in never gets to the route to sign in, and any other user never to where a
session is needed: the way to sign in keeps the full path of the target instead. -/
theorem navigate_enforces (table : RouteTable) (session : Session) :
  let signedIn := session.isSignedIn
  ((∀ target, table.decide signedIn (table.navigate signedIn target) = .allow)
      ↔ if session.credential ≠ "" then table.home.name ≠ table.signIn.name
        else table.signIn.needsSession = false)
    ∧ ((∀ target, table.decide signedIn (table.navigate signedIn target) = .allow) →
      ∀ target : Target,
        (table.decide signedIn target = .allow → table.navigate signedIn target = target)
        ∧ (∀ next, table.decide signedIn target = .redirect next →
          table.navigate signedIn target = next)
        ∧ (∀ count, table.follow signedIn (count + 1) target = table.navigate signedIn target)
        ∧ table.navigate signedIn (table.navigate signedIn target)
          = table.navigate signedIn target
        ∧ (session.credential ≠ "" →
          (table.navigate signedIn target).name ≠ table.signIn.name)
        ∧ (session.credential = "" → (table.navigate signedIn target).needsSession = false
          ∧ (target.needsSession = true → table.navigate signedIn target
            = ⟨table.signIn.name, table.signIn.path, [("redirect", target.fullPath)],
              table.signIn.needsSession⟩)))
  := by
  intro signedIn
  have hsignedIn : signedIn = true ↔ session.credential ≠ "" := bne_iff_ne
  have hends : (∀ target, table.decide signedIn (table.navigate signedIn target) = .allow)
      ↔ table.Enforces signedIn := by
    constructor
    · intro hallowed
      by_contra henforces
      obtain ⟨target, next, hredirect⟩ := table.exists_redirect signedIn
      exact decide_follow_of_not_enforces henforces hredirect _ (hallowed target)
    · exact fun henforces target => decide_follow henforces target _
  refine ⟨by simpa only [Enforces, hsignedIn] using hends, fun hallowed target => ?_⟩
  have henforces : table.Enforces signedIn := hends.mp hallowed
  have hlands := decide_eq_allow.mp (hallowed target)
  refine ⟨fun hallow => follow_of_allow hallow _,
    fun next hredirect => follow_of_redirect henforces hredirect _, ?count,
    follow_of_allow (hallowed target) _, ?signedIn, ?signedOut⟩
  case count =>
    intro count
    cases hdecision : table.decide signedIn target with
    | allow => rw [navigate, follow_of_allow hdecision, follow_of_allow hdecision]
    | redirect next =>
      rw [navigate, maxRedirects, follow_of_redirect henforces hdecision,
        follow_of_redirect henforces hdecision]
  case signedIn =>
    intro hcredential
    rwa [if_pos (hsignedIn.mpr hcredential)] at hlands
  case signedOut =>
    intro hcredential
    have hout : signedIn = false := by
      rw [← Bool.not_eq_true, hsignedIn, not_not]
      exact hcredential
    rw [hout] at henforces hlands ⊢
    refine ⟨hlands, fun hneeds => ?_⟩
    have hredirect := (table.decide_signedOut target).trans (if_pos hneeds)
    exact follow_of_redirect henforces hredirect _

/-- In a table in which the route to sign in needs a session itself the client is left there
after four redirects, each of which keeps the one before it. -/
example :
  let route : Route := ⟨"Sign", "/s", true⟩
  let table : RouteTable := ⟨[route], route, route⟩
  (table.navigate false route.target).query
      = [("redirect", "/s?redirect=%2Fs%3Fredirect%3D%252Fs%253Fredirect%253D%25252Fs")]
    ∧ table.decide false (table.navigate false route.target) ≠ .allow
  := by decide +kernel

end ChatPortal.RouteTable
