import ChatPortal.Route.Table

/-!
# The guard of the routes

Before the client goes to a target, `RouteTable.decide` says whether it may: a user who is
not signed in is sent to sign in first, and one who is signed in does not sign in again.
`RouteTable.navigate` follows these decisions, and `RouteTable.afterSignIn` returns to the
place for which somebody signed in.
-/

namespace ChatPortal

/-- Whether the client may go to a target, or the target to go to instead. -/
inductive Verdict where
  | allow
  | redirect (target : Target)
deriving DecidableEq, Repr

namespace RouteTable

/-- The key under which the way to sign in keeps where to return. -/
def returnKey : String := "redirect"

/-- The way to sign in on the way to a target. -/
def signInFor (table : RouteTable) (target : Target) : Target :=
  table.signIn.target.withPair returnKey target.fullPath

/-- Whether the client may go to a target. -/
def decide (table : RouteTable) (signedIn : Bool) (target : Target) : Verdict :=
  if signedIn && target.name == table.signIn.name then .redirect table.home.target
  else if signedIn || !target.needsSession then .allow
  else .redirect (table.signInFor target)

/-- The number of redirects that are followed. -/
def maxRedirects : Nat := 4

/-- Follows at most `count` redirects. -/
def follow (table : RouteTable) (signedIn : Bool) : (count : Nat) → Target → Target
  | 0, target => target
  | count + 1, target =>
    match table.decide signedIn target with
    | .allow => target
    | .redirect next => follow table signedIn count next

/-- Where the client ends up on the way to a target. -/
def navigate (table : RouteTable) (signedIn : Bool) (target : Target) : Target :=
  table.follow signedIn maxRedirects target

/-- Where to go after signing in: the place that the way to sign in kept, if it is in the
table, else home. -/
def afterSignIn (table : RouteTable) (signIn : Target) : Target :=
  ((signIn.value? returnKey).bind table.resolve?).getD table.home.target

end RouteTable

end ChatPortal
