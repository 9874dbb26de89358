import ChatPortal.Session.Basic

/-!
# Handles

Several parts of a program hold the same session, each by a handle of its own, and there
may be several sessions on one store.  `Handles` keeps them all: what is done through one
handle is seen through every handle of the same session.
-/

namespace ChatPortal

/-- The handles that are given out, by the number of the session that each one holds. -/
structure Handles where
  store : Option Store
  sessions : List Session
  owners : List Nat
deriving Repr

namespace Handles

/-- The only handle of a first session. -/
def ofAccount (account : Account) : Handles :=
  ⟨account.store, [account.session], [0]⟩

/-- The session that a handle holds. -/
def session? (handles : Handles) (handle : Nat) : Option Session :=
  handles.owners[handle]?.bind (handles.sessions[·]?)

/-- What a handle gives access to. -/
def account? (handles : Handles) (handle : Nat) : Option Account :=
  (handles.session? handle).map (⟨·, handles.store⟩)

/-- Changes the session that a handle holds, and the store. -/
def modify (f : Account → Account) (handle : Nat) (handles : Handles) : Handles :=
  match handles.owners[handle]?, handles.account? handle with
  | some owner, some account =>
    { handles with
      store := (f account).store
      sessions := handles.sessions.set owner (f account).session }
  | _, _ => handles

/-- Sets the credential through a handle. -/
def setCredential (now : Calendar.Instant) (token : String) (handle : Nat)
    (handles : Handles) : Handles :=
  handles.modify (·.setCredential now token) handle

/-- Sets the locale through a handle. -/
def setLocale (locale : String) (handle : Nat) (handles : Handles) : Handles :=
  handles.modify (·.setLocale locale) handle

/-- Gives out one more handle of the session that a handle holds. -/
def clone (handle : Nat) (handles : Handles) : Handles :=
  match handles.owners[handle]? with
  | some owner => { handles with owners := handles.owners ++ [owner] }
  | none => handles

/-- Begins another session on the store and gives out its first handle. -/
def reopen (locale : String) (handles : Handles) : Handles :=
  { handles with
    sessions := handles.sessions ++ [⟨((handles.store.map Store.initial).getD ""), locale⟩]
    owners := handles.owners ++ [handles.sessions.length] }

end Handles

end ChatPortal
