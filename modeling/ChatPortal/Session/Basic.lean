import ChatPortal.Locale
import ChatPortal.Session.Store

/-!
# Sessions

A `Session` holds a credential, which is empty while nobody is signed in, and a locale.
An `Account` is a session together with the store that it writes its credential to.
Whether the store takes a credential or not, the session has it.
-/

namespace ChatPortal

/-- A credential and a locale. -/
structure Session where
  credential : String := ""
  locale : String := defaultLocale
deriving DecidableEq, Repr, Inhabited

/-- Somebody is signed in. -/
def Session.isSignedIn (session : Session) : Bool :=
  session.credential != ""

/-- The credential with which a session on a store begins; a store that cannot be read is
as good as an empty one. -/
def Store.initial (store : Store) : String :=
  match store.load with
  | .ok (some token) => token
  | _ => ""

/-- A session and its store, if it has one. -/
structure Account where
  session : Session
  store : Option Store := none
deriving Repr

namespace Account

/-- Begins a session on a store. -/
def onStore (store : Store) (locale : String) : Account :=
  ⟨⟨store.initial, locale⟩, some store⟩

/-- Sets the credential. -/
def setCredential (now : Calendar.Instant) (token : String) (account : Account) : Account :=
  { session := { account.session with credential := token }
    store := account.store.map (·.attempt now token) }

/-- Sets the locale. -/
def setLocale (locale : String) (account : Account) : Account :=
  { account with session := { account.session with locale } }

end Account

end ChatPortal
