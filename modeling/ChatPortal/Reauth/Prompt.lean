import ChatPortal.Locale

/-!
# The prompt to sign in again

When the server does not honour the credential any more, a prompt asks the user whether
to sign in again.  A prompt ends in a decision, or it fails to ask or breaks down.
-/

namespace ChatPortal.Reauth

/-- What a prompt shows. -/
structure PromptText where
  title : String
  body : String
  confirm : String
  cancel : String
deriving DecidableEq, Repr

/-- What a prompt shows in a locale. -/
def PromptText.inLocale (locale : String) : PromptText :=
  { title := Phrase.expiredTitle.text locale
    body := Phrase.expiredBody.text locale
    confirm := Phrase.signInAgain.text locale
    cancel := Phrase.cancel.text locale }

/-- To sign in again, or to leave everything as it is. -/
inductive Decision where
  | confirmed
  | cancelled
deriving DecidableEq, Repr

/-- The reason for which a prompt cannot ask. -/
inductive PromptError where
  | unavailable (reason : String)
  | broken (reason : String)
deriving DecidableEq, Repr

/-- The wording of the reason. -/
def PromptError.message : PromptError → String
  | .unavailable reason => "prompt unavailable: " ++ reason
  | .broken reason => "UI error: " ++ reason

/-- How a prompt ends. -/
inductive Ending where
  | decided (decision : Decision)
  | failed (error : PromptError)
  | panicked
deriving DecidableEq, Repr

namespace Ending

/-- The decision that follows; a prompt that cannot ask counts as cancelled, and one that
breaks down brings none. -/
def decision? : Ending → Option Decision
  | .decided decision => some decision
  | .failed _ => some .cancelled
  | .panicked => none

/-- The user wants to sign in again. -/
def isConfirmed (ending : Ending) : Bool :=
  ending = .decided .confirmed

end Ending

end ChatPortal.Reauth
