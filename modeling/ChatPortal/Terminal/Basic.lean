import ChatPortal.Place
import ChatPortal.Reauth.Prompt
import ChatPortal.Text.Blank

/-!
# The terminal

A terminal shows two streams and gives lines.  `Line.ofBytes` is the line that some bytes
are, and `Line.ending` how the prompt to sign in again ends on it.
-/

namespace ChatPortal.Terminal

/-- The two streams that a terminal shows. -/
inductive Stream where
  | out
  | err
deriving DecidableEq, Repr

/-- What a terminal gives when it is asked for a line: a text without blanks around it,
bytes that are no text, or nothing because the input has ended. -/
inductive Line where
  | text (words : String)
  | garbled
  | ended
deriving DecidableEq, Repr

namespace Line

/-- The line that some bytes are. -/
def ofBytes (bytes : Bytes) : Line :=
  match Utf8.decode? bytes with
  | some characters => .text (String.ofList (Text.trim characters))
  | none => .garbled

/-- The answers that mean yes. -/
def yes : List String := ["y", "yes"]

/-- The words mean yes, in capitals or not. -/
def isYes (words : String) : Bool :=
  yes.contains (String.ofList (words.toList.map Char.toLower))

/-- How the prompt to sign in again ends on a line. -/
def ending : Line → Reauth.Ending
  | .text words => .decided (if isYes words then .confirmed else .cancelled)
  | .garbled => .failed (.broken Place.notText.message)
  | .ended => .failed (.unavailable "stdin closed")

end Line

/-! ### What is shown -/

/-- A heading with an empty line above it. -/
def heading (title : String) : String := "\n== " ++ title ++ " ==\n"

/-- A complaint. -/
def complaint (message : String) : String := "✗ " ++ message ++ "\n"

/-- What the prompt to sign in again shows. -/
def prompt (text : Reauth.PromptText) : List (Stream × String) :=
  [ (.err, heading text.title ++ text.body ++ "\n"),
    (.out, "[y] " ++ text.confirm ++ "  [n] " ++ text.cancel ++ " > ") ]

end ChatPortal.Terminal
