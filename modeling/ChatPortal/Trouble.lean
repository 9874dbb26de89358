/-!
# Errors with their causes

A `Trouble` is what went wrong, in the words of the outermost part of the program that
noticed, and the causes below it.  `Trouble.report` is how a program that fails tells it.
-/

namespace ChatPortal

/-- What went wrong, and why. -/
structure Trouble where
  message : String
  causes : List String := []
deriving DecidableEq, Repr, Inhabited

namespace Trouble

/-- The same trouble as seen from further out. -/
def within (message : String) (trouble : Trouble) : Trouble :=
  ⟨message, trouble.message :: trouble.causes⟩

/-- The message and the causes on one line. -/
def inline (trouble : Trouble) : String :=
  ": ".intercalate (trouble.message :: trouble.causes)

/-- A number with blanks in front up to a width of five. -/
def aligned (n : Nat) : String :=
  let digits := toString n
  String.ofList (List.replicate (5 - digits.length) ' ') ++ digits

/-- A text whose lines after the first stand as far right as the first. -/
def indented (width : Nat) (text : String) : String :=
  String.ofList (text.toList.flatMap fun c =>
    if c = '\n' then '\n' :: List.replicate width ' ' else [c])

/-- The causes, each on a line of its own, numbered from `index` on. -/
def numbered : (index : Nat) → List String → String
  | _, [] => ""
  | index, cause :: causes =>
    "\n" ++ aligned index ++ ": " ++ indented 7 cause ++ numbered (index + 1) causes

/-- The part of the report that tells the causes; a single one has no number. -/
def causesText : List String → String
  | [] => ""
  | [cause] => "\n\nCaused by:\n    " ++ indented 4 cause
  | causes => "\n\nCaused by:" ++ numbered 0 causes

/-- The report of a program that fails. -/
def report (trouble : Trouble) : String :=
  "Error: " ++ trouble.message ++ causesText trouble.causes ++ "\n"

end Trouble

end ChatPortal
