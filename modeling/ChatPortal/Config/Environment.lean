import ChatPortal.Text.Alphanumeric
import ChatPortal.Text.Blank
import ChatPortal.Text.Lines

/-!
# The environment of the program

An `Environment` gives values to names.  A file of assignments adds to it what it does not
have yet (`Environment.withFile`): each entry of the file assigns a value, which may be
quoted and may refer to the values of other names.  An entry goes on over the end of its
line while a quote is open (`entries`), and is read by `assignment`.  The first entry that
cannot be read ends the file.
-/

namespace ChatPortal.Config

/-- Names with their values. -/
abbrev Environment := List (String × String)

namespace Environment

/-- The value of a name. -/
def get? (environment : Environment) (name : String) : Option String :=
  environment.lookup name

/-- The environment with a value for a name that has none yet. -/
def offer (name value : String) (environment : Environment) : Environment :=
  if (environment.get? name).isSome then environment else environment ++ [(name, value)]

/-- The value of a name, where nothing else is there for a name without one. -/
def valueOf (environment : Environment) (name : List Char) : List Char :=
  ((environment.get? (String.ofList name)).getD "").toList

/-! ### Values -/

/-- The character that stands for one behind a backslash. -/
def unescape? (c : Char) : Option Char :=
  if c = 'n' then some '\n'
  else if c = '\\' ∨ c = '\'' ∨ c = '"' ∨ c = '$' ∨ c = ' ' then some c
  else none

/-- What is behind a value: blanks, or a remark. -/
def isTail : List Char → Bool
  | [] => true
  | c :: text => c = '#' || ((c = ' ' || c = '\t') && isTail text)

mutual

/-- The value of a text, outside of quotes or between double ones. -/
def value? (environment : Environment) (quoted : Bool) : List Char → Option (List Char)
  | [] => if quoted then none else some []
  | ['\\'] => if quoted then none else some []
  | '\\' :: c :: text => do return (← unescape? c) :: (← value? environment quoted text)
  | '$' :: text => reference? environment quoted [] text
  | '"' :: text => value? environment (!quoted) text
  | c :: text =>
    if quoted then
      (value? environment true text).map (c :: ·)
    else if c = '\'' then
      literal? environment text
    else if c = ' ' ∨ c = '\t' then
      if isTail text then some [] else none
    else
      (value? environment false text).map (c :: ·)

/-- The value of a text between single quotes. -/
def literal? (environment : Environment) : List Char → Option (List Char)
  | [] => none
  | c :: text =>
    if c = '\'' then value? environment false text
    else (literal? environment text).map (c :: ·)

/-- The value of a text behind a dollar sign and some letters and numbers of a name.  The
name ends before the first other character. -/
def reference? (environment : Environment) (quoted : Bool) (name : List Char) :
    List Char → Option (List Char)
  | [] => if quoted then none else some (environment.valueOf name)
  | c :: text =>
    if Text.isAlphanumeric c then
      reference? environment quoted (name ++ [c]) text
    else if c = '{' ∧ name = [] then
      enclosed? environment quoted [] text
    else if c = '$' then
      (reference? environment quoted [] text).map (environment.valueOf name ++ ·)
    else
      (value? environment quoted text).map (environment.valueOf name ++ c :: ·)

/-- The value of a text behind a dollar sign, a brace and a part of a name, which goes on up
to the brace that closes it. -/
def enclosed? (environment : Environment) (quoted : Bool) (name : List Char) :
    List Char → Option (List Char)
  | [] => none
  | c :: text =>
    if c = '}' then
      (value? environment quoted text).map (environment.valueOf name ++ ·)
    else
      enclosed? environment quoted (name ++ [c]) text

end

/-! ### Assignments -/

/-- The name in front of a text, and the text behind it. -/
def name? : List Char → Option (String × List Char)
  | [] => none
  | c :: text =>
    if c.isAlpha ∨ c = '_' then
      let isPart (c : Char) : Bool := c.isAlphanum || c = '_' || c = '.'
      some (String.ofList (c :: text.takeWhile isPart), text.dropWhile isPart)
    else
      none

/-- The text behind the equals sign in front. -/
def afterEquals? (text : List Char) : Option (List Char) :=
  match Text.trimFront text with
  | '=' :: text => some (Text.trimFront text)
  | _ => none

/-- The name that is assigned to, and the text of its value.  The word `export` may stand
before the name. -/
def target? (text : List Char) : Option (String × List Char) := do
  let (name, rest) ← name? text
  match afterEquals? rest with
  | some value => return (name, value)
  | none =>
    if name = "export" then
      let (name, rest) ← name? (Text.trimFront rest)
      return (name, ← afterEquals? rest)
    else
      none

/-- The text says nothing: it is empty or a remark. -/
def isSilent : List Char → Bool
  | [] => true
  | c :: _ => c = '#'

/-- The environment after one more entry, unless it cannot be read. -/
def assign? (entry : List Char) (environment : Environment) : Option Environment :=
  let entry := Text.trim entry
  if isSilent entry then
    some environment
  else do
    let (name, text) ← target? entry
    let value ← if isSilent text then some [] else value? environment false text
    return environment.offer name (String.ofList value)

/-! ### Entries -/

/-- What a place in an entry is inside of, and whether a blank or a backslash is in front
of it. -/
inductive Inside where
  | nothing
  | blank
  | escape
  | double (escaped : Bool)
  | single (escaped : Bool)
deriving DecidableEq, Repr

/-- What a character leads to, outside of quotes. -/
def Inside.enter (c : Char) : Inside :=
  if c = '\\' then .escape
  else if c = '"' then .double false
  else if c = '\'' then .single false
  else .nothing

/-- What the place behind a character is inside of. -/
def Inside.next (c : Char) : Inside → Inside
  | .nothing =>
    if Text.isBlank c ∧ c ≠ '\n' ∧ c ≠ '\r' then .blank else .enter c
  | .blank => .enter c
  | .escape => .nothing
  | .double false =>
    if c = '\\' then .double true else if c = '"' then .nothing else .double false
  | .double true => .double false
  | .single false =>
    if c = '\\' then .single true else if c = '\'' then .nothing else .single false
  | .single true => .single false

/-- The part of a line before a remark, and what its end is inside of. -/
def lineEnd : Inside → List Char → List Char × Inside
  | inside, [] => ([], inside)
  | inside, c :: line =>
    if inside = .blank ∧ c = '#' then
      ([], .nothing)
    else
      let (line, inside) := lineEnd (inside.next c) line
      (c :: line, inside)

/-- The entries on some lines, up to the first line that is not a text.  The first of them
goes on with what began on the lines before, the end of which is inside of something. -/
def entries : List Char → Inside → List (Option (List Char)) → List (List Char)
  | _, _, [] => []
  | _, _, none :: _ => []
  | begun, inside, some line :: lines =>
    if begun = [] ∧ (Text.trimFront line).head? = some '#' then
      entries [] .nothing lines
    else
      let (line, inside) := lineEnd inside line
      if inside = .nothing then
        (begun ++ line) :: entries [] .nothing lines
      else
        entries (begun ++ line) inside lines

/-- The environment after some entries, up to the first that cannot be read. -/
def withEntries : List (List Char) → Environment → Environment
  | [], environment => environment
  | entry :: rest, environment =>
    match assign? entry environment with
    | none => environment
    | some environment => withEntries rest environment

/-- The bytes without the mark of UTF-8 in front of them. -/
def unmarked : Bytes → Bytes
  | 0xEF :: 0xBB :: 0xBF :: rest => rest
  | bytes => bytes

/-- The environment after the entries of a file. -/
def withFile (file : Bytes) (environment : Environment) : Environment :=
  withEntries (entries [] .nothing ((Text.lines (unmarked file)).map Utf8.decode?)) environment

end Environment

end ChatPortal.Config
