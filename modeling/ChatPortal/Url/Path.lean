import ChatPortal.Url.Form

/-!
# Paths

A path is a list of segments.  `Path.resolve` takes the segments of a text in order and
goes one level up for each `..`, though never out of a drive; `Path.normal` is the text of
the path that results, which begins with a slash.
-/

namespace ChatPortal.Url

/-- How a scheme treats its URLs. -/
inductive Kind where
  | web
  | file
  | other
deriving DecidableEq, Repr

namespace Kind

/-- A backslash is as good as a slash, and there is always a path. -/
def isSpecial : Kind → Bool
  | .other => false
  | _ => true

/-- A character separates the segments of a path. -/
def isSlash (kind : Kind) (c : Char) : Bool :=
  c == '/' || (kind.isSpecial && c == '\\')

end Kind

namespace Path

/-- The segment stands for the place itself. -/
def isHere (segment : List Char) : Bool :=
  ["." , "%2e"].contains (String.ofList (segment.map Char.toLower))

/-- The segment stands for one level up. -/
def isUp (segment : List Char) : Bool :=
  ["..", ".%2e", "%2e.", "%2e%2e"].contains (String.ofList (segment.map Char.toLower))

/-- The segment is a letter and `:` or `|`, which names a drive. -/
def isDrive : List Char → Bool
  | [c, d] => c.isAlpha && (d == ':' || d == '|')
  | _ => false

/-- The segments one level up, the last segment first; a drive is not left. -/
def up : List (List Char) → List (List Char)
  | [] => []
  | segment :: visited => if isDrive segment then segment :: visited else visited

/-- The segments with one more; a drive at the front of the path of a file has a `:`. -/
def down (kind : Kind) (segment : List Char) (visited : List (List Char)) :
    List (List Char) :=
  if kind = .file ∧ visited = [] ∧ isDrive segment then [segment.take 1 ++ [':']]
  else segment :: visited

/-- Follows segments from the visited ones, the last of which comes first. -/
def follow (kind : Kind) : (visited segments : List (List Char)) → List (List Char)
  | visited, [] => visited.reverse
  | visited, [last] =>
    if isUp last then ([] :: up visited).reverse
    else if isHere last then ([] :: visited).reverse
    else (down kind last visited).reverse
  | visited, segment :: more =>
    if isUp segment then follow kind (up visited) more
    else if isHere segment then follow kind visited more
    else follow kind (down kind segment visited) more

/-- The segments of a path from those of a text. -/
def resolve (kind : Kind) (segments : List (List Char)) : List (List Char) :=
  follow kind [] (segments.map (escapeWhere inPath))

/-- The text without the slash at its front. -/
def dropSlash (kind : Kind) : List Char → List Char
  | [] => []
  | c :: text => if kind.isSlash c then text else c :: text

/-- The segments of the path that a text stands for. -/
def ofText (kind : Kind) (text : List Char) : List (List Char) :=
  resolve kind (pieces kind.isSlash (dropSlash kind text))

/-- The segments without the empty ones at their front. -/
def dropEmpty : List (List Char) → List (List Char)
  | [] :: segment :: more => dropEmpty (segment :: more)
  | segments => segments

/-- The path leads to a drive. -/
def onDrive (segments : List (List Char)) : Bool :=
  segments.head?.any isDrive

/-- The text of a path. -/
def text (segments : List (List Char)) : List Char :=
  segments.flatMap ('/' :: ·)

/-- Tabs and line ends do not count in a URL. -/
def isIgnored (c : Char) : Bool :=
  c == '\t' || c == '\n' || c == '\x0d'

/-- The text of the path of a web address for which a text is given. -/
def normal (given : List Char) : List Char :=
  text (ofText .web (given.filter (!isIgnored ·)))

end Path

end ChatPortal.Url
