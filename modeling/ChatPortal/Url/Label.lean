import ChatPortal.Text.Composition
import ChatPortal.Text.Direction
import ChatPortal.Text.Joining
import ChatPortal.Url.Punycode
import ChatPortal.Url.Variant

/-!
# Labels

A label is what stands between two dots of a domain.  `Label.ofText?` reads one from
either of its forms, the characters that are shown or the ASCII characters that are
written for them, and refuses a label that breaks a rule: it begins with no mark, keeps
joiners to where they matter, and has only one form of each kind.  Labels side by side
obey one more rule if one of them is written from right to left
(`Label.directionsAgree`).
-/

namespace ChatPortal.Url

/-- A label as it is shown and as it is written. -/
structure Label where
  shown : List Char
  written : List Char
deriving DecidableEq, Repr

namespace Label

/-! ### Rules for one label -/

/-- The next character that parts letters is a letter with a property. -/
def reaches (joins : Char → Bool) (text : List Char) : Bool :=
  (text.dropWhile Text.isTransparent).head?.any joins

/-- Every joiner follows a mark that joins consonants, or parts two letters that would be
joined without it.  The text in front comes with its last character first. -/
def joinersFit : (front text : List Char) → Bool
  | _, [] => true
  | front, c :: text =>
    (!isJoiner c || front.head?.any (Text.markClass · == Text.joinerClass) ||
        (c == '\u200c' && reaches Text.joinsNext front && reaches Text.joinsLast text)) &&
      joinersFit (c :: front) text

/-- The most characters that a label may have which is not ASCII. -/
def maxLength : Nat := 1000

/-- A label that is not ASCII obeys the rules for one label. -/
def isFit (label : List Char) : Bool :=
  !label.head?.any Text.isMark && joinersFit [] label && label.length ≤ maxLength

/-- A label that is not ASCII has the form in which it is shown. -/
def isShownForm (label : List Char) : Bool :=
  !label.all Punycode.isBasic && variants? label = some label && Text.normal label = label

/-! ### The two forms -/

/-- The front of a written label that is shown in another form. -/
def tag : List Char := ['x', 'n', '-', '-']

/-- The label that a text with the tag at its front is written for. -/
def ofWritten? (text : List Char) : Option Label :=
  match Punycode.decode? (text.drop tag.length) with
  | none => none
  | some shown => if isShownForm shown && isFit shown then some ⟨shown, text⟩ else none

/-- The label in a text, which is in lower case and has its letters and marks put
together. -/
def ofText? (text : List Char) : Option Label :=
  if tag <+: text then ofWritten? text
  else if text.all Punycode.isBasic then some ⟨text, text⟩
  else if isFit text then some ⟨text, tag ++ Punycode.encode text⟩
  else none

/-! ### Directions -/

/-- A label holds something that is written from right to left. -/
def hasRight (label : Label) : Bool :=
  label.shown.any fun c => [.right, .arabic].contains (Text.Direction.ofChar c)

/-- A label of a domain in which something is written from right to left begins with a
letter.  If that is written from left to right, no letter and no number goes the other
way, and the last is a letter or a number; else no letter is written from left to right,
the last is a letter or a number, and the numbers are of one kind.  Marks at the end do
not count. -/
def directionsAgree (label : Label) : Bool :=
  match label.shown.map Text.Direction.ofChar with
  | [] => true
  | .left :: more =>
    let back := more.reverse.dropWhile (· == .mark)
    !back.contains .right && !back.contains .arabic &&
      back.head?.all fun last => [.left, .european].contains last
  | .right :: more =>
    let back := more.reverse.dropWhile (· == .mark)
    !back.contains .left && !(back.contains .european && back.contains .arabic) &&
      back.head?.all fun last => [.right, .european, .arabic].contains last
  | _ => false

end Label

end ChatPortal.Url
