import ChatPortal.Url.Form
import ChatPortal.Url.Label

/-!
# Domains

A domain is a row of labels with dots in between.  `Domain.written?` gives the ASCII
characters in which the domain in a text is written: what its characters stand for, put
together to labels, each of which obeys the rules.
-/

namespace ChatPortal.Url.Domain

/-- The characters that no domain may hold once it is in ASCII. -/
def isForbidden (c : Char) : Bool :=
  c.toNat ≤ 0x20 || c.toNat == 0x7F || "%#/:<>?@[\\]^|".toList.contains c

/-- The labels in a text. -/
def labels? (text : List Char) : Option (List Label) :=
  (variants? text).bind fun text => (pieces (· == '.') (Text.normal text)).mapM Label.ofText?

/-- Labels may stand side by side. -/
def directionsAgree (labels : List Label) : Bool :=
  !labels.any Label.hasRight || labels.all Label.directionsAgree

/-- Labels with dots in between, as they are written. -/
def written (labels : List Label) : List Char :=
  ['.'].intercalate (labels.map Label.written)

/-- The domain in a text, as it is written. -/
def written? (text : List Char) : Option (List Char) :=
  (labels? text).bind fun labels =>
    let name := written labels
    if directionsAgree labels && name != [] && !name.any isForbidden then some name else none

end ChatPortal.Url.Domain
