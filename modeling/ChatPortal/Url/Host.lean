import ChatPortal.Url.Domain

/-!
# Hosts

`Host.parse?` reads the host of a URL: an address of version 6 between brackets, and for
a special scheme an address of version 4 in any of its spellings or a domain, for another
scheme any text.  `Host.text` is the one way in which a host is written.
-/

namespace ChatPortal.Url

/-- A host. -/
inductive Host where
  | domain (name : List Char)
  | ipv4 (address : Nat)
  | ipv6 (groups : List Nat)
deriving DecidableEq, Repr

namespace Host

/-- The value of a digit in a radix up to 16. -/
def digit? (radix : Nat) (c : Char) : Option Nat :=
  if c.toNat < 0x80 then
    (hexValue? c.toUInt8).bind fun d => if d < radix then some d else none
  else
    none

/-- The number that some digits stand for; no digits stand for zero. -/
def number? (radix : Nat) (digits : List Char) : Option Nat :=
  digits.foldlM (fun n c => (digit? radix c).map (n * radix + ·)) 0

/-! ### Version 4 -/

/-- A part of an address: hexadecimal after `0x`, octal after `0`, else decimal. -/
def part? : List Char → Option Nat
  | [] => none
  | ['0'] => some 0
  | '0' :: c :: digits =>
    if c = 'x' ∨ c = 'X' then number? 16 digits else number? 8 (c :: digits)
  | digits => number? 10 digits

/-- The parts of an address; a dot may stand at the end. -/
def parts (text : List Char) : List (List Char) :=
  match (pieces (· == '.') text).reverse with
  | [] :: (part :: more) => (part :: more).reverse
  | parts => parts.reverse

/-- A text is meant to be an address: its last part is a number. -/
def endsInNumber (text : List Char) : Bool :=
  match (parts text).getLast? with
  | none => false
  | some part => (part != [] && part.all Char.isDigit) || (part? part).isSome

/-- The address with the given parts; the last one fills all the bytes that are left. -/
def ofParts? : (bytes : Nat) → List Nat → Option Nat
  | _, [] => none
  | 0, _ => none
  | bytes, [last] => if last < Nat.pow 256 bytes then some last else none
  | bytes + 1, n :: parts =>
    if n < 256 then (ofParts? bytes parts).map (n * Nat.pow 256 bytes + ·) else none

/-- The address in a text. -/
def ipv4? (text : List Char) : Option Nat :=
  ((parts text).mapM part?).bind (ofParts? 4)

/-! ### Version 6 -/

/-- A group: one to four hexadecimal digits. -/
def group? (text : List Char) : Option Nat :=
  if 1 ≤ text.length ∧ text.length ≤ 4 then number? 16 text else none

/-- A byte in decimal digits, without a zero in front. -/
def byte? (text : List Char) : Option Nat :=
  if text = [] ∨ (text.head? = some '0' ∧ text ≠ ['0']) then
    none
  else
    (number? 10 text).bind fun n => if n < 256 then some n else none

/-- The two groups that four bytes with dots between them stand for. -/
def dotted? (text : List Char) : Option (List Nat) :=
  match (pieces (· == '.') text).mapM byte? with
  | some [a, b, c, d] => some [a * 256 + b, c * 256 + d]
  | _ => none

/-- The groups of a part of an address, the last of which may be written with dots. -/
def groups? (dots : Bool) : List (List Char) → Option (List Nat)
  | [] => some []
  | [last] =>
    match group? last with
    | some n => some [n]
    | none => if dots then dotted? last else none
  | text :: more => do (← group? text) :: (← groups? dots more)

/-- The groups of a part of an address; there may be none. -/
def side? (dots : Bool) (text : List Char) : Option (List Nat) :=
  if text = [] then some [] else groups? dots (pieces (· == ':') text)

/-- The text before the first `::` and after it. -/
def splitGap? : List Char → Option (List Char × List Char)
  | ':' :: ':' :: text => some ([], text)
  | c :: text => (splitGap? text).map fun (before, after) => (c :: before, after)
  | [] => none

/-- The groups of an address. -/
def ipv6? (text : List Char) : Option (List Nat) :=
  match splitGap? text with
  | none => (side? true text).bind fun all => if all.length = 8 then some all else none
  | some (before, after) =>
    match side? false before, side? true after with
    | some left, some right =>
      if left.length + right.length < 8 then
        some (left ++ List.replicate (8 - left.length - right.length) 0 ++ right)
      else
        none
    | _, _ => none

/-- The length of the run of zeros at the front. -/
def zeros (groups : List Nat) : Nat :=
  (groups.takeWhile (· == 0)).length

/-- The length of the longest run of zeros. -/
def longestZeros : List Nat → Nat
  | [] => 0
  | n :: groups => max (zeros (n :: groups)) (longestZeros groups)

/-- Some groups with colons between them. -/
def groupText (groups : List Nat) : List Char :=
  [':'].intercalate (groups.map (Nat.toDigits 16))

/-- The groups before and after the first run of zeros of a length. -/
def splitZeros (run : Nat) : List Nat → List Nat × List Nat
  | [] => ([], [])
  | n :: groups =>
    if zeros (n :: groups) = run then ([], (n :: groups).drop run)
    else
      let (before, after) := splitZeros run groups
      (n :: before, after)

/-- The text of an address; the first longest run of zeros is left out. -/
def ipv6Text (groups : List Nat) : List Char :=
  let run := longestZeros groups
  if 2 ≤ run then
    let (before, after) := splitZeros run groups
    groupText before ++ [':', ':'] ++ groupText after
  else
    groupText groups

/-! ### Any host -/

/-- The characters that the host of a scheme without rules may not hold. -/
def isForbiddenAnywhere (c : Char) : Bool :=
  "\x00\t\n\x0d #/:<>?@[\\]^|".toList.contains c

/-- The address between brackets. -/
def bracketed? (text : List Char) : Option Host :=
  if text.getLast? = some ']' then (ipv6? text.dropLast).map .ipv6 else none

/-- The host of a URL with a special scheme. -/
def special? (text : List Char) : Option Host :=
  match text with
  | '[' :: text => bracketed? text
  | _ =>
    match Domain.written? (Utf8.decodeLossy (unescape (Utf8.encode text))) with
    | none => none
    | some name => if endsInNumber name then (ipv4? name).map .ipv4 else some (.domain name)

/-- The host of a URL with another scheme. -/
def plain? (text : List Char) : Option Host :=
  match text with
  | '[' :: text => bracketed? text
  | _ =>
    if text.any isForbiddenAnywhere then none
    else some (.domain (escapeWhere isOutsidePrintable text))

/-- The host that a text stands for. -/
def parse? (special : Bool) (text : List Char) : Option Host :=
  if special then special? text else plain? text

/-- The text of a host. -/
def text : Host → List Char
  | .domain name => name
  | .ipv4 n =>
    ['.'].intercalate
      ([n / Nat.pow 256 3, n / Nat.pow 256 2 % 256, n / 256 % 256, n % 256].map (Nat.toDigits 10))
  | .ipv6 groups => '[' :: (ipv6Text groups ++ [']'])

end Host

end ChatPortal.Url
