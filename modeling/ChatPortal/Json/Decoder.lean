import ChatPortal.Json.Reader

/-!
# Typed values in JSON

A `Decoder` takes a value of some type out of a JSON text, and out of a JSON value that
has been read already.  Both accept the same: `leaf` the scalars that a function accepts,
`list` an array of such values, and `record` the fields of a structure, by name in an
object or by position in an array.
-/

namespace ChatPortal.Json

/-- How a value of type `α` is read from a text, within a number of levels, and how it is
taken from a JSON value. -/
structure Decoder (α : Type) where
  read : (levels : Nat) → Reader α
  ofValue : Json → Except Issue α

namespace Decoder

variable {α β σ : Type}

/-- Any JSON value. -/
def json : Decoder Json := ⟨readValue, .ok⟩

/-- Applies a function to the decoded value. -/
def map (f : α → β) (decoder : Decoder α) : Decoder β :=
  ⟨fun levels => (decoder.read levels).map f, fun v => (decoder.ofValue v).map f⟩

/-! ### Scalars -/

/-- Whether a scalar is accepted; `none` for one of another type than expected. -/
abbrev Acceptance (α : Type) := Json → Option (Except Issue α)

/-- The accepted value, or the issue with the value. -/
def accepted (expected : String) (accept : Acceptance α) (v : Json) : Except Issue α :=
  (accept v).getD (.error (.wrongType (.ofValue v) expected))

/-- The scalars that a function accepts. -/
def leaf (expected : String) (accept : Acceptance α) : Decoder α where
  read _ text :=
    match hb : skipBlanks text with
    | [] => .error ⟨.endInValue, 0⟩
    | b :: rest =>
      match hs : readScalar b rest with
      | some (.ok (v, left)) =>
        match accepted expected accept v with
        | .ok a =>
          .ok ⟨(a, left), by
            have := length_skipBlanks_le text
            have := length_readScalar_lt hs
            rw [hb] at *
            simp at *
            omega⟩
        | .error issue => .error (.before issue left)
      | _ => .error (mismatch expected (b :: rest))
  ofValue := accepted expected accept

/-- A string. -/
def string : Decoder String :=
  leaf "a string" fun
    | .string s => some (.ok s)
    | _ => none

/-- A truth value. -/
def bool : Decoder Bool :=
  leaf "a boolean" fun
    | .bool b => some (.ok b)
    | _ => none

/-- The integers between two bounds; `name` says which they are. -/
def integer (name : String) (low high : Int) : Decoder Int :=
  leaf name fun
    | .number (.integer n) =>
      some (if low ≤ n ∧ n ≤ high then .ok n else .error (.wrongValue (.integer n) name))
    | _ => none

/-- A signed integer of 64 bits. -/
def int64 : Decoder Int := integer "i64" (-0x8000000000000000) 0x7FFFFFFFFFFFFFFF

/-- An unsigned integer of 64 bits. -/
def nat64 : Decoder Nat := (integer "u64" 0 0xFFFFFFFFFFFFFFFF).map Int.toNat

/-- The strings that a function accepts, which gives the reason for which it refuses
one. -/
def parsed (expected : String) (parse : String → Except String α) : Decoder α :=
  leaf expected fun
    | .string s => some ((parse s).mapError .refused)
    | _ => none

/-! ### Lists -/

/-- An array of values. -/
def list (decoder : Decoder α) : Decoder (List α) where
  read levels text :=
    match hb : skipBlanks text with
    | Byte.openBracket :: rest =>
      match levels with
      | 0 => .error (.before .nestedTooDeep rest)
      | levels + 1 =>
        match readArray (decoder.read levels) rest with
        | .error failure => .error failure
        | .ok ⟨(items, left), h⟩ =>
          .ok ⟨(items, left), by
            have := length_skipBlanks_le text
            rw [hb] at this
            simp at this h ⊢
            omega⟩
    | rest => .error (mismatch "a sequence" rest)
  ofValue
    | .array items => items.mapM decoder.ofValue
    | v => .error (.wrongType (.ofValue v) "a sequence")

/-! ### Alternatives -/

/-- The value with the given name. -/
def named (variants : List (String × α)) : Decoder α :=
  leaf "variant identifier" fun
    | .string s =>
      some (match variants.lookup s with
        | some a => .ok a
        | none => .error (.unknownVariant s (variants.map (·.1))))
    | _ => none

/-- Nothing but `null`. -/
def unit : Decoder Unit :=
  leaf "unit" fun
    | .null => some (.ok ())
    | _ => none

/-- Passes over the end of an object with one member. -/
def closeVariant (text : Bytes) : Except Failure Bytes :=
  match skipBlanks text with
  | [] => .error ⟨.endInObject, 0⟩
  | b :: rest =>
    if b = Byte.closeBrace then .ok rest else .error (.before .expectedValue (b :: rest))

theorem length_closeVariant_le {text rest : Bytes} (h : closeVariant text = .ok rest) :
  rest.length ≤ text.length
  := by
  unfold closeVariant at h
  have ht := length_skipBlanks_le text
  split at h
  · cases h
  · next hs =>
    rw [hs] at ht
    simp at ht
    split at h
    · cases h
      omega
    · cases h

/-- The failure for an object whose first member has no string for its name. -/
def keyFailure? (text : Bytes) : Option Failure :=
  match skipBlanks text with
  | [] => some ⟨.endInObject, 0⟩
  | b :: rest => if b = Byte.quote then none else some (.before .keyNotString rest)

/-- One of several named values: its name, or an object whose only member has that name
and the value `null`. -/
def choice (variants : List (String × α)) : Decoder α where
  read levels text :=
    match hb : skipBlanks text with
    | [] => .error ⟨.endInValue, 0⟩
    | b :: rest =>
      have ht : (b :: rest).length ≤ text.length := length_of_skipBlanks hb
      if b = Byte.quote then
        (named variants).read levels text
      else if b = Byte.openBrace then
        match levels with
        | 0 => .error (.before .nestedTooDeep rest)
        | levels + 1 =>
          match keyFailure? rest, (named variants).read levels rest with
          | some failure, _ => .error failure
          | none, .error failure => .error failure
          | none, .ok ⟨(a, rest₁), h₁⟩ =>
            match hc : readColon rest₁ with
            | .error failure => .error failure
            | .ok rest₂ =>
              match unit.read levels rest₂ with
              | .error failure => .error failure
              | .ok ⟨(_, rest₃), h₃⟩ =>
                match hv : closeVariant rest₃ with
                | .error failure => .error failure
                | .ok left =>
                  .ok ⟨(a, left), by
                    have := length_readColon_lt hc
                    have := length_closeVariant_le hv
                    simp at ht h₁ h₃ ⊢
                    omega⟩
      else
        .error (.before .expectedValue rest)
  ofValue
    | .object [(name, v)] =>
      match (named variants).ofValue (.string name), unit.ofValue v with
      | .error issue, _ => .error issue
      | .ok _, .error issue => .error issue
      | .ok a, .ok _ => .ok a
    | .string name => (named variants).ofValue (.string name)
    | v => .error (.wrongType (.ofValue v) "string or map")

end Decoder

/-! ### Records -/

/-- A field of a record of type `σ`: the names under which it is found, the first of which
is its own, and how its value is put into the record. -/
structure Field (σ : Type) where
  name : String
  aliases : List String
  required : Bool
  value : Decoder (σ → σ)

/-- The field is found under a name. -/
def Field.isNamed {σ : Type} (field : Field σ) (name : String) : Bool :=
  field.name == name || field.aliases.contains name

/-- A field that must be there. -/
def Field.needed {σ α : Type} (name : String) (decoder : Decoder α) (put : α → σ → σ) :
    Field σ :=
  ⟨name, [], true, decoder.map put⟩

/-- A field that may be left out. -/
def Field.optional {σ α : Type} (name : String) (decoder : Decoder α) (put : α → σ → σ) :
    Field σ :=
  ⟨name, [], false, decoder.map put⟩

/-- A record under construction, and the names of the fields found so far. -/
structure Draft (σ : Type) where
  value : σ
  found : List String

namespace Decoder

variable {σ : Type}

/-- The draft with one more field. -/
def addField (draft : Draft σ) (field : Field σ) (put : σ → σ) : Draft σ :=
  ⟨put draft.value, field.name :: draft.found⟩

/-- The finished record, if all required fields were found. -/
def finish (fields : List (Field σ)) (draft : Draft σ) : Except Issue σ :=
  match fields.find? fun field => field.required && !draft.found.contains field.name with
  | some field => .error (.missingField field.name)
  | none => .ok draft.value

/-- The words for the fields of a record by position. -/
def positions (type : String) (fields : List (Field σ)) : String :=
  "struct " ++ type ++ " with " ++ toString fields.length ++
    (if fields.length = 1 then " element" else " elements")

/-- Reads the members of an object into a draft, up to the end of the object. -/
def readKeyed (fields : List (Field σ)) (levels : Nat) (first : Bool) (draft : Draft σ)
    (text : Bytes) :
    Except Failure { r : Draft σ × Bytes // r.2.length ≤ text.length } :=
  match hn : nextKey first text with
  | .error failure => .error failure
  | .ok none => .ok ⟨(draft, text), Nat.le_refl _⟩
  | .ok (some start) =>
    have hs := length_nextKey_lt hn
    match hk : readString start with
    | .error failure => .error failure
    | .ok (key, rest) =>
      have hk := length_readString_lt hk
      match fields.find? (·.isNamed key) with
      | none =>
        match hc : readColon rest with
        | .error failure => .error failure
        | .ok after =>
          have hc := length_readColon_lt hc
          match hv : skipValue after with
          | .error failure => .error failure
          | .ok left =>
            have hv := length_skipValue_lt hv
            have hl : left.length < text.length :=
              Nat.lt_trans hv (Nat.lt_trans hc (Nat.lt_trans hk hs))
            match readKeyed fields levels false draft left with
            | .error failure => .error failure
            | .ok ⟨r, hr⟩ => .ok ⟨r, Nat.le_of_lt (Nat.lt_of_le_of_lt hr hl)⟩
      | some field =>
        if draft.found.contains field.name then
          .error (.before (.duplicateField field.name) (closeObject rest).2)
        else
          match hc : readColon rest with
          | .error failure => .error failure
          | .ok after =>
            have hc := length_readColon_lt hc
            match field.value.read levels after with
            | .error failure => .error failure
            | .ok ⟨(put, left), ha⟩ =>
              have hl : left.length < text.length :=
                Nat.lt_trans ha (Nat.lt_trans hc (Nat.lt_trans hk hs))
              match readKeyed fields levels false (addField draft field put) left with
              | .error failure => .error failure
              | .ok ⟨r, hr⟩ => .ok ⟨r, Nat.le_of_lt (Nat.lt_of_le_of_lt hr hl)⟩
termination_by text.length

/-- Reads the items of an array into a record, up to the end of the last field. -/
def readPositional (expected : String) (levels : Nat) :
    (fields : List (Field σ)) → (index : Nat) → (value : σ) → (text : Bytes) →
    Except Failure { r : σ × Bytes // r.2.length ≤ text.length }
  | [], _, value, text => .ok ⟨(value, text), Nat.le_refl _⟩
  | field :: more, index, value, text =>
    match hn : nextItem (index == 0) text with
    | .error failure => .error failure
    | .ok none =>
      if field.required then
        .error (.before (.wrongLength index expected) (closeArray text).2)
      else
        readPositional expected levels more index value text
    | .ok (some start) =>
      have hs := length_nextItem_le hn
      match field.value.read levels start with
      | .error failure => .error failure
      | .ok ⟨(put, rest), hr⟩ =>
        match readPositional expected levels more (index + 1) (put value) rest with
        | .error failure => .error failure
        | .ok ⟨r, h⟩ => .ok ⟨r, Nat.le_trans h (Nat.le_of_lt (Nat.lt_of_lt_of_le hr hs))⟩

/-- Takes the fields of a record from the members of an object. -/
def ofMembers (fields : List (Field σ)) : Draft σ → List (String × Json) → Except Issue σ
  | draft, [] => finish fields draft
  | draft, (key, v) :: rest =>
    match fields.find? (·.isNamed key) with
    | none => ofMembers fields draft rest
    | some field =>
      if draft.found.contains field.name then
        .error (.duplicateField field.name)
      else
        match field.value.ofValue v with
        | .error issue => .error issue
        | .ok put => ofMembers fields (addField draft field put) rest

/-- Takes the fields of a record from the items of an array, `count` in all. -/
def ofItems (expected : String) (count : Nat) :
    (fields : List (Field σ)) → (index : Nat) → σ → List Json → Except Issue σ
  | [], _, value, [] => .ok value
  | [], _, _, _ :: _ => .error (.wrongLength count "fewer elements in array")
  | field :: more, index, value, [] =>
    if field.required then .error (.wrongLength index expected)
    else ofItems expected count more index value []
  | field :: more, index, value, v :: rest =>
    match field.value.ofValue v with
    | .error issue => .error issue
    | .ok put => ofItems expected count more (index + 1) (put value) rest

/-- A record with the given fields; `initial` holds the values of those that are left
out. -/
def record (type : String) (initial : σ) (fields : List (Field σ)) : Decoder σ where
  read levels text :=
    match hb : skipBlanks text with
    | Byte.openBracket :: rest =>
      match levels with
      | 0 => .error (.before .nestedTooDeep rest)
      | levels + 1 =>
        match readPositional (positions type fields) levels fields 0 initial rest with
        | .error failure => .error failure
        | .ok ⟨(value, after), h⟩ =>
          match hc : closeArray after with
          | (some failure, _) => .error failure
          | (none, left) =>
            .ok ⟨(value, left), by
              have := length_skipBlanks_le text
              have := length_closeArray_le after
              rw [hc] at this
              rw [hb] at *
              simp at *
              omega⟩
    | Byte.openBrace :: rest =>
      match levels with
      | 0 => .error (.before .nestedTooDeep rest)
      | levels + 1 =>
        match readKeyed fields levels true ⟨initial, []⟩ rest with
        | .error failure => .error failure
        | .ok ⟨(draft, after), h⟩ =>
          match finish fields draft, hc : closeObject after with
          | .error issue, (_, left) => .error (.before issue left)
          | .ok _, (some failure, _) => .error failure
          | .ok value, (none, left) =>
            .ok ⟨(value, left), by
              have := length_skipBlanks_le text
              have := length_closeObject_le after
              rw [hc] at this
              rw [hb] at *
              simp at *
              omega⟩
    | rest => .error (mismatch ("struct " ++ type) rest)
  ofValue
    | .array items => ofItems (positions type fields) items.length fields 0 initial items
    | .object members => ofMembers fields ⟨initial, []⟩ members
    | v => .error (.wrongType (.ofValue v) ("struct " ++ type))

/-- The value in a whole JSON text. -/
def decode {α : Type} (decoder : Decoder α) (text : Bytes) : Except Failure α :=
  (decoder.read maxLevels).document text

end Decoder

end ChatPortal.Json
