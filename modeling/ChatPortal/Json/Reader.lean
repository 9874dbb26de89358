import ChatPortal.Json.Number

/-!
# Reading JSON

A `Reader` takes a value off the front of a text and leaves a shorter one.  `readValue`
reads any JSON value with a limited number of levels of arrays and objects; `readItems`
and `nextKey` are the steps through an array and an object, for readers of any kind of
item; `skipValue` passes over a value without looking at what it says.
-/

namespace ChatPortal.Json

/-- A value read off the front of a text, with what is left. -/
abbrev Taken (α : Type) (text : Bytes) := { r : α × Bytes // r.2.length < text.length }

/-- Takes a value off the front of a text, or fails. -/
def Reader (α : Type) := (text : Bytes) → Except Failure (Taken α text)

/-- The value and what is left, without the bound on its length. -/
def Reader.run {α : Type} (reader : Reader α) (text : Bytes) : Except Failure (α × Bytes) :=
  (reader text).map (·.val)

/-- Applies a function to what a reader takes. -/
def Reader.map {α β : Type} (f : α → β) (reader : Reader α) : Reader β := fun text =>
  match reader text with
  | .error failure => .error failure
  | .ok ⟨(a, rest), h⟩ => .ok ⟨(f a, rest), h⟩

/-! ### Scalars -/

/-- Reads the value that begins with the byte `b`, unless `b` opens an array or an object
or begins no value. -/
def readScalar (b : UInt8) (rest : Bytes) : Option (Except Failure (Json × Bytes)) :=
  if b = Byte.letter 'n' then
    some ((readWord (afterFirst "null") rest).map ((.null, ·)))
  else if b = Byte.letter 't' then
    some ((readWord (afterFirst "true") rest).map ((.bool true, ·)))
  else if b = Byte.letter 'f' then
    some ((readWord (afterFirst "false") rest).map ((.bool false, ·)))
  else if b = Byte.minus then
    some ((readNumber true rest).map fun r => (.number r.1, r.2))
  else if (Byte.digit? b).isSome then
    some ((readNumber false (b :: rest)).map fun r => (.number r.1, r.2))
  else if b = Byte.quote then
    some ((readString rest).map fun r => (.string r.1, r.2))
  else
    none

theorem length_readWord_le {word text rest : Bytes} (h : readWord word text = .ok rest) :
  rest.length ≤ text.length
  := by
  induction word generalizing text with
  | nil =>
    simp only [readWord] at h
    cases h
    simp
  | cons w word ih =>
    cases text with
    | nil => simp [readWord] at h
    | cons b text =>
      simp only [readWord] at h
      split at h
      · have := ih h
        simp
        omega
      · cases h

theorem map_eq_ok
    {α β : Type} {x : Except Failure α} {f : α → β} {b : β} (h : x.map f = .ok b) :
  ∃ a, x = .ok a ∧ f a = b
  := by
  cases x with
  | error => cases h
  | ok a =>
    cases h
    exact ⟨a, rfl, rfl⟩

theorem length_of_word {word text rest : Bytes} {v w : Json}
    (h : some ((readWord word text).map ((v, ·))) = some (.ok (w, rest))) :
  rest.length ≤ text.length
  := by
  obtain ⟨_, hr, he⟩ := map_eq_ok (Option.some.inj h)
  cases he
  apply length_readWord_le hr

theorem length_of_number {negative : Bool} {text rest : Bytes} {v : Json}
    (h : some ((readNumber negative text).map fun r => (Json.number r.1, r.2))
      = some (.ok (v, rest))) :
  rest.length < text.length
  := by
  obtain ⟨_, hr, he⟩ := map_eq_ok (Option.some.inj h)
  cases he
  apply length_readNumber_lt hr

theorem length_of_string {text rest : Bytes} {v : Json}
    (h : some ((readString text).map fun r => (Json.string r.1, r.2))
      = some (.ok (v, rest))) :
  rest.length < text.length
  := by
  obtain ⟨_, hr, he⟩ := map_eq_ok (Option.some.inj h)
  cases he
  apply length_readString_lt hr

theorem length_readScalar_lt {b : UInt8} {text rest : Bytes} {v : Json}
    (h : readScalar b text = some (.ok (v, rest))) :
  rest.length < (b :: text).length
  := by
  unfold readScalar at h
  split at h
  · apply Nat.lt_succ_of_le (length_of_word h)
  · split at h
    · apply Nat.lt_succ_of_le (length_of_word h)
    · split at h
      · apply Nat.lt_succ_of_le (length_of_word h)
      · split at h
        · apply Nat.lt_succ_of_lt (length_of_number h)
        · split at h
          · apply length_of_number h
          · split at h
            · apply Nat.lt_succ_of_lt (length_of_string h)
            · cases h

/-- What a value is found to be. -/
def Found.ofValue : Json → Found
  | .null => .null
  | .bool b => .bool b
  | .number (.integer n) => .integer n
  | .number (.real x) => .real x
  | .string s => .string s
  | .array _ => .array
  | .object _ => .object

/-- The failure for a text that begins with something else than expected. -/
def mismatch (expected : String) : Bytes → Failure
  | [] => ⟨.endInValue, 0⟩
  | b :: rest =>
    match readScalar b rest with
    | some (.ok (v, rest)) => .before (.wrongType (.ofValue v) expected) rest
    | some (.error failure) => failure
    | none =>
      if b = Byte.openBracket then .before (.wrongType .array expected) (b :: rest)
      else if b = Byte.openBrace then .before (.wrongType .object expected) (b :: rest)
      else .after .expectedValue (b :: rest)

/-! ### Arrays and objects -/

/-- Goes to the next item of an array, past a comma unless it is the first; `none` where
the array ends. -/
def nextItem (first : Bool) (text : Bytes) : Except Failure (Option Bytes) :=
  match skipBlanks text with
  | [] => .error ⟨.endInArray, 0⟩
  | Byte.closeBracket :: _ => .ok none
  | b :: rest =>
    if first then
      .ok (some (b :: rest))
    else if b = Byte.comma then
      match skipBlanks rest with
      | [] => .error ⟨.endInValue, 0⟩
      | Byte.closeBracket :: rest => .error (.before .trailingComma rest)
      | rest => .ok (some rest)
    else
      .error (.before .expectedCommaInArray rest)

/-- Goes to the next key of an object, past a comma unless it is the first, and past the
quote that opens it; `none` where the object ends. -/
def nextKey (first : Bool) (text : Bytes) : Except Failure (Option Bytes) :=
  match skipBlanks text with
  | [] => .error ⟨.endInObject, 0⟩
  | Byte.closeBrace :: _ => .ok none
  | b :: rest =>
    if first then
      if b = Byte.quote then .ok (some rest) else .error (.before .keyNotString rest)
    else if b = Byte.comma then
      match skipBlanks rest with
      | [] => .error ⟨.endInValue, 0⟩
      | Byte.quote :: rest => .ok (some rest)
      | Byte.closeBrace :: rest => .error (.before .trailingComma rest)
      | _ :: rest => .error (.before .keyNotString rest)
    else
      .error (.before .expectedCommaInObject rest)

/-- Passes over the colon after a key. -/
def readColon (text : Bytes) : Except Failure Bytes :=
  match skipBlanks text with
  | [] => .error ⟨.endInObject, 0⟩
  | Byte.colon :: rest => .ok rest
  | _ :: rest => .error (.before .expectedColon rest)

/-- Passes over the end of an array; what is left then, and what was wrong. -/
def closeArray (text : Bytes) : Option Failure × Bytes :=
  match skipBlanks text with
  | [] => (some ⟨.endInArray, 0⟩, [])
  | Byte.closeBracket :: rest => (none, rest)
  | Byte.comma :: rest =>
    match skipBlanks rest with
    | Byte.closeBracket :: more =>
      (some (.before .trailingComma more), Byte.closeBracket :: more)
    | rest => (some (.after .trailingCharacters rest), rest)
  | rest => (some (.after .trailingCharacters rest), rest)

/-- Passes over the end of an object; what is left then, and what was wrong. -/
def closeObject (text : Bytes) : Option Failure × Bytes :=
  match skipBlanks text with
  | [] => (some ⟨.endInObject, 0⟩, [])
  | Byte.closeBrace :: rest => (none, rest)
  | Byte.comma :: rest => (some (.before .trailingComma rest), Byte.comma :: rest)
  | rest => (some (.after .trailingCharacters rest), rest)

theorem length_nextItem_le {first : Bool} {text rest : Bytes}
    (h : nextItem first text = .ok (some rest)) :
  rest.length ≤ text.length
  := by
  unfold nextItem at h
  have ht := length_skipBlanks_le text
  split at h
  · cases h
  · cases h
  · next b more _ hs =>
    rw [hs] at ht
    split at h
    · cases h
      exact ht
    · split at h
      · have hm := length_skipBlanks_le more
        split at h
        · cases h
        · cases h
        · cases h
          simp at ht
          omega
      · cases h

theorem length_nextKey_lt {first : Bool} {text rest : Bytes}
    (h : nextKey first text = .ok (some rest)) :
  rest.length < text.length
  := by
  unfold nextKey at h
  have ht := length_skipBlanks_le text
  split at h
  · cases h
  · cases h
  · next b more _ hs =>
    rw [hs] at ht
    simp at ht
    split at h
    · split at h
      · cases h
        omega
      · cases h
    · split at h
      · have hm := length_skipBlanks_le more
        split at h
        · cases h
        · next hq =>
          rw [hq] at hm
          simp at hm
          cases h
          omega
        · cases h
        · cases h
      · cases h

theorem length_readColon_lt {text rest : Bytes} (h : readColon text = .ok rest) :
  rest.length < text.length
  := by
  unfold readColon at h
  have ht := length_skipBlanks_le text
  split at h
  · cases h
  · next hs =>
    rw [hs] at ht
    simp at ht
    cases h
    omega
  · cases h

theorem length_closeArray_le (text : Bytes) :
  (closeArray text).2.length ≤ text.length
  := by
  unfold closeArray
  have ht := length_skipBlanks_le text
  split
  · simp
  · next hs =>
    rw [hs] at ht
    simp at ht ⊢
    omega
  · next rest hs =>
    rw [hs] at ht
    have hr := length_skipBlanks_le rest
    simp at ht
    split
    · next hc =>
      rw [hc] at hr
      simp at hr ⊢
      omega
    · simp
      omega
  · simpa using ht

theorem length_closeObject_le (text : Bytes) :
  (closeObject text).2.length ≤ text.length
  := by
  unfold closeObject
  have ht := length_skipBlanks_le text
  split
  · simp
  · next hs =>
    rw [hs] at ht
    simp at ht ⊢
    omega
  · next hs =>
    rw [hs] at ht
    simp at ht ⊢
    omega
  · simpa using ht

/-- Reads the items of an array up to its end. -/
def readItems {α : Type} (item : Reader α) (first : Bool) (text : Bytes) :
    Except Failure { r : List α × Bytes // r.2.length ≤ text.length } :=
  match hn : nextItem first text with
  | .error failure => .error failure
  | .ok none => .ok ⟨([], text), Nat.le_refl _⟩
  | .ok (some start) =>
    have hs := length_nextItem_le hn
    match item start with
    | .error failure => .error failure
    | .ok ⟨(a, rest), hr⟩ =>
      have hl : rest.length < text.length := Nat.lt_of_lt_of_le hr hs
      match readItems item false rest with
      | .error failure => .error failure
      | .ok ⟨(more, left), hm⟩ =>
        .ok ⟨(a :: more, left), Nat.le_of_lt (Nat.lt_of_le_of_lt hm hl)⟩
termination_by text.length

/-- Reads an array after its opening bracket. -/
def readArray {α : Type} (item : Reader α) (text : Bytes) :
    Except Failure { r : List α × Bytes // r.2.length ≤ text.length } :=
  match readItems item true text with
  | .error failure => .error failure
  | .ok ⟨(items, rest), h⟩ =>
    match hc : closeArray rest with
    | (some failure, _) => .error failure
    | (none, left) =>
      .ok ⟨(items, left), by
        have := length_closeArray_le rest
        rw [hc] at this
        exact Nat.le_trans this h⟩

/-- Reads the members of an object up to its end, in the order in which they stand. -/
def readMembers {α : Type} (value : Reader α) (first : Bool) (text : Bytes) :
    Except Failure { r : List (String × α) × Bytes // r.2.length ≤ text.length } :=
  match hn : nextKey first text with
  | .error failure => .error failure
  | .ok none => .ok ⟨([], text), Nat.le_refl _⟩
  | .ok (some start) =>
    have hs := length_nextKey_lt hn
    match hk : readString start with
    | .error failure => .error failure
    | .ok (key, rest) =>
      have hk := length_readString_lt hk
      match hc : readColon rest with
      | .error failure => .error failure
      | .ok rest =>
        have hc := length_readColon_lt hc
        match value rest with
        | .error failure => .error failure
        | .ok ⟨(a, left), hr⟩ =>
          have hl : left.length < text.length :=
            Nat.lt_trans hr (Nat.lt_trans hc (Nat.lt_trans hk hs))
          match readMembers value false left with
          | .error failure => .error failure
          | .ok ⟨(more, left), hm⟩ =>
            .ok ⟨((key, a) :: more, left), Nat.le_of_lt (Nat.lt_of_le_of_lt hm hl)⟩
termination_by text.length

/-- Reads an object after its opening brace. -/
def readObject {α : Type} (value : Reader α) (text : Bytes) :
    Except Failure { r : List (String × α) × Bytes // r.2.length ≤ text.length } :=
  match readMembers value true text with
  | .error failure => .error failure
  | .ok ⟨(members, rest), h⟩ =>
    match hc : closeObject rest with
    | (some failure, _) => .error failure
    | (none, left) =>
      .ok ⟨(members, left), by
        have := length_closeObject_le rest
        rw [hc] at this
        exact Nat.le_trans this h⟩

/-! ### Values -/

/-- The number of levels of arrays and objects that a document may have. -/
def maxLevels : Nat := 127

/-- Reads a value with at most the given number of levels of arrays and objects. -/
def readValue (levels : Nat) : Reader Json := fun text =>
  match hb : skipBlanks text with
  | [] => .error ⟨.endInValue, 0⟩
  | b :: rest =>
    have hl : (b :: rest).length ≤ text.length := length_of_skipBlanks hb
    match hs : readScalar b rest with
    | some (.error failure) => .error failure
    | some (.ok (v, left)) =>
      .ok ⟨(v, left), Nat.lt_of_lt_of_le (length_readScalar_lt hs) hl⟩
    | none =>
      if b = Byte.openBracket then
        match levels with
        | 0 => .error (.before .nestedTooDeep rest)
        | levels + 1 =>
          match readArray (readValue levels) rest with
          | .error failure => .error failure
          | .ok ⟨(items, left), h⟩ =>
            .ok ⟨(.array items, left), Nat.lt_of_le_of_lt h hl⟩
      else if b = Byte.openBrace then
        match levels with
        | 0 => .error (.before .nestedTooDeep rest)
        | levels + 1 =>
          match readObject (readValue levels) rest with
          | .error failure => .error failure
          | .ok ⟨(members, left), h⟩ =>
            .ok ⟨(.ofMembers members, left), Nat.lt_of_le_of_lt h hl⟩
      else
        .error (.before .expectedValue rest)

/-- Reads a whole text: a value, and nothing but blanks after it. -/
def Reader.document {α : Type} (reader : Reader α) (text : Bytes) : Except Failure α :=
  match reader text with
  | .error failure => .error failure
  | .ok ⟨(a, rest), _⟩ =>
    match skipBlanks rest with
    | [] => .ok a
    | _ :: more => .error (.before .trailingCharacters more)

/-- The value of a JSON text. -/
def parse (text : Bytes) : Except Failure Json :=
  (readValue maxLevels).document text

/-! ### Passing over a value -/

/-- What encloses a value that is passed over. -/
inductive Frame where
  | array
  | object

/-- The failure for a text that ends inside a frame. -/
def Frame.unclosed : Frame → Failure
  | .array => ⟨.endInArray, 0⟩
  | .object => ⟨.endInObject, 0⟩

/-- The failure for a byte after a complete item that neither goes on nor closes. -/
def Frame.unseparated (rest : Bytes) : Frame → Failure
  | .array => .before .expectedCommaInArray rest
  | .object => .before .expectedCommaInObject rest

/-- The byte that closes a frame. -/
def Frame.close : Frame → UInt8
  | .array => Byte.closeBracket
  | .object => Byte.closeBrace

/-- Passes over a key and its colon, in an object; over nothing, in an array. -/
def Frame.skipKey (frame : Frame) (text : Bytes) : Except Failure Bytes :=
  match frame with
  | .array => .ok text
  | .object =>
    match skipBlanks text with
    | [] => .error ⟨.endInObject, 0⟩
    | b :: rest =>
      if b = Byte.quote then
        match skipQuoted rest with
        | .error failure => .error failure
        | .ok rest => readColon rest
      else
        .error (.before .keyNotString rest)

theorem Frame.length_skipKey_le {frame : Frame} {text rest : Bytes}
    (h : frame.skipKey text = .ok rest) :
  rest.length ≤ text.length
  := by
  unfold Frame.skipKey at h
  split at h
  · cases h
    simp
  · have ht := length_skipBlanks_le text
    split at h
    · cases h
    · next hs =>
      rw [hs] at ht
      simp at ht
      split at h
      · split at h
        · cases h
        · next hq =>
          have := length_skipQuoted_lt hq
          have := length_readColon_lt h
          omega
      · cases h

/-- Passes over the scalar that begins with the byte `b`, unless `b` opens an array or an
object or begins no value. -/
def skipScalar (b : UInt8) (rest : Bytes) : Option (Except Failure Bytes) :=
  if b = Byte.letter 'n' then some (readWord (afterFirst "null") rest)
  else if b = Byte.letter 't' then some (readWord (afterFirst "true") rest)
  else if b = Byte.letter 'f' then some (readWord (afterFirst "false") rest)
  else if b = Byte.minus then some (skipNumeral rest)
  else if (Byte.digit? b).isSome then some (skipNumeral (b :: rest))
  else if b = Byte.quote then some (skipQuoted rest)
  else none

theorem length_skipScalar_lt {b : UInt8} {text rest : Bytes}
    (h : skipScalar b text = some (.ok rest)) :
  rest.length < (b :: text).length
  := by
  unfold skipScalar at h
  split at h
  · apply Nat.lt_succ_of_le (length_readWord_le (Option.some.inj h))
  · split at h
    · apply Nat.lt_succ_of_le (length_readWord_le (Option.some.inj h))
    · split at h
      · apply Nat.lt_succ_of_le (length_readWord_le (Option.some.inj h))
      · split at h
        · apply Nat.lt_succ_of_lt (length_skipNumeral_lt (Option.some.inj h))
        · split at h
          · apply length_skipNumeral_lt (Option.some.inj h)
          · split at h
            · apply Nat.lt_succ_of_lt (length_skipQuoted_lt (Option.some.inj h))
            · cases h

mutual

/-- Passes over a value and over what is left of the frames around it. -/
def skipIn (frames : List Frame) (text : Bytes) : Except Failure Bytes :=
  match _ : skipBlanks text with
  | [] => .error ⟨.endInValue, 0⟩
  | b :: rest =>
    match _ : skipScalar b rest with
    | some (.error failure) => .error failure
    | some (.ok left) => skipOut frames true left
    | none =>
      if b = Byte.openBracket then skipOut (.array :: frames) false rest
      else if b = Byte.openBrace then skipOut (.object :: frames) false rest
      else .error (.before .expectedValue rest)
termination_by (text.length, 0)
decreasing_by
  · next hb hs =>
    have := length_skipBlanks_le text
    have := length_skipScalar_lt hs
    rw [hb] at *
    apply Prod.Lex.left
    omega
  · next hb _ _ =>
    have := length_skipBlanks_le text
    rw [hb] at this
    apply Prod.Lex.left
    simp at this
    omega
  · next hb _ _ _ =>
    have := length_skipBlanks_le text
    rw [hb] at this
    apply Prod.Lex.left
    simp at this
    omega

/-- Passes over what is left of the frames; `complete` says that an item stands before
the text. -/
def skipOut (frames : List Frame) (complete : Bool) (text : Bytes) : Except Failure Bytes :=
  match frames with
  | [] => .ok text
  | frame :: outer =>
    match _ : skipBlanks text with
    | [] => .error frame.unclosed
    | b :: rest =>
      if complete ∧ b = Byte.comma then
        match _ : frame.skipKey rest with
        | .error failure => .error failure
        | .ok rest => skipIn (frame :: outer) rest
      else if b = frame.close then
        skipOut outer true rest
      else if complete then
        .error (frame.unseparated rest)
      else
        match _ : frame.skipKey (b :: rest) with
        | .error failure => .error failure
        | .ok rest => skipIn (frame :: outer) rest
termination_by (text.length, 1)
decreasing_by
  · next hb _ hk =>
    have := length_skipBlanks_le text
    have := Frame.length_skipKey_le hk
    rw [hb] at *
    apply Prod.Lex.left
    simp at *
    omega
  · next hb _ _ =>
    have := length_skipBlanks_le text
    rw [hb] at this
    apply Prod.Lex.left
    simp at this
    omega
  · next hb _ _ _ hk =>
    have := length_skipBlanks_le text
    have := Frame.length_skipKey_le hk
    rw [hb] at *
    have h : rest.length ≤ text.length := by omega
    rcases Nat.lt_or_eq_of_le h with h | h
    · exact Prod.Lex.left _ _ h
    · rw [h]
      exact Prod.Lex.right _ (by omega)

end

theorem length_skipOut_le_of {n : Nat}
    (hi : ∀ frames text rest, text.length ≤ n →
      skipIn frames text = .ok rest → rest.length ≤ text.length)
    (frames : List Frame) (complete : Bool) (text rest : Bytes) (hn : text.length ≤ n)
    (h : skipOut frames complete text = .ok rest) :
  rest.length ≤ text.length
  := by
  induction frames generalizing complete text with
  | nil =>
    rw [skipOut] at h
    cases h
    simp
  | cons frame outer ih =>
    rw [skipOut] at h
    have ht := length_skipBlanks_le text
    split at h
    · cases h
    · next hs =>
      rw [hs] at ht
      simp at ht
      split at h
      · split at h
        · cases h
        · next hk =>
          have := Frame.length_skipKey_le hk
          have := hi _ _ _ (by omega) h
          omega
      · split at h
        · have := ih _ _ (by omega) h
          omega
        · split at h
          · cases h
          · split at h
            · cases h
            · next hk =>
              have := Frame.length_skipKey_le hk
              simp at this
              have := hi _ _ _ (by omega) h
              omega

theorem length_skipIn_lt {frames : List Frame} {text rest : Bytes}
    (h : skipIn frames text = .ok rest) :
  rest.length < text.length
  := by
  induction hn : text.length using Nat.strongRecOn generalizing frames text rest with
  | _ n ih =>
    subst hn
    have out := fun frames complete (left : Bytes) (hl : left.length < text.length) =>
      length_skipOut_le_of (n := left.length)
        (fun _ t _ ht hr => Nat.le_of_lt (ih t.length (by omega) hr rfl))
        frames complete left rest (Nat.le_refl _)
    rw [skipIn] at h
    have ht := length_skipBlanks_le text
    split at h
    · cases h
    · next hb =>
      rw [hb] at ht
      split at h
      · cases h
      · next hs =>
        have := length_skipScalar_lt hs
        have := out _ _ _ (by omega) h
        omega
      · simp at ht
        split at h
        · have := out _ _ _ (by omega) h
          omega
        · split at h
          · have := out _ _ _ (by omega) h
            omega
          · cases h

/-- Passes over a value of any depth. -/
def skipValue (text : Bytes) : Except Failure Bytes := skipIn [] text

theorem length_skipValue_lt {text rest : Bytes} (h : skipValue text = .ok rest) :
  rest.length < text.length
  := length_skipIn_lt h

end ChatPortal.Json
