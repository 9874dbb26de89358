import ChatPortal.Proofs.Json.Integers
import ChatPortal.Proofs.Json.Reading
import Mathlib.Data.List.Forall2

/-!
# Values are read back

`readValue` reads a value as `render` writes it, in front of anything that does not go on as a
numeral does (`IsExact.readsBack`), if the value `IsExact` and is nested no deeper than there are
levels.  Any reader reads the items and the members of what was written if it reads each of them
(`ReadsAs`).  So the text of an object is one in which its members stand (`isObject_text`), whether
or not they are in order and have different keys.
-/

namespace ChatPortal.Json

/-- The text of the value says all of it: its numbers are integers of at most 64 bits, and the
keys of its objects are in order and different. -/
inductive IsExact : Json → Prop
  | null : IsExact .null
  | bool (b : Bool) : IsExact (.bool b)
  | int {n : Int} (hlow : -0x8000000000000000 ≤ n) (hhigh : n ≤ 0xFFFFFFFFFFFFFFFF) :
      IsExact (.int n)
  | string (s : String) : IsExact (.string s)
  | array {items : List Json} (hitems : ∀ v ∈ items, IsExact v) : IsExact (.array items)
  | object {members : List (String × Json)} (hkeys : members.Pairwise (·.1 < ·.1))
      (hmembers : ∀ m ∈ members, IsExact m.2) : IsExact (.object members)

/-! ### Depth -/

/-- No item is deeper than all items. -/
theorem depth_le_of_mem {items : List Json} {v : Json} (h : v ∈ items) :
  v.depth ≤ depthOfItems items
  := by
  induction items with
  | nil => cases h
  | cons w items ih =>
    rw [depthOfItems]
    rcases List.mem_cons.mp h with rfl | h
    · exact Nat.le_max_left _ _
    · exact Nat.le_trans (ih h) (Nat.le_max_right _ _)

/-- No member is deeper than all members. -/
theorem depth_le_of_mem_members {members : List (String × Json)} {m : String × Json}
    (h : m ∈ members) :
  m.2.depth ≤ depthOfMembers members
  := by
  induction members with
  | nil => cases h
  | cons other members ih =>
    rw [depthOfMembers]
    rcases List.mem_cons.mp h with rfl | h
    · exact Nat.le_max_left _ _
    · exact Nat.le_trans (ih h) (Nat.le_max_right _ _)

/-! ### Objects in order -/

/-- A member with a key behind all others is added behind them. -/
theorem insert_of_forall_lt {key : String} {v : Json} {members : List (String × Json)}
    (h : ∀ m ∈ members, m.1 < key) :
  insert key v members = members ++ [(key, v)]
  := by
  induction members with
  | nil => rfl
  | cons m members ih =>
    rw [List.forall_mem_cons] at h
    have hne : key ≠ m.1 := fun heq => String.lt_irrefl _ (heq ▸ h.1)
    rw [insert, if_neg (String.lt_asymm h.1), if_neg hne, ih h.2, List.cons_append]

/-- Members that are in order make the object of these members. -/
theorem ofMembers_of_pairwise {members : List (String × Json)}
    (h : members.Pairwise (·.1 < ·.1)) :
  ofMembers members = .object members
  := by
  have hfold (more front : List (String × Json)) (h : (front ++ more).Pairwise (·.1 < ·.1)) :
      more.foldl (fun object m => insert m.1 m.2 object) front = front ++ more := by
    induction more generalizing front with
    | nil => rw [List.foldl_nil, List.append_nil]
    | cons m more ih =>
      have hfront : ∀ n ∈ front, n.1 < m.1 :=
        fun n hn => (List.pairwise_append.mp h).2.2 n hn m (List.mem_cons_self ..)
      rw [List.foldl_cons, insert_of_forall_lt hfront, ih _ (by simpa using h)]
      simp
  rw [ofMembers, hfold members [] h, List.nil_append]

/-- Something is read from the text of a value, which begins with no blank and closes nothing. -/
def ReadsAs {α : Type} (reader : Reader α) (v : Json) (a : α) : Prop :=
  ∃ b tail, Utf8.encode (render v) = b :: tail ∧ Byte.isBlank b = false
    ∧ b ≠ Byte.closeBracket
    ∧ ∀ rest, EndsNumeral rest → reader.run (b :: (tail ++ rest)) = .ok (a, rest)

/-- The value is read back from its text. -/
abbrev ReadsBack (levels : Nat) (v : Json) : Prop := ReadsAs (readValue levels) v v

/-! ### Scalars -/

theorem readsBack_of_scalar {v : Json} {b : UInt8} {tail : Bytes}
    (hencode : Utf8.encode (render v) = b :: tail) (hblank : Byte.isBlank b = false)
    (hclose : b ≠ Byte.closeBracket)
    (hread : ∀ rest, EndsNumeral rest → readScalar b (tail ++ rest) = some (.ok (v, rest)))
    (levels : Nat) :
  ReadsBack levels v
  := by
  refine ⟨b, tail, hencode, hblank, hclose, fun rest hrest => ?_⟩
  exact readValue_iff.mpr (.scalar (skipBlanks_cons hblank _) (hread rest hrest))

theorem readScalar_digit {b : UInt8} (hb : (Byte.digit? b).isSome = true) (rest : Bytes) :
  readScalar b rest = some ((readNumber false (b :: rest)).map fun r => (.number r.1, r.2))
  := by
  rw [readScalar, if_neg (ne_of_digit hb rfl), if_neg (ne_of_digit hb rfl),
    if_neg (ne_of_digit hb rfl), if_neg (ne_of_digit hb rfl), if_pos hb]

theorem isBlank_of_digit {b : UInt8} (hb : (Byte.digit? b).isSome = true) :
  Byte.isBlank b = false
  := by
  rw [Bool.eq_false_iff]
  intro hblank
  simp only [Byte.isBlank, Bool.or_eq_true, beq_iff_eq] at hblank
  rcases hblank with ((rfl | rfl) | rfl) | rfl
  all_goals cases hb

/-- An integer is read back. -/
theorem readsBack_int {n : Int} (hlow : -0x8000000000000000 ≤ n)
    (hhigh : n ≤ 0xFFFFFFFFFFFFFFFF) (levels : Nat) :
  ReadsBack levels (.int n)
  := by
  by_cases hneg : n < 0
  · have hrender : render (.int n) = '-' :: Nat.toDigits 10 n.natAbs := if_pos hneg
    have hvalue : integerOf? true n.natAbs = some n := by
      rw [integerOf?, if_pos rfl, if_pos (by omega)]
      exact congrArg some (by omega)
    have htext : Utf8.encode (render (.int n))
        = Byte.minus :: Utf8.encode (Nat.toDigits 10 n.natAbs) := congrArg Utf8.encode hrender
    refine readsBack_of_scalar htext rfl (by decide) (fun rest hrest => ?_) levels
    show some ((readNumber true _).map _) = _
    rw [readNumber_toDigits hvalue hrest]
    rfl
  · have hrender : render (.int n) = Nat.toDigits 10 n.natAbs := if_neg hneg
    have hvalue : integerOf? false n.natAbs = some n := by
      rw [integerOf?, if_neg Bool.false_ne_true, if_pos (by unfold maxSignificand; omega)]
      exact congrArg some (by omega)
    have hread := fun rest (hrest : EndsNumeral rest) => readNumber_toDigits hvalue hrest
    have hdigits : ∀ c ∈ Nat.toDigits 10 n.natAbs, c.isDigit = true :=
      fun _ => Nat.isDigit_of_mem_toDigits (by decide) (by decide)
    cases htoDigits : Nat.toDigits 10 n.natAbs with
    | nil => exact absurd htoDigits Nat.toDigits_ne_nil
    | cons c digits =>
      rw [htoDigits] at hread hdigits hrender
      obtain ⟨hencode, hdigit⟩ := digit?_of_isDigit (hdigits c (List.mem_cons_self ..))
      have hb := Option.isSome_of_eq_some hdigit
      have htext := congrArg Utf8.encode hrender
      simp only [Utf8.encode_cons, hencode, List.cons_append, List.nil_append] at hread htext
      refine readsBack_of_scalar htext (isBlank_of_digit hb) (ne_of_digit hb rfl)
        (fun rest hrest => ?_) levels
      rw [readScalar_digit hb, hread rest hrest]
      rfl

/-! ### Arrays and objects -/

/-- The first item begins where the text begins. -/
theorem nextItem_first {b : UInt8} {rest : Bytes} (hblank : Byte.isBlank b = false)
    (hclose : b ≠ Byte.closeBracket) :
  nextItem true (b :: rest) = .ok (some (b :: rest))
  := by
  rw [nextItem, skipBlanks_cons hblank]
  split
  · next heq => cases heq
  · next heq => exact absurd (List.cons.inj heq).1 hclose
  · next heq =>
    cases heq
    rfl

/-- Any other item begins behind its comma. -/
theorem nextItem_comma {b : UInt8} {rest : Bytes} (hblank : Byte.isBlank b = false)
    (hclose : b ≠ Byte.closeBracket) :
  nextItem false (Byte.comma :: b :: rest) = .ok (some (b :: rest))
  := by
  rw [nextItem, skipBlanks_cons rfl]
  split
  · next heq => cases heq
  · next heq => exact absurd (List.cons.inj heq).1 (by decide)
  · next heq =>
    cases heq
    rw [if_neg Bool.false_ne_true, if_pos rfl, skipBlanks_cons hblank]
    split
    · next heq => cases heq
    · next heq => exact absurd (List.cons.inj heq).1 hclose
    · rfl

theorem nextItem_closeBracket (first : Bool) (rest : Bytes) :
  nextItem first (Byte.closeBracket :: rest) = .ok none
  := rfl

section Lists

variable {α : Type} {reader : Reader α}

/-- Between two items no numeral goes on. -/
theorem endsNumeral_renderMoreItems (items : List Json) (rest : Bytes) :
  EndsNumeral (Utf8.encode (renderMoreItems items) ++ Byte.closeBracket :: rest)
  := by
  cases items with
  | nil =>
    rintro b ⟨⟩
    decide
  | cons v items =>
    rintro b ⟨⟩
    decide

/-- The items after the first are read. -/
theorem itemsRead_renderMoreItems {items : List Json} {read : List α}
    (h : List.Forall₂ (ReadsAs reader) items read) (rest : Bytes) :
  ItemsRead reader false
    (Utf8.encode (renderMoreItems items) ++ Byte.closeBracket :: rest) read
    (Byte.closeBracket :: rest)
  := by
  induction h with
  | nil => exact .nil (nextItem_closeBracket false rest)
  | @cons v _ items _ hfirst _ ih =>
    obtain ⟨b, tail, hencode, hblank, hclose, hread⟩ := hfirst
    have htext : Utf8.encode (renderMoreItems (v :: items)) ++ Byte.closeBracket :: rest
        = Byte.comma :: b :: (tail ++ (Utf8.encode (renderMoreItems items)
          ++ Byte.closeBracket :: rest)) := by
      rw [renderMoreItems, Utf8.encode_cons, Utf8.encode_append, hencode]
      simp only [List.append_assoc, List.cons_append]
      rfl
    rw [htext]
    exact .cons (nextItem_comma hblank hclose)
      (hread _ (endsNumeral_renderMoreItems items rest)) ih

/-- The items of an array are read. -/
theorem itemsRead_renderItems {items : List Json} {read : List α}
    (h : List.Forall₂ (ReadsAs reader) items read) (rest : Bytes) :
  ItemsRead reader true
    (Utf8.encode (renderItems items) ++ Byte.closeBracket :: rest) read
    (Byte.closeBracket :: rest)
  := by
  cases h with
  | nil => exact .nil (nextItem_closeBracket true rest)
  | @cons v _ items _ hfirst hmore =>
    obtain ⟨b, tail, hencode, hblank, hclose, hread⟩ := hfirst
    have htext : Utf8.encode (renderItems (v :: items)) ++ Byte.closeBracket :: rest
        = b :: (tail ++ (Utf8.encode (renderMoreItems items) ++ Byte.closeBracket :: rest)) := by
      rw [renderItems, Utf8.encode_append, hencode]
      simp only [List.append_assoc, List.cons_append]
    rw [htext]
    exact .cons (nextItem_first hblank hclose)
      (hread _ (endsNumeral_renderMoreItems items rest)) (itemsRead_renderMoreItems hmore rest)

/-- Between two members no numeral goes on. -/
theorem endsNumeral_renderMoreMembers (members : List (String × Json)) (rest : Bytes) :
  EndsNumeral (Utf8.encode (renderMoreMembers members) ++ Byte.closeBrace :: rest)
  := by
  cases members with
  | nil =>
    rintro b ⟨⟩
    decide
  | cons m members =>
    rintro b ⟨⟩
    decide

/-- A member is read under its key. -/
def MemberReadsAs (reader : Reader α) (m : String × Json) (n : String × α) : Prop :=
  n.1 = m.1 ∧ ReadsAs reader m.2 n.2

/-- The members after the first are read. -/
theorem membersRead_renderMoreMembers {members : List (String × Json)} {read : List (String × α)}
    (h : List.Forall₂ (MemberReadsAs reader) members read) (rest : Bytes) :
  MembersRead reader false
    (Utf8.encode (renderMoreMembers members) ++ Byte.closeBrace :: rest) read
    (Byte.closeBrace :: rest)
  := by
  induction h with
  | nil => exact .nil rfl
  | @cons m n members _ hfirst _ ih =>
    obtain ⟨key, a⟩ := n
    obtain ⟨rfl : key = m.1, b, tail, hencode, hblank, hclose, hread⟩ := hfirst
    have htext : Utf8.encode (renderMoreMembers (m :: members)) ++ Byte.closeBrace :: rest
        = Byte.comma :: (Utf8.encode (quote m.1.toList) ++ Byte.colon :: b ::
          (tail ++ (Utf8.encode (renderMoreMembers members) ++ Byte.closeBrace :: rest))) := by
      rw [renderMoreMembers, Utf8.encode_cons, Utf8.encode_append, Utf8.encode_cons,
        Utf8.encode_append, hencode]
      simp only [List.append_assoc, List.cons_append]
      rfl
    rw [htext]
    refine .cons (nextKey_comma ?_) (readString_quote m.1 _) (readColon_colon _)
      (hread _ (endsNumeral_renderMoreMembers members rest)) ih
    rw [encode_quote, List.cons_append, skipBlanks_cons rfl]

/-- The members of an object are read. -/
theorem membersRead_renderMembers {members : List (String × Json)} {read : List (String × α)}
    (h : List.Forall₂ (MemberReadsAs reader) members read) (rest : Bytes) :
  MembersRead reader true
    (Utf8.encode (renderMembers members) ++ Byte.closeBrace :: rest) read
    (Byte.closeBrace :: rest)
  := by
  cases h with
  | nil => exact .nil rfl
  | @cons m n members _ hfirst hmore =>
    obtain ⟨key, a⟩ := n
    obtain ⟨rfl : key = m.1, b, tail, hencode, hblank, hclose, hread⟩ := hfirst
    have htext : Utf8.encode (renderMembers (m :: members)) ++ Byte.closeBrace :: rest
        = Utf8.encode (quote m.1.toList) ++ Byte.colon :: b ::
          (tail ++ (Utf8.encode (renderMoreMembers members) ++ Byte.closeBrace :: rest)) := by
      rw [renderMembers, Utf8.encode_append, Utf8.encode_cons, Utf8.encode_append, hencode]
      simp only [List.append_assoc, List.cons_append]
      rfl
    rw [htext]
    refine .cons (nextKey_first ?_) (readString_quote m.1 _) (readColon_colon _)
      (hread _ (endsNumeral_renderMoreMembers members rest))
      (membersRead_renderMoreMembers hmore rest)
    rw [encode_quote, List.cons_append, skipBlanks_cons rfl]

end Lists

section Nesting

variable {levels : Nat}

/-- An array is read as what its items are read as. -/
theorem readsAs_array {items read : List Json}
    (h : List.Forall₂ (ReadsAs (readValue levels)) items read) :
  ReadsAs (readValue (levels + 1)) (.array items) (.array read)
  := by
  refine ⟨Byte.openBracket, Utf8.encode (renderItems items ++ [']']), rfl, rfl, by decide,
    fun rest _ => ?_⟩
  rw [Utf8.encode_append, List.append_assoc]
  exact readValue_iff.mpr (.array rfl (itemsRead_renderItems h rest) (closeArray_closeBracket rfl))

/-- An object is read as the one that is made of what its members are read as. -/
theorem readsAs_object {members read : List (String × Json)}
    (h : List.Forall₂ (MemberReadsAs (readValue levels)) members read) :
  ReadsAs (readValue (levels + 1)) (.object members) (ofMembers read)
  := by
  refine ⟨Byte.openBrace, Utf8.encode (renderMembers members ++ ['\x7d']), rfl, rfl, by decide,
    fun rest _ => ?_⟩
  rw [Utf8.encode_append, List.append_assoc]
  exact readValue_iff.mpr (.object rfl (membersRead_renderMembers h rest)
    (closeObject_closeBrace rfl))

theorem forall₂_memberReadsAs {members : List (String × Json)}
    (h : ∀ m ∈ members, ReadsBack levels m.2) :
  List.Forall₂ (MemberReadsAs (readValue levels)) members members
  := List.forall₂_same.mpr fun m hm => ⟨rfl, h m hm⟩

end Nesting

/-! ### Values -/

/-- A value that is nested no deeper than there are levels is read back. -/
theorem IsExact.readsBack {v : Json} (h : v.IsExact) {levels : Nat} (hlevels : v.depth ≤ levels) :
  ReadsBack levels v
  := by
  induction h generalizing levels with
  | null => exact readsBack_of_scalar rfl rfl (by decide) (fun _ _ => rfl) levels
  | bool b =>
    cases b with
    | true => exact readsBack_of_scalar rfl rfl (by decide) (fun _ _ => rfl) levels
    | false => exact readsBack_of_scalar rfl rfl (by decide) (fun _ _ => rfl) levels
  | int hlow hhigh => exact readsBack_int hlow hhigh levels
  | string s =>
    have htext : Utf8.encode (render (.string s))
        = Byte.quote :: Utf8.encode (s.toList.flatMap escape ++ ['"']) := by
      rw [render, encode_quote]
    exact readsBack_of_scalar htext rfl (by decide) (fun rest _ => readScalar_quote s rest) levels
  | @array items hitems ih =>
    rw [depth] at hlevels
    obtain ⟨levels, rfl⟩ : ∃ fewer, levels = fewer + 1 := ⟨levels - 1, by omega⟩
    apply readsAs_array
    apply List.forall₂_same.mpr
    intro v hv
    apply ih v hv
    have := depth_le_of_mem hv
    omega
  | @object members hkeys hmembers ih =>
    rw [depth] at hlevels
    obtain ⟨levels, rfl⟩ : ∃ fewer, levels = fewer + 1 := ⟨levels - 1, by omega⟩
    have hback : ∀ m ∈ members, ReadsBack levels m.2 := by
      intro m hm
      apply ih m hm
      have := depth_le_of_mem_members hm
      omega
    have hobject := readsAs_object (forall₂_memberReadsAs hback)
    rwa [ofMembers_of_pairwise hkeys] at hobject

theorem bytesOf_text_array (items : List Json) :
  bytesOf (Json.array items).text
    = Byte.openBracket :: (Utf8.encode (renderItems items) ++ [Byte.closeBracket])
  := by
  rw [bytesOf, text, String.toList_ofList, render, Utf8.encode_cons, Utf8.encode_append]
  rfl

/-- The text of an array is an array with what its items are read as. -/
theorem isArray_text_of_readsAs {items read : List Json}
    (h : List.Forall₂ (ReadsAs (readValue innerLevels)) items read) :
  IsArray (bytesOf (Json.array items).text) read
  := by
  rw [bytesOf_text_array]
  exact .intro (skipBlanks_cons rfl _) (itemsRead_renderItems h [])
    (closeArray_closeBracket rfl) rfl

/-- The text of an object is an object with what its members are read as, also where these are not
in order or have one key. -/
theorem isObject_text_of_readsAs {members read : List (String × Json)}
    (h : List.Forall₂ (MemberReadsAs (readValue innerLevels)) members read) :
  IsObject (bytesOf (Json.object members).text) read
  := by
  have htext : bytesOf (Json.object members).text
      = Byte.openBrace :: (Utf8.encode (renderMembers members) ++ [Byte.closeBrace]) := by
    rw [bytesOf, text, String.toList_ofList, render, Utf8.encode_cons, Utf8.encode_append]
    rfl
  rw [htext]
  exact .intro (skipBlanks_cons rfl _) (membersRead_renderMembers h [])
    (closeObject_closeBrace rfl) rfl

/-- The text of an array is an array with its items. -/
theorem isArray_text {items : List Json}
    (h : ∀ v ∈ items, v.IsExact ∧ v.depth ≤ innerLevels) :
  IsArray (bytesOf (Json.array items).text) items
  := by
  apply isArray_text_of_readsAs
  exact List.forall₂_same.mpr fun v hv => (h v hv).1.readsBack (h v hv).2

/-- The text of an object is an object with its members, also where these are not in order or
have one key. -/
theorem isObject_text {members : List (String × Json)}
    (h : ∀ m ∈ members, m.2.IsExact ∧ m.2.depth ≤ innerLevels) :
  IsObject (bytesOf (Json.object members).text) members
  := by
  apply isObject_text_of_readsAs
  exact forall₂_memberReadsAs fun m hm => (h m hm).1.readsBack (h m hm).2

end ChatPortal.Json
