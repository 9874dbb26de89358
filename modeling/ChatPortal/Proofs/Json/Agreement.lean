import ChatPortal.Proofs.Json.Reading
import ChatPortal.Proofs.Json.Skipping

/-!
# Two ways to decode

A decoder takes the same out of a text as out of the value that stands there
(`Decoder.Agrees`), or does so where one of certain values stands (`Decoder.AgreesOn`).  So a record
is read from the text of an object as it is taken from the members in the order in which they stand
(`Decoder.record_decode_of_agreesOn`), and from the text of an array as it is taken from the items
(`Decoder.record_decode_of_isArray`).
-/

namespace ChatPortal.Json.Decoder

variable {α β σ : Type}

theorem eq_ok_of_toOption {ε : Type} {e : Except ε α} {a : α} (h : e.toOption = some a) :
  e = .ok a
  := by
  cases e with
  | error e => cases h
  | ok b => exact congrArg Except.ok (Option.some.inj h)

/-- What is read of a value is what is taken from it. -/
def Agrees (decoder : Decoder α) : Prop :=
  ∀ {levels : Nat} {text rest : Bytes} {v : Json}, (readValue levels).run text = .ok (v, rest) →
    ((decoder.read levels).run text).toOption = (decoder.ofValue v).toOption.map (·, rest)

/-- What is read of a certain value is what is taken from it. -/
def AgreesOn (decoder : Decoder α) (v : Json) : Prop :=
  ∀ {levels : Nat} {text rest : Bytes}, (readValue levels).run text = .ok (v, rest) →
    ((decoder.read levels).run text).toOption = (decoder.ofValue v).toOption.map (·, rest)

theorem Agrees.on {decoder : Decoder α} (h : decoder.Agrees) (v : Json) :
  decoder.AgreesOn v
  := h

theorem json_agrees :
  json.Agrees
  := by
  intro levels text rest v h
  rw [json, h]
  rfl

/-- A function changes nothing about what is read of a value. -/
theorem AgreesOn.map {decoder : Decoder α} {v : Json} (h : decoder.AgreesOn v) (f : α → β) :
  (decoder.map f).AgreesOn v
  := by
  intro levels text rest hread
  have hmap : (((decoder.map f).read levels).run text).toOption
      = ((decoder.read levels).run text).toOption.map fun r => (f r.1, r.2) := by
    simp only [Decoder.map, Reader.run, Reader.map]
    cases decoder.read levels text with
    | error _ => rfl
    | ok _ => rfl
  have hvalue : ((decoder.map f).ofValue v).toOption = (decoder.ofValue v).toOption.map f := by
    simp only [Decoder.map]
    cases decoder.ofValue v with
    | error _ => rfl
    | ok _ => rfl
  rw [hmap, h hread, hvalue, Option.map_map, Option.map_map]
  rfl

theorem Agrees.map {decoder : Decoder α} (h : decoder.Agrees) (f : α → β) :
  (decoder.map f).Agrees
  := by
  intro levels text rest v
  exact AgreesOn.map (Agrees.on h v) f

/-- A scalar is taken as it is read if no array and no object is accepted. -/
theorem leaf_agrees {expected : String} {accept : Acceptance α}
    (harray : ∀ items, accept (.array items) = none)
    (hobject : ∀ members, accept (.object members) = none) :
  (leaf expected accept).Agrees
  := by
  have hnone {levels : Nat} {text rest : Bytes} {b : UInt8}
      (hblanks : skipBlanks text = b :: rest) (hscalar : readScalar b rest = none) :
      (((leaf expected accept).read levels).run text).toOption = none := by
    rw [Reader.run, leaf]
    simp only
    split
    · next heq => cases hblanks.symm.trans heq
    · next heq =>
      cases hblanks.symm.trans heq
      split
      · next heq => cases hscalar.symm.trans heq
      · rfl
  intro levels text left v h
  cases readValue_iff.mp h with
  | @scalar _ _ rest _ b _ hblanks hscalar =>
    cases haccept : accepted expected accept v with
    | ok a =>
      rw [leaf_read hblanks hscalar haccept]
      simp only [leaf, haccept]
      rfl
    | error issue =>
      rw [Reader.run, leaf]
      simp only [haccept]
      split
      · next heq => cases hblanks.symm.trans heq
      · next heq =>
        cases hblanks.symm.trans heq
        split
        · next heq =>
          cases hscalar.symm.trans heq
          simp only [haccept]
          rfl
        · rfl
  | array hblanks =>
    rw [hnone hblanks rfl, leaf]
    simp only [accepted, harray]
    rfl
  | object hblanks =>
    rw [hnone hblanks rfl, leaf]
    simp only [accepted, Json.ofMembers, hobject]
    rfl

theorem integer_agrees (name : String) (low high : Int) :
  (integer name low high).Agrees
  := by
  apply leaf_agrees
  · intro items
    rfl
  · intro members
    rfl

theorem int64_agrees :
  int64.Agrees
  := integer_agrees _ _ _

theorem nat64_agrees :
  nat64.Agrees
  := Agrees.map (integer_agrees _ _ _) _

theorem string_agrees :
  string.Agrees
  := by
  apply leaf_agrees
  · intro items
    rfl
  · intro members
    rfl

theorem named_agrees (variants : List (String × α)) :
  (named variants).Agrees
  := by
  apply leaf_agrees
  · intro items
    rfl
  · intro members
    rfl

/-- A named value that is not written as an object is read as a name, if it is read at all. -/
theorem choice_read {variants : List (String × α)} {levels : Nat} {text rest : Bytes} {b : UInt8}
    (hblanks : skipBlanks text = b :: rest) (hbrace : b ≠ Byte.openBrace) :
  (choice variants).read levels text
    = if b = Byte.quote then (named variants).read levels text
      else .error (.before .expectedValue rest)
  := by
  rw [choice]
  simp only
  split
  · next heq => cases hblanks.symm.trans heq
  · next heq =>
    cases hblanks.symm.trans heq
    rw [if_neg hbrace]

/-- A named value is taken as it is read, unless it is written as an object. -/
theorem choice_agreesOn {variants : List (String × α)} {v : Json}
    (h : ∀ members, v ≠ .object members) :
  (choice variants).AgreesOn v
  := by
  intro levels text left hread
  have hagree := Agrees.on (named_agrees variants) v hread
  cases readValue_iff.mp hread with
  | @scalar _ _ rest _ b _ hblanks hscalar =>
    have hbrace : b ≠ Byte.openBrace := by
      rintro rfl
      cases hscalar
    rw [Reader.run, choice_read hblanks hbrace]
    cases ScalarRead.of_readScalar hscalar with
    | string hb => rw [if_pos hb, ← Reader.run, hagree]; rfl
    | null hb | true hb | false hb | negative hb => subst hb; rfl
    | number hb =>
      rw [if_neg (ne_of_digit hb rfl)]
      rfl
  | array hblanks =>
    rw [Reader.run, choice_read hblanks (by decide)]
    rfl
  | object => exact absurd rfl (h _)

/-! ### Objects -/

section Members

variable {fields : List (Field σ)} {levels : Nat} {first : Bool} {draft : Draft σ}
  {text start colon value left : Bytes} {key : String}

/-- A member that no field is named for is passed over. -/
theorem readKeyed_unknown (hnext : nextKey first text = .ok (some start))
    (hkey : readString start = .ok (key, colon)) (hcolon : readColon colon = .ok value)
    (hfield : fields.find? (·.isNamed key) = none) (hskip : skipValue value = .ok left) :
  (readKeyed fields levels first draft text).map (·.val)
    = (readKeyed fields levels false draft left).map (·.val)
  := by
  rw [readKeyed]
  split
  · next heq => cases hnext.symm.trans heq
  · next heq => cases hnext.symm.trans heq
  · next heq =>
    cases hnext.symm.trans heq
    split
    · next heq => cases hkey.symm.trans heq
    · next heq =>
      cases hkey.symm.trans heq
      simp only [hfield]
      split
      · next heq => cases hcolon.symm.trans heq
      · next heq =>
        cases hcolon.symm.trans heq
        split
        · next heq => cases hskip.symm.trans heq
        · next heq =>
          cases hskip.symm.trans heq
          cases readKeyed fields levels false draft left with
          | error _ => rfl
          | ok _ => rfl

/-- A field is not found twice, and no value is read that it does not take. -/
theorem readKeyed_refused {field : Field σ} (hnext : nextKey first text = .ok (some start))
    (hkey : readString start = .ok (key, colon)) (hcolon : readColon colon = .ok value)
    (hfield : fields.find? (·.isNamed key) = some field)
    (hrefused : draft.found.contains field.name = true
      ∨ ((field.value.read levels).run value).toOption = none) :
  ∃ failure, readKeyed fields levels first draft text = .error failure
  := by
  rw [readKeyed]
  split
  · next heq => cases hnext.symm.trans heq
  · next heq => cases hnext.symm.trans heq
  · next heq =>
    cases hnext.symm.trans heq
    split
    · next heq => cases hkey.symm.trans heq
    · next heq =>
      cases hkey.symm.trans heq
      simp only [hfield]
      split
      · exact ⟨_, rfl⟩
      · next hnew =>
        split
        · next heq => cases hcolon.symm.trans heq
        · next heq =>
          cases hcolon.symm.trans heq
          split
          · exact ⟨_, rfl⟩
          · next hread =>
            rcases hrefused with hfound | hnone
            · exact absurd hfound hnew
            · rw [Reader.run, hread] at hnone
              cases hnone

/-- The record that is read of the members up to the end of an object, and where that is. -/
def keyed? (fields : List (Field σ)) (levels : Nat) (first : Bool) (draft : Draft σ)
    (text : Bytes) : Option (σ × Bytes) :=
  ((readKeyed fields levels first draft text).map (·.val)).toOption.bind fun read =>
    (finish fields read.1).toOption.map (·, read.2)

/-- The record that is read of the members is the one that is taken from them, if the fields agree
on what stands under their names. -/
theorem keyed?_eq {members : List (String × Json)}
    (hfields : ∀ m ∈ members, ∀ field ∈ fields, field.isNamed m.1 = true →
      field.value.AgreesOn m.2)
    (h : MembersRead (readValue levels) first text members left) (draft : Draft σ) :
  keyed? fields levels first draft text
    = (ofMembers fields draft members).toOption.map (·, left)
  := by
  induction h generalizing draft with
  | nil hnext =>
    rw [keyed?, readKeyed_nil hnext]
    rfl
  | @cons first text _ _ value rest _ key v more hnext hkey hcolon hvalue _ ih =>
    rw [List.forall_mem_cons] at hfields
    replace ih := ih hfields.2
    rw [ofMembers]
    cases hfield : fields.find? (·.isNamed key) with
    | none =>
      rw [keyed?, readKeyed_unknown hnext hkey hcolon hfield (skipValue_of_read hvalue)]
      exact ih draft
    | some field =>
      have hnamed : field.isNamed key = true := by simpa using List.find?_some hfield
      have hagree := hfields.1 field (List.mem_of_find?_eq_some hfield) hnamed hvalue
      simp only
      split
      · next hfound =>
        obtain ⟨failure, herror⟩ : ∃ failure, readKeyed fields levels first draft text
            = .error failure := readKeyed_refused hnext hkey hcolon hfield (.inl hfound)
        rw [keyed?, herror]
        rfl
      · next hnew =>
        cases hput : field.value.ofValue v with
        | error issue =>
          rw [hput] at hagree
          obtain ⟨failure, herror⟩ : ∃ failure, readKeyed fields levels first draft text
              = .error failure := readKeyed_refused hnext hkey hcolon hfield (.inr hagree)
          rw [keyed?, herror]
          rfl
        | ok put =>
          rw [hput] at hagree
          have hread := eq_ok_of_toOption hagree
          rw [keyed?, readKeyed_cons hnext hkey hcolon hfield (Bool.eq_false_iff.mpr hnew) hread]
          exact ih (addField draft field put)

end Members

/-- A record is read of an object if its members make one and nothing is wrong with its end. -/
theorem record_run_iff {type : String} {initial value : σ} {fields : List (Field σ)} {levels : Nat}
    {text rest left : Bytes} (hopen : skipBlanks text = Byte.openBrace :: rest) :
  ((record type initial fields).read (levels + 1)).run text = .ok (value, left)
    ↔ ∃ after, keyed? fields levels true ⟨initial, []⟩ rest = some (value, after)
      ∧ closeObject after = (none, left)
  := by
  constructor
  · intro h
    obtain ⟨⟨r, hr⟩, hread, rfl⟩ := map_eq_ok h
    simp only [record] at hread
    split at hread
    · next heq => exact absurd (List.cons.inj (hopen.symm.trans heq)).1 (by decide)
    · next heq =>
      obtain ⟨-, rfl⟩ := List.cons.inj (hopen.symm.trans heq)
      split at hread
      · cases hread
      · next draft after _ hdraft =>
        split at hread
        · cases hread
        · cases hread
        · next hfinish hclose =>
          cases hread
          refine ⟨after, ?_, hclose⟩
          rw [keyed?, hdraft]
          show (finish fields draft).toOption.map (·, after) = _
          rw [hfinish]
          rfl
    · next hne => exact absurd hopen (hne rest)
  · rintro ⟨after, hkeyed, hclose⟩
    obtain ⟨⟨draft, _⟩, hdraft, hfinished⟩ := Option.bind_eq_some_iff.mp hkeyed
    obtain ⟨_, hfinish, heq⟩ := Option.map_eq_some_iff.mp hfinished
    cases heq
    exact record_read hopen (eq_ok_of_toOption hdraft) (eq_ok_of_toOption hfinish) hclose

/-- A record that is taken from the members is read of an object, where the fields agree on what
stands under their names and nothing is wrong with the end. -/
theorem record_run_of_members {type : String} {initial value : σ} {fields : List (Field σ)}
    {levels : Nat} {text rest after left : Bytes} {members : List (String × Json)}
    (hfields : ∀ m ∈ members, ∀ field ∈ fields, field.isNamed m.1 = true →
      field.value.AgreesOn m.2)
    (hopen : skipBlanks text = Byte.openBrace :: rest)
    (hmembers : MembersRead (readValue levels) true rest members after)
    (hclose : closeObject after = (none, left))
    (hvalue : ofMembers fields ⟨initial, []⟩ members = .ok value) :
  ((record type initial fields).read (levels + 1)).run text = .ok (value, left)
  := by
  refine (record_run_iff hopen).mpr ⟨after, ?_, hclose⟩
  rw [keyed?_eq hfields hmembers, hvalue]
  rfl

/-- A record is read of an object if it is taken from the members, where the fields agree on what
stands under their names. -/
theorem record_decode_of_agreesOn {type : String} {initial value : σ} {fields : List (Field σ)}
    {text : Bytes} {members : List (String × Json)}
    (hfields : ∀ m ∈ members, ∀ field ∈ fields, field.isNamed m.1 = true →
      field.value.AgreesOn m.2)
    (h : IsObject text members) :
  (record type initial fields).decode text = .ok value
    ↔ ofMembers fields ⟨initial, []⟩ members = .ok value
  := by
  obtain ⟨hopen, hmembers, hclose, hend⟩ := h
  rw [decode, Reader.document_iff]
  constructor
  · rintro ⟨left, hread, -⟩
    obtain ⟨after, hkeyed, -⟩ := (record_run_iff hopen).mp hread
    have htaken := (keyed?_eq hfields hmembers _).symm.trans hkeyed
    obtain ⟨_, hvalue, heq⟩ := Option.map_eq_some_iff.mp htaken
    cases heq
    exact eq_ok_of_toOption hvalue
  · intro hvalue
    exact ⟨_, record_run_of_members hfields hopen hmembers hclose hvalue, hend⟩

/-- A record is read of nothing but an object or an array. -/
theorem opens_of_record_decode {type : String} {initial value : σ} {fields : List (Field σ)}
    {text : Bytes} (h : (record type initial fields).decode text = .ok value) :
  ∃ b rest, skipBlanks text = b :: rest ∧ (b = Byte.openBracket ∨ b = Byte.openBrace)
  := by
  obtain ⟨left, hread, -⟩ := Reader.document_iff.mp h
  obtain ⟨r, hread, -⟩ := map_eq_ok hread
  simp only [record] at hread
  split at hread
  · next hopen => exact ⟨_, _, hopen, .inl rfl⟩
  · next hopen => exact ⟨_, _, hopen, .inr rfl⟩
  · cases hread

/-! ### Arrays -/

/-- The record that is taken from the items up to the end of an array is read of them. -/
theorem readPositional_of_ofItems {expected : String} {count levels index : Nat}
    {fields : List (Field σ)} (hfields : ∀ field ∈ fields, field.value.Agrees) {initial value : σ}
    {text after : Bytes} {items : List Json}
    (h : ItemsRead (readValue levels) (index == 0) text items after)
    (hvalue : ofItems expected count fields index initial items = .ok value) :
  (readPositional expected levels fields index initial text).map (·.val) = .ok (value, after)
  := by
  induction fields generalizing index initial text items with
  | nil =>
    cases h with
    | nil hnext =>
      cases hvalue
      rfl
    | cons => cases hvalue
  | cons field more ih =>
    rw [List.forall_mem_cons] at hfields
    rw [readPositional]
    cases h with
    | nil hnext =>
      rw [ofItems] at hvalue
      split at hvalue
      · cases hvalue
      · next hoptional =>
        split
        · next heq => cases hnext.symm.trans heq
        · rw [if_neg hoptional]
          exact ih hfields.2 (.nil hnext) hvalue
        · next heq => cases hnext.symm.trans heq
    | @cons _ _ start rest _ v items hnext hitem hmore =>
      rw [ofItems] at hvalue
      split at hvalue
      · cases hvalue
      · next put hput =>
        have hagree := hfields.1 hitem
        rw [hput] at hagree
        rw [← show (index + 1 == 0) = false from rfl] at hmore
        obtain ⟨⟨r, hr⟩, hread, rfl⟩ := map_eq_ok (eq_ok_of_toOption hagree)
        obtain ⟨⟨s, hs⟩, hrest, rfl⟩ := map_eq_ok (ih hfields.2 hmore hvalue)
        split
        · next heq => cases hnext.symm.trans heq
        · next heq => cases hnext.symm.trans heq
        · next heq =>
          cases hnext.symm.trans heq
          simp only [hread, hrest]
          rfl

/-- A record is read of an array if it is taken from the items and nothing is wrong with its
end. -/
theorem record_run_of_items {type : String} {initial value : σ} {fields : List (Field σ)}
    (hfields : ∀ field ∈ fields, field.value.Agrees) {levels : Nat}
    {text rest after left : Bytes} {items : List Json}
    (hopen : skipBlanks text = Byte.openBracket :: rest)
    (hitems : ItemsRead (readValue levels) true rest items after)
    (hclose : closeArray after = (none, left))
    (hvalue : (record type initial fields).ofValue (.array items) = .ok value) :
  ((record type initial fields).read (levels + 1)).run text = .ok (value, left)
  := by
  obtain ⟨⟨r, hr⟩, hread, rfl⟩ := map_eq_ok (readPositional_of_ofItems hfields hitems hvalue)
  rw [Reader.run, record]
  simp only
  split
  · next heq =>
    obtain ⟨-, rfl⟩ := List.cons.inj (hopen.symm.trans heq)
    simp only [hread]
    split
    · next heq => cases hclose.symm.trans heq
    · next heq =>
      cases hclose.symm.trans heq
      rfl
  · next heq => exact absurd (List.cons.inj (hopen.symm.trans heq)).1 (by decide)
  · next hne _ => exact absurd hopen (hne rest)

/-- The record that is taken from the items is read of an array. -/
theorem record_decode_of_isArray {type : String} {initial value : σ} {fields : List (Field σ)}
    (hfields : ∀ field ∈ fields, field.value.Agrees) {text : Bytes} {items : List Json}
    (h : IsArray text items)
    (hvalue : (record type initial fields).ofValue (.array items) = .ok value) :
  (record type initial fields).decode text = .ok value
  := by
  obtain ⟨hopen, hitems, hclose, hend⟩ := h
  exact Reader.document_iff.mpr
    ⟨_, record_run_of_items hfields hopen hitems hclose hvalue, hend⟩

end ChatPortal.Json.Decoder
