import ChatPortal.Proofs.Json.Parts
import ChatPortal.Proofs.Json.Values

/-!
# Records in lists

A decoder that `ReadsObjects` takes a value from an object in which it stands, be it from the text
or from the object itself (`IsWhole.readsObjects`).  So it takes every value of a list from the
object in its place (`Decoder.ReadsObjects.list_ofValue`, `Decoder.ReadsObjects.list_decode`), and
no list where one of them is missing (`Decoder.list_ofValue_of_not`).
-/

namespace ChatPortal.Json

namespace Decoder

variable {α : Type} {decoder : Decoder α}

/-- A list is taken from an array if each value is taken from the item in its place. -/
theorem list_ofValue_eq_ok {items : List Json} {values : List α} :
  (list decoder).ofValue (.array items) = .ok values
    ↔ List.Forall₂ (fun v a => decoder.ofValue v = .ok a) items values
  := by
  show items.mapM decoder.ofValue = .ok values ↔ _
  induction items generalizing values with
  | nil =>
    constructor
    · rintro ⟨⟩
      exact .nil
    · rintro ⟨⟩
      rfl
  | cons v items ih =>
    rw [List.mapM_cons]
    cases hvalue : decoder.ofValue v with
    | error issue =>
      constructor
      · intro h
        cases h
      · rintro (_ | ⟨ha, -⟩)
        cases hvalue.symm.trans ha
    | ok a =>
      cases hmore : items.mapM decoder.ofValue with
      | error issue =>
        constructor
        · intro h
          cases h
        · rintro (_ | ⟨-, hrest⟩)
          cases hmore.symm.trans (ih.mpr hrest)
      | ok more =>
        constructor
        · rintro ⟨⟩
          exact .cons hvalue (ih.mp hmore)
        · rintro (_ | ⟨ha, hrest⟩)
          obtain rfl := Except.ok.inj (hvalue.symm.trans ha)
          obtain rfl := Except.ok.inj (hmore.symm.trans (ih.mpr hrest))
          rfl

/-- No list is taken from an array with an item from which nothing is taken. -/
theorem list_ofValue_of_not {items : List Json} {v : Json} (hv : v ∈ items)
    (hnone : ∀ a, decoder.ofValue v ≠ .ok a) :
  ∃ issue, (list decoder).ofValue (.array items) = .error issue
  := by
  cases hvalue : (list decoder).ofValue (.array items) with
  | error issue => exact ⟨issue, rfl⟩
  | ok values =>
    have hitems := list_ofValue_eq_ok.mp hvalue
    obtain ⟨a, -, ha⟩ : ∃ a ∈ values, decoder.ofValue v = .ok a := by
      clear hvalue
      induction hitems with
      | nil => cases hv
      | cons hfirst _ ih =>
        rcases List.mem_cons.mp hv with rfl | hv
        · exact ⟨_, List.mem_cons_self .., hfirst⟩
        · obtain ⟨a, hmem, ha⟩ := ih hv
          exact ⟨a, List.mem_cons_of_mem _ hmem, ha⟩
    exact absurd ha (hnone a)

/-- A list is read of an array if its items are read and nothing is wrong with its end. -/
theorem list_run_of_items {levels : Nat} {text rest after left : Bytes} {values : List α}
    (hopen : skipBlanks text = Byte.openBracket :: rest)
    (hitems : ItemsRead (decoder.read levels) true rest values after)
    (hclose : closeArray after = (none, left)) :
  ((list decoder).read (levels + 1)).run text = .ok (values, left)
  := by
  obtain ⟨⟨r, hr⟩, hread, rfl⟩ := map_eq_ok (readArray_iff.mpr ⟨after, hitems, hclose⟩)
  rw [Reader.run, list]
  simp only
  split
  · next heq =>
    cases hopen.symm.trans heq
    simp only [hread]
    rfl
  · next hne => exact absurd hopen (hne rest)

/-- A list is read from the text of an array if each value is read from the item in its place. -/
theorem list_decode_text {items : List Json} {values : List α}
    (h : List.Forall₂ (ReadsAs (decoder.read innerLevels)) items values) :
  (list decoder).decode (bytesOf (Json.array items).text) = .ok values
  := by
  rw [bytesOf_text_array]
  exact Reader.document_iff.mpr ⟨[], list_run_of_items (skipBlanks_cons rfl _)
    (itemsRead_renderItems h []) (closeArray_closeBracket rfl), rfl⟩

/-- A decoder takes a value from an object if the value stands among the members, be it from the
text of the object or from the object itself. -/
structure ReadsObjects (decoder : Decoder α) (StandsIn : α → List (String × Json) → Prop) :
    Prop where
  decode_eq_ok : ∀ {text : Bytes} {members : List (String × Json)} {a : α},
    IsObject text members → (decoder.decode text = .ok a ↔ StandsIn a members)
  ofValue_eq_ok : ∀ {members : List (String × Json)} {a : α},
    decoder.ofValue (.object members) = .ok a ↔ StandsIn a members
  run_of_members : ∀ {levels : Nat} {text rest after left : Bytes}
    {members : List (String × Json)} {a : α}, skipBlanks text = Byte.openBrace :: rest →
    MembersRead (readValue levels) true rest members after → closeObject after = (none, left) →
    StandsIn a members → (decoder.read (levels + 1)).run text = .ok (a, left)
  merged : ∀ {members : List (String × Json)} {a : α},
    StandsIn a members → StandsIn a (Json.merged members)

end Decoder

/-- A decoder of records reads objects: a record stands there if the members fill its parts. -/
theorem IsWhole.readsObjects {σ : Type} {parts : List (RecordPart σ)} (h : IsWhole parts)
    {type : String} {initial : σ} {StandsIn : σ → List (String × Json) → Prop}
    (hagree : ∀ part ∈ parts, part.decoder.Agrees)
    (hstands : ∀ {members new},
      (∀ part ∈ parts, part.IsFilled [] initial members new) ↔ StandsIn new members) :
  (Decoder.record type initial (parts.map RecordPart.field)).ReadsObjects StandsIn
  where
  decode_eq_ok := by
    intro text members new hobject
    exact (h.decode_eq_ok_of_agrees hagree hobject).trans hstands
  ofValue_eq_ok := h.ofValue_eq_ok.trans hstands
  run_of_members := by
    intro levels text rest after left members new hopen hmembers hclose hnew
    refine Decoder.record_run_of_members (fun m _ => ?_) hopen hmembers hclose
      (h.ofMembers_eq_ok_iff.mpr (hstands.mpr hnew))
    refine List.forall_mem_map.mpr fun part hpart _ => ?_
    exact RecordPart.agreesOn_field (Decoder.Agrees.on (hagree part hpart) m.2)
  merged := by
    intro members new hnew
    exact hstands.mp fun part hpart => (hstands.mpr hnew part hpart).merged

namespace Decoder.ReadsObjects

variable {α : Type} {decoder : Decoder α} {StandsIn : α → List (String × Json) → Prop}
  {members : List (String × Json)} {a : α} {lists : List (List (String × Json))} {values : List α}

theorem ofValue_ofMembers (h : decoder.ReadsObjects StandsIn) (ha : StandsIn a members) :
  decoder.ofValue (Json.ofMembers members) = .ok a
  := by
  rw [ofMembers_eq]
  exact h.ofValue_eq_ok.mpr (h.merged ha)

/-- A value is read from the text of an object with its members. -/
theorem readsAs (h : decoder.ReadsObjects StandsIn) {levels : Nat}
    (hmembers : ∀ m ∈ members, ReadsBack levels m.2) (ha : StandsIn a members) :
  ReadsAs (decoder.read (levels + 1)) (.object members) a
  := by
  refine ⟨Byte.openBrace, Utf8.encode (renderMembers members ++ ['\x7d']), rfl, rfl, by decide,
    fun rest _ => ?_⟩
  rw [Utf8.encode_append, List.append_assoc]
  exact h.run_of_members rfl (membersRead_renderMembers (forall₂_memberReadsAs hmembers) rest)
    (closeObject_closeBrace rfl) ha

/-- The values of a list are taken from the objects in their places. -/
theorem list_ofValue (h : decoder.ReadsObjects StandsIn)
    (hvalues : List.Forall₂ StandsIn values lists) :
  (list decoder).ofValue (.array (lists.map .object)) = .ok values
  := by
  rw [list_ofValue_eq_ok, List.forall₂_map_left_iff]
  exact hvalues.flip.imp fun _ _ ha => h.ofValue_eq_ok.mpr ha

theorem list_ofValue_ofMembers (h : decoder.ReadsObjects StandsIn)
    (hvalues : List.Forall₂ StandsIn values lists) :
  (list decoder).ofValue (.array (lists.map Json.ofMembers)) = .ok values
  := by
  rw [list_ofValue_eq_ok, List.forall₂_map_left_iff]
  exact hvalues.flip.imp fun _ _ ha => h.ofValue_ofMembers ha

/-- The values of a list are read from the text of an array of objects. -/
theorem list_decode (h : decoder.ReadsObjects StandsIn)
    (hvalues : List.Forall₂ StandsIn values lists)
    (hexact : ∀ members ∈ lists, ∀ m ∈ members, m.2.IsExact ∧ m.2.depth < innerLevels) :
  (list decoder).decode (bytesOf (Json.array (lists.map .object)).text) = .ok values
  := by
  apply list_decode_text
  rw [List.forall₂_map_left_iff]
  refine ((List.forall₂_and_left _ _).mpr ⟨hexact, hvalues.flip⟩).imp fun members a hboth => ?_
  obtain ⟨hmembers, ha⟩ := hboth
  apply h.readsAs _ ha
  intro m hm
  obtain ⟨hexact, hdepth⟩ := hmembers m hm
  exact hexact.readsBack (Nat.le_of_lt_succ hdepth)

/-- The values of a list are read from the text of the array of their members, if they stand there
and no value of a member is nested. -/
theorem list_decode_members (h : decoder.ReadsObjects StandsIn) {members : α → List (String × Json)}
    (hvalues : ∀ a ∈ values, StandsIn a (members a))
    (hexact : ∀ a ∈ values, ∀ m ∈ members a, m.2.IsExact ∧ m.2.depth = 0) :
  (list decoder).decode (bytesOf (Json.array (values.map fun a => .object (members a))).text)
    = .ok values
  := by
  have hobjects : (values.map fun a => Json.object (members a))
      = (values.map members).map .object := List.map_map.symm
  rw [hobjects]
  apply h.list_decode
  · exact List.forall₂_map_right_iff.mpr (List.forall₂_same.mpr hvalues)
  · refine List.forall_mem_map.mpr fun a ha m hm => ?_
    obtain ⟨hexact, hdepth⟩ := hexact a ha m hm
    exact ⟨hexact, by rw [hdepth]; decide⟩

end Decoder.ReadsObjects

/-! ### Arrays of objects -/

/-- An array of objects is read as the array of the objects that are made of their members. -/
theorem readsAs_array_objects {levels : Nat} {lists : List (List (String × Json))}
    (h : ∀ members ∈ lists, ∀ m ∈ members, ReadsBack levels m.2) :
  ReadsAs (readValue (levels + 2)) (.array (lists.map .object))
    (.array (lists.map Json.ofMembers))
  := by
  apply readsAs_array
  rw [List.forall₂_map_left_iff, List.forall₂_map_right_iff]
  exact List.forall₂_same.mpr fun members hmembers =>
    readsAs_object (forall₂_memberReadsAs (h members hmembers))

end ChatPortal.Json
