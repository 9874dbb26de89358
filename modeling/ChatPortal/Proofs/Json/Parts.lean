import ChatPortal.Proofs.Json.Agreement
import ChatPortal.Proofs.Json.Fields
import Mathlib.Data.List.Nodup
import Mathlib.Data.List.Pairwise

/-!
# Records and their parts

A `RecordPart` is what one field of the JSON of a record fills.  Where the parts make up the whole
record and have nothing in common (`IsWhole`), it does not matter in which order and among what else
the fields stand: every part is what stands under one of its names, or stays as it was
(`IsWhole.ofMembers_eq_ok_iff`).
-/

namespace ChatPortal.Json

variable {σ : Type}

/-! ### Values under several keys -/

/-- The values that stand under any of some keys, in order. -/
def valuesUnder (keys : List String) (members : List (String × Json)) : List Json :=
  (members.filter (keys.contains ·.1)).map (·.2)

section Values

variable {keys : List String} {key : String} {members : List (String × Json)}

@[simp]
theorem valuesUnder_nil (keys : List String) :
  valuesUnder keys [] = []
  := rfl

theorem valuesUnder_cons_of_mem (h : key ∈ keys) (v : Json) :
  valuesUnder keys ((key, v) :: members) = v :: valuesUnder keys members
  := by
  simp [valuesUnder, h]

theorem valuesUnder_cons_of_not_mem (h : key ∉ keys) (v : Json) :
  valuesUnder keys ((key, v) :: members) = valuesUnder keys members
  := by
  simp [valuesUnder, h]

@[simp]
theorem valuesUnder_singleton (key : String) (members : List (String × Json)) :
  valuesUnder [key] members = valuesOf key members
  := by
  have hkey : (fun m : String × Json => [key].contains m.1) = fun m => m.1 == key := by
    funext m
    rw [List.contains_cons, List.contains_nil, Bool.or_false]
  rw [valuesUnder, valuesOf, hkey]

/-- A member that is added under another key does not matter. -/
theorem valuesUnder_insert_of_not_mem (h : key ∉ keys) (v : Json) :
  valuesUnder keys (insert key v members) = valuesUnder keys members
  := by
  induction members with
  | nil => exact valuesUnder_cons_of_not_mem h v
  | cons m members ih =>
    obtain ⟨other, w⟩ := m
    rw [insert]
    split
    · exact valuesUnder_cons_of_not_mem h v
    · split
      · next heq =>
        rw [valuesUnder_cons_of_not_mem h, valuesUnder_cons_of_not_mem (heq ▸ h)]
      · by_cases hother : other ∈ keys
        · rw [valuesUnder_cons_of_mem hother, valuesUnder_cons_of_mem hother, ih]
        · rw [valuesUnder_cons_of_not_mem hother, valuesUnder_cons_of_not_mem hother, ih]

/-- A member that is added where nothing stood stands there. -/
theorem valuesUnder_insert_of_mem (h : key ∈ keys) (v : Json)
    (hnone : valuesUnder keys members = []) :
  valuesUnder keys (insert key v members) = [v]
  := by
  induction members with
  | nil => exact valuesUnder_cons_of_mem h v
  | cons m members ih =>
    obtain ⟨other, w⟩ := m
    by_cases hother : other ∈ keys
    · rw [valuesUnder_cons_of_mem hother] at hnone
      cases hnone
    · rw [valuesUnder_cons_of_not_mem hother] at hnone
      have hne : key ≠ other := fun heq => hother (heq ▸ h)
      rw [insert, if_neg hne]
      split
      · rw [valuesUnder_cons_of_mem h, valuesUnder_cons_of_not_mem hother, hnone]
      · rw [valuesUnder_cons_of_not_mem hother, ih hnone]

/-- The members of the object that is made of some members. -/
def merged (members : List (String × Json)) : List (String × Json) :=
  members.foldl (fun object m => insert m.1 m.2 object) []

theorem ofMembers_eq (members : List (String × Json)) :
  ofMembers members = .object (merged members)
  := rfl

/-- What stands alone also stands alone in the object that is made of the members. -/
theorem valuesUnder_merged (h : (valuesUnder keys members).length ≤ 1) :
  valuesUnder keys (merged members) = valuesUnder keys members
  := by
  have hfold (members object : List (String × Json))
      (h : (valuesUnder keys object ++ valuesUnder keys members).length ≤ 1) :
      valuesUnder keys (members.foldl (fun object m => insert m.1 m.2 object) object)
        = valuesUnder keys object ++ valuesUnder keys members := by
    induction members generalizing object with
    | nil => rw [List.foldl_nil, valuesUnder_nil, List.append_nil]
    | cons m members ih =>
      obtain ⟨key, v⟩ := m
      rw [List.foldl_cons]
      by_cases hkey : key ∈ keys
      · rw [valuesUnder_cons_of_mem hkey] at h ⊢
        have hnone : valuesUnder keys object = [] := by
          apply List.eq_nil_of_length_eq_zero
          simp only [List.length_append, List.length_cons] at h
          omega
        have hinsert := valuesUnder_insert_of_mem hkey v hnone
        rw [hnone] at h ⊢
        rw [ih _ (by rwa [hinsert]), hinsert]
        rfl
      · rw [valuesUnder_cons_of_not_mem hkey] at h ⊢
        have hinsert : valuesUnder keys (insert key v object) = valuesUnder keys object :=
          valuesUnder_insert_of_not_mem hkey v
        rw [ih _ (by rwa [hinsert]), hinsert]
  exact hfold members [] h

end Values

/-! ### Parts -/

/-- A part of a record: the names under which it stands in JSON, how its value is read there, and
where the record keeps it. -/
structure RecordPart (σ : Type) where
  Value : Type
  name : String
  aliases : List String := []
  required : Bool
  decoder : Decoder Value
  get : σ → Value
  put : Value → σ → σ

namespace RecordPart

/-- A part that must be there. -/
def needed {α : Type} (name : String) (decoder : Decoder α) (get : σ → α) (put : α → σ → σ) :
    RecordPart σ :=
  ⟨α, name, [], true, decoder, get, put⟩

/-- A part that may be left out. -/
def optional {α : Type} (name : String) (aliases : List String) (decoder : Decoder α)
    (get : σ → α) (put : α → σ → σ) : RecordPart σ :=
  ⟨α, name, aliases, false, decoder, get, put⟩

/-- The names of a part, its own first. -/
def names (part : RecordPart σ) : List String := part.name :: part.aliases

/-- The field that fills a part. -/
def field (part : RecordPart σ) : Field σ :=
  ⟨part.name, part.aliases, part.required, part.decoder.map part.put⟩

theorem isNamed_field {part : RecordPart σ} {key : String} :
  part.field.isNamed key = true ↔ key ∈ part.names
  := by
  rw [Field.isNamed, Bool.or_eq_true, beq_iff_eq, List.contains_iff_mem, names, List.mem_cons,
    eq_comm]
  rfl

theorem agreesOn_field {part : RecordPart σ} {v : Json} (h : part.decoder.AgreesOn v) :
  part.field.value.AgreesOn v
  := Decoder.AgreesOn.map h part.put

/-- Two parts are kept apart: neither changes with the other. -/
def IsApart (part other : RecordPart σ) : Prop :=
  (∀ value record, part.get (other.put value record) = part.get record)
    ∧ ∀ value record, other.get (part.put value record) = other.get record

instance : Std.Symm (IsApart (σ := σ)) where
  symm _ _ h := ⟨h.2, h.1⟩

/-- Under the names of a part stands the value that it has in a new record, once and for the first
time; or nothing stands there, so that the part stays as it was, unless it is needed. -/
def IsFilled (part : RecordPart σ) (found : List String) (old : σ)
    (members : List (String × Json)) (new : σ) : Prop :=
  (∃ v, valuesUnder part.names members = [v] ∧ part.name ∉ found
      ∧ part.decoder.ofValue v = .ok (part.get new))
    ∨ (valuesUnder part.names members = [] ∧ part.get new = part.get old
      ∧ (part.required = true → part.name ∈ found))

section Filling

variable {part other : RecordPart σ} {found : List String} {old new : σ} {key : String} {v : Json}
  {members : List (String × Json)}

theorem isFilled_nil :
  part.IsFilled found old [] new
    ↔ part.get new = part.get old ∧ (part.required = true → part.name ∈ found)
  := by
  simp [IsFilled]

theorem isFilled_cons_of_not_mem (h : key ∉ part.names) :
  part.IsFilled found old ((key, v) :: members) new ↔ part.IsFilled found old members new
  := by
  rw [IsFilled, IsFilled, valuesUnder_cons_of_not_mem h]

/-- A member under a name of the part is the only one. -/
theorem isFilled_cons_of_mem (h : key ∈ part.names) :
  part.IsFilled found old ((key, v) :: members) new
    ↔ part.name ∉ found ∧ valuesUnder part.names members = []
      ∧ part.decoder.ofValue v = .ok (part.get new)
  := by
  rw [IsFilled, valuesUnder_cons_of_mem h]
  constructor
  · rintro (⟨w, hvalues, hnew, hvalue⟩ | ⟨hnone, -⟩)
    · obtain ⟨rfl, hmore⟩ := List.cons.inj hvalues
      exact ⟨hnew, hmore, hvalue⟩
    · cases hnone
  · rintro ⟨hnew, hmore, hvalue⟩
    exact .inl ⟨v, by rw [hmore], hnew, hvalue⟩

theorem isFilled_found_self :
  part.IsFilled (part.name :: found) old members new
    ↔ valuesUnder part.names members = [] ∧ part.get new = part.get old
  := by
  simp [IsFilled]

/-- What fills a part from the members fills it from the object that is made of them. -/
theorem IsFilled.merged (h : part.IsFilled found old members new) :
  part.IsFilled found old (Json.merged members) new
  := by
  rcases h with ⟨v, hvalue, hmore⟩ | ⟨hnone, hmore⟩
  · rw [← valuesUnder_merged (by rw [hvalue]; exact le_rfl)] at hvalue
    exact .inl ⟨v, hvalue, hmore⟩
  · rw [← valuesUnder_merged (by rw [hnone]; exact Nat.zero_le 1)] at hnone
    exact .inr ⟨hnone, hmore⟩

theorem IsApart.isFilled_put (h : part.IsApart other) (hname : part.name ≠ other.name)
    (value : other.Value) :
  part.IsFilled (other.name :: found) (other.put value old) members new
    ↔ part.IsFilled found old members new
  := by
  simp [IsFilled, hname, h.1]

end Filling

section Constructors

variable {α : Type} {name : String} {aliases : List String} {decoder : Decoder α} {get : σ → α}
  {put : α → σ → σ}

theorem agrees_needed :
  (needed name decoder get put).decoder.Agrees ↔ decoder.Agrees
  := Iff.rfl

theorem agrees_optional :
  (optional name aliases decoder get put).decoder.Agrees ↔ decoder.Agrees
  := Iff.rfl

/-- A part that must be there is filled by what stands alone under its name. -/
theorem isFilled_needed {old new : σ} {members : List (String × Json)} :
  (needed name decoder get put).IsFilled [] old members new
    ↔ ∃ v, valuesOf name members = [v] ∧ decoder.ofValue v = .ok (get new)
  := by
  rw [← valuesUnder_singleton]
  constructor
  · rintro (⟨v, hvalue, -, hv⟩ | ⟨-, -, hfound⟩)
    · exact ⟨v, hvalue, hv⟩
    · exact absurd (hfound rfl) List.not_mem_nil
  · rintro ⟨v, hvalue, hv⟩
    exact .inl ⟨v, hvalue, List.not_mem_nil, hv⟩

/-- A part that may be left out is filled by what stands alone under its names, or it stays where
nothing stands there. -/
theorem isFilled_optional {old new : σ} {members : List (String × Json)} :
  (optional name aliases decoder get put).IsFilled [] old members new
    ↔ (∃ v, valuesUnder (name :: aliases) members = [v] ∧ decoder.ofValue v = .ok (get new))
      ∨ (valuesUnder (name :: aliases) members = [] ∧ get new = get old)
  := by
  constructor
  · rintro (⟨v, hvalue, -, hv⟩ | ⟨hnone, hget, -⟩)
    · exact .inl ⟨v, hvalue, hv⟩
    · exact .inr ⟨hnone, hget⟩
  · rintro (⟨v, hvalue, hv⟩ | ⟨hnone, hget⟩)
    · exact .inl ⟨v, hvalue, List.not_mem_nil, hv⟩
    · exact .inr ⟨hnone, hget, nofun⟩

end Constructors

end RecordPart

/-! ### Records -/

/-- The parts make up a whole record and have nothing in common. -/
structure IsWhole (parts : List (RecordPart σ)) : Prop where
  get_put : ∀ part ∈ parts, ∀ value record, part.get (part.put value record) = value
  apart : parts.Pairwise RecordPart.IsApart
  nodup : (parts.flatMap RecordPart.names).Nodup
  ext : ∀ old new : σ, (∀ part ∈ parts, part.get new = part.get old) → new = old

namespace IsWhole

variable {parts : List (RecordPart σ)} {found : List String} {old new : σ} {key : String}
  {members : List (String × Json)}

/-- Two different parts have no name in common. -/
theorem not_mem_names (h : IsWhole parts) {part other : RecordPart σ} (hpart : part ∈ parts)
    (hother : other ∈ parts) (hne : other ≠ part) (hkey : key ∈ part.names) :
  key ∉ other.names
  := by
  have hdisjoint := (List.nodup_flatMap.mp h.nodup).2
  have : Std.Symm (Function.onFun List.Disjoint (RecordPart.names (σ := σ))) :=
    ⟨fun _ _ h key hkey hother => h hother hkey⟩
  exact fun hmem => hdisjoint.forall hother hpart hne hmem hkey

/-- A record is finished once all its needed parts were found. -/
theorem finish_eq_ok_iff (h : IsWhole parts) :
  Decoder.finish (parts.map RecordPart.field) ⟨old, found⟩ = .ok new
    ↔ ∀ part ∈ parts, part.IsFilled found old [] new
  := by
  simp only [RecordPart.isFilled_nil]
  rw [Decoder.finish]
  split
  · next field hmissing =>
    obtain ⟨part, hpart, rfl⟩ := List.mem_map.mp (List.mem_of_find?_eq_some hmissing)
    have hneeded : part.required = true ∧ part.name ∉ found := by
      simpa [RecordPart.field] using List.find?_some hmissing
    refine iff_of_false nofun fun hall => hneeded.2 ((hall part hpart).2 hneeded.1)
  · next hcomplete =>
    have hfound : ∀ part ∈ parts, part.required = true → part.name ∈ found := by
      simpa [RecordPart.field] using List.find?_eq_none.mp hcomplete
    constructor
    · rintro ⟨⟩ part hpart
      exact ⟨rfl, hfound part hpart⟩
    · intro hall
      rw [h.ext old new fun part hpart => (hall part hpart).1]

/-- Every part of what is taken from the members is filled from them, in whatever order they
stand. -/
theorem ofMembers_eq_ok_iff (h : IsWhole parts) :
  Decoder.ofMembers (parts.map RecordPart.field) ⟨old, found⟩ members = .ok new
    ↔ ∀ part ∈ parts, part.IsFilled found old members new
  := by
  induction members generalizing old found with
  | nil => exact h.finish_eq_ok_iff
  | cons m members ih =>
    obtain ⟨key, v⟩ := m
    cases hfield : (parts.map RecordPart.field).find? (·.isNamed key) with
    | none =>
      have hother : ∀ part ∈ parts, key ∉ part.names := by
        intro part hpart
        have hnot := List.find?_eq_none.mp hfield _ (List.mem_map_of_mem hpart)
        rwa [RecordPart.isNamed_field] at hnot
      rw [Decoder.ofMembers, hfield, ih]
      exact forall₂_congr fun part hpart =>
        (RecordPart.isFilled_cons_of_not_mem (hother part hpart)).symm
    | some field =>
      obtain ⟨part, hpart, rfl⟩ := List.mem_map.mp (List.mem_of_find?_eq_some hfield)
      have hnamed : part.field.isNamed key = true := by simpa using List.find?_some hfield
      have hkey : key ∈ part.names := RecordPart.isNamed_field.mp hnamed
      rw [Decoder.ofMembers_cons_eq_ok hfield]
      have hothers (value : part.Value) (other : RecordPart σ) (hother : other ∈ parts)
          (hne : other ≠ part) :
          other.IsFilled (part.name :: found) (part.put value old) members new
            ↔ other.IsFilled found old ((key, v) :: members) new := by
        have hname : other.name ≠ part.name := by
          intro heq
          apply h.not_mem_names hpart hother hne (List.mem_cons_self ..)
          rw [← heq]
          exact List.mem_cons_self ..
        rw [(h.apart.forall hother hpart hne).isFilled_put hname,
          RecordPart.isFilled_cons_of_not_mem (h.not_mem_names hpart hother hne hkey)]
      constructor
      · rintro ⟨hnew, put, hput, hmore⟩ other hother
        obtain ⟨value, hvalue, rfl⟩ := Decoder.map_ofValue_eq_ok.mp hput
        have hall := ih.mp hmore
        by_cases heq : other = part
        · subst heq
          obtain ⟨hnone, hget⟩ := RecordPart.isFilled_found_self.mp (hall other hother)
          rw [h.get_put other hother] at hget
          exact (RecordPart.isFilled_cons_of_mem hkey).mpr ⟨hnew, hnone, by rw [hvalue, hget]⟩
        · exact (hothers value other hother heq).mp (hall other hother)
      · intro hall
        obtain ⟨hnew, hnone, hvalue⟩ :=
          (RecordPart.isFilled_cons_of_mem hkey).mp (hall part hpart)
        refine ⟨hnew, _, Decoder.map_ofValue_eq_ok.mpr ⟨_, hvalue, rfl⟩, ih.mpr ?_⟩
        intro other hother
        by_cases heq : other = part
        · subst heq
          exact RecordPart.isFilled_found_self.mpr ⟨hnone, (h.get_put other hother _ _).symm⟩
        · exact (hothers _ other hother heq).mpr (hall other hother)

theorem ofValue_eq_ok (h : IsWhole parts) {type : String} :
  (Decoder.record type old (parts.map RecordPart.field)).ofValue (.object members) = .ok new
    ↔ ∀ part ∈ parts, part.IsFilled [] old members new
  := h.ofMembers_eq_ok_iff

/-- A record is read from the text of an object whose members fill its parts, where the parts agree
on what stands under their names. -/
theorem decode_eq_ok (h : IsWhole parts) {type : String} {text : Bytes}
    (hagree : ∀ m ∈ members, ∀ part ∈ parts, m.1 ∈ part.names → part.decoder.AgreesOn m.2)
    (hobject : IsObject text members) :
  (Decoder.record type old (parts.map RecordPart.field)).decode text = .ok new
    ↔ ∀ part ∈ parts, part.IsFilled [] old members new
  := by
  rw [← h.ofMembers_eq_ok_iff]
  refine Decoder.record_decode_of_agreesOn (fun m hm => ?_) hobject
  refine List.forall_mem_map.mpr fun part hpart hnamed => ?_
  exact RecordPart.agreesOn_field (hagree m hm part hpart (RecordPart.isNamed_field.mp hnamed))

theorem decode_eq_ok_of_agrees (h : IsWhole parts) {type : String} {text : Bytes}
    (hagree : ∀ part ∈ parts, part.decoder.Agrees) (hobject : IsObject text members) :
  (Decoder.record type old (parts.map RecordPart.field)).decode text = .ok new
    ↔ ∀ part ∈ parts, part.IsFilled [] old members new
  := by
  refine h.decode_eq_ok (fun m _ part hpart _ => ?_) hobject
  exact Decoder.Agrees.on (hagree part hpart) m.2

end IsWhole

end ChatPortal.Json
