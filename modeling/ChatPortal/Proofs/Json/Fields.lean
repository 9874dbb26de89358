import ChatPortal.Json.Decoder

/-!
# Fields among members

Which values stand under a key of an object (`valuesOf`), and what the decoders take from a value.
A record is taken from its members one by one (`Decoder.ofMembers_cons_eq_ok`).
-/

namespace ChatPortal.Json

/-! ### Values under a key -/

/-- The values that stand under a key, in order. -/
def valuesOf (key : String) (members : List (String × Json)) : List Json :=
  (members.filter (·.1 == key)).map (·.2)

/-- The value that stands alone, or `null` where there is none. -/
def IsSole (v : Json) (values : List Json) : Prop :=
  values = [v] ∨ (values = [] ∧ v = .null)

/-! ### What is taken from values -/

namespace Decoder

variable {α β σ : Type}

theorem json_ofValue {v w : Json} :
  json.ofValue v = .ok w ↔ w = v
  := by
  rw [json, Except.ok.injEq, eq_comm]

theorem string_ofValue {v : Json} {s : String} :
  string.ofValue v = .ok s ↔ v = .string s
  := by
  cases v with
  | string text => simp [string, leaf, accepted]
  | _ => simp [string, leaf, accepted]

/-- An integer within bounds is taken from what it is. -/
theorem integer_ofValue {name : String} {low high n : Int} {v : Json} :
  (integer name low high).ofValue v = .ok n ↔ v = .int n ∧ low ≤ n ∧ n ≤ high
  := by
  constructor
  · intro h
    unfold integer leaf accepted at h
    simp only at h
    split at h
    · rw [Option.getD_some] at h
      split at h
      · next hbounds =>
        cases h
        exact ⟨rfl, hbounds⟩
      · cases h
    · cases h
  · rintro ⟨rfl, hbounds⟩
    exact if_pos hbounds

theorem mapError_eq_ok {ε δ : Type} {e : Except ε α} {f : ε → δ} {a : α} :
  e.mapError f = .ok a ↔ e = .ok a
  := by
  cases e with
  | error e => exact iff_of_false nofun nofun
  | ok b =>
    show (Except.ok b : Except δ α) = .ok a ↔ _
    rw [Except.ok.injEq, Except.ok.injEq]

/-- What a function makes of a string is taken from the string. -/
theorem parsed_ofValue {expected : String} {parse : String → Except String α} {v : Json} {a : α} :
  (parsed expected parse).ofValue v = .ok a ↔ ∃ s, v = .string s ∧ parse s = .ok a
  := by
  cases v with
  | string text =>
    have hvalue : (parsed expected parse).ofValue (.string text)
        = (parse text).mapError .refused := rfl
    rw [hvalue, mapError_eq_ok]
    simp
  | _ => simp [parsed, leaf, accepted]

/-- A named value that is not written as an object is taken from its name. -/
theorem choice_ofValue {variants : List (String × α)} {v : Json} {a : α}
    (h : ∀ members, v ≠ .object members) :
  (choice variants).ofValue v = .ok a ↔ ∃ name, v = .string name ∧ variants.lookup name = some a
  := by
  cases v with
  | string name =>
    have hname : (choice variants).ofValue (.string name)
        = (named variants).ofValue (.string name) := rfl
    rw [hname]
    cases hlookup : variants.lookup name with
    | none => simp [named, leaf, accepted, hlookup]
    | some _ => simp [named, leaf, accepted, hlookup]
  | object members => exact absurd rfl (h members)
  | _ => simp [choice]

/-- A function is applied to what is taken. -/
theorem map_ofValue_eq_ok {f : α → β} {decoder : Decoder α} {v : Json} {b : β} :
  (decoder.map f).ofValue v = .ok b ↔ ∃ a, decoder.ofValue v = .ok a ∧ f a = b
  := by
  simp only [map]
  cases decoder.ofValue v with
  | error _ => simp [Except.map]
  | ok _ => simp [Except.map]

/-- A member is taken into the field of its name if that was not found before. -/
theorem ofMembers_cons_eq_ok {fields : List (Field σ)} {draft : Draft σ} {value : σ}
    {key : String} {v : Json} {members : List (String × Json)} {field : Field σ}
    (hfield : fields.find? (·.isNamed key) = some field) :
  ofMembers fields draft ((key, v) :: members) = .ok value
    ↔ field.name ∉ draft.found ∧ ∃ put, field.value.ofValue v = .ok put
      ∧ ofMembers fields (addField draft field put) members = .ok value
  := by
  rw [ofMembers, hfield]
  simp only [List.contains_eq_mem, decide_eq_true_eq]
  split
  · next hfound => simp [hfound]
  · next hfound =>
    cases field.value.ofValue v with
    | error _ => simp
    | ok _ => simp [hfound]

end Decoder

end ChatPortal.Json
