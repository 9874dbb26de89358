import ChatPortal.Portal.ChatLine
import ChatPortal.Portal.Schema
import ChatPortal.Proofs.Gateway.Envelope
import ChatPortal.Proofs.Json.Lists

/-!
# What the portal tells

An entry of the list of schemas, the texts of a schema and a line of a chat are read from the
objects in which they stand, in whatever order and among whatever else
(`SchemaOption.readsObjects`, `SchemaDetail.readsObjects`, `ChatLine.readsObjects`).
-/

namespace ChatPortal.Portal

open Gateway Json

/-- Under a key nothing stands, or something of another kind. -/
def IsAmiss (key : String) (isRight : Json → Prop) (members : List (String × Json)) : Prop :=
  valuesOf key members = [] ∨ ∃ v ∈ valuesOf key members, ¬ isRight v

/-- The value is a text. -/
def IsText (v : Json) : Prop := ∃ s, v = .string s

/-- The value is an integer of at most 64 bits. -/
def IsTime (v : Json) : Prop := ∃ n, IsInt64 n ∧ v = .int n

/-- Nothing is amiss where a value of the right kind stands alone. -/
theorem not_isAmiss {key : String} {isRight : Json → Prop} {members : List (String × Json)}
    {v : Json} (hvalue : valuesOf key members = [v]) (hv : isRight v) :
  ¬ IsAmiss key isRight members
  := by
  rintro (hnone | ⟨w, hw, hwrong⟩)
  · rw [hvalue] at hnone
    cases hnone
  · rw [hvalue, List.mem_singleton] at hw
    exact hwrong (hw ▸ hv)

/-! ### Entries -/

namespace SchemaOption

/-- The entry stands among some members, its two texts once each. -/
structure StandsIn (option : SchemaOption) (members : List (String × Json)) : Prop where
  schema : valuesOf "schema" members = [.string option.schema]
  title : valuesOf "title" members = [.string option.title]

/-- The parts of an entry. -/
def parts : List (RecordPart SchemaOption) :=
  [ .needed "schema" .string schema fun schema option => { option with schema },
    .needed "title" .string title fun title option => { option with title } ]

theorem decoder_eq :
  decoder = .record "SchemaOption" ⟨"", ""⟩ (parts.map RecordPart.field)
  := rfl

/-- The parts make up an entry. -/
theorem isWhole_parts :
  IsWhole parts
  where
  get_put := by simp [parts, RecordPart.needed]
  apart := by simp [parts, RecordPart.needed, RecordPart.IsApart]
  nodup := by decide
  ext := by
    intro old new h
    cases old
    cases new
    simpa [parts, RecordPart.needed] using h

theorem isFilled_parts {members : List (String × Json)} {option : SchemaOption} :
  (∀ part ∈ parts, part.IsFilled [] ⟨"", ""⟩ members option) ↔ option.StandsIn members
  := by
  simp only [parts, List.forall_mem_cons, List.not_mem_nil, false_imp_iff, implies_true, and_true,
    RecordPart.isFilled_needed, Decoder.string_ofValue, exists_eq_right]
  exact ⟨fun ⟨hschema, htitle⟩ => ⟨hschema, htitle⟩, fun h => ⟨h.schema, h.title⟩⟩

/-- An entry is read where it stands. -/
theorem readsObjects :
  decoder.ReadsObjects StandsIn
  := by
  rw [decoder_eq]
  refine isWhole_parts.readsObjects ?_ isFilled_parts
  simp only [parts, List.forall_mem_cons, RecordPart.agrees_needed, Decoder.string_agrees,
    List.not_mem_nil, false_imp_iff, implies_true, and_true]

/-- Among the members one of the two texts of an entry is missing or is no text. -/
def IsBroken (members : List (String × Json)) : Prop :=
  IsAmiss "schema" IsText members ∨ IsAmiss "title" IsText members

/-- No entry stands where one is broken. -/
theorem StandsIn.not_isBroken {option : SchemaOption} {members : List (String × Json)}
    (h : option.StandsIn members) :
  ¬ IsBroken members
  := by
  rintro (hamiss | hamiss)
  · exact not_isAmiss h.schema ⟨_, rfl⟩ hamiss
  · exact not_isAmiss h.title ⟨_, rfl⟩ hamiss

/-- The members of the JSON of an entry. -/
def members (option : SchemaOption) : List (String × Json) :=
  [("schema", .string option.schema), ("title", .string option.title)]

theorem toJson_eq (option : SchemaOption) :
  option.toJson = .object option.members
  := rfl

theorem standsIn_members (option : SchemaOption) :
  option.StandsIn option.members
  := ⟨rfl, rfl⟩

theorem isExact_members (option : SchemaOption) :
  ∀ m ∈ option.members, m.2.IsExact ∧ m.2.depth = 0
  := by
  simp [members, IsExact.string, depth]

/-- A list of entries is read back from what is written of it. -/
theorem list_decode_toJson (options : List SchemaOption) :
  (Decoder.list decoder).decode (bytesOf (Json.array (options.map toJson)).text) = .ok options
  := by
  rw [List.map_congr_left fun option _ => toJson_eq option]
  exact readsObjects.list_decode_members (fun option _ => option.standsIn_members)
    fun option _ => option.isExact_members

end SchemaOption

/-! ### Texts of a schema -/

namespace SchemaDetail

/-- The texts of a schema, each with the keys under which it may stand. -/
def texts (d : SchemaDetail) : List (List String × String) :=
  [ (["name"], d.name), (["title"], d.title), (["welcome"], d.welcome),
    (["subservice"], d.subservice), (["option"], d.option), (["am"], d.am), (["pm"], d.pm),
    (["cancel"], d.cancel), (["cancel_info"], d.cancelInfo),
    (["cancel_success"], d.cancelSuccess), (["back"], d.back), (["back_info"], d.backInfo),
    (["back_success"], d.backSuccess), (["other"], d.other),
    (["unkown", "unknown"], d.unknown), (["error"], d.error) ]

/-- The texts of a schema stand among some members, each under one of its keys, where the empty ones
may be left out. -/
def StandsIn (d : SchemaDetail) (members : List (String × Json)) : Prop :=
  ∀ t ∈ d.texts, valuesUnder t.1 members = [.string t.2]
    ∨ (valuesUnder t.1 members = [] ∧ t.2 = "")

/-- A text of a schema, as a part of its texts. -/
def textPart (name : String) (aliases : List String) (get : SchemaDetail → String)
    (put : String → SchemaDetail → SchemaDetail) : RecordPart SchemaDetail :=
  .optional name aliases .string get put

/-- The parts of the texts of a schema. -/
def parts : List (RecordPart SchemaDetail) :=
  [ textPart "name" [] name fun name d => { d with name },
    textPart "title" [] title fun title d => { d with title },
    textPart "welcome" [] welcome fun welcome d => { d with welcome },
    textPart "subservice" [] subservice fun subservice d => { d with subservice },
    textPart "option" [] option fun option d => { d with option },
    textPart "am" [] am fun am d => { d with am },
    textPart "pm" [] pm fun pm d => { d with pm },
    textPart "cancel" [] cancel fun cancel d => { d with cancel },
    textPart "cancel_info" [] cancelInfo fun cancelInfo d => { d with cancelInfo },
    textPart "cancel_success" [] cancelSuccess fun cancelSuccess d => { d with cancelSuccess },
    textPart "back" [] back fun back d => { d with back },
    textPart "back_info" [] backInfo fun backInfo d => { d with backInfo },
    textPart "back_success" [] backSuccess fun backSuccess d => { d with backSuccess },
    textPart "other" [] other fun other d => { d with other },
    textPart "unkown" ["unknown"] unknown fun unknown d => { d with unknown },
    textPart "error" [] error fun error d => { d with error } ]

theorem decoder_eq :
  decoder = .record "SchemaDetail" {} (parts.map RecordPart.field)
  := rfl

/-- The parts make up the texts of a schema. -/
theorem isWhole_parts :
  IsWhole parts
  where
  get_put := by simp [parts, textPart, RecordPart.optional]
  apart := by simp [parts, textPart, RecordPart.optional, RecordPart.IsApart]
  nodup := by decide
  ext := by
    intro old new h
    cases old
    cases new
    simpa [parts, textPart, RecordPart.optional] using h

theorem isFilled_parts {members : List (String × Json)} {d : SchemaDetail} :
  (∀ part ∈ parts, part.IsFilled [] {} members d) ↔ d.StandsIn members
  := by
  simp only [parts, textPart, StandsIn, texts, List.forall_mem_cons, RecordPart.isFilled_optional,
    Decoder.string_ofValue, exists_eq_right, List.not_mem_nil, false_imp_iff, implies_true]

/-- The texts of a schema are read where they stand. -/
theorem readsObjects :
  decoder.ReadsObjects StandsIn
  := by
  rw [decoder_eq]
  refine isWhole_parts.readsObjects ?_ isFilled_parts
  simp only [parts, textPart, List.forall_mem_cons, RecordPart.agrees_optional,
    Decoder.string_agrees, List.not_mem_nil, false_imp_iff, implies_true, and_true]

/-- The members of the JSON of the texts. -/
def members (d : SchemaDetail) : List (String × Json) :=
  [ ("name", .string d.name), ("title", .string d.title), ("welcome", .string d.welcome),
    ("subservice", .string d.subservice), ("option", .string d.option), ("am", .string d.am),
    ("pm", .string d.pm), ("cancel", .string d.cancel), ("cancel_info", .string d.cancelInfo),
    ("cancel_success", .string d.cancelSuccess), ("back", .string d.back),
    ("back_info", .string d.backInfo), ("back_success", .string d.backSuccess),
    ("other", .string d.other), ("unkown", .string d.unknown), ("error", .string d.error) ]

theorem toJson_eq (d : SchemaDetail) :
  d.toJson = .object d.members
  := rfl

theorem standsIn_members (d : SchemaDetail) :
  d.StandsIn d.members
  := by
  simp only [StandsIn, texts, List.forall_mem_cons]
  exact ⟨.inl rfl, .inl rfl, .inl rfl, .inl rfl, .inl rfl, .inl rfl, .inl rfl, .inl rfl, .inl rfl,
    .inl rfl, .inl rfl, .inl rfl, .inl rfl, .inl rfl, .inl rfl, .inl rfl, nofun⟩

theorem isExact_members (d : SchemaDetail) :
  ∀ m ∈ d.members, m.2.IsExact ∧ m.2.depth = 0
  := by
  simp [members, IsExact.string, depth]

theorem ofValue_toJson (d : SchemaDetail) :
  decoder.ofValue d.toJson = .ok d
  := readsObjects.ofValue_eq_ok.mpr d.standsIn_members

/-- The texts of a schema are read back from what is written of them. -/
theorem decode_toJson (d : SchemaDetail) :
  decoder.decode (bytesOf d.toJson.text) = .ok d
  := by
  have htext : IsObject (bytesOf (Json.object d.members).text) d.members := by
    apply isObject_text
    intro m hm
    obtain ⟨hexact, hdepth⟩ := d.isExact_members m hm
    exact ⟨hexact, by rw [hdepth]; exact Nat.zero_le _⟩
  rw [d.toJson_eq]
  exact (readsObjects.decode_eq_ok htext).mpr d.standsIn_members

end SchemaDetail

/-! ### Lines -/

namespace ChatLine

/-- The line stands among some members, its text and its time once each. -/
structure StandsIn (line : ChatLine) (members : List (String × Json)) : Prop where
  content : valuesOf "content" members = [.string line.content]
  time : valuesOf "time" members = [.int line.time]
  isInt64 : IsInt64 line.time

/-- The parts of a line. -/
def parts : List (RecordPart ChatLine) :=
  [ .needed "content" .string content fun content line => { line with content },
    .needed "time" .int64 time fun time line => { line with time } ]

theorem decoder_eq :
  decoder = .record "ChatLine" ⟨"", 0⟩ (parts.map RecordPart.field)
  := rfl

/-- The parts make up a line. -/
theorem isWhole_parts :
  IsWhole parts
  where
  get_put := by simp [parts, RecordPart.needed]
  apart := by simp [parts, RecordPart.needed, RecordPart.IsApart]
  nodup := by decide
  ext := by
    intro old new h
    cases old
    cases new
    simpa [parts, RecordPart.needed] using h

theorem isFilled_parts {members : List (String × Json)} {line : ChatLine} :
  (∀ part ∈ parts, part.IsFilled [] ⟨"", 0⟩ members line) ↔ line.StandsIn members
  := by
  simp only [parts, List.forall_mem_cons, List.not_mem_nil, false_imp_iff, implies_true, and_true,
    RecordPart.isFilled_needed, Decoder.string_ofValue, Envelope.Raw.sole_int64, exists_eq_right]
  exact ⟨fun ⟨hcontent, htime, hbounds⟩ => ⟨hcontent, htime, hbounds⟩,
    fun h => ⟨h.content, h.time, h.isInt64⟩⟩

/-- A line is read where it stands. -/
theorem readsObjects :
  decoder.ReadsObjects StandsIn
  := by
  rw [decoder_eq]
  refine isWhole_parts.readsObjects ?_ isFilled_parts
  simp only [parts, List.forall_mem_cons, RecordPart.agrees_needed, Decoder.string_agrees,
    Decoder.int64_agrees, List.not_mem_nil, false_imp_iff, implies_true, and_true]

/-- Among the members the text or the time of a line is missing or is of another kind. -/
def IsBroken (members : List (String × Json)) : Prop :=
  IsAmiss "content" IsText members ∨ IsAmiss "time" IsTime members

/-- No line stands where one is broken. -/
theorem StandsIn.not_isBroken {line : ChatLine} {members : List (String × Json)}
    (h : line.StandsIn members) :
  ¬ IsBroken members
  := by
  rintro (hamiss | hamiss)
  · exact not_isAmiss h.content ⟨_, rfl⟩ hamiss
  · exact not_isAmiss h.time ⟨_, h.isInt64, rfl⟩ hamiss

/-- The members of the JSON of a line. -/
def members (line : ChatLine) : List (String × Json) :=
  [("content", .string line.content), ("time", .int line.time)]

theorem toJson_eq (line : ChatLine) :
  line.toJson = .object line.members
  := rfl

theorem standsIn_members {line : ChatLine} (h : IsInt64 line.time) :
  line.StandsIn line.members
  := ⟨rfl, rfl, h⟩

theorem isExact_members {line : ChatLine} (h : IsInt64 line.time) :
  ∀ m ∈ line.members, m.2.IsExact ∧ m.2.depth = 0
  := by
  have htime : (Json.int line.time).IsExact := by
    obtain ⟨hlow, hhigh⟩ := h
    exact .int hlow (by omega)
  simp only [members, List.forall_mem_cons, List.not_mem_nil, false_imp_iff, implies_true, and_true]
  exact ⟨⟨.string _, rfl⟩, htime, rfl⟩

/-- Lines are read back from what is written of them if their times have at most 64 bits. -/
theorem list_decode_toJson {lines : List ChatLine} (h : ∀ line ∈ lines, IsInt64 line.time) :
  (Decoder.list decoder).decode (bytesOf (Json.array (lines.map toJson)).text) = .ok lines
  := by
  rw [List.map_congr_left fun line _ => toJson_eq line]
  exact readsObjects.list_decode_members (fun line hline => standsIn_members (h line hline))
    fun line hline => isExact_members (h line hline)

end ChatLine

end ChatPortal.Portal
