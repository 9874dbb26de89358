import ChatPortal.Gateway.Envelope
import ChatPortal.Proofs.Json.Parts
import ChatPortal.Proofs.Json.Values

/-!
# Envelopes are read

The envelope in the text of an object is the one that stands there, in whatever order and among
whatever else (`Raw.StandsIn`, `Raw.decode_eq_ok`).  So a message is found in any shape in which
servers send it (`parse_any_shape`), and the envelope of a body is the one that the body was made
for (`parse_body`).
-/

namespace ChatPortal.Gateway

open Json

/-- The integer has at most 64 bits. -/
def IsInt64 (n : Int) : Prop :=
  -0x8000000000000000 ≤ n ∧ n ≤ 0x7FFFFFFFFFFFFFFF

/-! ### Members -/

namespace Envelope.Raw

theorem int64_ofValue {v : Json} {n : Int} :
  Decoder.int64.ofValue v = .ok n ↔ v = .int n ∧ IsInt64 n
  := Decoder.integer_ofValue

/-- An integer of at most 64 bits is taken from what stands alone. -/
theorem sole_int64 {values : List Json} {n : Int} :
  (∃ v, values = [v] ∧ Decoder.int64.ofValue v = .ok n) ↔ values = [.int n] ∧ IsInt64 n
  := by
  simp only [int64_ofValue]
  constructor
  · rintro ⟨v, hvalue, rfl, hbounds⟩
    exact ⟨hvalue, hbounds⟩
  · rintro ⟨hvalue, hbounds⟩
    exact ⟨_, hvalue, rfl, hbounds⟩

/-- The parts of an envelope. -/
def parts : List (RecordPart Raw) :=
  [ .needed "code" .int64 code fun code e => { e with code },
    .optional "msg" [] .json msg fun msg e => { e with msg },
    .optional "message" [] .json message fun message e => { e with message },
    .optional "data" [] .json data fun data e => { e with data } ]

theorem fields_eq :
  fields = parts.map RecordPart.field
  := rfl

/-- The parts make up an envelope. -/
theorem isWhole_parts :
  IsWhole parts
  where
  get_put := by simp [parts, RecordPart.needed, RecordPart.optional]
  apart := by simp [parts, RecordPart.needed, RecordPart.optional, RecordPart.IsApart]
  nodup := by decide
  ext := by
    intro old new h
    cases old
    cases new
    simpa [parts, RecordPart.needed, RecordPart.optional] using h

theorem parts_agree :
  ∀ part ∈ parts, part.decoder.Agrees
  := by
  simp only [parts, List.forall_mem_cons, RecordPart.agrees_needed, RecordPart.agrees_optional,
    Decoder.int64_agrees, Decoder.json_agrees, List.not_mem_nil, false_imp_iff, implies_true,
    and_true]

/-- The envelope that stands in an object, with a code once and any other field once at most. -/
structure StandsIn (raw : Raw) (members : List (String × Json)) : Prop where
  code : valuesOf "code" members = [.int raw.code]
  bounds : IsInt64 raw.code
  msg : IsSole raw.msg (valuesOf "msg" members)
  message : IsSole raw.message (valuesOf "message" members)
  data : IsSole raw.data (valuesOf "data" members)

theorem isFilled_parts {members : List (String × Json)} {raw : Raw} :
  (∀ part ∈ parts, part.IsFilled [] ⟨0, .null, .null, .null⟩ members raw) ↔ raw.StandsIn members
  := by
  simp only [parts, List.forall_mem_cons, List.not_mem_nil, false_imp_iff, implies_true, and_true,
    RecordPart.isFilled_needed, RecordPart.isFilled_optional, sole_int64, Decoder.json_ofValue,
    valuesUnder_singleton, exists_eq_right']
  exact ⟨fun ⟨⟨hcode, hbounds⟩, hmsg, hmessage, hdata⟩ => ⟨hcode, hbounds, hmsg, hmessage, hdata⟩,
    fun h => ⟨⟨h.code, h.bounds⟩, h.msg, h.message, h.data⟩⟩

theorem fields_agree :
  ∀ field ∈ fields, field.value.Agrees
  := by
  rw [fields_eq]
  exact List.forall_mem_map.mpr fun part hpart => Decoder.Agrees.map (parts_agree part hpart) _

theorem decode_eq_ok {body : Bytes} {members : List (String × Json)} {raw : Raw}
    (h : IsObject body members) :
  decoder.decode body = .ok raw ↔ raw.StandsIn members
  := by
  rw [decoder, fields_eq, isWhole_parts.decode_eq_ok_of_agrees parts_agree h, isFilled_parts]

end Envelope.Raw

/-! ### Messages -/

namespace Envelope

/-- The message for the user is never empty. -/
theorem displayMessage_ne_empty (envelope : Envelope) :
  envelope.displayMessage ≠ ""
  := by
  rw [displayMessage]
  split
  · decide
  · assumption

/-- The value says nothing. -/
def IsSilent (v : Json) : Prop :=
  v = .null ∨ v = .string ""

/-- The words of a message: a string itself, any other value in JSON. -/
def wording : Json → String
  | .string s => s
  | v => v.text

/-- The message `v` stands under the first of two keys, or under the second where nothing that
says something stands under the first. -/
inductive Carries (v : Json) : (msgs messages : List Json) → Prop
  | msg : Carries v [v] []
  | message : Carries v [] [v]
  | fallback {w : Json} (hw : IsSilent w) : Carries v [w] [v]
  | both (w : Json) : Carries v [v] [w]

/-- Nothing that says something stands alone, or nothing at all. -/
def SaysNothing (values : List Json) : Prop :=
  values = [] ∨ ∃ w, IsSilent w ∧ values = [w]

/-- What says nothing has no text. -/
theorem messageText?_of_isSilent {v : Json} (h : IsSilent v) :
  messageText? v = none
  := by
  rcases h with rfl | rfl
  · rfl
  · rfl

/-- What says something has its words for a text. -/
theorem messageText?_of_not_isSilent {v : Json} (h : ¬ IsSilent v) :
  messageText? v = some (wording v)
  := by
  cases v with
  | null => exact absurd (.inl rfl) h
  | string s =>
    rw [messageText?, if_neg (fun heq => h (.inr (by rw [heq]))), wording]
  | _ => rfl

/-- The message that an envelope carries is the one that it has. -/
theorem Carries.exists_ofRaw {v : Json} {msgs messages : List Json} (h : Carries v msgs messages)
    (hv : ¬ IsSilent v) (code : Int) (data : Json) :
  ∃ msg message, IsSole msg msgs ∧ IsSole message messages
    ∧ ofRaw ⟨code, msg, message, data⟩ = ⟨code, wording v, data⟩
  := by
  have htext := messageText?_of_not_isSilent hv
  cases h with
  | msg =>
    refine ⟨v, .null, .inl rfl, .inr ⟨rfl, rfl⟩, ?_⟩
    simp [ofRaw, htext]
  | message =>
    refine ⟨.null, v, .inr ⟨rfl, rfl⟩, .inl rfl, ?_⟩
    simp [ofRaw, messageText?_of_isSilent (.inl rfl), htext]
  | @fallback w hw =>
    refine ⟨w, v, .inl rfl, .inl rfl, ?_⟩
    simp [ofRaw, messageText?_of_isSilent hw, htext]
  | both w =>
    refine ⟨v, w, .inl rfl, .inl rfl, ?_⟩
    simp [ofRaw, htext]

/-- Where nothing is said there is a value without a text. -/
theorem SaysNothing.exists_isSole {values : List Json} (h : SaysNothing values) :
  ∃ w, IsSole w values ∧ messageText? w = none
  := by
  rcases h with rfl | ⟨w, hw, rfl⟩
  · exact ⟨.null, .inr ⟨rfl, rfl⟩, rfl⟩
  · exact ⟨w, .inl rfl, messageText?_of_isSilent hw⟩

/-- The envelope in the text of an object is made of what stands there. -/
theorem parse_of_standsIn {body : Bytes} {members : List (String × Json)} {raw : Raw}
    (h : IsObject body members) (hraw : raw.StandsIn members) :
  parse body = .ok (ofRaw raw)
  := by
  rw [parse, (Raw.decode_eq_ok h).mpr hraw]
  rfl

/-- The envelope of a body has what the data that it was made for are read as. -/
theorem parse_body_of_readsAs {code : Int} {data read : Json} (hcode : IsInt64 code)
    (message : String) (hdata : ReadsAs (readValue innerLevels) data read) :
  parse (body code message data) = .ok ⟨code, message, read⟩
  := by
  have hint : (Json.int code).IsExact := by
    obtain ⟨hlow, hhigh⟩ := hcode
    exact .int hlow (by omega)
  have hbody : IsObject (body code message data)
      [("code", .int code), ("data", read), ("msg", .string message)] :=
    isObject_text_of_readsAs (.cons ⟨rfl, hint.readsBack (Nat.zero_le _)⟩
      (.cons ⟨rfl, hdata⟩ (.cons ⟨rfl, (IsExact.string _).readsBack (Nat.zero_le _)⟩ .nil)))
  have hraw : Raw.StandsIn ⟨code, .string message, .null, read⟩
      [("code", .int code), ("data", read), ("msg", .string message)] :=
    ⟨rfl, hcode, .inl rfl, .inr ⟨rfl, rfl⟩, .inl rfl⟩
  rw [parse_of_standsIn hbody hraw]
  by_cases hmessage : message = ""
  · simp [ofRaw, messageText?, hmessage]
  · simp [ofRaw, messageText?, hmessage]

/-- The envelope of a body is the one that it was made for. -/
theorem parse_body {code : Int} {data : Json} (hcode : IsInt64 code) (message : String)
    (hdata : data.IsExact) (hdepth : data.depth ≤ innerLevels) :
  parse (body code message data) = .ok ⟨code, message, data⟩
  := parse_body_of_readsAs hcode message (hdata.readsBack hdepth)

/-- The envelope in the text of an array is taken from its four items. -/
theorem parse_of_isArray {body : Bytes} {code : Int} {msg message data : Json}
    (h : IsArray body [.int code, msg, message, data]) (hcode : IsInt64 code) :
  parse body = .ok (ofRaw ⟨code, msg, message, data⟩)
  := by
  have hvalue : Raw.decoder.ofValue (.array [.int code, msg, message, data])
      = .ok ⟨code, msg, message, data⟩ := by
    have hint := Raw.int64_ofValue.mpr ⟨rfl, hcode⟩
    simp [Raw.decoder, Decoder.record, Raw.fields, Decoder.ofItems, Json.Field.needed,
      Json.Field.optional, Decoder.map, Decoder.json, hint, Except.map]
  rw [parse, Raw.decoder, Decoder.record_decode_of_isArray Raw.fields_agree h hvalue]
  rfl

/-- An envelope has the same code, message and data in whatever shape it is sent: in an object
with its keys in any order and among any others, with the message under either key or under both,
or in an array.  There is no message where nothing is said, and the message for the user is never
empty.  An object without exactly one code, which is an integer of 64 bits, is no envelope.  The
texts of objects are all those that are parsed as one, and those that are written with their
members in any order. -/
theorem parse_any_shape :
  (∀ (body : Bytes) (members : List (String × Json)) (code : Int) (v data : Json),
      IsObject body members → IsInt64 code → ¬ IsSilent v →
      valuesOf "code" members = [.int code] → valuesOf "data" members = [data] →
      Carries v (valuesOf "msg" members) (valuesOf "message" members) →
      parse body = .ok ⟨code, wording v, data⟩)
    ∧ (∀ (body : Bytes) (code : Int) (v other data : Json),
        Json.parse body = .ok (.array [.int code, v, other, data]) → IsInt64 code →
        ¬ IsSilent v → parse body = .ok ⟨code, wording v, data⟩)
    ∧ (∀ (body : Bytes) (members : List (String × Json)) (code : Int) (data : Json),
        IsObject body members → IsInt64 code →
        valuesOf "code" members = [.int code] → valuesOf "data" members = [data] →
        SaysNothing (valuesOf "msg" members) → SaysNothing (valuesOf "message" members) →
        parse body = .ok ⟨code, "", data⟩)
    ∧ (∀ envelope : Envelope, envelope.displayMessage ≠ "")
    ∧ (∀ (body : Bytes) (members : List (String × Json)), IsObject body members →
        (∀ code, IsInt64 code → valuesOf "code" members ≠ [.int code]) →
        ∃ failure, parse body = .error failure)
    ∧ (∀ (body : Bytes) (found : List (String × Json)), Json.parse body = .ok (.object found) ↔
        ∃ members, IsObject body members ∧ Json.ofMembers members = .object found)
    ∧ (∀ members : List (String × Json), (∀ m ∈ members, m.2.IsExact ∧ m.2.depth ≤ 126) →
        IsObject (bytesOf (Json.object members).text) members)
  := by
  refine ⟨?object, ?array, ?silent, ?display, ?refused, ?parsed, ?written⟩
  case object =>
    intro body members code v data hbody hint hv hcode hdata hcarries
    obtain ⟨msg, message, hmsg, hmessage, hraw⟩ := hcarries.exists_ofRaw hv code data
    rw [← hraw]
    exact parse_of_standsIn hbody ⟨hcode, hint, hmsg, hmessage, .inl hdata⟩
  case array =>
    intro body code v other data hbody hint hv
    rw [parse_of_isArray (isArray_iff.mpr hbody) hint]
    simp [ofRaw, messageText?_of_not_isSilent hv]
  case silent =>
    intro body members code data hbody hint hcode hdata hmsgs hmessages
    obtain ⟨msg, hmsg, hnomsg⟩ := hmsgs.exists_isSole
    obtain ⟨message, hmessage, hnomessage⟩ := hmessages.exists_isSole
    rw [parse_of_standsIn hbody
      (show Raw.StandsIn ⟨code, msg, message, data⟩ members from
        ⟨hcode, hint, hmsg, hmessage, .inl hdata⟩)]
    simp [ofRaw, hnomsg, hnomessage]
  case display =>
    exact displayMessage_ne_empty
  case refused =>
    intro body members hbody hcode
    cases hdecode : Raw.decoder.decode body with
    | ok raw =>
      have hraw := (Raw.decode_eq_ok hbody).mp hdecode
      exact absurd hraw.code (hcode raw.code hraw.bounds)
    | error failure =>
      refine ⟨failure, ?_⟩
      rw [parse, hdecode]
      rfl
  case parsed =>
    intro body found
    constructor
    · exact exists_isObject
    · rintro ⟨members, hbody, hfound⟩
      rw [hbody.parse, hfound]
  case written =>
    intro members
    exact isObject_text

/-- An empty `msg`, a `message` that is an object, and one key more, and an array with the same
message; a `msg` that is `null`; and an object with two codes. -/
theorem parse_any_shape_message_object :
  let v : Json := .object [("a", .string "é")]
  let more : List (String × Json) :=
    [("extra", .array [.null]), ("message", v), ("msg", .string ""), ("data", .bool true),
      ("code", .int (-5))]
  let silent : List (String × Json) := [("msg", .null), ("code", .int 0), ("data", .null)]
  let twice : List (String × Json) := [("code", .int 0), ("code", .int 0)]
  parse (bytesOf (Json.object more).text)
      = .ok ⟨-5, "\x7b\"a\":\"é\"\x7d", .bool true⟩
    ∧ parse (bytesOf (Json.array [.int (-5), v, .int 0, .bool true]).text)
      = .ok ⟨-5, "\x7b\"a\":\"é\"\x7d", .bool true⟩
    ∧ parse (bytesOf (Json.object silent).text) = .ok ⟨0, "", .null⟩
    ∧ ∃ failure, parse (bytesOf (Json.object twice).text) = .error failure
  := by
  intro v more silent twice
  obtain ⟨hshapes, harrays, hsilent, -, hrefused, -, hwritten⟩ := parse_any_shape
  have hv : v.IsExact := .object (List.pairwise_singleton ..) (by simp [IsExact.string])
  have harray : (Json.array [.null]).IsExact := .array (by simp [IsExact.null])
  have hint : (Json.int (-5)).IsExact := .int (by decide) (by decide)
  have hzero : (Json.int 0).IsExact := .int (by decide) (by decide)
  have hsays : ¬ IsSilent v := by simp [IsSilent, v]
  refine ⟨?_, ?_, ?_, ?_⟩
  · refine hshapes _ more (-5) v (.bool true) (hwritten more ?_) ⟨by decide, by decide⟩ hsays rfl
      rfl (.fallback (.inr rfl))
    simp only [more, List.forall_mem_cons]
    exact ⟨⟨harray, by decide⟩, ⟨hv, by decide⟩, ⟨.string _, by decide⟩, ⟨.bool _, by decide⟩,
      ⟨hint, by decide⟩, fun _ h => absurd h List.not_mem_nil⟩
  · refine harrays _ (-5) v (.int 0) (.bool true) (isArray_iff.mp (isArray_text ?_))
      ⟨by decide, by decide⟩ hsays
    simp only [List.forall_mem_cons]
    exact ⟨⟨hint, by decide⟩, ⟨hv, by decide⟩, ⟨hzero, by decide⟩, ⟨.bool _, by decide⟩,
      fun _ h => absurd h List.not_mem_nil⟩
  · refine hsilent _ silent 0 .null (hwritten silent ?_) ⟨by decide, by decide⟩ rfl rfl
      (.inr ⟨.null, .inl rfl, rfl⟩) (.inl rfl)
    simp only [silent, List.forall_mem_cons]
    exact ⟨⟨.null, by decide⟩, ⟨hzero, by decide⟩, ⟨.null, by decide⟩,
      fun _ h => absurd h List.not_mem_nil⟩
  · refine hrefused _ twice (hwritten twice ?_) (fun code _ h => ?_)
    · simp only [twice, List.forall_mem_cons]
      exact ⟨⟨hzero, by decide⟩, ⟨hzero, by decide⟩, fun _ h => absurd h List.not_mem_nil⟩
    · cases h

end Envelope

end ChatPortal.Gateway
