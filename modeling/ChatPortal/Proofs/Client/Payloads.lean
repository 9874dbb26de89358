import ChatPortal.Client.Endpoints
import ChatPortal.Proofs.Client.Envelopes
import ChatPortal.Proofs.Portal.Records

/-!
# What calls bring

A call that is answered by data brings the values that stand there, in their order, or none of them
where one is broken (`Client.payloads_are_read`).
-/

namespace ChatPortal.Client

open Gateway Http Json Portal

variable {α : Type} {client : Client} {call : Call} {data : Json}

/-- A call is answered by an envelope with the code 0 or 1 and some data. -/
inductive Brings (client : Client) (call : Call) : Json → Prop
  | intro {reply : Reply} {response : Response} {code : Int} {message : String} {data : Json}
      (hsend : (client.send call).1 = .ok reply) (harrival : reply.arrival = .ok response)
      (hparse : Envelope.parse response.body = .ok ⟨code, message, data⟩)
      (hcode : code = 0 ∨ code = 1) : Brings client call data

/-- A call fails because of what came back, and the user is notified of it once. -/
def IsRefused (client : Client) (outcome : Except GatewayError α × Client) : Prop :=
  ∃ reason, outcome.1 = .error (.invalidResponse reason)
    ∧ outcome.2.journal.notified
      = client.journal.notified ++ [.error ("Invalid response: " ++ reason)]

/-- A call brings what is taken from its data. -/
theorem Brings.call_eq_ok {decoder : Decoder α} {a : α} (h : Brings client call data)
    (ha : decoder.ofValue data = .ok a) :
  (client.call decoder call).1 = .ok a
  := by
  obtain ⟨hsend, harrival, hparse, hcode⟩ := h
  rw [call_fst_of_send hsend, harrival, judge_of_parse_ok hparse, judgeEnvelope_of_code hcode, ha]
  rfl

/-- A call is refused if nothing is taken from its data. -/
theorem Brings.isRefused {decoder : Decoder α} {issue : Issue} (h : Brings client call data)
    (hissue : decoder.ofValue data = .error issue) :
  IsRefused client (client.call decoder call)
  := by
  obtain @⟨reply, response, code, message, _, hsend, harrival, hparse, hcode⟩ := h
  have hjudge : judge decoder (.ok response) = _ :=
    (judge_of_parse_ok hparse).trans (judgeEnvelope_of_code hcode)
  rw [hissue] at hjudge
  refine ⟨issue.message, ?_, ?_⟩
  · rw [call_fst_of_send hsend, harrival, hjudge]
    rfl
  · rw [notified_call decoder hsend, harrival, hjudge]
    rfl

theorem Brings.isRefused_list {decoder : Decoder α} {items : List Json} {v : Json}
    (h : Brings client call (.array items)) (hv : v ∈ items)
    (hnone : ∀ a, decoder.ofValue v ≠ .ok a) :
  IsRefused client (client.call (.list decoder) call)
  := by
  obtain ⟨issue, hissue⟩ := Decoder.list_ofValue_of_not hv hnone
  exact h.isRefused hissue

theorem Brings.call_list {decoder : Decoder α} {StandsIn : α → List (String × Json) → Prop}
    {values : List α} {lists : List (List (String × Json))} (hread : decoder.ReadsObjects StandsIn)
    (hvalues : List.Forall₂ StandsIn values lists)
    (h : Brings client call (.array (lists.map Json.ofMembers))) :
  (client.call (.list decoder) call).1 = .ok values
  := h.call_eq_ok (hread.list_ofValue_ofMembers hvalues)

/-! ### The payloads of a portal -/

/-- The texts of a schema are fetched from where they stand. -/
theorem Brings.fetchDetail {d : SchemaDetail} {members : List (String × Json)} {schema : String}
    (h : Brings client (detailCall schema) (Json.ofMembers members)) (hd : d.StandsIn members) :
  (client.fetchDetail schema).1 = .ok d
  := h.call_eq_ok (SchemaDetail.readsObjects.ofValue_ofMembers hd)

/-- The list of schemas is fetched from where its entries stand. -/
theorem Brings.fetchOptions {options : List SchemaOption}
    {lists : List (List (String × Json))}
    (h : Brings client optionCall (.array (lists.map Json.ofMembers)))
    (hoptions : List.Forall₂ SchemaOption.StandsIn options lists) :
  client.fetchOptions.1 = .ok options
  := h.call_list SchemaOption.readsObjects hoptions

/-- A chat begins with the lines that stand in the reply. -/
theorem Brings.beginChat {lines : List ChatLine} {lists : List (List (String × Json))}
    {schema : String}
    (h : Brings client (chatInitCall schema) (.array (lists.map Json.ofMembers)))
    (hlines : List.Forall₂ ChatLine.StandsIn lines lists) :
  (client.beginChat schema).1 = .ok lines
  := h.call_list ChatLine.readsObjects hlines

/-- What is said is answered by the lines that stand in the reply. -/
theorem Brings.say {lines : List ChatLine} {lists : List (List (String × Json))} {text : String}
    (h : Brings client (chatMessageCall text) (.array (lists.map Json.ofMembers)))
    (hlines : List.Forall₂ ChatLine.StandsIn lines lists) :
  (client.say text).1 = .ok lines
  := h.call_list ChatLine.readsObjects hlines

/-- The list of schemas is refused if one entry is broken. -/
theorem Brings.isRefused_fetchOptions {items : List Json} {members : List (String × Json)}
    (h : Brings client optionCall (.array items)) (hitem : .object members ∈ items)
    (hbroken : SchemaOption.IsBroken members) :
  IsRefused client client.fetchOptions
  := h.isRefused_list hitem fun _ hoption =>
    (SchemaOption.readsObjects.ofValue_eq_ok.mp hoption).not_isBroken hbroken

/-- The lines of a reply are refused if one of them is broken. -/
theorem Brings.isRefused_lines {items : List Json} {members : List (String × Json)}
    (h : Brings client call (.array items)) (hitem : .object members ∈ items)
    (hbroken : ChatLine.IsBroken members) :
  IsRefused client (client.call (.list ChatLine.decoder) call)
  := h.isRefused_list hitem fun _ hline =>
    (ChatLine.readsObjects.ofValue_eq_ok.mp hline).not_isBroken hbroken

/-- The data of an envelope that are written as an object are read as one. -/
theorem parse_body_object {code : Int} {message : String} {members : List (String × Json)}
    (hcode : IsInt64 code) (h : ∀ m ∈ members, m.2.IsExact ∧ m.2.depth < 126) :
  Envelope.parse (Envelope.body code message (.object members))
    = .ok ⟨code, message, Json.ofMembers members⟩
  := by
  apply Envelope.parse_body_of_readsAs hcode
  apply readsAs_object
  exact forall₂_memberReadsAs fun m hm =>
    (h m hm).1.readsBack (Nat.le_of_lt_succ (h m hm).2)

/-- The data of an envelope that are written as a list of objects are read as one. -/
theorem parse_body_array {code : Int} {message : String} {lists : List (List (String × Json))}
    (hcode : IsInt64 code)
    (h : ∀ members ∈ lists, ∀ m ∈ members, m.2.IsExact ∧ m.2.depth < 125) :
  Envelope.parse (Envelope.body code message (.array (lists.map .object)))
    = .ok ⟨code, message, .array (lists.map Json.ofMembers)⟩
  := by
  apply Envelope.parse_body_of_readsAs hcode
  apply readsAs_array_objects
  exact fun members hmembers m hm =>
    (h members hmembers m hm).1.readsBack (Nat.le_of_lt_succ (h members hmembers m hm).2)

/-- The texts of a schema, the entries of a list of schemas and the lines of a chat are read where
they stand among the members of objects, in any order and among anything else, from texts and from
values, and back from what is written of them.  A call that is answered by them brings them, in
their order.  It is refused, with one notice, if a member of one entry or line is missing or of
another kind.  Data that are written with their members in any order are read as the objects that
are made of these. -/
theorem payloads_are_read :
  (∀ (d : SchemaDetail) (members : List (String × Json)), d.StandsIn members →
      (∀ text, IsObject text members → SchemaDetail.decoder.decode text = .ok d)
      ∧ SchemaDetail.decoder.ofValue (.object members) = .ok d
      ∧ ∀ (client : Client) (schema : String),
        Brings client (detailCall schema) (Json.ofMembers members) →
        (client.fetchDetail schema).1 = .ok d)
    ∧ (∀ d : SchemaDetail, SchemaDetail.decoder.decode (bytesOf d.toJson.text) = .ok d
      ∧ SchemaDetail.decoder.ofValue d.toJson = .ok d)
    ∧ (∀ (options : List SchemaOption) (lists : List (List (String × Json))),
      List.Forall₂ SchemaOption.StandsIn options lists →
      (Decoder.list SchemaOption.decoder).ofValue (.array (lists.map .object)) = .ok options
      ∧ ((∀ members ∈ lists, ∀ m ∈ members, m.2.IsExact ∧ m.2.depth < 126) →
        (Decoder.list SchemaOption.decoder).decode
          (bytesOf (Json.array (lists.map .object)).text) = .ok options)
      ∧ ∀ client : Client, Brings client optionCall (.array (lists.map Json.ofMembers)) →
        client.fetchOptions.1 = .ok options)
    ∧ (∀ options : List SchemaOption, (Decoder.list SchemaOption.decoder).decode
        (bytesOf (Json.array (options.map SchemaOption.toJson)).text) = .ok options)
    ∧ (∀ (lines : List ChatLine) (lists : List (List (String × Json))),
      List.Forall₂ ChatLine.StandsIn lines lists →
      (Decoder.list ChatLine.decoder).ofValue (.array (lists.map .object)) = .ok lines
      ∧ ((∀ members ∈ lists, ∀ m ∈ members, m.2.IsExact ∧ m.2.depth < 126) →
        (Decoder.list ChatLine.decoder).decode
          (bytesOf (Json.array (lists.map .object)).text) = .ok lines)
      ∧ ∀ (client : Client) (text : String),
        (Brings client (chatInitCall text) (.array (lists.map Json.ofMembers)) →
          (client.beginChat text).1 = .ok lines)
        ∧ (Brings client (chatMessageCall text) (.array (lists.map Json.ofMembers)) →
          (client.say text).1 = .ok lines))
    ∧ (∀ lines : List ChatLine, (∀ line ∈ lines, IsInt64 line.time) →
      (Decoder.list ChatLine.decoder).decode
        (bytesOf (Json.array (lines.map ChatLine.toJson)).text) = .ok lines)
    ∧ (∀ (client : Client) (items : List Json) (members : List (String × Json)),
      .object members ∈ items → SchemaOption.IsBroken members →
      Brings client optionCall (.array items) → IsRefused client client.fetchOptions)
    ∧ (∀ (client : Client) (text : String) (items : List Json) (members : List (String × Json)),
      .object members ∈ items → ChatLine.IsBroken members →
      (Brings client (chatInitCall text) (.array items) →
        IsRefused client (client.beginChat text))
      ∧ (Brings client (chatMessageCall text) (.array items) →
        IsRefused client (client.say text)))
    ∧ (∀ (code : Int) (message : String), IsInt64 code →
      (∀ members : List (String × Json), (∀ m ∈ members, m.2.IsExact ∧ m.2.depth < 126) →
        Envelope.parse (Envelope.body code message (.object members))
          = .ok ⟨code, message, Json.ofMembers members⟩)
      ∧ ∀ lists : List (List (String × Json)),
        (∀ members ∈ lists, ∀ m ∈ members, m.2.IsExact ∧ m.2.depth < 125) →
        Envelope.parse (Envelope.body code message (.array (lists.map .object)))
          = .ok ⟨code, message, .array (lists.map Json.ofMembers)⟩)
  := by
  refine ⟨?detail, fun d => ⟨d.decode_toJson, d.ofValue_toJson⟩, ?options,
    SchemaOption.list_decode_toJson, ?lines, fun _ => ChatLine.list_decode_toJson, ?brokenOption,
    ?brokenLine, ?written⟩
  case detail =>
    intro d members hd
    have hread := SchemaDetail.readsObjects
    exact ⟨fun text htext => (hread.decode_eq_ok htext).mpr hd, hread.ofValue_eq_ok.mpr hd,
      fun client schema h => h.fetchDetail hd⟩
  case options =>
    intro options lists hoptions
    have hread := SchemaOption.readsObjects
    exact ⟨hread.list_ofValue hoptions, hread.list_decode hoptions,
      fun client h => h.fetchOptions hoptions⟩
  case lines =>
    intro lines lists hlines
    have hread := ChatLine.readsObjects
    exact ⟨hread.list_ofValue hlines, hread.list_decode hlines,
      fun client text => ⟨fun h => h.beginChat hlines, fun h => h.say hlines⟩⟩
  case brokenOption =>
    intro client items members hitem hbroken h
    exact h.isRefused_fetchOptions hitem hbroken
  case brokenLine =>
    intro client text items members hitem hbroken
    exact ⟨fun h => h.isRefused_lines hitem hbroken, fun h => h.isRefused_lines hitem hbroken⟩
  case written =>
    intro code message hcode
    exact ⟨fun members => parse_body_object hcode, fun lists => parse_body_array hcode⟩

/-- The texts of a schema in another order, with the other key of one of them and one key more; the
lines of a chat; and a list of schemas whose second entry has no title. -/
theorem payloads_are_read_in_another_order :
  let members : List (String × Json) :=
    [("unknown", .string "Sorry?"), ("theme", .array [.null]), ("name", .string "loan"),
      ("title", .string "")]
  let line : List (String × Json) := [("time", .int (-1)), ("content", .string "hello")]
  let options : List (List (String × Json)) :=
    [[("title", .string "Loans"), ("schema", .string "loan")], [("schema", .string "card")]]
  let client (path : String) (data : Json) : Client :=
    Client.fresh ⟨{}, none⟩ (.ready [(path, .envelope 1 "" data)]) ⟨0, 0, 0⟩
  let described := client detailPath (.object members)
  let begun := client chatInitPath (.array [.object line])
  let listed := client optionPath (.array (options.map .object))
  (described.fetchDetail "loan").1 = .ok { name := "loan", unknown := "Sorry?" }
    ∧ (begun.beginChat "loan").1 = .ok [⟨"hello", -1⟩]
    ∧ IsRefused listed listed.fetchOptions
  := by
  intro members line options client described begun listed
  obtain ⟨hdetail, -, -, -, hlines, -, hoption, -, hwritten⟩ := payloads_are_read
  obtain ⟨hobject, harray⟩ := hwritten 1 "" ⟨by decide, by decide⟩
  have hnulls : (Json.array [.null]).IsExact := .array (by simp [IsExact.null])
  have htime : (Json.int (-1)).IsExact := .int (by decide) (by decide)
  refine ⟨?_, ?_, ?_⟩
  · have hstands : SchemaDetail.StandsIn { name := "loan", unknown := "Sorry?" } members := by
      simp [SchemaDetail.StandsIn, SchemaDetail.texts, valuesUnder, members]
    refine (hdetail _ members hstands).2.2 described "loan"
      ⟨rfl, rfl, hobject members ?_, .inr rfl⟩
    simp [members, hnulls, IsExact.string, depth, depthOfItems]
  · have hstands : ChatLine.StandsIn ⟨"hello", -1⟩ line := ⟨rfl, rfl, by decide, by decide⟩
    refine ((hlines _ [line] (.cons hstands .nil)).2.2 begun "loan").1
      ⟨rfl, rfl, harray [line] ?_, .inr rfl⟩
    simp only [line, List.forall_mem_cons, List.not_mem_nil, false_imp_iff, implies_true, and_true]
    exact ⟨⟨htime, by decide⟩, .string _, by decide⟩
  · refine hoption listed (options.map Json.ofMembers) [("schema", .string "card")] ?_
      (.inr (.inl rfl)) ⟨rfl, rfl, harray options ?_, .inr rfl⟩
    · exact List.mem_map_of_mem (List.mem_cons_of_mem _ (List.mem_singleton_self _))
    · simp only [options, List.forall_mem_cons, List.not_mem_nil, false_imp_iff, implies_true,
        and_true]
      exact ⟨⟨⟨.string _, by decide⟩, .string _, by decide⟩, .string _, by decide⟩

end ChatPortal.Client
