import ChatPortal.Proofs.Client.Results

/-!
# Envelopes of calls

A call that is answered by the body of an envelope brings the data that the body was made for, or
fails with its code and its message (`Client.call_of_body`).
-/

namespace ChatPortal.Client

open Gateway Http

variable {α : Type} {decoder : Json.Decoder α} {client : Client} {call : Call} {reply : Reply}

/-- A call that is sent returns what its reply says. -/
theorem call_fst_of_send (h : (client.send call).1 = .ok reply) :
  (client.call decoder call).1 = judge decoder reply.arrival
  := by
  rw [Client.call]
  split
  · next heq =>
    rw [heq] at h
    cases h
  · next heq =>
    rw [heq] at h
    cases h
    rfl

theorem notified_receive (decoder : Json.Decoder α) (arrival : Arrival) (client : Client) :
  (client.receive decoder arrival).2.journal.notified
    = client.journal.notified ++ (Notice.ofResult? (judge decoder arrival)).toList
  := by
  rw [journal_receive, List.append_assoc, List.append_assoc, Journal.notified_append,
    ← List.append_assoc, (Journal.of_reply _ _ _ _).2.1]

/-- A call that is sent notifies of the failure that its reply brings. -/
theorem notified_call (decoder : Json.Decoder α) (h : (client.send call).1 = .ok reply) :
  (client.call decoder call).2.journal.notified
    = client.journal.notified ++ (Notice.ofResult? (judge decoder reply.arrival)).toList
  := by
  cases hprepare : client.prepare call with
  | error e =>
    rw [send_of_error _ hprepare] at h
    cases h
  | ok prepared =>
    rw [send_of_ok _ hprepare] at h
    cases h
    rw [Client.call, send_of_ok _ hprepare]
    simp only
    rw [notified_receive, journal_note, Journal.notified_append]
    simp [Journal.notified]

/-- An envelope with any other code than 0 and 1 is an error with its code and its message. -/
theorem judgeEnvelope_of_code_ne {envelope : Envelope} (hzero : envelope.code ≠ 0)
    (hone : envelope.code ≠ 1) :
  ∃ e, judgeEnvelope decoder envelope = .error e ∧ e.code? = some envelope.code
    ∧ e.message = envelope.displayMessage
  := by
  rw [judgeEnvelope]
  cases houtcome : envelope.outcome with
  | success => exact absurd (outcome_eq_success.mp houtcome) hzero
  | accepted => exact absurd (outcome_eq_accepted.mp houtcome) hone
  | businessError => exact ⟨_, rfl, rfl, rfl⟩
  | sessionInvalid => exact ⟨_, rfl, rfl, rfl⟩

/-- The body of an envelope is read as the code, the message and the data that it was made for.
So a call that is answered by it brings these data if the code is 0 or 1, whatever type is made of
them, and otherwise fails with the code and the message. -/
theorem call_of_body (code : Int) (message : String) (data : Json) (hcode : IsInt64 code)
    (hdata : data.IsExact) (hdepth : data.depth ≤ 126) :
  Envelope.parse (Envelope.body code message data) = .ok ⟨code, message, data⟩
    ∧ ∀ (client : Client) (call : Call) (reply : Reply) (response : Response),
      (client.send call).1 = .ok reply → reply.arrival = .ok response →
      response.body = Envelope.body code message data →
      (code = 0 ∨ code = 1 →
        (client.call .json call).1 = .ok data
          ∧ ∀ (α : Type) (decoder : Json.Decoder α) (value : α),
            decoder.ofValue data = .ok value → (client.call decoder call).1 = .ok value)
        ∧ (code ≠ 0 → code ≠ 1 → ∀ (α : Type) (decoder : Json.Decoder α),
          ∃ e, (client.call decoder call).1 = .error e ∧ e.code? = some code
            ∧ e.message = if message = "" then "Error" else message)
  := by
  have hparse := Envelope.parse_body hcode message hdata hdepth
  refine ⟨hparse, ?_⟩
  intro client call reply response hsend harrival hbody
  have hresult {α : Type} (decoder : Json.Decoder α) :
      (client.call decoder call).1 = judgeEnvelope decoder ⟨code, message, data⟩ := by
    rw [call_fst_of_send hsend, harrival]
    exact judge_of_parse_ok (by rw [hbody, hparse])
  constructor
  · intro hbrings
    constructor
    · rw [hresult, judgeEnvelope_of_code hbrings]
      rfl
    · intro α decoder value hvalue
      rw [hresult, judgeEnvelope_of_code hbrings, hvalue]
      rfl
  · intro hzero hone α decoder
    rw [hresult]
    exact judgeEnvelope_of_code_ne hzero hone

/-- Replies with nested data, among them the least and the greatest integer, under keys of which
one is escaped: the first brings them, and the second is an error without a message. -/
theorem call_of_body_nested :
  let data : Json := .object
    [("\"\u0001\\", .array [.int (-0x8000000000000000), .int 0xFFFFFFFFFFFFFFFF, .array []]),
      ("日本😀", .null)]
  let client (code : Int) : Client :=
    Client.fresh ⟨{}, none⟩ (.ready [("/models", .envelope code "" data)]) ⟨0, 0, 0⟩
  Envelope.parse (Envelope.body 1 "" data) = .ok ⟨1, "", data⟩
    ∧ ((client 1).call .json (.get "/models")).1 = .ok data
    ∧ ∃ e, ((client 50008).call .json (.get "/models")).1 = .error e ∧ e.code? = some 50008
      ∧ e.message = "Error"
  := by
  intro data client
  have hleast : (Json.int (-0x8000000000000000)).IsExact := .int (by decide) (by decide)
  have hgreatest : (Json.int 0xFFFFFFFFFFFFFFFF).IsExact := .int (by decide) (by decide)
  have hempty : (Json.array []).IsExact := .array (fun _ h => absurd h List.not_mem_nil)
  have hdata : data.IsExact := by
    refine .object (by decide) ?_
    simp only [List.forall_mem_cons]
    refine ⟨.array ?_, .null, fun _ h => absurd h List.not_mem_nil⟩
    simp only [List.forall_mem_cons]
    exact ⟨hleast, hgreatest, hempty, fun _ h => absurd h List.not_mem_nil⟩
  obtain ⟨hparse, hcall⟩ :=
    call_of_body 1 "" data ⟨by decide, by decide⟩ hdata (by decide)
  obtain ⟨-, herror⟩ :=
    call_of_body 50008 "" data ⟨by decide, by decide⟩ hdata (by decide)
  have hreply (code : Int) : ∃ reply response,
      ((client code).send (.get "/models")).1 = .ok reply ∧ reply.arrival = .ok response
        ∧ response.body = Envelope.body code "" data :=
    ⟨_, _, rfl, rfl, rfl⟩
  obtain ⟨_, _, hsent, harrival, hbody⟩ := hreply 1
  obtain ⟨_, _, hsent', harrival', hbody'⟩ := hreply 50008
  refine ⟨hparse, ?_, ?_⟩
  · exact ((hcall _ _ _ _ hsent harrival hbody).1 (.inr rfl)).1
  · exact (herror _ _ _ _ hsent' harrival' hbody').2 (by decide) (by decide) Json .json

end ChatPortal.Client
