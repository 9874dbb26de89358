import ChatPortal.Proofs.Client.Frame

/-!
# What is added to the journal

A call that can be sent adds itself to the journal of a run, and a reply that is received
adds itself, the notification of a failure, and the wish for a prompt if it revokes the
credential.  `Run.added` is what anything that happens to a run adds to its journal
(`Run.journal_step`).
-/

namespace ChatPortal.Client

open Gateway Http Reauth

variable {α : Type} (client : Client)

/-- What the user is notified of for a result: of the failure. -/
def Notice.ofResult? : Except GatewayError α → Option Notice
  | .ok _ => none
  | .error e => some (.error e.message)

/-- The result that a call will have: what its reply is judged to say. -/
def Flight.result (flight : Flight) : Result :=
  judge flight.wanted.decoder flight.reply.arrival

/-! ### What a journal tells of -/

namespace Journal

variable (journal entries : Journal)

theorem sent_append :
  sent (journal ++ entries) = journal.sent ++ entries.sent
  := List.filterMap_append

theorem notified_append :
  notified (journal ++ entries) = journal.notified ++ entries.notified
  := List.filterMap_append

theorem accepted_append :
  accepted (journal ++ entries) = journal.accepted + entries.accepted
  := by
  simp [accepted, answers]

/-- A reply and what follows from it tell of no call, of one notice at most, and of an
accepted prompt if one is asked for and accepted. -/
theorem of_reply (arrival : Arrival) (notice : Option Notice) (revoked granted : Bool) :
  let entries : Journal := [.received arrival] ++ (notice.map Entry.notified).toList
    ++ if revoked then [.triggered granted] else []
  entries.sent = [] ∧ entries.notified = notice.toList
    ∧ entries.accepted = (granted && revoked).toNat
  := by
  have hasked : Journal.accepted [.triggered granted] = granted.toNat := by
    cases granted with
    | false => rfl
    | true => rfl
  cases notice with
  | none =>
    cases revoked with
    | false => exact ⟨rfl, rfl, by rw [Bool.and_false]; rfl⟩
    | true => exact ⟨rfl, rfl, by rw [Bool.and_true, ← hasked]; rfl⟩
  | some notice =>
    cases revoked with
    | false => exact ⟨rfl, rfl, by rw [Bool.and_false]; rfl⟩
    | true => exact ⟨rfl, rfl, by rw [Bool.and_true, ← hasked]; rfl⟩

end Journal

/-! ### Calls and replies -/

theorem send_of_error {call : Call} {e : GatewayError} (h : client.prepare call = .error e) :
  client.send call = (.error e, client)
  := by
  simp [send, h]

/-- A call that can be prepared is sent as it was prepared, and answered by the link. -/
theorem send_of_ok {call prepared : Call} (h : client.prepare call = .ok prepared) :
  client.send call
    = (.ok (client.link.answer prepared).1,
        { client with link := (client.link.answer prepared).2 }.note (.sent prepared))
  := by
  simp [send, h]

theorem exists_prepare_ok (h : isSendable client.credential = true) (call : Call) :
  ∃ prepared, client.prepare call = .ok prepared
  := by
  by_cases hempty : client.credential = ""
  · exact ⟨_, if_pos hempty⟩
  · exact ⟨_, by rw [prepare, if_neg hempty, if_pos h]⟩

theorem journal_report (result : Except GatewayError α) :
  (client.report result).journal
    = client.journal ++ ((Notice.ofResult? result).map Entry.notified).toList
  := by
  cases result with
  | ok value => simp [report, Notice.ofResult?]
  | error e => rfl

/-- A reply adds itself to the journal, then the notification of a failure, then the
answer to the wish for a prompt. -/
theorem journal_receive (decoder : Json.Decoder α) (arrival : Arrival) :
  (client.receive decoder arrival).2.journal
    = client.journal ++ [.received arrival]
      ++ ((Notice.ofResult? (judge decoder arrival)).map Entry.notified).toList
      ++ if revokes arrival then [.triggered client.trigger.1] else []
  := by
  have haccepted (client' : Client) (hflow : client'.flow = client.flow)
      (hwaits : client'.canWait = client.canWait) : client'.trigger.1 = client.trigger.1 := by
    rw [trigger_accepted, trigger_accepted, hflow, hwaits]
  rw [receive, heed]
  split
  · rw [journal_trigger, journal_report, journal_accept, journal_note]
    rw [haccepted _ (by simp) (by simp)]
  · rw [journal_report, journal_accept, journal_note, List.append_nil]

/-! ### Runs -/

namespace Run

variable {run : Run} {event : Event}

theorem send_of_prepare_error {call : Call} {e : GatewayError}
    (h : run.client.prepare call = .error e) (wanted : Wanted) :
  run.send call wanted = (.error e, run)
  := by
  simp [Run.send, send_of_error _ h]

theorem send_of_prepare_ok {call prepared : Call}
    (h : run.client.prepare call = .ok prepared) (wanted : Wanted) :
  run.send call wanted
    = (.ok run.flights.length,
        { run with
          client := (run.client.send call).2
          flights := run.flights ++ [⟨wanted, (run.client.link.answer prepared).1⟩] })
  := by
  simp [Run.send, send_of_ok _ h]

/-- A call that can be prepared joins those that were sent, and the reply that the link has
for it is under way. -/
theorem step_send_of_prepare_ok {call prepared : Call}
    (h : run.client.prepare call = .ok prepared) (wanted : Wanted) :
  (run.step (.send call wanted)).client.journal.sent = run.client.journal.sent ++ [prepared]
    ∧ (run.step (.send call wanted)).flights
      = run.flights ++ [⟨wanted, (run.client.link.answer prepared).1⟩]
    ∧ (run.step (.send call wanted)).client.link = (run.client.link.answer prepared).2
  := by
  rw [step, send_of_prepare_ok h, send_of_ok _ h]
  exact ⟨Journal.sent_append _ _, rfl, rfl⟩

theorem arrive_of_awaited {number : Nat} {flight : Flight}
    (hflight : run.flights[number]? = some flight) (hwaits : run.result? number = none) :
  run.arrive number
    = { run with
        client := (run.client.receive flight.wanted.decoder flight.reply.arrival).2
        results := run.results ++ [(number, flight.result)] }
  := by
  simp [arrive, hflight, hwaits, receive, Flight.result]

/-- A reply is awaited or not. -/
theorem awaited_or_not (number : Nat) (run : Run) :
  (∃ flight, run.flights[number]? = some flight ∧ run.result? number = none)
    ∨ ∀ flight, run.flights[number]? = some flight → run.result? number ≠ none
  := by
  by_cases h : ∃ flight, run.flights[number]? = some flight ∧ run.result? number = none
  · exact .inl h
  · exact .inr fun flight hflight hwaits => h ⟨flight, hflight, hwaits⟩

theorem arrive_of_not_awaited {number : Nat}
    (h : ∀ flight, run.flights[number]? = some flight → run.result? number ≠ none) :
  run.arrive number = run
  := by
  rw [arrive]
  split
  · next flight hflight hwaits => exact absurd hwaits (h flight hflight)
  · rfl

/-- Nothing but a reply brings a result. -/
theorem results_step_of_not_arrive (h : ∀ number, event ≠ .arrive number) :
  (run.step event).results = run.results
  := by
  cases event with
  | arrive number => exact absurd rfl (h number)
  | send call wanted =>
    cases hprepare : run.client.prepare call with
    | error e => rw [step, send_of_prepare_error hprepare]
    | ok prepared => rw [step, send_of_prepare_ok hprepare]
  | _ => rfl

/-- Nothing but a call that is sent gets a number. -/
theorem flights_step_of_not_send (h : ∀ call wanted, event ≠ .send call wanted) :
  (run.step event).flights = run.flights
  := by
  cases event with
  | send call wanted => exact absurd rfl (h call wanted)
  | arrive number =>
    rw [step, arrive]
    split
    · rfl
    · rfl
  | _ => rfl

/-- A call keeps its number, and the reply that will come. -/
theorem getElem?_flights_step {number : Nat} {flight : Flight}
    (h : run.flights[number]? = some flight) (event : Event) :
  (run.step event).flights[number]? = some flight
  := by
  by_cases hsend : ∃ call wanted, event = .send call wanted
  · obtain ⟨call, wanted, rfl⟩ := hsend
    cases hprepare : run.client.prepare call with
    | error e =>
      rw [step, send_of_prepare_error hprepare]
      exact h
    | ok prepared =>
      rw [step, send_of_prepare_ok hprepare]
      rw [List.getElem?_append_left (List.getElem?_eq_some_iff.mp h).1]
      exact h
  · rw [flights_step_of_not_send]
    · exact h
    · rintro call wanted rfl
      exact hsend ⟨call, wanted, rfl⟩

/-- What is added to the journal when something happens to a run. -/
def added (run : Run) : Event → Journal
  | .send call _ =>
    match run.client.prepare call with
    | .ok prepared => [.sent prepared]
    | .error _ => []
  | .arrive number =>
    match run.flights[number]?, run.result? number with
    | some flight, none =>
      [.received flight.reply.arrival]
        ++ ((Notice.ofResult? flight.result).map Entry.notified).toList
        ++ if revokes flight.reply.arrival then [.triggered run.client.trigger.1] else []
    | _, _ => []
  | .trigger => [.triggered run.client.trigger.1]
  | .showPrompt number =>
    if run.client.flow.isQueued number then [.prompted (.inLocale run.client.locale)] else []
  | .closePrompt number ending =>
    if run.client.flow.isShowing number then [.closed ending] else []
  | .setCredential credential => [.assigned credential]
  | _ => []

theorem added_of_awaited {number : Nat} {flight : Flight}
    (hflight : run.flights[number]? = some flight) (hwaits : run.result? number = none) :
  run.added (.arrive number)
    = [.received flight.reply.arrival]
      ++ ((Notice.ofResult? flight.result).map Entry.notified).toList
      ++ if revokes flight.reply.arrival then [.triggered run.client.trigger.1] else []
  := by
  simp [added, hflight, hwaits]

theorem added_of_not_awaited {number : Nat}
    (h : ∀ flight, run.flights[number]? = some flight → run.result? number ≠ none) :
  run.added (.arrive number) = []
  := by
  rw [added]
  split
  · next flight hflight hwaits => exact absurd hwaits (h flight hflight)
  · rfl

/-- The journal is continued by what is added to it. -/
theorem journal_step (run : Run) (event : Event) :
  (run.step event).client.journal = run.client.journal ++ run.added event
  := by
  cases event with
  | send call wanted =>
    cases hprepare : run.client.prepare call with
    | error e => simp [step, send_of_prepare_error hprepare, added, hprepare]
    | ok prepared =>
      simp [step, send_of_prepare_ok hprepare, send_of_ok _ hprepare, added, hprepare]
  | arrive number =>
    rcases run.awaited_or_not number with ⟨flight, hflight, hwaits⟩ | hnot
    · rw [step, arrive_of_awaited hflight hwaits, added_of_awaited hflight hwaits]
      simp only [journal_receive, Flight.result, List.append_assoc]
    · rw [step, arrive_of_not_awaited hnot, added_of_not_awaited hnot, List.append_nil]
  | trigger => apply journal_trigger
  | showPrompt number =>
    cases hqueued : run.client.flow.isQueued number with
    | false =>
      have hshow : run.client.flow.show? number = none := by simp [Flow.show?, hqueued]
      simp [step, showPrompt_of_none _ hshow, added, hqueued]
    | true =>
      have hshow : run.client.flow.show? number
          = some { run.client.flow with
              prompts := run.client.flow.prompts.set number .showing } := by
        simp [Flow.show?, hqueued]
      simp [step, showPrompt_of_some _ hshow, added, hqueued, note]
  | closePrompt number ending =>
    cases hshowing : run.client.flow.isShowing number with
    | false => simp [step, closePrompt_of_not_showing _ hshowing, added, hshowing]
    | true =>
      obtain ⟨flow, hclose⟩ := run.client.flow.close_isSome hshowing ending
      rw [step, closePrompt_of_some _ hclose, journal_note, journal_obey]
      simp [added, hshowing]
  | setCredential credential => rfl
  | addReply path reply => apply (List.append_nil _).symm
  | takePending => apply (List.append_nil _).symm
  | readInbox => apply (List.append_nil _).symm
  | setLocale locale => apply (List.append_nil _).symm

end Run

end ChatPortal.Client
