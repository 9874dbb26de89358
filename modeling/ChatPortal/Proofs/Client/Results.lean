import ChatPortal.Proofs.Client.Credential
import ChatPortal.Proofs.Client.Entries
import ChatPortal.Proofs.Gateway.Envelope
import Mathlib.Data.List.Nodup

/-!
# Results and their notifications

`Says decoder arrival result` tells what a reply says to somebody who wants data of a
certain type, by the code of its envelope, whatever its status; it depends on nothing but
the reply (`says_iff`).  In every run each result is what its own reply says, and the user
was notified of the failures among the results, once each and in the order in which the
replies came (`Reported`).
-/

namespace ChatPortal.Client

open Gateway Http Reauth
open Gateway.Envelope (displayMessage_ne_empty)

variable {α : Type} {decoder : Json.Decoder α} {arrival : Arrival}
  {result : Except GatewayError α}

/-! ### What a reply says -/

/-- What a reply says to somebody who wants data of a certain type. -/
inductive Says (decoder : Json.Decoder α) : Arrival → Except GatewayError α → Prop where
  | lost (e : GatewayError) : Says decoder (.error e) (.error e)
  | garbled {response : Response} {failure : Json.Failure}
      (hparse : Envelope.parse response.body = .error failure)
      (hstatus : 200 ≤ response.status.code ∧ response.status.code < 300) :
      Says decoder (.ok response)
        (.error (.invalidResponse (failure.message response.body)))
  | refused {response : Response} {failure : Json.Failure}
      (hparse : Envelope.parse response.body = .error failure)
      (hstatus : ¬ (200 ≤ response.status.code ∧ response.status.code < 300)) :
      Says decoder (.ok response)
        (.error (.transport ("Status " ++ response.status.text ++ ": "
          ++ String.ofList (GatewayError.shorten (Utf8.decodeLossy response.body)))))
  | brought {response : Response} {envelope : Envelope} {value : α}
      (hparse : Envelope.parse response.body = .ok envelope)
      (hcode : envelope.code = 0 ∨ envelope.code = 1)
      (hvalue : decoder.ofValue envelope.data = .ok value) :
      Says decoder (.ok response) (.ok value)
  | unfit {response : Response} {envelope : Envelope} {issue : Json.Issue}
      (hparse : Envelope.parse response.body = .ok envelope)
      (hcode : envelope.code = 0 ∨ envelope.code = 1)
      (hvalue : decoder.ofValue envelope.data = .error issue) :
      Says decoder (.ok response) (.error (.invalidResponse issue.message))
  | expired {response : Response} {envelope : Envelope}
      (hparse : Envelope.parse response.body = .ok envelope)
      (hcode : envelope.code ∈ [50008, 50012, 50014]) :
      Says decoder (.ok response)
        (.error (.sessionExpired envelope.code envelope.displayMessage))
  | business {response : Response} {envelope : Envelope}
      (hparse : Envelope.parse response.body = .ok envelope)
      (hcode : envelope.code ∉ [0, 1, 50008, 50012, 50014]) :
      Says decoder (.ok response) (.error (.business envelope.code envelope.displayMessage))

/-- The code 1 is the one of something that was accepted. -/
theorem outcome_eq_accepted {envelope : Envelope} :
  envelope.outcome = .accepted ↔ envelope.code = 1
  := by
  rw [Envelope.outcome, Outcome.ofCode]
  split
  · next hcode => simp [hcode]
  · split
    · next hcode => simp [hcode]
    · next hcode =>
      split
      · simp [hcode]
      · simp [hcode]

/-- Three codes are those of a server that does not honour the credential any more. -/
theorem outcome_eq_sessionInvalid {envelope : Envelope} :
  envelope.outcome = .sessionInvalid ↔ envelope.code ∈ [50008, 50012, 50014]
  := by
  rw [Envelope.outcome, Outcome.ofCode]
  split
  · next hcode => simp [hcode]
  · split
    · next hcode => simp [hcode]
    · split
      · next hcode => exact iff_of_true rfl hcode
      · next hcode => exact iff_of_false (by simp) hcode

/-- All other codes are those of a server that reports an error. -/
theorem outcome_eq_businessError {envelope : Envelope} :
  envelope.outcome = .businessError ↔ envelope.code ∉ [0, 1, 50008, 50012, 50014]
  := by
  rw [List.mem_cons, List.mem_cons, ← outcome_eq_success, ← outcome_eq_accepted,
    ← outcome_eq_sessionInvalid]
  cases envelope.outcome with
  | success | accepted | sessionInvalid | businessError => simp

/-- A reply revokes the credential when it is an envelope with one of these codes. -/
theorem revokes_eq_true :
  revokes arrival = true
    ↔ ∃ response envelope, arrival = .ok response
      ∧ Envelope.parse response.body = .ok envelope
      ∧ envelope.code ∈ [50008, 50012, 50014]
  := by
  constructor
  · intro h
    cases arrival with
    | error e => cases h
    | ok response =>
      cases hparse : Envelope.parse response.body with
      | error failure => simp [revokes, hparse] at h
      | ok envelope =>
        have houtcome : envelope.outcome = .sessionInvalid := by
          simpa [revokes, hparse] using h
        exact ⟨response, envelope, rfl, hparse, outcome_eq_sessionInvalid.mp houtcome⟩
  · rintro ⟨response, envelope, rfl, hparse, hcode⟩
    simp [revokes, hparse, outcome_eq_sessionInvalid.mpr hcode]

theorem judge_of_parse_ok {response : Response} {envelope : Envelope}
    (hparse : Envelope.parse response.body = .ok envelope) :
  judge decoder (.ok response) = judgeEnvelope decoder envelope
  := by
  simp [judge, hparse]

theorem judge_of_parse_error {response : Response} {failure : Json.Failure}
    (hparse : Envelope.parse response.body = .error failure) :
  judge decoder (.ok response)
    = .error (if response.status.isSuccess then
        .invalidResponse (failure.message response.body)
      else
        .ofStatus response.status (Utf8.decodeLossy response.body))
  := by
  simp only [judge, hparse]
  split
  · rfl
  · rfl

theorem judgeEnvelope_of_code {envelope : Envelope}
    (hcode : envelope.code = 0 ∨ envelope.code = 1) :
  judgeEnvelope decoder envelope
    = (decoder.ofValue envelope.data).mapError (.invalidResponse ·.message)
  := by
  rcases hcode with hcode | hcode
  · simp [judgeEnvelope, outcome_eq_success.mpr hcode]
  · simp [judgeEnvelope, outcome_eq_accepted.mpr hcode]

/-- A reply that revokes the credential says so, whatever is wanted. -/
theorem judge_of_revokes (h : revokes arrival = true) (decoder : Json.Decoder α) :
  ∃ e, judge decoder arrival = .error e
  := by
  obtain ⟨response, envelope, rfl, hparse, hcode⟩ := revokes_eq_true.mp h
  rw [judge_of_parse_ok hparse, judgeEnvelope, outcome_eq_sessionInvalid.mpr hcode]
  exact ⟨_, rfl⟩

/-- What a reply says is what it is judged to say. -/
theorem Says.judge_eq (h : Says decoder arrival result) :
  judge decoder arrival = result
  := by
  cases h with
  | lost e => rfl
  | @garbled response _ hparse hstatus =>
    have hsuccess : response.status.isSuccess = true := by
      simpa [Status.isSuccess] using hstatus
    rw [judge_of_parse_error hparse, if_pos hsuccess]
  | @refused response _ hparse hstatus =>
    have hsuccess : ¬ response.status.isSuccess = true := by
      simpa [Status.isSuccess] using hstatus
    rw [judge_of_parse_error hparse, if_neg hsuccess, GatewayError.ofStatus]
  | brought hparse hcode hvalue =>
    rw [judge_of_parse_ok hparse, judgeEnvelope_of_code hcode, hvalue]
    rfl
  | unfit hparse hcode hvalue =>
    rw [judge_of_parse_ok hparse, judgeEnvelope_of_code hcode, hvalue]
    rfl
  | expired hparse hcode =>
    rw [judge_of_parse_ok hparse]
    simp [judgeEnvelope, outcome_eq_sessionInvalid.mpr hcode]
  | business hparse hcode =>
    rw [judge_of_parse_ok hparse]
    simp [judgeEnvelope, outcome_eq_businessError.mpr hcode]

/-- Every reply says something. -/
theorem exists_says (decoder : Json.Decoder α) (arrival : Arrival) :
  ∃ result, Says decoder arrival result
  := by
  cases arrival with
  | error e => exact ⟨_, .lost e⟩
  | ok response =>
    cases hparse : Envelope.parse response.body with
    | error failure =>
      by_cases hstatus : 200 ≤ response.status.code ∧ response.status.code < 300
      · exact ⟨_, .garbled hparse hstatus⟩
      · exact ⟨_, .refused hparse hstatus⟩
    | ok envelope =>
      cases houtcome : envelope.outcome with
      | businessError => exact ⟨_, .business hparse (outcome_eq_businessError.mp houtcome)⟩
      | sessionInvalid => exact ⟨_, .expired hparse (outcome_eq_sessionInvalid.mp houtcome)⟩
      | success =>
        have hcode : envelope.code = 0 ∨ envelope.code = 1 :=
          .inl (outcome_eq_success.mp houtcome)
        cases hvalue : decoder.ofValue envelope.data with
        | ok value => exact ⟨_, .brought hparse hcode hvalue⟩
        | error issue => exact ⟨_, .unfit hparse hcode hvalue⟩
      | accepted =>
        have hcode : envelope.code = 0 ∨ envelope.code = 1 :=
          .inr (outcome_eq_accepted.mp houtcome)
        cases hvalue : decoder.ofValue envelope.data with
        | ok value => exact ⟨_, .brought hparse hcode hvalue⟩
        | error issue => exact ⟨_, .unfit hparse hcode hvalue⟩

/-- A reply says one thing, which it is judged to say. -/
theorem says_iff :
  Says decoder arrival result ↔ judge decoder arrival = result
  := by
  constructor
  · apply Says.judge_eq
  · rintro rfl
    obtain ⟨said, hsaid⟩ := exists_says decoder arrival
    rw [hsaid.judge_eq]
    exact hsaid

/-! ### Runs -/

/-- The results of a run are those that the replies say, once for each call that has come
to an end, and the user was notified of the failures among them. -/
structure Reported (run : Run) : Prop where
  notified : run.client.journal.notified
    = run.results.filterMap fun (_, result) => Notice.ofResult? result
  once : (run.results.map Prod.fst).Nodup
  said : ∀ number result, (number, result) ∈ run.results →
    ∃ flight, run.flights[number]? = some flight
      ∧ Says flight.wanted.decoder flight.reply.arrival result

theorem Run.notified_added_of_awaited {run : Run} {number : Nat} {flight : Flight}
    (hflight : run.flights[number]? = some flight) (hwaits : run.result? number = none) :
  (run.added (.arrive number)).notified = (Notice.ofResult? flight.result).toList
  := by
  rw [added_of_awaited hflight hwaits]
  exact (Journal.of_reply _ _ _ _).2.1

/-- Nothing but a reply notifies of anything. -/
theorem Run.notified_added_of_not_arrive {run : Run} {event : Event}
    (h : ∀ number, event ≠ .arrive number) :
  (run.added event).notified = []
  := by
  cases event with
  | arrive number => exact absurd rfl (h number)
  | send call wanted =>
    rw [added]
    split
    · rfl
    · rfl
  | showPrompt number =>
    rw [added]
    split
    · rfl
    · rfl
  | closePrompt number ending =>
    rw [added]
    split
    · rfl
    · rfl
  | _ => rfl

namespace Reported

variable {run : Run}

theorem fresh (client : Client) (h : client.journal = []) :
  Reported { client }
  := ⟨by rw [h]; rfl, List.nodup_nil, fun _ _ hmem => by cases hmem⟩

/-- A reply reports the result that it brings. -/
theorem arrive (h : Reported run) (number : Nat) :
  Reported (run.step (.arrive number))
  := by
  rcases run.awaited_or_not number with ⟨flight, hflight, hwaits⟩ | hnot
  · have hresults : (run.step (.arrive number)).results
        = run.results ++ [(number, flight.result)] := by
      rw [Run.step, Run.arrive_of_awaited hflight hwaits]
    have hflights : (run.step (.arrive number)).flights = run.flights := by
      rw [Run.step, Run.arrive_of_awaited hflight hwaits]
    constructor
    · rw [Run.journal_step, Journal.notified_append, h.notified,
        Run.notified_added_of_awaited hflight hwaits, hresults, List.filterMap_append]
      cases flight.result with
      | ok value => rfl
      | error e => rfl
    · have hnew : number ∉ run.results.map Prod.fst := by
        intro hmem
        obtain ⟨⟨found, result⟩, hfound, rfl⟩ := List.mem_map.mp hmem
        have := List.lookup_eq_none_iff.mp hwaits _ hfound
        simp at this
      rw [hresults, List.map_append, List.map_singleton, ← List.concat_eq_append]
      apply List.Nodup.concat hnew h.once
    · intro found result hmem
      rw [hflights]
      rw [hresults] at hmem
      rcases List.mem_append.mp hmem with hmem | hmem
      · exact h.said found result hmem
      · obtain ⟨rfl, rfl⟩ : found = number ∧ result = flight.result := by simpa using hmem
        exact ⟨flight, hflight, says_iff.mpr rfl⟩
  · rw [Run.step, Run.arrive_of_not_awaited hnot]
    exact h

/-- Whatever happens to a run, it reports its failures. -/
theorem step (h : Reported run) (event : Event) :
  Reported (run.step event)
  := by
  by_cases harrive : ∃ number, event = .arrive number
  · obtain ⟨number, rfl⟩ := harrive
    exact h.arrive number
  · have hresults : (run.step event).results = run.results :=
      Run.results_step_of_not_arrive (not_exists.mp harrive)
    constructor
    · rw [Run.journal_step, Journal.notified_append, hresults, h.notified,
        Run.notified_added_of_not_arrive (not_exists.mp harrive), List.append_nil]
    · rw [hresults]
      exact h.once
    · intro number result hmem
      rw [hresults] at hmem
      obtain ⟨flight, hflight, hsays⟩ := h.said number result hmem
      exact ⟨flight, Run.getElem?_flights_step hflight event, hsays⟩

/-- A call that has not been sent yet has no result. -/
theorem result?_eq_none (h : Reported run) {number : Nat}
    (hnumber : run.flights.length ≤ number) :
  run.result? number = none
  := by
  rw [Run.result?, List.lookup_eq_none_iff]
  rintro ⟨found, result⟩ hmem
  obtain ⟨flight, hflight, -⟩ := h.said found result hmem
  have hfound : found < run.flights.length := (List.getElem?_eq_some_iff.mp hflight).1
  have hne : number ≠ found := by omega
  simpa using hne

theorem after (h : Reported run) (events : List Event) :
  Reported (run.after events)
  := by
  induction events generalizing run with
  | nil => exact h
  | cons event events ih => apply ih (h.step event)

end Reported

/-- In every run the user was notified of the failures among the results, once each, in the
order in which the replies came and in the words of the error that the call returns; the
result of a call is what its own reply says and nothing else; an error that the server
reports has a message.  A call that is made while the credential can be sent gets the next
number, and its reply is awaited.  A reply that is awaited brings what it says, and writes
the credential that it grants also if its data are unfit.  A call that cannot be sent leaves
everything as it was. -/
theorem Run.results_and_notices
    (account : Account) (link : Link) (now : Calendar.Instant) (inbox : Inbox)
    (canWait : Bool) (events : List Event) :
  let run := Run.after { client := { Client.fresh account link now with inbox, canWait } } events
  run.client.journal.notified
      = run.results.filterMap (fun (_, result) => Notice.ofResult? result)
    ∧ (run.results.map Prod.fst).Nodup
    ∧ (∀ number result, (number, result) ∈ run.results →
        ∃ flight, run.flights[number]? = some flight
          ∧ Says flight.wanted.decoder flight.reply.arrival result)
    ∧ (∀ envelope : Envelope, envelope.displayMessage ≠ "")
    ∧ (∀ call wanted, isSendable run.client.credential = true →
        ∃ prepared, run.client.prepare call = .ok prepared
          ∧ (run.send call wanted).1 = .ok run.flights.length
          ∧ (run.step (.send call wanted)).client.journal.sent
            = run.client.journal.sent ++ [prepared]
          ∧ (run.step (.send call wanted)).flights
            = run.flights ++ [⟨wanted, (run.client.link.answer prepared).1⟩]
          ∧ (run.step (.send call wanted)).result? run.flights.length = none)
    ∧ (∀ number flight result, run.flights[number]? = some flight →
        run.result? number = none → Says flight.wanted.decoder flight.reply.arrival result →
        (run.step (.arrive number)).results = run.results ++ [(number, result)])
    ∧ (∀ number token, Writes run (.arrive number) token →
        (run.step (.arrive number)).client.credential = token)
    ∧ (∀ call wanted e, (run.send call wanted).1 = .error e →
        (run.send call wanted).2 = run)
  := by
  intro run
  have h : Reported run := (Reported.fresh _ rfl).after events
  refine ⟨h.notified, h.once, h.said, displayMessage_ne_empty, ?sent, ?brings, ?writes,
    ?aborted⟩
  case sent =>
    intro call wanted hsendable
    obtain ⟨prepared, hprepare⟩ := run.client.exists_prepare_ok hsendable call
    obtain ⟨hsent, hflights, -⟩ := step_send_of_prepare_ok hprepare wanted
    have hsame : (run.step (.send call wanted)).results = run.results :=
      results_step_of_not_arrive fun _ h => by cases h
    refine ⟨prepared, hprepare, ?_, hsent, hflights, ?_⟩
    · rw [send_of_prepare_ok hprepare]
    · rw [result?, hsame]
      apply h.result?_eq_none le_rfl
  case brings =>
    intro number flight result hflight hwaits hsays
    rw [step, arrive_of_awaited hflight hwaits, Flight.result, hsays.judge_eq]
  case writes =>
    intro number token hwrites
    exact hwrites.credential_step
  case aborted =>
    intro call wanted e herror
    cases hprepare : run.client.prepare call with
    | error e => rw [send_of_prepare_error hprepare]
    | ok prepared =>
      rw [send_of_prepare_ok hprepare] at herror
      cases herror

end ChatPortal.Client
