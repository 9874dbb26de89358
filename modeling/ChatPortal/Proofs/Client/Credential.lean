import ChatPortal.Proofs.Client.Frame

/-!
# Who writes the credential

`Run.Writes run event token` says that something that happens to a run writes the
credential, and what it writes.  Three things do: the credential is set, a reply grants
one, or a prompt is confirmed, which clears it.  A run that is `Quiet` for a while keeps the
credential that it has, so the credential is always the one that was written last.  A
prompt that is confirmed also requests a restart; no request is lost or made twice.
-/

namespace ChatPortal.Client

open Gateway Http Reauth

/-- The code 0 is the one of a success. -/
theorem outcome_eq_success {envelope : Envelope} :
  envelope.outcome = .success ↔ envelope.code = 0
  := by
  rw [Envelope.outcome, Outcome.ofCode]
  split
  · next hcode => simp [hcode]
  · next hcode =>
    split
    · simp [hcode]
    · split
      · simp [hcode]
      · simp [hcode]

/-- A reply grants a credential when it is an envelope with code 0 and its first field for
the credential is legible and not empty. -/
theorem grant?_eq_some {arrival : Arrival} {token : String} :
  grant? arrival = some token
    ↔ ∃ response envelope value, arrival = .ok response
      ∧ Envelope.parse response.body = .ok envelope ∧ envelope.code = 0
      ∧ response.headers.get? Headers.authorization = some value
      ∧ legible? value = some token ∧ token ≠ ""
  := by
  constructor
  · intro h
    cases arrival with
    | error e => cases h
    | ok response =>
      cases hparse : Envelope.parse response.body with
      | error failure => simp [grant?, hparse] at h
      | ok envelope =>
        by_cases hcode : envelope.outcome = .success
        · simp only [grant?, hparse, hcode, if_true, Headers.credential?,
            Option.filter_eq_some_iff, Option.bind_eq_some_iff, bne_iff_ne] at h
          obtain ⟨⟨value, hget, hlegible⟩, htoken⟩ := h
          exact ⟨response, envelope, value, rfl, hparse, outcome_eq_success.mp hcode,
            hget, hlegible, htoken⟩
        · simp [grant?, hparse, hcode] at h
  · rintro ⟨response, envelope, value, rfl, hparse, hcode, hget, hlegible, htoken⟩
    have houtcome : envelope.outcome = .success := outcome_eq_success.mpr hcode
    simp [grant?, hparse, houtcome, Headers.credential?, hget, hlegible, htoken]

namespace Run

/-! ### The credential -/

/-- Something that happens to a run writes a credential: it is set, a reply under way
grants it, or a prompt on show is confirmed, which writes the empty one. -/
inductive Writes (run : Run) : Event → String → Prop where
  | assigned (token : String) : Writes run (.setCredential token) token
  | granted {number : Nat} {flight : Flight} {response : Response} {envelope : Envelope}
      {value : Bytes} {token : String}
      (hflight : run.flights[number]? = some flight) (hwaits : run.result? number = none)
      (harrival : flight.reply.arrival = .ok response)
      (hparse : Envelope.parse response.body = .ok envelope) (hcode : envelope.code = 0)
      (hget : response.headers.get? Headers.authorization = some value)
      (hlegible : legible? value = some token) (htoken : token ≠ "") :
      Writes run (.arrive number) token
  | confirmed {number : Nat} (h : run.client.flow.isShowing number = true) :
      Writes run (.closePrompt number (.decided .confirmed)) ""

/-- Nothing that happens to a run for a while writes the credential. -/
def Quiet : Run → List Event → Prop
  | _, [] => True
  | run, event :: events => (∀ token, ¬ Writes run event token) ∧ Quiet (run.step event) events

/-- A reply under way writes the credential that it grants. -/
theorem writes_of_grant {run : Run} {number : Nat} {flight : Flight} {token : String}
    (hflight : run.flights[number]? = some flight) (hwaits : run.result? number = none)
    (hgrant : grant? flight.reply.arrival = some token) :
  Writes run (.arrive number) token
  := by
  obtain ⟨response, envelope, value, harrival, hparse, hcode, hget, hlegible, htoken⟩ :=
    grant?_eq_some.mp hgrant
  exact .granted hflight hwaits harrival hparse hcode hget hlegible htoken

/-- A reply grants the credential that it writes. -/
theorem Writes.grant {run : Run} {number : Nat} {flight : Flight} {token : String}
    (h : Writes run (.arrive number) token) (hflight : run.flights[number]? = some flight) :
  grant? flight.reply.arrival = some token
  := by
  cases h with
  | @granted _ found response envelope value _ hfound _ harrival hparse hcode hget hlegible
      htoken =>
    obtain rfl : flight = found := Option.some.inj (hflight.symm.trans hfound)
    exact grant?_eq_some.mpr
      ⟨response, envelope, value, harrival, hparse, hcode, hget, hlegible, htoken⟩

theorem Writes.awaited {run : Run} {number : Nat} {token : String}
    (h : Writes run (.arrive number) token) :
  ∃ flight, run.flights[number]? = some flight ∧ run.result? number = none
  := by
  cases h with
  | granted hflight hwaits => exact ⟨_, hflight, hwaits⟩

/-- What is written is the credential afterwards. -/
theorem Writes.credential_step {run : Run} {event : Event} {token : String}
    (h : Writes run event token) :
  (run.step event).client.credential = token
  := by
  cases event with
  | arrive number =>
    rcases run.arrive_cases number with ⟨flight, hflight, -, hclient⟩ | ⟨hnot, -⟩
    · rw [step, hclient, credential_receive, h.grant hflight, Option.getD_some]
    · obtain ⟨flight, hflight, hwaits⟩ := h.awaited
      exact absurd hwaits (hnot flight hflight)
  | setCredential =>
    cases h
    rfl
  | closePrompt number ending =>
    cases h with
    | confirmed hshowing => exact (closePrompt_of_confirmed _ hshowing).1
  | _ => cases h

/-- Where nothing is written the credential stays. -/
theorem credential_step_of_not_writes {run : Run} {event : Event}
    (h : ∀ token, ¬ Writes run event token) :
  (run.step event).client.credential = run.client.credential
  := by
  cases event with
  | setCredential token => exact absurd (.assigned token) (h token)
  | arrive number =>
    rcases run.arrive_cases number with ⟨flight, hflight, hwaits, hclient⟩ | ⟨-, hsame⟩
    · cases hgrant : grant? flight.reply.arrival with
      | none => rw [step, hclient, credential_receive, hgrant, Option.getD_none]
      | some token => exact absurd (writes_of_grant hflight hwaits hgrant) (h token)
    · rw [step, hsame]
  | closePrompt number ending =>
    cases hshowing : run.client.flow.isShowing number with
    | false => rw [step, closePrompt_of_not_showing _ hshowing]
    | true =>
      cases hconfirmed : ending.isConfirmed with
      | false => exact (closePrompt_of_not_confirmed _ hconfirmed number).1
      | true =>
        obtain rfl : ending = .decided .confirmed := of_decide_eq_true hconfirmed
        exact absurd (.confirmed hshowing) (h "")
  | send call wanted => rw [step, client_send, credential_send]
  | showPrompt number => apply credential_showPrompt
  | _ => rfl

/-- A run keeps its credential while nothing writes it. -/
theorem Quiet.credential_after {run : Run} {events : List Event} (h : Quiet run events) :
  (run.after events).client.credential = run.client.credential
  := by
  induction events generalizing run with
  | nil => rfl
  | cons event events ih =>
    obtain ⟨hevent, hevents⟩ := h
    calc (run.after (event :: events)).client.credential
        = (run.step event).client.credential := ih hevents
      _ = run.client.credential := credential_step_of_not_writes hevent

/-- In every run something was the last to write the credential, or nothing has. -/
theorem last_writes (run : Run) (events : List Event) :
  (∃ before event after token, events = before ++ event :: after
      ∧ Writes (run.after before) event token
      ∧ Quiet (run.after (before ++ [event])) after)
    ∨ Quiet run events
  := by
  induction events generalizing run with
  | nil => exact .inr trivial
  | cons event events ih =>
    rcases ih (run.step event) with ⟨before, last, after, token, rfl, hwrites, hquiet⟩ | hquiet
    · exact .inl ⟨event :: before, last, after, token, rfl, hwrites, hquiet⟩
    · by_cases hevent : ∃ token, Writes run event token
      · obtain ⟨token, hwrites⟩ := hevent
        exact .inl ⟨[], event, events, token, rfl, hwrites, hquiet⟩
      · exact .inr ⟨not_exists.mp hevent, hquiet⟩

/-! ### Requests to restart -/

/-- Something that happens to a run closes a prompt as confirmed. -/
def confirms (run : Run) : Event → Bool
  | .closePrompt number ending => run.client.flow.isShowing number && ending.isConfirmed
  | _ => false

/-- The number of prompts that are confirmed. -/
def confirmations : Run → List Event → Nat
  | _, [] => 0
  | run, event :: events => (run.confirms event).toNat + (run.step event).confirmations events

/-- The number of requests to restart that are read at once. -/
def requestsRead (run : Run) : Event → Nat
  | .readInbox => run.client.readInbox.1
  | _ => 0

/-- The number of requests to restart that are read. -/
def allRequestsRead : Run → List Event → Nat
  | _, [] => 0
  | run, event :: events => run.requestsRead event + (run.step event).allRequestsRead events

/-- Unless a prompt is confirmed or the requests are read, the requests stay. -/
theorem inbox_step {run : Run} {event : Event} (h : run.confirms event = false)
    (hread : event ≠ .readInbox) :
  (run.step event).client.inbox = run.client.inbox
  := by
  cases event with
  | readInbox => exact absurd rfl hread
  | arrive number =>
    rcases run.arrive_cases number with ⟨flight, -, -, hclient⟩ | ⟨-, hsame⟩
    · rw [step, hclient, inbox_receive]
    · rw [step, hsame]
  | closePrompt number ending =>
    rcases Bool.and_eq_false_iff.mp h with hshowing | hconfirmed
    · rw [step, closePrompt_of_not_showing _ hshowing]
    · exact (closePrompt_of_not_confirmed _ hconfirmed number).2
  | send call wanted => rw [step, client_send, inbox_send]
  | showPrompt number => apply inbox_showPrompt
  | _ => rfl

/-- A prompt that is confirmed requests one restart, with the credential cleared. -/
theorem step_of_confirms {run : Run} {event : Event} (h : run.confirms event = true) :
  (run.step event).client.credential = ""
    ∧ (run.step event).client.inbox = run.client.inbox.request
  := by
  cases event with
  | closePrompt number ending =>
    obtain ⟨hshowing, hconfirmed⟩ := (Bool.and_eq_true _ _).mp h
    obtain rfl : ending = .decided .confirmed := of_decide_eq_true hconfirmed
    apply closePrompt_of_confirmed _ hshowing
  | _ => cases h

/-- One thing that happens loses no request to restart and makes none up. -/
theorem requests_step {run : Run} {unread : Nat} (h : run.client.inbox = .open unread)
    (event : Event) :
  ∃ left, (run.step event).client.inbox = .open left
    ∧ run.requestsRead event + left = unread + (run.confirms event).toNat
  := by
  cases hconfirms : run.confirms event with
  | true =>
    refine ⟨unread + 1, ?_, ?_⟩
    · rw [(step_of_confirms hconfirms).2, h]
      rfl
    · cases event with
      | closePrompt number ending => simp [requestsRead]
      | _ => cases hconfirms
  | false =>
    by_cases hread : event = .readInbox
    · subst hread
      refine ⟨0, ?_, ?_⟩
      · simp [step, readInbox, h, Inbox.read]
      · simp [requestsRead, readInbox, h, Inbox.unread]
    · refine ⟨unread, ?_, ?_⟩
      · rw [inbox_step hconfirms hread, h]
      · cases event with
        | readInbox => exact absurd rfl hread
        | _ => simp [requestsRead]

/-- A run loses no request to restart and makes none up. -/
theorem requests_after {run : Run} {unread : Nat} (h : run.client.inbox = .open unread)
    (events : List Event) :
  ∃ left, (run.after events).client.inbox = .open left
    ∧ run.allRequestsRead events + left = unread + run.confirmations events
  := by
  induction events generalizing run unread with
  | nil => exact ⟨unread, h, by simp [allRequestsRead, confirmations]⟩
  | cons event events ih =>
    obtain ⟨middle, hmiddle, hstep⟩ := requests_step h event
    obtain ⟨left, hleft, hrest⟩ := ih hmiddle
    refine ⟨left, hleft, ?_⟩
    simp only [allRequestsRead, confirmations]
    omega

/-- The credential is the one that was written last, or the one from the beginning if none
was written: it is written where it is set, where a reply grants it and where a prompt is
confirmed.  Each prompt that is confirmed requests one restart, with the credential
cleared, and nothing else does; every request is read once or still unread. -/
theorem credential_and_requests (run : Run) (events : List Event) :
  ((∃ before event after token, events = before ++ event :: after
        ∧ Writes (run.after before) event token
        ∧ Quiet (run.after (before ++ [event])) after
        ∧ (run.after events).client.credential = token)
      ∨ (Quiet run events ∧ (run.after events).client.credential = run.client.credential))
    ∧ (∀ event, (run.after events).confirms event = true →
        (run.after (events ++ [event])).client.credential = ""
          ∧ (run.after (events ++ [event])).client.inbox
            = (run.after events).client.inbox.request)
    ∧ (∀ event, (run.after events).confirms event = false → event ≠ .readInbox →
        (run.after (events ++ [event])).client.inbox = (run.after events).client.inbox)
    ∧ (∀ unread, run.client.inbox = .open unread →
        ∃ left, (run.after events).client.inbox = .open left
          ∧ run.allRequestsRead events + left = unread + run.confirmations events)
  := by
  have hsnoc (event : Event) :
      run.after (events ++ [event]) = (run.after events).step event := by
    simp [Run.after]
  refine ⟨?credential, ?confirmed, ?other, fun unread h => requests_after h events⟩
  case credential =>
    rcases run.last_writes events with
      ⟨before, event, after, token, rfl, hwrites, hquiet⟩ | hquiet
    · refine .inl ⟨before, event, after, token, rfl, hwrites, hquiet, ?_⟩
      have hsplit : run.after (before ++ event :: after)
          = (run.after (before ++ [event])).after after := by
        simp [Run.after]
      rw [hsplit, hquiet.credential_after, ← hwrites.credential_step]
      simp [Run.after]
    · exact .inr ⟨hquiet, hquiet.credential_after⟩
  case confirmed =>
    intro event hconfirms
    rw [hsnoc]
    apply step_of_confirms hconfirms
  case other =>
    intro event hconfirms hread
    rw [hsnoc]
    apply inbox_step hconfirms hread

end Run

end ChatPortal.Client
