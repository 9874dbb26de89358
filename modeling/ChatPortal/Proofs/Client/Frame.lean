import ChatPortal.Client.Run
import ChatPortal.Proofs.Reauth.Turns

/-!
# What a client leaves alone

Each operation of a client changes the credential, the prompts, the requests to restart
and the journal as the lemmas of this module say, and nothing else of them.
-/

namespace ChatPortal.Client

open Gateway Http Reauth

variable {α : Type} (client : Client)

/-! ### Entries -/

@[simp]
theorem credential_note (entry : Entry) :
  (client.note entry).credential = client.credential
  := rfl

@[simp]
theorem flow_note (entry : Entry) :
  (client.note entry).flow = client.flow
  := rfl

@[simp]
theorem inbox_note (entry : Entry) :
  (client.note entry).inbox = client.inbox
  := rfl

@[simp]
theorem canWait_note (entry : Entry) :
  (client.note entry).canWait = client.canWait
  := rfl

@[simp]
theorem journal_note (entry : Entry) :
  (client.note entry).journal = client.journal ++ [entry]
  := rfl

/-! ### Credentials -/

@[simp]
theorem credential_hold (credential : String) :
  (client.hold credential).credential = credential
  := rfl

/-! ### Prompts -/

@[simp]
theorem flow_trigger :
  client.trigger.2.flow = (client.flow.trigger client.canWait).2
  := rfl

@[simp]
theorem journal_trigger :
  client.trigger.2.journal = client.journal ++ [.triggered client.trigger.1]
  := rfl

/-- Somebody asks for the prompt where it can be waited for, or it was open before. -/
theorem isOpen_trigger (canWait : Bool) (flow : Flow) :
  (flow.trigger canWait).2.isOpen = (flow.isOpen || canWait)
  := by
  rw [Flow.trigger]
  cases h : flow.latch with
  | true => simp [Flow.isOpen, h]
  | false =>
    cases canWait with
    | false => simp [Flow.isOpen, h]
    | true => simp [Flow.isOpen, Flow.accept, h]

theorem trigger_accepted :
  client.trigger.1 = (client.canWait && !client.flow.latch)
  := Flow.trigger_accepted client.canWait client.flow

/-- A client that is asked for a prompt in vain stays as it was. -/
theorem trigger_of_not_accepted (h : client.trigger.1 = false) :
  client.trigger.2 = client.note (.triggered false)
  := by
  have hflow : (client.flow.trigger client.canWait).2 = client.flow :=
    Flow.trigger_of_not_accepted h
  calc client.trigger.2
      = { client with flow := (client.flow.trigger client.canWait).2 }.note
          (.triggered client.trigger.1) := rfl
    _ = client.note (.triggered false) := by rw [hflow, h]

theorem showPrompt_of_some
    {number : Nat} {flow : Flow} (h : client.flow.show? number = some flow) :
  client.showPrompt number
    = { client with flow }.note (.prompted (.inLocale client.locale))
  := by
  simp [showPrompt, h]

theorem showPrompt_of_none {number : Nat} (h : client.flow.show? number = none) :
  client.showPrompt number = client
  := by
  simp [showPrompt, h]

@[simp]
theorem credential_showPrompt (number : Nat) :
  (client.showPrompt number).credential = client.credential
  := by
  rw [showPrompt]
  split
  · rfl
  · rfl

@[simp]
theorem inbox_showPrompt (number : Nat) :
  (client.showPrompt number).inbox = client.inbox
  := by
  rw [showPrompt]
  split
  · rfl
  · rfl

@[simp]
theorem canWait_showPrompt (number : Nat) :
  (client.showPrompt number).canWait = client.canWait
  := by
  rw [showPrompt]
  split
  · rfl
  · rfl

/-- A prompt that is shown was open before. -/
theorem isOpen_showPrompt (number : Nat) :
  (client.showPrompt number).flow.isOpen = client.flow.isOpen
  := by
  cases hshow : client.flow.show? number with
  | none => rw [showPrompt_of_none _ hshow]
  | some flow =>
    obtain ⟨-, rfl⟩ := Flow.show_eq_some.mp hshow
    rw [showPrompt_of_some _ hshow]
    rfl

theorem credential_obey (ending : Ending) :
  (client.obey ending).credential = if ending.isConfirmed then "" else client.credential
  := by
  rw [obey]
  split
  · rfl
  · rfl

theorem inbox_obey (ending : Ending) :
  (client.obey ending).inbox
    = if ending.isConfirmed then client.inbox.request else client.inbox
  := by
  rw [obey]
  split
  · rfl
  · rfl

@[simp]
theorem canWait_obey (ending : Ending) :
  (client.obey ending).canWait = client.canWait
  := by
  rw [obey]
  split
  · rfl
  · rfl

@[simp]
theorem journal_obey (ending : Ending) :
  (client.obey ending).journal = client.journal
  := by
  rw [obey]
  split
  · rfl
  · rfl

theorem closePrompt_of_some
    {number : Nat} {ending : Ending} {flow : Flow}
    (h : client.flow.close? number ending = some flow) :
  client.closePrompt number ending
    = { client.obey ending with flow }.note (.closed ending)
  := by
  simp [closePrompt, h]

theorem closePrompt_of_none
    {number : Nat} {ending : Ending} (h : client.flow.close? number ending = none) :
  client.closePrompt number ending = client
  := by
  simp [closePrompt, h]

theorem closePrompt_of_not_showing
    {number : Nat} (h : client.flow.isShowing number = false) (ending : Ending) :
  client.closePrompt number ending = client
  := by
  simp [closePrompt, Flow.close?, h]

@[simp]
theorem canWait_closePrompt (number : Nat) (ending : Ending) :
  (client.closePrompt number ending).canWait = client.canWait
  := by
  rw [closePrompt]
  split
  · apply canWait_obey
  · rfl

/-- A prompt that is confirmed clears the credential and requests a restart. -/
theorem closePrompt_of_confirmed
    {number : Nat} (h : client.flow.isShowing number = true) :
  (client.closePrompt number (.decided .confirmed)).credential = ""
    ∧ (client.closePrompt number (.decided .confirmed)).inbox = client.inbox.request
  := by
  obtain ⟨flow, hclose⟩ := client.flow.close_isSome h (.decided .confirmed)
  rw [closePrompt_of_some _ hclose]
  exact ⟨credential_obey client _, inbox_obey client _⟩

/-- A prompt that ends in any other way leaves the credential and the requests alone. -/
theorem closePrompt_of_not_confirmed
    {ending : Ending} (h : ending.isConfirmed = false) (number : Nat) :
  (client.closePrompt number ending).credential = client.credential
    ∧ (client.closePrompt number ending).inbox = client.inbox
  := by
  cases hclose : client.flow.close? number ending with
  | none =>
    rw [closePrompt_of_none _ hclose]
    exact ⟨rfl, rfl⟩
  | some flow =>
    rw [closePrompt_of_some _ hclose]
    constructor
    · apply Eq.trans (credential_obey client ending)
      rw [h, if_neg Bool.false_ne_true]
    · apply Eq.trans (inbox_obey client ending)
      rw [h, if_neg Bool.false_ne_true]

/-- Closing a prompt leaves the credential and the requests alone, or clears the credential
and requests a restart. -/
theorem closePrompt_cases (number : Nat) (ending : Ending) :
  ((client.closePrompt number ending).credential = client.credential
      ∧ (client.closePrompt number ending).inbox = client.inbox)
    ∨ ((client.closePrompt number ending).credential = ""
      ∧ (client.closePrompt number ending).inbox = client.inbox.request)
  := by
  cases hshowing : client.flow.isShowing number with
  | false =>
    rw [closePrompt_of_not_showing _ hshowing]
    exact .inl ⟨rfl, rfl⟩
  | true =>
    cases hconfirmed : ending.isConfirmed with
    | false => exact .inl (closePrompt_of_not_confirmed _ hconfirmed number)
    | true =>
      obtain rfl : ending = .decided .confirmed := of_decide_eq_true hconfirmed
      exact .inr (closePrompt_of_confirmed _ hshowing)

/-- Every ending of a prompt frees the latch. -/
theorem isOpen_closePrompt
    {number : Nat} (h : client.flow.isShowing number = true) (ending : Ending) :
  (client.closePrompt number ending).flow.isOpen = false
  := by
  obtain ⟨flow, hclose⟩ := client.flow.close_isSome h ending
  obtain ⟨-, rfl⟩ := Flow.close_eq_some.mp hclose
  rw [closePrompt_of_some _ hclose]
  rfl

/-! ### Replies -/

@[simp]
theorem credential_report (result : Except GatewayError α) :
  (client.report result).credential = client.credential
  := by
  cases result with
  | ok value => rfl
  | error e => rfl

@[simp]
theorem inbox_report (result : Except GatewayError α) :
  (client.report result).inbox = client.inbox
  := by
  cases result with
  | ok value => rfl
  | error e => rfl

@[simp]
theorem credential_heed (arrival : Arrival) :
  (client.heed arrival).credential = client.credential
  := by
  rw [heed]
  split
  · rfl
  · rfl

@[simp]
theorem inbox_heed (arrival : Arrival) :
  (client.heed arrival).inbox = client.inbox
  := by
  rw [heed]
  split
  · rfl
  · rfl

@[simp]
theorem inbox_accept (arrival : Arrival) :
  (client.accept arrival).inbox = client.inbox
  := by
  rw [accept]
  split
  · rfl
  · rfl

theorem credential_accept (arrival : Arrival) :
  (client.accept arrival).credential = (grant? arrival).getD client.credential
  := by
  rw [accept]
  split
  · next h => rw [h, credential_hold, Option.getD_some]
  · next h => rw [h, Option.getD_none]

@[simp]
theorem journal_accept (arrival : Arrival) :
  (client.accept arrival).journal = client.journal
  := by
  rw [accept]
  split
  · rfl
  · rfl

@[simp]
theorem flow_accept (arrival : Arrival) :
  (client.accept arrival).flow = client.flow
  := by
  rw [accept]
  split
  · rfl
  · rfl

@[simp]
theorem canWait_accept (arrival : Arrival) :
  (client.accept arrival).canWait = client.canWait
  := by
  rw [accept]
  split
  · rfl
  · rfl

@[simp]
theorem flow_report (result : Except GatewayError α) :
  (client.report result).flow = client.flow
  := by
  cases result with
  | ok value => rfl
  | error e => rfl

@[simp]
theorem canWait_report (result : Except GatewayError α) :
  (client.report result).canWait = client.canWait
  := by
  cases result with
  | ok value => rfl
  | error e => rfl

theorem flow_receive (decoder : Json.Decoder α) (arrival : Arrival) :
  (client.receive decoder arrival).2.flow
    = if revokes arrival then (client.flow.trigger client.canWait).2 else client.flow
  := by
  rw [receive, heed]
  split
  · simp
  · simp

theorem credential_receive (decoder : Json.Decoder α) (arrival : Arrival) :
  (client.receive decoder arrival).2.credential = (grant? arrival).getD client.credential
  := by
  simp [receive, credential_accept]

@[simp]
theorem inbox_receive (decoder : Json.Decoder α) (arrival : Arrival) :
  (client.receive decoder arrival).2.inbox = client.inbox
  := by
  simp [receive]

theorem canWait_receive (decoder : Json.Decoder α) (arrival : Arrival) :
  (client.receive decoder arrival).2.canWait = client.canWait
  := by
  rw [receive, heed]
  split
  · apply Eq.trans (canWait_report _ _)
    rw [canWait_accept, canWait_note]
  · rw [canWait_report, canWait_accept, canWait_note]

@[simp]
theorem credential_send (call : Call) :
  (client.send call).2.credential = client.credential
  := by
  rw [send]
  split
  · rfl
  · rfl

@[simp]
theorem flow_send (call : Call) :
  (client.send call).2.flow = client.flow
  := by
  rw [send]
  split
  · rfl
  · rfl

@[simp]
theorem inbox_send (call : Call) :
  (client.send call).2.inbox = client.inbox
  := by
  rw [send]
  split
  · rfl
  · rfl

@[simp]
theorem canWait_send (call : Call) :
  (client.send call).2.canWait = client.canWait
  := by
  rw [send]
  split
  · rfl
  · rfl

/-! ### Runs -/

namespace Run

theorem client_send (call : Call) (wanted : Wanted) (run : Run) :
  (run.send call wanted).2.client = (run.client.send call).2
  := by
  rw [Run.send]
  split
  · next heq => rw [heq]
  · next heq => rw [heq]

/-- A reply that is awaited is received; any other changes nothing. -/
theorem arrive_cases (number : Nat) (run : Run) :
  (∃ flight, run.flights[number]? = some flight ∧ run.result? number = none
      ∧ (run.arrive number).client
        = (run.client.receive flight.wanted.decoder flight.reply.arrival).2)
    ∨ ((∀ flight, run.flights[number]? = some flight → run.result? number ≠ none)
      ∧ run.arrive number = run)
  := by
  rw [arrive]
  split
  · next flight hflight hwaits => exact .inl ⟨flight, hflight, hwaits, rfl⟩
  · next hnot => exact .inr ⟨fun flight hflight hwaits => hnot flight hflight hwaits, rfl⟩

/-- Whether somebody can wait for a prompt does not depend on what happens. -/
theorem canWait_step (run : Run) (event : Event) :
  (run.step event).client.canWait = run.client.canWait
  := by
  cases event with
  | send call wanted => rw [step, client_send, canWait_send]
  | arrive number =>
    rcases run.arrive_cases number with ⟨flight, -, -, hclient⟩ | ⟨-, hsame⟩
    · rw [step, hclient, canWait_receive]
    · rw [step, hsame]
  | showPrompt number => apply canWait_showPrompt
  | closePrompt number ending => apply canWait_closePrompt
  | _ => rfl

end Run

end ChatPortal.Client
