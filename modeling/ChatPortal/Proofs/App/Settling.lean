import ChatPortal.Proofs.App.Course
import ChatPortal.Proofs.Client.Results

/-!
# A call and its prompt

A client is `Idle` when no prompt is open, `Asked` when one was accepted for the last
reply, and `Showing` while it is on show; each tells how far the journal has come.  A call
leaves an idle client idle or asked (`Idle.call_of_ok`, `Idle.call_of_error`), and the
closing of the prompt leaves it idle again (`Showing.close`), with one request to restart if
the prompt was confirmed.
-/

namespace ChatPortal.App

open Client Gateway Http Reauth Terminal Course

variable {α : Type} {course : Course} {client : Client}

/-- The journal of a client has come to a course, and there are no requests to restart but
those that belong to it. -/
structure Stands (course : Course) (client : Client) : Prop where
  passes : Passes .calm client.journal course
  canWait : client.canWait = true
  inbox : client.inbox = .open course.requests

/-- No prompt is open. -/
structure Idle (course : Course) (client : Client) : Prop extends Stands course client where
  free : client.flow.latch = false
  taken : client.flow.pending = none

/-- A prompt was accepted and waits to be shown. -/
structure Asked (number : Nat) (client : Client) : Prop extends Stands .accepted client where
  pending : client.flow.pending = some number
  queued : client.flow.isQueued number = true

/-- A prompt is on show; it may have read its answer. -/
structure Showing (number : Nat) (answer : Option Line) (client : Client) : Prop
    extends Stands (.showing answer) client where
  taken : client.flow.pending = none
  showing : client.flow.isShowing number = true

/-- A call has failed. -/
def Failed (client : Client) : Prop := Idle .calm client ∨ ∃ number, Asked number client

/-! ### A call -/

/-- A reply that grants a credential brings some data. -/
theorem judge_json_of_grant {arrival : Arrival} {token : String}
    (h : grant? arrival = some token) :
  ∃ value, judge .json arrival = .ok value
  := by
  obtain ⟨response, envelope, -, rfl, hparse, hcode, -⟩ := grant?_eq_some.mp h
  rw [judge_of_parse_ok hparse, judgeEnvelope_of_code (.inl hcode)]
  exact ⟨envelope.data, rfl⟩

/-- A call that would have taken any data leaves the credential alone when it fails. -/
theorem credential_of_json_error {call : Call} {e : GatewayError} {client' : Client}
    (heq : client.call .json call = (.error e, client')) :
  client'.credential = client.credential
  := by
  have hsent : (client.send call).2.credential = client.credential := client.credential_send call
  rw [Client.call] at heq
  split at heq
  · next hsend =>
    obtain ⟨-, rfl⟩ := Prod.mk.inj heq
    rw [hsend] at hsent
    exact hsent
  · next reply sent hsend =>
    have hreceived : (sent.receive .json reply.arrival).2.credential = sent.credential := by
      cases hgrant : grant? reply.arrival with
      | none => rw [credential_receive, hgrant, Option.getD_none]
      | some token =>
        obtain ⟨value, hvalue⟩ := judge_json_of_grant hgrant
        rw [receive, hvalue] at heq
        cases heq
    rw [heq] at hreceived
    rw [hsend] at hsent
    exact hreceived.trans hsent

namespace Idle

theorem fresh (account : Account) (link : Link) (now : Calendar.Instant) :
  Idle .calm (Client.fresh account link now)
  where
    passes := .nil .calm
    canWait := rfl
    inbox := rfl
    free := rfl
    taken := rfl

theorem tell (h : Idle .calm client) {entry : Entry} (hquiet : isQuiet entry = true) :
  Idle .calm (client.note entry)
  := { h with passes := h.passes.concat (.stays hquiet) }

theorem send (h : Idle .calm client) (call : Call) :
  (∃ e, client.send call = (.error e, client))
    ∨ ∃ reply client', client.send call = (.ok reply, client') ∧ Idle .calling client'
  := by
  cases hprepare : client.prepare call with
  | error e => exact .inl ⟨e, send_of_error client hprepare⟩
  | ok prepared =>
    refine .inr ⟨_, _, send_of_ok client hprepare, ?_⟩
    exact { h with passes := h.passes.concat (.sends prepared) }

/-- A reply that does not revoke the credential leads back to the calm. -/
theorem receive_of_not_revokes (h : Idle .calling client) (decoder : Json.Decoder α)
    {arrival : Arrival} (hrevokes : revokes arrival = false) :
  Idle .calm (client.receive decoder arrival).2
  := by
  have hflow : (client.receive decoder arrival).2.flow = client.flow := by
    rw [flow_receive, hrevokes]
    rfl
  refine ⟨⟨?passes, ?canWait, ?inbox⟩, ?free, ?taken⟩
  case passes =>
    have hreceived : Passes .calm (client.journal ++ [.received arrival]) .calm :=
      h.passes.concat (.receives hrevokes)
    rw [journal_receive, hrevokes]
    cases Notice.ofResult? (judge decoder arrival) with
    | none => simpa using hreceived
    | some notice =>
      have hquiet : isQuiet (.notified notice) = true := rfl
      simpa using hreceived.concat (.stays hquiet)
  case canWait => rw [canWait_receive, h.canWait]
  case inbox =>
    rw [inbox_receive, h.inbox]
    rfl
  case free => rw [hflow, h.free]
  case taken => rw [hflow, h.taken]

/-- A reply that revokes the credential leads to a prompt. -/
theorem receive_of_revokes (h : Idle .calling client) (decoder : Json.Decoder α)
    {arrival : Arrival} (hrevokes : revokes arrival = true) :
  Asked client.flow.prompts.length (client.receive decoder arrival).2
  := by
  have htriggered : client.trigger.1 = true := by
    rw [trigger_accepted, h.canWait, h.free]
    rfl
  have hflow : (client.receive decoder arrival).2.flow
      = { client.flow with latch := true }.accept := by
    rw [flow_receive, if_pos hrevokes]
    exact Flow.trigger_of_accepted htriggered
  refine ⟨⟨?passes, ?canWait, ?inbox⟩, ?pending, ?queued⟩
  case passes =>
    obtain ⟨e, hjudge⟩ := judge_of_revokes hrevokes decoder
    rw [journal_receive, hjudge, if_pos hrevokes, htriggered]
    exact ((h.passes.concat (.expires hrevokes)).concat (.notifies _)).concat .accepts
  case canWait => rw [canWait_receive, h.canWait]
  case inbox =>
    rw [inbox_receive, h.inbox]
    rfl
  case pending =>
    rw [hflow]
    rfl
  case queued => simp [hflow, Flow.isQueued, Flow.accept]

variable {call : Call} {decoder : Json.Decoder α} {client' : Client}

/-- A call that brings its data leaves a client idle. -/
theorem call_of_ok (h : Idle .calm client) {value : α}
    (heq : client.call decoder call = (.ok value, client')) :
  Idle .calm client'
  := by
  rcases h.send call with ⟨e, hsend⟩ | ⟨reply, sent, hsend, hsent⟩
  · simp [Client.call, hsend] at heq
  · simp only [Client.call, hsend] at heq
    cases hrevokes : revokes reply.arrival with
    | false =>
      have hreceived := hsent.receive_of_not_revokes decoder hrevokes
      rw [heq] at hreceived
      exact hreceived
    | true =>
      obtain ⟨e, hjudge⟩ := judge_of_revokes hrevokes decoder
      rw [receive, hjudge] at heq
      cases heq

/-- A call that fails leaves a client idle, or with a prompt for it. -/
theorem call_of_error (h : Idle .calm client) {e : GatewayError}
    (heq : client.call decoder call = (.error e, client')) :
  Failed client'
  := by
  rcases h.send call with ⟨_, hsend⟩ | ⟨reply, sent, hsend, hsent⟩
  · simp only [Client.call, hsend, Prod.mk.injEq] at heq
    rw [← heq.2]
    exact .inl h
  · simp only [Client.call, hsend] at heq
    cases hrevokes : revokes reply.arrival with
    | false =>
      have hreceived := hsent.receive_of_not_revokes decoder hrevokes
      rw [heq] at hreceived
      exact .inl hreceived
    | true =>
      have hreceived := hsent.receive_of_revokes decoder hrevokes
      rw [heq] at hreceived
      exact .inr ⟨_, hreceived⟩

/-- Signing in is a call, and a call that fails leaves the credential alone: any data
will do. -/
theorem signIn (h : Idle .calm client) (username password : String) :
  (∃ client', client.signIn username password = (.ok client'.isSignedIn, client')
      ∧ Idle .calm client')
    ∨ ∃ e client', client.signIn username password = (.error e, client') ∧ Failed client'
      ∧ client'.credential = client.credential
  := by
  obtain ⟨result, client', hcall⟩ : ∃ result client',
      client.call .json (signCall username password) = (result, client') := ⟨_, _, rfl⟩
  cases result with
  | ok value =>
    refine .inl ⟨client', ?_, h.call_of_ok hcall⟩
    rw [Client.signIn, hcall]
    rfl
  | error e =>
    refine .inr ⟨e, client', ?_, h.call_of_error hcall, credential_of_json_error hcall⟩
    rw [Client.signIn, hcall]
    rfl

theorem takePending (h : Idle .calm client) :
  client.takePending.1 = none ∧ Idle .calm client.takePending.2
  := ⟨h.taken, { h with taken := rfl }⟩

/-- Nobody requests a restart. -/
theorem readInbox (h : Idle .calm client) :
  client.readInbox.1 = 0 ∧ Idle .calm client.readInbox.2
  := by
  constructor
  · rw [Client.readInbox, h.inbox]
    rfl
  · refine { h with inbox := ?_ }
    rw [Client.readInbox, h.inbox]
    rfl

/-- After a prompt that was confirmed a restart is requested once. -/
theorem restart (h : Idle .confirmed client) :
  client.readInbox.1 = 1 ∧ Idle .restarted (client.readInbox.2.note .restarted)
  := by
  constructor
  · rw [Client.readInbox, h.inbox]
    rfl
  · refine { h with inbox := ?_, passes := h.passes.concat .restarts }
    rw [inbox_note, Client.readInbox, h.inbox]
    rfl

end Idle

/-! ### A prompt -/

variable {number : Nat}

/-- The prompt that was asked for is there to be taken and shown. -/
theorem Asked.present (h : Asked number client) :
  client.takePending.1.filter client.takePending.2.flow.isQueued = some number
    ∧ Showing number none (client.takePending.2.showPrompt number)
  := by
  have hqueued : client.takePending.2.flow.isQueued number = true := h.queued
  have htaken : client.takePending.1 = some number := h.pending
  refine ⟨by rw [htaken, Option.filter_some, if_pos hqueued], ?_⟩
  have hshow : client.takePending.2.flow.show? number
      = some { client.takePending.2.flow with
          prompts := client.takePending.2.flow.prompts.set number .showing } :=
    if_pos hqueued
  obtain ⟨hget, -⟩ := Flow.show_eq_some.mp hshow
  rw [showPrompt_of_some _ hshow]
  exact {
    passes := h.passes.concat (.shows _)
    canWait := h.canWait
    inbox := h.inbox
    taken := rfl
    showing := by simp [Flow.isShowing, List.getElem?_set_self', hget] }

namespace Showing

theorem read (h : Showing number none client) (line : Line) :
  Showing number (some line) (client.note (.read .consent line))
  := { h with passes := h.passes.concat (.answers line) }

/-- A prompt that closes leaves a client idle.  One that is confirmed clears the credential
and requests a restart, and any other leaves the credential alone. -/
theorem close {answer : Option Line} {ending : Ending} (h : Showing number answer client)
    (hending : ∀ line ∈ answer, line.ending = ending) :
  (ending = .decided .confirmed ∧ Idle .confirmed (client.closePrompt number ending)
      ∧ (client.closePrompt number ending).credential = "")
    ∨ (ending ≠ .decided .confirmed ∧ Idle .calm (client.closePrompt number ending)
      ∧ (client.closePrompt number ending).credential = client.credential)
  := by
  obtain ⟨flow, hclose⟩ := client.flow.close_isSome h.showing ending
  obtain ⟨-, rfl⟩ := Flow.close_eq_some.mp hclose
  have hclosed := closePrompt_of_some client hclose
  have hjournal : (client.closePrompt number ending).journal
      = client.journal ++ [.closed ending] := by
    rw [hclosed, journal_note, journal_obey]
  have hcanWait : (client.closePrompt number ending).canWait = true := by
    rw [canWait_closePrompt, h.canWait]
  have hfree : (client.closePrompt number ending).flow.latch = false := by
    rw [hclosed]
    rfl
  have htaken : (client.closePrompt number ending).flow.pending = none := by
    rw [hclosed]
    exact h.taken
  by_cases hconfirmed : ending = .decided .confirmed
  · subst hconfirmed
    obtain ⟨hcredential, hinbox⟩ := closePrompt_of_confirmed client h.showing
    refine .inl ⟨rfl, ⟨⟨?_, hcanWait, ?_⟩, hfree, htaken⟩, hcredential⟩
    · rw [hjournal]
      apply h.passes.concat (.confirms hending)
    · rw [hinbox, h.inbox]
      rfl
  · obtain ⟨hcredential, hinbox⟩ :=
      closePrompt_of_not_confirmed client (decide_eq_false hconfirmed) number
    refine .inr ⟨hconfirmed, ⟨⟨?_, hcanWait, ?_⟩, hfree, htaken⟩, hcredential⟩
    · rw [hjournal]
      apply h.passes.concat (.declines hending hconfirmed)
    · rw [hinbox, h.inbox]
      rfl

end Showing

end ChatPortal.App
