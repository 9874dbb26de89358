import ChatPortal.Proofs.Client.History
import ChatPortal.Proofs.Client.Moves

/-!
# The prompts of a client

The journal of a client accounts for its prompts (`PromptsTold`): those that were accepted,
shown and closed are those that the journal tells of, they take turns, and a prompt was
accepted exactly when all that were accepted before had closed.
-/

namespace ChatPortal.Client

open Gateway Http Reauth

/-- An entry tells nothing of a prompt. -/
def Entry.isSilent : Entry → Bool
  | .triggered _ | .prompted _ | .closed _ => false
  | _ => true

/-- A prompt is accepted exactly where somebody can wait for it and all that were accepted
before have closed. -/
def AnsweredInTurn (canWait : Bool) (before : Journal) (entry : Entry) : Prop :=
  ∀ answer, entry = .triggered answer →
    (answer = true ↔ canWait = true ∧ before.accepted = before.closed.length)

/-- The journal accounts for the prompts of a client that can wait for them or not. -/
structure PromptsTold (canWait : Bool) (client : Client) : Prop where
  waits : client.canWait = canWait
  inTurn : client.flow.InTurn client.journal.closed
  accepted : client.journal.accepted = client.flow.prompts.length
  shown : client.journal.prompted.length = client.flow.shown
  answered : client.journal.Every (AnsweredInTurn canWait)

/-! ### Entries -/

namespace Journal

theorem concat_silent (journal : Journal) {entry : Entry} (h : entry.isSilent = true) :
  closed (journal ++ [entry]) = journal.closed
    ∧ prompted (journal ++ [entry]) = journal.prompted
    ∧ accepted (journal ++ [entry]) = journal.accepted
  := by
  cases entry with
  | triggered => cases h
  | prompted => cases h
  | closed => cases h
  | _ => simp [closed, prompted, accepted, answers]

end Journal

/-! ### Preservation -/

namespace PromptsTold

variable {canWait : Bool} {client : Client}

/-- Nothing but the prompts, the journal and whether somebody can wait matters. -/
theorem of_same (h : PromptsTold canWait client) {client' : Client}
    (hwaits : client'.canWait = client.canWait) (hflow : client'.flow = client.flow)
    (hjournal : client'.journal = client.journal) :
  PromptsTold canWait client'
  := by
  constructor
  · exact hwaits.trans h.waits
  · rw [hflow, hjournal]
    exact h.inTurn
  · rw [hflow, hjournal]
    exact h.accepted
  · rw [hflow, hjournal]
    exact h.shown
  · rw [hjournal]
    exact h.answered

/-- An entry that tells nothing of a prompt may be added. -/
theorem note_silent
    (h : PromptsTold canWait client) {entry : Entry} (hsilent : entry.isSilent = true) :
  PromptsTold canWait (client.note entry)
  := by
  obtain ⟨hclosed, hprompted, haccepted⟩ := client.journal.concat_silent hsilent
  constructor
  · exact h.waits
  · simpa [hclosed] using h.inTurn
  · simpa [haccepted] using h.accepted
  · simpa [hprompted] using h.shown
  · apply h.answered.concat
    rintro answer rfl
    cases hsilent

/-- The journal tells of a prompt that was asked for. -/
theorem trigger (h : PromptsTold canWait client) :
  PromptsTold canWait client.trigger.2
  := by
  have haccepted : client.trigger.1 = (client.canWait && !client.flow.latch) :=
    client.trigger_accepted
  constructor
  · exact h.waits
  · simpa [Journal.closed] using h.inTurn.trigger client.canWait
  · have hnew : Journal.accepted [.triggered client.trigger.1] = client.trigger.1.toNat := by
      cases client.trigger.1 with
      | false => rfl
      | true => rfl
    calc client.trigger.2.journal.accepted
        = client.journal.accepted + Journal.accepted [.triggered client.trigger.1] := by
          simp [Journal.accepted, Journal.answers]
      _ = client.flow.prompts.length + client.trigger.1.toNat := by rw [h.accepted, hnew]
      _ = client.trigger.2.flow.prompts.length := by
          rw [flow_trigger, Flow.length_trigger]
          rfl
  · simpa [Journal.prompted, Flow.shown_trigger] using h.shown
  · rw [journal_trigger]
    apply h.answered.concat
    intro answer heq
    obtain rfl := Entry.triggered.inj heq
    rw [haccepted, h.waits, h.accepted, h.inTurn.length_prompts, Bool.and_eq_true]
    cases client.flow.latch with
    | false => simp
    | true => simp

/-- The journal tells of a prompt that is shown. -/
theorem showPrompt (h : PromptsTold canWait client) (number : Nat) :
  PromptsTold canWait (client.showPrompt number)
  := by
  cases hshow : client.flow.show? number with
  | none =>
    rw [client.showPrompt_of_none hshow]
    exact h
  | some flow =>
    rw [client.showPrompt_of_some hshow]
    constructor
    · exact h.waits
    · simpa [Journal.closed] using h.inTurn.of_show hshow
    · simpa [Journal.accepted, Journal.answers, Flow.length_show hshow] using h.accepted
    · simpa [Journal.prompted, h.inTurn.shown_of_show hshow] using h.shown
    · apply h.answered.concat
      intro answer heq
      cases heq

/-- The journal tells of a prompt that closes. -/
theorem closePrompt (h : PromptsTold canWait client) (number : Nat) (ending : Ending) :
  PromptsTold canWait (client.closePrompt number ending)
  := by
  cases hclose : client.flow.close? number ending with
  | none =>
    rw [client.closePrompt_of_none hclose]
    exact h
  | some flow =>
    rw [client.closePrompt_of_some hclose]
    constructor
    · simpa using h.waits
    · simpa [Journal.closed] using h.inTurn.of_close hclose
    · simpa [Journal.accepted, Journal.answers, Flow.length_close hclose] using h.accepted
    · simpa [Journal.prompted, h.inTurn.shown_of_close hclose] using h.shown
    · rw [journal_note, journal_obey]
      apply h.answered.concat
      intro answer heq
      cases heq

/-- Whatever becomes of a client, the journal tells of its prompts. -/
theorem of_move
    {client' : Client} (hmove : Move client client') (h : PromptsTold canWait client) :
  PromptsTold canWait client'
  := by
  have hhold (credential : String) : PromptsTold canWait (client.hold credential) :=
    h.of_same rfl rfl rfl
  cases hmove with
  | assign credential => exact (hhold credential).note_silent rfl
  | setLocale locale => exact h.of_same rfl rfl rfl
  | relink link => exact h.of_same rfl rfl rfl
  | send call =>
    rw [Client.send]
    split
    · exact h
    · next call heq =>
      have hlink : PromptsTold canWait { client with link := (client.link.answer call).2 } :=
        h.of_same rfl rfl rfl
      apply hlink.note_silent rfl
  | takeIn arrival =>
    have hreceived : PromptsTold canWait (client.note (.received arrival)) := h.note_silent rfl
    apply hreceived.of_same
    · apply canWait_accept
    · apply flow_accept
    · apply journal_accept
  | notify notice => apply h.note_silent rfl
  | trigger => exact h.trigger
  | showPrompt number => exact h.showPrompt number
  | closePrompt number ending => exact h.closePrompt number ending
  | takePending => exact ⟨h.waits, h.inTurn.take, h.accepted, h.shown, h.answered⟩
  | readInbox => exact h.of_same rfl rfl rfl
  | tell entry htold =>
    apply h.note_silent
    cases entry with
    | sent | received | notified | triggered | prompted | closed | assigned => cases htold
    | _ => rfl

theorem fresh (account : Account) (link : Link) (now : Calendar.Instant) (inbox : Inbox)
    (canWait : Bool) :
  PromptsTold canWait { Client.fresh account link now with inbox, canWait }
  := ⟨rfl, Flow.inTurn_empty, rfl, rfl, Journal.every_nil _⟩

/-! ### What the journal says -/

theorem trigger_accepted_iff (h : PromptsTold canWait client) :
  client.trigger.1 = true
    ↔ canWait = true ∧ ∀ phase ∈ client.flow.prompts, phase.isClosed = true
  := by
  rw [client.trigger_accepted, Bool.and_eq_true, Bool.not_eq_true', h.waits]
  rw [h.inTurn.latch_eq_false_iff]

theorem prompted_add_queued (h : PromptsTold canWait client) :
  client.journal.prompted.length + client.flow.prompts.countP (· = .queued)
    = client.journal.accepted
  := by
  rw [h.shown, h.accepted, Nat.add_comm, List.length_eq_countP_add_countP (· = Phase.queued)]
  simp [Flow.shown]

/-- Where nobody can wait for a prompt, none is accepted. -/
theorem accepted_eq_zero (h : PromptsTold false client) :
  client.journal.accepted = 0
  := by
  rw [Journal.accepted, List.count_eq_zero]
  intro hmem
  obtain ⟨entry, hentry, hanswer⟩ := List.mem_filterMap.mp hmem
  obtain ⟨before, after, hsplit⟩ := List.append_of_mem hentry
  cases entry with
  | triggered answer =>
    obtain rfl := Option.some.inj hanswer
    obtain ⟨hwaits, -⟩ := (h.answered before _ after hsplit true rfl).mp rfl
    cases hwaits
  | _ => cases hanswer

end PromptsTold

/-- In every run of a client at most one prompt has not closed; a wish for a prompt is
accepted exactly where somebody can wait for it and all that were accepted before have
closed, now and whenever there was one before, and one that is not accepted leaves
everything else as it was; the latch is set exactly while the last prompt has not closed,
and every ending frees it; the prompts that were shown, with the one that is queued, are
those that were accepted.  Where nobody can wait none is ever accepted. -/
theorem Run.prompts_take_turns
    (account : Account) (link : Link) (now : Calendar.Instant) (inbox : Inbox)
    (canWait : Bool) (events : List Event) :
  let client :=
    (Run.after { client := { Client.fresh account link now with inbox, canWait } } events).client
  client.flow.prompts.countP (!·.isClosed) ≤ 1
    ∧ (client.trigger.1 = true
        ↔ canWait = true ∧ ∀ phase ∈ client.flow.prompts, phase.isClosed = true)
    ∧ (client.trigger.1 = false → client.trigger.2 = client.note (.triggered false))
    ∧ client.journal.Every (AnsweredInTurn canWait)
    ∧ (client.flow.isOpen = true
        ↔ ∃ phase, client.flow.prompts.getLast? = some phase ∧ phase.isClosed = false)
    ∧ (∀ number ending, client.flow.isShowing number = true →
        (client.closePrompt number ending).flow.isOpen = false)
    ∧ client.journal.prompted.length + client.flow.prompts.countP (· = .queued)
        = client.journal.accepted
    ∧ (canWait = false → client.journal.accepted = 0 ∧ client.flow.prompts = [])
  := by
  intro client
  have h : PromptsTold canWait client :=
    (Run.moves_after _ events).preserve PromptsTold.of_move
      (.fresh account link now inbox canWait)
  refine ⟨h.inTurn.countP_not_closed_le, h.trigger_accepted_iff, client.trigger_of_not_accepted,
    h.answered, h.inTurn.isOpen_iff, ?closes, h.prompted_add_queued, ?nobody⟩
  case closes =>
    intro number ending hshowing
    exact client.isOpen_closePrompt hshowing ending
  case nobody =>
    rintro rfl
    have hnone : client.journal.accepted = 0 := h.accepted_eq_zero
    refine ⟨hnone, List.length_eq_zero_iff.mp ?_⟩
    rw [← h.accepted, hnone]

end ChatPortal.Client
