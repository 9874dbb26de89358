import ChatPortal.Client.Timeline
import ChatPortal.Proofs.Client.Entries
import ChatPortal.Proofs.Reauth.Trail

/-!
# Waiting for prompts

What is done in time one thing after the other (`Deed`), and what is seen of the prompts meanwhile:
in the journal, and by those who wait (`Timeline.history`).  The prompts are told of by what was
seen (`Timeline.told_history`), so what a trail keeps holds of every history
(`Timeline.waits_find_last_prompt`).  A prompt may be taken before it is shown and closes or after,
as far as anybody can see (`Timeline.waitIdle_of_pending`).
-/

namespace ChatPortal.Client

open Gateway Http Reauth

/-! ### One thing after the other -/

/-- The event is the timeline's own: it shows, closes or takes a prompt. -/
def Event.isOfPrompt : Event → Bool
  | .showPrompt _ | .closePrompt _ _ | .takePending => true
  | _ => false

/-- What is done in time, one thing after the other: something happens, which may ask for the
prompt, somebody lets time pass, in which a prompt may close, or waits for the pending prompt. -/
inductive Deed where
  | happen (event : Event) (h : event.isOfPrompt = false)
  | sleep (millis : Nat)
  | waitIdle

/-- What an entry of the journal shows of the prompts that were accepted and have closed. -/
def Entry.moment? : Entry → Option Moment
  | .triggered true => some .accepted
  | .closed ending => some (.closed ending)
  | _ => none

/-- What a journal shows of the prompts. -/
def momentsOf (journal : Journal) : List Moment := journal.filterMap Entry.moment?

namespace Timeline

/-- The timeline after something was done. -/
def perform (timeline : Timeline) : Deed → Timeline
  | .happen event _ => timeline.happen event
  | .sleep millis => timeline.sleep millis
  | .waitIdle => timeline.waitIdle.2

/-- The prompt that somebody waits for, and the result. -/
def waited (timeline : Timeline) : Deed → List Moment
  | .waitIdle => [.waited timeline.client.flow.pending timeline.waitIdle.1]
  | _ => []

/-- What is seen of the prompts while something is done: what is added to the journal, and then
the result if somebody has waited. -/
def seen (timeline : Timeline) (deed : Deed) : List Moment :=
  momentsOf ((timeline.perform deed).client.journal.drop timeline.client.journal.length)
    ++ timeline.waited deed

/-- The timeline after some things were done. -/
def after (timeline : Timeline) (deeds : List Deed) : Timeline := deeds.foldl perform timeline

/-- What is seen of the prompts while some things are done. -/
def history : List Deed → Timeline → List Moment
  | [], _ => []
  | deed :: deeds, timeline => timeline.seen deed ++ history deeds (timeline.perform deed)

end Timeline

/-! ### Steps -/

theorem momentsOf_append (journal more : Journal) :
  momentsOf (journal ++ more) = momentsOf journal ++ momentsOf more
  := List.filterMap_append

theorem momentsOf_notified (notice : Option Notice) :
  momentsOf (notice.map Entry.notified).toList = []
  := by
  cases notice with
  | _ => rfl

theorem momentsOf_triggered (accepted : Bool) :
  momentsOf [.triggered accepted] = if accepted then [.accepted] else []
  := by
  cases accepted with
  | false => rfl
  | true => rfl

/-- What was seen of the prompts of a timeline, which knows when the prompt on show will close. -/
structure Told (moments : List Moment) (timeline : Timeline) : Prop where
  trail : Trail moments timeline.client.flow
  scheduled : ∀ number, timeline.client.flow.prompts[number]? = some .showing →
    ∃ closing, timeline.closing = some closing ∧ closing.number = number

/-- Some entries are added to the journal on the way from one timeline to another, and show what
is seen of the prompts. -/
structure Leads (timeline : Timeline) (entries : Journal) (timeline' : Timeline) : Prop where
  journal : timeline'.client.journal = timeline.client.journal ++ entries
  told : ∀ moments, Told moments timeline → Told (moments ++ momentsOf entries) timeline'

namespace Leads

variable {timeline timeline' timeline'' : Timeline} {entries more : Journal}

theorem refl (timeline : Timeline) :
  Leads timeline [] timeline
  := ⟨(List.append_nil _).symm, fun moments h => by simpa [momentsOf] using h⟩

/-- What is added on two ways is added one after the other. -/
theorem trans (h : Leads timeline entries timeline') (h' : Leads timeline' more timeline'') :
  Leads timeline (entries ++ more) timeline''
  := by
  constructor
  · rw [h'.journal, h.journal, List.append_assoc]
  · intro moments htold
    have htold' := h'.told _ (h.told moments htold)
    rw [momentsOf_append, ← List.append_assoc]
    exact htold'

end Leads

namespace Told

variable {moments : List Moment} {timeline : Timeline}

/-- Entries that show nothing of the prompts may be added while these stay as they are. -/
theorem quiet (h : Told moments timeline) {timeline' : Timeline} {entries : Journal}
    (hflow : timeline'.client.flow = timeline.client.flow)
    (hclosing : timeline'.closing = timeline.closing) (hquiet : momentsOf entries = []) :
  Told (moments ++ momentsOf entries) timeline'
  := by
  rw [hquiet, List.append_nil]
  constructor
  · rw [hflow]
    exact h.trail
  · rw [hflow, hclosing]
    exact h.scheduled

/-- A trigger that is accepted adds its prompt, and nothing new is on show. -/
theorem trigger (h : Told moments timeline) {timeline' : Timeline} {canWait : Bool}
    (hflow : timeline'.client.flow = (timeline.client.flow.trigger canWait).2)
    (hclosing : timeline'.closing = timeline.closing) :
  Told (moments ++ momentsOf [.triggered (timeline.client.flow.trigger canWait).1]) timeline'
  := by
  rw [momentsOf_triggered]
  constructor
  · rw [hflow]
    exact h.trail.trigger canWait
  · rw [hflow, hclosing]
    intro number hshowing
    apply h.scheduled number
    cases haccepted : (timeline.client.flow.trigger canWait).1 with
    | false =>
      rw [Flow.trigger_of_not_accepted haccepted] at hshowing
      exact hshowing
    | true =>
      rw [Flow.trigger_of_accepted haccepted, Flow.accept] at hshowing
      simp only [List.getElem?_append] at hshowing
      split at hshowing
      · exact hshowing
      · have hmem := List.mem_of_getElem? hshowing
        cases List.mem_singleton.mp hmem

end Told

namespace Timeline

/-- Something that happens adds its entries to the journal, and shows what is seen of the prompts
in them. -/
theorem leads_happen (timeline : Timeline) {event : Event} (h : event.isOfPrompt = false) :
  Leads timeline (timeline.run.added event) (timeline.happen event)
  := by
  refine ⟨timeline.run.journal_step event, fun moments htold => ?_⟩
  cases event with
  | showPrompt | closePrompt | takePending => cases h
  | addReply | readInbox | setCredential | setLocale => exact htold.quiet rfl rfl rfl
  | trigger => exact htold.trigger rfl rfl
  | send call wanted =>
    refine htold.quiet ?_ rfl ?_
    · exact (congrArg Client.flow (Run.client_send call wanted timeline.run)).trans
        (flow_send _ call)
    · rw [Run.added]
      split
      · rfl
      · rfl
  | arrive number =>
    rcases timeline.run.awaited_or_not number with ⟨flight, hflight, hwaits⟩ | hnot
    · have hflow : (timeline.happen (.arrive number)).client.flow
          = if revokes flight.reply.arrival then
              (timeline.client.flow.trigger timeline.client.canWait).2
            else timeline.client.flow := by
        rw [client, happen, Run.step, Run.arrive_of_awaited hflight hwaits]
        exact flow_receive _ _ _
      rw [Run.added_of_awaited hflight hwaits]
      cases hrevokes : revokes flight.reply.arrival with
      | false =>
        rw [hrevokes] at hflow
        refine htold.quiet hflow rfl ?_
        rw [if_neg Bool.false_ne_true, List.append_nil, momentsOf_append, momentsOf_notified]
        rfl
      | true =>
        rw [hrevokes] at hflow
        rw [if_pos rfl, momentsOf_append, momentsOf_append, momentsOf_notified, List.append_nil]
        exact htold.trigger hflow rfl
    · have hsame : timeline.happen (.arrive number) = timeline := by
        rw [happen, Run.step, Run.arrive_of_not_awaited hnot]
      rw [Run.added_of_not_awaited hnot, hsame]
      exact htold.quiet rfl rfl rfl

theorem show_of_queued? {flow : Flow} {number : Nat} (h : flow.queued? = some number) :
  flow.show? number = some { flow with prompts := flow.prompts.set number .showing }
  := by
  obtain ⟨hlt, hqueued, -⟩ := List.findIdx?_eq_some_iff_getElem.mp h
  refine Flow.show_eq_some.mpr ⟨?_, rfl⟩
  rw [List.getElem?_eq_getElem hlt]
  exact congrArg some (of_decide_eq_true hqueued)

theorem present_of_none {timeline : Timeline} (h : timeline.client.flow.queued? = none) :
  timeline.present = timeline
  := by
  simp only [present, h]

/-- The queued prompt is shown. -/
theorem client_present {timeline : Timeline} {number : Nat}
    (h : timeline.client.flow.queued? = some number) :
  timeline.present.client
    = { timeline.client with
        flow := { timeline.client.flow with
          prompts := timeline.client.flow.prompts.set number .showing } }.note
      (.prompted (.inLocale timeline.client.locale))
  := by
  rw [← showPrompt_of_some _ (show_of_queued? h)]
  simp only [present, h]
  rfl

theorem closing_present {timeline : Timeline} {number : Nat}
    (h : timeline.client.flow.queued? = some number) :
  ∃ closing, timeline.present.closing = some closing ∧ closing.number = number
  := by
  simp only [present, h]
  exact ⟨_, rfl, rfl⟩

/-- Showing the queued prompt adds its text to the journal. -/
theorem leads_present (timeline : Timeline) :
  ∃ entries, Leads timeline entries timeline.present
  := by
  cases hqueued : timeline.client.flow.queued? with
  | none =>
    rw [present_of_none hqueued]
    exact ⟨[], .refl timeline⟩
  | some number =>
    have hshow := show_of_queued? hqueued
    have hclient := client_present hqueued
    refine ⟨[.prompted (.inLocale timeline.client.locale)], ⟨by rw [hclient]; rfl, ?_⟩⟩
    intro moments htold
    have htrail := htold.trail.present hshow
    constructor
    · rw [hclient, flow_note]
      show Trail (moments ++ []) _
      rw [List.append_nil]
      exact htrail
    · rw [hclient, flow_note]
      intro other hshowing
      have hother := htrail.pending_of_not_closed hshowing rfl
      have hnumber := htold.trail.pending_of_not_closed (Flow.show_eq_some.mp hshow).1 rfl
      obtain rfl : other = number := Option.some.inj (hother.symm.trans hnumber)
      exact closing_present hqueued

/-- Once the queued prompt is shown, the prompt that has not closed is on show. -/
theorem exists_showing {moments : List Moment} {timeline : Timeline} (h : Told moments timeline)
    (hopen : timeline.present.client.flow.latch = true) :
  ∃ number : Nat, timeline.present.client.flow.prompts[number]? = some Phase.showing
  := by
  cases hqueued : timeline.client.flow.queued? with
  | none =>
    rw [present_of_none hqueued] at hopen ⊢
    obtain ⟨phase, hlast, hphase⟩ := h.trail.inTurn.isOpen_iff.mp hopen
    cases phase with
    | queued =>
      have hnone := List.findIdx?_eq_none_iff.mp hqueued _ (List.mem_of_getLast? hlast)
      cases hnone
    | showing =>
      rw [List.getLast?_eq_getElem?] at hlast
      exact ⟨_, hlast⟩
    | closed ending => cases hphase
  | some number =>
    obtain ⟨hget, -⟩ := Flow.show_eq_some.mp (show_of_queued? hqueued)
    rw [client_present hqueued, flow_note]
    exact ⟨number, List.getElem?_set_self (List.getElem?_eq_some_iff.mp hget).1⟩

theorem closeBy_of_not_due {timeline : Timeline} {time : Nat}
    (h : ∀ closing, timeline.closing = some closing → ¬ closing.due ≤ time) :
  timeline.closeBy time = timeline
  := by
  cases hclosing : timeline.closing with
  | none => simp only [closeBy, hclosing]
  | some closing => simp only [closeBy, hclosing, if_neg (h closing hclosing)]

theorem client_closeBy {timeline : Timeline} {closing : Closing} {time : Nat}
    (hclosing : timeline.closing = some closing) (hdue : closing.due ≤ time) :
  (timeline.closeBy time).client
      = timeline.client.closePrompt closing.number closing.ending
    ∧ (timeline.closeBy time).closing = none
  := by
  constructor
  · simp only [closeBy, hclosing, if_pos hdue]
    rfl
  · simp only [closeBy, hclosing, if_pos hdue]

/-- A prompt that closes adds its ending to the journal. -/
theorem leads_closeBy (timeline : Timeline) (time : Nat) :
  ∃ entries, Leads timeline entries (timeline.closeBy time)
  := by
  by_cases hdue : ∃ closing, timeline.closing = some closing ∧ closing.due ≤ time
  · obtain ⟨closing, hclosing, hdue⟩ := hdue
    obtain ⟨hclient, hover⟩ := client_closeBy hclosing hdue
    cases hclose : timeline.client.flow.close? closing.number closing.ending with
    | none =>
      rw [closePrompt_of_none _ hclose] at hclient
      refine ⟨[], ⟨by rw [hclient, List.append_nil], fun moments htold => ?_⟩⟩
      constructor
      · rw [hclient]
        simpa [momentsOf] using htold.trail
      · rw [hclient]
        intro number hshowing
        obtain ⟨known, hknown, rfl⟩ := htold.scheduled number hshowing
        obtain rfl : closing = known := Option.some.inj (hclosing.symm.trans hknown)
        obtain ⟨flow, hsome⟩ := timeline.client.flow.close_isSome
          (decide_eq_true hshowing) closing.ending
        cases hclose.symm.trans hsome
    | some flow =>
      rw [closePrompt_of_some _ hclose] at hclient
      refine ⟨[.closed closing.ending],
        ⟨by rw [hclient, journal_note, journal_obey], fun moments htold => ?_⟩⟩
      have htrail := htold.trail.close hclose
      constructor
      · rw [hclient]
        exact htrail
      · rw [hclient]
        intro number hshowing
        obtain ⟨-, hidle, -⟩ := htold.trail.inTurn.latch_of_close hclose
        have hclosed := htrail.inTurn.latch_eq_false_iff.mp hidle _
          (List.mem_of_getElem? hshowing)
        cases hclosed
  · rw [closeBy_of_not_due fun closing hclosing hle => hdue ⟨closing, hclosing, hle⟩]
    exact ⟨[], .refl timeline⟩

/-- While time passes some entries are added to the journal. -/
theorem leads_sleep (timeline : Timeline) (millis : Nat) :
  ∃ entries, Leads timeline entries (timeline.sleep millis)
  := by
  obtain ⟨shown, hpresent⟩ := timeline.leads_present
  obtain ⟨closed, hclose⟩ := timeline.present.leads_closeBy (timeline.time + millis)
  obtain ⟨hjournal, htold⟩ := hpresent.trans hclose
  exact ⟨shown ++ closed, ⟨hjournal, fun moments h =>
    ⟨(htold moments h).trail, (htold moments h).scheduled⟩⟩⟩

/-! ### Waiting for the pending prompt -/

/-- The timeline once the prompt that has not closed has closed. -/
def settle (timeline : Timeline) : Timeline :=
  match timeline.present.closing with
  | some closing => timeline.present.closeBy closing.due
  | none => timeline.present

/-- Until the prompt has closed some entries are added to the journal. -/
theorem leads_settle (timeline : Timeline) :
  ∃ entries, Leads timeline entries timeline.settle
  := by
  obtain ⟨shown, hpresent⟩ := timeline.leads_present
  rw [settle]
  split
  · next closing _ =>
    obtain ⟨closed, hclose⟩ := timeline.present.leads_closeBy closing.due
    exact ⟨shown ++ closed, hpresent.trans hclose⟩
  · exact ⟨shown, hpresent⟩

/-- The prompt has closed in the end. -/
theorem latch_settle {moments : List Moment} {timeline : Timeline} (h : Told moments timeline) :
  timeline.settle.client.flow.latch = false
  := by
  obtain ⟨shown, hpresent⟩ := timeline.leads_present
  have htold := hpresent.told moments h
  cases hopen : timeline.present.client.flow.latch with
  | true =>
    obtain ⟨number, hshowing⟩ := exists_showing h hopen
    obtain ⟨closing, hclosing, rfl⟩ := htold.scheduled number hshowing
    obtain ⟨hclient, -⟩ := client_closeBy hclosing (Nat.le_refl _)
    simp only [settle, hclosing]
    rw [hclient]
    exact isOpen_closePrompt _ (decide_eq_true hshowing) _
  | false =>
    rw [settle]
    split
    · next closing hclosing =>
      obtain ⟨hclient, -⟩ := client_closeBy hclosing (Nat.le_refl _)
      rw [hclient]
      cases hclose : timeline.present.client.flow.close? closing.number closing.ending with
      | none =>
        rw [closePrompt_of_none _ hclose]
        exact hopen
      | some flow =>
        obtain ⟨-, rfl⟩ := Flow.close_eq_some.mp hclose
        rw [closePrompt_of_some _ hclose]
        rfl
    · exact hopen

/-- A prompt that closes stays pending. -/
theorem pending_closeBy (timeline : Timeline) (time : Nat) :
  (timeline.closeBy time).client.flow.pending = timeline.client.flow.pending
  := by
  by_cases hdue : ∃ closing, timeline.closing = some closing ∧ closing.due ≤ time
  · obtain ⟨closing, hclosing, hdue⟩ := hdue
    rw [(client_closeBy hclosing hdue).1]
    cases hclose : timeline.client.flow.close? closing.number closing.ending with
    | none => rw [closePrompt_of_none _ hclose]
    | some flow =>
      obtain ⟨-, rfl⟩ := Flow.close_eq_some.mp hclose
      rw [closePrompt_of_some _ hclose]
      rfl
  · rw [closeBy_of_not_due fun closing hclosing hle => hdue ⟨closing, hclosing, hle⟩]

/-- The prompt stays pending until somebody takes it. -/
theorem pending_settle (timeline : Timeline) :
  timeline.settle.client.flow.pending = timeline.client.flow.pending
  := by
  have hpresent : timeline.present.client.flow.pending = timeline.client.flow.pending := by
    cases hqueued : timeline.client.flow.queued? with
    | none => rw [present_of_none hqueued]
    | some number => rw [client_present hqueued, flow_note]
  rw [settle]
  split
  · rw [pending_closeBy, hpresent]
  · exact hpresent

/-- A prompt is shown whether or not it was taken before. -/
theorem showPrompt_takePending (client : Client) (number : Nat) :
  client.takePending.2.showPrompt number = (client.showPrompt number).takePending.2
  := by
  by_cases hqueued : client.flow.prompts[number]? = some .queued
  · rw [showPrompt_of_some client (Flow.show_eq_some.mpr ⟨hqueued, rfl⟩)]
    exact showPrompt_of_some client.takePending.2 (Flow.show_eq_some.mpr ⟨hqueued, rfl⟩)
  · have hnone (flow : Flow) (hflow : flow.prompts = client.flow.prompts) :
        flow.show? number = none := by
      simp [Flow.show?, Flow.isQueued, hflow, hqueued]
    rw [showPrompt_of_none client (hnone _ rfl)]
    exact showPrompt_of_none client.takePending.2 (hnone _ rfl)

/-- A prompt closes whether or not it was taken before. -/
theorem closePrompt_takePending (client : Client) (number : Nat) (ending : Ending) :
  client.takePending.2.closePrompt number ending
    = (client.closePrompt number ending).takePending.2
  := by
  by_cases hshowing : client.flow.prompts[number]? = some .showing
  · rw [closePrompt_of_some client (Flow.close_eq_some.mpr ⟨hshowing, rfl⟩)]
    apply (closePrompt_of_some client.takePending.2
      (Flow.close_eq_some.mpr ⟨hshowing, rfl⟩)).trans
    simp only [obey]
    split
    · rfl
    · rfl
  · have hnone (flow : Flow) (hflow : flow.prompts = client.flow.prompts) :
        flow.close? number ending = none := by
      simp [Flow.close?, Flow.isShowing, hflow, hshowing]
    rw [closePrompt_of_none client (hnone _ rfl)]
    exact closePrompt_of_none client.takePending.2 (hnone _ rfl)

/-- The queued prompt is shown whether or not it was taken before. -/
theorem present_takePending (timeline : Timeline) :
  (timeline.happen .takePending).present = timeline.present.happen .takePending
  := by
  cases hqueued : timeline.client.flow.queued? with
  | none =>
    have hnone : (timeline.happen .takePending).client.flow.queued? = none := hqueued
    rw [present_of_none hqueued, present_of_none hnone]
  | some number =>
    have hsome : (timeline.happen .takePending).client.flow.queued? = some number := hqueued
    have hshow : timeline.run.client.takePending.2.showPrompt number
        = (timeline.run.client.showPrompt number).takePending.2 :=
      showPrompt_takePending timeline.client number
    rw [present, hsome, present, hqueued]
    simp only [happen, Run.step, hshow]

/-- The prompt on show closes whether or not it was taken before. -/
theorem closeBy_takePending (timeline : Timeline) (time : Nat) :
  (timeline.happen .takePending).closeBy time = (timeline.closeBy time).happen .takePending
  := by
  by_cases hdue : ∃ closing, timeline.closing = some closing ∧ closing.due ≤ time
  · obtain ⟨closing, hclosing, hdue⟩ := hdue
    have htaken : (timeline.happen .takePending).closing = some closing := hclosing
    have hclose : timeline.run.client.takePending.2.closePrompt closing.number closing.ending
        = (timeline.run.client.closePrompt closing.number closing.ending).takePending.2 :=
      closePrompt_takePending timeline.client closing.number closing.ending
    simp only [closeBy, htaken, hclosing, if_pos hdue]
    simp only [happen, Run.step, hclose]
  · have hwait : ∀ closing, timeline.closing = some closing → ¬ closing.due ≤ time :=
      fun closing hclosing hle => hdue ⟨closing, hclosing, hle⟩
    rw [closeBy_of_not_due hwait]
    exact closeBy_of_not_due hwait

/-- Whoever waits for the pending prompt takes it once it has closed, as far as anybody can
see. -/
theorem waitIdle_of_pending {timeline : Timeline} {number : Nat}
    (h : timeline.client.flow.pending = some number) :
  timeline.waitIdle
    = (timeline.settle.client.flow.decision? number, timeline.settle.happen .takePending)
  := by
  rw [waitIdle]
  simp only [h, present_takePending]
  cases hclosing : timeline.present.closing with
  | none =>
    have hnone : (timeline.present.happen .takePending).closing = none := hclosing
    simp only [hnone, settle, hclosing]
    rfl
  | some closing =>
    have hsome : (timeline.present.happen .takePending).closing = some closing := hclosing
    simp only [hsome, settle, hclosing, closeBy_takePending]
    rfl

theorem waitIdle_of_none {timeline : Timeline} (h : timeline.client.flow.pending = none) :
  timeline.waitIdle = (none, timeline)
  := by
  simp only [waitIdle, h]

/-! ### Histories -/

theorem momentsOf_drop {timeline timeline' : Timeline} {entries : Journal}
    (h : Leads timeline entries timeline') :
  momentsOf (timeline'.client.journal.drop timeline.client.journal.length) = momentsOf entries
  := by
  rw [h.journal, List.drop_left]

/-- Whatever is done, the prompts are told of as they were seen. -/
theorem told_perform {moments : List Moment} {timeline : Timeline} (h : Told moments timeline)
    (deed : Deed) :
  Told (moments ++ timeline.seen deed) (timeline.perform deed)
  := by
  have hleads {entries : Journal} {timeline' : Timeline} (hway : Leads timeline entries timeline') :
      Told (moments ++ momentsOf (timeline'.client.journal.drop timeline.client.journal.length))
        timeline' := by
    rw [momentsOf_drop hway]
    exact hway.told moments h
  cases deed with
  | happen event hevent =>
    show Told (moments ++ (momentsOf _ ++ [])) _
    rw [List.append_nil]
    exact hleads (timeline.leads_happen hevent)
  | sleep millis =>
    obtain ⟨entries, hway⟩ := timeline.leads_sleep millis
    show Told (moments ++ (momentsOf _ ++ [])) _
    rw [List.append_nil]
    exact hleads hway
  | waitIdle =>
    rw [seen, waited, perform, ← List.append_assoc]
    cases hpending : timeline.client.flow.pending with
    | none =>
      rw [waitIdle_of_none hpending, List.drop_length]
      have hidle : timeline.client.flow.latch = false := by
        rcases h.trail.pending_cases with ⟨number, hnumber, -⟩ | ⟨-, -, hidle⟩
        · cases hpending.symm.trans hnumber
        · exact hidle
      have htake : timeline.client.flow.take.2 = timeline.client.flow := by
        show { timeline.client.flow with pending := none } = _
        rw [← hpending]
      have htrail := h.trail.wait hidle
      rw [htake, hpending] at htrail
      rw [momentsOf, List.filterMap_nil, List.append_nil]
      exact ⟨htrail, h.scheduled⟩
    | some number =>
      rw [waitIdle_of_pending hpending]
      obtain ⟨entries, hway⟩ := timeline.leads_settle
      have hsettled := hleads hway
      have htrail := hsettled.trail.wait (latch_settle h)
      rw [pending_settle, hpending] at htrail
      exact ⟨htrail, hsettled.scheduled⟩

theorem latch_waitIdle {moments : List Moment} {timeline : Timeline} (h : Told moments timeline) :
  timeline.waitIdle.2.client.flow.latch = false
  := by
  have hwaited := (told_perform h .waitIdle).trail
  rw [seen, waited, ← List.append_assoc] at hwaited
  rcases hwaited.pending_cases with ⟨number, -, -, hsince⟩ | ⟨-, -, hidle⟩
  · exact absurd hsince (not_acceptedSince_waited _ _ _)
  · exact hidle

/-- What was seen of the prompts while some things were done. -/
theorem told_history {moments : List Moment} {timeline : Timeline} (h : Told moments timeline)
    (deeds : List Deed) :
  Told (moments ++ timeline.history deeds) (timeline.after deeds)
  := by
  induction deeds generalizing moments timeline with
  | nil =>
    rw [history, List.append_nil]
    exact h
  | cons deed deeds ih =>
    rw [history, ← List.append_assoc]
    exact ih (told_perform h deed)

theorem told_fresh (account : Account) (link : Link) (now : Calendar.Instant) (inbox : Inbox)
    (canWait : Bool) (answers : List Answer) :
  Told [] { run := { client := { Client.fresh account link now with inbox, canWait } }, answers }
  := ⟨.start, fun _ h => by cases h⟩

/-- Whatever is done one thing after the other, a prompt that is queued or on show is the pending
one, and none is left when somebody has waited.  No prompt is waited for twice, and whoever waits
for one goes on with the decision that follows from its ending; these decisions are some of those
that the prompts bring, in the order in which they close.  Whoever waits goes on without a decision
exactly if no prompt was accepted since somebody waited, or the last one broke down.  A prompt is
waited for by whoever waits first after it was accepted, unless it closed and a later one was
accepted before.  The prompts are numbered in the order in which they were accepted, which is the
one in which they close. -/
theorem waits_find_last_prompt (account : Account) (link : Link) (now : Calendar.Instant)
    (inbox : Inbox) (canWait : Bool) (answers : List Answer) (deeds : List Deed) :
  let start : Timeline :=
    { run := { client := { Client.fresh account link now with inbox, canWait } }, answers }
  let timeline := start.after deeds
  let history := start.history deeds
  (∀ number phase, timeline.client.flow.prompts[number]? = some phase →
      phase.isClosed = false → timeline.client.flow.pending = some number)
    ∧ timeline.waitIdle.2.client.flow.isOpen = false
    ∧ (∀ phase ∈ timeline.waitIdle.2.client.flow.prompts, phase.isClosed = true)
    ∧ timeline.client.flow.prompts.length = acceptedIn history
    ∧ (∀ (number : Nat) ending, timeline.client.flow.prompts[number]? = some (Phase.closed ending)
        ↔ (endingsIn history)[number]? = some ending)
    ∧ (takenIn history).Pairwise (· < ·)
    ∧ (∀ before number result after, history = before ++ .waited (some number) result :: after →
        ∃ ending, (endingsIn before)[number]? = some ending ∧ result = ending.decision?)
    ∧ ((resultsIn history).filterMap id).Sublist
        ((endingsIn history).filterMap Ending.decision?)
    ∧ (∀ before prompt result after, history = before ++ .waited prompt result :: after →
        (result = none ↔ ¬ AcceptedSince before
          ∨ ∃ number, number + 1 = acceptedIn before
            ∧ (endingsIn before)[number]? = some .panicked))
    ∧ (∀ before middle prompt result after,
        history = before ++ .accepted :: (middle ++ .waited prompt result :: after) →
        (∀ m ∈ middle, m.isWaited = false) →
        prompt = some (acceptedIn before)
          ∨ ∃ front ending back later,
            middle = front ++ .closed ending :: (back ++ .accepted :: later)
              ∧ (endingsIn (before ++ .accepted :: front)).length = acceptedIn before)
  := by
  intro start timeline history
  have htold : Told history timeline :=
    told_history (told_fresh account link now inbox canWait answers) deeds
  have htrail := htold.trail
  have hidle := latch_waitIdle htold
  refine ⟨fun number phase => htrail.pending_of_not_closed, hidle, ?closed, htrail.length_prompts,
    fun number ending => htrail.closed_iff, htrail.pairwise_taken.1, ?decision, ?sublist,
    fun before prompt result after => htrail.result_eq_none_iff,
    fun before middle prompt result after => htrail.taken_or_overtaken⟩
  case closed =>
    have hwaited := told_perform htold .waitIdle
    exact hwaited.trail.inTurn.latch_eq_false_iff.mp hidle
  case decision =>
    intro before number result after hsplit
    rcases htrail.waited_cases hsplit with ⟨_, ending, heq, -, -, hending, hresult⟩ | ⟨hnone, -⟩
    · cases heq
      exact ⟨ending, hending, hresult⟩
    · cases hnone
  case sublist =>
    apply htrail.results_sublist.trans
    exact (List.take_sublist _ _).filterMap _

/-- A prompt that is cancelled before the next one is accepted: nobody waits for it, and whoever
waits goes on with the decision of the next one, and then without any. -/
theorem waits_find_last_prompt_of_two :
  let start : Timeline :=
    { run := { client := Client.fresh ⟨{}, none⟩ (.ready []) ⟨0, 0, 0⟩ }
      answers := [⟨.decided .cancelled, 5⟩, ⟨.decided .confirmed, 0⟩] }
  let deeds : List Deed :=
    [.happen .trigger rfl, .sleep 5, .happen .trigger rfl, .waitIdle, .waitIdle]
  let middle : List Moment :=
    [.closed (.decided .cancelled), .accepted, .closed (.decided .confirmed)]
  start.history deeds
      = .accepted :: (middle ++ [.waited (some 1) (some .confirmed), .waited none none])
    ∧ (resultsIn (start.history deeds)).filterMap id = [.confirmed]
    ∧ ((resultsIn (start.history deeds)).filterMap id).Sublist
        ((endingsIn (start.history deeds)).filterMap Ending.decision?)
    ∧ (∃ ending, (endingsIn (.accepted :: middle))[1]? = some ending
        ∧ some .confirmed = ending.decision?)
    ∧ ∃ front ending back later,
        middle = front ++ .closed ending :: (back ++ .accepted :: later)
          ∧ (endingsIn (.accepted :: front)).length = 0
  := by
  intro start deeds middle
  have hhistory : start.history deeds
      = .accepted :: (middle ++ [.waited (some 1) (some .confirmed), .waited none none]) := by
    decide
  obtain ⟨-, -, -, -, -, -, hdecision, hsublist, -, hovertaken⟩ :=
    waits_find_last_prompt ⟨{}, none⟩ (.ready []) ⟨0, 0, 0⟩ (.open 0) true
      [⟨.decided .cancelled, 5⟩, ⟨.decided .confirmed, 0⟩] deeds
  refine ⟨hhistory, by rw [hhistory]; rfl, hsublist, ?_, ?_⟩
  · exact hdecision (.accepted :: middle) 1 (some .confirmed) [.waited none none] hhistory
  · rcases hovertaken [] middle (some 1) (some .confirmed) [.waited none none] hhistory
        (by decide) with hfirst | hlater
    · cases hfirst
    · exact hlater

end Timeline

end ChatPortal.Client
