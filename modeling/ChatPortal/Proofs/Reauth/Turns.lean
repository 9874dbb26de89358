import ChatPortal.Reauth.Flow

/-!
# Prompts take turns

`Flow.InTurn endings flow` says that the prompts of a flow have closed with the given
endings, in this order, but for at most one more behind them, and that the latch is set
exactly while there is such a prompt.  It holds of the empty flow, and whatever happens to
a flow preserves it.
-/

namespace ChatPortal.Reauth.Flow

/-- All prompts have closed, or all but the last, on which the latch is set. -/
inductive InTurn (endings : List Ending) : Flow → Prop where
  | idle (pending : Option Nat) : InTurn endings ⟨false, endings.map .closed, pending⟩
  | busy {phase : Phase} (pending : Option Nat) (h : phase.isClosed = false) :
      InTurn endings ⟨true, endings.map .closed ++ [phase], pending⟩

/-! ### What happens to a flow -/

/-- A trigger that is not accepted leaves the flow as it was. -/
theorem trigger_of_not_accepted
    {canWait : Bool} {flow : Flow} (h : (flow.trigger canWait).1 = false) :
  (flow.trigger canWait).2 = flow
  := by
  obtain ⟨latch, prompts, pending⟩ := flow
  cases latch with
  | true => rfl
  | false =>
    cases canWait with
    | true => simp [trigger] at h
    | false => rfl

/-- A trigger is accepted when somebody can wait for the prompt and the latch is free. -/
theorem trigger_accepted (canWait : Bool) (flow : Flow) :
  (flow.trigger canWait).1 = (canWait && !flow.latch)
  := by
  rw [trigger]
  cases flow.latch with
  | true => simp
  | false =>
    cases canWait with
    | false => rfl
    | true => rfl

theorem trigger_of_accepted
    {canWait : Bool} {flow : Flow} (h : (flow.trigger canWait).1 = true) :
  (flow.trigger canWait).2 = { flow with latch := true }.accept
  := by
  rw [trigger_accepted] at h
  obtain ⟨rfl, hlatch⟩ : canWait = true ∧ flow.latch = false := by simpa using h
  simp [trigger, hlatch]

theorem length_trigger (canWait : Bool) (flow : Flow) :
  (flow.trigger canWait).2.prompts.length
    = flow.prompts.length + (flow.trigger canWait).1.toNat
  := by
  cases haccepted : (flow.trigger canWait).1 with
  | false => simp [trigger_of_not_accepted haccepted]
  | true => simp [trigger_of_accepted haccepted, accept]

theorem show_eq_some {flow flow' : Flow} {number : Nat} :
  flow.show? number = some flow'
    ↔ flow.prompts[number]? = some .queued
      ∧ { flow with prompts := flow.prompts.set number .showing } = flow'
  := by
  simp [show?, isQueued]

theorem close_eq_some {flow flow' : Flow} {number : Nat} {ending : Ending} :
  flow.close? number ending = some flow'
    ↔ flow.prompts[number]? = some .showing
      ∧ { flow with latch := false, prompts := flow.prompts.set number (.closed ending) }
          = flow'
  := by
  simp [close?, isShowing]

theorem close_isSome (flow : Flow) {number : Nat} (h : flow.isShowing number = true)
    (ending : Ending) :
  ∃ flow', flow.close? number ending = some flow'
  := ⟨_, close_eq_some.mpr ⟨of_decide_eq_true h, rfl⟩⟩

theorem length_show
    {flow flow' : Flow} {number : Nat} (h : flow.show? number = some flow') :
  flow'.prompts.length = flow.prompts.length
  := by
  obtain ⟨-, rfl⟩ := show_eq_some.mp h
  simp

theorem length_close
    {flow flow' : Flow} {number : Nat} {ending : Ending}
    (h : flow.close? number ending = some flow') :
  flow'.prompts.length = flow.prompts.length
  := by
  obtain ⟨-, rfl⟩ := close_eq_some.mp h
  simp

theorem getElem?_closed
    {endings : List Ending} {number : Nat} {phase : Phase}
    (h : (endings.map Phase.closed)[number]? = some phase) :
  phase.isClosed = true
  := by
  obtain ⟨ending, -, rfl⟩ := List.mem_map.mp (List.mem_of_getElem? h)
  rfl

/-- A prompt that has not closed is the last one. -/
theorem eq_last_of_not_closed
    {endings : List Ending} {last phase : Phase} {number : Nat}
    (h : (endings.map Phase.closed ++ [last])[number]? = some phase)
    (hphase : phase.isClosed = false) :
  number = endings.length ∧ phase = last
  := by
  rcases Nat.lt_trichotomy number endings.length with hlt | heq | hgt
  · rw [List.getElem?_append_left (by simpa using hlt)] at h
    rw [getElem?_closed h] at hphase
    cases hphase
  · subst heq
    rw [List.getElem?_append_right (by simp)] at h
    simp only [List.length_map, Nat.sub_self, List.getElem?_cons_zero] at h
    exact ⟨rfl, (Option.some.inj h).symm⟩
  · rw [List.getElem?_eq_none (by simp; omega)] at h
    cases h

theorem set_last (endings : List Ending) (last phase : Phase) :
  (endings.map Phase.closed ++ [last]).set endings.length phase
    = endings.map .closed ++ [phase]
  := by
  simp

/-- A prompt of a flow that has not closed is the last one, and the latch is set on it. -/
theorem InTurn.last_of_not_closed
    {endings : List Ending} {flow : Flow} (h : flow.InTurn endings) {number : Nat}
    {phase : Phase} (hget : flow.prompts[number]? = some phase)
    (hphase : phase.isClosed = false) :
  ∃ pending, number = endings.length ∧ flow = ⟨true, endings.map .closed ++ [phase], pending⟩
  := by
  cases h with
  | idle pending =>
    rw [getElem?_closed hget] at hphase
    cases hphase
  | busy pending _ =>
    obtain ⟨hnumber, rfl⟩ := eq_last_of_not_closed hget hphase
    exact ⟨pending, hnumber, rfl⟩

/-! ### Preservation -/

theorem inTurn_empty :
  InTurn [] {}
  := .idle none

/-- An accepted prompt takes its turn behind those that have closed. -/
theorem InTurn.trigger
    {endings : List Ending} {flow : Flow} (h : flow.InTurn endings) (canWait : Bool) :
  (flow.trigger canWait).2.InTurn endings
  := by
  cases haccepted : (flow.trigger canWait).1 with
  | false =>
    rw [trigger_of_not_accepted haccepted]
    exact h
  | true =>
    rw [trigger_of_accepted haccepted]
    cases h with
    | idle pending => exact .busy _ rfl
    | busy pending _ => simp [trigger_accepted] at haccepted

theorem InTurn.of_show
    {endings : List Ending} {flow flow' : Flow} (h : flow.InTurn endings) {number : Nat}
    (hshow : flow.show? number = some flow') :
  flow'.InTurn endings
  := by
  obtain ⟨hget, rfl⟩ := show_eq_some.mp hshow
  obtain ⟨pending, rfl, rfl⟩ := h.last_of_not_closed hget rfl
  rw [set_last]
  exact .busy pending rfl

theorem InTurn.of_close
    {endings : List Ending} {flow flow' : Flow} (h : flow.InTurn endings) {number : Nat}
    {ending : Ending} (hclose : flow.close? number ending = some flow') :
  flow'.InTurn (endings ++ [ending])
  := by
  obtain ⟨hget, rfl⟩ := close_eq_some.mp hclose
  obtain ⟨pending, rfl, rfl⟩ := h.last_of_not_closed hget rfl
  rw [set_last, ← List.map_singleton, ← List.map_append]
  exact .idle pending

theorem InTurn.latch_of_show
    {endings : List Ending} {flow flow' : Flow} (h : flow.InTurn endings) {number : Nat}
    (hshow : flow.show? number = some flow') :
  flow.latch = true ∧ flow'.latch = true
  := by
  obtain ⟨hget, rfl⟩ := show_eq_some.mp hshow
  obtain ⟨pending, -, rfl⟩ := h.last_of_not_closed hget rfl
  exact ⟨rfl, rfl⟩

theorem InTurn.latch_of_close
    {endings : List Ending} {flow flow' : Flow} (h : flow.InTurn endings) {number : Nat}
    {ending : Ending} (hclose : flow.close? number ending = some flow') :
  flow.latch = true ∧ flow'.latch = false
    ∧ flow'.prompts.getLast? = some (.closed ending)
  := by
  obtain ⟨hget, rfl⟩ := close_eq_some.mp hclose
  obtain ⟨pending, rfl, rfl⟩ := h.last_of_not_closed hget rfl
  refine ⟨rfl, rfl, ?_⟩
  rw [set_last, List.getLast?_concat]

/-- Taking the pending prompt leaves all in turn. -/
theorem InTurn.take
    {endings : List Ending} {flow : Flow} (h : flow.InTurn endings) :
  flow.take.2.InTurn endings
  := by
  cases h with
  | idle pending => exact .idle none
  | busy pending hphase => exact .busy none hphase

/-! ### What was shown -/

/-- An accepted prompt was not shown yet. -/
theorem shown_trigger (canWait : Bool) (flow : Flow) :
  (flow.trigger canWait).2.shown = flow.shown
  := by
  cases haccepted : (flow.trigger canWait).1 with
  | false => rw [trigger_of_not_accepted haccepted]
  | true =>
    rw [trigger_of_accepted haccepted]
    simp [accept, shown]

theorem InTurn.shown_of_show
    {endings : List Ending} {flow flow' : Flow} (h : flow.InTurn endings) {number : Nat}
    (hshow : flow.show? number = some flow') :
  flow'.shown = flow.shown + 1
  := by
  obtain ⟨hget, rfl⟩ := show_eq_some.mp hshow
  obtain ⟨pending, rfl, rfl⟩ := h.last_of_not_closed hget rfl
  simp [shown]

theorem InTurn.shown_of_close
    {endings : List Ending} {flow flow' : Flow} (h : flow.InTurn endings) {number : Nat}
    {ending : Ending} (hclose : flow.close? number ending = some flow') :
  flow'.shown = flow.shown
  := by
  obtain ⟨hget, rfl⟩ := close_eq_some.mp hclose
  obtain ⟨pending, rfl, rfl⟩ := h.last_of_not_closed hget rfl
  simp [shown]

/-! ### What being in turn says -/

/-- The latch is set exactly while the last accepted prompt has not closed. -/
theorem InTurn.isOpen_iff
    {endings : List Ending} {flow : Flow} (h : flow.InTurn endings) :
  flow.isOpen = true
    ↔ ∃ phase, flow.prompts.getLast? = some phase ∧ phase.isClosed = false
  := by
  cases h with
  | idle pending =>
    constructor
    · intro hopen
      cases hopen
    · rintro ⟨phase, hlast, hphase⟩
      obtain ⟨ending, -, rfl⟩ := List.mem_map.mp (List.mem_of_getLast? hlast)
      cases hphase
  | busy pending hphase =>
    constructor
    · intro _
      exact ⟨_, List.getLast?_concat, hphase⟩
    · intro _
      rfl

/-- The latch is free exactly while all prompts have closed. -/
theorem InTurn.latch_eq_false_iff
    {endings : List Ending} {flow : Flow} (h : flow.InTurn endings) :
  flow.latch = false ↔ ∀ phase ∈ flow.prompts, phase.isClosed = true
  := by
  cases h with
  | idle pending => simp [Phase.isClosed]
  | busy pending hphase =>
    constructor
    · intro hlatch
      cases hlatch
    · intro hclosed
      rw [hclosed _ List.mem_concat_self] at hphase
      cases hphase

theorem InTurn.length_prompts
    {endings : List Ending} {flow : Flow} (h : flow.InTurn endings) :
  flow.prompts.length = endings.length + flow.latch.toNat
  := by
  cases h with
  | idle | busy => simp

/-- At most one prompt has not closed. -/
theorem InTurn.countP_not_closed_le
    {endings : List Ending} {flow : Flow} (h : flow.InTurn endings) :
  flow.prompts.countP (!·.isClosed) ≤ 1
  := by
  have hclosed : (endings.map Phase.closed).countP (!·.isClosed) = 0 := by
    simp [List.countP_eq_zero, Phase.isClosed]
  cases h with
  | idle pending => simp [hclosed]
  | busy pending hphase => simp [hclosed, hphase]

end ChatPortal.Reauth.Flow
