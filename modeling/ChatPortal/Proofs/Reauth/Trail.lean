import ChatPortal.Proofs.Reauth.Turns

/-!
# Who waits for which prompt

A `Trail` tells what was seen of the prompts of a flow: which were accepted, how they closed, and
for which of them somebody waited with which result.  The pending prompt is the one that was
accepted last, unless somebody has waited since (`Trail.pending_cases`), so whoever waits gets the
decision of that one (`Trail.result_of_waited`) and no prompt is waited for twice
(`Trail.taken_lt`); one that nobody waits for has closed before a later one was accepted
(`Trail.taken_or_overtaken`).
-/

namespace ChatPortal.Reauth

/-- Something that is seen of the prompts: one is accepted, one closes, or somebody has waited for
the pending one, if there is one, and goes on with its decision. -/
inductive Moment where
  | accepted
  | closed (ending : Ending)
  | waited (prompt : Option Nat) (result : Option Decision)
deriving DecidableEq, Repr

namespace Moment

/-- A prompt is accepted. -/
def isAccepted : Moment → Bool
  | .accepted => true
  | _ => false

/-- Somebody has waited. -/
def isWaited : Moment → Bool
  | .waited _ _ => true
  | _ => false

end Moment

/-- The number of prompts that were accepted. -/
def acceptedIn (moments : List Moment) : Nat := moments.countP (·.isAccepted)

/-- How the prompts have ended, in the order in which they closed. -/
def endingsIn (moments : List Moment) : List Ending :=
  moments.filterMap fun
    | .closed ending => some ending
    | _ => none

/-- The prompts that somebody has waited for, in order. -/
def takenIn (moments : List Moment) : List Nat :=
  moments.filterMap fun
    | .waited prompt _ => prompt
    | _ => none

/-- What those who waited went on with, in order. -/
def resultsIn (moments : List Moment) : List (Option Decision) :=
  moments.filterMap fun
    | .waited _ result => some result
    | _ => none

/-- A prompt was accepted since somebody waited last. -/
def AcceptedSince (moments : List Moment) : Prop :=
  ∃ before after, moments = before ++ .accepted :: after ∧ ∀ m ∈ after, m.isWaited = false

/-- What was seen of the prompts of a flow.  Somebody who waits goes on when all prompts have
closed. -/
inductive Trail : List Moment → Flow → Prop
  | start : Trail [] {}
  | accept {moments : List Moment} {flow : Flow} (h : Trail moments flow)
      (hidle : flow.latch = false) :
      Trail (moments ++ [.accepted]) { flow with latch := true }.accept
  | present {moments : List Moment} {flow flow' : Flow} {number : Nat} (h : Trail moments flow)
      (hshow : flow.show? number = some flow') :
      Trail moments flow'
  | close {moments : List Moment} {flow flow' : Flow} {number : Nat} {ending : Ending}
      (h : Trail moments flow) (hclose : flow.close? number ending = some flow') :
      Trail (moments ++ [.closed ending]) flow'
  | wait {moments : List Moment} {flow : Flow} (h : Trail moments flow)
      (hidle : flow.latch = false) :
      Trail (moments ++ [.waited flow.pending (flow.pending.bind (flow.decision? ·))])
        flow.take.2

/-! ### Counting -/

theorem acceptedIn_append (moments more : List Moment) :
  acceptedIn (moments ++ more) = acceptedIn moments + acceptedIn more
  := List.countP_append

theorem acceptedIn_cons_accepted (moments : List Moment) :
  acceptedIn (.accepted :: moments) = acceptedIn moments + 1
  := List.countP_cons_of_pos rfl

theorem endingsIn_append (moments more : List Moment) :
  endingsIn (moments ++ more) = endingsIn moments ++ endingsIn more
  := List.filterMap_append

theorem endingsIn_cons_accepted (moments : List Moment) :
  endingsIn (.accepted :: moments) = endingsIn moments
  := rfl

/-- Where prompts have closed one closed first. -/
theorem exists_first_closed {moments : List Moment} (h : endingsIn moments ≠ []) :
  ∃ front ending back, moments = front ++ .closed ending :: back ∧ endingsIn front = []
  := by
  induction moments with
  | nil => exact absurd rfl h
  | cons m moments ih =>
    cases m with
    | closed ending => exact ⟨[], ending, moments, rfl, rfl⟩
    | accepted =>
      obtain ⟨front, ending, back, rfl, hfront⟩ := ih h
      exact ⟨.accepted :: front, ending, back, rfl, hfront⟩
    | waited prompt result =>
      obtain ⟨front, ending, back, rfl, hfront⟩ := ih h
      exact ⟨.waited prompt result :: front, ending, back, rfl, hfront⟩

/-! ### What was seen last -/

section Last

variable {moments before after : List Moment} {last found : Moment}

/-- A split of what was seen is before the last moment or at it. -/
theorem split_concat (h : moments ++ [last] = before ++ found :: after) :
  (after = [] ∧ found = last ∧ before = moments)
    ∨ ∃ rest, after = rest ++ [last] ∧ moments = before ++ found :: rest
  := by
  rcases List.eq_nil_or_concat after with rfl | ⟨rest, m, rfl⟩
  · obtain ⟨rfl, hlast⟩ := List.append_inj' h rfl
    exact .inl ⟨rfl, (List.cons.inj hlast).1.symm, rfl⟩
  · rw [List.concat_eq_append, ← List.cons_append, ← List.append_assoc] at h
    obtain ⟨rfl, hlast⟩ := List.append_inj' h rfl
    refine .inr ⟨rest, ?_, rfl⟩
    rw [List.concat_eq_append, (List.cons.inj hlast).1]

theorem acceptedSince_accepted (moments : List Moment) :
  AcceptedSince (moments ++ [.accepted])
  := ⟨moments, [], rfl, fun _ h => absurd h List.not_mem_nil⟩

/-- A prompt that closes changes nothing about which was accepted. -/
theorem acceptedSince_closed (moments : List Moment) (ending : Ending) :
  AcceptedSince (moments ++ [.closed ending]) ↔ AcceptedSince moments
  := by
  constructor
  · rintro ⟨before, after, hsplit, hafter⟩
    rcases split_concat hsplit with ⟨-, hlast, -⟩ | ⟨rest, rfl, rfl⟩
    · cases hlast
    · exact ⟨before, rest, rfl, fun m hm => hafter m (List.mem_append_left _ hm)⟩
  · rintro ⟨before, after, rfl, hafter⟩
    refine ⟨before, after ++ [.closed ending], by simp, ?_⟩
    intro m hm
    rcases List.mem_append.mp hm with hm | hm
    · exact hafter m hm
    · obtain rfl := List.mem_singleton.mp hm
      rfl

theorem not_acceptedSince_waited (moments : List Moment) (prompt : Option Nat)
    (result : Option Decision) :
  ¬ AcceptedSince (moments ++ [.waited prompt result])
  := by
  rintro ⟨before, after, hsplit, hafter⟩
  rcases split_concat hsplit with ⟨-, hlast, -⟩ | ⟨rest, rfl, -⟩
  · cases hlast
  · cases hafter _ List.mem_concat_self

end Last

/-! ### What a trail keeps -/

/-- The decision of a prompt is the one that follows from its ending; the last prompt has
brought none as long as it is open. -/
theorem Flow.InTurn.decision?_eq {endings : List Ending} {flow : Flow} (h : flow.InTurn endings)
    (number : Nat) :
  flow.decision? number = endings[number]?.bind Ending.decision?
  := by
  have hclosed : ((endings.map Phase.closed)[number]?).bind Phase.decision?
      = endings[number]?.bind Ending.decision? := by
    rw [List.getElem?_map]
    cases endings[number]? with
    | none => rfl
    | some _ => rfl
  cases h with
  | idle pending => exact hclosed
  | @busy phase pending hphase =>
    rw [← hclosed, Flow.decision?]
    rcases Nat.lt_or_ge number endings.length with hlt | hge
    · rw [List.getElem?_append_left (by simpa using hlt)]
    · rw [List.getElem?_append_right (by simpa using hge),
        List.getElem?_eq_none (l := endings.map Phase.closed) (by simpa using hge)]
      cases hindex : number - (endings.map Phase.closed).length with
      | zero =>
        cases phase with
        | closed ending => cases hphase
        | queued | showing => rfl
      | succ => rfl

namespace Trail

variable {moments before after : List Moment} {flow : Flow}

/-- A trigger adds a prompt to what was seen if it is accepted. -/
theorem trigger (h : Trail moments flow) (canWait : Bool) :
  Trail (moments ++ if (flow.trigger canWait).1 then [.accepted] else [])
    (flow.trigger canWait).2
  := by
  cases haccepted : (flow.trigger canWait).1 with
  | false =>
    rw [Flow.trigger_of_not_accepted haccepted]
    simpa using h
  | true =>
    rw [Flow.trigger_of_accepted haccepted]
    rw [Flow.trigger_accepted, Bool.and_eq_true, Bool.not_eq_true'] at haccepted
    exact h.accept haccepted.2

/-- The prompts take turns, and close as was seen. -/
theorem inTurn (h : Trail moments flow) :
  flow.InTurn (endingsIn moments)
  := by
  induction h with
  | start => exact Flow.inTurn_empty
  | @accept moments flow _ hidle ih =>
    have haccepted : (flow.trigger true).1 = true := by simp [Flow.trigger_accepted, hidle]
    have hturn := ih.trigger true
    rw [Flow.trigger_of_accepted haccepted] at hturn
    simpa [endingsIn] using hturn
  | present _ hshow ih => exact ih.of_show hshow
  | close _ hclose ih => simpa [endingsIn] using ih.of_close hclose
  | wait _ _ ih => simpa [endingsIn] using ih.take

/-- The prompts are those that were accepted. -/
theorem length_prompts (h : Trail moments flow) :
  flow.prompts.length = acceptedIn moments
  := by
  induction h with
  | start => rfl
  | accept _ _ ih => simp [Flow.accept, acceptedIn, ih, Moment.isAccepted]
  | present _ hshow ih => rw [Flow.length_show hshow, ih]
  | close _ hclose ih => simp [Flow.length_close hclose, ih, acceptedIn, Moment.isAccepted]
  | wait _ _ ih => simpa [Flow.take, acceptedIn, Moment.isAccepted] using ih

/-- The prompts that have closed are those that were seen to close, in this order. -/
theorem closed_iff (h : Trail moments flow) {number : Nat} {ending : Ending} :
  flow.prompts[number]? = some (.closed ending) ↔ (endingsIn moments)[number]? = some ending
  := by
  have hclosed : ((endingsIn moments).map Phase.closed)[number]? = some (.closed ending)
      ↔ (endingsIn moments)[number]? = some ending := by
    simp
  cases h.inTurn with
  | idle pending => exact hclosed
  | @busy phase pending hphase =>
    rw [← hclosed, List.getElem?_append]
    split
    · rfl
    · next hge =>
      rw [List.getElem?_eq_none (Nat.le_of_not_lt hge)]
      refine iff_of_false ?_ nofun
      intro hget
      obtain rfl := List.mem_singleton.mp (List.mem_of_getElem? hget)
      cases hphase

theorem length_endings (h : Trail moments flow) (hidle : flow.latch = false) :
  (endingsIn moments).length = acceptedIn moments
  := by
  rw [← h.length_prompts, h.inTurn.length_prompts, hidle]
  rfl

/-- The pending prompt is the one that was accepted last, unless somebody has waited since; then
all have closed. -/
theorem pending_cases (h : Trail moments flow) :
  (∃ number, flow.pending = some number ∧ number + 1 = acceptedIn moments
      ∧ AcceptedSince moments)
    ∨ (flow.pending = none ∧ ¬ AcceptedSince moments ∧ flow.latch = false)
  := by
  induction h with
  | start =>
    refine .inr ⟨rfl, ?_, rfl⟩
    rintro ⟨before, after, hsplit, -⟩
    cases before with
    | nil => cases hsplit
    | cons _ _ => cases hsplit
  | @accept moments flow h _ _ =>
    refine .inl ⟨flow.prompts.length, rfl, ?_, acceptedSince_accepted moments⟩
    simp [h.length_prompts, acceptedIn, Moment.isAccepted]
  | present _ hshow ih =>
    obtain ⟨-, rfl⟩ := Flow.show_eq_some.mp hshow
    exact ih
  | @close moments _ _ _ ending h hclose ih =>
    obtain ⟨-, rfl⟩ := Flow.close_eq_some.mp hclose
    have hcount : acceptedIn (moments ++ [.closed ending]) = acceptedIn moments := by
      simp [acceptedIn, Moment.isAccepted]
    rw [acceptedSince_closed, hcount]
    rcases ih with hpending | ⟨hnone, hsince, -⟩
    · exact .inl hpending
    · exact .inr ⟨hnone, hsince, rfl⟩
  | wait _ hidle _ => exact .inr ⟨rfl, not_acceptedSince_waited _ _ _, hidle⟩

/-- A prompt that has not closed is the pending one. -/
theorem pending_of_not_closed (h : Trail moments flow) {number : Nat} {phase : Phase}
    (hget : flow.prompts[number]? = some phase) (hphase : phase.isClosed = false) :
  flow.pending = some number
  := by
  obtain ⟨pending, hnumber, hflow⟩ := h.inTurn.last_of_not_closed hget hphase
  have hlength := h.inTurn.length_prompts
  rcases h.pending_cases with ⟨last, hlast, hcount, -⟩ | ⟨-, -, hidle⟩
  · rw [hlast]
    rw [h.length_prompts, ← hcount] at hlength
    rw [hflow] at hlength
    have : last + 1 = (endingsIn moments).length + 1 := hlength
    exact congrArg some (by omega)
  · rw [hflow] at hidle
    cases hidle

/-- The number behind the prompts that can have been waited for: that of the pending prompt, or of
the next one to be accepted. -/
def bound (flow : Flow) : Nat := flow.pending.getD flow.prompts.length

/-- Nobody can have waited for the next prompt. -/
theorem bound_le (h : Trail moments flow) :
  bound flow ≤ flow.prompts.length
  := by
  rw [bound]
  rcases h.pending_cases with ⟨number, hpending, hcount, -⟩ | ⟨hnone, -, -⟩
  · rw [hpending, Option.getD_some, h.length_prompts]
    omega
  · exact Nat.le_of_eq (by rw [hnone, Option.getD_none])

/-- No prompt is waited for twice, and none after a later one. -/
theorem pairwise_taken (h : Trail moments flow) :
  (takenIn moments).Pairwise (· < ·) ∧ ∀ number ∈ takenIn moments, number < bound flow
  := by
  induction h with
  | start => exact ⟨.nil, fun _ hmem => absurd hmem List.not_mem_nil⟩
  | @accept moments flow h _ ih =>
    have htaken : takenIn (moments ++ [.accepted]) = takenIn moments := by simp [takenIn]
    rw [htaken]
    exact ⟨ih.1, fun number hmem => Nat.lt_of_lt_of_le (ih.2 number hmem) h.bound_le⟩
  | present _ hshow ih =>
    obtain ⟨-, rfl⟩ := Flow.show_eq_some.mp hshow
    simpa [bound] using ih
  | close _ hclose ih =>
    obtain ⟨-, rfl⟩ := Flow.close_eq_some.mp hclose
    simpa [bound, takenIn] using ih
  | @wait moments flow h _ ih =>
    rcases h.pending_cases with ⟨number, hpending, hcount, -⟩ | ⟨hnone, -, -⟩
    · have htaken (result : Option Decision) :
          takenIn (moments ++ [.waited (some number) result]) = takenIn moments ++ [number] := by
        simp [takenIn]
      have hnext : bound flow.take.2 = number + 1 := by
        rw [hcount, ← h.length_prompts]
        rfl
      rw [bound, hpending, Option.getD_some] at ih
      rw [hpending, htaken, hnext]
      constructor
      · refine List.pairwise_append.mpr ⟨ih.1, List.pairwise_singleton .., ?_⟩
        intro earlier hearlier last hlast
        rw [List.mem_singleton.mp hlast]
        exact ih.2 earlier hearlier
      · intro earlier hmem
        rcases List.mem_append.mp hmem with hmem | hmem
        · exact Nat.lt_succ_of_lt (ih.2 earlier hmem)
        · rw [List.mem_singleton.mp hmem]
          exact Nat.lt_succ_self number
    · have htaken (result : Option Decision) :
          takenIn (moments ++ [.waited none result]) = takenIn moments := by
        simp [takenIn]
      rw [bound, hnone] at ih
      rw [hnone, htaken]
      exact ih

/-- The decisions that those went on with who waited are some of those that the prompts have
brought, in the order in which these closed. -/
theorem results_sublist (h : Trail moments flow) :
  ((resultsIn moments).filterMap id).Sublist
    (((endingsIn moments).take (bound flow)).filterMap Ending.decision?)
  := by
  induction h with
  | start => exact .slnil
  | @accept moments flow h _ ih =>
    have hresults : resultsIn (moments ++ [.accepted]) = resultsIn moments := by
      simp [resultsIn]
    have hendings : endingsIn (moments ++ [.accepted]) = endingsIn moments := by
      simp [endingsIn]
    rw [hresults, hendings]
    exact ih.trans ((List.take_sublist_take_left h.bound_le).filterMap _)
  | present _ hshow ih =>
    obtain ⟨-, rfl⟩ := Flow.show_eq_some.mp hshow
    simpa [bound] using ih
  | @close moments flow _ _ ending _ hclose ih =>
    obtain ⟨-, rfl⟩ := Flow.close_eq_some.mp hclose
    have hresults : resultsIn (moments ++ [.closed ending]) = resultsIn moments := by
      simp [resultsIn]
    have hendings : endingsIn (moments ++ [.closed ending]) = endingsIn moments ++ [ending] := by
      simp [endingsIn]
    rw [hresults, hendings, List.take_append, List.filterMap_append]
    refine List.Sublist.trans ?_ (List.sublist_append_left _ _)
    simpa [bound] using ih
  | @wait moments flow h hidle ih =>
    have hendings (prompt : Option Nat) (result : Option Decision) :
        endingsIn (moments ++ [.waited prompt result]) = endingsIn moments := by
      simp [endingsIn]
    have hresults (prompt : Option Nat) (result : Option Decision) :
        (resultsIn (moments ++ [.waited prompt result])).filterMap id
          = (resultsIn moments).filterMap id ++ result.toList := by
      cases result with
      | none => simp [resultsIn]
      | some _ => simp [resultsIn]
    rw [hendings, hresults]
    rcases h.pending_cases with ⟨number, hpending, hcount, -⟩ | ⟨hnone, -, -⟩
    · have hnext : bound flow.take.2 = number + 1 := by
        rw [hcount, ← h.length_prompts]
        rfl
      rw [bound, hpending, Option.getD_some] at ih
      rw [hpending, hnext, List.take_add_one, List.filterMap_append, Option.bind_some,
        h.inTurn.decision?_eq]
      refine ih.append ?_
      cases (endingsIn moments)[number]? with
      | none => exact .slnil
      | some ending =>
        cases hdecision : ending.decision? with
        | none => simp [hdecision]
        | some _ => simp [hdecision]
    · rw [bound, hnone, Option.getD_none] at ih
      rw [hnone, Option.bind_none, Option.toList_none, List.append_nil]
      exact ih

/-! ### What was seen before -/

/-- What is needed for something to be seen of the prompts of a flow. -/
def Allows (flow : Flow) : Moment → Prop
  | .accepted => flow.latch = false
  | .closed _ => flow.latch = true
  | .waited prompt result =>
    flow.latch = false ∧ prompt = flow.pending ∧ result = prompt.bind (flow.decision? ·)

/-- Whatever was seen was allowed by what was seen before. -/
theorem allows (h : Trail moments flow) {m : Moment} (hsplit : moments = before ++ m :: after) :
  ∃ flow', Trail before flow' ∧ Allows flow' m
  := by
  induction h generalizing after with
  | start =>
    cases before with
    | nil => cases hsplit
    | cons _ _ => cases hsplit
  | @accept _ flow h hidle ih =>
    rcases split_concat hsplit with ⟨-, rfl, rfl⟩ | ⟨rest, -, hfront⟩
    · exact ⟨flow, h, hidle⟩
    · exact ih hfront
  | present _ _ ih => exact ih hsplit
  | @close _ flow _ _ _ h hclose ih =>
    rcases split_concat hsplit with ⟨-, rfl, rfl⟩ | ⟨rest, -, hfront⟩
    · exact ⟨flow, h, (h.inTurn.latch_of_close hclose).1⟩
    · exact ih hfront
  | @wait _ flow h hidle ih =>
    rcases split_concat hsplit with ⟨-, rfl, rfl⟩ | ⟨rest, -, hfront⟩
    · exact ⟨flow, h, hidle, rfl, rfl⟩
    · exact ih hfront

theorem length_endings_of_accepted (h : Trail moments flow)
    (hsplit : moments = before ++ .accepted :: after) :
  (endingsIn before).length = acceptedIn before
  := by
  obtain ⟨flow', hbefore, hidle⟩ := h.allows hsplit
  exact hbefore.length_endings hidle

/-- Whoever waits goes on with the decision of the prompt that was accepted last, if it was
accepted since somebody waited, and otherwise with none. -/
theorem waited_cases (h : Trail moments flow) {prompt : Option Nat} {result : Option Decision}
    (hsplit : moments = before ++ .waited prompt result :: after) :
  (∃ number ending, prompt = some number ∧ number + 1 = acceptedIn before
      ∧ AcceptedSince before ∧ (endingsIn before)[number]? = some ending
      ∧ result = ending.decision?)
    ∨ (prompt = none ∧ ¬ AcceptedSince before ∧ result = none)
  := by
  obtain ⟨flow', hbefore, hidle, rfl, rfl⟩ := h.allows hsplit
  rcases hbefore.pending_cases with ⟨number, hpending, hcount, hsince⟩ | ⟨hnone, hsince, -⟩
  · have hlength := hbefore.length_endings hidle
    have hget : number < (endingsIn before).length := by omega
    refine .inl ⟨number, (endingsIn before)[number], hpending, hcount, hsince,
      List.getElem?_eq_getElem hget, ?_⟩
    rw [hpending, Option.bind_some, hbefore.inTurn.decision?_eq, List.getElem?_eq_getElem hget,
      Option.bind_some]
  · exact .inr ⟨hnone, hsince, by rw [hnone, Option.bind_none]⟩

/-- Whoever waits goes on without a decision if no prompt was accepted since somebody waited, or
the one that was accepted last broke down. -/
theorem result_eq_none_iff (h : Trail moments flow) {prompt : Option Nat}
    {result : Option Decision} (hsplit : moments = before ++ .waited prompt result :: after) :
  result = none
    ↔ ¬ AcceptedSince before
      ∨ ∃ number, number + 1 = acceptedIn before
        ∧ (endingsIn before)[number]? = some .panicked
  := by
  rcases h.waited_cases hsplit with
    ⟨number, ending, -, hcount, hsince, hending, rfl⟩ | ⟨-, hsince, rfl⟩
  · constructor
    · intro hnone
      have hpanicked : ending = .panicked := by
        cases ending with
        | panicked => rfl
        | decided | failed => cases hnone
      exact .inr ⟨number, hcount, by rw [hending, hpanicked]⟩
    · rintro (hnot | ⟨last, hlast, hpanicked⟩)
      · exact absurd hsince hnot
      · obtain rfl : last = number := by omega
        rw [hending] at hpanicked
        rw [Option.some.inj hpanicked]
        rfl
  · exact iff_of_true rfl (.inl hsince)

/-- A prompt is waited for by whoever waits first after it was accepted, unless it has closed and
a later one was accepted before. -/
theorem taken_or_overtaken (h : Trail moments flow) {middle : List Moment} {prompt : Option Nat}
    {result : Option Decision}
    (hsplit : moments = before ++ .accepted :: (middle ++ .waited prompt result :: after))
    (hmiddle : ∀ m ∈ middle, m.isWaited = false) :
  prompt = some (acceptedIn before)
    ∨ ∃ front ending back later,
      middle = front ++ .closed ending :: (back ++ .accepted :: later)
        ∧ (endingsIn (before ++ .accepted :: front)).length = acceptedIn before
  := by
  have hwaited : moments = (before ++ .accepted :: middle) ++ .waited prompt result :: after := by
    simpa using hsplit
  have hsince : AcceptedSince (before ++ .accepted :: middle) := ⟨before, middle, rfl, hmiddle⟩
  rcases h.waited_cases hwaited with ⟨number, -, rfl, hcount, -⟩ | ⟨-, hnot, -⟩
  · have hbefore := h.length_endings_of_accepted hsplit
    by_cases hlater : .accepted ∈ middle
    · obtain ⟨closed, later, rfl⟩ := List.append_of_mem hlater
      have hoverlap : moments = (before ++ .accepted :: closed) ++ .accepted ::
          (later ++ .waited (some number) result :: after) := by simpa using hsplit
      have hclosed := h.length_endings_of_accepted hoverlap
      rw [endingsIn_append, acceptedIn_append, List.length_append, acceptedIn_cons_accepted,
        endingsIn_cons_accepted] at hclosed
      have hsome : endingsIn closed ≠ [] := by
        intro hnil
        rw [hnil, List.length_nil] at hclosed
        omega
      obtain ⟨front, ending, back, rfl, hfront⟩ := exists_first_closed hsome
      refine .inr ⟨front, ending, back, later, by simp, ?_⟩
      rw [endingsIn_append, endingsIn_cons_accepted, hfront, List.append_nil, hbefore]
    · have hnone : acceptedIn middle = 0 := by
        rw [acceptedIn, List.countP_eq_zero]
        intro m hm haccepted
        cases m with
        | accepted => exact hlater hm
        | closed | waited => cases haccepted
      rw [acceptedIn_append, acceptedIn_cons_accepted, hnone] at hcount
      exact .inl (congrArg some (by omega))
  · exact absurd hsince hnot

end Trail

end ChatPortal.Reauth
