import ChatPortal.Client.Timeline

/-!
# Time orders what happens

A timeline only puts in order what happens to its run: whatever is done in time, the run
afterwards is the run before after some events (`Reaches`).  What holds after all events
in any order therefore holds at any point of time.
-/

namespace ChatPortal.Client

open Gateway Http Reauth

/-- A run comes from another by some events. -/
def Run.Reaches (run run' : Run) : Prop := ∃ events, run' = run.after events

namespace Run.Reaches

variable {run run' run'' : Run}

theorem refl (run : Run) :
  run.Reaches run
  := ⟨[], rfl⟩

theorem step (run : Run) (event : Event) :
  run.Reaches (run.step event)
  := ⟨[event], rfl⟩

theorem trans (h : run.Reaches run') (h' : run'.Reaches run'') :
  run.Reaches run''
  := by
  obtain ⟨events, rfl⟩ := h
  obtain ⟨events', rfl⟩ := h'
  exact ⟨events ++ events', by rw [after, after, after, List.foldl_append]⟩

end Run.Reaches

namespace Timeline

variable (timeline : Timeline)

theorem reaches_happen (event : Event) :
  timeline.run.Reaches (timeline.happen event).run
  := .step timeline.run event

theorem reaches_present :
  timeline.run.Reaches timeline.present.run
  := by
  rw [present]
  split
  · next number _ => exact .step timeline.run (.showPrompt number)
  · apply Run.Reaches.refl

/-- Closing the prompt on show is an event. -/
theorem reaches_closeBy (time : Nat) :
  timeline.run.Reaches (timeline.closeBy time).run
  := by
  rw [closeBy]
  split
  · next closing _ =>
    split
    · exact .step timeline.run (.closePrompt closing.number closing.ending)
    · apply Run.Reaches.refl
  · apply Run.Reaches.refl

theorem reaches_passTo (time : Nat) :
  timeline.run.Reaches (timeline.passTo time).run
  := by
  apply timeline.reaches_present.trans
  apply timeline.present.reaches_closeBy

theorem reaches_sleep (millis : Nat) :
  timeline.run.Reaches (timeline.sleep millis).run
  := by
  apply reaches_passTo

/-- Waiting for the prompt is made of events. -/
theorem reaches_waitIdle :
  timeline.run.Reaches timeline.waitIdle.2.run
  := by
  rw [waitIdle]
  split
  · apply (timeline.reaches_happen .takePending).trans
    apply (reaches_present _).trans
    simp only
    split
    · apply reaches_closeBy
    · apply Run.Reaches.refl
  · apply Run.Reaches.refl

/-! ### Calls -/

/-- Starting a call is made of events. -/
theorem reaches_start (plan : Plan) :
  timeline.run.Reaches (timeline.start plan).2.run
  := by
  have hsend : timeline.run.Reaches (timeline.run.send plan.call plan.wanted).2 :=
    .step timeline.run (.send plan.call plan.wanted)
  rw [start]
  split
  · next heq =>
    rw [heq] at hsend
    exact hsend
  · next number run heq =>
    rw [heq] at hsend
    simp only
    split
    · apply hsend.trans
      exact .step run (.arrive number)
    · exact hsend

theorem reaches_startAll (plans : List Plan) (timeline : Timeline) :
  timeline.run.Reaches (timeline.startAll plans).2.run
  := by
  induction plans generalizing timeline with
  | nil => apply Run.Reaches.refl
  | cons plan plans ih =>
    apply (timeline.reaches_start plan).trans
    apply ih

/-- Receiving some replies is made of events. -/
theorem reaches_receiveAll (replies : List (Nat × Nat)) (timeline : Timeline) :
  timeline.run.Reaches (timeline.receiveAll replies).run
  := by
  induction replies generalizing timeline with
  | nil => apply Run.Reaches.refl
  | cons reply replies ih =>
    apply (timeline.reaches_passTo reply.1).trans
    apply ((timeline.passTo reply.1).reaches_happen (.arrive reply.2)).trans
    apply ih

theorem reaches_callAll (plans : List Plan) :
  timeline.run.Reaches (timeline.callAll plans).2.2.run
  := by
  apply (reaches_startAll plans timeline).trans
  apply reaches_receiveAll

/-- A call is made of events. -/
theorem reaches_call (plan : Plan) :
  timeline.run.Reaches (timeline.call plan).2.run
  := by
  have hstart := timeline.reaches_start plan
  rw [Timeline.call]
  simp only
  split
  · exact hstart
  · split
    · exact hstart
    · apply hstart.trans
      apply reaches_receiveAll

end Timeline

end ChatPortal.Client
