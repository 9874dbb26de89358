import ChatPortal.App.Script
import ChatPortal.Proofs.App.Settling
import ChatPortal.Proofs.App.Stages

/-!
# On course, and how far from the next question

`OnCourse bound app` says that the client is where the next stage of the program needs it
(`Stage.Suits`), and that the program enters `bound` views at most before it waits for a line
(`Stage.distance`).  Every way to go on after a failure, every view and every answer leave
the program on course, and a view brings it nearer (`enter_onCourse`).
-/

namespace ChatPortal.App

open Client Portal Reauth Terminal RouteTable

/-! ### Stages -/

/-- The number of views at most before the program waits for a line.  A password is as far
away as any view. -/
def Stage.distance : Stage → Nat
  | .entering target =>
    if target.name = signName then 1
    else
      match target.value? schemaKey with
      | some schema => if target = chatTarget schema then 2 else 3
      | none => 2
  | .askingPassword _ _ => 4
  | _ => 0

/-- A way to go on leads to a question at once, or to the view to sign in. -/
def Fallback.IsShort (credential : String) : Fallback → Prop
  | .reenter target => target.IsStandard ∧ credential = ""
  | _ => True

/-- A client is where the next stage needs it: the prompt that a line answers is on show, and
in any other stage no prompt is open.  A restart leads to the view to sign in. -/
def Stage.Suits (client : Client) : Stage → Prop
  | .entering target =>
    Idle .calm client ∨ Idle .restarted client ∧ target = signInFirst
  | .asking (.consent number fallback) =>
    Showing number none client ∧ fallback.IsShort client.credential
  | _ => Idle .calm client

/-- The client is where the next stage needs it, and a question is not far. -/
structure OnCourse (bound : Nat) (app : App) : Prop where
  suits : app.stage.Suits app.client
  distance : app.stage.distance ≤ bound

variable {app : App} {bound : Nat} {target : Target} {fallback : Fallback}

theorem distance_of_sign (h : target.name = signName) :
  (Stage.entering target).distance = 1
  := if_pos h

/-- The program enters one view at least, and three at most. -/
theorem distance_entering (target : Target) :
  1 ≤ (Stage.entering target).distance ∧ (Stage.entering target).distance ≤ 3
  := by
  rw [Stage.distance]
  split
  · omega
  · split
    · split
      · omega
      · omega
    · omega

theorem distance_chatTarget (schema : String) :
  (Stage.entering (chatTarget schema)).distance = 2
  := by
  have hname : (chatTarget schema).name ≠ signName := portalName_ne_signName
  have hvalue : (chatTarget schema).value? schemaKey = some schema := rfl
  rw [Stage.distance, if_neg hname, hvalue]
  exact if_pos rfl

/-- The program is on its way to a view, asks for a password, or is no view away from a
question. -/
theorem Stage.distance_cases (stage : Stage) :
  (∃ target, stage = .entering target)
    ∨ (∃ target username, stage = .askingPassword target username)
    ∨ stage.distance = 0
  := by
  cases stage with
  | entering target => exact .inl ⟨target, rfl⟩
  | askingPassword target username => exact .inr (.inl ⟨target, username, rfl⟩)
  | asking question => exact .inr (.inr rfl)
  | ended result => exact .inr (.inr rfl)

/-- A program that is no view away from a question enters none. -/
theorem step_of_distance_zero (h : app.stage.distance = 0) :
  app.step = app
  := by
  rw [App.step]
  split
  · next target hstage =>
    rw [hstage] at h
    have hnear := (distance_entering target).1
    omega
  · rfl

theorem OnCourse.mono {bound' : Nat} (h : OnCourse bound app) (hle : bound ≤ bound') :
  OnCourse bound' app
  := ⟨h.suits, Nat.le_trans h.distance hle⟩

/-! ### Ways to go on -/

section Calm

variable (h : Idle .calm app.client)
include h

theorem print_idle (stream : Stream) (text : String) :
  Idle .calm (app.print stream text).client
  := h.tell rfl

theorem goTo_onCourse (target : Target) : OnCourse 3 (app.goTo target)
  := ⟨.inl h, (distance_entering _).2⟩

theorem goTo_onCourse_of_empty (htarget : target.IsStandard)
    (hcredential : app.client.credential = "") :
  OnCourse 1 (app.goTo target)
  := by
  obtain ⟨-, hdue⟩ := navigate_isDue htarget app.client.isSignedIn
  have hname := hdue.mpr ((isSignedIn_eq_false app.client).mpr hcredential)
  exact ⟨.inl h, Nat.le_of_eq (distance_of_sign hname)⟩

/-- The program may go to the chat about a schema. -/
theorem goTo_chatTarget_onCourse (schema : String) : OnCourse 2 (app.goTo (chatTarget schema))
  := by
  have hportal : (chatTarget schema).IsStandard := .portal rfl rfl
  cases hsigned : app.client.isSignedIn with
  | false =>
    have hcredential := (isSignedIn_eq_false app.client).mp hsigned
    exact (goTo_onCourse_of_empty h hportal hcredential).mono (by omega)
  | true =>
    have hdue : IsDue true (chatTarget schema) :=
      iff_of_false portalName_ne_signName (by simp)
    refine ⟨.inl h, ?_⟩
    rw [goTo, hsigned, navigate, follow_of_isDue hportal hdue]
    exact Nat.le_of_eq (distance_chatTarget schema)

theorem ask_onCourse {question : Question} (hask : question.ask ≠ .consent) :
  OnCourse 0 (app.ask question)
  := by
  refine ⟨?_, Nat.le_refl 0⟩
  cases question with
  | consent number fallback => exact absurd rfl hask
  | _ => exact h.tell rfl

theorem ended_onCourse (result : Except Trouble Unit) :
  OnCourse 0 { app with stage := .ended result }
  := ⟨h, Nat.le_refl 0⟩

/-- The program may go on after a failure. -/
theorem fallBack_onCourse (hshort : fallback.IsShort app.client.credential) :
  OnCourse 1 (app.fallBack fallback)
  := by
  cases fallback with
  | reenter target => apply goTo_onCourse_of_empty h hshort.1 hshort.2
  | chat target =>
    have hasked : OnCourse 0 (app.ask (.message target)) := ask_onCourse h nofun
    exact hasked.mono (Nat.zero_le 1)
  | retry target =>
    have hasked : OnCourse 0 (app.ask (.retry target)) := ask_onCourse h nofun
    exact hasked.mono (Nat.zero_le 1)

end Calm

theorem resolve_of_eq_zero (h : app.client.readInbox.1 = 0) (fallback : Fallback) :
  app.resolve fallback = { app with client := app.client.readInbox.2 }.fallBack fallback
  := if_pos h

theorem resolve_of_ne_zero (h : app.client.readInbox.1 ≠ 0) (fallback : Fallback) :
  app.resolve fallback = { app with client := app.client.readInbox.2 }.restart
  := if_neg h

theorem resolve_of_calm (h : Idle .calm app.client)
    (hshort : fallback.IsShort app.client.credential) :
  OnCourse 1 (app.resolve fallback)
  := by
  obtain ⟨hrequests, hread⟩ := h.readInbox
  rw [resolve_of_eq_zero hrequests]
  exact fallBack_onCourse hread hshort

/-- A restart was requested, so the program starts over, with the view to sign in. -/
theorem resolve_of_confirmed (h : Idle .confirmed app.client)
    (hcredential : app.client.credential = "") (fallback : Fallback) :
  OnCourse 1 (app.resolve fallback)
  := by
  obtain ⟨hrequests, hrestarted⟩ := h.restart
  have hsome : app.client.readInbox.1 ≠ 0 := by omega
  have hsigned : (app.client.readInbox.2.note .restarted).isSignedIn = false :=
    (isSignedIn_eq_false _).mpr hcredential
  have hfirst : standard.navigate false home = signInFirst := by decide
  rw [resolve_of_ne_zero hsome, restart, goTo, note, hsigned, hfirst]
  exact ⟨.inr ⟨hrestarted, rfl⟩, Nat.le_of_eq (distance_of_sign rfl)⟩

theorem close_onCourse {number : Nat} {answer : Option Line} {ending : Ending}
    (h : Showing number answer app.client) (hending : ∀ line ∈ answer, line.ending = ending)
    (hshort : fallback.IsShort app.client.credential) :
  OnCourse 1 ((app.close number ending).resolve fallback)
  := by
  rcases h.close hending with ⟨-, hidle, hcredential⟩ | ⟨-, hidle, hcredential⟩
  · exact resolve_of_confirmed hidle hcredential fallback
  · rw [← hcredential] at hshort
    exact resolve_of_calm hidle hshort

/-- The program goes on after a failed call, or waits for the answer to its prompt. -/
theorem settle_onCourse (h : Failed app.client)
    (hshort : fallback.IsShort app.client.credential) :
  OnCourse 1 (app.settle fallback)
  := by
  rcases h with hidle | ⟨number, hasked⟩
  · obtain ⟨hpending, htaken⟩ := hidle.takePending
    simp only [settle, hpending, Option.filter_none]
    exact resolve_of_calm htaken hshort
  · obtain ⟨hpending, hshowing⟩ := hasked.present
    have hcredential : (app.client.takePending.2.showPrompt number).credential
        = app.client.credential := credential_showPrompt _ number
    rw [← hcredential] at hshort
    simp only [settle, hpending]
    split
    · exact ⟨⟨hshowing, hshort⟩, Nat.zero_le 1⟩
    · exact close_onCourse hshowing (by simp) hshort

/-! ### The views -/

section Calm

variable (h : Idle .calm app.client)
include h

/-- The user may pick a schema. -/
theorem listSchemas_onCourse (target : Target) :
  OnCourse 1 (app.listSchemas target)
  := by
  rw [listSchemas]
  split
  · next heq => exact settle_onCourse (h.call_of_error heq) True.intro
  · next heq =>
    have hidle := h.call_of_ok heq
    exact (ended_onCourse (print_idle hidle _ _) _).mono (Nat.zero_le 1)
  · next heq =>
    have hidle := h.call_of_ok heq
    exact (ask_onCourse (print_idle hidle _ _) (by nofun)).mono (Nat.zero_le 1)

/-- The chat about a schema may begin. -/
theorem beginChat_onCourse (target : Target) (schema : String) :
  OnCourse 1 (app.beginChat target schema)
  := by
  rw [App.beginChat]
  split
  · next heq => exact settle_onCourse (h.call_of_error heq) True.intro
  · next detail client heq =>
    have hprinted : Idle .calm (client.note (.printed .out (introduction detail))) :=
      (h.call_of_ok heq).tell rfl
    simp only
    split
    · next heq => exact settle_onCourse (hprinted.call_of_error heq) True.intro
    · next heq =>
      have hidle := hprinted.call_of_ok heq
      exact (ask_onCourse (print_idle hidle _ _) (by nofun)).mono (Nat.zero_le 1)

theorem openSchema_onCourse (target : Target) (schema : String) :
  OnCourse 2 (app.openSchema target schema)
  := by
  rw [openSchema]
  split
  · exact (beginChat_onCourse h target schema).mono (by omega)
  · exact goTo_chatTarget_onCourse h schema

/-- The view of the portal brings the program nearer to a question. -/
theorem enterPortal_onCourse (hname : target.name ≠ signName) :
  OnCourse ((Stage.entering target).distance - 1) (app.enterPortal target)
  := by
  cases hvalue : target.value? schemaKey with
  | none =>
    simp only [enterPortal, Stage.distance, if_neg hname, hvalue]
    exact listSchemas_onCourse h target
  | some schema =>
    simp only [enterPortal, Stage.distance, if_neg hname, hvalue, openSchema]
    split
    · exact beginChat_onCourse h target schema
    · exact goTo_chatTarget_onCourse h schema

/-- The user may say something in the chat. -/
theorem say_onCourse (target : Target) (content : String) :
  OnCourse 1 (app.say target content)
  := by
  rw [App.say]
  split
  · next heq => exact settle_onCourse (h.call_of_error heq) True.intro
  · next heq =>
    have hidle := h.call_of_ok heq
    simp only
    split
    · exact (ask_onCourse hidle (by nofun)).mono (Nat.zero_le 1)
    · exact (ask_onCourse (print_idle hidle _ _) (by nofun)).mono (Nat.zero_le 1)

/-- The chat obeys its commands. -/
theorem hear_onCourse (target : Target) (words : String) :
  OnCourse 3 (app.hear target words)
  := by
  rw [hear]
  split
  · exact (ask_onCourse h (by nofun)).mono (Nat.zero_le 3)
  · split
    · exact (ended_onCourse h _).mono (Nat.zero_le 3)
    · split
      · exact goTo_onCourse h home
      · split
        · next locale _ =>
          have hset : Idle .calm (app.client.setLocale locale) := { h with }
          exact (ask_onCourse hset (by nofun)).mono (Nat.zero_le 3)
        · exact (say_onCourse h target words).mono (by omega)

/-- Any line may answer a question but the one of the prompt. -/
theorem answer_of_calm {question : Question} (hask : question.ask ≠ .consent) (line : Line) :
  OnCourse 4 (app.answer question line)
  := by
  have hended (result : Except Trouble Unit) : OnCourse 4 { app with stage := .ended result } :=
    (ended_onCourse h result).mono (Nat.zero_le 4)
  have hgone (target : Target) : OnCourse 4 (app.goTo target) :=
    (goTo_onCourse h target).mono (by omega)
  cases question with
  | consent number fallback => exact absurd rfl hask
  | username target =>
    cases line with
    | garbled => apply hended
    | ended => apply hended
    | text words =>
      rw [App.answer]
      split
      · exact hgone target
      · exact ⟨h.tell rfl, Nat.le_refl 4⟩
  | choice target options =>
    cases line with
    | garbled => apply hended
    | ended => apply hended
    | text words =>
      rw [App.answer]
      split
      · apply hended
      · split
        · exact (openSchema_onCourse h target _).mono (by omega)
        · exact (ask_onCourse (print_idle h _ _) (by nofun)).mono (Nat.zero_le 4)
  | message target =>
    cases line with
    | garbled => apply hended
    | ended => apply hended
    | text words => exact (hear_onCourse h target words).mono (by omega)
  | retry target =>
    cases line with
    | garbled => apply hended
    | ended => apply hended
    | text words =>
      rw [App.answer]
      split
      · apply hended
      · exact hgone target

end Calm

theorem viewed_idle (h : (Stage.entering target).Suits app.client) :
  Idle .calm (app.client.note (.viewed target))
  := by
  rcases h with hcalm | ⟨hrestarted, rfl⟩
  · exact hcalm.tell rfl
  · exact { hrestarted with passes := hrestarted.passes.concat .signsIn }

/-- The view that comes next brings the program nearer to a question. -/
theorem enter_onCourse (h : (Stage.entering target).Suits app.client) :
  OnCourse ((Stage.entering target).distance - 1) (app.enter target)
  := by
  have hviewed : Idle .calm (app.client.note (.viewed target)) := viewed_idle h
  simp only [enter]
  split
  · next hsign =>
    rw [distance_of_sign hsign]
    exact ask_onCourse (print_idle hviewed _ _) (by nofun)
  · next hportal => exact enterPortal_onCourse hviewed hportal

/-- Any line may answer the question that the program waits for. -/
theorem answer_onCourse {question : Question} (h : (Stage.asking question).Suits app.client)
    (line : Line) :
  OnCourse 4 ((app.note (.read question.ask line)).answer question line)
  := by
  cases question with
  | consent number fallback =>
    obtain ⟨hshowing, hshort⟩ := h
    have hread := hshowing.read line
    have hclosed : OnCourse 1 (((app.note (.read .consent line)).close number
        line.ending).resolve fallback) := close_onCourse hread (by simp) hshort
    exact hclosed.mono (by omega)
  | username target => exact answer_of_calm (h.tell rfl) (by nofun) line
  | choice target options => exact answer_of_calm (h.tell rfl) (by nofun) line
  | message target => exact answer_of_calm (h.tell rfl) (by nofun) line
  | retry target => exact answer_of_calm (h.tell rfl) (by nofun) line

end ChatPortal.App
