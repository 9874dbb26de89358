import ChatPortal.Proofs.App.Stops

/-!
# Turns

A run of the program is a sequence of turns (`turns_run`): it enters a view, it reads a line
and answers it, or it takes a password.  `Turns app lines app'` says that the program
comes from `app` to `app'` in some turns, and that it reads those lines in that order on
the way.  What every turn keeps holds at the end of a run.
-/

namespace ChatPortal.App

open Client Portal Reauth Terminal RouteTable

/-- One turn of the program, with the line that it reads. -/
inductive Turn (app : App) : Option Line → App → Prop where
  | enters {target : Target} (h : app.stage = .entering target) :
      Turn app none (app.enter target)
  | reads {question : Question} (h : app.stage = .asking question) (line : Line) :
      Turn app (some line) ((app.note (.read question.ask line)).answer question line)
  | signsIn {target : Target} {username : String}
      (h : app.stage = .askingPassword target username) (password : String) :
      Turn app none (app.signIn target username password)
  | stops {target : Target} {username : String}
      (h : app.stage = .askingPassword target username) (trouble : Trouble) :
      Turn app none (app.fail trouble)

/-- Some turns of the program, with the lines that it reads. -/
inductive Turns (app : App) : List Line → App → Prop where
  | refl : Turns app [] app
  | tail {app' app'' : App} {lines : List Line} {line? : Option Line}
      (h : Turns app lines app') (hturn : Turn app' line? app'') :
      Turns app (lines ++ line?.toList) app''

namespace Turns

variable {app app' app'' : App} {lines lines' : List Line}

theorem single {line? : Option Line} (h : Turn app line? app') :
  Turns app line?.toList app'
  := .tail .refl h

/-- More turns may follow. -/
theorem trans (h : Turns app lines app') (h' : Turns app' lines' app'') :
  Turns app (lines ++ lines') app''
  := by
  induction h' with
  | refl =>
    rw [List.append_nil]
    exact h
  | tail _ hturn ih =>
    rw [← List.append_assoc]
    exact .tail ih hturn

theorem thenQuietly (h : Turns app lines app') (h' : Turns app' [] app'') :
  Turns app lines app''
  := by
  rw [← List.append_nil lines]
  apply h.trans h'

end Turns

/-! ### Runs -/

variable {app : App}

theorem turns_step (app : App) :
  Turns app [] app.step
  := by
  rw [App.step]
  split
  · next hstage => exact .single (.enters hstage)
  · exact .refl

theorem turns_proceed (app : App) :
  Turns app [] app.proceed
  := (((turns_step _).thenQuietly (turns_step _)).thenQuietly (turns_step _)).thenQuietly
    (turns_step _)

theorem turns_read {question : Question} (h : app.stage = .asking question) (line : Line) :
  Turns app [line] (app.read line)
  := by
  rw [App.read, h]
  apply Turns.thenQuietly (.single (.reads h line)) (turns_proceed _)

/-- The program takes a password that it waits for. -/
theorem turns_feed (passwords : List String) (app : App) :
  Turns app [] (app.feed passwords).1
  := by
  rw [App.feed.eq_def]
  split
  · next hstage =>
    rw [App.enterPassword.eq_def, hstage]
    exact .single (.stops hstage _)
  · next hstage =>
    rw [App.enterPassword.eq_def, hstage]
    exact (Turns.single (.signsIn hstage _)).thenQuietly (turns_proceed _)
  · exact .refl

/-- The program is told at most once that there are no more lines. -/
theorem turns_read_ended (app : App) :
  ∃ count ≤ 1, Turns app (List.replicate count .ended) (app.read .ended)
  := by
  cases hstage : app.stage with
  | asking question => exact ⟨1, Nat.le_refl 1, turns_read hstage .ended⟩
  | _ =>
    refine ⟨0, Nat.zero_le 1, ?_⟩
    rw [App.read, hstage]
    exact .refl

/-- The program reads some of the lines in order, and when there are no more it is told so
at most twice. -/
theorem turns_readAll (lines : List Bytes) (passwords : List String) (app : App) :
  ∃ taken count, lines = taken ++ (readAll lines passwords app).2 ∧ count ≤ 2
    ∧ Turns app (taken.map Line.ofBytes ++ List.replicate count .ended)
        (readAll lines passwords app).1
  := by
  induction lines generalizing passwords app with
  | nil =>
    obtain ⟨first, hfirst, hread⟩ := turns_read_ended app
    obtain ⟨second, hsecond, hagain⟩ := turns_read_ended (app.read .ended)
    refine ⟨[], first + second, rfl, by omega, ?_⟩
    rw [List.map_nil, List.nil_append, List.replicate_add]
    apply hread.trans hagain
  | cons line lines ih =>
    rw [readAll]
    split
    · next hasking =>
      obtain ⟨question, hstage⟩ : ∃ question, app.stage = .asking question := by
        cases hstage : app.stage with
        | asking question => exact ⟨question, rfl⟩
        | _ => simp [isAsking, hstage] at hasking
      obtain ⟨taken, count, hlines, hcount, hturns⟩ :=
        ih ((app.read (.ofBytes line)).feed passwords).2
          ((app.read (.ofBytes line)).feed passwords).1
      refine ⟨line :: taken, count, congrArg (line :: ·) hlines, hcount, ?_⟩
      have hread : Turns app [.ofBytes line] ((app.read (.ofBytes line)).feed passwords).1 :=
        (turns_read hstage _).thenQuietly (turns_feed passwords _)
      exact hread.trans hturns
    · exact ⟨[], 0, rfl, Nat.zero_le 2, .refl⟩

/-- A run of the program is a sequence of turns.  The lines that it reads are those of the
script in their order, up to those that are left, and then at most twice the end of all
lines. -/
theorem turns_run (client : Client) (prompter : Prompter) (script : Script) :
  let result := (App.start client prompter).run script
  ∃ taken count, script.lines = taken ++ result.2 ∧ count ≤ 2
    ∧ Turns (App.goTo home { client, prompter, stage := .ended (.ok ()) })
        (taken.map Line.ofBytes ++ List.replicate count .ended) result.1
  := by
  intro result
  obtain ⟨taken, count, hlines, hcount, hturns⟩ :=
    turns_readAll script.lines script.passwords (App.start client prompter)
  exact ⟨taken, count, hlines, hcount, (turns_proceed _).trans hturns⟩

/-! ### What every turn keeps -/

/-- The program is safe, and the client is where the next stage needs it. -/
structure Sound (initial : String) (app : App) : Prop where
  safe : Safe initial app
  suits : app.stage.Suits app.client

variable {initial : String}

/-- A turn leaves the program sound. -/
theorem Turn.sound {app' : App} {line? : Option Line} (hturn : Turn app line? app')
    (h : Sound initial app) :
  Sound initial app'
  := by
  obtain ⟨hsafe, hsuits⟩ := h
  have hfits := hsafe.stage
  cases hturn with
  | enters hstage =>
    rw [hstage] at hfits hsuits
    exact ⟨enter_safe hsafe.client hfits.1 hfits.2, (enter_onCourse hsuits).suits⟩
  | @reads question hstage line =>
    rw [hstage] at hfits hsuits
    have hnoted : InOrder initial (app.note (.read question.ask line)).client :=
      hsafe.client.note rfl trivial
    exact ⟨Safe.answer hnoted hfits line, (answer_onCourse hsuits line).suits⟩
  | signsIn hstage password =>
    rw [hstage] at hfits hsuits
    exact ⟨Safe.signIn hsafe.client hfits.1 hfits.2 _ _,
      (signIn_onCourse hsuits hfits.1 hfits.2 _ _).suits⟩
  | stops hstage trouble =>
    rw [hstage] at hsuits
    exact ⟨ended_safe hsafe.client _, (ended_onCourse hsuits _).suits⟩

theorem Sound.fresh (account : Account) (link : Link) (now : Calendar.Instant)
    (prompter : Prompter) :
  Sound account.session.credential
    (App.goTo home
      { client := Client.fresh account link now, prompter, stage := .ended (.ok ()) })
  := ⟨goTo_safe (InOrder.fresh account link now) home_isStandard,
    (goTo_onCourse (Idle.fresh account link now) home).suits⟩

end ChatPortal.App
