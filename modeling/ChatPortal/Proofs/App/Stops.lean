import ChatPortal.Proofs.App.Pace
import ChatPortal.Proofs.App.Views

/-!
# Every run ends

A program that is on course comes to a question after a few views (`OnCourse.proceed`), and
without another line it ends (`OnCourse.finish`).  So every run ends with no prompt open
(`Ended.run`), and its journal has passed through each prompt on the way.
-/

namespace ChatPortal.App

open Client Gateway Portal Reauth Terminal RouteTable Course

variable {initial : String} {app : App} {bound : Nat} {target : Target}

/-! ### Going on -/

/-- The program has ended, with no prompt open. -/
structure Ended (app : App) : Prop where
  stage : ∃ result, app.stage = .ended result
  idle : Idle .calm app.client

theorem Ended.read_eq (h : Ended app) (line : Line) :
  app.read line = app
  := by
  obtain ⟨result, hstage⟩ := h.stage
  simp [App.read, hstage]

namespace OnCourse

/-- A program that is no view away from a question waits for a line or has ended. -/
theorem stage_cases (h : OnCourse 0 app) :
  (∃ question, app.stage = .asking question ∧ (Stage.asking question).Suits app.client)
    ∨ Ended app
  := by
  obtain ⟨hsuits, hdistance⟩ := h
  cases hstage : app.stage with
  | entering target =>
    rw [hstage] at hdistance
    have hnear := (distance_entering target).1
    omega
  | asking question =>
    rw [hstage] at hsuits
    exact .inl ⟨question, rfl, hsuits⟩
  | askingPassword target username => simp [hstage, Stage.distance] at hdistance
  | ended result =>
    rw [hstage] at hsuits
    exact .inr ⟨⟨result, hstage⟩, hsuits⟩

/-- A view brings the program nearer to a question. -/
theorem step (h : OnCourse bound app) (hbound : bound ≤ 3) :
  OnCourse (bound - 1) app.step
  := by
  obtain ⟨hsuits, hdistance⟩ := h
  rcases app.stage.distance_cases with
    ⟨target, hstage⟩ | ⟨target, username, hstage⟩ | hnone
  · have hentered : app.step = app.enter target := by simp [App.step, hstage]
    rw [hstage] at hsuits hdistance
    rw [hentered]
    apply (enter_onCourse hsuits).mono (Nat.sub_le_sub_right hdistance 1)
  · rw [hstage, Stage.distance] at hdistance
    omega
  · rw [step_of_distance_zero hnone]
    exact ⟨hsuits, by omega⟩

/-- A program goes on up to its next question. -/
theorem proceed (h : OnCourse 3 app) :
  OnCourse 0 app.proceed
  := by
  have hfirst : OnCourse 2 app.step := h.step (by omega)
  have hsecond : OnCourse 1 app.step.step := hfirst.step (by omega)
  have hthird : OnCourse 0 app.step.step.step := hsecond.step (by omega)
  exact hthird.step (by omega)

end OnCourse

/-- The user may sign in with any name and password. -/
theorem signIn_onCourse (h : Idle .calm app.client) (htarget : target.IsStandard)
    (hcredential : app.client.credential = "") (username password : String) :
  OnCourse 3 (app.signIn target username password)
  := by
  rcases h.signIn username password with
    ⟨client, heq, hidle⟩ | ⟨e, client, heq, hfailed, hkept⟩
  · cases hsigned : client.isSignedIn with
    | true =>
      simp only [App.signIn, heq, hsigned]
      exact goTo_onCourse hidle _
    | false =>
      simp only [App.signIn, heq, hsigned]
      exact goTo_onCourse (print_idle hidle _ _) target
  · have hshort : (Fallback.reenter target).IsShort client.credential :=
      ⟨htarget, hkept.trans hcredential⟩
    have hsettled : OnCourse 1 ({ app with client }.settle (.reenter target)) :=
      settle_onCourse hfailed hshort
    simp only [App.signIn, heq]
    exact hsettled.mono (by omega)

/-! ### To the next question -/

/-- A program that asks for a password takes any, or none. -/
theorem enterPassword_onCourse {username : String}
    (hstage : app.stage = .askingPassword target username) (h : Idle .calm app.client)
    (hsafe : Safe initial app) (password : Except Trouble String) :
  OnCourse 0 (app.enterPassword password)
  := by
  have hfits := hsafe.stage
  rw [hstage] at hfits
  cases password with
  | error trouble =>
    simp only [App.enterPassword, hstage]
    exact ended_onCourse h _
  | ok password =>
    simp only [App.enterPassword, hstage]
    exact (signIn_onCourse h hfits.1 hfits.2 username password).proceed

theorem OnCourse.feed_eq (h : OnCourse 0 app) (passwords : List String) :
  (app.feed passwords).1 = app
  := by
  rcases h.stage_cases with ⟨question, hstage, -⟩ | hended
  · simp [App.feed, hstage]
  · obtain ⟨result, hstage⟩ := hended.stage
    simp [App.feed, hstage]

/-- A program goes on up to its next question, and takes a password if it asks for one. -/
theorem feed_proceed (h : OnCourse 4 app) (hsafe : Safe initial app)
    (passwords : List String) :
  OnCourse 0 (app.proceed.feed passwords).1
  := by
  have hnear (hdistance : app.stage.distance ≤ 3) :
      OnCourse 0 (app.proceed.feed passwords).1 := by
    have hproceeds : OnCourse 0 app.proceed := OnCourse.proceed ⟨h.suits, hdistance⟩
    rw [hproceeds.feed_eq]
    exact hproceeds
  rcases app.stage.distance_cases with
    ⟨target, hstage⟩ | ⟨target, username, hstage⟩ | hnone
  · apply hnear
    rw [hstage]
    apply (distance_entering target).2
  · have hsame : app.proceed = app := by simp [App.proceed, App.step, hstage]
    have hidle : Idle .calm app.client := by
      have hsuits := h.suits
      rw [hstage] at hsuits
      exact hsuits
    rw [hsame]
    cases passwords with
    | nil =>
      simp only [App.feed, hstage]
      apply enterPassword_onCourse hstage hidle hsafe
    | cons password passwords =>
      simp only [App.feed, hstage]
      apply enterPassword_onCourse hstage hidle hsafe
  · apply hnear
    omega

/-- A program that waits for a line may read any, and takes a password if it asks for one
then. -/
theorem OnCourse.read_feed (h : OnCourse 0 app) (hsafe : Safe initial app) (line : Line)
    (passwords : List String) :
  OnCourse 0 ((app.read line).feed passwords).1
  := by
  rcases h.stage_cases with ⟨question, hstage, hsuits⟩ | hended
  · have hfits := hsafe.stage
    rw [hstage] at hfits
    have hnoted : InOrder initial (app.note (.read question.ask line)).client :=
      hsafe.client.note rfl trivial
    have hanswered : Safe initial ((app.note (.read question.ask line)).answer question line) :=
      Safe.answer hnoted hfits line
    have hread : app.read line
        = ((app.note (.read question.ask line)).answer question line).proceed := by
      rw [App.read, hstage]
    rw [hread]
    exact feed_proceed (answer_onCourse hsuits line) hanswered passwords
  · rw [hended.read_eq, h.feed_eq]
    exact h

/-! ### To the end -/

/-- The view to sign in asks for a name. -/
theorem stage_proceed_of_sign (hstage : app.stage = .entering target)
    (hname : target.name = signName) :
  app.proceed.stage = .asking (.username target)
  := by
  have hentered : app.step = (app.note (.viewed target)).enterSignIn target := by
    simp [App.step, hstage, enter, hname]
  rw [proceed, hentered]
  rfl

/-- After a failure the program goes on up to a question, not the one of a prompt. -/
theorem fallBack_proceed {fallback : Fallback}
    (hshort : fallback.IsShort app.client.credential) :
  ∃ question : Question, (app.fallBack fallback).proceed.stage = .asking question
    ∧ question.ask ≠ .consent
  := by
  cases fallback with
  | reenter target =>
    obtain ⟨htarget, hcredential⟩ := hshort
    obtain ⟨-, hdue⟩ := navigate_isDue htarget app.client.isSignedIn
    have hname := hdue.mpr ((isSignedIn_eq_false app.client).mpr hcredential)
    exact ⟨_, stage_proceed_of_sign rfl hname, nofun⟩
  | chat target => exact ⟨.message target, rfl, nofun⟩
  | retry target => exact ⟨.retry target, rfl, nofun⟩

namespace OnCourse

/-- Without another line any question but the one of a prompt ends the program. -/
theorem ended_read (h : OnCourse 0 app) {question : Question}
    (hstage : app.stage = .asking question) (hask : question.ask ≠ .consent) :
  Ended (app.read .ended)
  := by
  have hidle : Idle .calm app.client := by
    have hsuits := h.suits
    rw [hstage] at hsuits
    cases question with
    | consent number fallback => exact absurd rfl hask
    | _ => exact hsuits
  have hquit : app.read .ended = (app.note (.read question.ask .ended)).quit := by
    rw [App.read, hstage]
    cases question with
    | consent number fallback => exact absurd rfl hask
    | _ => rfl
  have hquiet : isQuiet (.read question.ask .ended) = true := decide_eq_true hask
  rw [hquit]
  exact ⟨⟨.ok (), rfl⟩, hidle.tell hquiet⟩

/-- Without another line the prompt fails, and the program goes on up to another
question. -/
theorem consent_read {number : Nat} {fallback : Fallback}
    (hstage : app.stage = .asking (.consent number fallback))
    (hsuits : (Stage.asking (.consent number fallback)).Suits app.client) :
  OnCourse 0 (app.read .ended)
    ∧ ∃ question : Question, (app.read .ended).stage = .asking question ∧ question.ask ≠ .consent
  := by
  obtain ⟨hshowing, hshort⟩ := hsuits
  have hending : ∀ line ∈ some Line.ended, line.ending = Line.ended.ending := by simp
  rcases (hshowing.read .ended).close hending with ⟨⟨⟩, -⟩ | ⟨-, hidle, hcredential⟩
  rw [← app.client.credential_note, ← hcredential] at hshort
  obtain ⟨hrequests, hidle⟩ := hidle.readInbox
  have hread : app.read .ended
      = ((app.note (.read .consent .ended)).close number Line.ended.ending |>.resolve
          fallback).proceed := by
    rw [App.read, hstage]
    rfl
  rw [hread, resolve_of_eq_zero hrequests]
  constructor
  · apply ((fallBack_onCourse hidle hshort).mono _).proceed
    omega
  · apply fallBack_proceed hshort

/-- Without another line the program ends, after its prompt if one is on show. -/
theorem finish (h : OnCourse 0 app) :
  Ended app.finish
  := by
  rcases h.stage_cases with ⟨question, hstage, hsuits⟩ | hended
  · by_cases hask : question.ask = .consent
    · cases question with
      | consent number fallback =>
        obtain ⟨hread, question, hasked, hask⟩ := consent_read hstage hsuits
        apply hread.ended_read hasked hask
      | _ => cases hask
    · have hended := h.ended_read hstage hask
      rw [App.finish, hended.read_eq]
      exact hended
  · rw [App.finish, hended.read_eq, hended.read_eq]
    exact hended

/-- A program ends whatever it reads. -/
theorem readAll (h : OnCourse 0 app) (hsafe : Safe initial app) (lines : List Bytes)
    (passwords : List String) :
  Ended (App.readAll lines passwords app).1
  := by
  induction lines generalizing app passwords with
  | nil => exact h.finish
  | cons line lines ih =>
    rw [App.readAll]
    split
    · apply ih (h.read_feed hsafe _ passwords) ((hsafe.read _).feed passwords)
    · next hasking =>
      rcases h.stage_cases with ⟨question, hstage, -⟩ | hended
      · simp [App.isAsking, hstage] at hasking
      · exact hended

end OnCourse

/-- A run of the program ends, with no prompt open. -/
theorem Ended.run (account : Account) (link : Link) (now : Calendar.Instant)
    (prompter : Prompter) (script : Script) :
  Ended ((App.start (Client.fresh account link now) prompter).run script).1
  := by
  have hstart : OnCourse 0 (App.start (Client.fresh account link now) prompter) :=
    (goTo_onCourse (Idle.fresh account link now) home).proceed
  exact hstart.readAll (Safe.start account link now prompter) script.lines script.passwords

end ChatPortal.App
