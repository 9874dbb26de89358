import ChatPortal.App.Script
import ChatPortal.Proofs.App.Requests
import ChatPortal.Proofs.Route.Navigation

/-!
# Stages in order

What the program does next fits the credential of the moment (`Stage.Fits`): it is on its
way to sign in, or asks for a name or a password, only while nobody is signed in, and in the
portal only while somebody is.  A program is `Safe` if its stage fits and its client
is in order.  Whatever the program is told leaves it safe.
-/

namespace ChatPortal.App

open Client Portal Reauth Terminal RouteTable

/-- A way to go on fits a credential: the chat goes on only while somebody is signed in. -/
def Fallback.Fits (credential : String) : Fallback → Prop
  | .reenter target | .retry target => target.IsStandard
  | .chat target => target.IsStandard ∧ credential ≠ ""

/-- A question fits a credential. -/
def Question.Fits (credential : String) : Question → Prop
  | .username target => target.IsStandard ∧ credential = ""
  | .choice target _ | .message target => target.IsStandard ∧ credential ≠ ""
  | .retry target => target.IsStandard
  | .consent _ fallback => fallback.Fits credential

/-- What the program does next fits a credential. -/
def Stage.Fits (credential : String) : Stage → Prop
  | .entering target => target.IsStandard ∧ (target.name = signName ↔ credential = "")
  | .asking question => question.Fits credential
  | .askingPassword target _ => target.IsStandard ∧ credential = ""
  | .ended _ => True

/-- The client is in order, and what the program does next fits the credential. -/
structure Safe (initial : String) (app : App) : Prop where
  client : InOrder initial app.client
  stage : app.stage.Fits app.client.credential

theorem isSignedIn_eq_false (client : Client) :
  client.isSignedIn = false ↔ client.credential = ""
  := by
  simp [isSignedIn, Session.isSignedIn, credential]

variable {initial : String} {app : App}

/-! ### Ways to go on -/

theorem print_inOrder (h : InOrder initial app.client) (stream : Stream) (text : String) :
  InOrder initial (app.print stream text).client
  := h.note rfl trivial

theorem goTo_safe (h : InOrder initial app.client) {target : Target}
    (htarget : target.IsStandard) :
  Safe initial (app.goTo target)
  := by
  obtain ⟨hstandard, hdue⟩ := navigate_isDue htarget app.client.isSignedIn
  exact ⟨h, hstandard, hdue.trans (isSignedIn_eq_false app.client)⟩

theorem ask_safe (h : InOrder initial app.client) {question : Question}
    (hfits : question.Fits app.client.credential) :
  Safe initial (app.ask question)
  := ⟨print_inOrder h .out question.text, hfits⟩

theorem restart_safe (h : InOrder initial app.client) :
  Safe initial app.restart
  := by
  have hnoted : InOrder initial (app.client.note .restarted) := h.note rfl trivial
  apply goTo_safe hnoted home_isStandard

theorem ended_safe (h : InOrder initial app.client) (result : Except Trouble Unit) :
  Safe initial { app with stage := .ended result }
  := ⟨h, trivial⟩

/-! ### After a failure -/

theorem fallBack_safe (h : InOrder initial app.client) {fallback : Fallback}
    (hfits : fallback.Fits app.client.credential) :
  Safe initial (app.fallBack fallback)
  := by
  cases fallback with
  | reenter target => apply goTo_safe h hfits
  | chat target => exact ask_safe h hfits
  | retry target => exact ask_safe h hfits

/-- The program may go on if that fits or a restart was requested. -/
theorem resolve_safe (h : InOrder initial app.client) {fallback : Fallback}
    (hfits : app.client.inbox.unread = 0 → fallback.Fits app.client.credential) :
  Safe initial (app.resolve fallback)
  := by
  have hread : InOrder initial app.client.readInbox.2 := h.of_silent .readInbox rfl
  simp only [resolve]
  split
  · next hunread => exact fallBack_safe hread (hfits hunread)
  · apply restart_safe hread

/-- The program may go on when a prompt closes; one that is confirmed requests a restart. -/
theorem close_safe (h : InOrder initial app.client) {fallback : Fallback}
    (hfits : fallback.Fits app.client.credential) (number : Nat) (ending : Ending) :
  Safe initial ((app.close number ending).resolve fallback)
  := by
  apply resolve_safe (h.closePrompt number ending)
  intro hunread
  rcases app.client.closePrompt_cases number ending with ⟨hcredential, -⟩ | ⟨-, hinbox⟩
  · rw [close, hcredential]
    exact hfits
  · obtain ⟨unread, hopen⟩ := h.listens
    rw [close, hinbox, hopen] at hunread
    cases hunread

/-- The program may go on after a failed call in a way that fits. -/
theorem settle_safe (h : InOrder initial app.client) {fallback : Fallback}
    (hfits : fallback.Fits app.client.credential) :
  Safe initial (app.settle fallback)
  := by
  have htaken : InOrder initial app.client.takePending.2 := h.of_silent .takePending rfl
  simp only [settle]
  split
  · next number _ =>
    have hshown : InOrder initial (app.client.takePending.2.showPrompt number) :=
      htaken.showPrompt number
    have hcredential : (app.client.takePending.2.showPrompt number).credential
        = app.client.credential :=
      credential_showPrompt _ number
    rw [← hcredential] at hfits
    split
    · exact ⟨hshown, hfits⟩
    · apply close_safe hshown hfits _ _
  · exact resolve_safe htaken fun _ => hfits

end ChatPortal.App
