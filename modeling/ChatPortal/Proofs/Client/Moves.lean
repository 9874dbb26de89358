import ChatPortal.Proofs.Client.Frame
import Mathlib.Logic.Relation

/-!
# Moves

Whatever a client does is made of `Move`s.  What every move preserves is therefore
preserved by a run (`Run.moves_after`), and by everything else that is done with a client.
-/

namespace ChatPortal.Client

open Gateway Http Reauth

/-- The entries of those who use a client. -/
def Entry.isTold : Entry → Bool
  | .viewed _ | .restarted | .printed _ _ | .read _ _ | .askedPassword _ => true
  | _ => false

/-- One thing that becomes of a client. -/
inductive Move (client : Client) : Client → Prop where
  | assign (credential : String) : Move client (client.setCredential credential)
  | setLocale (locale : String) : Move client (client.setLocale locale)
  | relink (link : Link) : Move client { client with link }
  | send (call : Call) : Move client (client.send call).2
  | takeIn (arrival : Arrival) : Move client ((client.note (.received arrival)).accept arrival)
  | notify (notice : Notice) : Move client (client.note (.notified notice))
  | trigger : Move client client.trigger.2
  | showPrompt (number : Nat) : Move client (client.showPrompt number)
  | closePrompt (number : Nat) (ending : Ending) :
      Move client (client.closePrompt number ending)
  | takePending : Move client client.takePending.2
  | readInbox : Move client client.readInbox.2
  | tell (entry : Entry) (h : entry.isTold = true) : Move client (client.note entry)

/-- What becomes of a client in the end. -/
abbrev Moves : Client → Client → Prop := Relation.ReflTransGen Move

/-- What every move preserves is preserved in the end. -/
theorem Moves.preserve
    {P : Client → Prop} (hmove : ∀ {client client' : Client}, Move client client' → P client →
      P client') {client client' : Client} (h : Moves client client') (hP : P client) :
  P client'
  := by
  induction h with
  | refl => exact hP
  | tail _ hstep ih => exact hmove hstep ih

section Calls

variable {α : Type} (client : Client)

/-- Receiving a reply is made of moves. -/
theorem moves_receive (decoder : Json.Decoder α) (arrival : Arrival) :
  Moves client (client.receive decoder arrival).2
  := by
  have hreport (client : Client) : Moves client (client.report (judge decoder arrival)) := by
    cases judge decoder arrival with
    | ok value => apply Relation.ReflTransGen.refl
    | error e => apply Relation.ReflTransGen.single (.notify _)
  have hheed (client : Client) : Moves client (client.heed arrival) := by
    rw [heed]
    split
    · apply Relation.ReflTransGen.single .trigger
    · apply Relation.ReflTransGen.refl
  apply Relation.ReflTransGen.head (.takeIn arrival)
  apply Relation.ReflTransGen.trans (hreport _)
  apply hheed

end Calls

/-! ### Runs -/

namespace Run

theorem moves_arrive (number : Nat) (run : Run) :
  Moves run.client (run.arrive number).client
  := by
  rcases run.arrive_cases number with ⟨flight, -, -, hclient⟩ | ⟨-, hsame⟩
  · rw [hclient]
    apply moves_receive
  · rw [hsame]

/-- Whatever happens to a run is made of moves. -/
theorem moves_step (run : Run) (event : Event) :
  Moves run.client (run.step event).client
  := by
  cases event with
  | addReply path reply => apply Relation.ReflTransGen.single (.relink _)
  | send call wanted =>
    rw [step, client_send]
    apply Relation.ReflTransGen.single (.send call)
  | arrive number => apply moves_arrive
  | trigger => apply Relation.ReflTransGen.single .trigger
  | showPrompt number => apply Relation.ReflTransGen.single (.showPrompt number)
  | closePrompt number ending =>
    apply Relation.ReflTransGen.single (.closePrompt number ending)
  | takePending => apply Relation.ReflTransGen.single .takePending
  | readInbox => apply Relation.ReflTransGen.single .readInbox
  | setCredential credential => apply Relation.ReflTransGen.single (.assign credential)
  | setLocale locale => apply Relation.ReflTransGen.single (.setLocale locale)

theorem moves_after (run : Run) (events : List Event) :
  Moves run.client (run.after events).client
  := by
  induction events generalizing run with
  | nil => apply Relation.ReflTransGen.refl
  | cons event events ih =>
    apply Relation.ReflTransGen.trans (run.moves_step event)
    apply ih

end Run

end ChatPortal.Client
