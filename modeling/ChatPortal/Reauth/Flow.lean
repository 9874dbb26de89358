import ChatPortal.Reauth.Prompt

/-!
# One prompt at a time

A `Flow` has a latch and the prompts that were accepted so far.  `Flow.trigger` accepts a
prompt if it finds the latch free, and sets it; `Flow.close?` closes a prompt that is on
show and frees the latch, however the prompt has ended.  In between the prompt is queued
until it is shown.  The last accepted prompt stays pending until somebody takes it.
-/

namespace ChatPortal.Reauth

/-- How far a prompt has come. -/
inductive Phase where
  | queued
  | showing
  | closed (ending : Ending)
deriving DecidableEq, Repr

namespace Phase

/-- The prompt has closed. -/
def isClosed : Phase → Bool
  | .closed _ => true
  | _ => false

/-- The decision that a prompt has brought. -/
def decision? : Phase → Option Decision
  | .closed ending => ending.decision?
  | _ => none

end Phase

/-- The latch, the accepted prompts in order, and the number of the one that nobody has
taken yet. -/
structure Flow where
  latch : Bool := false
  prompts : List Phase := []
  pending : Option Nat := none
deriving DecidableEq, Repr, Inhabited

namespace Flow

/-- The latch is set. -/
def isOpen (flow : Flow) : Bool := flow.latch

/-- The number of prompts that were shown. -/
def shown (flow : Flow) : Nat := flow.prompts.countP (· ≠ .queued)

/-- A prompt has not been shown. -/
def isQueued (number : Nat) (flow : Flow) : Bool := flow.prompts[number]? = some .queued

/-- A prompt is on show. -/
def isShowing (number : Nat) (flow : Flow) : Bool := flow.prompts[number]? = some .showing

/-- The first prompt that has not been shown. -/
def queued? (flow : Flow) : Option Nat := flow.prompts.findIdx? (· = .queued)

/-- Accepts one more prompt. -/
def accept (flow : Flow) : Flow :=
  { flow with
    prompts := flow.prompts ++ [.queued]
    pending := some flow.prompts.length }

/-- Sets the latch and accepts a prompt, unless the latch is set already; returns whether
the prompt was accepted.  Where nobody can wait for a prompt the latch is freed again. -/
def trigger (canWait : Bool) (flow : Flow) : Bool × Flow :=
  if flow.latch then
    (false, flow)
  else
    let flow := { flow with latch := true }
    if canWait then (true, flow.accept) else (false, { flow with latch := false })

/-- Shows a queued prompt. -/
def show? (number : Nat) (flow : Flow) : Option Flow :=
  if flow.isQueued number then
    some { flow with prompts := flow.prompts.set number .showing }
  else
    none

/-- Closes a prompt that is on show, and frees the latch. -/
def close? (number : Nat) (ending : Ending) (flow : Flow) : Option Flow :=
  if flow.isShowing number then
    some { flow with
      latch := false
      prompts := flow.prompts.set number (.closed ending) }
  else
    none

/-- Takes the pending prompt. -/
def take (flow : Flow) : Option Nat × Flow := (flow.pending, { flow with pending := none })

/-- The decision that a prompt has brought. -/
def decision? (number : Nat) (flow : Flow) : Option Decision :=
  flow.prompts[number]?.bind Phase.decision?

end Flow

end ChatPortal.Reauth
