import ChatPortal.Gateway.Reply
import ChatPortal.Reauth.Prompt
import ChatPortal.Route.Table
import ChatPortal.Terminal.Basic

/-!
# The journal

The journal of a client lists everything that can be seen of it from outside, in order:
calls and what came back, notifications, prompts, and what the terminal shows and reads.
-/

namespace ChatPortal.Client

open Gateway Http Reauth Terminal

/-- How grave a notification is. -/
inductive Level where
  | error
deriving DecidableEq, Repr

/-- A notification for the user, and for how many seconds it is shown. -/
structure Notice where
  level : Level
  message : String
  seconds : Nat := 5
deriving DecidableEq, Repr

/-- The notification of an error. -/
def Notice.error (message : String) : Notice := { level := .error, message }

/-- What a line is read for. -/
inductive Ask where
  | username
  | choice
  | message
  | retry
  | consent
deriving DecidableEq, Repr

/-- Something that can be seen of a client from outside. -/
inductive Entry where
  | assigned (credential : String)
  | sent (call : Call)
  | received (arrival : Arrival)
  | notified (notice : Notice)
  | triggered (accepted : Bool)
  | prompted (text : PromptText)
  | closed (ending : Ending)
  | viewed (target : Target)
  | restarted
  | printed (stream : Stream) (text : String)
  | read (ask : Ask) (line : Line)
  | askedPassword (text : String)

/-- Everything that was seen, in order. -/
abbrev Journal := List Entry

namespace Journal

/-- The calls that were sent. -/
def sent (journal : Journal) : List Call :=
  journal.filterMap fun
    | .sent call => some call
    | _ => none

/-- The notifications. -/
def notified (journal : Journal) : List Notice :=
  journal.filterMap fun
    | .notified notice => some notice
    | _ => none

/-- The prompts that were shown. -/
def prompted (journal : Journal) : List PromptText :=
  journal.filterMap fun
    | .prompted text => some text
    | _ => none

/-- How the prompts have ended that were closed. -/
def closed (journal : Journal) : List Ending :=
  journal.filterMap fun
    | .closed ending => some ending
    | _ => none

/-- The answers to the wishes for a prompt. -/
def answers (journal : Journal) : List Bool :=
  journal.filterMap fun
    | .triggered accepted => some accepted
    | _ => none

/-- The number of prompts that were accepted. -/
def accepted (journal : Journal) : Nat := journal.answers.count true

/-- The questions for a password. -/
def passwords (journal : Journal) : List String :=
  journal.filterMap fun
    | .askedPassword text => some text
    | _ => none

/-- What an entry shows on the terminal. -/
def shown : Entry → List (Stream × String)
  | .notified notice => [(.err, complaint notice.message)]
  | .prompted text => prompt text
  | .printed stream text => [(stream, text)]
  | _ => []

/-- What the terminal shows, in order. -/
def screen (journal : Journal) : List (Stream × String) := journal.flatMap shown

end Journal

end ChatPortal.Client
