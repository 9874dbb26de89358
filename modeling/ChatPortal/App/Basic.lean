import ChatPortal.Client.Endpoints
import ChatPortal.Route.Guard

/-!
# The program

An `App` is a client with what it does next: it enters a view, asks a question and waits
for a line, asks for a password, or it has ended.  Every way from one view to another
leads past the guard of the routes (`App.goTo`).  After a call has failed the program waits
for the prompt to sign in again, if there is one (`App.settle`), and starts over if the user
has confirmed it (`App.resolve`).
-/

namespace ChatPortal

open Client Portal Reauth Terminal

namespace App

/-- What the program goes on with after a call has failed, unless it starts over: it enters
the view again, stays in the chat, or offers to try again. -/
inductive Fallback where
  | reenter (target : Target)
  | chat (target : Target)
  | retry (target : Target)
deriving DecidableEq, Repr

/-- Something that a line answers. -/
inductive Question where
  | username (target : Target)
  | choice (target : Target) (options : List SchemaOption)
  | message (target : Target)
  | retry (target : Target)
  | consent (number : Nat) (fallback : Fallback)
deriving Repr

/-- What the line is read for. -/
def Question.ask : Question → Ask
  | .username _ => .username
  | .choice _ _ => .choice
  | .message _ => .message
  | .retry _ => .retry
  | .consent _ _ => .consent

/-- What stands in front of the line; the prompt shows its question itself. -/
def Question.text : Question → String
  | .username _ => "Username: "
  | .retry _ => "Press Enter to retry, q to quit > "
  | .consent _ _ => ""
  | _ => "> "

/-- What the program does next. -/
inductive Stage where
  | entering (target : Target)
  | asking (question : Question)
  | askingPassword (target : Target) (username : String)
  | ended (result : Except Trouble Unit)

/-- Who ends the prompts to sign in again: the user at the terminal, or somebody else, in
ways that are given. -/
inductive Prompter where
  | terminal
  | given (endings : List Ending)
deriving DecidableEq, Repr

/-- The ending of the next prompt, unless it is up to the user at the terminal. -/
def Prompter.next? : Prompter → Option (Ending × Prompter)
  | .terminal => none
  | .given [] => some (.decided .cancelled, .given [])
  | .given (ending :: endings) => some (ending, .given endings)

end App

/-- A client with what it does next. -/
structure App where
  client : Client
  stage : App.Stage
  prompter : App.Prompter := .terminal

namespace App

/-- The view where the program begins. -/
def home : Target := RouteTable.standard.home.target

/-- The program after something was seen of it. -/
def note (entry : Entry) (app : App) : App :=
  { app with client := app.client.note entry }

/-- Prints a text. -/
def print (stream : Stream) (text : String) (app : App) : App :=
  app.note (.printed stream text)

/-- A phrase in the locale of the moment. -/
def phrase (phrase : Phrase) (app : App) : String := phrase.text app.client.locale

/-! ### Stages -/

/-- Asks a question. -/
def ask (question : Question) (app : App) : App :=
  { app.print .out question.text with stage := .asking question }

/-- Asks for a password. -/
def askPassword (target : Target) (username : String) (app : App) : App :=
  { app.note (.askedPassword "Password: ") with stage := .askingPassword target username }

/-- Goes on to a view, or to the one that the guard lets it to instead. -/
def goTo (target : Target) (app : App) : App :=
  { app with stage := .entering (RouteTable.standard.navigate app.client.isSignedIn target) }

/-- Ends as the user wants. -/
def quit (app : App) : App := { app with stage := .ended (.ok ()) }

/-- Ends because of some trouble. -/
def fail (trouble : Trouble) (app : App) : App := { app with stage := .ended (.error trouble) }

/-- Starts over. -/
def restart (app : App) : App := (app.note .restarted).goTo home

/-! ### After a failure -/

/-- Goes on after a failed call. -/
def fallBack (app : App) : Fallback → App
  | .reenter target => app.goTo target
  | .chat target => app.ask (.message target)
  | .retry target => app.ask (.retry target)

/-- Goes on after a failed call when no prompt is open: the program starts over if it was
requested to. -/
def resolve (fallback : Fallback) (app : App) : App :=
  let (requests, client) := app.client.readInbox
  let app := { app with client }
  if requests = 0 then app.fallBack fallback else app.restart

/-- Shows a prompt. -/
def present (number : Nat) (app : App) : App :=
  { app with client := app.client.showPrompt number }

/-- Closes a prompt. -/
def close (number : Nat) (ending : Ending) (app : App) : App :=
  { app with client := app.client.closePrompt number ending }

/-- Shows the prompt that a failed call has led to, and goes on when it is closed. -/
def settle (fallback : Fallback) (app : App) : App :=
  let (pending, client) := app.client.takePending
  let app := { app with client }
  match pending.filter client.flow.isQueued with
  | some number =>
    let app := app.present number
    match app.prompter.next? with
    | none => { app with stage := .asking (.consent number fallback) }
    | some (ending, prompter) =>
      ({ app with prompter }.close number ending).resolve fallback
  | none => app.resolve fallback

end App

end ChatPortal
