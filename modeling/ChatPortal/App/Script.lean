import ChatPortal.App.Views

/-!
# Scripts

A `Script` is all that a user will have typed, and `App.run` lets the program run on it to
its end.  The program takes the lines in order, and a password whenever it asks for one.
-/

namespace ChatPortal.App

/-- The lines and the passwords that a user types. -/
structure Script where
  lines : List Bytes
  passwords : List String
deriving Repr

/-- The complaint about a password that is missing. -/
def noPassword : Trouble := ⟨"no password scripted", []⟩

/-- The program waits for a line. -/
def isAsking (app : App) : Bool :=
  match app.stage with
  | .asking _ => true
  | _ => false

/-- Gives the program the next password if it asks for one; returns those that are left. -/
def feed (passwords : List String) (app : App) : App × List String :=
  match app.stage, passwords with
  | .askingPassword _ _, [] => (app.enterPassword (.error noPassword), [])
  | .askingPassword _ _, password :: left => (app.enterPassword (.ok password), left)
  | _, _ => (app, passwords)

/-- Lets the program find out that there are no more lines: it may still wait for an answer
to its prompt, and then for another line. -/
def finish (app : App) : App := (app.read .ended).read .ended

/-- Lets the program read lines as long as it asks for them; returns those that are left. -/
def readAll : List Bytes → List String → App → App × List Bytes
  | [], _, app => (app.finish, [])
  | line :: lines, passwords, app =>
    if app.isAsking then
      let (app, passwords) := (app.read (.ofBytes line)).feed passwords
      readAll lines passwords app
    else
      (app, line :: lines)

/-- Runs the program to its end; returns the lines that it did not read. -/
def run (script : Script) (app : App) : App × List Bytes :=
  readAll script.lines script.passwords app

end ChatPortal.App
