import ChatPortal.App.Script
import ChatPortal.Config.Basic
import ChatPortal.Config.Folders

/-!
# From start to end

`Surroundings.start` begins the program with what it finds around it, and
`Surroundings.run` is what comes of a whole run: what was shown on the two streams, and the
code that says whether the program failed.
-/

namespace ChatPortal.App

open Client Config Terminal

/-- What the program finds when it begins: the environment, a file of assignments that add
to it, its own files, and what becomes of its wish to make its folder. -/
structure Surroundings where
  environment : Environment
  assignments : Place := .absent
  config : Place := .absent
  token : Place := .absent
  folder : Except Trouble Unit := .ok ()
  now : Calendar.Instant := ⟨0, 0, 0⟩

namespace Surroundings

/-- The environment with the assignments. -/
def settings (surroundings : Surroundings) : Environment :=
  match surroundings.assignments with
  | .content file => surroundings.environment.withFile file
  | _ => surroundings.environment

/-- The configuration that is found. -/
def configuration (surroundings : Surroundings) : Except Trouble Config :=
  match file? surroundings.settings with
  | none => .error ⟨"Could not find config directory", []⟩
  | some path => Config.load path surroundings.config surroundings.settings

/-- The folder of the program is found and made. -/
def makeFolder (surroundings : Surroundings) : Except Trouble Unit :=
  match cache? surroundings.settings with
  | none => .error ⟨"Could not find cache directory", []⟩
  | some _ => surroundings.folder.mapError (·.within "Failed to create cache directory")

/-- The client that a configuration describes; it finds nobody to connect to. -/
def client (config : Config) (surroundings : Surroundings) : Client :=
  .fresh (.onStore (config.storeKind.store surroundings.token) config.locale)
    (.network config.baseUrl config.timeoutMillis none) surroundings.now

/-- Begins the program. -/
def start (surroundings : Surroundings) : Except Trouble App := do
  let config ← surroundings.configuration.mapError (·.within "Failed to load config")
  surroundings.makeFolder
  return App.start (surroundings.client config) .terminal

end Surroundings

/-! ### The end -/

/-- What is left of a run. -/
structure Outcome where
  exitCode : Nat
  out : String
  err : String
deriving DecidableEq, Repr

/-- The trouble because of which the program has ended. -/
def trouble? (app : App) : Option Trouble :=
  match app.stage with
  | .ended (.error trouble) => some trouble
  | _ => none

/-- The code that says whether the program failed. -/
def exitCode (app : App) : Nat := if app.trouble?.isSome then 1 else 0

/-- What the program says about its failure. -/
def lastWords (app : App) : String :=
  match app.trouble? with
  | some trouble => "Error: " ++ trouble.inline ++ "\n" ++ trouble.report
  | none => ""

/-- What was shown on a stream. -/
def shownOn (stream : Stream) (screen : List (Stream × String)) : String :=
  String.join ((screen.filter (·.1 = stream)).map (·.2))

/-- What is left of a program that has ended. -/
def outcome (app : App) : Outcome :=
  { exitCode := app.exitCode
    out := shownOn .out app.client.journal.screen
    err := shownOn .err app.client.journal.screen ++ app.lastWords }

/-- What is left of a run of the program on a script. -/
def Surroundings.run (script : Script) (surroundings : Surroundings) : Outcome :=
  match surroundings.start with
  | .error trouble => ⟨1, "", trouble.report⟩
  | .ok app => (app.run script).1.outcome

end ChatPortal.App
