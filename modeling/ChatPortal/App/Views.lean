import ChatPortal.App.Basic

/-!
# Views

The program has a view to sign in, and one of the portal where the user picks a schema and
chats about it.  `App.step` enters a view, `App.read` gives the program a line that it has
asked for and `App.enterPassword` a password; each goes on up to the next question.
-/

namespace ChatPortal.App

open Client Portal Terminal

/-! ### Texts -/

/-- The options with their numbers. -/
def menu (options : List SchemaOption) : String :=
  String.join (options.zipIdx.map fun (option, index) =>
    "  " ++ toString (index + 1) ++ ". " ++ option.title ++ "\n")

/-- The lines of a chat. -/
def transcript (lines : List ChatLine) : String :=
  String.join (lines.map fun line => "[" ++ line.clock ++ "] " ++ line.content ++ "\n")

/-- The introduction to a schema. -/
def introduction (detail : SchemaDetail) : String :=
  heading detail.title ++ if detail.welcome = "" then "" else detail.welcome ++ "\n"

/-- The commands of a chat. -/
def help : String := "(/back to choose another schema, /lang <locale>, /quit)\n"

/-! ### The views -/

/-- The key under which the view of the portal keeps the schema. -/
def schemaKey : String := "schema"

/-- The view of the portal with a schema. -/
def chatTarget (schema : String) : Target := home.withPair schemaKey schema

/-- Enters the view to sign in. -/
def enterSignIn (target : Target) (app : App) : App :=
  (app.print .out (heading (app.phrase .controlPanel))).ask (.username target)

/-- Lets the user pick a schema. -/
def listSchemas (target : Target) (app : App) : App :=
  match app.client.fetchOptions with
  | (.error _, client) => { app with client }.settle (.retry target)
  | (.ok [], client) =>
    let app := { app with client }
    (app.print .err (complaint (app.phrase .serviceError))).quit
  | (.ok options, client) =>
    let app := { app with client }
    (app.print .out ("\n" ++ app.phrase .selectSchema ++ ":\n" ++ menu options)).ask
      (.choice target options)

/-- Begins the chat about a schema. -/
def beginChat (target : Target) (schema : String) (app : App) : App :=
  match app.client.fetchDetail schema with
  | (.error _, client) => { app with client }.settle (.retry target)
  | (.ok detail, client) =>
    let app := { app with client }.print .out (introduction detail)
    match app.client.beginChat schema with
    | (.error _, client) => { app with client }.settle (.retry target)
    | (.ok lines, client) =>
      ({ app with client }.print .out (transcript lines ++ help)).ask (.message target)

/-- Chats about a schema, in the view of the portal with that schema and nothing else. -/
def openSchema (target : Target) (schema : String) (app : App) : App :=
  if target = chatTarget schema then app.beginChat target schema
  else app.goTo (chatTarget schema)

/-- Enters the view of the portal. -/
def enterPortal (target : Target) (app : App) : App :=
  match target.value? schemaKey with
  | some schema => app.openSchema target schema
  | none => app.listSchemas target

/-- Enters a view. -/
def enter (target : Target) (app : App) : App :=
  let app := app.note (.viewed target)
  if target.name = RouteTable.signName then app.enterSignIn target else app.enterPortal target

/-- Enters the view that comes next, if it is time to. -/
def step (app : App) : App :=
  match app.stage with
  | .entering target => app.enter target
  | _ => app

/-- Goes on up to the next question or the end; a line leads through four views at most. -/
def proceed (app : App) : App := app.step.step.step.step

/-! ### Answers -/

/-- The number that a text says; a plus sign may stand before it. -/
def number? (text : List Char) : Option Nat :=
  let digits := match text with
    | '+' :: digits => digits
    | digits => digits
  if digits ≠ [] ∧ digits.all Char.isDigit then
    some (digits.foldl (fun n c => 10 * n + (c.toNat - '0'.toNat)) 0)
  else
    none

/-- The option that some words pick. -/
def pick? (options : List SchemaOption) (words : String) : Option SchemaOption :=
  match number? words.toList with
  | some (index + 1) => options[index]?
  | _ => none

/-- The command that sets the locale, with the blank behind it. -/
def localeCommand : String := "/lang "

/-- The locale that a command sets. -/
def localeOf? (words : String) : Option String :=
  if localeCommand.toList <+: words.toList then
    some (String.ofList (Text.trim (Text.dropRepeated localeCommand.toList words.toList)))
  else
    none

/-- Says something in the chat. -/
def say (target : Target) (content : String) (app : App) : App :=
  match app.client.say content with
  | (.error _, client) => { app with client }.settle (.chat target)
  | (.ok lines, client) =>
    let app := { app with client }
    (if lines = [] then app else app.print .out (transcript lines)).ask (.message target)

/-- Obeys a command of the chat, or says what is not one. -/
def hear (target : Target) (words : String) (app : App) : App :=
  if words = "" then app.ask (.message target)
  else if words = "/quit" then app.quit
  else if words = "/back" then app.goTo home
  else
    match localeOf? words with
    | some locale => { app with client := app.client.setLocale locale }.ask (.message target)
    | none => app.say target words

/-- The complaint about words that pick no option. -/
def choiceHint (options : List SchemaOption) : String :=
  "Enter a number between 1 and " ++ toString options.length ++ "\n"

/-- Answers a question with a line. -/
def answer (app : App) : Question → Line → App
  | .consent number fallback, line => (app.close number line.ending).resolve fallback
  | _, .garbled => app.fail Place.notText
  | _, .ended => app.quit
  | .username target, .text words =>
    if words = "" then app.goTo target else app.askPassword target words
  | .choice target options, .text words =>
    if words = "q" then app.quit
    else
      match pick? options words with
      | some option => app.openSchema target option.schema
      | none => (app.print .err (choiceHint options)).ask (.choice target options)
  | .message target, .text words => app.hear target words
  | .retry target, .text words => if words = "q" then app.quit else app.goTo target

/-- Reads a line, if the program has asked for one. -/
def read (line : Line) (app : App) : App :=
  match app.stage with
  | .asking question => ((app.note (.read question.ask line)).answer question line).proceed
  | _ => app

/-- The complaint about a sign-in that brings no credential. -/
def refusal : String := complaint "Sign-in was not accepted"

/-- Signs in. -/
def signIn (target : Target) (username password : String) (app : App) : App :=
  match app.client.signIn username password with
  | (.ok true, client) => { app with client }.goTo (RouteTable.standard.afterSignIn target)
  | (.ok false, client) => ({ app with client }.print .err refusal).goTo target
  | (.error _, client) => { app with client }.settle (.reenter target)

/-- Takes a password, if the program has asked for one. -/
def enterPassword (password : Except Trouble String) (app : App) : App :=
  match app.stage, password with
  | .askingPassword target username, .ok password =>
    (app.signIn target username password).proceed
  | .askingPassword _ _, .error trouble => app.fail trouble
  | _, _ => app

/-- The program from its beginning up to its first question. -/
def start (client : Client) (prompter : Prompter) : App :=
  (App.goTo home { client, prompter, stage := .ended (.ok ()) }).proceed

end ChatPortal.App
