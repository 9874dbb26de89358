import ChatPortal.App.Views
import ChatPortal.Proofs.App.Course
import ChatPortal.Proofs.Client.Entries

/-!
# Scenes

`Scene.Follows` is the script that every run of the program keeps to, entry by entry of the
journal: the views that it enters, what it prints and asks for, the requests that it makes,
and how it goes on after a reply, an answer or a failure.  `Scene.Passes silent start journal
scene` says that a journal leads from one scene to another; `silent` is true where the
program may have a credential with which no request can be sent.
-/

namespace ChatPortal.App

open Client Gateway Http Portal Reauth Terminal

/-- A view that the program enters. -/
inductive View where
  | signIn
  | home
  | chat (schema : String)

/-- A request that the program makes. -/
inductive Request where
  | signIn (username password : String)
  | options
  | detail (schema : String)
  | beginChat (schema : String)
  | say (schema words : String)

/-- A question of the program, but for the one of the prompt to sign in again. -/
inductive Inquiry where
  | name
  | choice (options : List SchemaOption)
  | message (schema : String)
  | retry (view : View)

/-- What the program does next. -/
inductive Scene where
  | entering (view : View)
  | printing (stream : Stream) (text : String) (next : Scene)
  | asking (inquiry : Inquiry)
  | greeting (username : String)
  | password (username : String)
  | calling (request : Request)
  | awaiting (request : Request)
  | notifying (notice : Notice) (request : Request)
  | failed (request : Request)
  | finished

/-- The target of a view. -/
def View.target : View → Target
  | .signIn => signInFirst
  | .home => App.home
  | .chat schema => chatTarget schema

/-- A view is for somebody who is signed in. -/
def View.needsSession : View → Bool
  | .signIn => false
  | _ => true

namespace Request

/-- The call of a request, before it gets the credential. -/
def call : Request → Call
  | .signIn username password => signCall username password
  | .options => optionCall
  | .detail schema => detailCall schema
  | .beginChat schema => chatInitCall schema
  | .say _ words => chatMessageCall words

/-- A request is for somebody who is signed in. -/
def needsSession : Request → Bool
  | .signIn _ _ => false
  | _ => true

/-- What the program goes on with when a request has failed. -/
def fallback : Request → Fallback
  | .signIn _ _ => .reenter signInFirst
  | .options => .retry home
  | .detail schema | .beginChat schema => .retry (chatTarget schema)
  | .say schema _ => .chat (chatTarget schema)

end Request

namespace Inquiry

/-- The question. -/
def question : Inquiry → Question
  | .name => .username signInFirst
  | .choice options => .choice home options
  | .message schema => .message (chatTarget schema)
  | .retry view => .retry view.target

/-- A question is for somebody who is signed in. -/
def needsSession : Inquiry → Bool
  | .name => false
  | .retry view => view.needsSession
  | _ => true

/-- The words that end the program. -/
def lastWords? : Inquiry → Option String
  | .name => none
  | .message _ => some "/quit"
  | .choice _ | .retry _ => some "q"

/-- A line ends the program: the last words, the end of all lines, and one that is no text. -/
def EndsOn (inquiry : Inquiry) : Line → Prop
  | .text words => inquiry.lastWords? = some words
  | _ => True

end Inquiry

namespace Scene

/-- The program puts a question. -/
def putting (inquiry : Inquiry) : Scene :=
  .printing .out inquiry.question.text (.asking inquiry)

/-- What the program does after a request has failed and no restart was asked for. -/
def goingOn : Request → Scene
  | .signIn _ _ => .entering .signIn
  | .options => .putting (.retry .home)
  | .detail schema | .beginChat schema => .putting (.retry (.chat schema))
  | .say schema _ => .putting (.message schema)

end Scene

/-- Words for the bot: they are neither empty nor a command. -/
def IsSaid (words : String) : Prop :=
  words ≠ "" ∧ words ≠ "/quit" ∧ words ≠ "/back" ∧ ¬ localeCommand.toList <+: words.toList

instance (words : String) : Decidable (IsSaid words) :=
  inferInstanceAs (Decidable (_ ∧ _ ∧ _ ∧ _))

/-- What some words lead to that answer a question and do not end the program. -/
inductive Inquiry.Leads : Inquiry → String → Scene → Prop where
  | nobody : Leads .name "" (.entering .signIn)
  | somebody {words : String} (h : words ≠ "") : Leads .name words (.greeting words)
  | picks {options : List SchemaOption} {words : String} {option : SchemaOption}
      (hstays : words ≠ "q") (hpick : pick? options words = some option) :
      Leads (.choice options) words (.entering (.chat option.schema))
  | rejects {options : List SchemaOption} {words : String}
      (hstays : words ≠ "q") (hpick : pick? options words = none) :
      Leads (.choice options) words
        (.printing .err (choiceHint options) (.putting (.choice options)))
  | blank (schema : String) : Leads (.message schema) "" (.putting (.message schema))
  | back (schema : String) : Leads (.message schema) "/back" (.entering .home)
  | setsLocale (schema : String) {words : String} (h : localeCommand.toList <+: words.toList) :
      Leads (.message schema) words (.putting (.message schema))
  | speaks (schema : String) {words : String} (h : IsSaid words) :
      Leads (.message schema) words (.calling (.say schema words))
  | retries (view : View) {words : String} (h : words ≠ "q") :
      Leads (.retry view) words (.entering view)

/-- What the reply to a request leads to that brings what was asked for. -/
inductive Request.Brings : Request → Arrival → Scene → Prop where
  | accepted {username password token : String} {arrival : Arrival}
      (h : grant? arrival = some token) :
      Brings (.signIn username password) arrival (.entering .home)
  | refused {username password : String} {arrival : Arrival} {value : Json}
      (hjudge : judge .json arrival = .ok value) (hgrant : grant? arrival = none) :
      Brings (.signIn username password) arrival (.printing .err refusal (.entering .signIn))
  | lists {arrival : Arrival} {options : List SchemaOption}
      (h : judge (.list SchemaOption.decoder) arrival = .ok options) (hsome : options ≠ [])
      (title : String) :
      Brings .options arrival (.printing .out (title ++ menu options) (.putting (.choice options)))
  | listsNone {arrival : Arrival} (h : judge (.list SchemaOption.decoder) arrival = .ok [])
      (text : String) : Brings .options arrival (.printing .err text .finished)
  | describes {schema : String} {arrival : Arrival} {detail : SchemaDetail}
      (h : judge SchemaDetail.decoder arrival = .ok detail) :
      Brings (.detail schema) arrival
        (.printing .out (introduction detail) (.calling (.beginChat schema)))
  | begins {schema : String} {arrival : Arrival} {lines : List ChatLine}
      (h : judge (.list ChatLine.decoder) arrival = .ok lines) :
      Brings (.beginChat schema) arrival
        (.printing .out (transcript lines ++ help) (.putting (.message schema)))
  | saysNothing {schema words : String} {arrival : Arrival}
      (h : judge (.list ChatLine.decoder) arrival = .ok []) :
      Brings (.say schema words) arrival (.putting (.message schema))
  | replies {schema words : String} {arrival : Arrival} {lines : List ChatLine}
      (h : judge (.list ChatLine.decoder) arrival = .ok lines) (hsome : lines ≠ []) :
      Brings (.say schema words) arrival
        (.printing .out (transcript lines) (.putting (.message schema)))

/-- The reply to a request does not bring what was asked for, and the user is notified of
that. -/
def Request.Fails (arrival : Arrival) (notice : Notice) : Request → Prop
  | .signIn _ _ => Notice.ofResult? (judge .json arrival) = some notice
  | .options => Notice.ofResult? (judge (.list SchemaOption.decoder) arrival) = some notice
  | .detail _ => Notice.ofResult? (judge SchemaDetail.decoder arrival) = some notice
  | .beginChat _ | .say _ _ =>
    Notice.ofResult? (judge (.list ChatLine.decoder) arrival) = some notice

namespace Scene

/-- An entry has to do with the prompt to sign in again. -/
def isAside : Entry → Bool
  | .triggered _ | .prompted _ | .closed _ => true
  | .read ask _ => ask = .consent
  | _ => false

/-- What may be seen next, and what the program does then. -/
inductive Follows : Scene → Entry → Scene → Prop where
  | prints (stream : Stream) (text : String) (next : Scene) :
      Follows (.printing stream text next) (.printed stream text) next
  | entersSignIn (title : String) :
      Follows (.entering .signIn) (.viewed signInFirst) (.printing .out title (.putting .name))
  | entersHome : Follows (.entering .home) (.viewed home) (.calling .options)
  | entersChat (schema : String) :
      Follows (.entering (.chat schema)) (.viewed (chatTarget schema)) (.calling (.detail schema))
  | asksPassword (username text : String) :
      Follows (.greeting username) (.askedPassword text) (.password username)
  | signsIn {username password : String} {call : Call}
      (h : call = { signCall username password with headers := call.headers }) :
      Follows (.password username) (.sent call) (.awaiting (.signIn username password))
  | sends {request : Request} {call : Call}
      (h : call = { request.call with headers := call.headers }) :
      Follows (.calling request) (.sent call) (.awaiting request)
  | receives {request : Request} {arrival : Arrival} {next : Scene}
      (h : request.Brings arrival next) : Follows (.awaiting request) (.received arrival) next
  | fails {request : Request} {arrival : Arrival} {notice : Notice}
      (h : request.Fails arrival notice) :
      Follows (.awaiting request) (.received arrival) (.notifying notice request)
  | notifies (notice : Notice) (request : Request) :
      Follows (.notifying notice request) (.notified notice) (.failed request)
  | waits (request : Request) {entry : Entry} (h : isAside entry = true) :
      Follows (.failed request) entry (.failed request)
  | restarts (request : Request) : Follows (.failed request) .restarted (.entering .signIn)
  | ends {inquiry : Inquiry} {line : Line} (h : inquiry.EndsOn line) :
      Follows (.asking inquiry) (.read inquiry.question.ask line) .finished
  | answers {inquiry : Inquiry} {words : String} {next : Scene} (h : inquiry.Leads words next) :
      Follows (.asking inquiry) (.read inquiry.question.ask (.text words)) next

/-- The call of a request comes next, with the credential or without. -/
def Sends (scene : Scene) (request : Request) : Prop :=
  ∀ headers, Follows scene (.sent { request.call with headers }) (.awaiting request)

/-- What the program does without anything that can be seen: it goes on after a failure,
gives up a request that it cannot send, or has no password to take. -/
inductive Slips (silent : Prop) : Scene → Scene → Prop where
  | goesOn (request : Request) : Slips silent (.failed request) (goingOn request)
  | givesUp (h : silent) (request : Request) : Slips silent (.calling request) (.failed request)
  | stops (username : String) : Slips silent (.password username) .finished

/-- A journal leads from one scene to another. -/
inductive Passes (silent : Prop) : Scene → Journal → Scene → Prop where
  | nil (scene : Scene) : Passes silent scene [] scene
  | slip {start next scene : Scene} {journal : Journal} (hslips : Slips silent start next)
      (hrest : Passes silent next journal scene) : Passes silent start journal scene
  | cons {start next scene : Scene} {entry : Entry} {journal : Journal}
      (hentry : Follows start entry next) (hrest : Passes silent next journal scene) :
      Passes silent start (entry :: journal) scene

namespace Passes

variable {silent : Prop} {start scene : Scene} {before after journal : Journal} {entry : Entry}

/-- A journal passes through some scene between any two of its parts. -/
theorem split (h : Passes silent start (before ++ after) scene) :
  ∃ middle, Passes silent start before middle ∧ Passes silent middle after scene
  := by
  obtain ⟨journal, hjournal⟩ : ∃ journal, journal = before ++ after := ⟨_, rfl⟩
  rw [← hjournal] at h
  induction h generalizing before with
  | nil scene =>
    obtain ⟨rfl, rfl⟩ := List.append_eq_nil_iff.mp hjournal.symm
    exact ⟨scene, .nil scene, .nil scene⟩
  | slip hslips _ ih =>
    obtain ⟨middle, hbefore, hafter⟩ := ih hjournal
    exact ⟨middle, .slip hslips hbefore, hafter⟩
  | @cons start next scene entry journal hentry hrest ih =>
    cases before with
    | nil =>
      obtain rfl : entry :: journal = after := hjournal
      exact ⟨start, .nil start, .cons hentry hrest⟩
    | cons first before =>
      obtain ⟨rfl, hrest⟩ := List.cons.inj hjournal
      obtain ⟨middle, hbefore, hafter⟩ := ih hrest
      exact ⟨middle, .cons hentry hbefore, hafter⟩

theorem concat {next : Scene} (h : Passes silent start journal scene)
    (hentry : Follows scene entry next) :
  Passes silent start (journal ++ [entry]) next
  := by
  induction h with
  | nil scene => exact .cons hentry (.nil next)
  | slip hslips _ ih => exact .slip hslips (ih hentry)
  | cons hfirst _ ih => exact .cons hfirst (ih hentry)

theorem slipOn {next : Scene} (h : Passes silent start journal scene)
    (hslips : Slips silent scene next) :
  Passes silent start journal next
  := by
  induction h with
  | nil scene => exact .slip hslips (.nil next)
  | slip hfirst _ ih => exact .slip hfirst (ih hslips)
  | cons hfirst _ ih => exact .cons hfirst (ih hslips)

/-- Any entry follows upon the scene that was there before it. -/
theorem at_entry (h : Passes silent start (before ++ entry :: after) scene) :
  ∃ middle next, Passes silent start before middle ∧ Follows middle entry next
    ∧ Passes silent next after scene
  := by
  obtain ⟨middle, hbefore, hafter⟩ := h.split
  obtain ⟨rest, hrest⟩ : ∃ rest, rest = entry :: after := ⟨_, rfl⟩
  rw [← hrest] at hafter
  clear h
  induction hafter with
  | nil => cases hrest
  | slip hslips _ ih => exact ih (hbefore.slipOn hslips) hrest
  | cons hentry hlater =>
    obtain ⟨rfl, rfl⟩ := List.cons.inj hrest
    exact ⟨_, _, hbefore, hentry, hlater⟩

theorem nothing (h : Passes silent .finished journal scene) :
  journal = []
  := by
  obtain _ | ⟨⟨⟩, -⟩ | ⟨⟨⟩, -⟩ := h
  rfl

/-- A view that is due is entered. -/
theorem entered {view : View} (h : Passes silent (.entering view) journal .finished) :
  ∃ rest, journal = .viewed view.target :: rest
  := by
  obtain _ | ⟨⟨⟩, -⟩ | ⟨hentry, -⟩ := h
  cases hentry with
  | entersSignIn | entersHome | entersChat => exact ⟨_, rfl⟩

theorem printed {stream : Stream} {text : String} {next : Scene}
    (h : Passes silent (.printing stream text next) journal .finished) :
  ∃ rest, journal = .printed stream text :: rest ∧ Passes silent next rest .finished
  := by
  obtain _ | ⟨⟨⟩, -⟩ | ⟨⟨⟩, hrest⟩ := h
  exact ⟨_, rfl, hrest⟩

/-- A question is answered. -/
theorem answered {inquiry : Inquiry} (h : Passes silent (.asking inquiry) journal .finished) :
  ∃ line rest, journal = .read inquiry.question.ask line :: rest
  := by
  obtain _ | ⟨⟨⟩, -⟩ | ⟨hanswer, -⟩ := h
  cases hanswer with
  | ends => exact ⟨_, _, rfl⟩
  | answers => exact ⟨_, _, rfl⟩

end Passes

/-- A line is read at a list only when the options of that list were put. -/
theorem Follows.of_choice {scene next : Scene} {line : Line}
    (h : Follows scene (.read .choice line) next) :
  ∃ options, scene = .asking (.choice options)
    ∧ ((Inquiry.choice options).EndsOn line ∧ next = .finished
      ∨ ∃ words, line = .text words ∧ (Inquiry.choice options).Leads words next)
  := by
  obtain ⟨entry, hentry⟩ : ∃ entry, entry = Entry.read .choice line := ⟨_, rfl⟩
  rw [← hentry] at h
  cases h with
  | @ends inquiry _ hends =>
    cases inquiry with
    | choice options =>
      obtain ⟨-, rfl⟩ := Entry.read.inj hentry
      exact ⟨options, rfl, .inl ⟨hends, rfl⟩⟩
    | _ => cases (Entry.read.inj hentry).1
  | @answers inquiry words _ hleads =>
    cases inquiry with
    | choice options =>
      obtain ⟨-, rfl⟩ := Entry.read.inj hentry
      exact ⟨options, rfl, .inr ⟨words, rfl, hleads⟩⟩
    | _ => cases (Entry.read.inj hentry).1
  | @waits _ _ haside =>
    rw [hentry] at haside
    cases haside
  | _ => cases hentry

end Scene

end ChatPortal.App
