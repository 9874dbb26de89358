import ChatPortal.Proofs.App.Acting

/-!
# Attempts to sign in

The view to sign in is entered only while nobody is signed in, and nothing writes the credential
before the request to sign in is answered (`Scene.Passes.credential_of_isSigningIn`).  What is seen
then until the next view is entered depends on the reply alone (`Scene.Concludes`): the user is
signed in exactly when the reply admits somebody (`Client.Admits`), and is notified of a failure
exactly when the reply has none of the two codes of a success (`run_signs_in`).
-/

namespace ChatPortal

open Client Gateway Http Portal Reauth Terminal RouteTable

/-! ### What a reply says -/

namespace Client

/-- A reply admits somebody with a value: it is an envelope with code 0, whatever its status and
its data are, and the value is the first field for the credential, which is not empty and holds
visible ASCII, blanks and tabs alone. -/
def Admits (arrival : Arrival) (value : Bytes) : Prop :=
  ∃ response envelope, arrival = .ok response ∧ Envelope.parse response.body = .ok envelope
    ∧ envelope.code = 0 ∧ response.headers.get? Headers.authorization = some value
    ∧ value ≠ [] ∧ ∀ byte ∈ value, byte = 9 ∨ 32 ≤ byte ∧ byte < 127

/-- A reply is an envelope with one of the two codes of a success. -/
def Succeeds (arrival : Arrival) : Prop :=
  ∃ response envelope, arrival = .ok response ∧ Envelope.parse response.body = .ok envelope
    ∧ (envelope.code = 0 ∨ envelope.code = 1)

variable {arrival : Arrival} {value : Bytes}

/-- A value that admits somebody consists of the bytes of the credential that is granted. -/
theorem admits_iff :
  Admits arrival value ↔ ∃ token, grant? arrival = some token ∧ bytesOf token = value
  := by
  constructor
  · rintro ⟨response, envelope, rfl, hparse, hcode, hget, hsome, hbytes⟩
    have hlegible : legible? value = some _ := if_pos (all_isLegibleByte.mpr hbytes)
    refine ⟨_, grant?_eq_some.mpr
      ⟨response, envelope, value, rfl, hparse, hcode, hget, hlegible, ?_⟩,
      bytesOf_of_legible hlegible⟩
    intro hempty
    rw [hempty] at hlegible
    exact hsome (bytesOf_of_legible hlegible).symm
  · rintro ⟨token, hgrant, rfl⟩
    obtain ⟨response, envelope, value, rfl, hparse, hcode, hget, hlegible, htoken⟩ :=
      grant?_eq_some.mp hgrant
    have hvalue := bytesOf_of_legible hlegible
    subst hvalue
    refine ⟨response, envelope, rfl, hparse, hcode, hget, ?_, ?_⟩
    · intro hempty
      rw [hempty] at hlegible
      exact htoken (Option.some.inj hlegible).symm
    · rw [legible?, Option.ite_none_right_eq_some] at hlegible
      exact all_isLegibleByte.mp hlegible.1

/-- Nobody is admitted by a reply that grants nothing. -/
theorem not_admits (h : grant? arrival = none) (value : Bytes) :
  ¬ Admits arrival value
  := by
  intro hadmits
  obtain ⟨token, hgrant, -⟩ := admits_iff.mp hadmits
  cases h.symm.trans hgrant

/-- A reply with one of the codes of a success brings some data, whatever they are. -/
theorem succeeds_iff :
  Succeeds arrival ↔ ∃ value, judge .json arrival = .ok value
  := by
  constructor
  · rintro ⟨response, envelope, rfl, hparse, hcode⟩
    rw [judge_of_parse_ok hparse, judgeEnvelope_of_code hcode]
    exact ⟨envelope.data, rfl⟩
  · rintro ⟨value, hjudge⟩
    cases says_iff.mpr hjudge with
    | brought hparse hcode => exact ⟨_, _, rfl, hparse, hcode⟩

end Client

namespace App

namespace Scene

variable {silent : Prop} {start next scene : Scene} {entry : Entry} {journal : Journal}
  {initial : String}

/-! ### Nobody is signed in -/

/-- The user is signing in: the view was entered, and the request has no reply yet. -/
def isSigningIn : Scene → Bool
  | .printing _ _ next => next.isSigningIn
  | .asking .name | .greeting _ | .password _ => true
  | .calling request | .awaiting request => !request.needsSession
  | _ => false

/-- Whoever is signing in has done so before, and nothing has written the credential, or has just
entered the view. -/
theorem Follows.isSigningIn (h : Follows start entry next) (hnext : next.isSigningIn = true) :
  (start.isSigningIn = true ∧ entry.written? = none) ∨ entry = .viewed signInFirst
  := by
  cases h with
  | prints => exact .inl ⟨hnext, rfl⟩
  | entersSignIn => exact .inr rfl
  | asksPassword => exact .inl ⟨rfl, rfl⟩
  | signsIn => exact .inl ⟨rfl, rfl⟩
  | sends => exact .inl ⟨hnext, rfl⟩
  | receives hbrings =>
    cases hbrings with
    | _ => cases hnext
  | answers hleads =>
    cases hleads with
    | somebody => exact .inl ⟨rfl, rfl⟩
    | _ => cases hnext
  | _ => cases hnext

/-- Nobody begins to sign in without anything to be seen. -/
theorem Slips.isSigningIn (h : Slips silent start next) :
  next.isSigningIn = false
  := by
  cases h with
  | goesOn request =>
    cases request with
    | signIn | options | detail | beginChat | say => rfl
  | givesUp => rfl
  | stops => rfl

/-- While the user is signing in the credential is empty. -/
theorem Passes.credential_of_isSigningIn {before : Journal}
    (h : Passes silent start journal scene)
    (hstart : start.isSigningIn = true → before.credential initial = "")
    (hentries : Journal.Every (EntryInOrder initial) (before ++ journal))
    (hscene : scene.isSigningIn = true) :
  Journal.credential initial (before ++ journal) = ""
  := by
  induction h generalizing before with
  | nil scene =>
    rw [List.append_nil]
    exact hstart hscene
  | slip hslips _ ih =>
    refine ih ?_ hentries hscene
    intro hnext
    cases hslips.isSigningIn.symm.trans hnext
  | @cons start next scene entry journal hentry _ ih =>
    rw [List.append_cons] at hentries ⊢
    refine ih ?_ hentries hscene
    intro hnext
    rw [Journal.credential_concat]
    rcases hentry.isSigningIn hnext with ⟨hsigning, hwritten⟩ | rfl
    · rw [hwritten, Option.getD_none, hstart hsigning]
    · have hviewed := hentries before (.viewed signInFirst) journal (List.append_assoc _ _ _)
      exact hviewed.mp rfl

/-! ### The request -/

/-- A request to sign in is sent by somebody who is signing in. -/
theorem Follows.of_signPath {call : Call} (h : Follows start (.sent call) next)
    (hpath : call.path = signPath) :
  start.isSigningIn = true ∧ ∃ username password, next = .awaiting (.signIn username password)
  := by
  have hother : ¬ optionPath = signPath ∧ ¬ detailPath = signPath ∧ ¬ chatInitPath = signPath
      ∧ ¬ chatMessagePath = signPath := by decide
  cases h with
  | signsIn => exact ⟨rfl, _, _, rfl⟩
  | @sends request _ hcall =>
    rw [hcall] at hpath
    cases request with
    | signIn => exact ⟨rfl, _, _, rfl⟩
    | options => exact absurd hpath hother.1
    | detail => exact absurd hpath hother.2.1
    | beginChat => exact absurd hpath hother.2.2.1
    | say => exact absurd hpath hother.2.2.2
  | waits _ haside => cases haside

/-- After the question for a password the request is sent, or nothing is seen any more. -/
theorem Follows.after_password {text : String} {after : Journal}
    (h : Follows start (.askedPassword text) next) (hafter : Passes silent next after .finished) :
  after = [] ∨ ∃ call rest, after = .sent call :: rest ∧ call.path = signPath
  := by
  cases h with
  | asksPassword =>
    obtain _ | ⟨hslips, hrest⟩ | ⟨hentry, -⟩ := hafter
    · cases hslips
      exact .inl hrest.nothing
    · cases hentry with
      | signsIn hcall =>
        exact .inr ⟨_, _, rfl, congrArg Call.path hcall⟩
  | waits _ haside => cases haside

/-! ### What follows upon the reply -/

/-- What is seen after the reply to a request to sign in until the next view is entered, and which
one that is. -/
inductive Concludes : Arrival → Journal → Target → Prop where
  | accepted {arrival : Arrival} {token : String} (h : grant? arrival = some token) :
      Concludes arrival [] home
  | refused {arrival : Arrival} {value : Json} (hjudge : judge .json arrival = .ok value)
      (hgrant : grant? arrival = none) :
      Concludes arrival [.printed .err refusal] signInFirst
  | failed {arrival : Arrival} {notice : Notice} {asides : Journal}
      (h : Notice.ofResult? (judge .json arrival) = some notice)
      (hasides : ∀ entry ∈ asides, isAside entry = true ∨ entry = .restarted) :
      Concludes arrival (.notified notice :: asides) signInFirst

/-- After a failure the user may sign in again, with or without a prompt before that. -/
theorem Passes.after_failure {username password : String}
    (h : Passes silent (.failed (.signIn username password)) journal .finished) :
  ∃ asides rest, journal = asides ++ .viewed signInFirst :: rest
    ∧ ∀ entry ∈ asides, isAside entry = true ∨ entry = .restarted
  := by
  obtain ⟨start, hstart⟩ : ∃ start, start = Scene.failed (.signIn username password) := ⟨_, rfl⟩
  obtain ⟨scene, hscene⟩ : ∃ scene, scene = Scene.finished := ⟨_, rfl⟩
  rw [← hstart, ← hscene] at h
  induction h with
  | nil scene => cases hstart.symm.trans hscene
  | slip hslips hrest =>
    subst hstart hscene
    cases hslips with
    | goesOn =>
      obtain ⟨rest, rfl⟩ := hrest.entered
      exact ⟨[], rest, rfl, nofun⟩
  | @cons start next scene entry journal hentry hrest ih =>
    subst hstart hscene
    cases hentry with
    | waits _ haside =>
      obtain ⟨asides, rest, rfl, hasides⟩ := ih rfl rfl
      refine ⟨entry :: asides, rest, rfl, ?_⟩
      rw [List.forall_mem_cons]
      exact ⟨.inl haside, hasides⟩
    | restarts =>
      obtain ⟨rest, rfl⟩ := hrest.entered
      exact ⟨[.restarted], rest, rfl, by simp⟩

/-- A request to sign in has a reply, and a view is entered after it. -/
theorem Passes.concludes {username password : String}
    (h : Passes silent (.awaiting (.signIn username password)) journal .finished) :
  ∃ arrival seen view rest, journal = .received arrival :: (seen ++ .viewed view :: rest)
    ∧ Concludes arrival seen view
  := by
  obtain _ | ⟨⟨⟩, -⟩ | ⟨hentry, hrest⟩ := h
  cases hentry with
  | receives hbrings =>
    cases hbrings with
    | accepted hgrant =>
      obtain ⟨rest, rfl⟩ := hrest.entered
      exact ⟨_, [], home, rest, rfl, .accepted hgrant⟩
    | refused hjudge hgrant =>
      obtain ⟨_, rfl, hentering⟩ := hrest.printed
      obtain ⟨rest, rfl⟩ := hentering.entered
      exact ⟨_, _, signInFirst, rest, rfl, .refused hjudge hgrant⟩
  | fails hfails =>
    obtain _ | ⟨⟨⟩, -⟩ | ⟨⟨⟩, hfailed⟩ := hrest
    obtain ⟨asides, rest, rfl, hasides⟩ := hfailed.after_failure
    exact ⟨_, _, signInFirst, rest, rfl, .failed hfails hasides⟩

end Scene

/-! ### Attempts -/

/-- What has become of a request to sign in, by its reply, when the next view is entered: by what
was seen until then, by that view, and by the credential. -/
structure Attempted (arrival : Arrival) (seen : Journal) (view : Target) (credential : String) :
    Prop where
  next : ∀ target, .viewed target ∉ seen
  signedIn_iff : view = home ∧ credential ≠ "" ↔ ∃ value, Admits arrival value
  admitted : ∀ value, Admits arrival value → bytesOf credential = value ∧ seen.notified = []
  rejected : (∀ value, ¬ Admits arrival value) → view = signInFirst ∧ credential = ""
    ∧ (Succeeds arrival → seen.notified = [])
    ∧ (¬ Succeeds arrival → ∃ notice, seen.notified = [notice])

/-- Whoever is not admitted is to sign in again. -/
theorem Attempted.of_rejected {arrival : Arrival} {seen : Journal}
    (hgrant : grant? arrival = none) (hnext : ∀ target, .viewed target ∉ seen)
    (hquiet : Succeeds arrival → seen.notified = [])
    (hnotified : ¬ Succeeds arrival → ∃ notice, seen.notified = [notice]) :
  Attempted arrival seen signInFirst ""
  where
  next := hnext
  signedIn_iff := by
    constructor
    · rintro ⟨-, hcredential⟩
      exact absurd rfl hcredential
    · rintro ⟨value, hadmits⟩
      exact absurd hadmits (not_admits hgrant value)
  admitted := fun value hadmits => absurd hadmits (not_admits hgrant value)
  rejected := fun _ => ⟨rfl, rfl, hquiet, hnotified⟩

/-- Neither a prompt nor a new start notifies of anything or enters a view. -/
theorem notified_of_asides {asides : Journal}
    (h : ∀ entry ∈ asides, Scene.isAside entry = true ∨ entry = .restarted) :
  asides.notified = [] ∧ ∀ target, .viewed target ∉ asides
  := by
  constructor
  · apply List.filterMap_eq_nil_iff.mpr
    intro entry hmem
    rcases h entry hmem with haside | rfl
    · cases entry with
      | notified => cases haside
      | _ => rfl
    · rfl
  · intro target hmem
    rcases h _ hmem with haside | hrestarted
    · cases haside
    · cases hrestarted

/-- What is seen after the reply says what has become of the request: whoever is admitted has the
credential that is granted, and somebody is to sign in only while there is none. -/
theorem Scene.Concludes.attempted {arrival : Arrival} {seen : Journal} {view : Target}
    {credential : String} (h : Concludes arrival seen view)
    (hgranted : ∀ token, grant? arrival = some token → seen = [] → credential = token)
    (hsigned : view.name = signName ↔ credential = "") :
  Attempted arrival seen view credential
  := by
  cases h with
  | @accepted token hgrant =>
    obtain rfl := hgranted token hgrant rfl
    have hadmits : Admits arrival (bytesOf credential) := admits_iff.mpr ⟨_, hgrant, rfl⟩
    obtain ⟨-, -, -, -, -, -, -, -, htoken⟩ := grant?_eq_some.mp hgrant
    refine ⟨nofun, iff_of_true ⟨rfl, htoken⟩ ⟨_, hadmits⟩, ?_, ?_⟩
    · intro value hvalue
      obtain ⟨token, htaken, rfl⟩ := admits_iff.mp hvalue
      obtain rfl := Option.some.inj (hgrant.symm.trans htaken)
      exact ⟨rfl, rfl⟩
    · intro hnobody
      exact absurd hadmits (hnobody _)
  | refused hjudge hgrant =>
    obtain rfl := hsigned.mp rfl
    have hsucceeds : Succeeds arrival := succeeds_iff.mpr ⟨_, hjudge⟩
    refine .of_rejected hgrant (by simp) (fun _ => rfl) ?_
    intro hfails
    exact absurd hsucceeds hfails
  | @failed notice asides hresult hasides =>
    obtain rfl := hsigned.mp rfl
    obtain ⟨hquiet, hnext⟩ := notified_of_asides hasides
    have hfails : ¬ Succeeds arrival := by
      intro hsucceeds
      obtain ⟨value, hjudge⟩ := succeeds_iff.mp hsucceeds
      rw [hjudge] at hresult
      cases hresult
    have hgrant : grant? arrival = none := by
      cases hgrant : grant? arrival with
      | none => rfl
      | some token => exact absurd (succeeds_iff.mpr (judge_json_of_grant hgrant)) hfails
    have hnotified : Journal.notified (.notified notice :: asides) = [notice] :=
      congrArg (notice :: ·) hquiet
    refine .of_rejected hgrant ?_ (fun hsucceeds => absurd hsucceeds hfails) ?_
    · intro target hmem
      rcases List.mem_cons.mp hmem with heq | hmem
      · cases heq
      · exact hnext target hmem
    · intro _
      exact ⟨notice, hnotified⟩

/-- In every run of the program, a question for a password is followed by a request to sign in, or
by nothing any more.  Every request to sign in is made while nobody is signed in,
and it has a reply and then a next view, which is the one of the portal with somebody signed in
exactly when the reply is an envelope with code 0, whatever its status and its data are, whose
first field for the credential is visible ASCII and not empty; then the credential is the value of
that field.  Otherwise it is the view to sign in, nobody is signed in, and the user was notified
once of the failure unless the reply is an envelope with code 0 or 1, and then not at all. -/
theorem run_signs_in
    (account : Account) (link : Link) (now : Calendar.Instant) (prompter : Prompter)
    (script : Script) :
  let app := ((App.start (Client.fresh account link now) prompter).run script).1
  let journal := app.client.journal
  let initial := account.session.credential
  app.client.credential = journal.credential initial
    ∧ (∀ before text after, journal = before ++ .askedPassword text :: after →
      after = [] ∨ ∃ call rest, after = .sent call :: rest ∧ call.path = signPath)
    ∧ ∀ before call after, journal = before ++ .sent call :: after → call.path = signPath →
      before.credential initial = ""
        ∧ ∃ arrival seen view rest, after = .received arrival :: (seen ++ .viewed view :: rest)
          ∧ Attempted arrival seen view
            (Journal.credential initial (before ++ .sent call :: .received arrival :: seen))
  := by
  intro app journal initial
  have hsafe : Safe initial app :=
    (Safe.start account link now prompter).readAll script.lines script.passwords
  have hentries : journal.Every (EntryInOrder initial) := hsafe.client.entries
  obtain ⟨hpasses, -⟩ : Scene.Passes True (.entering (firstView initial)) journal .finished ∧ _ :=
    run_passes account link now prompter script (.inl trivial)
  refine ⟨hsafe.client.credential, ?asked, ?attempted⟩
  case asked =>
    intro before text after hsplit
    rw [hsplit] at hpasses
    obtain ⟨middle, next, -, hasks, hafter⟩ := hpasses.at_entry
    exact hasks.after_password hafter
  case attempted =>
    intro before call after hsplit hpath
    rw [hsplit] at hpasses hentries
    obtain ⟨middle, next, hbefore, hsends, hafter⟩ := hpasses.at_entry
    obtain ⟨hsigning, username, password, rfl⟩ := hsends.of_signPath hpath
    have hempty : Journal.credential initial ([] ++ before) = "" :=
      hbefore.credential_of_isSigningIn nofun (Journal.Every.of_append hentries) hsigning
    obtain ⟨arrival, seen, view, rest, rfl, hconcludes⟩ := hafter.concludes
    refine ⟨hempty, arrival, seen, view, rest, rfl, ?_⟩
    apply hconcludes.attempted
    · rintro token hgrant rfl
      rw [List.append_cons, Journal.credential_concat]
      simp [Entry.written?, hgrant]
    · exact hentries _ (.viewed view) rest (by simp)

/-- Somebody is refused, then not understood, and then admitted by a reply with the status of a
failure. -/
example :
  let accepted : Response :=
    { status := .serverError, headers := [(Headers.authorization, bytesOf "a\tb")],
      body := Envelope.body 0 "success" (.string "data") }
  let link : Link :=
    .ready
      [ (signPath, .envelope 1 "wrong password" .null), (signPath, .ofStatus 200 (bytesOf "hello")),
        (signPath, .ofResponse accepted) ]
  let client := Client.fresh ⟨{}, none⟩ link ⟨0, 0, 0⟩
  let app := ((App.start client .terminal).run ⟨["ada", "ada", "ada"].map bytesOf,
    ["1", "2", "3"]⟩).1
  let viewed? : Entry → Option Target := fun
    | .viewed target => some target
    | _ => none
  app.client.credential = "a\tb"
    ∧ app.client.journal.filterMap viewed? = [signInFirst, signInFirst, signInFirst, home]
  := by decide +kernel

end App

end ChatPortal
