import ChatPortal.Proofs.App.Scene
import ChatPortal.Proofs.App.Turns
import ChatPortal.Proofs.Client.Sending
import ChatPortal.Proofs.Http.Header
import ChatPortal.Proofs.Route.Return

/-!
# The program keeps to its script

`Acts silent start lines scene client` says that the journal of a client leads from the scene
`start` to `scene`, and that it tells of the lines `lines`.  What the program does next shows
a scene (`Stage.Shows`), and every turn leads from scene to scene (`Turn.plays`).  So the
journal of a whole run passes from the first view to the end (`run_passes`).
-/

namespace ChatPortal

open Client Gateway Http Portal Reauth Terminal RouteTable

namespace Client

/-- What was read, and what for. -/
def Entry.reading? : Entry → Option (Ask × Line)
  | .read ask line => some (ask, line)
  | _ => none

/-- The lines that were read, and what for. -/
def Journal.readings (journal : Journal) : List (Ask × Line) :=
  journal.filterMap Entry.reading?

theorem isSignedIn_congr {client client' : Client} (h : client'.credential = client.credential) :
  client'.isSignedIn = client.isSignedIn
  := congrArg (· != "") h

end Client

namespace App

open Scene

variable {α : Type} {silent : Prop} {start scene next : Scene} {lines : List Line}
  {client client' : Client} {app : App} {request : Request}

/-- The journal of a client has come to a scene, and tells of some lines.  Unless the
program may be silent, every request can be sent. -/
structure Acts (silent : Prop) (start : Scene) (lines : List Line) (scene : Scene)
    (client : Client) : Prop where
  passes : Passes silent start client.journal scene
  lines : client.journal.readings.map Prod.snd = lines
  sendable : silent ∨ isSendable client.credential = true

/-- What the program does next shows a scene, while somebody is signed in or not. -/
inductive Stage.Shows (signedIn : Bool) : Stage → Scene → Prop where
  | entering (view : View) (h : signedIn = view.needsSession) :
      Shows signedIn (.entering view.target) (.entering view)
  | asking (inquiry : Inquiry) (h : signedIn = inquiry.needsSession) :
      Shows signedIn (.asking inquiry.question) (.asking inquiry)
  | consent (request : Request) (h : signedIn = request.needsSession) (number : Nat) :
      Shows signedIn (.asking (.consent number request.fallback)) (.failed request)
  | password (username : String) (h : signedIn = false) :
      Shows signedIn (.askingPassword signInFirst username) (.password username)
  | ended (result : Except Trouble Unit) : Shows signedIn (.ended result) .finished

/-- The program has come to a scene that shows. -/
def Plays (silent : Prop) (start : Scene) (lines : List Line) (app : App) : Prop :=
  ∃ scene, Acts silent start lines scene app.client
    ∧ app.stage.Shows app.client.isSignedIn scene

namespace Acts

theorem fresh (account : Account) (link : Link) (now : Calendar.Instant) (start : Scene)
    (h : silent ∨ isSendable account.session.credential = true) :
  Acts silent start [] start (Client.fresh account link now)
  := ⟨.nil start, rfl, h⟩

theorem tell (h : Acts silent start lines scene client) {entry : Entry}
    (hfollows : Follows scene entry next) (hread : entry.reading? = none) :
  Acts silent start lines next (client.note entry)
  := by
  refine ⟨h.passes.concat hfollows, ?_, h.sendable⟩
  simp [Journal.readings, hread, ← h.lines]

theorem hear (h : Acts silent start lines scene client) {ask : Ask} {line : Line}
    (hfollows : Follows scene (.read ask line) next) :
  Acts silent start (lines ++ [line]) next (client.note (.read ask line))
  := by
  refine ⟨h.passes.concat hfollows, ?_, h.sendable⟩
  simp [Journal.readings, Entry.reading?, ← h.lines]

theorem slip (h : Acts silent start lines scene client) (hslips : Slips silent scene next) :
  Acts silent start lines next client
  := { h with passes := h.passes.slipOn hslips }

/-- The journal and the credential are all that counts. -/
theorem of_journal (h : Acts silent start lines scene client)
    (hjournal : client'.journal = client.journal)
    (hsendable : silent ∨ isSendable client'.credential = true) :
  Acts silent start lines scene client'
  := by
  refine ⟨?_, ?_, hsendable⟩
  · rw [hjournal]
    exact h.passes
  · rw [hjournal]
    exact h.lines

theorem wait (h : Acts silent start lines (.failed request) client) (entry : Entry)
    (haside : isAside entry = true) (hread : entry.reading? = none) :
  Acts silent start lines (.failed request) (client.note entry)
  := h.tell (.waits request haside) hread

/-! ### Calls -/

/-- A credential that a reply grants can be sent. -/
theorem sendable_receive (h : silent ∨ isSendable client.credential = true)
    (decoder : Json.Decoder α) (arrival : Arrival) :
  silent ∨ isSendable (client.receive decoder arrival).2.credential = true
  := by
  refine h.imp_right fun hsendable => ?_
  rw [credential_receive]
  cases hgrant : grant? arrival with
  | none => exact hsendable
  | some token => exact isSendable_of_grant hgrant

section Call

variable {decoder : Json.Decoder α} (h : Acts silent start lines scene client)
  (hsends : scene.Sends request)
include h hsends

/-- The call of a request is sent, unless the credential cannot be. -/
theorem send :
  (isSendable client.credential = false ∧ client.send request.call = (.error unsendable, client))
    ∨ ∃ reply client', client.send request.call = (.ok reply, client')
      ∧ client'.credential = client.credential
      ∧ Acts silent start lines (.awaiting request) client'
  := by
  cases hsendable : isSendable client.credential with
  | false =>
    exact .inl ⟨rfl, send_of_error client (prepare_of_not_sendable hsendable request.call)⟩
  | true =>
    obtain ⟨prepared, hprepare, -⟩ := exists_prepared hsendable request.call
    obtain ⟨headers, rfl⟩ : ∃ headers, prepared = { request.call with headers } := by
      rcases prepare_eq_ok hprepare with ⟨-, rfl⟩ | ⟨-, rfl⟩
      · exact ⟨_, rfl⟩
      · exact ⟨_, rfl⟩
    have hsent : Acts silent start lines (.awaiting request)
        (client.note (.sent { request.call with headers })) := h.tell (hsends headers) rfl
    exact .inr ⟨_, _, send_of_ok client hprepare, rfl, { hsent with }⟩

/-- A call that brings what was asked for leads on as its reply says. -/
theorem call_of_ok {value : α} (heq : client.call decoder request.call = (.ok value, client')) :
  ∃ arrival, judge decoder arrival = .ok value
    ∧ client'.credential = (grant? arrival).getD client.credential
    ∧ ∀ next, request.Brings arrival next → Acts silent start lines next client'
  := by
  rcases h.send hsends with ⟨-, hsend⟩ | ⟨reply, sent, hsend, hcredential, hsent⟩
  · simp [Client.call, hsend] at heq
  · simp only [Client.call, hsend] at heq
    have hjudge : judge decoder reply.arrival = .ok value := congrArg Prod.fst heq
    obtain rfl : (sent.receive decoder reply.arrival).2 = client' := congrArg Prod.snd heq
    have hkept : revokes reply.arrival = false := by
      cases hrevokes : revokes reply.arrival with
      | false => rfl
      | true =>
        obtain ⟨e, herror⟩ := judge_of_revokes hrevokes decoder
        rw [hjudge] at herror
        cases herror
    have hjournal : (sent.receive decoder reply.arrival).2.journal
        = (sent.note (.received reply.arrival)).journal := by
      rw [journal_receive, hjudge, hkept]
      simp [Notice.ofResult?]
    refine ⟨_, hjudge, by rw [credential_receive, hcredential], fun next hbrings => ?_⟩
    have hreceived := hsent.tell (.receives hbrings) rfl
    exact hreceived.of_journal hjournal (sendable_receive hsent.sendable decoder _)

/-- A call that fails leads to a failure, even if it cannot be sent. -/
theorem call_of_error {e : GatewayError}
    (heq : client.call decoder request.call = (.error e, client'))
    (hfails : ∀ arrival, judge decoder arrival = .error e →
      request.Fails arrival (.error e.message))
    (hunsent : isSendable client.credential = false → Slips silent scene (.failed request)) :
  Acts silent start lines (.failed request) client'
  := by
  rcases h.send hsends with ⟨hunsendable, hsend⟩ | ⟨reply, sent, hsend, -, hsent⟩
  · simp only [Client.call, hsend, Prod.mk.injEq] at heq
    rw [← heq.2]
    exact h.slip (hunsent hunsendable)
  · simp only [Client.call, hsend] at heq
    have hjudge : judge decoder reply.arrival = .error e := congrArg Prod.fst heq
    obtain rfl : (sent.receive decoder reply.arrival).2 = client' := congrArg Prod.snd heq
    have hreceived := hsent.tell (.fails (hfails _ hjudge)) rfl
    have hnotified := hreceived.tell (.notifies _ request) rfl
    have hsendable := sendable_receive hsent.sendable decoder reply.arrival
    cases hrevokes : revokes reply.arrival with
    | false =>
      apply hnotified.of_journal _ hsendable
      rw [journal_receive, hjudge, hrevokes]
      simp [Notice.ofResult?]
    | true =>
      have htriggered := hnotified.wait (.triggered sent.trigger.1) rfl rfl
      apply htriggered.of_journal _ hsendable
      rw [journal_receive, hjudge, hrevokes]
      simp [Notice.ofResult?]

end Call

/-! ### Prompts -/

/-- A prompt may be shown after a failure. -/
theorem showPrompt (h : Acts silent start lines (.failed request) client) (number : Nat) :
  Acts silent start lines (.failed request) (client.showPrompt number)
  := by
  cases hshow : client.flow.show? number with
  | none =>
    rw [showPrompt_of_none _ hshow]
    exact h
  | some flow =>
    rw [showPrompt_of_some _ hshow]
    exact { h.wait (.prompted (.inLocale client.locale)) rfl rfl with }

/-- A prompt may close after a failure. -/
theorem closePrompt (h : Acts silent start lines (.failed request) client) (number : Nat)
    (ending : Ending) :
  Acts silent start lines (.failed request) (client.closePrompt number ending)
  := by
  cases hclose : client.flow.close? number ending with
  | none =>
    rw [closePrompt_of_none _ hclose]
    exact h
  | some flow =>
    have hclosed := h.wait (.closed ending) rfl rfl
    apply hclosed.of_journal
    · rw [closePrompt_of_some _ hclose, journal_note, journal_obey, journal_note]
    · rcases client.closePrompt_cases number ending with ⟨hcredential, -⟩ | ⟨hcredential, -⟩
      · rw [hcredential]
        exact h.sendable
      · rw [hcredential]
        exact .inr rfl

end Acts

/-! ### Ways to go on -/

theorem print_acts {stream : Stream} {text : String}
    (h : Acts silent start lines (.printing stream text next) app.client) :
  Acts silent start lines next (app.print stream text).client
  := h.tell (.prints stream text next) rfl

theorem ask_plays (inquiry : Inquiry) (h : Acts silent start lines (.putting inquiry) app.client)
    (hsigned : app.client.isSignedIn = inquiry.needsSession) :
  Plays silent start lines (app.ask inquiry.question)
  := ⟨.asking inquiry, print_acts h, .asking inquiry hsigned⟩

/-- The guard lets the program to a view. -/
theorem navigate_view (view : View) :
  standard.navigate view.needsSession view.target = view.target
  := by
  have hportal : ¬ portalName = signName := portalName_ne_signName
  have hsession : ¬ true = false := nofun
  cases view with
  | signIn => apply follow_of_isDue (.sign rfl rfl) (iff_of_true rfl rfl)
  | home => apply follow_of_isDue home_isStandard (iff_of_false hportal hsession)
  | chat schema => apply follow_of_isDue (.portal rfl rfl) (iff_of_false hportal hsession)

theorem goTo_plays (view : View) (h : Acts silent start lines (.entering view) app.client)
    (hsigned : app.client.isSignedIn = view.needsSession) :
  Plays silent start lines (app.goTo view.target)
  := by
  refine ⟨.entering view, h, ?_⟩
  rw [goTo, hsigned, navigate_view]
  exact .entering view rfl

/-- The view that comes first on the way home. -/
def firstView (credential : String) : View := if credential = "" then .signIn else .home

/-- The program may go home, or sign in first. -/
theorem goHome_plays
    (h : Acts silent start lines (.entering (firstView app.client.credential)) app.client) :
  Plays silent start lines (app.goTo home)
  := by
  cases hsigned : app.client.isSignedIn with
  | false =>
    rw [firstView, if_pos ((isSignedIn_eq_false _).mp hsigned)] at h
    have hfirst : standard.navigate false home = View.signIn.target := by decide
    refine ⟨_, h, ?_⟩
    rw [goTo, hsigned, hfirst]
    exact .entering .signIn rfl
  | true =>
    have hcredential : app.client.credential ≠ "" := bne_iff_ne.mp hsigned
    rw [firstView, if_neg hcredential] at h
    exact goTo_plays .home h hsigned

theorem end_plays (h : Acts silent start lines .finished app.client)
    (result : Except Trouble Unit) :
  Plays silent start lines { app with stage := .ended result }
  := ⟨.finished, h, .ended result⟩

/-! ### After a failure -/

section Failure

variable (h : Acts silent start lines (.failed request) app.client)
include h

/-- The program may go on after a failure. -/
theorem fallBack_plays (hsigned : app.client.isSignedIn = request.needsSession) :
  Plays silent start lines (app.fallBack request.fallback)
  := by
  have hgoes := h.slip (.goesOn request)
  cases request with
  | signIn username password => exact goTo_plays .signIn hgoes hsigned
  | options => exact ask_plays (.retry .home) hgoes hsigned
  | detail schema => exact ask_plays (.retry (.chat schema)) hgoes hsigned
  | beginChat schema => exact ask_plays (.retry (.chat schema)) hgoes hsigned
  | say schema words => exact ask_plays (.message schema) hgoes hsigned

theorem resolve_plays (hidle : Idle .calm app.client)
    (hsigned : app.client.isSignedIn = request.needsSession) :
  Plays silent start lines (app.resolve request.fallback)
  := by
  rw [resolve_of_eq_zero hidle.readInbox.1]
  exact fallBack_plays { h with } hsigned

/-- A restart was requested, so the program starts over. -/
theorem restart_plays (hidle : Idle .confirmed app.client)
    (hcredential : app.client.credential = "") (fallback : Fallback) :
  Plays silent start lines (app.resolve fallback)
  := by
  obtain ⟨hrequests, -⟩ := hidle.restart
  have hsome : app.client.readInbox.1 ≠ 0 := by omega
  have hread : Acts silent start lines (.failed request) app.client.readInbox.2 := { h with }
  rw [resolve_of_ne_zero hsome, restart]
  apply goHome_plays
  have hview : firstView app.client.credential = .signIn := if_pos hcredential
  have hrestarted := hread.tell (.restarts request) rfl
  rw [← hview] at hrestarted
  exact hrestarted

theorem close_plays {number : Nat} {answer : Option Line} {ending : Ending}
    (hshowing : Showing number answer app.client)
    (hending : ∀ line ∈ answer, line.ending = ending)
    (hsigned : app.client.isSignedIn = request.needsSession) :
  Plays silent start lines ((app.close number ending).resolve request.fallback)
  := by
  have hclosed := h.closePrompt number ending
  rcases hshowing.close hending with ⟨-, hidle, hcredential⟩ | ⟨-, hidle, hcredential⟩
  · exact restart_plays hclosed hidle hcredential _
  · exact resolve_plays hclosed hidle ((isSignedIn_congr hcredential).trans hsigned)

/-- The program goes on after a failed call, or waits for the answer to its prompt. -/
theorem settle_plays (hfailed : Failed app.client)
    (hsigned : app.client.isSignedIn = request.needsSession) :
  Plays silent start lines (app.settle request.fallback)
  := by
  have htaken : Acts silent start lines (.failed request) app.client.takePending.2 := { h with }
  rcases hfailed with hidle | ⟨number, hasked⟩
  · obtain ⟨hpending, hcalm⟩ := hidle.takePending
    simp only [settle, hpending, Option.filter_none]
    exact resolve_plays htaken hcalm hsigned
  · obtain ⟨hpending, hshowing⟩ := hasked.present
    have hshown := htaken.showPrompt number
    have hstill : (app.client.takePending.2.showPrompt number).isSignedIn
        = request.needsSession :=
      (isSignedIn_congr (credential_showPrompt _ number)).trans hsigned
    simp only [settle, hpending]
    split
    · exact ⟨_, hshown, .consent request hstill number⟩
    · exact close_plays hshown hshowing (by simp) hstill

end Failure

/-! ### The views -/

theorem calling_sends (request : Request) :
  Sends (.calling request) request
  := fun _ => .sends rfl

theorem ofResult?_of_error {result : Except GatewayError α} {e : GatewayError}
    (h : result = .error e) :
  Notice.ofResult? result = some (.error e.message)
  := by
  rw [h]
  rfl

section Call

variable {decoder : Json.Decoder α} (hidle : Idle .calm client)
  (hsigned : client.isSignedIn = true) (h : Acts silent start lines (.calling request) client)
include hidle hsigned h

theorem call_acts {value : α} (heq : client.call decoder request.call = (.ok value, client')) :
  client'.isSignedIn = true ∧ Idle .calm client'
    ∧ ∃ arrival, judge decoder arrival = .ok value
      ∧ ∀ next, request.Brings arrival next → Acts silent start lines next client'
  := by
  have hkept := credential_call_ne (bne_iff_ne.mp hsigned) decoder request.call
  rw [heq] at hkept
  obtain ⟨arrival, hjudge, -, hnext⟩ := h.call_of_ok (calling_sends request) heq
  exact ⟨bne_iff_ne.mpr hkept, hidle.call_of_ok heq, arrival, hjudge, hnext⟩

/-- The program may go on after a call that has failed. -/
theorem failed_plays {e : GatewayError} (hneeds : request.needsSession = true)
    (heq : client.call decoder request.call = (.error e, client'))
    (hfails : ∀ arrival, judge decoder arrival = .error e →
      request.Fails arrival (.error e.message)) :
  Plays silent start lines ({ app with client := client' }.settle request.fallback)
  := by
  have hkept := credential_call_ne (bne_iff_ne.mp hsigned) decoder request.call
  rw [heq] at hkept
  have hfailed := h.call_of_error (calling_sends request) heq hfails fun hunsendable =>
    .givesUp (h.sendable.resolve_right (by simp [hunsendable])) request
  exact settle_plays hfailed (hidle.call_of_error heq) ((bne_iff_ne.mpr hkept).trans hneeds.symm)

end Call

section Portal

variable (hidle : Idle .calm app.client) (hsigned : app.client.isSignedIn = true)
include hidle hsigned

/-- The user may pick a schema. -/
theorem listSchemas_plays (h : Acts silent start lines (.calling .options) app.client) :
  Plays silent start lines (app.listSchemas home)
  := by
  rw [listSchemas]
  split
  · next heq =>
    exact failed_plays hidle hsigned h rfl heq fun _ => ofResult?_of_error
  · next heq =>
    obtain ⟨-, -, arrival, hjudge, hnext⟩ := call_acts hidle hsigned h heq
    exact end_plays (print_acts (hnext _ (.listsNone hjudge _))) _
  · next hsome heq =>
    obtain ⟨hstill, -, arrival, hjudge, hnext⟩ := call_acts hidle hsigned h heq
    exact ask_plays (.choice _) (print_acts (hnext _ (.lists hjudge hsome _))) hstill

/-- The chat about a schema may begin. -/
theorem beginChat_plays {schema : String}
    (h : Acts silent start lines (.calling (.detail schema)) app.client) :
  Plays silent start lines (app.beginChat (chatTarget schema) schema)
  := by
  rw [App.beginChat]
  split
  · next heq =>
    exact failed_plays hidle hsigned h rfl heq fun _ => ofResult?_of_error
  · next detail client heq =>
    obtain ⟨hstill, hcalm, arrival, hjudge, hnext⟩ := call_acts hidle hsigned h heq
    have hdescribed : Acts silent start lines (.calling (.beginChat schema))
        (client.note (.printed .out (introduction detail))) :=
      (hnext _ (.describes hjudge)).tell (.prints _ _ _) rfl
    have hprinted : Idle .calm (client.note (.printed .out (introduction detail))) :=
      hcalm.tell rfl
    simp only
    split
    · next heq =>
      exact failed_plays hprinted hstill hdescribed rfl heq fun _ => ofResult?_of_error
    · next heq =>
      obtain ⟨hlast, -, arrival, hjudge, hnext⟩ := call_acts hprinted hstill hdescribed heq
      exact ask_plays (.message schema) (print_acts (hnext _ (.begins hjudge))) hlast

/-- The user may say something in the chat. -/
theorem say_plays {schema words : String}
    (h : Acts silent start lines (.calling (.say schema words)) app.client) :
  Plays silent start lines (app.say (chatTarget schema) words)
  := by
  rw [App.say]
  split
  · next heq =>
    exact failed_plays hidle hsigned h rfl heq fun _ => ofResult?_of_error
  · next heq =>
    obtain ⟨hstill, -, arrival, hjudge, hnext⟩ := call_acts hidle hsigned h heq
    simp only
    split
    · next hnone =>
      rw [hnone] at hjudge
      exact ask_plays (.message schema) (hnext _ (.saysNothing hjudge)) hstill
    · next hsome =>
      exact ask_plays (.message schema) (print_acts (hnext _ (.replies hjudge hsome))) hstill

end Portal

/-- The view that comes next may be entered. -/
theorem enter_plays {target : Target} (hsuits : (Stage.entering target).Suits app.client)
    (h : Acts silent start lines scene app.client)
    (hshows : (Stage.entering target).Shows app.client.isSignedIn scene) :
  Plays silent start lines (app.enter target)
  := by
  have hviewed := viewed_idle hsuits
  cases hshows with
  | entering view hsigned =>
    cases view with
    | signIn =>
      have hentered := h.tell (.entersSignIn (heading (app.phrase .controlPanel))) rfl
      exact ask_plays .name (print_acts hentered) hsigned
    | home => exact listSchemas_plays hviewed hsigned (h.tell .entersHome rfl)
    | chat schema =>
      have hvalue : (chatTarget schema).value? schemaKey = some schema := rfl
      have hentered : Acts silent start lines (.calling (.detail schema))
          (app.note (.viewed (chatTarget schema))).client := h.tell (.entersChat schema) rfl
      have hstill : (app.note (.viewed (chatTarget schema))).client.isSignedIn = true := hsigned
      have hbegun := beginChat_plays hviewed hstill hentered
      have hname : (chatTarget schema).name ≠ signName := portalName_ne_signName
      rw [enter, View.target, if_neg hname, enterPortal, hvalue]
      simp only [openSchema, if_pos]
      exact hbegun

/-! ### Answers -/

theorem quit_plays {inquiry : Inquiry}
    (h : Acts silent start lines (.asking inquiry) app.client) (line : Line)
    (hends : inquiry.EndsOn line) (result : Except Trouble Unit) :
  Plays silent start (lines ++ [line])
    { app.note (.read inquiry.question.ask line) with stage := .ended result }
  := end_plays (h.hear (.ends hends)) result

/-- Any words but the last ones may be heard in the chat. -/
theorem hear_plays {schema words : String} (hidle : Idle .calm app.client)
    (hsigned : app.client.isSignedIn = true)
    (h : ∀ next, (Inquiry.message schema).Leads words next →
      Acts silent start lines next app.client)
    (hstays : words ≠ "/quit") :
  Plays silent start lines (app.hear (chatTarget schema) words)
  := by
  by_cases hblank : words = ""
  · subst hblank
    exact ask_plays (.message schema) (h _ (.blank schema)) hsigned
  · by_cases hback : words = "/back"
    · subst hback
      exact goTo_plays .home (h _ (.back schema)) hsigned
    · rw [hear, if_neg hblank, if_neg hstays, if_neg hback, localeOf?]
      by_cases hcommand : localeCommand.toList <+: words.toList
      · have hset := h _ (.setsLocale schema hcommand)
        rw [if_pos hcommand]
        exact ask_plays (.message schema) { hset with } hsigned
      · rw [if_neg hcommand]
        exact say_plays hidle hsigned (h _ (.speaks schema ⟨hblank, hstays, hback, hcommand⟩))

/-- Any line may answer a question. -/
theorem inquire_plays {inquiry : Inquiry} (hidle : Idle .calm app.client)
    (hsigned : app.client.isSignedIn = inquiry.needsSession)
    (h : Acts silent start lines (.asking inquiry) app.client) (line : Line) :
  Plays silent start (lines ++ [line])
    ((app.note (.read inquiry.question.ask line)).answer inquiry.question line)
  := by
  have hleads {words : String} {next : Scene} (hwords : inquiry.Leads words next) :
      Acts silent start (lines ++ [.text words]) next
        (app.client.note (.read inquiry.question.ask (.text words))) :=
    h.hear (.answers hwords)
  cases line with
  | garbled =>
    have hended := quit_plays h .garbled trivial (.error Place.notText)
    cases inquiry with
    | name | choice | message | retry => exact hended
  | ended =>
    have hended := quit_plays h .ended trivial (.ok ())
    cases inquiry with
    | name | choice | message | retry => exact hended
  | text words =>
    cases inquiry with
    | name =>
      rw [Inquiry.question, App.answer]
      split
      · next hnobody =>
        subst hnobody
        exact goTo_plays .signIn (hleads .nobody) hsigned
      · next hsomebody =>
        have hasked := (hleads (.somebody hsomebody)).tell (.asksPassword words "Password: ") rfl
        exact ⟨_, hasked, .password words hsigned⟩
    | choice options =>
      rw [Inquiry.question, App.answer]
      split
      · next hquits =>
        subst hquits
        exact quit_plays h (.text _) rfl _
      · next hstays =>
        split
        · next option hpick =>
          have hother : ¬ home = chatTarget option.schema := by
            intro hsame
            cases congrArg Target.query hsame
          rw [openSchema, if_neg hother]
          exact goTo_plays (.chat option.schema) (hleads (.picks hstays hpick)) hsigned
        · next hpick =>
          exact ask_plays (.choice options) (print_acts (hleads (.rejects hstays hpick))) hsigned
    | message schema =>
      by_cases hquits : words = "/quit"
      · subst hquits
        exact quit_plays h (.text _) rfl _
      · exact hear_plays (hidle.tell rfl) hsigned (fun _ => hleads) hquits
    | retry view =>
      rw [Inquiry.question, App.answer]
      split
      · next hquits =>
        subst hquits
        exact quit_plays h (.text _) rfl _
      · next hstays => exact goTo_plays view (hleads (.retries view hstays)) hsigned

/-- The line that answers the prompt lets the program go on. -/
theorem consent_plays {number : Nat} (hshowing : Showing number none app.client)
    (hsigned : app.client.isSignedIn = request.needsSession)
    (h : Acts silent start lines (.failed request) app.client) (line : Line) :
  Plays silent start (lines ++ [line])
    ((app.note (.read .consent line)).answer (.consent number request.fallback) line)
  := by
  have hread : Acts silent start (lines ++ [line]) (.failed request)
      (app.client.note (.read .consent line)) := h.hear (.waits request rfl)
  have hclosed : Plays silent start (lines ++ [line])
      (((app.note (.read .consent line)).close number line.ending).resolve request.fallback) :=
    close_plays hread (hshowing.read line) (by simp) hsigned
  exact hclosed

/-- After the view to sign in that returns to home the program goes home. -/
theorem afterSignIn_signInFirst :
  standard.afterSignIn signInFirst = View.home.target
  := by
  have hportal : portalRoute ∈ standard.routes := by simp [standard]
  have hresolved : standard.resolve? home.fullPath = some home := resolve?_standard hportal []
  have hkept : signInFirst.value? returnKey = some home.fullPath := by decide
  rw [afterSignIn, hkept, Option.bind_some, hresolved]
  rfl

/-- The user may sign in with any password. -/
theorem signIn_plays {username : String} (hidle : Idle .calm app.client)
    (hsigned : app.client.isSignedIn = false)
    (h : Acts silent start lines (.password username) app.client) (password : String) :
  Plays silent start lines (app.signIn signInFirst username password)
  := by
  have hcredential : app.client.credential = "" := (isSignedIn_eq_false _).mp hsigned
  have hsends : Sends (.password username) (.signIn username password) := fun _ => .signsIn rfl
  obtain ⟨result, client, heq⟩ : ∃ result client,
      app.client.call .json (signCall username password) = (result, client) := ⟨_, _, rfl⟩
  cases result with
  | error e =>
    have hkept : client.isSignedIn = false :=
      (isSignedIn_congr (credential_of_json_error heq)).trans hsigned
    have hfailed := h.call_of_error hsends heq (fun _ => ofResult?_of_error) fun hunsendable => by
      rw [hcredential] at hunsendable
      cases hunsendable
    have hsettled : Plays silent start lines
        ({ app with client }.settle (Request.signIn username password).fallback) :=
      settle_plays hfailed (hidle.call_of_error heq) hkept
    rw [App.signIn, Client.signIn, heq]
    exact hsettled
  | ok value =>
    obtain ⟨arrival, hjudge, hwritten, hnext⟩ := h.call_of_ok hsends heq
    rw [App.signIn, Client.signIn, heq]
    cases hgrant : grant? arrival with
    | none =>
      rw [hgrant, Option.getD_none] at hwritten
      have hout : client.isSignedIn = false := (isSignedIn_congr hwritten).trans hsigned
      have hrefused := hnext _ (.refused hjudge hgrant)
      have hagain : Plays silent start lines
          (({ app with client }.print .err refusal).goTo View.signIn.target) :=
        goTo_plays .signIn (print_acts hrefused) hout
      simp only [Except.map, hout]
      exact hagain
    | some token =>
      obtain ⟨-, -, -, -, -, -, -, -, htoken⟩ := grant?_eq_some.mp hgrant
      rw [hgrant, Option.getD_some] at hwritten
      have hin : client.isSignedIn = true := by
        rw [← hwritten] at htoken
        exact bne_iff_ne.mpr htoken
      have haccepted : Plays silent start lines ({ app with client }.goTo View.home.target) :=
        goTo_plays .home (hnext _ (.accepted hgrant)) hin
      simp only [Except.map, hin, afterSignIn_signInFirst]
      exact haccepted

/-! ### Turns -/

/-- A turn leads from scene to scene. -/
theorem Turn.plays {app' : App} {line? : Option Line} (hturn : Turn app line? app')
    (hsuits : app.stage.Suits app.client) (h : Plays silent start lines app) :
  Plays silent start (lines ++ line?.toList) app'
  := by
  obtain ⟨scene, hacts, hshows⟩ := h
  cases hturn with
  | enters hstage =>
    rw [hstage] at hsuits hshows
    rw [Option.toList_none, List.append_nil]
    exact enter_plays hsuits hacts hshows
  | reads hstage line =>
    rw [hstage] at hsuits hshows
    cases hshows with
    | asking inquiry hsigned =>
      have hidle : Idle .calm app.client := by
        cases inquiry with
        | name | choice | message | retry => exact hsuits
      exact inquire_plays hidle hsigned hacts line
    | consent request hsigned number => exact consent_plays hsuits.1 hsigned hacts line
  | signsIn hstage password =>
    rw [hstage] at hsuits hshows
    rw [Option.toList_none, List.append_nil]
    cases hshows with
    | password username hsigned => exact signIn_plays hsuits hsigned hacts password
  | stops hstage trouble =>
    rw [hstage] at hshows
    rw [Option.toList_none, List.append_nil]
    cases hshows with
    | password username hsigned => exact end_plays (hacts.slip (.stops _)) _

/-- Some turns lead from scene to scene. -/
theorem Turns.plays {initial : String} {app' : App} {lines' : List Line}
    (hturns : Turns app lines' app') (hsound : Sound initial app)
    (h : Plays silent start lines app) :
  Sound initial app' ∧ Plays silent start (lines ++ lines') app'
  := by
  induction hturns with
  | refl =>
    rw [List.append_nil]
    exact ⟨hsound, h⟩
  | tail _ hturn ih =>
    obtain ⟨hsound', hplays⟩ := ih
    rw [← List.append_assoc]
    exact ⟨hturn.sound hsound', hturn.plays hsound'.suits hplays⟩

/-- The journal of a run leads from the first view to the end, and tells of the lines of
the script in their order, up to those that the run leaves, and then at most twice of the
end of all lines. -/
theorem run_passes (account : Account) (link : Link) (now : Calendar.Instant)
    (prompter : Prompter) (script : Script)
    (hsendable : silent ∨ isSendable account.session.credential = true) :
  let result := (App.start (Client.fresh account link now) prompter).run script
  let journal := result.1.client.journal
  Passes silent (.entering (firstView account.session.credential)) journal .finished
    ∧ ∃ taken count, script.lines = taken ++ result.2 ∧ count ≤ 2
      ∧ journal.readings.map Prod.snd = taken.map Line.ofBytes ++ List.replicate count .ended
  := by
  intro result journal
  obtain ⟨taken, count, hlines, hcount, hturns⟩ :=
    turns_run (Client.fresh account link now) prompter script
  have hfresh := Acts.fresh account link now
    (.entering (firstView account.session.credential)) hsendable
  obtain ⟨-, scene, hacts, hshows⟩ :=
    hturns.plays (Sound.fresh account link now prompter) (goHome_plays hfresh)
  obtain ⟨ending, hended⟩ := (Ended.run account link now prompter script).stage
  rw [hended] at hshows
  cases hshows
  exact ⟨hacts.passes, taken, count, hlines, hcount, hacts.lines⟩

end App

end ChatPortal
