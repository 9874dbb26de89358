import ChatPortal.Proofs.Client.Credential
import ChatPortal.Proofs.Client.Prompts

/-!
# After the last reply

The last reply to some calls may grant a credential while the prompt is still open on
which an earlier reply has insisted.  What becomes of the credential is then up to the
user: `Run.credential_after_last_grant` says that it stays, unless that prompt is confirmed.
-/

namespace ChatPortal.Client

open Gateway Http Reauth

/-- Something that happens on the side: no credential is set, no reply received and no
prompt asked for. -/
def Event.isAside : Event → Bool
  | .setCredential _ | .arrive _ | .trigger => false
  | _ => true

/-- A reply that grants a credential does not revoke it. -/
theorem revokes_of_grant {arrival : Arrival} {token : String} (h : grant? arrival = some token) :
  revokes arrival = false
  := by
  obtain ⟨response, envelope, value, rfl, hparse, hcode, -⟩ := grant?_eq_some.mp h
  have houtcome : envelope.outcome = .success := outcome_eq_success.mpr hcode
  simp [revokes, hparse, houtcome]

namespace Run

variable {canWait : Bool} {run : Run}

/-- A reply that grants a credential asks for no prompt. -/
theorem Writes.flow_arrive {number : Nat} {token : String}
    (h : Writes run (.arrive number) token) :
  (run.step (.arrive number)).client.flow = run.client.flow
  := by
  rcases run.arrive_cases number with ⟨flight, hflight, -, hclient⟩ | ⟨-, hsame⟩
  · rw [step, hclient, flow_receive, revokes_of_grant (h.grant hflight)]
    rfl
  · rw [step, hsame]

/-- While no prompt is open, what happens on the side leaves the credential and the prompts
alone; while one is, that prompt may close. -/
theorem aside_cases (h : PromptsTold canWait run.client) {event : Event}
    (haside : event.isAside = true) :
  ((run.step event).client.credential = run.client.credential
      ∧ (run.step event).client.flow.isOpen = run.client.flow.isOpen
      ∧ (run.client.flow.isOpen = false →
          (run.step event).client.flow.prompts = run.client.flow.prompts))
    ∨ ∃ ending : Ending, run.client.flow.isOpen = true
      ∧ (run.step event).client.flow.isOpen = false
      ∧ (run.step event).client.flow.prompts.getLast? = some (.closed ending)
      ∧ (run.step event).client.credential
        = if ending.isConfirmed then "" else run.client.credential
  := by
  cases event with
  | setCredential => cases haside
  | arrive => cases haside
  | trigger => cases haside
  | send call wanted =>
    rw [step, client_send]
    refine .inl ⟨credential_send _ call, ?_, fun _ => ?_⟩
    · rw [flow_send]
    · rw [flow_send]
  | showPrompt number =>
    refine .inl ⟨credential_showPrompt _ number, ?_⟩
    cases hshow : run.client.flow.show? number with
    | none =>
      rw [step, showPrompt_of_none _ hshow]
      exact ⟨rfl, fun _ => rfl⟩
    | some flow =>
      obtain ⟨hbefore, hafter⟩ := h.inTurn.latch_of_show hshow
      rw [step, showPrompt_of_some _ hshow]
      refine ⟨hafter.trans hbefore.symm, fun hclosed => ?_⟩
      cases hclosed.symm.trans hbefore
  | closePrompt number ending =>
    cases hclose : run.client.flow.close? number ending with
    | none =>
      rw [step, closePrompt_of_none _ hclose]
      exact .inl ⟨rfl, rfl, fun _ => rfl⟩
    | some flow =>
      obtain ⟨hbefore, hafter, hlast⟩ := h.inTurn.latch_of_close hclose
      rw [step, closePrompt_of_some _ hclose]
      refine .inr ⟨ending, hbefore, hafter, hlast, ?_⟩
      rw [credential_note]
      exact credential_obey run.client ending
  | _ => exact .inl ⟨rfl, rfl, fun _ => rfl⟩

/-- While no prompt is open, nothing that happens on the side changes the credential or the
prompts. -/
theorem after_asides_of_closed (h : PromptsTold canWait run.client)
    (hclosed : run.client.flow.isOpen = false) {events : List Event}
    (haside : ∀ event ∈ events, event.isAside = true) :
  (run.after events).client.credential = run.client.credential
    ∧ (run.after events).client.flow.prompts = run.client.flow.prompts
  := by
  induction events generalizing run with
  | nil => exact ⟨rfl, rfl⟩
  | cons event events ih =>
    obtain ⟨hevent, hevents⟩ := List.forall_mem_cons.mp haside
    rcases aside_cases h hevent with ⟨hcredential, hopen, hprompts⟩ | ⟨-, hopen, -⟩
    · have hstep := (run.moves_step event).preserve PromptsTold.of_move h
      obtain ⟨hcredential', hprompts'⟩ := ih hstep (hopen.trans hclosed) hevents
      exact ⟨hcredential'.trans hcredential, hprompts'.trans (hprompts hclosed)⟩
    · cases hopen.symm.trans hclosed

/-- What happens on the side clears the credential if a prompt that is open is confirmed,
and leaves it alone otherwise.  It opens no other prompt. -/
theorem credential_after_asides (h : PromptsTold canWait run.client) {events : List Event}
    (haside : ∀ event ∈ events, event.isAside = true) :
  (run.after events).client.credential
    = if run.client.flow.isOpen = true
        ∧ (run.after events).client.flow.prompts.getLast? = some (.closed (.decided .confirmed))
      then "" else run.client.credential
  := by
  induction events generalizing run with
  | nil =>
    rw [if_neg]
    · rfl
    · rintro ⟨hopen, hlast⟩
      obtain ⟨phase, hphase, hnot⟩ := h.inTurn.isOpen_iff.mp hopen
      obtain rfl := Option.some.inj (hphase.symm.trans hlast)
      cases hnot
  | cons event events ih =>
    obtain ⟨hevent, hevents⟩ := List.forall_mem_cons.mp haside
    have hstep := (run.moves_step event).preserve PromptsTold.of_move h
    rcases aside_cases h hevent with
      ⟨hcredential, hopen, -⟩ | ⟨ending, hbefore, hafter, hlast, hcredential⟩
    · rw [← hcredential, ← hopen]
      apply ih hstep hevents
    · obtain ⟨hsame, hprompts⟩ := after_asides_of_closed hstep hafter hevents
      have hfinal : (run.after (event :: events)).client.flow.prompts.getLast?
          = some (.closed ending) :=
        (congrArg List.getLast? hprompts).trans hlast
      rw [hfinal, show (run.after (event :: events)).client.credential = _ from hsame,
        hcredential]
      simp [hbefore, Ending.isConfirmed]

/-- The last reply to some calls grants a credential, whatever has happened before.  It is
the credential in the end, unless a prompt was open when that reply came and is confirmed
then: that clears the credential, although the server has just granted it. -/
theorem credential_after_last_grant
    (account : Account) (link : Link) (now : Calendar.Instant) (inbox : Inbox)
    (canWait : Bool) (before after : List Event) {number : Nat} {token : String}
    (hgrants : Writes
      (Run.after { client := { Client.fresh account link now with inbox, canWait } } before)
      (.arrive number) token)
    (hafter : ∀ event ∈ after, event.isAside = true) :
  let run :=
    Run.after { client := { Client.fresh account link now with inbox, canWait } } before
  let final := run.after (.arrive number :: after)
  final.client.credential
    = if run.client.flow.isOpen = true
        ∧ final.client.flow.prompts.getLast? = some (.closed (.decided .confirmed))
      then "" else token
  := by
  intro run final
  have h : PromptsTold canWait run.client :=
    (Run.moves_after _ before).preserve PromptsTold.of_move
      (.fresh account link now inbox canWait)
  have hstep : PromptsTold canWait (run.step (.arrive number)).client :=
    (run.moves_step (.arrive number)).preserve PromptsTold.of_move h
  have hflow : (run.step (.arrive number)).client.flow = run.client.flow :=
    hgrants.flow_arrive
  rw [← hgrants.credential_step, ← hflow]
  apply credential_after_asides hstep hafter

/-- A client that meets with two replies: one grants a credential, and one revokes the
credential that it has. -/
def contested : Client :=
  .fresh ⟨{ credential := "stale" }, none⟩
    (.ready
      [ ("/granted", (Reply.envelope 0 "success" .null).withHeader "Authorization" "A"),
        ("/revoked", Reply.envelope 50014 "expired" .null) ])
    ⟨0, 0, 0⟩

/-- Two calls of that client, up to the time when the prompt is on show on which the second
has insisted. -/
def contest : List Event :=
  [ .send (.get "/granted") .value, .send (.get "/revoked") .value, .arrive 1,
    .showPrompt 0 ]

/-- The first reply comes last and the prompt is cancelled: the credential stays. -/
theorem credential_kept_by_cancelling :
  Writes (Run.after { client := contested } contest) (.arrive 0) "A"
    ∧ ((Run.after { client := contested } contest).after
        [.arrive 0, .closePrompt 0 (.decided .cancelled)]).client.credential = "A"
  := by
  have hgrant : grant?
      ((Reply.envelope 0 "success" .null).withHeader "Authorization" "A").arrival
        = some "A" := by
    decide +kernel
  have hgrants : Writes (Run.after { client := contested } contest) (.arrive 0) "A" :=
    writes_of_grant rfl rfl hgrant
  refine ⟨hgrants, ?_⟩
  have hfinal := credential_after_last_grant contested.account contested.link contested.now
    contested.inbox contested.canWait contest [.closePrompt 0 (.decided .cancelled)] hgrants
    (by decide)
  apply Eq.trans hfinal
  apply if_neg
  decide +kernel

/-- The first reply comes last and the prompt is confirmed: the credential that the server
has granted last is lost. -/
theorem credential_lost_by_confirming :
  let run := Run.after { client := contested } contest
  let final := run.after [.arrive 0, .closePrompt 0 (.decided .confirmed)]
  (run.step (.arrive 0)).client.credential = "A"
    ∧ final.results.map (·.1) = [1, 0]
    ∧ final.client.flow.isOpen = false
    ∧ final.client.credential = ""
  := by
  decide +kernel

end Run

end ChatPortal.Client
