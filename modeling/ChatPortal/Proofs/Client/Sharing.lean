import ChatPortal.Proofs.Client.Sending
import ChatPortal.Proofs.Http.Header
import ChatPortal.Proofs.Session.Store
import ChatPortal.Session.Handles

/-!
# Sessions on one store

Several sessions may share a store, one after the other or side by side, each with a client of
its own: a `Sharing` is the store with the runs of these clients, and an `Incident` is one thing
that happens to one of them, or another session that is opened on the store.  To the sessions and
the store that is something done through handles (`Sharing.handles_happens`,
`Sharing.handles_reopen`).  As long as nobody sets a credential, every session has one with which
the first began, one that a reply has granted to any of them, or none, so it can always be put on
a call, and a credential that was granted is found on the call as it was granted
(`Sharing.credentials_can_be_sent`).
-/

namespace ChatPortal

/-! ### Credentials of sessions and stores -/

/-- The credentials with which sessions of an account begin: the one that its session has, and
the one with which another session on its store would begin. -/
def Account.initials (account : Account) : List String :=
  account.session.credential :: (account.store.map Store.initial).toList

variable {Good : String → Prop}

/-- The credential of a session, and the one with which another on its store would begin, are
among the good ones. -/
structure Account.Among (Good : String → Prop) (account : Account) : Prop where
  credential : Good account.session.credential
  initial : ∀ store ∈ account.store, Good store.initial

theorem Account.among_of_initials {account : Account} (h : ∀ token ∈ account.initials, Good token) :
  account.Among Good
  where
  credential := h _ List.mem_cons_self
  initial := by
    intro store hstore
    apply h
    exact List.mem_cons_of_mem _ (Option.mem_toList.mpr (Option.mem_map_of_mem _ hstore))

/-- An account keeps to good credentials when one of them is set. -/
theorem Account.Among.setCredential {account : Account} (h : account.Among Good)
    (hempty : Good "") {now : Calendar.Instant} (hnow : now.IsTold) {token : String}
    (htoken : Good token) :
  (account.setCredential now token).Among Good
  where
  credential := htoken
  initial := by
    intro next hnext
    obtain ⟨store, hstore, rfl⟩ := Option.map_eq_some_iff.mp hnext
    rcases Store.initial_attempt hnow token store with hsame | hwritten | hlost
    · rw [hsame]
      exact h.initial store hstore
    · rw [hwritten]
      exact htoken
    · rw [hlost]
      exact hempty

namespace Handles

variable {handles : Handles}

/-- The credentials of all sessions, and the one with which another would begin, are among the
good ones. -/
structure Among (Good : String → Prop) (handles : Handles) : Prop where
  credential : ∀ session ∈ handles.sessions, Good session.credential
  initial : ∀ store ∈ handles.store, Good store.initial

/-- A first session begins among the credentials of its account. -/
theorem among_ofAccount {account : Account} (h : account.Among Good) :
  (ofAccount account).Among Good
  where
  credential := by
    intro session hsession
    obtain rfl := List.mem_singleton.mp hsession
    exact h.credential
  initial := h.initial

/-- Another session begins among the credentials. -/
theorem Among.reopen (h : handles.Among Good) (hempty : Good "") (locale : String) :
  (handles.reopen locale).Among Good
  where
  credential := by
    intro session hsession
    rcases List.mem_append.mp hsession with hold | hnew
    · exact h.credential session hold
    · obtain rfl := List.mem_singleton.mp hnew
      show Good ((handles.store.map Store.initial).getD "")
      cases hstore : handles.store with
      | none => exact hempty
      | some store => exact h.initial store hstore
  initial := h.initial

/-- What keeps an account to the good credentials keeps all sessions to them. -/
theorem Among.modify (h : handles.Among Good) {f : Account → Account}
    (hf : ∀ account : Account, account.Among Good → (f account).Among Good) (handle : Nat) :
  (handles.modify f handle).Among Good
  := by
  rw [Handles.modify]
  split
  · next owner account howner haccount =>
    obtain ⟨session, hsession, rfl⟩ := Option.map_eq_some_iff.mp haccount
    obtain ⟨_, -, hget⟩ := Option.bind_eq_some_iff.mp hsession
    have hnext : (f ⟨session, handles.store⟩).Among Good :=
      hf _ ⟨h.credential session (List.mem_of_getElem? hget), h.initial⟩
    refine ⟨?_, hnext.initial⟩
    intro other hother
    rcases List.mem_or_eq_of_mem_set hother with hold | rfl
    · exact h.credential other hold
    · exact hnext.credential
  · exact h

end Handles

namespace Client

open Gateway Http Reauth

/-- A call carries a credential that a reply has granted as it was granted. -/
theorem Carries.authorization_of_grant {arrival : Arrival} {token : String} {call sent : Call}
    (h : Carries token call sent) (hgrant : grant? arrival = some token) :
  sent.authorization = some token
  := by
  obtain ⟨-, -, value, -, -, -, -, hlegible, htoken⟩ := grant?_eq_some.mp hgrant
  rw [Call.authorization, Headers.credential?, h.bearing htoken, bytesOf_of_legible hlegible]
  exact hlegible

/-! ### What becomes of an account -/

/-- A reply writes the credential that it grants to the account, and nothing else. -/
theorem account_receive {α : Type} (client : Client) (decoder : Json.Decoder α)
    (arrival : Arrival) :
  (client.receive decoder arrival).2.account
    = ((grant? arrival).map (client.account.setCredential client.now)).getD client.account
  := by
  have hheed (client : Client) : (client.heed arrival).account = client.account := by
    rw [heed]
    split
    · rfl
    · rfl
  have hreport (client : Client) (result : Except GatewayError α) :
      (client.report result).account = client.account := by
    cases result with
    | ok value => rfl
    | error e => rfl
  rw [receive, hheed, hreport, accept]
  cases grant? arrival with
  | none => rfl
  | some token => rfl

namespace Run

/-- All that happens to an account: a credential is written to it, or the locale is set. -/
theorem account_step (run : Run) (event : Event) :
  (∃ token, Writes run event token
      ∧ (run.step event).client.account = run.client.account.setCredential run.client.now token)
    ∨ (∃ locale, (run.step event).client.account = run.client.account.setLocale locale)
    ∨ (run.step event).client.account = run.client.account
  := by
  cases event with
  | setCredential token => exact .inl ⟨token, .assigned token, rfl⟩
  | setLocale locale => exact .inr (.inl ⟨locale, rfl⟩)
  | send call wanted =>
    rw [step, client_send, Client.send]
    split
    · exact .inr (.inr rfl)
    · exact .inr (.inr rfl)
  | arrive number =>
    rcases run.arrive_cases number with ⟨flight, hflight, hwaits, hclient⟩ | ⟨-, hsame⟩
    · rw [step, hclient, account_receive]
      cases hgrant : grant? flight.reply.arrival with
      | none => exact .inr (.inr rfl)
      | some token => exact .inl ⟨token, writes_of_grant hflight hwaits hgrant, rfl⟩
    · rw [step, hsame]
      exact .inr (.inr rfl)
  | showPrompt number =>
    rw [step, showPrompt]
    split
    · exact .inr (.inr rfl)
    · exact .inr (.inr rfl)
  | closePrompt number ending =>
    cases hshowing : run.client.flow.isShowing number with
    | false =>
      rw [step, closePrompt_of_not_showing _ hshowing]
      exact .inr (.inr rfl)
    | true =>
      obtain ⟨flow, hclose⟩ := run.client.flow.close_isSome hshowing ending
      rw [step, closePrompt_of_some _ hclose, obey]
      cases hconfirmed : ending.isConfirmed with
      | false => exact .inr (.inr rfl)
      | true =>
        obtain rfl : ending = .decided .confirmed := of_decide_eq_true hconfirmed
        exact .inl ⟨"", .confirmed hshowing, rfl⟩
  | _ => exact .inr (.inr rfl)

/-- The credential that a reply grants which is received, if that is what happens. -/
def granted? (run : Run) : Event → Option String
  | .arrive number =>
    match run.flights[number]?, run.result? number with
    | some flight, none => grant? flight.reply.arrival
    | _, _ => none
  | _ => none

/-- What is written is what somebody sets, what a reply grants, or nothing. -/
theorem Writes.origin {run : Run} {event : Event} {token : String} (h : Writes run event token) :
  event = .setCredential token ∨ run.granted? event = some token ∨ token = ""
  := by
  cases event with
  | setCredential =>
    cases h
    exact .inl rfl
  | arrive number =>
    obtain ⟨flight, hflight, hwaits⟩ := h.awaited
    refine .inr (.inl ?_)
    rw [granted?, hflight, hwaits]
    exact h.grant hflight
  | closePrompt number ending =>
    cases h with
    | confirmed => exact .inr (.inr rfl)
  | _ => cases h

/-- What is granted is granted by a reply. -/
theorem exists_grant {run : Run} {event : Event} {token : String}
    (h : run.granted? event = some token) :
  ∃ arrival, grant? arrival = some token
  := by
  cases event with
  | arrive number =>
    rw [granted?] at h
    split at h
    · exact ⟨_, h⟩
    · cases h
  | _ => cases h

/-- The run with its client on a store, at a time. -/
def on (store : Option Store) (now : Calendar.Instant) (run : Run) : Run :=
  { run with
    client := { run.client with account := { run.client.account with store }, now } }

end Run

/-! ### Sharing a store -/

/-- A store, if there is one, and the runs of the clients whose sessions are on it, in the order
in which the sessions were opened. -/
structure Sharing where
  store : Option Store
  runs : List Run

/-- One thing that happens to sessions on one store: something happens to the run with a number,
at a time, or another session is opened, with a client of its own. -/
inductive Incident where
  | happens (number : Nat) (now : Calendar.Instant) (event : Event)
  | reopen (locale : String) (link : Link) (inbox : Inbox) (canWait : Bool)

/-- Nobody but the gateway and the prompt changes the credential, and the time is one that a
clock can show. -/
def Incident.IsOwn : Incident → Prop
  | .happens _ now event => now.IsTold ∧ ∀ token, event ≠ .setCredential token
  | .reopen _ _ _ _ => True

namespace Sharing

/-- The run of a new client. -/
def newRun (account : Account) (link : Link) (inbox : Inbox) (canWait : Bool) : Run :=
  { client := { Client.fresh account link ⟨0, 0, 0⟩ with inbox, canWait } }

/-- A first session on its store. -/
def ofAccount (account : Account) (link : Link) (inbox : Inbox) (canWait : Bool) : Sharing :=
  ⟨account.store, [newRun account link inbox canWait]⟩

/-- What a new session gets from the store; without a store it gets nothing. -/
def opened (locale : String) (sharing : Sharing) : Account :=
  match sharing.store with
  | some store => .onStore store locale
  | none => ⟨{ locale }, none⟩

/-- The sessions after an incident. -/
def suffer (sharing : Sharing) : Incident → Sharing
  | .happens number now event =>
    match sharing.runs[number]? with
    | some run =>
      let run := (run.on sharing.store now).step event
      ⟨run.client.account.store, sharing.runs.set number run⟩
    | none => sharing
  | .reopen locale link inbox canWait =>
    { sharing with
      runs := sharing.runs ++ [newRun (sharing.opened locale) link inbox canWait] }

/-- The sessions after several incidents. -/
def after (sharing : Sharing) (incidents : List Incident) : Sharing :=
  incidents.foldl suffer sharing

/-- The credential that a reply grants to one of the sessions. -/
def granted? (sharing : Sharing) : Incident → Option String
  | .happens number now event =>
    (sharing.runs[number]?).bind fun run => (run.on sharing.store now).granted? event
  | .reopen _ _ _ _ => none

/-- The credentials that replies grant to any of the sessions, in order. -/
def granted : Sharing → List Incident → List String
  | _, [] => []
  | sharing, incident :: incidents =>
    (sharing.granted? incident).toList ++ granted (sharing.suffer incident) incidents

variable {sharing : Sharing}

/-! ### What is done through handles -/

/-- The sessions, each with one handle, and the store. -/
def handles (sharing : Sharing) : Handles :=
  { store := sharing.store
    sessions := sharing.runs.map (·.client.account.session)
    owners := List.range sharing.runs.length }

/-- A session is opened as through handles. -/
theorem handles_reopen (sharing : Sharing) (locale : String) (link : Link) (inbox : Inbox)
    (canWait : Bool) :
  (sharing.suffer (.reopen locale link inbox canWait)).handles = sharing.handles.reopen locale
  := by
  have hsession : (sharing.opened locale).session
      = ⟨(sharing.store.map Store.initial).getD "", locale⟩ := by
    rw [opened]
    cases sharing.store with
    | none => rfl
    | some _ => rfl
  simp only [handles, suffer, Handles.reopen, List.map_append, List.length_append,
    List.length_map, List.length_singleton, List.range_succ, List.map_singleton]
  rw [← hsession]
  rfl

/-- What happens to the account of a session happens to it as through its handle. -/
theorem handles_happens {number : Nat} {now : Calendar.Instant} {event : Event} {run : Run}
    {f : Account → Account} (hrun : sharing.runs[number]? = some run)
    (h : ((run.on sharing.store now).step event).client.account
      = f (run.on sharing.store now).client.account) :
  (sharing.suffer (.happens number now event)).handles = sharing.handles.modify f number
  := by
  obtain ⟨hlt, -⟩ := List.getElem?_eq_some_iff.mp hrun
  have howner : (List.range sharing.runs.length)[number]? = some number :=
    List.getElem?_range hlt
  have haccount : sharing.handles.account? number
      = some (run.on sharing.store now).client.account := by
    simp only [Handles.account?, Handles.session?, handles, howner, Option.bind_some,
      List.getElem?_map, hrun, Option.map_some]
    rfl
  simp only [suffer, hrun, Handles.modify, haccount]
  simp only [handles, howner, h, List.map_set, List.length_set]

/-- An incident leaves the credentials among the good ones, if one that is granted is good. -/
theorem among_suffer (hgood : sharing.handles.Among Good) (hempty : Good "")
    {incident : Incident} (hown : incident.IsOwn)
    (hgranted : ∀ token ∈ sharing.granted? incident, Good token) :
  (sharing.suffer incident).handles.Among Good
  := by
  cases incident with
  | reopen locale link inbox canWait =>
    rw [handles_reopen]
    exact hgood.reopen hempty locale
  | happens number now event =>
    obtain ⟨hnow, hassigned⟩ := hown
    cases hrun : sharing.runs[number]? with
    | none =>
      rw [suffer, hrun]
      exact hgood
    | some run =>
      rcases (run.on sharing.store now).account_step event with
        ⟨token, hwrites, haccount⟩ | ⟨locale, haccount⟩ | haccount
      · have htoken : Good token := by
          rcases hwrites.origin with hassigns | hgrants | rfl
          · exact absurd hassigns (hassigned token)
          · refine hgranted token ?_
            rw [granted?, hrun]
            exact hgrants
          · exact hempty
        rw [handles_happens hrun haccount]
        apply hgood.modify
        intro account h
        exact h.setCredential hempty hnow htoken
      · rw [handles_happens (f := (·.setLocale locale)) hrun haccount]
        apply hgood.modify
        intro account h
        exact ⟨h.credential, h.initial⟩
      · rw [handles_happens (f := id) hrun haccount]
        apply hgood.modify
        intro account h
        exact h

/-- The credentials stay among the good ones as long as only good ones are granted. -/
theorem among_after (hgood : sharing.handles.Among Good) (hempty : Good "")
    {incidents : List Incident} (hown : ∀ incident ∈ incidents, incident.IsOwn)
    (hgranted : ∀ token ∈ sharing.granted incidents, Good token) :
  (sharing.after incidents).handles.Among Good
  := by
  induction incidents generalizing sharing with
  | nil => exact hgood
  | cons incident incidents ih =>
    rw [List.forall_mem_cons] at hown
    rw [granted, List.forall_mem_append] at hgranted
    have hfirst : ∀ token ∈ sharing.granted? incident, Good token := fun token htoken =>
      hgranted.1 token (Option.mem_toList.mpr htoken)
    exact ih (among_suffer hgood hempty hown.1 hfirst) hown.2 hgranted.2

/-- What is granted to any of the sessions is granted by a reply. -/
theorem exists_grant_of_mem {incidents : List Incident} {token : String}
    (h : token ∈ sharing.granted incidents) :
  ∃ arrival, grant? arrival = some token
  := by
  induction incidents generalizing sharing with
  | nil => cases h
  | cons incident incidents ih =>
    rcases List.mem_append.mp h with hfirst | hrest
    · cases incident with
      | happens number now event =>
        obtain ⟨run, -, hgranted⟩ := Option.bind_eq_some_iff.mp (Option.mem_toList.mp hfirst)
        exact Run.exists_grant hgranted
      | reopen => cases hfirst
    · exact ih hrest

/-- The token is empty, one of the first, or one of those that were granted. -/
def Known (first granted : List String) (token : String) : Prop :=
  token = "" ∨ token ∈ first ∨ token ∈ granted

/-- A session has a credential that is known. -/
theorem known_after {account : Account} {link : Link} {inbox : Inbox} {canWait : Bool}
    {incidents : List Incident} (hown : ∀ incident ∈ incidents, incident.IsOwn) :
  ∀ run ∈ ((ofAccount account link inbox canWait).after incidents).runs,
    Known account.initials ((ofAccount account link inbox canWait).granted incidents)
      run.client.credential
  := by
  have hstart : (ofAccount account link inbox canWait).handles.Among
      (Known account.initials ((ofAccount account link inbox canWait).granted incidents)) :=
    Handles.among_ofAccount (Account.among_of_initials fun token htoken => .inr (.inl htoken))
  have hfinal := among_after hstart (.inl rfl) hown fun token htoken => .inr (.inr htoken)
  intro run hrun
  exact hfinal.credential _ (List.mem_map_of_mem hrun)

/-- A token that is known can be sent, if the first can. -/
theorem Known.sendable {first : List String} {incidents : List Incident} {token : String}
    (h : Known first (sharing.granted incidents) token)
    (hfirst : ∀ token ∈ first, token = "" ∨ Sendable token) :
  token = "" ∨ Sendable token
  := by
  rcases h with hempty | hmem | hgranted
  · exact .inl hempty
  · exact hfirst token hmem
  · obtain ⟨arrival, hgrant⟩ := exists_grant_of_mem hgranted
    exact .inr (isSendable_iff.mp (isSendable_of_grant hgrant))

/-- As long as only the gateway and the prompt change credentials: if the first session begins
with a credential that can be sent, and another session on its store would too, then whatever
replies come, however the prompts end and however often another session is opened on the store,
the credential of each session is empty, one of the first, or one that a reply has granted.  It
can be sent, so every call is prepared and goes out, and a credential that a reply has granted is
found on the call as it was granted. -/
theorem credentials_can_be_sent
    (account : Account) (link : Link) (inbox : Inbox) (canWait : Bool) (incidents : List Incident)
    (hinitial : ∀ token ∈ account.initials, token = "" ∨ Sendable token)
    (hown : ∀ incident ∈ incidents, incident.IsOwn) :
  let start := ofAccount account link inbox canWait
  ∀ run ∈ (start.after incidents).runs,
    let credential := run.client.credential
    (credential = "" ∨ credential ∈ account.initials ∨ credential ∈ start.granted incidents)
    ∧ (credential = "" ∨ Sendable credential)
    ∧ ∀ call, ∃ prepared, run.client.prepare call = .ok prepared
      ∧ (∀ wanted, (run.send call wanted).1 = .ok run.flights.length
        ∧ (run.send call wanted).2.client.journal = run.client.journal ++ [.sent prepared])
      ∧ (credential ∈ start.granted incidents → prepared.authorization = some credential)
  := by
  intro start run hrun credential
  have hknown : Known account.initials (start.granted incidents) credential :=
    known_after hown run hrun
  have hsendable := hknown.sendable hinitial
  refine ⟨hknown, hsendable, ?_⟩
  intro call
  have hsends : isSendable run.client.credential = true := by
    rcases hsendable with hempty | hsendable
    · rw [show run.client.credential = "" from hempty]
      rfl
    · exact isSendable_iff.mpr hsendable
  obtain ⟨prepared, hprepared, hcarries⟩ := exists_prepared hsends call
  refine ⟨prepared, hprepared, ?_, ?_⟩
  · intro wanted
    rw [Run.send, Client.send, hprepared]
    exact ⟨rfl, rfl⟩
  · intro hgranted
    obtain ⟨arrival, hgrant⟩ := exists_grant_of_mem hgranted
    exact hcarries.authorization_of_grant hgrant

/-- A memory that was empty gets the credential that a reply grants to a first session, and a
second session on it sends that with its calls. -/
theorem second_session_sends_granted_credential :
  let account : Account := .onStore (.memory none {}) "zh"
  let link : Link :=
    .ready [(signPath, (Reply.envelope 0 "success" .null).withHeader "Authorization" "new token")]
  let incidents : List Incident :=
    [ .happens 0 ⟨0, 0, 0⟩ (.send (signCall "ada" "pw") .value),
      .happens 0 ⟨0, 0, 0⟩ (.arrive 0),
      .reopen "en-US" link (.open 0) true ]
  (∀ token ∈ account.initials, token = "" ∨ Sendable token)
    ∧ (∀ incident ∈ incidents, incident.IsOwn)
    ∧ ∃ run prepared, ((ofAccount account link (.open 0) true).after incidents).runs[1]? = some run
      ∧ run.client.prepare optionCall = .ok prepared
      ∧ prepared.authorization = some "new token"
  := by
  intro account link incidents
  have hinitial : ∀ token ∈ account.initials, token = "" ∨ Sendable token := by
    intro token htoken
    have hempty : account.initials = ["", ""] := rfl
    rw [hempty] at htoken
    exact .inl (by simpa using htoken)
  have hown : ∀ incident ∈ incidents, incident.IsOwn := by
    simp only [incidents, List.forall_mem_cons]
    refine ⟨⟨by decide, nofun⟩, ⟨by decide, nofun⟩, trivial, by simp⟩
  refine ⟨hinitial, hown, ?_⟩
  have hgranted : (ofAccount account link (.open 0) true).granted incidents = ["new token"] := by
    decide +kernel
  have hsecond : (((ofAccount account link (.open 0) true).after incidents).runs[1]?).map
      (·.client.credential) = some "new token" := by
    decide +kernel
  obtain ⟨run, hrun, hcredential⟩ := Option.map_eq_some_iff.mp hsecond
  obtain ⟨-, -, hcalls⟩ := credentials_can_be_sent account link (.open 0) true incidents hinitial
    hown run (List.mem_of_getElem? hrun)
  obtain ⟨prepared, hprepared, -, hcarries⟩ := hcalls optionCall
  refine ⟨run, prepared, hrun, hprepared, ?_⟩
  rw [← hcredential]
  apply hcarries
  rw [hgranted, hcredential]
  exact List.mem_singleton_self _

end Sharing

end Client

end ChatPortal
