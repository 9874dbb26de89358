import ChatPortal.Proofs.App.Stages

/-!
# Views in order

Every view, every answer to a question and every password leaves the program safe, and so
does a whole run.  The main result is `run_inOrder`: however the server replies and
whatever the user types, the view to sign in is entered exactly while nobody is signed in,
and every request carries the credential that it should.
-/

namespace ChatPortal.App

open Client Portal Reauth Terminal RouteTable

variable {initial : String} {app : App} {target : Target}

/-- Somebody who is signed in may make any call but the one to sign in, and stays signed
in. -/
theorem call_inOrder {α : Type} {client client' : Client} (h : InOrder initial client)
    (hcredential : client.credential ≠ "") {decoder : Json.Decoder α} {call : Http.Call}
    {result : Except Gateway.GatewayError α}
    (heq : client.call decoder call = (result, client'))
    (hheaders : call.headers = []) (hpath : call.path ≠ signPath) :
  InOrder initial client' ∧ client'.credential ≠ ""
  := by
  have hcall : InOrder initial (client.call decoder call).2 :=
    h.call ⟨hheaders, iff_of_false hpath hcredential⟩ decoder
  have hkept : (client.call decoder call).2.credential ≠ "" :=
    credential_call_ne hcredential decoder call
  rw [heq] at hcall hkept
  exact ⟨hcall, hkept⟩

/-! ### The views -/

theorem enterSignIn_safe (h : InOrder initial app.client) (htarget : target.IsStandard)
    (hcredential : app.client.credential = "") :
  Safe initial (app.enterSignIn target)
  := ask_safe (print_inOrder h _ _) ⟨htarget, hcredential⟩

section Portal

variable (h : InOrder initial app.client) (hcredential : app.client.credential ≠ "")
include h hcredential

/-- The user may pick a schema. -/
theorem listSchemas_safe (htarget : target.IsStandard) :
  Safe initial (app.listSchemas target)
  := by
  have hpath : optionPath ≠ signPath := by decide
  rw [listSchemas]
  split
  · next heq =>
    obtain ⟨hcall, -⟩ := call_inOrder h hcredential heq rfl hpath
    exact settle_safe hcall htarget
  · next heq =>
    obtain ⟨hcall, -⟩ := call_inOrder h hcredential heq rfl hpath
    apply ended_safe (print_inOrder hcall _ _) _
  · next heq =>
    obtain ⟨hcall, hkept⟩ := call_inOrder h hcredential heq rfl hpath
    exact ask_safe (print_inOrder hcall _ _) ⟨htarget, hkept⟩

/-- The chat about a schema may begin. -/
theorem beginChat_safe (htarget : target.IsStandard) (schema : String) :
  Safe initial (app.beginChat target schema)
  := by
  have hdetail : detailPath ≠ signPath := by decide
  have hinit : chatInitPath ≠ signPath := by decide
  rw [App.beginChat]
  split
  · next heq =>
    obtain ⟨hcall, -⟩ := call_inOrder h hcredential heq rfl hdetail
    exact settle_safe hcall htarget
  · next detail client heq =>
    obtain ⟨hcall, hkept⟩ := call_inOrder h hcredential heq rfl hdetail
    have hprinted : InOrder initial (client.note (.printed .out (introduction detail))) :=
      hcall.note rfl trivial
    simp only
    split
    · next heq =>
      obtain ⟨hbegun, -⟩ := call_inOrder hprinted hkept heq rfl hinit
      exact settle_safe hbegun htarget
    · next heq =>
      obtain ⟨hbegun, hstill⟩ := call_inOrder hprinted hkept heq rfl hinit
      exact ask_safe (print_inOrder hbegun _ _) ⟨htarget, hstill⟩

theorem openSchema_safe (htarget : target.IsStandard) (schema : String) :
  Safe initial (app.openSchema target schema)
  := by
  rw [openSchema]
  split
  · apply beginChat_safe h hcredential htarget schema
  · apply goTo_safe h (.portal rfl rfl)

theorem enterPortal_safe (htarget : target.IsStandard) :
  Safe initial (app.enterPortal target)
  := by
  rw [enterPortal]
  split
  · apply openSchema_safe h hcredential htarget _
  · apply listSchemas_safe h hcredential htarget

/-- The user may say something in the chat. -/
theorem say_safe (htarget : target.IsStandard) (content : String) :
  Safe initial (app.say target content)
  := by
  have hpath : chatMessagePath ≠ signPath := by decide
  rw [App.say]
  split
  · next heq =>
    obtain ⟨hcall, hkept⟩ := call_inOrder h hcredential heq rfl hpath
    exact settle_safe hcall ⟨htarget, hkept⟩
  · next heq =>
    obtain ⟨hcall, hkept⟩ := call_inOrder h hcredential heq rfl hpath
    simp only
    split
    · exact ask_safe hcall ⟨htarget, hkept⟩
    · exact ask_safe (print_inOrder hcall _ _) ⟨htarget, hkept⟩

/-- The chat obeys its commands. -/
theorem hear_safe (htarget : target.IsStandard) (words : String) :
  Safe initial (app.hear target words)
  := by
  rw [hear]
  split
  · exact ask_safe h ⟨htarget, hcredential⟩
  · split
    · apply ended_safe h
    · split
      · apply goTo_safe h home_isStandard
      · split
        · next locale _ =>
          have hset : InOrder initial (app.client.setLocale locale) :=
            h.of_silent (.setLocale locale) rfl
          exact ask_safe hset ⟨htarget, hcredential⟩
        · apply say_safe h hcredential htarget words

end Portal

/-- A view may be entered where it is due. -/
theorem enter_safe (h : InOrder initial app.client) (htarget : target.IsStandard)
    (hdue : target.name = signName ↔ app.client.credential = "") :
  Safe initial (app.enter target)
  := by
  have hentry : EntryInOrder initial app.client.journal (.viewed target) := by
    rw [EntryInOrder, ← h.credential]
    exact hdue
  have hnoted : InOrder initial (app.client.note (.viewed target)) := h.note rfl hentry
  simp only [enter]
  split
  · next hsign => exact enterSignIn_safe hnoted htarget (hdue.mp hsign)
  · next hportal => exact enterPortal_safe hnoted (mt hdue.mpr hportal) htarget

namespace Safe

/-- A program enters the view that comes next. -/
theorem step (h : Safe initial app) :
  Safe initial app.step
  := by
  have hstage := h.stage
  rw [App.step]
  split
  · next target heq =>
    rw [heq] at hstage
    apply enter_safe h.client hstage.1 hstage.2
  · exact h

theorem proceed (h : Safe initial app) :
  Safe initial app.proceed
  := h.step.step.step.step

/-- Any line may answer a question that fits. -/
theorem answer (h : InOrder initial app.client) {question : Question}
    (hfits : question.Fits app.client.credential) (line : Line) :
  Safe initial (app.answer question line)
  := by
  cases question with
  | consent number fallback => apply close_safe h hfits
  | username target =>
    cases line with
    | garbled => apply ended_safe h
    | ended => apply ended_safe h
    | text words =>
      rw [App.answer]
      split
      · apply goTo_safe h hfits.1
      · exact ⟨h.note rfl trivial, hfits⟩
  | choice target options =>
    cases line with
    | garbled => apply ended_safe h
    | ended => apply ended_safe h
    | text words =>
      rw [App.answer]
      split
      · apply ended_safe h
      · split
        · apply openSchema_safe h hfits.2 hfits.1
        · apply ask_safe (print_inOrder h _ _) hfits
  | message target =>
    cases line with
    | garbled => apply ended_safe h
    | ended => apply ended_safe h
    | text words => apply hear_safe h hfits.2 hfits.1
  | retry target =>
    cases line with
    | garbled => apply ended_safe h
    | ended => apply ended_safe h
    | text words =>
      rw [App.answer]
      split
      · apply ended_safe h
      · apply goTo_safe h hfits

/-- A program may read any line. -/
theorem read (h : Safe initial app) (line : Line) :
  Safe initial (app.read line)
  := by
  have hstage := h.stage
  rw [App.read]
  split
  · next question heq =>
    rw [heq] at hstage
    have hnoted : InOrder initial (app.client.note (.read question.ask line)) :=
      h.client.note rfl trivial
    have hanswered :
        Safe initial ((app.note (.read question.ask line)).answer question line) := by
      apply answer hnoted
      exact hstage
    apply hanswered.proceed
  · exact h

/-- The user may sign in with any name and password. -/
theorem signIn (h : InOrder initial app.client) (htarget : target.IsStandard)
    (hcredential : app.client.credential = "") (username password : String) :
  Safe initial (app.signIn target username password)
  := by
  have hsuits : Suits app.client.credential (signCall username password) :=
    ⟨rfl, iff_of_true rfl hcredential⟩
  have hcall : InOrder initial (app.client.signIn username password).2 :=
    h.call hsuits .json
  rw [App.signIn]
  split
  · next heq =>
    rw [heq] at hcall
    apply goTo_safe hcall (afterSignIn_isStandard target)
  · next heq =>
    rw [heq] at hcall
    apply goTo_safe (print_inOrder hcall _ _) htarget
  · next heq =>
    rw [heq] at hcall
    exact settle_safe hcall htarget

/-- A program may take any password, or none. -/
theorem enterPassword (h : Safe initial app) (password : Except Trouble String) :
  Safe initial (app.enterPassword password)
  := by
  have hstage := h.stage
  rw [App.enterPassword.eq_def]
  split
  · next heq =>
    rw [heq] at hstage
    exact (signIn h.client hstage.1 hstage.2 _ _).proceed
  · apply ended_safe h.client _
  · exact h

/-- A program may be fed. -/
theorem feed (h : Safe initial app) (passwords : List String) :
  Safe initial (app.feed passwords).1
  := by
  rw [App.feed.eq_def]
  split
  · apply h.enterPassword _
  · apply h.enterPassword _
  · exact h

/-- A program may read any lines. -/
theorem readAll (h : Safe initial app) (lines : List Bytes) (passwords : List String) :
  Safe initial (App.readAll lines passwords app).1
  := by
  induction lines generalizing app passwords with
  | nil => exact (h.read .ended).read .ended
  | cons line lines ih =>
    rw [App.readAll]
    split
    · apply ih ((h.read (.ofBytes line)).feed passwords) _
    · exact h

theorem start (account : Account) (link : Link) (now : Calendar.Instant) (prompter : Prompter) :
  Safe account.session.credential (App.start (Client.fresh account link now) prompter)
  := (goTo_safe (InOrder.fresh account link now) home_isStandard).proceed

end Safe

/-- In every run of the program, whatever credential it begins with, however the server
replies and whatever the user types, a view that is entered is the one to sign in exactly
when the credential of that moment is empty; a request to sign in carries no credential; and
any other request carries the credential of its moment, which is not empty.  The credential
of a moment is the one that the journal accounts for. -/
theorem run_inOrder
    (account : Account) (link : Link) (now : Calendar.Instant) (prompter : Prompter)
    (script : Script) :
  let app := ((App.start (Client.fresh account link now) prompter).run script).1
  let initial := account.session.credential
  app.client.credential = app.client.journal.credential initial
    ∧ app.client.journal.Every fun before entry =>
      (∀ target, entry = .viewed target →
        (target.name = signName ↔ before.credential initial = ""))
      ∧ (∀ call, entry = .sent call → call.path = signPath →
        call.hasAuthorization = false)
      ∧ (∀ call, entry = .sent call → call.path ≠ signPath →
        before.credential initial ≠ ""
          ∧ call.headers.get? Http.Headers.authorization
            = some (bytesOf (before.credential initial)))
  := by
  intro app initial
  have h : Safe initial app :=
    (Safe.start account link now prompter).readAll script.lines script.passwords
  refine ⟨h.client.credential, fun before entry after hsplit => ?_⟩
  have hentry : EntryInOrder initial before entry := h.client.entries before entry after hsplit
  and_intros
  · rintro target rfl
    exact hentry
  · rintro call rfl hsign
    rw [EntryInOrder, if_pos hsign] at hentry
    rw [Http.Call.hasAuthorization, hentry]
    rfl
  · rintro call rfl hother
    rw [EntryInOrder, if_neg hother] at hentry
    exact hentry

end ChatPortal.App
