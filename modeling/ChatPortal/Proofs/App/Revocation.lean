import ChatPortal.Proofs.App.Stops
import ChatPortal.Proofs.Client.LastReply

/-!
# Replies that revoke the credential

A run of the program passes through the prompts as `Course.Follows` allows.  A reply that
revokes the credential therefore leads to one prompt, which closes before anything else is
read or sent, and the program starts over after the prompts that are confirmed and after
nothing else (`run_settles`).  Until a reply grants a new credential it sends nothing then
but requests to sign in (`SignsInFirst`).
-/

namespace ChatPortal.App

open Client Gateway Reauth Terminal Course

/-! ### The credential -/

/-- Where an empty credential has become another one, something has written it. -/
theorem exists_first_write {initial : String} {start later : Journal}
    (hempty : start.credential initial = "")
    (hcredential : Journal.credential initial (start ++ later) ≠ "") :
  ∃ before entry after token, later = before ++ entry :: after
    ∧ Journal.credential initial (start ++ before) = ""
    ∧ entry.written? = some token ∧ token ≠ ""
  := by
  induction later generalizing start with
  | nil =>
    rw [List.append_nil] at hcredential
    exact absurd hempty hcredential
  | cons entry later ih =>
    by_cases hstill : Journal.credential initial (start ++ [entry]) = ""
    · have hrest : Journal.credential initial (start ++ [entry] ++ later) ≠ "" := by
        simpa using hcredential
      obtain ⟨before, found, after, token, rfl, hbefore, hwritten⟩ := ih hstill hrest
      exact ⟨entry :: before, found, after, token, rfl, by simpa using hbefore, hwritten⟩
    · rw [Journal.credential_concat, hempty] at hstill
      cases hwritten : entry.written? with
      | none => simp [hwritten] at hstill
      | some token =>
        rw [hwritten, Option.getD_some] at hstill
        exact ⟨[], entry, later, token, rfl, by simpa using hempty, hwritten, hstill⟩

/-- A reply that revokes the credential leaves it alone until the prompt has closed, and so
does a prompt that is not confirmed. -/
theorem credential_seen {initial : String} {before seen : Journal} {arrival : Arrival}
    {ending : Ending} (hrevokes : revokes arrival = true) (hseen : Seen ending seen) :
  Journal.credential initial (before ++ .received arrival :: seen)
    = if ending.isConfirmed then "" else before.credential initial
  := by
  have hgrant : grant? arrival = none := by
    cases h : grant? arrival with
    | none => rfl
    | some token => simp [revokes_of_grant h] at hrevokes
  have hclosed : (Entry.closed ending).written?.getD (before.credential initial)
      = if ending.isConfirmed then "" else before.credential initial := by
    rw [Entry.written?]
    split
    · rfl
    · rfl
  rw [← hclosed]
  cases hseen with
  | given notice text => simp [Journal.credential, Entry.written?, hgrant]
  | answered notice text line => simp [Journal.credential, Entry.written?, hgrant]

/-- No request but one to sign in is sent before the reply to such a request has granted a
credential. -/
def SignsInFirst (journal : Journal) : Prop :=
  journal.Every fun before entry => ∀ call, entry = .sent call → call.path ≠ signPath →
    ∃ earlier sign arrival token rest,
      before = earlier ++ .sent sign :: .received arrival :: rest
        ∧ sign.path = signPath ∧ grant? arrival = some token

/-- What has to do with neither a call nor a prompt writes no credential. -/
theorem written?_of_isQuiet {entry : Entry} (h : isQuiet entry = true) :
  entry.written? = none
  := by
  cases entry with
  | assigned _ | received _ | closed _ => cases h
  | _ => rfl

/-- Only a reply writes a credential that is not empty. -/
theorem Course.Follows.reply_of_written {course next : Course} {entry : Entry} {token : String}
    (h : Follows course entry next) (hwritten : entry.written? = some token)
    (htoken : token ≠ "") :
  course = .calling ∧ ∃ arrival, entry = .received arrival ∧ grant? arrival = some token
  := by
  cases h with
  | receives => exact ⟨rfl, _, rfl, hwritten⟩
  | expires => exact ⟨rfl, _, rfl, hwritten⟩
  | confirms => simp [Entry.written?, Ending.isConfirmed, htoken.symm] at hwritten
  | declines _ hnot => simp [Entry.written?, Ending.isConfirmed, hnot] at hwritten
  | stays hquiet =>
    rw [written?_of_isQuiet hquiet] at hwritten
    cases hwritten
  | _ => cases hwritten

/-- After a prompt that was confirmed the program signs in before it sends anything else. -/
theorem signsInFirst {initial : String} {start later : Journal}
    (hempty : start.credential initial = "") (hpasses : Passes .calm later .calm)
    (hentries : Journal.Every (EntryInOrder initial) (start ++ later)) :
  SignsInFirst later
  := by
  rintro before _ after rfl call rfl hpath
  have hcall := hentries (start ++ before) (.sent call) after (by simp)
  rw [EntryInOrder, if_neg hpath] at hcall
  obtain ⟨first, entry, rest, token, rfl, hstill, hwritten, htoken⟩ :=
    exists_first_write hempty hcall.1
  rw [List.append_assoc, List.cons_append] at hpasses
  obtain ⟨middle, next, hfirst, hfollows, -⟩ := hpasses.at_entry
  obtain ⟨rfl, arrival, rfl, hgrant⟩ := hfollows.reply_of_written hwritten htoken
  obtain ⟨earlier, sign, rfl⟩ := hfirst.before_reply
  refine ⟨earlier, sign, arrival, token, rest, by simp, ?_, hgrant⟩
  have hsign := hentries (start ++ earlier) (.sent sign)
    (.received arrival :: rest ++ .sent call :: after) (by simp)
  rw [← List.append_assoc, Journal.credential_concat] at hstill
  by_contra hother
  rw [EntryInOrder, if_neg hother] at hsign
  exact hsign.1 hstill

/-- What is left of a prompt that was confirmed is the way to sign in. -/
theorem signsInFirst_of_left {initial : String} {start rest : Journal}
    (hleft : Left (.decided .confirmed) rest) (hempty : start.credential initial = "")
    (hentries : Journal.Every (EntryInOrder initial) (start ++ rest)) :
  ∃ later, rest = .restarted :: .viewed signInFirst :: later ∧ SignsInFirst later
  := by
  cases hleft with
  | declined hnot => exact absurd rfl hnot
  | @confirmed later _ hlater =>
    have hstart : Journal.credential initial (start ++ [.restarted, .viewed signInFirst]) = "" := by
      rw [List.append_cons, Journal.credential_concat, Journal.credential_concat, hempty]
      rfl
    have hentries' : Journal.Every (EntryInOrder initial)
        (start ++ [.restarted, .viewed signInFirst] ++ later) := by simpa using hentries
    exact ⟨later, rfl, signsInFirst hstart hlater hentries'⟩

/-! ### Runs -/

/-- In every run of the program, whatever credential it begins with, however the server
replies, whatever the user types and however the prompts end: a call has its reply next, and
a reply comes right after its call.  A reply with one of the codes 50008, 50012 and 50014
leads to the notification of the failure and to one prompt, and nothing else is seen until
that prompt has closed, but the line that answers it.  If it was confirmed the credential is
empty then, and the program starts over; the next view is the one to sign in, with home to
return to, and nothing but requests to sign in is sent before the reply to one has granted a
credential.  If it has ended in any other way the credential is what it was before the
reply, and the program does not start over.  No prompt is shown otherwise, and the program
starts over in no other case. -/
theorem run_settles
    (account : Account) (link : Link) (now : Calendar.Instant) (prompter : Prompter)
    (script : Script) :
  let app := ((App.start (Client.fresh account link now) prompter).run script).1
  let journal := app.client.journal
  let initial := account.session.credential
  app.client.credential = journal.credential initial
    ∧ (∀ before call after, journal = before ++ .sent call :: after →
        ∃ arrival rest, after = .received arrival :: rest)
    ∧ (∀ before response envelope after,
        journal = before ++ .received (.ok response) :: after →
        Envelope.parse response.body = .ok envelope →
        envelope.code ∈ [50008, 50012, 50014] →
        ∃ ending seen rest, after = seen ++ rest ∧ Seen ending seen
          ∧ (ending = .decided .confirmed →
            Journal.credential initial (before ++ .received (.ok response) :: seen) = ""
              ∧ ∃ later, rest = .restarted :: .viewed signInFirst :: later
                ∧ SignsInFirst later)
          ∧ (ending ≠ .decided .confirmed →
            Journal.credential initial (before ++ .received (.ok response) :: seen)
                = before.credential initial
              ∧ rest.head? ≠ some .restarted))
    ∧ journal.Every fun before entry =>
      (∀ arrival, entry = .received arrival → ∃ earlier call, before = earlier ++ [.sent call])
      ∧ (∀ text, entry = .prompted text →
        ∃ earlier response envelope notice,
          before = earlier ++ [.received (.ok response), .notified notice, .triggered true]
            ∧ Envelope.parse response.body = .ok envelope
            ∧ envelope.code ∈ [50008, 50012, 50014])
      ∧ (entry = .restarted →
        ∃ earlier response envelope seen,
          before = earlier ++ .received (.ok response) :: seen
            ∧ Seen (.decided .confirmed) seen
            ∧ Envelope.parse response.body = .ok envelope
            ∧ envelope.code ∈ [50008, 50012, 50014])
  := by
  intro app journal initial
  have hsafe : Safe initial app :=
    (Safe.start account link now prompter).readAll script.lines script.passwords
  have hpasses : Passes .calm journal .calm :=
    (Ended.run account link now prompter script).idle.passes
  refine ⟨hsafe.client.credential, ?replied, ?settled, ?only⟩
  case replied =>
    intro before call after hsplit
    rw [hsplit] at hpasses
    obtain ⟨middle, next, -, hsends, hafter⟩ := hpasses.at_entry
    obtain rfl := hsends.sent
    exact hafter.reply
  case settled =>
    intro before response envelope after hsplit hparse hcode
    have hrevokes : revokes (.ok response) = true :=
      revokes_eq_true.mpr ⟨response, envelope, rfl, hparse, hcode⟩
    rw [hsplit] at hpasses
    obtain ⟨middle, next, -, hreceives, hafter⟩ := hpasses.at_entry
    obtain rfl := hreceives.revoked hrevokes
    obtain ⟨ending, seen, rest, rfl, hseen, hleft⟩ := hafter.settled
    have hcredential : Journal.credential initial (before ++ .received (.ok response) :: seen)
        = if ending.isConfirmed then "" else before.credential initial :=
      credential_seen hrevokes hseen
    refine ⟨ending, seen, rest, rfl, hseen, ?confirmed, ?other⟩
    case confirmed =>
      rintro rfl
      have hentries : journal.Every (EntryInOrder initial) := hsafe.client.entries
      rw [hsplit, ← List.cons_append, ← List.append_assoc] at hentries
      exact ⟨hcredential, signsInFirst_of_left hleft hcredential hentries⟩
    case other =>
      intro hnot
      refine ⟨by simpa [Ending.isConfirmed, hnot] using hcredential, ?_⟩
      apply hleft.head?_ne_restarted hnot
  case only =>
    intro before entry after hsplit
    rw [hsplit] at hpasses
    obtain ⟨middle, next, hbefore, hentry, -⟩ := hpasses.at_entry
    and_intros
    · rintro arrival rfl
      obtain rfl := hentry.received
      exact hbefore.before_reply
    · rintro text rfl
      obtain rfl := hentry.prompted
      obtain ⟨earlier, arrival, notice, rfl, hrevokes⟩ := hbefore.before_prompt
      obtain ⟨response, envelope, rfl, hparse, hcode⟩ := revokes_eq_true.mp hrevokes
      exact ⟨earlier, response, envelope, notice, rfl, hparse, hcode⟩
    · rintro rfl
      obtain rfl := hentry.restarted
      obtain ⟨earlier, arrival, seen, rfl, hrevokes, hseen⟩ := hbefore.before_restart
      obtain ⟨response, envelope, rfl, hparse, hcode⟩ := revokes_eq_true.mp hrevokes
      exact ⟨earlier, response, envelope, seen, rfl, hseen, hparse, hcode⟩

/-- The list of schemas is refused, the user confirms the prompt, and signing in comes
next. -/
example :
  let client := Client.fresh ⟨{ credential := "stale" }, none⟩
    (.ready [(optionPath, Reply.envelope 50014 "expired" .null)]) ⟨0, 0, 0⟩
  let app := ((App.start client .terminal).run ⟨[bytesOf "yes"], []⟩).1
  let viewed? : Entry → Option Target := fun
    | .viewed target => some target
    | _ => none
  app.client.credential = ""
    ∧ app.client.journal.closed = [.decided .confirmed]
    ∧ app.client.journal.filterMap viewed? = [home, signInFirst]
  := by decide +kernel

end ChatPortal.App
