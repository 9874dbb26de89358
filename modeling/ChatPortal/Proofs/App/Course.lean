import ChatPortal.App.Basic
import ChatPortal.Proofs.Client.History

/-!
# The course of a prompt

`Course.Passes start journal course` says that the entries of a journal come in an order in
which the program makes calls and deals with the replies that revoke the credential: such a
reply is followed by the notification, one accepted prompt and its closing, and by nothing
else in between but the line that answers the prompt; only a prompt that is confirmed is
followed by a restart, and that by the view to sign in.  `Passes.settled` reads off what
comes after a reply, `Passes.before_prompt` and `Passes.before_restart` what has come before
a prompt and a restart.
-/

namespace ChatPortal.App

open Client Gateway Reauth Terminal

/-- The view to sign in, with home as the place to return to. -/
def signInFirst : Target := RouteTable.signRoute.target.withPair RouteTable.returnKey "/"

/-- How far the program has come with a call and with the prompt that the reply may lead
to; a prompt on show may have read its answer. -/
inductive Course where
  | calm
  | calling
  | revoked
  | notified
  | accepted
  | showing (answer : Option Line)
  | confirmed
  | restarted

namespace Course

/-- The requests to restart that nobody has read. -/
def requests : Course → Nat
  | .confirmed => 1
  | _ => 0

/-- Entries that have to do neither with a call nor with a prompt, and notifications of
failures that lead to no prompt. -/
def isQuiet : Entry → Bool
  | .notified _ | .viewed _ | .printed _ _ | .askedPassword _ => true
  | .read ask _ => ask ≠ .consent
  | _ => false

/-- What may be seen next, and how far the program has come then. -/
inductive Follows : Course → Entry → Course → Prop where
  | stays {entry : Entry} (h : isQuiet entry = true) : Follows .calm entry .calm
  | sends (call : Http.Call) : Follows .calm (.sent call) .calling
  | receives {arrival : Arrival} (h : revokes arrival = false) :
      Follows .calling (.received arrival) .calm
  | expires {arrival : Arrival} (h : revokes arrival = true) :
      Follows .calling (.received arrival) .revoked
  | notifies (notice : Notice) : Follows .revoked (.notified notice) .notified
  | accepts : Follows .notified (.triggered true) .accepted
  | shows (text : PromptText) : Follows .accepted (.prompted text) (.showing none)
  | answers (line : Line) : Follows (.showing none) (.read .consent line) (.showing (some line))
  | confirms {answer : Option Line} (h : ∀ line ∈ answer, line.ending = .decided .confirmed) :
      Follows (.showing answer) (.closed (.decided .confirmed)) .confirmed
  | declines {answer : Option Line} {ending : Ending} (h : ∀ line ∈ answer, line.ending = ending)
      (hnot : ending ≠ .decided .confirmed) : Follows (.showing answer) (.closed ending) .calm
  | restarts : Follows .confirmed .restarted .restarted
  | signsIn : Follows .restarted (.viewed signInFirst) .calm

/-- How far the program has come after the entries of a journal. -/
inductive Passes : Course → Journal → Course → Prop where
  | nil (course : Course) : Passes course [] course
  | cons {start next course : Course} {entry : Entry} {journal : Journal}
      (hentry : Follows start entry next) (hrest : Passes next journal course) :
      Passes start (entry :: journal) course

namespace Passes

variable {start course : Course} {before after journal : Journal} {entry : Entry}

/-- A journal passes through some course between any two of its parts. -/
theorem split (h : Passes start (before ++ after) course) :
  ∃ middle, Passes start before middle ∧ Passes middle after course
  := by
  induction before generalizing start with
  | nil => exact ⟨start, .nil start, h⟩
  | cons entry before ih =>
    cases h with
    | cons hentry hrest =>
      obtain ⟨middle, hbefore, hafter⟩ := ih hrest
      exact ⟨middle, .cons hentry hbefore, hafter⟩

theorem concat {next : Course} (h : Passes start journal course)
    (hentry : Follows course entry next) :
  Passes start (journal ++ [entry]) next
  := by
  induction h with
  | nil course => exact .cons hentry (.nil next)
  | cons hfirst _ ih => exact .cons hfirst (ih hentry)

theorem at_entry (h : Passes start (before ++ entry :: after) course) :
  ∃ middle next, Passes start before middle ∧ Follows middle entry next
    ∧ Passes next after course
  := by
  obtain ⟨middle, hbefore, hafter⟩ := h.split
  cases hafter with
  | cons hentry hrest => exact ⟨middle, _, hbefore, hentry, hrest⟩

/-- A journal that has come anywhere has a last entry. -/
theorem last (h : Passes start journal course) (hne : start ≠ course) :
  ∃ before entry middle, journal = before ++ [entry] ∧ Passes start before middle
    ∧ Follows middle entry course
  := by
  rcases journal.eq_nil_or_concat with rfl | ⟨before, entry, rfl⟩
  · cases h
    exact absurd rfl hne
  · rw [List.concat_eq_append] at h ⊢
    obtain ⟨middle, next, hbefore, hentry, hnil⟩ := h.at_entry
    cases hnil
    exact ⟨before, entry, middle, rfl, hbefore, hentry⟩

end Passes

/-! ### Single entries -/

namespace Follows

variable {course next : Course}

theorem sent {call : Http.Call} (h : Follows course (.sent call) next) :
  next = .calling
  := by
  cases h with
  | stays hquiet => cases hquiet
  | sends => rfl

theorem received {arrival : Arrival} (h : Follows course (.received arrival) next) :
  course = .calling
  := by
  cases h with
  | stays hquiet => cases hquiet
  | receives => rfl
  | expires => rfl

theorem revoked {arrival : Arrival} (h : Follows course (.received arrival) next)
    (hrevokes : revokes arrival = true) :
  next = .revoked
  := by
  cases h with
  | stays hquiet => cases hquiet
  | receives hkept => simp [hkept] at hrevokes
  | expires => rfl

theorem prompted {text : PromptText} (h : Follows course (.prompted text) next) :
  course = .accepted
  := by
  cases h with
  | stays hquiet => cases hquiet
  | shows => rfl

theorem restarted (h : Follows course .restarted next) :
  course = .confirmed
  := by
  cases h with
  | stays hquiet => cases hquiet
  | restarts => rfl

/-- A prompt on show reads its answer or closes, as the answer says. -/
theorem of_showing {answer : Option Line} {entry : Entry}
    (h : Follows (.showing answer) entry next) :
  (∃ line, answer = none ∧ entry = .read .consent line ∧ next = .showing (some line))
    ∨ ∃ ending, entry = .closed ending ∧ ∀ line ∈ answer, line.ending = ending
  := by
  cases h with
  | answers line => exact .inl ⟨line, rfl, rfl, rfl⟩
  | confirms hanswer => exact .inr ⟨_, rfl, hanswer⟩
  | declines hanswer _ => exact .inr ⟨_, rfl, hanswer⟩

end Follows

/-! ### Forwards -/

/-- What is seen of one prompt after a reply that revokes the credential, from the
notification up to the closing; it closes by itself, or as the line says that answers it. -/
inductive Seen : Ending → Journal → Prop where
  | given (notice : Notice) (text : PromptText) (ending : Ending) :
      Seen ending
        [.notified notice, .triggered true, .prompted text, .closed ending]
  | answered (notice : Notice) (text : PromptText) (line : Line) :
      Seen line.ending
        [.notified notice, .triggered true, .prompted text, .read .consent line,
          .closed line.ending]

/-- What is seen after a prompt has closed: the way to sign in if it was confirmed, and
the calm at once otherwise. -/
inductive Left (ending : Ending) : Journal → Prop where
  | confirmed {later : Journal} (h : ending = .decided .confirmed)
      (hlater : Passes .calm later .calm) :
      Left ending (.restarted :: .viewed signInFirst :: later)
  | declined {later : Journal} (h : ending ≠ .decided .confirmed)
      (hlater : Passes .calm later .calm) : Left ending later

/-- A prompt that was not confirmed leaves no restart. -/
theorem Left.head?_ne_restarted {ending : Ending} {rest : Journal} (h : Left ending rest)
    (hnot : ending ≠ .decided .confirmed) :
  rest.head? ≠ some .restarted
  := by
  cases h with
  | confirmed hconfirmed => exact absurd hconfirmed hnot
  | declined _ hlater =>
    cases hlater with
    | nil => nofun
    | cons hentry _ =>
      rintro ⟨⟩
      obtain ⟨⟩ := hentry.restarted

namespace Passes

/-- After a prompt has closed nothing is left of it but a restart. -/
theorem closed {answer : Option Line} {next : Course} {ending : Ending} {rest : Journal}
    (hclosed : Follows (.showing answer) (.closed ending) next)
    (h : Passes next rest .calm) :
  Left ending rest
  := by
  cases hclosed with
  | declines _ hnot => exact .declined hnot h
  | confirms =>
    obtain _ | ⟨⟨⟩, _ | ⟨⟨⟩, hlater⟩⟩ := h
    exact .confirmed rfl hlater

/-- After a reply that revokes the credential one prompt is seen, and what it leaves. -/
theorem settled {after : Journal} (h : Passes .revoked after .calm) :
  ∃ ending seen rest, after = seen ++ rest ∧ Seen ending seen ∧ Left ending rest
  := by
  obtain _ | ⟨⟨⟩, _ | ⟨⟨⟩, _ | ⟨⟨⟩, _ | ⟨hfirst, hrest⟩⟩⟩⟩ := h
  rcases hfirst.of_showing with ⟨line, -, rfl, rfl⟩ | ⟨ending, rfl, -⟩
  · obtain _ | ⟨hsecond, hrest⟩ := hrest
    rcases hsecond.of_showing with ⟨-, ⟨⟩, -⟩ | ⟨ending, rfl, hanswer⟩
    obtain rfl := hanswer line rfl
    exact ⟨_, _, _, rfl, .answered _ _ line, closed hsecond hrest⟩
  · exact ⟨_, _, _, rfl, .given _ _ ending, closed hfirst hrest⟩

/-- A call has its reply next. -/
theorem reply {after : Journal} (h : Passes .calling after .calm) :
  ∃ arrival rest, after = .received arrival :: rest
  := by
  obtain _ | ⟨hreceives, -⟩ := h
  cases hreceives with
  | receives => exact ⟨_, _, rfl⟩
  | expires => exact ⟨_, _, rfl⟩

/-! ### Backwards -/

/-- A prompt was accepted for a reply that revokes the credential, after the notification
of the failure. -/
theorem before_prompt {before : Journal} (h : Passes .calm before .accepted) :
  ∃ earlier arrival notice,
    before = earlier ++ [.received arrival, .notified notice, .triggered true]
      ∧ revokes arrival = true
  := by
  obtain ⟨_, _, _, rfl, hnotified, ⟨⟩⟩ := h.last (by simp)
  obtain ⟨_, _, _, rfl, hrevoked, hnotifies⟩ := hnotified.last (by simp)
  cases hnotifies with
  | notifies notice =>
    obtain ⟨earlier, _, _, rfl, -, hreceives⟩ := hrevoked.last (by simp)
    cases hreceives with
    | @expires arrival hrevokes =>
      exact ⟨earlier, arrival, notice, by simp, hrevokes⟩

/-- A prompt that is confirmed was shown for a reply that revokes the credential. -/
theorem before_restart {before : Journal} (h : Passes .calm before .confirmed) :
  ∃ earlier arrival seen, before = earlier ++ .received arrival :: seen
    ∧ revokes arrival = true ∧ Seen (.decided .confirmed) seen
  := by
  obtain ⟨_, _, _, rfl, hshown, hconfirms⟩ := h.last (by simp)
  cases hconfirms with
  | @confirms answer hanswer =>
    obtain ⟨_, _, _, rfl, hearlier, hlast⟩ := hshown.last (by simp)
    cases hlast with
    | shows text =>
      obtain ⟨earlier, arrival, notice, rfl, hrevokes⟩ := hearlier.before_prompt
      exact ⟨earlier, arrival, _, by simp, hrevokes, .given notice text _⟩
    | answers line =>
      obtain ⟨_, _, _, rfl, haccepted, hshows⟩ := hearlier.last (by simp)
      cases hshows with
      | shows text =>
        obtain ⟨earlier, arrival, notice, rfl, hrevokes⟩ := haccepted.before_prompt
        rw [← hanswer line rfl]
        exact ⟨earlier, arrival, _, by simp, hrevokes, .answered notice text line⟩

theorem before_reply {before : Journal} (h : Passes .calm before .calling) :
  ∃ earlier call, before = earlier ++ [.sent call]
  := by
  obtain ⟨earlier, _, _, rfl, -, ⟨⟩⟩ := h.last (by simp)
  exact ⟨earlier, _, rfl⟩

end Passes

end Course

end ChatPortal.App
