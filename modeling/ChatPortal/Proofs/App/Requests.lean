import ChatPortal.Proofs.Client.Credential
import ChatPortal.Proofs.Client.Ledger
import ChatPortal.Route.Guard

/-!
# Requests in order

A journal is in order (`EntryInOrder`) when the view to sign in was entered only while nobody
was signed in and any other only while somebody was, when requests to sign in carried no
credential, and when all others carried the credential of their moment.  `InOrder` says
so of a client, and a call that suits the credential of the moment leaves it so
(`InOrder.call`).
-/

namespace ChatPortal.Client

open Gateway Http Reauth RouteTable

/-- What an entry owes to the credential of its moment, if the credential was `initial` in
the beginning. -/
def EntryInOrder (initial : String) (before : Journal) : Entry → Prop
  | .viewed target => target.name = signName ↔ before.credential initial = ""
  | .sent call =>
    if call.path = signPath then
      call.headers.get? Headers.authorization = none
    else
      before.credential initial ≠ ""
        ∧ call.headers.get? Headers.authorization = some (bytesOf (before.credential initial))
  | _ => True

/-- The journal of a client is in order and accounts for the credential, and somebody
listens to the requests to restart. -/
structure InOrder (initial : String) (client : Client) : Prop where
  credential : client.credential = client.journal.credential initial
  listens : client.inbox.Listens
  entries : client.journal.Every (EntryInOrder initial)

/-- A call suits a credential: one to sign in suits the empty one, and any other call any
other credential. -/
structure Suits (credential : String) (call : Call) : Prop where
  headers : call.headers = []
  path : call.path = signPath ↔ credential = ""

/-- A call that can be sent carries the credential, unless that is empty. -/
theorem prepare_eq_ok {client : Client} {call prepared : Call}
    (h : client.prepare call = .ok prepared) :
  (client.credential = "" ∧ prepared = call)
    ∨ (client.credential ≠ "" ∧ prepared =
        { call with
          headers := call.headers.set Headers.authorization (bytesOf client.credential) })
  := by
  rw [prepare] at h
  split at h
  · next hempty => exact .inl ⟨hempty, (Except.ok.inj h).symm⟩
  · next hempty =>
    split at h
    · exact .inr ⟨hempty, (Except.ok.inj h).symm⟩
    · cases h

/-- A call keeps a client signed in. -/
theorem credential_call_ne {α : Type} {client : Client} (h : client.credential ≠ "")
    (decoder : Json.Decoder α) (call : Call) :
  (client.call decoder call).2.credential ≠ ""
  := by
  have hsend : (client.send call).2.credential = client.credential := client.credential_send call
  rw [Client.call]
  split
  · next heq =>
    rw [heq] at hsend
    rw [hsend]
    exact h
  · next reply sent heq =>
    rw [heq] at hsend
    rw [credential_receive, hsend]
    cases hgrant : grant? reply.arrival with
    | none => exact h
    | some token =>
      obtain ⟨-, -, -, -, -, -, -, -, htoken⟩ := grant?_eq_some.mp hgrant
      exact htoken

namespace InOrder

variable {initial : String} {client client' : Client}

theorem fresh (account : Account) (link : Link) (now : Calendar.Instant) :
  InOrder account.session.credential (Client.fresh account link now)
  := ⟨rfl, ⟨0, rfl⟩, Journal.every_nil _⟩

/-- A move leaves a client in order if its entry is. -/
theorem of_move (h : InOrder initial client) (hmove : Move client client')
    (hentry : ∀ entry, client'.journal = client.journal ++ [entry] →
      EntryInOrder initial client.journal entry) :
  InOrder initial client'
  := by
  constructor
  · rcases hmove.entry_cases with ⟨hjournal, hcredential⟩ | ⟨entry, hjournal, hcredential⟩
    · rw [hjournal, hcredential, h.credential]
    · rw [hjournal, hcredential, h.credential, Journal.credential_concat]
  · exact hmove.listens h.listens
  · rcases hmove.entry_cases with ⟨hjournal, -⟩ | ⟨entry, hjournal, -⟩
    · rw [hjournal]
      exact h.entries
    · rw [hjournal]
      apply h.entries.concat (hentry entry hjournal)

/-- A move that adds nothing leaves a client in order. -/
theorem of_silent (h : InOrder initial client) (hmove : Move client client')
    (hjournal : client'.journal = client.journal) :
  InOrder initial client'
  := by
  apply h.of_move hmove
  intro entry hentry
  simp [hjournal] at hentry

/-- A move that adds an entry in order leaves a client in order. -/
theorem of_entry (h : InOrder initial client) (hmove : Move client client') {entry : Entry}
    (hjournal : client'.journal = client.journal ++ [entry])
    (hentry : EntryInOrder initial client.journal entry) :
  InOrder initial client'
  := by
  apply h.of_move hmove
  intro found hfound
  obtain rfl : entry = found := by simpa using hjournal.symm.trans hfound
  exact hentry

theorem note (h : InOrder initial client) {entry : Entry} (htold : entry.isTold = true)
    (hentry : EntryInOrder initial client.journal entry) :
  InOrder initial (client.note entry)
  := h.of_entry (.tell entry htold) rfl hentry

/-- A prompt may be shown. -/
theorem showPrompt (h : InOrder initial client) (number : Nat) :
  InOrder initial (client.showPrompt number)
  := by
  cases hshow : client.flow.show? number with
  | none =>
    rw [showPrompt_of_none _ hshow]
    exact h
  | some flow =>
    have hjournal : (client.showPrompt number).journal
        = client.journal ++ [.prompted (.inLocale client.locale)] := by
      rw [showPrompt_of_some _ hshow]
      rfl
    apply h.of_entry (.showPrompt number) hjournal trivial

/-- A prompt may close. -/
theorem closePrompt (h : InOrder initial client) (number : Nat) (ending : Ending) :
  InOrder initial (client.closePrompt number ending)
  := by
  cases hclose : client.flow.close? number ending with
  | none =>
    rw [closePrompt_of_none _ hclose]
    exact h
  | some flow =>
    have hjournal : (client.closePrompt number ending).journal
        = client.journal ++ [.closed ending] := by
      rw [closePrompt_of_some _ hclose, journal_note, journal_obey]
    apply h.of_entry (.closePrompt number ending) hjournal trivial

/-- A reply may be received. -/
theorem receive {α : Type} (h : InOrder initial client) (decoder : Json.Decoder α)
    (arrival : Arrival) :
  InOrder initial (client.receive decoder arrival).2
  := by
  have htaken : InOrder initial ((client.note (.received arrival)).accept arrival) :=
    h.of_entry (.takeIn arrival) (journal_accept _ arrival) trivial
  have hreported : InOrder initial
      (((client.note (.received arrival)).accept arrival).report (judge decoder arrival)) := by
    cases judge decoder arrival with
    | ok value => exact htaken
    | error e => apply htaken.of_entry (.notify (.error e.message)) rfl trivial
  rw [Client.receive, heed]
  split
  · apply hreported.of_entry .trigger (journal_trigger _) trivial
  · exact hreported

/-- A call that suits the credential may be sent. -/
theorem send (h : InOrder initial client) {call : Call}
    (hsuits : Suits client.credential call) :
  InOrder initial (client.send call).2
  := by
  have hmove : Move client (client.send call).2 := .send call
  rw [Client.send] at hmove ⊢
  cases hprepare : client.prepare call with
  | error e => exact h
  | ok prepared =>
    rw [hprepare] at hmove
    apply h.of_entry hmove rfl
    rw [EntryInOrder, ← h.credential]
    rcases prepare_eq_ok hprepare with ⟨hempty, rfl⟩ | ⟨hcredential, rfl⟩
    · rw [if_pos (hsuits.path.mpr hempty), hsuits.headers]
      rfl
    · rw [if_neg (mt hsuits.path.mp hcredential), hsuits.headers]
      exact ⟨hcredential, rfl⟩

/-- A call that suits the credential may be made. -/
theorem call {α : Type} (h : InOrder initial client) {call : Call}
    (hsuits : Suits client.credential call) (decoder : Json.Decoder α) :
  InOrder initial (client.call decoder call).2
  := by
  have hsent : InOrder initial (client.send call).2 := h.send hsuits
  rw [Client.call]
  split
  · next heq =>
    rw [heq] at hsent
    exact hsent
  · next reply sent heq =>
    rw [heq] at hsent
    exact hsent.receive decoder reply.arrival

end InOrder

end ChatPortal.Client
