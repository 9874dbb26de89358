import ChatPortal.Proofs.Client.History
import ChatPortal.Proofs.Client.Moves

/-!
# The journal as a ledger

Every move of a client adds at most one entry to its journal, and writes the credential that
this entry writes (`Move.entry_cases`).  The credential of a client is therefore the one that
its journal accounts for, whatever it does (`Ledger`).
-/

namespace ChatPortal.Client

open Gateway Http Reauth

/-- A move adds nothing to the journal and leaves the credential alone, or it adds an entry
and writes the credential that this entry writes. -/
theorem Move.entry_cases {client client' : Client} (h : Move client client') :
  (client'.journal = client.journal ∧ client'.credential = client.credential)
    ∨ ∃ entry : Entry, client'.journal = client.journal ++ [entry]
      ∧ client'.credential = entry.written?.getD client.credential
  := by
  cases h with
  | assign credential => exact .inr ⟨_, rfl, rfl⟩
  | setLocale locale => exact .inl ⟨rfl, rfl⟩
  | relink link => exact .inl ⟨rfl, rfl⟩
  | send call =>
    rw [Client.send]
    split
    · exact .inl ⟨rfl, rfl⟩
    · exact .inr ⟨_, rfl, rfl⟩
  | takeIn arrival =>
    refine .inr ⟨.received arrival, ?_, ?_⟩
    · rw [journal_accept, journal_note]
    · rw [credential_accept, credential_note]
      rfl
  | notify notice => exact .inr ⟨_, rfl, rfl⟩
  | trigger => exact .inr ⟨_, rfl, rfl⟩
  | showPrompt number =>
    cases hshow : client.flow.show? number with
    | none =>
      rw [showPrompt_of_none _ hshow]
      exact .inl ⟨rfl, rfl⟩
    | some flow =>
      rw [showPrompt_of_some _ hshow]
      exact .inr ⟨_, rfl, rfl⟩
  | closePrompt number ending =>
    cases hclose : client.flow.close? number ending with
    | none =>
      rw [closePrompt_of_none _ hclose]
      exact .inl ⟨rfl, rfl⟩
    | some flow =>
      rw [closePrompt_of_some _ hclose]
      refine .inr ⟨.closed ending, ?_, ?_⟩
      · rw [journal_note, journal_obey]
      · apply Eq.trans (credential_obey client ending)
        rw [Entry.written?]
        split
        · rfl
        · rfl
  | takePending => exact .inl ⟨rfl, rfl⟩
  | readInbox => exact .inl ⟨rfl, rfl⟩
  | tell entry htold =>
    refine .inr ⟨entry, rfl, ?_⟩
    cases entry with
    | sent | received | notified | triggered | prompted | closed | assigned => cases htold
    | _ => rfl

/-- Somebody listens to the requests to restart. -/
def Inbox.Listens (inbox : Inbox) : Prop := ∃ unread, inbox = .open unread

theorem Inbox.Listens.request {inbox : Inbox} (h : inbox.Listens) :
  inbox.request.Listens
  := by
  obtain ⟨unread, rfl⟩ := h
  exact ⟨unread + 1, rfl⟩

/-- A listener stays through every move. -/
theorem Move.listens {client client' : Client} (h : Move client client')
    (hlistens : client.inbox.Listens) :
  client'.inbox.Listens
  := by
  cases h with
  | takeIn arrival =>
    rw [inbox_accept]
    exact hlistens
  | send call =>
    rw [inbox_send]
    exact hlistens
  | showPrompt number =>
    rw [inbox_showPrompt]
    exact hlistens
  | closePrompt number ending =>
    cases hclose : client.flow.close? number ending with
    | none =>
      rw [closePrompt_of_none _ hclose]
      exact hlistens
    | some flow =>
      have hobey : (client.obey ending).inbox.Listens := by
        rw [inbox_obey]
        split
        · exact hlistens.request
        · exact hlistens
      rw [closePrompt_of_some _ hclose]
      exact hobey
  | readInbox =>
    obtain ⟨unread, hopen⟩ := hlistens
    exact ⟨0, by simp [Client.readInbox, hopen, Inbox.read]⟩
  | _ => exact hlistens

end ChatPortal.Client
