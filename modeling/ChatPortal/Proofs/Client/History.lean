import ChatPortal.Proofs.Client.Frame

/-!
# Histories

`Journal.Every P journal` says that every entry of a journal stands in the relation `P` to
what was seen before it.  `Journal.credential` is the credential that a journal accounts
for: the one that was written last.
-/

namespace ChatPortal.Client

open Gateway Reauth

/-- The credential that an entry writes: one that is set, one that a reply grants, and the
empty one when a prompt is confirmed. -/
def Entry.written? : Entry → Option String
  | .assigned credential => some credential
  | .received arrival => grant? arrival
  | .closed ending => if ending.isConfirmed then some "" else none
  | _ => none

namespace Journal

/-- Every entry stands in a relation to what was seen before it. -/
def Every (P : Journal → Entry → Prop) (journal : Journal) : Prop :=
  ∀ before entry after, journal = before ++ entry :: after → P before entry

/-- The credential after what was seen, if it was `initial` before. -/
def credential (initial : String) (journal : Journal) : String :=
  journal.foldl (fun credential entry => entry.written?.getD credential) initial

variable {P : Journal → Entry → Prop} {journal : Journal} {entry : Entry}

theorem every_nil (P : Journal → Entry → Prop) :
  Every P []
  := by
  intro before entry after h
  simp at h

/-- A journal is continued by an entry that stands in the relation to it. -/
theorem Every.concat (h : Every P journal) (hentry : P journal entry) :
  Every P (journal ++ [entry])
  := by
  intro before found after heq
  rcases List.append_eq_append_iff.mp heq with ⟨middle, rfl, hlast⟩ | ⟨middle, hbefore, hlast⟩
  · cases middle with
    | nil =>
      obtain ⟨rfl, rfl⟩ := List.cons.inj hlast
      simpa using hentry
    | cons first rest => simp at hlast
  · cases middle with
    | nil =>
      obtain ⟨rfl, rfl⟩ : found = entry ∧ after = [] := by simpa using hlast
      rw [List.append_nil] at hbefore
      rw [← hbefore]
      exact hentry
    | cons first rest =>
      obtain ⟨rfl, rfl⟩ : found = first ∧ after = rest ++ [entry] := by simpa using hlast
      apply h before found rest hbefore

theorem Every.of_append {more : Journal} (h : Every P (journal ++ more)) :
  Every P journal
  := by
  rintro before entry after rfl
  exact h before entry (after ++ more) (List.append_assoc _ _ _)

@[simp]
theorem credential_concat (initial : String) (journal : Journal) (entry : Entry) :
  credential initial (journal ++ [entry])
    = entry.written?.getD (credential initial journal)
  := by
  simp [credential]

end Journal

end ChatPortal.Client
