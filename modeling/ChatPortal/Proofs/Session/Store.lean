import ChatPortal.Proofs.Session.TokenFile
import ChatPortal.Session.Basic

/-!
# What a store keeps

`Store.held` is the credential that a store keeps, whether or not it can be loaded.  A memory,
and a file that can be written and removed, hold the token that they took last
(`Store.attempt_of_takes`), and what is loaded is what they hold
(`Store.initial_eq_heldToken`).
-/

namespace ChatPortal

/-- A file can be written to the place and removed from it. -/
def Place.isUsable : Place → Bool
  | .absent => true
  | .content _ => true
  | .closed _ => false
  | .directory => false
  | .blocked => false

namespace Store

/-- The store is a memory, or a file that can be written and removed. -/
def isLasting : Store → Bool
  | .memory _ _ => true
  | .keychain => false
  | .file place => place.isUsable

/-- The credential that the store keeps. -/
def held : Store → Except Trouble (Option String)
  | .memory content _ => .ok content
  | .keychain => .ok none
  | .file place => TokenFile.load place

/-- The credential that the store keeps, or the empty one. -/
def heldToken (store : Store) : String :=
  match store.held with
  | .ok (some token) => token
  | _ => ""

/-- The operations of a memory that fail; those of a file fail by its place alone. -/
def faults : Store → Faults
  | .memory _ faults => faults
  | .keychain => {}
  | .file _ => {}

/-- The store takes a token: what it does with that token, to save it or to remove what it has,
does not fail. -/
def takes (token : String) (store : Store) : Bool :=
  if token = "" then !store.faults.remove else !store.faults.save

/-- A memory with other operations that fail. -/
def withFaults (faults : Faults) : Store → Store
  | .memory content _ => .memory content faults
  | .keychain => .keychain
  | .file place => .file place

variable {store next : Store} {now : Calendar.Instant} {token : String} {trouble : Trouble}

@[simp]
theorem isLasting_withFaults (faults : Faults) (store : Store) :
  (store.withFaults faults).isLasting = store.isLasting
  := by
  cases store with
  | memory | keychain | file => rfl

@[simp]
theorem held_withFaults (faults : Faults) (store : Store) :
  (store.withFaults faults).held = store.held
  := by
  cases store with
  | memory | keychain | file => rfl

theorem nonempty_some (h : token ≠ "") :
  nonempty (some token) = some token
  := Option.filter_eq_some_iff.mpr ⟨rfl, by simpa using h⟩

/-- A store holds nothing after its credential was removed. -/
theorem exists_remove (hlasting : store.isLasting = true) (h : store.faults.remove = false) :
  ∃ next, store.remove = .ok next ∧ next.isLasting = true ∧ next.held = .ok none
  := by
  cases store with
  | memory content faults =>
    have hremove : faults.remove = false := h
    exact ⟨.memory none faults, by simp [remove, hremove], rfl, rfl⟩
  | keychain => cases hlasting
  | file place =>
    cases place with
    | absent | content _ => exact ⟨.file .absent, rfl, rfl, rfl⟩
    | closed _ | directory | blocked => cases hlasting

/-- A store holds the credential that was saved. -/
theorem exists_save (hlasting : store.isLasting = true) (h : store.faults.save = false)
    (hnow : now.IsTold) (token : String) :
  ∃ next, store.save now token = .ok next ∧ next.isLasting = true ∧ next.held = .ok (some token)
  := by
  cases store with
  | memory content faults =>
    have hsave : faults.save = false := h
    exact ⟨.memory (some token) faults, by simp [save, hsave], rfl, rfl⟩
  | keychain => cases hlasting
  | file place =>
    cases place with
    | absent | content _ =>
      exact ⟨.file (.content (SavedToken.file ⟨token, now⟩)), rfl, rfl,
        TokenFile.load_file hnow token⟩
    | closed _ | directory | blocked => cases hlasting

/-- A store holds the token that it takes, and nothing if that is empty. -/
theorem attempt_of_takes (hlasting : store.isLasting = true) (hnow : now.IsTold)
    (h : store.takes token = true) :
  (store.attempt now token).isLasting = true
    ∧ (store.attempt now token).held = .ok (nonempty (some token))
  := by
  rw [takes] at h
  rw [attempt, write]
  by_cases hempty : token = ""
  · rw [if_pos hempty, Bool.not_eq_true'] at h
    obtain ⟨next, hremove, hnext⟩ := exists_remove hlasting h
    rw [if_pos hempty, hremove]
    subst hempty
    exact hnext
  · rw [if_neg hempty, Bool.not_eq_true'] at h
    obtain ⟨next, hsave, hnext⟩ := exists_save hlasting h hnow token
    rw [if_neg hempty, hsave, nonempty_some hempty]
    exact hnext

theorem attempt_of_error (h : store.write now token = .error trouble) :
  store.attempt now token = store
  := by
  rw [attempt, h]

/-- A store stays as it is when it does not take the token. -/
theorem attempt_of_not_takes (h : store.takes token = false) :
  store.attempt now token = store
  := by
  rw [takes] at h
  cases store with
  | memory content faults =>
    by_cases hempty : token = ""
    · rw [if_pos hempty, Bool.not_eq_false'] at h
      have hremove : faults.remove = true := h
      exact attempt_of_error (by rw [write, if_pos hempty, remove, if_pos hremove])
    · rw [if_neg hempty, Bool.not_eq_false'] at h
      have hsave : faults.save = true := h
      exact attempt_of_error (by rw [write, if_neg hempty, save, if_pos hsave])
  | keychain | file _ => simp [faults] at h

/-- What is loaded is what the store holds, unless that is empty. -/
theorem load_eq_held (h : store.faults.load = false) :
  store.load = store.held.map nonempty
  := by
  cases store with
  | memory content faults =>
    have hload : ¬ faults.load = true := Bool.eq_false_iff.mp h
    exact if_neg hload
  | keychain => rfl
  | file place => rfl

/-- A session on a store that can be loaded begins with what the store holds. -/
theorem initial_eq_heldToken (h : store.faults.load = false) :
  store.initial = store.heldToken
  := by
  rw [initial, heldToken, load_eq_held h]
  cases store.held with
  | error trouble => rfl
  | ok content =>
    cases content with
    | none => rfl
    | some token =>
      by_cases hempty : token = ""
      · subst hempty
        rfl
      · rw [Except.map, nonempty_some hempty]

/-- What was written last is what the store holds. -/
theorem heldToken_of_held (h : store.held = .ok (nonempty (some token))) :
  store.heldToken = token
  := by
  rw [heldToken, h]
  by_cases hempty : token = ""
  · subst hempty
    rfl
  · rw [nonempty_some hempty]

/-! ### What a session begins with -/

/-- On a store that keeps nothing a session begins with what it would begin with anyway. -/
theorem initial_attempt_of_not_isLasting (h : store.isLasting = false) :
  (store.attempt now token).initial = store.initial
  := by
  cases store with
  | memory content faults => cases h
  | keychain => rw [attempt, write, remove, save, ite_self]
  | file place =>
    cases place with
    | absent | content _ => cases h
    | closed _ | directory | blocked =>
      rw [attempt, write]
      by_cases hempty : token = ""
      · rw [if_pos hempty]
        rfl
      · rw [if_neg hempty]
        rfl

/-- A session on a store that cannot be loaded begins with nothing. -/
theorem initial_of_load_fails (h : store.faults.load = true) :
  store.initial = ""
  := by
  cases store with
  | memory content faults =>
    have hload : faults.load = true := h
    rw [initial, load, if_pos hload]
  | keychain | file _ => cases h

/-- After an attempt to write a token a session begins with what it began with before, with that
token or with nothing. -/
theorem initial_attempt (hnow : now.IsTold) (token : String) (store : Store) :
  (store.attempt now token).initial = store.initial
    ∨ (store.attempt now token).initial = token
    ∨ (store.attempt now token).initial = ""
  := by
  cases hlasting : store.isLasting with
  | false => exact .inl (initial_attempt_of_not_isLasting hlasting)
  | true =>
    cases htakes : store.takes token with
    | false => exact .inl (by rw [attempt_of_not_takes htakes])
    | true =>
      obtain ⟨-, hheld⟩ := attempt_of_takes hlasting hnow htakes
      cases hload : (store.attempt now token).faults.load with
      | true => exact .inr (.inr (initial_of_load_fails hload))
      | false => exact .inr (.inl ((initial_eq_heldToken hload).trans (heldToken_of_held hheld)))

end Store

end ChatPortal
