import ChatPortal.Proofs.Session.Store
import ChatPortal.Session.Handles

/-!
# What is done through handles

A `Deed` is one thing that is done through a handle, or that happens to the store of all
handles; `Handles.after` does several, and `Handles.collect` tells what a function finds in
them, deed by deed.  A part of the state that each deed either sets to what is found in it or
keeps is in the end what was found last (`Handles.after_eq_last`).
-/

namespace ChatPortal.Handles

/-- Something that is done through a handle, or to the store.  To clear the credential is to
set the empty one. -/
inductive Deed where
  | setCredential (now : Calendar.Instant) (token : String) (handle : Nat)
  | setLocale (locale : String) (handle : Nat)
  | clone (handle : Nat)
  | reopen (locale : String)
  /-- From now on other operations of the store fail. -/
  | falter (faults : Faults)
  /-- Somebody else puts another store in the place of the store. -/
  | replace (store : Store)

namespace Deed

/-- The handles after a deed. -/
def act (handles : Handles) : Deed → Handles
  | .setCredential now token handle => handles.setCredential now token handle
  | .setLocale locale handle => handles.setLocale locale handle
  | .clone handle => handles.clone handle
  | .reopen locale => handles.reopen locale
  | .falter faults => { handles with store := handles.store.map (·.withFaults faults) }
  | .replace store => { handles with store := some store }

end Deed

/-- The handles after several deeds. -/
def after (handles : Handles) (deeds : List Deed) : Handles :=
  deeds.foldl Deed.act handles

@[simp]
theorem after_cons (handles : Handles) (deed : Deed) (deeds : List Deed) :
  handles.after (deed :: deeds) = (deed.act handles).after deeds
  := rfl

theorem after_append (handles : Handles) (deeds more : List Deed) :
  handles.after (deeds ++ more) = (handles.after deeds).after more
  := List.foldl_append

/-! ### What is found in deeds -/

/-- What a function finds in deeds, in the order in which they are done. -/
def collect (find : Handles → Deed → Option String) : Handles → List Deed → List String
  | _, [] => []
  | handles, deed :: more => (find handles deed).toList ++ collect find (deed.act handles) more

/-- The token that a deed sets through a handle of a session. -/
def tokenOf (owner : Nat) (handles : Handles) : Deed → Option String
  | .setCredential _ token handle =>
    if handles.owners[handle]? = some owner then some token else none
  | _ => none

/-- The token that a deed sets through any handle that was given out. -/
def tokenSet (handles : Handles) : Deed → Option String
  | .setCredential _ token handle =>
    if handle < handles.owners.length then some token else none
  | _ => none

/-- The token that a deed sets through any handle that was given out, if the store takes it. -/
def tokenWritten (handles : Handles) : Deed → Option String
  | .setCredential _ token handle =>
    if handle < handles.owners.length ∧ handles.store.any (·.takes token) = true then some token
    else none
  | _ => none

/-- A part of the state that each deed sets to what is found in it, or keeps if nothing is found,
is in the end what was found last, or what it was. -/
theorem after_eq_last {β : Type} (read : Handles → β) (put : String → β)
    (find : Handles → Deed → Option String) (Holds : Handles → Prop) {deeds : List Deed}
    (hstep : ∀ deed ∈ deeds, ∀ handles, Holds handles → Holds (deed.act handles)
      ∧ read (deed.act handles) = ((find handles deed).map put).getD (read handles))
    {handles : Handles} (h : Holds handles) :
  read (handles.after deeds)
    = ((collect find handles deeds).getLast?.map put).getD (read handles)
  := by
  induction deeds generalizing handles with
  | nil => rfl
  | cons deed deeds ih =>
    rw [List.forall_mem_cons] at hstep
    obtain ⟨hholds, hread⟩ := hstep.1 handles h
    rw [after_cons, ih hstep.2 hholds, hread, collect, List.getLast?_append]
    cases (collect find (deed.act handles) deeds).getLast? with
    | some token => rfl
    | none =>
      cases find handles deed with
      | none => rfl
      | some _ => rfl

/-! ### Handles and sessions -/

variable {handles : Handles} {owner : Nat}

@[simp]
theorem owners_modify (f : Account → Account) (handle : Nat) (handles : Handles) :
  (handles.modify f handle).owners = handles.owners
  := by
  rw [modify]
  split
  · rfl
  · rfl

@[simp]
theorem length_sessions_modify (f : Account → Account) (handle : Nat) (handles : Handles) :
  (handles.modify f handle).sessions.length = handles.sessions.length
  := by
  rw [modify]
  split
  · exact List.length_set
  · rfl

/-- The handles that were given out stay with their sessions. -/
theorem owners_prefix_act (deed : Deed) (handles : Handles) :
  handles.owners <+: (deed.act handles).owners
  := by
  cases deed with
  | setCredential _ _ _ | setLocale _ _ =>
    rw [Deed.act]
    simp only [setCredential, setLocale, owners_modify, List.prefix_rfl]
  | clone handle =>
    rw [Deed.act, clone]
    split
    · exact List.prefix_append _ _
    · exact List.prefix_rfl
  | reopen locale => exact List.prefix_append _ _
  | falter _ | replace _ => exact List.prefix_rfl

/-- Sessions stay open. -/
theorem length_sessions_le_act (deed : Deed) (handles : Handles) :
  handles.sessions.length ≤ (deed.act handles).sessions.length
  := by
  cases deed with
  | setCredential _ _ _ | setLocale _ _ =>
    rw [Deed.act]
    simp only [setCredential, setLocale, length_sessions_modify, Nat.le_refl]
  | clone handle =>
    rw [Deed.act, clone]
    split
    · exact Nat.le_refl _
    · exact Nat.le_refl _
  | reopen locale => simp [Deed.act, reopen]
  | falter _ | replace _ => exact Nat.le_refl _

/-- A handle holds a session that was open before, or the one that is opened now. -/
theorem mem_owners_act {deed : Deed} (h : owner ∈ (deed.act handles).owners) :
  owner ∈ handles.owners ∨ (∃ locale, deed = .reopen locale) ∧ owner = handles.sessions.length
  := by
  cases deed with
  | setCredential _ _ _ | setLocale _ _ =>
    rw [Deed.act] at h
    simp only [setCredential, setLocale, owners_modify] at h
    exact .inl h
  | clone handle =>
    rw [Deed.act, clone] at h
    split at h
    · next howner =>
      rcases List.mem_append.mp h with h | h
      · exact .inl h
      · obtain rfl := List.mem_singleton.mp h
        exact .inl (List.mem_of_getElem? howner)
    · exact .inl h
  | reopen locale =>
    rcases List.mem_append.mp h with h | h
    · exact .inl h
    · exact .inr ⟨⟨locale, rfl⟩, List.mem_singleton.mp h⟩
  | falter _ | replace _ => exact .inl h

/-- The handles that were given out stay with their sessions all the time. -/
theorem owners_prefix_after (handles : Handles) (deeds : List Deed) :
  handles.owners <+: (handles.after deeds).owners
  := by
  induction deeds generalizing handles with
  | nil => exact List.prefix_rfl
  | cons deed deeds ih => exact (owners_prefix_act deed handles).trans (ih _)

/-- Every session that is held was held at first or has been opened since. -/
theorem mem_owners_after {deeds : List Deed} (h : owner ∈ (handles.after deeds).owners) :
  owner ∈ handles.owners ∨ ∃ before locale more, deeds = before ++ .reopen locale :: more
    ∧ owner = (handles.after before).sessions.length
  := by
  induction deeds generalizing handles with
  | nil => exact .inl h
  | cons deed deeds ih =>
    obtain hmem | ⟨before, locale, more, rfl, rfl⟩ := ih h
    · obtain hmem | ⟨⟨locale, rfl⟩, rfl⟩ := mem_owners_act hmem
      · exact .inl hmem
      · exact .inr ⟨[], locale, deeds, rfl, rfl⟩
    · exact .inr ⟨deed :: before, locale, more, rfl, rfl⟩

/-- Every handle holds a session, and there is a store. -/
structure IsSound (handles : Handles) : Prop where
  owned : ∀ owner ∈ handles.owners, owner < handles.sessions.length
  stored : handles.store.isSome = true

/-- No session has been opened on the store. -/
def unopened (store : Store) : Handles :=
  ⟨some store, [], []⟩

theorem isSound_unopened (store : Store) :
  (unopened store).IsSound
  := ⟨by simp [unopened], rfl⟩

namespace IsSound

/-- What is done to the session of a handle changes that session and the store, if the handle
was given out. -/
theorem modify_cases (hsound : handles.IsSound) (f : Account → Account) (handle : Nat) :
  (handles.owners[handle]? = none ∧ handles.modify f handle = handles)
    ∨ ∃ owner session, handles.owners[handle]? = some owner
      ∧ handles.sessions[owner]? = some session
      ∧ handles.modify f handle = ⟨(f ⟨session, handles.store⟩).store,
        handles.sessions.set owner (f ⟨session, handles.store⟩).session, handles.owners⟩
  := by
  cases howner : handles.owners[handle]? with
  | none =>
    refine .inl ⟨rfl, ?_⟩
    simp only [modify, howner]
  | some owner =>
    have hlt := hsound.owned owner (List.mem_of_getElem? howner)
    have hsession := List.getElem?_eq_getElem hlt
    refine .inr ⟨owner, _, rfl, hsession, ?_⟩
    simp only [modify, account?, session?, howner, Option.bind_some, hsession, Option.map_some]

/-- The store after a credential was set. -/
theorem store_setCredential (hsound : handles.IsSound) (now : Calendar.Instant) (token : String)
    (handle : Nat) :
  (handles.setCredential now token handle).store
    = if handle < handles.owners.length then handles.store.map (·.attempt now token)
      else handles.store
  := by
  obtain ⟨hnone, hact⟩ | ⟨owner, session, howner, -, hact⟩ :=
    hsound.modify_cases (·.setCredential now token) handle
  · rw [setCredential, hact, if_neg (Nat.not_lt.mpr (List.getElem?_eq_none_iff.mp hnone))]
  · obtain ⟨hlt, -⟩ := List.getElem?_eq_some_iff.mp howner
    rw [setCredential, hact, if_pos hlt]
    rfl

theorem store_setLocale (hsound : handles.IsSound) (locale : String) (handle : Nat) :
  (handles.setLocale locale handle).store = handles.store
  := by
  obtain ⟨-, hact⟩ | ⟨owner, session, -, -, hact⟩ :=
    hsound.modify_cases (·.setLocale locale) handle
  · rw [setLocale, hact]
  · rw [setLocale, hact]
    rfl

/-- Handles stay sound. -/
theorem act (hsound : handles.IsSound) (deed : Deed) :
  (deed.act handles).IsSound
  where
  owned := by
    intro owner howner
    obtain hmem | ⟨⟨locale, rfl⟩, rfl⟩ := mem_owners_act howner
    · exact Nat.lt_of_lt_of_le (hsound.owned owner hmem) (length_sessions_le_act deed handles)
    · simp [Deed.act, reopen]
  stored := by
    have hstored := hsound.stored
    cases deed with
    | setCredential now token handle =>
      rw [Deed.act, hsound.store_setCredential]
      split
      · rw [Option.isSome_map]
        exact hstored
      · exact hstored
    | setLocale locale handle =>
      rw [Deed.act, hsound.store_setLocale]
      exact hstored
    | clone handle =>
      rw [Deed.act, clone]
      split
      · exact hstored
      · exact hstored
    | reopen locale => exact hstored
    | falter faults =>
      rw [Deed.act, Option.isSome_map]
      exact hstored
    | replace store => rfl

theorem after (hsound : handles.IsSound) (deeds : List Deed) :
  (handles.after deeds).IsSound
  := by
  induction deeds generalizing handles with
  | nil => exact hsound
  | cons deed deeds ih => exact ih (hsound.act deed)

/-- The credentials do not change with the locale. -/
theorem credential_setLocale (hsound : handles.IsSound) (locale : String) (handle owner : Nat) :
  ((handles.setLocale locale handle).sessions[owner]?).map (·.credential)
    = (handles.sessions[owner]?).map (·.credential)
  := by
  obtain ⟨-, hact⟩ | ⟨holder, session, -, hsession, hact⟩ :=
    hsound.modify_cases (·.setLocale locale) handle
  · rw [setLocale, hact]
  · rw [setLocale, hact, List.getElem?_set]
    split
    · next heq =>
      subst heq
      obtain ⟨hlt, -⟩ := List.getElem?_eq_some_iff.mp hsession
      rw [if_pos hlt, hsession]
      rfl
    · rfl

/-- The credential of a session is set through its handles and kept otherwise. -/
theorem credential_setCredential (hsound : handles.IsSound) (now : Calendar.Instant)
    (token : String) (handle owner : Nat) :
  ((handles.setCredential now token handle).sessions[owner]?).map (·.credential)
    = if handles.owners[handle]? = some owner then some token
      else (handles.sessions[owner]?).map (·.credential)
  := by
  obtain ⟨hnone, hact⟩ | ⟨holder, session, hholder, hsession, hact⟩ :=
    hsound.modify_cases (·.setCredential now token) handle
  · rw [setCredential, hact, if_neg (by simp [hnone])]
  · obtain ⟨hlt, -⟩ := List.getElem?_eq_some_iff.mp hsession
    rw [setCredential, hact, hholder, List.getElem?_set]
    by_cases heq : holder = owner
    · rw [if_pos heq, if_pos hlt, if_pos (congrArg some heq)]
      rfl
    · rw [if_neg heq, if_neg (fun h => heq (Option.some.inj h))]

/-- A deed sets the credential of a session, or keeps it. -/
theorem credential_act (hsound : handles.IsSound) (howner : owner < handles.sessions.length)
    (deed : Deed) :
  ((deed.act handles).sessions[owner]?).map (·.credential)
    = ((tokenOf owner handles deed).map some).getD
      ((handles.sessions[owner]?).map (·.credential))
  := by
  cases deed with
  | setCredential now token handle =>
    rw [Deed.act, hsound.credential_setCredential, tokenOf]
    split
    · rfl
    · rfl
  | setLocale locale handle => exact hsound.credential_setLocale locale handle owner
  | clone handle =>
    rw [Deed.act, clone]
    split
    · rfl
    · rfl
  | reopen locale =>
    rw [Deed.act, reopen, List.getElem?_append_left howner]
    rfl
  | falter _ | replace _ => rfl

end IsSound

/-! ### Lasting stores -/

/-- The deed is done by the program, at a time that a clock can show. -/
def Deed.IsOwn : Deed → Prop
  | .setCredential now _ _ => now.IsTold
  | .replace _ => False
  | _ => True

/-- The handles are sound, and the store is a lasting one. -/
structure IsLasting (handles : Handles) : Prop extends IsSound handles where
  lasting : ∀ store ∈ handles.store, store.isLasting = true

theorem isLasting_unopened {store : Store} (h : store.isLasting = true) :
  (unopened store).IsLasting
  where
  toIsSound := isSound_unopened store
  lasting := by
    rintro _ ⟨⟩
    exact h

namespace IsLasting

/-- A deed that sets the credential writes it to the store, or leaves the store as it is. -/
theorem store_setCredential (h : handles.IsLasting) {now : Calendar.Instant} (hnow : now.IsTold)
    (token : String) (handle : Nat) :
  ∃ next, (handles.setCredential now token handle).store = some next ∧ next.isLasting = true
    ∧ some next.held = ((tokenWritten handles (.setCredential now token handle)).map
      fun token => some (.ok (Store.nonempty (some token)))).getD (handles.store.map Store.held)
  := by
  obtain ⟨store, hstore⟩ := Option.isSome_iff_exists.mp h.stored
  have hlasting := h.lasting store hstore
  rw [h.toIsSound.store_setCredential, tokenWritten, hstore, Option.any_some, Option.map_some]
  by_cases hhandle : handle < handles.owners.length
  · rw [if_pos hhandle]
    cases htakes : store.takes token with
    | true =>
      obtain ⟨hnext, hheld⟩ := Store.attempt_of_takes hlasting hnow htakes
      refine ⟨store.attempt now token, rfl, hnext, ?_⟩
      rw [if_pos ⟨hhandle, rfl⟩, hheld]
      rfl
    | false =>
      refine ⟨store, by rw [Store.attempt_of_not_takes htakes], hlasting, ?_⟩
      rw [if_neg (fun hboth => Bool.false_ne_true hboth.2)]
      rfl
  · rw [if_neg hhandle, if_neg (fun hboth => hhandle hboth.1)]
    exact ⟨store, rfl, hlasting, rfl⟩

/-- The store holds the token that a deed writes, or what it held. -/
theorem act (h : handles.IsLasting) {deed : Deed} (hown : deed.IsOwn) :
  (deed.act handles).IsLasting
    ∧ (deed.act handles).store.map Store.held
      = ((tokenWritten handles deed).map fun token => some (.ok (Store.nonempty (some token)))).getD
        (handles.store.map Store.held)
  := by
  have hsound := h.toIsSound.act deed
  have hkept (hstore : (deed.act handles).store = handles.store) :
      (deed.act handles).IsLasting
        ∧ (deed.act handles).store.map Store.held = handles.store.map Store.held :=
    ⟨⟨hsound, hstore ▸ h.lasting⟩, by rw [hstore]⟩
  cases deed with
  | setCredential now token handle =>
    obtain ⟨next, hstore, hlasting, hheld⟩ := h.store_setCredential hown token handle
    refine ⟨⟨hsound, ?_⟩, ?_⟩
    · rw [Deed.act, hstore]
      rintro _ ⟨⟩
      exact hlasting
    · rw [Deed.act, hstore, ← hheld]
      rfl
  | setLocale locale handle => exact hkept (h.toIsSound.store_setLocale locale handle)
  | clone handle =>
    apply hkept
    rw [Deed.act, clone]
    split
    · rfl
    · rfl
  | reopen locale => exact hkept rfl
  | falter faults =>
    refine ⟨⟨hsound, ?_⟩, ?_⟩
    · intro store hstore
      obtain ⟨old, hold, rfl⟩ := Option.map_eq_some_iff.mp hstore
      rw [Store.isLasting_withFaults]
      exact h.lasting old hold
    · rw [Deed.act, Option.map_map]
      exact Option.map_congr fun store _ => Store.held_withFaults faults store
  | replace store => exact hown.elim

end IsLasting

end ChatPortal.Handles
