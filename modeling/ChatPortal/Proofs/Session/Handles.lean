import ChatPortal.Proofs.Session.Deeds

/-!
# The last token

Each session has the credential that was set last through any of its handles, or the one with
which it began, whatever becomes of the store.  A memory, or a file that can be written and
removed, holds what was written to it last by any session, and a session that is opened on it
begins with that (`last_token_is_kept`).
-/

namespace ChatPortal.Handles

/-- The handles after some deeds on a store on which no session was open. -/
def ofDeeds (store : Store) (deeds : List Deed) : Handles :=
  (unopened store).after deeds

theorem isSound_ofDeeds (store : Store) (deeds : List Deed) :
  (ofDeeds store deeds).IsSound
  := (isSound_unopened store).after deeds

theorem ofDeeds_append (store : Store) (deeds more : List Deed) :
  ofDeeds store (deeds ++ more) = (ofDeeds store deeds).after more
  := after_append _ _ _

variable {store : Store} {deeds before more : List Deed}

/-! ### Sessions -/

/-- A handle stays with its session. -/
theorem getElem?_owners_after {handles : Handles} {handle owner : Nat}
    (h : handles.owners[handle]? = some owner) (deeds : List Deed) :
  (handles.after deeds).owners[handle]? = some owner
  := by
  obtain ⟨more, hmore⟩ := owners_prefix_after handles deeds
  obtain ⟨hlt, -⟩ := List.getElem?_eq_some_iff.mp h
  rw [← hmore, List.getElem?_append_left hlt]
  exact h

/-- The credential of a session is the last token that was set through any of its handles, or
the one it had. -/
theorem credential_after {handles : Handles} (hsound : handles.IsSound) {owner : Nat}
    {session : Session} (h : handles.sessions[owner]? = some session) (deeds : List Deed) :
  ((handles.after deeds).sessions[owner]?).map (·.credential)
    = some ((collect (tokenOf owner) handles deeds).getLast?.getD session.credential)
  := by
  obtain ⟨hlt, -⟩ := List.getElem?_eq_some_iff.mp h
  rw [after_eq_last (fun handles => (handles.sessions[owner]?).map (·.credential)) some
    (tokenOf owner) (fun handles => handles.IsSound ∧ owner < handles.sessions.length) ?step
    ⟨hsound, hlt⟩, h]
  case step =>
    rintro deed - handles ⟨hsound, hlt⟩
    exact ⟨⟨hsound.act deed, Nat.lt_of_lt_of_le hlt (length_sessions_le_act deed handles)⟩,
      hsound.credential_act hlt deed⟩
  cases (collect (tokenOf owner) handles deeds).getLast? with
  | some token => rfl
  | none => rfl

/-- All handles of a session that is opened hold the same session, and its credential is the
last token that was set through any of them, or the one with which the session began. -/
theorem session_of_reopen {handles : Handles} (hsound : handles.IsSound) (locale : String)
    (deeds : List Deed) :
  ∃ store session, handles.store = some store
    ∧ ((handles.reopen locale).after deeds).owners[handles.owners.length]?
      = some handles.sessions.length
    ∧ (∀ handle, ((handles.reopen locale).after deeds).owners[handle]?
        = some handles.sessions.length →
      ((handles.reopen locale).after deeds).session? handle = some session)
    ∧ session.credential
      = (collect (tokenOf handles.sessions.length) (handles.reopen locale) deeds).getLast?.getD
        store.initial
  := by
  obtain ⟨store, hstore⟩ := Option.isSome_iff_exists.mp hsound.stored
  have hopened : (handles.reopen locale).sessions[handles.sessions.length]?
      = some ⟨store.initial, locale⟩ := by
    rw [reopen, hstore, List.getElem?_concat_length]
    rfl
  have hholder : (handles.reopen locale).owners[handles.owners.length]?
      = some handles.sessions.length := by
    rw [reopen, List.getElem?_concat_length]
  have hcredential := credential_after (hsound.act (.reopen locale)) hopened deeds
  obtain ⟨session, hsession, hlast⟩ := Option.map_eq_some_iff.mp hcredential
  refine ⟨store, session, hstore, getElem?_owners_after hholder deeds, ?_, hlast⟩
  intro handle howner
  rw [session?, howner]
  exact hsession

/-- A clone is a handle of the same session. -/
theorem owners_of_clone {handles : Handles} {handle : Nat} (h : handle < handles.owners.length)
    (deeds : List Deed) :
  ∃ owner, ((handles.clone handle).after deeds).owners[handle]? = some owner
    ∧ ((handles.clone handle).after deeds).owners[handles.owners.length]? = some owner
  := by
  have howner : handles.owners[handle]? = some handles.owners[handle] :=
    List.getElem?_eq_getElem h
  have hclone : (handles.clone handle).owners = handles.owners ++ [handles.owners[handle]] := by
    rw [clone, howner]
  refine ⟨handles.owners[handle], getElem?_owners_after ?_ deeds, getElem?_owners_after ?_ deeds⟩
  · rw [hclone, List.getElem?_append_left h, howner]
  · rw [hclone, List.getElem?_concat_length]

/-! ### The store -/

/-- A lasting store holds what was written to it last, or what it held. -/
theorem held_after {handles : Handles} (h : handles.IsLasting) {deeds : List Deed}
    (hown : ∀ deed ∈ deeds, deed.IsOwn) :
  (handles.after deeds).store.map Store.held
    = ((collect tokenWritten handles deeds).getLast?.map
      fun token => some (.ok (Store.nonempty (some token)))).getD (handles.store.map Store.held)
  := after_eq_last (·.store.map Store.held) (fun token => some (.ok (Store.nonempty (some token))))
    tokenWritten IsLasting (fun deed hdeed _ h => h.act (hown deed hdeed)) h

/-- A session on a lasting store begins with the last token that was set through any handle, or
with what the store held, if nothing failed. -/
theorem initial_after {handles : Handles} (h : handles.IsLasting) {deeds : List Deed}
    (hown : ∀ deed ∈ deeds, deed.IsOwn)
    (hwritten : collect tokenWritten handles deeds = collect tokenSet handles deeds)
    {start store : Store} (hstart : handles.store = some start)
    (hstore : (handles.after deeds).store = some store) (hload : store.faults.load = false) :
  store.initial = (collect tokenSet handles deeds).getLast?.getD start.heldToken
  := by
  have hheld := held_after h hown
  rw [hstore, hstart, hwritten] at hheld
  rw [Store.initial_eq_heldToken hload]
  cases hlast : (collect tokenSet handles deeds).getLast? with
  | none =>
    rw [hlast] at hheld
    have hsame : store.held = start.held := Option.some.inj hheld
    rw [Store.heldToken, hsame]
    rfl
  | some token =>
    rw [hlast] at hheld
    exact Store.heldToken_of_held (Option.some.inj hheld)

/-! ### Both -/

/-- Whatever is done through handles, in any order, and whatever becomes of the store: every
handle holds a session that was opened; the handles of a session agree, and its credential is
the last token that was set through any of them, or the one with which it began; a clone is a
handle of the same session; neither a credential nor the store changes with the locale, and the
store does not change when it takes no token.  A lasting store that nobody replaces holds the
last token that it took, and when nothing fails a session that is opened on it begins with the
last token that was set. -/
theorem last_token_is_kept (store : Store) (deeds : List Deed) :
  let final := ofDeeds store deeds
  (∀ owner ∈ final.owners, ∃ before locale more,
      deeds = before ++ .reopen locale :: more ∧ owner = (ofDeeds store before).sessions.length)
    ∧ (∀ before locale more, deeds = before ++ .reopen locale :: more →
      let opened := ofDeeds store before
      ∃ current session, opened.store = some current
        ∧ final.owners[opened.owners.length]? = some opened.sessions.length
        ∧ (∀ handle, final.owners[handle]? = some opened.sessions.length →
          final.session? handle = some session)
        ∧ session.credential = (collect (tokenOf opened.sessions.length) (opened.reopen locale)
          more).getLast?.getD current.initial
        ∧ (session.isSignedIn = true ↔ session.credential ≠ ""))
    ∧ (∀ before handle more, deeds = before ++ .clone handle :: more →
      let cloned := ofDeeds store before
      handle < cloned.owners.length → ∃ owner, final.owners[handle]? = some owner
        ∧ final.owners[cloned.owners.length]? = some owner)
    ∧ (∀ locale handle, (final.setLocale locale handle).store = final.store
      ∧ ∀ other, ((final.setLocale locale handle).session? other).map (·.credential)
        = (final.session? other).map (·.credential))
    ∧ (∀ now token handle current trouble, final.store = some current →
      current.write now token = .error trouble →
      (final.setCredential now token handle).store = some current)
    ∧ (store.isLasting = true → (∀ deed ∈ deeds, deed.IsOwn) →
      final.store.map Store.held
        = some (((collect tokenWritten (unopened store) deeds).getLast?.map
          fun token => .ok (Store.nonempty (some token))).getD store.held)
      ∧ ∀ before locale more, deeds = before ++ .reopen locale :: more →
        let opened := ofDeeds store before
        collect tokenWritten (unopened store) before = collect tokenSet (unopened store) before →
        ∀ current, opened.store = some current → current.faults.load = false →
          (opened.reopen locale).session? opened.owners.length
            = some ⟨(collect tokenSet (unopened store) before).getLast?.getD store.heldToken,
              locale⟩)
  := by
  have hsound := isSound_ofDeeds store
  intro final
  refine ⟨?handles, ?sessions, ?clones, ?locales, ?failures, ?lasting⟩
  case handles =>
    intro owner howner
    exact (mem_owners_after howner).resolve_left List.not_mem_nil
  case sessions =>
    rintro before locale more rfl
    obtain ⟨current, session, hcurrent, hfirst, hall, hlast⟩ :=
      session_of_reopen (hsound before) locale more
    have hfinal : final = ((ofDeeds store before).reopen locale).after more :=
      ofDeeds_append store before _
    rw [hfinal]
    refine ⟨current, session, hcurrent, hfirst, hall, hlast, ?_⟩
    rw [Session.isSignedIn, bne_iff_ne]
  case clones =>
    rintro before handle more rfl cloned hhandle
    have hfinal : final = ((ofDeeds store before).clone handle).after more :=
      ofDeeds_append store before _
    rw [hfinal]
    exact owners_of_clone hhandle more
  case locales =>
    intro locale handle
    refine ⟨(hsound deeds).store_setLocale locale handle, ?_⟩
    intro other
    rw [session?, session?, setLocale, owners_modify]
    cases final.owners[other]? with
    | none => rfl
    | some owner => exact (hsound deeds).credential_setLocale locale handle owner
  case failures =>
    intro now token handle current trouble hcurrent hfails
    rw [(hsound deeds).store_setCredential, hcurrent, Option.map_some,
      Store.attempt_of_error hfails, ite_self]
  case lasting =>
    intro hlasting hown
    have hstart := isLasting_unopened hlasting
    refine ⟨?_, ?_⟩
    · rw [show final.store.map Store.held = _ from held_after hstart hown]
      cases (collect tokenWritten (unopened store) deeds).getLast? with
      | none => rfl
      | some token => rfl
    · rintro before locale more rfl opened hwritten current hcurrent hload
      have hbefore : ∀ deed ∈ before, deed.IsOwn := fun deed hdeed =>
        hown deed (List.mem_append_left _ hdeed)
      rw [← initial_after hstart hbefore hwritten rfl hcurrent hload]
      simp only [reopen, session?, List.getElem?_concat_length, Option.bind_some, hcurrent]
      rfl

/-- Of two sessions on a memory, the second begins with the token that was set through the
first, and the first keeps its token when the second sets another one. -/
theorem second_session_begins_with_last_token :
  let first : List Deed := [.reopen "zh", .setCredential ⟨0, 0, 0⟩ "new" 0]
  let opened := ofDeeds (.memory (some "old") {}) first
  (opened.reopen "en").session? 1 = some ⟨"new", "en"⟩
    ∧ ∃ session : Session, session.credential = "new"
      ∧ (ofDeeds (.memory (some "old") {})
        (first ++ [.reopen "en", .setCredential ⟨0, 0, 0⟩ "newer" 1])).session? 0 = some session
  := by
  have hown : ∀ deed ∈ [Deed.reopen "zh", .setCredential ⟨0, 0, 0⟩ "new" 0, .reopen "en",
      .setCredential ⟨0, 0, 0⟩ "newer" 1], deed.IsOwn := by
    simp only [List.forall_mem_cons]
    refine ⟨trivial, ?_, trivial, ?_, by simp⟩
    · show Calendar.Instant.IsTold _
      decide
    · show Calendar.Instant.IsTold _
      decide
  obtain ⟨-, hsessions, -, -, -, hlasting⟩ := last_token_is_kept (.memory (some "old") {})
    [.reopen "zh", .setCredential ⟨0, 0, 0⟩ "new" 0, .reopen "en",
      .setCredential ⟨0, 0, 0⟩ "newer" 1]
  refine ⟨(hlasting rfl hown).2 _ "en" _ rfl rfl _ rfl rfl, ?_⟩
  obtain ⟨current, session, hcurrent, -, hall, hlast, -⟩ := hsessions [] "zh" _ rfl
  refine ⟨session, ?_, hall 0 rfl⟩
  rw [hlast]
  rfl

end ChatPortal.Handles
