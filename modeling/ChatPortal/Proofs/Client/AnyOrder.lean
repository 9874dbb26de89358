import ChatPortal.Proofs.Client.LastReply
import ChatPortal.Proofs.Client.Results
import Mathlib.Data.List.Basic

/-!
# Replies in any order

While no prompt closes, what some replies do to a run can be told from the replies alone
(`Run.Received`): each brings its result, adds its notification and grants its credential,
and the first that revokes the credential opens a prompt.  The order in which they come
therefore matters for nothing but the order of the notifications and, where several grant a
credential, for the one that stays (`Run.replies_in_any_order`).
-/

namespace ChatPortal.Client

open Gateway Http Reauth

/-- The number of the call whose reply is received. -/
def Event.receipt? : Event → Option Nat
  | .arrive number => some number
  | _ => none

/-- Something may happen while replies come in: no prompt closes or is asked for, and no
credential is set. -/
def Event.isBystander : Event → Bool
  | .setCredential _ | .trigger | .closePrompt _ _ => false
  | _ => true

/-- The credential that the reply to a call grants. -/
def Flight.grant? (flight : Flight) : Option String := Client.grant? flight.reply.arrival

/-- The reply to a call revokes the credential. -/
def Flight.revokes (flight : Flight) : Bool := Client.revokes flight.reply.arrival

namespace Run

/-- The replies to some calls are awaited: those of the given flights. -/
structure Awaits (flight : Nat → Flight) (order : List Nat) (run : Run) : Prop where
  once : order.Nodup
  flights : ∀ number ∈ order, run.flights[number]? = some (flight number)
  waits : ∀ number ∈ order, run.result? number = none

/-- What has become of a run when the replies to some calls were received in order. -/
structure Received (flight : Nat → Flight) (order : List Nat) (run final : Run) : Prop where
  results : final.results = run.results ++ order.map fun number => (number, (flight number).result)
  notified : final.client.journal.notified
    = run.client.journal.notified ++ order.filterMap fun number =>
        Notice.ofResult? (flight number).result
  accepted : final.client.journal.accepted
    = run.client.journal.accepted
      + (run.client.canWait && !run.client.flow.isOpen
          && order.any fun number => (flight number).revokes).toNat
  isOpen : final.client.flow.isOpen
    = (run.client.flow.isOpen
        || run.client.canWait && order.any fun number => (flight number).revokes)
  canWait : final.client.canWait = run.client.canWait
  credential : final.client.credential
    = (order.filterMap fun number => (flight number).grant?).getLast?.getD run.client.credential

variable {flight : Nat → Flight} {run middle final : Run}

theorem accepted_added_of_awaited {number : Nat} {flight : Flight}
    (hflight : run.flights[number]? = some flight) (hwaits : run.result? number = none) :
  (run.added (.arrive number)).accepted
    = (run.client.canWait && !run.client.flow.isOpen && flight.revokes).toNat
  := by
  rw [added_of_awaited hflight hwaits, (Journal.of_reply _ _ _ _).2.2, trigger_accepted,
    ← Flight.revokes, Flow.isOpen]

/-- Some replies may be received after others. -/
theorem Received.append {order order' : List Nat} (h : Received flight order run middle)
    (h' : Received flight order' middle final) :
  Received flight (order ++ order') run final
  := by
  constructor
  · rw [h'.results, h.results, List.map_append, List.append_assoc]
  · rw [h'.notified, h.notified, List.filterMap_append, List.append_assoc]
  · rw [h'.accepted, h.accepted, h.isOpen, h.canWait, List.any_append]
    cases run.client.canWait with
    | false => rfl
    | true =>
      cases run.client.flow.isOpen with
      | false =>
        cases order.any fun number => (flight number).revokes with
        | false => simp
        | true => simp
      | true => rfl
  · rw [h'.isOpen, h.isOpen, h.canWait, List.any_append]
    cases run.client.canWait with
    | false => simp
    | true => simp [Bool.or_assoc]
  · rw [h'.canWait, h.canWait]
  · rw [h'.credential, h.credential, List.filterMap_append, List.getLast?_append]
    cases (order'.filterMap fun number => (flight number).grant?).getLast? with
    | none => rfl
    | some _ => rfl

/-- A reply that is awaited is received. -/
theorem received_arrive {number : Nat}
    (hflight : run.flights[number]? = some (flight number))
    (hwaits : run.result? number = none) :
  Received flight [number] run (run.step (.arrive number))
  := by
  have hclient : (run.step (.arrive number)).client
      = (run.client.receive (flight number).wanted.decoder (flight number).reply.arrival).2 := by
    rw [step, arrive_of_awaited hflight hwaits]
  constructor
  · rw [step, arrive_of_awaited hflight hwaits]
    rfl
  · rw [journal_step, Journal.notified_append, notified_added_of_awaited hflight hwaits]
    simp only [List.filterMap_cons, List.filterMap_nil]
    cases Notice.ofResult? (flight number).result with
    | none => rfl
    | some _ => rfl
  · rw [journal_step, Journal.accepted_append, accepted_added_of_awaited hflight hwaits,
      List.any_cons, List.any_nil, Bool.or_false]
  · rw [hclient, flow_receive, List.any_cons, List.any_nil, Bool.or_false, Flight.revokes]
    cases Client.revokes (flight number).reply.arrival with
    | false => simp
    | true => simp [isOpen_trigger]
  · apply canWait_step
  · rw [hclient, credential_receive]
    simp only [List.filterMap_cons, List.filterMap_nil, Flight.grant?]
    cases Client.grant? (flight number).reply.arrival with
    | none => rfl
    | some _ => rfl

/-- Nothing is received from a bystander. -/
theorem received_bystander {event : Event} (hevent : event.isBystander = true)
    (hreceipt : event.receipt? = none) :
  Received flight [] run (run.step event)
  := by
  have hnot : ∀ number, event ≠ .arrive number := by
    rintro number rfl
    cases hreceipt
  have hsilent : (run.added event).accepted = 0 := by
    cases event with
    | setCredential => cases hevent
    | trigger => cases hevent
    | closePrompt => cases hevent
    | arrive => cases hreceipt
    | send call wanted =>
      rw [added]
      split
      · rfl
      · rfl
    | showPrompt number =>
      rw [added]
      split
      · rfl
      · rfl
    | _ => rfl
  constructor
  · rw [results_step_of_not_arrive hnot]
    apply (List.append_nil _).symm
  · rw [journal_step, Journal.notified_append, notified_added_of_not_arrive hnot]
    rfl
  · rw [journal_step, Journal.accepted_append, hsilent, List.any_nil, Bool.and_false]
    rfl
  · rw [List.any_nil, Bool.and_false, Bool.or_false]
    cases event with
    | setCredential => cases hevent
    | trigger => cases hevent
    | closePrompt => cases hevent
    | arrive => cases hreceipt
    | send call wanted => rw [step, client_send, flow_send]
    | showPrompt number => apply isOpen_showPrompt
    | _ => rfl
  · apply canWait_step
  · apply credential_step_of_not_writes
    intro token hwrites
    cases hwrites with
    | assigned => cases hevent
    | granted => cases hreceipt
    | confirmed => cases hevent

theorem Received.refl (flight : Nat → Flight) (run : Run) :
  Received flight [] run run
  := by
  refine ⟨?results, ?notified, ?accepted, ?isOpen, rfl, rfl⟩
  case results => rw [List.map_nil, List.append_nil]
  case notified => rw [List.filterMap_nil, List.append_nil]
  case accepted => rw [List.any_nil, Bool.and_false, Bool.toNat_false, Nat.add_zero]
  case isOpen => rw [List.any_nil, Bool.and_false, Bool.or_false]

/-! ### Awaited replies -/

/-- A reply is still awaited when something else has happened. -/
theorem Awaits.of_not_arrive {order : List Nat} (h : Awaits flight order run) {event : Event}
    (hnot : ∀ number, event ≠ .arrive number) :
  Awaits flight order (run.step event)
  := by
  refine ⟨h.once, ?_, ?_⟩
  · intro number hmem
    exact getElem?_flights_step (h.flights number hmem) event
  · intro number hmem
    rw [result?, results_step_of_not_arrive hnot]
    exact h.waits number hmem

/-- The other replies are still awaited when the first was received. -/
theorem Awaits.of_arrive {number : Nat} {order : List Nat}
    (h : Awaits flight (number :: order) run) :
  Awaits flight order (run.step (.arrive number))
  := by
  obtain ⟨hnew, honce⟩ := List.nodup_cons.mp h.once
  refine ⟨honce, ?_, ?_⟩
  · intro other hmem
    exact getElem?_flights_step (h.flights other (List.mem_cons_of_mem _ hmem)) _
  · intro other hmem
    have hother : other ≠ number := by
      rintro rfl
      exact hnew hmem
    have hwaits : run.results.lookup other = none := h.waits other (List.mem_cons_of_mem _ hmem)
    have hreceived := received_arrive (h.flights number List.mem_cons_self)
      (h.waits number List.mem_cons_self)
    have hlast : List.lookup other ([number].map fun number => (number, (flight number).result))
        = none := by
      rw [List.lookup_eq_none_iff]
      simpa using hother
    rw [result?, hreceived.results, List.lookup_append, hwaits, hlast]
    rfl

/-- Replies that are awaited are received, whatever bystanders there are. -/
theorem received_after {events : List Event}
    (hawaits : Awaits flight (events.filterMap Event.receipt?) run)
    (hevents : ∀ event ∈ events, event.isBystander = true) :
  Received flight (events.filterMap Event.receipt?) run (run.after events)
  := by
  induction events generalizing run with
  | nil => apply Received.refl
  | cons event events ih =>
    obtain ⟨hevent, hrest⟩ := List.forall_mem_cons.mp hevents
    cases hreceipt : event.receipt? with
    | none =>
      have hnot : ∀ number, event ≠ .arrive number := by
        rintro number rfl
        cases hreceipt
      rw [List.filterMap_cons_none hreceipt] at hawaits ⊢
      have hstep : Received flight [] run (run.step event) :=
        received_bystander hevent hreceipt
      exact hstep.append (ih (hawaits.of_not_arrive hnot) hrest)
    | some number =>
      obtain rfl : event = .arrive number := by
        cases event with
        | arrive found => rw [Option.some.inj hreceipt]
        | _ => cases hreceipt
      rw [List.filterMap_cons_some hreceipt] at hawaits ⊢
      have hstep : Received flight [number] run (run.step (.arrive number)) :=
        received_arrive (hawaits.flights number List.mem_cons_self)
          (hawaits.waits number List.mem_cons_self)
      exact hstep.append (ih hawaits.of_arrive hrest)

theorem Received.result?_eq {order : List Nat} (h : Received flight order run final)
    (hawaits : Awaits flight order run) {number : Nat} (hmem : number ∈ order) :
  final.result? number = some (flight number).result
  := by
  have hwaits : run.results.lookup number = none := hawaits.waits number hmem
  rw [result?, h.results, List.lookup_append, hwaits, Option.none_or]
  apply List.lookup_graph (fun number => (flight number).result) hmem

/-- Where at most one of some replies grants a credential, their order does not matter for
it. -/
theorem grants_perm {order order' : List Nat} (hperm : order.Perm order')
    (hgrants : order.countP (fun number => (flight number).grant?.isSome) ≤ 1) :
  (order.filterMap fun number => (flight number).grant?)
    = order'.filterMap fun number => (flight number).grant?
  := by
  have hfiltered := hperm.filterMap fun number => (flight number).grant?
  rw [← List.length_filterMap_eq_countP] at hgrants
  cases hlist : order.filterMap fun number => (flight number).grant? with
  | nil =>
    rw [hlist] at hfiltered
    exact (List.nil_perm.mp hfiltered).symm
  | cons token tokens =>
    rw [hlist] at hfiltered hgrants
    obtain rfl : tokens = [] := by
      rw [← List.length_eq_zero_iff]
      simpa using hgrants
    exact List.singleton_perm.mp hfiltered

/-- Replies that are awaited may be received in any order, while no prompt closes or is
asked for directly and no credential is set: each brings the same result, the notifications
are those of the failures in the order in which the replies come, one prompt is accepted if
some reply revokes the credential and none otherwise, and the credential in the end is the
same where at most one reply grants one. -/
theorem replies_in_any_order {events events' : List Event} (hwaits : run.client.canWait = true)
    (hclosed : run.client.flow.isOpen = false)
    (hawaits : Awaits flight (events.filterMap Event.receipt?) run)
    (hperm : (events.filterMap Event.receipt?).Perm (events'.filterMap Event.receipt?))
    (hevents : ∀ event ∈ events, event.isBystander = true)
    (hevents' : ∀ event ∈ events', event.isBystander = true) :
  let order := events.filterMap Event.receipt?
  let order' := events'.filterMap Event.receipt?
  let final := run.after events
  let final' := run.after events'
  let notice? := fun number => Notice.ofResult? (flight number).result
  (∀ number ∈ order, final.result? number = some (flight number).result
      ∧ final'.result? number = some (flight number).result)
    ∧ final.client.journal.notified
      = run.client.journal.notified ++ order.filterMap notice?
    ∧ final'.client.journal.notified
      = run.client.journal.notified ++ order'.filterMap notice?
    ∧ final.client.journal.accepted
      = run.client.journal.accepted
        + (if ∃ number ∈ order, (flight number).revokes = true then 1 else 0)
    ∧ final'.client.journal.accepted = final.client.journal.accepted
    ∧ (order.countP (fun number => (flight number).grant?.isSome) ≤ 1 →
        final'.client.credential = final.client.credential)
  := by
  intro order order' final final' notice?
  have hawaits' : Awaits flight order' run := by
    refine ⟨hperm.nodup_iff.mp hawaits.once, ?_, ?_⟩
    · intro number hmem
      exact hawaits.flights number (hperm.mem_iff.mpr hmem)
    · intro number hmem
      exact hawaits.waits number (hperm.mem_iff.mpr hmem)
  have h : Received flight order run final := received_after hawaits hevents
  have h' : Received flight order' run final' := received_after hawaits' hevents'
  refine ⟨?results, h.notified, h'.notified, ?accepted, ?same, ?credential⟩
  case results =>
    intro number hmem
    exact ⟨h.result?_eq hawaits hmem, h'.result?_eq hawaits' (hperm.mem_iff.mp hmem)⟩
  case accepted =>
    rw [h.accepted, hwaits, hclosed]
    cases hany : order.any fun number => (flight number).revokes with
    | true =>
      rw [if_pos (List.any_eq_true.mp hany)]
      rfl
    | false =>
      rw [if_neg]
      · rfl
      · rintro ⟨number, hmem, hrevokes⟩
        exact absurd hrevokes (List.any_eq_false.mp hany number hmem)
  case same => rw [h.accepted, h'.accepted, hperm.any_eq]
  case credential =>
    intro hgrants
    rw [h.credential, h'.credential, grants_perm hperm hgrants]

/-- The two calls of the client that meets with two replies. -/
def contestants (number : Nat) : Flight :=
  if number = 0 then
    ⟨.value, (Reply.envelope 0 "success" .null).withHeader "Authorization" "A"⟩
  else
    ⟨.value, Reply.envelope 50014 "expired" .null⟩

/-- A reply that grants a credential and one that revokes it come in either order, the
prompt being shown in between or not: both times one prompt is accepted, the failure is
notified, and the credential is the one that was granted. -/
theorem contest_in_either_order :
  let run := Run.after { client := contested }
    [.send (.get "/granted") .value, .send (.get "/revoked") .value]
  let final := run.after [.arrive 0, .arrive 1]
  let final' := run.after [.arrive 1, .showPrompt 0, .arrive 0]
  Awaits contestants [0, 1] run
    ∧ final.result? 1 = some (contestants 1).result
    ∧ final'.result? 1 = some (contestants 1).result
    ∧ final'.client.journal.accepted = final.client.journal.accepted
    ∧ final.client.credential = "A" ∧ final'.client.credential = "A"
  := by
  intro run final final'
  have hawaits : Awaits contestants [0, 1] run := by
    refine ⟨by decide, ?_, ?_⟩
    · simp only [List.mem_cons, List.not_mem_nil, or_false, forall_eq_or_imp, forall_eq]
      exact ⟨rfl, rfl⟩
    · simp only [List.mem_cons, List.not_mem_nil, or_false, forall_eq_or_imp, forall_eq]
      exact ⟨rfl, rfl⟩
  obtain ⟨hresults, -, -, -, haccepted, hcredential⟩ :=
    @replies_in_any_order contestants run [.arrive 0, .arrive 1]
      [.arrive 1, .showPrompt 0, .arrive 0] rfl rfl hawaits (List.Perm.swap 1 0 [])
      (by decide) (by decide)
  obtain ⟨hresult, hresult'⟩ := hresults 1 (by decide)
  have hgranted : final.client.credential = "A" := by decide +kernel
  refine ⟨hawaits, hresult, hresult', haccepted, hgranted, ?_⟩
  rw [← hgranted]
  apply hcredential (by decide +kernel)

end Run

end ChatPortal.Client
