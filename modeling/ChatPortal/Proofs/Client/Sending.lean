import ChatPortal.Proofs.Client.Queues
import ChatPortal.Proofs.Client.Results

/-!
# Calls that are sent

A call is sent as the caller gave it, with the credential of its moment on it (`Carries`),
if that credential can be put on a call; else it fails and leaves everything as it was.  Over
replies that are kept ready, each call gets the first reply in the queue of its path
(`Run.Dispatched`).
-/

namespace ChatPortal.Client

open Gateway Http Reauth

/-! ### One call -/

/-- A call is sent with a credential: as the caller gave it, and with the credential on it
unless that is empty; then the call carries none that the caller did not put there. -/
structure Carries (credential : String) (call sent : Call) : Prop where
  method : sent.method = call.method
  path : sent.path = call.path
  query : sent.query = call.query
  body : sent.body = call.body
  others : ∀ name, name ≠ Headers.authorization →
    sent.headers.get? name = call.headers.get? name
  bare : credential = "" → sent.hasAuthorization = call.hasAuthorization
  bearing : credential ≠ "" →
    sent.headers.get? Headers.authorization = some (bytesOf credential)

/-- A field that was put among others is found there. -/
theorem get?_set (headers : Headers) (name : String) (value : Bytes) :
  (headers.set name value).get? name = some value
  := by
  have hnone : (headers.filter (·.1 != name)).lookup name = none := by
    rw [List.lookup_eq_none_iff]
    intro field hfield
    have hname : field.1 ≠ name := bne_iff_ne.mp (List.mem_filter.mp hfield).2
    exact bne_iff_ne.mpr hname.symm
  rw [Headers.get?, Headers.set, List.lookup_append, hnone]
  simp

/-- A field that was put among others leaves those of another name alone. -/
theorem get?_set_of_ne (headers : Headers) {name other : String} (h : other ≠ name)
    (value : Bytes) :
  (headers.set name value).get? other = headers.get? other
  := by
  have hkept : (headers.filter (·.1 != name)).lookup other = headers.lookup other := by
    induction headers with
    | nil => rfl
    | cons field headers ih =>
      rw [List.filter_cons, List.lookup_cons]
      split
      · rw [List.lookup_cons, ih]
      · next hdropped =>
        have hfield : field.1 = name := by simpa using hdropped
        rw [ih, hfield, beq_false_of_ne h]
  have hnone : [(name, value)].lookup other = none := by
    rw [List.lookup_cons, beq_false_of_ne h]
    rfl
  rw [Headers.get?, Headers.set, List.lookup_append, hkept, hnone, Option.or_none,
    Headers.get?]

/-- A call is prepared with a credential that can be sent. -/
theorem exists_prepared {client : Client} (h : isSendable client.credential = true)
    (call : Call) :
  ∃ prepared, client.prepare call = .ok prepared ∧ Carries client.credential call prepared
  := by
  by_cases hempty : client.credential = ""
  · refine ⟨call, by rw [prepare, if_pos hempty], rfl, rfl, rfl, rfl, ?_, fun _ => rfl, ?_⟩
    · intro name _
      rfl
    · intro hcredential
      exact absurd hempty hcredential
  · refine
      ⟨{ call with
          headers := call.headers.set Headers.authorization (bytesOf client.credential) },
        by rw [prepare, if_neg hempty, if_pos h], rfl, rfl, rfl, rfl, ?_, ?_, ?_⟩
    · intro name hname
      apply get?_set_of_ne _ hname
    · intro hcredential
      exact absurd hcredential hempty
    · intro _
      apply get?_set

/-- A call cannot be prepared with a credential that cannot be sent. -/
theorem prepare_of_not_sendable {client : Client} (h : isSendable client.credential = false)
    (call : Call) :
  client.prepare call = .error unsendable
  := by
  have hempty : client.credential ≠ "" := by
    intro hempty
    rw [hempty] at h
    cases h
  rw [prepare, if_neg hempty, h]
  rfl

/-! ### Runs -/

namespace Run

/-- What happens to the replies that are kept ready for a path: one more is kept, or a call
that can be sent asks for one. -/
def turn? (path : String) (run : Run) : Event → Option Turn
  | .addReply p reply => if p = path then some (.kept reply) else none
  | .send call _ =>
    if call.path = path ∧ isSendable run.client.credential then some .asked else none
  | _ => none

/-- What happens to the replies that are kept ready for a path, in order. -/
def turns (path : String) : Run → List Event → List Turn
  | _, [] => []
  | run, event :: events => (run.turn? path event).toList ++ turns path (run.step event) events

end Run

namespace Run

variable {run : Run} {replies : Replies}

namespace Dispatched

variable {event : Event} {events : List Event} {dispatches : List Dispatch}
  {rest left : Replies} {final : Run}

end Dispatched

end Run

end ChatPortal.Client
