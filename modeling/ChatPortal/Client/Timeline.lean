import ChatPortal.Client.Run

/-!
# Runs in time

A `Timeline` lets a run happen in time.  Time passes only while somebody waits: for some
milliseconds, for the replies to calls, or for the prompt.  A prompt that was asked for is
shown as soon as somebody waits, and closes after the time that it takes the user.
-/

namespace ChatPortal.Client

open Gateway Http Reauth

/-- How the user treats a prompt, and how long that takes. -/
structure Answer where
  ending : Ending
  delay : Nat := 0

/-- When and how a prompt on show will close. -/
structure Closing where
  due : Nat
  number : Nat
  ending : Ending

/-- A run at a point of time, the user's answers to the prompts to come, and what is known
of the prompt on show. -/
structure Timeline where
  run : Run
  time : Nat := 0
  answers : List Answer := []
  closing : Option Closing := none

namespace Timeline

/-- The timeline after something happened at this point of time. -/
def happen (event : Event) (timeline : Timeline) : Timeline :=
  { timeline with run := timeline.run.step event }

/-- The client. -/
def client (timeline : Timeline) : Client := timeline.run.client

/-- The answer to the next prompt, and those after it: the last one is given again and
again, and without any the prompt is cancelled. -/
def nextAnswer : List Answer → Answer × List Answer
  | [] => (⟨.decided .cancelled, 0⟩, [])
  | [last] => (last, [last])
  | answer :: answers => (answer, answers)

/-- Shows the queued prompt, if there is one. -/
def present (timeline : Timeline) : Timeline :=
  match timeline.client.flow.queued? with
  | some number =>
    let (answer, answers) := nextAnswer timeline.answers
    { timeline.happen (.showPrompt number) with
      answers
      closing := some ⟨timeline.time + answer.delay, number, answer.ending⟩ }
  | none => timeline

/-- Closes the prompt on show if that is due by a point of time. -/
def closeBy (time : Nat) (timeline : Timeline) : Timeline :=
  match timeline.closing with
  | some closing =>
    if closing.due ≤ time then
      { timeline.happen (.closePrompt closing.number closing.ending) with
        time := max timeline.time closing.due
        closing := none }
    else
      timeline
  | none => timeline

/-- Lets time pass up to a point of time. -/
def passTo (time : Nat) (timeline : Timeline) : Timeline :=
  { timeline.present.closeBy time with time }

/-- Waits for some milliseconds. -/
def sleep (millis : Nat) (timeline : Timeline) : Timeline :=
  timeline.passTo (timeline.time + millis)

/-- Takes the pending prompt and waits until it has closed; returns its decision. -/
def waitIdle (timeline : Timeline) : Option Decision × Timeline :=
  match timeline.client.flow.pending with
  | some number =>
    let timeline := (timeline.happen .takePending).present
    let timeline :=
      match timeline.closing with
      | some closing => timeline.closeBy closing.due
      | none => timeline
    (timeline.client.flow.decision? number, timeline)
  | none => (none, timeline)

/-! ### Calls -/

/-- A call that is to be made, with the type of the data that it is for. -/
structure Plan where
  call : Call
  wanted : Wanted

/-- The delay of the reply to a call. -/
def delay (number : Nat) (timeline : Timeline) : Nat :=
  (timeline.run.flights[number]?.map (·.reply.delay)).getD 0

/-- Sends a call; a reply without a delay is received at once. -/
def start (plan : Plan) (timeline : Timeline) : Except GatewayError Nat × Timeline :=
  match timeline.run.send plan.call plan.wanted with
  | (.error e, run) => (.error e, { timeline with run })
  | (.ok number, run) =>
    let timeline := { timeline with run }
    (.ok number,
      if timeline.delay number = 0 then timeline.happen (.arrive number) else timeline)

/-- Sends calls in order. -/
def startAll : List Plan → Timeline → List (Except GatewayError Nat) × Timeline
  | [], timeline => ([], timeline)
  | plan :: plans, timeline =>
    let (first, timeline) := timeline.start plan
    let (others, timeline) := startAll plans timeline
    (first :: others, timeline)

/-- Receives replies that are due, in order. -/
def receiveAll : List (Nat × Nat) → Timeline → Timeline
  | [], timeline => timeline
  | (due, number) :: more, timeline =>
    receiveAll more ((timeline.passTo due).happen (.arrive number))

/-- The result of a call that was started: it failed before it was sent, or it has come
to an end. -/
def resultOf (timeline : Timeline) : Except GatewayError Nat → Result
  | .error e => .error e
  | .ok number => (timeline.run.result? number).getD (.error (.transport ""))

/-- Makes calls at the same time and waits for all of them.  Returns the results in the
order of the calls, and the places of the calls in the order in which they came to an
end. -/
def callAll (plans : List Plan) (timeline : Timeline) :
    List Result × List Nat × Timeline :=
  let (started, timeline) := timeline.startAll plans
  let places := started.zipIdx
  let late := places.filterMap fun (entry, place) =>
    match entry with
    | .ok number =>
      if timeline.delay number = 0 then none
      else some (timeline.time + timeline.delay number, number, place)
    | .error _ => none
  let late := late.mergeSort fun a b => decide (a.1 ≤ b.1)
  let early := (places.map (·.2)).filter fun place => !(late.map (·.2.2)).contains place
  let timeline := timeline.receiveAll (late.map fun (due, number, _) => (due, number))
  (started.map timeline.resultOf, early ++ late.map (·.2.2), timeline)

/-- Makes a call and waits for its reply. -/
def call (plan : Plan) (timeline : Timeline) : Result × Timeline :=
  let (started, timeline) := timeline.start plan
  match started with
  | .error e => (.error e, timeline)
  | .ok number =>
    let timeline :=
      if timeline.delay number = 0 then timeline
      else
        timeline.receiveAll [(timeline.time + timeline.delay number, number)]
    (timeline.resultOf (.ok number), timeline)

end Timeline

end ChatPortal.Client
