import MarketFeed.Simulation.World

/-!
The steps of a simulation that do not depend on what answers the attempts: those of callers by their
handles, those of readers by the names of streams, and those of the clock. A call that has to wait is
looked at once in its step, and then goes on in the background.
-/

namespace MarketFeed.Simulation

inductive Move where
  | request (handle : Nat) (r : Request)
  | direct (handle : Nat) (d : Directive)
  | close (handle : Nat) (frame : CloseFrame)
  | state (handle : Nat)
  | dump (handle : Nat)
  | clone (handle : Nat)
  | drop (handle : Nat)
  | drain (stream : String)
  | poll (stream : String)
  | next (stream : String) (timeout : Option Duration)
  | search (stream : String) (timeout : Option Duration) (matcher : Matcher Finding)
  | fanOut (stream : String) (lanes : Nat)
  | partition (stream : String) (rule : Rule)
  | dropStream (stream : String)
  | advance (millis : Nat)
  | settle

structure Report where
  answer : Answer
  time : Nat
  state : ConnectionState
  /-- The topics and the pending requests, as long as there is a handle to ask. -/
  wanted : Option (List Topic × List Request)
  journal : List Entry
  late : List Late

namespace World

variable {P : Type}

/-- What is new since the last report, in order. -/
def news (w : World P) : List Entry :=
  (w.client.journal.take (w.client.journal.length - w.reported)).reverse

/-- Whether one late answer is told before another. -/
def lateOrder (a b : Late) : Bool := a.time < b.time || (a.time = b.time && a.step ≤ b.step)

/-- The report on a step. -/
def report (w : World P) (answer : Answer) : Report × World P :=
  ({ answer
     time := w.clock
     state := w.client.state
     wanted := if w.handles.isEmpty then none else some (w.client.subscriptions, w.client.pendingAcks)
     journal := w.news
     late := w.late.mergeSort lateOrder },
    { w with late := [], reported := w.client.journal.length })

/-- Makes a step with a handle, if there is that handle. -/
def withHandle (w : World P) (handle : Nat) (f : World P → Answer × World P) : Answer × World P :=
  if handle ∈ w.handles then f w else (.noHandle, w)

/-- Makes a step with a stream, if that is in reach. -/
def withStream (w : World P) (name : String) (f : Named → World P → Answer × World P) :
    Answer × World P :=
  match w.streams.find? (·.name = name) with
  | some stream => f stream w
  | none => (.noStream, w)

/-- Takes a stream out of reach. -/
def hide (w : World P) (stream : Named) : World P :=
  { w with streams := w.streams.filter (·.name ≠ stream.name) }

def names (w : World P) : List String :=
  (w.streams.map (·.name)).mergeSort fun a b => decide (a ≤ b)

/-- Puts a call into the background that holds a handle, unless it is answered at once. -/
def begin (w : World P) (goal : Goal) : Answer × World P :=
  match w.goalTurn goal with
  | (some answer, w) => (answer, w)
  | (none, w) =>
    (.pending, { w with client := w.client.clone, calls := w.calls ++ [⟨w.stepsTaken, goal⟩] })

/-- Puts a call into the background that reads a stream, unless it is answered at once. -/
def beginReading (w : World P) (stream : Named) (goal : Goal) : Answer × World P :=
  match w.goalTurn goal with
  | (some answer, w) => (answer, w)
  | (none, w) => (.pending, { w.hide stream with calls := w.calls ++ [⟨w.stepsTaken, goal⟩] })

/-- The end of a time that starts now. -/
def deadline (w : World P) (timeout : Option Duration) : Option Instant :=
  timeout.map w.client.now.deadline

/-- Splits a stream into named ones. -/
def split (w : World P) (stream : Named) (parts : List String)
    (splitter : List LaneNumber → Splitter) : Answer × World P :=
  let (lanes, w) := (w.hide stream).newLanes parts.length
  let named := List.zipWith (fun part lane => ⟨stream.name ++ "." ++ part, lane⟩) parts lanes
  let w := { w with streams := w.streams ++ named, splitters := w.splitters ++ [splitter lanes] }
  (.names w.names, w)

variable [Connector P]

def perform (w : World P) : Move → Answer × World P
  | .request handle r => w.withHandle handle fun w =>
    let (client, outcome) := w.client.request r
    (.ofRequest outcome, { w with client })
  | .direct handle d => w.withHandle handle fun w =>
    match w.client.direct d with
    | (client, .ok call) => { w with client }.begin (.answer call)
    | (client, .error f) => (.fault f, { w with client })
  | .close handle frame => w.withHandle handle fun w =>
    { w with client := w.client.close frame }.begin .closed
  | .state handle => w.withHandle handle fun w => (.state w.client.state, w)
  | .dump handle => w.withHandle handle fun w => (.text w.client.dump, w)
  | .clone handle => w.withHandle handle fun w =>
    (.number w.handlesMade, { w with
      client := w.client.clone
      handles := w.handles ++ [w.handlesMade]
      handlesMade := w.handlesMade + 1 })
  | .drop handle => w.withHandle handle fun w =>
    (.dropped, { w with client := w.client.dropHandle, handles := w.handles.erase handle })
  | .drain stream => w.withStream stream fun s w =>
    let (es, lane) := (w.lane s.lane).drain
    (.envelopes es, w.setLane s.lane lane)
  | .poll stream => w.withStream stream fun s w =>
    let (looked, lane) := (w.lane s.lane).poll
    let answer := match looked with
      | .item e => .envelope e
      | .pending => .pending
      | .ended => .ended
    (answer, w.setLane s.lane lane)
  | .next stream timeout => w.withStream stream fun s w =>
    w.beginReading s (.next s (w.deadline timeout))
  | .search stream timeout matcher => w.withStream stream fun s w =>
    w.beginReading s (.search s (w.deadline timeout) matcher)
  | .fanOut stream count => w.withStream stream fun s w =>
    w.split s ((List.range count).map toString) fun lanes =>
      .fanOut s.lane lanes (lanes.map fun _ => true)
  | .partition stream rule => w.withStream stream fun s w =>
    w.split s ["yes", "no"] fun lanes =>
      .partition rule false s.lane (lanes.getD 0 0) (lanes.getD 1 0)
  | .dropStream stream => w.withStream stream fun s w =>
    let w := (w.hide s).setLane s.lane (w.lane s.lane).abandon
    (.names w.names, w)
  | .advance millis => (.nothing, Timed.advance w millis)
  | .settle => (.nothing, w)

/-- Ends a step: the world comes to rest, unless it is not to, and a report is made. -/
def conclude (settles : Bool) (step : Answer × World P) : Report × World P :=
  let w := if settles then step.2.settle else step.2
  ({ w with stepsTaken := w.stepsTaken + 1 }).report step.1

end World

end MarketFeed.Simulation
