import MarketFeed.Client.Run
import MarketFeed.Simulation.Answer
import MarketFeed.Simulation.Timeline
import MarketFeed.Stream.Search
import MarketFeed.Stream.Split

/-!
A client in a simulated world: a clock that moves only when it is told to, something that answers the
attempts to connect, named streams, numbered handles, and calls that wait in the background. The world
is at rest when nothing can happen before the clock moves. What is about to happen happens in a fixed
order: the attempt to connect, the worker, the splitters of streams, the calls.
-/

namespace MarketFeed.Simulation

/-- What answers the attempts of a client to connect. -/
class Connector (P : Type) where
  /-- What it does next, if it can do something. -/
  act? : P → Client → Option (P × Client)
  /-- When it can do something that it cannot do yet. -/
  wakeAt? : P → Option Instant

/-- The number of a stream. That of the client is zero. -/
abbrev LaneNumber := Nat

/-- A rule by which a stream is parted in two. -/
inductive Rule where
  | isPrivate
  | heartbeat
  | snapshot
  | alternate
deriving DecidableEq, Repr

/-- Whether the rule picks an envelope. The rule that alternates remembers its last choice. -/
def Rule.choose : Rule → Bool → Envelope → Bool × Bool
  | isPrivate, m, e => (e.isPrivate, m)
  | heartbeat, m, e => (decide (e = .heartbeat), m)
  | snapshot, m, e => (e.isSnapshot, m)
  | alternate, m, _ => (!m, !m)

/-- A stream that is split in the background. -/
inductive Splitter where
  | fanOut (source : LaneNumber) (lanes : List LaneNumber) (attached : List Bool)
  | partition (rule : Rule) (memory : Bool) (source matched rest : LaneNumber)

/-- A stream with its name, out of reach while a call reads it. -/
structure Named where
  name : String
  lane : LaneNumber

/-- What a call in the background waits for. -/
inductive Goal where
  | answer (call : CallNumber)
  | closed
  | next (stream : Named) (deadline : Option Instant)
  | search (stream : Named) (deadline : Option Instant) (matcher : Matcher Finding)

/-- A call in the background, by the step that made it. -/
structure Call where
  step : Nat
  goal : Goal

/-- A client and all that is around it. -/
structure World (P : Type) where
  client : Client
  peer : P
  lanes : List (Lane Envelope)
  streams : List Named
  splitters : List Splitter
  calls : List Call
  handles : List Nat
  handlesMade : Nat
  stepsTaken : Nat
  late : List Late
  reported : Nat

namespace World

variable {P : Type}

/-- The world of a new client. -/
def ofClient (c : Client) (peer : P) : World P where
  client := c
  peer
  lanes := []
  streams := [⟨"main", 0⟩]
  splitters := []
  calls := []
  handles := [0]
  handlesMade := 1
  stepsTaken := 0
  late := []
  reported := 0

def clock (w : World P) : Nat := w.client.now.millis

/-- A stream by its number. -/
def lane (w : World P) : LaneNumber → Lane Envelope
  | 0 => w.client.stream
  | n + 1 => w.lanes.getD n .empty

def setLane (w : World P) (n : LaneNumber) (l : Lane Envelope) : World P :=
  match n with
  | 0 => { w with client.stream := l }
  | n + 1 => { w with lanes := w.lanes.set n l }

def setLanes (w : World P) : List LaneNumber → List (Lane Envelope) → World P
  | n :: ns, l :: ls => (w.setLane n l).setLanes ns ls
  | _, _ => w

def newLanes (w : World P) (count : Nat) : List LaneNumber × World P :=
  (List.range' (w.lanes.length + 1) count,
    { w with lanes := w.lanes ++ List.replicate count .empty })

/-! ### What happens in the background -/

/-- A turn of a splitter, and what is left of it. -/
def splitterTurn (w : World P) : Splitter → Option (Option Splitter × World P)
  | .fanOut source lanes attached =>
    let f : FanOut Envelope := ⟨w.lane source, lanes.map w.lane, attached⟩
    let put (f : FanOut Envelope) : World P := (w.setLane source f.source).setLanes lanes f.lanes
    match f.turn with
    | .resting => none
    | .working f => some (some (.fanOut source lanes f.attached), put f)
    | .over f => some (none, put f)
  | .partition rule memory source matched rest =>
    let p : Partition Bool Envelope := ⟨w.lane source, w.lane matched, w.lane rest, memory⟩
    let put (p : Partition Bool Envelope) : World P :=
      ((w.setLane source p.source).setLane matched p.matched).setLane rest p.rest
    match p.turn rule.choose with
    | .resting => none
    | .working p => some (some (.partition rule p.memory source matched rest), put p)
    | .over p => some (none, put p)

/-- The turn of the first splitter of a list that has one; `before` are those in front of it. -/
def splitFrom (w : World P) (before : List Splitter) : List Splitter → Option (World P)
  | [] => none
  | s :: rest =>
    match w.splitterTurn s with
    | some (left, w) => some { w with splitters := before.reverse ++ left.toList ++ rest }
    | none => w.splitFrom (s :: before) rest

/-- One look of a call at what it waits for. -/
def goalTurn (w : World P) : Goal → Option Answer × World P
  | .answer call => ((w.client.answer? call).map .ofCall, w)
  | .closed => (if w.client.state = .closed then some .closed else none, w)
  | .next stream deadline =>
    let (outcome, lane) := (w.lane stream.lane).next deadline w.client.now
    (outcome.map .ofNext, w.setLane stream.lane lane)
  | .search stream deadline matcher =>
    let (outcome, lane) := (w.lane stream.lane).search matcher deadline w.client.now
    (outcome.map .ofSearch, w.setLane stream.lane lane)

/-- Gives back what a call held: its handle, or its stream. -/
def letGo (w : World P) : Goal → World P
  | .answer _ | .closed => { w with client := w.client.dropHandle }
  | .next stream _ | .search stream _ _ => { w with streams := stream :: w.streams }

/-- The first call of a list that is answered; `before` are those in front of it. -/
def callFrom (w : World P) (before : List Call) : List Call → Option (World P)
  | [] => none
  | call :: rest =>
    match w.goalTurn call.goal with
    | (some answer, w) =>
      let w := w.letGo call.goal
      some { w with
        calls := before.reverse ++ rest
        late := w.late ++ [⟨call.step, w.clock, answer⟩] }
    | (none, w) => w.callFrom (call :: before) rest

variable [Connector P]

/-- The attempt to connect and the worker. -/
def workTurn (w : World P) : Option (World P) :=
  match Connector.act? w.peer w.client with
  | some (peer, client) => some { w with peer, client }
  | none => (w.client.work 0).map fun client => { w with client }

/-- The next thing to happen, if there is one before the clock moves. -/
def turn (w : World P) : Option (World P) :=
  w.workTurn <|> w.splitFrom [] w.splitters <|> w.callFrom [] w.calls

/-- Lets things happen, but no more than so many. -/
def drive : Nat → World P → World P
  | 0, w => w
  | n + 1, w =>
    match w.turn with
    | some w => drive n w
    | none => w

/-- More turns than any world takes that is not made to run on and on. -/
def patience : Nat := 10000000

/-- Lets things happen until the world is at rest. -/
def settle (w : World P) : World P := drive patience w

def goalWake : Goal → Option Instant
  | .answer _ | .closed => none
  | .next _ deadline | .search _ deadline _ => deadline

/-- When a timer goes off next, in milliseconds. -/
def wakeAt? (w : World P) : Option Nat :=
  let timers := w.client.wakeAt?.toList ++ (Connector.wakeAt? w.peer).toList
    ++ w.calls.filterMap fun c => goalWake c.goal
  (timers.map Instant.millisUp).min?

def moveTo (w : World P) (millis : Nat) : World P :=
  { w with client := w.client.pass (Instant.ofMillis millis - w.client.now) }

instance : Timed (World P) := ⟨clock, wakeAt?, moveTo, settle⟩

end World

end MarketFeed.Simulation
