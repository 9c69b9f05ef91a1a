import MarketFeed.Client.Journal
import MarketFeed.Session.Registry
import MarketFeed.Stream.Lane

/-!
A client: what callers and the worker share, the queue between them, the worker with its place in its
work, and the stream of envelopes. Callers hold handles; they never wait for the worker, except for an
answer. What happens is written into the journal, the latest entry first.
-/

namespace MarketFeed

/-- What callers and the worker share. -/
structure Shared where
  registry : Registry
  pending : PendingAcks
  state : ConnectionState
  closeFrame : Option CloseFrame
  cancelled : Bool
deriving DecidableEq, Repr

/-- A message of a call, for one session. -/
structure Command where
  generation : Generation
  outgoing : Outgoing
deriving DecidableEq, Repr

/-- A connection: what came in and was not looked at, whether more can come, how many messages it still
takes, if there is a limit, and what it refuses others with. -/
structure Link where
  number : Nat
  inbound : List Arrival
  ended : Bool
  room : Option Nat
  refusal : TransportFault

def Link.fresh (number : Nat) (room : Option Nat) : Link := ⟨number, [], false, room, .refused⟩

/-- What a live session keeps an eye on: when the next heartbeat and the end of its patience are due,
whether the server was heard from, and how many frames in a row could not be decoded. -/
structure Watch where
  heartbeat : Instant
  idle : Instant
  heard : Bool
  failures : Nat
deriving DecidableEq, Repr

/-- What follows when a message was taken: more topics to ask for again, or listening. -/
inductive Sequel where
  | replay (rest : List Topic)
  | listen (watch : Watch)
deriving DecidableEq, Repr

/-- What a session is doing. -/
inductive Activity where
  | opening
  | replaying (rest : List Topic)
  | writing (message : Outgoing) (sequel : Sequel)
  | listening (watch : Watch)
deriving DecidableEq, Repr

def Sequel.activity : Sequel → Activity
  | replay rest => .replaying rest
  | listen watch => .listening watch

/-- A branch of a select: one of the things that the worker waits for at the same time while it connects, in the
loop of a session, or before it reconnects. -/
inductive Branch where
  /-- The signal to close. -/
  | signal
  /-- The answer to an attempt, or the end of the time for it. -/
  | answer
  /-- The end of a pause. -/
  | pause
  /-- The next command, or that nobody can give one any more. -/
  | queue
  | frame
  | patience
  | heartbeat
deriving DecidableEq, Repr

/-- The place of the worker in its work. -/
inductive Stage where
  /-- About to announce an attempt. -/
  | starting
  /-- About to ask for a connection. -/
  | calling
  | dialing (deadline : Instant)
  | session (link : Link) (activity : Activity)
  /-- An attempt or a session is over. -/
  | ending (cause : TransportFault)
  | pausing (deadline : Instant)
  /-- No further attempt will follow. -/
  | leaving
  /-- The end was announced; the queue and the stream are still held. -/
  | releasing
  | gone

/-- The worker. The generation is that of its latest attempt, and zero before the first. Where the worker
waits for several things it looks at one after another; `branch` is the one it looks at next. The attempts
that failed one after another are counted without a bound: for what happens after 2^32 of them this says
nothing. -/
structure Worker where
  stage : Stage
  branch : Branch
  generation : Generation
  failedAttempts : Nat
  backoff : Backoff
  tokensAsked : Nat
  linksOpened : Nat

/-- A client. The token source is asked by number. -/
structure Client where
  config : Config
  tokens : Nat → Option String
  now : Instant
  shared : Shared
  handles : Nat
  commands : List Command
  callsMade : Nat
  worker : Worker
  stream : Lane Envelope
  journal : List Entry

namespace Shared

def initial : Shared := ⟨.empty, .empty, .connecting 1, none, false⟩

/-- What to close a connection with. -/
def farewell (s : Shared) : CloseFrame := s.closeFrame.getD .normal

end Shared

namespace Client

/-- A client before its worker has done anything, with one handle. -/
def initial (config : Config) (tokens : Nat → Option String) : Client where
  config
  tokens
  now := 0
  shared := .initial
  handles := 1
  commands := []
  callsMade := 0
  worker := ⟨.starting, .signal, 0, 0, .ofPolicy config.reconnect.backoff, 0, 0⟩
  stream := .empty
  journal := []

/-- Makes a client from a configuration that can drive one. -/
def create (config : Config) (tokens : Nat → Option String) : Except ClientFault Client :=
  match config.fault? with
  | some fault => .error (.config fault)
  | none => .ok (initial config tokens)

def state (c : Client) : ConnectionState := c.shared.state

def subscriptions (c : Client) : List Topic := c.shared.registry.topics

/-- The requests on the live session that await an answer. -/
def pendingAcks (c : Client) : List Request := c.shared.pending.entries

/-- The answer to a call, once there is one. -/
def answer? (c : Client) (call : CallNumber) : Option (Except ClientFault Generation) :=
  c.journal.findSome? fun e =>
    match e.what with
    | .answered n outcome => if n = call then some outcome else none
    | _ => none

def announcements (c : Client) : Nat :=
  c.journal.countP fun e =>
    match e.what with
    | .published _ => true
    | _ => false

def dump (c : Client) : String :=
  Config.dumpFields "ReconnectingClient" [("state", c.state.text)]

/-- Writes an occurrence into the journal. -/
def note (c : Client) (o : Occurrence) : Client := { c with journal := ⟨c.now, o⟩ :: c.journal }

def publish (c : Client) (s : ConnectionState) : Client :=
  { c with shared := { c.shared with state := s } }.note (.published s)

/-- Answers the call that a message is of, if that awaits an answer. -/
def reply (c : Client) (o : Origin) (outcome : Except ClientFault Generation) : Client :=
  match o with
  | .directive call => c.note (.answered call outcome)
  | _ => c

def takesCommands (c : Client) : Bool :=
  match c.worker.stage with
  | .gone => false
  | _ => true

/-- Puts a command into the queue, if the worker takes it. -/
def enqueue (c : Client) (command : Command) : Option Client :=
  if c.takesCommands then some { c with commands := c.commands ++ [command] } else none

/-- Asks for an action on a topic: the registry changes at once, and a live session is told. -/
def request (c : Client) (r : Request) : Client × Except ClientFault Unit :=
  let call := c.callsMade
  let c := { c with callsMade := call + 1 }.note (.requested c.state call r)
  let c := { c with shared.registry := c.shared.registry.apply r.action r.topic }
  match c.state with
  | .connected g =>
    let c := { c with shared.pending := c.shared.pending.record r }
    match c.enqueue ⟨g, .ofRequest call r⟩ with
    | some c => (c, .ok ())
    | none => (c, .error .closed)
  | .closing | .closed => (c, .error .closed)
  | .connecting _ | .disconnected _ => (c, .ok ())

/-- Asks for a topic, now and on every later session. -/
def subscribe (c : Client) (t : Topic) : Client × Except ClientFault Unit := c.request ⟨t, .subscribe⟩

def unsubscribe (c : Client) (t : Topic) : Client × Except ClientFault Unit :=
  c.request ⟨t, .unsubscribe⟩

/-- Answers the call for a directive at once. -/
def refuse (c : Client) (call : CallNumber) (fault : ClientFault) :
    Client × Except ClientFault CallNumber :=
  (c.note (.answered call (.error fault)), .error fault)

/-- Gives a directive for the live session and no other. The number is that of the call, whose answer
is awaited. -/
def direct (c : Client) (d : Directive) : Client × Except ClientFault CallNumber :=
  let call := c.callsMade
  let c := { c with callsMade := call + 1 }.note (.directed c.state call d)
  match c.state with
  | .connected g =>
    match c.enqueue ⟨g, .ofDirective call d⟩ with
    | some c => (c, .ok call)
    | none => c.refuse call .closed
  | .closing | .closed => c.refuse call .closed
  | .connecting _ | .disconnected _ => c.refuse call .notConnected

/-- Records what to close with and announces it, unless that has happened before. -/
def recordClose (c : Client) (frame : CloseFrame) : Client :=
  if c.state.isTerminal then c
  else { c with shared.closeFrame := some frame }.publish .closing

/-- Signals a recorded close to the worker. -/
def signal (c : Client) : Client := { c with shared.cancelled := true }

/-- The first part of a request to close. The worker is signalled after that, and only by the request
that was recorded. -/
def askClose (c : Client) (frame : CloseFrame) : Client :=
  (c.note (.closeAsked c.state frame)).recordClose frame

/-- A request to close. -/
def close (c : Client) (frame : CloseFrame) : Client :=
  if c.state.isTerminal then c.askClose frame else (c.askClose frame).signal

/-- Whether a close was recorded that the worker is not signalled yet. -/
def isAsking (c : Client) : Bool := c.state = .closing && !c.shared.cancelled

def clone (c : Client) : Client := { c with handles := c.handles + 1 }

def dropHandle (c : Client) : Client :=
  { c with handles := c.handles - 1 }.note (.handleDropped (c.handles - 1))

/-- One look at the stream of envelopes. -/
def read (c : Client) : Poll Envelope × Client :=
  match c.stream.poll with
  | (.item e, l) => (.item e, { c with stream := l }.note (.read e))
  | (.ended, l) => (.ended, { c with stream := l }.note .readEnd)
  | (.pending, l) => (.pending, { c with stream := l })

def dropStream (c : Client) : Client := { c with stream := c.stream.abandon }

def pass (c : Client) (nanos : Nat) : Client := { c with now := c.now + nanos }

end Client

end MarketFeed
