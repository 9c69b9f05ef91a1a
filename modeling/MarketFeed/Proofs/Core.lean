import Mathlib.Logic.Relation
import MarketFeed.Proofs.History

/-!
The core of a client: what decides what a session is told and what it owes. Connections, timers and
envelopes are left out. A core changes by small moves, and an event of the client is a sequence of them.
-/

namespace MarketFeed

/-- The place of the worker: before an attempt or in the wait for one (`idle`), connecting until the session is
announced (`attempting`), asking for the topics again, sending a message, in the loop of the session
(`listening`), past the end of a session or an attempt, and past its last one. A message on its way carries
the rest of the replay, if it belongs to one. Connections, timers and the branch of a select are left out. -/
inductive Post where
  | idle
  | attempting
  | replaying (rest : List Topic)
  | writing (o : Outgoing) (rest : Option (List Topic))
  | listening
  | ended
  | leaving
  | releasing
  | gone

/-- The rest of the replay that a message belongs to. -/
def Sequel.rest? : Sequel → Option (List Topic)
  | replay rest => some rest
  | listen _ => none

/-- The post of an activity. -/
def Activity.post : Activity → Post
  | opening => .attempting
  | replaying rest => .replaying rest
  | writing o s => .writing o s.rest?
  | listening _ => .listening

/-- The post of a stage. -/
def Stage.post : Stage → Post
  | starting | pausing _ => .idle
  | calling | dialing _ => .attempting
  | session _ a => a.post
  | ending _ => .ended
  | leaving => .leaving
  | releasing => .releasing
  | gone => .gone

namespace Post

/-- The post after a message was taken. -/
def next : Option (List Topic) → Post
  | some rest => replaying rest
  | none => listening

/-- The message that is on its way. -/
def flight : Post → List Outgoing
  | writing o _ => [o]
  | _ => []

/-- The topics that are still to be asked for again. -/
def owed : Post → List Topic
  | replaying rest | writing _ (some rest) => rest
  | _ => []

/-- Whether topics are asked for again. -/
def isReplaying : Post → Bool
  | replaying _ | writing _ (some _) => true
  | _ => false

/-- Whether a session is announced and has not failed. -/
def isLive : Post → Bool
  | replaying _ | writing .. | listening => true
  | _ => false

/-- Whether a session was announced and its end was not. -/
def isAnnounced : Post → Bool
  | replaying _ | writing .. | listening | ended | leaving => true
  | _ => false

/-- Whether the end of the client was announced. -/
def isOver : Post → Bool
  | releasing | gone => true
  | _ => false

/-- Whether the worker may turn to the end of a session or of its work. -/
def mayYield : Post → Bool
  | writing .. | releasing | gone => false
  | _ => true

theorem isLive_next (rest : Option (List Topic)) : (next rest).isLive = true := by
  cases rest <;> rfl

theorem isAnnounced_of_isLive {p : Post} (h : p.isLive = true) : p.isAnnounced = true := by
  cases p <;> first | rfl | cases h

theorem isOver_of_isAnnounced {p : Post} (h : p.isAnnounced = true) : p.isOver = false := by
  cases p <;> first | rfl | cases h

theorem isOver_of_isLive {p : Post} (h : p.isLive = true) : p.isOver = false :=
  isOver_of_isAnnounced (isAnnounced_of_isLive h)

end Post

/-- What is pending after the replay of topics was planned. -/
def PendingAcks.recordAll (p : PendingAcks) (ts : List Topic) : PendingAcks :=
  ts.foldl (fun p t => p.record ⟨t, .subscribe⟩) p

/-- What a session is told and what it owes depends on no more than this. -/
structure Core where
  registry : Registry
  pending : PendingAcks
  state : ConnectionState
  commands : List Command
  callsMade : Nat
  generation : Generation
  post : Post
  journal : List Entry

/-- The core of a client. -/
def Client.core (c : Client) : Core where
  registry := c.shared.registry
  pending := c.shared.pending
  state := c.shared.state
  commands := c.commands
  callsMade := c.callsMade
  generation := c.worker.generation
  post := c.worker.stage.post
  journal := c.journal

def Origin.awaiting? : Origin → Option CallNumber
  | directive call => some call
  | _ => none

/-- The entry of an answer, if there is a call that awaits one. -/
def Origin.answer (o : Origin) (t : Instant) (outcome : Except ClientFault Generation) : List Entry :=
  o.awaiting?.toList.map fun call => ⟨t, .answered call outcome⟩

/-- An envelope that is kept from the reader. -/
def Occurrence.isWithheld : Occurrence → Bool
  | withheld .. => true
  | _ => false

/-- What a call fails with whose message does not reach the server. -/
def ClientFault.isLoss : ClientFault → Bool
  | notConnected | closed => true
  | _ => false

namespace Core

/-- The core before the first attempt. -/
def initial : Core := ⟨.empty, .empty, .connecting 1, [], 0, 0, .idle, []⟩

/-- Writes entries into the journal. -/
def log (k : Core) (es : List Entry) : Core := { k with journal := es ++ k.journal }

/-- Puts a command of a call into the queue. -/
def enqueue (k : Core) (command : Command) : Core :=
  { k with commands := k.commands ++ [command] }

def countCall (k : Core) : Core := { k with callsMade := k.callsMade + 1 }

/-- The registry after a request. -/
def want (k : Core) (r : Request) : Core := { k with registry := k.registry.apply r.action r.topic }

/-- The messages in the queue for a session. -/
def queued (k : Core) (g : Generation) : List Outgoing :=
  (k.commands.filter fun command => command.generation = g).map (·.outgoing)

end Core

/-- A small change of a core. It is what a call does under the lock of the shared state (`defer`, `ask`, `refuse`,
`direct`, `close`), or what the worker does between two waits: it announces an attempt or a session, sends a
topic of the replay, executes or drops a command, sends a heartbeat, has a message taken or refused, resolves
an acknowledgment, and ends a session, an attempt or its work. Everything else that is written into the
journal is a `note`; frames that are no acknowledgments, connections and the clock are left out. -/
inductive Move : Core → Core → Prop
  /-- Something happens that has no part in it. -/
  | note {k : Core} (e : Entry) (silent : e.what.isSilent = true) (shown : e.what.isWithheld = false) :
    Move k (k.log [e])
  /-- An acknowledgment is kept from the reader. -/
  | withhold {k : Core} (t : Instant) (r : Request) (success : Bool) (reason : Option String)
    (hp : k.post = .listening) (h : k.pending.resolve? k.generation r = none) :
    Move k (k.log [⟨t, .withheld k.generation (.ack r.topic r.action success reason)⟩])
  /-- A request without a session. -/
  | defer {k : Core} (t : Instant) (r : Request) (h : k.state.isConnected = false) :
    Move k ((k.want r).countCall.log [⟨t, .requested k.state k.callsMade r⟩])
  /-- A request to the live session. -/
  | ask {k : Core} (g : Generation) (t : Instant) (r : Request) (h : k.state = .connected g) :
    Move k (({ k.want r with pending := k.pending.record r }.enqueue
      ⟨g, .ofRequest k.callsMade r⟩).countCall.log [⟨t, .requested (.connected g) k.callsMade r⟩])
  /-- A directive without a session. -/
  | refuse {k : Core} (t : Instant) (d : Directive) (fault : ClientFault)
    (h : k.state.isConnected = false) (loss : fault.isLoss = true) :
    Move k (k.countCall.log
      [⟨t, .answered k.callsMade (.error fault)⟩, ⟨t, .directed k.state k.callsMade d⟩])
  /-- A directive to the live session. -/
  | direct {k : Core} (g : Generation) (t : Instant) (d : Directive) (h : k.state = .connected g) :
    Move k ((k.enqueue ⟨g, .ofDirective k.callsMade d⟩).countCall.log
      [⟨t, .directed (.connected g) k.callsMade d⟩])
  | close {k : Core} (h : k.state.isTerminal = false) : Move k { k with state := .closing }
  | attempt {k : Core} (hp : k.post = .idle) (h : k.state.isTerminal = false) :
    Move k { k with
      generation := k.generation + 1
      state := .connecting (k.generation + 1)
      post := .attempting }
  | abandon {k : Core} (hp : k.post = .idle) (h : k.state.isTerminal = true) :
    Move k { k with generation := k.generation + 1, post := .leaving }
  | connect {k : Core} (t : Instant) (hp : k.post = .attempting) (h : k.state.isTerminal = false) :
    Move k ({ k with
      state := .connected k.generation
      pending := (k.pending.start k.generation).recordAll k.registry.topics
      post := .replaying k.registry.topics }.log [⟨t, .published (.connected k.generation)⟩])
  | replay {k : Core} (t : Instant) (topic : Topic) (rest : List Topic)
    (hp : k.post = .replaying (topic :: rest)) :
    Move k ({ k with post := .writing (.ofReplay topic) (some rest) }.log
      [⟨t, .writing k.generation (.ofReplay topic)⟩])
  /-- A command for the session is executed. -/
  | take {k : Core} (t : Instant) (command : Command) (rest : List Command)
    (hp : k.post = .listening) (hc : k.commands = command :: rest)
    (hg : command.generation = k.generation) :
    Move k ({ k with commands := rest, post := .writing command.outgoing none }.log
      [⟨t, .writing k.generation command.outgoing⟩])
  | beat {k : Core} (t : Instant) (hp : k.post = .listening) :
    Move k ({ k with post := .writing .heartbeat none }.log [⟨t, .writing k.generation .heartbeat⟩])
  | write {k : Core} (t : Instant) (link : Nat) (o : Outgoing) (rest : Option (List Topic))
    (hp : k.post = .writing o rest) :
    Move k (({ k with post := .next rest }.log [⟨t, .written k.generation link o⟩]).log
      (o.origin.answer t (.ok k.generation)))
  | fail {k : Core} (t : Instant) (o : Outgoing) (rest : Option (List Topic)) (fault : ClientFault)
    (p : Post) (hp : k.post = .writing o rest) (loss : fault.isLoss = true)
    (yields : p = .ended ∨ p = .leaving) :
    Move k ({ k with post := p }.log (o.origin.answer t (.error fault)))
  /-- A command is not executed. -/
  | drop {k : Core} (t : Instant) (command : Command) (rest : List Command) (fault : ClientFault)
    (hc : k.commands = command :: rest) (loss : fault.isLoss = true)
    (stale : k.post.isLive = true → command.generation ≠ k.generation) :
    Move k ({ k with commands := rest }.log (command.outgoing.origin.answer t (.error fault)))
  | listen {k : Core} (hp : k.post = .replaying []) : Move k { k with post := .listening }
  /-- An acknowledgment that was awaited goes to the reader. -/
  | acknowledge {k : Core} (t : Instant) (r : Request) (success : Bool) (reason : Option String)
    (p : PendingAcks) (hp : k.post = .listening) (h : k.pending.resolve? k.generation r = some p) :
    Move k ({ k with pending := p }.log
      [⟨t, .delivered k.generation (.ack r.topic r.action success reason)⟩])
  /-- The worker turns to the end of a session or of its work. -/
  | yield {k : Core} (p : Post) (hp : k.post.mayYield = true) (yields : p = .ended ∨ p = .leaving) :
    Move k { k with post := p }
  /-- The end of a session is not announced. -/
  | settle {k : Core} (hp : k.post = .ended) (h : k.state.isTerminal = true) :
    Move k { k with pending := .empty }
  /-- The end of a session is announced. -/
  | disconnect {k : Core} (hp : k.post = .ended) (h : k.state.isTerminal = false) :
    Move k { k with pending := .empty, state := .disconnected k.generation }
  | pause {k : Core} (hp : k.post = .ended) (h : k.state.isConnected = false)
    (settled : k.pending = .empty) : Move k { k with post := .idle }
  | finish {k : Core} (hp : k.post = .leaving) :
    Move k { k with pending := .empty, state := .closed, post := .releasing }
  | release {k : Core} (hp : k.post = .releasing) (hc : k.commands = []) :
    Move k { k with post := .gone }

abbrev Moves : Core → Core → Prop := Relation.ReflTransGen Move

end MarketFeed
