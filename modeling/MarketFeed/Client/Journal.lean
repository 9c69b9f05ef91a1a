import MarketFeed.Envelope.Decode
import MarketFeed.Session.ConnectionState
import MarketFeed.Session.Fault
import MarketFeed.Client.Fault
import MarketFeed.Time.Instant

/-!
What happens on a client, one occurrence at a time. The journal of a client is the whole history: what
callers asked for and what state they found, what became of each attempt and session, every frame that
went out or came in, and every answer.
-/

namespace MarketFeed

/-- What comes in on a connection: a frame, or a fault. -/
abbrev Arrival := Except TransportFault Frame

abbrev CallNumber := Nat

/-- Where a message to the server comes from. A directive's call awaits an answer. -/
inductive Origin where
  | replay
  | heartbeat
  | request (call : CallNumber)
  | directive (call : CallNumber)
deriving DecidableEq, Repr

/-- A message to the server, and where it comes from. -/
structure Outgoing where
  message : Message
  origin : Origin
deriving DecidableEq, Repr

namespace Outgoing

def frameText (o : Outgoing) : String := o.message.frameText

/-- A wanted topic that a session asks for again. -/
def ofReplay (t : Topic) : Outgoing := ⟨.subscribe t, .replay⟩

def heartbeat : Outgoing := ⟨.ping, .heartbeat⟩

def ofRequest (call : CallNumber) (r : Request) : Outgoing := ⟨.ofAction r.action r.topic, .request call⟩

def ofDirective (call : CallNumber) (d : Directive) : Outgoing := ⟨.ofDirective d, .directive call⟩

end Outgoing

/-- One thing that happened. -/
inductive Occurrence where
  /-- A caller asked for an action on a topic and found a state. -/
  | requested (found : ConnectionState) (call : CallNumber) (request : Request)
  /-- A caller gave a directive for the live session and found a state. -/
  | directed (found : ConnectionState) (call : CallNumber) (directive : Directive)
  | closeAsked (found : ConnectionState) (frame : CloseFrame)
  /-- A caller gave up a handle; so many are left. -/
  | handleDropped (left : Nat)
  /-- The state changed, or was announced again. -/
  | published (state : ConnectionState)
  /-- A connection was asked for. -/
  | dialed (generation : Generation) (endpoint : String)
  | opened (generation : Generation) (link : Nat)
  /-- An attempt or a session was over. -/
  | lost (generation : Generation) (cause : TransportFault)
  /-- A message was passed to the connection. -/
  | writing (generation : Generation) (message : Outgoing)
  /-- The connection took a message. -/
  | written (generation : Generation) (link : Nat) (message : Outgoing)
  /-- The connection refused a message. -/
  | refused (generation : Generation) (message : Outgoing)
  | linkClosed (generation : Generation) (link : Nat) (frame : CloseFrame)
  | received (generation : Generation) (arrival : Arrival)
  /-- An envelope went to the reader. -/
  | delivered (generation : Generation) (envelope : Envelope)
  /-- The answer to a request that was not awaited. -/
  | withheld (generation : Generation) (envelope : Envelope)
  | answered (call : CallNumber) (outcome : Except ClientFault Generation)
  | paused (generation : Generation) (delay : Duration)
  | gaveUp (generation : Generation)
  | brokeDown
  | read (envelope : Envelope)
  | readEnd

/-- An occurrence and when it was. -/
structure Entry where
  time : Instant
  what : Occurrence

end MarketFeed
