import MarketFeed.Client.Basic

/-!
What a step of a simulation is answered with, now or later.
-/

namespace MarketFeed.Simulation

/-- What a search found. -/
inductive Finding where
  | confirmed
  | order (o : Order)
  | balance (b : UpdatedBalance)
  | trade (t : Trade)
  | topic (t : Topic)

/-- The answer to a step. -/
inductive Answer where
  | nothing
  | ok
  | pending
  | dropped
  | closed
  | ended
  | noHandle
  | noStream
  | noSession
  | sessionOver
  | noServer
  | nobody
  | fault (f : ClientFault)
  | number (n : Nat)
  | state (s : ConnectionState)
  | text (s : String)
  | names (ns : List String)
  | envelope (e : Envelope)
  | envelopes (es : List Envelope)
  | found (f : Finding)
  | frame (f : Option CloseFrame)

namespace Answer

def ofRequest : Except ClientFault Unit → Answer
  | .ok () => .ok
  | .error f => .fault f

def ofCall : Except ClientFault Generation → Answer
  | .ok g => .number g
  | .error f => .fault f

def ofSearch : Except ClientFault Finding → Answer
  | .ok f => .found f
  | .error f => .fault f

def ofNext : Except ClientFault (Option Envelope) → Answer
  | .ok (some e) => .envelope e
  | .ok none => .ended
  | .error f => .fault f

end Answer

/-- An answer that came after its step, and when. -/
structure Late where
  step : Nat
  time : Nat
  answer : Answer

end MarketFeed.Simulation
