import MarketFeed.Client.Worker

/-!
Runs of a client: everything that callers, the server, the clock and the worker may do, in any order.
The worker's own step is one of the events; so callers come in between any two of them.
-/

namespace MarketFeed

/-- What may happen next. -/
inductive Event where
  | request (r : Request)
  | direct (d : Directive)
  /-- A request to close is recorded, if it is the first. -/
  | close (frame : CloseFrame)
  /-- The request that was recorded signals the worker. -/
  | signal
  | clone
  | dropHandle
  | read
  | dropStream
  | pass (nanos : Nat)
  | dialAnswer (a : Client.DialAnswer)
  | arrive (a : Arrival)
  /-- Nothing more will come in on the connection. -/
  | hangUp
  /-- The connection takes so many more messages, and refuses those after them. -/
  | limit (sends : Nat) (refusal : TransportFault)
  /-- The connection breaks down under the worker. -/
  | crash
  /-- The worker looks at one branch of its select, and there is nothing. The rest of the round comes later. -/
  | look
  | work (chance : Nat)

namespace Client

/-- Changes the connection that the worker is on, if there is one. -/
def onLink (c : Client) (f : Link → Link) : Option Client :=
  match c.worker.stage with
  | .session l activity => some { c with worker.stage := .session (f l) activity }
  | _ => none

/-- The client after an event, if that can happen. Callers need a handle, which they keep until their call
is done, and the reader needs its stream. -/
def step (c : Client) : Event → Option Client
  | .request r => if c.handles = 0 then none else some (c.request r).1
  | .direct d => if c.handles = 0 then none else some (c.direct d).1
  | .close frame => if c.handles = 0 then none else some (c.askClose frame)
  | .signal => if c.isAsking = false then none else some c.signal
  | .clone => if c.handles = 0 then none else some c.clone
  | .dropHandle => if c.handles = 0 ∨ c.handles = 1 ∧ c.isAsking then none else some c.dropHandle
  | .read => if c.stream.abandoned then none else some c.read.2
  | .dropStream => some c.dropStream
  | .pass nanos => some (c.pass nanos)
  | .dialAnswer a => c.answerDial a
  | .arrive a => c.onLink fun l => if l.ended then l else { l with inbound := l.inbound ++ [a] }
  | .hangUp => c.onLink fun l => { l with ended := true }
  | .limit sends refusal => c.onLink fun l => { l with room := some sends, refusal }
  | .crash => c.crash
  | .look => c.lookOn
  | .work chance => c.work chance

/-- The client after a list of events, if all of them can happen. -/
def run (c : Client) : List Event → Option Client
  | [] => some c
  | e :: rest => (c.step e).bind fun c => c.run rest

/-- A client that some run has led to, from its making on. -/
inductive Reachable (config : Config) (tokens : Nat → Option String) : Client → Prop where
  | initial : config.isValid = true → Reachable config tokens (.initial config tokens)
  | step {c c' : Client} (e : Event) :
    Reachable config tokens c → c.step e = some c' → Reachable config tokens c'

end Client

end MarketFeed
