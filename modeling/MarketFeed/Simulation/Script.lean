import MarketFeed.Simulation.Move

/-!
A connector that follows a script. Each attempt takes the next outcome, or waits for one. The server's
side of a session can be played as long as the client holds its connection.
-/

namespace MarketFeed.Simulation

/-- What an attempt comes to, once it comes to something. -/
inductive Reply where
  | accept (room : Option Nat)
  /-- Closes the client with a handle of the connector's own, if it has one, and accepts. -/
  | closeAndAccept (reason : String) (room : Option Nat)
  | fail (cause : TransportFault)

/-- The outcome of an attempt. -/
inductive Outcome where
  | hang
  | breakdown
  | reply (delay : Duration) (r : Reply)

/-- An attempt that has taken an outcome. -/
inductive Attempt where
  | hanging
  | replying (due : Instant) (r : Reply)

/-- The outcomes to come, the attempt that has taken one, and whether the connector holds a handle. -/
structure Script where
  outcomes : List Outcome
  attempt : Option Attempt
  closer : Bool

namespace Script

/-- The code that a connector closes its client with. -/
def closerCode : Nat := 4002

/-- Gives a reply. The handle of the connector is used up by its first close, which comes after the worker
has looked for the signal. -/
def give (s : Script) (c : Client) : Reply → Option (Script × Client)
  | .accept room => (c.answerDial (.link room)).map ({ s with attempt := none }, ·)
  | .fail cause => (c.answerDial (.fault cause)).map ({ s with attempt := none }, ·)
  | .closeAndAccept reason room =>
    if s.closer then
      c.lookOn.bind fun c => ((c.close ⟨closerCode, reason⟩).answerDial (.link room)).map
        ({ s with attempt := none, closer := false }, ·.dropHandle)
    else (c.answerDial (.link room)).map ({ s with attempt := none }, ·)

/-- Takes the next outcome for an attempt. -/
def take (s : Script) (c : Client) : Option (Script × Client) :=
  match s.outcomes with
  | [] => none
  | .hang :: rest => some ({ s with outcomes := rest, attempt := some .hanging }, c)
  | .breakdown :: rest => (c.answerDial .breakdown).map ({ s with outcomes := rest }, ·)
  | .reply delay r :: rest =>
    some ({ s with outcomes := rest, attempt := some (.replying (c.now.deadline delay) r) }, c)

/-- What the connector does about an attempt. -/
def serve (s : Script) (c : Client) : Option (Script × Client) :=
  match s.attempt with
  | none => s.take c
  | some (.replying due r) => if due ≤ c.now then s.give c r else none
  | some .hanging => none

/-- What the connector does next. An attempt that is over is forgotten, and its outcome with it. -/
def act? (s : Script) (c : Client) : Option (Script × Client) :=
  match c.worker.stage, s.attempt with
  | .dialing _, _ => if c.shared.cancelled then none else s.serve c
  | _, some _ => some ({ s with attempt := none }, c)
  | _, none => none

def wakeAt? (s : Script) : Option Instant :=
  match s.attempt with
  | some (.replying due _) => some due
  | _ => none

instance : Connector Script := ⟨act?, wakeAt?⟩

end Script

inductive ScriptMove where
  | common (m : Move)
  | outcomes (os : List Outcome)
  | push (session : Option Nat) (arrivals : List Arrival)
  | hangUp (session : Option Nat)
  | limit (session : Option Nat) (sends : Nat)

namespace World

/-- The connection that the client holds. -/
def link? {P : Type} (w : World P) : Option Link :=
  match w.client.worker.stage with
  | .session l _ => some l
  | _ => none

/-- How a session can be played. -/
inductive Standing where
  | unknown
  | over
  | hungUp
  | open
deriving DecidableEq, Repr

/-- The standing of a session, the newest if none is named. -/
def standing (w : World Script) (session : Option Nat) : Standing :=
  let number := session.getD w.client.worker.linksOpened
  if number = 0 ∨ w.client.worker.linksOpened < number then .unknown
  else
    match w.link? with
    | some l => if l.number ≠ number then .over else if l.ended then .hungUp else .open
    | none => .over

/-- Lets events happen to the client. -/
def happen (w : World Script) (events : List Event) : World Script :=
  { w with client := (w.client.run events).getD w.client }

/-- Plays the server on a session that is open. -/
def play (w : World Script) (session : Option Nat) (events : List Event) : Answer × World Script :=
  match w.standing session with
  | .unknown => (.noSession, w)
  | .over | .hungUp => (.sessionOver, w)
  | .open => (.ok, w.happen events)

/-- Makes a step of a simulation with a script. The room of a session can be set whatever its standing,
and matters as long as the client holds the connection. -/
def performScript (w : World Script) : ScriptMove → Answer × World Script
  | .common m => w.perform m
  | .outcomes os => (.nothing, { w with peer.outcomes := w.peer.outcomes ++ os })
  | .push session arrivals => w.play session (arrivals.map .arrive)
  | .hangUp session => w.play session [.hangUp]
  | .limit session sends =>
    match w.standing session with
    | .unknown => (.noSession, w)
    | .over => (.ok, w)
    | .hungUp | .open => (.ok, w.happen [.limit sends .refused])

def playScript (w : World Script) (m : ScriptMove) (settles : Bool) : Report × World Script :=
  conclude settles (w.performScript m)

def startScript (c : Client) (s : Script) (settles : Bool) : Report × World Script :=
  let c := if s.closer then c.clone else c
  let w := ofClient c s
  (if settles then w.settle else w).report .nothing

end World

end MarketFeed.Simulation
