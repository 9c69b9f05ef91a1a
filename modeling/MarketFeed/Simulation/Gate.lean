import MarketFeed.Simulation.Move

/-!
A server that lets connections through one by one. Each attempt takes the next prepared failure, or
else waits for a permit. The sessions that come of it are handed over in their order, and then both
ends of each can be looked at: what the client sent on it, and what it was closed with.
-/

namespace MarketFeed.Simulation

/-- The permits and failures to come, whether the present attempt has looked at them, whether the
server is gone, how many sessions were handed over, which of them were dropped, and how many frames
were read on each. -/
structure Gate where
  permits : Nat
  failures : List TransportFault
  asked : Bool
  gone : Bool
  served : Nat
  dropped : List Nat
  read : List (Nat × Nat)

namespace Gate

/-- A server that lets nothing through. -/
def shut : Gate := ⟨0, [], false, false, 0, [], []⟩

/-- The fault of attempts and connections that find no server. -/
def serverGone : TransportFault := .connect "server gone"

/-- Begins an attempt: a prepared failure comes first. -/
def ask (g : Gate) (c : Client) : Option (Gate × Client) :=
  match g.failures with
  | cause :: rest =>
    (c.answerDial (.fault cause)).map ({ g with asked := true, failures := rest }, ·)
  | [] => some ({ g with asked := true }, c)

/-- Lets an attempt through. -/
def letThrough (g : Gate) (c : Client) : Option (Gate × Client) :=
  if g.permits = 0 then none
  else
    (c.answerDial (if g.gone then .fault serverGone else .link none)).map
      ({ g with permits := g.permits - 1 }, ·)

/-- What the server does next about the attempt of a client. -/
def act? (g : Gate) (c : Client) : Option (Gate × Client) :=
  match c.worker.stage with
  | .dialing _ => if c.shared.cancelled then none else if g.asked then g.letThrough c else g.ask c
  | _ => if g.asked then some ({ g with asked := false }, c) else none

instance : Connector Gate := ⟨act?, fun _ => none⟩

def readOn (g : Gate) (session : Nat) : Nat := (g.read.lookup session).getD 0

def noteRead (g : Gate) (session count : Nat) : Gate :=
  { g with read := (session, g.readOn session + count) :: g.read }

/-- A session that was handed over and is still held, the newest if none is named. -/
def held? (g : Gate) (session : Option Nat) : Option Nat :=
  let number := session.getD g.served
  if 0 < number ∧ number ≤ g.served ∧ number ∉ g.dropped then some number else none

end Gate

inductive GateMove where
  | common (m : Move)
  | accept (count : Nat)
  | failNext (cause : TransportFault)
  | endpoints
  | nextSession
  | acceptSession
  | dropServer
  | takeSent (session : Option Nat) (count : Nat)
  | drainSent (session : Option Nat)
  | closedWith (session : Option Nat)
  | dropSession (session : Option Nat)
  | push (session : Option Nat) (a : Arrival)
  | hangUp (session : Option Nat)

namespace World

/-- How long the server waits for a session or a frame, in milliseconds. -/
def gatePatience : Nat := 2000

/-- Whether the client holds the connection of a session. -/
def holds (w : World Gate) (session : Nat) : Bool :=
  match w.client.worker.stage with
  | .session l _ => l.number = session
  | _ => false

/-- Whether the worker is gone, and with it every attempt. -/
def isOver (w : World Gate) : Bool := !w.client.takesCommands

/-- What the client has sent on a session and was not read. -/
def unread (w : World Gate) (session : Nat) : List String :=
  let sent := w.client.journal.reverse.filterMap fun e =>
    match e.what with
    | .written _ link m => if link = session then some m.frameText else none
    | _ => none
  sent.drop (w.peer.readOn session)

/-- What the connection of a session was closed with. -/
def farewellOn (w : World Gate) (session : Nat) : Option CloseFrame :=
  w.client.journal.findSome? fun e =>
    match e.what with
    | .linkClosed _ link frame => if link = session then some frame else none
    | _ => none

def endpoints (w : World Gate) : List String :=
  w.client.journal.reverse.filterMap fun e =>
    match e.what with
    | .dialed _ endpoint => some endpoint
    | _ => none

/-- Something happens on the connection of a session, if the client holds it. -/
def onHeld (w : World Gate) (session : Nat) (events : List Event) : World Gate :=
  if w.holds session then { w with client := (w.client.run events).getD w.client } else w

/-- The other end of a connection goes. -/
def leaveEnd (w : World Gate) (session : Nat) : World Gate :=
  w.onHeld session [.hangUp, .limit 0 .refused]

/-- Waits for the next session. -/
def serveNext (w : World Gate) : Answer × World Gate :=
  let found (w : World Gate) : Option (Option Nat) :=
    if w.peer.served < w.client.worker.linksOpened then some (some (w.peer.served + 1))
    else if w.isOver then some none
    else none
  match Timed.await w found gatePatience with
  | (some (some n), w) => (.number n, { w with peer.served := n })
  | (_, w) => (.nobody, w)

/-- Waits for a frame on a session. -/
def readNext (w : World Gate) (session : Nat) : Option String × World Gate :=
  let found (w : World Gate) : Option (Option String) :=
    match w.unread session with
    | frame :: _ => some (some frame)
    | [] => if w.holds session then none else some none
  match Timed.await w found gatePatience with
  | (some (some frame), w) => (some frame, { w with peer := w.peer.noteRead session 1 })
  | (_, w) => (none, w)

/-- Waits for some frames on a session, one after another. -/
def readMany (w : World Gate) (session : Nat) : Nat → List String → Answer × World Gate
  | 0, frames => (.names frames.reverse, w)
  | n + 1, frames =>
    match w.readNext session with
    | (some frame, w) => w.readMany session n (frame :: frames)
    | (none, w) => (.nobody, w)

/-- Makes a step of the server, unless it is gone. -/
def withServer (w : World Gate) (f : World Gate → Answer × World Gate) : Answer × World Gate :=
  if w.peer.gone then (.noServer, w) else f w

/-- Makes a step on a session that is held. -/
def withSession (w : World Gate) (session : Option Nat) (f : Nat → World Gate → Answer × World Gate) :
    Answer × World Gate :=
  match w.peer.held? session with
  | some n => f n w
  | none => (.noSession, w)

def performGate (w : World Gate) : GateMove → Answer × World Gate
  | .common m => w.perform m
  | .accept count => w.withServer fun w =>
    (.ok, { w with peer.permits := w.peer.permits + count })
  | .failNext cause => w.withServer fun w =>
    (.ok, { w with peer.failures := w.peer.failures ++ [cause] })
  | .endpoints => w.withServer fun w => (.names w.endpoints, w)
  | .nextSession => w.withServer serveNext
  | .acceptSession => w.withServer fun w =>
    { w with peer.permits := w.peer.permits + 1 }.serveNext
  | .dropServer => w.withServer fun w =>
    let w := { w with peer.gone := true }
    (.dropped, if w.peer.served < w.client.worker.linksOpened
      then w.leaveEnd w.client.worker.linksOpened else w)
  | .takeSent session count => w.withSession session fun n w => w.readMany n count []
  | .drainSent session => w.withSession session fun n w =>
    let frames := w.unread n
    (.names frames, { w with peer := w.peer.noteRead n frames.length })
  | .closedWith session => w.withSession session fun n w => (.frame (w.farewellOn n), w)
  | .dropSession session => w.withSession session fun n w =>
    (.dropped, { w.leaveEnd n with peer.dropped := n :: w.peer.dropped })
  | .push session a => w.withSession session fun n w => (.ok, w.onHeld n [.arrive a])
  | .hangUp session => w.withSession session fun n w => (.ok, w.onHeld n [.hangUp])

def playGate (w : World Gate) (m : GateMove) (settles : Bool) : Report × World Gate :=
  conclude settles (w.performGate m)

def startGate (c : Client) (settles : Bool) : Report × World Gate :=
  let w := ofClient c Gate.shut
  (if settles then w.settle else w).report .nothing

end World

end MarketFeed.Simulation
