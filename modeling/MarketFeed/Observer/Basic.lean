import MarketFeed.Observer.Line
import MarketFeed.Simulation.Script

/-!
An observer of a feed: a program that subscribes to four topics, waits until the first is confirmed,
prints what happens, and stops after a number of events or at the end of the stream. Beside it runs a
guard, which asks on every new session that open orders be cancelled should the session drop.

The observer runs in a simulated world with a scripted connector. The worker, the program and the guard
have their turns one after another; the program reads so many envelopes in a turn and no more.
-/

namespace MarketFeed.Observer

open Simulation

/-- How the program ended. -/
inductive Exit where
  | done
  | failed (fault : ClientFault)
  | brokeDown
deriving DecidableEq, Repr

/-- What the program is doing. -/
inductive Stage where
  | confirming (deadline : Instant)
  | watching (count : Nat)
  | closing
  | over (exit : Exit)
deriving DecidableEq, Repr

/-- What the guard is doing. `seen` is how many announcements of states it has looked at. -/
inductive Guard where
  | absent
  | looking
  | arming (generation : Generation) (call : CallNumber) (seen : Nat)
  | waiting (seen : Nat)
deriving DecidableEq, Repr

def market : MarketId := ⟨"BTC/USDC"⟩

/-- The topics, in the order in which they are asked for. -/
def topics : List Topic :=
  [.balances, .myOrders, .incrementalOrderBook market, .prices market .minutes1]

/-- How long the program waits for the first topic to be confirmed. -/
def confirmation : Duration := .ofSeconds 10

/-- After how many events the program stops. -/
def eventLimit : Nat := 500

/-- How many envelopes the program reads in one turn. -/
def turnLimit : Nat := 128

def config (url : String) : Config :=
  let c := Config.ofUrl url
  { c with
    hasTokenSource := true
    reconnect.backoff := .exponential (.ofMillis 500) (.ofSeconds 10) (.ofNat 2) true }

end Observer

/-- An observer in its world, and what it printed since the last report. -/
structure Observer where
  world : Simulation.World Simulation.Script
  stage : Observer.Stage
  guard : Observer.Guard
  printed : List Observer.Line
  ended : Option Observer.Exit

namespace Observer

open Simulation

/-- An observer that ended before it had a client. -/
def stillborn (script : Script) (exit : Exit) : Observer where
  world := .ofClient ((Client.initial (Config.ofUrl "") fun _ => none).goTo .gone) script
  stage := .over exit
  guard := .absent
  printed := []
  ended := some exit

/-- The start of the program. Without a token it breaks down. -/
def start (token url : Option String) (script : Script) : Observer :=
  match token with
  | none => stillborn script .brokeDown
  | some token =>
    match Client.create (config (url.getD Config.defaultUrl)) fun _ => some token with
    | .error fault => stillborn script (.failed fault)
    | .ok c =>
      let c := topics.foldl (fun c t => (c.subscribe t).1) c
      { world := .ofClient c script
        stage := .confirming (c.now.deadline confirmation)
        guard := .absent
        printed := []
        ended := none }

def client (o : Observer) : Client := o.world.client

def withClient (o : Observer) (c : Client) : Observer := { o with world.client := c }

def print (o : Observer) (lines : List Line) : Observer := { o with printed := o.printed ++ lines }

/-- The program ends, and its handle and its stream are gone. -/
def exit (o : Observer) (e : Exit) : Observer :=
  { o.withClient o.client.dropStream.dropHandle with stage := .over e, ended := some e }

/-- The program asks to close and waits for it. -/
def close (o : Observer) : Observer :=
  { o.withClient (o.client.close ⟨1000, "demo finished"⟩) with stage := .closing }

/-- The program looks for the confirmation, and then starts the guard. -/
def confirm (o : Observer) (deadline : Instant) : Option Observer :=
  match o.client.stream.search (.subscription .balances) deadline o.client.now with
  | (none, _) => none
  | (some (.error fault), stream) =>
    some ((o.withClient { o.client with stream }).exit (.failed fault))
  | (some (.ok ()), stream) =>
    let o := o.withClient { o.client with stream }.clone
    some { o.print [.out "Subscribed! Waiting for events...\n"] with
      stage := .watching 0, guard := .looking }

/-- The program looks for the next envelope. -/
def watch (o : Observer) (count : Nat) : Option Observer :=
  match o.client.read with
  | (.pending, _) => none
  | (.ended, c) => some (o.withClient c).close
  | (.item e, c) =>
    let o := (o.withClient c).print (lines (count + 1) e)
    some (if eventLimit ≤ count + 1 then o.close else { o with stage := .watching (count + 1) })

def programStep (o : Observer) : Option Observer :=
  match o.stage with
  | .confirming deadline => o.confirm deadline
  | .watching count => o.watch count
  | .closing =>
    if o.client.state = .closed then some ((o.print [.out "WebSocket stream ended."]).exit .done)
    else none
  | .over _ => none

/-- The guard has looked at a state: it goes when that is the last one. -/
def rest (o : Observer) (looked : ConnectionState) (seen : Nat) : Observer :=
  if looked = .closed then { o.withClient o.client.dropHandle with guard := .absent }
  else { o with guard := .waiting seen }

/-- The line about an attempt to arm a session. -/
def armLine (g : Generation) : Except ClientFault Generation → Line
  | .ok _ => .out ("Cancel-on-disconnect armed for session " ++ toString g)
  | .error fault => .err ("Could not arm cancel-on-disconnect: " ++ fault.message)

def guardStep (o : Observer) : Option Observer :=
  match o.guard with
  | .absent => none
  | .looking =>
    let seen := o.client.announcements
    match o.client.state with
    | .connected g =>
      match o.client.direct (.cancelOnDisconnect [market]) with
      | (c, .ok call) => some { o.withClient c with guard := .arming g call seen }
      | (c, .error fault) =>
        some (((o.withClient c).print [armLine g (.error fault)]).rest (.connected g) seen)
    | state => some (o.rest state seen)
  | .arming g call seen =>
    (o.client.answer? call).map fun outcome => (o.print [armLine g outcome]).rest (.connected g) seen
  | .waiting seen =>
    if o.client.announcements = seen then none else some { o with guard := .looking }

/-- Makes steps as long as there are any, but no more than so many, and tells whether there was one. -/
def repeatStep (step : Observer → Option Observer) : Nat → Observer → Observer × Bool
  | 0, o => (o, false)
  | n + 1, o =>
    match step o with
    | some o => ((repeatStep step n o).1, true)
    | none => (o, false)

/-- A turn of the worker, of the program, and of the guard. -/
def round (o : Observer) : Observer × Bool :=
  let worked := o.world.turn.isSome
  let o := { o with world := o.world.settle }
  let (o, ran) := repeatStep programStep turnLimit o
  let (o, guarded) := repeatStep guardStep turnLimit o
  (o, worked || ran || guarded)

/-- Rounds, as long as anything happens in one, but no more than so many. -/
def rounds : Nat → Observer → Observer
  | 0, o => o
  | n + 1, o =>
    match o.round with
    | (o, true) => rounds n o
    | (o, false) => o

/-- Lets everything happen that can happen before the clock moves. -/
def settle (o : Observer) : Observer := rounds World.patience o

def wakeAt? (o : Observer) : Option Nat :=
  let own := match o.stage with
    | .confirming deadline => some deadline.millisUp
    | _ => none
  (o.world.wakeAt?.toList ++ own.toList).min?

instance : Timed Observer :=
  ⟨fun o => o.world.clock, wakeAt?, fun o t => { o with world := o.world.moveTo t }, settle⟩

/-- What is told after a step. -/
structure Report where
  answer : Answer
  printed : List Line
  journal : List Entry
  ended : Option Exit

/-- Makes a step of the world. -/
def perform (o : Observer) : ScriptMove → Answer × Observer
  | .common (.advance millis) => (.nothing, Timed.advance o millis)
  | m =>
    let (answer, world) := o.world.performScript m
    (answer, { o with world })

def report (o : Observer) (answer : Answer) : Report × Observer :=
  let (r, world) := o.world.report answer
  (⟨answer, o.printed, r.journal, o.ended⟩, { o with world, printed := [], ended := none })

/-- Makes a step, lets everything happen that follows, and reports on it. -/
def play (o : Observer) (m : ScriptMove) : Report × Observer :=
  let (answer, o) := o.perform m
  o.settle.report answer

end Observer

end MarketFeed
