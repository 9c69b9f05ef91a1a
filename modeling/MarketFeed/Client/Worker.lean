import MarketFeed.Client.Basic

/-!
The work of a client, one step at a time. The worker connects, asks for every wanted topic again,
listens, and starts over after a pause when the session is lost. Between two steps callers may do
anything. A step that has to wait is no step.

While it connects, in the loop of a session and in the wait before it reconnects the worker selects among
several things that it waits for. The selects are biased: it looks at one branch after another, always in
the same order, and does something about the first one where there is something. Callers, the server and
the clock may come in between two looks of one round. What a branch does is one step, up to the next wait:
that it passes a message on is one step, and that the connection takes or refuses it is the next one. That
closing a connection takes time is left out.
-/

namespace MarketFeed

/-- What the worker waits for at a stage: the branches of its select, in the order in which it looks. -/
def Stage.branches : Stage → List Branch
  | dialing _ => [.signal, .answer]
  | session _ (.listening _) => [.signal, .queue, .frame, .patience, .heartbeat]
  | pausing _ => [.signal, .pause, .queue]
  | _ => []

/-- What the worker has still to look at in its round. -/
def Worker.ahead (w : Worker) : List Branch := w.stage.branches.dropWhile (· ≠ w.branch)

namespace Client

/-- The latest attempt or session. -/
def generation (c : Client) : Generation := c.worker.generation

/-- The worker goes on to another stage, or starts over at the same one. It begins with the signal to
close, where it looks for that. -/
def goTo (c : Client) (s : Stage) : Client := { c with worker.stage := s, worker.branch := .signal }

/-- The worker looks at a branch next. -/
def lookAt (c : Client) (b : Branch) : Client := { c with worker.branch := b }

/-- The worker breaks down; it still announces its end. -/
def breakDown (c : Client) : Client := (c.note .brokeDown).goTo .leaving

/-- An attempt or a session is over. -/
def lose (c : Client) (cause : TransportFault) : Client :=
  (c.note (.lost c.generation cause)).goTo (.ending cause)

def failAttempt (c : Client) (cause : TransportFault) : Client :=
  { c with worker.failedAttempts := c.worker.failedAttempts + 1 }.lose cause

/-- Announces the next attempt, unless a close was asked for. -/
def announceAttempt (c : Client) : Client :=
  let c := { c with worker.generation := c.generation + 1 }
  if c.state.isTerminal then c.goTo .leaving
  else (c.publish (.connecting c.generation)).goTo .calling

/-- The answer of the token source to the next question. The source belongs to the caller; it is taken to
return, and not to panic. -/
def nextToken (c : Client) : Option String :=
  if c.config.hasTokenSource then c.tokens c.worker.tokensAsked else none

/-- Asks for a connection to the endpoint with a new token. The look for the signal and the call of the
connector are one step: a close that comes in between is taken to come after the call. -/
def dial (c : Client) : Client :=
  match c.config.endpoint c.nextToken with
  | .error fault => c.failAttempt (.connect fault.message)
  | .ok endpoint =>
    let c := { c with worker.tokensAsked := c.worker.tokensAsked + 1 }
    if c.shared.cancelled then c.goTo .leaving
    else
      (c.note (.dialed c.generation endpoint)).goTo
        (.dialing (c.now.deadline c.config.connectTimeout))

/-- The fault of an attempt that nobody answered in time. -/
def timedOut (c : Client) : TransportFault :=
  .connect ("timed out after " ++ c.config.connectTimeout.text)

/-- What can come of asking for a connection. -/
inductive DialAnswer where
  | link (room : Option Nat)
  | fault (cause : TransportFault)
  | breakdown

/-- What becomes of the attempt with an answer. -/
def takeAnswer (c : Client) : DialAnswer → Client
  | .link room =>
    let number := c.worker.linksOpened + 1
    let c := { c with worker.failedAttempts := 0, worker.linksOpened := number }
    (c.note (.opened c.generation number)).goTo (.session (.fresh number room) .opening)
  | .fault cause => c.failAttempt cause
  | .breakdown => c.breakDown

/-- The answer to the attempt, if one is awaited. After a close was signalled it is taken by a worker that
looked for the signal before. -/
def answerDial (c : Client) (a : DialAnswer) : Option Client :=
  match c.worker.stage with
  | .dialing _ =>
    if c.shared.cancelled ∧ c.worker.branch = .signal then none else some (c.takeAnswer a)
  | _ => none

/-- Closes a connection and leaves. -/
def closeLink (c : Client) (l : Link) (frame : CloseFrame) : Client :=
  (c.note (.linkClosed c.generation l.number frame)).goTo .leaving

/-- What is pending when a session starts: one request for every wanted topic. -/
def pendingAtStart (s : Shared) (g : Generation) : PendingAcks :=
  s.registry.topics.foldl (fun p t => p.record ⟨t, .subscribe⟩) (s.pending.start g)

/-- Starts a session on a connection, unless a close was asked for. -/
def openSession (c : Client) (l : Link) : Client :=
  if c.state.isTerminal then c.closeLink l c.shared.farewell
  else
    let c := c.publish (.connected c.generation)
    { c with shared.pending := pendingAtStart c.shared c.generation }.goTo
      (.session l (.replaying c.shared.registry.topics))

/-- Passes a message to the connection. -/
def beginWrite (c : Client) (l : Link) (o : Outgoing) (s : Sequel) : Client :=
  (c.note (.writing c.generation o)).goTo (.session l (.writing o s))

/-- The outcome of a message that was passed to the connection. -/
def endWrite (c : Client) (l : Link) (o : Outgoing) (s : Sequel) : Client :=
  if l.room = some 0 then
    ((c.note (.refused c.generation o)).reply o.origin (.error .notConnected)).lose l.refusal
  else
    ((c.note (.written c.generation l.number o)).reply o.origin (.ok c.generation)).goTo
      (.session { l with room := l.room.map (· - 1) } s.activity)

/-- Sets the timers of a session that has asked for its topics. -/
def startListening (c : Client) (l : Link) : Client :=
  match c.now.add? c.config.heartbeat with
  | none => c.breakDown
  | some heartbeat =>
    c.goTo (.session l (.listening ⟨heartbeat, c.now.deadline c.config.idle, false, 0⟩))

/-- Executes a command. One for another session is not sent. -/
def execute (c : Client) (l : Link) (w : Watch) (command : Command) : Client :=
  if command.generation = c.generation then
    c.beginWrite l command.outgoing (.listen w)
  else (c.reply command.outgoing.origin (.error .notConnected)).goTo (.session l (.listening w))

/-- Hands an envelope to the reader. The answer to a request is handed on if it was awaited. -/
def deliver (c : Client) (e : Envelope) : Client :=
  let pass (c : Client) : Client :=
    { c with stream := c.stream.push e }.note (.delivered c.generation e)
  match e with
  | .ack topic action _ _ =>
    match c.shared.pending.resolve? c.generation ⟨topic, action⟩ with
    | some pending => pass { c with shared.pending := pending }
    | none => c.note (.withheld c.generation e)
  | _ => pass c

/-- The first frame of a session starts the delays anew. -/
def resetDelays (c : Client) (w : Watch) : Client :=
  if w.heard then c else { c with worker.backoff := c.worker.backoff.reset }

/-- A frame is handed on, or counted when it cannot be decoded. Too many of those in a row end the
session. -/
def judge (c : Client) (l : Link) (w : Watch) (f : Frame) : Client :=
  match f.decode with
  | .ok e => (c.deliver e).goTo (.session l (.listening { w with heard := true, failures := 0 }))
  | .error _ =>
    let failures := w.failures + 1
    if c.config.maxDecodeFailures ≤ failures then c.lose (.undecodable failures)
    else c.goTo (.session l (.listening { w with heard := true, failures }))

def hear (c : Client) (l : Link) (w : Watch) (f : Frame) : Client := (c.resetDelays w).judge l w f

def noteArrival (c : Client) : Option Arrival → Client
  | some a => c.note (.received c.generation a)
  | none => c

def react (c : Client) (l : Link) (w : Watch) : Option Arrival → Client
  | some (.ok f) => c.hear l w f
  | some (.error cause) => c.lose cause
  | none => c.lose .closed

/-- What came in, or that nothing more will. Either way patience starts anew. -/
def receive (c : Client) (l : Link) (w : Watch) (a : Option Arrival) : Client :=
  match c.now.add? c.config.idle with
  | none => (c.noteArrival a).breakDown
  | some idle => (c.noteArrival a).react l { w with idle } a

/-- How late a heartbeat may be without putting off the next one. -/
def leeway : Nat := 5000000

/-- When the heartbeat after one that was due is due. -/
def nextHeartbeat (due now : Instant) (period : Duration) : Instant :=
  if due + leeway < now then now.deadline period else due + period.nanos

/-- What the loop of a session does about a branch, if there is something. When the queue is at its end the
connection is closed with the normal frame, whatever is recorded. The two timers are due to the nanosecond,
and not at a whole millisecond. -/
def listenTo (c : Client) (l : Link) (w : Watch) : Branch → Option Client
  | .signal => if c.shared.cancelled then some (c.closeLink l c.shared.farewell) else none
  | .queue =>
    match c.commands with
    | command :: rest => some ({ c with commands := rest }.execute l w command)
    | [] => if c.handles = 0 then some ((c.recordClose .normal).signal.closeLink l .normal) else none
  | .frame =>
    match l.inbound with
    | a :: rest => some (c.receive { l with inbound := rest } w (some a))
    | [] => if l.ended then some (c.receive l w none) else none
  | .patience => if w.idle ≤ c.now then some (c.lose .idle) else none
  | .heartbeat =>
    if w.heartbeat ≤ c.now then
      let heartbeat := nextHeartbeat w.heartbeat c.now c.config.heartbeat
      some (c.beginWrite l .heartbeat (.listen { w with heartbeat }))
    else none
  | _ => none

/-- What an attempt does about a branch while the connector has not answered. The answer is an event of its
own; what is done here about its branch is the end of the time for it. -/
def dialTo (c : Client) (deadline : Instant) : Branch → Option Client
  | .signal => if c.shared.cancelled then some (c.goTo .leaving) else none
  | .answer => if deadline ≤ c.now then some (c.failAttempt c.timedOut) else none
  | _ => none

/-- What the wait before the next attempt does about a branch. It is over to the nanosecond, and not at a
whole millisecond. Commands are for sessions that are over. -/
def pauseTo (c : Client) (deadline : Instant) : Branch → Option Client
  | .signal => if c.shared.cancelled then some (c.goTo .leaving) else none
  | .pause => if deadline ≤ c.now then some (c.goTo .starting) else none
  | .queue =>
    match c.commands with
    | command :: rest =>
      some (({ c with commands := rest }.reply command.outgoing.origin (.error .notConnected)).lookAt
        .signal)
    | [] => if c.handles = 0 then some ((c.recordClose .normal).signal.goTo .leaving) else none
  | _ => none

def turnTo (c : Client) (b : Branch) : Option Client :=
  match c.worker.stage with
  | .dialing deadline => c.dialTo deadline b
  | .session l (.listening w) => c.listenTo l w b
  | .pausing deadline => c.pauseTo deadline b
  | _ => none

/-- One look, at a branch where there is nothing. After the last branch the round is over. -/
def lookOn (c : Client) : Option Client :=
  match c.worker.ahead with
  | b :: rest => if (c.turnTo b).isNone then some (c.lookAt (rest.headD .signal)) else none
  | [] => none

/-- The rest of a round at once, up to the first branch where there is something. When there is nothing a
whole round follows. -/
def poll (c : Client) : Option Client :=
  c.worker.ahead.findSome? c.turnTo <|> c.worker.stage.branches.findSome? c.turnTo

def workSession (c : Client) (l : Link) : Activity → Option Client
  | .opening => some (c.openSession l)
  | .replaying [] => some (c.startListening l)
  | .replaying (t :: rest) => some (c.beginWrite l (.ofReplay t) (.replay rest))
  | .writing o s => some (c.endWrite l o s)
  | .listening _ => c.poll

/-- The delay after a cause, and the backoff after it. -/
def delayAfter (c : Client) (cause : TransportFault) (chance : Nat) : Duration × Backoff :=
  match cause with
  | .maintenance => (c.config.reconnect.maintenanceDelay, c.worker.backoff)
  | _ => c.worker.backoff.next chance

/-- Whether so many attempts have failed that no other follows. -/
def givesUp (c : Client) : Bool :=
  match c.config.reconnect.maxAttempts with
  | some most => most ≤ c.worker.failedAttempts
  | none => false

/-- Announces the end of a session or attempt, unless a close was asked for. -/
def announceLoss (c : Client) : Client :=
  let c := { c with shared.pending := c.shared.pending.stop }
  if c.state.isTerminal then c else c.publish (.disconnected c.generation)

/-- Gives up, or pauses before the next attempt. -/
def retire (c : Client) (cause : TransportFault) (chance : Nat) : Client :=
  if c.givesUp then (c.note (.gaveUp c.generation)).goTo .leaving
  else
    let (delay, backoff) := c.delayAfter cause chance
    ({ c with worker.backoff := backoff }.note (.paused c.generation delay)).goTo
      (.pausing (c.now.deadline delay))

/-- What follows the end of a session or attempt. -/
def finishAttempt (c : Client) (cause : TransportFault) (chance : Nat) : Client :=
  c.announceLoss.retire cause chance

def announceEnd (c : Client) : Client :=
  let c := { c with shared.pending := c.shared.pending.stop }.publish .closed
  { c with shared.cancelled := true }.goTo .releasing

/-- Lets go of the queue, whose calls are answered, and of the stream. -/
def release (c : Client) : Client :=
  let c := c.commands.foldl (fun c command => c.reply command.outgoing.origin (.error .closed)) c
  { c with commands := [], stream := c.stream.finish }.goTo .gone

/-- The connection breaks down, and the worker with it. A call whose message was on its way is
answered. -/
def crash (c : Client) : Option Client :=
  match c.worker.stage with
  | .session _ (.writing o _) => some (c.reply o.origin (.error .closed)).breakDown
  | .session _ (.listening _) => some c.breakDown
  | _ => none

/-- The next step of the worker, if it need not wait. `chance` is what the next delay may add. -/
def work (c : Client) (chance : Nat) : Option Client :=
  match c.worker.stage with
  | .starting => some c.announceAttempt
  | .calling => some c.dial
  | .dialing _ | .pausing _ => c.poll
  | .session l activity => c.workSession l activity
  | .ending cause => some (c.finishAttempt cause chance)
  | .leaving => some c.announceEnd
  | .releasing => some c.release
  | .gone => none

/-- When the worker is to be woken if nothing else happens. -/
def wakeAt? (c : Client) : Option Instant :=
  match c.worker.stage with
  | .dialing deadline | .pausing deadline => some deadline
  | .session _ (.listening w) => some (min w.heartbeat w.idle)
  | _ => none

end Client

end MarketFeed
