import MarketFeed.Proofs.Moves

/-!
What an event can do to a client. Every event comes to one deed, which says when it is possible, what
becomes of the client and what is written into the journal. What every deed keeps holds on every run.
-/

namespace MarketFeed

/-- Neither the connector nor a connection breaks down. -/
def Event.isCalm : Event → Bool
  | crash | dialAnswer .breakdown => false
  | _ => true

/-- Whether an event is a step of the worker. -/
def Event.isWork : Event → Bool
  | .work _ => true
  | _ => false

/-- Whether the worker waits for the connector or for a connection. -/
def Stage.awaits : Stage → Bool
  | dialing _ | session _ (.writing ..) | session _ (.listening _) => true
  | _ => false

def Occurrence.isAnswer : Occurrence → Bool
  | answered .. => true
  | _ => false

/-- A view that shows no answers shows nothing of some. -/
theorem History.view_answers {α : Type} {f : Occurrence → Option α} {es : List Entry}
    (h : ∀ e ∈ es, e.what.isAnswer = true) (hf : ∀ call x, f (.answered call x) = none)
    (j : List Entry) : view f (es ++ j) = view f j := by
  refine view_append_hidden fun e he => ?_
  have ha := h e he
  unfold Occurrence.isAnswer at ha
  split at ha
  · rename_i call x hx
    rw [hx, hf]
  · cases ha

/-- What is no answer. -/
def Occurrence.unanswering? : Occurrence → Option Occurrence
  | answered .. => none
  | o => some o

/-- What happened but for the answers to calls, the earliest first. -/
def History.happened (j : List Entry) : List Occurrence := view Occurrence.unanswering? j

theorem History.mem_happened {o : Occurrence} {j : List Entry} (h : o ∈ happened j) :
    ∃ e ∈ j, e.what = o := by
  obtain ⟨e, he, hu⟩ := mem_view.mp h
  refine ⟨e, he, ?_⟩
  unfold Occurrence.unanswering? at hu
  split at hu
  · cases hu
  · exact Option.some.inj hu

/-- A view that shows no answers shows it of what else happened. -/
theorem History.filterMap_happened {α : Type} {f : Occurrence → Option α}
    (hf : ∀ call x, f (.answered call x) = none) (j : List Entry) :
    (happened j).filterMap f = view f j := by
  rw [happened, view, view, List.filterMap_filterMap]
  refine List.filterMap_congr fun e _ => ?_
  cases e.what with
  | answered call x => exact (hf call x).symm
  | _ => rfl

namespace History

variable {j l : List Entry} {os : List Occurrence}

/-- These occurrences were written into a journal, and perhaps answers to calls. -/
def Extends (j : List Entry) (os : List Occurrence) (l : List Entry) : Prop :=
  ∃ n, l = n ++ j ∧ happened n = os

theorem Extends.refl (j : List Entry) : Extends j [] j := ⟨[], rfl, rfl⟩

theorem Extends.next {o : Occurrence} {t : Instant} (h : Extends j os l)
    (ho : o.unanswering? = some o) : Extends j (os ++ [o]) (⟨t, o⟩ :: l) := by
  obtain ⟨n, rfl, rfl⟩ := h
  refine ⟨⟨t, o⟩ :: n, rfl, ?_⟩
  rw [happened, view_cons, ho]
  rfl

theorem Extends.answers {es : List Entry} (h : Extends j os l)
    (hes : ∀ e ∈ es, e.what.isAnswer = true) : Extends j os (es ++ l) := by
  obtain ⟨n, rfl, rfl⟩ := h
  exact ⟨es ++ n, (List.append_assoc ..).symm, view_answers hes (fun _ _ => rfl) n⟩

/-- What a view shows of the longer journal, if it shows no answers. -/
theorem Extends.view {α : Type} {f : Occurrence → Option α} (h : Extends j os l)
    (hf : ∀ call x, f (.answered call x) = none) : view f l = view f j ++ os.filterMap f := by
  obtain ⟨n, rfl, rfl⟩ := h
  rw [filterMap_happened hf]
  simp [History.view]

end History

theorem Origin.isAnswer_answer {o : Origin} {t : Instant} {x : Except ClientFault Generation} :
    ∀ e ∈ o.answer t x, e.what.isAnswer = true := by
  intro e he
  obtain ⟨call, -, rfl⟩ := List.mem_map.mp he
  rfl

namespace Client

open History

/-- Writes entries into the journal. -/
def log (c : Client) (es : List Entry) : Client := { c with journal := es ++ c.journal }

theorem reply_eq_log (c : Client) (o : Origin) (x : Except ClientFault Generation) :
    c.reply o x = c.log (o.answer c.now x) := by
  cases o <;> rfl

/-- Records what to close with. -/
def shut (c : Client) (frame : CloseFrame) : Client :=
  { c with shared.closeFrame := some frame }.publish .closing

/-- The backoff after a frame of a session; the first one starts the delays anew. -/
def hearingBackoff (c : Client) (w : Watch) : Backoff :=
  if w.heard then c.worker.backoff else c.worker.backoff.reset

/-- A frame came in, and the delays may have started anew. -/
def takeIn (c : Client) (f : Frame) (b : Backoff) : Client :=
  { c with worker.backoff := b }.note (.received c.generation (.ok f))

/-- The session or attempt awaits no answers any more. -/
def settle (c : Client) : Client := { c with shared.pending := c.shared.pending.stop }

/-- The worker is signalled a close after the state tells of it, and by someone who has a handle. -/
structure Signalled (c : Client) : Prop where
  told : c.shared.cancelled = true → c.state.isTerminal = true
  closed : c.state = .closed → c.shared.cancelled = true
  asking : c.isAsking = true → c.handles ≠ 0

/-- No close was asked for when there is no handle and no signal. -/
theorem Signalled.unclosed {c : Client} (h : c.Signalled) (hc : c.shared.cancelled = false)
    (h0 : c.handles = 0) : c.state.isTerminal = false := by
  cases hs : c.state with
  | closing =>
    have ha : c.isAsking = true := by simp [isAsking, hs, hc]
    exact absurd h0 (h.asking ha)
  | closed => cases hc.symm.trans (h.closed hs)
  | _ => rfl

/-- Nobody is left who could still signal a close that was asked for. -/
theorem Signalled.cancelled {c : Client} (h : c.Signalled) (ht : c.state.isTerminal = true)
    (h0 : c.handles = 0) : c.shared.cancelled = true :=
  Bool.of_not_eq_false fun hc => nomatch ht.symm.trans (h.unclosed hc h0)

/-- One change of a client, with what it writes into the journal besides answers to calls: a call of a handle or
of the reader, something at the other end of the connection, or one step of the worker. The steps of the
worker are those of its main loop, from the announcement of an attempt to that of the end: asking for a
connection and the outcome, the replay, the outcome of a message, what a branch of the select in a session
does (from `depart` to `beat`), what follows the end of a session, and what a branch of the wait before the
next attempt does (`leave`, `wake`, `drop`, `leaveAlone`). The order in which a select looks is kept only as
far as `Comes` says it. The event that a deed comes of tells what the clock, the reader and a connection
can do. -/
inductive Deed (e : Event) : Client → List Occurrence → Client → Prop
  | rest {c : Client} (hq : e.isWork = false) : Deed e c [] c
  | ask {c : Client} (r : Request) (p : PendingAcks) (cs : List Command) (he : e = .request r)
    (hn : c.handles ≠ 0)
    (h : c.state.isConnected = false → p = c.shared.pending ∧ cs = c.commands) :
    Deed e c [.requested c.state c.callsMade r] ({ c with
      shared.registry := c.shared.registry.apply r.action r.topic
      shared.pending := p
      commands := cs
      callsMade := c.callsMade + 1 }.note (.requested c.state c.callsMade r))
  | direct {c : Client} (d : Directive) (g : Generation) (hn : c.handles ≠ 0)
    (h : c.state = .connected g) (hq : e.isWork = false) :
    Deed e c [.directed c.state c.callsMade d] ({ c with
      commands := c.commands ++ [(⟨g, .ofDirective c.callsMade d⟩ : Command)]
      callsMade := c.callsMade + 1 }.note (.directed c.state c.callsMade d))
  | refuse {c : Client} (d : Directive) (fault : ClientFault) (h : c.state.isConnected = false)
    (hq : e.isWork = false) :
    Deed e c [.directed c.state c.callsMade d]
      (({ c with callsMade := c.callsMade + 1 }.note (.directed c.state c.callsMade d)).note
        (.answered c.callsMade (.error fault)))
  | close {c : Client} (frame : CloseFrame) (h : c.state.isTerminal = false) (hn : c.handles ≠ 0)
    (hq : e.isWork = false) :
    Deed e c [.closeAsked c.state frame, .published .closing]
      ((c.note (.closeAsked c.state frame)).shut frame)
  | closeAgain {c : Client} (frame : CloseFrame) (h : c.state.isTerminal = true)
    (hq : e.isWork = false) : Deed e c [.closeAsked c.state frame] (c.note (.closeAsked c.state frame))
  /-- The request that was recorded signals the worker. -/
  | signal {c : Client} (h : c.isAsking = true) (hq : e.isWork = false) : Deed e c [] c.signal
  | clone {c : Client} (h : c.handles ≠ 0) (hq : e.isWork = false) : Deed e c [] c.clone
  | dropHandle {c : Client} (h : c.handles ≠ 0) (ha : c.isAsking = true → c.handles ≠ 1)
    (hq : e.isWork = false) :
    Deed e c [.handleDropped (c.handles - 1)] c.dropHandle
  | read {c : Client} (x : Envelope) (xs : List Envelope) (he : e = .read)
    (h : c.stream.backlog = x :: xs) (hs : c.stream.abandoned = false) :
    Deed e c [.read x] ({ c with stream.backlog := xs }.note (.read x))
  | readEnd {c : Client} (h : c.stream.backlog = []) (hf : c.stream.finished = true)
    (hq : e.isWork = false) : Deed e c [.readEnd] (c.note .readEnd)
  | dropStream {c : Client} (he : e = .dropStream) : Deed e c [] c.dropStream
  | pass {c : Client} (nanos : Nat) (he : e = .pass nanos) : Deed e c [] (c.pass nanos)
  /-- Something changes at the other end of the connection. -/
  | tend {c : Client} (l m : Link) (a : Activity) (hw : c.worker.stage = .session l a)
    (hn : m.number = l.number) (hq : e.isWork = false)
    (hm : m.inbound = [] → m.ended = false → l.inbound = [] ∧ l.ended = false) :
    Deed e c [] { c with worker.stage := .session m a }
  /-- The worker looks at a branch where there is nothing. -/
  | look {c : Client} (b : Branch) (he : e = .look) (hl : c.turnTo c.worker.branch = none)
    (hb : b = .signal ∨ c.worker.stage.Follows c.worker.branch b) : Deed e c [] (c.lookAt b)
  | meet {c : Client} (deadline : Instant) (room : Option Nat) (hw : c.worker.stage = .dialing deadline) :
    Deed e c [.opened c.generation (c.worker.linksOpened + 1)] (({ c with
      worker.failedAttempts := 0
      worker.linksOpened := c.worker.linksOpened + 1 }.note
        (.opened c.generation (c.worker.linksOpened + 1))).goTo
          (.session (.fresh (c.worker.linksOpened + 1) room) .opening))
  | crash {c : Client} (es : List Entry) (hf : e.isCalm = false) (hw : c.worker.stage.awaits = true)
    (hes : ∀ e ∈ es, e.what.isAnswer = true) : Deed e c [.brokeDown] (c.log es).breakDown
  | attempt {c : Client} (hw : c.worker.stage = .starting) (h : c.state.isTerminal = false) :
    Deed e c [.published (.connecting (c.generation + 1))]
      (({ c with worker.generation := c.generation + 1 }.publish
        (.connecting (c.generation + 1))).goTo .calling)
  | abandon {c : Client} (hw : c.worker.stage = .starting) (h : c.state.isTerminal = true) :
    Deed e c [] ({ c with worker.generation := c.generation + 1 }.goTo .leaving)
  | dial {c : Client} (endpoint : String) (hw : c.worker.stage = .calling)
    (h : c.shared.cancelled = false) (he : c.config.endpoint c.nextToken = .ok endpoint) :
    Deed e c [.dialed c.generation endpoint]
      (({ c with worker.tokensAsked := c.worker.tokensAsked + 1 }.note
        (.dialed c.generation endpoint)).goTo (.dialing (c.now.deadline c.config.connectTimeout)))
  /-- A close was signalled during an attempt or a pause. -/
  | leave {c : Client} (asked : Nat) (deadline : Instant)
    (hw : c.worker.stage = .calling ∨ c.worker.stage = .dialing deadline ∨
      c.worker.stage = .pausing deadline) (h : c.state.isTerminal = true) :
    Deed e c [] ({ c with worker.tokensAsked := asked }.goTo .leaving)
  | failAttempt {c : Client} (cause : TransportFault) (deadline : Instant)
    (hw : c.worker.stage = .calling ∨ c.worker.stage = .dialing deadline)
    (he : c.worker.stage = .calling → ∃ fault, c.config.endpoint c.nextToken = .error fault) :
    Deed e c [.lost c.generation cause] (c.failAttempt cause)
  | announce {c : Client} (l : Link) (hw : c.worker.stage = .session l .opening)
    (h : c.state.isTerminal = false) :
    Deed e c [.published (.connected c.generation)] ({ c.publish (.connected c.generation) with
      shared.pending := pendingAtStart c.shared c.generation }.goTo
        (.session l (.replaying c.shared.registry.topics)))
  /-- A close was asked for before the connection was there. -/
  | decline {c : Client} (l : Link) (hw : c.worker.stage = .session l .opening)
    (h : c.state.isTerminal = true) :
    Deed e c [.linkClosed c.generation l.number c.shared.farewell] (c.closeLink l c.shared.farewell)
  | replay {c : Client} (l : Link) (topic : Topic) (topics : List Topic)
    (hw : c.worker.stage = .session l (.replaying (topic :: topics))) :
    Deed e c [.writing c.generation (.ofReplay topic)]
      (c.beginWrite l (.ofReplay topic) (.replay topics))
  | listen {c : Client} (l : Link) (heartbeat : Instant)
    (hw : c.worker.stage = .session l (.replaying []))
    (ht : c.now.add? c.config.heartbeat = some heartbeat) :
    Deed e c [] (c.goTo (.session l
      (.listening ⟨heartbeat, c.now.deadline c.config.idle, false, 0⟩)))
  /-- The clock cannot hold the first heartbeat. -/
  | lateHeartbeat {c : Client} (l : Link) (hw : c.worker.stage = .session l (.replaying []))
    (ht : c.now.add? c.config.heartbeat = none) : Deed e c [.brokeDown] c.breakDown
  | written {c : Client} (l : Link) (o : Outgoing) (s : Sequel) (room : Option Nat)
    (hw : c.worker.stage = .session l (.writing o s)) :
    Deed e c [.written c.generation l.number o]
      (((c.note (.written c.generation l.number o)).log
        (o.origin.answer c.now (.ok c.generation))).goTo (.session { l with room } s.activity))
  | refused {c : Client} (l : Link) (o : Outgoing) (s : Sequel)
    (hw : c.worker.stage = .session l (.writing o s)) :
    Deed e c [.refused c.generation o, .lost c.generation l.refusal]
      (((c.note (.refused c.generation o)).log
        (o.origin.answer c.now (.error .notConnected))).lose l.refusal)
  /-- A close was signalled during a session. -/
  | depart {c : Client} (l : Link) (w : Watch) (hw : c.worker.stage = .session l (.listening w))
    (h : c.state.isTerminal = true) :
    Deed e c [.linkClosed c.generation l.number c.shared.farewell] (c.closeLink l c.shared.farewell)
  | execute {c : Client} (l : Link) (w : Watch) (command : Command) (cs : List Command)
    (hw : c.worker.stage = .session l (.listening w)) (h : c.Comes .queue)
    (hc : c.commands = command :: cs) (hg : command.generation = c.generation) :
    Deed e c [.writing c.generation command.outgoing]
      ({ c with commands := cs }.beginWrite l command.outgoing (.listen w))
  | skip {c : Client} (l : Link) (w : Watch) (command : Command) (cs : List Command)
    (hw : c.worker.stage = .session l (.listening w)) (h : c.Comes .queue)
    (hc : c.commands = command :: cs) (hg : command.generation ≠ c.generation) :
    Deed e c [] (({ c with commands := cs }.log
      (command.outgoing.origin.answer c.now (.error .notConnected))).goTo (.session l (.listening w)))
  /-- The last handle is gone during a session. -/
  | departAlone {c : Client} (l : Link) (w : Watch) (hw : c.worker.stage = .session l (.listening w))
    (h : c.state.isTerminal = false) (hh : c.handles = 0) :
    Deed e c [.published .closing, .linkClosed c.generation l.number .normal]
      ((c.shut .normal).signal.closeLink l .normal)
  /-- The last handle is gone after a close was signalled, and the worker looked for the signal before and
  sees the end of the queue. -/
  | departLate {c : Client} (l : Link) (w : Watch) (hw : c.worker.stage = .session l (.listening w))
    (h : c.state.isTerminal = true) (hs : c.shared.cancelled = true) (hb : c.worker.branch = .queue)
    (hc : c.commands = []) (hh : c.handles = 0) :
    Deed e c [.linkClosed c.generation l.number .normal] (c.closeLink l .normal)
  /-- The clock cannot hold the end of the worker's patience. -/
  | latePatience {c : Client} (l : Link) (w : Watch) (a : Option Arrival)
    (hw : c.worker.stage = .session l (.listening w)) (ht : c.now.add? c.config.idle = none) :
    Deed e c (a.toList.map (.received c.generation) ++ [.brokeDown]) (c.noteArrival a).breakDown
  | hangUp {c : Client} (l : Link) (w : Watch) (cause : TransportFault) (a : Option Arrival)
    (hw : c.worker.stage = .session l (.listening w)) (ha : ∀ f, a ≠ some (.ok f))
    (hc : a = none → cause = .closed) :
    Deed e c (a.toList.map (.received c.generation) ++ [.lost c.generation cause])
      ((c.noteArrival a).lose cause)
  /-- A frame says what goes to the reader. -/
  | deliver {c : Client} (l m : Link) (w : Watch) (idle : Instant) (f : Frame) (x : Envelope)
    (b : Backoff) (p : PendingAcks) (hw : c.worker.stage = .session l (.listening w))
    (hn : m.number = l.number) (ht : c.now.add? c.config.idle = some idle) (hf : f.decode = .ok x)
    (hp : ∀ topic action success reason, x = .ack topic action success reason →
      c.shared.pending.resolve? c.generation ⟨topic, action⟩ = some p)
    (hb : b = c.hearingBackoff w) (hq : c.Comes .frame) :
    Deed e c [.received c.generation (.ok f), .delivered c.generation x] (({ c.takeIn f b with
      shared.pending := p
      stream := c.stream.push x }.note (.delivered c.generation x)).goTo
        (.session m (.listening { w with idle, heard := true, failures := 0 })))
  /-- A frame answers a request that was not awaited. -/
  | withhold {c : Client} (l m : Link) (w : Watch) (idle : Instant) (f : Frame) (topic : Topic)
    (action : Action) (success : Bool) (reason : Option String) (b : Backoff)
    (hw : c.worker.stage = .session l (.listening w)) (hn : m.number = l.number)
    (ht : c.now.add? c.config.idle = some idle) (hf : f.decode = .ok (.ack topic action success reason))
    (hp : c.shared.pending.resolve? c.generation ⟨topic, action⟩ = none)
    (hb : b = c.hearingBackoff w) (hq : c.Comes .frame) :
    Deed e c [.received c.generation (.ok f),
        .withheld c.generation (.ack topic action success reason)]
      (((c.takeIn f b).note (.withheld c.generation (.ack topic action success reason))).goTo
        (.session m (.listening { w with idle, heard := true, failures := 0 })))
  /-- A frame cannot be decoded. -/
  | misread {c : Client} (l m : Link) (w : Watch) (idle : Instant) (f : Frame) (b : Backoff)
    (hw : c.worker.stage = .session l (.listening w)) (hn : m.number = l.number)
    (ht : c.now.add? c.config.idle = some idle) (hf : ∀ x, f.decode ≠ .ok x)
    (hm : w.failures + 1 < c.config.maxDecodeFailures) (hb : b = c.hearingBackoff w)
    (hq : c.Comes .frame) :
    Deed e c [.received c.generation (.ok f)] ((c.takeIn f b).goTo
      (.session m (.listening { w with idle, heard := true, failures := w.failures + 1 })))
  /-- A frame too many cannot be decoded. -/
  | despair {c : Client} (l : Link) (w : Watch) (f : Frame) (b : Backoff)
    (hw : c.worker.stage = .session l (.listening w)) (hf : ∀ x, f.decode ≠ .ok x)
    (hm : c.config.maxDecodeFailures ≤ w.failures + 1) (hb : b = c.hearingBackoff w) :
    Deed e c [.received c.generation (.ok f), .lost c.generation (.undecodable (w.failures + 1))]
      ((c.takeIn f b).lose (.undecodable (w.failures + 1)))
  | idle {c : Client} (l : Link) (w : Watch) (hw : c.worker.stage = .session l (.listening w))
    (h : c.Comes .patience) (hi : w.idle ≤ c.now) :
    Deed e c [.lost c.generation .idle] (c.lose .idle)
  | beat {c : Client} (l : Link) (w : Watch) (heartbeat : Instant)
    (hw : c.worker.stage = .session l (.listening w)) (h : c.Comes .heartbeat) :
    Deed e c [.writing c.generation .heartbeat]
      (c.beginWrite l .heartbeat (.listen { w with heartbeat }))
  /-- The end of a session or attempt is announced, and a pause follows. -/
  | pause {c : Client} (cause : TransportFault) (delay : Duration) (b : Backoff)
    (hw : c.worker.stage = .ending cause) (h : c.state.isTerminal = false) (hg : c.givesUp = false)
    (chance : Nat) (hc : c.delayAfter cause chance = (delay, b)) :
    Deed e c [.published (.disconnected c.generation), .paused c.generation delay]
      (({ c.settle.publish (.disconnected c.generation) with worker.backoff := b }.note
        (.paused c.generation delay)).goTo (.pausing (c.now.deadline delay)))
  | giveUp {c : Client} (cause : TransportFault) (hw : c.worker.stage = .ending cause)
    (h : c.state.isTerminal = false) (hg : c.givesUp = true) :
    Deed e c [.published (.disconnected c.generation), .gaveUp c.generation]
      ((c.settle.publish (.disconnected c.generation)).note (.gaveUp c.generation) |>.goTo .leaving)
  /-- After a close was asked for, the end of a session or attempt is not announced. -/
  | pauseQuietly {c : Client} (cause : TransportFault) (delay : Duration) (b : Backoff)
    (hw : c.worker.stage = .ending cause) (h : c.state.isTerminal = true) (hg : c.givesUp = false)
    (chance : Nat) (hc : c.delayAfter cause chance = (delay, b)) :
    Deed e c [.paused c.generation delay]
      (({ c.settle with worker.backoff := b }.note (.paused c.generation delay)).goTo
        (.pausing (c.now.deadline delay)))
  | giveUpQuietly {c : Client} (cause : TransportFault) (hw : c.worker.stage = .ending cause)
    (h : c.state.isTerminal = true) (hg : c.givesUp = true) :
    Deed e c [.gaveUp c.generation] ((c.settle.note (.gaveUp c.generation)).goTo .leaving)
  | wake {c : Client} (deadline : Instant) (hw : c.worker.stage = .pausing deadline)
    (hd : deadline ≤ c.now) : Deed e c [] (c.goTo .starting)
  | drop {c : Client} (deadline : Instant) (command : Command) (cs : List Command)
    (hw : c.worker.stage = .pausing deadline) (hc : c.commands = command :: cs) :
    Deed e c [] (({ c with commands := cs }.log
      (command.outgoing.origin.answer c.now (.error .notConnected))).lookAt .signal)
  /-- The last handle is gone during a pause. -/
  | leaveAlone {c : Client} (deadline : Instant) (hw : c.worker.stage = .pausing deadline)
    (h : c.state.isTerminal = false) (hh : c.handles = 0) :
    Deed e c [.published .closing] ((c.shut .normal).signal.goTo .leaving)
  | finish {c : Client} (hw : c.worker.stage = .leaving) :
    Deed e c [.published .closed]
      ({ c.settle.publish .closed with shared.cancelled := true }.goTo .releasing)
  | release {c : Client} (es : List Entry) (hw : c.worker.stage = .releasing)
    (hes : ∀ e ∈ es, e.what.isAnswer = true) :
    Deed e c [] ({ c with commands := [], stream := c.stream.finish }.log es |>.goTo .gone)

/-! ### Callers -/

variable {c d : Client} {e : Event}

theorem recordClose_of_open (h : c.state.isTerminal = false) (frame : CloseFrame) :
    c.recordClose frame = c.shut frame := by
  rw [recordClose, if_neg (Bool.eq_false_iff.mp h)]
  rfl

theorem recordClose_of_terminal (h : c.state.isTerminal = true) (frame : CloseFrame) :
    c.recordClose frame = c := if_pos h

/-- A signal that was given is not given again. -/
theorem signal_of_cancelled (h : c.shared.cancelled = true) : c.signal = c := by
  rw [signal, ← h]

theorem deed_request (hk : c.core.Placed) (hn : c.handles ≠ 0) (r : Request) :
    ∃ os, Deed (.request r) c os (c.request r).1 := by
  obtain ⟨config, tokens, now, ⟨registry, pending, state, closeFrame, cancelled⟩, handles, commands,
    callsMade, ⟨stage, branch, generation, failed, backoff, asked, opened⟩, stream, journal⟩ := c
  cases state with
  | connected g =>
    cases stage with
    | gone => exact nomatch (hk.connected g rfl).2
    | _ =>
      refine ⟨_, .ask r (pending.record r) (commands ++ [⟨g, .ofRequest callsMade r⟩]) rfl hn fun h => ?_⟩
      cases h
  | _ => exact ⟨_, .ask r pending commands rfl hn fun _ => ⟨rfl, rfl⟩⟩

theorem deed_direct (hk : c.core.Placed) (hn : c.handles ≠ 0) (d : Directive) :
    ∃ os, Deed (.direct d) c os (c.direct d).1 := by
  obtain ⟨config, tokens, now, ⟨registry, pending, state, closeFrame, cancelled⟩, handles, commands,
    callsMade, ⟨stage, branch, generation, failed, backoff, asked, opened⟩, stream, journal⟩ := c
  cases state with
  | connected g =>
    cases stage with
    | gone => exact nomatch (hk.connected g rfl).2
    | _ => exact ⟨_, .direct d g hn rfl rfl⟩
  | closing => exact ⟨_, .refuse d .closed rfl rfl⟩
  | closed => exact ⟨_, .refuse d .closed rfl rfl⟩
  | connecting g => exact ⟨_, .refuse d .notConnected rfl rfl⟩
  | disconnected g => exact ⟨_, .refuse d .notConnected rfl rfl⟩

theorem deed_askClose (hn : c.handles ≠ 0) (frame : CloseFrame) :
    ∃ os, Deed (.close frame) c os (c.askClose frame) := by
  cases h : c.state.isTerminal with
  | false =>
    rw [askClose, recordClose_of_open (c := c.note (.closeAsked c.state frame)) h]
    exact ⟨_, .close frame h hn rfl⟩
  | true =>
    rw [show c.askClose frame = _ from if_pos h]
    exact ⟨_, .closeAgain frame h rfl⟩

theorem deed_read (h : c.stream.abandoned = false) : ∃ os, Deed .read c os c.read.2 := by
  unfold read Lane.poll
  cases hb : c.stream.backlog with
  | nil =>
    cases hf : c.stream.finished with
    | true => exact ⟨_, .readEnd hb hf rfl⟩
    | false => exact ⟨_, .rest rfl⟩
  | cons x xs => exact ⟨_, .read x xs rfl hb h⟩

/-! ### The connection -/

theorem deed_onLink {f : Link → Link} (hf : ∀ l, (f l).number = l.number)
    (hm : ∀ l, (f l).inbound = [] → (f l).ended = false → l.inbound = [] ∧ l.ended = false)
    (hq : e.isWork = false) (h : c.onLink f = some d) : ∃ os, Deed e c os d := by
  unfold onLink at h
  split at h
  · rename_i l a hw
    cases h
    exact ⟨_, .tend l (f l) a hw (hf l) hq (hm l)⟩
  · cases h

theorem deed_answerDial {a : DialAnswer} (h : c.answerDial a = some d) :
    ∃ os, Deed (.dialAnswer a) c os d := by
  unfold answerDial at h
  split at h
  · rename_i deadline hw
    split at h <;> cases h
    cases a with
    | link room => exact ⟨_, .meet deadline room hw⟩
    | fault cause =>
      exact ⟨_, .failAttempt cause deadline (.inr hw) fun hn => nomatch hw.symm.trans hn⟩
    | breakdown => exact ⟨_, .crash [] rfl (by rw [hw]; rfl) fun e he => nomatch he⟩
  · cases h

theorem deed_crash (h : c.crash = some d) : ∃ os, Deed .crash c os d := by
  unfold crash at h
  split at h
  · rename_i l o s hw
    cases h
    rw [reply_eq_log]
    exact ⟨_, .crash _ rfl (by rw [hw]; rfl) Origin.isAnswer_answer⟩
  · rename_i l w hw
    cases h
    exact ⟨_, .crash [] rfl (by rw [hw]; rfl) fun e he => nomatch he⟩
  · cases h

/-! ### Attempts -/

theorem deed_announceAttempt (hw : c.worker.stage = .starting) :
    ∃ os, Deed e c os c.announceAttempt := by
  cases h : c.state.isTerminal with
  | true =>
    rw [show c.announceAttempt = _ from if_pos h]
    exact ⟨_, .abandon hw h⟩
  | false =>
    rw [show c.announceAttempt = _ from if_neg (Bool.eq_false_iff.mp h)]
    exact ⟨_, .attempt hw h⟩

theorem deed_dial (hs : c.Signalled) (hw : c.worker.stage = .calling) : ∃ os, Deed e c os c.dial := by
  unfold dial
  split
  · rename_i fault he
    exact ⟨_, .failAttempt _ 0 (.inl hw) fun _ => ⟨fault, he⟩⟩
  · rename_i endpoint he
    dsimp only
    split
    · rename_i hc
      exact ⟨_, .leave _ 0 (.inl hw) (hs.told hc)⟩
    · rename_i hc
      exact ⟨_, .dial endpoint hw (Bool.eq_false_iff.mpr hc) he⟩

theorem deed_finishAttempt {cause : TransportFault} (chance : Nat) (hw : c.worker.stage = .ending cause) :
    ∃ os, Deed e c os (c.finishAttempt cause chance) := by
  have hq (h : c.state.isTerminal = true) : c.announceLoss = c.settle := if_pos h
  have hn (h : c.state.isTerminal = false) :
      c.announceLoss = c.settle.publish (.disconnected c.generation) := if_neg (Bool.eq_false_iff.mp h)
  unfold finishAttempt
  cases h : c.state.isTerminal <;> cases hg : c.givesUp
  · rw [hn h, retire, if_neg (by exact Bool.eq_false_iff.mp hg)]
    exact ⟨_, .pause cause _ _ hw h hg chance rfl⟩
  · rw [hn h, retire, if_pos (by exact hg)]
    exact ⟨_, .giveUp cause hw h hg⟩
  · rw [hq h, retire, if_neg (by exact Bool.eq_false_iff.mp hg)]
    exact ⟨_, .pauseQuietly cause _ _ hw h hg chance rfl⟩
  · rw [hq h, retire, if_pos (by exact hg)]
    exact ⟨_, .giveUpQuietly cause hw h hg⟩

/-! ### Sessions -/

theorem deed_openSession {l : Link} (hw : c.worker.stage = .session l .opening) :
    ∃ os, Deed e c os (c.openSession l) := by
  unfold openSession
  cases h : c.state.isTerminal with
  | true =>
    rw [if_pos rfl]
    exact ⟨_, .decline l hw h⟩
  | false =>
    rw [if_neg Bool.false_ne_true]
    exact ⟨_, .announce l hw h⟩

theorem deed_startListening {l : Link} (hw : c.worker.stage = .session l (.replaying [])) :
    ∃ os, Deed e c os (c.startListening l) := by
  unfold startListening
  cases ht : c.now.add? c.config.heartbeat with
  | none => exact ⟨_, .lateHeartbeat l hw ht⟩
  | some heartbeat => exact ⟨_, .listen l heartbeat hw ht⟩

theorem deed_endWrite {l : Link} {o : Outgoing} {s : Sequel}
    (hw : c.worker.stage = .session l (.writing o s)) : ∃ os, Deed e c os (c.endWrite l o s) := by
  unfold endWrite
  split
  · rw [reply_eq_log]
    exact ⟨_, .refused l o s hw⟩
  · rw [reply_eq_log]
    exact ⟨_, .written l o s _ hw⟩

theorem note_resetDelays (c : Client) (f : Frame) (w : Watch) :
    (c.note (.received c.generation (.ok f))).resetDelays w = c.takeIn f (c.hearingBackoff w) := by
  unfold resetDelays hearingBackoff
  split <;> rfl

lemma deliver_awaited {topic : Topic} {action : Action} {success : Bool} {reason : Option String}
    {p : PendingAcks} (h : c.shared.pending.resolve? c.generation ⟨topic, action⟩ = some p) :
    c.deliver (.ack topic action success reason) = { c with
      shared.pending := p
      stream := c.stream.push (.ack topic action success reason) }.note
        (.delivered c.generation (.ack topic action success reason)) := by
  simp only [deliver, h]
  rfl

lemma deliver_unawaited {topic : Topic} {action : Action} {success : Bool} {reason : Option String}
    (h : c.shared.pending.resolve? c.generation ⟨topic, action⟩ = none) :
    c.deliver (.ack topic action success reason) =
      c.note (.withheld c.generation (.ack topic action success reason)) := by
  simp only [deliver, h]

theorem deed_deliver {l m : Link} {w : Watch} {idle : Instant} {f : Frame} {x : Envelope} {b : Backoff}
    (hb : b = c.hearingBackoff w) (hw : c.worker.stage = .session l (.listening w)) (hn : m.number = l.number)
    (ht : c.now.add? c.config.idle = some idle) (hf : f.decode = .ok x)
    (hq : c.Comes .frame) : ∃ os, Deed e c os (((c.takeIn f b).deliver x).goTo
      (.session m (.listening { w with idle, heard := true, failures := 0 }))) := by
  cases x with
  | ack topic action success reason =>
    cases hp : c.shared.pending.resolve? c.generation ⟨topic, action⟩ with
    | none =>
      rw [deliver_unawaited (c := c.takeIn f b) hp]
      exact ⟨_, .withhold l m w idle f topic action success reason b hw hn ht hf hp hb hq⟩
    | some p =>
      rw [deliver_awaited (c := c.takeIn f b) hp]
      refine ⟨_, .deliver l m w idle f _ b p hw hn ht hf (fun _ _ _ _ h => ?_) hb hq⟩
      cases h
      exact hp
  | _ =>
    exact ⟨_, .deliver l m w idle f _ b c.shared.pending hw hn ht hf (fun _ _ _ _ h => nomatch h) hb hq⟩

theorem deed_hear {l m : Link} {w : Watch} {idle : Instant} (f : Frame)
    (hw : c.worker.stage = .session l (.listening w)) (hn : m.number = l.number)
    (ht : c.now.add? c.config.idle = some idle) (hq : c.Comes .frame) :
    ∃ os, Deed e c os ((c.note (.received c.generation (.ok f))).hear m { w with idle } f) := by
  have hb : c.hearingBackoff { w with idle } = c.hearingBackoff w := rfl
  rw [hear, note_resetDelays, hb]
  unfold judge
  cases hf : f.decode with
  | ok x => exact deed_deliver (w := w) rfl hw hn ht hf hq
  | error fault =>
    have hx (x : Envelope) : f.decode ≠ .ok x := fun hx => by cases hf.symm.trans hx
    dsimp only
    split
    · rename_i hm
      exact ⟨_, .despair l w f _ hw hx hm rfl⟩
    · rename_i hm
      exact ⟨_, .misread l m w idle f _ hw hn ht hx (Nat.lt_of_not_le hm) rfl hq⟩

theorem deed_receive {l m : Link} {w : Watch} (a : Option Arrival)
    (hw : c.worker.stage = .session l (.listening w)) (hn : m.number = l.number)
    (hq : c.Comes .frame) : ∃ os, Deed e c os (c.receive m w a) := by
  unfold receive
  cases ht : c.now.add? c.config.idle with
  | none => exact ⟨_, .latePatience l w a hw ht⟩
  | some idle =>
    rcases a with _ | cause | f
    · exact ⟨_, .hangUp l w .closed none hw (fun f hf => nomatch hf) fun _ => rfl⟩
    · exact ⟨_, .hangUp l w cause (some (.error cause)) hw (fun f hf => nomatch hf) fun hn => nomatch hn⟩
    · exact deed_hear f hw hn ht hq

theorem deed_listenTo {l : Link} {w : Watch} {b : Branch} (hs : c.Signalled)
    (hw : c.worker.stage = .session l (.listening w)) (hb : c.Comes b)
    (h : c.listenTo l w b = some d) : ∃ os, Deed e c os d := by
  cases b <;> simp only [listenTo] at h
  case signal =>
    split at h <;> cases h
    rename_i hc
    exact ⟨_, .depart l w hw (hs.told hc)⟩
  case queue =>
    split at h
    · rename_i command cs hq
      cases h
      unfold execute
      split
      · rename_i hg
        exact ⟨_, .execute l w command cs hw hb hq hg⟩
      · rename_i hg
        rw [reply_eq_log]
        exact ⟨_, .skip l w command cs hw hb hq hg⟩
    · split at h <;> cases h
      rename_i hq hh
      cases ho : c.state.isTerminal with
      | false =>
        rw [recordClose_of_open ho]
        exact ⟨_, .departAlone l w hw ho hh⟩
      | true =>
        have hc := hs.cancelled ho hh
        rw [recordClose_of_terminal ho, signal_of_cancelled hc]
        exact ⟨_, .departLate l w hw ho hc (hb.queue_of_cancelled hw hc) hq hh⟩
  case frame =>
    split at h
    · cases h
      exact deed_receive _ hw rfl hb
    · split at h <;> cases h
      exact deed_receive _ hw rfl hb
  case patience =>
    split at h <;> cases h
    rename_i hi
    exact ⟨_, .idle l w hw hb hi⟩
  case heartbeat =>
    split at h <;> cases h
    exact ⟨_, .beat l w _ hw hb⟩
  all_goals cases h

/-! ### Pauses and the end -/

theorem deed_dialTo {deadline : Instant} {b : Branch} (hs : c.Signalled)
    (hw : c.worker.stage = .dialing deadline) (h : c.dialTo deadline b = some d) :
    ∃ os, Deed e c os d := by
  cases b <;> simp only [dialTo] at h
  case signal =>
    split at h <;> cases h
    rename_i hc
    exact ⟨_, .leave c.worker.tokensAsked deadline (.inr (.inl hw)) (hs.told hc)⟩
  case answer =>
    split at h <;> cases h
    refine ⟨_, .failAttempt _ deadline (.inr hw) fun hn => ?_⟩
    cases hw.symm.trans hn
  all_goals cases h

theorem deed_pauseTo {deadline : Instant} {b : Branch} (hs : c.Signalled)
    (hw : c.worker.stage = .pausing deadline) (h : c.pauseTo deadline b = some d) :
    ∃ os, Deed e c os d := by
  cases b <;> simp only [pauseTo] at h
  case signal =>
    split at h <;> cases h
    rename_i hc
    exact ⟨_, .leave c.worker.tokensAsked deadline (.inr (.inr hw)) (hs.told hc)⟩
  case pause =>
    split at h <;> cases h
    rename_i hd
    exact ⟨_, .wake deadline hw hd⟩
  case queue =>
    split at h
    · rename_i command cs hq
      cases h
      rw [reply_eq_log]
      exact ⟨_, .drop deadline command cs hw hq⟩
    · split at h <;> cases h
      rename_i hh
      cases ho : c.state.isTerminal with
      | false =>
        rw [recordClose_of_open ho]
        exact ⟨_, .leaveAlone deadline hw ho hh⟩
      | true =>
        rw [recordClose_of_terminal ho, signal_of_cancelled (hs.cancelled ho hh)]
        exact ⟨_, .leave c.worker.tokensAsked deadline (.inr (.inr hw)) ho⟩
  all_goals cases h

theorem deed_poll (hs : c.Signalled) (h : c.poll = some d) : ∃ os, Deed e c os d := by
  obtain ⟨b, hc, hb⟩ := poll_eq_some h
  unfold turnTo at hb
  split at hb <;> rename_i hw
  · exact deed_dialTo hs hw hb
  · exact deed_listenTo hs hw hc hb
  · exact deed_pauseTo hs hw hb
  · cases hb

theorem deed_look (h : c.lookOn = some d) : ∃ os, Deed .look c os d := by
  obtain ⟨hl, b, rfl, hb⟩ := lookOn_eq_some h
  exact ⟨_, .look b rfl hl hb⟩

theorem deed_workSession {l : Link} {a : Activity} (hs : c.Signalled)
    (hw : c.worker.stage = .session l a) (h : c.workSession l a = some d) : ∃ os, Deed e c os d := by
  unfold workSession at h
  split at h
  · cases h
    exact deed_openSession hw
  · cases h
    exact deed_startListening hw
  · cases h
    exact ⟨_, .replay l _ _ hw⟩
  · cases h
    exact deed_endWrite hw
  · exact deed_poll hs h

/-- The answers to all calls of a queue. -/
theorem answerAll_eq_log (x : Except ClientFault Generation) (cs : List Command) (c : Client) :
    ∃ es : List Entry, (∀ e ∈ es, e.what.isAnswer = true) ∧
      cs.foldl (fun c command => c.reply command.outgoing.origin x) c = c.log es := by
  induction cs generalizing c with
  | nil => exact ⟨[], fun e he => (nomatch he), rfl⟩
  | cons command cs ih =>
    obtain ⟨es, hes, hl⟩ := ih (c.reply command.outgoing.origin x)
    refine ⟨es ++ command.outgoing.origin.answer c.now x, fun e he => ?_, ?_⟩
    · exact (List.mem_append.mp he).elim (hes e) (Origin.isAnswer_answer e)
    · rw [List.foldl_cons, hl, reply_eq_log, log, log, log, List.append_assoc]

theorem deed_release (hw : c.worker.stage = .releasing) : ∃ os, Deed e c os c.release := by
  obtain ⟨es, hes, hl⟩ := answerAll_eq_log (.error .closed) c.commands c
  rw [release, hl]
  exact ⟨_, .release es hw hes⟩

/-! ### Events -/

theorem deed_work {chance : Nat} (hs : c.Signalled) (h : c.work chance = some d) :
    ∃ os, Deed e c os d := by
  unfold work at h
  split at h <;> rename_i hw
  · cases h
    exact deed_announceAttempt hw
  · cases h
    exact deed_dial hs hw
  · exact deed_poll hs h
  · exact deed_poll hs h
  · exact deed_workSession hs hw h
  · cases h
    exact deed_finishAttempt chance hw
  · cases h
    exact ⟨_, .finish hw⟩
  · cases h
    exact deed_release hw
  · cases h

theorem deed_call {p : Prop} [Decidable p] {b : Client} (h : (if p then none else some b) = some d)
    (hb : ¬ p → ∃ os, Deed e c os b) : ∃ os, Deed e c os d := by
  split at h <;> cases h
  exact hb ‹_›

/-- Every event comes to one deed. -/
theorem deed_step (hk : c.core.Placed) (hs : c.Signalled) (h : c.step e = some d) :
    ∃ os, Deed e c os d := by
  cases e with
  | request r => exact deed_call h fun hn => deed_request hk hn r
  | direct d => exact deed_call h fun hn => deed_direct hk hn d
  | close frame => exact deed_call h fun hn => deed_askClose hn frame
  | signal => exact deed_call h fun ha => ⟨_, .signal (by simpa using ha) rfl⟩
  | clone => exact deed_call h fun hh => ⟨_, .clone hh rfl⟩
  | dropHandle =>
    exact deed_call h fun hh =>
      ⟨_, .dropHandle (fun h0 => hh (.inl h0)) (fun ha h1 => hh (.inr ⟨h1, ha⟩)) rfl⟩
  | read => exact deed_call h fun ha => deed_read (Bool.eq_false_iff.mpr ha)
  | dropStream =>
    cases h
    exact ⟨_, .dropStream rfl⟩
  | pass nanos =>
    cases h
    exact ⟨_, .pass nanos rfl⟩
  | dialAnswer a => exact deed_answerDial h
  | arrive a =>
    refine deed_onLink (f := fun l => if l.ended then l else { l with inbound := l.inbound ++ [a] })
      (fun l => ?_) (fun l => ?_) rfl h
    · split <;> rfl
    · split
      · exact fun hi he => ⟨hi, he⟩
      · exact fun hi => absurd hi (List.append_ne_nil_of_right_ne_nil _ (List.cons_ne_nil _ _))
  | hangUp =>
    exact deed_onLink (f := fun l => { l with ended := true }) (fun _ => rfl)
      (fun _ _ he => nomatch he) rfl h
  | limit sends refusal =>
    exact deed_onLink (f := fun l => { l with room := some sends, refusal }) (fun _ => rfl)
      (fun _ hi he => ⟨hi, he⟩) rfl h
  | crash => exact deed_crash h
  | look => exact deed_look h
  | work chance => exact deed_work hs h

/-! ### Runs -/

variable {os : List Occurrence}

theorem Deed.extends (hd : Deed e c os d) : Extends c.journal os d.journal := by
  have nothing : Extends c.journal [] c.journal := .refl _
  cases hd with
  | rest | signal | clone | dropStream | pass | tend | look | abandon | leave | listen | wake =>
    exact nothing
  | ask | direct | closeAgain | dropHandle | read | readEnd | meet | attempt | dial | failAttempt
  | announce | decline | replay | lateHeartbeat | depart | departLate | execute | misread | idle | beat
  | pauseQuietly | giveUpQuietly | leaveAlone | finish => exact nothing.next rfl
  | close | departAlone | deliver | withhold | despair | pause | giveUp =>
    exact (nothing.next rfl).next rfl
  | refuse => exact (nothing.next rfl).answers (List.forall_mem_singleton.mpr rfl)
  | drop | skip => exact nothing.answers Origin.isAnswer_answer
  | release es hw hes => exact nothing.answers hes
  | crash es _ _ hes => exact (nothing.answers hes).next rfl
  | written => exact (nothing.next rfl).answers Origin.isAnswer_answer
  | refused => exact ((nothing.next rfl).answers Origin.isAnswer_answer).next rfl
  | latePatience _ _ a | hangUp _ _ _ a =>
    cases a with
    | none => exact nothing.next rfl
    | some a => exact (nothing.next rfl).next rfl

/-- What the journal shows after a deed, where answers are not shown. -/
theorem Deed.shown (hd : Deed e c os d) {α : Type} {f : Occurrence → Option α}
    (hf : ∀ call x, f (.answered call x) = none) :
    History.view f d.journal = History.view f c.journal ++ os.filterMap f :=
  hd.extends.view hf

theorem Deed.adds (hd : Deed e c os d) : happened d.journal = happened c.journal ++ os := by
  obtain ⟨n, hj, rfl⟩ := hd.extends
  rw [hj]
  simp [happened, History.view]

theorem Deed.signalled (h : Deed e c os d) (hs : c.Signalled) : d.Signalled := by
  cases h with
  | close _ _ hn => exact ⟨fun _ => rfl, fun hs => (nomatch hs), fun _ => hn⟩
  | signal ha =>
    have hc : c.state = .closing ∧ c.shared.cancelled = false := by simpa [isAsking] using ha
    refine ⟨fun _ => ?_, fun _ => rfl, fun ha => ?_⟩
    · exact congrArg ConnectionState.isTerminal hc.1
    · exact nomatch (Bool.and_eq_true_iff.mp ha).2
  | departAlone | leaveAlone => exact ⟨fun _ => rfl, fun hs => (nomatch hs), fun ha => (nomatch ha)⟩
  | finish => exact ⟨fun _ => rfl, fun _ => rfl, fun ha => (nomatch ha)⟩
  | attempt _ ho | announce _ _ ho | pause _ _ _ _ ho | giveUp _ _ ho =>
    exact ⟨fun hc => (nomatch ho.symm.trans (hs.told hc)), fun hs => (nomatch hs), fun ha => (nomatch ha)⟩
  | clone => exact ⟨hs.told, hs.closed, fun _ => Nat.succ_ne_zero _⟩
  | dropHandle h0 h1 =>
    refine ⟨hs.told, hs.closed, fun ha => ?_⟩
    have h1 := h1 ha
    change c.handles - 1 ≠ 0
    omega
  | latePatience _ _ a | hangUp _ _ _ a => cases a <;> exact ⟨hs.told, hs.closed, hs.asking⟩
  | _ => exact ⟨hs.told, hs.closed, hs.asking⟩

/-- The clock goes on, and the configuration stays. -/
theorem Deed.frame (h : Deed e c os d) :
    d.config = c.config ∧ d.tokens = c.tokens ∧ c.now ≤ d.now := by
  cases h with
  | pass nanos => exact ⟨rfl, rfl, Nat.le_add_right _ _⟩
  | latePatience _ _ a | hangUp _ _ _ a => cases a <;> exact ⟨rfl, rfl, Nat.le_refl _⟩
  | _ => exact ⟨rfl, rfl, Nat.le_refl _⟩

variable {config : Config} {tokens : Nat → Option String}

theorem initial_signalled : Client.Signalled (.initial config tokens) :=
  ⟨fun hc => (nomatch hc), fun hs => (nomatch hs), fun ha => (nomatch ha)⟩

theorem Reachable.signalled (h : Reachable config tokens c) : c.Signalled := by
  induction h with
  | initial => exact initial_signalled
  | step e hr hs ih =>
    obtain ⟨os, hd⟩ := deed_step hr.reached.placed ih hs
    exact hd.signalled ih

theorem Reachable.deed (h : Reachable config tokens c) (hs : c.step e = some d) : ∃ os, Deed e c os d :=
  deed_step h.reached.placed h.signalled hs

/-- What holds at the start and is kept by every deed holds of every client that a run leads to. -/
theorem Reachable.invariant {P : Client → Prop} (h : Reachable config tokens c)
    (start : P (.initial config tokens))
    (keep : ∀ {e b os d}, Reachable config tokens b → Deed e b os d → P b → P d) : P c := by
  induction h with
  | initial => exact start
  | step e hr hs ih =>
    obtain ⟨os, hd⟩ := hr.deed hs
    exact keep hr hd ih

/-- What the deeds of a run keep holds at its end. -/
theorem Reachable.keep {P : Client → Prop} {es : List Event} (hc : Reachable config tokens c)
    (h : c.run es = some d) (start : P c)
    (keep : ∀ {e b os d}, e ∈ es → Reachable config tokens b → Deed e b os d → P b → P d) : P d := by
  induction es generalizing c with
  | nil =>
    cases h
    exact start
  | cons e es ih =>
    obtain ⟨b, hb, hd⟩ := Option.bind_eq_some_iff.mp h
    obtain ⟨os, hdeed⟩ := hc.deed hb
    exact ih (hc.step e hb) hd (keep List.mem_cons_self hc hdeed start) fun hm =>
      keep (List.mem_cons_of_mem e hm)

theorem Reachable.config_eq (h : Reachable config tokens c) : c.config = config :=
  h.invariant (P := fun c => c.config = config) rfl fun _ hd ih => hd.frame.1.trans ih

end Client

end MarketFeed
