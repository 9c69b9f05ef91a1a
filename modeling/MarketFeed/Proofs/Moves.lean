import MarketFeed.Proofs.Placement
import MarketFeed.Proofs.Rounds

/-!
Every event of a client moves its core. So what the moves keep holds for every client that a run leads
to.
-/

namespace MarketFeed

open Relation (ReflTransGen)

namespace Client

variable {c : Client}

theorem core_note (c : Client) (o : Occurrence) : (c.note o).core = c.core.log [⟨c.now, o⟩] := rfl

theorem core_stage (c : Client) (s : Stage) :
    { c with worker.stage := s }.core = { c.core with post := s.post } := rfl

@[simp] theorem core_reply (c : Client) (o : Origin) (x : Except ClientFault Generation) :
    (c.reply o x).core = c.core.log (o.answer c.now x) := by
  cases o <;> rfl

theorem core_post {s : Stage} (h : c.worker.stage = s) : c.core.post = s.post := congrArg Stage.post h

theorem core_stage_same {s : Stage} (h : c.core.post = s.post) :
    { c with worker.stage := s }.core = c.core := by
  rw [core_stage, ← h]

theorem core_goTo_same {s : Stage} (h : c.core.post = s.post) : (c.goTo s).core = c.core :=
  core_stage_same h

theorem moves_of_core_eq {d : Client} (h : d.core = c.core) : Moves c.core d.core := by
  rw [h]

/-- Something happens that has no part in the core. -/
theorem moves_note (c : Client) {o : Occurrence} (h : (o.isSilent && !o.isWithheld) = true) :
    Moves c.core (c.note o).core := by
  rw [Bool.and_eq_true, Bool.not_eq_true'] at h
  exact .single (.note ⟨c.now, o⟩ h.1 h.2)

theorem moves_note_goTo {o : Occurrence} {s : Stage} (ho : (o.isSilent && !o.isWithheld) = true)
    (hs : c.core.post = s.post) : Moves c.core ((c.note o).goTo s).core := by
  rw [core_goTo_same (c := c.note o) hs]
  exact moves_note c ho

theorem moves_leave (h : c.core.post.mayYield = true) : Moves c.core (c.goTo .leaving).core :=
  .single (.yield .leaving h (.inr rfl))

theorem moves_lose (cause : TransportFault) (h : c.core.post.mayYield = true) :
    Moves c.core (c.lose cause).core :=
  (moves_note c rfl).tail (.yield .ended h (.inl rfl))

theorem moves_failAttempt (cause : TransportFault) (h : c.core.post.mayYield = true) :
    Moves c.core (c.failAttempt cause).core :=
  (moves_note c rfl).tail (.yield .ended h (.inl rfl))

theorem moves_breakDown (h : c.core.post.mayYield = true) : Moves c.core c.breakDown.core :=
  (moves_note c rfl).tail (.yield .leaving h (.inr rfl))

theorem moves_closeLink (l : Link) (frame : CloseFrame) (h : c.core.post.mayYield = true) :
    Moves c.core (c.closeLink l frame).core :=
  (moves_note c rfl).tail (.yield .leaving h (.inr rfl))

theorem moves_recordClose (c : Client) (frame : CloseFrame) :
    Moves c.core (c.recordClose frame).core := by
  unfold recordClose
  split
  · exact .refl
  · rename_i h
    exact (moves_note c (o := .published .closing) rfl).tail (.close (Bool.eq_false_iff.mpr h))

lemma recordClose_stage (c : Client) (frame : CloseFrame) :
    (c.recordClose frame).worker = c.worker := by
  unfold recordClose
  split <;> rfl

/-! ### Callers -/

theorem moves_request (h : c.core.Placed) (r : Request) : Moves c.core (c.request r).1.core := by
  obtain ⟨config, tokens, now, ⟨registry, pending, state, closeFrame, cancelled⟩, handles, commands,
    callsMade, ⟨stage, branch, generation, failed, backoff, asked, opened⟩, stream, journal⟩ := c
  cases state with
  | connected g =>
    cases stage with
    | gone => exact nomatch (h.connected g rfl).2
    | _ => exact .single (.ask g now r rfl)
  | _ => exact .single (.defer now r rfl)

theorem moves_direct (h : c.core.Placed) (d : Directive) : Moves c.core (c.direct d).1.core := by
  obtain ⟨config, tokens, now, ⟨registry, pending, state, closeFrame, cancelled⟩, handles, commands,
    callsMade, ⟨stage, branch, generation, failed, backoff, asked, opened⟩, stream, journal⟩ := c
  cases state with
  | connected g =>
    cases stage with
    | gone => exact nomatch (h.connected g rfl).2
    | _ => exact .single (.direct g now d rfl)
  | closing => exact .single (.refuse now d .closed rfl rfl)
  | closed => exact .single (.refuse now d .closed rfl rfl)
  | connecting g => exact .single (.refuse now d .notConnected rfl rfl)
  | disconnected g => exact .single (.refuse now d .notConnected rfl rfl)

theorem moves_askClose (c : Client) (frame : CloseFrame) : Moves c.core (c.askClose frame).core :=
  (moves_note c (o := .closeAsked c.state frame) rfl).trans (moves_recordClose _ frame)

theorem moves_read (c : Client) : Moves c.core c.read.2.core := by
  unfold read
  split
  · exact moves_note c rfl
  · exact moves_note c rfl
  · exact .refl

/-! ### The connection -/

theorem moves_onLink {f : Link → Link} {d : Client} (h : c.onLink f = some d) : Moves c.core d.core := by
  unfold onLink at h
  split at h
  · rename_i l a hw
    cases h
    have hp : c.core.post = a.post := core_post hw
    exact moves_of_core_eq (core_stage_same hp)
  · cases h

theorem moves_takeAnswer (a : DialAnswer) (h : c.core.post = .attempting) :
    Moves c.core (c.takeAnswer a).core := by
  have hy : c.core.post.mayYield = true := by rw [h]; rfl
  cases a with
  | link room => exact moves_note_goTo (o := .opened c.generation (c.worker.linksOpened + 1)) rfl h
  | fault cause => exact moves_failAttempt cause hy
  | breakdown => exact moves_breakDown hy

theorem moves_answerDial {a : DialAnswer} {d : Client} (h : c.answerDial a = some d) :
    Moves c.core d.core := by
  unfold answerDial at h
  split at h
  · rename_i deadline hw
    split at h <;> cases h
    exact moves_takeAnswer a (core_post hw)
  · cases h

theorem moves_crash {d : Client} (h : c.crash = some d) : Moves c.core d.core := by
  unfold crash at h
  split at h
  · rename_i l o s hw
    cases h
    have hf : Move c.core _ :=
      .fail c.now o s.rest? .closed .leaving (core_post hw) rfl (.inr rfl)
    cases ho : o.origin <;> rw [ho] at hf <;>
      exact (ReflTransGen.single hf).tail (.note ⟨c.now, .brokeDown⟩ rfl rfl)
  · rename_i l w hw
    cases h
    exact moves_breakDown (by rw [core_post hw]; rfl)
  · cases h

/-! ### Attempts -/

theorem moves_announceAttempt (h : c.core.post = .idle) : Moves c.core c.announceAttempt.core := by
  by_cases ht : c.state.isTerminal = true
  · rw [show c.announceAttempt = _ from if_pos ht]
    exact .single (.abandon h ht)
  · rw [show c.announceAttempt = _ from if_neg ht]
    exact (moves_note c (o := .published (.connecting (c.generation + 1))) rfl).tail
      (.attempt h (Bool.eq_false_iff.mpr ht))

theorem moves_dial (h : c.core.post = .attempting) : Moves c.core c.dial.core := by
  have hy : c.core.post.mayYield = true := by rw [h]; rfl
  unfold dial
  split
  · exact moves_failAttempt _ hy
  · dsimp only
    split
    · exact moves_leave hy
    · rename_i endpoint _ _
      exact moves_note_goTo (o := .dialed c.generation endpoint) rfl h

theorem moves_announceLoss (h : c.core.post = .ended) : Moves c.core c.announceLoss.core := by
  by_cases ht : c.state.isTerminal = true
  · rw [show c.announceLoss = _ from if_pos ht]
    exact .single (.settle h ht)
  · rw [show c.announceLoss = _ from if_neg ht]
    exact (moves_note c (o := .published (.disconnected c.generation)) rfl).tail
      (.disconnect h (Bool.eq_false_iff.mpr ht))

/-- When the end of a session was announced, the state is about no session. -/
theorem announceLoss_isConnected (c : Client) : c.announceLoss.state.isConnected = false := by
  by_cases ht : c.state.isTerminal = true
  · rw [show c.announceLoss = _ from if_pos ht]
    exact ConnectionState.not_connected ht
  · rw [show c.announceLoss = _ from if_neg ht]
    rfl

lemma announceLoss_worker (c : Client) : c.announceLoss.worker = c.worker := by
  by_cases ht : c.state.isTerminal = true
  · rw [show c.announceLoss = _ from if_pos ht]
  · rw [show c.announceLoss = _ from if_neg ht]
    rfl

lemma announceLoss_pending (c : Client) : c.announceLoss.shared.pending = .empty := by
  by_cases ht : c.state.isTerminal = true
  · rw [show c.announceLoss = _ from if_pos ht]
    rfl
  · rw [show c.announceLoss = _ from if_neg ht]
    rfl

theorem moves_retire (cause : TransportFault) (chance : Nat) (h : c.core.post = .ended)
    (hs : c.state.isConnected = false) (hn : c.shared.pending = .empty) :
    Moves c.core (c.retire cause chance).core := by
  unfold retire
  split
  · exact (moves_note c rfl).tail (.yield .leaving (by rw [core_note, Core.log, h]; rfl) (.inr rfl))
  · exact (moves_note c (o := .paused c.generation (c.delayAfter cause chance).1) rfl).tail
      (.pause h hs hn)

theorem moves_finishAttempt (cause : TransportFault) (chance : Nat) (h : c.core.post = .ended) :
    Moves c.core (c.finishAttempt cause chance).core := by
  have hp : c.announceLoss.core.post = .ended := by
    rw [← h]
    exact congrArg (·.stage.post) c.announceLoss_worker
  exact (moves_announceLoss h).trans (moves_retire cause chance hp c.announceLoss_isConnected
    c.announceLoss_pending)

/-! ### Sessions -/

theorem moves_openSession (l : Link) (h : c.core.post = .attempting) :
    Moves c.core (c.openSession l).core := by
  unfold openSession
  by_cases ht : c.state.isTerminal = true
  · rw [if_pos ht]
    exact moves_closeLink _ _ (by rw [h]; rfl)
  · rw [if_neg ht]
    exact .single (.connect c.now h (Bool.eq_false_iff.mpr ht))

lemma next_rest? (s : Sequel) : Post.next s.rest? = s.activity.post := by
  cases s <;> rfl

theorem moves_endWrite (l : Link) {o : Outgoing} {s : Sequel} (h : c.core.post = .writing o s.rest?) :
    Moves c.core (c.endWrite l o s).core := by
  unfold endWrite
  split
  · have hn : Moves c.core _ := moves_note c (o := .refused c.generation o) rfl
    have hf : Move (c.note (.refused c.generation o)).core _ :=
      .fail c.now o s.rest? .notConnected .ended h rfl (.inl rfl)
    cases ho : o.origin <;> rw [ho] at hf <;>
      exact (hn.tail hf).tail (.note ⟨c.now, .lost c.generation l.refusal⟩ rfl rfl)
  · have hw : Move c.core _ := .write c.now l.number o s.rest? h
    rw [next_rest?] at hw
    cases ho : o.origin <;> rw [ho] at hw <;> exact .single hw

theorem moves_beginWrite_replay (l : Link) {topic : Topic} {rest : List Topic}
    (h : c.core.post = .replaying (topic :: rest)) :
    Moves c.core (c.beginWrite l (.ofReplay topic) (.replay rest)).core :=
  .single (.replay c.now topic rest h)

theorem moves_startListening (l : Link) (h : c.core.post = .replaying []) :
    Moves c.core (c.startListening l).core := by
  unfold startListening
  cases c.now.add? c.config.heartbeat with
  | none => exact moves_breakDown (by rw [h]; rfl)
  | some heartbeat => exact .single (.listen h)

theorem moves_execute (l : Link) (w : Watch) {command : Command} {rest : List Command}
    (h : c.core.post = .listening) (hc : c.commands = command :: rest) :
    Moves c.core ({ c with commands := rest }.execute l w command).core := by
  unfold execute
  split
  · rename_i hg
    exact .single (.take c.now command rest h hc hg)
  · rename_i hg
    have hd : Move c.core _ := .drop c.now command rest .notConnected hc rfl fun _ => hg
    rw [core_goTo_same (s := .session l (.listening w)) (by rw [core_reply]; exact h), core_reply]
    exact .single hd

theorem deliver_worker (c : Client) (e : Envelope) : (c.deliver e).worker = c.worker := by
  unfold deliver
  split
  · split <;> rfl
  · rfl

theorem moves_deliver (e : Envelope) (h : c.core.post = .listening) :
    Moves c.core (c.deliver e).core := by
  unfold deliver
  split
  · rename_i topic action success reason
    split
    · rename_i pending hr
      exact .single (.acknowledge c.now ⟨topic, action⟩ success reason pending h hr)
    · rename_i hr
      exact .single (.withhold c.now ⟨topic, action⟩ success reason h hr)
  · rename_i he
    refine .single (.note ⟨c.now, .delivered c.generation e⟩ ?_ rfl)
    cases e with
    | ack topic action success reason => exact absurd rfl (he topic action success reason)
    | _ => rfl

theorem core_resetDelays (c : Client) (w : Watch) : (c.resetDelays w).core = c.core := by
  unfold resetDelays
  split <;> rfl

theorem moves_judge (l : Link) (w : Watch) (f : Frame) (h : c.core.post = .listening) :
    Moves c.core (c.judge l w f).core := by
  unfold judge
  split
  · rename_i e _
    have hp : (c.deliver e).core.post = .listening := by
      rw [← h]
      exact congrArg (·.stage.post) (c.deliver_worker e)
    rw [core_goTo_same hp]
    exact moves_deliver e h
  · dsimp only
    split
    · exact moves_lose _ (by rw [h]; rfl)
    · exact moves_of_core_eq (core_goTo_same h)

theorem moves_noteArrival (c : Client) (a : Option Arrival) : Moves c.core (c.noteArrival a).core := by
  cases a with
  | none => exact .refl
  | some a => exact moves_note c rfl

lemma noteArrival_post (c : Client) (a : Option Arrival) :
    (c.noteArrival a).core.post = c.core.post := by
  cases a <;> rfl

theorem moves_react (l : Link) (w : Watch) (a : Option Arrival) (h : c.core.post = .listening) :
    Moves c.core (c.react l w a).core := by
  unfold react
  split
  · rename_i f
    rw [← core_resetDelays c w] at h ⊢
    exact moves_judge l w f h
  · exact moves_lose _ (by rw [h]; rfl)
  · exact moves_lose _ (by rw [h]; rfl)

theorem moves_receive (l : Link) (w : Watch) (a : Option Arrival) (h : c.core.post = .listening) :
    Moves c.core (c.receive l w a).core := by
  have hp : (c.noteArrival a).core.post = .listening := (c.noteArrival_post a).trans h
  refine (c.moves_noteArrival a).trans ?_
  unfold receive
  split
  · exact moves_breakDown (by rw [hp]; rfl)
  · exact moves_react l _ a hp

/-- The worker leaves because nobody is there any more. -/
theorem recordClose_mayYield (h : c.core.post.mayYield = true) :
    (c.recordClose .normal).core.post.mayYield = true := by
  rw [← h]
  exact congrArg (·.stage.post.mayYield) (c.recordClose_stage .normal)

theorem moves_listenTo {l : Link} {w : Watch} {b : Branch} {d : Client}
    (hp : c.core.post = .listening) (h : c.listenTo l w b = some d) : Moves c.core d.core := by
  have hy : c.core.post.mayYield = true := by rw [hp]; rfl
  cases b <;> simp only [listenTo] at h
  case signal =>
    split at h <;> cases h
    exact moves_closeLink l _ hy
  case queue =>
    split at h
    · rename_i command rest hc
      cases h
      exact moves_execute l w hp hc
    · split at h <;> cases h
      exact (moves_recordClose c .normal).trans (moves_closeLink l _ (recordClose_mayYield hy))
  case frame =>
    split at h
    · cases h
      exact moves_receive _ w _ hp
    · split at h <;> cases h
      exact moves_receive _ w _ hp
  case patience =>
    split at h <;> cases h
    exact moves_lose _ hy
  case heartbeat =>
    split at h <;> cases h
    exact .single (.beat c.now hp)
  case answer | pause => cases h

/-! ### Pauses and the end -/

theorem moves_drop {command : Command} {rest : List Command} {fault : ClientFault}
    (hc : c.commands = command :: rest) (hf : fault.isLoss = true) (hp : c.core.post.isLive = false) :
    Moves c.core ({ c with commands := rest }.reply command.outgoing.origin (.error fault)).core := by
  rw [core_reply]
  refine .single (.drop c.now command rest fault hc hf fun hl => ?_)
  rw [hp] at hl
  cases hl

theorem moves_dialTo {deadline : Instant} {b : Branch} {d : Client} (hp : c.core.post = .attempting)
    (h : c.dialTo deadline b = some d) : Moves c.core d.core := by
  have hy : c.core.post.mayYield = true := by rw [hp]; rfl
  cases b <;> simp only [dialTo] at h
  case signal =>
    split at h <;> cases h
    exact moves_leave hy
  case answer =>
    split at h <;> cases h
    exact moves_failAttempt _ hy
  all_goals cases h

theorem moves_pauseTo {deadline : Instant} {b : Branch} {d : Client} (hp : c.core.post = .idle)
    (h : c.pauseTo deadline b = some d) : Moves c.core d.core := by
  have hy : c.core.post.mayYield = true := by rw [hp]; rfl
  cases b <;> simp only [pauseTo] at h
  case signal =>
    split at h <;> cases h
    exact moves_leave hy
  case pause =>
    split at h <;> cases h
    exact moves_of_core_eq (core_goTo_same hp)
  case queue =>
    split at h
    · rename_i command rest hc
      cases h
      exact moves_drop hc rfl (by rw [hp]; rfl)
    · split at h <;> cases h
      exact (moves_recordClose c .normal).trans (moves_leave (recordClose_mayYield hy))
  all_goals cases h

theorem moves_poll {d : Client} (h : c.poll = some d) : Moves c.core d.core := by
  obtain ⟨b, -, hb⟩ := poll_eq_some h
  unfold turnTo at hb
  split at hb <;> rename_i hw
  · exact moves_dialTo (core_post hw) hb
  · exact moves_listenTo (core_post hw) hb
  · exact moves_pauseTo (core_post hw) hb
  · cases hb

theorem moves_look {d : Client} (h : c.lookOn = some d) : Moves c.core d.core := by
  obtain ⟨-, b, rfl, -⟩ := lookOn_eq_some h
  exact .refl

theorem moves_workSession (l : Link) (a : Activity) {d : Client} (hw : c.worker.stage = .session l a)
    (h : c.workSession l a = some d) : Moves c.core d.core := by
  have hp := core_post hw
  unfold workSession at h
  split at h
  · cases h
    exact moves_openSession l hp
  · cases h
    exact moves_startListening l hp
  · cases h
    exact moves_beginWrite_replay l hp
  · cases h
    exact moves_endWrite l hp
  · exact moves_poll h

theorem moves_announceEnd (h : c.core.post = .leaving) : Moves c.core c.announceEnd.core :=
  (moves_note c (o := .published .closed) rfl).tail (.finish h)

/-- Commands that a client that is over does not execute any more. -/
theorem moves_answerAll (t : Instant) {fault : ClientFault} (hf : fault.isLoss = true)
    (cs : List Command) (k : Core) (hp : k.post = .releasing) :
    Moves { k with commands := cs }
      { cs.foldl (fun k command => k.log (command.outgoing.origin.answer t (.error fault))) k with
        commands := [] } := by
  induction cs generalizing k with
  | nil => exact .refl
  | cons command rest ih =>
    have hd : Move { k with commands := command :: rest } _ :=
      .drop t command rest fault rfl hf fun hl => by
        change k.post.isLive = true at hl
        rw [hp] at hl
        cases hl
    exact (ReflTransGen.single hd).trans
      (ih (k.log (command.outgoing.origin.answer t (.error fault))) hp)

theorem core_answerAll (x : Except ClientFault Generation) (cs : List Command) (c : Client) :
    (cs.foldl (fun c command => c.reply command.outgoing.origin x) c).core =
      cs.foldl (fun k command => k.log (command.outgoing.origin.answer c.now x)) c.core := by
  induction cs generalizing c with
  | nil => rfl
  | cons command rest ih =>
    have hn : (c.reply command.outgoing.origin x).now = c.now := by
      cases command.outgoing.origin <;> rfl
    rw [List.foldl_cons, ih, hn, core_reply, List.foldl_cons]

lemma answerAll_post (f : Command → List Entry) (cs : List Command) (k : Core) :
    (cs.foldl (fun k command => k.log (f command)) k).post = k.post := by
  induction cs generalizing k with
  | nil => rfl
  | cons command rest ih => exact ih (k.log (f command))

theorem moves_release (h : c.core.post = .releasing) : Moves c.core c.release.core := by
  have ha := moves_answerAll c.now (show ClientFault.closed.isLoss = true from rfl) c.commands c.core h
  rw [← core_answerAll] at ha
  have hp : (c.commands.foldl (fun c command => c.reply command.outgoing.origin (.error .closed))
      c).core.post = .releasing := by
    rw [core_answerAll, answerAll_post, h]
  exact ha.tail (.release hp rfl)

/-! ### Events -/

theorem moves_work {chance : Nat} {d : Client} (h : c.work chance = some d) :
    Moves c.core d.core := by
  unfold work at h
  split at h <;> rename_i hw
  · cases h
    exact moves_announceAttempt (core_post hw)
  · cases h
    exact moves_dial (core_post hw)
  · exact moves_poll h
  · exact moves_poll h
  · exact moves_workSession _ _ hw h
  · cases h
    exact moves_finishAttempt _ _ (core_post hw)
  · cases h
    exact moves_announceEnd (core_post hw)
  · cases h
    exact moves_release (core_post hw)
  · cases h

/-- What can happen only to those who have a handle, or the stream. -/
theorem moves_call {p : Prop} [Decidable p] {d e : Client} (h : (if p then none else some e) = some d)
    (he : Moves c.core e.core) : Moves c.core d.core := by
  split at h
  · cases h
  · cases h
    exact he

/-- Every event is a sequence of moves. -/
theorem moves_step {e : Event} {d : Client} (hc : c.core.Placed) (h : c.step e = some d) :
    Moves c.core d.core := by
  cases e with
  | request r => exact moves_call h (moves_request hc r)
  | direct d => exact moves_call h (moves_direct hc d)
  | close frame => exact moves_call h (moves_askClose c frame)
  | signal | clone => exact moves_call h .refl
  | dropHandle => exact moves_call h (moves_note c (o := .handleDropped (c.handles - 1)) rfl)
  | read => exact moves_call h (moves_read c)
  | dropStream | pass nanos =>
    cases h
    exact .refl
  | dialAnswer a => exact moves_answerDial h
  | arrive a | hangUp | limit sends refusal => exact moves_onLink h
  | crash => exact moves_crash h
  | look => exact moves_look h
  | work chance => exact moves_work h

/-- The core of a client that a run has led to. -/
theorem Reachable.reached {config : Config} {tokens : Nat → Option String} {c : Client}
    (h : Reachable config tokens c) : c.core.Reached := by
  induction h with
  | initial => exact .refl
  | step e _ hs ih => exact ih.trans (moves_step ih.placed hs)

theorem moves_run {es : List Event} {d : Client} (hc : c.core.Placed) (h : c.run es = some d) :
    Moves c.core d.core := by
  induction es generalizing c with
  | nil =>
    cases h
    exact .refl
  | cons e es ih =>
    obtain ⟨b, hb, hd⟩ := Option.bind_eq_some_iff.mp h
    have hm := moves_step hc hb
    exact hm.trans (ih (hm.placed hc) hd)

theorem Reachable.run {config : Config} {tokens : Nat → Option String} {es : List Event} {d : Client}
    (hc : Reachable config tokens c) (h : c.run es = some d) : Reachable config tokens d := by
  induction es generalizing c with
  | nil =>
    cases h
    exact hc
  | cons e es ih =>
    obtain ⟨b, hb, hd⟩ := Option.bind_eq_some_iff.mp h
    exact ih (hc.step e hb) hd

end Client

/-- The settings for a server on the same machine. -/
def Config.loopback : Config := .ofUrl "ws://[::1]"

theorem Config.loopback_isValid : Config.loopback.isValid = true := by decide +kernel

/-- What a run against that server leads to. -/
theorem Client.Reachable.ofRun {r : List Event} {c : Client}
    (h : (Client.initial .loopback fun _ => none).run r = some c) :
    Reachable .loopback (fun _ => none) c :=
  (Reachable.initial Config.loopback_isValid).run h

end MarketFeed
