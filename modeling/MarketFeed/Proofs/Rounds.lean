import Mathlib.Tactic.Lemma
import MarketFeed.Client.Run

/-!
Rounds of looks. Where the worker waits for several things it looks at one branch after another, and
others may come in between. When it does something about a branch it came there before: it was there when
it went on, or it looked at the branch before and there was nothing. Looking one by one and looking on at
once come to the same.
-/

namespace MarketFeed

/-- One branch follows another in the order in which the worker looks at a stage. -/
def Stage.Follows (s : Stage) (b b' : Branch) : Prop := [b, b'] <:+: s.branches

/-- In a session, the branches at which the worker looks after the queue. -/
def Branch.isPastQueue : Branch → Bool
  | frame | patience | heartbeat => true
  | _ => false

namespace Client

variable {c d : Client} {b : Branch}

/-- A branch to which the worker may come when it looks on, in its round or in the next one. -/
inductive Comes (c : Client) : Branch → Prop
  | here : Comes c c.worker.branch
  | start : Comes c .signal
  | on {b b' : Branch} (h : Comes c b) (hb : c.turnTo b = none) (hn : c.worker.stage.Follows b b') :
    Comes c b'

lemma comes_of_findSome? {bs : List Branch} (hs : bs <:+ c.worker.stage.branches)
    (hh : ∀ b ∈ bs.head?, c.Comes b) (h : bs.findSome? c.turnTo = some d) :
    ∃ b, c.Comes b ∧ c.turnTo b = some d := by
  induction bs with
  | nil => cases h
  | cons b bs ih =>
    have hb : c.Comes b := hh b rfl
    rw [List.findSome?_cons] at h
    cases ht : c.turnTo b with
    | some d' =>
      rw [ht] at h
      cases h
      exact ⟨b, hb, ht⟩
    | none =>
      rw [ht] at h
      refine ih ((List.suffix_cons b bs).trans hs) (fun b' hb' => .on hb ht ?_) h
      obtain ⟨rest, rfl⟩ := List.head?_eq_some_iff.mp hb'
      exact (List.prefix_append [b, b'] rest).isInfix.trans hs.isInfix

lemma branches_head? {s : Stage} (h : b ∈ s.branches.head?) : b = .signal := by
  unfold Stage.branches at h
  split at h <;> cases h <;> rfl

lemma ahead_head? {w : Worker} (h : b ∈ w.ahead.head?) : b = w.branch := by
  have hp := List.head?_dropWhile_not (· ≠ w.branch) w.stage.branches
  rw [show (w.stage.branches.dropWhile (· ≠ w.branch)).head? = some b from h] at hp
  simpa using hp

/-- The worker does something about a branch to which it has come. -/
theorem poll_eq_some (h : c.poll = some d) : ∃ b, c.Comes b ∧ c.turnTo b = some d := by
  unfold poll at h
  cases ha : c.worker.ahead.findSome? c.turnTo with
  | some d' =>
    rw [ha] at h
    cases h
    exact comes_of_findSome? (List.dropWhile_suffix _) (fun b hb => ahead_head? hb ▸ .here) ha
  | none =>
    rw [ha] at h
    exact comes_of_findSome? (List.suffix_refl _) (fun b hb => branches_head? hb ▸ .start) h

/-- A worker with nothing to do looks at everything in vain. -/
theorem poll_eq_none (h : c.poll = none) (hb : b ∈ c.worker.stage.branches) : c.turnTo b = none := by
  unfold poll at h
  cases ha : c.worker.ahead.findSome? c.turnTo with
  | some d =>
    rw [ha] at h
    cases h
  | none =>
    rw [ha] at h
    exact List.findSome?_eq_none_iff.mp h b hb

/-- A look is at a branch where there is nothing, and goes on to the next branch or to the first. -/
theorem lookOn_eq_some (h : c.lookOn = some d) : c.turnTo c.worker.branch = none ∧
    ∃ b, d = c.lookAt b ∧
      (b = .signal ∨ c.worker.stage.Follows c.worker.branch b) := by
  unfold lookOn at h
  split at h
  · rename_i b rest ha
    split at h <;> cases h
    rename_i hn
    obtain rfl : b = c.worker.branch := ahead_head? (by rw [ha]; rfl)
    refine ⟨Option.isNone_iff_eq_none.mp hn, _, rfl, ?_⟩
    cases rest with
    | nil => exact .inl rfl
    | cons b' rest =>
      have hs : c.worker.branch :: b' :: rest <:+ c.worker.stage.branches := ha ▸ List.dropWhile_suffix _
      exact .inr ((List.prefix_append [c.worker.branch, b'] rest).isInfix.trans hs.isInfix)
  · cases h

/-! ### Looks make no difference -/

section lookAt

variable (c : Client) (b : Branch)

lemma note_lookAt (o : Occurrence) : (c.lookAt b).note o = (c.note o).lookAt b := rfl

lemma goTo_lookAt (s : Stage) : (c.lookAt b).goTo s = c.goTo s := rfl

lemma reply_lookAt (o : Origin) (x : Except ClientFault Generation) :
    (c.lookAt b).reply o x = (c.reply o x).lookAt b := by
  cases o <;> rfl

lemma recordClose_lookAt (frame : CloseFrame) :
    (c.lookAt b).recordClose frame = (c.recordClose frame).lookAt b := by
  have hs : (c.lookAt b).state = c.state := rfl
  unfold recordClose
  rw [hs]
  split <;> rfl

lemma resetDelays_lookAt (w : Watch) : (c.lookAt b).resetDelays w = (c.resetDelays w).lookAt b := by
  unfold resetDelays
  split <;> rfl

lemma deliver_lookAt (e : Envelope) : (c.lookAt b).deliver e = (c.deliver e).lookAt b := by
  cases e with
  | ack topic action success reason =>
    have hs : (c.lookAt b).shared = c.shared := rfl
    have hg : (c.lookAt b).generation = c.generation := rfl
    simp only [deliver, hs, hg]
    cases c.shared.pending.resolve? c.generation ⟨topic, action⟩ <;> rfl
  | _ => rfl

/-- A frame leads back to the beginning of a round. -/
theorem judge_lookAt (l : Link) (w : Watch) (f : Frame) : (c.lookAt b).judge l w f = c.judge l w f := by
  unfold judge
  split
  · rw [deliver_lookAt, goTo_lookAt]
  · rfl

lemma receive_lookAt (l : Link) (w : Watch) (a : Option Arrival) :
    (c.lookAt b).receive l w a = c.receive l w a := by
  rcases a with _ | cause | f
  · rfl
  · rfl
  · simp only [receive, noteArrival, react, hear, note_lookAt, resetDelays_lookAt, judge_lookAt]
    rfl

lemma execute_lookAt (l : Link) (w : Watch) (command : Command) :
    (c.lookAt b).execute l w command = c.execute l w command := by
  rw [execute, reply_lookAt]
  rfl

lemma listenTo_lookAt (l : Link) (w : Watch) (b' : Branch) :
    (c.lookAt b).listenTo l w b' = c.listenTo l w b' := by
  cases b' with
  | queue =>
    have hc : (c.lookAt b).commands = c.commands := rfl
    simp only [listenTo, hc, recordClose_lookAt]
    split
    · exact congrArg some (execute_lookAt { c with commands := _ } b l w _)
    · rfl
  | frame =>
    simp only [listenTo, receive_lookAt]
  | _ => rfl

lemma pauseTo_lookAt (deadline : Instant) (b' : Branch) :
    (c.lookAt b).pauseTo deadline b' = c.pauseTo deadline b' := by
  cases b' with
  | queue =>
    have hc : (c.lookAt b).commands = c.commands := rfl
    simp only [pauseTo, hc, recordClose_lookAt]
    split
    · exact congrArg (fun d => some (d.lookAt .signal)) (reply_lookAt { c with commands := _ } b _ _)
    · rfl
  | _ => rfl

/-- What the worker does about a branch does not depend on where it looks. -/
theorem turnTo_lookAt : (c.lookAt b).turnTo = c.turnTo := by
  funext b'
  have hs : (c.lookAt b).worker.stage = c.worker.stage := rfl
  unfold turnTo
  rw [hs]
  split
  · cases b' <;> rfl
  · exact listenTo_lookAt ..
  · exact pauseTo_lookAt ..
  · rfl

end lookAt

/-- After a look the rest of the round is ahead, or the next one. -/
theorem ahead_lookAt {rest : List Branch} (h : c.worker.ahead = b :: rest) :
    (c.lookAt (rest.headD .signal)).worker.ahead =
      if rest = [] then c.worker.stage.branches else rest := by
  unfold Worker.ahead at h ⊢
  change c.worker.stage.branches.dropWhile _ = _
  cases hb : c.worker.branch <;> rw [hb] at h <;> unfold Stage.branches at h ⊢ <;> split at h <;>
    cases h <;> rfl

/-- After a look the rest of the round brings what it would have brought at once. -/
theorem poll_of_lookOn (h : c.lookOn = some d) : d.poll = c.poll := by
  unfold lookOn at h
  split at h
  · rename_i b rest ha
    split at h <;> cases h
    rename_i hn
    have hskip : c.worker.ahead.findSome? c.turnTo = rest.findSome? c.turnTo := by
      rw [ha, List.findSome?_cons, Option.isNone_iff_eq_none.mp hn]
    unfold poll
    rw [turnTo_lookAt, hskip, ahead_lookAt ha]
    cases rest with
    | nil =>
      change (c.worker.stage.branches.findSome? c.turnTo <|> c.worker.stage.branches.findSome? c.turnTo) = _
      cases c.worker.stage.branches.findSome? c.turnTo <;> rfl
    | cons => rfl
  · cases h

/-! ### Where there is nothing -/

section nothing

variable {l : Link} {w : Watch} {deadline : Instant}

theorem listenTo_signal_eq_none : c.listenTo l w .signal = none ↔ c.shared.cancelled = false := by
  simp [listenTo]

theorem listenTo_queue_eq_none : c.listenTo l w .queue = none ↔ c.commands = [] ∧ c.handles ≠ 0 := by
  simp only [listenTo]
  split
  · rename_i hc
    simp [hc]
  · rename_i hc
    simp [hc]

theorem listenTo_frame_eq_none : c.listenTo l w .frame = none ↔ l.inbound = [] ∧ l.ended = false := by
  simp only [listenTo]
  split
  · rename_i hi
    simp [hi]
  · rename_i hi
    simp [hi]

theorem listenTo_patience_eq_none : c.listenTo l w .patience = none ↔ c.now < w.idle := by
  simp [listenTo]

theorem dialTo_signal_eq_none : c.dialTo deadline .signal = none ↔ c.shared.cancelled = false := by
  simp [dialTo]

theorem pauseTo_signal_eq_none : c.pauseTo deadline .signal = none ↔ c.shared.cancelled = false := by
  simp [pauseTo]

theorem dialTo_answer_eq_none : c.dialTo deadline .answer = none ↔ c.now < deadline := by
  simp [dialTo]

theorem pauseTo_queue_eq_none : c.pauseTo deadline .queue = none ↔ c.commands = [] ∧ c.handles ≠ 0 := by
  simp only [pauseTo]
  split
  · rename_i hc
    simp [hc]
  · rename_i hc
    simp [hc]

theorem turnTo_dialing (hw : c.worker.stage = .dialing deadline) (b : Branch) :
    c.turnTo b = c.dialTo deadline b := by
  rw [turnTo, hw]

theorem turnTo_pausing (hw : c.worker.stage = .pausing deadline) (b : Branch) :
    c.turnTo b = c.pauseTo deadline b := by
  rw [turnTo, hw]

theorem turnTo_session (hw : c.worker.stage = .session l (.listening w)) (b : Branch) :
    c.turnTo b = c.listenTo l w b := by
  rw [turnTo, hw]

end nothing

/-- Once a close was signalled no look at the signal is in vain. -/
theorem uncancelled_of_follows (hf : c.worker.stage.Follows .signal b) (hl : c.turnTo .signal = none) :
    c.shared.cancelled = false := by
  unfold turnTo at hl
  split at hl <;> rename_i hw
  · exact dialTo_signal_eq_none.mp hl
  · exact listenTo_signal_eq_none.mp hl
  · exact pauseTo_signal_eq_none.mp hl
  · unfold Stage.Follows Stage.branches at hf
    split at hf <;> simp_all

/-- Once a close was signalled, a worker that comes to another branch had looked for the signal before. -/
theorem Comes.past_signal (h : c.Comes b) (hc : c.shared.cancelled = true) (hb : b ≠ .signal) :
    c.worker.branch ≠ .signal := by
  induction h with
  | here => exact hb
  | start => exact absurd rfl hb
  | on _ hn hf ih =>
    refine ih fun hs => ?_
    subst hs
    cases (uncancelled_of_follows hf hn).symm.trans hc

/-! ### How a session comes to a branch -/

section session

variable {l : Link} {w : Watch}

theorem follows_listening {b' : Branch} : (Stage.session l (.listening w)).Follows b b' ↔
    b = .signal ∧ b' = .queue ∨ b = .queue ∧ b' = .frame ∨ b = .frame ∧ b' = .patience ∨
      b = .patience ∧ b' = .heartbeat := by
  simp [Stage.Follows, Stage.branches, List.infix_cons_iff]

/-- Without handles no look at the queue is in vain. -/
theorem past_queue_of_follows {b' : Branch} (hf : c.worker.stage.Follows b b') (hl : c.turnTo b = none)
    (h0 : c.handles = 0) (hb : b'.isPastQueue = true) : b.isPastQueue = true := by
  cases hw : c.worker.stage with
  | session l a =>
    cases a with
    | listening w =>
      rw [hw] at hf
      rw [turnTo_session hw] at hl
      rcases follows_listening.mp hf with ⟨rfl, rfl⟩ | ⟨rfl, rfl⟩ | ⟨rfl, rfl⟩ | ⟨rfl, rfl⟩
      · cases hb
      · exact absurd h0 (listenTo_queue_eq_none.mp hl).2
      · rfl
      · rfl
    | _ => simp [Stage.Follows, Stage.branches, hw] at hf
  | dialing | pausing =>
    have hm := hf.subset (List.mem_cons_of_mem b (List.mem_singleton_self b'))
    rw [hw] at hm
    simp only [Stage.branches, List.mem_cons, List.not_mem_nil, or_false] at hm
    rcases hm with rfl | rfl | rfl <;> cases hb
  | _ => simp [Stage.Follows, Stage.branches, hw] at hf

/-- Without handles, a worker that comes to a branch after the queue had looked at the queue before. -/
theorem Comes.past_queue (h : c.Comes b) (h0 : c.handles = 0) (hb : b.isPastQueue = true) :
    c.worker.branch.isPastQueue = true := by
  induction h with
  | here => exact hb
  | start => cases hb
  | on _ hn hf ih => exact ih (past_queue_of_follows hf hn h0 hb)

variable (hw : c.worker.stage = .session l (.listening w))
include hw

/-- The worker is at the branch, or it came from another one. -/
theorem Comes.from (h : c.Comes b) : c.worker.branch = b ∨ b = .signal ∨
    ∃ b', c.Comes b' ∧ c.listenTo l w b' = none ∧ (Stage.session l (.listening w)).Follows b' b := by
  cases h with
  | here => exact .inl rfl
  | start => exact .inr (.inl rfl)
  | on h hb hn => exact .inr (.inr ⟨_, h, turnTo_session hw _ ▸ hb, hw ▸ hn⟩)

theorem Comes.queue (h : c.Comes .queue) : c.worker.branch = .queue ∨ c.shared.cancelled = false := by
  rcases h.from hw with hb | hb | ⟨b', -, hn, hf⟩
  · exact .inl hb
  · cases hb
  · obtain rfl : b' = .signal := by simpa using follows_listening.mp hf
    exact .inr (listenTo_signal_eq_none.mp hn)

theorem Comes.queue_of_cancelled (h : c.Comes .queue) (hc : c.shared.cancelled = true) :
    c.worker.branch = .queue :=
  (h.queue hw).resolve_right fun hn => nomatch hn.symm.trans hc

theorem Comes.frame (h : c.Comes .frame) :
    c.worker.branch = .frame ∨ c.Comes .queue ∧ c.commands = [] ∧ c.handles ≠ 0 := by
  rcases h.from hw with hb | hb | ⟨b', hc, hn, hf⟩
  · exact .inl hb
  · cases hb
  · obtain rfl : b' = .queue := by simpa using follows_listening.mp hf
    exact .inr ⟨hc, listenTo_queue_eq_none.mp hn⟩

theorem Comes.patience (h : c.Comes .patience) :
    c.worker.branch = .patience ∨ c.Comes .frame ∧ l.inbound = [] ∧ l.ended = false := by
  rcases h.from hw with hb | hb | ⟨b', hc, hn, hf⟩
  · exact .inl hb
  · cases hb
  · obtain rfl : b' = .frame := by simpa using follows_listening.mp hf
    exact .inr ⟨hc, listenTo_frame_eq_none.mp hn⟩

theorem Comes.heartbeat (h : c.Comes .heartbeat) :
    c.worker.branch = .heartbeat ∨ c.Comes .patience ∧ c.now < w.idle := by
  rcases h.from hw with hb | hb | ⟨b', hc, hn, hf⟩
  · exact .inl hb
  · cases hb
  · obtain rfl : b' = .patience := by simpa using follows_listening.mp hf
    exact .inr ⟨hc, listenTo_patience_eq_none.mp hn⟩

end session

theorem work_of_listening {l : Link} {w : Watch} (hw : c.worker.stage = .session l (.listening w))
    (chance : Nat) : c.work chance = c.poll := by
  rw [work, hw]
  rfl

/-! ### Frames -/

/-- Whether the worker comes to the frames in its round: what it looks at before has nothing. -/
def reachesFrames (c : Client) : Bool :=
  match c.worker.branch with
  | .signal => !c.shared.cancelled && c.commands.isEmpty && c.handles ≠ 0
  | .queue => c.commands.isEmpty && c.handles ≠ 0
  | .frame => true
  | _ => false

theorem poll_frame {l : Link} {w : Watch} {a : Arrival} {rest : List Arrival}
    (hw : c.worker.stage = .session l (.listening w)) (h : c.reachesFrames = true)
    (hl : l.inbound = a :: rest) :
    c.poll = some (c.receive { l with inbound := rest } w (some a)) := by
  have hf : c.listenTo l w .frame = some (c.receive { l with inbound := rest } w (some a)) := by
    simp only [listenTo, hl]
  have ht : c.turnTo = c.listenTo l w := funext (turnTo_session hw)
  unfold reachesFrames at h
  unfold poll Worker.ahead
  rw [hw, ht]
  split at h <;> rename_i hb
  · obtain ⟨⟨hc, hq⟩, hn⟩ : (c.shared.cancelled = false ∧ c.commands = []) ∧ c.handles ≠ 0 := by
      simpa using h
    have hs := listenTo_signal_eq_none (l := l) (w := w).mpr hc
    have hq := listenTo_queue_eq_none (l := l) (w := w).mpr ⟨hq, hn⟩
    simp [Stage.branches, hb, hs, hq, hf]
  · obtain ⟨hq, hn⟩ : c.commands = [] ∧ c.handles ≠ 0 := by simpa using h
    have hq := listenTo_queue_eq_none (l := l) (w := w).mpr ⟨hq, hn⟩
    simp [Stage.branches, hb, hq, hf]
  · simp [Stage.branches, hb, hf]
  · cases h

/-- While the worker has still to look at the frames in its round and there is one, it does something about
the signal, the queue or the frame. -/
theorem poll_before_frame {l : Link} {w : Watch} {a : Arrival} {rest : List Arrival}
    (hw : c.worker.stage = .session l (.listening w)) (hm : .frame ∈ c.worker.ahead)
    (hl : l.inbound = a :: rest) (h : c.poll = some d) :
    c.listenTo l w .signal = some d ∨ c.listenTo l w .queue = some d ∨ c.listenTo l w .frame = some d := by
  have hf : c.listenTo l w .frame ≠ none := fun hn =>
    nomatch hl.symm.trans (listenTo_frame_eq_none.mp hn).1
  obtain ⟨x, hx⟩ := Option.ne_none_iff_exists'.mp hf
  rw [Worker.ahead, hw] at hm
  rw [poll, Worker.ahead, hw, funext (turnTo_session hw)] at h
  cases hb : c.worker.branch <;> simp [Stage.branches, hb, List.findSome?_cons, hx] at h hm
  · grind
  · grind
  · exact .inr (.inr (h ▸ hx))

theorem reachesFrames_of_ahead {l : Link} {w : Watch} (hw : c.worker.stage = .session l (.listening w))
    (hm : .frame ∈ c.worker.ahead) (hc : c.shared.cancelled = false) (hq : c.commands = [])
    (hn : c.handles ≠ 0) : c.reachesFrames = true := by
  rw [Worker.ahead, hw] at hm
  unfold reachesFrames
  cases hb : c.worker.branch <;> simp [Stage.branches, hb, hc, hq, hn] at hm ⊢

end Client

end MarketFeed
