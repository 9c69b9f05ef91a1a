import MarketFeed.Proofs.Closing

/-!
What is said after a close was signalled. A worker that asks for its topics again does not look for the
signal in between: it may go through the rest of them. A worker that looked for the signal before, in the
round of a session, may pass on the one message that it comes to in this round. It begins with nothing else,
and with nothing at all if there is no such topic or message.
-/

namespace MarketFeed

open History

namespace Occurrence

/-- The message that is passed to a connection, with its session. -/
def passing? : Occurrence → Option (Generation × Outgoing)
  | writing g o => some (g, o)
  | _ => none

/-- The message that a connection took, with its session. -/
def taking? : Occurrence → Option (Generation × Outgoing)
  | written g _ o => some (g, o)
  | _ => none

end Occurrence

/-- The messages that were passed to connections. -/
def History.passings (j : List Entry) : List (Generation × Outgoing) := view Occurrence.passing? j

/-- The messages that connections took. -/
def History.takings (j : List Entry) : List (Generation × Outgoing) := view Occurrence.taking? j

/-- Whether there is nothing to be taken from a connection. -/
def Link.IsQuiet (l : Link) : Prop := l.inbound = [] ∧ l.ended = false

instance (l : Link) : Decidable l.IsQuiet := inferInstanceAs (Decidable (_ ∧ _))

namespace Client

variable {b c d : Client} {e : Event} {os : List Occurrence} {config : Config}
  {tokens : Nat → Option String} {said said' taken taken' : List Outgoing}

/-- What a session that listens may still pass on in its round, when a close was signalled after the worker
looked for that: the next command, or the heartbeat, if there is nothing that the worker comes to before. -/
def remaining (c : Client) (l : Link) (w : Watch) : List Outgoing :=
  match c.worker.branch with
  | .queue =>
    match c.commands with
    | command :: _ => if command.generation = c.generation then [command.outgoing] else []
    | [] => if c.handles ≠ 0 ∧ l.IsQuiet ∧ c.now < w.idle then [.heartbeat] else []
  | .frame => if l.IsQuiet ∧ c.now < w.idle then [.heartbeat] else []
  | .patience => if c.now < w.idle then [.heartbeat] else []
  | .heartbeat => [.heartbeat]
  | _ => []

/-- The messages that may still be begun once a close was signalled: the rest of a replay, or what remains
of a round. -/
def coming (c : Client) : List Outgoing :=
  match c.worker.stage with
  | .session l (.listening w) => c.remaining l w
  | s => s.post.owed.map .ofReplay

/-- What is on its way, and what may still come after it. -/
def left (c : Client) : List Outgoing := c.worker.stage.post.flight ++ c.coming

lemma coming_of_listening {l : Link} {w : Watch} (hw : c.worker.stage = .session l (.listening w)) :
    c.coming = c.remaining l w := by
  rw [coming, hw]

lemma coming_of_signal (hw : c.worker.stage.post = .listening) (hb : c.worker.branch = .signal) :
    c.coming = [] := by
  unfold coming
  split
  · rw [remaining, hb]
  · rw [hw]
    rfl

/-! ### What remains of a round -/

section round

variable {l m : Link} {w : Watch}

/-- While the worker stays at its branch no other message is added. -/
theorem remaining_of_still (hb : d.worker.branch = c.worker.branch) (hq : d.commands = c.commands)
    (hg : d.generation = c.generation) (hn : c.now ≤ d.now) (hh : d.handles ≠ 0 → c.handles ≠ 0)
    (hm : m.IsQuiet → l.IsQuiet) : d.remaining m w <+: c.remaining l w := by
  have narrow {p q : Prop} [Decidable p] [Decidable q] {os : List Outgoing} (h : p → q) :
      (if p then os else []) <+: if q then os else [] := by
    split
    · exact ⟨[], by rw [if_pos (h ‹p›), List.append_nil]⟩
    · exact List.nil_prefix
  unfold remaining
  rw [hb, hq, hg]
  split
  · split
    · exact List.prefix_refl _
    · exact narrow fun ⟨h0, hq, ht⟩ => ⟨hh h0, hm hq, Nat.lt_of_le_of_lt hn ht⟩
  · exact narrow fun ⟨hq, ht⟩ => ⟨hm hq, Nat.lt_of_le_of_lt hn ht⟩
  · exact narrow (Nat.lt_of_le_of_lt hn)
  · exact List.prefix_refl _
  · exact List.prefix_refl _

lemma coming_of_still (hw : d.worker.stage = c.worker.stage) (hb : d.worker.branch = c.worker.branch)
    (hq : d.commands = c.commands) (hg : d.generation = c.generation) (hn : c.now ≤ d.now)
    (hh : d.handles ≠ 0 → c.handles ≠ 0) : d.coming <+: c.coming := by
  unfold coming
  rw [hw]
  split
  · exact remaining_of_still hb hq hg hn hh id
  · exact List.prefix_refl _

variable (hw : c.worker.stage = .session l (.listening w))
include hw

/-- A look in vain changes nothing about what remains, as long as the round goes on. -/
theorem remaining_lookAt {b : Branch} (hf : c.worker.stage.Follows c.worker.branch b)
    (hl : c.turnTo c.worker.branch = none) (hs : c.worker.branch ≠ .signal) :
    (c.lookAt b).remaining l w = c.remaining l w := by
  rw [turnTo_session hw] at hl
  rw [hw] at hf
  rcases follows_listening.mp hf with ⟨hb, -⟩ | ⟨hb, rfl⟩ | ⟨hb, rfl⟩ | ⟨hb, rfl⟩
  · exact absurd hb hs
  · rw [hb] at hl
    obtain ⟨hq, h0⟩ := listenTo_queue_eq_none.mp hl
    simp [remaining, hb, hq, h0, lookAt]
  · rw [hb] at hl
    have hl : l.IsQuiet := listenTo_frame_eq_none.mp hl
    by_cases ht : c.now < w.idle <;> simp [remaining, hb, hl, ht, lookAt]
  · rw [hb] at hl
    have ht := listenTo_patience_eq_none.mp hl
    simp [remaining, hb, ht, lookAt]

/-- The worker comes to no other command than the one that remained. -/
theorem coming_of_command {command : Command} {cs : List Command} (hc : c.shared.cancelled = true)
    (h : c.Comes .queue) (hq : c.commands = command :: cs) (hg : command.generation = c.generation) :
    c.coming = [command.outgoing] := by
  rw [coming_of_listening hw, remaining, h.queue_of_cancelled hw hc]
  simp [hq, hg]

lemma coming_of_heartbeat (hc : c.shared.cancelled = true) (h : c.Comes .heartbeat) :
    c.coming = [.heartbeat] := by
  rw [coming_of_listening hw]
  -- Back from the heartbeat, branch by branch, to the one where the worker was.
  rcases h.heartbeat hw with hb | ⟨h, ht⟩
  · rw [remaining, hb]
  rcases h.patience hw with hb | ⟨h, hl⟩
  · simp [remaining, hb, ht]
  have hl : l.IsQuiet := hl
  rcases h.frame hw with hb | ⟨h, hq, h0⟩
  · simp [remaining, hb, ht, hl]
  · simp [remaining, h.queue_of_cancelled hw hc, hq, h0, ht, hl]

end round

theorem coming_lookAt {b : Branch} (hc : c.shared.cancelled = true)
    (hl : c.turnTo c.worker.branch = none)
    (hb : b = .signal ∨ c.worker.stage.Follows c.worker.branch b) : (c.lookAt b).coming <+: c.coming := by
  cases hw : c.worker.stage with
  | session l a =>
    have hd : (c.lookAt b).worker.stage = .session l a := hw
    cases a with
    | listening w =>
      rcases hb with rfl | hf
      · rw [coming_of_signal (by rw [hd]; rfl) rfl]
        exact List.nil_prefix
      · have hs : c.worker.branch ≠ .signal := fun hs =>
          nomatch hc.symm.trans (uncancelled_of_follows (hs ▸ hf) (hs ▸ hl))
        refine ⟨[], ?_⟩
        rw [List.append_nil, coming_of_listening hd, coming_of_listening hw, remaining_lookAt hw hf hl hs]
    | _ =>
      simp only [coming, hd, hw]
      exact List.prefix_refl _
  | _ =>
    have hd : (c.lookAt b).worker.stage = c.worker.stage := rfl
    simp only [coming, hd, hw]
    exact List.prefix_refl _

/-! ### From one client to a later one -/

/-- Since an earlier client the next of what was coming was passed to the connection, and this took the next
of what was left. -/
structure Trails (c d : Client) (said taken : List Outgoing) : Prop where
  passes : passings d.journal = passings c.journal ++ said.map (c.generation, ·)
  takes : takings d.journal = takings c.journal ++ taken.map (c.generation, ·)
  coming : said ++ d.coming <+: c.coming
  left : taken ++ d.left <+: c.left
  session : d.left ≠ [] → d.generation = c.generation

lemma left_ne_nil (h : c.coming ≠ []) : c.left ≠ [] := by
  simp [left, h]

theorem Trails.refl (c : Client) : c.Trails c [] [] :=
  ⟨(List.append_nil _).symm, (List.append_nil _).symm, List.prefix_refl _, List.prefix_refl _, fun _ => rfl⟩

theorem Trails.trans (h : c.Trails b said taken) (h' : b.Trails d said' taken') :
    c.Trails d (said ++ said') (taken ++ taken') := by
  have hcoming : said ++ (said' ++ d.coming) <+: c.coming :=
    (List.prefix_append_right_inj said).mpr h'.coming |>.trans h.coming
  have hleft : taken ++ (taken' ++ d.left) <+: c.left :=
    (List.prefix_append_right_inj taken).mpr h'.left |>.trans h.left
  have same {os : List Outgoing} (hos : os ≠ [] → b.left ≠ []) :
      os.map (b.generation, ·) = os.map (c.generation, ·) := by
    cases os with
    | nil => rfl
    | cons o os => rw [h.session (hos (List.cons_ne_nil o os))]
  have hsaid : said'.map (b.generation, ·) = said'.map (c.generation, ·) :=
    same fun hs => left_ne_nil (h'.coming.ne_nil (List.append_ne_nil_of_left_ne_nil hs _))
  have htaken : taken'.map (b.generation, ·) = taken'.map (c.generation, ·) :=
    same fun ht => h'.left.ne_nil (List.append_ne_nil_of_left_ne_nil ht _)
  refine ⟨?_, ?_, (List.append_assoc said ..).symm ▸ hcoming, (List.append_assoc taken ..).symm ▸ hleft,
    fun hd => ?_⟩
  · rw [h'.passes, h.passes, hsaid, List.map_append, List.append_assoc]
  · rw [h'.takes, h.takes, htaken, List.map_append, List.append_assoc]
  · have hb : b.left ≠ [] := h'.left.ne_nil (List.append_ne_nil_of_right_ne_nil _ hd)
    rw [h'.session hd, h.session hb]

/-- Nothing is said, and of what is left nothing is added. -/
theorem Trails.quiet (hp : passings d.journal = passings c.journal)
    (ht : takings d.journal = takings c.journal) (hg : d.generation = c.generation)
    (hf : d.worker.stage.post.flight = c.worker.stage.post.flight) (hc : d.coming <+: c.coming) :
    c.Trails d [] [] := by
  refine ⟨by simpa using hp, by simpa using ht, hc, ?_, fun _ => hg⟩
  rw [Client.left, Client.left, hf]
  exact (List.prefix_append_right_inj c.worker.stage.post.flight).mpr hc

/-- Nothing is said, and nothing is left. -/
theorem Trails.over (hp : passings d.journal = passings c.journal)
    (ht : takings d.journal = takings c.journal) (hl : d.left = []) : c.Trails d [] [] := by
  have hc : d.coming = [] := (List.append_eq_nil_iff.mp hl).2
  refine ⟨by simpa using hp, by simpa using ht, ?_, ?_, fun hd => absurd hl hd⟩
  · rw [hc]
    exact List.nil_prefix
  · rw [hl]
    exact List.nil_prefix

theorem Deed.trails (hd : Deed e c os d) (hc : c.Signalled) (ht : c.shared.cancelled = true) :
    ∃ said taken, c.Trails d said taken := by
  have hp : passings d.journal = passings c.journal ++ os.filterMap Occurrence.passing? :=
    hd.shown fun _ _ => rfl
  have htk : takings d.journal = takings c.journal ++ os.filterMap Occurrence.taking? :=
    hd.shown fun _ _ => rfl
  have quiet {α : Type} {l m : List α} (hq : l = m ++ []) : l = m := hq.trans (List.append_nil m)
  have asked := hc.told ht
  cases hd with
  | replay _ topic topics hw =>
    refine ⟨[.ofReplay topic], [], hp, htk, ?_, ?_, fun _ => rfl⟩ <;>
      simp [Client.coming, Client.left, hw, beginWrite, goTo, Stage.post, Activity.post, Post.owed,
        Post.flight, Sequel.rest?]
  | execute l w command cs hw hq hcs hg =>
    have hcoming := coming_of_command hw ht hq hcs hg
    refine ⟨[command.outgoing], [], hp, htk, ?_, ?_, fun _ => rfl⟩
    · rw [hcoming]
      exact List.prefix_refl _
    · rw [Client.left, Client.left, hcoming, hw]
      exact List.prefix_refl _
  | beat l w heartbeat hw hq =>
    have hcoming := coming_of_heartbeat hw ht hq
    refine ⟨[.heartbeat], [], hp, htk, ?_, ?_, fun _ => rfl⟩
    · rw [hcoming]
      exact List.prefix_refl _
    · rw [Client.left, Client.left, hcoming, hw]
      exact List.prefix_refl _
  | written _ o s _ hw =>
    refine ⟨[], [o], hp, htk, ?_, ?_, fun _ => rfl⟩ <;> cases s <;>
      simp [Client.coming, Client.left, remaining, hw, log, note, goTo, Stage.post, Activity.post, Post.owed,
        Post.flight, Sequel.rest?, Sequel.activity]
  | announce _ _ ho => exact nomatch ho.symm.trans asked
  | direct _ _ _ hs =>
    rw [hs] at asked
    cases asked
  | tend l m a hw _ _ hm =>
    refine ⟨[], [], .quiet (quiet hp) (quiet htk) rfl (by rw [hw]; rfl) ?_⟩
    cases a with
    | listening w =>
      rw [coming_of_listening hw, coming_of_listening (c := { c with worker.stage := _ }) rfl]
      exact remaining_of_still rfl rfl rfl (Nat.le_refl _) id fun hq => hm hq.1 hq.2
    | _ =>
      simp only [Client.coming, hw]
      exact List.prefix_refl _
  | look b _ hl hb =>
    exact ⟨[], [], .quiet (quiet hp) (quiet htk) rfl rfl (coming_lookAt ht hl hb)⟩
  | rest | refuse | close | closeAgain | signal | read | readEnd | dropStream =>
    exact ⟨[], [], .quiet (quiet hp) (quiet htk) rfl rfl (List.prefix_refl _)⟩
  | drop _ _ _ hw =>
    refine ⟨[], [], .quiet (quiet hp) (quiet htk) rfl rfl ?_⟩
    simp only [Client.coming, lookAt, log, hw]
    exact List.prefix_refl _
  | ask _ _ _ _ _ hcs =>
    have hq := (hcs (ConnectionState.not_connected asked)).2
    exact ⟨[], [], .quiet (quiet hp) (quiet htk) rfl rfl
      (coming_of_still rfl rfl hq rfl (Nat.le_refl _) id)⟩
  | clone h0 =>
    exact ⟨[], [], .quiet (quiet hp) (quiet htk) rfl rfl
      (coming_of_still rfl rfl rfl rfl (Nat.le_refl _) fun _ => h0)⟩
  | dropHandle h0 =>
    exact ⟨[], [], .quiet (quiet hp) (quiet htk) rfl rfl
      (coming_of_still rfl rfl rfl rfl (Nat.le_refl _) fun _ => h0)⟩
  | pass nanos =>
    exact ⟨[], [], .quiet (quiet hp) (quiet htk) rfl rfl
      (coming_of_still rfl rfl rfl rfl (Nat.le_add_right _ _) id)⟩
  | latePatience _ _ a | hangUp _ _ _ a =>
    cases a <;> exact ⟨[], [], .over (quiet hp) (quiet htk) rfl⟩
  | _ => exact ⟨[], [], .over (quiet hp) (quiet htk) rfl⟩

theorem Reachable.trails {es : List Event} (h : Reachable config tokens c)
    (ht : c.shared.cancelled = true) (hr : c.run es = some d) : ∃ said taken, c.Trails d said taken := by
  refine (h.keep (P := fun b => b.shared.cancelled = true ∧ ∃ said taken, c.Trails b said taken) hr
    ⟨ht, _, _, .refl c⟩ fun _ hb hd ih => ?_).2
  obtain ⟨hbt, said, taken, hs⟩ := ih
  obtain ⟨said', taken', hs'⟩ := hd.trails hb.signalled hbt
  exact ⟨hd.keepsSignal hbt, _, _, hs.trans hs'⟩

/-! ### What may be said is said in some run -/

/-- The next topic of the replay is asked for again. -/
theorem run_replay {l : Link} {topic : Topic} {topics : List Topic}
    (hw : c.worker.stage = .session l (.replaying (topic :: topics))) :
    c.run [.work 0] = some (c.beginWrite l (.ofReplay topic) (.replay topics)) := by
  have hs : c.step (.work 0) = some (c.beginWrite l (.ofReplay topic) (.replay topics)) := by
    change c.work 0 = _
    unfold work
    rw [hw]
    rfl
  rw [run, hs]
  rfl

/-- A connection with room takes the message that is on its way. -/
theorem run_endWrite {l : Link} {o : Outgoing} {s : Sequel}
    (hw : c.worker.stage = .session l (.writing o s)) : ∃ d m,
      c.run [.limit 1 .closed, .work 0] = some d ∧ d.worker.stage = .session m s.activity ∧
        passings d.journal = passings c.journal ∧ d.generation = c.generation := by
  let m : Link := { l with room := some 1, refusal := .closed }
  let b : Client := { c with worker.stage := .session m (.writing o s) }
  have hl : c.step (.limit 1 .closed) = some b := by
    change c.onLink _ = _
    unfold onLink
    rw [hw]
  have hr : c.run [.limit 1 .closed, .work 0] = some (b.endWrite m o s) := by
    rw [run, hl]
    rfl
  have hroom : m.room ≠ some 0 := by simp [m]
  rw [endWrite, if_neg hroom, reply_eq_log] at hr
  refine ⟨_, { m with room := m.room.map (· - 1) }, hr, rfl, ?_, rfl⟩
  exact (view_answers Origin.isAnswer_answer (fun _ _ => rfl) _).trans
    ((view_cons _).trans (List.append_nil _))

/-- In some run a message is passed on next. -/
def MaySpeak (c : Client) : Prop := ∃ es d o,
  c.run es = some d ∧ passings d.journal = passings c.journal ++ [(c.generation, o)]

/-- While topics are left, the next one can be asked for again, if the connection takes the message that
is on its way. -/
theorem maySpeak_of_owed (h : c.worker.stage.post.owed ≠ []) : c.MaySpeak := by
  cases hw : c.worker.stage with
  | session l a =>
    rw [hw] at h
    match a with
    | .replaying (topic :: topics) => exact ⟨_, _, _, run_replay hw, view_cons _⟩
    | .writing o (.replay (topic :: topics)) =>
      obtain ⟨b, m, hr, hb, hp, hg⟩ := run_endWrite hw
      refine ⟨_, _, .ofReplay topic, run_of_append hr (run_replay hb), ?_⟩
      rw [← hp, ← hg]
      exact view_cons _
    | .replaying [] | .writing _ (.replay []) | .writing _ (.listen _) | .opening | .listening _ =>
      exact absurd rfl h
  | _ =>
    rw [hw] at h
    exact absurd rfl h

section round

variable {l : Link} {w : Watch} (hw : c.worker.stage = .session l (.listening w))
include hw

lemma MaySpeak.of_look {b : Branch} (hf : (Stage.session l (.listening w)).Follows c.worker.branch b)
    (hl : c.listenTo l w c.worker.branch = none) (h : (c.lookAt b).MaySpeak) : c.MaySpeak := by
  have hs : c.step .look = some (c.lookAt b) := by
    change c.lookOn = _
    unfold lookOn Worker.ahead
    rw [hw, funext (turnTo_session hw)]
    rcases follows_listening.mp hf with ⟨hb, rfl⟩ | ⟨hb, rfl⟩ | ⟨hb, rfl⟩ | ⟨hb, rfl⟩ <;> rw [hb] at hl ⊢ <;>
      simp [Stage.branches, hl]
  obtain ⟨es, d, o, hd, hp⟩ := h
  exact ⟨_, d, o, run_of_step hs hd, hp⟩

/-- At the heartbeat the worker sends one once it is due. -/
theorem maySpeak_at_heartbeat (hb : c.worker.branch = .heartbeat) : c.MaySpeak := by
  let b := c.pass w.heartbeat
  have hbw : b.worker.stage = .session l (.listening w) := hw
  have hdue : w.heartbeat ≤ b.now := Nat.le_add_left _ _
  have hbeat : b.listenTo l w .heartbeat = some (b.beginWrite l .heartbeat
      (.listen { w with heartbeat := nextHeartbeat w.heartbeat b.now b.config.heartbeat })) := if_pos hdue
  have hs : b.step (.work 0) = b.listenTo l w .heartbeat := by
    change b.work 0 = _
    rw [work_of_listening hbw, poll, Worker.ahead, hbw, funext (turnTo_session hbw),
      show b.worker.branch = .heartbeat from hb]
    simp [Stage.branches, hbeat]
  exact ⟨[.pass w.heartbeat, .work 0], _, _, run_of_step rfl (run_of_step (hs.trans hbeat) rfl), view_cons _⟩

lemma maySpeak_at_patience (hb : c.worker.branch = .patience) (ht : c.now < w.idle) : c.MaySpeak := by
  have hnext : (c.lookAt .heartbeat).MaySpeak := maySpeak_at_heartbeat (l := l) (w := w) hw rfl
  refine .of_look hw (follows_listening.mpr (by simp [hb])) ?_ hnext
  rw [hb]
  exact listenTo_patience_eq_none.mpr ht

lemma maySpeak_at_frame (hb : c.worker.branch = .frame) (hl : l.IsQuiet) (ht : c.now < w.idle) :
    c.MaySpeak := by
  have hnext : (c.lookAt .patience).MaySpeak := maySpeak_at_patience (l := l) (w := w) hw rfl ht
  refine .of_look hw (follows_listening.mpr (by simp [hb])) ?_ hnext
  rw [hb]
  exact listenTo_frame_eq_none.mpr hl

lemma maySpeak_at_queue (hb : c.worker.branch = .queue) (hq : c.commands = []) (h0 : c.handles ≠ 0)
    (hl : l.IsQuiet) (ht : c.now < w.idle) : c.MaySpeak := by
  have hnext : (c.lookAt .frame).MaySpeak := maySpeak_at_frame (l := l) (w := w) hw rfl hl ht
  refine .of_look hw (follows_listening.mpr (by simp [hb])) ?_ hnext
  rw [hb]
  exact listenTo_queue_eq_none.mpr ⟨hq, h0⟩

lemma maySpeak_of_command {command : Command} {cs : List Command} (hb : c.worker.branch = .queue)
    (hq : c.commands = command :: cs) (hg : command.generation = c.generation) : c.MaySpeak := by
  have ht : c.listenTo l w .queue =
      some ({ c with commands := cs }.beginWrite l command.outgoing (.listen w)) := by
    simp only [listenTo, hq]
    exact congrArg some (if_pos hg)
  have hs : c.step (.work 0) = c.listenTo l w .queue := by
    change c.work 0 = _
    rw [work_of_listening hw, poll, Worker.ahead, hw, funext (turnTo_session hw), hb]
    simp [Stage.branches, ht]
  exact ⟨[.work 0], _, _, run_of_step (hs.trans ht) rfl, view_cons _⟩

lemma maySpeak_of_remaining (h : c.remaining l w ≠ []) : c.MaySpeak := by
  unfold remaining at h
  split at h
  · rename_i hb
    split at h
    · rename_i hq
      exact maySpeak_of_command hw hb hq (ite_ne_right_iff.mp h).1
    · rename_i hq
      obtain ⟨h0, hl, ht⟩ := (ite_ne_right_iff.mp h).1
      exact maySpeak_at_queue hw hb hq h0 hl ht
  · rename_i hb
    obtain ⟨hl, ht⟩ := (ite_ne_right_iff.mp h).1
    exact maySpeak_at_frame hw hb hl ht
  · rename_i hb
    exact maySpeak_at_patience hw hb (ite_ne_right_iff.mp h).1
  · rename_i hb
    exact maySpeak_at_heartbeat hw hb
  · exact absurd rfl h

end round

theorem maySpeak_of_coming (h : c.coming ≠ []) : c.MaySpeak := by
  unfold coming at h
  split at h
  · exact maySpeak_of_remaining ‹_› h
  · exact maySpeak_of_owed (mt (congrArg (List.map Outgoing.ofReplay)) h)

/-- What may still be begun, and taken, once a close was signalled, whatever happens later. -/
structure FallsSilent (c : Client) : Prop where
  rest : ∀ es d, c.run es = some d → ∃ said taken, said <+: c.coming ∧ taken <+: c.left ∧
    passings d.journal = passings c.journal ++ said.map (c.generation, ·) ∧
    takings d.journal = takings c.journal ++ taken.map (c.generation, ·)
  silent : (∀ es d, c.run es = some d → passings d.journal = passings c.journal) ↔ c.coming = []

theorem falls_silent (h : Reachable config tokens c) (ht : c.shared.cancelled = true) : c.FallsSilent := by
  refine ⟨fun es d hr => ?_, fun hall => by_contra fun hn => ?_, fun hn es d hr => ?_⟩
  · obtain ⟨said, taken, hs⟩ := h.trails ht hr
    exact ⟨said, taken, (List.prefix_append _ _).trans hs.coming, (List.prefix_append _ _).trans hs.left,
      hs.passes, hs.takes⟩
  · obtain ⟨es, d, o, hr, hp⟩ := maySpeak_of_coming hn
    rw [hall es d hr] at hp
    simp at hp
  · obtain ⟨said, taken, hs⟩ := h.trails ht hr
    have hsaid : said = [] := by
      have hcoming := hs.coming
      rw [hn] at hcoming
      exact (List.append_eq_nil_iff.mp (List.prefix_nil.mp hcoming)).1
    rw [hs.passes, hsaid]
    exact List.append_nil _

/-- Two topics are wanted, and a close is signalled while the first of them is asked for again. -/
def interruptedRun : List Event :=
  [.request ⟨.balances, .subscribe⟩, .request ⟨.myOrders, .subscribe⟩, .work 0, .work 0,
    .dialAnswer (.link none), .work 0, .work 0, .close .normal, .signal]

theorem interrupted_falls_silent : ∃ c, (initial .loopback fun _ => none).run interruptedRun = some c ∧
    c.state = .closing ∧ c.left = [.ofReplay .balances, .ofReplay .myOrders] ∧
    c.coming = [.ofReplay .myOrders] ∧ c.FallsSilent := by
  have hr : ((initial .loopback fun _ => none).run interruptedRun).map
      (fun c => (c.state, c.shared.cancelled, c.left, c.coming)) =
        some (.closing, true, [.ofReplay .balances, .ofReplay .myOrders], [.ofReplay .myOrders]) := by
    decide +kernel
  obtain ⟨c, hc, hv⟩ := Option.map_eq_some_iff.mp hr
  simp only [Prod.mk.injEq] at hv
  exact ⟨c, hc, hv.1, hv.2.2.1, hv.2.2.2, falls_silent (.ofRun hc) hv.2.1⟩

/-- Once the connection took the first request, the second one is begun, although a close was signalled
before. -/
theorem interrupted_goes_on : ¬ ∀ (config : Config) (tokens : Nat → Option String) (c d : Client)
    (es : List Event), Reachable config tokens c → c.state = .closing → c.shared.cancelled = true →
      c.run es = some d → passings d.journal = passings c.journal := by
  intro hall
  have hr : (((initial .loopback fun _ => none).run interruptedRun).bind fun c =>
      (c.run [.work 0, .work 0]).map fun d =>
        (c.state, c.shared.cancelled, (passings c.journal).length, (passings d.journal).map (·.2))) =
          some (.closing, true, 1, [.ofReplay .balances, .ofReplay .myOrders]) := by
    decide +kernel
  obtain ⟨c, hc, hd⟩ := Option.bind_eq_some_iff.mp hr
  obtain ⟨d, hd, hv⟩ := Option.map_eq_some_iff.mp hd
  simp only [Prod.mk.injEq] at hv
  obtain ⟨hs, ht, hp, hq⟩ := hv
  have heq := congrArg (·.map (·.2)) (hall .loopback _ c d _ (.ofRun hc) hs ht hd)
  have hlen := congrArg List.length (hq.symm.trans heq)
  rw [List.length_map, hp] at hlen
  cases hlen

end Client

end MarketFeed
