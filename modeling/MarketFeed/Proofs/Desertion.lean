import MarketFeed.Proofs.Closing
import MarketFeed.Proofs.Delays
import MarketFeed.Proofs.Rounding

/-!
What becomes of a client that nobody holds any more. The worker notices where it looks at the queue, in a
session and in a pause, and leaves. It does not look in an attempt. In a pause it looks at the clock
first; so a pause that takes no time goes by unnoticed, and then the next attempt does.
-/

namespace MarketFeed

open History

/-- How far an attempt has still to go at a stage until there is a session: it is announced, a connection
is asked for, and handed over. No attempt follows a pause that the worker began with nobody there. -/
def Stage.way (rested : Bool) : Stage → Nat
  | starting => 3
  | pausing _ => if rested then 0 else 3
  | calling => 2
  | dialing _ => 1
  | _ => 0

/-- The step of that way that was taken. -/
def Occurrence.wayStep : Occurrence → Nat
  | published (.connecting _) => 3
  | dialed .. => 2
  | opened .. => 1
  | _ => 0

def Occurrence.isAttempt : Occurrence → Bool
  | published (.connecting _) => true
  | _ => false

def Occurrence.isSession : Occurrence → Bool
  | opened .. => true
  | _ => false

lemma Occurrence.isAttempt_eq (o : Occurrence) : o.isAttempt = decide (o.wayStep = 3) := by
  cases o with
  | published s => cases s <;> rfl
  | _ => rfl

lemma Occurrence.dial?_isSome_eq (o : Occurrence) : o.dial?.isSome = decide (o.wayStep = 2) := by
  cases o with
  | published s => cases s <;> rfl
  | _ => rfl

lemma Occurrence.isSession_eq (o : Occurrence) : o.isSession = decide (o.wayStep = 1) := by
  cases o with
  | published s => cases s <;> rfl
  | _ => rfl

def Occurrence.isPause : Occurrence → Bool
  | paused .. => true
  | _ => false

/-- How many steps the worker takes at most at a stage until the end, with nobody there to ask for more, when so
many topics are wanted and so many commands are queued: it announces an attempt, connects, asks for the
topics again, executes the commands, or drops them in the wait before the next attempt, sees in either
select that the queue is closed, and ends its work. A message takes two steps, one until it is passed on and
one until the connection takes it. -/
def Stage.toEnd (topics commands : Nat) (rested : Bool) : Stage → Nat
  | starting => 10 + 2 * topics + 2 * commands
  | calling => 9 + 2 * topics + 2 * commands
  | dialing _ => 8 + 2 * topics + 2 * commands
  | session _ .opening => 7 + 2 * topics + 2 * commands
  | session _ (.replaying rest) => 6 + 2 * rest.length + 2 * commands
  | session _ (.writing _ (.replay rest)) => 7 + 2 * rest.length + 2 * commands
  | session _ (.writing _ (.listen _)) => 6 + 2 * commands
  | session _ (.listening _) => 5 + 2 * commands
  | ending _ => 4 + commands
  | pausing _ => if rested then 3 + commands else 11 + 2 * topics + 2 * commands
  | leaving => 2
  | releasing => 1
  | gone => 0

namespace Stage

variable {p : Stage} {topics commands : Nat} {rested : Bool}

lemma toEnd_le_two (h : p.isDeparted = true) : p.toEnd topics commands rested ≤ 2 := by
  cases p <;> simp_all [isDeparted, toEnd]

lemma two_lt_toEnd (h : p.isDeparted = false) : 2 < p.toEnd topics commands rested := by
  unfold toEnd
  split <;> first | omega | (split <;> omega) | cases h

lemma toEnd_ending_lt (h : p.isUnderway = true) (cause : TransportFault) (wanted : Nat)
    (after : Bool) : (ending cause).toEnd wanted commands after < p.toEnd topics commands rested := by
  change 4 + commands < _
  unfold toEnd
  split <;> first | omega | cases h

end Stage

lemma Instant.lt_deadline {t : Instant} {d : Duration} (h : 0 < d.nanos) : t < t.deadline d := by
  unfold deadline add?
  split
  · exact Nat.lt_add_of_pos_right h
  · exact Nat.lt_add_of_pos_right (by decide : 0 < far)

lemma Instant.zero_deadline {d : Duration} (h : d.nanos = 0) : (0 : Instant).deadline d = 0 := by
  unfold deadline add?
  rw [h]
  rfl

namespace BackoffPolicy

variable {p : BackoffPolicy}

lemma base_pos (hv : p.fault? = none) (h : 0 < p.initial.nanos) (n : Nat) : 0 < (p.base n).nanos := by
  induction n with
  | zero => exact h
  | succ n ih => exact grow_pos hv h ih

theorem Allows.base_le {base delay : Duration} (h : p.Allows base delay) : base.nanos ≤ delay.nanos := by
  unfold Allows at h
  split at h
  · exact h.1
  · exact Nat.le_of_eq (congrArg Duration.nanos h.symm)

end BackoffPolicy

lemma Backoff.delay_ofPolicy_zero {p : BackoffPolicy} (h : p.initial.nanos = 0) (extra : Nat) :
    ((ofPolicy p).delay extra).nanos = 0 := by
  cases p with
  | fixed d => exact h
  | exponential initial greatest multiplier jitter =>
    cases jitter with
    | false => exact h
    | true =>
      have hd : (ofPolicy (.exponential initial greatest multiplier true)).delay extra = initial :=
        if_pos (decide_eq_true h)
      rw [hd]
      exact h

namespace ReconnectPolicy

/-- Whether no wait before an attempt is over when it begins: both delays are above zero, or the first loss is
the last. -/
def TakesTime (r : ReconnectPolicy) : Prop :=
  r.maxAttempts = some 0 ∨ 0 < r.backoff.initial.nanos ∧ 0 < r.maintenanceDelay.nanos

lemma Schedules.pos {r : ReconnectPolicy} {growth : Nat} {cause : TransportFault} {delay : Duration}
    (h : r.Schedules growth cause delay) (hv : r.backoff.fault? = none)
    (hr : 0 < r.backoff.initial.nanos ∧ 0 < r.maintenanceDelay.nanos) : 0 < delay.nanos := by
  unfold Schedules at h
  split at h
  · rw [h]
    exact hr.2
  · exact Nat.lt_of_lt_of_le (BackoffPolicy.base_pos hv hr.1 growth) h.base_le

end ReconnectPolicy

theorem History.mem_states {s : ConnectionState} {j : List Entry} :
    s ∈ states j ↔ .published s ∈ happened j := by
  rw [states, ← filterMap_happened fun _ _ => rfl, List.mem_filterMap]
  refine ⟨fun ⟨o, ho, hs⟩ => ?_, fun h => ⟨_, h, rfl⟩⟩
  cases o with
  | published t =>
    cases hs
    exact ho
  | _ => cases hs

namespace Client

variable {b c d : Client} {e : Event} {os : List Occurrence} {config : Config}
  {tokens : Nat → Option String}

/-- What happened since an earlier time of the same client. -/
def since (c d : Client) : List Occurrence := (happened d.journal).drop (happened c.journal).length

/-- Whether a pause has begun since. -/
def rested (c d : Client) : Bool := (c.since d).any (·.isPause)

/-- In a round in which the worker looked at the queue before, it may pass one message more on. -/
def toEnd (c : Client) (rested : Bool) : Nat :=
  c.worker.stage.toEnd c.shared.registry.topics.length c.commands.length rested +
    if c.worker.branch.isPastQueue then 2 else 0

lemma since_self (c : Client) : c.since c = [] := List.drop_length

lemma since_append (h : happened c.journal <+: happened b.journal)
    (ha : happened d.journal = happened b.journal ++ os) : c.since d = c.since b ++ os := by
  rw [since, since, ha, List.drop_append_of_le_length h.length_le]

theorem Deed.rested (hd : Deed e b os d) (h : happened c.journal <+: happened b.journal) :
    c.rested d = (c.rested b || os.any (·.isPause)) := by
  rw [Client.rested, since_append h hd.adds, List.any_append, Client.rested]

/-! ### One deed -/

/-- Whether a step of the way may still come, as a number. -/
def ahead (k n : Nat) : Nat := if k ≤ n then 1 else 0

lemma ahead_zero {k : Nat} (hk : 0 < k) : ahead k 0 = 0 := if_neg (Nat.not_le_of_lt hk)

lemma ahead_le_one (k n : Nat) : ahead k n ≤ 1 := by
  unfold ahead
  split <;> decide

lemma ahead_mono {k m n : Nat} (h : m ≤ n) : ahead k m ≤ ahead k n := by
  unfold ahead
  split <;> split <;> omega

/-- A step that is taken was ahead and is not any more. -/
theorem countP_add_ahead {o : Occurrence} {n : Nat} (k : Nat) (ho : o.wayStep = n + 1) :
    [o].countP (·.wayStep = k) + ahead k n ≤ ahead k (n + 1) := by
  rw [List.countP_singleton, ho]
  simp only [ahead, decide_eq_true_eq]
  grind

/-- Where no step is taken, none has to be put ahead. -/
theorem countP_add_ahead_le {k m n : Nat} (hk : 0 < k) (ho : ∀ o ∈ os, o.wayStep = 0) (h : m ≤ n) :
    os.countP (·.wayStep = k) + ahead k m ≤ ahead k n := by
  have hnone : os.countP (·.wayStep = k) = 0 := by
    refine List.countP_eq_zero.mpr fun o hm => ?_
    have hne : o.wayStep ≠ k := by
      rw [ho o hm]
      exact Nat.ne_of_lt hk
    simpa using hne
  rw [hnone, Nat.zero_add]
  exact ahead_mono h

/-- A step of the way is taken once, and none is taken from a pause that is not over. -/
theorem Deed.way_le {rested : Bool} {k : Nat} (hd : Deed e c os d) (hk : 0 < k)
    (hr : ∀ deadline, c.worker.stage = .pausing deadline → rested = true → c.now < deadline) :
    os.countP (·.wayStep = k) + ahead k (d.worker.stage.way (rested || os.any (·.isPause))) ≤
      ahead k (c.worker.stage.way rested) := by
  have off (hz : d.worker.stage.way (rested || os.any (·.isPause)) = 0) :
      d.worker.stage.way (rested || os.any (·.isPause)) ≤ c.worker.stage.way rested := by
    rw [hz]
    exact Nat.zero_le _
  -- The deeds of the way take its steps, those of callers leave the worker where it is, and the others
  -- take it to where no step is ahead.
  cases hd with
  | rest | ask | direct | refuse | close | closeAgain | signal | clone | dropHandle | read | readEnd
  | dropStream | pass | look | drop =>
    refine countP_add_ahead_le hk (by simp [Occurrence.wayStep]) (Nat.le_of_eq ?_)
    exact congrArg c.worker.stage.way (Bool.or_false rested)
  | meet _ _ hw | dial _ hw | attempt hw =>
    rw [hw]
    exact countP_add_ahead k rfl
  | wake deadline hw hd =>
    have hf : rested = false := Bool.eq_false_iff.mpr fun ht => Nat.not_le_of_lt (hr deadline hw ht) hd
    rw [hw, hf]
    exact Nat.le_of_eq (Nat.zero_add _)
  | pause | pauseQuietly =>
    refine countP_add_ahead_le hk (by simp [Occurrence.wayStep]) (off ?_)
    simp [goTo, note, Stage.way, Occurrence.isPause]
  | latePatience _ _ a | hangUp _ _ _ a =>
    cases a <;> exact countP_add_ahead_le hk (by simp [Occurrence.wayStep]) (off rfl)
  | _ => exact countP_add_ahead_le hk (by simp [Occurrence.wayStep]) (off rfl)

lemma toEnd_of_signal {rested : Bool} (h : d.worker.branch = .signal) : d.toEnd rested =
    d.worker.stage.toEnd d.shared.registry.topics.length d.commands.length rested := by
  rw [toEnd, h]
  rfl

lemma toEnd_past_queue {rested : Bool} (h : c.worker.branch.isPastQueue = true) : c.toEnd rested =
    c.worker.stage.toEnd c.shared.registry.topics.length c.commands.length rested + 2 := by
  rw [toEnd, h]
  rfl

lemma le_toEnd (c : Client) (rested : Bool) :
    c.worker.stage.toEnd c.shared.registry.topics.length c.commands.length rested ≤ c.toEnd rested :=
  Nat.le_add_right _ _

/-- A look at a branch where there is nothing does not put off the end. -/
theorem toEnd_lookAt_le {b : Branch} (hl : c.turnTo c.worker.branch = none)
    (hb : b = .signal ∨ c.worker.stage.Follows c.worker.branch b) (h0 : c.handles = 0) (rested : Bool) :
    (c.lookAt b).toEnd rested ≤ c.toEnd rested := by
  cases hp : b.isPastQueue with
  | false =>
    have hend : (c.lookAt b).toEnd rested = c.worker.stage.toEnd
        c.shared.registry.topics.length c.commands.length rested := by
      rw [toEnd, show (c.lookAt b).worker.branch.isPastQueue = false from hp]
      rfl
    rw [hend]
    exact c.le_toEnd rested
  | true =>
    have hf : c.worker.stage.Follows c.worker.branch b := hb.resolve_left fun hs => nomatch hs ▸ hp
    rw [toEnd_past_queue (past_queue_of_follows hf hl h0 hp)]
    exact Nat.le_of_eq (toEnd_past_queue hp)

/-- The end is nearer when the worker goes on to a stage that is nearer to it. -/
theorem toEnd_lt_of_stage {before after : Bool} (hb : d.worker.branch = .signal)
    (h : d.worker.stage.toEnd d.shared.registry.topics.length d.commands.length after <
      c.worker.stage.toEnd c.shared.registry.topics.length c.commands.length before) :
    d.toEnd after < c.toEnd before := by
  rw [toEnd_of_signal hb]
  exact Nat.lt_of_lt_of_le h (c.le_toEnd before)

lemma toEnd_lt_of_departed {before after : Bool} (hb : d.worker.branch = .signal)
    (hd : d.worker.stage.isDeparted = true) (hc : c.worker.stage.isDeparted = false) :
    d.toEnd after < c.toEnd before :=
  toEnd_lt_of_stage hb (Nat.lt_of_le_of_lt (Stage.toEnd_le_two hd) (Stage.two_lt_toEnd hc))

lemma toEnd_lt_of_ending {before after : Bool} {cause : TransportFault} (hb : d.worker.branch = .signal)
    (hd : d.worker.stage = .ending cause) (hq : d.commands = c.commands)
    (hu : c.worker.stage.isUnderway = true) : d.toEnd after < c.toEnd before := by
  refine toEnd_lt_of_stage hb ?_
  rw [hd, hq]
  exact Stage.toEnd_ending_lt hu cause _ _

/-- What a round has still to bring after the look at the queue is counted. -/
theorem toEnd_of_comes {l : Link} {w : Watch} {b : Branch} (hw : c.worker.stage = .session l (.listening w))
    (hb : c.Comes b) (hp : b.isPastQueue = true) (h0 : c.handles = 0) (rested : Bool) :
    c.toEnd rested = 7 + 2 * c.commands.length := by
  rw [toEnd_past_queue (hb.past_queue h0 hp), hw]
  change 5 + _ + 2 = _
  omega

/-- Once nobody has a handle, a step of the worker brings the end nearer, and nothing puts it off. -/
theorem Deed.toEnd_lt {rested : Bool} (hd : Deed e c os d) (h0 : c.handles = 0)
    (hr : ∀ deadline, c.worker.stage = .pausing deadline → rested = true → c.now < deadline) :
    e.isWork = false ∧ d.toEnd (rested || os.any (·.isPause)) ≤ c.toEnd rested ∨
      d.toEnd (rested || os.any (·.isPause)) < c.toEnd rested := by
  have still (hs : d.worker = c.worker) (ht : d.shared.registry = c.shared.registry)
      (hc : d.commands = c.commands) (hp : os.any (·.isPause) = false) :
      d.toEnd (rested || os.any (·.isPause)) ≤ c.toEnd rested := by
    rw [hp, Bool.or_false, toEnd, toEnd, hs, ht, hc]
  cases hd with
  | ask _ _ _ _ hn | direct _ _ hn | clone hn | dropHandle hn => exact absurd h0 hn
  | close _ _ hn => exact absurd h0 hn
  | rest hq | refuse _ _ _ hq | closeAgain _ _ hq | signal _ hq | readEnd _ _ hq =>
    exact .inl ⟨hq, still rfl rfl rfl rfl⟩
  | read _ _ he | dropStream he | pass _ he => exact .inl ⟨he ▸ rfl, still rfl rfl rfl rfl⟩
  | tend l m a hw _ hq =>
    refine .inl ⟨hq, Nat.le_of_eq ?_⟩
    rw [toEnd, toEnd, hw]
    cases a with
    | writing o s => cases s <;> rfl
    | _ => rfl
  | look b he hl hb =>
    refine .inl ⟨he ▸ rfl, ?_⟩
    rw [List.any_nil, Bool.or_false]
    exact toEnd_lookAt_le hl hb h0 rested
  | deliver l m w _ _ _ _ _ hw _ _ _ _ _ hb | withhold l m w _ _ _ _ _ _ _ hw _ _ _ _ _ hb
  | misread l m w _ _ _ hw _ _ _ _ _ hb | beat _ _ _ hw hb =>
    rw [toEnd_of_comes hw hb rfl h0, toEnd_of_signal rfl]
    exact .inr (Nat.add_lt_add_right (by decide) _)
  | meet _ _ hw | dial _ hw | attempt hw | announce _ hw | replay _ _ _ hw | listen _ _ hw
  | finish hw | release _ hw =>
    refine .inr (toEnd_lt_of_stage rfl ?_)
    rw [hw]
    simp only [Stage.toEnd, goTo, note, publish, beginWrite, log, settle, Link.fresh, List.length_cons,
      List.length_nil]
    omega
  | written _ _ s _ hw =>
    refine .inr (toEnd_lt_of_stage rfl ?_)
    rw [hw]
    cases s <;> simp only [Stage.toEnd, goTo, note, log, Sequel.activity] <;> omega
  | execute _ _ _ _ hw _ hc | skip _ _ _ _ hw _ hc =>
    refine .inr (toEnd_lt_of_stage rfl ?_)
    rw [hw, hc]
    simp only [Stage.toEnd, goTo, note, beginWrite, log, List.length_cons]
    omega
  | pause _ _ _ hw | pauseQuietly _ _ _ hw =>
    refine .inr (toEnd_lt_of_stage rfl ?_)
    rw [hw]
    simp [Stage.toEnd, goTo, note, publish, settle, Occurrence.isPause]
  | wake deadline hw hd =>
    have hf : rested = false := Bool.eq_false_iff.mpr fun ht => Nat.not_le_of_lt (hr deadline hw ht) hd
    refine .inr (toEnd_lt_of_stage rfl ?_)
    rw [hw, hf]
    simp only [Stage.toEnd, goTo, Bool.false_eq_true, if_false]
    omega
  | drop _ _ _ hw hc =>
    refine .inr (toEnd_lt_of_stage rfl ?_)
    rw [hw, hc]
    simp only [Stage.toEnd, lookAt, log, hw, List.any_nil, Bool.or_false, List.length_cons]
    split <;> omega
  | crash _ _ hw => exact .inr (toEnd_lt_of_departed rfl rfl (Stage.not_departed_of_awaits hw))
  | leave _ _ hw => rcases hw with hw | hw | hw <;> exact .inr (toEnd_lt_of_departed rfl rfl (by rw [hw]; rfl))
  | abandon hw | decline _ hw | lateHeartbeat _ hw | depart _ _ hw | departLate _ _ hw | departAlone _ _ hw
  | giveUp _ hw | giveUpQuietly _ hw | leaveAlone _ hw =>
    exact .inr (toEnd_lt_of_departed rfl rfl (by rw [hw]; rfl))
  | latePatience _ _ a hw => cases a <;> exact .inr (toEnd_lt_of_departed rfl rfl (by rw [hw]; rfl))
  | failAttempt _ _ hw => rcases hw with hw | hw <;> exact .inr (toEnd_lt_of_ending rfl rfl rfl (by rw [hw]; rfl))
  | refused _ _ _ hw | despair _ _ _ _ hw | idle _ _ hw =>
    exact .inr (toEnd_lt_of_ending rfl rfl rfl (by rw [hw]; rfl))
  | hangUp _ _ _ a hw => cases a <;> exact .inr (toEnd_lt_of_ending rfl rfl rfl (by rw [hw]; rfl))

/-! ### Pauses that take time -/

theorem Deed.deserted (hd : Deed e c os d) (h0 : c.handles = 0) : d.handles = 0 := by
  cases hd with
  | clone hn | dropHandle hn => exact absurd h0 hn
  | latePatience _ _ a | hangUp _ _ _ a => cases a <;> exact h0
  | _ => exact h0

/-- Nobody asks for a close any more that would be recorded. -/
theorem Deed.unasked (hd : Deed e c os d) (h0 : c.handles = 0) :
    os.filterMap Occurrence.closes? = [] := by
  cases hd with
  | close _ _ hn => exact absurd h0 hn
  | closeAgain frame ht => simp [Occurrence.closes?, ht]
  | latePatience _ _ a | hangUp _ _ _ a => cases a <;> rfl
  | _ => rfl

theorem Reachable.isValid (h : Reachable config tokens c) : config.isValid = true := by
  induction h with
  | initial hv => exact hv
  | step _ _ _ ih => exact ih

/-- A pause is not over when it begins. -/
theorem Reachable.now_lt_deadline {cause : TransportFault} {chance : Nat} {delay : Duration} {b : Backoff}
    (h : Reachable config tokens c) (ht : config.reconnect.TakesTime)
    (hw : c.worker.stage = .ending cause) (hg : c.givesUp = false)
    (hd : c.delayAfter cause chance = (delay, b)) : c.now < c.now.deadline delay := by
  have hs := h.paced.schedules hw hd
  rw [givesUp, h.config_eq] at hg
  rw [h.config_eq] at hs
  rcases ht with hz | hi
  · rw [hz] at hg
    cases hg
  · exact Instant.lt_deadline (hs.pos (Config.backoff_of_isValid h.isValid) hi)

theorem Deed.pauses (hd : Deed e c os d) (ho : os.any (·.isPause) = true) :
    ∃ cause delay b chance, c.worker.stage = .ending cause ∧ c.givesUp = false ∧
      c.delayAfter cause chance = (delay, b) ∧ d.worker.stage = .pausing (c.now.deadline delay) ∧
        d.now = c.now := by
  cases hd with
  | pause cause delay b hw _ hg chance hc | pauseQuietly cause delay b hw _ hg chance hc =>
    exact ⟨cause, delay, b, chance, hw, hg, hc, rfl, rfl⟩
  | latePatience _ _ a | hangUp _ _ _ a => cases a <;> cases ho
  | _ => cases ho

/-- A pause that is not over goes on, or the worker leaves. -/
theorem Deed.resting {deadline : Instant} (hd : Deed e c os d) (hw : c.worker.stage = .pausing deadline)
    (hlt : c.now < deadline) (hp : ∀ nanos, e ≠ .pass nanos) :
    d.worker.stage.isDeparted = true ∨ d.worker.stage = .pausing deadline ∧ d.now < deadline := by
  have away {p : Stage} (hs : c.worker.stage = p) (hne : p ≠ .pausing deadline) : False :=
    hne (hs.symm.trans hw)
  cases hd with
  | rest | ask | direct | refuse | close | closeAgain | signal | clone | dropHandle | read | readEnd
  | dropStream | look | drop => exact .inr ⟨hw, hlt⟩
  | pass nanos he => exact absurd he (hp nanos)
  | leave | leaveAlone => exact .inl rfl
  | wake deadline hs hle =>
    cases hs.symm.trans hw
    exact absurd hle (Nat.not_le_of_lt hlt)
  | failAttempt _ _ hs => exact (hs.elim (away · nofun) (away · nofun)).elim
  | crash _ _ hs =>
    rw [hw] at hs
    cases hs
  | tend _ _ _ hs | meet _ _ hs | attempt hs | abandon hs | dial _ hs | announce _ hs | decline _ hs
  | replay _ _ _ hs | listen _ _ hs | lateHeartbeat _ hs | written _ _ _ _ hs | refused _ _ _ hs
  | depart _ _ hs | departLate _ _ hs | execute _ _ _ _ hs | skip _ _ _ _ hs | departAlone _ _ hs
  | latePatience _ _ _ hs | hangUp _ _ _ _ hs | deliver _ _ _ _ _ _ _ _ hs | withhold _ _ _ _ _ _ _ _ _ _ hs
  | misread _ _ _ _ _ _ hs | despair _ _ _ _ hs | idle _ _ hs | beat _ _ _ hs | pause _ _ _ hs
  | giveUp _ hs | pauseQuietly _ _ _ hs | giveUpQuietly _ hs | finish hs | release _ hs =>
    exact (away hs nofun).elim

/-- A worker that nobody is there for waits for the connector only. -/
theorem waits_of_deserted {chance : Nat} (h0 : c.handles = 0) (hn : c.step (.work chance) = none) :
    c.worker.stage = .gone ∨ ∃ deadline, c.worker.stage = .dialing deadline ∧
      c.shared.cancelled = false ∧ c.now < deadline := by
  change c.work chance = none at hn
  cases hw : c.worker.stage with
  | dialing deadline =>
    have hp : c.poll = none := by rwa [work, hw] at hn
    have hs : c.turnTo .signal = none := poll_eq_none hp (by simp [hw, Stage.branches])
    have ha : c.turnTo .answer = none := poll_eq_none hp (by simp [hw, Stage.branches])
    rw [turnTo_dialing hw] at hs ha
    exact .inr ⟨deadline, rfl, dialTo_signal_eq_none.mp hs, dialTo_answer_eq_none.mp ha⟩
  | pausing deadline =>
    have hp : c.poll = none := by rwa [work, hw] at hn
    have hq : c.turnTo .queue = none := poll_eq_none hp (by simp [hw, Stage.branches])
    rw [turnTo_pausing hw] at hq
    exact absurd h0 (pauseTo_queue_eq_none.mp hq).2
  | session l a =>
    rw [work, hw] at hn
    cases a with
    | listening w =>
      have hq : c.turnTo .queue = none := poll_eq_none hn (by simp [hw, Stage.branches])
      rw [turnTo_session hw] at hq
      exact absurd h0 (listenTo_queue_eq_none.mp hq).2
    | replaying rest => cases rest <;> cases hn
    | _ => cases hn
  | gone => exact .inl rfl
  | _ =>
    rw [work, hw] at hn
    cases hn

/-! ### Runs -/

/-- Time passes in a pause that has begun since only once the worker has nothing left to do there: it has
emptied the queue, and neither a signal to close nor the end of the queue is to be seen. -/
def Punctual (c : Client) (es : List Event) : Prop :=
  ∀ before nanos after b deadline, es = before ++ .pass nanos :: after → c.run before = some b →
    b.worker.stage = .pausing deadline → c.rested b = true → b.step (.work 0) = none

theorem punctual_of_not_mem {es : List Event} (h : ∀ nanos, .pass nanos ∉ es) : c.Punctual es := by
  intro before nanos after _ _ hes
  have hm : .pass nanos ∈ es := by
    rw [hes]
    exact List.mem_append_right _ List.mem_cons_self
  exact absurd hm (h nanos)

/-- A client that nobody holds any more, so many steps of its worker later. -/
structure Alone (c : Client) (steps : Nat) (b : Client) : Prop where
  later : happened c.journal <+: happened b.journal
  handles : b.handles = 0
  requests : closeRequests b.journal = closeRequests c.journal
  links : ∀ g n, c.Holds g n → b.Holds g n ∨ EndsLink g n (c.since b)
  /-- No signal is missed that was not missed before. -/
  heeds : ¬ c.MissesSignal → c.Faithful → ¬ b.MissesSignal ∧ b.Faithful
  /-- A pause that has begun since is not over. -/
  rests : c.rested b = true → b.worker.stage.isDeparted = true ∨
    ∃ deadline, b.worker.stage = .pausing deadline ∧ b.now < deadline
  way : ∀ k, 0 < k → (c.since b).countP (·.wayStep = k) + ahead k (b.worker.stage.way (c.rested b)) ≤
    ahead k (c.worker.stage.way false)
  toEnd : b.toEnd (c.rested b) + steps ≤ c.toEnd false

theorem Alone.start (h0 : c.handles = 0) : c.Alone 0 c := by
  have hs : c.rested c = false := by rw [rested, since_self, List.any_nil]
  refine ⟨List.prefix_refl _, h0, rfl, fun _ _ => .inl, fun hm hf => ⟨hm, hf⟩,
    fun hr => (nomatch hs.symm.trans hr), fun k _ => ?_, ?_⟩
  · rw [since_self, hs, List.countP_nil, Nat.zero_add]
  · rw [hs, Nat.add_zero]

lemma Alone.lt_deadline {n : Nat} (h : c.Alone n b) (deadline : Instant)
    (hw : b.worker.stage = .pausing deadline) (hr : c.rested b = true) : b.now < deadline := by
  rcases h.rests hr with hdep | ⟨u, hs, hlt⟩
  · rw [hw] at hdep
    cases hdep
  · cases hs.symm.trans hw
    exact hlt

/-- A pause takes its time, and no time passes before the worker sees that nobody is there. -/
theorem Alone.rests_deed {n : Nat} (h : c.Alone n b) (hd : Deed e b os d)
    (hb : Reachable config tokens b) (ht : config.reconnect.TakesTime)
    (hp : ∀ nanos deadline, e = .pass nanos → b.worker.stage = .pausing deadline → c.rested b = true →
      b.step (.work 0) = none) (hr : c.rested d = true) : d.worker.stage.isDeparted = true ∨
        ∃ deadline, d.worker.stage = .pausing deadline ∧ d.now < deadline := by
  cases ho : os.any (·.isPause) with
  | true =>
    obtain ⟨cause, delay, b', chance, hw, hg, hc, hs, hn⟩ := hd.pauses ho
    exact .inr ⟨_, hs, hn ▸ hb.now_lt_deadline ht hw hg hc⟩
  | false =>
    rw [hd.rested h.later, ho, Bool.or_false] at hr
    rcases h.rests hr with hdep | ⟨deadline, hw, hlt⟩
    · exact .inl (hd.departed hdep).1
    · refine (hd.resting hw hlt fun nanos he => ?_).imp_right fun hs => ⟨deadline, hs⟩
      -- In a pause a worker that nobody is there for has something to do.
      rcases waits_of_deserted h.handles (hp nanos deadline he hw hr) with hs | ⟨_, hs, -⟩ <;>
        cases hs.symm.trans hw

theorem Alone.deed {n : Nat} (h : c.Alone n b) (hd : Deed e b os d) (hb : Reachable config tokens b)
    (ht : config.reconnect.TakesTime)
    (hp : ∀ nanos deadline, e = .pass nanos → b.worker.stage = .pausing deadline → c.rested b = true →
      b.step (.work 0) = none) : c.Alone (n + if e.isWork = true then 1 else 0) d where
  later := by
    rw [hd.adds]
    exact h.later.trans (List.prefix_append _ _)
  handles := hd.deserted h.handles
  requests := by
    have hq : closeRequests d.journal = closeRequests b.journal ++ os.filterMap Occurrence.closes? :=
      hd.shown fun _ _ => rfl
    rw [hq, hd.unasked h.handles, List.append_nil, h.requests]
  links g n hg := by
    rw [since_append h.later hd.adds]
    rcases h.links g n hg with hh | hend
    · exact (hd.holds hb.signalled hh).imp_right (·.mono (List.subset_append_right _ _))
    · exact .inr (hend.mono (List.subset_append_left _ _))
  heeds hm hf :=
    have hb' := h.heeds hm hf
    ⟨hd.heeds hb.signalled (.inr h.handles) hb'.1, hd.faithful hb (.inl hb'.1) hb'.2⟩
  rests := h.rests_deed hd hb ht hp
  way k hk := by
    have hold := h.way k hk
    have hnew := hd.way_le hk h.lt_deadline
    rw [since_append h.later hd.adds, hd.rested h.later, List.countP_append]
    omega
  toEnd := by
    have hold := h.toEnd
    rw [hd.rested h.later]
    rcases hd.toEnd_lt h.handles h.lt_deadline with ⟨hq, hle⟩ | hlt
    · rw [hq]
      exact Nat.le_trans (Nat.add_le_add_right hle n) hold
    · split <;> omega

/-- What the deeds of a punctual run keep, while the steps of the worker are counted, holds at its end. -/
theorem Reachable.keep_punctual {P : Nat → Client → Prop} {es : List Event}
    (hc : Reachable config tokens c) (hr : c.run es = some d) (hp : c.Punctual es) (start : P 0 c)
    (keep : ∀ {e b os d n}, Reachable config tokens b → Deed e b os d →
      (∀ nanos deadline, e = .pass nanos → b.worker.stage = .pausing deadline → c.rested b = true →
        b.step (.work 0) = none) → P n b → P (n + if e.isWork = true then 1 else 0) d) :
    P (es.countP (·.isWork)) d := by
  induction es using List.reverseRecOn generalizing d with
  | nil =>
    cases hr
    exact start
  | append_singleton es e ih =>
    rw [run_append] at hr
    obtain ⟨b, hb, hs⟩ := Option.bind_eq_some_iff.mp hr
    obtain ⟨d', hs, hd⟩ := Option.bind_eq_some_iff.mp hs
    cases hd
    obtain ⟨os, hdeed⟩ := (hc.run hb).deed hs
    have hbefore := ih hb fun before nanos after x deadline hes =>
      hp before nanos (after ++ [e]) x deadline (by rw [hes]; simp)
    have hlast := keep (hc.run hb) hdeed (fun nanos deadline he hw hrest =>
      hp es nanos [] b deadline (by rw [he]) hb hw hrest) hbefore
    rwa [List.countP_append, List.countP_singleton]

theorem Reachable.alone {es : List Event} (hc : Reachable config tokens c)
    (ht : config.reconnect.TakesTime) (h0 : c.handles = 0) (hr : c.run es = some d)
    (hp : c.Punctual es) : c.Alone (es.countP (·.isWork)) d :=
  hc.keep_punctual (P := c.Alone) hr hp (.start h0) fun hb hd hw h => h.deed hd hb ht hw

/-! ### The end -/

/-- The state `closing` was announced, as it is before `closed`, or the attempts were given up, or the worker
broke down. -/
def Warned (os : List Occurrence) : Prop :=
  .published .closing ∈ os ∨ (∃ g, .gaveUp g ∈ os) ∨ .brokeDown ∈ os

theorem Warned.mono {ps : List Occurrence} (h : Warned os) (hs : os ⊆ ps) : Warned ps :=
  h.imp (@hs _) (Or.imp (fun ⟨g, hg⟩ => ⟨g, hs hg⟩) (@hs _))

/-- A close is announced when it is asked for. -/
theorem Reachable.announced (h : Reachable config tokens c) (ht : c.state.isTerminal = true)
    (ho : c.worker.stage.post.isOver = false) : .published .closing ∈ happened c.journal := by
  have hw := h.watched
  cases hs : c.state with
  | closing =>
    rw [hs, Client.watched] at hw
    cases hl : (states c.journal).getLast? with
    | none =>
      rw [hl] at hw
      cases hw
    | some s =>
      rw [hl] at hw
      obtain rfl : s = .closing := hw
      exact mem_states.mp (List.mem_of_mem_getLast? hl)
  | closed => cases ho.symm.trans (h.reached.isOver hs)
  | _ =>
    rw [hs] at ht
    cases ht

/-- The attempts were given up, and that was the last state until the end. -/
def GaveUp (c : Client) : Prop :=
  .gaveUp c.generation ∈ happened c.journal ∧ ∃ earlier, states c.journal =
    earlier ++ .disconnected c.generation :: if c.worker.stage.post.isOver then [.closed] else []

/-- A worker that has left its main loop has announced `Closing` before, as it does after a close and when it
sees that the queue is closed, or it broke down, or it gave up at the limit of attempts. -/
def Parted (c : Client) : Prop :=
  c.worker.stage.isDeparted = true →
    .published .closing ∈ happened c.journal ∨ .brokeDown ∈ happened c.journal ∨ c.GaveUp

theorem GaveUp.frame {more : List ConnectionState} (h : c.GaveUp)
    (hj : happened d.journal = happened c.journal ++ os) (hg : d.generation = c.generation)
    (hs : os.filterMap Occurrence.state? = more)
    (ho : (if d.worker.stage.post.isOver then [ConnectionState.closed] else []) =
      (if c.worker.stage.post.isOver then [.closed] else []) ++ more) : d.GaveUp := by
  obtain ⟨hm, earlier, he⟩ := h
  refine ⟨?_, earlier, ?_⟩
  · rw [hj, hg]
    exact List.mem_append_left _ hm
  · have hst : states d.journal = states c.journal ++ more := by
      rw [states, ← filterMap_happened fun _ _ => rfl, hj, List.filterMap_append, hs,
        filterMap_happened fun _ _ => rfl, states]
    rw [hst, he, hg, ho, List.append_assoc, List.cons_append]

theorem Deed.parted (hd : Deed e c os d) (hc : Reachable config tokens c) (h : c.Parted) :
    d.Parted := by
  intro hl
  have ha := hd.adds
  have now (ho : .published .closing ∈ os ∨ .brokeDown ∈ os) :
      .published .closing ∈ happened d.journal ∨ .brokeDown ∈ happened d.journal ∨ d.GaveUp := by
    rw [hd.adds]
    exact ho.imp (List.mem_append_right _) fun ho => .inl (List.mem_append_right _ ho)
  have before {p : Stage} (hw : c.worker.stage = p) (hp : p.post.isOver = false)
      (ht : c.state.isTerminal = true) :
      .published .closing ∈ happened d.journal ∨ .brokeDown ∈ happened d.journal ∨ d.GaveUp := by
    subst hw
    rw [hd.adds]
    exact .inl (List.mem_append_left _ (hc.announced ht hp))
  -- The worker had left before.
  have same {more : List ConnectionState} (hw : c.worker.stage.isDeparted = true)
      (hg : d.generation = c.generation) (hs : os.filterMap Occurrence.state? = more)
      (ho : (if d.worker.stage.post.isOver then [ConnectionState.closed] else []) =
        (if c.worker.stage.post.isOver then [.closed] else []) ++ more) :
      .published .closing ∈ happened d.journal ∨ .brokeDown ∈ happened d.journal ∨ d.GaveUp := by
    have hj := hd.adds
    rcases h hw with hp | hb | hu
    · rw [hj]
      exact .inl (List.mem_append_left _ hp)
    · rw [hj]
      exact .inr (.inl (List.mem_append_left _ hb))
    · exact .inr (.inr (hu.frame hj hg hs ho))
  cases hd with
  | rest | ask | direct | refuse | closeAgain | signal | clone | dropHandle | read | readEnd | dropStream
  | pass | look | drop => exact same hl rfl rfl (List.append_nil _).symm
  | finish hw => exact same (by rw [hw]; rfl) rfl rfl (by rw [hw]; rfl)
  | release _ hw => exact same (by rw [hw]; rfl) rfl rfl (by rw [hw]; rfl)
  | abandon hw ht => exact before hw rfl ht
  | leave _ _ hw ht => rcases hw with hw | hw | hw <;> exact before hw rfl ht
  | decline _ hw ht | depart _ _ hw ht | departLate _ _ hw ht | giveUpQuietly _ hw ht =>
    exact before hw rfl ht
  | crash | lateHeartbeat => exact now (.inr List.mem_cons_self)
  | latePatience => exact now (.inr (List.mem_append_right _ List.mem_cons_self))
  | close => exact now (.inl (List.mem_cons_of_mem _ List.mem_cons_self))
  | departAlone | leaveAlone => exact now (.inl List.mem_cons_self)
  | giveUp =>
    refine .inr (.inr ⟨?_, states c.journal, ?_⟩)
    · rw [ha]
      exact List.mem_append_right _ (List.mem_cons_of_mem _ List.mem_cons_self)
    · rw [states, ← filterMap_happened fun _ _ => rfl, ha, List.filterMap_append,
        filterMap_happened fun _ _ => rfl]
      rfl
  | _ => cases hl

theorem Reachable.parted (h : Reachable config tokens c) : c.Parted :=
  h.invariant (P := Parted) (fun hl => nomatch hl) fun hr hd ih => hd.parted hr ih

theorem Reachable.warned (h : Reachable config tokens c) (hl : c.worker.stage.isDeparted = true) :
    Warned (happened c.journal) := by
  rcases h.parted hl with hc | hb | hu
  · exact .inl hc
  · exact .inr (.inr hb)
  · exact .inr (.inl ⟨_, hu.1⟩)

theorem Deed.ends (hd : Deed e c os d) (ho : .published .closed ∈ os) : c.worker.stage = .leaving := by
  cases hd with
  | finish hw => exact hw
  | latePatience _ _ a | hangUp _ _ _ a => cases a <;> simp at ho
  | _ => simp at ho

/-- Before `closed` was announced `closing` was, or the client gave up or broke down. -/
def EndsWarned (c : Client) : Prop :=
  ∀ before after, happened c.journal = before ++ .published .closed :: after → Warned before

theorem Deed.endsWarned (hd : Deed e c os d) (hc : Reachable config tokens c) (h : c.EndsWarned) :
    d.EndsWarned := by
  intro before after hj
  rw [hd.adds] at hj
  rcases append_cut hj with ⟨mid, hold, -⟩ | ⟨lead, rfl, hnew⟩
  · exact h before mid hold
  · have hw : c.worker.stage = .leaving := hd.ends (by rw [hnew]; simp)
    exact (hc.warned (by rw [hw]; rfl)).mono (List.subset_append_left _ _)

theorem Reachable.endsWarned (h : Reachable config tokens c) : c.EndsWarned :=
  h.invariant (fun _ _ hj => absurd hj initial_uncut) fun hr hd ih => hd.endsWarned hr ih

/-- What a connection is closed with when nobody holds the client: the frame of the request that found it
open, if there was one, and otherwise the normal one. -/
def parting (c : Client) : CloseFrame := (closeRequests c.journal).head?.getD .normal

/-- What becomes of a client that nobody holds any more until a later time. -/
structure ShutsDown (c : Client) (es : List Event) (d : Client) : Prop where
  attempts : (c.since d).countP (·.isAttempt) ≤ 1
  dials : (c.since d).countP (·.dial?.isSome) ≤ 1
  sessions : (c.since d).countP (·.isSession) ≤ 1
  /-- A session that there is is not replaced. -/
  unreplaced : ∀ g n, c.Holds g n → ∀ o ∈ c.since d, o.isAttempt = false ∧ o.isSession = false
  /-- One connection is closed at most. What it is closed with differs from what was asked for only if the
  worker misses the signal of the request. -/
  farewell : farewells d.journal = [] ∨ ∃ frame, farewells d.journal = [frame] ∧
    (frame = c.parting ∨ frame = .normal ∧ (c.MissesSignal ∨ farewells c.journal = [.normal]))
  /-- A connection that there is or that is handed over is held, or closed, or lost for another cause. -/
  links : ∀ g n, c.Holds g n ∨ .opened g n ∈ c.since d → d.Holds g n ∨ EndsLink g n (c.since d)
  /-- At the end none is held. -/
  released : d.state = .closed → ∀ g n, ¬ d.Holds g n
  warned : d.EndsWarned
  /-- The worker takes only so many steps more. -/
  steps : es.countP (·.isWork) ≤ c.toEnd false
  /-- Until the end it waits for the connector only, which has its time. -/
  moving : ∀ chance, d.step (.work chance) = none → d.state = .closed ∨
    ∃ deadline, d.worker.stage = .dialing deadline ∧ d.now < deadline

theorem Alone.once {k n : Nat} (h : c.Alone n d) (hk : 0 < k) :
    (c.since d).countP (·.wayStep = k) ≤ 1 := by
  have hw := h.way k hk
  have hone : ahead k (c.worker.stage.way false) ≤ 1 := ahead_le_one ..
  omega

lemma Alone.wayStep_of_session {n : Nat} {l : Link} {a : Activity} {o : Occurrence} (h : c.Alone n d)
    (hs : c.worker.stage = .session l a) (ho : o ∈ c.since d) : o.wayStep = 0 := by
  by_contra hne
  have hpos : 0 < o.wayStep := Nat.pos_of_ne_zero hne
  have hw := h.way o.wayStep hpos
  rw [hs, show (Stage.session l a).way false = 0 from rfl, ahead_zero hpos] at hw
  have hc : 0 < (c.since d).countP (·.wayStep = o.wayStep) :=
    List.countP_pos_iff.mpr ⟨o, ho, by simp⟩
  omega

theorem Alone.parting {n : Nat} {frame : CloseFrame} (h : c.Alone n d) (hd : Reachable config tokens d)
    (hf : d.shared.closeFrame = some frame) : frame = c.parting := by
  rw [Client.parting, ← h.requests]
  rcases hd.recorded.source frame hf with hq | ⟨hq, rfl, -⟩ <;> rw [hq] <;> rfl

theorem Alone.farewell {n : Nat} (h : c.Alone n d) (hd : Reachable config tokens d) :
    farewells d.journal = [] ∨ ∃ frame, farewells d.journal = [frame] ∧
      (frame = c.parting ∨ frame = .normal ∧ (c.MissesSignal ∨ farewells c.journal = [.normal])) := by
  refine hd.closedLast.once.imp_right fun ⟨frame, hf, hl⟩ => ⟨frame, hf, ?_⟩
  rcases hl with hl | ⟨rfl, -⟩
  · exact .inl (h.parting hd hl)
  · by_cases hm : c.MissesSignal
    · exact .inr ⟨rfl, .inl hm⟩
    by_cases hfc : c.Faithful
    · exact .inl (h.parting hd ((h.heeds hm hfc).2 .normal (by simp [hf])))
    · -- The connection was closed before.
      have hold : farewells c.journal <+: [.normal] := by
        rw [← hf, farewells, farewells, ← filterMap_happened fun _ _ => rfl,
          ← filterMap_happened (f := Occurrence.farewell?) fun _ _ => rfl]
        exact h.later.filterMap _
      rcases List.prefix_cons_iff.mp hold with hn | ⟨rest, hn, hr⟩
      · refine absurd (fun f hf' => ?_) hfc
        rw [hn] at hf'
        cases hf'
      · rw [List.prefix_nil.mp hr] at hn
        exact .inr ⟨rfl, .inr hn⟩

theorem Alone.meets {g : Generation} {m n : Nat} (h : c.Alone n d) (hd : Reachable config tokens d)
    (hm : .opened g m ∈ c.since d) : d.Holds g m ∨ EndsLink g m (c.since d) := by
  obtain ⟨before, after, hs⟩ := List.append_of_mem hm
  obtain ⟨new, hnew⟩ := h.later
  have hj : happened d.journal = (happened c.journal ++ before) ++ .opened g m :: after := by
    rw [← hnew, List.append_assoc, ← hs, Client.since, ← hnew, List.drop_left]
  rw [hs]
  exact (hd.keepsLinks _ _ g m hj).imp_right
    (·.mono (List.subset_append_of_subset_right _ (List.subset_cons_self _ _)))

theorem Alone.shutsDown {es : List Event} (h : c.Alone (es.countP (·.isWork)) d)
    (hd : Reachable config tokens d) : c.ShutsDown es d where
  attempts := by
    rw [funext Occurrence.isAttempt_eq]
    exact h.once (by decide)
  dials := by
    rw [funext Occurrence.dial?_isSome_eq]
    exact h.once (by decide)
  sessions := by
    rw [funext Occurrence.isSession_eq]
    exact h.once (by decide)
  unreplaced g n hg o ho := by
    obtain ⟨-, l, a, hs, -⟩ := hg
    have hz : o.wayStep = 0 := h.wayStep_of_session hs ho
    rw [Occurrence.isAttempt_eq, Occurrence.isSession_eq, hz]
    exact ⟨rfl, rfl⟩
  farewell := h.farewell hd
  links g n hg := hg.elim (h.links g n) (h.meets hd)
  released hs g n := by
    rintro ⟨-, l, a, hw, -⟩
    have ho := hd.reached.isOver hs
    rw [core_post hw, Stage.session_not_over] at ho
    cases ho
  warned := hd.endsWarned
  steps := Nat.le_trans (Nat.le_add_left _ _) h.toEnd
  moving chance hn := by
    rcases waits_of_deserted h.handles hn with hw | ⟨deadline, hw, -, hlt⟩
    · exact .inl (hd.reached.placed.past (core_post hw ▸ rfl))
    · exact .inr ⟨deadline, hw, hlt⟩

/-! ### Pauses that take no time -/

/-- In a pause that is over when it begins the worker looks at nothing else. -/
theorem run_nap {cause : TransportFault} (hw : c.worker.stage = .ending cause)
    (hc : c.shared.cancelled = false) (ho : c.state.isTerminal = false) (hg : c.givesUp = false)
    (hz : c.now.deadline (c.delayAfter cause 0).1 ≤ c.now) :
    ∃ d, c.run [.work 0, .work 0] = some d ∧ d.worker.stage = .starting ∧
      d.state = .disconnected c.generation ∧ d.generation = c.generation ∧ d.commands = c.commands ∧
      happened d.journal = happened c.journal ++ [.published (.disconnected c.generation),
        .paused c.generation (c.delayAfter cause 0).1] := by
  let b : Client := ({ c.settle.publish (.disconnected c.generation) with
    worker.backoff := (c.delayAfter cause 0).2 }.note
      (.paused c.generation (c.delayAfter cause 0).1)).goTo
        (.pausing (c.now.deadline (c.delayAfter cause 0).1))
  have hloss : c.announceLoss = c.settle.publish (.disconnected c.generation) :=
    if_neg (Bool.eq_false_iff.mp ho)
  have hpause : c.step (.work 0) = some b := by
    change c.work 0 = _
    rw [work, hw]
    change some (c.announceLoss.retire cause 0) = _
    rw [hloss, retire, if_neg (by exact Bool.eq_false_iff.mp hg)]
    rfl
  have hwake : b.step (.work 0) = some (b.goTo .starting) := by
    have hs : b.turnTo .signal = none := by
      rw [turnTo_pausing rfl]
      exact pauseTo_signal_eq_none.mpr hc
    have hp : b.turnTo .pause = some (b.goTo .starting) := if_pos hz
    change b.poll = _
    rw [poll, show b.worker.ahead = [.signal, .pause, .queue] from rfl]
    simp [hs, hp]
  refine ⟨b.goTo .starting, ?_, rfl, rfl, rfl, rfl, ?_⟩
  · rw [run, hpause, Option.bind_some, run, hwake, Option.bind_some, run]
  · change happened (⟨c.now, .paused c.generation (c.delayAfter cause 0).1⟩ ::
      ⟨c.now, .published (.disconnected c.generation)⟩ :: c.journal) = _
    simp [happened, Occurrence.unanswering?]

/-- The next attempt is announced. -/
theorem step_announce (hw : c.worker.stage = .starting) (ho : c.state.isTerminal = false) :
    c.step (.work 0) = some (({ c with worker.generation := c.generation + 1 }.publish
      (.connecting (c.generation + 1))).goTo .calling) := by
  change c.work 0 = _
  rw [work, hw]
  exact congrArg some (if_neg (Bool.eq_false_iff.mp ho))

/-- A client of which one topic is wanted, before its first attempt. -/
def wishing (config : Config) (handles : Nat) (journal : List Entry) : Client :=
  { ((initial config fun _ => none).request ⟨.balances, .subscribe⟩).1 with handles, journal }

/-- The first session is lost while the topic is asked for. -/
def toLoss (cause : TransportFault) : List Event :=
  [.work 0, .work 0, .dialAnswer (.link none), .limit 0 cause, .work 0, .work 0, .work 0]

/-- The first session is lost, and nothing else has happened to the client. -/
structure LosesFirst (config : Config) (cause : TransportFault) (c d : Client) : Prop where
  run : c.run (toLoss cause) = some d
  stage : d.worker.stage = .ending cause
  uncancelled : d.shared.cancelled = false
  state : d.state = .connected 1
  generation : d.generation = 1
  now : d.now = 0
  config_eq : d.config = config
  handles : d.handles = c.handles
  commands : d.commands = []
  failedAttempts : d.worker.failedAttempts = 0
  backoff : d.worker.backoff = .ofPolicy config.reconnect.backoff
  journal : ∃ es, d.journal = es ++ ⟨0, .published (.connecting 1)⟩ :: c.journal

theorem exists_losesFirst (hv : config.isValid = true) (cause : TransportFault) (handles : Nat)
    (journal : List Entry) : ∃ d, LosesFirst config cause (wishing config handles journal) d := by
  obtain ⟨endpoint, he⟩ := config.endpoint_of_isValid hv none
  let c := wishing config handles journal
  have hn : c.announceAttempt.nextToken = none := ite_self none
  have hd := dial_eq (c := c.announceAttempt) (by rw [hn]; exact he) rfl
  have hstart : c.step (.work 0) = some c.announceAttempt := rfl
  have hcall : c.announceAttempt.step (.work 0) = some c.announceAttempt.dial := rfl
  have hr : c.run (toLoss cause) = c.announceAttempt.dial.run
      [.dialAnswer (.link none), .limit 0 cause, .work 0, .work 0, .work 0] := by
    rw [toLoss, Client.run, hstart, Option.bind_some, Client.run, hcall, Option.bind_some]
  rw [hd] at hr
  exact ⟨_, hr, rfl, rfl, rfl, rfl, rfl, rfl, rfl, rfl, rfl, rfl, [_, _, _, _, _, _], rfl⟩

/-- A first session whose loss is followed by a pause of nothing. -/
theorem exists_instant_loss (ht : ¬ config.reconnect.TakesTime) :
    ∃ cause, ∀ c d, LosesFirst config cause c d → d.givesUp = false ∧
      d.now.deadline (d.delayAfter cause 0).1 ≤ d.now := by
  obtain ⟨hmost, hzero⟩ : config.reconnect.maxAttempts ≠ some 0 ∧
      (0 < config.reconnect.backoff.initial.nanos → config.reconnect.maintenanceDelay.nanos = 0) :=
    ⟨fun hz => ht (.inl hz), fun hi => Nat.eq_zero_of_not_pos fun hm => ht (.inr ⟨hi, hm⟩)⟩
  have tries {c d : Client} {cause : TransportFault} (h : LosesFirst config cause c d) :
      d.givesUp = false := by
    rw [givesUp, h.config_eq, h.failedAttempts]
    split
    · rename_i most hmax
      exact decide_eq_false fun hle => hmost (by rw [hmax, Nat.le_zero.mp hle])
    · rfl
  have instant {c d : Client} {cause : TransportFault} (h : LosesFirst config cause c d)
      (hd : (d.delayAfter cause 0).1.nanos = 0) :
      d.now.deadline (d.delayAfter cause 0).1 ≤ d.now := by
    rw [h.now, Instant.zero_deadline hd]
  rcases Nat.eq_zero_or_pos config.reconnect.backoff.initial.nanos with hi | hi
  · refine ⟨.closed, fun c d h => ⟨tries h, instant h ?_⟩⟩
    change (d.worker.backoff.delay 0).nanos = 0
    rw [h.backoff]
    exact Backoff.delay_ofPolicy_zero hi 0
  · refine ⟨.maintenance, fun c d h => ⟨tries h, instant h ?_⟩⟩
    change d.config.reconnect.maintenanceDelay.nanos = 0
    rw [h.config_eq]
    exact hzero hi

/-- The last handle is dropped before the first attempt, when one topic is wanted. -/
def desertion : List Event := [.request ⟨.balances, .subscribe⟩, .dropHandle]

/-- Where a pause takes no time the client goes on although nobody holds it. -/
theorem exists_goes_on (hv : config.isValid = true) (ht : ¬ config.reconnect.TakesTime) : ∃ c es d,
    Reachable config (fun _ => none) c ∧ c.handles = 0 ∧ c.run es = some d ∧ c.Punctual es ∧
      1 < (c.since d).countP (·.isAttempt) := by
  -- The session is lost for the right cause, and the next attempt follows at once.
  obtain ⟨cause, hcause⟩ := exists_instant_loss ht
  obtain ⟨j, hc⟩ : ∃ j, (initial config fun _ => none).run desertion = some (wishing config 0 j) :=
    ⟨_, rfl⟩
  obtain ⟨b, hb⟩ := exists_losesFirst hv cause 0 j
  obtain ⟨hg, hz⟩ := hcause _ b hb
  obtain ⟨n, hn, hw, hs, hgen, -, hj⟩ :=
    run_nap hb.stage hb.uncancelled (by rw [hb.state]; rfl) hg hz
  have hd := step_announce hw (by rw [hs]; rfl)
  have hr : Reachable config (fun _ => none) (wishing config 0 j) := (Reachable.initial hv).run hc
  have hlater : happened (wishing config 0 j).journal <+: happened n.journal :=
    hr.run_adds (run_of_append hb.run hn)
  refine ⟨_, (toLoss cause ++ [.work 0, .work 0]) ++ [.work 0], _, hr, rfl,
    run_of_append (run_of_append hb.run hn) (run_of_step hd rfl),
    punctual_of_not_mem (by simp [toLoss]), ?_⟩
  obtain ⟨es, hes⟩ := hb.journal
  have hfirst : happened b.journal =
      happened (wishing config 0 j).journal ++ .published (.connecting 1) :: happened es := by
    rw [hes]
    simp [happened, History.view, Occurrence.unanswering?]
  have hlast : happened (⟨n.now, .published (.connecting (n.generation + 1))⟩ :: n.journal) =
      happened n.journal ++ [.published (.connecting (n.generation + 1))] := view_cons _
  rw [hfirst, List.append_assoc] at hj
  rw [since_append hlater hlast, since_append (List.prefix_refl _) hj, since_self]
  simp [Occurrence.isAttempt]

/-- A client that nobody holds shuts down, unless its pauses take no time. -/
theorem deserted_shuts_down_iff (hv : config.isValid = true) :
    (∀ tokens c es d, Reachable config tokens c → c.handles = 0 → c.run es = some d → c.Punctual es →
      c.ShutsDown es d) ↔ config.reconnect.TakesTime := by
  constructor
  · intro hall
    by_contra ht
    obtain ⟨c, es, d, hr, h0, hd, hp, hn⟩ := exists_goes_on hv ht
    exact absurd (hall _ c es d hr h0 hd hp).attempts (Nat.not_le_of_lt hn)
  · intro ht tokens c es d hr h0 hd hp
    exact (hr.alone ht h0 hd hp).shutsDown (hr.run hd)

/-- The topic is asked for on the first session, which ends as soon as the worker looks at the queue. -/
def toFarewell : List Event :=
  [.work 0, .work 0, .dialAnswer (.link none), .work 0, .work 0, .work 0, .work 0, .work 0, .work 0]

theorem loopback_shuts_down : Config.loopback.isValid = true ∧ ∃ c d,
    (initial .loopback fun _ => none).run desertion = some c ∧ c.run toFarewell = some d ∧
      states d.journal = [.connecting 1, .connected 1, .closing, .closed] ∧
      farewells d.journal = [⟨1000, ""⟩] ∧ c.ShutsDown toFarewell d := by
  have hr : ((initial .loopback fun _ => none).run desertion).map (fun c => (c.handles,
      (c.run toFarewell).map fun d => (states d.journal, farewells d.journal))) =
        some (0, some ([.connecting 1, .connected 1, .closing, .closed], [⟨1000, ""⟩])) := by
    decide +kernel
  obtain ⟨c, hc, hv⟩ := Option.map_eq_some_iff.mp hr
  obtain ⟨h0, hv⟩ := Prod.mk.inj hv
  obtain ⟨d, hd, hv⟩ := Option.map_eq_some_iff.mp hv
  obtain ⟨hs, hf⟩ := Prod.mk.inj hv
  have ht : Config.loopback.reconnect.TakesTime := .inr ⟨by decide, by decide⟩
  exact ⟨Config.loopback_isValid, c, d, hc, hd, hs, hf,
    (deserted_shuts_down_iff Config.loopback_isValid).mpr ht _ c _ d (.ofRun hc) h0 hd
      (punctual_of_not_mem (by simp [toFarewell]))⟩

end Client

/-- Settings that pass the checks although a failed attempt is followed by the next one at once. -/
def Config.hasty : Config :=
  { Config.loopback with reconnect := { Config.loopback.reconnect with backoff := .fixed (.ofNanos 0) } }

theorem Config.hasty_isValid : Config.hasty.isValid = true := by decide +kernel

namespace Client

/-- Two attempts fail, each after a while, and the third one is met. -/
def hastyRun : List Event :=
  [.work 0, .work 0, .pass 10000000, .dialAnswer (.fault .closed), .work 0, .work 0,
    .work 0, .work 0, .pass 10000000, .dialAnswer (.fault .closed), .work 0, .work 0,
    .work 0, .work 0, .dialAnswer (.link none), .work 0, .work 0, .work 0, .work 0]

/-- Without delays one attempt follows another although nobody holds the client. -/
theorem hasty_goes_on : Config.hasty.isValid = true ∧ ∃ c d,
    (initial .hasty fun _ => none).run [.dropHandle] = some c ∧ c.handles = 0 ∧
      c.run hastyRun = some d ∧ (c.since d).countP (·.isAttempt) = 3 ∧ ¬ c.ShutsDown hastyRun d := by
  have hr : ((initial .hasty fun _ => none).run [.dropHandle]).map (fun c => (c.handles,
      (c.run hastyRun).map fun d => (c.since d).countP (·.isAttempt))) = some (0, some 3) := by
    decide +kernel
  obtain ⟨c, hc, hv⟩ := Option.map_eq_some_iff.mp hr
  obtain ⟨h0, hv⟩ := Prod.mk.inj hv
  obtain ⟨d, hd, ha⟩ := Option.map_eq_some_iff.mp hv
  refine ⟨Config.hasty_isValid, c, d, hc, h0, hd, ha, fun hs => ?_⟩
  exact absurd (ha ▸ hs.attempts) (by decide)

end Client

end MarketFeed
