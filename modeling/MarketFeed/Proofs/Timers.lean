import MarketFeed.Proofs.Deeds

/-!
The timers of a session and the range of the clock. The worker breaks down by itself when the clock
cannot hold a heartbeat or the end of its patience, and never else.
-/

namespace MarketFeed

open History

namespace Instant

lemma add?_ne_none {t : Instant} {d : Duration} : t.add? d ≠ none ↔ head + t + d.nanos < horizon := by
  unfold add?
  split <;> simp [*]

/-- What a moment leaves room for, an earlier one does. -/
theorem add?_ne_none_mono {t u : Instant} {d : Duration} (h : t ≤ u) (hu : u.add? d ≠ none) :
    t.add? d ≠ none := by
  have hle : head + t + d.nanos ≤ head + u + d.nanos :=
    Nat.add_le_add_right (Nat.add_le_add_left h head) d.nanos
  exact add?_ne_none.mpr (Nat.lt_of_le_of_lt hle (add?_ne_none.mp hu))

end Instant

namespace Config

/-- Whether the clock holds a heartbeat and the end of a patience that are set at a moment. -/
def FitsClock (c : Config) (t : Instant) : Prop := t.add? c.heartbeat ≠ none ∧ t.add? c.idle ≠ none

/-- The longer of the two must not reach the end of the clock's range. -/
theorem fitsClock_iff {c : Config} {t : Instant} : c.FitsClock t ↔
    Instant.head + t + max c.heartbeat.nanos c.idle.nanos < Instant.horizon := by
  rw [FitsClock, Instant.add?_ne_none, Instant.add?_ne_none]
  omega

theorem FitsClock.mono {c : Config} {t u : Instant} (h : c.FitsClock u) (htu : t ≤ u) : c.FitsClock t :=
  ⟨Instant.add?_ne_none_mono htu h.1, Instant.add?_ne_none_mono htu h.2⟩

/-- Settings that pass the checks have an endpoint, with any token and without one. -/
theorem endpoint_of_isValid {c : Config} (h : c.isValid = true) (token : Option String) :
    ∃ endpoint, c.endpoint token = .ok endpoint := by
  obtain ⟨base, hbase⟩ := exists_base_of_isValid h
  rw [endpoint, hbase]
  exact ⟨_, rfl⟩

end Config

namespace Client

variable {c d : Client} {config : Config} {t : Instant}

/-- Nothing that is calm breaks down while the clock holds the timers. -/
theorem Deed.unbroken {e : Event} {os : List Occurrence} (hd : Deed e c os d) (he : e.isCalm = true)
    (ht : c.config.FitsClock c.now) :
    .brokeDown ∉ os := by
  cases hd with
  | crash _ hf => cases hf.symm.trans he
  | lateHeartbeat _ _ hn => exact absurd hn ht.1
  | latePatience _ _ _ _ hn => exact absurd hn ht.2
  | hangUp _ _ _ a => cases a <;> simp
  | _ => simp

theorem run_of_step {e : Event} {es : List Event} {b : Client} (hb : c.step e = some b)
    (hd : b.run es = some d) : c.run (e :: es) = some d := by
  rw [run, hb]
  exact hd

theorem run_append (c : Client) (es fs : List Event) :
    c.run (es ++ fs) = (c.run es).bind fun d => d.run fs := by
  induction es generalizing c with
  | nil => rfl
  | cons e es ih =>
    change (c.step e).bind _ = ((c.step e).bind _).bind _
    rw [Option.bind_assoc]
    exact Option.bind_congr fun d _ => ih d

/-- The first session is announced at a moment. -/
def toSession (t : Instant) : List Event :=
  [.pass t, .work 0, .work 0, .dialAnswer (.link none), .work 0]

/-- The worker is on its first session, which has nothing to do yet. -/
structure FirstSession (config : Config) (t : Instant) (c : Client) : Prop where
  config_eq : c.config = config
  now : c.now = t
  stage : c.worker.stage = .session (.fresh 1 none) (.replaying [])
  generation : c.generation = 1
  uncancelled : c.shared.cancelled = false
  commands : c.commands = []
  handles : c.handles = 1
  stream : c.stream = .empty
  journal : ∃ endpoint, c.journal = [⟨t, .published (.connected 1)⟩, ⟨t, .opened 1 1⟩,
    ⟨t, .dialed 1 endpoint⟩, ⟨t, .published (.connecting 1)⟩]

theorem dial_eq {endpoint : String} (he : c.config.endpoint c.nextToken = .ok endpoint)
    (hc : c.shared.cancelled = false) :
    c.dial = ({ c with worker.tokensAsked := c.worker.tokensAsked + 1 }.note
      (.dialed c.generation endpoint)).goTo (.dialing (c.now.deadline c.config.connectTimeout)) := by
  unfold dial
  rw [he]
  exact if_neg (Bool.eq_false_iff.mp hc)

theorem run_toSession (hv : config.isValid = true) (t : Instant) :
    ∃ c, (initial config fun _ => none).run (toSession t) = some c ∧ FirstSession config t c := by
  obtain ⟨endpoint, he⟩ := config.endpoint_of_isValid hv none
  have hp : (initial config fun _ => none).pass t = { initial config fun _ => none with now := t } := by
    rw [pass, show (initial config fun _ => none).now + t = t from Nat.zero_add t]
  have hn : { initial config fun _ => none with now := t }.announceAttempt.nextToken = none :=
    ite_self none
  have hd := dial_eq (c := { initial config fun _ => none with now := t }.announceAttempt)
    (by rw [hn]; exact he) rfl
  have hr : (initial config fun _ => none).run (toSession t) =
      ((initial config fun _ => none).pass t).announceAttempt.dial.run
        [.dialAnswer (.link none), .work 0] := rfl
  rw [hp, hd] at hr
  exact ⟨_, hr, ⟨rfl, rfl, rfl, rfl, rfl, rfl, rfl, rfl, endpoint, rfl⟩⟩

lemma FirstSession.step_work (h : FirstSession config t c) :
    c.step (.work 0) = some (c.startListening (.fresh 1 none)) := by
  change c.work 0 = _
  rw [work, h.stage]
  rfl

/-- A heartbeat that the clock cannot hold breaks the worker down when its session starts. -/
theorem FirstSession.late_heartbeat (h : FirstSession config t c)
    (ht : t.add? config.heartbeat = none) :
    ∃ d, c.run [.work 0, .work 0] = some d ∧ d.now = t ∧
      d.journal = ⟨t, .published .closed⟩ :: ⟨t, .brokeDown⟩ :: c.journal := by
  have hs : c.startListening (.fresh 1 none) = c.breakDown := by
    rw [startListening, h.now, h.config_eq, ht]
  refine ⟨c.breakDown.announceEnd, ?_, h.now, ?_⟩
  · rw [run, h.step_work, hs]
    rfl
  · change ⟨c.now, _⟩ :: ⟨c.now, _⟩ :: c.journal = _
    rw [h.now]

theorem poll_breaks {l : Link} {w : Watch} {a : Arrival} {rest : List Arrival}
    (hw : c.worker.stage = .session l (.listening w)) (hr : c.reachesFrames = true)
    (hl : l.inbound = a :: rest) (ht : c.now.add? c.config.idle = none) :
    c.poll = some (c.noteArrival (some a)).breakDown := by
  rw [poll_frame hw hr hl, receive, ht]

/-- After a while a frame comes in on the session. -/
def frameAfter (n : Nat) (f : Frame) : List Event :=
  [.work 0, .pass n, .arrive (.ok f), .work 0, .work 0]

/-- The end of a patience that the clock cannot hold breaks the worker down when something comes in. -/
theorem FirstSession.late_patience (h : FirstSession config t c) (f : Frame) (n : Nat)
    (hh : t.add? config.heartbeat ≠ none) (ht : (t + n).add? config.idle = none) :
    ∃ d, c.run (frameAfter n f) = some d ∧ d.now = t + n ∧
      d.worker.stage = .releasing ∧ d.stream = .empty ∧ d.journal = ⟨t + n, .published .closed⟩ ::
        ⟨t + n, .brokeDown⟩ :: ⟨t + n, .received 1 (.ok f)⟩ :: c.journal := by
  obtain ⟨heartbeat, hb⟩ := Option.ne_none_iff_exists'.mp hh
  let w : Watch := ⟨heartbeat, c.now.deadline c.config.idle, false, 0⟩
  have hs : c.startListening (.fresh 1 none) = c.goTo (.session (.fresh 1 none) (.listening w)) := by
    have hc : c.now.add? c.config.heartbeat = some heartbeat := by rw [h.now, h.config_eq, hb]
    rw [startListening, hc]
  let e : Client := (c.pass n).goTo (.session { Link.fresh 1 none with inbound := [.ok f] } (.listening w))
  have hnow : e.now = t + n := congrArg (· + n) h.now
  have hreach : e.reachesFrames = true := by
    have hc : e.shared.cancelled = false := h.uncancelled
    have hq : e.commands = [] := h.commands
    have hn : e.handles = 1 := h.handles
    have hb : e.worker.branch = .signal := rfl
    simp [reachesFrames, hb, hc, hq, hn]
  have he : e.step (.work 0) = some (e.noteArrival (some (.ok f))).breakDown :=
    poll_breaks rfl hreach rfl (by rw [hnow, show e.config = config from h.config_eq]; exact ht)
  have hr : c.run (frameAfter n f) = (e.step (.work 0)).bind (·.run [.work 0]) := by
    rw [frameAfter, run, h.step_work, hs]
    rfl
  refine ⟨(e.noteArrival (some (.ok f))).breakDown.announceEnd, ?_, hnow, rfl, h.stream, ?_⟩
  · rw [hr, he]
    rfl
  · change ⟨e.now, _⟩ :: ⟨e.now, _⟩ :: ⟨e.now, .received e.generation _⟩ :: c.journal = _
    rw [hnow, show e.generation = 1 from h.generation]

theorem run_of_append {es fs : List Event} {b : Client} (hb : c.run es = some b)
    (hd : b.run fs = some d) : c.run (es ++ fs) = some d := by
  rw [run_append, hb]
  exact hd

/-- At a moment that leaves no room for the timers the worker can break down by itself. -/
theorem exists_broken_run (hv : config.isValid = true) (h : ¬ config.FitsClock t) : ∃ es c,
    (initial config fun _ => none).run es = some c ∧ (∀ e ∈ es, e.isCalm = true) ∧ c.now = t ∧
      .brokeDown ∈ happened c.journal ∧
      states c.journal = [.connecting 1, .connected 1, .closed] := by
  by_cases hh : t.add? config.heartbeat = none
  · obtain ⟨c, hc, hf⟩ := run_toSession hv t
    obtain ⟨d, hd, hn, hj⟩ := hf.late_heartbeat hh
    obtain ⟨endpoint, hc'⟩ := hf.journal
    rw [hc'] at hj
    exact ⟨_, d, run_of_append hc hd, List.all_eq_true.mp rfl, hn,
      mem_view.mpr ⟨⟨t, .brokeDown⟩, by rw [hj]; simp, rfl⟩, by rw [hj]; rfl⟩
  · have hi : (0 + t).add? config.idle = none := by
      rw [Nat.zero_add]
      exact by_contra fun hi => h ⟨hh, hi⟩
    obtain ⟨c, hc, hf⟩ := run_toSession hv 0
    obtain ⟨d, hd, hn, -, -, hj⟩ :=
      hf.late_patience (.text "") t (Instant.add?_ne_none_mono (Nat.zero_le t) hh) hi
    obtain ⟨endpoint, hc'⟩ := hf.journal
    rw [hc'] at hj
    exact ⟨_, d, run_of_append hc hd, List.all_eq_true.mp rfl, hn.trans (Nat.zero_add t),
      mem_view.mpr ⟨⟨0 + t, .brokeDown⟩, by rw [hj]; simp, rfl⟩, by rw [hj]; rfl⟩

end Client

end MarketFeed
