import MarketFeed.Proofs.Deeds

/-!
How long a client waits between two attempts. The delay after a generation is that of maintenance, or it
has grown as often as generations failed since the latest one on which a frame came in. The next attempt
is not announced before the delay has passed since the end was.
-/

namespace MarketFeed

open History

namespace BackoffPolicy

/-- The base delay after it has grown so many times. -/
def base (p : BackoffPolicy) : Nat → Duration
  | 0 => p.initial
  | n + 1 => p.grow (p.base n)

/-- Whether a delay may follow from a base delay: it is the same, or with jitter as much as half of the
whole milliseconds longer. -/
def Allows (p : BackoffPolicy) (base delay : Duration) : Prop :=
  match p with
  | .exponential _ _ _ true =>
    base.nanos ≤ delay.nanos ∧ delay.nanos ≤ base.nanos + base.millis / 2 * 1000000
  | _ => delay = base

theorem base_fixed (d : Duration) (n : Nat) : (fixed d).base n = d := by
  cases n <;> rfl

end BackoffPolicy

namespace Duration

lemma ofNanos_nanos_le (n : Nat) : (ofNanos n).nanos ≤ n := by
  unfold ofNanos
  split
  · exact Nat.le_refl n
  · rename_i h
    have hl : longest.nanos = 1 <<< 64 * 1000000000 - 1 := rfl
    omega

/-- What is added to a length does not shorten it. -/
theorem le_ofNanos_add (d : Duration) (n : Nat) : d.nanos ≤ (ofNanos (d.nanos + n)).nanos := by
  have hd := d.bounded
  unfold ofNanos
  split
  · exact Nat.le_add_right _ _
  · have hl : longest.nanos = 1 <<< 64 * 1000000000 - 1 := rfl
    omega

end Duration

/-- The next delay follows from the base delay. -/
theorem Backoff.allows_delay (b : Backoff) (extra : Nat) : b.policy.Allows b.base (b.delay extra) := by
  obtain ⟨policy, current⟩ := b
  cases policy with
  | fixed d => rfl
  | exponential initial greatest multiplier jitter =>
    cases jitter with
    | false => rfl
    | true =>
      simp only [BackoffPolicy.Allows, delay, base]
      split
      · exact ⟨Nat.le_refl _, Nat.le_add_right _ _⟩
      · refine ⟨Duration.le_ofNanos_add _ _, Nat.le_trans (Duration.ofNanos_nanos_le _) ?_⟩
        have hm : min extra (jitterLimit current) ≤ current.millis / 2 :=
          Nat.le_trans (Nat.min_le_right _ _) (Nat.min_le_left _ _)
        exact Nat.add_le_add_left (Nat.mul_le_mul_right _ hm) _

/-- The base delay is the one that it has grown to. -/
theorem Backoff.base_eq {b : Backoff} {n : Nat} (h : b.current = b.policy.base n) :
    b.base = b.policy.base n := by
  obtain ⟨policy, current⟩ := b
  cases policy with
  | fixed d => exact (BackoffPolicy.base_fixed d n).symm
  | exponential initial greatest multiplier jitter => exact h

/-- Whether a delay follows the end of a generation with a cause, when the base delay has grown so many
times. -/
def ReconnectPolicy.Schedules (r : ReconnectPolicy) (growth : Nat) (cause : TransportFault)
    (delay : Duration) : Prop :=
  if cause = .maintenance then delay = r.maintenanceDelay
  else r.backoff.Allows (r.backoff.base growth) delay

namespace Occurrence

/-- The generation that ended, and why. -/
def lost? : Occurrence → Option (Generation × TransportFault)
  | lost g cause => some (g, cause)
  | _ => none

/-- The generation whose end was announced. -/
def disconnected? : Occurrence → Option Generation
  | published (.disconnected g) => some g
  | _ => none

/-- The session that a frame came in on. -/
def framed? : Occurrence → Option Generation
  | received g (.ok _) => some g
  | _ => none

/-- The delay after a generation. -/
def paused? : Occurrence → Option (Generation × Duration)
  | paused g delay => some (g, delay)
  | _ => none

end Occurrence

namespace History

/-- The generations that ended, with their causes. -/
def endings (j : List Entry) : List (Generation × TransportFault) := view Occurrence.lost? j

/-- The generations whose end was announced. -/
def announcedEnds (j : List Entry) : List Generation := view Occurrence.disconnected? j

/-- The sessions that frames came in on, once for each frame. -/
def framed (j : List Entry) : List Generation := view Occurrence.framed? j

/-- The delays, with the generations that they came after. -/
def pauses (j : List Entry) : List (Generation × Duration) := view Occurrence.paused? j

/-- The latest session up to a generation that a frame came in on, or the first generation. -/
def lastFramed (j : List Entry) (g : Generation) : Generation :=
  ((framed j).filter (· ≤ g)).max?.getD 1

/-- How many generations ended before one for another cause than maintenance, not counting those before
the latest frame. -/
def growth (j : List Entry) (g : Generation) : Nat :=
  (endings j).countP fun p => lastFramed j g ≤ p.1 ∧ p.1 < g ∧ p.2 ≠ .maintenance

variable {j l : List Entry} {g : Generation}

lemma lastFramed_le (hg : 1 ≤ g) : lastFramed j g ≤ g := by
  unfold lastFramed
  cases hm : ((framed j).filter (· ≤ g)).max? with
  | none => exact hg
  | some m =>
    have hmem := List.max?_mem hm
    simpa using (List.mem_filter.mp hmem).2

/-- Nothing has grown in a session that a frame came in on. -/
theorem growth_of_framed (h : g ∈ framed j) : growth j g = 0 := by
  have hle : g ≤ lastFramed j g :=
    List.le_max?_getD_of_mem (List.mem_filter.mpr ⟨h, by simp⟩)
  refine List.countP_eq_zero.mpr fun p _ => ?_
  simp only [decide_eq_true_eq]
  grind

/-- What comes of later generations changes nothing. -/
theorem growth_of_later {fs : List Generation} {es : List (Generation × TransportFault)}
    (hf : framed l = framed j ++ fs) (he : endings l = endings j ++ es)
    (hfs : ∀ h ∈ fs, g < h) (hes : ∀ p ∈ es, g ≤ p.1) : growth l g = growth j g := by
  have hlast : lastFramed l g = lastFramed j g := by
    have hnew : fs.filter (· ≤ g) = [] :=
      List.filter_eq_nil_iff.mpr fun h hh => by simpa using hfs h hh
    rw [lastFramed, hf, List.filter_append, hnew, List.append_nil, lastFramed]
  have hnew : es.countP (fun p => lastFramed j g ≤ p.1 ∧ p.1 < g ∧ p.2 ≠ .maintenance) = 0 := by
    refine List.countP_eq_zero.mpr fun p hp => ?_
    have hle := hes p hp
    simp only [decide_eq_true_eq]
    grind
  rw [growth, he, hlast, List.countP_append, hnew, Nat.add_zero, growth]

/-- Once a generation has ended, it counts for the next one, if it was not for maintenance. -/
theorem growth_succ {es : List (Generation × TransportFault)} {cause : TransportFault} (hg : 1 ≤ g)
    (hf : ∀ h ∈ framed j, h ≤ g) (he : endings j = es ++ [(g, cause)]) (hes : ∀ p ∈ es, p.1 < g) :
    growth j (g + 1) = growth j g + if cause = .maintenance then 0 else 1 := by
  have hlast : lastFramed j (g + 1) = lastFramed j g := by
    unfold lastFramed
    congr 2
    refine List.filter_congr fun h hh => ?_
    have hle := hf h hh
    simp only [decide_eq_decide]
    grind
  have hold : es.countP (fun p => lastFramed j g ≤ p.1 ∧ p.1 < g + 1 ∧ p.2 ≠ .maintenance) =
      es.countP (fun p => lastFramed j g ≤ p.1 ∧ p.1 < g ∧ p.2 ≠ .maintenance) := by
    refine List.countP_congr fun p hp => ?_
    have hlt := hes p hp
    simp only [decide_eq_true_eq]
    grind
  have hle : lastFramed j g ≤ g := lastFramed_le hg
  rw [growth, growth, hlast, he, List.countP_append, List.countP_append, hold]
  by_cases hc : cause = .maintenance <;> simp [hc, hle]

/-- Generations rise up to one, which may be among them on a condition. -/
structure RisesTo (l : List Generation) (g : Generation) (reached : Prop) : Prop where
  rising : l.Pairwise (· < ·)
  upTo : ∀ h ∈ l, h < g ∨ h = g ∧ reached

namespace RisesTo

variable {l : List Generation} {p q : Prop}

theorem imp (h : RisesTo l g p) (hpq : p → q) : RisesTo l g q :=
  ⟨h.rising, fun x hx => (h.upTo x hx).imp_right fun hr => ⟨hr.1, hpq hr.2⟩⟩

theorem below (h : RisesTo l g p) (hp : ¬ p) : ∀ x ∈ l, x < g :=
  fun x hx => (h.upTo x hx).resolve_right fun hr => hp hr.2

theorem next (h : RisesTo l g p) (q : Prop) : RisesTo l (g + 1) q := by
  refine ⟨h.rising, fun x hx => .inl ?_⟩
  rcases h.upTo x hx with hlt | ⟨rfl, -⟩
  · exact Nat.lt_succ_of_lt hlt
  · exact Nat.lt_succ_self x

theorem add (h : RisesTo l g p) (hp : ¬ p) (hq : q) : RisesTo (l ++ [g]) g q := by
  refine ⟨?_, fun x hx => ?_⟩
  · refine List.pairwise_append.mpr ⟨h.rising, List.pairwise_singleton .., fun x hx y hy => ?_⟩
    rw [List.mem_singleton.mp hy]
    exact h.below hp x hx
  · rcases List.mem_append.mp hx with hx | hx
    · exact .inl (h.below hp x hx)
    · exact .inr ⟨List.mem_singleton.mp hx, hq⟩

end RisesTo

end History

/-- Whether the worker is busy with an attempt or a session. -/
def Stage.isUnderway : Stage → Bool
  | calling | dialing _ | session .. => true
  | _ => false

/-- Whether the end of the attempt or the session is yet to be announced, if it is. -/
def Stage.isUnannounced : Stage → Bool
  | ending _ => true
  | p => p.isUnderway

/-- What the session keeps an eye on. -/
def Stage.watch? : Stage → Option Watch
  | session _ (.listening w) | session _ (.writing _ (.listen w)) => some w
  | _ => none

/-- The generation whose end the next delay will follow. -/
def Stage.turn? (g : Generation) : Stage → Option Generation
  | starting | pausing _ => some (g + 1)
  | calling | dialing _ | session .. | ending _ => some g
  | leaving | releasing | gone => none

namespace Stage

variable {p : Stage} {g : Generation}

lemma isUnannounced_of_isUnderway (h : p.isUnderway = true) : p.isUnannounced = true := by
  cases p <;> first | rfl | cases h

lemma turn?_of_isUnderway (h : p.isUnderway = true) : p.turn? g = some g := by
  cases p <;> first | rfl | cases h

end Stage

namespace Client

variable {c d : Client} {e : Event} {os : List Occurrence} {config : Config}
  {tokens : Nat → Option String}

/-! ### The ends of generations -/

/-- Generations end one after another, each once. -/
structure Counted (c : Client) : Prop where
  ends : RisesTo ((endings c.journal).map (·.1)) c.generation (c.worker.stage.isUnderway = false)
  announced : RisesTo (announcedEnds c.journal) c.generation (c.worker.stage.isUnannounced = false)
  framed : ∀ g ∈ framed c.journal, g ≤ c.generation
  last : ∀ cause, c.worker.stage = .ending cause →
    ∃ es, endings c.journal = es ++ [(c.generation, cause)]
  begun : ∀ g, c.worker.stage.turn? c.generation = some g → 1 ≤ g

/-- Nothing ends. -/
theorem Counted.frame (h : c.Counted) (hg : d.generation = c.generation)
    (he : endings d.journal = endings c.journal)
    (ha : announcedEnds d.journal = announcedEnds c.journal)
    (hf : ∀ g ∈ History.framed d.journal, g ∈ History.framed c.journal ∨ g = c.generation)
    (hu : d.worker.stage.isUnderway = true → c.worker.stage.isUnderway = true)
    (hn : d.worker.stage.isUnannounced = true → c.worker.stage.isUnannounced = true)
    (hl : ∀ cause, d.worker.stage = .ending cause → c.worker.stage = .ending cause)
    (ht : ∀ g, d.worker.stage.turn? c.generation = some g → 1 ≤ g) : d.Counted := by
  refine ⟨?_, ?_, fun g hm => ?_, fun cause hw => ?_, fun g hm => ht g (hg ▸ hm)⟩
  · rw [he, hg]
    exact h.ends.imp fun hc => Bool.eq_false_iff.mpr fun hd => Bool.eq_false_iff.mp hc (hu hd)
  · rw [ha, hg]
    exact h.announced.imp fun hc => Bool.eq_false_iff.mpr fun hd => Bool.eq_false_iff.mp hc (hn hd)
  · rw [hg]
    exact (hf g hm).elim (h.framed g) Nat.le_of_eq
  · rw [he, hg]
    exact h.last cause (hl cause hw)

/-- An attempt or a session goes on. -/
theorem Counted.goOn (h : c.Counted) (hg : d.generation = c.generation)
    (he : endings d.journal = endings c.journal)
    (ha : announcedEnds d.journal = announcedEnds c.journal)
    (hf : ∀ g ∈ History.framed d.journal, g ∈ History.framed c.journal ∨ g = c.generation)
    (hc : c.worker.stage.isUnderway = true) (hd : d.worker.stage.isUnderway = true) : d.Counted := by
  refine h.frame hg he ha hf (fun _ => hc) (fun _ => Stage.isUnannounced_of_isUnderway hc)
    (fun cause hw => ?_) fun g ht => ?_
  · rw [hw] at hd
    cases hd
  · cases (Stage.turn?_of_isUnderway hd).symm.trans ht
    exact h.begun _ (Stage.turn?_of_isUnderway hc)

/-- The worker is in no attempt or session any more, and announces no end. -/
theorem Counted.leave (h : c.Counted) (hg : d.generation = c.generation)
    (he : endings d.journal = endings c.journal)
    (ha : announcedEnds d.journal = announcedEnds c.journal)
    (hf : ∀ g ∈ History.framed d.journal, g ∈ History.framed c.journal ∨ g = c.generation)
    (hd : d.worker.stage.isUnannounced = false)
    (ht : ∀ g, d.worker.stage.turn? c.generation = some g → 1 ≤ g) : d.Counted := by
  refine h.frame hg he ha hf (fun hu => ?_) (fun hu => ?_) (fun cause hw => ?_) ht
  · cases hd.symm.trans (Stage.isUnannounced_of_isUnderway hu)
  · cases hd.symm.trans hu
  · rw [hw] at hd
    cases hd

/-- An attempt or a session ends. -/
theorem Counted.lose {cause : TransportFault} (h : c.Counted)
    (hu : c.worker.stage.isUnderway = true) (hd : d.worker.stage = .ending cause)
    (hg : d.generation = c.generation)
    (he : endings d.journal = endings c.journal ++ [(c.generation, cause)])
    (ha : announcedEnds d.journal = announcedEnds c.journal)
    (hf : ∀ g ∈ History.framed d.journal, g ∈ History.framed c.journal ∨ g = c.generation) :
    d.Counted := by
  have hun : c.worker.stage.isUnannounced = true := Stage.isUnannounced_of_isUnderway hu
  refine ⟨?_, ?_, fun g hm => ?_, fun cause' hw => ?_, fun g hm => ?_⟩
  · rw [he, hg, List.map_append]
    exact h.ends.add (by simp [hu]) (by rw [hd]; rfl)
  · rw [ha, hg]
    exact h.announced.imp fun hc => nomatch hun.symm.trans hc
  · rw [hg]
    exact (hf g hm).elim (h.framed g) Nat.le_of_eq
  · cases hd.symm.trans hw
    exact ⟨_, by rw [he, hg]⟩
  · rw [hd, hg] at hm
    cases hm
    exact h.begun _ (Stage.turn?_of_isUnderway hu)

/-- The end is announced. -/
theorem Counted.announce {cause : TransportFault} (h : c.Counted) (hw : c.worker.stage = .ending cause)
    (hg : d.generation = c.generation) (he : endings d.journal = endings c.journal)
    (ha : announcedEnds d.journal = announcedEnds c.journal ++ [c.generation])
    (hf : History.framed d.journal = History.framed c.journal)
    (hu : d.worker.stage.isUnannounced = false)
    (ht : ∀ g, d.worker.stage.turn? c.generation = some g → 1 ≤ g) : d.Counted := by
  have hunder : d.worker.stage.isUnderway = false := by
    cases hd : d.worker.stage <;> rw [hd] at hu <;> first | rfl | cases hu
  refine ⟨?_, ?_, fun g hm => ?_, fun cause' hd => ?_, fun g hm => ht g (hg ▸ hm)⟩
  · rw [he, hg]
    exact h.ends.imp fun _ => hunder
  · rw [ha, hg]
    exact h.announced.add (by rw [hw]; simp [Stage.isUnannounced]) hu
  · rw [hg]
    exact h.framed g (hf ▸ hm)
  · rw [hd] at hu
    cases hu

/-- The next generation begins. -/
theorem Counted.attempt (h : c.Counted) (hg : d.generation = c.generation + 1)
    (he : endings d.journal = endings c.journal)
    (ha : announcedEnds d.journal = announcedEnds c.journal)
    (hf : History.framed d.journal = History.framed c.journal)
    (hw : ∀ cause, d.worker.stage ≠ .ending cause)
    (ht : ∀ g, d.worker.stage.turn? (c.generation + 1) = some g → 1 ≤ g) : d.Counted := by
  refine ⟨?_, ?_, fun g hm => ?_, fun cause hd => absurd hd (hw cause), fun g hm => ht g (hg ▸ hm)⟩
  · rw [he, hg]
    exact h.ends.next _
  · rw [ha, hg]
    exact h.announced.next _
  · rw [hg]
    exact Nat.le_succ_of_le (h.framed g (hf ▸ hm))

theorem Deed.counted (hd : Deed e c os d) (h : c.Counted) : d.Counted := by
  have he : endings d.journal = endings c.journal ++ os.filterMap Occurrence.lost? :=
    hd.shown fun _ _ => rfl
  have ha : announcedEnds d.journal = announcedEnds c.journal ++ os.filterMap Occurrence.disconnected? :=
    hd.shown fun _ _ => rfl
  have hf : History.framed d.journal = History.framed c.journal ++ os.filterMap Occurrence.framed? :=
    hd.shown fun _ _ => rfl
  have quiet {α : Type} {l m : List α} (hq : l = m ++ []) : l = m := hq.trans (List.append_nil m)
  have old (hf : History.framed d.journal = History.framed c.journal ++ []) :
      ∀ g ∈ History.framed d.journal, g ∈ History.framed c.journal ∨ g = c.generation :=
    fun g hm => .inl (quiet hf ▸ hm)
  have new (hf : History.framed d.journal = History.framed c.journal ++ [c.generation]) :
      ∀ g ∈ History.framed d.journal, g ∈ History.framed c.journal ∨ g = c.generation := by
    intro g hm
    rw [hf] at hm
    simpa using hm
  cases hd with
  | rest | ask | direct | refuse | close | closeAgain | signal | clone | dropHandle | read | readEnd
  | dropStream | pass | look | drop =>
    exact h.frame rfl (quiet he) (quiet ha) (old hf) id id (fun _ => id) h.begun
  | tend _ _ _ hw | meet _ _ hw | dial _ hw | announce _ hw | replay _ _ _ hw | listen _ _ hw
  | written _ _ _ _ hw | execute _ _ _ _ hw | skip _ _ _ _ hw | beat _ _ _ hw =>
    exact h.goOn rfl (quiet he) (quiet ha) (old hf) (by rw [hw]; rfl) rfl
  | deliver _ _ _ _ _ _ _ _ hw | withhold _ _ _ _ _ _ _ _ _ _ hw | misread _ _ _ _ _ _ hw =>
    exact h.goOn rfl (quiet he) (quiet ha) (new hf) (by rw [hw]; rfl) rfl
  | crash | leave | decline | lateHeartbeat | depart | departLate | departAlone | giveUpQuietly
  | leaveAlone | finish | release =>
    exact h.leave rfl (quiet he) (quiet ha) (old hf) rfl fun g hg => nomatch hg
  | pauseQuietly | wake =>
    exact h.leave rfl (quiet he) (quiet ha) (old hf) rfl fun g hg => Option.some.inj hg ▸ Nat.succ_pos _
  | latePatience _ _ a =>
    rcases a with _ | _ | _
    · exact h.leave rfl (quiet he) (quiet ha) (old hf) rfl fun g hg => nomatch hg
    · exact h.leave rfl (quiet he) (quiet ha) (old hf) rfl fun g hg => nomatch hg
    · exact h.leave rfl (quiet he) (quiet ha) (new hf) rfl fun g hg => nomatch hg
  | failAttempt _ _ hw =>
    obtain hw | hw := hw <;> exact h.lose (by rw [hw]; rfl) rfl rfl he (quiet ha) (old hf)
  | refused _ _ _ hw | idle _ _ hw => exact h.lose (by rw [hw]; rfl) rfl rfl he (quiet ha) (old hf)
  | despair _ _ _ _ hw => exact h.lose (by rw [hw]; rfl) rfl rfl he (quiet ha) (new hf)
  | hangUp _ _ _ a hw hn =>
    rcases a with _ | _ | f
    · exact h.lose (by rw [hw]; rfl) rfl rfl he (quiet ha) (old hf)
    · exact h.lose (by rw [hw]; rfl) rfl rfl he (quiet ha) (old hf)
    · exact absurd rfl (hn f)
  | pause _ _ _ hw =>
    exact h.announce hw rfl (quiet he) ha (quiet hf) rfl fun g hg => Option.some.inj hg ▸ Nat.succ_pos _
  | giveUp _ hw => exact h.announce hw rfl (quiet he) ha (quiet hf) rfl fun g hg => nomatch hg
  | attempt =>
    refine h.attempt rfl (quiet he) (quiet ha) (quiet hf) (fun _ hn => nomatch hn) fun g hg => ?_
    exact Option.some.inj hg ▸ Nat.succ_pos _
  | abandon =>
    exact h.attempt rfl (quiet he) (quiet ha) (quiet hf) (fun _ hn => nomatch hn) fun g hg => nomatch hg

theorem Reachable.counted (h : Reachable config tokens c) : c.Counted :=
  h.invariant ⟨⟨.nil, fun _ hm => nomatch hm⟩, ⟨.nil, fun _ hm => nomatch hm⟩, fun _ hm => (nomatch hm),
    fun _ hn => (nomatch hn), fun _ hg => Option.some.inj hg ▸ Nat.le_refl 1⟩ fun _ hd ih => hd.counted ih

/-! ### The delay that comes next -/

/-- The backoff has grown as often as generations failed. -/
structure Paced (c : Client) : Prop where
  policy : c.worker.backoff.policy = c.config.reconnect.backoff
  current : ∀ g, c.worker.stage.turn? c.generation = some g →
    c.worker.backoff.current = c.config.reconnect.backoff.base (growth c.journal g)
  talking : ∀ w, c.worker.stage.watch? = some w → w.heard = true →
    c.generation ∈ History.framed c.journal

/-- The backoff stays, and nothing counts that did not before. -/
theorem Paced.frame (h : c.Paced) (hc : d.config = c.config) (hb : d.worker.backoff = c.worker.backoff)
    (he : endings d.journal = endings c.journal)
    (hf : History.framed d.journal = History.framed c.journal)
    (ht : ∀ g, d.worker.stage.turn? d.generation = some g → c.worker.stage.turn? c.generation = some g)
    (hw : ∀ w, d.worker.stage.watch? = some w → w.heard = true →
      d.generation = c.generation ∧ ∃ v, c.worker.stage.watch? = some v ∧ v.heard = true) :
    d.Paced := by
  refine ⟨by rw [hb, hc, h.policy], fun g hg => ?_, fun w hv hh => ?_⟩
  · have hgrow : growth d.journal g = growth c.journal g := by
      rw [growth, growth, lastFramed, lastFramed, he, hf]
    rw [hb, hc, hgrow, h.current g (ht g hg)]
  · obtain ⟨hg, v, hv, hh⟩ := hw w hv hh
    rw [hg, hf]
    exact h.talking v hv hh

/-- An attempt or a session ends, which does not count yet. -/
theorem Paced.lose {cause : TransportFault} (h : c.Paced) (hc : d.config = c.config)
    (hb : d.worker.backoff = c.worker.backoff) (hd : d.worker.stage = .ending cause)
    (hg : d.generation = c.generation) (hu : c.worker.stage.turn? c.generation = some c.generation)
    (he : endings d.journal = endings c.journal ++ [(c.generation, cause)])
    (hf : History.framed d.journal = History.framed c.journal) : d.Paced := by
  refine ⟨by rw [hb, hc, h.policy], fun g hm => ?_, fun w hw => ?_⟩
  · rw [hd, hg] at hm
    cases hm
    have hgrow : growth d.journal c.generation = growth c.journal c.generation :=
      growth_of_later (hf.trans (List.append_nil _).symm) he (fun _ hn => nomatch hn)
        (by simp)
    rw [hb, hc, hgrow, h.current _ hu]
  · rw [hd] at hw
    cases hw

/-- After a frame the base delay is the first one. -/
theorem Paced.hearing {l : Link} {w : Watch} (h : c.Paced)
    (hw : c.worker.stage = .session l (.listening w)) :
    (c.hearingBackoff w).policy = c.config.reconnect.backoff ∧
      (c.hearingBackoff w).current = c.config.reconnect.backoff.base 0 := by
  unfold hearingBackoff
  split
  · rename_i hh
    have hg : growth c.journal c.generation = 0 :=
      growth_of_framed (h.talking w (by rw [hw]; rfl) hh)
    have hb := h.current c.generation (by rw [hw]; rfl)
    rw [hg] at hb
    exact ⟨h.policy, hb⟩
  · exact ⟨h.policy, by rw [Backoff.reset, h.policy]; rfl⟩

/-- A frame comes in, and the session goes on or ends. -/
theorem Paced.frameIn {l : Link} {w : Watch} (h : c.Paced)
    (hw : c.worker.stage = .session l (.listening w)) (hc : d.config = c.config)
    (hb : d.worker.backoff = c.hearingBackoff w) (hg : d.generation = c.generation)
    (hf : History.framed d.journal = History.framed c.journal ++ [c.generation])
    (ht : ∀ g, d.worker.stage.turn? c.generation = some g → g = c.generation) : d.Paced := by
  have hm : c.generation ∈ History.framed d.journal := by
    rw [hf]
    simp
  obtain ⟨hp, hcur⟩ := h.hearing hw
  refine ⟨by rw [hb, hc, hp], fun g hgt => ?_, fun v _ _ => hg ▸ hm⟩
  obtain rfl := ht g (hg ▸ hgt)
  rw [hb, hc, growth_of_framed hm, hcur]

/-- A pause begins, and what has ended counts from now on. -/
theorem Paced.pause {cause : TransportFault} {delay : Duration} {b : Backoff} {deadline : Instant}
    {chance : Nat} (h : c.Paced) (hk : c.Counted) (hw : c.worker.stage = .ending cause)
    (hd : c.delayAfter cause chance = (delay, b)) (hc : d.config = c.config)
    (hb : d.worker.backoff = b) (hs : d.worker.stage = .pausing deadline)
    (hg : d.generation = c.generation) (he : endings d.journal = endings c.journal)
    (hf : History.framed d.journal = History.framed c.journal) : d.Paced := by
  have hnow := h.current c.generation (by rw [hw]; rfl)
  have hone : 1 ≤ c.generation := hk.begun _ (by rw [hw]; rfl)
  obtain ⟨es, hes⟩ := hk.last cause hw
  have hrise := hk.ends
  rw [hes, List.map_append] at hrise
  have hlt : ∀ p ∈ es, p.1 < c.generation := by
    intro p hp
    exact (List.pairwise_append.mp hrise.rising).2.2 p.1 (List.mem_map_of_mem hp) c.generation (by simp)
  have hgrow : growth d.journal (c.generation + 1) =
      growth c.journal c.generation + if cause = .maintenance then 0 else 1 := by
    rw [growth, growth, lastFramed, he, hf]
    exact growth_succ hone hk.framed hes hlt
  have hstep : b.policy = c.config.reconnect.backoff ∧
      b.current = c.config.reconnect.backoff.base (growth d.journal (c.generation + 1)) := by
    rw [hgrow]
    unfold delayAfter at hd
    split at hd
    · cases hd
      exact ⟨h.policy, hnow⟩
    · rename_i hm
      cases hd
      rw [if_neg hm]
      refine ⟨h.policy, ?_⟩
      change c.worker.backoff.policy.grow c.worker.backoff.current = _
      rw [h.policy, hnow]
      rfl
  refine ⟨by rw [hb, hc, hstep.1], fun g hm => ?_, fun w hv => ?_⟩
  · rw [hs, hg] at hm
    cases hm
    rw [hb, hc, hstep.2]
  · rw [hs] at hv
    cases hv

theorem Deed.paced (hd : Deed e c os d) (hk : c.Counted) (h : c.Paced) : d.Paced := by
  have he : endings d.journal = endings c.journal ++ os.filterMap Occurrence.lost? :=
    hd.shown fun _ _ => rfl
  have hf : History.framed d.journal = History.framed c.journal ++ os.filterMap Occurrence.framed? :=
    hd.shown fun _ _ => rfl
  have quiet {α : Type} {l m : List α} (hq : l = m ++ []) : l = m := hq.trans (List.append_nil m)
  cases hd with
  | rest | ask | direct | refuse | close | closeAgain | signal | clone | dropHandle | read | readEnd
  | dropStream | pass | look | drop =>
    exact h.frame rfl rfl (quiet he) (quiet hf) (fun _ => id) fun w hw hh => ⟨rfl, w, hw, hh⟩
  | tend l m a hw =>
    refine h.frame rfl rfl (quiet he) (quiet hf) (fun g hg => ?_) fun w hv hh => ⟨rfl, w, ?_, hh⟩
    · rw [hw]
      exact hg
    · rw [hw]
      cases a with
      | writing o s => cases s <;> exact hv
      | _ => exact hv
  | meet _ _ hw | dial _ hw | announce _ hw | replay _ _ _ hw =>
    exact h.frame rfl rfl (quiet he) (quiet hf) (fun g hg => by rw [hw]; exact hg) fun w hv => nomatch hv
  | listen _ _ hw =>
    refine h.frame rfl rfl (quiet he) (quiet hf) (fun g hg => by rw [hw]; exact hg) fun w hv hh => ?_
    cases hv
    cases hh
  | written _ _ s _ hw =>
    refine h.frame rfl rfl (quiet he) (quiet hf) (fun g hg => by rw [hw]; exact hg) fun w hv hh => ?_
    cases s with
    | replay rest => cases hv
    | listen v => exact ⟨rfl, w, by rw [hw]; exact hv, hh⟩
  | execute _ w _ _ hw | skip _ w _ _ hw | beat _ w _ hw =>
    refine h.frame rfl rfl (quiet he) (quiet hf) (fun g hg => by rw [hw]; exact hg) fun v hv hh => ?_
    refine ⟨rfl, w, by rw [hw]; rfl, ?_⟩
    cases hv
    exact hh
  | crash | leave | decline | lateHeartbeat | depart | departLate | departAlone | giveUp | giveUpQuietly
  | leaveAlone | finish | release | abandon =>
    exact h.frame rfl rfl (quiet he) (quiet hf) (fun g hg => nomatch hg) fun w hv => nomatch hv
  | deliver _ _ _ _ _ _ _ _ hw _ _ _ _ hb | withhold _ _ _ _ _ _ _ _ _ _ hw _ _ _ _ hb
  | misread _ _ _ _ _ _ hw _ _ _ _ hb | despair _ _ _ _ hw _ _ hb =>
    exact h.frameIn hw rfl hb rfl hf fun g hg => (Option.some.inj hg).symm
  | failAttempt _ _ hw =>
    obtain hw | hw := hw <;> exact h.lose rfl rfl rfl rfl (by rw [hw]; rfl) he (quiet hf)
  | refused _ _ _ hw | idle _ _ hw => exact h.lose rfl rfl rfl rfl (by rw [hw]; rfl) he (quiet hf)
  | hangUp _ _ _ a hw hn =>
    rcases a with _ | _ | f
    · exact h.lose rfl rfl rfl rfl (by rw [hw]; rfl) he (quiet hf)
    · exact h.lose rfl rfl rfl rfl (by rw [hw]; rfl) he (quiet hf)
    · exact absurd rfl (hn f)
  | latePatience _ _ a =>
    cases a <;> exact ⟨h.policy, fun g hg => (nomatch hg), fun w hv => nomatch hv⟩
  | pause _ _ _ hw _ _ _ hc | pauseQuietly _ _ _ hw _ _ _ hc =>
    exact h.pause hk hw hc rfl rfl rfl rfl (quiet he) (quiet hf)
  | wake _ hw =>
    exact h.frame rfl rfl (quiet he) (quiet hf) (fun g hg => by rw [hw]; exact hg) fun w hv => nomatch hv
  | attempt hw =>
    exact h.frame rfl rfl (quiet he) (quiet hf) (fun g hg => by rw [hw]; exact hg) fun w hv => nomatch hv

theorem Reachable.paced (h : Reachable config tokens c) : c.Paced :=
  h.invariant ⟨rfl, fun _ hg => Option.some.inj hg ▸ rfl, fun _ hw => nomatch hw⟩
    fun hr hd ih => hd.paced hr.counted ih

/-! ### The pause -/

/-- The end of a generation was announced at a moment, with a delay after it as scheduled. -/
structure Pause (r : ReconnectPolicy) (j : List Entry) (g : Generation) (t : Instant)
    (delay : Duration) : Prop where
  announced : ⟨t, .published (.disconnected g)⟩ ∈ j
  paused : ⟨t, .paused g delay⟩ ∈ j
  scheduled : ∃ cause, (g, cause) ∈ endings j ∧ r.Schedules (growth j g) cause delay

/-- The delay after a generation, if there was one, is over by some moment. -/
def IsOver (r : ReconnectPolicy) (j : List Entry) (g : Generation) (u : Instant) : Prop :=
  g = 0 ∨ ∃ t delay, Pause r j g t delay ∧ t.deadline delay ≤ u

theorem IsOver.mono {r : ReconnectPolicy} {j : List Entry} {g : Generation} {u v : Instant}
    (h : IsOver r j g u) (huv : u ≤ v) : IsOver r j g v :=
  h.imp_right fun ⟨t, delay, hp, hu⟩ => ⟨t, delay, hp, Nat.le_trans hu huv⟩

theorem Deed.entries (hd : Deed e c os d) : ∀ x ∈ c.journal, x ∈ d.journal := by
  obtain ⟨n, hj, -⟩ := hd.extends
  intro x hx
  rw [hj]
  exact List.mem_append_right n hx

/-- What a deed adds counts for the present generation, and for that only while it is under way. -/
theorem Deed.fresh (hd : Deed e c os d) :
    (∀ g ∈ os.filterMap Occurrence.framed?, g = c.generation ∧ c.worker.stage.isUnderway = true) ∧
      ∀ p ∈ os.filterMap Occurrence.lost?, p.1 = c.generation ∧ c.worker.stage.isUnderway = true := by
  cases hd with
  | deliver _ _ _ _ _ _ _ _ hw | withhold _ _ _ _ _ _ _ _ _ _ hw | misread _ _ _ _ _ _ hw
  | despair _ _ _ _ hw | refused _ _ _ hw | idle _ _ hw =>
    simp [Occurrence.framed?, Occurrence.lost?, hw, Stage.isUnderway]
  | failAttempt _ _ hw =>
    rcases hw with hw | hw <;> simp [Occurrence.framed?, Occurrence.lost?, hw, Stage.isUnderway]
  | latePatience _ _ a hw | hangUp _ _ _ a hw =>
    rcases a with _ | _ | _ <;> simp [Occurrence.framed?, Occurrence.lost?, hw, Stage.isUnderway]
  | _ => exact ⟨fun _ hm => (nomatch hm), fun _ hm => nomatch hm⟩

/-- The delay after a generation that is over does not depend on what comes later. -/
theorem Pause.later {r : ReconnectPolicy} {g : Generation} {t : Instant} {delay : Duration}
    (hd : Deed e c os d) (hg : g < c.generation ∨ g = c.generation ∧ c.worker.stage.isUnderway = false)
    (h : Pause r c.journal g t delay) : Pause r d.journal g t delay := by
  have he : endings d.journal = endings c.journal ++ os.filterMap Occurrence.lost? :=
    hd.shown fun _ _ => rfl
  have hf : History.framed d.journal = History.framed c.journal ++ os.filterMap Occurrence.framed? :=
    hd.shown fun _ _ => rfl
  have hgrow : growth d.journal g = growth c.journal g := by
    refine growth_of_later hf he (fun f hm => ?_) fun p hm => ?_
    · obtain ⟨rfl, hu⟩ := hd.fresh.1 f hm
      rcases hg with hlt | ⟨-, hn⟩
      · exact hlt
      · cases hn.symm.trans hu
    · rw [(hd.fresh.2 p hm).1]
      exact hg.elim Nat.le_of_lt fun hn => Nat.le_of_eq hn.1
  obtain ⟨cause, hm, hs⟩ := h.scheduled
  refine ⟨hd.entries _ h.announced, hd.entries _ h.paused, cause, ?_, hgrow ▸ hs⟩
  rw [he]
  exact List.mem_append_left _ hm

theorem IsOver.later {r : ReconnectPolicy} {g : Generation} {u : Instant} (hd : Deed e c os d)
    (hg : g < c.generation ∨ g = c.generation ∧ c.worker.stage.isUnderway = false)
    (h : IsOver r c.journal g u) : IsOver r d.journal g u :=
  h.imp_right fun ⟨t, delay, hp, hu⟩ => ⟨t, delay, hp.later hd hg, hu⟩

/-- The delay that the worker finds after a generation is the one that is scheduled. -/
theorem Paced.schedules {cause : TransportFault} {chance : Nat} {delay : Duration} {b : Backoff}
    (h : c.Paced) (hw : c.worker.stage = .ending cause)
    (hd : c.delayAfter cause chance = (delay, b)) :
    c.config.reconnect.Schedules (growth c.journal c.generation) cause delay := by
  have hnow := h.current c.generation (by rw [hw]; rfl)
  unfold delayAfter at hd
  split at hd
  · cases hd
    exact rfl
  · rename_i hm
    cases hd
    rw [← h.policy] at hnow
    refine (if_neg hm).mpr ?_
    rw [← h.policy, ← Backoff.base_eq hnow]
    exact c.worker.backoff.allows_delay chance

/-- No generation begins before the delay after the one before is over. -/
structure Patient (c : Client) : Prop where
  resting : ∀ deadline, c.worker.stage = .pausing deadline → c.state.isTerminal = false →
    IsOver c.config.reconnect c.journal c.generation deadline
  rested : c.worker.stage = .starting → c.state.isTerminal = false →
    IsOver c.config.reconnect c.journal c.generation c.now
  record : ∀ g t, ⟨t, .published (.connecting (g + 1))⟩ ∈ c.journal →
    g < c.generation ∧ IsOver c.config.reconnect c.journal g t

/-- What a deed does not write was there before. -/
theorem Deed.old {o : Occurrence} {t : Instant} (hd : Deed e c os d) (ho : o.unanswering? = some o)
    (hn : o ∉ os) (h : ⟨t, o⟩ ∈ d.journal) : ⟨t, o⟩ ∈ c.journal := by
  obtain ⟨n, hj, hos⟩ := hd.extends
  rw [hj] at h
  refine (List.mem_append.mp h).resolve_left fun hm => hn ?_
  rw [← hos]
  exact mem_view.mpr ⟨_, hm, ho⟩

/-- Neither a generation nor a pause begins. -/
theorem Patient.frame (h : c.Patient) (hd : Deed e c os d) (hg : d.generation = c.generation)
    (hn : ∀ g, .published (.connecting g) ∉ os)
    (ht : d.state.isTerminal = false → c.state.isTerminal = false)
    (hp : ∀ deadline, d.worker.stage = .pausing deadline → c.worker.stage = .pausing deadline)
    (hs : d.worker.stage = .starting → c.worker.stage = .starting) : d.Patient := by
  obtain ⟨hc, -, hle⟩ := hd.frame
  refine ⟨fun deadline hw ho => ?_, fun hw ho => ?_, fun g t hm => ?_⟩
  · have hw := hp deadline hw
    rw [hc, hg]
    exact (h.resting deadline hw (ht ho)).later hd (.inr ⟨rfl, by rw [hw]; rfl⟩)
  · have hw := hs hw
    rw [hc, hg]
    exact ((h.rested hw (ht ho)).mono hle).later hd (.inr ⟨rfl, by rw [hw]; rfl⟩)
  · obtain ⟨hlt, ho⟩ := h.record g t (hd.old rfl (hn _) hm)
    rw [hc, hg]
    exact ⟨hlt, ho.later hd (.inl hlt)⟩

/-- What is announced of later generations keeps to the delays so far. -/
theorem Patient.record_later (h : c.Patient) (hd : Deed e c os d) {g : Generation} {t : Instant}
    (hm : ⟨t, .published (.connecting (g + 1))⟩ ∈ c.journal) :
    g < c.generation ∧ IsOver d.config.reconnect d.journal g t := by
  obtain ⟨hlt, ho⟩ := h.record g t hm
  rw [hd.frame.1]
  exact ⟨hlt, ho.later hd (.inl hlt)⟩

theorem Deed.patient (hd : Deed e c os d) (hk : c.Counted) (hb : c.Paced) (h : c.Patient) :
    d.Patient := by
  have same := hd
  have he : endings d.journal = endings c.journal ++ os.filterMap Occurrence.lost? :=
    hd.shown fun _ _ => rfl
  have hf : History.framed d.journal = History.framed c.journal ++ os.filterMap Occurrence.framed? :=
    hd.shown fun _ _ => rfl
  cases hd with
  | attempt hw ho =>
    have hover := (h.rested hw ho).later same (.inr ⟨rfl, by rw [hw]; rfl⟩)
    refine ⟨fun _ hn => (nomatch hn), fun hn => (nomatch hn), fun g t hm => ?_⟩
    rcases List.mem_cons.mp hm with heq | hm
    · cases heq
      exact ⟨Nat.lt_succ_self _, hover⟩
    · exact (h.record_later same hm).imp_left Nat.lt_succ_of_lt
  | abandon =>
    refine ⟨fun _ hn => (nomatch hn), fun hn => (nomatch hn), fun g t hm => ?_⟩
    exact (h.record_later same hm).imp_left Nat.lt_succ_of_lt
  | pause cause delay b hw ho hg chance hc =>
    refine ⟨fun deadline hs _ => ?_, fun hn => (nomatch hn), fun g t hm => ?_⟩
    · cases hs
      obtain ⟨es, hes⟩ := hk.last cause hw
      have hgrow : growth _ c.generation = growth c.journal c.generation :=
        growth_of_later hf he (fun _ hn => nomatch hn) fun _ hn => nomatch hn
      refine .inr ⟨c.now, delay, ⟨?_, List.mem_cons_self, cause, ?_, ?_⟩, Nat.le_refl _⟩
      · exact List.mem_cons_of_mem _ List.mem_cons_self
      · change (c.generation, cause) ∈ _
        rw [he, hes]
        simp
      · exact hgrow.symm ▸ hb.schedules hw hc
    · exact h.record_later same (same.old rfl (by simp) hm)
  | pauseQuietly _ _ _ _ ho =>
    refine ⟨fun _ _ hn => (nomatch ho.symm.trans hn), fun hn => (nomatch hn), fun g t hm => ?_⟩
    exact h.record_later same (same.old rfl (by simp) hm)
  | wake deadline hw hle =>
    refine ⟨fun _ hn => (nomatch hn), fun _ ho => ?_, fun g t hm => h.record_later same hm⟩
    exact ((h.resting deadline hw ho).mono hle).later same (.inr ⟨rfl, by rw [hw]; rfl⟩)
  | close => exact h.frame same rfl (by simp) (fun hn => nomatch hn) (fun _ => id) id
  | departAlone | leaveAlone | finish =>
    exact h.frame same rfl (by simp) (fun hn => nomatch hn) (fun _ hn => nomatch hn) fun hn => nomatch hn
  | announce _ _ ho | giveUp _ _ ho =>
    exact h.frame same rfl (by simp) (fun _ => ho) (fun _ hn => nomatch hn) fun hn => nomatch hn
  | latePatience _ _ a | hangUp _ _ _ a =>
    cases a <;> exact h.frame same rfl (by simp) id (fun _ hn => nomatch hn) fun hn => nomatch hn
  | tend | meet | crash | dial | leave | failAttempt | decline | replay | listen | lateHeartbeat | written
  | refused | depart | departLate | execute | skip | deliver | withhold | misread | despair | idle | beat
  | giveUpQuietly | release =>
    exact h.frame same rfl (by simp) id (fun _ hn => nomatch hn) fun hn => nomatch hn
  | rest | ask | direct | refuse | closeAgain | signal | clone | dropHandle | read | readEnd
  | dropStream | pass | look | drop => exact h.frame same rfl (by simp) id (fun _ => id) id

theorem Reachable.patient (h : Reachable config tokens c) : c.Patient :=
  h.invariant ⟨fun _ hw => (nomatch hw), fun _ _ => .inl rfl, fun _ _ hm => nomatch hm⟩
    fun hr hd ih => hd.patient hr.counted hr.paced ih

/-- How a run goes from one generation to the next. -/
structure KeepsDelays (c : Client) : Prop where
  ended : ((endings c.journal).map (·.1)).Pairwise (· < ·)
  announced : (announcedEnds c.journal).Pairwise (· < ·)
  /-- If the clock cannot hold the end of a delay, the delay is as long as a timer can be. -/
  waited : ∀ g u, g ≠ 0 → ⟨u, .published (.connecting (g + 1))⟩ ∈ c.journal →
    ∃ t delay, Pause c.config.reconnect c.journal g t delay ∧
      (t.add? delay ≠ none → t + delay.nanos ≤ u) ∧ (t.add? delay = none → t + Instant.far ≤ u)

/-- The next attempt is not announced before the delay after the end of the one before, which follows
from the causes and the frames of the generations so far. -/
theorem delays_kept (h : Reachable config tokens c) : c.KeepsDelays where
  ended := h.counted.ends.rising
  announced := h.counted.announced.rising
  waited g u hg hm := by
    obtain ⟨t, delay, hp, hle⟩ := (h.patient.record g u hm).2.resolve_left hg
    refine ⟨t, delay, hp, fun hin => ?_, fun hout => ?_⟩
    · obtain ⟨v, hv⟩ := Option.ne_none_iff_exists'.mp hin
      rw [Instant.deadline, hv] at hle
      rw [← Instant.add?_eq_some hv]
      exact hle
    · rw [Instant.deadline, hout] at hle
      exact hle

/-- An attempt fails, another one finds the server in maintenance, one more fails, with jitter, and then
a session is lost that a frame came in on. -/
def faltering : List Event :=
  [.work 0, .work 0, .dialAnswer (.fault .closed), .work 0,
    .pass 250000000, .work 0, .work 0, .work 0, .dialAnswer (.fault .maintenance), .work 0,
    .pass 1000000000, .work 0, .work 0, .work 0, .dialAnswer (.fault .closed), .work 400,
    .pass 750000000, .work 0, .work 0, .work 0, .dialAnswer (.link none), .work 0, .work 0,
    .arrive (.ok (.text "")), .work 0, .hangUp, .work 0, .work 0, .pass 250000000, .work 0, .work 0]

theorem faltering_delays_kept : ∃ c, (initial .loopback fun _ => none).run faltering = some c ∧
    pauses c.journal = [(1, .ofMillis 250), (2, .ofSeconds 1), (3, .ofMillis 750), (4, .ofMillis 250)] ∧
    c.state = .connecting 5 ∧ c.KeepsDelays := by
  have hr : ((initial .loopback fun _ => none).run faltering).map (fun c => (pauses c.journal, c.state)) =
      some ([(1, .ofMillis 250), (2, .ofSeconds 1), (3, .ofMillis 750), (4, .ofMillis 250)],
        .connecting 5) := by
    decide +kernel
  obtain ⟨c, hc, hv⟩ := Option.map_eq_some_iff.mp hr
  simp only [Prod.mk.injEq] at hv
  exact ⟨c, hc, hv.1, hv.2, delays_kept (.ofRun hc)⟩

end Client

/-- Settings that pass the checks although the clock cannot hold the end of a maintenance. -/
def Config.distant : Config :=
  { Config.loopback with reconnect := { Config.loopback.reconnect with maintenanceDelay := .longest } }

lemma Config.distant_isValid : Config.distant.isValid = true := by decide +kernel

namespace Client

/-- The first attempt finds the server in maintenance, and a timer cannot be set to a later end. -/
def distantRun : List Event :=
  [.work 0, .work 0, .dialAnswer (.fault .maintenance), .work 0, .pass Instant.far, .work 0, .work 0]

/-- With settings that the clock cannot hold, an attempt begins before its delay is over. -/
theorem distant_delay_cut : ¬ ∀ (config : Config) (tokens : Nat → Option String) (c : Client),
    Reachable config tokens c → ∀ g u, g ≠ 0 → ⟨u, .published (.connecting (g + 1))⟩ ∈ c.journal →
      ∃ t delay, Pause c.config.reconnect c.journal g t delay ∧ t + delay.nanos ≤ u := by
  intro hall
  have hr : ((initial .distant fun _ => none).run distantRun).map
      (fun c => (c.journal.head?.map fun e => (e.time, e.what.state?), endings c.journal,
        c.config.reconnect.maintenanceDelay)) =
          some (some (Instant.far, some (.connecting 2)), [(1, .maintenance)], .longest) := by
    decide +kernel
  obtain ⟨c, hc, hv⟩ := Option.map_eq_some_iff.mp hr
  simp only [Prod.mk.injEq] at hv
  obtain ⟨hj, he, hd⟩ := hv
  have hm : ⟨Instant.far, .published (.connecting 2)⟩ ∈ c.journal := by
    obtain ⟨⟨time, what⟩, hx, hn⟩ := Option.map_eq_some_iff.mp hj
    obtain ⟨rfl, hs⟩ := Prod.mk.inj hn
    cases what <;> cases hs
    exact List.mem_of_mem_head? hx
  obtain ⟨t, delay, hp, hle⟩ := hall .distant _ c ((Reachable.initial Config.distant_isValid).run hc) 1
    Instant.far Nat.one_ne_zero hm
  obtain ⟨cause, hm, hs⟩ := hp.scheduled
  rw [he] at hm
  cases List.mem_singleton.mp hm
  obtain rfl : delay = .longest := hs.trans hd
  have hlong : Instant.far < Duration.longest.nanos := by decide
  exact Nat.not_le.mpr hlong (Nat.le_trans (Nat.le_add_left _ t) hle)

end Client

end MarketFeed
