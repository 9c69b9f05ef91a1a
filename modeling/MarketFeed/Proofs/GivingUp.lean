import MarketFeed.Proofs.Desertion
import MarketFeed.Proofs.Survival

/-!
Giving up. A limit counts the attempts that have failed one after another since the last one that was met
with a connection. When a generation ends and the limit is reached the worker stops, and without a close it
never stops else.
-/

namespace MarketFeed

namespace Occurrence

/-- The attempt that was met with a connection. -/
def met? : Occurrence → Option Generation
  | opened g _ => some g
  | _ => none

/-- The attempt or session that was over. -/
def ended? (o : Occurrence) : Option Generation := o.lost?.map (·.1)

/-- Whether the worker goes on trying to be on a session. -/
def isTry : Occurrence → Bool
  | published (.connecting _) | dialed .. | opened .. | lost .. | paused .. => true
  | _ => false

variable {o : Occurrence}

lemma met?_of_not_isTry (h : o.isTry = false) : o.met? = none := by
  cases o <;> first | rfl | cases h

lemma ended?_of_not_isTry (h : o.isTry = false) : o.ended? = none := by
  cases o <;> first | rfl | cases h

lemma dial?_of_not_isTry (h : o.isTry = false) : o.dial? = none := by
  cases o <;> first | rfl | cases h

end Occurrence

namespace History

/-- The latest attempt that was met with a connection, and zero before the first. -/
def lastMet (os : List Occurrence) : Generation := (os.filterMap Occurrence.met?).getLast?.getD 0

/-- How many of some generations came after that attempt. -/
def sinceMet (f : Occurrence → Option Generation) (os : List Occurrence) : Nat :=
  (os.filterMap f).countP (lastMet os < ·)

/-- How many attempts have failed since. The end of the session that was met is none of them. -/
def failedInRow (os : List Occurrence) : Nat := sinceMet Occurrence.ended? os

/-- How many connections were asked for since. -/
def dialedInRow (os : List Occurrence) : Nat := sinceMet Occurrence.dial? os

variable {f : Occurrence → Option Generation} {os ps : List Occurrence} {g : Generation} {n : Nat}

lemma lastMet_append (h : ps.filterMap Occurrence.met? = []) : lastMet (os ++ ps) = lastMet os := by
  simp [lastMet, h]

lemma lastMet_opened : lastMet (os ++ [.opened g n]) = g := by
  simp [lastMet, Occurrence.met?]

lemma sinceMet_append (h : ps.filterMap Occurrence.met? = []) :
    sinceMet f (os ++ ps) = sinceMet f os + (ps.filterMap f).countP (lastMet os < ·) := by
  simp [sinceMet, lastMet_append h]

/-- Where nothing is tried the counts stay. -/
theorem sinceMet_untried (hf : ∀ o : Occurrence, o.isTry = false → f o = none)
    (h : ∀ o ∈ ps, o.isTry = false) : sinceMet f (os ++ ps) = sinceMet f os := by
  have hm : ps.filterMap Occurrence.met? = [] :=
    List.filterMap_eq_nil_iff.mpr fun o ho => Occurrence.met?_of_not_isTry (h o ho)
  have he : ps.filterMap f = [] := List.filterMap_eq_nil_iff.mpr fun o ho => hf o (h o ho)
  rw [sinceMet_append hm, he]
  rfl

/-- A connection starts every count anew. -/
theorem sinceMet_opened (hf : f (.opened g n) = none) (h : ∀ m ∈ os.filterMap f, m ≤ g) :
    sinceMet f (os ++ [.opened g n]) = 0 := by
  refine List.countP_eq_zero.mpr fun m hm => ?_
  rw [List.filterMap_append, List.filterMap_cons_none hf, List.filterMap_nil, List.append_nil] at hm
  rw [lastMet_opened]
  simpa using h m hm

end History

open History

/-- Whether the worker is on its way to a connection. -/
def Stage.isTrying : Stage → Bool
  | calling | dialing _ => true
  | _ => false

def Stage.isDialing : Stage → Bool
  | dialing _ => true
  | _ => false

/-- How many steps a worker that has given up takes until the end is announced. -/
def Stage.toStop : Stage → Nat
  | ending _ => 2
  | leaving => 1
  | _ => 0

lemma Stage.toStop_le_two (p : Stage) : p.toStop ≤ 2 := by
  unfold toStop
  split <;> decide

namespace Client

variable {b c d : Client} {e : Event} {os : List Occurrence} {config : Config}
  {tokens : Nat → Option String}

/-! ### The counts -/

/-- The worker's count is that of the history. -/
structure Tallied (c : Client) : Prop where
  failed : c.worker.failedAttempts = failedInRow (happened c.journal)
  latest : ∀ g ∈ (happened c.journal).filterMap Occurrence.met?, g ≤ lastMet (happened c.journal)
  reached : lastMet (happened c.journal) ≤ c.generation
  trying : c.worker.stage.isTrying = true → lastMet (happened c.journal) < c.generation
  met : ∀ l a, c.worker.stage = .session l a → lastMet (happened c.journal) = c.generation

/-- An attempt that fails counts. -/
theorem Tallied.countP_trying (h : c.Tallied) (ht : c.worker.stage.isTrying = true) :
    [c.generation].countP (lastMet (happened c.journal) < ·) = 1 := by
  simp [h.trying ht]

/-- The end of a session does not count. -/
theorem Tallied.countP_session {l : Link} {a : Activity} (h : c.Tallied)
    (hw : c.worker.stage = .session l a) :
    [c.generation].countP (lastMet (happened c.journal) < ·) = 0 := by
  simp [h.met l a hw]

/-- No attempt is met with a connection. -/
theorem Tallied.frame (h : c.Tallied) (hj : happened d.journal = happened c.journal ++ os)
    (hm : os.filterMap Occurrence.met? = []) (hf : d.worker.failedAttempts = c.worker.failedAttempts +
      (os.filterMap Occurrence.ended?).countP (lastMet (happened c.journal) < ·))
    (hg : c.generation ≤ d.generation)
    (ht : d.worker.stage.isTrying = true →
      c.worker.stage.isTrying = true ∧ d.generation = c.generation ∨ c.generation < d.generation)
    (hs : ∀ l a, d.worker.stage = .session l a →
      (∃ m b, c.worker.stage = .session m b) ∧ d.generation = c.generation) : d.Tallied := by
  have hlast : lastMet (happened d.journal) = lastMet (happened c.journal) := by
    rw [hj, lastMet_append hm]
  refine ⟨?_, fun g hmem => ?_, ?_, fun hd => ?_, fun l a hd => ?_⟩
  · rw [hf, hj, failedInRow, sinceMet_append hm, h.failed, failedInRow]
  · rw [hj, List.filterMap_append, hm, List.append_nil] at hmem
    rw [hlast]
    exact h.latest g hmem
  · rw [hlast]
    exact Nat.le_trans h.reached hg
  · rw [hlast]
    rcases ht hd with ⟨hc, heq⟩ | hlt
    · rw [heq]
      exact h.trying hc
    · exact Nat.lt_of_le_of_lt h.reached hlt
  · obtain ⟨⟨m, b, hc⟩, heq⟩ := hs l a hd
    rw [hlast, heq]
    exact h.met m b hc

lemma filterMap_ended (j : List Entry) :
    (happened j).filterMap Occurrence.ended? = (endings j).map (·.1) := by
  rw [filterMap_happened fun _ _ => rfl, endings, view, view, List.map_filterMap]
  rfl

/-- An attempt that is under way comes after all that have ended. -/
theorem Reachable.ended_lt (h : Reachable config tokens c) (hu : c.worker.stage.isUnderway = true) :
    ∀ g ∈ (happened c.journal).filterMap Occurrence.ended?, g < c.generation := by
  rw [filterMap_ended]
  exact h.counted.ends.below fun hn => nomatch hn.symm.trans hu

/-- A connection is there, and the counts start anew. -/
theorem Tallied.meet {n : Nat} (h : c.Tallied) (hc : Reachable config tokens c)
    (ht : c.worker.stage.isTrying = true)
    (hj : happened d.journal = happened c.journal ++ [.opened c.generation n])
    (hf : d.worker.failedAttempts = 0) (hg : d.generation = c.generation)
    (hs : d.worker.stage.isTrying = false) : d.Tallied := by
  have hu : c.worker.stage.isUnderway = true := by
    cases hw : c.worker.stage <;> rw [hw] at ht <;> first | rfl | cases ht
  refine ⟨?_, fun g hm => ?_, ?_, fun hn => (nomatch hs.symm.trans hn), fun _ _ _ => ?_⟩
  · rw [hf, hj, failedInRow, sinceMet_opened rfl fun m hm => Nat.le_of_lt (hc.ended_lt hu m hm)]
  · rw [hj, List.filterMap_append] at hm
    rw [hj, lastMet_opened]
    rcases List.mem_append.mp hm with hm | hm
    · exact Nat.le_trans (h.latest g hm) h.reached
    · exact Nat.le_of_eq (List.mem_singleton.mp hm)
  · rw [hj, lastMet_opened, hg]
  · rw [hj, lastMet_opened, hg]

theorem Deed.tallied (hd : Deed e c os d) (hc : Reachable config tokens c) (h : c.Tallied) :
    d.Tallied := by
  have ha := hd.adds
  cases hd with
  | rest | ask | direct | refuse | close | closeAgain | signal | clone | dropHandle | read | readEnd
  | dropStream | pass | look | drop =>
    exact h.frame ha rfl rfl (Nat.le_refl _) (fun ht => .inl ⟨ht, rfl⟩) fun l a hs => ⟨⟨l, a, hs⟩, rfl⟩
  | tend _ _ _ hw | announce _ hw | replay _ _ _ hw | listen _ _ hw | written _ _ _ _ hw
  | execute _ _ _ _ hw | skip _ _ _ _ hw | deliver _ _ _ _ _ _ _ _ hw
  | withhold _ _ _ _ _ _ _ _ _ _ hw | misread _ _ _ _ _ _ hw | beat _ _ _ hw =>
    exact h.frame ha rfl rfl (Nat.le_refl _) (fun ht => nomatch ht) fun _ _ _ => ⟨⟨_, _, hw⟩, rfl⟩
  | meet deadline _ hw => exact h.meet hc (by rw [hw]; rfl) ha rfl rfl rfl
  | attempt =>
    exact h.frame ha rfl rfl (Nat.le_succ _) (fun _ => .inr (Nat.lt_succ_self _)) fun _ _ hs => nomatch hs
  | abandon => exact h.frame ha rfl rfl (Nat.le_succ _) (fun ht => nomatch ht) fun _ _ hs => nomatch hs
  | dial _ hw =>
    exact h.frame ha rfl rfl (Nat.le_refl _) (fun _ => .inl ⟨by rw [hw]; rfl, rfl⟩) fun _ _ hs => nomatch hs
  | failAttempt _ _ hw =>
    have ht : c.worker.stage.isTrying = true := by rcases hw with hw | hw <;> rw [hw] <;> rfl
    exact h.frame ha rfl (congrArg (c.worker.failedAttempts + ·) (h.countP_trying ht).symm) (Nat.le_refl _)
      (fun hn => nomatch hn) fun _ _ hs => nomatch hs
  | refused _ _ _ hw | despair _ _ _ _ hw | idle _ _ hw =>
    exact h.frame ha rfl (congrArg (c.worker.failedAttempts + ·) (h.countP_session hw).symm) (Nat.le_refl _)
      (fun hn => nomatch hn) fun _ _ hs => nomatch hs
  | hangUp _ _ _ a hw =>
    cases a <;> exact h.frame ha rfl (congrArg (c.worker.failedAttempts + ·) (h.countP_session hw).symm)
      (Nat.le_refl _) (fun hn => nomatch hn) fun _ _ hs => nomatch hs
  | latePatience _ _ a =>
    cases a <;> exact h.frame ha rfl rfl (Nat.le_refl _) (fun ht => nomatch ht) fun _ _ hs => nomatch hs
  | _ => exact h.frame ha rfl rfl (Nat.le_refl _) (fun ht => nomatch ht) fun _ _ hs => nomatch hs

theorem Reachable.tallied (h : Reachable config tokens c) : c.Tallied :=
  h.invariant ⟨rfl, fun _ hm => (nomatch hm), Nat.le_refl 0, fun ht => (nomatch ht), fun _ _ hs => nomatch hs⟩
    fun hr hd ih => hd.tallied hr ih

/-- Before the worker leaves, a connection was asked for in every attempt that has failed, and in the one
that is not answered yet. -/
def DialsOnce (c : Client) : Prop :=
  c.worker.stage.isDeparted = false → dialedInRow (happened c.journal) =
    failedInRow (happened c.journal) + if c.worker.stage.isDialing then 1 else 0

theorem Deed.dialsOnce (hd : Deed e c os d) (hc : Reachable config tokens c) (h : c.DialsOnce) :
    d.DialsOnce := by
  intro hstay
  have ha := hd.adds
  have row (f : Occurrence → Option Generation) (hm : os.filterMap Occurrence.met? = []) :
      sinceMet f (happened d.journal) = sinceMet f (happened c.journal) +
        (os.filterMap f).countP (lastMet (happened c.journal) < ·) := by
    rw [hd.adds, sinceMet_append hm]
  -- Nothing is asked for and no attempt fails.
  have still (hm : os.filterMap Occurrence.met? = []) (hdial : os.filterMap Occurrence.dial? = [])
      (hend : (os.filterMap Occurrence.ended?).countP (lastMet (happened c.journal) < ·) = 0)
      (hl : c.worker.stage.isDeparted = false)
      (hs : d.worker.stage.isDialing = c.worker.stage.isDialing) :
      dialedInRow (happened d.journal) =
        failedInRow (happened d.journal) + if d.worker.stage.isDialing then 1 else 0 := by
    rw [dialedInRow, failedInRow, row _ hm, row _ hm, hdial, hend, hs]
    exact h hl
  cases hd with
  | rest | ask | direct | refuse | close | closeAgain | signal | clone | dropHandle | read | readEnd
  | dropStream | pass | look | drop => exact still rfl rfl rfl hstay rfl
  | tend _ _ _ hw | announce _ hw | replay _ _ _ hw | listen _ _ hw | written _ _ _ _ hw
  | execute _ _ _ _ hw | skip _ _ _ _ hw | deliver _ _ _ _ _ _ _ _ hw
  | withhold _ _ _ _ _ _ _ _ _ _ hw | misread _ _ _ _ _ _ hw | beat _ _ _ hw | attempt hw | wake _ hw
  | pause _ _ _ hw | pauseQuietly _ _ _ hw => exact still rfl rfl rfl (by rw [hw]; rfl) (by rw [hw]; rfl)
  | refused _ _ _ hw | despair _ _ _ _ hw | idle _ _ hw =>
    exact still rfl rfl (hc.tallied.countP_session hw) (by rw [hw]; rfl) (by rw [hw]; rfl)
  | hangUp _ _ _ a hw =>
    cases a <;> exact still rfl rfl (hc.tallied.countP_session hw) (by rw [hw]; rfl) (by rw [hw]; rfl)
  | meet _ _ hw =>
    have hfail := hc.ended_lt (by rw [hw]; rfl)
    have hdial : ∀ g ∈ (happened c.journal).filterMap Occurrence.dial?, g ≤ c.generation := by
      rw [filterMap_happened fun _ _ => rfl]
      exact hc.dialed.reached
    rw [ha, dialedInRow, failedInRow, sinceMet_opened rfl hdial,
      sinceMet_opened rfl fun m hm => Nat.le_of_lt (hfail m hm)]
    rfl
  | dial _ hw =>
    have hold : dialedInRow (happened c.journal) = failedInRow (happened c.journal) := by
      rw [h (by rw [hw]; rfl), hw]
      rfl
    have hone := hc.tallied.countP_trying (by rw [hw]; rfl)
    rw [dialedInRow, failedInRow, row _ rfl, row _ rfl]
    exact congrArg₂ (· + ·) hold hone
  | failAttempt _ _ hw he =>
    rcases hw with hw | hw
    · obtain ⟨fault, hf⟩ := he hw
      obtain ⟨endpoint, hok⟩ := config.endpoint_of_isValid hc.isValid c.nextToken
      rw [hc.config_eq, hok] at hf
      cases hf
    · have hold : dialedInRow (happened c.journal) = failedInRow (happened c.journal) + 1 := by
        rw [h (by rw [hw]; rfl), hw]
        rfl
      have hone := hc.tallied.countP_trying (by rw [hw]; rfl)
      rw [dialedInRow, failedInRow, row _ rfl, row _ rfl]
      exact hold.trans (congrArg (failedInRow (happened c.journal) + ·) hone.symm)
  | _ => cases hstay

theorem Reachable.dialsOnce (h : Reachable config tokens c) : c.DialsOnce :=
  h.invariant (P := DialsOnce) (fun _ => rfl) fun hr hd ih => hd.dialsOnce hr ih

/-! ### The limit -/

/-- Whether the worker will not try any more: the limit was reached, or it has left. -/
def Stopping (c : Client) : Prop :=
  (∃ cause, c.worker.stage = .ending cause) ∧ c.givesUp = true ∨ c.worker.stage.isDeparted = true

lemma givesUp_of_reached {most : Nat} (hm : c.config.reconnect.maxAttempts = some most)
    (h : most ≤ c.worker.failedAttempts) : c.givesUp = true := by
  rw [givesUp, hm]
  exact decide_eq_true h

/-- A worker that is about to stop tries nothing, and nothing holds it up. -/
theorem Deed.stopping (hd : Deed e c os d) (h : c.Stopping) :
    d.Stopping ∧ (∀ o ∈ os, o.isTry = false) ∧ d.generation = c.generation ∧
      d.worker.failedAttempts = c.worker.failedAttempts ∧
        d.worker.stage.toStop ≤ c.worker.stage.toStop := by
  have away {p : Stage} (hw : c.worker.stage = p) (he : ∀ cause, p ≠ .ending cause)
      (hp : p.isDeparted = false) : False := by
    subst hw
    rcases h with ⟨⟨cause, hs⟩, -⟩ | hl
    · exact he cause hs
    · cases hp.symm.trans hl
  have spent {cause : TransportFault} (hw : c.worker.stage = .ending cause) (hg : c.givesUp = false) :
      False := by
    rcases h with ⟨-, hu⟩ | hl
    · cases hg.symm.trans hu
    · rw [hw] at hl
      cases hl
  cases hd with
  | rest | ask | direct | refuse | close | closeAgain | signal | clone | dropHandle | read | readEnd
  | dropStream | pass | look => exact ⟨h, by simp [Occurrence.isTry], rfl, rfl, Nat.le_refl _⟩
  | giveUp _ hw | giveUpQuietly _ hw =>
    exact ⟨.inr rfl, by simp [Occurrence.isTry], rfl, rfl, by rw [hw]; exact Nat.le_succ 1⟩
  | finish hw | release _ hw =>
    exact ⟨.inr rfl, by simp [Occurrence.isTry], rfl, rfl, by rw [hw]; exact Nat.zero_le _⟩
  | pause _ _ _ hw _ hg | pauseQuietly _ _ _ hw _ hg => exact (spent hw hg).elim
  | leave _ _ hw =>
    rcases hw with hw | hw | hw <;> exact (away hw nofun rfl).elim
  | failAttempt _ _ hw => rcases hw with hw | hw <;> exact (away hw nofun rfl).elim
  | crash _ _ hw =>
    refine (away rfl (fun cause hs => ?_) (Stage.not_departed_of_awaits hw)).elim
    rw [hs] at hw
    cases hw
  | tend _ _ _ hw | meet _ _ hw | attempt hw | abandon hw | dial _ hw | announce _ hw | decline _ hw
  | replay _ _ _ hw | listen _ _ hw | lateHeartbeat _ hw | written _ _ _ _ hw | refused _ _ _ hw
  | depart _ _ hw | departLate _ _ hw | execute _ _ _ _ hw | skip _ _ _ _ hw | departAlone _ _ hw
  | latePatience _ _ _ hw | hangUp _ _ _ _ hw | deliver _ _ _ _ _ _ _ _ hw | withhold _ _ _ _ _ _ _ _ _ _ hw
  | misread _ _ _ _ _ _ hw | despair _ _ _ _ hw | idle _ _ hw | beat _ _ _ hw | wake _ hw
  | drop _ _ _ hw | leaveAlone _ hw => exact (away hw nofun rfl).elim

/-- No more attempts fail than the limit allows, and with the last one the worker is about to stop. -/
def KeepsLimit (c : Client) : Prop :=
  ∀ most, c.config.reconnect.maxAttempts = some most → 0 < most →
    c.worker.failedAttempts < most ∨ c.worker.failedAttempts = most ∧ c.Stopping

theorem Deed.keepsLimit (hd : Deed e c os d) (h : c.KeepsLimit) : d.KeepsLimit := by
  intro most hm hpos
  have hc : d.config = c.config := hd.frame.1
  rcases h most (hc ▸ hm) hpos with hlt | ⟨heq, hs⟩
  · cases hd with
    | meet => exact .inl hpos
    | failAttempt =>
      rcases Nat.lt_or_eq_of_le hlt with hlt | heq
      · exact .inl hlt
      · exact .inr ⟨heq, .inl ⟨⟨_, rfl⟩, givesUp_of_reached hm (Nat.le_of_eq heq.symm)⟩⟩
    | latePatience _ _ a | hangUp _ _ _ a => cases a <;> exact .inl hlt
    | _ => exact .inl hlt
  · obtain ⟨hstop, -, -, hf, -⟩ := hd.stopping hs
    exact .inr ⟨hf.trans heq, hstop⟩

theorem Reachable.keepsLimit (h : Reachable config tokens c) : c.KeepsLimit :=
  h.invariant (P := KeepsLimit) (fun _ _ hpos => .inl hpos) fun _ hd ih => hd.keepsLimit ih

end Client

/-- Whether as many attempts have failed one after another as a limit allows. -/
def ReconnectPolicy.IsReached (r : ReconnectPolicy) (os : List Occurrence) : Prop :=
  ∃ most, r.maxAttempts = some most ∧ most ≤ failedInRow os

namespace Client

variable {b c d : Client} {e : Event} {os : List Occurrence} {config : Config}
  {tokens : Nat → Option String}

lemma Tallied.isReached_iff (h : c.Tallied) :
    c.config.reconnect.IsReached (happened c.journal) ↔ c.givesUp = true := by
  rw [ReconnectPolicy.IsReached, ← h.failed]
  exact ⟨fun ⟨_, hm, hle⟩ => givesUp_of_reached hm hle, givesUp_eq_true⟩

/-! ### The last generation -/

theorem Deed.losesLast {lead after : List Occurrence} {g : Generation} {cause : TransportFault}
    (hd : Deed e c os d) (ho : os = lead ++ .lost g cause :: after) :
    after = [] ∧ g = c.generation ∧ d.generation = c.generation ∧ d.worker.stage = .ending cause := by
  have hmem : .lost g cause ∈ os := by
    rw [ho]
    exact List.mem_append_right _ List.mem_cons_self
  cases hd with
  | failAttempt | idle =>
    obtain ⟨-, ⟨hg, rfl⟩, ha⟩ : lead = [] ∧ (g = _ ∧ cause = _) ∧ after = [] := by
      simpa [List.cons_eq_append_iff] using ho
    exact ⟨ha, hg, rfl, rfl⟩
  | refused | despair =>
    obtain ⟨-, ⟨hg, rfl⟩, ha⟩ : lead = [_] ∧ (g = _ ∧ cause = _) ∧ after = [] := by
      simpa [List.cons_eq_append_iff] using ho
    exact ⟨ha, hg, rfl, rfl⟩
  | hangUp _ _ _ a =>
    cases a with
    | none =>
      obtain ⟨-, ⟨hg, rfl⟩, ha⟩ : lead = [] ∧ (g = _ ∧ cause = _) ∧ after = [] := by
        simpa [List.cons_eq_append_iff] using ho
      exact ⟨ha, hg, rfl, rfl⟩
    | some a =>
      obtain ⟨-, ⟨hg, rfl⟩, ha⟩ : lead = [_] ∧ (g = _ ∧ cause = _) ∧ after = [] := by
        simpa [List.cons_eq_append_iff] using ho
      exact ⟨ha, hg, rfl, rfl⟩
  | latePatience _ _ a => cases a <;> simp at hmem
  | _ => simp at hmem

/-- When a generation was lost, its end was all that had happened, and it was the last. -/
theorem Reachable.losesLast {before after : List Occurrence} {g : Generation} {cause : TransportFault}
    (h : Reachable config tokens c) (hj : happened c.journal = before ++ .lost g cause :: after) :
    ∃ b es, Reachable config tokens b ∧ b.run es = some c ∧ b.worker.stage = .ending cause ∧
      b.generation = g ∧ happened b.journal = before ++ [.lost g cause] := by
  induction h generalizing after with
  | initial hv => exact absurd hj initial_uncut
  | step e hr hs ih =>
    obtain ⟨os, hd⟩ := hr.deed hs
    rw [hd.adds] at hj
    rcases append_cut hj with ⟨mid, hold, rfl⟩ | ⟨lead, rfl, hnew⟩
    · obtain ⟨b, es, hb, hrun, hlost⟩ := ih hold
      exact ⟨b, es ++ [e], hb, run_of_append hrun (run_of_step hs rfl), hlost⟩
    · obtain ⟨rfl, hg, hgen, hw⟩ := hd.losesLast hnew
      refine ⟨_, [], hr.step e hs, rfl, hw, hgen.trans hg.symm, ?_⟩
      rw [hd.adds, hnew, List.append_assoc]

/-- A worker at the end of a generation has not tried anything since. -/
def EndsLast (c : Client) : Prop :=
  ∀ cause, c.worker.stage = .ending cause → ∃ before after,
    happened c.journal = before ++ .lost c.generation cause :: after ∧ ∀ o ∈ after, o.isTry = false

theorem Deed.endsLast (hd : Deed e c os d) (h : c.EndsLast) : d.EndsLast := by
  intro cause hw
  -- The generation ends with the last of what happens.
  have now (lead : List Occurrence) (ho : os = lead ++ [.lost d.generation cause]) : ∃ before after,
      happened d.journal = before ++ .lost d.generation cause :: after ∧
        ∀ o ∈ after, o.isTry = false :=
    ⟨happened c.journal ++ lead, [], by rw [hd.adds, ho, List.append_assoc], List.forall_mem_nil _⟩
  have still (hc : c.worker.stage = .ending cause) (hg : d.generation = c.generation)
      (ho : ∀ o ∈ os, o.isTry = false) : ∃ before after,
        happened d.journal = before ++ .lost d.generation cause :: after ∧
          ∀ o ∈ after, o.isTry = false := by
    obtain ⟨before, after, hj, hn⟩ := h cause hc
    refine ⟨before, after ++ os, ?_, List.forall_mem_append.mpr ⟨hn, ho⟩⟩
    rw [hd.adds, hj, hg, List.append_assoc, List.cons_append]
  cases hd with
  | rest | ask | direct | refuse | close | closeAgain | signal | clone | dropHandle | read | readEnd
  | dropStream | pass | look => exact still hw rfl (by simp [Occurrence.isTry])
  | failAttempt | idle =>
    cases hw
    exact now [] rfl
  | refused | despair =>
    cases hw
    exact now [_] rfl
  | hangUp _ _ _ a =>
    cases a <;> cases hw
    · exact now [] rfl
    · exact now [_] rfl
  | latePatience _ _ a => cases a <;> cases hw
  | drop _ _ _ hp => cases hp.symm.trans hw
  | _ => cases hw

theorem Reachable.endsLast (h : Reachable config tokens c) : c.EndsLast :=
  h.invariant (P := EndsLast) (fun _ hw => nomatch hw) fun _ hd ih => hd.endsLast ih

/-- A generation has ended, and with it the limit was reached. -/
def Reaches (c : Client) (g : Generation) (os after : List Occurrence) : Prop :=
  (∃ before cause, os = before ++ [.lost g cause]) ∧ happened c.journal = os ++ after ∧
    c.config.reconnect.IsReached os

variable {g : Generation} {after : List Occurrence}

/-- A worker that gives up has reached the limit with a generation. -/
theorem Reachable.reaches_of_givesUp {cause : TransportFault} (h : Reachable config tokens c)
    (hw : c.worker.stage = .ending cause) (hg : c.givesUp = true) :
    ∃ os after, c.Reaches c.generation os after := by
  obtain ⟨before, after, hj, hn⟩ := h.endsLast cause hw
  have hj : happened c.journal = (before ++ [.lost c.generation cause]) ++ after := by
    rw [hj, List.append_assoc, List.singleton_append]
  obtain ⟨most, hm, hle⟩ := h.tallied.isReached_iff.mpr hg
  rw [hj, failedInRow, sinceMet_untried (fun _ => Occurrence.ended?_of_not_isTry) hn] at hle
  exact ⟨_, after, ⟨before, cause, rfl⟩, hj, most, hm, hle⟩

/-- What the worker gives up after. -/
def GivesUpReached (c : Client) : Prop :=
  ∀ g, .gaveUp g ∈ happened c.journal → ∃ os after, c.Reaches g os after

theorem Reaches.later {before : List Occurrence} (h : c.Reaches g before after)
    (hd : Deed e c os d) : d.Reaches g before (after ++ os) := by
  obtain ⟨hlost, hj, hr⟩ := h
  refine ⟨hlost, ?_, hd.frame.1 ▸ hr⟩
  rw [hd.adds, hj, List.append_assoc]

theorem Deed.givesUpReached (hd : Deed e c os d) (hc : Reachable config tokens c)
    (h : c.GivesUpReached) : d.GivesUpReached := by
  intro g hm
  rw [hd.adds] at hm
  rcases List.mem_append.mp hm with hm | hm
  · obtain ⟨before, after, hr⟩ := h g hm
    exact ⟨before, _, hr.later hd⟩
  · have now {cause : TransportFault} (hw : c.worker.stage = .ending cause) (hg : c.givesUp = true) :
        ∃ os after, d.Reaches c.generation os after := by
      obtain ⟨before, after, hr⟩ := hc.reaches_of_givesUp hw hg
      exact ⟨before, _, hr.later hd⟩
    cases hd with
    | giveUp _ hw _ hg | giveUpQuietly _ hw _ hg =>
      obtain rfl : g = c.generation := by simpa using hm
      exact now hw hg
    | latePatience _ _ a | hangUp _ _ _ a => cases a <;> simp at hm
    | _ => simp at hm

theorem Reachable.givesUpReached (h : Reachable config tokens c) : c.GivesUpReached :=
  h.invariant (P := GivesUpReached) (fun _ hm => nomatch hm) fun hr hd ih => hd.givesUpReached hr ih

/-- A worker that is about to stop stays so. -/
theorem Reachable.stopping_run {es : List Event} (h : Reachable config tokens c) (hs : c.Stopping)
    (hr : c.run es = some d) : d.Stopping ∧ d.generation = c.generation ∧
      ∃ after, happened d.journal = happened c.journal ++ after ∧ ∀ o ∈ after, o.isTry = false := by
  refine h.keep (P := fun b => b.Stopping ∧ b.generation = c.generation ∧
    ∃ after, happened b.journal = happened c.journal ++ after ∧ ∀ o ∈ after, o.isTry = false) hr
    ⟨hs, rfl, [], (List.append_nil _).symm, List.forall_mem_nil _⟩ fun {e b os d} _ _ hd ih => ?_
  obtain ⟨hb, hg, after, hj, hn⟩ := ih
  obtain ⟨hstop, ho, hgen, -, -⟩ := hd.stopping hb
  refine ⟨hstop, hgen.trans hg, after ++ os, ?_, List.forall_mem_append.mpr ⟨hn, ho⟩⟩
  rw [hd.adds, hj, List.append_assoc]

/-- When the limit was reached: the worker was at the end of that generation, and since then it is about
to stop. -/
theorem Reachable.reaches (h : Reachable config tokens c) (hr : c.Reaches g os after) :
    ∃ b, Reachable config tokens b ∧ (∃ cause, b.worker.stage = .ending cause) ∧ b.generation = g ∧
      happened b.journal = os ∧ c.Stopping ∧ c.generation = g ∧ ∀ o ∈ after, o.isTry = false := by
  obtain ⟨⟨before, cause, rfl⟩, hj, hlim⟩ := hr
  obtain ⟨b, es, hb, hrun, hw, hg, hjb⟩ := h.losesLast (hj.trans (List.append_assoc ..))
  have hcb : c.config = b.config := h.config_eq.trans hb.config_eq.symm
  have hu : b.givesUp = true := by
    rw [hcb, ← hjb] at hlim
    exact hb.tallied.isReached_iff.mp hlim
  obtain ⟨hs, hgen, rest, hrest, hn⟩ := hb.stopping_run (.inl ⟨⟨cause, hw⟩, hu⟩) hrun
  obtain rfl : after = rest := by
    rw [hj, hjb] at hrest
    exact List.append_cancel_left hrest
  exact ⟨b, hb, ⟨cause, hw⟩, hg, hjb, hs, hgen.trans hg, hn⟩

/-- Exactly as many attempts have failed as the limit allows, and as many connections were asked for. -/
theorem Reachable.reaches_exact {most : Nat} (h : Reachable config tokens c)
    (hr : c.Reaches g os after) (hm : c.config.reconnect.maxAttempts = some most) (hpos : 0 < most) :
    failedInRow os = most ∧ dialedInRow (happened c.journal) = most := by
  obtain ⟨b, hb, ⟨cause, hw⟩, -, rfl, -, -, hn⟩ := h.reaches hr
  obtain ⟨-, hj, n, hn', hle⟩ := hr
  obtain rfl : n = most := Option.some.inj (hn'.symm.trans hm)
  have hfail : failedInRow (happened b.journal) = n := by
    rw [h.config_eq, ← hb.config_eq] at hm
    rw [← hb.tallied.failed] at hle ⊢
    exact (hb.keepsLimit n hm hpos).elim (fun hlt => absurd hle (Nat.not_le_of_lt hlt)) (·.1)
  have hdial : dialedInRow (happened b.journal) = failedInRow (happened b.journal) := by
    rw [hb.dialsOnce (by rw [hw]; rfl), hw]
    rfl
  refine ⟨hfail, ?_⟩
  rw [hj, dialedInRow, sinceMet_untried (fun _ => Occurrence.dial?_of_not_isTry) hn, ← dialedInRow, hdial,
    hfail]

/-- The end of a session is no failure, and it leaves none to count. -/
theorem Reachable.failedInRow_session {before : List Occurrence} {cause : TransportFault} {n : Nat}
    (h : Reachable config tokens c) (hj : happened c.journal = before ++ .lost g cause :: after)
    (hm : .opened g n ∈ before) : failedInRow (before ++ [.lost g cause]) = 0 := by
  obtain ⟨b, es, hb, -, -, rfl, hjb⟩ := h.losesLast hj
  have hlast : b.generation ≤ lastMet (happened b.journal) := by
    refine hb.tallied.latest _ (List.mem_filterMap.mpr ⟨.opened b.generation n, ?_, rfl⟩)
    rw [hjb]
    exact List.mem_append_left _ hm
  rw [← hjb]
  refine List.countP_eq_zero.mpr fun m hm => ?_
  have hle : m ≤ b.generation := by
    rw [filterMap_ended] at hm
    exact (hb.counted.ends.upTo m hm).elim Nat.le_of_lt fun hm => Nat.le_of_eq hm.1
  simpa using Nat.le_trans hle hlast

/-! ### The end -/

/-- A worker that is about to stop does not wait. -/
theorem Stopping.work (h : c.Stopping) (hp : 0 < c.worker.stage.toStop) (chance : Nat) :
    ∃ d, c.step (.work chance) = some d ∧ d.worker.stage.toStop < c.worker.stage.toStop := by
  rcases h with ⟨⟨cause, hw⟩, hg⟩ | hl
  · have hs : c.step (.work chance) = some (c.announceLoss.retire cause chance) := by
      change c.work chance = _
      rw [Client.work, hw]
      rfl
    have hg : c.announceLoss.givesUp = true := by
      unfold announceLoss
      dsimp only
      split <;> exact hg
    refine ⟨_, hs, ?_⟩
    rw [retire, if_pos hg, hw]
    exact Nat.lt_succ_self 1
  · cases hw : c.worker.stage with
    | leaving =>
      have hs : c.step (.work chance) = some c.announceEnd := by
        change c.work chance = _
        rw [Client.work, hw]
      exact ⟨_, hs, Nat.zero_lt_one⟩
    | releasing | gone =>
      rw [hw] at hp
      cases hp
    | _ =>
      rw [hw] at hl
      cases hl

/-- With nothing left to do until the end, the end is there. -/
theorem Reachable.closed_of_stopping (h : Reachable config tokens c) (hs : c.Stopping)
    (hz : c.worker.stage.toStop = 0) : c.state = .closed := by
  have past {p : Stage} (hw : c.worker.stage = p) (hp : p.post.isOver = true) : c.state = .closed :=
    h.reached.placed.past (core_post hw ▸ hp)
  rcases hs with ⟨⟨cause, hw⟩, -⟩ | hl
  · rw [hw] at hz
    cases hz
  · cases hw : c.worker.stage with
    | releasing | gone => exact past hw rfl
    | leaving =>
      rw [hw] at hz
      cases hz
    | _ =>
      rw [hw] at hl
      cases hl

theorem Reachable.stopsSoon {es : List Event} (h : Reachable config tokens c) (hs : c.Stopping)
    (hr : c.run es = some d) (hn : c.worker.stage.toStop ≤ es.countP (·.isWork)) :
    d.state = .closed := by
  induction es generalizing c with
  | nil =>
    cases hr
    exact h.closed_of_stopping hs (Nat.le_zero.mp hn)
  | cons e es ih =>
    obtain ⟨b, hb, hd⟩ := Option.bind_eq_some_iff.mp hr
    obtain ⟨os, hdeed⟩ := h.deed hb
    obtain ⟨hstop, -, -, -, hle⟩ := hdeed.stopping hs
    refine ih (h.step e hb) hstop hd ?_
    -- A step of the worker lowers the measure while there is something left, and nothing raises it.
    cases e with
    | work chance =>
      rw [List.countP_cons_of_pos rfl] at hn
      rcases Nat.eq_zero_or_pos c.worker.stage.toStop with hz | hp
      · omega
      · obtain ⟨b', hb', hlt⟩ := hs.work hp chance
        obtain rfl := Option.some.inj (hb'.symm.trans hb)
        omega
    | _ =>
      rw [List.countP_cons_of_neg Bool.false_ne_true] at hn
      exact Nat.le_trans hle hn

/-- A close is announced when it was asked for, or when nobody is left who could ask. -/
theorem Deed.closeWanted (hd : Deed e c os d) (hc : c.Recorded)
    (h : .published .closing ∈ happened c.journal →
      closeRequests c.journal ≠ [] ∨ .handleDropped 0 ∈ happened c.journal)
    (hm : .published .closing ∈ happened d.journal) :
    closeRequests d.journal ≠ [] ∨ .handleDropped 0 ∈ happened d.journal := by
  have hq : closeRequests d.journal = closeRequests c.journal ++ os.filterMap Occurrence.closes? :=
    hd.shown fun _ _ => rfl
  rw [hd.adds] at hm ⊢
  rcases List.mem_append.mp hm with hm | hm
  · refine (h hm).imp (fun hne => ?_) (List.mem_append_left _)
    rw [hq]
    exact List.append_ne_nil_of_left_ne_nil hne _
  · cases hd with
    | close frame ho =>
      left
      rw [hq]
      simp [Occurrence.closes?, ho]
    | departAlone _ _ _ _ h0 | leaveAlone _ _ _ h0 => exact .inr (List.mem_append_left _ (hc.deserted h0))
    | latePatience _ _ a | hangUp _ _ _ a => cases a <;> simp at hm
    | _ => simp at hm

theorem Reachable.closeWanted (h : Reachable config tokens c) : .published .closing ∈ happened c.journal →
    closeRequests c.journal ≠ [] ∨ .handleDropped 0 ∈ happened c.journal :=
  h.invariant (P := fun c => .published .closing ∈ happened c.journal →
    closeRequests c.journal ≠ [] ∨ .handleDropped 0 ∈ happened c.journal) (fun hm => nomatch hm)
      fun hr hd ih => hd.closeWanted hr.recorded ih

/-- When the worker stops. -/
structure LimitsAttempts (c : Client) : Prop where
  /-- The end that no close announces comes with a generation that reaches the limit. -/
  stopped : c.state = .closed → .closing ∉ states c.journal → ∃ g os after, c.Reaches g os after ∧
    ∃ earlier, states c.journal = earlier ++ [.disconnected g, .closed]
  asked : .closing ∈ states c.journal →
    closeRequests c.journal ≠ [] ∨ .handleDropped 0 ∈ happened c.journal
  /-- Once the limit was reached no other attempt or pause follows. -/
  last : ∀ g os after, c.Reaches g os after → ∀ o ∈ after, o.isTry = false
  moving : ∀ g os after chance, c.Reaches g os after → c.state = .closed ∨ c.step (.work chance) ≠ none
  /-- The end is two steps of the worker away. -/
  soon : ∀ g os after es d, c.Reaches g os after → c.run es = some d → 2 ≤ es.countP (·.isWork) →
    d.state = .closed
  exact : ∀ g os after most, c.Reaches g os after → c.config.reconnect.maxAttempts = some most →
    0 < most → failedInRow os = most ∧ dialedInRow (happened c.journal) = most
  /-- A session is no failure, however short it was, and the count starts anew. -/
  restarts : ∀ before g n cause after, happened c.journal = before ++ .lost g cause :: after →
    .opened g n ∈ before → failedInRow (before ++ [.lost g cause]) = 0

theorem Reachable.limitsAttempts (h : Reachable config tokens c)
    (hb : .brokeDown ∉ happened c.journal) : c.LimitsAttempts where
  stopped hs hn := by
    have hover : c.worker.stage.post.isOver = true := h.reached.isOver hs
    have hl : c.worker.stage.isDeparted = true := by
      cases hw : c.worker.stage with
      | session l a => rw [hw, Stage.session_not_over] at hover; cases hover
      | releasing | gone | leaving => rfl
      | _ => rw [hw] at hover; cases hover
    obtain ⟨hu, earlier, hst⟩ := ((h.parted hl).resolve_left fun hc => hn (mem_states.mpr hc)).resolve_left hb
    obtain ⟨before, after, hr⟩ := h.givesUpReached _ hu
    rw [hover, if_pos rfl] at hst
    exact ⟨_, before, after, hr, earlier, hst⟩
  asked hm := h.closeWanted (mem_states.mp hm)
  last g before after hr := by
    obtain ⟨-, -, -, -, -, -, -, hn⟩ := h.reaches hr
    exact hn
  moving g before after chance hr := by
    obtain ⟨-, -, -, -, -, hs, -, -⟩ := h.reaches hr
    rcases Nat.eq_zero_or_pos c.worker.stage.toStop with hz | hp
    · exact .inl (h.closed_of_stopping hs hz)
    · obtain ⟨d, hd, -⟩ := hs.work hp chance
      rw [hd]
      exact .inr (Option.some_ne_none d)
  soon g before after es d hr hrun hn := by
    obtain ⟨-, -, -, -, -, hs, -, -⟩ := h.reaches hr
    exact h.stopsSoon hs hrun (Nat.le_trans (Stage.toStop_le_two _) hn)
  exact g before after most hr hm hpos := h.reaches_exact hr hm hpos
  restarts before g n cause after hj hm := h.failedInRow_session hj hm

/-- A session that goes over into the end reaches no limit. -/
theorem not_limitsAttempts (h : Reachable config tokens c)
    (hs : states c.journal = [.connecting 1, .connected 1, .closed]) : ¬ c.LimitsAttempts := by
  intro hl
  have hc : c.state = .closed := by rw [← h.watched, watched, hs]; rfl
  obtain ⟨g, -, -, -, earlier, he⟩ := hl.stopped hc (by rw [hs]; simp)
  rw [hs] at he
  have hlast := congrArg (·[1]?) (congrArg List.reverse he)
  simp at hlast

/-- Until a moment the worker stops by itself only when a generation reaches the limit, and then it does,
exactly if the clock holds the timers that are set at that moment. -/
theorem attempts_limited (hv : config.isValid = true) (t : Instant) :
    (∀ (tokens : Nat → Option String) (es : List Event) (c : Client),
      (Client.initial config tokens).run es = some c → (∀ e ∈ es, e.isCalm = true) → c.now ≤ t →
        c.LimitsAttempts) ↔ config.FitsClock t := by
  refine ⟨fun hall => by_contra fun ht => ?_, fun ht tokens es c hc he hle => ?_⟩
  · obtain ⟨es, c, hc, he, hn, -, hs⟩ := exists_broken_run hv ht
    exact not_limitsAttempts ((Reachable.initial hv).run hc) hs (hall _ es c hc he (Nat.le_of_eq hn))
  · exact ((Reachable.initial hv).run hc).limitsAttempts (unbroken_of_run hv hc he (ht.mono hle))

end Client

/-- Settings for two attempts in a row. -/
def Config.twiceOnly : Config :=
  { Config.loopback with reconnect := { Config.loopback.reconnect with maxAttempts := some 2 } }

lemma Config.twiceOnly_isValid : Config.twiceOnly.isValid = true := by decide +kernel

namespace Client

/-- An attempt fails, a session is over at once, and two attempts fail after it: the server is under
maintenance, and the connector takes too long. -/
def luckyRun : List Event :=
  [.work 0, .work 0, .dialAnswer (.fault .closed), .work 0, .pass 1000000000, .work 0,
    .work 0, .work 0, .dialAnswer (.link none), .work 0, .work 0, .hangUp, .work 0, .work 0,
    .pass 1000000000, .work 0,
    .work 0, .work 0, .dialAnswer (.fault .maintenance), .work 0, .pass 100000000000, .work 0,
    .work 0, .work 0, .pass 100000000000, .work 0, .work 0, .work 0]

theorem lucky_attempts_limited : ∃ c, (initial .twiceOnly fun _ => none).run luckyRun = some c ∧
    states c.journal = [.connecting 1, .disconnected 1, .connecting 2, .connected 2, .disconnected 2,
      .connecting 3, .disconnected 3, .connecting 4, .disconnected 4, .closed] ∧
    closeRequests c.journal = [] ∧ c.LimitsAttempts := by
  have hr : ((initial .twiceOnly fun _ => none).run luckyRun).map
      (fun c => (c.now, states c.journal, closeRequests c.journal)) = some (202000000000,
        [.connecting 1, .disconnected 1, .connecting 2, .connected 2, .disconnected 2,
          .connecting 3, .disconnected 3, .connecting 4, .disconnected 4, .closed], []) := by
    decide +kernel
  obtain ⟨c, hc, hv⟩ := Option.map_eq_some_iff.mp hr
  simp only [Prod.mk.injEq] at hv
  exact ⟨c, hc, hv.2.1, hv.2.2, (attempts_limited Config.twiceOnly_isValid 202000000000).mpr
    (Config.fitsClock_iff.mpr (by decide)) _ luckyRun c hc (by decide) (Nat.le_of_eq hv.1)⟩

/-- With settings that the clock cannot hold, the worker stops although no attempt has failed. -/
theorem unhurried_attempts_unlimited : ¬ ∀ (config : Config) (tokens : Nat → Option String)
    (es : List Event) (c : Client), config.isValid = true →
      (Client.initial config tokens).run es = some c → (∀ e ∈ es, e.isCalm = true) →
        c.LimitsAttempts := by
  intro hall
  have hr : ((initial .unhurried fun _ => none).run (toSession 0 ++ [.work 0, .work 0])).map
      (fun c => states c.journal) = some [.connecting 1, .connected 1, .closed] := by
    decide +kernel
  obtain ⟨c, hc, hs⟩ := Option.map_eq_some_iff.mp hr
  exact not_limitsAttempts ((Reachable.initial Config.unhurried_isValid).run hc) hs
    (hall .unhurried _ _ c Config.unhurried_isValid hc (by decide))

end Client

end MarketFeed
