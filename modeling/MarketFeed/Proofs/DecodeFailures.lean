import Mathlib.Data.List.DropRight
import MarketFeed.Proofs.Desertion
import MarketFeed.Proofs.StreamHistory

/-!
Frames that cannot be decoded. So many of them as the settings allow, one after another on one session,
end that session with the last of them, and nothing else does so with that cause. What can be decoded
among the frames goes to the reader.
-/

namespace MarketFeed

/-- Whether a frame cannot be decoded. -/
def Frame.isUnreadable (f : Frame) : Bool :=
  match f.decode with
  | .ok _ => false
  | .error _ => true

lemma Frame.isUnreadable_of_ok {f : Frame} {x : Envelope} (h : f.decode = .ok x) :
    f.isUnreadable = false := by
  rw [isUnreadable, h]

lemma Frame.isUnreadable_of_ne {f : Frame} (h : ∀ x, f.decode ≠ .ok x) : f.isUnreadable = true := by
  unfold isUnreadable
  split
  · rename_i x hx
    exact absurd hx (h x)
  · rfl

theorem Stage.watch?_session (l m : Link) (a : Activity) : (session l a).watch? = (session m a).watch? := by
  cases a with
  | writing o s => cases s <;> rfl
  | _ => rfl

theorem Stage.isUnderway_of_watch? {p : Stage} {w : Watch} (h : p.watch? = some w) :
    p.isUnderway = true := by
  unfold watch? at h
  split at h
  · rfl
  · rfl
  · cases h

namespace History

/-- The last frames, so many of them, cannot be decoded. -/
def EndsUnreadable (n : Nat) (fs : List Frame) : Prop :=
  ∃ last, last <:+ fs ∧ last.length = n ∧ ∀ f ∈ last, f.isUnreadable = true

/-- The first frame that makes so many in a row that cannot be decoded. -/
def FirstEndsUnreadable (n : Nat) (fs : List Frame) (k : Nat) : Prop :=
  k ≤ fs.length ∧ EndsUnreadable n (fs.take k) ∧ ∀ i < k, ¬ EndsUnreadable n (fs.take i)

/-- Nowhere among the frames are there so many in a row that cannot be decoded. -/
def Bearable (n : Nat) (fs : List Frame) : Prop := ∀ k, ¬ EndsUnreadable n (fs.take k)

/-- How many frames at the end cannot be decoded. -/
def failing (fs : List Frame) : Nat := (fs.rtakeWhile Frame.isUnreadable).length

variable {n k l : Nat} {fs : List Frame} {f : Frame}

lemma failing_readable (h : f.isUnreadable = false) : failing (fs ++ [f]) = 0 := by
  rw [failing, List.rtakeWhile_concat_neg _ _ _ (by rw [h]; exact Bool.false_ne_true), List.length_nil]

lemma failing_unreadable (h : f.isUnreadable = true) : failing (fs ++ [f]) = failing fs + 1 := by
  rw [failing, List.rtakeWhile_concat_pos _ _ _ h, List.length_append, failing, List.length_singleton]

lemma endsUnreadable_zero : EndsUnreadable 0 fs :=
  ⟨[], List.nil_suffix, rfl, List.forall_mem_nil _⟩

lemma endsUnreadable_concat :
    EndsUnreadable (n + 1) (fs ++ [f]) ↔ f.isUnreadable = true ∧ EndsUnreadable n fs := by
  constructor
  · rintro ⟨last, hs, hn, hu⟩
    rcases List.suffix_concat_iff.mp hs with rfl | ⟨rest, rfl, hr⟩
    · cases hn
    · obtain ⟨hrest, hf⟩ := List.forall_mem_append.mp hu
      rw [List.length_append, List.length_singleton] at hn
      exact ⟨hf f (List.mem_singleton_self f), rest, hr, Nat.succ.inj hn, hrest⟩
  · rintro ⟨hf, last, hs, hn, hu⟩
    refine ⟨last ++ [f], List.suffix_concat_iff.mpr (.inr ⟨last, rfl, hs⟩), ?_, ?_⟩
    · rw [List.length_append, hn, List.length_singleton]
    · exact List.forall_mem_append.mpr ⟨hu, List.forall_mem_singleton.mpr hf⟩

/-- The count says what the frames end with. -/
theorem endsUnreadable_iff : EndsUnreadable n fs ↔ n ≤ failing fs := by
  induction fs using List.reverseRecOn generalizing n with
  | nil =>
    refine ⟨fun ⟨last, hs, hn, _⟩ => ?_, fun h => ?_⟩
    · rw [← hn, List.suffix_nil.mp hs]
      exact Nat.zero_le _
    · rw [Nat.le_zero.mp h]
      exact endsUnreadable_zero
  | append_singleton fs f ih =>
    cases n with
    | zero => exact ⟨fun _ => Nat.zero_le _, fun _ => endsUnreadable_zero⟩
    | succ n =>
      rw [endsUnreadable_concat, ih]
      cases hf : f.isUnreadable with
      | true =>
        rw [failing_unreadable hf, Nat.succ_le_succ_iff]
        exact and_iff_right rfl
      | false =>
        rw [failing_readable hf]
        simp

lemma bearable_nil (h : 0 < n) : Bearable n [] := by
  intro k hk
  rw [List.take_nil, endsUnreadable_iff] at hk
  exact Nat.not_le_of_lt h hk

/-- One more frame may be the one too many. -/
theorem Bearable.concat (h : Bearable n fs) (hf : failing (fs ++ [f]) < n) : Bearable n (fs ++ [f]) := by
  intro k
  rcases Nat.lt_or_ge fs.length k with hk | hk
  · rw [List.take_of_length_le (by rw [List.length_append]; exact hk), endsUnreadable_iff]
    exact Nat.not_le_of_lt hf
  · rw [List.take_append_of_le_length hk]
    exact h k

/-- One frame too many is the first. -/
theorem Bearable.first (h : Bearable n fs) (hf : n ≤ failing (fs ++ [f])) :
    FirstEndsUnreadable n (fs ++ [f]) (fs.length + 1) := by
  have hl : (fs ++ [f]).length = fs.length + 1 := List.length_append
  refine ⟨Nat.le_of_eq hl.symm, ?_, fun i hi => ?_⟩
  · rw [← hl, List.take_length]
    exact endsUnreadable_iff.mpr hf
  · rw [List.take_append_of_le_length (Nat.le_of_lt_succ hi)]
    exact h i

lemma Bearable.failing_lt (h : Bearable n fs) : failing fs < n := by
  have hn := h fs.length
  rw [List.take_length, endsUnreadable_iff] at hn
  exact Nat.lt_of_not_le hn

theorem FirstEndsUnreadable.unique (h : FirstEndsUnreadable n fs k) (hl : FirstEndsUnreadable n fs l) :
    k = l := by
  rcases Nat.lt_trichotomy k l with hlt | heq | hlt
  · exact absurd h.2.1 (hl.2.2 k hlt)
  · exact heq
  · exact absurd hl.2.1 (h.2.2 l hlt)

/-- The frames that came in on a session. -/
def framesOn (g : Generation) (os : List Occurrence) : List Frame := os.filterMap (Occurrence.frameOn? g)

lemma framesOn_append (g : Generation) (os ps : List Occurrence) :
    framesOn g (os ++ ps) = framesOn g os ++ framesOn g ps := List.filterMap_append

lemma framesOn_eq_nil {g : Generation} {os : List Occurrence}
    (h : g ∉ os.filterMap Occurrence.framed?) : framesOn g os = [] := by
  refine List.filterMap_eq_nil_iff.mpr fun o ho => ?_
  unfold Occurrence.frameOn?
  split
  · rename_i x f
    refine if_neg fun hg => h (List.mem_filterMap.mpr ⟨_, ho, ?_⟩)
    exact congrArg some hg
  · rfl

lemma framesOn_received (g : Generation) (f : Frame) (os : List Occurrence) :
    framesOn g (.received g (.ok f) :: os) = f :: framesOn g os :=
  List.filterMap_cons_some (f := Occurrence.frameOn? g) (if_pos rfl)

end History

namespace Client

open History

variable {c d : Client} {e : Event} {os : List Occurrence} {config : Config}
  {tokens : Nat → Option String}

/-! ### The count of a session -/

/-- The session that is on counts the frames at the end that cannot be decoded, and they are not too
many. -/
structure KeepsCount (c : Client) : Prop where
  watch : ∀ w, c.worker.stage.watch? = some w →
    w.failures = failing (framesOn c.generation (happened c.journal))
  deaf : c.worker.stage.isUnderway = true → c.worker.stage.watch? = none →
    framesOn c.generation (happened c.journal) = []
  bearable : c.worker.stage.isUnderway = true →
    Bearable c.config.maxDecodeFailures (framesOn c.generation (happened c.journal))

/-- No frame comes in. -/
theorem KeepsCount.frame (h : c.KeepsCount) (hd : Deed e c os d) (hg : d.generation = c.generation)
    (ho : framesOn c.generation os = []) (hu : c.worker.stage.isUnderway = true)
    (hw : d.worker.stage.watch?.map (·.failures) = c.worker.stage.watch?.map (·.failures)) :
    d.KeepsCount := by
  have hf : framesOn d.generation (happened d.journal) = framesOn c.generation (happened c.journal) := by
    rw [hg, hd.adds, framesOn_append, ho, List.append_nil]
  refine ⟨fun w hs => ?_, fun _ ht => ?_, fun _ => ?_⟩
  · rw [hs] at hw
    obtain ⟨v, hv, he⟩ := Option.map_eq_some_iff.mp hw.symm
    rw [hf, ← h.watch v hv]
    exact he.symm
  · rw [ht] at hw
    rw [hf]
    exact h.deaf hu (Option.map_eq_none_iff.mp hw.symm)
  · rw [hf, hd.frame.1]
    exact h.bearable hu

/-- There is no session and no attempt. -/
theorem KeepsCount.away (hu : d.worker.stage.isUnderway = false) : d.KeepsCount where
  watch _ hw := nomatch hu.symm.trans (Stage.isUnderway_of_watch? hw)
  deaf hn := nomatch hu.symm.trans hn
  bearable hn := nomatch hu.symm.trans hn

/-- Nothing has come in yet. -/
theorem KeepsCount.start (hn : 0 < d.config.maxDecodeFailures)
    (hf : framesOn d.generation (happened d.journal) = [])
    (hw : ∀ w, d.worker.stage.watch? = some w → w.failures = 0) : d.KeepsCount where
  watch w hs := by rw [hw w hs, hf]; rfl
  deaf _ _ := hf
  bearable _ := by rw [hf]; exact bearable_nil hn

/-- One more frame is counted. -/
theorem KeepsCount.hear {l : Link} {w : Watch} {f : Frame} (h : c.KeepsCount) (hd : Deed e c os d)
    (hu : c.worker.stage.isUnderway = true) (hg : d.generation = c.generation)
    (ho : framesOn c.generation os = [f]) (hw : d.worker.stage = .session l (.listening w))
    (hf : w.failures = failing (framesOn c.generation (happened c.journal) ++ [f]))
    (hlt : w.failures < c.config.maxDecodeFailures) : d.KeepsCount := by
  have hfs : framesOn d.generation (happened d.journal) =
      framesOn c.generation (happened c.journal) ++ [f] := by
    rw [hg, hd.adds, framesOn_append, ho]
  refine ⟨fun v hs => ?_, fun _ ht => ?_, fun _ => ?_⟩
  · rw [hw] at hs
    cases hs
    rw [hfs]
    exact hf
  · rw [hw] at ht
    cases ht
  · rw [hfs, hd.frame.1]
    exact (h.bearable hu).concat (hf ▸ hlt)

theorem Reachable.maxDecodeFailures_pos (h : Reachable config tokens c) :
    0 < c.config.maxDecodeFailures := by
  have hv := h.isValid
  rw [h.config_eq]
  refine Nat.pos_of_ne_zero fun hz => ?_
  unfold Config.isValid Config.fault? at hv
  split at hv
  · cases hv
  · split at hv
    · cases hv
    · rw [if_pos hz] at hv
      cases hv

/-- No frame has come in on an attempt that is yet to come. -/
theorem Reachable.framesOn_next (h : Reachable config tokens c) :
    framesOn (c.generation + 1) (happened c.journal) = [] := by
  refine framesOn_eq_nil fun hm => ?_
  rw [filterMap_happened fun _ _ => rfl] at hm
  exact Nat.not_succ_le_self _ (h.counted.framed _ hm)

theorem Deed.keepsCount (hd : Deed e c os d) (hc : Reachable config tokens c) (h : c.KeepsCount) :
    d.KeepsCount := by
  have hsame := hd
  have ha := hd.adds
  have hpos := hc.maxDecodeFailures_pos
  -- The worker stays where it is.
  have still (hs : d.worker.stage = c.worker.stage) (hg : d.generation = c.generation)
      (ho : framesOn c.generation os = []) : d.KeepsCount := by
    cases hu : c.worker.stage.isUnderway with
    | true => exact h.frame hsame hg ho hu (by rw [hs])
    | false => exact .away (hs ▸ hu)
  cases hd with
  | rest | ask | direct | refuse | close | closeAgain | signal | clone | dropHandle | read | readEnd
  | dropStream | pass | look | drop => exact still rfl rfl rfl
  | tend l m a hw =>
    exact h.frame hsame rfl rfl (by rw [hw]; rfl) (by rw [hw, Stage.watch?_session l m])
  | meet _ _ hw | dial _ hw | announce _ hw | replay _ _ _ hw | execute _ _ _ _ hw | skip _ _ _ _ hw
  | beat _ _ _ hw =>
    exact h.frame hsame rfl rfl (by rw [hw]; rfl) (by rw [hw]; rfl)
  | written _ _ s _ hw =>
    exact h.frame hsame rfl rfl (by rw [hw]; rfl) (by rw [hw]; cases s <;> rfl)
  | listen l _ hw =>
    refine .start hpos ?_ fun w hs => ?_
    · rw [ha, framesOn_append]
      exact (List.append_nil _).trans (h.deaf (by rw [hw]; rfl) (by rw [hw]; rfl))
    · cases hs
      rfl
  | attempt =>
    refine .start hpos ?_ fun w hs => nomatch hs
    rw [ha, framesOn_append]
    exact (List.append_nil _).trans hc.framesOn_next
  | deliver l m w _ f x _ _ hw _ _ hf =>
    exact h.hear hsame (by rw [hw]; rfl) rfl (framesOn_received ..) rfl
      (failing_readable (Frame.isUnreadable_of_ok hf)).symm hpos
  | withhold l m w _ f _ _ _ _ _ hw _ _ hf =>
    exact h.hear hsame (by rw [hw]; rfl) rfl (framesOn_received ..) rfl
      (failing_readable (Frame.isUnreadable_of_ok hf)).symm hpos
  | misread l m w _ f _ hw _ _ hf hm =>
    refine h.hear hsame (by rw [hw]; rfl) rfl (framesOn_received ..) rfl ?_ hm
    rw [failing_unreadable (Frame.isUnreadable_of_ne hf), ← h.watch w (by rw [hw]; rfl)]
  | latePatience _ _ a | hangUp _ _ _ a => cases a <;> exact .away rfl
  | _ => exact .away rfl

theorem Reachable.keepsCount (h : Reachable config tokens c) : c.KeepsCount :=
  h.invariant (P := KeepsCount) (.away rfl) fun hr hd ih => hd.keepsCount hr ih

/-! ### The end of a session -/

/-- A session has ended with a frame that was one too many, after so many others. -/
def Despairs (c : Client) (g : Generation) (count : Nat) (before after : List Occurrence) : Prop :=
  ∃ f, happened c.journal = before ++ .received g (.ok f) :: .lost g (.undecodable count) :: after

/-- No frame comes in on a session that was lost. -/
theorem Deed.framesOn_lost {g : Generation} {cause : TransportFault} (hd : Deed e c os d)
    (hc : Reachable config tokens c) (hm : .lost g cause ∈ happened c.journal) : framesOn g os = [] := by
  have hg : g ∈ (endings c.journal).map (·.1) := by
    refine List.mem_map.mpr ⟨(g, cause), ?_, rfl⟩
    rw [endings, ← filterMap_happened fun _ _ => rfl]
    exact List.mem_filterMap.mpr ⟨_, hm, rfl⟩
  refine framesOn_eq_nil fun hf => ?_
  obtain ⟨rfl, hu⟩ := hd.fresh.1 g hf
  rcases hc.counted.ends.upTo _ hg with hlt | ⟨-, hn⟩
  · exact Nat.lt_irrefl _ hlt
  · cases hn.symm.trans hu

/-- A session that ends with a frame has counted as many as the settings allow. -/
theorem Deed.despairs {before lead after : List Occurrence} {g : Generation} {f : Frame} {count : Nat}
    (hd : Deed e c os d) (hc : Reachable config tokens c)
    (hb : happened c.journal ++ lead = before ++ [.received g (.ok f)])
    (ho : os = lead ++ .lost g (.undecodable count) :: after) :
    count = c.config.maxDecodeFailures ∧ after = [] ∧
      FirstEndsUnreadable c.config.maxDecodeFailures (framesOn g before ++ [f])
        ((framesOn g before).length + 1) := by
  have hmem : .lost g (.undecodable count) ∈ os := by
    rw [ho]
    exact List.mem_append_right _ List.mem_cons_self
  cases hd with
  | despair l w x b hw hf hm =>
    obtain ⟨rfl, ⟨rfl, rfl⟩, ha⟩ :
        lead = [.received c.generation (.ok x)] ∧ (g = c.generation ∧ count = w.failures + 1) ∧
          after = [] := by
      simpa [List.cons_eq_append_iff] using ho
    obtain ⟨rfl, hx⟩ := List.append_inj' hb rfl
    obtain rfl : x = f := by simpa using hx
    have hu : c.worker.stage.isUnderway = true := by rw [hw]; rfl
    have hk := hc.keepsCount
    have hwatch := hk.watch w (by rw [hw]; rfl)
    have hlt := (hk.bearable hu).failing_lt
    have hfirst := (hk.bearable hu).first (f := x) (by
      rw [failing_unreadable (Frame.isUnreadable_of_ne hf), ← hwatch]
      exact hm)
    exact ⟨Nat.le_antisymm (hwatch ▸ hlt) hm, ha, hfirst⟩
  | failAttempt cause deadline hw =>
    -- No frame comes in during an attempt.
    obtain ⟨rfl, ⟨rfl, -⟩, -⟩ : lead = [] ∧ (g = c.generation ∧ .undecodable count = cause) ∧ after = [] := by
      simpa [List.cons_eq_append_iff] using ho
    have hnone : framesOn c.generation (happened c.journal) = [] := by
      rcases hw with hw | hw <;> exact hc.keepsCount.deaf (by rw [hw]; rfl) (by rw [hw]; rfl)
    rw [List.append_nil] at hb
    rw [hb, framesOn_append, framesOn_received] at hnone
    exact absurd hnone (List.append_ne_nil_of_right_ne_nil _ (List.cons_ne_nil _ _))
  | refused l o =>
    obtain ⟨rfl, -⟩ : lead = [.refused c.generation o] ∧ _ := by
      simpa [List.cons_eq_append_iff] using ho
    have hx := (List.append_inj' hb rfl).2
    simp at hx
  | hangUp _ _ _ a _ ha hn =>
    cases a with
    | none =>
      rw [hn rfl] at hmem
      simp at hmem
    | some a =>
      obtain ⟨rfl, -⟩ : lead = [.received c.generation a] ∧ _ := by
        simpa [List.cons_eq_append_iff] using ho
      have hx := (List.append_inj' hb rfl).2
      obtain ⟨-, rfl⟩ : c.generation = g ∧ a = .ok f := by simpa using hx
      exact absurd rfl (ha f)
  | idle => simp at hmem
  | latePatience _ _ a => cases a <;> simp at hmem
  | _ => simp at hmem

/-- A session that has ended with a frame had counted as many as the settings allow, for the first time,
and no frame has come in on it since. -/
def DespairsDuly (c : Client) : Prop :=
  ∀ before after g f count,
    happened c.journal = before ++ .received g (.ok f) :: .lost g (.undecodable count) :: after →
      count = c.config.maxDecodeFailures ∧ framesOn g after = [] ∧
        FirstEndsUnreadable c.config.maxDecodeFailures (framesOn g before ++ [f])
          ((framesOn g before).length + 1)

theorem Deed.despairsDuly (hd : Deed e c os d) (hc : Reachable config tokens c) (h : c.DespairsDuly) :
    d.DespairsDuly := by
  intro before after g f count hj
  rw [hd.adds, List.append_cons] at hj
  rw [hd.frame.1]
  rcases append_cut hj with ⟨mid, hold, rfl⟩ | ⟨lead, hb, hnew⟩
  · obtain ⟨hn, hm, hf⟩ := h before mid g f count (hold.trans (List.append_cons ..).symm)
    refine ⟨hn, ?_, hf⟩
    have hlost : .lost g (.undecodable count) ∈ happened c.journal := by
      rw [hold]
      exact List.mem_append_right _ List.mem_cons_self
    rw [framesOn_append, hm, hd.framesOn_lost hc hlost]
    rfl
  · obtain ⟨hn, rfl, hf⟩ := hd.despairs hc hb.symm hnew
    exact ⟨hn, rfl, hf⟩

theorem Reachable.despairsDuly (h : Reachable config tokens c) : c.DespairsDuly :=
  h.invariant (P := DespairsDuly) (fun _ _ _ _ _ hj => absurd hj initial_uncut)
    fun hr hd ih => hd.despairsDuly hr ih

theorem Despairs.later {g : Generation} {count : Nat} {before after : List Occurrence}
    (h : c.Despairs g count before after) (hd : Deed e c os d) : d.Despairs g count before (after ++ os) := by
  obtain ⟨f, hj⟩ := h
  refine ⟨f, ?_⟩
  rw [hd.adds, hj, List.append_assoc, List.cons_append, List.cons_append]

/-- A session on which too many frames in a row could not be decoded has ended with the last of them. -/
def Endures (c : Client) : Prop :=
  ∀ g, Bearable c.config.maxDecodeFailures (framesOn g (happened c.journal)) ∨
    ∃ count before after, c.Despairs g count before after

theorem Deed.endures (hd : Deed e c os d) (hc : Reachable config tokens c)
    (ht : ∀ l w, c.worker.stage = .session l (.listening w) → c.now.add? c.config.idle ≠ none)
    (h : c.Endures) : d.Endures := by
  intro g
  rcases h g with hb | ⟨count, before, after, hs⟩
  · have hsame := hd
    have ha := hd.adds
    have still (ho : framesOn g os = []) :
        Bearable d.config.maxDecodeFailures (framesOn g (happened d.journal)) := by
      rw [hd.frame.1, hd.adds, framesOn_append, ho, List.append_nil]
      exact hb
    by_cases hg : g = c.generation
    · subst hg
      -- A session that goes on bears its frames.
      have goes (hu : d.worker.stage.isUnderway = true) (hg : d.generation = c.generation) :
          Bearable d.config.maxDecodeFailures (framesOn c.generation (happened d.journal)) :=
        hg ▸ (hsame.keepsCount hc hc.keepsCount).bearable hu
      cases hd with
      | deliver | withhold | misread => exact .inl (goes rfl rfl)
      | despair l w f => exact .inr ⟨_, _, [], f, ha⟩
      | latePatience l w _ hw hn => exact absurd hn (ht l w hw)
      | hangUp _ _ _ a _ hf =>
        rcases a with _ | _ | f
        · exact .inl (still rfl)
        · exact .inl (still rfl)
        · exact absurd rfl (hf f)
      | _ => exact .inl (still rfl)
    · exact .inl (still (framesOn_eq_nil fun hm => hg (hd.fresh.1 g hm).1))
  · exact .inr ⟨count, before, _, hs.later hd⟩

theorem Reachable.endures (h : Reachable config tokens c) (ht : config.HearsAt c.now) : c.Endures :=
  h.keep_hearing ht (fun _ => .inl (bearable_nil (Reachable.initial h.isValid).maxDecodeFailures_pos))
    fun hb hd hl ih => hd.endures hb hl ih

/-- When a session ends for frames that cannot be decoded. -/
structure LimitsFailures (c : Client) (g : Generation) : Prop where
  /-- It is at the first frame that makes so many in a row as the settings allow. -/
  ends : ∀ k, (∃ count before after, c.Despairs g count before after ∧ (framesOn g before).length + 1 = k) ↔
    FirstEndsUnreadable c.config.maxDecodeFailures (framesOn g (happened c.journal)) k
  count : ∀ count before after, c.Despairs g count before after → count = c.config.maxDecodeFailures
  /-- No frame is taken after that one. -/
  last : ∀ count before after, c.Despairs g count before after → framesOn g after = []
  /-- What can be decoded goes to the reader, but for acknowledgments that are not awaited. -/
  handed : handedOn g c.journal = heard g c.journal

theorem Reachable.limitsFailures (h : Reachable config tokens c) (ht : config.HearsAt c.now)
    (g : Generation) : c.LimitsFailures g := by
  -- The frame that a session has ended with is at the first place.
  have first {count : Nat} {before after : List Occurrence} (hs : c.Despairs g count before after) :
      FirstEndsUnreadable c.config.maxDecodeFailures (framesOn g (happened c.journal))
        ((framesOn g before).length + 1) := by
    obtain ⟨f, hj⟩ := hs
    obtain ⟨-, hm, hf⟩ := h.despairsDuly before after g f count hj
    have hfs : framesOn g (happened c.journal) = framesOn g before ++ [f] := by
      rw [hj, framesOn_append, framesOn_received]
      exact congrArg (framesOn g before ++ f :: ·) hm
    rw [hfs]
    exact hf
  refine ⟨fun k => ⟨?_, fun hk => ?_⟩, fun count before after hs => ?_, fun count before after hs => ?_,
    (h.handsOn ht g).symm⟩
  · rintro ⟨count, before, after, hs, rfl⟩
    exact first hs
  · rcases h.endures ht g with hb | ⟨count, before, after, hs⟩
    · exact absurd hk.2.1 (hb k)
    · exact ⟨count, before, after, hs, (first hs).unique hk⟩
  · obtain ⟨f, hj⟩ := hs
    exact (h.despairsDuly before after g f count hj).1
  · obtain ⟨f, hj⟩ := hs
    exact (h.despairsDuly before after g f count hj).2.1

/-- Until a moment sessions end for frames that cannot be decoded as the settings say, exactly if the
clock holds their patience. -/
theorem failures_limited (hv : config.isValid = true) (t : Instant) :
    (∀ (tokens : Nat → Option String) (es : List Event) (c : Client),
      (initial config tokens).run es = some c → c.now ≤ t → ∀ g, c.LimitsFailures g) ↔
        config.HearsAt t := by
  refine ⟨fun hall => by_contra fun ht => ?_, fun ht tokens es c hc hle g => ?_⟩
  · obtain ⟨es, c, hc, -, hn, -, hheard, hnone⟩ := exists_unheard hv ht
    have hh := (hall _ es c hc (Nat.le_of_eq hn) 1).handed
    rw [hheard, hnone] at hh
    cases hh
  · exact ((Reachable.initial hv).run hc).limitsFailures (ht.mono hle) g

end Client

/-- Settings under which two frames in a row that cannot be decoded end a session. -/
def Config.strict : Config := { Config.loopback with maxDecodeFailures := 2 }

lemma Config.strict_isValid : Config.strict.isValid = true := by decide +kernel

namespace Client

open History

/-- On a first session one frame that cannot be decoded comes before a sign of life and one after it; on
a second one, one comes before an acknowledgment that nobody awaits and two after it. -/
def garbledRun : List Event :=
  [.work 0, .work 0, .dialAnswer (.link none), .work 0, .work 0, .arrive (.ok (.text "")),
    .arrive (.ok .pong), .arrive (.ok (.text "")), .work 0, .work 0, .work 0, .hangUp, .work 0, .work 0,
    .pass 1000000000, .work 0, .work 0, .work 0, .dialAnswer (.link none), .work 0, .work 0,
    .arrive (.ok (.text "")), .arrive (.ok balancesAck), .arrive (.ok (.text "")),
    .arrive (.ok (.text "")), .arrive (.ok .pong), .work 0, .work 0, .work 0, .work 0]

theorem garbled_failures_limited : ∃ c, (initial .strict fun _ => none).run garbledRun = some c ∧
    endings c.journal = [(1, .closed), (2, .undecodable 2)] ∧ handed c.journal = [.heartbeat] ∧
      c.LimitsFailures 1 ∧ c.LimitsFailures 2 := by
  have hr : ((initial .strict fun _ => none).run garbledRun).map
      (fun c => (c.now, endings c.journal, handed c.journal)) =
        some (1000000000, [(1, .closed), (2, .undecodable 2)], [.heartbeat]) := by
    decide +kernel
  obtain ⟨c, hc, hv⟩ := Option.map_eq_some_iff.mp hr
  simp only [Prod.mk.injEq] at hv
  have hall := (failures_limited Config.strict_isValid 1000000000).mpr (.inl (by decide)) _ garbledRun c hc
    (Nat.le_of_eq hv.1)
  exact ⟨c, hc, hv.2.1, hv.2.2, hall 1, hall 2⟩

end Client

/-- Settings that pass the checks although the clock cannot hold the end of their patience, and under
which one frame that cannot be decoded ends a session. -/
def Config.curt : Config := { Config.patient with maxDecodeFailures := 1 }

lemma Config.curt_isValid : Config.curt.isValid = true := by decide +kernel

lemma Frame.isUnreadable_empty : (Frame.text "").isUnreadable = true := by decide +kernel

namespace Client

open History

/-- With settings that the clock cannot hold, such a frame ends the client and not its session. -/
theorem curt_failures_unlimited : ¬ ∀ (config : Config) (tokens : Nat → Option String)
    (es : List Event) (c : Client), config.isValid = true →
      (initial config tokens).run es = some c → ∀ g, c.LimitsFailures g := by
  intro hall
  obtain ⟨c, hc, hs⟩ := run_toSession Config.curt_isValid 0
  obtain ⟨d, hd, -, -, -, hj⟩ := hs.late_patience (.text "") 0 (by decide) (by decide)
  obtain ⟨endpoint, hcj⟩ := hs.journal
  rw [hcj] at hj
  have hrun : (initial .curt fun _ => none).run (toSession 0 ++ frameAfter 0 (.text "")) = some d :=
    run_of_append hc hd
  have hf : framesOn 1 (happened d.journal) = [.text ""] := by rw [hj]; rfl
  have hfirst : FirstEndsUnreadable 1 [.text ""] 1 :=
    (bearable_nil Nat.one_pos).first (by
      rw [failing_unreadable Frame.isUnreadable_empty]
      exact Nat.le_add_left 1 _)
  have hends := (hall .curt _ _ d Config.curt_isValid hrun 1).ends 1
  rw [((Reachable.initial Config.curt_isValid).run hrun).config_eq, hf] at hends
  obtain ⟨count, before, after, ⟨f, hb⟩, -⟩ := hends.mpr hfirst
  have hm : .lost 1 (.undecodable count) ∈ happened d.journal := by rw [hb]; simp
  rw [hj] at hm
  simp [happened, view, Occurrence.unanswering?] at hm

end Client

end MarketFeed
