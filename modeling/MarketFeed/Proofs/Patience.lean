import MarketFeed.Proofs.DecodeFailures

/-!
The patience of a session. It begins when the session starts to listen, starts anew with every frame and
with nothing else, and ends the session neither too early nor, once the worker has come to rest, too
late. A frame that is there is taken before the session ends for its patience.
-/

namespace MarketFeed

/-- The first tick of the clock, a whole millisecond, that is not before a moment. -/
def Instant.tickUp (t : Instant) : Instant := .ofMillis t.millisUp

lemma Instant.le_tickUp (t : Instant) : t ≤ t.tickUp := by
  have up (n : Nat) : n ≤ (n + 999999) / 1000000 * 1000000 := by omega
  exact up t

/-- A timer is over after its length, or, if the clock cannot hold that, after the longest time that a
timer can take. -/
theorem Instant.le_of_deadline_le {t u : Instant} {d : Duration} (h : t.deadline d ≤ u) :
    (t.add? d ≠ none → t + d.nanos ≤ u) ∧ (t.add? d = none → t + far ≤ u) := by
  unfold deadline at h
  constructor
  · intro hin
    obtain ⟨v, hv⟩ := Option.ne_none_iff_exists'.mp hin
    rw [hv] at h
    rw [← add?_eq_some hv]
    exact h
  · intro hout
    rw [hout] at h
    exact h

/-- When a frame came in on a session. -/
def Entry.heardAt? (g : Generation) (e : Entry) : Option Instant := (e.what.frameOn? g).map fun _ => e.time

/-- Whether the connection of a session tells of a fault. -/
def Occurrence.complains (g : Generation) : Occurrence → Bool
  | received h (.error _) | refused h _ => h = g
  | _ => false

namespace History

/-- The later of two moments: when a session began to listen, and when the last frame came in on it. -/
def lastSign (g : Generation) (start : Instant) (j : List Entry) : Instant :=
  (j.findSome? (Entry.heardAt? g)).elim start (max start)

/-- An entry ends a session whose patience is over: the connection has not told of a fault. -/
def LosesPatience (g : Generation) (j : List Entry) (e : Entry) : Prop :=
  e.what = .lost g .idle ∧ ∀ x ∈ j, x.what.complains g = false

/-- Patience is not lost before its end. -/
def EndsLate (g : Generation) (start : Instant) (patience : Duration) (j : List Entry) (e : Entry) : Prop :=
  LosesPatience g j e → (lastSign g start j).deadline patience ≤ e.time

variable {g : Generation} {s : Instant} {n j : List Entry} {os : List Occurrence}

lemma lastSign_append (h : ∀ e ∈ n, e.what.frameOn? g = none) :
    lastSign g s (n ++ j) = lastSign g s j := by
  have hn : n.findSome? (Entry.heardAt? g) = none := by
    refine List.findSome?_eq_none_iff.mpr fun e he => ?_
    rw [Entry.heardAt?, h e he]
    rfl
  rw [lastSign, List.findSome?_append, hn]
  rfl

/-- Where no frame came in, the last sign is as it was. -/
theorem Extends.lastSign {l : List Entry} (h : Extends j os l) (hf : framesOn g os = []) :
    lastSign g s l = lastSign g s j := by
  obtain ⟨n, rfl, rfl⟩ := h
  refine lastSign_append fun e he => ?_
  by_cases ha : e.what.unanswering? = none
  · unfold Occurrence.unanswering? at ha
    split at ha
    · rename_i hw
      rw [hw]
      rfl
    · cases ha
  · obtain ⟨o, ho⟩ := Option.ne_none_iff_exists'.mp ha
    have hm : o ∈ happened n := mem_view.mpr ⟨e, he, ho⟩
    have hnone := List.filterMap_eq_nil_iff.mp hf o hm
    unfold Occurrence.unanswering? at ho
    split at ho
    · cases ho
    · rwa [← Option.some.inj ho] at hnone

lemma lastSign_heard {x : Entry} {f : Frame} {n : List Entry} (hx : x.what = .received g (.ok f))
    (hn : ∀ e ∈ n, e.what.frameOn? g = none) (j : List Entry) :
    lastSign g s (n ++ x :: j) = max s x.time := by
  rw [lastSign_append hn, lastSign]
  simp [Entry.heardAt?, hx, Occurrence.frameOn?]

end History

lemma Origin.not_lost_of_answer {o : Origin} {t : Instant} {r : Except ClientFault Generation} {x : Entry}
    {g : Generation} {cause : TransportFault} (hx : x ∈ o.answer t r) : x.what ≠ .lost g cause := by
  intro hlost
  have ha := Origin.isAnswer_answer x hx
  rw [hlost] at ha
  cases ha

namespace Client

open History

variable {b c d : Client} {e : Event} {os : List Occurrence} {config : Config}
  {tokens : Nat → Option String} {g : Generation} {s : Instant}

/-! ### What a session keeps to from when it starts to listen -/

/-- The session of a generation has begun to listen, and may be over since. -/
structure Attends (c : Client) (g : Generation) (s : Instant) : Prop where
  since : s ≤ c.now
  reached : g ≤ c.generation
  begun : c.generation = g → c.worker.stage.isUnderway = true → c.worker.stage.hasListened = true
  timer : c.generation = g → ∀ w, c.worker.stage.watch? = some w →
    w.idle = (lastSign g s c.journal).deadline c.config.idle
  ended : Always (EndsLate g s c.config.idle) c.journal

/-- What does not end the session for its patience is no matter for the record. -/
theorem Attends.record (h : c.Attends g s) (hd : Deed e c os d) (hl : .lost g .idle ∉ os) :
    Always (EndsLate g s d.config.idle) d.journal := by
  obtain ⟨n, hj, rfl⟩ := hd.extends
  rw [hj, hd.frame.1]
  refine h.ended.append fun x hx l hlost => absurd (mem_view.mpr ⟨x, hx, ?_⟩) hl
  rw [hlost.1]
  rfl

/-- Nothing comes in, and the session does not end for its patience. -/
theorem Attends.frame (h : c.Attends g s) (hd : Deed e c os d) (hg : d.generation = c.generation)
    (hf : framesOn g os = []) (hl : .lost g .idle ∉ os)
    (hb : d.worker.stage.isUnderway = true → d.worker.stage.hasListened = false →
      c.worker.stage.isUnderway = true ∧ c.worker.stage.hasListened = false)
    (hw : c.generation = g → ∀ w, d.worker.stage.watch? = some w →
      ∃ v, c.worker.stage.watch? = some v ∧ v.idle = w.idle) : d.Attends g s := by
  refine ⟨Nat.le_trans h.since hd.frame.2.2, hg ▸ h.reached, fun ht hu => ?_, fun ht w hs => ?_,
    h.record hd hl⟩
  · by_contra hlate
    obtain ⟨hu, hlate⟩ := hb hu (Bool.eq_false_iff.mpr hlate)
    cases hlate.symm.trans (h.begun (hg.symm.trans ht) hu)
  · obtain ⟨v, hv, hi⟩ := hw (hg.symm.trans ht) w hs
    rw [hd.extends.lastSign hf, hd.frame.1, ← hi]
    exact h.timer (hg.symm.trans ht) v hv

/-- The worker goes on with an attempt, or with a session that does not listen yet. -/
theorem Attends.prepare (h : c.Attends g s) (hd : Deed e c os d) (hg : d.generation = c.generation)
    (hf : framesOn g os = []) (hl : .lost g .idle ∉ os) (hu : c.worker.stage.isUnderway = true)
    (hn : c.worker.stage.hasListened = false) (hw : d.worker.stage.watch? = none) : d.Attends g s :=
  h.frame hd hg hf hl (fun _ _ => ⟨hu, hn⟩) fun _ _ hs => nomatch hw.symm.trans hs

/-- A session that has listened goes on, and its patience as well. -/
theorem Attends.goOn {v : Watch} (h : c.Attends g s) (hd : Deed e c os d) (hg : d.generation = c.generation)
    (hf : framesOn g os = []) (hl : .lost g .idle ∉ os) (hn : d.worker.stage.hasListened = true)
    (hv : c.worker.stage.watch? = some v)
    (hw : ∀ w, d.worker.stage.watch? = some w → v.idle = w.idle) : d.Attends g s :=
  h.frame hd hg hf hl (fun _ hl => nomatch hn.symm.trans hl) fun _ w hs => ⟨v, hv, hw w hs⟩

/-- Patience starts anew with a frame. -/
theorem Attends.hear {idle : Instant} (h : c.Attends g s) (hd : Deed e c os d)
    (hg : d.generation = c.generation) (ht : c.now.add? c.config.idle = some idle)
    (hl : c.generation = g → lastSign g s d.journal = max s c.now)
    (hu : d.worker.stage.hasListened = true) (hos : .lost g .idle ∉ os)
    (hw : ∀ w, d.worker.stage.watch? = some w → w.idle = idle) : d.Attends g s := by
  refine ⟨Nat.le_trans h.since hd.frame.2.2, hg ▸ h.reached, fun _ _ => hu, fun hgen w hs => ?_,
    h.record hd hos⟩
  rw [hl (hg.symm.trans hgen), Nat.max_eq_right h.since, hd.frame.1, Instant.deadline, ht]
  exact hw w hs

/-- The next attempt is of a later generation. -/
theorem Attends.proceed (h : c.Attends g s) (hd : Deed e c os d) (hg : d.generation = c.generation + 1)
    (hl : .lost g .idle ∉ os) : d.Attends g s := by
  have hne : d.generation ≠ g := Nat.ne_of_gt (hg ▸ Nat.lt_succ_of_le h.reached)
  exact ⟨Nat.le_trans h.since hd.frame.2.2, hg ▸ Nat.le_succ_of_le h.reached, fun ht => absurd ht hne,
    fun ht => absurd ht hne, h.record hd hl⟩

/-- The session, if it was on, is over. -/
theorem Attends.leave (h : c.Attends g s) (hd : Deed e c os d) (hg : d.generation = c.generation)
    (hu : d.worker.stage.isUnderway = false) (hr : Always (EndsLate g s d.config.idle) d.journal) :
    d.Attends g s where
  since := Nat.le_trans h.since hd.frame.2.2
  reached := hg ▸ h.reached
  begun _ ht := nomatch hu.symm.trans ht
  timer _ _ hw := nomatch hu.symm.trans (Stage.isUnderway_of_watch? hw)
  ended := hr

/-- A fault that the connection tells of ends the session, but not for its patience. -/
theorem Attends.complain {n : List Entry} {o : Occurrence} (cause : TransportFault) (h : c.Attends g s)
    (hm : ⟨c.now, o⟩ ∈ n) (ho : c.generation = g → o.complains g = true)
    (hn : ∀ x ∈ n, x.what ≠ .lost g .idle) :
    Always (EndsLate g s c.config.idle) (⟨c.now, .lost c.generation cause⟩ :: (n ++ c.journal)) := by
  refine ⟨fun hlost => ?_, h.ended.append fun x hx l hlost => absurd hlost.1 (hn x hx)⟩
  have hq := hlost.2 _ (List.mem_append_left _ hm)
  cases hq.symm.trans (ho (Occurrence.lost.inj hlost.1).1)

theorem Deed.attends (hd : Deed e c os d) (h : c.Attends g s) : d.Attends g s := by
  have same := hd
  cases hd with
  | rest | ask | direct | refuse | close | closeAgain | signal | clone | dropHandle | read | readEnd
  | dropStream | pass | look | drop =>
    exact h.frame same rfl rfl (by simp) (fun hu hl => ⟨hu, hl⟩) fun _ w hw => ⟨w, hw, rfl⟩
  | tend l m a hw hn =>
    refine h.frame same rfl rfl (by simp) (fun _ hl => ⟨by rw [hw]; rfl, ?_⟩)
      fun _ w hs => ⟨w, ?_, rfl⟩
    · rw [hw, Stage.hasListened_session l m]
      exact hl
    · rw [hw, Stage.watch?_session l m]
      exact hs
  | attempt | abandon => exact h.proceed same rfl (by simp)
  | dial _ hw | meet _ _ hw | announce _ hw | replay _ _ _ hw =>
    exact h.prepare same rfl rfl (by simp) (by rw [hw]; rfl) (by rw [hw]; rfl) rfl
  | listen l _ hw =>
    -- The session that starts to listen is of a later generation.
    refine h.frame same rfl rfl (by simp) (fun _ hl => nomatch hl) fun hg => ?_
    have hb := h.begun hg
    rw [hw] at hb
    cases hb rfl
  | written _ _ s _ hw =>
    cases s with
    | replay => exact h.prepare same rfl rfl (by simp) (by rw [hw]; rfl) (by rw [hw]; rfl) rfl
    | listen w =>
      refine h.goOn same rfl rfl (by simp) rfl (v := w) (by rw [hw]; rfl) fun v hs => ?_
      cases hs
      rfl
  | execute _ w _ _ hw | skip _ w _ _ hw | beat _ w _ hw =>
    refine h.goOn same rfl rfl (by simp) rfl (v := w) (by rw [hw]; rfl) fun v hs => ?_
    cases hs
    rfl
  | deliver _ _ _ _ _ _ _ _ _ _ ht | withhold _ _ _ _ _ _ _ _ _ _ _ _ ht =>
    refine h.hear same rfl ht (fun hg => ?_) rfl (by simp) fun v hs => by cases hs; rfl
    subst hg
    exact lastSign_heard (n := [_]) rfl (List.forall_mem_singleton.mpr rfl) _
  | misread _ _ _ _ _ _ _ _ ht =>
    refine h.hear same rfl ht (fun hg => ?_) rfl (by simp) fun v hs => by cases hs; rfl
    subst hg
    exact lastSign_heard (n := []) rfl (List.forall_mem_nil _) _
  | idle l w hw _ hi =>
    refine h.leave same rfl rfl ⟨fun hlost => ?_, h.ended⟩
    obtain ⟨hg, -⟩ := Occurrence.lost.inj hlost.1
    have ht := h.timer hg w (by rw [hw]; rfl)
    exact ht ▸ hi
  | failAttempt cause _ hw =>
    -- Attempts come before the session of their generation.
    refine h.leave same rfl rfl ⟨fun hlost => ?_, h.ended⟩
    have hb := h.begun (Occurrence.lost.inj hlost.1).1
    rcases hw with hw | hw <;> rw [hw] at hb <;> cases hb rfl
  | refused l o s hw =>
    have hn : ∀ x ∈ o.origin.answer c.now (.error .notConnected) ++ [⟨c.now, .refused c.generation o⟩],
        x.what ≠ .lost g .idle :=
      List.forall_mem_append.mpr ⟨fun x => Origin.not_lost_of_answer, by simp⟩
    have hj := h.complain l.refusal (List.mem_append_right _ List.mem_cons_self)
      (fun hg => by simp [Occurrence.complains, hg]) hn
    rw [List.append_assoc] at hj
    exact h.leave same rfl rfl hj
  | hangUp l w cause a hw ha hc =>
    rcases a with _ | told | f
    · exact h.leave same rfl rfl (h.record same (by simp [hc rfl]))
    · exact h.leave same rfl rfl (h.complain (n := [⟨c.now, .received c.generation (.error told)⟩]) cause
        List.mem_cons_self (fun hg => by simp [Occurrence.complains, hg]) (by simp))
    · exact absurd rfl (ha f)
  | latePatience _ _ a => cases a <;> exact h.leave same rfl rfl (h.record same (by simp))
  | _ => exact h.leave same rfl rfl (h.record same (by simp))

/-- No frame has come in on a session that is about to listen. -/
theorem Reachable.lastSign_start (h : Reachable config tokens c) {l : Link}
    (hw : c.worker.stage = .session l (.replaying [])) :
    lastSign c.generation s c.journal = s := by
  have hdeaf := h.keepsCount.deaf (by rw [hw]; rfl) (by rw [hw]; rfl)
  exact Extends.lastSign (j := []) ⟨c.journal, (List.append_nil _).symm, rfl⟩ hdeaf

/-- A session that is on was not lost yet. -/
theorem Reachable.not_lost (h : Reachable config tokens c) (hu : c.worker.stage.isUnderway = true)
    {x : Entry} (hx : x ∈ c.journal) (cause : TransportFault) : x.what ≠ .lost c.generation cause := by
  intro hlost
  have hm : c.generation ∈ (endings c.journal).map (·.1) := by
    refine List.mem_map.mpr ⟨(c.generation, cause), mem_view.mpr ⟨x, hx, ?_⟩, rfl⟩
    rw [hlost]
    rfl
  rcases h.counted.ends.upTo _ hm with hlt | ⟨-, hn⟩
  · exact Nat.lt_irrefl _ hlt
  · cases hn.symm.trans hu

theorem Reachable.attends_start (h : Reachable config tokens c) {l : Link}
    (hw : c.worker.stage = .session l (.replaying [])) :
    (c.startListening l).Attends c.generation c.now := by
  have hj : Always (EndsLate c.generation c.now c.config.idle) c.journal := by
    have hnone (x : Entry) (hx : x ∈ c.journal) (j : List Entry) :
        EndsLate c.generation c.now c.config.idle j x :=
      fun hlost => absurd hlost.1 (h.not_lost (by rw [hw]; rfl) hx .idle)
    have ha := Always.append (j := []) trivial hnone
    rwa [List.append_nil] at ha
  unfold startListening
  split
  · exact ⟨Nat.le_refl _, Nat.le_refl _, fun _ hu => (nomatch hu), fun _ _ hs => (nomatch hs),
      fun hlost => (nomatch hlost.1), hj⟩
  · refine ⟨Nat.le_refl _, Nat.le_refl _, fun _ _ => rfl, fun _ w hs => ?_, hj⟩
    cases hs
    exact congrArg (Instant.deadline · c.config.idle) (h.lastSign_start hw).symm

lemma startListening_branch (c : Client) (l : Link) : (c.startListening l).worker.branch = .signal := by
  unfold startListening
  split <;> rfl

/-! ### A frame that is there -/

/-- What becomes of an envelope is written after what was written before. -/
theorem deliver_journal (c : Client) (x : Envelope) : ∃ n, (c.deliver x).journal = n ++ c.journal := by
  unfold deliver
  split
  · split <;> exact ⟨[_], rfl⟩
  · exact ⟨[_], rfl⟩

lemma judge_journal (c : Client) (l : Link) (w : Watch) (f : Frame) :
    ∃ n, (c.judge l w f).journal = n ++ c.journal := by
  unfold judge
  split
  · exact deliver_journal c _
  · dsimp only
    split
    · exact ⟨[_], rfl⟩
    · exact ⟨[], rfl⟩

/-- A session goes on after a frame, or that is one too many that cannot be decoded. -/
theorem judge_stage (c : Client) (l : Link) (w : Watch) (f : Frame) :
    (∃ v, v.idle = w.idle ∧ (c.judge l w f).worker.stage = .session l (.listening v)) ∨
      ∃ count, (c.judge l w f).worker.stage = .ending (.undecodable count) := by
  unfold judge
  split
  · exact .inl ⟨{ w with heard := true, failures := 0 }, rfl, rfl⟩
  · dsimp only
    split
    · exact .inr ⟨_, rfl⟩
    · exact .inl ⟨{ w with heard := true, failures := w.failures + 1 }, rfl, rfl⟩

lemma receive_frame {l : Link} {w : Watch} {idle : Instant} (f : Frame)
    (ht : c.now.add? c.config.idle = some idle) : c.receive l w (some (.ok f)) =
      (c.takeIn f (c.hearingBackoff w)).judge l { w with idle } f := by
  rw [receive, ht]
  exact congrArg (·.judge l { w with idle } f) (note_resetDelays c f { w with idle })

/-- A frame does not end the session for its patience. -/
theorem receive_heeds (c : Client) (l : Link) (w : Watch) (f : Frame) :
    (c.receive l w (some (.ok f))).worker.stage ≠ .ending .idle := by
  intro hs
  cases ht : c.now.add? c.config.idle with
  | none =>
    rw [receive, ht] at hs
    cases hs
  | some idle =>
    rw [receive_frame f ht] at hs
    rcases judge_stage (c.takeIn f (c.hearingBackoff w)) l { w with idle } f with ⟨v, -, hv⟩ | ⟨count, hv⟩ <;>
      cases hv.symm.trans hs

/-- A step with a frame ahead does not end the session for its patience. -/
theorem poll_heeds {l : Link} {w : Watch} {f : Frame} {rest : List Arrival}
    (hw : c.worker.stage = .session l (.listening w)) (hm : .frame ∈ c.worker.ahead)
    (hl : l.inbound = .ok f :: rest) (h : c.poll = some d) : d.worker.stage ≠ .ending .idle := by
  intro hi
  rcases poll_before_frame hw hm hl h with h | h | h <;> simp only [listenTo] at h
  · split at h <;> cases h
    cases hi
  · split at h
    · cases h
      unfold execute at hi
      split at hi <;> cases hi
    · split at h <;> cases h
      cases hi
  · simp only [hl] at h
    cases h
    exact c.receive_heeds _ w f hi

/-- A worker at rest is patient yet. -/
theorem lt_idle_of_poll {l : Link} {w : Watch} (hw : c.worker.stage = .session l (.listening w))
    (h : c.poll = none) : c.now < w.idle := by
  have hp : c.turnTo .patience = none := poll_eq_none h (by simp [hw, Stage.branches])
  rw [turnTo_session hw] at hp
  exact listenTo_patience_eq_none.mp hp

/-- Where nobody comes in between two looks of a round, every round starts with the signal. -/
theorem Deed.startsRound (hd : Deed e c os d) (he : e ≠ .look) (h : c.worker.branch = .signal) :
    d.worker.branch = .signal := by
  cases hd with
  | look _ hl => exact absurd hl he
  | latePatience _ _ a | hangUp _ _ _ a => cases a <;> rfl
  | rest | ask | direct | refuse | close | closeAgain | signal | clone | dropHandle | read | readEnd
  | dropStream | pass | tend => exact h
  | _ => rfl

/-! ### Patience -/

/-- How a session that has begun to listen keeps its patience in a run. -/
structure KeepsPatience (es : List Event) (c : Client) (g : Generation) (s : Instant) : Prop where
  /-- Whatever is sent, it counts from the last sign of the server. -/
  timer : c.generation = g → ∀ w, c.worker.stage.watch? = some w →
    w.idle = (lastSign g s c.journal).deadline c.config.idle
  /-- It does not end early. If the clock cannot hold its end, it is as long as a timer can be. -/
  ended : ∀ before e after, c.journal = after ++ e :: before → LosesPatience g before e →
    ((lastSign g s before).add? c.config.idle ≠ none →
      lastSign g s before + c.config.idle.nanos ≤ e.time) ∧
    ((lastSign g s before).add? c.config.idle = none → lastSign g s before + Instant.far ≤ e.time)
  /-- The worker does not rest beyond its end. -/
  rests : ∀ l w chance, c.generation = g → c.worker.stage = .session l (.listening w) →
    c.work chance = none → c.now < ((lastSign g s c.journal).deadline c.config.idle).tickUp
  /-- When nobody comes in between two looks of a round, the worker has always still to look at the frames. -/
  whole : .look ∉ es → ∀ l w, c.worker.stage = .session l (.listening w) → .frame ∈ c.worker.ahead
  /-- While a frame is there that the worker has still to look at in its round, the session does not end for
  its patience. -/
  heeds : ∀ l w f rest chance d, c.generation = g → c.worker.stage = .session l (.listening w) →
    .frame ∈ c.worker.ahead → l.inbound = .ok f :: rest → c.work chance = some d →
      d.worker.stage ≠ .ending .idle
  /-- The frame is taken when nothing comes before it, and judged if the clock holds its patience. -/
  takes : ∀ l w f rest chance, c.generation = g → c.worker.stage = .session l (.listening w) →
    .frame ∈ c.worker.ahead → l.inbound = .ok f :: rest → c.shared.cancelled = false → c.commands = [] →
      c.handles ≠ 0 → c.now.add? c.config.idle ≠ none → ∃ d n, c.work chance = some d ∧
        d.journal = n ++ ⟨c.now, .received g (.ok f)⟩ :: c.journal ∧
          ((∃ m v, d.worker.stage = .session m (.listening v) ∧ v.idle = c.now + c.config.idle.nanos) ∨
            ∃ count, d.worker.stage = .ending (.undecodable count))

theorem Attends.keepsPatience {es : List Event} (h : c.Attends g s)
    (hb : .look ∉ es → c.worker.branch = .signal) : KeepsPatience es c g s where
  timer := h.timer
  ended before e after hj hlost := by
    have ha := h.ended
    rw [hj] at ha
    exact Instant.le_of_deadline_le (ha.fits hlost)
  rests l w chance hg hw hn := by
    rw [← h.timer hg w (by rw [hw]; rfl)]
    rw [work_of_listening hw] at hn
    exact Nat.lt_of_lt_of_le (lt_idle_of_poll hw hn) w.idle.le_tickUp
  whole hn l w hw := by
    rw [Worker.ahead, hw, hb hn]
    simp [Stage.branches]
  heeds l w f rest chance d hg hw hm hl hd := by
    rw [work_of_listening hw] at hd
    exact poll_heeds hw hm hl hd
  takes l w f rest chance hg hw hm hl hc hq hn ht := by
    obtain ⟨idle, hi⟩ := Option.ne_none_iff_exists'.mp ht
    have hr := receive_frame (l := { l with inbound := rest }) (w := w) f hi
    have hwork : c.work chance = some (c.receive { l with inbound := rest } w (some (.ok f))) := by
      rw [work_of_listening hw]
      exact poll_frame hw (reachesFrames_of_ahead hw hm hc hq hn) hl
    obtain ⟨n, hj⟩ := judge_journal (c.takeIn f (c.hearingBackoff w)) { l with inbound := rest }
      { w with idle } f
    refine ⟨_, n, hwork, ?_, ?_⟩
    · rw [hr, hj, ← hg]
      rfl
    · rw [hr]
      rcases judge_stage (c.takeIn f (c.hearingBackoff w)) { l with inbound := rest }
        { w with idle } f with ⟨v, hv, hs⟩ | hs
      · exact .inl ⟨_, v, hs, hv.trans (Instant.add?_eq_some hi)⟩
      · exact .inr hs

/-- From the moment at which it starts to listen a session keeps its patience, whatever happens. -/
theorem patience_kept {l : Link} {chance : Nat} {es : List Event} (hc : Reachable config tokens c)
    (hw : c.worker.stage = .session l (.replaying [])) (hb : c.work chance = some b)
    (hd : b.run es = some d) : KeepsPatience es d c.generation c.now := by
  have hstart : c.startListening l = b := by
    rw [work, hw] at hb
    exact Option.some.inj hb
  have hreach : Reachable config tokens b := hc.step (.work chance) hb
  have hattends := hreach.keep (P := (·.Attends c.generation c.now)) hd (hstart ▸ hc.attends_start hw)
    fun _ _ hdeed ih => hdeed.attends ih
  refine hattends.keepsPatience fun hn => ?_
  refine hreach.keep (P := (·.worker.branch = .signal)) hd (hstart ▸ startListening_branch c l)
    fun hm _ hdeed ih => hdeed.startsRound (fun he => hn (he ▸ hm)) ih

/-- A heartbeat is sent, a frame comes in, and then nothing does although heartbeats are due. -/
def lulledRun : List Event :=
  [.pass 30000000000, .work 0, .work 0, .pass 15000000000, .arrive (.ok (.text "")), .work 0,
    .pass 90000000000, .work 0]

theorem lulled_patience_kept : ∃ c b d, (initial .loopback fun _ => none).run (toSession 0) = some c ∧
    c.worker.stage = .session (.fresh 1 none) (.replaying []) ∧ c.work 0 = some b ∧
      b.run lulledRun = some d ∧ lastSign 1 0 d.journal = 45000000000 ∧
        endings d.journal = [(1, .idle)] ∧ d.now = 135000000000 ∧ KeepsPatience lulledRun d 1 0 := by
  obtain ⟨c, hc, hs⟩ := run_toSession Config.loopback_isValid 0
  have hr : ((initial .loopback fun _ => none).run (toSession 0 ++ .work 0 :: lulledRun)).map
      (fun d => (lastSign 1 0 d.journal, endings d.journal, d.now)) =
        some (45000000000, [(1, .idle)], 135000000000) := by
    decide +kernel
  obtain ⟨d, hd, hv⟩ := Option.map_eq_some_iff.mp hr
  rw [run_append, hc, Option.bind_some] at hd
  obtain ⟨b, hb, hd⟩ := Option.bind_eq_some_iff.mp hd
  simp only [Prod.mk.injEq] at hv
  have hkept := patience_kept (.ofRun hc) hs.stage hb hd
  rw [hs.generation, hs.now] at hkept
  exact ⟨c, b, d, hc, hs.stage, hb, hd, hv.1, hv.2.1, hv.2.2, hkept⟩

end Client

/-- Settings that pass the checks although the clock cannot hold the end of their patience, with hardly
any heartbeats. -/
def Config.stoic : Config := { Config.patient with heartbeat := .ofSeconds 1000000000000000 }

lemma Config.stoic_isValid : Config.stoic.isValid = true := by decide +kernel

namespace Client

open History

/-- Nothing comes in for the longest time that a timer can take. -/
def stoicRun : List Event := [.pass Instant.far, .work 0]

/-- With settings that the clock cannot hold, patience ends early. -/
theorem stoic_patience_ends : ¬ ∀ (config : Config) (tokens : Nat → Option String) (c b d : Client)
    (l : Link) (chance : Nat) (es : List Event), Reachable config tokens c →
      c.worker.stage = .session l (.replaying []) → c.work chance = some b → b.run es = some d →
        ∀ before e after, d.journal = after ++ e :: before → LosesPatience c.generation before e →
          lastSign c.generation c.now before + config.idle.nanos ≤ e.time := by
  intro hall
  obtain ⟨c, hc, hs⟩ := run_toSession Config.stoic_isValid 0
  have hr : ((initial .stoic fun _ => none).run (toSession 0 ++ .work 0 :: stoicRun)).map
      (fun d => (d.journal.head?.map fun e => (e.time, e.what.lost?),
        d.journal.all fun e => !e.what.complains 1)) =
          some (some (Instant.far, some (1, .idle)), true) := by
    decide +kernel
  obtain ⟨d, hd, hv⟩ := Option.map_eq_some_iff.mp hr
  rw [run_append, hc, Option.bind_some] at hd
  obtain ⟨b, hb, hd⟩ := Option.bind_eq_some_iff.mp hd
  simp only [Prod.mk.injEq] at hv
  obtain ⟨hhead, hcalm⟩ := hv
  cases hj : d.journal with
  | nil =>
    rw [hj] at hhead
    cases hhead
  | cons e before =>
    rw [hj] at hhead hcalm
    obtain ⟨htime, hwhat⟩ := Prod.mk.inj (Option.some.inj hhead)
    have hlost : e.what = .lost 1 .idle := by
      cases hw : e.what with
      | lost g cause =>
        rw [hw] at hwhat
        cases hwhat
        rfl
      | _ =>
        rw [hw] at hwhat
        cases hwhat
    have hquiet (x : Entry) (hx : x ∈ before) : x.what.complains 1 = false := by
      simpa using List.all_eq_true.mp hcalm x (List.mem_cons_of_mem e hx)
    have hreach := (Reachable.initial Config.stoic_isValid).run hc
    have hle := hall .stoic _ c b d _ 0 stoicRun hreach hs.stage hb hd before e [] hj
      (by rw [hs.generation]; exact ⟨hlost, hquiet⟩)
    rw [htime] at hle
    have hlong : Instant.far < Duration.longest.nanos := by decide
    exact Nat.not_le.mpr hlong (Nat.le_trans (Nat.le_add_left _ _) hle)

end Client

end MarketFeed
