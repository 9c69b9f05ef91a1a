import MarketFeed.Client.Reading
import MarketFeed.Proofs.AckAccounting
import MarketFeed.Proofs.Lifecycle

/-!
What the reader of a client gets: the envelopes that came in on all sessions, in the order of the
sessions and on each in the order of its frames, without what cannot be decoded and without
acknowledgments that nobody awaited.
-/

namespace MarketFeed

/-- Whether a session has begun to listen. -/
def Stage.hasListened : Stage → Bool
  | session _ (.listening _) | session _ (.writing _ (.listen _)) => true
  | _ => false

theorem Stage.hasListened_session (l m : Link) (a : Activity) :
    (session l a).hasListened = (session m a).hasListened := by
  cases a with
  | writing o s => cases s <;> rfl
  | _ => rfl

/-- The request that an envelope answers. -/
def Envelope.request? : Envelope → Option Request
  | ack topic action _ _ => some ⟨topic, action⟩
  | _ => none

namespace Occurrence

/-- A frame that came in on a session. -/
def frameOn? (g : Generation) : Occurrence → Option Frame
  | received h (.ok f) => if h = g then some f else none
  | _ => none

/-- An envelope that went to the reader. -/
def delivered? : Occurrence → Option Envelope
  | delivered _ x => some x
  | _ => none

def deliveredOn? (g : Generation) : Occurrence → Option Envelope
  | delivered h x => if h = g then some x else none
  | _ => none

/-- An envelope that the reader got. -/
def read? : Occurrence → Option Envelope
  | read x => some x
  | _ => none

end Occurrence

namespace History

/-- Whether an envelope is handed on after others of its session: an acknowledgment is if it was asked
for more often than it has come. -/
def awaits (asked : List Request) (earlier : List Envelope) (x : Envelope) : Bool :=
  match x.request? with
  | some r => (earlier.filterMap Envelope.request?).count r < asked.count r
  | none => true

/-- The envelope in a frame, if it can be decoded and is handed on. -/
def carried (asked : List Request) (earlier : List Envelope) (f : Frame) : List Envelope :=
  match f.decode with
  | .ok x => if awaits asked earlier x then [x] else []
  | .error _ => []

/-- What a session brings: the envelopes in the frames that came in on it, in their order, without
acknowledgments that are not awaited. -/
def heard (g : Generation) : List Entry → List Envelope
  | [] => []
  | e :: j =>
    match e.what.frameOn? g with
    | some f => heard g j ++ carried (requests g j) (heard g j) f
    | none => heard g j

/-- What went to the reader. -/
def handed (j : List Entry) : List Envelope := view Occurrence.delivered? j

def handedOn (g : Generation) (j : List Entry) : List Envelope := view (Occurrence.deliveredOn? g) j

/-- What the reader got. -/
def returned (j : List Entry) : List Envelope := view Occurrence.read? j

variable {g : Generation} {j n : List Entry}

lemma heard_frame {f : Frame} {e : Entry} (h : e.what.frameOn? g = some f) :
    heard g (e :: j) = heard g j ++ carried (requests g j) (heard g j) f := by
  rw [heard, h]

lemma heard_append (h : ∀ e ∈ n, e.what.frameOn? g = none) : heard g (n ++ j) = heard g j := by
  induction n with
  | nil => rfl
  | cons e n ih =>
    obtain ⟨he, hn⟩ := List.forall_mem_cons.mp h
    rw [List.cons_append, heard, he]
    exact ih hn

lemma handedOn_delivered (g h : Generation) (t : Instant) (x : Envelope) :
    handedOn g [⟨t, .delivered h x⟩] = if h = g then [x] else [] := by
  rw [handedOn, view_cons]
  change [] ++ (if h = g then some x else none).toList = _
  split <;> rfl

/-- The acknowledgments among what went to the reader. -/
theorem filterMap_handedOn (g : Generation) (j : List Entry) :
    (handedOn g j).filterMap Envelope.request? = acknowledged g j := by
  rw [handedOn, acknowledged, view, view, List.filterMap_filterMap]
  refine List.filterMap_congr fun e _ => ?_
  cases e.what with
  | delivered h x =>
    by_cases hg : h = g <;> cases x <;> simp [Occurrence.deliveredOn?, Occurrence.acknowledged?, hg,
      Envelope.request?]
  | _ => rfl

end History

namespace Client

open History

variable {c d : Client} {e : Event} {os : List Occurrence} {config : Config}
  {tokens : Nat → Option String}

/-! ### What sessions bring -/

theorem Deed.heard_still {g : Generation} (hd : Deed e c os d)
    (hf : os.filterMap (Occurrence.frameOn? g) = []) : heard g d.journal = heard g c.journal := by
  obtain ⟨n, hj, rfl⟩ := hd.extends
  rw [hj]
  rw [filterMap_happened fun _ _ => rfl] at hf
  -- A frame among the new entries would show among what happened.
  refine heard_append fun x hx => ?_
  cases ho : x.what.frameOn? g with
  | none => rfl
  | some f =>
    have hm : f ∈ view (Occurrence.frameOn? g) n := mem_view.mpr ⟨x, hx, ho⟩
    rw [hf] at hm
    cases hm

/-- All that the sessions bring goes to the reader. -/
def HandsOn (c : Client) : Prop := ∀ g, heard g c.journal = handedOn g c.journal

lemma HandsOn.awaits_iff (h : c.HandsOn) (g : Generation) (topic : Topic) (action : Action)
    (success : Bool) (reason : Option String) :
    awaits (requests g c.journal) (heard g c.journal) (.ack topic action success reason) = true ↔
      (acknowledged g c.journal).count ⟨topic, action⟩ < (requests g c.journal).count ⟨topic, action⟩ := by
  rw [awaits, Envelope.request?, h g, filterMap_handedOn]
  exact decide_eq_true_iff

/-- What is pending is awaited. -/
theorem HandsOn.carried_ok {f : Frame} {x : Envelope} {p : PendingAcks} (h : c.HandsOn)
    (hc : Reachable config tokens c) (hf : f.decode = .ok x) (hp : ∀ topic action success reason,
      x = .ack topic action success reason →
        c.shared.pending.resolve? c.generation ⟨topic, action⟩ = some p) :
    carried (requests c.generation c.journal) (heard c.generation c.journal) f = [x] := by
  have ha : awaits (requests c.generation c.journal) (heard c.generation c.journal) x = true := by
    cases x with
    | ack topic action success reason =>
      exact (h.awaits_iff ..).mpr (hc.reached.accounted.unsettled (hp _ _ _ _ rfl))
    | _ => rfl
  simp [carried, hf, ha]

lemma HandsOn.carried_unawaited {f : Frame} {topic : Topic} {action : Action} {success : Bool}
    {reason : Option String} (h : c.HandsOn) (hc : Reachable config tokens c)
    (hl : c.core.post.isLive = true) (hf : f.decode = .ok (.ack topic action success reason))
    (hp : c.shared.pending.resolve? c.generation ⟨topic, action⟩ = none) :
    carried (requests c.generation c.journal) (heard c.generation c.journal) f = [] := by
  have ha : ¬ awaits (requests c.generation c.journal) (heard c.generation c.journal)
      (.ack topic action success reason) = true := by
    rw [h.awaits_iff]
    exact Nat.not_lt_of_le (Nat.le_of_eq (hc.reached.accounted.settled (k := c.core) hl hp).symm)
  simp [carried, hf, ha]

lemma carried_undecodable {f : Frame} (hf : ∀ x, f.decode ≠ .ok x) (asked : List Request)
    (earlier : List Envelope) : carried asked earlier f = [] := by
  unfold carried
  split
  · rename_i x hx
    exact absurd hx (hf x)
  · rfl

/-- A frame comes in, and what it carries is handed on. -/
theorem HandsOn.hear {g : Generation} {f : Frame} {t : Instant} {n : List Entry} {xs : List Envelope}
    (h : c.HandsOn) (hx : carried (requests c.generation c.journal) (heard c.generation c.journal) f = xs)
    (hn : ∀ e ∈ n, e.what.frameOn? g = none)
    (hv : handedOn g n = if c.generation = g then xs else []) :
    heard g (n ++ ⟨t, .received c.generation (.ok f)⟩ :: c.journal) =
      handedOn g (n ++ ⟨t, .received c.generation (.ok f)⟩ :: c.journal) := by
  have ho : handedOn g (n ++ ⟨t, .received c.generation (.ok f)⟩ :: c.journal) =
      handedOn g c.journal ++ handedOn g n := by
    simp [handedOn, view, Occurrence.deliveredOn?]
  rw [heard_append hn, ho, hv, ← h g]
  -- For another session neither the frame nor what it carries counts.
  by_cases hg : c.generation = g
  · subst hg
    have hf : (⟨t, .received c.generation (.ok f)⟩ : Entry).what.frameOn? c.generation = some f :=
      if_pos rfl
    rw [heard_frame hf, hx, if_pos rfl]
  · have hq : heard g (⟨t, .received c.generation (.ok f)⟩ :: c.journal) = heard g c.journal :=
      heard_append (n := [_]) (List.forall_mem_singleton.mpr (if_neg hg))
    rw [hq, if_neg hg, List.append_nil]

theorem Deed.handsOn (hd : Deed e c os d) (hc : Reachable config tokens c)
    (ht : ∀ l w, c.worker.stage = .session l (.listening w) → c.now.add? c.config.idle ≠ none)
    (h : c.HandsOn) : d.HandsOn := by
  intro g
  have still (hf : os.filterMap (Occurrence.frameOn? g) = [])
      (hn : os.filterMap (Occurrence.deliveredOn? g) = []) : heard g d.journal = handedOn g d.journal := by
    have ho : handedOn g d.journal = _ := hd.shown fun _ _ => rfl
    rw [hd.heard_still hf, ho, hn, List.append_nil, h g]
    rfl
  cases hd with
  | latePatience l w _ hw hn => exact absurd hn (ht l w hw)
  | hangUp _ _ _ a _ ha =>
    rcases a with _ | cause | f
    · exact still rfl rfl
    · exact still rfl rfl
    · exact absurd rfl (ha f)
  | deliver l m w idle f x b p hw hn hi hf hp =>
    exact h.hear (n := [⟨c.now, .delivered c.generation x⟩]) (h.carried_ok hc hf hp)
      (List.forall_mem_singleton.mpr rfl) (handedOn_delivered ..)
  | withhold l m w idle f topic action success reason b hw hn hi hf hp =>
    exact h.hear (n := [⟨c.now, .withheld c.generation (.ack topic action success reason)⟩])
      (h.carried_unawaited hc (by rw [core_post hw]; rfl) hf hp) (List.forall_mem_singleton.mpr rfl)
      (ite_self []).symm
  | misread l m w idle f b hw hn hi hf =>
    exact h.hear (n := []) (carried_undecodable hf ..) (fun _ hm => nomatch hm) (ite_self []).symm
  | despair l w f b hw hf =>
    exact h.hear (n := [⟨c.now, .lost c.generation (.undecodable (w.failures + 1))⟩])
      (carried_undecodable hf ..) (List.forall_mem_singleton.mpr rfl) (ite_self []).symm
  | _ => exact still rfl rfl

/-! ### One session after the other -/

/-- What went to the reader is what sessions brought, in the order of the sessions. -/
structure InOrder (c : Client) : Prop where
  order : handed c.journal = (List.range (c.generation + 1)).flatMap fun g => handedOn g c.journal
  late : ∀ g, c.generation < g → handedOn g c.journal = []

theorem InOrder.still (h : c.InOrder) (hg : d.generation = c.generation)
    (hj : handed d.journal = handed c.journal)
    (hs : ∀ g, handedOn g d.journal = handedOn g c.journal) : d.InOrder where
  order := by
    rw [hj, hg, h.order]
    exact List.flatMap_congr fun g _ => (hs g).symm
  late g hlt := by
    rw [hs g]
    exact h.late g (hg ▸ hlt)

/-- The next attempt begins, and nothing has come in on it. -/
theorem InOrder.attempt (h : c.InOrder) (hg : d.generation = c.generation + 1)
    (hj : handed d.journal = handed c.journal)
    (hs : ∀ g, handedOn g d.journal = handedOn g c.journal) : d.InOrder where
  order := by
    rw [hj, hg, h.order, List.range_succ (n := c.generation + 1), List.flatMap_append,
      List.flatMap_singleton, hs, h.late _ (Nat.lt_succ_self _), List.append_nil]
    exact List.flatMap_congr fun g _ => (hs g).symm
  late g hlt := by
    rw [hs g]
    rw [hg] at hlt
    exact h.late g (Nat.lt_of_succ_lt hlt)

/-- An envelope comes on the latest session. -/
theorem InOrder.deliver {x : Envelope} (h : c.InOrder) (hg : d.generation = c.generation)
    (hj : handed d.journal = handed c.journal ++ [x])
    (hs : ∀ g, handedOn g d.journal =
      handedOn g c.journal ++ if c.generation = g then [x] else []) : d.InOrder where
  order := by
    have hlast : handedOn c.generation d.journal = handedOn c.generation c.journal ++ [x] := by
      rw [hs, if_pos rfl]
    have hrest : ((List.range c.generation).flatMap fun g => handedOn g d.journal) =
        (List.range c.generation).flatMap fun g => handedOn g c.journal := by
      refine List.flatMap_congr fun g hm => ?_
      rw [hs, if_neg (Nat.ne_of_gt (List.mem_range.mp hm)), List.append_nil]
    rw [hj, hg, h.order, List.range_succ, List.flatMap_append, List.flatMap_append,
      List.flatMap_singleton, List.flatMap_singleton, hlast, hrest, List.append_assoc]
  late g hlt := by
    rw [hg] at hlt
    rw [hs, if_neg (Nat.ne_of_lt hlt), List.append_nil]
    exact h.late g hlt

theorem Deed.inOrder (hd : Deed e c os d) (h : c.InOrder) : d.InOrder := by
  have hj : handed d.journal = handed c.journal ++ os.filterMap Occurrence.delivered? :=
    hd.shown fun _ _ => rfl
  have hs (g : Generation) :
      handedOn g d.journal = handedOn g c.journal ++ os.filterMap (Occurrence.deliveredOn? g) :=
    hd.shown fun _ _ => rfl
  have quiet {l m : List Envelope} (hj : l = m ++ []) : l = m := hj.trans (List.append_nil _)
  cases hd with
  | attempt | abandon => exact h.attempt rfl (quiet hj) fun g => quiet (hs g)
  | deliver l m w idle f x =>
    refine h.deliver rfl hj fun g => ?_
    rw [hs g, ← handedOn_delivered g c.generation c.now x]
    rfl
  | latePatience _ _ a | hangUp _ _ _ a =>
    cases a <;> exact h.still rfl (quiet hj) fun g => quiet (hs g)
  | _ => exact h.still rfl (quiet hj) fun g => quiet (hs g)

theorem Reachable.inOrder (h : Reachable config tokens c) : c.InOrder :=
  h.invariant ⟨rfl, fun _ _ => rfl⟩ fun _ hd ih => hd.inOrder ih

/-! ### The reader's end -/

/-- While the reader keeps its stream, what went to it is there or was read. -/
theorem Deed.kept (hd : Deed e c os d)
    (h : c.stream.abandoned = false → handed c.journal = returned c.journal ++ c.stream.backlog)
    (ha : d.stream.abandoned = false) : handed d.journal = returned d.journal ++ d.stream.backlog := by
  have hj : handed d.journal = handed c.journal ++ os.filterMap Occurrence.delivered? :=
    hd.shown fun _ _ => rfl
  have hr : returned d.journal = returned c.journal ++ os.filterMap Occurrence.read? :=
    hd.shown fun _ _ => rfl
  have still {l m : List Envelope} (h : handed c.journal = returned c.journal ++ c.stream.backlog)
      (hj : l = handed c.journal ++ []) (hr : m = returned c.journal ++ []) :
      l = m ++ c.stream.backlog := by
    rw [hj, hr, h, List.append_nil, List.append_nil]
  cases hd with
  | dropStream => cases ha
  | read x xs _ hb hs =>
    rw [hj, hr, h hs, hb]
    exact (List.append_nil _).trans (List.append_cons ..)
  | deliver l m w idle f x =>
    have hs : c.stream.abandoned = false := by
      change (c.stream.push x).abandoned = false at ha
      unfold Lane.push at ha
      split at ha <;> exact ha
    have hb : (c.stream.push x).backlog = c.stream.backlog ++ [x] := Lane.push_backlog hs x
    rw [hj, hr, h hs]
    change _ = _ ++ (c.stream.push x).backlog
    rw [hb, ← List.append_assoc]
    exact congrArg (· ++ _ ++ _) (List.append_nil _).symm
  | latePatience _ _ a | hangUp _ _ _ a => cases a <;> exact still (h ha) hj hr
  | _ => exact still (h ha) hj hr

theorem Reachable.kept (h : Reachable config tokens c) :
    c.stream.abandoned = false → handed c.journal = returned c.journal ++ c.stream.backlog :=
  h.invariant (P := fun c => c.stream.abandoned = false →
    handed c.journal = returned c.journal ++ c.stream.backlog) (fun _ => rfl) fun _ hd ih => hd.kept ih

/-! ### The end of the stream -/

/-- After the worker has gone nothing is written into the stream. -/
theorem Deed.gone (hd : Deed e c os d) (hg : c.worker.stage = .gone) :
    d.worker.stage = .gone ∧ d.stream.finished = c.stream.finished ∧
      (c.stream.backlog = [] → d.stream.backlog = [] ∧ os.filterMap Occurrence.read? = []) := by
  have away {p : Stage} (hw : c.worker.stage = p) (hp : p ≠ .gone) : False := hp (hw.symm.trans hg)
  cases hd with
  | rest | ask | direct | refuse | close | closeAgain | signal | clone | dropHandle | readEnd | pass
  | look => exact ⟨hg, rfl, fun hb => ⟨hb, rfl⟩⟩
  | read x xs _ hb => exact ⟨hg, rfl, fun hn => nomatch hb.symm.trans hn⟩
  | dropStream => exact ⟨hg, rfl, fun _ => ⟨rfl, rfl⟩⟩
  | leave _ _ hw => obtain hw | hw | hw := hw <;> exact (away hw nofun).elim
  | failAttempt _ _ hw => obtain hw | hw := hw <;> exact (away hw nofun).elim
  | crash _ _ hw =>
    rw [hg] at hw
    cases hw
  | tend _ _ _ hw | meet _ _ hw | attempt hw | abandon hw | dial _ hw | announce _ hw | decline _ hw
  | replay _ _ _ hw | listen _ _ hw | lateHeartbeat _ hw | written _ _ _ _ hw | refused _ _ _ hw
  | depart _ _ hw | departLate _ _ hw | execute _ _ _ _ hw | skip _ _ _ _ hw | departAlone _ _ hw
  | latePatience _ _ _ hw | hangUp _ _ _ _ hw | deliver _ _ _ _ _ _ _ _ hw | withhold _ _ _ _ _ _ _ _ _ _ hw
  | misread _ _ _ _ _ _ hw | despair _ _ _ _ hw | idle _ _ hw | beat _ _ _ hw | pause _ _ _ hw
  | giveUp _ hw | pauseQuietly _ _ _ hw | giveUpQuietly _ hw | wake _ hw | drop _ _ _ hw
  | leaveAlone _ hw | finish hw | release _ hw => exact (away hw nofun).elim

theorem Deed.finishes (hd : Deed e c os d) (hf : d.stream.finished = true) :
    c.stream.finished = true ∨ d.worker.stage = .gone := by
  cases hd with
  | release => exact .inr rfl
  | deliver => exact .inl ((Lane.push_finished ..).symm.trans hf)
  | latePatience _ _ a | hangUp _ _ _ a => cases a <;> exact .inl hf
  | _ => exact .inl hf

/-- The stream is finished when the worker has gone. -/
theorem Reachable.gone (h : Reachable config tokens c) :
    c.stream.finished = true → c.worker.stage = .gone :=
  h.invariant (P := fun c => c.stream.finished = true → c.worker.stage = .gone) (fun hf => nomatch hf)
    fun _ hd ih hf => (hd.finishes hf).elim (fun hf => (hd.gone (ih hf)).1) id

/-- The reader has got all there will be. -/
structure Drained (c : Client) : Prop where
  gone : c.worker.stage = .gone
  finished : c.stream.finished = true
  backlog : c.stream.backlog = []

theorem Deed.drained (hd : Deed e c os d) (h : c.Drained) :
    d.Drained ∧ os.filterMap Occurrence.read? = [] := by
  obtain ⟨hg, hf, hb⟩ := hd.gone h.gone
  exact ⟨⟨hg, hf.trans h.finished, (hb h.backlog).1⟩, (hb h.backlog).2⟩

/-! ### Patience -/

/-- A session listens only if the clock has held its first heartbeat. -/
theorem Deed.listens (hd : Deed e c os d)
    (h : c.worker.stage.hasListened = true → (0 : Instant).add? c.config.heartbeat ≠ none)
    (hl : d.worker.stage.hasListened = true) : (0 : Instant).add? d.config.heartbeat ≠ none := by
  cases hd with
  | rest | ask | direct | refuse | close | closeAgain | signal | clone | dropHandle | read | readEnd
  | dropStream | pass | look | drop => exact h hl
  | tend l m a hw => exact h (by rw [hw, Stage.hasListened_session l m]; exact hl)
  | listen _ _ _ ht =>
    exact Instant.add?_ne_none_mono (Nat.zero_le c.now) fun hn => nomatch ht.symm.trans hn
  | execute _ _ _ _ hw | skip _ _ _ _ hw | deliver _ _ _ _ _ _ _ _ hw
  | withhold _ _ _ _ _ _ _ _ _ _ hw | misread _ _ _ _ _ _ hw | beat _ _ _ hw =>
    exact h (by rw [hw]; rfl)
  | written l o s _ hw =>
    cases s with
    | replay => cases hl
    | listen => exact h (by rw [hw]; rfl)
  | latePatience _ _ a | hangUp _ _ _ a => cases a <;> cases hl
  | _ => cases hl

theorem Reachable.listens (h : Reachable config tokens c) :
    c.worker.stage.hasListened = true → (0 : Instant).add? c.config.heartbeat ≠ none :=
  h.invariant (P := fun c => c.worker.stage.hasListened = true →
    (0 : Instant).add? c.config.heartbeat ≠ none) (fun hl => nomatch hl) fun _ hd ih => hd.listens ih

/-! ### Calls of the reader -/

/-- What came in on all sessions so far and is for the reader. -/
def history (c : Client) : List Envelope :=
  (List.range (c.generation + 1)).flatMap fun g => heard g c.journal

/-- The stream after a look is what the same look leaves of a lane. -/
theorem look_stream (c : Client) (r : Reading) : (c.look r).2.stream = (r.look c.now c.stream).2 := by
  change c.read.2.stream = _
  unfold read
  cases hb : c.stream.backlog <;> cases hf : c.stream.finished <;> cases r <;>
    simp [Reading.look, Lane.next, Lane.poll, hb, hf, note]

lemma look_of_backlog {x : Envelope} {xs : List Envelope} (h : c.stream.backlog = x :: xs)
    (r : Reading) : (c.look r).1 = some (.ok (some x)) := by
  cases r <;> simp [look, Reading.look, Lane.next, Lane.poll, h]

lemma look_of_finished (hb : c.stream.backlog = []) (hf : c.stream.finished = true) (r : Reading) :
    (c.look r).1 = some (.ok none) := by
  cases r <;> simp [look, Reading.look, Lane.next, Lane.poll, hb, hf]

/-- A call that waits gives back nothing only at the end. -/
theorem finished_of_look {r : Reading} (hr : r ≠ .tryNext) (h : (c.look r).1 = some (.ok none)) :
    c.stream.backlog = [] ∧ c.stream.finished = true := by
  cases hb : c.stream.backlog with
  | cons x xs =>
    rw [look_of_backlog hb r] at h
    cases h
  | nil =>
    cases hf : c.stream.finished with
    | true => exact ⟨rfl, rfl⟩
    | false =>
      refine absurd h ?_
      cases r <;> simp [look, Reading.look, Lane.next, Lane.poll, hb, hf, isDue] at hr ⊢

lemma returned?_look (hb : c.stream.backlog = []) (r : Reading) : returned? (c.look r).1 = none := by
  cases hf : c.stream.finished <;> cases r <;>
    simp [look, Reading.look, Lane.next, Lane.poll, hb, hf, isDue, returned?]

/-- The reader gets what its calls return. -/
theorem returned_look (r : Reading) :
    returned (c.look r).2.journal = returned c.journal ++ (returned? (c.look r).1).toList := by
  change returned c.read.2.journal = _
  unfold read Lane.poll
  cases hb : c.stream.backlog with
  | cons x xs =>
    rw [look_of_backlog hb]
    exact view_cons _
  | nil =>
    rw [returned?_look hb]
    cases hf : c.stream.finished with
    | true => exact view_cons _
    | false => exact (List.append_nil _).symm

theorem follow_event (he : e ≠ .read) (hs : e ≠ .dropStream) (acts : List Act) :
    c.follow (.event e :: acts) = (c.step e).bind fun c => c.follow acts := by
  cases e with
  | read => exact absurd rfl he
  | dropStream => exact absurd rfl hs
  | _ => rfl

/-- Only looks of the reader read. -/
theorem Deed.unread (hd : Deed e c os d) (he : e ≠ .read) : os.filterMap Occurrence.read? = [] := by
  cases hd with
  | read _ _ hr => exact absurd hr he
  | latePatience _ _ a | hangUp _ _ _ a => cases a <;> rfl
  | _ => rfl

theorem Deed.keepsStream (hd : Deed e c os d) (he : e ≠ .dropStream)
    (ha : c.stream.abandoned = false) : d.stream.abandoned = false := by
  cases hd with
  | dropStream hs => exact absurd hs he
  | deliver l m w idle f x =>
    change (c.stream.push x).abandoned = false
    unfold Lane.push
    split <;> exact ha
  | latePatience _ _ a | hangUp _ _ _ a => cases a <;> exact ha
  | _ => exact ha

/-- What a reader follows is a run, and its calls return what the run says that it got. -/
theorem Reachable.follow {acts : List Act} {xs : List Envelope} (hr : Reachable config tokens c)
    (ha : c.stream.abandoned = false) (h : c.follow acts = some (xs, d)) :
    d.stream.abandoned = false ∧ (∃ es, c.run es = some d) ∧
      returned d.journal = returned c.journal ++ xs := by
  induction acts generalizing c xs with
  | nil =>
    cases h
    exact ⟨ha, ⟨[], rfl⟩, (List.append_nil _).symm⟩
  | cons act acts ih =>
    cases act with
    | look r =>
      obtain ⟨⟨ys, b⟩, hb, hx⟩ := Option.map_eq_some_iff.mp h
      cases hx
      have hs : c.step .read = some (c.look r).2 := if_neg (Bool.eq_false_iff.mp ha)
      obtain ⟨os, hd⟩ := hr.deed hs
      obtain ⟨hda, ⟨es, hes⟩, hret⟩ := ih (hr.step .read hs) (hd.keepsStream nofun ha) hb
      exact ⟨hda, ⟨.read :: es, run_of_step hs hes⟩, by rw [hret, returned_look, List.append_assoc]⟩
    | event e =>
      by_cases he : e = .read
      · subst he
        cases h
      by_cases hs : e = .dropStream
      · subst hs
        cases h
      rw [follow_event he hs] at h
      obtain ⟨b, hb, hf⟩ := Option.bind_eq_some_iff.mp h
      obtain ⟨os, hd⟩ := hr.deed hb
      obtain ⟨hda, ⟨es, hes⟩, hret⟩ := ih (hr.step e hb) (hd.keepsStream hs ha) hf
      have hq : returned b.journal = returned c.journal ++ os.filterMap Occurrence.read? :=
        hd.shown fun _ _ => rfl
      rw [hd.unread he, List.append_nil] at hq
      exact ⟨hda, ⟨e :: es, run_of_step hb hes⟩, by rw [hret, hq]⟩

/-- The reader gets the history. -/
structure ReturnsHistory (c : Client) (xs : List Envelope) : Prop where
  /-- The first of it was returned, and the rest waits. -/
  exact : c.history = xs ++ c.stream.backlog
  /-- No session came after those of the history. -/
  latest : ∀ g, c.generation < g → heard g c.journal = []
  next : ∀ r x later, c.history = xs ++ x :: later → (c.look r).1 = some (.ok (some x))
  /-- A call that waits returns nothing only when all was returned and the client is closed. -/
  ended : ∀ r, r ≠ .tryNext → (c.look r).1 = some (.ok none) → xs = c.history ∧ c.state = .closed
  /-- And after that no call returns anything. -/
  final : ∀ r, r ≠ .tryNext → (c.look r).1 = some (.ok none) →
    ∀ acts ys d, c.follow acts = some (ys, d) → ys = [] ∧ ∀ r, (d.look r).1 = some (.ok none)

end Client

/-- Whether the clock holds the end of a patience that is set at a moment, or no session ever listens. -/
def Config.HearsAt (c : Config) (t : Instant) : Prop :=
  t.add? c.idle ≠ none ∨ (0 : Instant).add? c.heartbeat = none

theorem Config.HearsAt.mono {c : Config} {t u : Instant} (h : c.HearsAt u) (htu : t ≤ u) : c.HearsAt t :=
  h.imp_left (Instant.add?_ne_none_mono htu)

lemma Frame.decode_pong : Frame.pong.decode = .ok .heartbeat := by decide +kernel

namespace Client

open History

variable {c d : Client} {config : Config} {tokens : Nat → Option String} {t : Instant}

/-- What deeds keep, where the clock holds the patience of a session that listens. -/
theorem Reachable.keep_hearing {P : Client → Prop} (h : Reachable config tokens c)
    (ht : config.HearsAt c.now) (start : P (Client.initial config tokens))
    (keep : ∀ {e b os d}, Reachable config tokens b → Deed e b os d →
      (∀ l w, b.worker.stage = .session l (.listening w) → b.now.add? b.config.idle ≠ none) →
        P b → P d) : P c := by
  refine h.invariant (P := fun c => config.HearsAt c.now → P c) (fun _ => start)
    (fun {e b os d} hb hd ih hf => ?_) ht
  have hn : config.HearsAt b.now := hf.mono hd.frame.2.2
  refine keep hb hd (fun l w hw => ?_) (ih hn)
  rw [hb.config_eq]
  refine hn.resolve_right (hb.config_eq ▸ hb.listens ?_)
  rw [hw]
  rfl

theorem Reachable.handsOn (h : Reachable config tokens c) (ht : config.HearsAt c.now) : c.HandsOn :=
  h.keep_hearing ht (fun _ => rfl) fun hb hd hl ih => hd.handsOn hb hl ih

theorem returnsHistory_of_follow {acts : List Act} {xs : List Envelope} (hv : config.isValid = true)
    (h : (initial config tokens).follow acts = some (xs, c)) (ht : config.HearsAt c.now) :
    c.ReturnsHistory xs := by
  have hr : Reachable config tokens (initial config tokens) := .initial hv
  obtain ⟨ha, ⟨es, hes⟩, hret⟩ := hr.follow rfl h
  have hc : Reachable config tokens c := hr.run hes
  have hon : c.HandsOn := hc.handsOn ht
  have hexact : c.history = xs ++ c.stream.backlog := by
    have hx : returned c.journal = xs := hret
    rw [← hx, ← hc.kept ha, hc.inOrder.order]
    exact List.flatMap_congr fun g _ => hon g
  have hend {r : Reading} (hn : r ≠ .tryNext) (hl : (c.look r).1 = some (.ok none)) : c.Drained := by
    obtain ⟨hb, hf⟩ := finished_of_look hn hl
    exact ⟨hc.gone hf, hf, hb⟩
  refine ⟨hexact, fun g hg => (hon g).trans (hc.inOrder.late g hg), fun r x later hx => ?_,
    fun r hn hl => ?_, fun r hn hl acts ys d hd => ?_⟩
  · exact look_of_backlog (List.append_cancel_left (hexact.symm.trans hx)) r
  · have hd := hend hn hl
    refine ⟨?_, hc.reached.placed.past ?_⟩
    · rw [hexact, hd.backlog, List.append_nil]
    · rw [core_post hd.gone]
      rfl
  · have hd0 := hend hn hl
    obtain ⟨-, ⟨fs, hfs⟩, hys⟩ := hc.follow ha hd
    obtain ⟨hdr, hsame⟩ := hc.keep
      (P := fun b => b.Drained ∧ returned b.journal = returned c.journal) hfs ⟨hd0, rfl⟩
      fun {_ b os d} _ _ hd ih => by
        obtain ⟨hdr, hq⟩ := hd.drained ih.1
        have hq' : returned d.journal = returned b.journal ++ os.filterMap Occurrence.read? :=
          hd.shown fun _ _ => rfl
        exact ⟨hdr, by rw [hq', hq, List.append_nil, ih.2]⟩
    refine ⟨List.append_cancel_left (hys.symm.trans hsame |>.trans (List.append_nil _).symm), fun r => ?_⟩
    exact look_of_finished hdr.backlog hdr.finished r

theorem follow_events {es : List Event} (he : ∀ e ∈ es, e ≠ .read ∧ e ≠ .dropStream) (c : Client) :
    c.follow (es.map .event) = (c.run es).map ([], ·) := by
  induction es generalizing c with
  | nil => rfl
  | cons e es ih =>
    obtain ⟨⟨hr, hs⟩, hes⟩ := List.forall_mem_cons.mp he
    rw [List.map_cons, follow_event hr hs, run, Option.map_bind]
    exact Option.bind_congr fun d _ => ih hes d

/-- A frame that the clock leaves no patience for is lost. -/
theorem exists_unheard (hv : config.isValid = true) (h : ¬ config.HearsAt t) : ∃ es c,
    (initial config fun _ => none).run es = some c ∧ (∀ e ∈ es, e ≠ .read ∧ e ≠ .dropStream) ∧
      c.now = t ∧ c.stream = .empty ∧ heard 1 c.journal = [.heartbeat] ∧ handedOn 1 c.journal = [] := by
  obtain ⟨hi, hh⟩ := not_or.mp h
  obtain ⟨c, hc, hf⟩ := run_toSession hv 0
  obtain ⟨d, hd, hn, -, hs, hj⟩ := hf.late_patience .pong t hh (by rw [Nat.zero_add]; exact not_not.mp hi)
  obtain ⟨endpoint, hcj⟩ := hf.journal
  refine ⟨_, d, run_of_append hc hd, by simp [toSession, frameAfter], hn.trans (Nat.zero_add t), hs, ?_, ?_⟩
  · rw [hj, hcj]
    simp [heard, Occurrence.frameOn?, carried, Frame.decode_pong, awaits, Envelope.request?]
  · rw [hj, hcj]
    rfl

/-- And its reader does not get it. -/
theorem exists_unreturned (hv : config.isValid = true) (h : ¬ config.HearsAt t) : ∃ acts xs c,
    (initial config fun _ => none).follow acts = some (xs, c) ∧ c.now = t ∧ ¬ c.ReturnsHistory xs := by
  obtain ⟨es, c, hc, he, hn, hs, hheard, -⟩ := exists_unheard hv h
  have hfollow : (initial config fun _ => none).follow (es.map .event) = some ([], c) := by
    rw [follow_events he, hc]
    rfl
  refine ⟨_, [], c, hfollow, hn, fun hret => ?_⟩
  have hle : 1 ≤ c.generation := Nat.le_of_not_lt fun hlt => by
    cases hheard.symm.trans (hret.latest 1 hlt)
  have hm : Envelope.heartbeat ∈ c.history := by
    refine List.mem_flatMap.mpr ⟨1, List.mem_range.mpr (Nat.lt_succ_of_le hle), ?_⟩
    rw [hheard]
    exact List.mem_singleton_self _
  rw [hret.exact, hs] at hm
  cases hm

/-- Until a moment the reader gets the history, exactly if the clock holds its patience. -/
theorem stream_is_history (hv : config.isValid = true) (t : Instant) :
    (∀ (tokens : Nat → Option String) (acts : List Act) (xs : List Envelope) (c : Client),
      (initial config tokens).follow acts = some (xs, c) → c.now ≤ t → c.ReturnsHistory xs) ↔
        config.HearsAt t := by
  refine ⟨fun hall => by_contra fun ht => ?_, fun ht tokens acts xs c h hle => ?_⟩
  · obtain ⟨acts, xs, c, h, hn, hnot⟩ := exists_unreturned hv ht
    exact hnot (hall _ acts xs c h (Nat.le_of_eq hn))
  · exact returnsHistory_of_follow hv h (ht.mono hle)

/-- On a first session an acknowledgment comes twice, something unreadable and a sign of life; on a
second one there is another sign of life before it is closed. The reader looks in every way. -/
def restlessReading : List Act :=
  [.event (.request ⟨.balances, .subscribe⟩), .event (.work 0), .event (.work 0),
    .event (.dialAnswer (.link none)), .event (.work 0), .event (.work 0), .event (.work 0),
    .event (.work 0), .look .next, .event (.arrive (.ok balancesAck)),
    .event (.arrive (.ok balancesAck)), .event (.arrive (.ok (.text ""))), .event (.arrive (.ok .pong)),
    .event (.work 0), .event (.work 0), .event (.work 0), .event (.work 0), .look .pollNext,
    .event .hangUp, .event (.work 0), .event (.work 0), .event (.pass 1000000000), .event (.work 0),
    .event (.work 0), .event (.work 0), .event (.dialAnswer (.link none)), .event (.work 0),
    .event (.work 0), .event (.work 0), .event (.work 0), .event (.arrive (.ok .pong)), .event (.work 0),
    .look (.nextBefore 5), .look .tryNext, .look (.nextBefore 5), .event (.close .normal),
    .event .signal, .event (.work 0), .event (.work 0), .look .next, .event (.work 0), .look .next]

theorem restless_reading_is_history : ∃ xs c,
    (initial .loopback fun _ => none).follow restlessReading = some (xs, c) ∧
      xs = [.ack .balances .subscribe true none, .heartbeat, .heartbeat] ∧ c.state = .closed ∧
        c.ReturnsHistory xs := by
  have hr : ((initial .loopback fun _ => none).follow restlessReading).map
      (fun r => (r.1, r.2.state, r.2.now)) =
        some ([.ack .balances .subscribe true none, .heartbeat, .heartbeat], .closed, 1000000000) := by
    decide +kernel
  obtain ⟨⟨xs, c⟩, hf, hv⟩ := Option.map_eq_some_iff.mp hr
  simp only [Prod.mk.injEq] at hv
  exact ⟨xs, c, hf, hv.1, hv.2.1, (stream_is_history Config.loopback_isValid 1000000000).mpr
    (.inl (by decide)) _ restlessReading xs c hf (Nat.le_of_eq hv.2.2)⟩

/-- With settings that the clock cannot hold, the first frame of a session is lost. -/
theorem patient_stream_loses : ¬ ∀ (config : Config) (tokens : Nat → Option String) (acts : List Act)
    (xs : List Envelope) (c : Client), config.isValid = true →
      (initial config tokens).follow acts = some (xs, c) → c.ReturnsHistory xs := by
  intro hall
  have hr : ((initial .patient fun _ => none).follow (firstFrameRun.map .event)).map
      (fun r => (r.1, r.2.stream.backlog, r.2.history)) = some ([], [], [.heartbeat]) := by
    decide +kernel
  obtain ⟨⟨xs, c⟩, hf, hv⟩ := Option.map_eq_some_iff.mp hr
  simp only [Prod.mk.injEq] at hv
  obtain ⟨hx, hb, hh⟩ := hv
  have he := (hall .patient _ _ xs c Config.patient_isValid hf).exact
  rw [hx, hb, hh] at he
  cases he

end Client

end MarketFeed
