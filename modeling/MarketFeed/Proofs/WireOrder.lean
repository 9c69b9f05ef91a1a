import MarketFeed.Proofs.Calls
import MarketFeed.Proofs.Moves

/-!
The order of messages on a session. A live session follows a plan: what was said, what of the replay is
left, and what is in the queue for it are together all that it is to be told, in that order.
-/

namespace MarketFeed

open History

/-- No call has a sign of life for its message. -/
theorem Occurrence.called?_ne_ping {g : Generation} {x : Occurrence} {o : Outgoing}
    (h : x.called? g = some o) : o.message ≠ .ping := by
  unfold called? at h
  split at h
  · split at h <;> cases h
    rename_i r _
    obtain ⟨topic, action⟩ := r
    cases action <;> exact fun hp => nomatch hp
  · split at h <;> cases h
    rename_i d _
    cases d <;> exact fun hp => nomatch hp
  · cases h

lemma History.asked_ne_ping {g : Generation} {j : List Entry} :
    ∀ o ∈ asked g j, o.message ≠ .ping := by
  intro o ho
  rcases List.mem_append.mp ho with ho | ho
  · obtain ⟨t, -, rfl⟩ := List.mem_map.mp ho
    exact fun hp => nomatch hp
  · obtain ⟨e, -, he⟩ := mem_view.mp ho
    exact Occurrence.called?_ne_ping he

lemma History.asked_ne_heartbeat {g : Generation} {j : List Entry} {o : Outgoing}
    (h : o ∈ asked g j) : o ≠ .heartbeat := by
  rintro rfl
  exact asked_ne_ping _ h rfl

namespace Core

lemma queued_enqueue (k : Core) (command : Command) (g : Generation) :
    (k.enqueue command).queued g =
      k.queued g ++ if command.generation = g then [command.outgoing] else [] := by
  by_cases h : command.generation = g <;> simp [queued, enqueue, h]

lemma queued_head {k : Core} {command : Command} {rest : List Command}
    (h : k.commands = command :: rest) (g : Generation) :
    k.queued g = (if command.generation = g then [command.outgoing] else []) ++
      { k with commands := rest }.queued g := by
  by_cases hc : command.generation = g <;> simp [queued, h, hc]

/-- How a live session stands to its plan. -/
structure OnPlan (k : Core) : Prop where
  /-- All that was passed to the connection was taken, up to what is on its way. -/
  wire : passed k.generation k.journal = written k.generation k.journal ++ k.post.flight
  plan : spoken k.generation k.journal ++ k.post.owed.map .ofReplay ++ k.queued k.generation =
    asked k.generation k.journal
  /-- Before the replay is over nothing else is said. -/
  replay : k.post.isReplaying = true → passed k.generation k.journal ++ k.post.owed.map .ofReplay =
    (snapshot k.generation k.journal).map .ofReplay
  heard : k.post.isReplaying = false →
    (snapshot k.generation k.journal).map .ofReplay <+: written k.generation k.journal

variable {k l : Core}

/-- The plan stands when nothing happens that is about the session. -/
theorem OnPlan.frame (h : k.OnPlan) (hg : l.generation = k.generation) (hp : l.post = k.post)
    (hq : l.queued k.generation = k.queued k.generation)
    (ha : Agree k.generation k.journal l.journal) : l.OnPlan where
  wire := by rw [hg, hp, ha.passed, ha.written, h.wire]
  plan := by rw [hg, hp, ha.spoken, ha.asked, hq, h.plan]
  replay hr := by
    rw [hp] at hr
    rw [hg, hp, ha.passed, ha.snapshot, h.replay hr]
  heard hr := by
    rw [hp] at hr
    rw [hg, ha.snapshot, ha.written]
    exact h.heard hr

/-- A call to the live session adds its message to the plan, at the end. -/
theorem OnPlan.call {o : Outgoing} (h : k.OnPlan) (hg : l.generation = k.generation)
    (hp : l.post = k.post) (hq : l.queued k.generation = k.queued k.generation ++ [o])
    (hs : snapshot k.generation l.journal = snapshot k.generation k.journal)
    (hc : called k.generation l.journal = called k.generation k.journal ++ [o])
    (hpass : passed k.generation l.journal = passed k.generation k.journal)
    (hw : written k.generation l.journal = written k.generation k.journal) : l.OnPlan where
  wire := by rw [hg, hp, hpass, hw, h.wire]
  plan := by
    have hplan := h.plan
    unfold spoken asked at hplan ⊢
    rw [hg, hp, hpass, hs, hc, hq, ← List.append_assoc, hplan, List.append_assoc]
  replay hr := by
    rw [hp] at hr
    rw [hg, hp, hpass, hs, h.replay hr]
  heard hr := by
    rw [hp] at hr
    rw [hg, hs, hw]
    exact h.heard hr

/-- A session that was not spoken on is announced: it is to be told of the wanted topics. -/
theorem OnPlan.start {t : Instant} (hs : k.SilentOn k.generation) (hreg : k.registry = wanted k.journal)
    (hg : l.generation = k.generation) (hpost : l.post = .replaying k.registry.topics)
    (hq : l.queued k.generation = k.queued k.generation)
    (hj : l.journal = ⟨t, .published (.connected k.generation)⟩ :: k.journal) : l.OnPlan := by
  have ha : Agree k.generation [] k.journal := agree_nil hs.journal
  have hn : k.queued k.generation = [] := by
    simpa [Core.queued] using hs.queue
  have hsnap : snapshot k.generation l.journal = k.registry.topics := by
    rw [hj, hreg]
    exact if_pos rfl
  have hpass : passed k.generation l.journal = [] := by
    rw [hj]
    simpa [Occurrence.passed?] using ha.passed
  have hcall : called k.generation l.journal = [] := by
    rw [hj]
    simpa [Occurrence.called?] using ha.called
  have hw : written k.generation l.journal = [] := by
    rw [hj]
    simpa [Occurrence.written?] using ha.written
  refine ⟨?_, ?_, fun _ => ?_, fun hr => ?_⟩
  · rw [hg, hpost, hpass, hw]
    rfl
  · rw [hg, hpost, hq, spoken, hpass, hn, asked, hsnap, hcall]
    simp [Post.owed]
  · rw [hg, hpost, hpass, hsnap, List.nil_append]
    rfl
  · rw [hpost] at hr
    cases hr

/-- The next topic of the replay is passed to the connection. -/
theorem OnPlan.askAgain {t : Instant} {topic : Topic} {rest : List Topic} (h : k.OnPlan)
    (hp : k.post = .replaying (topic :: rest)) (hg : l.generation = k.generation)
    (hpost : l.post = .writing (.ofReplay topic) (some rest))
    (hq : l.queued k.generation = k.queued k.generation)
    (hj : l.journal = ⟨t, .writing k.generation (.ofReplay topic)⟩ :: k.journal) : l.OnPlan := by
  obtain ⟨hwire, hplan, hreplay, -⟩ := h
  rw [hp] at hwire hplan hreplay
  refine ⟨?_, ?_, fun _ => ?_, fun hr => ?_⟩
  · rw [hg, hpost, hj]
    simpa [Occurrence.passed?, Occurrence.written?, Post.flight] using hwire
  · have hbeat : Outgoing.ofReplay topic ≠ .heartbeat := by simp [Outgoing.ofReplay, Outgoing.heartbeat]
    rw [hg, hpost, hj, hq, spoken_cons, asked_cons (by simp [Occurrence.announced?])]
    simpa [Occurrence.passed?, Occurrence.called?, Post.owed, hbeat] using hplan
  · rw [hg, hpost, hj]
    simpa [Occurrence.announced?, Occurrence.passed?, Post.owed] using hreplay rfl
  · rw [hpost] at hr
    cases hr

/-- When no topic is left, the whole replay was taken. -/
theorem OnPlan.endReplay (h : k.OnPlan) (hp : k.post = .replaying []) : { k with post := .listening }.OnPlan := by
  obtain ⟨hwire, hplan, hreplay, -⟩ := h
  rw [hp] at hwire hplan hreplay
  refine ⟨hwire, hplan, fun hr => (nomatch hr), fun _ => ?_⟩
  have hr := hreplay rfl
  rw [hwire] at hr
  simp only [Post.flight, Post.owed, List.map_nil, List.append_nil] at hr
  exact ⟨[], by rw [List.append_nil, hr]⟩

/-- A message is passed to the connection that is no part of the replay. -/
theorem OnPlan.say {t : Instant} {o : Outgoing} (h : k.OnPlan) (hp : k.post = .listening)
    (hg : l.generation = k.generation) (hpost : l.post = .writing o none)
    (hj : l.journal = ⟨t, .writing k.generation o⟩ :: k.journal)
    (hq : k.queued k.generation =
      [o].filter (· ≠ .heartbeat) ++ l.queued k.generation) : l.OnPlan where
  wire := by
    have hw := h.wire
    rw [hp] at hw
    rw [hg, hpost, hj]
    simpa [Occurrence.passed?, Occurrence.written?, Post.flight] using hw
  plan := by
    have ha := h.plan
    rw [hp, hq] at ha
    rw [hg, hpost, hj, spoken_cons, asked_cons (by simp [Occurrence.announced?])]
    simpa [Occurrence.passed?, Occurrence.called?, Post.owed] using ha
  replay hr := by
    rw [hpost] at hr
    cases hr
  heard _ := by
    have hh := h.heard (by rw [hp]; rfl)
    rw [hg, hj]
    simpa [Occurrence.announced?, Occurrence.written?] using hh

/-- A command for the session is of a call, and not a sign of life. -/
theorem OnPlan.command_ne_heartbeat {command : Command} {rest : List Command} (h : k.OnPlan)
    (hc : k.commands = command :: rest) (hg : command.generation = k.generation) :
    command.outgoing ≠ .heartbeat := by
  refine asked_ne_heartbeat (g := k.generation) (j := k.journal) ?_
  rw [← h.plan, k.queued_head hc, if_pos hg]
  simp

/-- The connection takes the message that is on its way. -/
theorem OnPlan.write {o : Outgoing} {rest : Option (List Topic)} (h : k.OnPlan)
    (hp : k.post = .writing o rest) (hg : l.generation = k.generation) (hpost : l.post = .next rest)
    (hq : l.queued k.generation = k.queued k.generation)
    (hs : snapshot k.generation l.journal = snapshot k.generation k.journal)
    (hc : called k.generation l.journal = called k.generation k.journal)
    (hpass : passed k.generation l.journal = passed k.generation k.journal)
    (hw : written k.generation l.journal = written k.generation k.journal ++ [o]) : l.OnPlan := by
  obtain ⟨hwire, hplan, hreplay, hheard⟩ := h
  rw [hp] at hwire hplan hreplay hheard
  have howed : l.post.owed = (Post.writing o rest).owed := by
    rw [hpost]
    cases rest <;> rfl
  have hreplaying : l.post.isReplaying = (Post.writing o rest).isReplaying := by
    rw [hpost]
    cases rest <;> rfl
  refine ⟨?_, ?_, fun hr => ?_, fun hr => ?_⟩
  · have hflight : l.post.flight = [] := by
      rw [hpost]
      cases rest <;> rfl
    rw [hg, hpass, hw, hflight, hwire, List.append_nil]
    rfl
  · unfold spoken asked at hplan ⊢
    rw [hg, howed, hpass, hs, hc, hq, hplan]
  · rw [hreplaying] at hr
    rw [hg, howed, hpass, hs, hreplay hr]
  · rw [hreplaying] at hr
    rw [hg, hs, hw]
    exact (hheard hr).trans (List.prefix_append _ _)

end Core

theorem Move.onPlan {k l : Core} (m : Move k l) (hk : k.Placed)
    (hf : ∀ {g}, k.Unopened g → k.SilentOn g) (hreg : k.registry = wanted k.journal)
    (ih : k.post.isLive = true → k.OnPlan) (hl : l.post.isLive = true) : l.OnPlan := by
  have unrelated {e : Entry} (he : e.what.session? = none) :
      Agree k.generation k.journal (e :: k.journal) := agree_cons (Occurrence.session?_ne he)
  cases m with
  | note e silent =>
    exact (ih hl).frame rfl rfl rfl (unrelated (Occurrence.session?_of_isSilent silent))
  | withhold => exact (ih hl).frame rfl rfl rfl (unrelated rfl)
  | defer t r hs =>
    exact (ih hl).frame rfl rfl rfl (unrelated (Occurrence.session?_requested hs k.callsMade r))
  | ask g t r hs =>
    obtain ⟨rfl, -⟩ := hk.connected g hs
    refine (ih hl).call (o := .ofRequest k.callsMade r) rfl rfl ?_ ?_ ?_ ?_ ?_
    · exact (k.queued_enqueue _ _).trans (by rw [if_pos rfl])
    all_goals simp [Core.log, Core.countCall, Core.enqueue, Core.want, Occurrence.announced?,
      Occurrence.called?, Occurrence.passed?, Occurrence.written?]
  | refuse t d fault hs =>
    have hd := unrelated (e := ⟨t, .directed k.state k.callsMade d⟩)
      (Occurrence.session?_directed hs k.callsMade d)
    exact (ih hl).frame rfl rfl rfl (hd.cons (Occurrence.session?_ne rfl))
  | direct g t d hs =>
    obtain ⟨rfl, -⟩ := hk.connected g hs
    refine (ih hl).call (o := .ofDirective k.callsMade d) rfl rfl ?_ ?_ ?_ ?_ ?_
    · exact (k.queued_enqueue _ _).trans (by rw [if_pos rfl])
    all_goals simp [Core.log, Core.countCall, Core.enqueue, Occurrence.announced?, Occurrence.called?,
      Occurrence.passed?, Occurrence.written?]
  | close => exact ⟨(ih hl).wire, (ih hl).plan, (ih hl).replay, (ih hl).heard⟩
  | attempt | abandon | pause | finish | release => cases hl
  | connect t hp hs => exact .start (t := t) (hf (.inr ⟨rfl, hp⟩)) hreg rfl rfl rfl rfl
  | replay t topic rest hp => exact (ih (by rw [hp]; rfl)).askAgain (t := t) hp rfl rfl rfl rfl
  | take t command rest hp hc hg =>
    have hk := ih (by rw [hp]; rfl)
    refine hk.say hp rfl rfl rfl ?_
    rw [k.queued_head hc, if_pos hg, List.filter_singleton]
    simp [hk.command_ne_heartbeat hc hg]
    rfl
  | beat t hp => exact (ih (by rw [hp]; rfl)).say hp rfl rfl rfl rfl
  | write t link o rest hp =>
    have ha := o.origin.answer_agree t (.ok k.generation) k.generation
      (⟨t, .written k.generation link o⟩ :: k.journal)
    refine (ih (by rw [hp]; rfl)).write hp rfl rfl rfl ?_ ?_ ?_ ?_
    · exact ha.snapshot
    · exact ha.called.trans (by simp [Occurrence.called?])
    · exact ha.passed.trans (by simp [Occurrence.passed?])
    · exact ha.written.trans (by simp [Occurrence.written?])
  | fail t o rest fault p hp loss yields =>
    change p.isLive = true at hl
    rcases yields with rfl | rfl <;> cases hl
  | drop t command rest fault hc loss stale =>
    refine (ih hl).frame rfl rfl ?_ (command.outgoing.origin.answer_agree ..)
    rw [k.queued_head hc, if_neg (stale hl)]
    rfl
  | listen hp => exact (ih (by rw [hp]; rfl)).endReplay hp
  | acknowledge t r success reason p hp =>
    refine (ih hl).frame rfl rfl rfl ⟨?_, ?_, ?_, ?_⟩
    all_goals simp [Core.log, Occurrence.announced?, Occurrence.called?, Occurrence.passed?,
      Occurrence.written?]
  | yield p hp yields =>
    change p.isLive = true at hl
    rcases yields with rfl | rfl <;> cases hl
  | settle hp | disconnect hp =>
    change k.post.isLive = true at hl
    rw [hp] at hl
    cases hl

theorem Core.Reached.onPlan {k : Core} (h : k.Reached) : k.post.isLive = true → k.OnPlan :=
  h.invariant (P := fun k => k.post.isLive = true → k.OnPlan) (fun hl => nomatch hl)
    fun hr m ih => m.onPlan hr.placed hr.silentOn hr.registry ih

/-- What was said on a session stays the beginning of all that it is to be told. -/
theorem Move.inOrder {k l : Core} (m : Move k l) (hl : l.post.isLive = true → l.OnPlan)
    (ih : ∀ g, spoken g k.journal <+: asked g k.journal) (g : Generation) :
    spoken g l.journal <+: asked g l.journal := by
  by_cases hg : l.post.isLive = true ∧ g = l.generation
  · obtain ⟨hlive, rfl⟩ := hg
    rw [← (hl hlive).plan, List.append_assoc]
    exact List.prefix_append _ _
  have other {j : List Entry} (ha : Agree g k.journal j) : spoken g j <+: asked g j := by
    rw [ha.spoken, ha.asked]
    exact ih g
  have call {e : Entry} (hp : e.what.passed? g = none) (hn : e.what.announced? ≠ some g) :
      spoken g (e :: k.journal) <+: asked g (e :: k.journal) := by
    rw [spoken_cons, hp, asked_cons hn]
    exact (List.append_nil _).symm ▸ (ih g).trans (List.prefix_append _ _)
  have session {e : Entry} (hlive : l.post.isLive = true) (he : e.what.session? = some l.generation) :
      Agree g k.journal (e :: k.journal) := by
    refine agree_cons fun hs => ?_
    rw [he] at hs
    exact hg ⟨hlive, (Option.some.inj hs).symm⟩
  cases m with
  | note e silent =>
    exact other (agree_cons (Occurrence.session?_ne (Occurrence.session?_of_isSilent silent)))
  | withhold | defer | ask | direct | acknowledge => exact call rfl fun hn => nomatch hn
  | refuse t d fault hs =>
    have hd := Occurrence.session?_ne (g := g) (Occurrence.session?_directed hs k.callsMade d)
    have ha : Agree g k.journal (⟨t, .directed k.state k.callsMade d⟩ :: k.journal) := agree_cons hd
    exact other (ha.cons (Occurrence.session?_ne rfl))
  | connect | replay | take | beat => exact other (session rfl rfl)
  | write t link o rest =>
    have ha := o.origin.answer_agree t (.ok k.generation) g (⟨t, .written k.generation link o⟩ :: k.journal)
    change spoken g (_ ++ _ :: k.journal) <+: asked g (_ ++ _ :: k.journal)
    rw [ha.spoken, ha.asked]
    exact call rfl fun hn => nomatch hn
  | fail | drop => exact other (Origin.answer_agree _ _ _ g k.journal)
  | _ => exact ih g

theorem Core.Reached.inOrder {k : Core} (h : k.Reached) (g : Generation) :
    spoken g k.journal <+: asked g k.journal :=
  h.invariant (P := fun k => ∀ g, spoken g k.journal <+: asked g k.journal)
    (fun _ => List.nil_prefix) (fun hr m ih => m.inOrder (Core.Reached.onPlan (hr.tail m)) ih) g

/-- A session is announced once, so the topics that were wanted then stay the same. -/
theorem Move.snapshot_eq {k l : Core} (m : Move k l) {g : Generation} (hu : ¬ k.Unopened g) :
    snapshot g l.journal = snapshot g k.journal := by
  have answer (o : Origin) (t : Instant) (x : Except ClientFault Generation) (j : List Entry) :=
    (o.answer_agree t x g j).snapshot
  cases m with
  | note e silent =>
    exact snapshot_other (Occurrence.session?_ne (Occurrence.session?_of_isSilent silent))
  | connect t hp =>
    have hn : k.generation ≠ g := fun he => hu (.inr ⟨he.symm, hp⟩)
    exact if_neg fun he => hn (Option.some.inj he)
  | write | fail | drop => exact answer _ _ _ _
  | _ => rfl

theorem Moves.snapshot_eq {k l : Core} (m : Moves k l) {g : Generation} (hu : ¬ k.Unopened g) :
    snapshot g l.journal = snapshot g k.journal ∧ ¬ l.Unopened g := by
  induction m with
  | refl => exact ⟨rfl, hu⟩
  | tail _ m ih => exact ⟨(m.snapshot_eq ih.2).trans ih.1, fun h => ih.2 (m.unopened h)⟩

/-- When a sign of life is passed to a connection, the whole replay was taken before. -/
def History.ReplayFirst (g : Generation) (j : List Entry) : Prop :=
  ∀ later t o earlier, j = later ++ ⟨t, .writing g o⟩ :: earlier → o.message = .ping →
    (snapshot g j).map .ofReplay <+: written g earlier

theorem History.ReplayFirst.cons {g : Generation} {j : List Entry} {e : Entry} (h : ReplayFirst g j)
    (hs : snapshot g (e :: j) = snapshot g j)
    (he : ∀ o, e.what = .writing g o → o.message = .ping →
      (snapshot g j).map .ofReplay <+: written g j) : ReplayFirst g (e :: j) := by
  intro later t o earlier hj hp
  rw [hs]
  cases later with
  | nil =>
    obtain ⟨rfl, rfl⟩ := List.cons.inj hj
    exact he o rfl hp
  | cons x later =>
    obtain ⟨-, rfl⟩ := List.cons.inj hj
    exact h later t o earlier rfl hp

theorem History.ReplayFirst.append {g : Generation} {j n : List Entry} (h : ReplayFirst g j)
    (he : ∀ e ∈ n, e.what.session? ≠ some g) : ReplayFirst g (n ++ j) := by
  induction n with
  | nil => exact h
  | cons e n ih =>
    have hn := he e List.mem_cons_self
    refine (ih fun x hx => he x (List.mem_cons_of_mem e hx)).cons (snapshot_other hn) ?_
    intro o ho
    rw [ho] at hn
    exact absurd rfl hn

theorem Move.replayFirst {k l : Core} (m : Move k l)
    (hf : ∀ {g}, k.Unopened g → k.SilentOn g) (hl : k.post.isLive = true → k.OnPlan) {g : Generation}
    (ih : ReplayFirst g k.journal) : ReplayFirst g l.journal := by
  have answer {j : List Entry} (o : Origin) (t : Instant) (x : Except ClientFault Generation)
      (h : ReplayFirst g j) : ReplayFirst g (o.answer t x ++ j) :=
    h.append Origin.answer_session?_ne
  cases m with
  | note e silent =>
    have hn := Occurrence.session?_ne (g := g) (Occurrence.session?_of_isSilent silent)
    exact ih.append (List.forall_mem_singleton.mpr hn)
  | withhold | defer | ask | direct | acknowledge => exact ih.cons rfl fun o ho => nomatch ho
  | refuse t d => exact (ih.cons (e := ⟨t, .directed k.state k.callsMade d⟩) rfl
      fun o ho => nomatch ho).cons rfl fun o ho => nomatch ho
  | connect t hp =>
    by_cases hg : k.generation = g
    · subst hg
      have hs := (hf (.inr ⟨rfl, hp⟩)).journal
      intro later u o earlier hj
      have hm : (⟨u, .writing k.generation o⟩ : Entry) ∈ k.journal := by
        have hmem : (⟨u, .writing k.generation o⟩ : Entry) ∈
            (⟨t, .published (.connected k.generation)⟩ : Entry) :: k.journal := by
          have hj : (_ :: k.journal : List Entry) = _ := hj
          rw [hj]
          simp
        rcases List.mem_cons.mp hmem with h | h
        · cases h
        · exact h
      exact absurd rfl (hs _ hm)
    · exact ih.append (List.forall_mem_singleton.mpr fun hn => hg (Option.some.inj hn))
  | replay t topic =>
    refine ih.cons rfl fun o ho hping => ?_
    cases ho
    cases hping
  | take t command rest hp =>
    refine ih.cons rfl fun o ho _ => ?_
    cases ho
    exact (hl (by rw [hp]; rfl)).heard (by rw [hp]; rfl)
  | beat t hp =>
    refine ih.cons rfl fun o ho _ => ?_
    cases ho
    exact (hl (by rw [hp]; rfl)).heard (by rw [hp]; rfl)
  | write t link o =>
    exact answer _ _ _ (ih.cons (e := ⟨t, .written k.generation link o⟩) rfl fun o ho => nomatch ho)
  | fail | drop => exact answer _ _ _ ih
  | _ => exact ih

theorem Core.Reached.replayFirst {k : Core} (h : k.Reached) (g : Generation) :
    ReplayFirst g k.journal := by
  refine h.invariant ?_ fun hr m ih => m.replayFirst hr.silentOn hr.onPlan ih
  intro later t o earlier hj
  cases later <;> cases hj

theorem Core.Reached.passed_cases {k : Core} (h : k.Reached) {g : Generation} {o : Outgoing}
    (ho : o ∈ passed g k.journal) : o = .heartbeat ∨ o ∈ asked g k.journal := by
  by_cases hb : o = .heartbeat
  · exact .inl hb
  · exact .inr ((h.inOrder g).subset (List.mem_filter.mpr ⟨ho, by simpa using hb⟩))

/-- What is said apart from signs of life are the messages that are no pings. -/
theorem Core.Reached.spoken_eq {k : Core} (h : k.Reached) (g : Generation) :
    spoken g k.journal = (passed g k.journal).filter fun o => o.message ≠ .ping := by
  refine List.filter_congr fun o ho => ?_
  rcases h.passed_cases ho with rfl | ha
  · rfl
  · have hb := asked_ne_heartbeat ha
    have hp := asked_ne_ping o ha
    simp [hb, hp]

/-- A message of a call is only said on the session that the call found. -/
theorem Core.Reached.passed_call {k : Core} (h : k.Reached) {g : Generation} {o : Outgoing}
    {call : CallNumber} (ho : o ∈ passed g k.journal) (hc : o.origin.call? = some call) :
    ∃ e ∈ k.journal, e.what.callIn? = some (call, .connected g) := by
  rcases h.passed_cases ho with rfl | ha
  · cases hc
  rcases List.mem_append.mp ha with ha | ha
  · obtain ⟨t, -, rfl⟩ := List.mem_map.mp ha
    cases hc
  · obtain ⟨e, he, hx⟩ := mem_view.mp ha
    obtain ⟨n, hi, hn⟩ := Occurrence.callIn?_of_called? hx
    rw [hc] at hn
    cases hn
    exact ⟨e, he, hi⟩

namespace Client

/-- The order in which a session is told what it is told. -/
structure TellsInOrder (c : Client) (g : Generation) : Prop where
  /-- Apart from pings the session is told the topics of its announcement, then what the calls that
  found it live ask for. -/
  order : ((passed g c.journal).filter fun o => o.message ≠ .ping) <+:
    (snapshot g c.journal).map .ofReplay ++ called g c.journal
  /-- The topics of the announcement are those that were wanted when it was made. -/
  announced : ∀ config tokens (d : Client) (es : List Event) (t : Instant) (earlier : List Entry),
    Reachable config tokens d → d.run es = some c →
      d.journal = ⟨t, .published (.connected g)⟩ :: earlier → snapshot g c.journal = d.subscriptions
  nodup : (snapshot g c.journal).Nodup
  /-- Each call counts once, in the order of the calls. -/
  once : ((called g c.journal).filterMap (·.origin.call?)).Pairwise (· < ·)
  /-- When a ping is passed to the connection, the whole replay was taken before. -/
  patient : ReplayFirst g c.journal
  /-- No message is of a call that found another state. -/
  own : ∀ e ∈ c.journal, ∀ call found, e.what.callIn? = some (call, found) → found ≠ .connected g →
    ∀ o ∈ passed g c.journal, o.origin.call? ≠ some call

/-- Every session is told what it is told in order, whatever the number of sessions before it. -/
theorem session_told_in_order {config : Config} {tokens : Nat → Option String} {c : Client}
    (h : Reachable config tokens c) (g : Generation) : c.TellsInOrder g where
  order := by
    have hs : spoken g c.journal = _ := h.reached.spoken_eq g
    have ho : spoken g c.journal <+: asked g c.journal := h.reached.inOrder g
    rwa [hs] at ho
  announced config tokens d es t earlier hd hrun hj := by
    have hu : ¬ d.core.Unopened g := fun hu => by
      refine (hd.reached.silentOn hu).journal ⟨t, .published (.connected g)⟩ ?_ rfl
      change _ ∈ d.journal
      rw [hj]
      exact List.mem_cons_self
    have hm := ((moves_run hd.reached.placed hrun).snapshot_eq hu).1
    have hr : d.shared.registry = wanted d.journal := hd.reached.registry
    refine hm.trans ?_
    change snapshot g d.journal = d.shared.registry.topics
    rw [hr, hj, wanted_cons]
    exact if_pos rfl
  nodup := snapshot_nodup g c.journal
  once := h.reached.called_pairwise g
  patient := h.reached.replayFirst g
  own e he call found hi hne o ho hc := by
    obtain ⟨x, hx, hxi⟩ := h.reached.passed_call ho hc
    exact hne (h.reached.found_unique he hx hi hxi)

/-- A directive finds the first session, is not executed before that is lost, and is still in the
queue when the second one asks for its topics. -/
def overtakenRun : List Event :=
  [.request ⟨.balances, .subscribe⟩, .work 0, .work 0, .dialAnswer (.link none), .work 0,
    .request ⟨.myOrders, .subscribe⟩, .work 0, .work 0, .work 0, .limit 0 .closed, .work 0,
    .direct .keepOnDisconnect, .work 0, .work 0, .pass 1000000000, .work 0, .work 0, .work 0,
    .dialAnswer (.link none), .work 0, .work 0]

theorem overtaken_told_in_order : ∃ c, (initial .loopback fun _ => none).run overtakenRun = some c ∧
    c.state = .connected 2 ∧
    passed 1 c.journal = [.ofReplay .balances, .ofRequest 1 ⟨.myOrders, .subscribe⟩] ∧
    c.commands = [⟨1, .ofDirective 2 .keepOnDisconnect⟩] ∧ c.TellsInOrder 2 :=
  ⟨_, rfl, rfl, rfl, rfl, session_told_in_order (.ofRun (r := overtakenRun) rfl) 2⟩

end Client

end MarketFeed
