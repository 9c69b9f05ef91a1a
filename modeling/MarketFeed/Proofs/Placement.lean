import MarketFeed.Proofs.Core

/-!
Where a client is in its life: how the state, the generation and the post of the worker fit together,
and that nothing is about a session before it is announced.
-/

namespace MarketFeed

/-- Once no session will follow, none is live. -/
theorem ConnectionState.not_connected {s : ConnectionState} (h : s.isTerminal = true) :
    s.isConnected = false := by
  cases s with
  | connected g => cases h
  | _ => rfl

namespace Core

/-- How the state, the generation and the post of the worker fit together. -/
structure Placed (k : Core) : Prop where
  /-- A state of a session is about the worker's session. -/
  connected : ∀ g, k.state = .connected g → g = k.generation ∧ k.post.isAnnounced = true
  live : k.post.isLive = true → k.state = .connected k.generation ∨ k.state = .closing
  past : k.post.isOver = true → k.state = .closed

theorem initial_placed : initial.Placed where
  connected _ h := nomatch h
  live h := nomatch h
  past h := nomatch h

/-- A live session goes on. -/
theorem Placed.of_live {k l : Core} (h : k.Placed) (hs : l.state = k.state)
    (hg : l.generation = k.generation) (hk : k.post.isLive = true) (hl : l.post.isLive = true) :
    l.Placed where
  connected g hc := by
    rw [hs] at hc
    rw [hg]
    exact ⟨(h.connected g hc).1, Post.isAnnounced_of_isLive hl⟩
  live _ := by
    rw [hs, hg]
    exact h.live hk
  past ho := by
    rw [Post.isOver_of_isLive hl] at ho
    cases ho

/-- The worker turns to the end of a session or of its work. -/
theorem Placed.of_yield {k l : Core} (h : k.Placed) (hs : l.state = k.state)
    (hg : l.generation = k.generation) (hp : l.post = .ended ∨ l.post = .leaving) : l.Placed where
  connected g hc := by
    rw [hs] at hc
    rw [hg]
    refine ⟨(h.connected g hc).1, ?_⟩
    rcases hp with hp | hp <;> rw [hp] <;> rfl
  live hl := by rcases hp with hp | hp <;> rw [hp] at hl <;> cases hl
  past ho := by rcases hp with hp | hp <;> rw [hp] at ho <;> cases ho

end Core

theorem Move.placed {k l : Core} (m : Move k l) (h : k.Placed) : l.Placed := by
  cases m with
  | note | withhold | defer | ask | refuse | direct | drop | acknowledge | settle =>
    exact ⟨h.connected, h.live, h.past⟩
  | close hs =>
    refine ⟨fun g hg => (nomatch hg), fun _ => .inr rfl, fun ho => ?_⟩
    rw [h.past ho] at hs
    cases hs
  | attempt => exact ⟨fun g hg => (nomatch hg), fun hl => (nomatch hl), fun ho => (nomatch ho)⟩
  | abandon hp hs | pause hp hs =>
    refine ⟨fun g hg => ?_, fun hl => (nomatch hl), fun ho => (nomatch ho)⟩
    change k.state = _ at hg
    rw [hg] at hs
    cases hs
  | connect =>
    refine ⟨fun g hg => ?_, fun _ => .inl rfl, fun ho => (nomatch ho)⟩
    cases hg
    exact ⟨rfl, rfl⟩
  | replay t topic rest hp => exact h.of_live rfl rfl (by rw [hp]; rfl) rfl
  | take t command rest hp => exact h.of_live rfl rfl (by rw [hp]; rfl) rfl
  | beat t hp | listen hp => exact h.of_live rfl rfl (by rw [hp]; rfl) rfl
  | write t link o rest hp => exact h.of_live rfl rfl (by rw [hp]; rfl) (Post.isLive_next rest)
  | fail t o rest fault p hp loss yields => exact h.of_yield rfl rfl yields
  | yield p hp yields => exact h.of_yield rfl rfl yields
  | disconnect hp =>
    refine ⟨fun g hg => (nomatch hg), fun hl => ?_, fun ho => ?_⟩
    · change k.post.isLive = true at hl
      rw [hp] at hl
      cases hl
    · change k.post.isOver = true at ho
      rw [hp] at ho
      cases ho
  | finish => exact ⟨fun g hg => (nomatch hg), fun hl => (nomatch hl), fun _ => rfl⟩
  | release hp =>
    refine ⟨fun g hg => ?_, fun hl => (nomatch hl), fun _ => h.past (by rw [hp]; rfl)⟩
    have ha := (h.connected g hg).2
    rw [hp] at ha
    cases ha

namespace Origin

variable {α : Type} {f : Occurrence → Option α} {o : Origin} {t : Instant}
  {x : Except ClientFault Generation} {j : List Entry}

/-- A view that shows no answers shows nothing of one. -/
theorem answer_hidden (h : ∀ call, f (.answered call x) = none) :
    ∀ e ∈ o.answer t x, f e.what = none := by
  intro e he
  obtain ⟨call, -, rfl⟩ := List.mem_map.mp he
  exact h call

theorem view_answer (h : ∀ call, f (.answered call x) = none) :
    History.view f (o.answer t x ++ j) = History.view f j :=
  History.view_append_hidden (answer_hidden h)

theorem answer_session?_ne {g : Generation} : ∀ e ∈ o.answer t x, e.what.session? ≠ some g :=
  fun e he => Occurrence.session?_ne (answer_hidden (fun _ => rfl) e he)

/-- An answer is about no session. -/
theorem answer_agree (o : Origin) (t : Instant) (x : Except ClientFault Generation)
    (g : Generation) (j : List Entry) : History.Agree g j (o.answer t x ++ j) :=
  History.agree_append answer_session?_ne

end Origin

namespace Core

/-- A session that was not announced yet. -/
def Unopened (k : Core) (g : Generation) : Prop :=
  k.generation < g ∨ g = k.generation ∧ k.post = .attempting

/-- Nothing is about a session: no entry, and no command. -/
structure SilentOn (k : Core) (g : Generation) : Prop where
  journal : ∀ e ∈ k.journal, e.what.session? ≠ some g
  queue : ∀ command ∈ k.commands, command.generation ≠ g

variable {k l : Core} {g : Generation}

theorem Unopened.back (h : l.Unopened g) (hg : k.generation ≤ l.generation)
    (hp : l.post = .attempting → k.post = .attempting ∧ k.generation = l.generation ∨
      k.generation < l.generation) : k.Unopened g := by
  rcases h with h | ⟨rfl, h⟩
  · exact .inl (Nat.lt_of_le_of_lt hg h)
  · rcases hp h with ⟨hp, he⟩ | hl
    · exact .inr ⟨he.symm, hp⟩
    · exact .inl hl

/-- The worker's session is announced once its attempt is over. -/
theorem Unopened.ne (h : k.Unopened g) (hp : k.post ≠ .attempting) : g ≠ k.generation := by
  rcases h with h | ⟨-, h⟩
  · exact Nat.ne_of_gt h
  · exact absurd h hp

/-- The session that callers find is announced. -/
theorem Unopened.ne_connected {h : Generation} (hu : k.Unopened g) (hk : k.Placed)
    (hs : k.state = .connected h) : g ≠ h := by
  obtain ⟨rfl, ha⟩ := hk.connected h hs
  refine hu.ne fun hp => ?_
  rw [hp] at ha
  cases ha

theorem SilentOn.log {es : List Entry} (h : k.SilentOn g) (he : ∀ e ∈ es, e.what.session? ≠ some g) :
    (k.log es).SilentOn g where
  journal e hm := (List.mem_append.mp hm).elim (he e) (h.journal e)
  queue := h.queue

theorem SilentOn.note {e : Entry} (h : k.SilentOn g) (he : e.what.session? ≠ some g) :
    (k.log [e]).SilentOn g :=
  h.log (List.forall_mem_singleton.mpr he)

theorem SilentOn.answer {o : Origin} {t : Instant} {x : Except ClientFault Generation}
    (h : k.SilentOn g) : (k.log (o.answer t x)).SilentOn g :=
  h.log Origin.answer_session?_ne

theorem SilentOn.enqueue {c : Command} (h : k.SilentOn g) (hc : c.generation ≠ g) :
    (k.enqueue c).SilentOn g where
  journal := h.journal
  queue x hm := by
    rcases List.mem_append.mp hm with hm | hm
    · exact h.queue x hm
    · rwa [List.mem_singleton.mp hm]

lemma SilentOn.dequeue {command : Command} {rest : List Command} (h : k.SilentOn g)
    (hc : k.commands = command :: rest) : { k with commands := rest }.SilentOn g where
  journal := h.journal
  queue c hm := h.queue c (hc ▸ List.mem_cons_of_mem command hm)

end Core

/-- A session that is not announced after a move was not announced before. -/
theorem Move.unopened {k l : Core} (m : Move k l) {g : Generation} (hu : l.Unopened g) :
    k.Unopened g := by
  cases m with
  | attempt => exact hu.back (Nat.le_succ _) fun _ => .inr (Nat.lt_succ_self _)
  | abandon => exact hu.back (Nat.le_succ _) fun hp => nomatch hp
  | connect | replay | take | beat | listen | pause | finish | release =>
    exact hu.back (Nat.le_refl _) fun hp => nomatch hp
  | write t link o rest =>
    have hn : Post.next rest ≠ .attempting := by cases rest <;> exact fun hp => nomatch hp
    exact hu.back (Nat.le_refl _) fun hp => absurd hp hn
  | fail t o rest fault p hp loss yields =>
    exact hu.back (Nat.le_refl _) fun hp => by rcases yields with h | h <;> cases h.symm.trans hp
  | yield p hp yields =>
    exact hu.back (Nat.le_refl _) fun hp => by rcases yields with h | h <;> cases h.symm.trans hp
  | _ => exact hu

/-- What is said is about sessions that are announced. -/
theorem Move.silentOn {k l : Core} (m : Move k l) (hk : k.Placed) {g : Generation}
    (ih : k.Unopened g → k.SilentOn g) (hu : l.Unopened g) : l.SilentOn g := by
  have h := ih (m.unopened hu)
  have some_ne {h : Generation} (hg : g ≠ h) : some h ≠ some g := fun he => hg (Option.some.inj he).symm
  cases m with
  | note e silent =>
    exact h.note (Occurrence.session?_ne (Occurrence.session?_of_isSilent silent))
  | withhold => exact h.note (Occurrence.session?_ne rfl)
  | defer t r hs =>
    have hc : (k.want r).countCall.SilentOn g := ⟨h.journal, h.queue⟩
    exact hc.note (Occurrence.session?_ne (Occurrence.session?_requested hs k.callsMade r))
  | ask s t r hs =>
    have hg : g ≠ s := Core.Unopened.ne_connected (k := k) hu hk hs
    have hq := h.enqueue (c := ⟨s, .ofRequest k.callsMade r⟩) hg.symm
    exact ⟨(hq.note (e := ⟨t, .requested (.connected s) k.callsMade r⟩) (some_ne hg)).journal, hq.queue⟩
  | refuse t d fault hs =>
    have hc : k.countCall.SilentOn g := ⟨h.journal, h.queue⟩
    have hd := Occurrence.session?_ne (g := g) (Occurrence.session?_directed hs k.callsMade d)
    exact (hc.note (e := ⟨t, .directed k.state k.callsMade d⟩) hd).note (Occurrence.session?_ne rfl)
  | direct s t d hs =>
    have hg : g ≠ s := Core.Unopened.ne_connected (k := k) hu hk hs
    have hq := h.enqueue (c := ⟨s, .ofDirective k.callsMade d⟩) hg.symm
    exact ⟨(hq.note (e := ⟨t, .directed (.connected s) k.callsMade d⟩) (some_ne hg)).journal, hq.queue⟩
  | connect t =>
    have hg : g ≠ k.generation := hu.ne fun hp => nomatch hp
    exact ⟨(h.note (e := ⟨t, .published (.connected k.generation)⟩) (some_ne hg)).journal, h.queue⟩
  | replay t topic =>
    have hg : g ≠ k.generation := hu.ne fun hp => nomatch hp
    exact ⟨(h.note (e := ⟨t, .writing k.generation (.ofReplay topic)⟩) (some_ne hg)).journal, h.queue⟩
  | take t command rest hp hc =>
    have hg : g ≠ k.generation := hu.ne fun hp => nomatch hp
    exact ⟨(h.note (e := ⟨t, .writing k.generation command.outgoing⟩) (some_ne hg)).journal,
      (h.dequeue hc).queue⟩
  | beat t =>
    have hg : g ≠ k.generation := hu.ne fun hp => nomatch hp
    exact ⟨(h.note (e := ⟨t, .writing k.generation .heartbeat⟩) (some_ne hg)).journal, h.queue⟩
  | write t link o rest =>
    have hg : g ≠ k.generation := hu.ne (by cases rest <;> exact fun hp => nomatch hp)
    exact ⟨((h.note (e := ⟨t, .written k.generation link o⟩) (some_ne hg)).answer).journal, h.queue⟩
  | fail => exact ⟨h.answer.journal, h.queue⟩
  | drop t command rest fault hc => exact (h.dequeue hc).answer
  | acknowledge t r success reason p hp =>
    have hg : g ≠ k.generation := Core.Unopened.ne (k := k) hu (by rw [hp]; exact fun h => nomatch h)
    exact ⟨(h.note (e := ⟨t, .delivered k.generation (.ack r.topic r.action success reason)⟩)
      (some_ne hg)).journal, h.queue⟩
  | _ => exact ⟨h.journal, h.queue⟩

theorem Moves.placed {k l : Core} (m : Moves k l) (h : k.Placed) : l.Placed := by
  induction m with
  | refl => exact h
  | tail _ m ih => exact m.placed ih

/-- A core that moves have led to. -/
abbrev Core.Reached (k : Core) : Prop := Moves .initial k

/-- What holds at the start and is kept by every move holds of every core that moves lead to. -/
theorem Core.Reached.invariant {P : Core → Prop} (start : P .initial)
    (keep : ∀ {k l : Core}, k.Reached → Move k l → P k → P l) {k : Core} (h : k.Reached) : P k := by
  induction h with
  | refl => exact start
  | tail hr m ih => exact keep hr m ih

theorem Core.Reached.placed {k : Core} (h : k.Reached) : k.Placed := Moves.placed h initial_placed

lemma Post.not_over_of_mayYield {p : Post} (h : p.mayYield = true) : p.isOver = false := by
  cases p <;> first | rfl | cases h

/-- The client is closed only when its worker is over. -/
theorem Move.isOver {k l : Core} (m : Move k l) (h : k.state = .closed → k.post.isOver = true) :
    l.state = .closed → l.post.isOver = true := by
  cases m with
  | note | withhold | defer | ask | refuse | direct | drop | acknowledge | settle => exact h
  | close | attempt | connect | disconnect => exact fun hs => nomatch hs
  | finish | release => exact fun _ => rfl
  | abandon hp | replay _ _ _ hp | take _ _ _ hp | beat _ hp | write _ _ _ _ hp | fail _ _ _ _ _ hp
  | listen hp | pause hp => exact fun hs => nomatch (h hs).symm.trans (congrArg Post.isOver hp)
  | yield p hp =>
    exact fun hs => nomatch (h hs).symm.trans (Post.not_over_of_mayYield hp)

theorem Core.Reached.isOver {k : Core} (h : k.Reached) : k.state = .closed → k.post.isOver = true :=
  h.invariant (P := fun k => k.state = .closed → k.post.isOver = true) (fun hs => nomatch hs)
    fun _ m ih => m.isOver ih

/-- Nothing is about a session before it is announced. -/
theorem Core.Reached.silentOn {k : Core} (h : k.Reached) {g : Generation} (hu : k.Unopened g) :
    k.SilentOn g := by
  have start : Core.initial.SilentOn g := ⟨fun e he => (nomatch he), fun c hc => (nomatch hc)⟩
  exact h.invariant (P := fun k => k.Unopened g → k.SilentOn g) (fun _ => start)
    (fun hr m ih => m.silentOn hr.placed ih) hu

end MarketFeed
