import MarketFeed.Proofs.Desertion
import MarketFeed.Proofs.Directives

/-!
What is left of a session when the next attempt is announced. In a pause the worker answers the calls
whose session is over and throws away their messages. It looks at the clock first; so nothing is left when
the pause takes time, and otherwise a call can wait through a whole attempt.
-/

namespace MarketFeed

open History

/-! ### Calls that succeed -/

/-- A message that a connection took was passed to it before. -/
def Entry.TookPassed (j : List Entry) (e : Entry) : Prop :=
  ∀ g link o, e.what = .written g link o → o ∈ passed g j

theorem Move.tookPassed {k l : Core} (m : Move k l) (hk : k.post.isLive = true → k.OnPlan)
    (h : Always Entry.TookPassed k.journal) : Always Entry.TookPassed l.journal := by
  have answer {j : List Entry} {o : Origin} {t : Instant} {x : Except ClientFault Generation}
      (hj : Always Entry.TookPassed j) : Always Entry.TookPassed (o.answer t x ++ j) := by
    refine hj.append fun e he _ g link o ho => ?_
    obtain ⟨n, -, rfl⟩ := List.mem_map.mp he
    cases ho
  cases m with
  | note e silent =>
    refine ⟨fun g link o ho => ?_, h⟩
    have hs := Occurrence.session?_of_isSilent silent
    rw [ho] at hs
    cases hs
  | withhold | defer | ask | direct | connect | replay | take | beat | acknowledge =>
    exact ⟨fun _ _ _ ho => (nomatch ho), h⟩
  | refuse => exact ⟨fun _ _ _ ho => (nomatch ho), fun _ _ _ ho => (nomatch ho), h⟩
  | write t link o rest hp =>
    refine answer ⟨fun g n m hm => ?_, h⟩
    cases hm
    change o ∈ passed k.generation k.journal
    rw [(hk (by rw [hp]; rfl)).wire, hp]
    exact List.mem_append_right _ (List.mem_singleton_self o)
  | fail | drop => exact answer h
  | _ => exact h

theorem Core.Reached.tookPassed {k : Core} (h : k.Reached) : Always Entry.TookPassed k.journal :=
  h.invariant (P := fun k => Always Entry.TookPassed k.journal) trivial
    fun hr m ih => m.tookPassed hr.onPlan ih

/-- A call that succeeds found the session that the answer names, whose connection took its message. -/
theorem Core.Reached.success {k : Core} (h : k.Reached) {e x : Entry} {s : ConnectionState}
    {call : CallNumber} {d : Directive} {g : Generation} (he : e ∈ k.journal)
    (hd : e.what = .directed s call d) (hx : x ∈ k.journal) (ha : x.what = .answered call (.ok g)) :
    s = .connected g ∧ ∃ y ∈ k.journal, ∃ link, y.what = .written g link (.ofDirective call d) := by
  obtain ⟨y, hy, link, o, hw, ho⟩ := h.confirmed_iff.mp ⟨x, hx, ha⟩
  have hpass : o ∈ passed g k.journal := by
    obtain ⟨later, earlier, hj⟩ := List.append_of_mem hy
    have htook := h.tookPassed
    rw [hj] at htook ⊢
    obtain ⟨z, hz, hp⟩ := mem_view.mp (htook.fits g link o hw)
    exact mem_view.mpr ⟨z, List.mem_append_right _ (List.mem_cons_of_mem _ hz), hp⟩
  obtain ⟨z, hz, f, hf, rfl⟩ := h.directed_of_passed hpass (Origin.awaiting?_eq_some.mpr ho)
  obtain ⟨rfl, rfl⟩ := h.directed_unique he hz hd hf
  exact ⟨rfl, y, hy, link, hw⟩

/-! ### Calls that fail -/

lemma Origin.answer_ne {o : Origin} {t : Instant} {x y : Except ClientFault Generation} (h : x ≠ y) :
    ∀ e ∈ o.answer t x, ∀ call, e.what ≠ .answered call y := by
  intro e he call hc
  obtain ⟨n, -, rfl⟩ := List.mem_map.mp he
  cases hc
  exact h rfl

namespace Client

variable {b c d : Client} {e : Event} {os : List Occurrence} {config : Config}
  {tokens : Nat → Option String}

/-- A call fails because the client is closed only if it found no session, or after the worker has left
its last one. -/
def FailsLate (c : Client) : Prop :=
  ∀ e ∈ c.journal, ∀ call, e.what = .answered call (.error .closed) →
    c.worker.stage.isDeparted = true ∨
      ∃ x ∈ c.journal, ∃ s, x.what.callIn? = some (call, s) ∧ s.isConnected = false

/-- No call fails for that cause. -/
theorem FailsLate.log {n : List Entry} (h : c.FailsLate)
    (hn : ∀ e ∈ n, ∀ call, e.what ≠ .answered call (.error .closed)) : (c.log n).FailsLate := by
  intro e he call ha
  rcases List.mem_append.mp he with he | he
  · exact absurd ha (hn e he call)
  · exact (h e he call ha).imp_right fun ⟨x, hx, hs⟩ => ⟨x, List.mem_append_right n hx, hs⟩

theorem FailsLate.frame (h : c.FailsLate) (hj : d.journal = c.journal)
    (hd : c.worker.stage.isDeparted = true → d.worker.stage.isDeparted = true) : d.FailsLate := by
  intro e he call ha
  rw [hj] at he ⊢
  exact (h e he call ha).imp_left hd

theorem Deed.failsLate (hd : Deed e c os d) (h : c.FailsLate) : d.FailsLate := by
  have still (hl : c.worker.stage.isDeparted = true) : d.worker.stage.isDeparted = true :=
    (hd.departed hl).1
  have note {b : Client} {o : Occurrence} (hb : b.FailsLate) (ho : o.isAnswer = false) :
      (b.log [⟨c.now, o⟩]).FailsLate := by
    refine hb.log (List.forall_mem_singleton.mpr fun call hc => ?_)
    cases ho.symm.trans (congrArg Occurrence.isAnswer hc)
  cases hd with
  | rest | signal | clone | dropStream | pass | tend | look | abandon | leave | listen | wake =>
    exact h.frame rfl still
  | ask | direct | closeAgain | dropHandle | read | readEnd | meet | attempt | dial | failAttempt
  | announce | decline | replay | lateHeartbeat | depart | departLate | execute | misread | idle | beat
  | pauseQuietly | giveUpQuietly | leaveAlone | finish => exact (note h rfl).frame rfl still
  | close | departAlone | deliver | withhold | despair | pause | giveUp =>
    exact (note (note h rfl) rfl).frame rfl still
  | refuse f fault hs =>
    have hnote : (c.log [⟨c.now, .directed c.state c.callsMade f⟩]).FailsLate := note h rfl
    intro x hx call ha
    rcases List.mem_cons.mp hx with rfl | hx
    · cases ha
      exact .inr ⟨_, List.mem_cons_of_mem _ List.mem_cons_self, c.state, rfl, hs⟩
    · exact (hnote x hx call ha).imp_right fun ⟨y, hy, hs⟩ => ⟨y, List.mem_cons_of_mem _ hy, hs⟩
  | drop | skip => exact (h.log (Origin.answer_ne (x := .error .notConnected) nofun)).frame rfl still
  | written l o =>
    have hwritten := note (o := .written c.generation l.number o) h rfl
    exact (hwritten.log (Origin.answer_ne (x := .ok c.generation) nofun)).frame rfl still
  | refused l o =>
    have hrefused := note (o := .refused c.generation o) h rfl
    exact (note (hrefused.log (Origin.answer_ne (x := .error .notConnected) nofun)) rfl).frame rfl still
  | crash | release => exact fun _ _ _ _ => .inl rfl
  | latePatience _ _ a => cases a <;> exact fun _ _ _ _ => .inl rfl
  | hangUp _ _ _ a =>
    cases a with
    | none => exact (note h rfl).frame rfl still
    | some a => exact (note (note h rfl) rfl).frame rfl still

theorem Reachable.failsLate (h : Reachable config tokens c) : c.FailsLate :=
  h.invariant (fun _ he => nomatch he) fun _ hd ih => hd.failsLate ih

/-- A call has the one answer that was given to it. -/
theorem Reachable.answer?_eq {x : Entry} {call : CallNumber} {outcome : Except ClientFault Generation}
    (h : Reachable config tokens c) (hx : x ∈ c.journal) (ha : x.what = .answered call outcome) :
    c.answer? call = some outcome := by
  have hsome : c.answer? call ≠ none := fun hn => by
    have hnone := List.findSome?_eq_none_iff.mp hn x hx
    rw [ha] at hnone
    exact nomatch (if_pos rfl).symm.trans hnone
  obtain ⟨answer, hans⟩ := Option.ne_none_iff_exists'.mp hsome
  obtain ⟨y, hy, hf⟩ := List.exists_of_findSome?_eq_some hans
  have hya : y.what = .answered call answer := by
    split at hf
    · rename_i n outcome hw
      split at hf <;> cases hf
      rename_i hn
      rw [hw, hn]
    · cases hf
  have hxy : x = y := view_injective h.reached.answered_nodup hx hy (a := call) (by rw [ha]; rfl)
    (by rw [hya]; rfl)
  rw [← hxy, ha] at hya
  cases hya
  exact hans

/-- Nothing is left of the sessions up to one: no message of a call, and no call without its answer. -/
structure Settles (c : Client) (g : Generation) : Prop where
  queue : ∀ command ∈ c.commands, g < command.generation
  /-- A call for a directive failed, unless the connection of its session took the message. -/
  calls : ∀ e ∈ c.journal, ∀ n call d, n ≤ g → e.what = .directed (.connected n) call d →
    c.answer? call = some (.error .notConnected) ∨ c.answer? call = some (.ok n) ∧
      ∃ x ∈ c.journal, ∃ link, x.what = .written n link (.ofDirective call d)

/-- Before an attempt asks for a connection, calls wait in the queue only. -/
theorem Reachable.settles (h : Reachable config tokens c) (hw : c.worker.stage = .calling)
    (hq : c.commands = []) (g : Generation) : c.Settles g where
  queue command hc := by
    rw [hq] at hc
    cases hc
  calls e he n call d _ hd := by
    have hp : c.core.post = .attempting := core_post hw
    have hm : call ∈ answered c.journal := by
      by_contra hn
      rcases h.reached.unanswered he hd hn with ⟨command, hc, -⟩ | ⟨rest, hpost, -⟩
      · change command ∈ c.commands at hc
        rw [hq] at hc
        cases hc
      · cases hp.symm.trans hpost
    obtain ⟨x, hx, ha⟩ := mem_view.mp hm
    obtain ⟨outcome, ha⟩ : ∃ outcome, x.what = .answered call outcome := by
      unfold Occurrence.answered? at ha
      split at ha <;> cases ha
      exact ⟨_, by assumption⟩
    rw [h.answer?_eq hx ha]
    cases outcome with
    | ok m =>
      obtain ⟨hs, hy⟩ := h.reached.success he hd hx ha
      cases hs
      exact .inr ⟨rfl, hy⟩
    | error fault =>
      rcases h.reached.failsByLoss.mem hx call fault ha with rfl | rfl
      · exact .inl rfl
      · rcases h.failsLate x hx call ha with hl | ⟨y, hy, s, hs, hno⟩
        · rw [hw] at hl
          cases hl
        · -- The call found a session, and no other state.
          cases h.reached.found_unique he hy (by rw [hd]; rfl) hs
          cases hno

/-! ### The queue in a pause -/

/-- The wait before the next attempt empties the queue: it is empty when the wait is over, and still when that
attempt is about to be announced. How the calls of dropped commands are answered is left out. -/
structure Drains (c : Client) : Prop where
  pausing : ∀ deadline, c.worker.stage = .pausing deadline → c.now < deadline ∨ c.commands = []
  starting : c.worker.stage = .starting → c.commands = []

theorem Drains.frame (h : c.Drains) (hw : d.worker.stage = c.worker.stage) (hn : d.now = c.now)
    (hq : d.commands = c.commands) : d.Drains := by
  refine ⟨fun deadline hs => ?_, fun hs => ?_⟩
  · rw [hn, hq]
    exact h.pausing deadline (hw.symm.trans hs)
  · rw [hq]
    exact h.starting (hw.symm.trans hs)

/-- The worker is in no pause. -/
theorem Drains.busy (hp : ∀ deadline, d.worker.stage ≠ .pausing deadline) (hs : d.worker.stage ≠ .starting) :
    d.Drains :=
  ⟨fun deadline hw => absurd hw (hp deadline), fun hw => absurd hw hs⟩

/-- While a session is live the worker is in no pause. -/
theorem Reachable.busy_of_connected (h : Reachable config tokens c) (hs : c.state.isConnected = true) :
    c.worker.stage.post ≠ .idle := by
  cases hc : c.state with
  | connected g =>
    exact fun hp => nomatch (congrArg Post.isAnnounced hp).symm.trans (h.reached.placed.connected g hc).2
  | _ =>
    rw [hc] at hs
    cases hs

/-- A worker that waits in a pause has emptied the queue. -/
theorem commands_of_waits {deadline : Instant} (hw : c.worker.stage = .pausing deadline)
    (hn : c.step (.work 0) = none) : c.commands = [] := by
  change c.work 0 = none at hn
  rw [work, hw] at hn
  have hq : c.turnTo .queue = none := poll_eq_none hn (by simp [hw, Stage.branches])
  rw [turnTo_pausing hw] at hq
  exact (pauseTo_queue_eq_none.mp hq).1

theorem Deed.drains (hd : Deed e c os d) (hc : Reachable config tokens c) (ht : config.reconnect.TakesTime)
    (hp : ∀ nanos deadline, e = .pass nanos → c.worker.stage = .pausing deadline → c.commands = [])
    (h : c.Drains) : d.Drains := by
  have connected (hs : c.state.isConnected = true) (hw : d.worker.stage = c.worker.stage) : d.Drains := by
    have hbusy := hc.busy_of_connected hs
    rw [← hw] at hbusy
    exact .busy (fun _ hp => hbusy (congrArg Stage.post hp)) fun hp => hbusy (congrArg Stage.post hp)
  cases hd with
  | rest | refuse | close | closeAgain | signal | clone | dropHandle | read | readEnd | dropStream
  | look => exact h.frame rfl rfl rfl
  | ask r p cs _ _ hs =>
    cases hconn : c.state.isConnected with
    | false => exact h.frame rfl rfl (hs hconn).2
    | true => exact connected hconn rfl
  | direct f g _ hs => exact connected (congrArg ConnectionState.isConnected hs) rfl
  | pass nanos he => exact ⟨fun deadline hw => .inr (hp nanos deadline he hw), h.starting⟩
  | wake deadline hw hle =>
    exact ⟨fun _ hs => (nomatch hs), fun _ => (h.pausing deadline hw).resolve_left (Nat.not_lt_of_le hle)⟩
  | drop deadline command cs hw hq =>
    refine ⟨fun u hs => ?_, fun hs => (nomatch hw.symm.trans hs)⟩
    exact (h.pausing u hs).imp_right fun hnil => nomatch hnil.symm.trans hq
  | pause cause delay b hw _ hg chance hx | pauseQuietly cause delay b hw _ hg chance hx =>
    refine ⟨fun u hs => ?_, fun hs => (nomatch hs)⟩
    cases hs
    exact .inl (hc.now_lt_deadline ht hw hg hx)
  | latePatience _ _ a | hangUp _ _ _ a => cases a <;> exact .busy nofun nofun
  | _ => exact .busy nofun nofun

/-- A pause that the worker is in has begun. -/
theorem Deed.rests (hd : Deed e c os d)
    (h : ∀ deadline, c.worker.stage = .pausing deadline → (happened c.journal).any (·.isPause) = true)
    {deadline : Instant} (hw : d.worker.stage = .pausing deadline) :
    (happened d.journal).any (·.isPause) = true := by
  rw [hd.adds, List.any_append, Bool.or_eq_true]
  cases hd with
  | rest | ask | direct | refuse | close | closeAgain | signal | clone | dropHandle | read | readEnd
  | dropStream | pass | look | drop => exact .inl (h deadline hw)
  | pause | pauseQuietly => exact .inr rfl
  | latePatience _ _ a | hangUp _ _ _ a => cases a <;> cases hw
  | _ => cases hw

theorem Reachable.rested {deadline : Instant} (h : Reachable config tokens c)
    (hw : c.worker.stage = .pausing deadline) : (Client.initial config tokens).rested c = true :=
  h.invariant (P := fun c => ∀ deadline, c.worker.stage = .pausing deadline →
    (happened c.journal).any (·.isPause) = true) (fun _ hw => nomatch hw)
      (fun _ hd ih _ hw => hd.rests ih hw) deadline hw

theorem drains_of_run {es : List Event} (hv : config.isValid = true) (ht : config.reconnect.TakesTime)
    (h : (initial config tokens).run es = some c) (hp : (initial config tokens).Punctual es) : c.Drains :=
  (Reachable.initial hv).keep_punctual (P := fun _ c => c.Drains) h hp
    ⟨fun _ hw => (nomatch hw), fun _ => rfl⟩ fun hb hd hwait ih =>
      hd.drains hb ht (fun nanos deadline he hw =>
        commands_of_waits hw (hwait nanos deadline he hw (hb.rested hw))) ih

/-! ### The next attempt -/

theorem Deed.announces {g : Generation} (hd : Deed e c os d) (hs : c.state = .disconnected g)
    (hn : d.state = .connecting (g + 1)) :
    c.worker.stage = .starting ∧ d.worker.stage = .calling ∧ d.commands = c.commands := by
  cases hd with
  | attempt hw => exact ⟨hw, rfl, rfl⟩
  | close | announce | departAlone | pause | giveUp | leaveAlone | finish => cases hn
  | latePatience _ _ a | hangUp _ _ _ a => cases a <;> cases hs.symm.trans hn
  | _ => cases hs.symm.trans hn

/-- What a directive does to a live session whose worker takes commands. -/
theorem direct_of_connected {g : Generation} (hs : c.state = .connected g) (ht : c.takesCommands = true)
    (f : Directive) : c.direct f = ({ c with
      commands := c.commands ++ [(⟨g, .ofDirective c.callsMade f⟩ : Command)]
      callsMade := c.callsMade + 1 }.note (.directed c.state c.callsMade f), .ok c.callsMade) := by
  change c.shared.state = _ at hs
  unfold takesCommands at ht
  simp only [direct, state, note, hs, enqueue, takesCommands, ht, if_true]

/-- Where a pause takes no time a call can wait for a session that is over. -/
theorem exists_leftover (hv : config.isValid = true) (ht : ¬ config.reconnect.TakesTime) : ∃ es c e d,
    (initial config fun _ => none).run es = some c ∧ (initial config fun _ => none).Punctual es ∧
      c.step e = some d ∧ c.state = .disconnected 1 ∧ d.state = .connecting 2 ∧ ¬ d.Settles 1 := by
  obtain ⟨cause, hcause⟩ := exists_instant_loss ht
  obtain ⟨j, hc⟩ : ∃ j, (initial config fun _ => none).run [.request ⟨.balances, .subscribe⟩] =
      some (wishing config 1 j) := ⟨_, rfl⟩
  obtain ⟨b, hb⟩ := exists_losesFirst hv cause 1 j
  obtain ⟨hg, hz⟩ := hcause _ b hb
  -- The call is made after the loss and before that is announced.
  let x : Client := { b with
    commands := b.commands ++ [(⟨1, .ofDirective b.callsMade .keepOnDisconnect⟩ : Command)]
    callsMade := b.callsMade + 1 }.note (.directed b.state b.callsMade .keepOnDisconnect)
  have hx : b.step (.direct .keepOnDisconnect) = some x := by
    have htakes : b.takesCommands = true := by rw [takesCommands, hb.stage]
    have hn : b.handles ≠ 0 := by
      rw [hb.handles]
      exact Nat.one_ne_zero
    rw [step, if_neg hn, direct_of_connected hb.state htakes]
  obtain ⟨n, hn, hw, hs, hgen, hq, -⟩ :=
    run_nap (c := x) hb.stage hb.uncancelled (by change b.state.isTerminal = false; rw [hb.state]; rfl) hg hz
  have hxg : x.generation = 1 := hb.generation
  rw [hxg] at hs hgen
  have hd := step_announce hw (by rw [hs]; rfl)
  refine ⟨_, n, _, _, run_of_append hc (run_of_append hb.run (run_of_step hx hn)),
    punctual_of_not_mem (by simp [toLoss]), hd, hs, ?_, fun hsettles => ?_⟩
  · change ConnectionState.connecting (n.generation + 1) = _
    rw [hgen]
  · have hm : (⟨1, .ofDirective b.callsMade .keepOnDisconnect⟩ : Command) ∈ n.commands := by
      rw [hq]
      exact List.mem_append_right _ (List.mem_singleton_self _)
    exact absurd (hsettles.queue _ hm) (Nat.lt_irrefl 1)

/-- When the next attempt is announced nothing is left of the sessions so far, exactly if the pauses take
time. -/
theorem next_attempt_settles_iff (hv : config.isValid = true) :
    (∀ tokens es c e d g, (initial config tokens).run es = some c →
      (initial config tokens).Punctual es → c.step e = some d → c.state = .disconnected g →
        d.state = .connecting (g + 1) → d.Settles g) ↔ config.reconnect.TakesTime := by
  constructor
  · intro hall
    by_contra ht
    obtain ⟨es, c, e, d, hc, hp, hd, hs, hn, hnot⟩ := exists_leftover hv ht
    exact hnot (hall _ es c e d 1 hc hp hd hs hn)
  · intro ht tokens es c e d g hc hp hd hs hn
    have hr : Reachable config tokens c := (Reachable.initial hv).run hc
    obtain ⟨os, hdeed⟩ := hr.deed hd
    obtain ⟨hstart, hcall, hq⟩ := hdeed.announces hs hn
    have hempty := (drains_of_run hv ht hc hp).starting hstart
    exact (hr.step e hd).settles hcall (hq.trans hempty) g

/-- One call succeeds on the first session. Two more are made after that was lost and before the loss is
announced, and so is a request. -/
def toPause : List Event :=
  [.work 0, .work 0, .dialAnswer (.link none), .work 0, .work 0, .direct .keepOnDisconnect, .work 0,
    .work 0, .hangUp, .work 0, .direct (.cancelOnDisconnect []), .request ⟨.balances, .subscribe⟩,
    .direct .keepOnDisconnect, .work 0, .work 0, .work 0, .work 0]

/-- Time passes only once the worker waits, if it does where it passes for the first and last time. -/
theorem punctual_of_once {es fs : List Event} {nanos : Nat} (he : ∀ n, .pass n ∉ es)
    (hf : ∀ n, .pass n ∉ fs) (h : ∀ b, c.run es = some b → b.step (.work 0) = none) :
    c.Punctual (es ++ .pass nanos :: fs) := by
  intro before n after b deadline hes hb _ _
  rcases append_cut hes with ⟨mid, rfl, -⟩ | ⟨lead, rfl, hrest⟩
  · exact absurd (List.mem_append_right _ List.mem_cons_self) (he n)
  · cases lead with
    | nil =>
      rw [List.append_nil] at hb
      exact h b hb
    | cons x lead =>
      obtain ⟨-, rfl⟩ := List.cons.inj hrest
      exact absurd (List.mem_append_right _ List.mem_cons_self) (hf n)

theorem loopback_next_attempt_settles : ∃ c d,
    (initial .loopback fun _ => none).run (toPause ++ [.pass 250000000, .work 0]) = some c ∧
      c.step (.work 0) = some d ∧ c.state = .disconnected 1 ∧ d.state = .connecting 2 ∧
        (List.range 4).map d.answer? = [some (.ok 1), some (.error .notConnected), none,
          some (.error .notConnected)] ∧ d.Settles 1 := by
  have hr : ((initial .loopback fun _ => none).run (toPause ++ [.pass 250000000, .work 0])).map (fun c =>
      (c.state, (c.step (.work 0)).map fun d => (d.state, (List.range 4).map d.answer?))) =
        some (.disconnected 1, some (.connecting 2, [some (.ok 1), some (.error .notConnected), none,
          some (.error .notConnected)])) := by
    rfl
  have hwait : ((initial .loopback fun _ => none).run toPause).map (fun b => (b.step (.work 0)).isNone) =
      some true := by
    decide +kernel
  obtain ⟨c, hc, hv⟩ := Option.map_eq_some_iff.mp hr
  obtain ⟨hs, hv⟩ := Prod.mk.inj hv
  obtain ⟨d, hd, hv⟩ := Option.map_eq_some_iff.mp hv
  obtain ⟨hn, ha⟩ := Prod.mk.inj hv
  have hp : (initial .loopback fun _ => none).Punctual (toPause ++ [.pass 250000000, .work 0]) := by
    refine punctual_of_once (by simp [toPause]) (by simp) fun b hb => ?_
    rw [hb] at hwait
    exact Option.isNone_iff_eq_none.mp (Option.some.inj hwait)
  have ht : Config.loopback.reconnect.TakesTime := .inr ⟨by decide, by decide⟩
  exact ⟨c, d, hc, hd, hs, hn, ha, (next_attempt_settles_iff Config.loopback_isValid).mpr ht _ _ c _ d 1 hc
    hp hd hs hn⟩

/-- The message of one call is refused, and another call is made before that is announced. -/
def hastyLoss : List Event :=
  [.work 0, .work 0, .dialAnswer (.link none), .work 0, .work 0, .limit 0 .closed,
    .direct (.cancelOnDisconnect []), .work 0, .work 0, .direct .keepOnDisconnect, .work 0, .work 0]

/-- Without delays a call waits through the next attempt. -/
theorem hasty_call_left : ¬ ∀ (config : Config) (tokens : Nat → Option String) (es : List Event)
    (c : Client) (e : Event) (d : Client) (g : Generation), config.isValid = true →
      (initial config tokens).run es = some c → (initial config tokens).Punctual es →
        c.step e = some d → c.state = .disconnected g → d.state = .connecting (g + 1) → d.Settles g := by
  intro hall
  have hr : ((initial .hasty fun _ => none).run hastyLoss).map (fun c => (c.state,
      (c.step (.work 0)).map fun d => (d.state, d.commands))) = some (.disconnected 1,
        some (.connecting 2, [⟨1, .ofDirective 1 .keepOnDisconnect⟩])) := by
    decide +kernel
  obtain ⟨c, hc, hv⟩ := Option.map_eq_some_iff.mp hr
  obtain ⟨hs, hv⟩ := Prod.mk.inj hv
  obtain ⟨d, hd, hv⟩ := Option.map_eq_some_iff.mp hv
  obtain ⟨hn, hq⟩ := Prod.mk.inj hv
  have hsettles := hall .hasty _ hastyLoss c _ d 1 Config.hasty_isValid hc
    (punctual_of_not_mem (by simp [hastyLoss])) hd hs hn
  exact absurd (hsettles.queue _ (by rw [hq]; exact List.mem_cons_self)) (Nat.lt_irrefl 1)

end Client

end MarketFeed
