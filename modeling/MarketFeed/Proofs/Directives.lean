import MarketFeed.Proofs.WireOrder

/-!
Directives. The message of a directive is passed to a connection once at the most, on the session that
its call found, and the answer to the call says whether that connection took it.
-/

namespace MarketFeed

open History

namespace Occurrence

/-- The call for the directive that is passed to a connection. -/
def sends? : Occurrence → Option CallNumber
  | writing _ o => o.origin.awaiting?
  | _ => none

/-- The call that was answered with success, and the session that the answer names. -/
def confirms? : Occurrence → Option (CallNumber × Generation)
  | answered call (.ok g) => some (call, g)
  | _ => none

/-- The call for the directive that a connection took, and the session. -/
def carries? : Occurrence → Option (CallNumber × Generation)
  | written g _ o => o.origin.awaiting?.map (·, g)
  | _ => none

variable {o : Occurrence}

lemma sends?_of_isSilent (h : o.isSilent = true) : o.sends? = none := by
  have hs := session?_of_isSilent h
  unfold sends?
  split
  · cases hs
  · rfl

lemma carries?_of_isSilent (h : o.isSilent = true) : o.carries? = none := by
  have hs := session?_of_isSilent h
  unfold carries?
  split
  · cases hs
  · rfl

lemma confirms?_of_isSilent (h : o.isSilent = true) : o.confirms? = none := by
  have ha := (isSilent_iff.mp h).2.2.2
  unfold confirms?
  split
  · cases ha
  · rfl

end Occurrence

/-- The calls for directives whose messages were passed to a connection, once for each time. -/
def History.sent (j : List Entry) : List CallNumber := view Occurrence.sends? j

@[simp] lemma History.sent_cons (e : Entry) (j : List Entry) :
    sent (e :: j) = sent j ++ e.what.sends?.toList := view_cons e

namespace Origin

variable {o : Origin} {t : Instant} {x : Except ClientFault Generation} {j : List Entry}

lemma directives_answer : directives (o.answer t x ++ j) = directives j := view_answer fun _ => rfl

lemma sent_answer : sent (o.answer t x ++ j) = sent j := view_answer fun _ => rfl

lemma answered_answer : answered (o.answer t x ++ j) = answered j ++ o.awaiting?.toList := by
  cases o <;> simp [answer, awaiting?, answered, Occurrence.answered?]

end Origin

namespace Core

/-- The calls whose directives are in the queue. -/
def waiting (k : Core) : List CallNumber := k.commands.filterMap (·.outgoing.origin.awaiting?)

/-- The call whose directive is on its way. -/
def carried (k : Core) : List CallNumber := k.post.flight.filterMap (·.origin.awaiting?)

lemma carried_writing {k : Core} {o : Outgoing} {rest : Option (List Topic)}
    (h : k.post = .writing o rest) : k.carried = o.origin.awaiting?.toList := by
  unfold carried
  rw [h]
  cases ho : o.origin.awaiting? <;> simp [Post.flight, ho]

lemma carried_still {k : Core} (h : k.post.flight = []) : k.carried = [] := by
  rw [carried, h, List.filterMap_nil]

/-- Where the calls for directives are: answered, on their way or in the queue. What was passed to a
connection is not in the queue any more. -/
structure Tracked (k : Core) : Prop where
  placed : ∀ n, (answered k.journal).count n + k.carried.count n + k.waiting.count n =
    (directives k.journal).count n
  once : ∀ n, (sent k.journal).count n + k.waiting.count n ≤ (directives k.journal).count n

variable {k l : Core}

/-- The books stand when every call that is new, or leaves its place, comes to another one. -/
theorem Tracked.change {a s d : List CallNumber} (h : k.Tracked)
    (ha : answered l.journal = answered k.journal ++ a) (hs : sent l.journal = sent k.journal ++ s)
    (hd : directives l.journal = directives k.journal ++ d)
    (hp : ∀ n, a.count n + l.carried.count n + l.waiting.count n =
      k.carried.count n + k.waiting.count n + d.count n)
    (ho : ∀ n, s.count n + l.waiting.count n ≤ k.waiting.count n + d.count n) : l.Tracked where
  placed n := by
    have hold := h.placed n
    have hnew := hp n
    rw [ha, hd, List.count_append, List.count_append]
    omega
  once n := by
    have hold := h.once n
    have hnew := ho n
    rw [hs, hd, List.count_append, List.count_append]
    omega

theorem Tracked.frame (h : k.Tracked) (hj : l.journal = k.journal) (hc : l.carried = k.carried)
    (hw : l.waiting = k.waiting) : l.Tracked where
  placed n := by rw [hj, hc, hw, h.placed]
  once n := by
    rw [hj, hw]
    exact h.once n

/-- Something happens to no directive. -/
theorem Tracked.note {e : Entry} (h : k.Tracked) (hj : l.journal = e :: k.journal)
    (ha : e.what.answered? = none) (hs : e.what.sends? = none) (hd : e.what.directive? = none)
    (hc : l.carried = k.carried) (hw : l.waiting = k.waiting) : l.Tracked := by
  refine h.change (a := []) (s := []) (d := []) ?_ ?_ ?_ (fun n => ?_) fun n => ?_
  · rw [hj, answered_cons, ha, Option.toList_none]
  · rw [hj, sent_cons, hs, Option.toList_none]
  · rw [hj, directives_cons, hd, Option.toList_none]
  · rw [hc, hw, List.count_nil, Nat.zero_add, Nat.add_zero]
  · rw [hw, List.count_nil, Nat.zero_add, Nat.add_zero]

lemma waiting_head {command : Command} {rest : List Command} (h : k.commands = command :: rest) :
    k.waiting = command.outgoing.origin.awaiting?.toList ++ { k with commands := rest }.waiting := by
  cases ho : command.outgoing.origin.awaiting? <;> simp [waiting, h, ho]

lemma waiting_enqueue (k : Core) (command : Command) :
    (k.enqueue command).waiting = k.waiting ++ command.outgoing.origin.awaiting?.toList := by
  cases ho : command.outgoing.origin.awaiting? <;> simp [waiting, enqueue, ho]

lemma flight_of_mayYield {p : Post} (h : p.mayYield = true) : p.flight = [] := by
  cases p with
  | writing o rest => cases h
  | _ => rfl

lemma flight_of_yields {p : Post} (h : p = .ended ∨ p = .leaving) : p.flight = [] := by
  rcases h with rfl | rfl <;> rfl

/-- A call whose directive is not on its way any more, or not in the queue, is answered. -/
theorem Tracked.answer {j : List Entry} {o : Origin} {t : Instant} {x : Except ClientFault Generation}
    (h : k.Tracked) (hl : l.journal = o.answer t x ++ j) (ha : answered j = answered k.journal)
    (hs : sent j = sent k.journal) (hd : directives j = directives k.journal)
    (hp : ∀ n, o.awaiting?.toList.count n + l.carried.count n + l.waiting.count n =
      k.carried.count n + k.waiting.count n)
    (hw : ∀ n, l.waiting.count n ≤ k.waiting.count n) : l.Tracked := by
  refine h.change (a := o.awaiting?.toList) (s := []) (d := []) ?_ ?_ ?_ hp fun n => ?_
  · rw [hl, Origin.answered_answer, ha]
  · rw [hl, Origin.sent_answer, hs, List.append_nil]
  · rw [hl, Origin.directives_answer, hd, List.append_nil]
  · rw [List.count_nil, Nat.zero_add, Nat.add_zero]
    exact hw n

/-- A directive without a session is answered at once. -/
theorem Tracked.refuse {t : Instant} {d : Directive} {fault : ClientFault} (h : k.Tracked) :
    (k.countCall.log [⟨t, .answered k.callsMade (.error fault)⟩,
      ⟨t, .directed k.state k.callsMade d⟩]).Tracked := by
  refine h.change (a := [k.callsMade]) (s := []) (d := [k.callsMade]) ?_ ?_ ?_ (fun n => ?_) fun n => ?_
  · simp [log, countCall, Occurrence.answered?]
  · simp [log, countCall, Occurrence.sends?]
  · simp [log, countCall, Occurrence.directive?]
  · change _ + k.carried.count n + k.waiting.count n = _
    omega
  · change _ + k.waiting.count n ≤ _
    rw [List.count_nil]
    omega

/-- A directive to the live session is put into the queue. -/
theorem Tracked.direct {g : Generation} {t : Instant} {d : Directive} (h : k.Tracked) :
    ((k.enqueue ⟨g, .ofDirective k.callsMade d⟩).countCall.log
      [⟨t, .directed (.connected g) k.callsMade d⟩]).Tracked := by
  have hw := k.waiting_enqueue ⟨g, .ofDirective k.callsMade d⟩
  refine h.change (a := []) (s := []) (d := [k.callsMade]) ?_ ?_ ?_ (fun n => ?_) fun n => ?_
  · simp [log, countCall, enqueue, Occurrence.answered?]
  · simp [log, countCall, enqueue, Occurrence.sends?]
  · simp [log, countCall, enqueue, Occurrence.directive?]
  · change _ + k.carried.count n + (k.enqueue _).waiting.count n = _
    rw [hw, List.count_append, List.count_nil, Nat.zero_add, Nat.add_assoc]
    rfl
  · change _ + (k.enqueue _).waiting.count n ≤ _
    rw [hw, List.count_append, List.count_nil, Nat.zero_add]
    exact Nat.le_refl _

/-- A command of the queue is passed to the connection. -/
theorem Tracked.take {t : Instant} {command : Command} {rest : List Command} (h : k.Tracked)
    (hp : k.post = .listening) (hc : k.commands = command :: rest) :
    ({ k with commands := rest, post := .writing command.outgoing none }.log
      [⟨t, .writing k.generation command.outgoing⟩]).Tracked := by
  have hk : k.carried = [] := carried_still (by rw [hp]; rfl)
  have hw := waiting_head hc
  refine h.change (a := []) (s := command.outgoing.origin.awaiting?.toList) (d := []) ?_ ?_ ?_
    (fun n => ?_) fun n => ?_
  · simp [log, Occurrence.answered?]
  · simp [log, Occurrence.sends?]
  · simp [log, Occurrence.directive?]
  · rw [carried_writing rfl, hk, hw, List.count_append, List.count_nil, Nat.zero_add]
    change _ + { k with commands := rest }.waiting.count n = _
    omega
  · rw [hw, List.count_append]
    exact Nat.le_refl _

/-- A command of the queue is dropped, and its call answered. -/
theorem Tracked.drop {t : Instant} {command : Command} {rest : List Command} {fault : ClientFault}
    (h : k.Tracked) (hc : k.commands = command :: rest) : ({ k with commands := rest }.log
      (command.outgoing.origin.answer t (.error fault))).Tracked := by
  have hw := waiting_head hc
  refine h.answer rfl rfl rfl rfl (fun n => ?_) fun n => ?_
  · rw [hw, List.count_append]
    change _ + k.carried.count n + { k with commands := rest }.waiting.count n = _
    omega
  · rw [hw, List.count_append]
    exact Nat.le_add_left _ _

/-- The message that was on its way was taken or refused, and its call is answered. -/
theorem Tracked.settle {j : List Entry} {o : Origin} {t : Instant} {x : Except ClientFault Generation}
    (h : k.Tracked) (hk : k.carried = o.awaiting?.toList) (hf : l.post.flight = [])
    (hl : l.journal = o.answer t x ++ j) (hw : l.waiting = k.waiting)
    (ha : answered j = answered k.journal) (hs : sent j = sent k.journal)
    (hd : directives j = directives k.journal) : l.Tracked := by
  refine h.answer hl ha hs hd (fun n => ?_) fun n => Nat.le_of_eq (congrArg (List.count n) hw)
  rw [hk, hw, carried_still hf, List.count_nil, Nat.add_zero]

end Core

theorem Move.tracked {k l : Core} (m : Move k l) (h : k.Tracked) : l.Tracked := by
  cases m with
  | note e silent =>
    obtain ⟨-, -, hd, ha⟩ := Occurrence.isSilent_iff.mp silent
    exact h.note rfl ha (Occurrence.sends?_of_isSilent silent) hd rfl rfl
  | withhold | defer | acknowledge => exact h.note rfl rfl rfl rfl rfl rfl
  | ask g t r =>
    exact h.note rfl rfl rfl rfl rfl ((k.waiting_enqueue _).trans (List.append_nil _))
  | refuse => exact h.refuse
  | direct => exact h.direct
  | connect t hp | replay t topic rest hp | beat t hp =>
    exact h.note rfl rfl rfl rfl (Core.carried_still (k := k) (by rw [hp]; rfl)).symm rfl
  | take t command rest hp hc => exact h.take hp hc
  | write t link o rest hp =>
    refine h.settle (j := ⟨t, .written k.generation link o⟩ :: k.journal) (Core.carried_writing hp) ?_ rfl
      rfl ?_ ?_ ?_
    · cases rest <;> rfl
    · exact (answered_cons _ _).trans (List.append_nil _)
    · exact (sent_cons _ _).trans (List.append_nil _)
    · exact (directives_cons _ _).trans (List.append_nil _)
  | fail t o rest fault p hp loss yields =>
    exact h.settle (Core.carried_writing hp) (Core.flight_of_yields yields) rfl rfl rfl rfl rfl
  | drop t command rest fault hc => exact h.drop hc
  | yield p hp yields =>
    refine h.frame rfl ?_ rfl
    rw [Core.carried_still (Core.flight_of_mayYield hp)]
    exact Core.carried_still (Core.flight_of_yields yields)
  | attempt hp | abandon hp | listen hp | pause hp | finish hp | release hp =>
    exact h.frame rfl (Core.carried_still (k := k) (by rw [hp]; rfl)).symm rfl
  | close | settle | disconnect => exact h.frame rfl rfl rfl

theorem Core.Reached.tracked {k : Core} (h : k.Reached) : k.Tracked :=
  h.invariant ⟨fun _ => rfl, fun _ => Nat.le_refl 0⟩ fun _ m ih => m.tracked ih

theorem Core.Reached.directives_nodup {k : Core} (h : k.Reached) : (directives k.journal).Nodup := by
  have hs : (directives k.journal).Sublist (calls k.journal) := by
    refine view_sublist (fun o a ha => ?_) k.journal
    cases o with
    | directed found call d => exact ha
    | _ => cases ha
  refine hs.nodup ?_
  rw [h.numbered]
  exact List.nodup_range

/-- A call is answered once at the most. -/
theorem Core.Reached.answered_nodup {k : Core} (h : k.Reached) : (answered k.journal).Nodup := by
  refine List.nodup_iff_count_le_one.mpr fun n => ?_
  have hd := List.nodup_iff_count_le_one.mp h.directives_nodup n
  have hp := h.tracked.placed n
  omega

/-- The message of a directive is passed to a connection once at the most. -/
theorem Core.Reached.sent_nodup {k : Core} (h : k.Reached) : (sent k.journal).Nodup := by
  refine List.nodup_iff_count_le_one.mpr fun n => ?_
  have hd := List.nodup_iff_count_le_one.mp h.directives_nodup n
  have hs := h.tracked.once n
  omega

/-! ### Answers -/

lemma Origin.confirms_answer (o : Origin) (t : Instant) (g : Generation) (j : List Entry) :
    view Occurrence.confirms? (o.answer t (.ok g) ++ j) =
      view Occurrence.confirms? j ++ (o.awaiting?.map (·, g)).toList := by
  cases o <;> simp [answer, awaiting?, Occurrence.confirms?]

/-- The answers that name a session are for the directives that connections took. -/
theorem Move.confirmed {k l : Core} (m : Move k l)
    (h : view Occurrence.confirms? k.journal = view Occurrence.carries? k.journal) :
    view Occurrence.confirms? l.journal = view Occurrence.carries? l.journal := by
  have other {j : List Entry} {e : Entry} (hc : e.what.confirms? = none) (ht : e.what.carries? = none)
      (hj : view Occurrence.confirms? j = view Occurrence.carries? j) :
      view Occurrence.confirms? (e :: j) = view Occurrence.carries? (e :: j) := by
    rw [view_cons, view_cons, hc, ht, hj]
  cases m with
  | note e silent =>
    exact other (Occurrence.confirms?_of_isSilent silent) (Occurrence.carries?_of_isSilent silent) h
  | withhold | defer | ask | direct | connect | replay | take | beat | acknowledge =>
    exact other rfl rfl h
  | refuse t d =>
    exact other rfl rfl (other (e := ⟨t, .directed k.state k.callsMade d⟩) rfl rfl h)
  | write t link o rest hp =>
    change view _ (o.origin.answer t (.ok k.generation) ++ _ :: k.journal) =
      view _ (o.origin.answer t (.ok k.generation) ++ _ :: k.journal)
    rw [Origin.confirms_answer, Origin.view_answer fun _ => rfl, view_cons, view_cons, h]
    simp only [Occurrence.confirms?, Occurrence.carries?, Option.toList_none, List.append_nil]
  | fail t o rest fault | drop t command rest fault =>
    refine (Origin.view_answer fun _ => rfl).trans (h.trans ?_)
    exact (Origin.view_answer fun _ => rfl).symm
  | _ => exact h

theorem Core.Reached.confirmed {k : Core} (h : k.Reached) :
    view Occurrence.confirms? k.journal = view Occurrence.carries? k.journal :=
  h.invariant (P := fun k => view Occurrence.confirms? k.journal = view Occurrence.carries? k.journal)
    rfl fun _ m ih => m.confirmed ih

/-- A call fails because no session is live or no other will follow. -/
def Entry.FailsByLoss (e : Entry) : Prop :=
  ∀ call fault, e.what = .answered call (.error fault) → fault = .notConnected ∨ fault = .closed

lemma ClientFault.isLoss_iff {f : ClientFault} :
    f.isLoss = true ↔ f = .notConnected ∨ f = .closed := by
  cases f <;> simp [isLoss]

theorem Move.failsByLoss {k l : Core} (m : Move k l)
    (h : Always (fun _ e => e.FailsByLoss) k.journal) : Always (fun _ e => e.FailsByLoss) l.journal := by
  have answer {j : List Entry} {o : Origin} {t : Instant} {x : Except ClientFault Generation}
      (hx : ∀ f, x = .error f → f.isLoss = true) (hj : Always (fun _ e => e.FailsByLoss) j) :
      Always (fun _ e => e.FailsByLoss) (o.answer t x ++ j) := by
    refine hj.append fun e he _ call f hf => ?_
    obtain ⟨n, -, rfl⟩ := List.mem_map.mp he
    cases hf
    exact ClientFault.isLoss_iff.mp (hx f rfl)
  cases m with
  | note e silent =>
    refine ⟨fun call f hf => ?_, h⟩
    have ha := (Occurrence.isSilent_iff.mp silent).2.2.2
    rw [hf] at ha
    cases ha
  | withhold | defer | ask | direct | connect | replay | take | beat | acknowledge =>
    exact ⟨fun call f hf => (nomatch hf), h⟩
  | refuse t d fault hs loss =>
    refine ⟨fun call f hf => ?_, fun call f hf => (nomatch hf), h⟩
    cases hf
    exact ClientFault.isLoss_iff.mp loss
  | write => exact answer (fun f hf => nomatch hf) ⟨fun call f hf => (nomatch hf), h⟩
  | fail t o rest fault p hp loss => exact answer (fun f hf => by cases hf; exact loss) h
  | drop t command rest fault hc loss => exact answer (fun f hf => by cases hf; exact loss) h
  | _ => exact h

theorem Core.Reached.failsByLoss {k : Core} (h : k.Reached) :
    Always (fun _ e => e.FailsByLoss) k.journal :=
  h.invariant trivial fun _ m ih => m.failsByLoss ih

/-! ### The queue -/

/-- Every command is of a call that found the session of its tag. -/
theorem Move.owned {k l : Core} (m : Move k l)
    (h : ∀ command ∈ k.commands, command.outgoing ∈ called command.generation k.journal) :
    ∀ command ∈ l.commands, command.outgoing ∈ called command.generation l.journal := by
  have later {n j : List Entry} {g : Generation} {o : Outgoing} (ho : o ∈ called g j) :
      o ∈ called g (n ++ j) := by
    obtain ⟨e, he, hx⟩ := mem_view.mp ho
    exact mem_view.mpr ⟨e, List.mem_append_right n he, hx⟩
  have same {n : List Entry} : ∀ command ∈ k.commands,
      command.outgoing ∈ called command.generation (n ++ k.journal) :=
    fun command hc => later (h command hc)
  have fewer {n : List Entry} {command : Command} {rest : List Command}
      (hc : k.commands = command :: rest) :
      ∀ x ∈ rest, x.outgoing ∈ called x.generation (n ++ k.journal) :=
    fun x hx => same x (by rw [hc]; exact List.mem_cons_of_mem command hx)
  have more {e : Entry} {new : Command} (he : e.what.called? new.generation = some new.outgoing) :
      ∀ x ∈ k.commands ++ [new], x.outgoing ∈ called x.generation (e :: k.journal) := by
    intro x hx
    rcases List.mem_append.mp hx with hx | hx
    · exact same (n := [e]) x hx
    · obtain rfl := List.mem_singleton.mp hx
      exact mem_view.mpr ⟨e, List.mem_cons_self, he⟩
  cases m with
  | note | withhold | defer | connect | replay | beat | acknowledge => exact same (n := [_])
  | refuse => exact same (n := [_, _])
  | ask g t r hs | direct g t r hs => exact more (if_pos rfl)
  | take t command rest hp hc => exact fewer (n := [_]) hc
  | drop t command rest fault hc => exact fewer hc
  | write t link o =>
    exact fun command hc => later (later (n := [⟨t, .written k.generation link o⟩]) (h command hc))
  | fail => exact same
  | _ => exact h

theorem Core.Reached.owned {k : Core} (h : k.Reached) :
    ∀ command ∈ k.commands, command.outgoing ∈ called command.generation k.journal :=
  h.invariant (fun _ hc => nomatch hc) fun _ m ih => m.owned ih

/-- When the worker is gone the queue is empty. -/
theorem Move.emptied {k l : Core} (m : Move k l) (hk : k.Placed)
    (h : k.post = .gone → k.commands = []) (hl : l.post = .gone) : l.commands = [] := by
  have live {g : Generation} (hs : k.state = .connected g) (hp : k.post = .gone) : False := by
    have ha := (hk.connected g hs).2
    rw [hp] at ha
    cases ha
  cases m with
  | ask g t r hs | direct g t r hs => exact (live hs hl).elim
  | attempt | abandon | connect | replay | take | beat | listen | pause | finish => cases hl
  | write t link o rest => cases rest <;> cases hl
  | fail t o rest fault p hp loss yields =>
    change p = .gone at hl
    rcases yields with rfl | rfl <;> cases hl
  | yield p hp yields =>
    change p = .gone at hl
    rcases yields with rfl | rfl <;> cases hl
  | drop t command rest fault hc => exact nomatch hc.symm.trans (h hl)
  | release hp hc => exact hc
  | _ => exact h hl

theorem Core.Reached.emptied {k : Core} (h : k.Reached) : k.post = .gone → k.commands = [] :=
  h.invariant (P := fun k => k.post = .gone → k.commands = []) (fun _ => rfl)
    fun hr m ih => m.emptied hr.placed ih

/-- A message that awaits an answer is that of a directive. -/
theorem Occurrence.directed_of_called? {x : Occurrence} {g : Generation} {o : Outgoing}
    {call : CallNumber} (h : x.called? g = some o) (ho : o.origin.awaiting? = some call) :
    ∃ d, x = .directed (.connected g) call d ∧ o = .ofDirective call d := by
  unfold called? at h
  split at h
  · split at h <;> cases h
    cases ho
  · rename_i s n d
    split at h <;> cases h
    rename_i hs
    subst hs
    cases ho
    exact ⟨d, rfl, rfl⟩
  · cases h

lemma History.directed_of_called {g : Generation} {j : List Entry} {o : Outgoing}
    {call : CallNumber} (h : o ∈ called g j) (ho : o.origin.awaiting? = some call) :
    ∃ e ∈ j, ∃ d, e.what = .directed (.connected g) call d ∧ o = .ofDirective call d := by
  obtain ⟨e, he, hx⟩ := mem_view.mp h
  exact ⟨e, he, Occurrence.directed_of_called? hx ho⟩

/-- The message of a directive is only said on the session that its call found. -/
theorem Core.Reached.directed_of_passed {k : Core} (h : k.Reached) {g : Generation} {o : Outgoing}
    {call : CallNumber} (hp : o ∈ passed g k.journal) (ho : o.origin.awaiting? = some call) :
    ∃ e ∈ k.journal, ∃ d, e.what = .directed (.connected g) call d ∧ o = .ofDirective call d := by
  rcases h.passed_cases hp with rfl | ha
  · cases ho
  rcases List.mem_append.mp ha with ha | ha
  · obtain ⟨t, -, rfl⟩ := List.mem_map.mp ha
    cases ho
  · exact directed_of_called ha ho

theorem Core.Reached.directed_unique {k : Core} (h : k.Reached) {e x : Entry} {s u : ConnectionState}
    {call : CallNumber} {d f : Directive} (he : e ∈ k.journal) (hx : x ∈ k.journal)
    (hs : e.what = .directed s call d) (hu : x.what = .directed u call f) : s = u ∧ d = f := by
  have hd := h.directives_nodup
  have heq : e = x := view_injective hd he hx (a := call) (by rw [hs]; rfl) (by rw [hu]; rfl)
  rw [heq, hu] at hs
  cases hs
  exact ⟨rfl, rfl⟩

/-- A call that is not answered has its directive in the queue, or on its way. -/
theorem Core.Reached.unanswered {k : Core} (h : k.Reached) {e : Entry} {s : ConnectionState}
    {call : CallNumber} {d : Directive} (he : e ∈ k.journal) (hd : e.what = .directed s call d)
    (hn : call ∉ answered k.journal) :
    (∃ command ∈ k.commands, command.outgoing = .ofDirective call d ∧
      s = .connected command.generation ∧ k.post ≠ .gone) ∨
    (∃ rest, k.post = .writing (.ofDirective call d) rest ∧ s = .connected k.generation) := by
  have hm : call ∈ directives k.journal := mem_view.mpr ⟨e, he, by rw [hd]; rfl⟩
  have hp := h.tracked.placed call
  have hd' := List.count_pos_iff.mpr hm
  have ha := List.count_eq_zero_of_not_mem hn
  by_cases hw : call ∈ k.waiting
  · obtain ⟨command, hc, ho⟩ := List.mem_filterMap.mp hw
    obtain ⟨x, hx, f, hf, hout⟩ := directed_of_called (h.owned command hc) ho
    obtain ⟨rfl, rfl⟩ := h.directed_unique he hx hd hf
    refine .inl ⟨command, hc, hout, rfl, fun hg => ?_⟩
    rw [h.emptied hg] at hc
    cases hc
  · have hz := List.count_eq_zero_of_not_mem hw
    have hcar : call ∈ k.carried := List.count_pos_iff.mp (by omega)
    obtain ⟨o, hfl, ho⟩ := List.mem_filterMap.mp hcar
    cases hpost : k.post with
    | writing m rest =>
      rw [hpost] at hfl
      obtain rfl : o = m := List.mem_singleton.mp hfl
      have hwire := (h.onPlan (by rw [hpost]; rfl)).wire
      rw [hpost] at hwire
      have hpass : o ∈ passed k.generation k.journal := by
        rw [hwire]
        exact List.mem_append_right _ (List.mem_singleton_self o)
      obtain ⟨x, hx, f, hf, rfl⟩ := h.directed_of_passed hpass ho
      obtain ⟨rfl, rfl⟩ := h.directed_unique he hx hd hf
      exact .inr ⟨rest, rfl, rfl⟩
    | _ =>
      rw [hpost] at hfl
      cases hfl

/-! ### Honesty -/

/-- A message that sets or clears a feature. -/
def Message.isFeature : Message → Bool
  | setFeature _ | unsetFeature _ => true
  | _ => false

theorem Origin.awaiting?_eq_some {o : Origin} {call : CallNumber} :
    o.awaiting? = some call ↔ o = .directive call := by
  cases o <;> simp [awaiting?]

/-- A feature is set or cleared by directives only. -/
theorem Occurrence.directed_of_isFeature {x : Occurrence} {g : Generation} {o : Outgoing}
    (h : x.called? g = some o) (ho : o.message.isFeature = true) :
    ∃ call d, x = .directed (.connected g) call d ∧ o = .ofDirective call d := by
  unfold called? at h
  split at h
  · rename_i r
    split at h <;> cases h
    obtain ⟨topic, action⟩ := r
    cases action <;> cases ho
  · rename_i s n d
    split at h <;> cases h
    rename_i hs
    subst hs
    exact ⟨n, d, rfl, rfl⟩
  · cases h

theorem Core.Reached.directed_of_isFeature {k : Core} (h : k.Reached) {g : Generation} {o : Outgoing}
    (hp : o ∈ passed g k.journal) (ho : o.message.isFeature = true) :
    ∃ e ∈ k.journal, ∃ call d, e.what = .directed (.connected g) call d ∧ o = .ofDirective call d := by
  rcases h.passed_cases hp with rfl | ha
  · cases ho
  rcases List.mem_append.mp ha with ha | ha
  · obtain ⟨t, -, rfl⟩ := List.mem_map.mp ha
    cases ho
  · obtain ⟨e, he, hx⟩ := mem_view.mp ha
    exact ⟨e, he, Occurrence.directed_of_isFeature hx ho⟩

/-- The features that a session was told to set or clear, in the order of the calls. -/
theorem Core.Reached.features_inOrder {k : Core} (h : k.Reached) (g : Generation) :
    ((passed g k.journal).filter (·.message.isFeature)) <+:
      (called g k.journal).filter (·.message.isFeature) := by
  have hs : (spoken g k.journal).filter (·.message.isFeature) =
      (passed g k.journal).filter (·.message.isFeature) := by
    rw [spoken, List.filter_filter]
    refine List.filter_congr fun o _ => ?_
    by_cases hb : o = .heartbeat
    · subst hb
      rfl
    · simp [hb]
  have ha : (asked g k.journal).filter (·.message.isFeature) =
      (called g k.journal).filter (·.message.isFeature) := by
    rw [asked, List.filter_append, List.filter_eq_nil_iff.mpr, List.nil_append]
    intro o ho
    obtain ⟨t, -, rfl⟩ := List.mem_map.mp ho
    exact Bool.false_ne_true
  rw [← hs, ← ha]
  exact (h.inOrder g).filter _

lemma Occurrence.confirms?_eq_some {x : Occurrence} {call : CallNumber} {g : Generation} :
    x.confirms? = some (call, g) ↔ x = .answered call (.ok g) := by
  refine ⟨fun h => ?_, fun h => by rw [h]; rfl⟩
  unfold confirms? at h
  split at h <;> cases h
  rfl

lemma Occurrence.carries?_eq_some {x : Occurrence} {call : CallNumber} {g : Generation} :
    x.carries? = some (call, g) ↔ ∃ link o, x = .written g link o ∧ o.origin = .directive call := by
  refine ⟨fun h => ?_, fun ⟨link, o, hx, ho⟩ => ?_⟩
  · unfold carries? at h
    split at h
    · rename_i u link o
      obtain ⟨n, hn, he⟩ := Option.map_eq_some_iff.mp h
      cases he
      exact ⟨link, o, rfl, Origin.awaiting?_eq_some.mp hn⟩
    · cases h
  · rw [hx, carries?, ho]
    rfl

/-- The answer to a call names a session just when the connection of that session took the message. -/
theorem Core.Reached.confirmed_iff {k : Core} (h : k.Reached) {call : CallNumber} {g : Generation} :
    (∃ e ∈ k.journal, e.what = .answered call (.ok g)) ↔
      ∃ e ∈ k.journal, ∃ link o, e.what = .written g link o ∧ o.origin = .directive call := by
  have hm : (call, g) ∈ view Occurrence.confirms? k.journal ↔
      (call, g) ∈ view Occurrence.carries? k.journal := by rw [h.confirmed]
  rw [mem_view, mem_view] at hm
  simpa only [Occurrence.confirms?_eq_some, Occurrence.carries?_eq_some] using hm

/-- The message of a call that failed was not taken. -/
theorem Core.Reached.not_written {k : Core} (h : k.Reached) {e x : Entry} {call : CallNumber}
    {f : ClientFault} {g : Generation} {link : Nat} {o : Outgoing} (he : e ∈ k.journal)
    (ha : e.what = .answered call (.error f)) (hx : x ∈ k.journal) (hw : x.what = .written g link o) :
    o.origin ≠ .directive call := by
  intro ho
  obtain ⟨y, hy, hok⟩ := h.confirmed_iff.mpr ⟨x, hx, link, o, hw, ho⟩
  have hn := h.answered_nodup
  have heq : e = y := view_injective hn he hy (a := call) (by rw [ha]; rfl) (by rw [hok]; rfl)
  rw [heq, hok] at ha
  cases ha

namespace Client

lemma stage_of_writing {c : Client} {o : Outgoing} {rest : Option (List Topic)}
    (h : c.core.post = .writing o rest) :
    ∃ l s, c.worker.stage = .session l (.writing o s) := by
  have h : c.worker.stage.post = .writing o rest := h
  cases hs : c.worker.stage with
  | session l a =>
    rw [hs] at h
    cases a with
    | writing m s =>
      cases h
      exact ⟨l, s, rfl⟩
    | _ => cases h
  | _ =>
    rw [hs] at h
    cases h

theorem takesCommands_of_post {c : Client} (h : c.core.post ≠ .gone) : c.takesCommands = true := by
  unfold takesCommands
  split
  · rename_i hs
    exact absurd (congrArg Stage.post hs) h
  · rfl

/-- What becomes of the calls for directives. -/
structure HonestDirectives (c : Client) : Prop where
  /-- In the whole run, each message is passed to a connection once at the most. -/
  once : (sent c.journal).Nodup
  /-- It is passed to the connection of the session that the call found. -/
  own : ∀ e ∈ c.journal, ∀ g o call, e.what = .writing g o → o.origin = .directive call →
    ∃ x ∈ c.journal, ∃ d, x.what = .directed (.connected g) call d ∧ o = .ofDirective call d
  answered : (History.answered c.journal).Nodup
  /-- The answer names a session just when the connection of that session took the message. -/
  success : ∀ call g, (∃ e ∈ c.journal, e.what = .answered call (.ok g)) ↔
    ∃ e ∈ c.journal, ∃ link o, e.what = .written g link o ∧ o.origin = .directive call
  failure : ∀ e ∈ c.journal, ∀ call fault, e.what = .answered call (.error fault) →
    (fault = .notConnected ∨ fault = .closed) ∧
      ∀ x ∈ c.journal, ∀ g link o, x.what = .written g link o → o.origin ≠ .directive call
  /-- Without an answer, the directive is in the queue of a worker that is not gone, or on its way. -/
  kept : ∀ e ∈ c.journal, ∀ found call d, e.what = .directed found call d →
    call ∉ History.answered c.journal →
      (∃ command ∈ c.commands, command.outgoing = .ofDirective call d ∧
        found = .connected command.generation ∧ c.takesCommands = true) ∨
      (∃ link next, c.worker.stage = .session link (.writing (.ofDirective call d) next) ∧
        found = .connected c.generation)
  /-- On every session features are set and cleared by the calls that found it. -/
  features : ∀ g, ∀ o ∈ passed g c.journal, o.message.isFeature = true →
    ∃ e ∈ c.journal, ∃ call d, e.what = .directed (.connected g) call d ∧ o = .ofDirective call d
  order : ∀ g, ((passed g c.journal).filter (·.message.isFeature)) <+:
    (called g c.journal).filter (·.message.isFeature)

theorem directives_honest {config : Config} {tokens : Nat → Option String} {c : Client}
    (h : Reachable config tokens c) : c.HonestDirectives where
  once := h.reached.sent_nodup
  own e he g o call hw ho :=
    h.reached.directed_of_passed (mem_view.mpr ⟨e, he, by rw [hw]; exact if_pos rfl⟩)
      (Origin.awaiting?_eq_some.mpr ho)
  answered := h.reached.answered_nodup
  success call g := h.reached.confirmed_iff
  failure e he call fault ha :=
    ⟨h.reached.failsByLoss.mem he call fault ha, fun x hx g link o hw => h.reached.not_written he ha hx hw⟩
  kept e he found call d hd hn := by
    rcases h.reached.unanswered he hd hn with ⟨command, hc, ho, hs, hp⟩ | ⟨rest, hp, hs⟩
    · exact .inl ⟨command, hc, ho, hs, takesCommands_of_post hp⟩
    · obtain ⟨l, s, hw⟩ := stage_of_writing hp
      exact .inr ⟨l, s, hw, hs⟩
  features g o hp ho := h.reached.directed_of_isFeature hp ho
  order := h.reached.features_inOrder

/-- Directives before the first session, on it, refused by its connection, queued for it until the second
session, and on their way there. -/
def fiveDirectivesRun : List Event :=
  [.direct .keepOnDisconnect, .work 0, .work 0, .dialAnswer (.link none), .work 0, .work 0,
    .direct (.cancelOnDisconnect []), .work 0, .work 0, .limit 0 .closed, .direct .keepOnDisconnect,
    .work 0, .direct .keepOnDisconnect, .work 0, .work 0, .pass 1000000000, .work 0, .work 0, .work 0,
    .dialAnswer (.link none), .work 0, .work 0, .work 0, .direct .keepOnDisconnect, .work 0]

theorem five_directives_honest : ∃ c,
    (initial .loopback fun _ => none).run fiveDirectivesRun = some c ∧ c.state = .connected 2 ∧
      sent c.journal = [1, 2, 4] ∧ (List.range 5).map c.answer? =
        [some (.error .notConnected), some (.ok 1), some (.error .notConnected),
          some (.error .notConnected), none] ∧ c.HonestDirectives := by
  have hr : ((initial .loopback fun _ => none).run fiveDirectivesRun).map
      (fun c => (c.state, sent c.journal, (List.range 5).map c.answer?)) =
        some (.connected 2, [1, 2, 4], [some (.error .notConnected), some (.ok 1),
          some (.error .notConnected), some (.error .notConnected), none]) := by
    rfl
  obtain ⟨c, hc, hv⟩ := Option.map_eq_some_iff.mp hr
  simp only [Prod.mk.injEq] at hv
  exact ⟨c, hc, hv.1, hv.2.1, hv.2.2, directives_honest (.ofRun hc)⟩

end Client

end MarketFeed
