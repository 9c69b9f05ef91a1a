import MarketFeed.Proofs.WireOrder

/-!
What the server is asked for on a live session, with what is on its way and what is in the queue, comes
to the topics that are wanted.
-/

namespace MarketFeed

open History

/-- What an activity has not brought to an end: the message that is on its way, and the topics that
are still to be asked for again. -/
def Activity.unwritten : Activity → List Outgoing
  | opening | listening _ => []
  | replaying rest => rest.map .ofReplay
  | writing o (.replay rest) => o :: rest.map .ofReplay
  | writing o (.listen _) => [o]

/-- The messages in the queue for a session. -/
def Client.queuedFor (c : Client) (g : Generation) : List Outgoing :=
  (c.commands.filter fun command => command.generation = g).map (·.outgoing)

lemma Activity.unwritten_eq (a : Activity) :
    a.unwritten = a.post.flight ++ a.post.owed.map .ofReplay := by
  cases a with
  | writing o s => cases s <;> rfl
  | _ => rfl

/-- Topics are owed only while they are asked for again. -/
theorem Post.owed_eq_nil {p : Post} (h : p.isReplaying = false) : p.owed = [] := by
  cases p with
  | replaying rest => cases h
  | writing o rest =>
    cases rest with
    | none => rfl
    | some rest => cases h
  | _ => rfl

/-- All that a session was told at its start are the topics that were wanted. -/
theorem Registry.heedAll_asked (g : Generation) (j : List Entry) :
    Registry.empty.heedAll (asked g j) = (⟨snapshot g j⟩ : Registry).heedAll (called g j) := by
  rw [asked, heedAll_append, show Registry.empty = ⟨[]⟩ from rfl,
    heedAll_ofReplay [] (snapshot g j) (snapshot_nodup g j), List.nil_append]

namespace Core

/-- The registry is what the calls to the live session made of the topics at its announcement. -/
def Told (k : Core) : Prop :=
  ∀ g, k.state = .connected g →
    k.registry = (⟨snapshot g k.journal⟩ : Registry).heedAll (called g k.journal)

theorem Told.frame {k l : Core} (h : k.Told) (hs : l.state = k.state) (hr : l.registry = k.registry)
    (hj : ∀ g, snapshot g l.journal = snapshot g k.journal ∧ called g l.journal = called g k.journal) :
    l.Told := by
  intro g hg
  rw [hs] at hg
  rw [hr, (hj g).1, (hj g).2]
  exact h g hg

end Core

theorem Move.told {k l : Core} (m : Move k l) (hf : ∀ {g}, k.Unopened g → k.SilentOn g)
    (hreg : k.registry = wanted k.journal) (h : k.Told) : l.Told := by
  cases m with
  | note e silent =>
    refine h.frame rfl rfl fun g => ?_
    have ha : Agree g k.journal (e :: k.journal) :=
      agree_cons (Occurrence.session?_ne (Occurrence.session?_of_isSilent silent))
    exact ⟨ha.snapshot, ha.called⟩
  | defer t r hs | refuse t d fault hs =>
    intro g hg
    change k.state = .connected g at hg
    rw [hg] at hs
    cases hs
  | ask s t r hs =>
    intro g hg
    obtain rfl : s = g := ConnectionState.connected.inj (hs.symm.trans hg)
    change k.registry.apply r.action r.topic =
      (⟨snapshot s (_ :: k.journal)⟩ : Registry).heedAll (called s (_ :: k.journal))
    rw [h s hs]
    simp [Occurrence.announced?, Occurrence.called?, Outgoing.ofRequest]
  | direct s t d hs =>
    intro g hg
    obtain rfl : s = g := ConnectionState.connected.inj (hs.symm.trans hg)
    change k.registry = (⟨snapshot s (_ :: k.journal)⟩ : Registry).heedAll (called s (_ :: k.journal))
    rw [h s hs]
    simp [Occurrence.announced?, Occurrence.called?, Outgoing.ofDirective]
  | close | attempt | disconnect | finish =>
    intro g hg
    cases hg
  | connect t hp hs =>
    intro g hg
    cases hg
    have hcall : called k.generation k.journal = [] := by
      simpa using (agree_nil (hf (.inr ⟨rfl, hp⟩)).journal).called
    change k.registry = (⟨snapshot k.generation (_ :: k.journal)⟩ : Registry).heedAll
      (called k.generation (_ :: k.journal))
    simp [Occurrence.announced?, Occurrence.called?, hcall, ← hreg]
  | withhold | replay | take | beat | acknowledge =>
    exact h.frame rfl rfl fun g => ⟨rfl, by simp [Core.log, Occurrence.called?]⟩
  | write t link o =>
    refine h.frame rfl rfl fun g => ?_
    have ha := o.origin.answer_agree t (.ok k.generation) g (⟨t, .written k.generation link o⟩ :: k.journal)
    exact ⟨ha.snapshot, ha.called.trans (by simp [Occurrence.called?])⟩
  | fail | drop =>
    exact h.frame rfl rfl fun g =>
      ⟨(Origin.answer_agree _ _ _ g k.journal).snapshot, (Origin.answer_agree _ _ _ g k.journal).called⟩
  | _ => exact h

theorem Core.Reached.told {k : Core} (h : k.Reached) : k.Told :=
  h.invariant (fun _ hg => nomatch hg) fun hr m ih => m.told hr.silentOn hr.registry ih

/-- Everything that was passed to the connection, is owed to the replay or waits in the queue comes to
the registry. -/
theorem Core.Reached.converges {k : Core} (h : k.Reached) {g : Generation}
    (hs : k.state = .connected g) (hl : k.post.isLive = true) :
    Registry.empty.heedAll (passed g k.journal ++ k.post.owed.map .ofReplay ++ k.queued g) =
      k.registry := by
  obtain ⟨rfl, -⟩ := h.placed.connected g hs
  calc Registry.empty.heedAll (passed k.generation k.journal ++ k.post.owed.map .ofReplay ++
        k.queued k.generation)
      = Registry.empty.heedAll (spoken k.generation k.journal ++ k.post.owed.map .ofReplay ++
        k.queued k.generation) := by
        simp only [Registry.heedAll_append, spoken, Registry.heedAll_filter]
    _ = Registry.empty.heedAll (asked k.generation k.journal) := by rw [(h.onPlan hl).plan]
    _ = (⟨snapshot k.generation k.journal⟩ : Registry).heedAll (called k.generation k.journal) :=
        Registry.heedAll_asked k.generation k.journal
    _ = k.registry := (h.told k.generation hs).symm

/-- When all of the replay was taken, none of it is owed. -/
theorem Core.OnPlan.owed_nil {k : Core} (h : k.OnPlan)
    (hr : (snapshot k.generation k.journal).map .ofReplay <+: written k.generation k.journal) :
    k.post.owed = [] := by
  cases hb : k.post.isReplaying with
  | false => exact Post.owed_eq_nil hb
  | true =>
    have hp := congrArg List.length (h.replay hb)
    have hw := congrArg List.length h.wire
    have hle := hr.length_le
    simp only [List.length_append, List.length_map] at hp hw hle
    exact List.eq_nil_of_length_eq_zero (by omega)

namespace Client

theorem core_post_isLive {c : Client} {l : Link} {a : Activity} {g : Generation}
    (h : c.core.Placed) (hs : c.state = .connected g) (hw : c.worker.stage = .session l a) :
    c.core.post.isLive = true := by
  have hp : c.core.post = a.post := core_post hw
  have ha := (h.connected g hs).2
  rw [hp] at ha ⊢
  cases a with
  | opening => cases ha
  | _ => rfl

variable {config : Config} {tokens : Nat → Option String} {c : Client}

/-- On a live session the messages that the connection took, then those that are on their way or owed
to the replay, and then those in the queue come to the wanted topics, in their order. When the replay
was taken and the queue holds nothing for the session, the server was asked for exactly these. -/
theorem server_view_converges (h : Reachable config tokens c) {g : Generation} {l : Link}
    {a : Activity} (hs : c.state = .connected g) (hw : c.worker.stage = .session l a) :
    (Registry.empty.heedAll (written g c.journal ++ a.unwritten ++ c.queuedFor g)).topics =
        c.subscriptions ∧
      ((snapshot g c.journal).map .ofReplay <+: written g c.journal → c.queuedFor g = [] →
        (Registry.empty.heedAll (passed g c.journal)).topics = c.subscriptions) ∧
      passed g c.journal = written g c.journal ++ a.post.flight := by
  have hl := core_post_isLive h.reached.placed hs hw
  have hp : c.core.post = a.post := core_post hw
  have hc := h.reached.converges hs hl
  obtain ⟨rfl, -⟩ := h.reached.placed.connected g hs
  have hplan := h.reached.onPlan hl
  have hwire := hplan.wire
  refine ⟨?_, fun hr hq => ?_, ?_⟩
  · rw [hwire, hp] at hc
    rw [Activity.unwritten_eq, ← List.append_assoc]
    exact congrArg Registry.topics hc
  · rw [hplan.owed_nil hr, show c.core.queued c.core.generation = [] from hq] at hc
    simp only [List.map_nil, List.append_nil] at hc
    exact congrArg Registry.topics hc
  · rw [← hp]
    exact hwire

/-- A topic is given up while the replay asks for it again, and another one is asked for. -/
def restlessRun : List Event :=
  [.request ⟨.balances, .subscribe⟩, .request ⟨.myOrders, .subscribe⟩, .work 0, .work 0,
    .dialAnswer (.link none), .work 0, .work 0, .request ⟨.balances, .unsubscribe⟩,
    .request ⟨.myTrades, .subscribe⟩, .request ⟨.balances, .subscribe⟩]

theorem restless_view_converges : ∃ c, (initial .loopback fun _ => none).run restlessRun = some c ∧
    c.subscriptions = [.myOrders, .myTrades, .balances] ∧ written 1 c.journal = [] ∧
    (Registry.empty.heedAll ([] ++ [.ofReplay .balances, .ofReplay .myOrders] ++ c.queuedFor 1)).topics =
      c.subscriptions :=
  ⟨_, rfl, rfl, rfl, (server_view_converges (.ofRun (r := restlessRun) rfl) (g := 1) rfl rfl).1⟩

end Client

end MarketFeed
