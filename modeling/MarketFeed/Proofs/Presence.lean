import MarketFeed.Proofs.AckAccounting
import MarketFeed.Proofs.Leftovers
import MarketFeed.Proofs.Refusals

/-!
The worker of a live session. Here a worker may break down wherever it is in its work, and not only where
it waits for a connection. Callers still find a session live only while its worker is there, because the
end is announced before the queue is let go. So no call that finds a session live is refused, and its
command stays in the queue until its message is passed to the connection.
-/

namespace MarketFeed

open History
open Relation (ReflTransGen)

namespace Client

variable {b c d : Client} {e : Event} {os : List Occurrence} {config : Config}
  {tokens : Nat → Option String} {g : Generation}

/-! ### Breaking down anywhere -/

/-- The worker breaks down, wherever it is. A call whose message was on its way is answered. -/
def collapse (c : Client) : Client := c.crash.getD c.breakDown

/-- One thing that happens to a client: an event, or its worker breaks down before it has announced the
end. -/
inductive Happens : Client → Client → Prop
  | event {c d : Client} (e : Event) (h : c.step e = some d) : Happens c d
  | collapses {c : Client} (h : c.worker.stage.post.isOver = false) : Happens c c.collapse

abbrev Leads : Client → Client → Prop := ReflTransGen Happens

/-- A client that some history has led to, from its making on, in which the worker may break down
anywhere. -/
structure Exposed (config : Config) (tokens : Nat → Option String) (c : Client) : Prop where
  valid : config.isValid = true
  history : Leads (.initial config tokens) c

theorem Reachable.exposed (h : Reachable config tokens c) : Exposed config tokens c := by
  induction h with
  | initial hv => exact ⟨hv, .refl⟩
  | step e _ hs ih => exact ⟨ih.valid, ih.history.tail (.event e hs)⟩

/-- Where the worker waits for no connection nothing is on its way, and it may turn to the end of its
work. -/
theorem mayYield_of_crash_none (h : c.crash = none) (ho : c.worker.stage.post.isOver = false) :
    c.core.post.mayYield = true := by
  change c.worker.stage.post.mayYield = true
  unfold crash at h
  cases hw : c.worker.stage with
  | session l a =>
    cases a with
    | writing o s =>
      rw [hw] at h
      cases h
    | _ => rfl
  | releasing | gone =>
    rw [hw] at ho
    cases ho
  | _ => rfl

theorem moves_collapse (ho : c.worker.stage.post.isOver = false) : Moves c.core c.collapse.core := by
  unfold collapse
  cases h : c.crash with
  | none => exact moves_breakDown (mayYield_of_crash_none h ho)
  | some d => exact moves_crash h

theorem Happens.moves (h : Happens c d) (hk : c.core.Placed) : Moves c.core d.core := by
  cases h with
  | event e hs => exact moves_step hk hs
  | collapses ho => exact moves_collapse ho

theorem Happens.signalled (h : Happens c d) (hk : c.core.Placed) (hs : c.Signalled) : d.Signalled := by
  cases h with
  | event e he =>
    obtain ⟨os, hd⟩ := deed_step hk hs he
    exact hd.signalled hs
  | collapses ho =>
    unfold collapse
    cases h : c.crash with
    | none => exact ⟨hs.told, hs.closed, hs.asking⟩
    | some d =>
      obtain ⟨os, hd⟩ := deed_crash h
      exact hd.signalled hs

theorem Leads.moves (h : Leads c d) (hk : c.core.Placed) : Moves c.core d.core := by
  induction h with
  | refl => exact .refl
  | tail _ hd ih => exact ih.trans (hd.moves (ih.placed hk))

theorem Exposed.reached (h : Exposed config tokens c) : c.core.Reached :=
  h.history.moves Core.initial_placed

/-- What holds of a client and is kept by all that happens holds of the clients that it leads to. -/
theorem Leads.invariant {P : Client → Prop} (h : Leads c d) (hr : c.core.Reached) (hs : c.Signalled)
    (start : P c) (keep : ∀ {b d}, b.core.Reached → b.Signalled → Happens b d → P b → P d) :
    d.core.Reached ∧ d.Signalled ∧ P d := by
  induction h with
  | refl => exact ⟨hr, hs, start⟩
  | tail _ hd ih =>
    obtain ⟨hr, hs, hp⟩ := ih
    exact ⟨hr.trans (hd.moves hr.placed), hd.signalled hr.placed hs, keep hr hs hd hp⟩

/-! ### The queue -/

lemma enqueue_of_takesCommands (h : c.takesCommands = true) (command : Command) :
    c.enqueue command = some { c with commands := c.commands ++ [command] } := if_pos h

/-- While a session is found live, each call that found it has its command in the queue, or its message was
passed to the connection. -/
def KeepsCalls (c : Client) : Prop :=
  ∀ g, c.state = .connected g → ∀ o ∈ called g c.journal, o ∈ passed g c.journal ∨ ⟨g, o⟩ ∈ c.commands

theorem KeepsCalls.away (h : d.state.isConnected = false) : d.KeepsCalls := by
  intro g hs
  rw [hs] at h
  cases h

/-- No call finds a session. A command for the live session that leaves the queue is passed to the
connection. -/
theorem KeepsCalls.frame (h : c.KeepsCalls) (hs : d.state = c.state)
    (hj : ∀ g, called g d.journal = called g c.journal)
    (hp : ∀ g, ∃ l, passed g d.journal = passed g c.journal ++ l)
    (hq : ∀ command ∈ c.commands, c.state = .connected command.generation →
      command.outgoing ∈ passed command.generation d.journal ∨ command ∈ d.commands) : d.KeepsCalls := by
  intro g hg o ho
  have hg : c.state = .connected g := hs.symm.trans hg
  obtain ⟨l, hl⟩ := hp g
  rw [hj] at ho
  rcases h g hg o ho with hm | hm
  · rw [hl]
    exact .inl (List.mem_append_left l hm)
  · exact hq _ hm hg

/-- A call finds the session, and its command is put into the queue. -/
theorem KeepsCalls.call {o : Outgoing} (h : c.KeepsCalls) (hs : c.state = .connected g)
    (hd : d.state = c.state) (hq : d.commands = c.commands ++ [(⟨g, o⟩ : Command)])
    (hj : called g d.journal = called g c.journal ++ [o])
    (hp : passed g d.journal = passed g c.journal) : d.KeepsCalls := by
  intro u hu m hm
  obtain rfl : g = u := by simpa using (hs.symm.trans (hd.symm.trans hu))
  rw [hj, List.mem_append, List.mem_singleton] at hm
  rw [hp, hq, List.mem_append, List.mem_singleton]
  rcases hm with hm | rfl
  · exact (h g hs m hm).imp_right .inl
  · exact .inr (.inr rfl)

theorem Deed.keepsCalls (hd : Deed e c os d) (he : ∀ r, e ≠ .request r) (hr : c.core.Reached)
    (h : c.KeepsCalls) : d.KeepsCalls := by
  have hcalled (g : Generation) : called g d.journal = called g c.journal ++ _ := hd.shown fun _ _ => rfl
  have hpassed (g : Generation) : passed g d.journal = passed g c.journal ++ _ := hd.shown fun _ _ => rfl
  have frame (hs : d.state = c.state) (hn : ∀ g, os.filterMap (Occurrence.called? g) = [])
      (hq : ∀ command ∈ c.commands, c.state = .connected command.generation →
        command.outgoing ∈ passed command.generation d.journal ∨ command ∈ d.commands) : d.KeepsCalls :=
    h.frame hs (fun g => by rw [hcalled, hn, List.append_nil]) (fun g => ⟨_, hpassed g⟩) hq
  have still (hs : d.state = c.state) (hn : ∀ g, os.filterMap (Occurrence.called? g) = [])
      (hq : d.commands = c.commands) : d.KeepsCalls := frame hs hn fun _ hm _ => .inr (hq ▸ hm)
  have connected {g : Generation} (hs : c.state = .connected g) := hr.placed.connected g hs
  cases hd with
  | ask r _ _ hr => exact absurd hr (he r)
  | direct f g _ hs =>
    refine h.call (o := .ofDirective c.callsMade f) hs rfl rfl ?_ ?_
    · rw [hcalled, hs]
      simp [Occurrence.called?]
    · exact (hpassed g).trans (List.append_nil _)
  | attempt | close | pause | giveUp | departAlone | leaveAlone | finish => exact .away rfl
  | refuse f fault hs => exact .away hs
  | announce l hw =>
    -- Nothing was said of the session before.
    intro g hg o ho
    cases hg
    have hn : called c.generation c.journal = [] :=
      (agree_nil (hr.silentOn (.inr ⟨rfl, core_post hw⟩)).journal).called
    rw [hcalled, hn] at ho
    cases ho
  | execute l w command cs hw _ hc hg =>
    refine frame rfl (fun _ => rfl) fun x hx _ => ?_
    rw [hc, List.mem_cons] at hx
    rcases hx with rfl | hx
    · rw [hpassed, hg]
      exact .inl (List.mem_append_right _ (by simp [Occurrence.passed?]))
    · exact .inr hx
  | skip l w command cs hw _ hc hg =>
    refine frame rfl (fun _ => rfl) fun x hx hs => ?_
    rw [hc, List.mem_cons] at hx
    rcases hx with rfl | hx
    · exact absurd (connected hs).1 hg
    · exact .inr hx
  | drop _ _ _ hw | release _ hw =>
    intro g hs
    cases (connected hs).2.symm.trans (congrArg Post.isAnnounced (core_post hw))
  | latePatience _ _ a | hangUp _ _ _ a => cases a <;> exact still rfl (fun _ => rfl) rfl
  | _ => exact still rfl (fun _ => rfl) rfl

theorem KeepsCalls.request (h : c.KeepsCalls) (hk : c.core.Placed) (r : Request) :
    (c.request r).1.KeepsCalls := by
  cases hs : c.state with
  | connected g =>
    rw [request_of_connected hs (takesCommands_of_connected hk hs)]
    refine h.call (o := .ofRequest c.callsMade r) hs rfl rfl ?_ ?_
    · rw [hs]
      simp [note, Occurrence.called?]
    · simp [note, Occurrence.passed?]
  | _ =>
    have ha : c.state.isConnected = false := by rw [hs]; rfl
    rw [request_of_away ha]
    exact .away ha

theorem Happens.keepsCalls (hd : Happens c d) (hr : c.core.Reached) (hs : c.Signalled)
    (h : c.KeepsCalls) : d.KeepsCalls := by
  cases hd with
  | event e he =>
    cases e with
    | request r =>
      change (if c.handles = 0 then none else some (c.request r).1) = some d at he
      split at he <;> cases he
      exact h.request hr.placed r
    | _ =>
      obtain ⟨os, hd⟩ := deed_step hr.placed hs he
      exact hd.keepsCalls nofun hr h
  | collapses ho =>
    unfold collapse
    cases hc : c.crash with
    | none =>
      refine h.frame rfl (fun g => ?_) (fun g => ⟨[], ?_⟩) fun _ hm _ => .inr hm
      · simp [breakDown, note, goTo, Occurrence.called?]
      · simp [breakDown, note, goTo, Occurrence.passed?]
    | some d =>
      obtain ⟨os, hd⟩ := deed_crash hc
      exact hd.keepsCalls nofun hr h

theorem Exposed.keepsCalls (h : Exposed config tokens c) : c.KeepsCalls :=
  (h.history.invariant (P := KeepsCalls) .refl initial_signalled (fun _ hs => nomatch hs)
    fun hr hs hd ih => hd.keepsCalls hr hs ih).2.2

/-- What a call for a directive is told at once, by the state that it finds. -/
theorem direct_answer (hk : c.core.Placed) (f : Directive) : (c.direct f).2 =
    match c.state with
    | .connected _ => .ok c.callsMade
    | .connecting _ | .disconnected _ => .error .notConnected
    | .closing | .closed => .error .closed := by
  cases hs : c.state with
  | connected g => rw [direct_of_connected hs (takesCommands_of_connected hk hs)]
  | _ =>
    change c.shared.state = _ at hs
    simp only [direct, state, note, hs, refuse]

/-- What callers can rely on, wherever the worker breaks down. -/
structure Attended (c : Client) : Prop where
  /-- A session is found live only while it is the worker's and its end was not announced. -/
  worker : ∀ g, c.state = .connected g → c.generation = g ∧ c.worker.stage.post.isOver = false
  /-- The queue is let go after the end was announced. -/
  queue : c.takesCommands = false → c.state = .closed
  /-- A caller who found the session live may change the registry and what is pending, and anything may
  happen after that. As long as the state stays, a command is put into the queue. -/
  held : ∀ g, c.state = .connected g → ∀ (registry : Registry) (pending : PendingAcks) (d : Client),
    Leads { c with shared.registry := registry, shared.pending := pending } d → d.state = .connected g →
      d.generation = g ∧
        ∀ command, d.enqueue command = some { d with commands := d.commands ++ [command] }
  requestAnswer : ∀ r, (c.request r).2 = if c.state.isTerminal then .error .closed else .ok ()
  /-- A request that is recorded as pending is put into the queue. -/
  request : ∀ g, c.state = .connected g → ∀ r,
    (c.request r).1.shared.pending = c.shared.pending.record r ∧
      (c.request r).1.commands = c.commands ++ [⟨g, .ofRequest c.callsMade r⟩]
  requestAway : c.state.isConnected = false → ∀ r,
    (c.request r).1.shared.pending = c.shared.pending ∧ (c.request r).1.commands = c.commands
  direct : ∀ g, c.state = .connected g → ∀ f,
    (c.direct f).1.commands = c.commands ++ [⟨g, .ofDirective c.callsMade f⟩]
  directAnswer : ∀ f, (c.direct f).2 =
    match c.state with
    | .connected _ => .ok c.callsMade
    | .connecting _ | .disconnected _ => .error .notConnected
    | .closing | .closed => .error .closed
  /-- While the session is found live no call that found it loses its command. -/
  kept : c.KeepsCalls
  /-- What is pending on the live session was asked for at its start, or was passed to the connection, or
  is in the queue. -/
  awaited : ∀ g, c.state = .connected g → ∀ r ∈ c.pendingAcks,
    (r.topic ∈ snapshot g c.journal ∧ r.action = .subscribe) ∨
      ∃ call, .ofRequest call r ∈ passed g c.journal ∨ ⟨g, .ofRequest call r⟩ ∈ c.commands

/-- Callers who find a session live find its worker, wherever that may break down. -/
theorem live_session_attended (h : Exposed config tokens c) : c.Attended where
  worker g hs := by
    obtain ⟨hg, ha⟩ := h.reached.placed.connected g hs
    exact ⟨hg.symm, Post.isOver_of_isAnnounced ha⟩
  queue hq := by
    by_contra hs
    cases (takesCommands_of_placed h.reached.placed hs).symm.trans hq
  held g hs registry pending d hl hd := by
    -- Where the worker may be does not depend on what callers do under the lock.
    have hk : Client.core { c with shared.registry := registry, shared.pending := pending } |>.Placed :=
      ⟨h.reached.placed.connected, h.reached.placed.live, h.reached.placed.past⟩
    have hkd : d.core.Placed := (hl.moves hk).placed hk
    exact ⟨(hkd.connected g hd).1.symm, enqueue_of_takesCommands (takesCommands_of_connected hkd hd)⟩
  requestAnswer := request_answer h.reached.placed
  request g hs r := by
    rw [request_of_connected hs (takesCommands_of_connected h.reached.placed hs)]
    exact ⟨rfl, rfl⟩
  requestAway ha r := by
    rw [request_of_away ha]
    exact ⟨rfl, rfl⟩
  direct g hs f := by
    rw [direct_of_connected hs (takesCommands_of_connected h.reached.placed hs)]
    rfl
  directAnswer := direct_answer h.reached.placed
  kept := h.keepsCalls
  awaited g hs r hr := by
    have hb := h.reached.accounted.balance g (h.reached.accounted.connected g hs) r
    have hpos : 0 < (requests g c.journal).count r := by
      have hp : 0 < c.pendingAcks.count r := List.count_pos_iff.mpr hr
      change c.pendingAcks.count r + _ = (requests g c.journal).count r at hb
      omega
    refine (request_cases (List.count_pos_iff.mp hpos)).imp_right fun ⟨call, hc⟩ => ⟨call, ?_⟩
    exact h.keepsCalls g hs _ hc

/-- The first session is lost, and a request is made before that is announced. -/
def toLostRequest : List Event :=
  [.work 0, .work 0, .dialAnswer (.link none), .work 0, .work 0, .hangUp, .work 0,
    .request ⟨.balances, .subscribe⟩]

/-- The worker breaks down where it waits for nobody. Until the end is announced callers find the session
live, and the worker takes their commands. -/
theorem lost_session_attended : ∃ c, (initial .loopback fun _ => none).run toLostRequest = some c ∧
    c.worker.stage.awaits = false ∧ c.collapse.state = .connected 1 ∧
      c.collapse.pendingAcks = [⟨.balances, .subscribe⟩] ∧
        c.collapse.commands = [⟨1, .ofRequest 0 ⟨.balances, .subscribe⟩⟩] ∧
          (c.collapse.step (.work 0)).map (·.state) = some .closed ∧ c.collapse.Attended := by
  have hr : ((initial .loopback fun _ => none).run toLostRequest).map (fun c =>
      (c.worker.stage.awaits, c.worker.stage.post.isOver, c.collapse.state, c.collapse.pendingAcks,
        c.collapse.commands, (c.collapse.step (.work 0)).map (·.state))) =
          some (false, false, .connected 1, [⟨.balances, .subscribe⟩],
            [⟨1, .ofRequest 0 ⟨.balances, .subscribe⟩⟩], some .closed) := by
    rfl
  obtain ⟨c, hc, hv⟩ := Option.map_eq_some_iff.mp hr
  simp only [Prod.mk.injEq] at hv
  obtain ⟨ha, ho, hs, hp, hq, hn⟩ := hv
  have hreach : Reachable .loopback (fun _ => none) c := .ofRun hc
  have hexposed : Exposed .loopback (fun _ => none) c.collapse :=
    ⟨Config.loopback_isValid, hreach.exposed.history.tail (.collapses ho)⟩
  exact ⟨c, hc, ha, hs, hp, hq, hn, live_session_attended hexposed⟩

end Client

end MarketFeed
