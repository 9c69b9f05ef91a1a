import MarketFeed.Proofs.Directives
import MarketFeed.Proofs.Subscriptions

/-!
Requests for topics that are refused. A client refuses them once it is closed or is about to be, and never
else. Nothing is sent or awaited for such a request and the state stays. The registry is the caller's: it
follows whether or not there will be another session.
-/

namespace MarketFeed

namespace Registry

variable (r : Registry) (t : Topic)

/-- Only what changes something changes the topics. -/
theorem apply_eq_self_iff (a : Action) : r.apply a t = r ↔ r.changes a t = false := by
  cases a with
  | subscribe =>
    by_cases ht : t ∈ r.topics
    · simp [apply, insert, changes, contains, ht]
    · have hne : (⟨r.topics ++ [t]⟩ : Registry) ≠ r := fun h => by
        simpa using congrArg topics h
      simp [apply, insert, changes, contains, ht, hne]
  | unsubscribe =>
    have hfilter : r.apply .unsubscribe t = r ↔ r.topics.filter (· ≠ t) = r.topics :=
      ⟨congrArg topics, congrArg mk⟩
    rw [hfilter, List.filter_eq_self]
    simp only [changes, contains, decide_eq_true_eq, decide_eq_false_iff_not]
    exact ⟨fun h ht => h t ht rfl, fun h u hu hut => h (hut ▸ hu)⟩

end Registry

namespace Client

variable {c : Client} {config : Config} {tokens : Nat → Option String} {r : Request}

/-- What a request does to a client without a session. -/
theorem request_of_away (h : c.state.isConnected = false) (r : Request) :
    c.request r = ({ c with
      shared.registry := c.shared.registry.apply r.action r.topic
      callsMade := c.callsMade + 1 }.note (.requested c.state c.callsMade r),
        if c.state.isTerminal then .error .closed else .ok ()) := by
  obtain ⟨config, tokens, now, ⟨registry, pending, state, closeFrame, cancelled⟩, handles, commands,
    callsMade, worker, stream, journal⟩ := c
  cases state with
  | connected g => cases h
  | _ => rfl

/-- What a request does to a live session whose worker takes commands. -/
theorem request_of_connected {g : Generation} (h : c.state = .connected g) (ht : c.takesCommands = true)
    (r : Request) : c.request r = ({ c with
      shared.registry := c.shared.registry.apply r.action r.topic
      shared.pending := c.shared.pending.record r
      commands := c.commands ++ [(⟨g, .ofRequest c.callsMade r⟩ : Command)]
      callsMade := c.callsMade + 1 }.note (.requested c.state c.callsMade r), .ok ()) := by
  change c.shared.state = _ at h
  unfold takesCommands at ht
  simp only [request, state, note, h, enqueue, takesCommands, ht, if_true]

/-- What a request does to a client that no session will follow on. -/
theorem request_of_isTerminal (h : c.state.isTerminal = true) (r : Request) :
    c.request r = ({ c with
      shared.registry := c.shared.registry.apply r.action r.topic
      callsMade := c.callsMade + 1 }.note (.requested c.state c.callsMade r), .error .closed) := by
  rw [request_of_away (ConnectionState.not_connected h), if_pos h]

/-- A worker that takes no commands has announced the end. -/
theorem takesCommands_of_placed (hk : c.core.Placed) (hs : c.state ≠ .closed) : c.takesCommands = true :=
  takesCommands_of_post fun hp => hs (hk.past (by rw [hp]; rfl))

theorem takesCommands_of_connected {g : Generation} (hk : c.core.Placed) (hs : c.state = .connected g) :
    c.takesCommands = true :=
  takesCommands_of_placed hk (by rw [hs]; nofun)

/-- While a session is live there is a worker that takes commands, so that no request to it is refused. -/
theorem request_answer (hk : c.core.Placed) (r : Request) :
    (c.request r).2 = if c.state.isTerminal then .error .closed else .ok () := by
  cases hs : c.state with
  | connected g =>
    rw [request_of_connected hs (takesCommands_of_connected hk hs)]
    rfl
  | _ => rw [request_of_away (by rw [hs]; rfl), hs]

theorem Reachable.request_refused_iff (h : Reachable config tokens c) (r : Request) :
    (c.request r).2 = .error .closed ↔ c.state.isTerminal = true := by
  rw [request_answer h.reached.placed]
  split
  · rename_i ht
    exact iff_of_true rfl ht
  · rename_i ht
    exact iff_of_false nofun ht

/-- What a refused request leaves as it was, and what becomes of the registry. -/
structure RefusedKeeping (c : Client) (r : Request) (d : Client) : Prop where
  state : d.state = c.state
  pending : d.shared.pending = c.shared.pending
  commands : d.commands = c.commands
  registry : d.shared.registry = c.shared.registry.apply r.action r.topic
  /-- The topics stay, in their order, just when the request has nothing to change. -/
  subscriptions : d.subscriptions = c.subscriptions ↔ c.shared.registry.changes r.action r.topic = false

theorem refused_request_keeps (h : Reachable config tokens c) (hr : (c.request r).2 = .error .closed) :
    c.RefusedKeeping r (c.request r).1 := by
  have hregistry := request_registry c r
  rw [request_of_isTerminal ((h.request_refused_iff r).mp hr) r] at hregistry ⊢
  refine ⟨rfl, rfl, rfl, hregistry, ?_⟩
  rw [← Registry.apply_eq_self_iff, ← hregistry]
  exact ⟨congrArg Registry.mk, congrArg Registry.topics⟩

/-- A topic is asked for, and the client is closed on its first session. -/
def closedRun : List Event :=
  [.request ⟨.myOrders, .subscribe⟩, .work 0, .work 0, .dialAnswer (.link none), .work 0,
    .close .normal]

theorem closed_request_keeps : ∃ c, (initial .loopback fun _ => none).run closedRun = some c ∧
    (c.request ⟨.balances, .subscribe⟩).2 = .error .closed ∧
      c.pendingAcks = [⟨.myOrders, .subscribe⟩] ∧ c.state = .closing ∧
        (c.request ⟨.balances, .subscribe⟩).1.subscriptions = [.myOrders, .balances] ∧
          c.RefusedKeeping ⟨.balances, .subscribe⟩ (c.request ⟨.balances, .subscribe⟩).1 := by
  have hr : ((initial .loopback fun _ => none).run closedRun).map (fun c => (c.pendingAcks, c.state,
      (c.request ⟨.balances, .subscribe⟩).1.subscriptions)) =
        some ([⟨.myOrders, .subscribe⟩], .closing, [.myOrders, .balances]) := by
    decide +kernel
  obtain ⟨c, hc, hv⟩ := Option.map_eq_some_iff.mp hr
  simp only [Prod.mk.injEq] at hv
  obtain ⟨hp, hs, hl⟩ := hv
  have hreach : Reachable .loopback (fun _ => none) c := .ofRun hc
  have hrefused : (c.request ⟨.balances, .subscribe⟩).2 = .error .closed :=
    (hreach.request_refused_iff _).mpr (by rw [hs]; rfl)
  exact ⟨c, hc, hrefused, hp, hs, hl, refused_request_keeps hreach hrefused⟩

/-- After a close a topic is listed although the request for it is refused. -/
theorem refused_request_lists : ¬ ∀ (config : Config) (tokens : Nat → Option String) (c : Client)
    (r : Request), Reachable config tokens c → (c.request r).2 = .error .closed →
      (c.request r).1.subscriptions = c.subscriptions ∧
        (c.request r).1.shared.pending = c.shared.pending ∧ (c.request r).1.state = c.state ∧
          (c.request r).1.commands = c.commands := by
  intro hall
  have hr : ((initial .loopback fun _ => none).run [.close .normal]).map (fun c => (c.state,
      c.subscriptions, (c.request ⟨.balances, .subscribe⟩).1.subscriptions)) =
        some (.closing, [], [.balances]) := by
    decide +kernel
  obtain ⟨c, hc, hv⟩ := Option.map_eq_some_iff.mp hr
  simp only [Prod.mk.injEq] at hv
  obtain ⟨hs, hl, hl'⟩ := hv
  have hreach : Reachable .loopback (fun _ => none) c := .ofRun hc
  have hsame := (hall .loopback _ c ⟨.balances, .subscribe⟩ hreach
    ((hreach.request_refused_iff _).mpr (by rw [hs]; rfl))).1
  rw [hl, hl'] at hsame
  cases hsame

end Client

end MarketFeed
