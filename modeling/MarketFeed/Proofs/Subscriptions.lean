import Mathlib.Data.List.Induction
import MarketFeed.Proofs.Deeds

/-!
Which topics a client lists. Callers alone decide: the list can be read off the requests for topics in
the order in which they were made, and two clients that got the same requests list the same topics,
whatever else happened to them.
-/

namespace MarketFeed

/-- The request of a caller. -/
def Event.request? : Event → Option Request
  | request r => some r
  | _ => none

/-- The requests among events, in their order. -/
def Event.requests (es : List Event) : List Request := es.filterMap Event.request?

namespace Registry

/-- The wanted topics after requests. -/
def applyAll (r : Registry) (rs : List Request) : Registry :=
  rs.foldl (fun r q => r.apply q.action q.topic) r

lemma applyAll_concat (r : Registry) (rs : List Request) (q : Request) :
    r.applyAll (rs ++ [q]) = (r.applyAll rs).apply q.action q.topic := List.foldl_append

/-- The last request about a topic. -/
def lastAbout (rs : List Request) (t : Topic) : Option Request :=
  (rs.filter fun q => q.topic = t).getLast?

/-- At this place a topic is asked for, for the first time after the last request not to have it. -/
structure Begins (rs : List Request) (t : Topic) (i : Nat) : Prop where
  asked : rs[i]? = some ⟨t, .subscribe⟩
  kept : ∀ m, i < m → rs[m]? ≠ some ⟨t, .unsubscribe⟩
  first : ∀ k, k < i → rs[k]? = some ⟨t, .subscribe⟩ →
    ∃ m, k < m ∧ m < i ∧ rs[m]? = some ⟨t, .unsubscribe⟩

/-- What is listed after requests: each topic that was last asked for, once, and the one that has been
asked for longer before the other. -/
structure ListedBy (topics : List Topic) (rs : List Request) : Prop where
  listed : ∀ t, t ∈ topics ↔ lastAbout rs t = some ⟨t, .subscribe⟩
  once : topics.Nodup
  begun : ∀ t ∈ topics, ∃ i, Begins rs t i
  inOrder : topics.Pairwise fun t u => ∀ i k, Begins rs t i → Begins rs u k → i < k

section requests

variable {rs : List Request} {q r : Request} {t : Topic} {i : Nat}

lemma lastAbout_concat_self (h : q.topic = t) : lastAbout (rs ++ [q]) t = some q := by
  simp [lastAbout, h]

lemma lastAbout_concat_other (h : q.topic ≠ t) : lastAbout (rs ++ [q]) t = lastAbout rs t := by
  simp [lastAbout, h]

/-- What is at a place after one more request was there before, or is that request. -/
theorem at_concat : (rs ++ [q])[i]? = some r ↔ rs[i]? = some r ∨ i = rs.length ∧ q = r := by
  rcases Nat.lt_trichotomy i rs.length with h | rfl | h
  · simp [List.getElem?_append_left h, Nat.ne_of_lt h]
  · simp
  · have hlen : (rs ++ [q]).length ≤ i := by
      rw [List.length_append, List.length_singleton]
      exact h
    rw [List.getElem?_eq_none hlen, List.getElem?_eq_none (Nat.le_of_lt h)]
    simp [Nat.ne_of_gt h]

lemma lt_of_at (h : rs[i]? = some r) : i < rs.length := (List.getElem?_eq_some_iff.mp h).1

/-- A topic begins at one place at most. -/
theorem Begins.unique {k : Nat} (hi : Begins rs t i) (hk : Begins rs t k) : i = k := by
  rcases Nat.lt_trichotomy i k with h | h | h
  · obtain ⟨m, hm, -, hu⟩ := hk.first i h hi.asked
    exact absurd hu (hi.kept m hm)
  · exact h
  · obtain ⟨m, hm, -, hu⟩ := hi.first k h hk.asked
    exact absurd hu (hk.kept m hm)

/-- What was asked for and is not asked for last was asked not to have in between. -/
theorem exists_unsubscribe {k : Nat} (h : lastAbout rs t ≠ some ⟨t, .subscribe⟩)
    (hk : rs[k]? = some ⟨t, .subscribe⟩) : ∃ m, k < m ∧ rs[m]? = some ⟨t, .unsubscribe⟩ := by
  induction rs using List.reverseRecOn with
  | nil => cases hk
  | append_singleton rs q ih =>
    obtain ⟨u, a⟩ := q
    by_cases hu : u = t
    · subst hu
      rw [lastAbout_concat_self rfl] at h
      cases a with
      | subscribe => exact absurd rfl h
      | unsubscribe =>
        rcases at_concat.mp hk with hk | ⟨-, he⟩
        · exact ⟨rs.length, lt_of_at hk, at_concat.mpr (.inr ⟨rfl, rfl⟩)⟩
        · cases he
    · rw [lastAbout_concat_other hu] at h
      rcases at_concat.mp hk with hk | ⟨-, he⟩
      · obtain ⟨m, hm, hq⟩ := ih h hk
        exact ⟨m, hm, at_concat.mpr (.inl hq)⟩
      · exact absurd (congrArg Request.topic he) hu

/-- One more request leaves the place where a topic begins, unless it is not to have that topic. -/
theorem Begins.concat (h : Begins rs t i) (hq : q ≠ ⟨t, .unsubscribe⟩) : Begins (rs ++ [q]) t i where
  asked := at_concat.mpr (.inl h.asked)
  kept m hm hu := by
    rcases at_concat.mp hu with hu | ⟨-, he⟩
    · exact h.kept m hm hu
    · exact hq he
  first k hk hs := by
    rcases at_concat.mp hs with hs | ⟨he, -⟩
    · obtain ⟨m, hm, hi, hu⟩ := h.first k hk hs
      exact ⟨m, hm, hi, at_concat.mpr (.inl hu)⟩
    · exact absurd (lt_of_at h.asked) (Nat.not_lt_of_lt (he ▸ hk))

/-- Where a topic begins among more requests, it begins among those that reach there. -/
theorem Begins.of_concat (h : Begins (rs ++ [q]) t i) (hi : i < rs.length) : Begins rs t i where
  asked := (at_concat.mp h.asked).resolve_right fun he => Nat.ne_of_lt hi he.1
  kept m hm hu := h.kept m hm (at_concat.mpr (.inl hu))
  first k hk hs := by
    obtain ⟨m, hm, hmi, hu⟩ := h.first k hk (at_concat.mpr (.inl hs))
    exact ⟨m, hm, hmi, (at_concat.mp hu).resolve_right fun he => Nat.ne_of_lt (Nat.lt_trans hmi hi) he.1⟩

/-- A request for a topic that is not listed begins it. -/
theorem begins_length (h : lastAbout rs t ≠ some ⟨t, .subscribe⟩) :
    Begins (rs ++ [⟨t, .subscribe⟩]) t rs.length where
  asked := at_concat.mpr (.inr ⟨rfl, rfl⟩)
  kept m hm hu := by
    rcases at_concat.mp hu with hu | ⟨he, -⟩
    · exact absurd (lt_of_at hu) (Nat.not_lt_of_lt hm)
    · exact absurd he (Nat.ne_of_gt hm)
  first k hk hs := by
    have hs := (at_concat.mp hs).resolve_right fun he => Nat.ne_of_lt hk he.1
    obtain ⟨m, hm, hu⟩ := exists_unsubscribe h hs
    exact ⟨m, hm, lt_of_at hu, at_concat.mpr (.inl hu)⟩

/-- A topic that the last request does not ask for begins before that. -/
theorem Begins.lt_of_ne (h : Begins (rs ++ [q]) t i) (hq : q ≠ ⟨t, .subscribe⟩) : i < rs.length := by
  rcases at_concat.mp h.asked with hs | ⟨-, he⟩
  · exact lt_of_at hs
  · exact absurd he hq

end requests

section listed

variable {topics : List Topic} {rs : List Request} {t : Topic}

/-- Nothing is listed when nothing was asked. -/
theorem listedBy_nil : ListedBy [] [] where
  listed t := by simp [lastAbout]
  once := List.nodup_nil
  begun t ht := nomatch ht
  inOrder := List.Pairwise.nil

/-- A topic that is listed keeps its place when it is asked for again. -/
theorem ListedBy.again (h : ListedBy topics rs) (ht : t ∈ topics) :
    ListedBy topics (rs ++ [⟨t, .subscribe⟩]) where
  listed u := by
    by_cases hu : t = u
    · subst hu
      simp [lastAbout_concat_self, ht]
    · rw [lastAbout_concat_other hu]
      exact h.listed u
  once := h.once
  begun u hu := by
    obtain ⟨i, hi⟩ := h.begun u hu
    exact ⟨i, hi.concat fun he => nomatch congrArg Request.action he⟩
  inOrder := by
    refine List.Pairwise.imp_of_mem (fun {u v} hu hv hlt i k hi hk => ?_) h.inOrder
    obtain ⟨i', hi'⟩ := h.begun u hu
    obtain ⟨k', hk'⟩ := h.begun v hv
    rw [hi.unique (hi'.concat fun he => nomatch congrArg Request.action he),
      hk.unique (hk'.concat fun he => nomatch congrArg Request.action he)]
    exact hlt i' k' hi' hk'

/-- A topic that is not listed comes to the end. -/
theorem ListedBy.new (h : ListedBy topics rs) (ht : t ∉ topics) :
    ListedBy (topics ++ [t]) (rs ++ [⟨t, .subscribe⟩]) where
  listed u := by
    by_cases hu : t = u
    · subst hu
      simp [lastAbout_concat_self]
    · rw [lastAbout_concat_other hu, ← h.listed u]
      simp [Ne.symm hu]
  once := by simpa using h.once.concat ht
  begun u hu := by
    rcases List.mem_append.mp hu with hu | hu
    · obtain ⟨i, hi⟩ := h.begun u hu
      exact ⟨i, hi.concat fun he => nomatch congrArg Request.action he⟩
    · rw [List.mem_singleton.mp hu]
      exact ⟨rs.length, begins_length fun hl => ht ((h.listed t).mpr hl)⟩
  inOrder := by
    have hne (u : Topic) (hu : u ∈ topics) : (⟨t, .subscribe⟩ : Request) ≠ ⟨u, .subscribe⟩ := by
      intro he
      obtain rfl : t = u := congrArg Request.topic he
      exact ht hu
    refine List.pairwise_append.mpr ⟨?_, List.pairwise_singleton _ _, fun u hu v hv i k hi hk => ?_⟩
    · refine List.Pairwise.imp_of_mem (fun {u v} hu hv hlt i k hi hk => ?_) h.inOrder
      exact hlt i k (hi.of_concat (hi.lt_of_ne (hne u hu))) (hk.of_concat (hk.lt_of_ne (hne v hv)))
    · rw [List.mem_singleton.mp hv] at hk
      have hb : Begins (rs ++ [⟨t, .subscribe⟩]) t rs.length :=
        begins_length fun hl => ht ((h.listed t).mpr hl)
      rw [hk.unique hb]
      exact hi.lt_of_ne (hne u hu)

/-- A topic that is not to be had goes, and the others keep their order. -/
theorem ListedBy.gone (h : ListedBy topics rs) :
    ListedBy (topics.filter (· ≠ t)) (rs ++ [⟨t, .unsubscribe⟩]) where
  listed u := by
    by_cases hu : t = u
    · subst hu
      simp [lastAbout_concat_self]
    · rw [lastAbout_concat_other hu, ← h.listed u]
      simp [Ne.symm hu]
  once := h.once.filter _
  begun u hu := by
    obtain ⟨hu, hne⟩ := List.mem_filter.mp hu
    obtain ⟨i, hi⟩ := h.begun u hu
    refine ⟨i, hi.concat fun he => ?_⟩
    exact (of_decide_eq_true hne) (congrArg Request.topic he).symm
  inOrder := by
    refine (List.Pairwise.filter _ h.inOrder).imp fun {u v} hlt i k hi hk => ?_
    have hne (w : Topic) : (⟨t, .unsubscribe⟩ : Request) ≠ ⟨w, .subscribe⟩ := fun he =>
      nomatch congrArg Request.action he
    exact hlt i k (hi.of_concat (hi.lt_of_ne (hne u))) (hk.of_concat (hk.lt_of_ne (hne v)))

end listed

/-- What is listed after requests can be read off them. -/
theorem listedBy_applyAll (rs : List Request) : ListedBy (empty.applyAll rs).topics rs := by
  induction rs using List.reverseRecOn with
  | nil => exact listedBy_nil
  | append_singleton rs q ih =>
    rw [applyAll_concat]
    obtain ⟨t, a⟩ := q
    cases a with
    | subscribe =>
      by_cases ht : t ∈ (empty.applyAll rs).topics
      · simpa [apply, insert, contains, ht] using ih.again ht
      · simpa [apply, insert, contains, ht] using ih.new ht
    | unsubscribe => exact ih.gone

end Registry

namespace Client

variable {c d : Client} {e : Event} {os : List Occurrence} {config : Config}
  {tokens : Nat → Option String}

theorem request_registry (c : Client) (r : Request) :
    (c.request r).1.shared.registry = c.shared.registry.apply r.action r.topic := by
  obtain ⟨config, tokens, now, ⟨registry, pending, state, closeFrame, cancelled⟩, handles, commands,
    callsMade, ⟨stage, generation, failed, backoff, asked, opened⟩, stream, journal⟩ := c
  cases state with
  | connected g => cases stage <;> rfl
  | _ => rfl

/-- Nothing but a request of a caller changes what is wanted. -/
theorem Deed.registry (hd : Deed e c os d) (he : e.request? = none) :
    d.shared.registry = c.shared.registry := by
  cases hd with
  | ask r _ _ hr =>
    subst hr
    cases he
  | latePatience _ _ a | hangUp _ _ _ a => cases a <;> rfl
  | _ => rfl

theorem Reachable.registry_step (hc : Reachable config tokens c) (h : c.step e = some d) :
    d.shared.registry = c.shared.registry.applyAll (Event.requests [e]) := by
  cases hr : e.request? with
  | none =>
    obtain ⟨os, hd⟩ := hc.deed h
    rw [hd.registry hr]
    simp [Event.requests, hr, Registry.applyAll]
  | some r =>
    obtain rfl : e = .request r := by
      cases e <;> cases hr
      rfl
    change (if c.handles = 0 then none else some (c.request r).1) = some d at h
    split at h <;> cases h
    exact request_registry c r

theorem Reachable.registry_run {es : List Event} (hc : Reachable config tokens c)
    (h : c.run es = some d) : d.shared.registry = c.shared.registry.applyAll (Event.requests es) := by
  induction es generalizing c with
  | nil =>
    cases h
    rfl
  | cons e es ih =>
    obtain ⟨b, hb, hd⟩ := Option.bind_eq_some_iff.mp h
    have hes : Event.requests (e :: es) = Event.requests [e] ++ Event.requests es :=
      List.filterMap_append (l := [e])
    rw [ih (hc.step e hb) hd, hc.registry_step hb, hes, Registry.applyAll, Registry.applyAll,
      ← List.foldl_append]
    rfl

/-- The topics that a client lists are told by the requests that its callers made, and by nothing else. -/
theorem subscriptions_of_requests {es : List Event} (hv : config.isValid = true)
    (h : (initial config tokens).run es = some c) :
    Registry.ListedBy c.subscriptions (Event.requests es) ∧
      ∀ (other : Config) (otherTokens : Nat → Option String) (fs : List Event) (d : Client),
        other.isValid = true → (initial other otherTokens).run fs = some d →
          Event.requests fs = Event.requests es → d.subscriptions = c.subscriptions := by
  have hc : c.shared.registry = Registry.empty.applyAll (Event.requests es) :=
    (Reachable.initial hv).registry_run h
  refine ⟨?_, fun other otherTokens fs d hv' h' hsame => ?_⟩
  · rw [subscriptions, hc]
    exact Registry.listedBy_applyAll _
  · have hd : d.shared.registry = Registry.empty.applyAll (Event.requests fs) :=
      (Reachable.initial hv').registry_run h'
    rw [subscriptions, subscriptions, hc, hd, hsame]

/-- The server refuses balances. -/
def balancesRefusal : Frame := .text
  "\x7b\"type\":\"SubscriptionAck\",\"topic\":\x7b\"type\":\"Balances\"\x7d,\"action\":\"Subscribe\",\"success\":false\x7d"

/-- All requests are made before anything else happens. -/
def calmRequests : List Event :=
  [.request ⟨.balances, .subscribe⟩, .request ⟨.myOrders, .subscribe⟩, .request ⟨.balances, .subscribe⟩,
    .request ⟨.balances, .unsubscribe⟩, .request ⟨.balances, .subscribe⟩]

/-- The requests are made over two sessions. In the first one the server refuses a topic twice and says
something unreadable, and a command fails. -/
def stormyRequests : List Event :=
  [.work 0, .request ⟨.balances, .subscribe⟩, .work 0, .dialAnswer (.link none), .work 0, .work 0, .work 0,
    .work 0, .arrive (.ok balancesRefusal), .work 0, .arrive (.ok balancesRefusal), .work 0,
    .arrive (.ok (.text "")), .work 0, .request ⟨.myOrders, .subscribe⟩, .direct .keepOnDisconnect,
    .request ⟨.balances, .subscribe⟩, .work 0, .work 0, .request ⟨.balances, .unsubscribe⟩,
    .limit 0 .closed, .work 0, .work 0, .work 0, .pass 1000000000, .work 0, .work 0, .work 0,
    .request ⟨.balances, .subscribe⟩, .dialAnswer (.link none), .work 0]

theorem stormy_subscriptions_of_requests : ∃ c d,
    (initial .loopback fun _ => none).run calmRequests = some c ∧
      (initial .loopback fun _ => none).run stormyRequests = some d ∧ c.state = .connecting 1 ∧
      d.state = .connected 2 ∧ c.subscriptions = [.myOrders, .balances] ∧
      Registry.ListedBy c.subscriptions (Event.requests calmRequests) ∧
      d.subscriptions = c.subscriptions := by
  have hr : ((initial .loopback fun _ => none).run calmRequests).map
      (fun c => (c.state, c.subscriptions)) = some (.connecting 1, [.myOrders, .balances]) := by
    decide +kernel
  have hs : ((initial .loopback fun _ => none).run stormyRequests).map (·.state) =
      some (.connected 2) := by
    decide +kernel
  obtain ⟨c, hc, hv⟩ := Option.map_eq_some_iff.mp hr
  obtain ⟨d, hd, hw⟩ := Option.map_eq_some_iff.mp hs
  simp only [Prod.mk.injEq] at hv
  obtain ⟨hl, hsame⟩ := subscriptions_of_requests Config.loopback_isValid hc
  exact ⟨c, d, hc, hd, hv.1, hw, hv.2, hl,
    hsame .loopback _ stormyRequests d Config.loopback_isValid hd (by decide)⟩

end Client

end MarketFeed
