import Mathlib.Data.List.Count
import MarketFeed.Proofs.Calls
import MarketFeed.Proofs.Moves

/-!
Acknowledgments. On a session each request is answered once: what is pending and what went to the reader
are together the requests that were made on it.
-/

namespace MarketFeed

open History

namespace PendingAcks

/-- How often a request awaits an answer. -/
def tally (cs : List (Request × Nat)) (r : Request) : Nat :=
  (cs.flatMap fun c => List.replicate c.2 c.1).count r

/-- No count is zero. -/
def Positive (cs : List (Request × Nat)) : Prop := ∀ c ∈ cs, 0 < c.2

theorem count_entries (p : PendingAcks) (r : Request) : p.entries.count r = tally p.counts r := rfl

theorem tally_cons (s : Request) (n : Nat) (cs : List (Request × Nat)) (r : Request) :
    tally ((s, n) :: cs) r = (if s = r then n else 0) + tally cs r := by
  simp [tally, List.count_replicate]

theorem tally_countUp (s : Request) (cs : List (Request × Nat)) (r : Request) :
    tally (countUp s cs) r = tally cs r + if s = r then 1 else 0 := by
  induction cs with
  | nil => simp [countUp, tally, List.count_singleton]
  | cons c cs ih =>
    obtain ⟨u, n⟩ := c
    rw [countUp]
    split
    · rename_i hu
      subst hu
      rw [tally_cons, tally_cons]
      split <;> omega
    · rw [tally_cons, tally_cons, ih]
      omega

theorem positive_countUp {cs : List (Request × Nat)} (h : Positive cs) (s : Request) :
    Positive (countUp s cs) := by
  induction cs with
  | nil =>
    intro c hc
    obtain rfl := List.mem_singleton.mp hc
    exact Nat.one_pos
  | cons c cs ih =>
    obtain ⟨u, n⟩ := c
    obtain ⟨hn, hcs⟩ := List.forall_mem_cons.mp h
    rw [countUp]
    split
    · exact List.forall_mem_cons.mpr ⟨Nat.succ_pos n, hcs⟩
    · exact List.forall_mem_cons.mpr ⟨hn, ih hcs⟩

/-- A request that is not counted awaits no answer. -/
theorem tally_of_countDown_none {cs : List (Request × Nat)} {s : Request}
    (h : countDown s cs = none) : tally cs s = 0 := by
  induction cs with
  | nil => rfl
  | cons c cs ih =>
    obtain ⟨u, n⟩ := c
    rw [countDown] at h
    split at h
    · cases h
    · rename_i hu
      rw [tally_cons, if_neg hu, ih (Option.map_eq_none_iff.mp h)]

theorem tally_countDown {cs ds : List (Request × Nat)} {s : Request} (h : countDown s cs = some ds)
    (hp : Positive cs) (r : Request) : tally cs r = tally ds r + if s = r then 1 else 0 := by
  induction cs generalizing ds with
  | nil => cases h
  | cons c cs ih =>
    obtain ⟨u, n⟩ := c
    obtain ⟨hn, hcs⟩ := List.forall_mem_cons.mp hp
    have hn : 0 < n := hn
    rw [countDown] at h
    split at h
    · rename_i hu
      subst hu
      cases h
      split
      · rw [tally_cons, tally_cons]
        split <;> omega
      · rw [tally_cons]
        split <;> omega
    · obtain ⟨es, he, rfl⟩ := Option.map_eq_some_iff.mp h
      rw [tally_cons, tally_cons, ih he hcs]
      omega

theorem positive_countDown {cs ds : List (Request × Nat)} {s : Request}
    (h : countDown s cs = some ds) (hp : Positive cs) : Positive ds := by
  induction cs generalizing ds with
  | nil => cases h
  | cons c cs ih =>
    obtain ⟨u, n⟩ := c
    obtain ⟨hn, hcs⟩ := List.forall_mem_cons.mp hp
    rw [countDown] at h
    split at h
    · cases h
      split
      · rename_i hlt
        exact List.forall_mem_cons.mpr ⟨Nat.sub_pos_of_lt hlt, hcs⟩
      · exact hcs
    · obtain ⟨es, he, rfl⟩ := Option.map_eq_some_iff.mp h
      exact List.forall_mem_cons.mpr ⟨hn, ih he hcs⟩

lemma tally_recordAll (p : PendingAcks) (ts : List Topic) (r : Request) :
    tally (p.recordAll ts).counts r = tally p.counts r + (ts.map (⟨·, .subscribe⟩)).count r := by
  induction ts generalizing p with
  | nil => rfl
  | cons t ts ih =>
    refine (ih (p.record ⟨t, .subscribe⟩)).trans ?_
    rw [record, tally_countUp, List.map_cons, List.count_cons]
    simp only [beq_iff_eq]
    omega

lemma positive_recordAll {p : PendingAcks} (h : Positive p.counts) (ts : List Topic) :
    Positive (p.recordAll ts).counts := by
  induction ts generalizing p with
  | nil => exact h
  | cons t ts ih => exact ih (p := p.record ⟨t, .subscribe⟩) (positive_countUp h _)

@[simp] lemma generation_recordAll (p : PendingAcks) (ts : List Topic) :
    (p.recordAll ts).generation = p.generation := by
  induction ts generalizing p with
  | nil => rfl
  | cons t ts ih => exact ih (p.record ⟨t, .subscribe⟩)

/-- An answer that was awaited. -/
theorem resolve?_eq_some {p q : PendingAcks} {g : Generation} {r : Request}
    (h : p.resolve? g r = some q) :
    p.generation = some g ∧ q.generation = some g ∧ countDown r p.counts = some q.counts := by
  unfold resolve? at h
  split at h
  · rename_i hg
    obtain ⟨c, hc, rfl⟩ := Option.map_eq_some_iff.mp h
    exact ⟨hg, hg, hc⟩
  · cases h

end PendingAcks

/-- The request of a call that found a session live. -/
def Occurrence.requestOn? (g : Generation) : Occurrence → Option Request
  | requested (.connected h) _ r => if h = g then some r else none
  | _ => none

/-- The requests that were made on a session: one for each topic of its announcement, and those of the
calls that found it live. -/
def History.requests (g : Generation) (j : List Entry) : List Request :=
  (snapshot g j).map (⟨·, .subscribe⟩) ++ view (Occurrence.requestOn? g) j

lemma Occurrence.requestOn?_other {o : Occurrence} {g : Generation} (h : o.session? ≠ some g) :
    o.requestOn? g = none := by
  unfold requestOn?
  split
  · exact if_neg fun he => h (congrArg some he)
  · rfl

namespace History

variable {g : Generation} {j : List Entry}

lemma requests_cons {e : Entry} (h : e.what.announced? ≠ some g) :
    requests g (e :: j) = requests g j ++ (e.what.requestOn? g).toList := by
  rw [requests, snapshot_cons, if_neg h, view_cons, ← List.append_assoc, requests]

/-- What is about no session or another one is no request and no acknowledgment. -/
theorem requests_append {n : List Entry} (h : ∀ e ∈ n, e.what.session? ≠ some g) :
    requests g (n ++ j) = requests g j ∧ acknowledged g (n ++ j) = acknowledged g j := by
  have hs : snapshot g (n ++ j) = snapshot g j := (agree_append h).snapshot
  have hr : view (Occurrence.requestOn? g) (n ++ j) = view (Occurrence.requestOn? g) j :=
    view_append_hidden fun e he => Occurrence.requestOn?_other (h e he)
  refine ⟨by rw [requests, hs, hr, requests], ?_⟩
  exact view_append_hidden fun e he => Occurrence.acknowledged?_other (h e he)

/-- What is about no session. -/
theorem requests_unrelated {e : Entry} (h : e.what.session? = none) :
    requests g (e :: j) = requests g j ∧ acknowledged g (e :: j) = acknowledged g j :=
  requests_append (List.forall_mem_singleton.mpr (Occurrence.session?_ne h))

lemma requests_answer (o : Origin) (t : Instant) (x : Except ClientFault Generation) :
    requests g (o.answer t x ++ j) = requests g j ∧ acknowledged g (o.answer t x ++ j) = acknowledged g j :=
  requests_append Origin.answer_session?_ne

/-- What is about a session, but announces none, requests nothing and acknowledges nothing. -/
theorem requests_neutral {e : Entry} (ha : e.what.announced? = none) (hr : e.what.requestOn? g = none)
    (hk : e.what.acknowledged? g = none) :
    requests g (e :: j) = requests g j ∧ acknowledged g (e :: j) = acknowledged g j := by
  rw [requests_cons (by rw [ha]; exact fun hn => nomatch hn), acknowledged_cons, hr, hk]
  exact ⟨List.append_nil _, List.append_nil _⟩

end History

/-- The call of a request to a live session has a message for it. -/
theorem Occurrence.called?_of_requestOn? {x : Occurrence} {g : Generation} {r : Request}
    (h : x.requestOn? g = some r) : ∃ call, x.called? g = some (.ofRequest call r) := by
  unfold requestOn? at h
  split at h
  · rename_i s call q
    split at h <;> cases h
    rename_i hs
    exact ⟨call, if_pos hs⟩
  · cases h

/-- A request that was made on a session is one of its announcement, or a call found the session live. -/
theorem History.request_cases {g : Generation} {j : List Entry} {r : Request} (h : r ∈ requests g j) :
    (r.topic ∈ snapshot g j ∧ r.action = .subscribe) ∨ ∃ call, .ofRequest call r ∈ called g j := by
  rcases List.mem_append.mp h with h | h
  · obtain ⟨t, ht, rfl⟩ := List.mem_map.mp h
    exact .inl ⟨ht, rfl⟩
  · obtain ⟨e, he, hr⟩ := mem_view.mp h
    obtain ⟨call, hc⟩ := Occurrence.called?_of_requestOn? hr
    exact .inr ⟨call, mem_view.mpr ⟨e, he, hc⟩⟩

namespace Core

/-- The books of a core: on the session that answers are awaited on, what is pending and what was
acknowledged are the requests. -/
structure Accounted (k : Core) : Prop where
  positive : PendingAcks.Positive k.pending.counts
  session : ∀ g, k.pending.generation = some g → g = k.generation ∧ k.post.isAnnounced = true
  off : k.pending.generation = none → k.pending = .empty
  live : k.post.isLive = true → k.pending.generation = some k.generation
  connected : ∀ g, k.state = .connected g → k.pending.generation = some g
  idle : k.state.isConnected = false → k.state ≠ .closing → k.pending = .empty
  balance : ∀ g, k.pending.generation = some g → ∀ r,
    k.pending.entries.count r + (acknowledged g k.journal).count r = (requests g k.journal).count r
  bounded : ∀ g r, (acknowledged g k.journal).count r ≤ (requests g k.journal).count r

variable {k l : Core}

theorem Accounted.frame (h : k.Accounted) (hp : l.pending = k.pending) (hs : l.state = k.state)
    (hg : l.generation = k.generation) (ha : k.post.isAnnounced = true → l.post.isAnnounced = true)
    (hl : l.post.isLive = true → k.post.isLive = true)
    (hj : ∀ g, requests g l.journal = requests g k.journal ∧
      acknowledged g l.journal = acknowledged g k.journal) : l.Accounted where
  positive := by rw [hp]; exact h.positive
  session g hn := by
    rw [hp] at hn
    rw [hg]
    exact ⟨(h.session g hn).1, ha (h.session g hn).2⟩
  off hn := by
    rw [hp] at hn ⊢
    exact h.off hn
  live hlive := by
    rw [hp, hg]
    exact h.live (hl hlive)
  connected g hc := by
    rw [hs] at hc
    rw [hp]
    exact h.connected g hc
  idle hc hn := by
    rw [hs] at hc hn
    rw [hp]
    exact h.idle hc hn
  balance g hn r := by
    rw [hp] at hn ⊢
    rw [(hj g).1, (hj g).2]
    exact h.balance g hn r
  bounded g r := by
    rw [(hj g).1, (hj g).2]
    exact h.bounded g r

/-- When nothing is awaited, the books are those of the sessions that are over. -/
theorem Accounted.of_empty (h : k.Accounted) (hp : l.pending = .empty)
    (hl : l.post.isLive = false) (hs : l.state.isConnected = false) (hj : l.journal = k.journal) :
    l.Accounted where
  positive := by
    rw [hp]
    exact fun c hc => nomatch hc
  session g hn := by
    rw [hp] at hn
    cases hn
  off _ := hp
  live hlive := by
    rw [hl] at hlive
    cases hlive
  connected g hc := by
    rw [hc] at hs
    cases hs
  idle _ _ := hp
  balance g hn := by
    rw [hp] at hn
    cases hn
  bounded g r := by
    rw [hj]
    exact h.bounded g r

/-- Nothing is awaited before a session is announced. -/
theorem Accounted.pending_empty (h : k.Accounted) (hp : k.post.isAnnounced = false) :
    k.pending = .empty := by
  cases hg : k.pending.generation with
  | none => exact h.off hg
  | some g =>
    have ha := (h.session g hg).2
    rw [hp] at ha
    cases ha

/-- A live session goes on, or ends and is not announced to have ended. -/
theorem Accounted.goOn (h : k.Accounted) (hp : l.pending = k.pending) (hs : l.state = k.state)
    (hg : l.generation = k.generation) (hk : k.post.isLive = true) (hl : l.post.isAnnounced = true)
    (hj : ∀ g, requests g l.journal = requests g k.journal ∧
      acknowledged g l.journal = acknowledged g k.journal) : l.Accounted :=
  h.frame hp hs hg (fun _ => hl) (fun _ => hk) hj

/-- The end of a session is settled. -/
theorem Accounted.conclude (h : k.Accounted) (hk : k.post = .ended) (hl : l.post = k.post)
    (hp : l.pending = .empty) (hs : l.state.isConnected = false) (hj : l.journal = k.journal) :
    l.Accounted :=
  h.of_empty hp (by rw [hl, hk]; rfl) hs hj

/-- A request to the live session is made and is awaited. -/
theorem Accounted.ask {g : Generation} {t : Instant} {r : Request} (h : k.Accounted)
    (hs : k.state = .connected g) : (({ k.want r with pending := k.pending.record r }.enqueue
      ⟨g, .ofRequest k.callsMade r⟩).countCall.log
        [⟨t, .requested (.connected g) k.callsMade r⟩]).Accounted := by
  have hgen := h.connected g hs
  have hreq (u : Generation) := requests_cons (g := u) (j := k.journal)
    (e := ⟨t, .requested (.connected g) k.callsMade r⟩) fun hn => nomatch hn
  have hack (u : Generation) : acknowledged u
      (⟨t, .requested (.connected g) k.callsMade r⟩ :: k.journal) = acknowledged u k.journal := by
    simp [Occurrence.acknowledged?]
  refine ⟨PendingAcks.positive_countUp h.positive r, h.session, fun hn => ?_, h.live, h.connected,
    fun hc => ?_, fun u hu s => ?_, fun u s => ?_⟩
  · exact nomatch (hgen.symm.trans hn)
  · change k.state.isConnected = false at hc
    rw [hs] at hc
    cases hc
  · obtain rfl : g = u := Option.some.inj (hgen.symm.trans hu)
    have hb := h.balance g hgen s
    change (PendingAcks.record k.pending r).entries.count s + (acknowledged g (_ :: k.journal)).count s =
      (requests g (_ :: k.journal)).count s
    rw [hack, hreq, List.count_append, ← hb, PendingAcks.count_entries, PendingAcks.count_entries,
      PendingAcks.record, PendingAcks.tally_countUp]
    simp only [Occurrence.requestOn?, if_true, Option.toList_some, List.count_singleton, beq_iff_eq]
    omega
  · have hb := h.bounded u s
    change (acknowledged u (_ :: k.journal)).count s ≤ (requests u (_ :: k.journal)).count s
    rw [hack, hreq, List.count_append]
    omega

/-- A session is announced: each topic of the registry is asked for and is awaited. -/
theorem Accounted.connect {t : Instant} (h : k.Accounted) (hq : k.SilentOn k.generation)
    (hreg : k.registry = wanted k.journal) : ({ k with
      state := .connected k.generation
      pending := (k.pending.start k.generation).recordAll k.registry.topics
      post := .replaying k.registry.topics }.log
        [⟨t, .published (.connected k.generation)⟩]).Accounted := by
  have hgen : ((k.pending.start k.generation).recordAll k.registry.topics).generation =
      some k.generation := PendingAcks.generation_recordAll _ _
  have hother (u : Generation) (hu : k.generation ≠ u) :
      requests u (⟨t, .published (.connected k.generation)⟩ :: k.journal) = requests u k.journal ∧
        acknowledged u (⟨t, .published (.connected k.generation)⟩ :: k.journal) =
          acknowledged u k.journal :=
    requests_append (n := [_]) (List.forall_mem_singleton.mpr fun hn => hu (Option.some.inj hn))
  have hack : acknowledged k.generation
      (⟨t, .published (.connected k.generation)⟩ :: k.journal) = [] := by
    have hn : acknowledged k.generation k.journal = [] :=
      view_eq_nil fun e he => Occurrence.acknowledged?_other (hq.journal e he)
    simp [Occurrence.acknowledged?, hn]
  have hreq : requests k.generation (⟨t, .published (.connected k.generation)⟩ :: k.journal) =
      k.registry.topics.map (⟨·, .subscribe⟩) := by
    have hn : view (Occurrence.requestOn? k.generation) k.journal = [] :=
      view_eq_nil fun e he => Occurrence.requestOn?_other (hq.journal e he)
    simp [requests, Occurrence.announced?, Occurrence.requestOn?, hn, hreg]
  have hpos : PendingAcks.Positive (k.pending.start k.generation).counts := fun _ hc => nomatch hc
  refine ⟨PendingAcks.positive_recordAll hpos _, fun u hu => ?_, fun hn => ?_,
    fun _ => hgen, fun u hu => ?_, (by exact fun hc => nomatch hc), fun u hu r => ?_, fun u r => ?_⟩
  · exact ⟨(Option.some.inj (hgen.symm.trans hu)).symm, rfl⟩
  · exact nomatch (hgen.symm.trans hn)
  · cases hu
    exact hgen
  · obtain rfl : k.generation = u := Option.some.inj (hgen.symm.trans hu)
    change ((k.pending.start k.generation).recordAll k.registry.topics).entries.count r +
      (acknowledged k.generation (_ :: k.journal)).count r =
        (requests k.generation (_ :: k.journal)).count r
    rw [hack, hreq, PendingAcks.count_entries, PendingAcks.tally_recordAll]
    exact Nat.zero_add _
  · by_cases hu : k.generation = u
    · subst hu
      change (acknowledged k.generation (_ :: k.journal)).count r ≤ _
      rw [hack]
      exact Nat.zero_le _
    · change (acknowledged u (_ :: k.journal)).count r ≤ (requests u (_ :: k.journal)).count r
      rw [(hother u hu).1, (hother u hu).2]
      exact h.bounded u r

/-- An acknowledgment that was awaited goes to the reader. -/
theorem Accounted.acknowledge {t : Instant} {r : Request} {success : Bool} {reason : Option String}
    {p : PendingAcks} (h : k.Accounted) (hp : k.pending.resolve? k.generation r = some p) :
    ({ k with pending := p }.log
      [⟨t, .delivered k.generation (.ack r.topic r.action success reason)⟩]).Accounted := by
  obtain ⟨hold, hnew, hdown⟩ := PendingAcks.resolve?_eq_some hp
  obtain ⟨topic, action⟩ := r
  have htally := PendingAcks.tally_countDown hdown h.positive
  have hreq (u : Generation) : requests u
      (⟨t, .delivered k.generation (.ack topic action success reason)⟩ :: k.journal) =
        requests u k.journal :=
    (requests_cons (by exact fun hn => nomatch hn)).trans (List.append_nil _)
  have hbal (s : Request) : p.entries.count s + (acknowledged k.generation
      (⟨t, .delivered k.generation (.ack topic action success reason)⟩ :: k.journal)).count s =
        (requests k.generation k.journal).count s := by
    have hb := h.balance k.generation hold s
    rw [PendingAcks.count_entries, htally] at hb
    rw [← hb, PendingAcks.count_entries, acknowledged_cons, List.count_append]
    simp only [Occurrence.acknowledged?, if_true, Option.toList_some, List.count_singleton, beq_iff_eq]
    omega
  refine ⟨PendingAcks.positive_countDown hdown h.positive, fun u hu => ?_, fun hn => ?_,
    fun hl => ?_, fun u hu => ?_, fun hc hn => ?_, fun u hu s => ?_, fun u s => ?_⟩
  · exact h.session u (hold.trans (hnew.symm.trans hu))
  · exact nomatch (hnew.symm.trans hn)
  · exact hnew
  · exact (hnew.trans hold.symm).trans (h.connected u hu)
  · have he := h.idle hc hn
    rw [he] at hold
    cases hold
  · obtain rfl : k.generation = u := Option.some.inj (hnew.symm.trans hu)
    exact (hbal s).trans (congrArg (List.count s) (hreq k.generation).symm)
  · change (acknowledged u (_ :: k.journal)).count s ≤ (requests u (_ :: k.journal)).count s
    rw [hreq]
    by_cases hu : k.generation = u
    · subst hu
      rw [← hbal s]
      exact Nat.le_add_left _ _
    · rw [acknowledged_cons]
      simpa [Occurrence.acknowledged?, hu] using h.bounded u s

end Core

theorem Move.accounted {k l : Core} (m : Move k l)
    (hf : ∀ {g}, k.Unopened g → k.SilentOn g) (hreg : k.registry = wanted k.journal)
    (h : k.Accounted) : l.Accounted := by
  cases m with
  | note e hn =>
    exact h.frame rfl rfl rfl id id fun g => requests_unrelated (Occurrence.session?_of_isSilent hn)
  | withhold => exact h.frame rfl rfl rfl id id fun g => requests_unrelated rfl
  | defer t r hs =>
    exact h.frame rfl rfl rfl id id fun g =>
      requests_unrelated (Occurrence.session?_requested hs k.callsMade r)
  | ask g t r hs => exact h.ask hs
  | refuse t d fault hs =>
    refine h.frame rfl rfl rfl id id fun g => requests_append (n := [_, _]) fun x hx => ?_
    rcases List.mem_pair.mp hx with rfl | rfl
    · exact Occurrence.session?_ne rfl
    · exact Occurrence.session?_ne (Occurrence.session?_directed hs k.callsMade d)
  | direct g t d hs => exact h.frame rfl rfl rfl id id fun g => requests_neutral rfl rfl rfl
  | close =>
    exact ⟨h.positive, h.session, h.off, h.live, fun g hg => (nomatch hg),
      fun _ hn => absurd rfl hn, h.balance, h.bounded⟩
  | attempt hp => exact h.of_empty (h.pending_empty (by rw [hp]; rfl)) rfl rfl rfl
  | abandon hp hs =>
    exact h.of_empty (h.pending_empty (by rw [hp]; rfl)) rfl (ConnectionState.not_connected hs) rfl
  | connect t hp => exact h.connect (hf (.inr ⟨rfl, hp⟩)) hreg
  | replay _ _ _ hp | take _ _ _ hp | beat _ hp =>
    exact h.goOn rfl rfl rfl (by rw [hp]; rfl) rfl fun g => requests_neutral rfl rfl rfl
  | write t link o rest hp =>
    refine h.goOn rfl rfl rfl (by rw [hp]; rfl) ?_ fun g => ?_
    · exact Post.isAnnounced_of_isLive (Post.isLive_next rest)
    · have ha := requests_answer (g := g) (j := ⟨t, .written k.generation link o⟩ :: k.journal)
        o.origin t (.ok k.generation)
      have hs : requests g (⟨t, .written k.generation link o⟩ :: k.journal) = requests g k.journal ∧
          acknowledged g (⟨t, .written k.generation link o⟩ :: k.journal) = acknowledged g k.journal :=
        requests_neutral rfl rfl rfl
      exact ⟨ha.1.trans hs.1, ha.2.trans hs.2⟩
  | fail t o rest fault p hp loss yields =>
    refine h.goOn rfl rfl rfl (by rw [hp]; rfl) ?_ fun g => requests_answer ..
    rcases yields with rfl | rfl <;> rfl
  | drop => exact h.frame rfl rfl rfl id id fun g => requests_answer ..
  | listen hp => exact h.goOn rfl rfl rfl (by rw [hp]; rfl) rfl fun g => ⟨rfl, rfl⟩
  | acknowledge t r success reason p hp hr => exact h.acknowledge hr
  | yield p hp yields =>
    refine h.frame rfl rfl rfl (fun _ => ?_) (fun hl => ?_) fun g => ⟨rfl, rfl⟩
    · rcases yields with rfl | rfl <;> rfl
    · rcases yields with rfl | rfl <;> cases hl
  | settle hp hs => exact h.conclude hp rfl rfl (ConnectionState.not_connected hs) rfl
  | disconnect hp => exact h.conclude hp rfl rfl rfl rfl
  | pause hp hs settled => exact h.of_empty settled rfl hs rfl
  | finish => exact h.of_empty rfl rfl rfl rfl
  | release hp =>
    refine h.frame rfl rfl rfl (fun ha => ?_) (fun hl => (nomatch hl)) fun g => ⟨rfl, rfl⟩
    rw [hp] at ha
    cases ha

theorem Core.initial_accounted : Core.initial.Accounted where
  positive _ hc := nomatch hc
  session _ hg := nomatch hg
  off _ := rfl
  live hl := nomatch hl
  connected _ hg := nomatch hg
  idle _ _ := rfl
  balance _ hg := nomatch hg
  bounded _ _ := Nat.le_refl 0

theorem Core.Reached.accounted {k : Core} (h : k.Reached) : k.Accounted :=
  h.invariant Core.initial_accounted fun hr m ih => m.accounted hr.silentOn hr.registry ih

/-- An acknowledgment is kept from the reader when all requests for it were acknowledged before, and
else it is handed on. -/
def Entry.JudgedFairly (earlier : List Entry) (e : Entry) : Prop :=
  ∀ g topic action success reason,
    (e.what = .withheld g (.ack topic action success reason) →
      (acknowledged g earlier).count ⟨topic, action⟩ = (requests g earlier).count ⟨topic, action⟩) ∧
    (e.what = .delivered g (.ack topic action success reason) →
      (acknowledged g earlier).count ⟨topic, action⟩ < (requests g earlier).count ⟨topic, action⟩)

namespace Core

variable {k : Core} {r : Request}

/-- What is not awaited on a live session was acknowledged as often as it was asked for. -/
theorem Accounted.settled (h : k.Accounted) (hl : k.post.isLive = true)
    (hr : k.pending.resolve? k.generation r = none) :
    (acknowledged k.generation k.journal).count r = (requests k.generation k.journal).count r := by
  have hg := h.live hl
  unfold PendingAcks.resolve? at hr
  rw [if_pos hg] at hr
  have hn := PendingAcks.tally_of_countDown_none (Option.map_eq_none_iff.mp hr)
  have hb := h.balance k.generation hg r
  rw [PendingAcks.count_entries, hn] at hb
  omega

theorem Accounted.unsettled {p : PendingAcks} (h : k.Accounted)
    (hr : k.pending.resolve? k.generation r = some p) :
    (acknowledged k.generation k.journal).count r < (requests k.generation k.journal).count r := by
  obtain ⟨hg, -, hdown⟩ := PendingAcks.resolve?_eq_some hr
  have ht := PendingAcks.tally_countDown hdown h.positive r
  have hb := h.balance k.generation hg r
  rw [PendingAcks.count_entries, ht, if_pos rfl] at hb
  omega

end Core

theorem Move.judgedFairly {k l : Core} (m : Move k l) (h : k.Accounted)
    (ih : Always Entry.JudgedFairly k.journal) : Always Entry.JudgedFairly l.journal := by
  have silent {e : Entry} (hs : e.what.session? = none) (hw : e.what.isWithheld = false)
      (j : List Entry) : e.JudgedFairly j := by
    intro g topic action success reason
    refine ⟨fun he => ?_, fun he => ?_⟩
    · rw [he] at hw
      cases hw
    · rw [he] at hs
      cases hs
  have answer {j : List Entry} (o : Origin) (t : Instant) (x : Except ClientFault Generation)
      (hj : Always Entry.JudgedFairly j) : Always Entry.JudgedFairly (o.answer t x ++ j) := by
    refine hj.append fun e he j => ?_
    obtain ⟨call, -, rfl⟩ := List.mem_map.mp he
    exact silent rfl rfl j
  cases m with
  | note e hs hw => exact ⟨silent (Occurrence.session?_of_isSilent hs) hw _, ih⟩
  | withhold t r success reason hp hr =>
    refine ⟨fun g topic action s u => ⟨fun he => ?_, fun he => (nomatch he)⟩, ih⟩
    cases he
    exact h.settled (by rw [hp]; rfl) hr
  | acknowledge t r success reason p hp hr =>
    refine ⟨fun g topic action s u => ⟨fun he => (nomatch he), fun he => ?_⟩, ih⟩
    cases he
    exact h.unsettled hr
  | refuse t d =>
    exact ⟨silent rfl rfl _, fun g topic action s u => ⟨fun he => (nomatch he), fun he => (nomatch he)⟩, ih⟩
  | write t link o =>
    exact answer o.origin t (.ok k.generation)
      ⟨fun g topic action s u => ⟨fun he => (nomatch he), fun he => (nomatch he)⟩, ih⟩
  | fail | drop => exact answer _ _ _ ih
  | defer | ask | direct | connect | replay | take | beat =>
    exact ⟨fun g topic action s u => ⟨fun he => (nomatch he), fun he => (nomatch he)⟩, ih⟩
  | _ => exact ih

theorem Core.Reached.judgedFairly {k : Core} (h : k.Reached) :
    Always Entry.JudgedFairly k.journal :=
  h.invariant trivial fun hr m ih => m.judgedFairly hr.accounted ih

namespace Client

/-- The frame that the worker looks at next: it listens, and there is nothing that comes before. -/
def nextFrame? (c : Client) : Option Frame :=
  match c.worker.stage with
  | .session l (.listening _) =>
    if c.reachesFrames then
      match l.inbound with
      | .ok f :: _ => some f
      | _ => none
    else none
  | _ => none

lemma work_nextFrame {c : Client} {f : Frame} (h : c.nextFrame? = some f) (chance : Nat) :
    c.core.post = .listening ∧ ∃ l w, c.work chance = some (c.receive l w (some (.ok f))) := by
  unfold nextFrame? at h
  split at h
  · rename_i l w hw
    split at h
    · rename_i hr
      split at h
      · rename_i g rest hi
        cases h
        refine ⟨core_post hw, { l with inbound := rest }, w, ?_⟩
        rw [work_of_listening hw]
        exact poll_frame hw hr hi
      · cases h
    · cases h
  · cases h

section hearing

variable {c d : Client} {f : Frame} {topic : Topic} {action : Action} {success : Bool}
  {reason : Option String}

theorem core_deliver_ack (c : Client) (topic : Topic) (action : Action) (success : Bool)
    (reason : Option String) : (c.deliver (.ack topic action success reason)).core =
      match c.core.pending.resolve? c.core.generation ⟨topic, action⟩ with
      | some p => { c.core with pending := p }.log
        [⟨c.now, .delivered c.core.generation (.ack topic action success reason)⟩]
      | none => c.core.log
        [⟨c.now, .withheld c.core.generation (.ack topic action success reason)⟩] := by
  change (match c.core.pending.resolve? c.core.generation ⟨topic, action⟩ with
    | some p => _
    | none => _ : Client).core = _
  cases c.core.pending.resolve? c.core.generation ⟨topic, action⟩ <;> rfl

lemma resetDelays_now (c : Client) (w : Watch) : (c.resetDelays w).now = c.now := by
  unfold resetDelays
  split <;> rfl

theorem core_judge_ack (l : Link) (w : Watch) (hp : c.core.post = .listening)
    (hd : f.decode = .ok (.ack topic action success reason)) :
    (c.judge l w f).core = (c.deliver (.ack topic action success reason)).core := by
  unfold judge
  rw [hd]
  exact core_goTo_same ((congrArg (·.stage.post) (c.deliver_worker _)).trans hp)

/-- The core after an acknowledgment was looked at. -/
theorem core_receive_ack (l : Link) (w : Watch) (hp : c.core.post = .listening)
    (hd : f.decode = .ok (.ack topic action success reason)) (ht : c.now.add? c.config.idle ≠ none) :
    (c.receive l w (some (.ok f))).core =
      ((c.note (.received c.generation (.ok f))).deliver (.ack topic action success reason)).core := by
  unfold receive
  cases hi : c.now.add? c.config.idle with
  | none => exact absurd hi ht
  | some idle =>
    change (((c.note (.received c.generation (.ok f))).resetDelays _).judge l _ f).core = _
    rw [core_judge_ack l _ (by rw [core_resetDelays]; exact hp) hd, core_deliver_ack, core_deliver_ack,
      core_resetDelays, resetDelays_now]

end hearing

/-- The books of acknowledgments. -/
structure AcksBalanced (c : Client) : Prop where
  /-- On the live session, what is pending and what went to the reader are the requests. -/
  balance : ∀ g, c.state = .connected g → ∀ r : Request,
    c.pendingAcks.count r + (acknowledged g c.journal).count r = (requests g c.journal).count r
  bounded : ∀ g, ∀ r : Request, (acknowledged g c.journal).count r ≤ (requests g c.journal).count r
  idle : ∀ g, c.state = .connecting g ∨ c.state = .disconnected g ∨ c.state = .closed →
    c.shared.pending = .empty
  /-- What was withheld had been acknowledged as often as it was asked for, and what was handed on had
  not. -/
  fair : ∀ later e earlier, c.journal = later ++ e :: earlier → e.JudgedFairly earlier
  /-- When the worker looks at an acknowledgment, one of the two happens, unless the clock cannot hold
  the end of its patience. -/
  heard : ∀ f topic action success reason chance d, c.nextFrame? = some f →
    f.decode = .ok (.ack topic action success reason) → c.step (.work chance) = some d →
      (c.now.add? c.config.idle = none ∧ d.shared.pending = c.shared.pending ∧
        d.journal = ⟨c.now, .brokeDown⟩ :: ⟨c.now, .received c.generation (.ok f)⟩ :: c.journal) ∨
      ((acknowledged c.generation c.journal).count ⟨topic, action⟩ =
          (requests c.generation c.journal).count ⟨topic, action⟩ ∧
        d.shared.pending = c.shared.pending ∧
        d.journal = ⟨c.now, .withheld c.generation (.ack topic action success reason)⟩ ::
          ⟨c.now, .received c.generation (.ok f)⟩ :: c.journal) ∨
      ((acknowledged c.generation c.journal).count ⟨topic, action⟩ <
          (requests c.generation c.journal).count ⟨topic, action⟩ ∧
        (∀ r, c.pendingAcks.count r = d.pendingAcks.count r + if ⟨topic, action⟩ = r then 1 else 0) ∧
        d.journal = ⟨c.now, .delivered c.generation (.ack topic action success reason)⟩ ::
          ⟨c.now, .received c.generation (.ok f)⟩ :: c.journal)

theorem acks_balanced {config : Config} {tokens : Nat → Option String} {c : Client}
    (h : Reachable config tokens c) : c.AcksBalanced where
  balance g hs r := h.reached.accounted.balance g (h.reached.accounted.connected g hs) r
  bounded g r := h.reached.accounted.bounded g r
  idle g hs := by
    refine h.reached.accounted.idle ?_ ?_
    · change c.state.isConnected = false
      rcases hs with hs | hs | hs <;> rw [hs] <;> rfl
    · change c.state ≠ .closing
      rcases hs with hs | hs | hs <;> rw [hs] <;> exact fun hn => nomatch hn
  fair later e earlier hj := by
    have ha : Always Entry.JudgedFairly c.journal := h.reached.judgedFairly
    rw [hj] at ha
    exact ha.fits
  heard f topic action success reason chance d hf hd hstep := by
    obtain ⟨hp, l, w, hw⟩ := work_nextFrame hf chance
    have hb := h.reached.accounted
    obtain rfl : c.receive l w (some (.ok f)) = d := Option.some.inj (hw.symm.trans hstep)
    cases ht : c.now.add? c.config.idle with
    | none =>
      refine .inl ⟨rfl, ?_, ?_⟩ <;> unfold receive <;> rw [ht] <;> rfl
    | some idle =>
      have hc := core_receive_ack l w hp hd (by rw [ht]; exact fun hn => nomatch hn)
      rw [core_deliver_ack] at hc
      refine .inr ?_
      cases hr : c.core.pending.resolve? c.core.generation ⟨topic, action⟩ with
      | none =>
        have hb' : (c.note (.received c.generation (.ok f))).core.pending.resolve?
            (c.note (.received c.generation (.ok f))).core.generation ⟨topic, action⟩ = none := hr
        rw [hb'] at hc
        exact .inl ⟨hb.settled (by rw [hp]; rfl) hr, congrArg Core.pending hc, congrArg Core.journal hc⟩
      | some p =>
        have hb' : (c.note (.received c.generation (.ok f))).core.pending.resolve?
            (c.note (.received c.generation (.ok f))).core.generation ⟨topic, action⟩ = some p := hr
        rw [hb'] at hc
        refine .inr ⟨hb.unsettled hr, fun r => ?_, congrArg Core.journal hc⟩
        have hn : (c.receive l w (some (.ok f))).shared.pending = p := congrArg Core.pending hc
        obtain ⟨-, -, hdown⟩ := PendingAcks.resolve?_eq_some hr
        unfold pendingAcks
        rw [hn]
        exact PendingAcks.tally_countDown hdown hb.positive r

/-- The acknowledgment of a request for balances. -/
def balancesAck : Frame := .text
  "\x7b\"type\":\"SubscriptionAck\",\"topic\":\x7b\"type\":\"Balances\"\x7d,\"action\":\"Subscribe\",\"success\":true\x7d"

/-- A topic is asked for at the start of a session and again during it, and is acknowledged three times. -/
def repeatedRun : List Event :=
  [.request ⟨.balances, .subscribe⟩, .work 0, .work 0, .dialAnswer (.link none), .work 0,
    .request ⟨.balances, .subscribe⟩, .work 0, .work 0, .work 0, .work 0, .work 0,
    .arrive (.ok balancesAck), .arrive (.ok balancesAck), .arrive (.ok balancesAck),
    .work 0, .work 0, .work 0]

theorem repeated_acks_balanced : ∃ c, (initial .loopback fun _ => none).run repeatedRun = some c ∧
    c.state = .connected 1 ∧ c.pendingAcks = [] ∧ acknowledged 1 c.journal =
      [⟨.balances, .subscribe⟩, ⟨.balances, .subscribe⟩] ∧ c.AcksBalanced := by
  have hr : ((initial .loopback fun _ => none).run repeatedRun).map
      (fun c => (c.state, c.pendingAcks, acknowledged 1 c.journal)) =
        some (.connected 1, [], [⟨.balances, .subscribe⟩, ⟨.balances, .subscribe⟩]) := by
    decide +kernel
  obtain ⟨c, hc, hv⟩ := Option.map_eq_some_iff.mp hr
  simp only [Prod.mk.injEq] at hv
  exact ⟨c, hc, hv.1, hv.2.1, hv.2.2, acks_balanced (.ofRun hc)⟩

end Client

end MarketFeed
