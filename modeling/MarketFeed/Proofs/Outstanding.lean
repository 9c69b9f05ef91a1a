import Mathlib.Data.Multiset.AddSub
import Mathlib.Data.Multiset.Count
import MarketFeed.Proofs.AckAccounting

/-!
What is pending, as a multiset. Whatever is recorded and answered, the counts of pending requests stand
for a session and a multiset of requests, and everything they tell is what that multiset tells.
-/

namespace MarketFeed

/-- The session that answers are awaited on, and the requests that await one, each as often as it was made
and not answered. -/
structure Outstanding where
  generation : Option Generation
  requests : Multiset Request

/-- What happens to pending requests. -/
inductive PendingChange where
  | start (g : Generation)
  | stop
  | record (r : Request)
  | resolve (g : Generation) (r : Request)
deriving DecidableEq, Repr

namespace Outstanding

def empty : Outstanding := ⟨none, 0⟩

/-- An answer takes one request away if it comes in on the session and the request is there; otherwise it
changes nothing. -/
def change (o : Outstanding) : PendingChange → Outstanding
  | .start g => ⟨some g, 0⟩
  | .stop => empty
  | .record r => { o with requests := r ::ₘ o.requests }
  | .resolve g r =>
    if o.generation = some g ∧ r ∈ o.requests then { o with requests := o.requests.erase r } else o

def changes (o : Outstanding) (xs : List PendingChange) : Outstanding := xs.foldl change o

end Outstanding

namespace PendingAcks

variable {p q : PendingAcks} {g : Generation} {r s : Request} {cs ds : List (Request × Nat)}

/-- An answer that is not awaited leaves what is pending as it is. -/
def change (p : PendingAcks) : PendingChange → PendingAcks
  | .start g => p.start g
  | .stop => p.stop
  | .record r => p.record r
  | .resolve g r => (p.resolve? g r).getD p

def changes (p : PendingAcks) (xs : List PendingChange) : PendingAcks := xs.foldl change p

/-- The requests that are counted. -/
def keys (cs : List (Request × Nat)) : List Request := cs.map (·.1)

lemma keys_countUp (r : Request) (cs : List (Request × Nat)) :
    keys (countUp r cs) = if r ∈ keys cs then keys cs else keys cs ++ [r] := by
  induction cs with
  | nil => rfl
  | cons c cs ih =>
    obtain ⟨s, n⟩ := c
    rw [countUp]
    split
    · rename_i hs
      simp [keys, hs]
    · rename_i hs
      have hr : r ∈ keys ((s, n) :: cs) ↔ r ∈ keys cs := by simp [keys, Ne.symm hs]
      change s :: keys (countUp r cs) = _
      rw [ih, if_congr hr rfl rfl]
      split <;> rfl

lemma nodup_countUp (h : (keys cs).Nodup) (r : Request) : (keys (countUp r cs)).Nodup := by
  rw [keys_countUp]
  split
  · exact h
  · rename_i hr
    refine List.nodup_append.mpr ⟨h, List.nodup_singleton r, fun s hs t ht he => hr ?_⟩
    rwa [← List.mem_singleton.mp ht, ← he]

lemma keys_countDown (h : countDown r cs = some ds) : (keys ds).Sublist (keys cs) := by
  induction cs generalizing ds with
  | nil => cases h
  | cons c cs ih =>
    obtain ⟨s, n⟩ := c
    rw [countDown] at h
    split at h
    · cases h
      split
      · exact List.Sublist.refl _
      · exact List.sublist_cons_self s _
    · obtain ⟨es, he, rfl⟩ := Option.map_eq_some_iff.mp h
      exact (ih he).cons_cons s

/-- Without counts of zero, a request is counted if it awaits an answer. -/
theorem mem_keys_iff (h : Positive cs) : r ∈ keys cs ↔ 0 < tally cs r := by
  induction cs with
  | nil => simp [keys, tally]
  | cons c cs ih =>
    obtain ⟨s, n⟩ := c
    obtain ⟨hn, hcs⟩ := List.forall_mem_cons.mp h
    have hn : 0 < n := hn
    rw [tally_cons]
    by_cases hs : s = r
    · rw [if_pos hs]
      exact iff_of_true (List.mem_cons.mpr (.inl hs.symm)) (Nat.add_pos_left hn _)
    · rw [if_neg hs, Nat.zero_add, ← ih hcs]
      exact List.mem_cons.trans (or_iff_right (Ne.symm hs))

lemma mem_entries_iff : r ∈ p.entries ↔ 0 < tally p.counts r :=
  List.count_pos_iff.symm

lemma countDown_ne_none_iff (h : Positive cs) : countDown r cs ≠ none ↔ 0 < tally cs r := by
  refine ⟨fun hn => ?_, fun hp hn => ?_⟩
  · obtain ⟨ds, hd⟩ := Option.ne_none_iff_exists'.mp hn
    rw [tally_countDown hd h r, if_pos rfl]
    exact Nat.succ_pos _
  · rw [tally_of_countDown_none hn] at hp
    exact absurd hp (Nat.lt_irrefl 0)

lemma size_eq_length (p : PendingAcks) : p.size = p.entries.length := by
  have h (cs : List (Request × Nat)) (n : Nat) : cs.foldl (fun n c => n + c.2) n =
      n + (cs.flatMap fun c => List.replicate c.2 c.1).length := by
    induction cs generalizing n with
    | nil => rfl
    | cons c cs ih =>
      rw [List.foldl_cons, ih, List.flatMap_cons, List.length_append, List.length_replicate, Nat.add_assoc]
  exact (h p.counts 0).trans (Nat.zero_add _)

/-- No count is zero, and no request is counted in two places. -/
structure IsCounted (p : PendingAcks) : Prop where
  positive : Positive p.counts
  distinct : (keys p.counts).Nodup

lemma isCounted_of_nil (h : p.counts = []) : p.IsCounted := by
  refine ⟨?_, ?_⟩ <;> rw [h]
  · exact fun c hc => nomatch hc
  · exact List.nodup_nil

namespace IsCounted

theorem record (h : p.IsCounted) (r : Request) : (p.record r).IsCounted :=
  ⟨positive_countUp h.positive r, nodup_countUp h.distinct r⟩

lemma resolve (h : p.IsCounted) (hq : p.resolve? g r = some q) : q.IsCounted := by
  obtain ⟨-, -, hd⟩ := resolve?_eq_some hq
  exact ⟨positive_countDown hd h.positive, h.distinct.sublist (keys_countDown hd)⟩

lemma isPending_iff (h : p.IsCounted) : p.isPending r = true ↔ r ∈ p.entries := by
  rw [mem_entries_iff, ← mem_keys_iff h.positive, isPending, keys, List.any_eq_true, List.mem_map]
  simp

lemma isEmpty_iff (h : p.IsCounted) : p.isEmpty = true ↔ p.size = 0 := by
  rw [size_eq_length, List.length_eq_zero_iff, isEmpty, List.isEmpty_iff]
  refine ⟨fun hc => by rw [entries, hc, List.flatMap_nil], fun he => ?_⟩
  refine List.eq_nil_iff_forall_not_mem.mpr fun c hc => ?_
  have hm : c.1 ∈ p.entries :=
    mem_entries_iff.mpr ((mem_keys_iff h.positive).mp (List.mem_map_of_mem hc))
  rw [he] at hm
  cases hm

lemma resolve?_ne_none_iff (h : p.IsCounted) :
    p.resolve? g r ≠ none ↔ p.generation = some g ∧ r ∈ p.entries := by
  rw [mem_entries_iff, ← countDown_ne_none_iff h.positive, resolve?]
  split
  · rename_i hg
    simp [hg]
  · rename_i hg
    simp [hg]

end IsCounted

/-- One more of a request. -/
theorem entries_record (p : PendingAcks) (r : Request) :
    ((p.record r).entries : Multiset Request) = r ::ₘ (p.entries : Multiset Request) := by
  refine Multiset.ext.mpr fun s => ?_
  rw [Multiset.coe_count, Multiset.count_cons, Multiset.coe_count, count_entries, count_entries, record,
    tally_countUp]
  simp only [eq_comm]

/-- One less of a request. -/
theorem entries_resolve (h : p.IsCounted) (hq : p.resolve? g r = some q) :
    (q.entries : Multiset Request) = (p.entries : Multiset Request).erase r := by
  obtain ⟨-, -, hd⟩ := resolve?_eq_some hq
  refine Multiset.ext.mpr fun s => ?_
  have ht := tally_countDown hd h.positive s
  rw [← count_entries, ← count_entries] at ht
  by_cases hs : s = r
  · subst hs
    rw [Multiset.count_erase_self, Multiset.coe_count, Multiset.coe_count, ht, if_pos rfl,
      Nat.add_sub_cancel]
  · rw [Multiset.count_erase_of_ne hs, Multiset.coe_count, Multiset.coe_count, ht, if_neg (Ne.symm hs),
      Nat.add_zero]

/-- Counts stand for a session and a multiset: whatever is asked about them has the answer of these. -/
structure StandsFor (p : PendingAcks) (o : Outstanding) : Prop where
  generation : p.generation = o.generation
  entries : (p.entries : Multiset Request) = o.requests
  size : p.size = o.requests.card
  isPending : ∀ r, p.isPending r = true ↔ r ∈ o.requests
  isEmpty : p.isEmpty = true ↔ p.size = 0
  /-- An answer is accepted when it comes in on the session and its request is there. -/
  accepts : ∀ g r, (p.resolve? g r).isSome = true ↔ o.generation = some g ∧ r ∈ o.requests
  counted : p.IsCounted

namespace IsCounted

variable {o : Outstanding}

lemma standsFor (h : p.IsCounted) (hg : p.generation = o.generation)
    (he : (p.entries : Multiset Request) = o.requests) : p.StandsFor o where
  generation := hg
  entries := he
  size := by rw [size_eq_length, ← he, Multiset.coe_card]
  isPending r := by rw [h.isPending_iff, ← he, Multiset.mem_coe]
  isEmpty := h.isEmpty_iff
  accepts g r := by
    rw [← hg, ← he, Multiset.mem_coe, ← h.resolve?_ne_none_iff, Option.isSome_iff_ne_none]
  counted := h

end IsCounted

theorem StandsFor.change {o : Outstanding} (h : p.StandsFor o) (x : PendingChange) :
    (p.change x).StandsFor (o.change x) := by
  cases x with
  | start g => exact (isCounted_of_nil rfl).standsFor rfl rfl
  | stop => exact (isCounted_of_nil rfl).standsFor rfl rfl
  | record r =>
    refine (h.counted.record r).standsFor h.generation ?_
    rw [entries_record, h.entries]
    rfl
  | resolve g r =>
    have ha := h.accepts g r
    rw [PendingAcks.change, Outstanding.change]
    cases hq : p.resolve? g r with
    | none =>
      rw [hq] at ha
      rw [if_neg (fun hn => nomatch ha.mpr hn)]
      exact h
    | some q =>
      rw [hq] at ha
      obtain ⟨hp, hg, -⟩ := resolve?_eq_some hq
      rw [if_pos (ha.mp rfl)]
      refine (h.counted.resolve hq).standsFor ((hg.trans hp.symm).trans h.generation) ?_
      exact (entries_resolve h.counted hq).trans (congrArg (·.erase r) h.entries)

end PendingAcks

/-- Whatever happens to pending requests, they stand for the session and the multiset that the same makes of
nothing. -/
theorem pending_refines_multiset (xs : List PendingChange) :
    (PendingAcks.empty.changes xs).StandsFor (Outstanding.empty.changes xs) := by
  have h (p : PendingAcks) (o : Outstanding) (hp : p.StandsFor o) :
      (p.changes xs).StandsFor (o.changes xs) := by
    induction xs generalizing p o with
    | nil => exact hp
    | cons x xs ih => exact ih _ _ (hp.change x)
  exact h _ _ ((PendingAcks.isCounted_of_nil rfl).standsFor rfl rfl)

end MarketFeed
