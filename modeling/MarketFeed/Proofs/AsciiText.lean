import Mathlib.Tactic.Lemma
import MarketFeed.Url.Mapping

/-!
Texts of ASCII characters: the tables of the mapping and of canonical composition begin beyond them, so
that capitals apart they are mapped to themselves, and they are composed already.
-/

namespace MarketFeed.Text

/-- The search for a number among sorted bounds ends where they pass it. -/
theorem countAtMost_eq {bounds : Array Nat} {n k fuel low width : Nat} (hfuel : width ≤ fuel)
    (hlow : low ≤ k) (hhigh : k ≤ low + width) (hbefore : ∀ i < k, bounds.getD i 0 ≤ n)
    (hafter : ∀ i, k ≤ i → i < low + width → n < bounds.getD i 0) :
    countAtMost bounds n fuel low width = k := by
  induction fuel generalizing low width with
  | zero =>
    rw [countAtMost]
    omega
  | succ fuel ih =>
    rw [countAtMost]
    dsimp only
    split
    · omega
    · split
      next hw hle =>
        have hk : low + width / 2 < k := Nat.lt_of_not_le fun hge =>
          absurd hle (Nat.not_le.mpr (hafter _ hge (by omega)))
        exact ih (by omega) hk (by omega) fun i hi hlt => hafter i hi (by omega)
      next hw hgt =>
        have hk : k ≤ low + width / 2 := Nat.le_of_not_lt fun hlt => hgt (hbefore _ hlt)
        exact ih (by omega) hlow hk fun i hi hlt => hafter i hi (by omega)

lemma lt_getD {bounds : List Nat} {n : Nat} (h : ∀ m ∈ bounds, n < m) {i : Nat}
    (hi : i < bounds.length) : n < bounds.toArray.getD i 0 := by
  rw [Array.getD_eq_getD_getElem?, List.getElem?_toArray, List.getElem?_eq_getElem hi, Option.getD_some]
  exact h _ (List.getElem_mem hi)

/-- A number below all bounds is in no run. -/
theorem insideRun_of_lt {bounds : List Nat} {n : Nat} (h : ∀ m ∈ bounds, n < m) :
    insideRun bounds.toArray n = false := by
  have hcount : countAtMost bounds.toArray n bounds.toArray.size 0 bounds.toArray.size = 0 :=
    countAtMost_eq (Nat.le_refl _) (Nat.le_refl 0) (Nat.zero_le _) (fun i hi => absurd hi (Nat.not_lt_zero i))
      fun i _ hi => lt_getD h (by simpa using hi)
  rw [insideRun, hcount]
  rfl

/-- A function has its first value up to its second start. -/
theorem Plateaus.value_first {v n : Nat} {ps : List (Nat × Nat)} (h : ∀ p ∈ ps, n < p.1) :
    (Plateaus.mk (((0, v) :: ps).map (·.1)).toArray (((0, v) :: ps).map (·.2)).toArray).value n = v := by
  have hcount : countAtMost (((0, v) :: ps).map (·.1)).toArray n
      (((0, v) :: ps).map (·.1)).toArray.size 0 (((0, v) :: ps).map (·.1)).toArray.size = 1 := by
    refine countAtMost_eq (Nat.le_refl _) (Nat.zero_le 1) (by simp) (fun i hi => ?_) fun i hi hlt => ?_
    · obtain rfl : i = 0 := by omega
      exact Nat.zero_le n
    · obtain ⟨j, rfl⟩ : ∃ j, i = j + 1 := ⟨i - 1, by omega⟩
      have hj : j < (ps.map (·.1)).length := by simpa using hlt
      have hps : ∀ m ∈ ps.map (·.1), n < m := fun m hm => by
        obtain ⟨p, hp, rfl⟩ := List.mem_map.mp hm
        exact h p hp
      have hlt := lt_getD hps hj
      rw [Array.getD_eq_getD_getElem?, List.getElem?_toArray] at hlt ⊢
      rwa [List.map_cons, List.getElem?_cons_succ]
  rw [value, hcount]
  rfl

/-- Where the first plateau of the classes ends. -/
theorem classData_pairs : ∃ ps, Table.pairs classData = (0, 0) :: ps ∧ ∀ p ∈ ps, 128 ≤ p.1 := by
  refine ⟨(Table.pairs classData).tail, rfl, ?_⟩
  decide +kernel

lemma markClass_ascii {c : Char} (h : c.toNat < 128) : markClass c = 0 := by
  obtain ⟨ps, hps, hall⟩ := classData_pairs
  rw [markClass, classTable, Plateaus.ofList, hps]
  exact Plateaus.value_first fun p hp => Nat.lt_of_lt_of_le h (hall p hp)

/-- No ASCII character is put together from others, stands for others, or is the second of two that are
put together. -/
theorem pairTable_beyond : ∀ p ∈ pairTable, 128 ≤ p.1.toNat ∧ 128 ≤ p.2.2.toNat := by
  have h : pairTable.all (fun p => 128 ≤ p.1.toNat ∧ 128 ≤ p.2.2.toNat) = true := by decide +kernel
  exact fun p hp => of_decide_eq_true (List.all_eq_true.mp h p hp)

lemma standInTable_beyond : ∀ r ∈ standInTable, 128 ≤ r.1.toNat := by
  have h : standInTable.all (fun r => 128 ≤ r.1.toNat) = true := by decide +kernel
  exact fun r hr => of_decide_eq_true (List.all_eq_true.mp h r hr)

lemma parts?_ascii {c : Char} (h : c.toNat < 128) : parts? c = none := by
  have hpair : pairTable.find? (·.1 = c) = none := List.find?_eq_none.mpr fun p hp => by
    have hbeyond := (pairTable_beyond p hp).1
    rw [decide_eq_true_eq]
    rintro rfl
    omega
  have hsyllable : syllableParts? c = none := if_neg (by omega)
  rw [parts?, hsyllable, hpair]
  rfl

lemma elements_ascii {c : Char} (h : c.toNat < 128) : elements c = [c] := by
  have hnone : standInTable.find? (·.1 = c) = none := List.find?_eq_none.mpr fun r hr => by
    have hbeyond := standInTable_beyond r hr
    rw [decide_eq_true_eq]
    rintro rfl
    omega
  rw [elements, hnone]
  simp only [takeApart, parts?_ascii h]

lemma whole?_ascii (a : Char) {b : Char} (h : b.toNat < 128) : whole? a b = none := by
  have hpair : pairTable.find? (·.2 = (a, b)) = none := List.find?_eq_none.mpr fun p hp => by
    have hbeyond := (pairTable_beyond p hp).2
    rw [decide_eq_true_eq]
    rintro heq
    rw [heq] at hbeyond
    exact absurd h (Nat.not_lt.mpr hbeyond)
  have hsyllable : syllable? a b = none := by
    rw [syllable?, if_neg (by omega), if_neg (by omega)]
  rw [whole?, hsyllable, hpair]
  rfl

variable {s : List Char}

lemma ordered_ascii (h : ∀ c ∈ s, c.toNat < 128) : ordered s = s := by
  have hfold (done : List Char) :
      s.foldl (fun done c => settle c done) done = s.reverse ++ done := by
    induction s generalizing done with
    | nil => rfl
    | cons c s ih =>
      obtain ⟨hc, hs⟩ := List.forall_mem_cons.mp h
      have hsettle : settle c done = c :: done := by
        cases done with
        | nil => rfl
        | cons d ds => rw [settle, if_neg fun hne => hne.1 (markClass_ascii hc)]
      rw [List.foldl_cons, hsettle, ih hs, List.reverse_cons, List.append_assoc, List.singleton_append]
  rw [ordered, hfold, List.append_nil, List.reverse_reverse]

lemma putTogether_ascii (base : Option Char) (h : ∀ c ∈ s, c.toNat < 128) :
    putTogether base [] s = base.toList ++ s := by
  induction s generalizing base with
  | nil => rw [putTogether, List.reverse_nil]
  | cons c s ih =>
    obtain ⟨hc, hs⟩ := List.forall_mem_cons.mp h
    have hnone : (base.bind fun b => if isBlocked [] c then none else whole? b c) = none := by
      cases base with
      | none => rfl
      | some b => rw [Option.bind_some, isBlocked, if_neg Bool.false_ne_true, whole?_ascii b hc]
    rw [putTogether, hnone]
    dsimp only
    rw [if_pos (markClass_ascii hc), ih (some c) hs, List.reverse_nil, List.append_nil]
    rfl

/-- A text of ASCII characters is composed already. -/
theorem canonical_ascii (h : ∀ c ∈ s, c.toNat < 128) : canonical s = s := by
  have helements : s.flatMap elements = s := by
    induction s with
    | nil => rfl
    | cons c s ih =>
      obtain ⟨hc, hs⟩ := List.forall_mem_cons.mp h
      rw [List.flatMap_cons, elements_ascii hc, ih hs, List.singleton_append]
  rw [canonical, helements, ordered_ascii h, putTogether_ascii none h]
  rfl

end MarketFeed.Text

namespace MarketFeed.Url

open Text

lemma refusedData_beyond : ∀ n ∈ refusedData, 128 ≤ n := by
  have h : refusedData.all (128 ≤ ·) = true := by decide +kernel
  exact fun n hn => of_decide_eq_true (List.all_eq_true.mp h n hn)

lemma droppedData_beyond : ∀ n ∈ droppedData, 128 ≤ n := by decide

lemma spellingTable_beyond : ∀ r ∈ spellingTable, 128 ≤ r.1 := by
  have h : spellingTable.all (fun r => 128 ≤ r.1) = true := by decide +kernel
  exact fun r hr => of_decide_eq_true (List.all_eq_true.mp h r hr)

/-- The only ASCII characters that are mapped to others are the capitals. -/
theorem runTable_beyond :
    ∀ r ∈ runTable, 128 ≤ r.first ∨ r.first = 65 ∧ r.step = 1 ∧ r.count = 26 := by
  have h : runTable.all (fun r => 128 ≤ r.first ∨ r.first = 65 ∧ r.step = 1 ∧ r.count = 26) = true := by
    decide +kernel
  exact fun r hr => of_decide_eq_true (List.all_eq_true.mp h r hr)

/-- Apart from capitals, ASCII characters are mapped to themselves. -/
theorem mapping?_ascii {c : Char} (h : c.toNat < 128) (hcapital : c.isUpper = false) :
    mapping? c = some [c] := by
  have hrefused : insideRun refusedBounds c.toNat = false :=
    insideRun_of_lt fun n hn => Nat.lt_of_lt_of_le h (refusedData_beyond n hn)
  have hdropped : insideRun droppedBounds c.toNat = false :=
    insideRun_of_lt fun n hn => Nat.lt_of_lt_of_le h (droppedData_beyond n hn)
  have hspelling : spellingTable.find? (·.1 = c.toNat) = none := List.find?_eq_none.mpr fun r hr => by
    have hbeyond := spellingTable_beyond r hr
    simp only [decide_eq_true_eq]
    omega
  have hrun : runTable.find? (·.holds c.toNat) = none := List.find?_eq_none.mpr fun r hr => by
    have hlow : ¬(65 ≤ c.toNat ∧ c.toNat ≤ 90) := fun hin => by
      have hupper : c.isUpper = true := decide_eq_true (p := c.val ≥ 'A'.val ∧ c.val ≤ 'Z'.val) hin
      rw [hcapital] at hupper
      cases hupper
    rcases runTable_beyond r hr with hbeyond | ⟨hfirst, hstep, hcount⟩
    · simp [Run.holds]
      omega
    · simp [Run.holds, hfirst, hstep, hcount]
      omega
  rw [mapping?]
  simp only [hrefused, hdropped, hspelling, hrun, Bool.false_eq_true, if_false]

end MarketFeed.Url
