import MarketFeed.Url.Punycode
import Mathlib.Tactic.Ring

/-!
Labels come back from their form in ASCII. Writing and reading go through the same insertions: both know
how much of the label is there, and a number is the way from one insertion to the next, counted in
positions of the text and, once around it, in characters.
-/

namespace MarketFeed.Url.Punycode

lemma digitValue?_digitChar {d : Nat} (h : d < 36) : digitValue? (digitChar d) = some d := by
  have all : ∀ m : Fin 36, digitValue? (digitChar m) = some m.val := by decide
  exact all ⟨d, h⟩

lemma one_le_threshold (bias place : Nat) : 1 ≤ threshold bias place := Nat.le_max_left ..

lemma threshold_le (bias place : Nat) : threshold bias place ≤ 26 := by
  unfold threshold
  omega

/-- The digits of a number are read as that number. -/
theorem all?_digits (r : Reading) (n : Nat) (rest : List Char) :
    r.all? (digits r.bias r.place n ++ rest) =
      (r.insert? (r.number + n * r.weight)).bind fun next => next.all? rest := by
  induction n using Nat.strong_induction_on generalizing r with
  | h n ih =>
    have hlow := one_le_threshold r.bias r.place
    have hhigh := threshold_le r.bias r.place
    rw [digits]
    split
    next hlt =>
      rw [List.singleton_append, Reading.all?, Reading.digit?, digitValue?_digitChar (by omega)]
      simp only [hlt, if_true]
    next hge =>
      generalize ht : threshold r.bias r.place = t at *
      have hmod : (n - t) % (36 - t) < 36 - t := Nat.mod_lt _ (by omega)
      have hless : (n - t) / (36 - t) < n := Nat.lt_of_le_of_lt (Nat.div_le_self ..) (by omega)
      have hsum : r.number + (t + (n - t) % (36 - t)) * r.weight
          + (n - t) / (36 - t) * (r.weight * (36 - t)) = r.number + n * r.weight := by
        have hdiv : (36 - t) * ((n - t) / (36 - t)) + (n - t) % (36 - t) = n - t :=
          Nat.div_add_mod ..
        have hn : n = t + ((n - t) % (36 - t) + (36 - t) * ((n - t) / (36 - t))) := by omega
        calc _ = r.number + (t + ((n - t) % (36 - t) + (36 - t) * ((n - t) / (36 - t)))) * r.weight := by
              ring
          _ = _ := by rw [← hn]
      rw [List.cons_append, Reading.all?, Reading.digit?, digitValue?_digitChar (by omega)]
      simp only [ht, Nat.not_lt.mpr (Nat.le_add_right t _), if_false, Option.bind_some]
      rw [← hsum]
      exact ih _ hless { r with
        number := r.number + (t + (n - t) % (36 - t)) * r.weight
        weight := r.weight * (36 - t)
        place := r.place + 36 }

/-- A way that leads around a text of a size ends at the character and the position that it leads to. -/
theorem turn {a n size position delta k : Nat} (h : a * size + position + delta = n * size + k)
    (hk : k < size) : a + (position + delta) / size = n ∧ (position + delta) % size = k := by
  have hpos : 0 < size := by omega
  have heq : position + delta + a * size = k + n * size := by omega
  constructor
  · have hdiv := Nat.add_mul_div_right (position + delta) a hpos
    rw [heq, Nat.add_mul_div_right _ _ hpos, Nat.div_eq_of_lt hk] at hdiv
    omega
  · rw [← Nat.add_mul_mod_self_right (position + delta) a, heq, Nat.add_mul_mod_self_right,
      Nat.mod_eq_of_lt hk]

/-- How writing and reading go together: the writer is at a place of the label, on its way through for the
character `n`, and the reader has all characters below `n`, and `n` itself as far as the writer is. -/
structure InStep (basics n : Nat) (before rest : List Char) (p : Progress) (r : Reading) : Prop where
  text : r.text = before.filter (·.toNat ≤ n) ++ rest.filter (·.toNat < n)
  written : p.written = r.text.length
  way : r.next * (p.written + 1) + r.position + p.delta =
    n * (p.written + 1) + (before.filter (·.toNat ≤ n)).length
  bias : r.bias = p.bias
  grown : basics ≤ p.written
  isFirst : r.position = 0 ↔ p.written = basics
  number : r.number = 0
  weight : r.weight = 1
  place : r.place = 36

namespace InStep

variable {basics n : Nat} {before rest : List Char} {p : Progress} {r : Reading} {c : Char}

lemma skip_below (h : InStep basics n before (c :: rest) p r) (hc : c.toNat < n) :
    InStep basics n (before ++ [c]) rest { p with delta := p.delta + 1 } r where
  text := by
    rw [h.text]
    simp [List.filter_append, hc, Nat.le_of_lt hc]
  written := h.written
  way := by
    have hway := h.way
    simp only [List.filter_append, List.length_append, List.filter_cons, List.filter_nil,
      Nat.le_of_lt hc, decide_true, if_true, List.length_singleton]
    omega
  bias := h.bias
  grown := h.grown
  isFirst := h.isFirst
  number := h.number
  weight := h.weight
  place := h.place

lemma skip_above (h : InStep basics n before (c :: rest) p r) (hc : n < c.toNat) :
    InStep basics n (before ++ [c]) rest p r where
  text := by
    rw [h.text]
    simp [List.filter_append, Nat.not_le.mpr hc, Nat.not_lt.mpr (Nat.le_of_lt hc)]
  written := h.written
  way := by
    have hway := h.way
    simp only [List.filter_append, List.length_append, List.filter_cons, List.filter_nil,
      Nat.not_le.mpr hc, decide_false, Bool.false_eq_true, if_false, List.length_nil, Nat.add_zero]
    exact hway
  bias := h.bias
  grown := h.grown
  isFirst := h.isFirst
  number := h.number
  weight := h.weight
  place := h.place

/-- The reader after an insertion. -/
def grownBy (r : Reading) (p : Progress) (c : Char) (k : Nat) : Reading where
  text := r.text.take k ++ c :: r.text.drop k
  next := c.toNat
  position := k + 1
  bias := nextBias p.delta (r.text.length + 1) (r.position = 0)
  number := 0
  weight := 1
  place := 36

theorem insert (h : InStep basics n before (c :: rest) p r) (hc : c.toNat = n) :
    r.insert? p.delta = some (grownBy r p c (before.filter (·.toNat ≤ n)).length) := by
  have hk : (before.filter (·.toNat ≤ n)).length < r.text.length + 1 := by
    rw [h.text, List.length_append]
    omega
  obtain ⟨hnext, hposition⟩ := turn (h.written ▸ h.way) hk
  have hvalid : n.isValidChar := hc ▸ c.valid
  rw [Reading.insert?]
  simp only [hnext, hposition]
  rw [if_pos hvalid, ← hc, Char.ofNat_toNat]
  rfl

theorem write (h : InStep basics n before (c :: rest) p r) (hc : c.toNat = n) :
    InStep basics n (before ++ [c]) rest
      ⟨0, nextBias p.delta (p.written + 1) (p.written = basics), p.written + 1⟩
      (grownBy r p c (before.filter (·.toNat ≤ n)).length) where
  text := by
    rw [grownBy, h.text, List.take_left, List.drop_left]
    simp [List.filter_append, hc]
  written := by
    rw [h.written, grownBy]
    simp
    omega
  way := by
    simp [grownBy, List.filter_append, hc]
  bias := by
    rw [grownBy, h.written]
    simp only [h.isFirst, h.written]
  grown := Nat.le_succ_of_le h.grown
  isFirst := by
    have hgrown := h.grown
    simp [grownBy]
    omega
  number := rfl
  weight := rfl
  place := rfl

/-- One way through the label. -/
theorem writeOne (h : InStep basics n before rest p r) : ∃ r',
    InStep basics n (before ++ rest) [] (writeOne n basics p rest).2 r' ∧
      ∀ more, r.all? ((Punycode.writeOne n basics p rest).1 ++ more) = r'.all? more := by
  induction rest generalizing before p r with
  | nil => exact ⟨r, by rwa [List.append_nil], fun _ => rfl⟩
  | cons c rest ih =>
    have hassoc : before ++ c :: rest = before ++ [c] ++ rest := by simp
    rcases Nat.lt_trichotomy c.toNat n with hc | hc | hc
    · rw [Punycode.writeOne, if_pos hc, hassoc]
      exact ih (h.skip_below hc)
    · rw [Punycode.writeOne, if_neg (Nat.not_lt.mpr (Nat.le_of_eq hc.symm)), if_pos hc, hassoc]
      obtain ⟨r', hr', hall⟩ := ih (h.write hc)
      refine ⟨r', hr', fun more => ?_⟩
      have hdigits := all?_digits r p.delta
      rw [h.place, h.bias, h.number, h.weight, Nat.zero_add, Nat.mul_one, h.insert hc] at hdigits
      rw [List.append_assoc, hdigits, Option.bind_some, hall]
    · rw [Punycode.writeOne, if_neg (Nat.lt_asymm hc), if_neg (Nat.ne_of_gt hc), hassoc]
      exact ih (h.skip_above hc)

/-- Between two ways through the label. -/
theorem next (h : InStep basics n before [] p r) {m : Nat} (hm : n < m)
    (hgap : ∀ c ∈ before, c.toNat < m → c.toNat ≤ n) :
    InStep basics m [] before
      { p with delta := p.delta + 1 + (m - (n + 1)) * (p.written + 1) } r where
  text := by
    rw [h.text, List.filter_nil, List.append_nil, List.filter_nil, List.nil_append]
    refine List.filter_congr fun c hc => ?_
    rw [decide_eq_decide]
    exact ⟨fun hle => Nat.lt_of_le_of_lt hle hm, hgap c hc⟩
  written := h.written
  way := by
    have hway := h.way
    have hall : (before.filter (·.toNat ≤ n)).length = p.written := by
      rw [h.written, h.text, List.filter_nil, List.append_nil]
    obtain ⟨d, rfl⟩ : ∃ d, m = n + 1 + d := ⟨m - (n + 1), by omega⟩
    rw [hall] at hway
    rw [List.filter_nil, List.length_nil, Nat.add_zero, Nat.add_sub_cancel_left, Nat.add_mul,
      Nat.add_mul, Nat.one_mul]
    simp only
    omega
  bias := h.bias
  grown := h.grown
  isFirst := h.isFirst
  number := h.number
  weight := h.weight
  place := h.place

end InStep

/-- The reader follows the writer through all characters that are left. -/
theorem all?_writeAll {basics n next : Nat} {label : List Char} {p : Progress} {r : Reading}
    {ns : List Nat} (hsorted : (n :: ns).Pairwise (· < ·))
    (hall : ∀ c ∈ label, n < c.toNat → c.toNat ∈ ns)
    (h : InStep basics n [] label { p with delta := p.delta + (n - next) * (p.written + 1) } r) :
    r.all? (writeAll label basics next p (n :: ns)) = some label := by
  obtain ⟨r', hr', hread⟩ := h.writeOne
  induction ns generalizing n next p r r' with
  | nil =>
    have hlast : label.filter (·.toNat ≤ n) = label := List.filter_eq_self.mpr fun c hc =>
      decide_eq_true (Nat.not_lt.mp fun hlt => List.not_mem_nil (hall c hc hlt))
    have htext := hr'.text
    rw [List.nil_append, hlast, List.filter_nil, List.append_nil] at htext
    rw [writeAll, writeAll, hread, Reading.all?, if_pos hr'.place, htext]
  | cons m ns ih =>
    obtain ⟨hfirst, hrest⟩ := List.pairwise_cons.mp hsorted
    have hm : n < m := hfirst m List.mem_cons_self
    have hgap : ∀ c ∈ label, c.toNat < m → c.toNat ≤ n := fun c hc hlt => by
      by_contra hgt
      rcases List.mem_cons.mp (hall c hc (Nat.lt_of_not_le hgt)) with heq | hin
      · exact absurd heq (Nat.ne_of_lt hlt)
      · exact Nat.lt_asymm hlt ((List.pairwise_cons.mp hrest).1 _ hin)
    have hafter : ∀ c ∈ label, m < c.toNat → c.toNat ∈ ns := fun c hc hlt => by
      rcases List.mem_cons.mp (hall c hc (Nat.lt_trans hm hlt)) with heq | hin
      · exact absurd heq (Nat.ne_of_gt hlt)
      · exact hin
    have hnext := hr'.next hm hgap
    obtain ⟨r'', hr'', hread'⟩ := hnext.writeOne
    rw [writeAll, hread]
    exact ih hrest hafter hnext r'' hr'' hread'

/-- A sorted list of which every value is kept once ascends strictly. -/
theorem pairwise_eraseDups {ns : List Nat} (h : ns.Pairwise (· ≤ ·)) :
    ns.eraseDups.Pairwise (· < ·) := by
  induction hl : ns.length using Nat.strong_induction_on generalizing ns with
  | h l ih =>
    cases ns with
    | nil => exact List.Pairwise.nil
    | cons n ns =>
      obtain ⟨hle, hrest⟩ := List.pairwise_cons.mp h
      rw [List.eraseDups_cons]
      refine List.pairwise_cons.mpr ⟨fun m hm => ?_, ?_⟩
      · obtain ⟨hin, hne⟩ := List.mem_filter.mp (List.mem_eraseDups.mp hm)
        exact Nat.lt_of_le_of_ne (hle m hin) fun heq => by simp [heq] at hne
      · have hless : (ns.filter fun m => !m == n).length < l := by
          rw [← hl, List.length_cons]
          exact Nat.lt_succ_of_le (List.length_filter_le ..)
        exact ih _ hless (hrest.filter _) rfl

/-- The characters of a label that are written as numbers, in ascending order. -/
theorem exists_others {label : List Char} (h : label.all isBasic = false) :
    ∃ n ns, ((label.filter (!isBasic ·)).map Char.toNat).mergeSort.eraseDups = n :: ns ∧
      (n :: ns).Pairwise (· < ·) ∧ 128 ≤ n ∧
        ∀ c ∈ label, isBasic c = false ↔ c.toNat ∈ n :: ns := by
  generalize hns : ((label.filter (!isBasic ·)).map Char.toNat).mergeSort.eraseDups = others
  have hmem (m : Nat) : m ∈ others ↔ ∃ c ∈ label, isBasic c = false ∧ c.toNat = m := by
    rw [← hns, List.mem_eraseDups, List.mem_mergeSort, List.mem_map]
    simp only [List.mem_filter, Bool.not_eq_true', and_assoc]
  have hsorted : others.Pairwise (· < ·) := by
    rw [← hns]
    refine pairwise_eraseDups ?_
    have hle := @List.pairwise_mergeSort Nat (fun a b => decide (a ≤ b))
      (fun a b c hab hbc => by simp only [decide_eq_true_eq] at *; omega)
      (fun a b => by simp only [Bool.or_eq_true, decide_eq_true_eq]; omega)
      ((label.filter (!isBasic ·)).map Char.toNat)
    exact hle.imp of_decide_eq_true
  cases others with
  | nil =>
    obtain ⟨c, hc, hbasic⟩ := List.all_eq_false.mp h
    exact absurd ((hmem c.toNat).mpr ⟨c, hc, by simpa using hbasic, rfl⟩) List.not_mem_nil
  | cons n ns =>
    obtain ⟨x, -, hbasic, hx⟩ := (hmem n).mp List.mem_cons_self
    have hn : 128 ≤ n := hx ▸ Nat.not_lt.mp (of_decide_eq_false hbasic)
    refine ⟨n, ns, rfl, hsorted, hn, fun c hc => ⟨fun hb => (hmem _).mpr ⟨c, hc, hb, rfl⟩, ?_⟩⟩
    intro hin
    obtain ⟨x, -, hbasic, hx⟩ := (hmem _).mp hin
    rwa [isBasic, ← hx]

/-- The characters that numbers are written with. -/
def digitChars : List Char := "abcdefghijklmnopqrstuvwxyz0123456789".toList

lemma digitChar_mem {d : Nat} (h : d < 36) : digitChar d ∈ digitChars := by
  have all : ∀ m : Fin 36, digitChar m ∈ digitChars := by decide
  exact all ⟨d, h⟩

lemma mem_digits {bias place n : Nat} {c : Char} (h : c ∈ digits bias place n) : c ∈ digitChars := by
  induction n using Nat.strong_induction_on generalizing place with
  | h n ih =>
    have hlow := one_le_threshold bias place
    have hhigh := threshold_le bias place
    rw [digits] at h
    split at h
    next hlt =>
      rw [List.mem_singleton.mp h]
      exact digitChar_mem (by omega)
    next hge =>
      have hmod : (n - threshold bias place) % (36 - threshold bias place) < 36 - threshold bias place :=
        Nat.mod_lt _ (by omega)
      rcases List.mem_cons.mp h with rfl | h
      · exact digitChar_mem (by omega)
      · exact ih _ (Nat.lt_of_le_of_lt (Nat.div_le_self ..) (by omega)) h

lemma mem_writeOne {n basics : Nat} {p : Progress} {s : List Char} {c : Char}
    (h : c ∈ (writeOne n basics p s).1) : c ∈ digitChars := by
  induction s generalizing p with
  | nil => cases h
  | cons x s ih =>
    rw [writeOne] at h
    split at h
    · exact ih h
    · split at h
      · rcases List.mem_append.mp h with h | h
        · exact mem_digits h
        · exact ih h
      · exact ih h

lemma mem_writeAll {label : List Char} {basics next : Nat} {p : Progress} {ns : List Nat} {c : Char}
    (h : c ∈ writeAll label basics next p ns) : c ∈ digitChars := by
  induction ns generalizing next p with
  | nil => cases h
  | cons n ns ih =>
    rcases List.mem_append.mp h with h | h
    · exact mem_writeOne h
    · exact ih h

/-- What is written of a label: its ASCII characters, and numbers behind a hyphen. -/
theorem exists_encode (label : List Char) : ∃ numbers, (∀ c ∈ numbers, c ∈ digitChars) ∧
    encode label = (if label.filter isBasic = [] then [] else label.filter isBasic ++ ['-']) ++ numbers :=
  ⟨_, fun _ => mem_writeAll, rfl⟩

theorem mem_encode {label : List Char} {c : Char} (h : c ∈ encode label) :
    c ∈ label.filter isBasic ∨ c = '-' ∨ c ∈ digitChars := by
  obtain ⟨numbers, hnumbers, heq⟩ := exists_encode label
  rw [heq] at h
  rcases List.mem_append.mp h with h | h
  · split at h
    · cases h
    · rcases List.mem_append.mp h with h | h
      · exact .inl h
      · exact .inr (.inl (List.mem_singleton.mp h))
  · exact .inr (.inr (hnumbers c h))

/-- The numbers are what comes after the last hyphen. -/
theorem decode?_split {basics numbers : List Char} (hb : basics.all isBasic = true)
    (hn : ∀ c ∈ numbers, c ∈ digitChars) :
    decode? ((if basics = [] then [] else basics ++ ['-']) ++ numbers) =
      Reading.all? ⟨basics, 128, 0, 72, 0, 1, 36⟩ numbers := by
  have hp : ∀ c ∈ numbers.reverse, decide (c ≠ '-') = true := fun c hc =>
    decide_eq_true fun he => absurd (he ▸ hn c (List.mem_reverse.mp hc)) (by decide)
  split
  next hnil =>
    have htake : ((numbers.reverse ++ []).takeWhile (· ≠ '-')).reverse = numbers := by
      rw [List.takeWhile_append_of_pos hp, List.takeWhile_nil, List.append_nil, List.reverse_reverse]
    rw [List.append_nil] at htake
    rw [List.nil_append, decode?, htake, hnil]
    simp
  next hne =>
    have hrev : (basics ++ ['-'] ++ numbers).reverse = numbers.reverse ++ '-' :: basics.reverse := by
      simp
    have htake : ((basics ++ ['-'] ++ numbers).reverse.takeWhile (· ≠ '-')).reverse = numbers := by
      rw [hrev, List.takeWhile_append_of_pos hp, List.takeWhile_cons_of_neg (by simp), List.append_nil,
        List.reverse_reverse]
    have hlen : (basics ++ ['-'] ++ numbers).length - numbers.length - 1 = basics.length := by
      simp
      omega
    rw [decode?, htake, hlen, List.append_assoc, List.take_left, if_neg hne, if_pos hb]

/-- A label comes back from its form in ASCII. -/
theorem decode?_encode {label : List Char} (h : label.all isBasic = false) :
    decode? (encode label) = some label := by
  obtain ⟨n, ns, hothers, hsorted, hn, hmem⟩ := exists_others h
  have hbasics : (label.filter isBasic).all isBasic = true :=
    List.all_eq_true.mpr fun c hc => (List.mem_filter.mp hc).2
  have hbelow : label.filter isBasic = label.filter (·.toNat < n) := by
    refine List.filter_congr fun c hc => ?_
    cases hbasic : isBasic c with
    | true => exact (decide_eq_true (Nat.lt_of_lt_of_le (of_decide_eq_true hbasic) hn)).symm
    | false =>
      refine (decide_eq_false (Nat.not_lt.mpr ?_)).symm
      rcases List.mem_cons.mp ((hmem c hc).mp hbasic) with heq | hin
      · exact Nat.le_of_eq heq.symm
      · exact Nat.le_of_lt ((List.pairwise_cons.mp hsorted).1 _ hin)
  have hafter : ∀ c ∈ label, n < c.toNat → c.toNat ∈ ns := fun c hc hlt => by
    have hbasic : isBasic c = false := decide_eq_false (by omega)
    exact (List.mem_cons.mp ((hmem c hc).mp hbasic)).resolve_left (Nat.ne_of_gt hlt)
  rw [encode, decode?_split hbasics fun _ => mem_writeAll, hothers]
  refine all?_writeAll hsorted hafter {
    text := hbelow
    written := rfl
    way := ?_
    bias := rfl
    grown := Nat.le_refl _
    isFirst := ⟨fun _ => rfl, fun _ => rfl⟩
    number := rfl
    weight := rfl
    place := rfl }
  obtain ⟨d, rfl⟩ : ∃ d, n = 128 + d := ⟨n - 128, by omega⟩
  rw [List.filter_nil, List.length_nil, Nat.add_sub_cancel_left, Nat.add_mul]
  simp only
  omega

/-- A label that needs its form in ASCII has a number at the end of it. -/
theorem getLast?_encode {label : List Char} (h : label.all isBasic = false) :
    (encode label).getLast? ≠ some '-' := by
  obtain ⟨numbers, hnumbers, heq⟩ := exists_encode label
  have hbasics : (label.filter isBasic).all isBasic = true :=
    List.all_eq_true.mpr fun c hc => (List.mem_filter.mp hc).2
  have hdecode := decode?_encode h
  rw [heq, decode?_split hbasics hnumbers] at hdecode
  cases hn : numbers.getLast? with
  | none =>
    rw [List.getLast?_eq_none_iff.mp hn] at hdecode
    have hsame : label.filter isBasic = label := Option.some.inj hdecode
    rw [hsame, h] at hbasics
    cases hbasics
  | some c =>
    rw [heq, List.getLast?_append, hn, Option.some_or]
    rintro ⟨⟩
    exact absurd (hnumbers _ (List.mem_of_getLast? hn)) (by decide)

end MarketFeed.Url.Punycode
