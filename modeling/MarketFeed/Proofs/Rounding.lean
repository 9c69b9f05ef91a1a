import Mathlib.Algebra.Order.Field.Power
import Mathlib.Algebra.Order.Field.Rat
import Mathlib.Tactic.GCongr
import Mathlib.Tactic.Linarith
import Mathlib.Tactic.NormNum
import Mathlib.Tactic.Positivity
import Mathlib.Tactic.Ring
import MarketFeed.Config.Basic

/-!
Lower bounds through the arithmetic of doubles. The double nearest to what reaches a power of two reaches
it, too. So a delay that is something has grown to something, however short it is.
-/

namespace MarketFeed

namespace Double

/-- A number that is positive and not below a bound. -/
def Reaches (q : ℚ) : Double → Prop
  | .nan => False
  | .infinite s => s = false
  | .finite s m e => s = false ∧ q ≤ m * 2 ^ e

lemma scaleByTwo_spec {n d : Nat} (hd : 0 < d) (k : Int) :
    0 < (scaleByTwo n d k).2 ∧ ((scaleByTwo n d k).1 : ℚ) / (scaleByTwo n d k).2 = n / d * 2 ^ k := by
  unfold scaleByTwo
  split
  · rename_i hk
    refine ⟨hd, ?_⟩
    obtain ⟨k, rfl⟩ := Int.eq_ofNat_of_zero_le hk
    simp only [Int.toNat_natCast, Nat.shiftLeft_eq, Nat.cast_mul, Nat.cast_pow, Nat.cast_ofNat,
      zpow_natCast]
    ring
  · rename_i hk
    obtain ⟨k, rfl⟩ : ∃ j : Nat, k = -j := ⟨(-k).toNat, by omega⟩
    refine ⟨by simp [Nat.shiftLeft_eq, hd], ?_⟩
    simp only [neg_neg, Int.toNat_natCast, Nat.shiftLeft_eq, Nat.cast_mul, Nat.cast_pow,
      Nat.cast_ofNat, zpow_neg, zpow_natCast]
    rw [div_mul_eq_div_div, div_eq_mul_inv]

lemma le_divideToEven (n d : Nat) : n / d ≤ divideToEven n d := by
  simp only [divideToEven]
  split
  · exact Nat.le_refl _
  · split <;> omega

/-- The nearest integer is not below a whole number that the quotient reaches. -/
theorem le_divideToEven_of_le {n d K : Nat} (hd : 0 < d) (h : (K : ℚ) ≤ n / d) :
    K ≤ divideToEven n d := by
  refine Nat.le_trans ((Nat.le_div_iff_mul_le hd).mpr ?_) (le_divideToEven n d)
  have hq : (0 : ℚ) < d := by exact_mod_cast hd
  rw [le_div_iff₀ hq] at h
  exact_mod_cast h

/-- More than a half is not rounded to nothing. -/
theorem divideToEven_pos {n d : Nat} (hd : 0 < d) (h : d < 2 * n) : 0 < divideToEven n d := by
  rcases Nat.lt_or_ge n d with hlt | hge
  · simp only [divideToEven, Nat.div_eq_of_lt hlt, Nat.mod_eq_of_lt hlt]
    rw [if_neg (by omega), if_pos h]
    exact Nat.one_pos
  · exact Nat.lt_of_lt_of_le (Nat.div_pos hge hd) (le_divideToEven n d)

/-- The exponent is the least one, or the mantissa has digits. -/
theorem exponentOf_spec {n d : Nat} (hn : 0 < n) (hd : 0 < d) : exponentOf n d = leastExponent ∨
    (1 : ℚ) ≤ n / d * 2 ^ (-exponentOf n d) := by
  rcases le_or_gt (exponentOf n d) leastExponent with hle | hgt
  · left
    unfold exponentOf at hle ⊢
    exact le_antisymm hle (le_max_right _ _)
  · right
    have hguess : exponentOf n d ≤ (Nat.log2 n : Int) - Nat.log2 d - precision + 1 := by
      unfold exponentOf at hgt ⊢
      dsimp only at hgt ⊢
      rcases max_cases _ leastExponent with ⟨hm, -⟩ | ⟨hm, -⟩
      · rw [hm]
        split <;> omega
      · rw [hm] at hgt
        exact absurd hgt (lt_irrefl _)
    have hnum : (2 : ℚ) ^ (Nat.log2 n : Int) ≤ n := by
      rw [zpow_natCast]
      exact_mod_cast Nat.log2_self_le (Nat.pos_iff_ne_zero.mp hn)
    have hden : (d : ℚ) ≤ 2 ^ ((Nat.log2 d : Int) + 1) := by
      have hlt : d < 2 ^ (Nat.log2 d + 1) := Nat.lt_log2_self
      exact_mod_cast hlt.le
    have hq : (0 : ℚ) < d := by exact_mod_cast hd
    calc (1 : ℚ) = 2 ^ (Nat.log2 n : Int) / 2 ^ (Nat.log2 n : Int) := by
          rw [div_self (zpow_ne_zero _ two_ne_zero)]
      _ ≤ n / d * 2 ^ (-exponentOf n d) := by
          rw [zpow_neg, ← div_eq_mul_inv, div_div]
          refine div_le_div₀ (Nat.cast_nonneg n) hnum (by positivity) ?_
          calc (d : ℚ) * 2 ^ exponentOf n d
              ≤ 2 ^ ((Nat.log2 d : Int) + 1) * 2 ^ exponentOf n d := by gcongr
            _ = 2 ^ ((Nat.log2 d : Int) + 1 + exponentOf n d) := (zpow_add₀ two_ne_zero _ _).symm
            _ ≤ 2 ^ (Nat.log2 n : Int) := by
                refine zpow_le_zpow_right₀ one_le_two ?_
                have hp : ((precision : Nat) : Int) = 53 := rfl
                omega

/-- The nearest double reaches the powers of two that the exact value reaches. -/
theorem ofRatio_reaches {n d : Nat} {k : Int} (hd : 0 < d) (hk : leastExponent ≤ k)
    (h : (2 : ℚ) ^ k ≤ n / d) : (ofRatio false n d).Reaches (2 ^ k) := by
  have hn : 0 < n := by
    by_contra hn
    rw [Nat.eq_zero_of_not_pos hn, Nat.cast_zero, zero_div] at h
    exact absurd h (not_le_of_gt (by positivity))
  unfold ofRatio
  rw [if_neg (Nat.pos_iff_ne_zero.mp hn)]
  dsimp only
  obtain ⟨hpos, hratio⟩ := scaleByTwo_spec (n := n) hd (-exponentOf n d)
  generalize scaleByTwo n d (-exponentOf n d) = r at hpos hratio ⊢
  have hm : (2 : ℚ) ^ k ≤ divideToEven r.1 r.2 * 2 ^ exponentOf n d := by
    rcases le_or_gt (exponentOf n d) k with hle | hgt
    · obtain ⟨j, hj⟩ := Int.eq_ofNat_of_zero_le (sub_nonneg.mpr hle)
      have hK : 2 ^ j ≤ divideToEven r.1 r.2 := by
        refine le_divideToEven_of_le hpos ?_
        rw [hratio, Nat.cast_pow, Nat.cast_ofNat, ← zpow_natCast, ← hj, sub_eq_add_neg,
          zpow_add₀ two_ne_zero]
        gcongr
      calc (2 : ℚ) ^ k = 2 ^ j * 2 ^ exponentOf n d := by
            rw [← zpow_natCast, ← hj, ← zpow_add₀ two_ne_zero, sub_add_cancel]
        _ ≤ divideToEven r.1 r.2 * 2 ^ exponentOf n d := by
            gcongr
            exact_mod_cast hK
    · have hone : 1 ≤ divideToEven r.1 r.2 := by
        refine le_divideToEven_of_le hpos ?_
        rw [hratio, Nat.cast_one]
        exact (exponentOf_spec hn hd).resolve_left fun he => absurd (he ▸ hgt) (not_lt_of_ge hk)
      calc (2 : ℚ) ^ k ≤ 2 ^ exponentOf n d := zpow_le_zpow_right₀ one_le_two hgt.le
        _ ≤ divideToEven r.1 r.2 * 2 ^ exponentOf n d :=
            le_mul_of_one_le_left (by positivity) (by exact_mod_cast hone)
  -- A mantissa of one digit too many is halved.
  split
  · rename_i hcarry
    split
    · rfl
    · refine ⟨rfl, hm.trans (le_of_eq ?_)⟩
      have hdouble : (1 <<< precision : Nat) = 1 <<< (precision - 1) * 2 := rfl
      rw [hcarry, hdouble, zpow_add_one₀ two_ne_zero, Nat.cast_mul]
      push_cast
      ring
  · split
    · rfl
    · exact ⟨rfl, hm⟩

lemma ofRatio_reaches_zero (n d : Nat) : (ofRatio false n d).Reaches 0 := by
  unfold ofRatio
  split
  · exact ⟨rfl, by positivity⟩
  · dsimp only
    split <;> split <;> first | rfl | exact ⟨rfl, by positivity⟩

variable {x y : Double} {p q : ℚ} {k : Int}

lemma shift_value {e low : Int} (m : Nat) (h : low ≤ e) :
    ((m <<< (e - low).toNat : Nat) : ℚ) * 2 ^ low = m * 2 ^ e := by
  obtain ⟨j, hj⟩ := Int.eq_ofNat_of_zero_le (sub_nonneg.mpr h)
  have he : e = j + low := by omega
  rw [hj, Int.toNat_natCast, Nat.shiftLeft_eq, he, zpow_add₀ two_ne_zero, zpow_natCast]
  push_cast
  ring

lemma add_reaches (hx : x.Reaches p) (hy : y.Reaches q) (hk : leastExponent ≤ k)
    (h : (2 : ℚ) ^ k ≤ p + q) : (x.add y).Reaches (2 ^ k) := by
  cases x with
  | nan => cases hx
  | infinite s =>
    cases y with
    | nan => cases hy
    | infinite t =>
      cases hx
      cases hy
      rfl
    | finite t n f => exact hx
  | finite s m e =>
    cases y with
    | nan => cases hy
    | infinite t => exact hy
    | finite t n f =>
      obtain ⟨rfl, hx⟩ := hx
      obtain ⟨rfl, hy⟩ := hy
      have hsum : (2 : ℚ) ^ k ≤ (m <<< (e - min e f).toNat + n <<< (f - min e f).toNat : Nat) *
          2 ^ min e f := by
        rw [Nat.cast_add, add_mul, shift_value m (min_le_left e f), shift_value n (min_le_right e f)]
        linarith
      generalize hs : m <<< (e - min e f).toNat + n <<< (f - min e f).toNat = sum at hsum
      have hpos : sum ≠ 0 := by
        rintro rfl
        rw [Nat.cast_zero, zero_mul] at hsum
        exact absurd hsum (not_le_of_gt (by positivity))
      have hadd : (finite false m e).add (finite false n f) =
          ofRatio false (scaleByTwo sum 1 (min e f)).1 (scaleByTwo sum 1 (min e f)).2 := by
        have hcast : ((m <<< (e - min e f).toNat : Nat) : Int) + (n <<< (f - min e f).toNat : Nat) = sum := by
          rw [← hs, Nat.cast_add]
        have hsign : decide ((sum : Int) < 0) = false := by simp
        unfold add
        dsimp only
        simp only [Bool.false_eq_true, if_false, hcast, Int.natAbs_natCast, hsign]
        rw [if_neg (by exact_mod_cast hpos)]
      obtain ⟨hden, hratio⟩ := scaleByTwo_spec (n := sum) Nat.one_pos (min e f)
      rw [hadd]
      refine ofRatio_reaches hden hk ?_
      rw [hratio, Nat.cast_one, div_one]
      exact hsum

/-- A product with what is at least one reaches what its other factor reaches. -/
theorem mul_reaches (hx : x.Reaches (2 ^ k)) (hy : y.Reaches 1) (hk : leastExponent ≤ k) :
    (x.mul y).Reaches (2 ^ k) := by
  have nonzero {n : Nat} {f : Int} {r : ℚ} (hr : 0 < r) (h : r ≤ n * 2 ^ f) : n ≠ 0 := by
    rintro rfl
    rw [Nat.cast_zero, zero_mul] at h
    exact absurd h (not_le_of_gt hr)
  cases x with
  | nan => cases hx
  | infinite s =>
    obtain rfl := hx
    cases y with
    | nan => cases hy
    | infinite t =>
      obtain rfl := hy
      rfl
    | finite t n f =>
      obtain ⟨rfl, hy⟩ := hy
      change Reaches _ (if n = 0 then nan else infinite false)
      rw [if_neg (nonzero one_pos hy)]
      rfl
  | finite s m e =>
    obtain ⟨rfl, hx⟩ := hx
    cases y with
    | nan => cases hy
    | infinite t =>
      obtain rfl := hy
      change Reaches _ (if m = 0 then nan else infinite false)
      rw [if_neg (nonzero (by positivity) hx)]
      rfl
    | finite t n f =>
      obtain ⟨rfl, hy⟩ := hy
      obtain ⟨hden, hratio⟩ := scaleByTwo_spec (n := m * n) Nat.one_pos (e + f)
      change Reaches _ (ofRatio false (scaleByTwo (m * n) 1 (e + f)).1 (scaleByTwo (m * n) 1 (e + f)).2)
      refine ofRatio_reaches hden hk ?_
      rw [hratio, Nat.cast_one, div_one, Nat.cast_mul, zpow_add₀ two_ne_zero]
      calc (2 : ℚ) ^ k ≤ m * 2 ^ e * 1 := by rw [mul_one]; exact hx
        _ ≤ m * 2 ^ e * (n * 2 ^ f) := by gcongr
        _ = m * n * (2 ^ e * 2 ^ f) := by ring

lemma div_reaches {n : Nat} {f : Int} (hx : x.Reaches p) (hn : 0 < n) (hk : leastExponent ≤ k)
    (h : (2 : ℚ) ^ k * (n * 2 ^ f) ≤ p) : (x.div (finite false n f)).Reaches (2 ^ k) := by
  cases x with
  | nan => cases hx
  | infinite s =>
    obtain rfl := hx
    rfl
  | finite s m e =>
    obtain ⟨rfl, hx⟩ := hx
    obtain ⟨hden, hratio⟩ := scaleByTwo_spec (n := m) hn (e - f)
    change Reaches _ (if n = 0 then _ else
      ofRatio false (scaleByTwo m n (e - f)).1 (scaleByTwo m n (e - f)).2)
    rw [if_neg (Nat.pos_iff_ne_zero.mp hn)]
    refine ofRatio_reaches hden hk ?_
    have hq : (0 : ℚ) < n := by exact_mod_cast hn
    rw [hratio, zpow_sub₀ two_ne_zero, div_mul_div_comm, le_div_iff₀ (by positivity)]
    exact h.trans hx

lemma div_reaches_zero {n : Nat} {f : Int} (hx : x.Reaches p) (hn : 0 < n) :
    (x.div (finite false n f)).Reaches 0 := by
  cases x with
  | nan => cases hx
  | infinite s =>
    obtain rfl := hx
    rfl
  | finite s m e =>
    obtain ⟨rfl, -⟩ := hx
    change Reaches _ (if n = 0 then _ else ofRatio false _ _)
    rw [if_neg (Nat.pos_iff_ne_zero.mp hn)]
    exact ofRatio_reaches_zero _ _

lemma ofNat_reaches {n : Nat} (hn : 0 < n) : (ofNat n).Reaches 1 := by
  have h := ofRatio_reaches (n := n) (d := 1) (k := 0) Nat.one_pos (by decide)
    (by simpa using Nat.succ_le_of_lt hn)
  rwa [zpow_zero] at h

lemma reaches_one_of_atLeastOne (h : x.atLeastOne = true) : x.Reaches 1 := by
  cases x with
  | nan => cases h
  | infinite s =>
    have hs : s = false := by simpa [atLeastOne] using h
    exact hs
  | finite s m e =>
    obtain ⟨hden, hratio⟩ := scaleByTwo_spec (n := m) Nat.one_pos e
    obtain ⟨rfl, hle⟩ : s = false ∧ (scaleByTwo m 1 e).2 ≤ (scaleByTwo m 1 e).1 := by
      simpa [atLeastOne] using h
    have hq : (0 : ℚ) < (scaleByTwo m 1 e).2 := by exact_mod_cast hden
    rw [Nat.cast_one, div_one] at hratio
    refine ⟨rfl, ?_⟩
    rw [← hratio, le_div_iff₀ hq, one_mul]
    exact_mod_cast hle

end Double

namespace Duration

/-- A length of a nanosecond or more is at least this power of two in seconds. -/
theorem toDouble_reaches {d : Duration} (h : 0 < d.nanos) : d.toDouble.Reaches (2 ^ (-30 : Int)) := by
  have hbillion : Double.ofNat 1000000000 = .finite false 8388608000000000 (-23) := by decide +kernel
  have hleast : Double.leastExponent ≤ -30 := by decide
  rw [toDouble, hbillion]
  rcases Nat.eq_zero_or_pos d.seconds with hs | hs
  · have hsub : 0 < d.subsecond := by
      unfold seconds at hs
      unfold subsecond
      omega
    have hfraction := Double.div_reaches (n := 8388608000000000) (f := -23) (k := -30)
      (Double.ofNat_reaches hsub) (by decide) hleast (by norm_num)
    exact Double.add_reaches (Double.ofRatio_reaches_zero _ _) hfraction hleast (by norm_num)
  · have hfraction := Double.div_reaches_zero (n := 8388608000000000) (f := -23)
      (Double.ofRatio_reaches_zero d.subsecond 1) (by decide)
    exact Double.add_reaches (Double.ofNat_reaches hs) hfraction hleast (by norm_num)

/-- Seconds of this power of two or more are no length of nothing. -/
theorem ofDouble?_pos {x : Double} {d : Duration} (hx : x.Reaches (2 ^ (-30 : Int)))
    (h : ofDouble? x = some d) : 0 < d.nanos := by
  cases x with
  | nan => cases h
  | infinite s => cases h
  | finite s m e =>
    obtain ⟨rfl, hx⟩ := hx
    obtain ⟨hden, hratio⟩ := Double.scaleByTwo_spec (n := m) Nat.one_pos e
    simp only [ofDouble?, Bool.false_eq_true, false_and, if_false] at h
    split at h
    · cases h
      refine Double.divideToEven_pos hden ?_
      have hq : (0 : ℚ) < (Double.scaleByTwo m 1 e).2 := by exact_mod_cast hden
      rw [Nat.cast_one, div_one] at hratio
      rw [← hratio, le_div_iff₀ hq] at hx
      have hhalf : ((Double.scaleByTwo m 1 e).2 : ℚ) < 2 * ((Double.scaleByTwo m 1 e).1 * 1000000000) := by
        norm_num at hx
        linarith
      exact_mod_cast hhalf
    · cases h

end Duration

namespace BackoffPolicy

variable {b : BackoffPolicy}

/-- A delay that is something does not grow to nothing. -/
theorem grow_pos {d : Duration} (hv : b.fault? = none) (h : 0 < b.initial.nanos) (hd : 0 < d.nanos) :
    0 < (b.grow d).nanos := by
  cases b with
  | fixed delay => exact h
  | exponential initial greatest multiplier jitter =>
    obtain ⟨hm, hg⟩ : multiplier.atLeastOne = true ∧ initial.exceeds greatest = false := by
      simp only [fault?] at hv
      split at hv
      · cases hv
      · rename_i hm
        split at hv
        · cases hv
        · rename_i hg
          exact ⟨by simpa using fun hn => hm (.inr hn), by simpa using hg⟩
    have hgreatest : 0 < greatest.nanos := by
      have hle : initial.nanos ≤ greatest.nanos := by simpa [Duration.exceeds] using hg
      exact Nat.lt_of_lt_of_le h hle
    unfold grow
    dsimp only
    split
    · rename_i next hn
      have hnext : 0 < next.nanos := Duration.ofDouble?_pos (Double.mul_reaches (Duration.toDouble_reaches hd)
        (Double.reaches_one_of_atLeastOne hm) (by decide)) hn
      unfold Duration.shorter
      split
      · exact hnext
      · exact hgreatest
    · exact hgreatest

end BackoffPolicy

end MarketFeed
