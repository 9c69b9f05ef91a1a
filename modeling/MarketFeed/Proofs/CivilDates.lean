import Mathlib.Tactic.Lemma
import MarketFeed.Calendar.Date

/-!
Days and their dates. A cycle of four centuries is cut into centuries, spans of four years, years and
days; from March to February a leap day is the last one of all of these.
-/

namespace MarketFeed.Calendar

theorem monthLength_le (year : Int) (month : Nat) : monthLength year month ≤ 31 := by
  unfold monthLength
  split
  · split <;> decide
  · split <;> decide

/-- Where a day lies in its cycle of four centuries. -/
structure Place where
  century : Int
  span : Int
  year : Int
  day : Int
  century_mem : 0 ≤ century ∧ century ≤ 3
  span_mem : 0 ≤ span ∧ span ≤ 24
  year_mem : 0 ≤ year ∧ year ≤ 3
  day_mem : 0 ≤ day ∧ day ≤ 365
  leap : day = 365 → year = 3 ∧ (span = 24 → century = 3)

namespace Place

/-- The day within the cycle, and the year. -/
def dayOfCycle (p : Place) : Int := 36524 * p.century + 1461 * p.span + 365 * p.year + p.day

@[inherit_doc dayOfCycle]
def yearOfCycle (p : Place) : Int := 100 * p.century + 4 * p.span + p.year

lemma exists_of_day {n : Int} (h : 0 ≤ n ∧ n < 146097) : ∃ p : Place, p.dayOfCycle = n := by
  -- the last century of a cycle, and the last year of a span, may have one day more
  obtain ⟨c, hc, hcm, hcd⟩ : ∃ c, c = min (n / 36524) 3 ∧ (0 ≤ c ∧ c ≤ 3) ∧
      (0 ≤ n - 36524 * c ∧ n - 36524 * c ≤ 36524 ∧ (n - 36524 * c = 36524 → c = 3)) :=
    ⟨_, rfl, by omega, by omega⟩
  obtain ⟨m, hm⟩ : ∃ m, m = n - 36524 * c := ⟨_, rfl⟩
  rw [← hm] at hcd
  obtain ⟨y, hy, hym⟩ : ∃ y, y = min (m % 1461 / 365) 3 ∧ 0 ≤ y ∧ y ≤ 3 := ⟨_, rfl, by omega⟩
  have hspan : m = 1461 * (m / 1461) + m % 1461 := (Int.mul_ediv_add_emod m 1461).symm
  refine ⟨⟨c, m / 1461, y, m % 1461 - 365 * y, hcm, by omega, hym, by omega, fun hd => ⟨by omega, ?_⟩⟩, ?_⟩
  · omega
  · change 36524 * c + 1461 * (m / 1461) + 365 * y + (m % 1461 - 365 * y) = n
    omega

variable (p : Place)

lemma dayOfCycle_mem : 0 ≤ p.dayOfCycle ∧ p.dayOfCycle < 146097 := by
  have hc := p.century_mem
  have hs := p.span_mem
  have hy := p.year_mem
  have hd := p.day_mem
  have hl := p.leap
  unfold dayOfCycle
  omega

lemma yearOfCycle_mem : 0 ≤ p.yearOfCycle ∧ p.yearOfCycle < 400 := by
  have hc := p.century_mem
  have hs := p.span_mem
  have hy := p.year_mem
  unfold yearOfCycle
  omega

/-- Leap days apart, a year has 365 days. -/
theorem yearOfCycle_eq : (p.dayOfCycle - p.dayOfCycle / 1460 + p.dayOfCycle / 36524 -
    p.dayOfCycle / 146096) / 365 = p.yearOfCycle := by
  have hc := p.century_mem
  have hs := p.span_mem
  have hy := p.year_mem
  have hd := p.day_mem
  have hl := p.leap
  unfold dayOfCycle yearOfCycle
  have hspans : (36524 * p.century + 1461 * p.span + 365 * p.year + p.day) / 1460 =
      25 * p.century + p.span +
        if 24 * p.century + p.span + 365 * p.year + p.day < 1460 then 0 else 1 := by
    split <;> omega
  -- only the last day of the cycle is beyond four centuries without their leap days
  by_cases hlast : p.span = 24 ∧ p.year = 3 ∧ p.day = 365
  · have hcentury : p.century = 3 := (hl hlast.2.2).2 hlast.1
    rw [hcentury, hlast.1, hlast.2.1, hlast.2.2]
    decide
  · have hcentury : (36524 * p.century + 1461 * p.span + 365 * p.year + p.day) / 36524 = p.century := by
      omega
    have hcycle : (36524 * p.century + 1461 * p.span + 365 * p.year + p.day) / 146096 = 0 := by
      omega
    rw [hspans, hcentury, hcycle]
    split <;> omega

lemma dayOfYear_eq : p.dayOfCycle - (365 * p.yearOfCycle + p.yearOfCycle / 4 - p.yearOfCycle / 100) =
    p.day := by
  have hs := p.span_mem
  have hy := p.year_mem
  unfold dayOfCycle yearOfCycle
  omega

/-- The month from March on. -/
def shifted : Int := (5 * p.day + 2) / 153

def month : Int := if p.shifted < 10 then p.shifted + 3 else p.shifted - 9

def dayOfMonth : Int := p.day - (153 * p.shifted + 2) / 5 + 1

lemma month_mem : 1 ≤ p.month ∧ p.month ≤ 12 := by
  have hd := p.day_mem
  unfold month shifted
  split <;> omega

/-- January and February belong to the year before. -/
theorem month_le_two : p.month ≤ 2 ↔ 306 ≤ p.day := by
  have hd := p.day_mem
  unfold month shifted
  split <;> omega

lemma shifted_eq : (p.month + 9) % 12 = p.shifted := by
  have hd := p.day_mem
  unfold month shifted
  split <;> omega

lemma dayOfMonth_pos : 1 ≤ p.dayOfMonth := by
  unfold dayOfMonth shifted
  omega

lemma isLeap_of_day (h : p.day = 365) (era : Int) : isLeap (p.yearOfCycle + era * 400 + 1) = true := by
  obtain ⟨hy, hc⟩ := p.leap h
  have hs := p.span_mem
  have hcm := p.century_mem
  have hyear : p.yearOfCycle = 100 * p.century + 4 * p.span + p.year := rfl
  simp only [isLeap, Bool.and_eq_true, Bool.or_eq_true, decide_eq_true_eq]
  omega

/-- A month ends with its last day. -/
theorem dayOfMonth_le (era : Int) : p.dayOfMonth ≤
    monthLength (p.yearOfCycle + era * 400 + if p.month ≤ 2 then 1 else 0) p.month.toNat := by
  have hd := p.day_mem
  have hs : p.shifted = (5 * p.day + 2) / 153 := rfl
  have hm : p.shifted < 10 ∧ p.month = p.shifted + 3 ∨ 10 ≤ p.shifted ∧ p.month = p.shifted - 9 := by
    unfold month
    split <;> omega
  unfold dayOfMonth monthLength
  split
  · have hjanuary : p.month ≤ 2 := by omega
    rw [if_pos hjanuary]
    split
    · omega
    · rename_i hn
      have hne : p.day ≠ 365 := fun h => hn (p.isLeap_of_day h era)
      omega
  · split <;> omega

lemma ofDay_eq (era : Int) : Date.ofDay (era * 146097 + p.dayOfCycle - 719468) =
    ⟨p.yearOfCycle + era * 400 + (if p.month ≤ 2 then 1 else 0), p.month.toNat, p.dayOfMonth.toNat⟩ := by
  have hp := p.dayOfCycle_mem
  have hera : (era * 146097 + p.dayOfCycle - 719468 + 719468) / 146097 = era := by omega
  have hday : (era * 146097 + p.dayOfCycle - 719468 + 719468) % 146097 = p.dayOfCycle := by omega
  simp only [Date.ofDay, hera, hday, p.yearOfCycle_eq, p.dayOfYear_eq]
  rfl

lemma toDay_eq (era : Int) : (Date.ofDay (era * 146097 + p.dayOfCycle - 719468)).toDay =
    era * 146097 + p.dayOfCycle - 719468 := by
  have hm := p.month_mem
  have hd := p.dayOfMonth_pos
  have hyears := p.yearOfCycle_mem
  have hyear : (if p.month.toNat ≤ 2 then
      p.yearOfCycle + era * 400 + (if p.month ≤ 2 then 1 else 0) - 1
      else p.yearOfCycle + era * 400 + (if p.month ≤ 2 then 1 else 0)) = p.yearOfCycle + era * 400 := by
    split <;> split <;> omega
  have hera : (p.yearOfCycle + era * 400) / 400 = era := by omega
  have hcycle : (p.yearOfCycle + era * 400) % 400 = p.yearOfCycle := by omega
  have hshift : ((p.month.toNat : Int) + 9) % 12 = p.shifted := by
    rw [← p.shifted_eq]
    omega
  have hofYear := p.dayOfYear_eq
  have hofMonth : p.dayOfMonth = p.day - (153 * p.shifted + 2) / 5 + 1 := rfl
  rw [ofDay_eq, Date.toDay]
  dsimp only
  rw [hyear, hera, hcycle, hshift]
  omega

end Place

lemma exists_place (n : Int) : ∃ (era : Int) (p : Place), n = era * 146097 + p.dayOfCycle - 719468 := by
  obtain ⟨p, hp⟩ := Place.exists_of_day (n := (n + 719468) % 146097) (by omega)
  exact ⟨(n + 719468) / 146097, p, by omega⟩

namespace Date

/-- The date of a day is on that day. -/
theorem toDay_ofDay (n : Int) : (ofDay n).toDay = n := by
  obtain ⟨era, p, rfl⟩ := exists_place n
  exact p.toDay_eq era

/-- The days that are covered have covered dates, which exist. -/
theorem isValid_ofDay {n : Int} (h : toDay ⟨firstYear, 1, 1⟩ ≤ n ∧ n ≤ toDay ⟨lastYear, 12, 31⟩) :
    (ofDay n).isValid = true := by
  obtain ⟨era, p, rfl⟩ := exists_place n
  have hfirst : toDay ⟨firstYear, 1, 1⟩ = -96465292 := by decide
  have hlast : toDay ⟨lastYear, 12, 31⟩ = 95026236 := by decide
  have hm := p.month_mem
  have hpos := p.dayOfMonth_pos
  have hle := p.dayOfMonth_le era
  have hjanuary := p.month_le_two
  have hplace := p.dayOfCycle_mem
  have hday := p.dayOfYear_eq
  have hd := p.day_mem
  have hy := p.yearOfCycle_mem
  have hyears : firstYear ≤ p.yearOfCycle + era * 400 + (if p.month ≤ 2 then 1 else 0) ∧
      p.yearOfCycle + era * 400 + (if p.month ≤ 2 then 1 else 0) ≤ lastYear := by
    have hera : -656 ≤ era ∧ era ≤ 655 := by omega
    -- only in the first and the last cycle does the year within the cycle matter
    have hlow : era = -656 → 256 ≤ p.yearOfCycle ∧ (p.yearOfCycle = 256 → p.month ≤ 2) := by omega
    have hhigh : era = 655 → p.yearOfCycle ≤ 142 ∧ (p.yearOfCycle = 142 → ¬ p.month ≤ 2) := by omega
    unfold firstYear lastYear
    split <;> omega
  rw [p.ofDay_eq]
  simp only [isValid, Bool.and_eq_true, decide_eq_true_eq]
  exact ⟨⟨⟨⟨⟨hyears.1, hyears.2⟩, by omega⟩, by omega⟩, by omega⟩, by omega⟩

end Date

end MarketFeed.Calendar
