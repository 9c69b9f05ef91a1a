import Mathlib.Algebra.Group.Nat.Defs
import MarketFeed.Proofs.CivilDates
import MarketFeed.Proofs.Numerals
import MarketFeed.Calendar.Reader

/-!
Moments and their texts. The text of a moment is read back as that moment: each part of it is taken off
the front, and the parts together make the moment.
-/

namespace MarketFeed

namespace Timestamp

variable {width n : Nat}

lemma isDigit_of_mem_padded {c : Char} (h : c ∈ padded width n) : c.isDigit = true := by
  rcases List.mem_append.mp h with h | h
  · obtain rfl := (List.mem_replicate.mp h).2
    rfl
  · exact Digits.isDigit_of_mem h

lemma padded_ne_nil (width n : Nat) : padded width n ≠ [] := by
  intro h
  exact Nat.toDigits_ne_nil (List.append_eq_nil_iff.mp h).2

lemma ofDigitChars_padded : Nat.ofDigitChars 10 (padded width n) 0 = n := by
  simp [padded, Nat.ofDigitChars_append]

/-- A number that fits its width has that many digits. -/
theorem length_padded (hw : 0 < width) (hn : n < 10 ^ width) : (padded width n).length = width := by
  have hlen : (Nat.toDigits 10 n).length ≤ width := (Nat.length_toDigits_le_iff (by decide) hw).mpr hn
  simp only [padded, List.length_append, List.length_replicate]
  omega

/-- The moments that are read back from their milliseconds. -/
theorem ofMillis?_toMillis_iff (t : Timestamp) : ofMillis? t.toMillis = some t ↔
    t.nanos < 1000000000 ∧ t.nanos % 1000000 = 0 := by
  constructor
  · intro h
    obtain ⟨-, hn⟩ := eq_of_of? h
    omega
  · rintro ⟨hlt, hwhole⟩
    have hs : t.toMillis / 1000 = t.seconds := by
      rw [toMillis]
      omega
    have hn : (t.toMillis % 1000).toNat * 1000000 = t.nanos := by
      rw [toMillis]
      omega
    rw [ofMillis?, hs, hn, of?_self]

end Timestamp

namespace Calendar

open Timestamp

variable {width n : Nat} {s : List Char}

lemma isSpace_digit {c : Char} (h : c.isDigit = true) : Text.isSpace c = false := by
  have hc : 48 ≤ c.toNat ∧ c.toNat ≤ 57 := by
    simpa [Char.isDigit, UInt32.le_iff_toNat_le] using h
  simp only [Text.isSpace, Bool.or_eq_false_iff, Bool.and_eq_false_iff, decide_eq_false_iff_not]
  omega

/-- A number starts with a digit. -/
theorem isDigit_of_padded {c : Char} {rest : List Char} (h : padded width n ++ s = c :: rest) :
    c.isDigit = true := by
  obtain ⟨d, ds, hds⟩ := List.exists_cons_of_ne_nil (padded_ne_nil width n)
  have hd : d ∈ padded width n := by simp [hds]
  rw [hds, List.cons_append] at h
  exact (List.cons.inj h).1 ▸ isDigit_of_mem_padded hd

lemma trimStart_padded : Text.trimStart (padded width n ++ s) = padded width n ++ s := by
  have hne := List.append_ne_nil_of_left_ne_nil (padded_ne_nil width n) s
  obtain ⟨c, rest, hcons⟩ := List.exists_cons_of_ne_nil hne
  rw [Text.trimStart, hcons, List.dropWhile_cons, isSpace_digit (isDigit_of_padded hcons)]
  rfl

/-- A number is read up to where its digits end. -/
theorem number_padded (most : Option Nat) (hm : ∀ m ∈ most, (padded width n).length ≤ m)
    (hn : n < 1 <<< 63) (hs : NoDigit s) : number most (padded width n ++ s) = .ok (n, s) := by
  have hdigits : ∀ c ∈ padded width n, c.isDigit = true := fun c hc => isDigit_of_mem_padded hc
  have hrun := Digits.takeWhile_append hdigits hs
  have hvalue : (padded width n).foldl (fun n c => n * 10 + (c.toNat - 48)) 0 = n := by
    rw [Digits.foldl_eq, ofDigitChars_padded]
  have hne := padded_ne_nil width n
  have hread : (if padded width n = [] then (.error .invalid : Except Fault (Nat × List Char))
      else if (padded width n).foldl (fun n c => n * 10 + (c.toNat - 48)) 0 < 1 <<< 63 then
        .ok ((padded width n).foldl (fun n c => n * 10 + (c.toNat - 48)) 0,
          (padded width n ++ s).drop (padded width n).length)
      else .error .outOfRange) = .ok (n, s) := by
    rw [if_neg hne, hvalue, if_pos hn, List.drop_left]
  obtain ⟨c, rest, hcons⟩ := List.exists_cons_of_ne_nil (List.append_ne_nil_of_left_ne_nil hne s)
  unfold number
  rw [hrun]
  cases most with
  | none =>
    dsimp only
    rw [hcons] at hread ⊢
    exact hread
  | some m =>
    dsimp only
    rw [List.take_of_length_le (hm m rfl)]
    rw [hcons] at hread ⊢
    exact hread

lemma bounded_padded {low high : Nat} (hn : low ≤ n ∧ n ≤ high) (hh : high < 100) (hs : NoDigit s) :
    bounded low high (padded 2 n ++ s) = .ok (n, s) := by
  have hlen : (padded 2 n).length = 2 := length_padded (by decide) (by omega)
  have hfits : n < 1 <<< 63 := by omega
  rw [bounded, trimStart_padded,
    number_padded (some 2) (by simp [hlen]) hfits hs]
  exact if_pos hn

lemma year_text {y : Int} (hy : firstYear ≤ y ∧ y ≤ lastYear) (hs : NoDigit s) :
    year (yearText y ++ s) = .ok (y, s) := by
  have hfirst : firstYear = -262143 := rfl
  have hlast : lastYear = 262142 := rfl
  have hfits : y.natAbs < 1 <<< 63 := by omega
  have hrange : -(1 <<< 31 : Nat) ≤ y ∧ y < (1 <<< 31 : Nat) := by omega
  have hsigned : number none (padded 4 y.natAbs ++ s) = .ok (y.natAbs, s) :=
    number_padded none (fun m hm => nomatch hm) hfits hs
  unfold yearText
  split
  · have hlen : (padded 4 y.natAbs).length = 4 := length_padded (by decide) (by omega)
    have hshort : number (some 4) (padded 4 y.natAbs ++ s) = .ok (y.natAbs, s) :=
      number_padded (some 4) (by simp [hlen]) hfits hs
    have habs : (y.natAbs : Int) = y := by omega
    unfold year
    rw [trimStart_padded]
    split
    · rename_i heq
      cases isDigit_of_padded heq
    · rename_i heq
      cases isDigit_of_padded heq
    · rw [hshort]
      simp only [Except.map, habs]
      exact if_pos hrange
  · split
    · have habs : -(y.natAbs : Int) = y := by omega
      change (number none (padded 4 y.natAbs ++ s)).map _ >>= _ = _
      rw [hsigned]
      simp only [Except.map, habs]
      exact if_pos hrange
    · have habs : (y.natAbs : Int) = y := by omega
      change (number none (padded 4 y.natAbs ++ s)).map _ >>= _ = _
      rw [hsigned]
      simp only [Except.map, habs]
      exact if_pos hrange

lemma fraction_padded (width n : Nat) (hw : 0 < width ∧ width ≤ 9) (hn : n < 10 ^ width) (hs : NoDigit s) :
    fraction ('.' :: (padded width n ++ s)) = .ok (n * 10 ^ (9 - width), s) := by
  have hlen : (padded width n).length = width := length_padded hw.1 hn
  have hfits : n < 1 <<< 63 :=
    Nat.lt_of_lt_of_le hn (Nat.le_trans (Nat.pow_le_pow_right (by decide) hw.2) (by decide))
  have hplaces : (padded width n ++ s).length - s.length = width := by
    rw [List.length_append]
    omega
  have hrest : ([] ++ s).dropWhile Char.isDigit = s := Digits.dropWhile_append (fun _ h => nomatch h) hs
  have hread : number (some 9) (padded width n ++ s) = .ok (n, s) :=
    number_padded (some 9) (by simp [hlen, hw.2]) hfits hs
  change number (some 9) (padded width n ++ s) >>= _ = _
  rw [hread]
  change Except.ok (n * 10 ^ (9 - ((padded width n ++ s).length - s.length)), ([] ++ s).dropWhile Char.isDigit) = _
  rw [hplaces, hrest]

lemma fraction_text (hn : n < 1000000000) (hs : NoDigit s) (hd : s.head? ≠ some '.') :
    fraction (fractionText n ++ s) = .ok (n, s) := by
  unfold fractionText
  split
  · subst n
    cases s with
    | nil => rfl
    | cons c s =>
      have hc : c ≠ '.' := fun h => hd (congrArg some h)
      simp [fraction, hc]
  · split
    · have hread := fraction_padded 3 (n / 1000000) (by decide) (by omega) hs
      have hall : n / 1000000 * 10 ^ (9 - 3) = n := by omega
      rwa [hall] at hread
    · split
      · have hread := fraction_padded 6 (n / 1000) (by decide) (by omega) hs
        have hall : n / 1000 * 10 ^ (9 - 6) = n := by omega
        rwa [hall] at hread
      · have hread := fraction_padded 9 n (by decide) (by omega) hs
        have hall : n * 10 ^ (9 - 9) = n := by omega
        rwa [hall] at hread

lemma separator_self {c : Char} (hc : Text.isSpace c = false) : separator c (c :: s) = .ok ((), s) := by
  rw [separator, Text.trimStart, List.dropWhile_cons, hc]
  exact if_pos rfl

/-- The parts of a text are read one after the other. -/
theorem read_parts {y : Int} {month day hour minute second nanos : Nat}
    (hy : firstYear ≤ y ∧ y ≤ lastYear) (hmo : 1 ≤ month ∧ month ≤ 12) (hd : 1 ≤ day ∧ day ≤ 31)
    (hh : hour ≤ 23) (hmi : minute ≤ 59) (hsec : second ≤ 60) (hn : nanos < 1000000000) :
    read (yearText y ++ '-' :: (padded 2 month ++ '-' :: (padded 2 day ++ 'T' :: (padded 2 hour ++
      ':' :: (padded 2 minute ++ ':' :: (padded 2 second ++ (fractionText nanos ++ ['Z']))))))) =
        moment ⟨y, month, day⟩ hour minute second nanos 0 := by
  have hend : NoDigit ['Z'] := noDigit_cons rfl
  have hrest : NoDigit (fractionText nanos ++ ['Z']) := by
    unfold fractionText
    split
    · exact hend
    · split
      · exact noDigit_cons rfl
      · split <;> exact noDigit_cons rfl
  have hyear := fun s => year_text hy (noDigit_cons (s := s) (c := '-') rfl)
  have hmonth := fun s => bounded_padded hmo (by decide) (noDigit_cons (s := s) (c := '-') rfl)
  have hday := fun s => bounded_padded hd (by decide) (noDigit_cons (s := s) (c := 'T') rfl)
  have htime : ∀ s, dateEnd ('T' :: s) = .ok ((), s) := fun _ => rfl
  have hhour := fun s => bounded_padded ⟨Nat.zero_le hour, hh⟩ (by decide)
    (noDigit_cons (s := s) (c := ':') rfl)
  have hminute := fun s => bounded_padded ⟨Nat.zero_le minute, hmi⟩ (by decide)
    (noDigit_cons (s := s) (c := ':') rfl)
  have hsecond := bounded_padded ⟨Nat.zero_le second, hsec⟩ (by decide) hrest
  have hfraction := fraction_text hn hend (by decide)
  have hdash := fun s => separator_self (s := s) (c := '-') rfl
  have hcolon := fun s => separator_self (s := s) (c := ':') rfl
  have hzone : zone (Text.trimStart ['Z']) = .ok (0, []) := rfl
  simp only [read, bind, Except.bind, hyear, hdash, hmonth, hday, htime, hhour, hcolon, hminute, hsecond,
    hfraction, hzone]
  rfl

lemma isValid_day (t : Timestamp) : (Date.ofDay (t.seconds / 86400)).isValid = true := by
  have hfirst : firstSecond = Date.toDay ⟨firstYear, 1, 1⟩ * 86400 := rfl
  have hlast : lastSecond = Date.toDay ⟨lastYear, 12, 31⟩ * 86400 + 86399 := rfl
  have hcovered := t.covered
  exact Date.isValid_ofDay (by omega)

/-- The parts of a moment make it. -/
theorem moment_parts (t : Timestamp) : moment (Date.ofDay (t.seconds / 86400))
    ((t.seconds % 86400).toNat / 3600) ((t.seconds % 86400).toNat / 60 % 60)
    ((t.seconds % 86400).toNat % 60 + t.nanos / 1000000000) (t.nanos % 1000000000) 0 = .ok t := by
  have hvalid := isValid_day t
  have hnanos := t.nanos_lt
  have hlong := t.long_second
  -- a second of its own is only the second half of a long one
  have hsecond : (if (t.seconds % 86400).toNat % 60 + t.nanos / 1000000000 = 60 then
      (59, t.nanos % 1000000000 + 1000000000)
      else ((t.seconds % 86400).toNat % 60 + t.nanos / 1000000000, t.nanos % 1000000000)) =
        ((t.seconds % 86400).toNat % 60, t.nanos) := by
    split <;> congr 1 <;> omega
  have hseconds : t.seconds / 86400 * 86400 + (((t.seconds % 86400).toNat / 3600 * 3600 +
      (t.seconds % 86400).toNat / 60 % 60 * 60 + (t.seconds % 86400).toNat % 60 : Nat) : Int) - 0 =
        t.seconds := by
    omega
  unfold moment
  rw [if_neg (by simp [hvalid]), hsecond]
  dsimp only
  rw [Date.toDay_ofDay, hseconds, Timestamp.of?_self]

/-- A moment is read back from its text. -/
theorem read_text (t : Timestamp) : read t.text = .ok t := by
  have hvalid := isValid_day t
  simp only [Date.isValid, Bool.and_eq_true, decide_eq_true_eq] at hvalid
  obtain ⟨⟨⟨⟨⟨hfirst, hlast⟩, hmonth⟩, hmonth'⟩, hday⟩, hday'⟩ := hvalid
  have hlength := Nat.le_trans hday' (monthLength_le _ _)
  have hnanos := t.nanos_lt
  have hlong := t.long_second
  simp only [Timestamp.text, List.append_assoc, List.cons_append]
  rw [read_parts ⟨hfirst, hlast⟩ ⟨hmonth, hmonth'⟩ ⟨hday, hlength⟩ (by omega) (by omega) (by omega)
    (by omega)]
  exact moment_parts t

end Calendar

end MarketFeed
