import MarketFeed.Calendar.Date

/-!
Moments in universal time, to the nanosecond. The second before a minute's end may last two seconds;
then the moments of its second half have a fraction of one second and more.
-/

namespace MarketFeed

namespace Calendar

/-- The first and the last second that the calendar covers. -/
def firstSecond : Int := Date.toDay ⟨firstYear, 1, 1⟩ * 86400

@[inherit_doc firstSecond]
def lastSecond : Int := Date.toDay ⟨lastYear, 12, 31⟩ * 86400 + 86399

end Calendar

open Calendar

/-- A moment: seconds since 1970-01-01T00:00:00Z and nanoseconds within the second. Only the last
second of a minute may be a long one. -/
structure Timestamp where
  seconds : Int
  nanos : Nat
  covered : firstSecond ≤ seconds ∧ seconds ≤ lastSecond
  nanos_lt : nanos < 2000000000
  long_second : 1000000000 ≤ nanos → seconds % 60 = 59
deriving DecidableEq, Repr

namespace Timestamp

/-- The moment of a second and a fraction, if there is one. -/
def of? (seconds : Int) (nanos : Nat) : Option Timestamp :=
  if h : (firstSecond ≤ seconds ∧ seconds ≤ lastSecond) ∧ nanos < 2000000000 ∧
      (1000000000 ≤ nanos → seconds % 60 = 59) then
    some ⟨seconds, nanos, h.1, h.2.1, h.2.2⟩
  else none

@[simp] theorem of?_self (t : Timestamp) : of? t.seconds t.nanos = some t :=
  dif_pos ⟨t.covered, t.nanos_lt, t.long_second⟩

theorem eq_of_of? {s : Int} {n : Nat} {t : Timestamp} (h : of? s n = some t) :
    t.seconds = s ∧ t.nanos = n := by
  unfold of? at h
  split at h
  · cases h; exact ⟨rfl, rfl⟩
  · cases h

/-- A number with at least `width` digits. -/
def padded (width n : Nat) : List Char :=
  let ds := Nat.toDigits 10 n
  List.replicate (width - ds.length) '0' ++ ds

/-- A year: four digits from 0 to 9999, else with a sign and at least four digits. -/
def yearText (year : Int) : List Char :=
  if 0 ≤ year ∧ year ≤ 9999 then padded 4 year.natAbs
  else (if year < 0 then '-' else '+') :: padded 4 year.natAbs

/-- The fraction of a second with 0, 3, 6 or 9 places, the fewest that lose nothing. -/
def fractionText (nanos : Nat) : List Char :=
  if nanos = 0 then []
  else if nanos % 1000000 = 0 then '.' :: padded 3 (nanos / 1000000)
  else if nanos % 1000 = 0 then '.' :: padded 6 (nanos / 1000)
  else '.' :: padded 9 nanos

/-- The text in universal time. The second half of a long second is its second 60. -/
def text (t : Timestamp) : List Char :=
  let date := Date.ofDay (t.seconds / 86400)
  let inDay := (t.seconds % 86400).toNat
  let extra := t.nanos / 1000000000
  yearText date.year ++ '-' :: padded 2 date.month ++ '-' :: padded 2 date.day
    ++ 'T' :: padded 2 (inDay / 3600) ++ ':' :: padded 2 (inDay / 60 % 60)
    ++ ':' :: padded 2 (inDay % 60 + extra) ++ fractionText (t.nanos % 1000000000) ++ ['Z']

/-- The moment of a count of milliseconds, if the calendar covers it. -/
def ofMillis? (n : Int) : Option Timestamp := of? (n / 1000) ((n % 1000).toNat * 1000000)

def toMillis (t : Timestamp) : Int := t.seconds * 1000 + t.nanos / 1000000

/-- A count of milliseconds is what its moment gives back. -/
theorem toMillis_ofMillis? {n : Int} {t : Timestamp} (h : ofMillis? n = some t) :
    t.toMillis = n := by
  obtain ⟨hs, hn⟩ := eq_of_of? h
  rw [toMillis, hs, hn]
  have : ((n % 1000).toNat * 1000000) / 1000000 = (n % 1000).toNat := by omega
  omega

end Timestamp

end MarketFeed
