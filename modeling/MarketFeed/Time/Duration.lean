import MarketFeed.Double.Text

/-!
Lengths of time, to the nanosecond, of less than 2^64 seconds.
-/

namespace MarketFeed

structure Duration where
  nanos : Nat
  bounded : nanos < 1 <<< 64 * 1000000000
deriving DecidableEq, Repr

namespace Duration

def longest : Duration := ⟨1 <<< 64 * 1000000000 - 1, by decide⟩

/-- A length in nanoseconds, or the greatest one if that is too long. -/
def ofNanos (n : Nat) : Duration := if h : n < 1 <<< 64 * 1000000000 then ⟨n, h⟩ else longest

def ofMillis (n : Nat) : Duration := ofNanos (n * 1000000)

def ofSeconds (n : Nat) : Duration := ofNanos (n * 1000000000)

instance : Inhabited Duration := ⟨ofNanos 0⟩

def seconds (d : Duration) : Nat := d.nanos / 1000000000

def subsecond (d : Duration) : Nat := d.nanos % 1000000000

def millis (d : Duration) : Nat := d.nanos / 1000000

/-- The milliseconds of a clock that shows the length not before it has passed. -/
def millisUp (d : Duration) : Nat := (d.nanos + 999999) / 1000000

def isZero (d : Duration) : Bool := d.nanos = 0

def exceeds (a b : Duration) : Bool := b.nanos < a.nanos

def shorter (a b : Duration) : Duration := if a.nanos ≤ b.nanos then a else b

/-- A length and some milliseconds more, or the greatest length. -/
def addMillis (d : Duration) (n : Nat) : Duration := ofNanos (d.nanos + n * 1000000)

theorem shorter_le_right (a b : Duration) : (a.shorter b).nanos ≤ b.nanos := by
  unfold shorter
  split <;> omega

/-- The seconds as a double: whole seconds and the fraction, each rounded, and their sum rounded. -/
def toDouble (d : Duration) : Double :=
  (Double.ofNat d.seconds).add ((Double.ofNat d.subsecond).div (.ofNat 1000000000))

/-- The length of a double of seconds to the nearest nanosecond, a tie going to the even one. There is
none for negative values, values out of range, and what is no number. -/
def ofDouble? : Double → Option Duration
  | .finite s m e =>
    if s ∧ m ≠ 0 then none
    else
      let (num, den) := Double.scaleByTwo m 1 e
      let n := Double.divideToEven (num * 1000000000) den
      if h : n < 1 <<< 64 * 1000000000 then some ⟨n, h⟩ else none
  | _ => none

/-- A number with a fraction of `places` digits, of which the zeros at the end are dropped. -/
def fractionText (whole fraction places : Nat) : String :=
  let ds := Nat.toDigits 10 fraction
  let all := List.replicate (places - ds.length) '0' ++ ds
  let kept := (all.reverse.dropWhile (· = '0')).reverse
  toString whole ++ (if fraction = 0 then "" else "." ++ String.ofList kept)

/-- The text in the greatest unit that gives a whole part. -/
def text (d : Duration) : String :=
  if 0 < d.seconds then fractionText d.seconds d.subsecond 9 ++ "s"
  else if 1000000 ≤ d.nanos then fractionText (d.nanos / 1000000) (d.nanos % 1000000) 6 ++ "ms"
  else if 1000 ≤ d.nanos then fractionText (d.nanos / 1000) (d.nanos % 1000) 3 ++ "µs"
  else toString d.nanos ++ "ns"

example : (ofNanos 61000000001).text = "61.000000001s" := by decide
example : (ofMillis 250).text = "250ms" ∧ (ofNanos 1500).text = "1.5µs" := by decide

end Duration

end MarketFeed
