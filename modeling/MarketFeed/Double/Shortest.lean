import MarketFeed.Double.Basic

/-!
The fewest decimal digits that read back to a double. The reals that round to `mantissa · 2 ^ exponent`
form an interval, which holds its two ends when the mantissa is even. On the decimal grids of one, two,
and more digits in turn the two neighbours of the value are tried; the first grid with a neighbour in
the interval decides, and of two neighbours the nearer one.
-/

namespace MarketFeed.Double

/-- A positive decimal `digits · 10 ^ exponent`. -/
structure Digits where
  digits : Nat
  exponent : Int
deriving DecidableEq, Repr

/-- A positive rational as a quotient of naturals. -/
structure Ratio where
  num : Nat
  den : Nat
deriving DecidableEq, Repr

namespace Ratio

def lt (a b : Ratio) : Bool := a.num * b.den < b.num * a.den

def le (a b : Ratio) : Bool := a.num * b.den ≤ b.num * a.den

def distance (a b : Ratio) : Ratio :=
  ⟨max (a.num * b.den) (b.num * a.den) - min (a.num * b.den) (b.num * a.den), a.den * b.den⟩

def ofDecimal (n : Nat) (k : Int) : Ratio :=
  if 0 ≤ k then ⟨n * Nat.pow 10 k.toNat, 1⟩ else ⟨n, Nat.pow 10 (-k).toNat⟩

def ofBinary (n : Nat) (k : Int) : Ratio :=
  if 0 ≤ k then ⟨n <<< k.toNat, 1⟩ else ⟨n, 1 <<< (-k).toNat⟩

end Ratio

/-- The reals that round to one double. -/
structure Interval where
  low : Ratio
  high : Ratio
  closed : Bool
deriving Repr

def Interval.contains (i : Interval) (r : Ratio) : Bool :=
  if i.closed then i.low.le r && r.le i.high else i.low.lt r && r.lt i.high

/-- The interval of `mantissa · 2 ^ exponent`. Below a power of two the next double is half as far
away, unless the exponent is the least one. -/
def roundingInterval (mantissa : Nat) (exponent : Int) : Interval :=
  let narrow := mantissa = 1 <<< (precision - 1) ∧ leastExponent < exponent
  { low := if narrow then .ofBinary (4 * mantissa - 1) (exponent - 2)
      else .ofBinary (2 * mantissa - 1) (exponent - 1)
    high := .ofBinary (2 * mantissa + 1) (exponent - 1)
    closed := mantissa % 2 = 0 }

/-- The number of decimal digits of a natural number; zero has none. -/
def decimalLength (n : Nat) : Nat := if n = 0 then 0 else (Nat.toDigits 10 n).length

/-- The exponent `k` with `10 ^ k ≤ r < 10 ^ (k + 1)`. -/
def decimalExponent (r : Ratio) : Int :=
  let guess : Int := (decimalLength r.num : Int) - decimalLength r.den
  if (Ratio.ofDecimal 1 guess).le r then guess else guess - 1

/-- The grid neighbour of `value` with exponent `k` that lies in the interval, the nearer one of two,
and on a tie the even one. -/
def neighbour (value : Ratio) (i : Interval) (k : Int) : Option Nat :=
  let below :=
    if 0 ≤ k then value.num / (value.den * Nat.pow 10 k.toNat)
    else value.num * Nat.pow 10 (-k).toNat / value.den
  let above := below + 1
  let low := Ratio.ofDecimal below k
  let high := Ratio.ofDecimal above k
  match below ≠ 0 && i.contains low, i.contains high with
  | false, false => none
  | true, false => some below
  | false, true => some above
  | true, true =>
    let a := value.distance low
    let b := value.distance high
    if a.lt b then some below
    else if b.lt a then some above
    else some (if below % 2 = 0 then below else above)

/-- Tries the grids of `count` and more digits, `fuel` grids in all. -/
def search (value : Ratio) (i : Interval) (top : Int) : (fuel count : Nat) → Option Digits
  | 0, _ => none
  | fuel + 1, count =>
    let k := top - count + 1
    match neighbour value i k with
    | some d => some ⟨d, k⟩
    | none => search value i top fuel (count + 1)

/-- Takes zeros off the end of the digits. -/
def Digits.trim (d : Digits) : (fuel : Nat) → Digits
  | 0 => d
  | fuel + 1 =>
    if d.digits % 10 = 0 ∧ d.digits ≠ 0 then Digits.trim ⟨d.digits / 10, d.exponent + 1⟩ fuel else d

/-- The fewest digits that read back to `mantissa · 2 ^ exponent`; seventeen always do. -/
def shortest (mantissa : Nat) (exponent : Int) : Digits :=
  if mantissa = 0 then ⟨0, 0⟩
  else
    let value := Ratio.ofBinary mantissa exponent
    let found := search value (roundingInterval mantissa exponent) (decimalExponent value) 17 1
    (found.getD ⟨mantissa, exponent⟩).trim 20

end MarketFeed.Double
