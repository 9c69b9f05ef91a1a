/-!
Binary floating point numbers of 64 bits, by the value they stand for. Every operation is its exact
rational result, rounded to the nearest number, a tie going to the even mantissa. Signals, payloads
of not-a-number and the order of unordered values are outside.
-/

namespace MarketFeed

/-- A double: not a number, an infinity, or `± mantissa · 2 ^ exponent`. -/
inductive Double where
  | nan
  | infinite (negative : Bool)
  | finite (negative : Bool) (mantissa : Nat) (exponent : Int)
deriving DecidableEq, Repr, Inhabited

namespace Double

/-- The number of binary digits of a mantissa. -/
def precision : Nat := 53

/-- The exponent below which no double reaches. -/
def leastExponent : Int := -1074

/-- The exponent above which no finite double reaches. -/
def greatestExponent : Int := 971

def zero : Double := .finite false 0 leastExponent

/-- Division to the nearest integer; a tie goes to the even one. -/
def divideToEven (numerator denominator : Nat) : Nat :=
  let q := numerator / denominator
  let r := numerator % denominator
  if 2 * r < denominator then q
  else if denominator < 2 * r then q + 1
  else q + q % 2

@[simp] theorem divideToEven_one (n : Nat) : divideToEven n 1 = n := by
  simp [divideToEven, Nat.mod_one]

/-- A rational `numerator / denominator · 2 ^ shift` as a quotient of naturals. -/
def scaleByTwo (numerator denominator : Nat) (shift : Int) : Nat × Nat :=
  if 0 ≤ shift then (numerator <<< shift.toNat, denominator)
  else (numerator, denominator <<< (-shift).toNat)

/-- The exponent at which `numerator / denominator` has a mantissa of full precision, but no less
than the least exponent. -/
def exponentOf (numerator denominator : Nat) : Int :=
  let guess : Int := (Nat.log2 numerator : Int) - Nat.log2 denominator - precision
  let (n, d) := scaleByTwo numerator denominator (-guess)
  let exact := if n / d < 1 <<< precision then guess else guess + 1
  max exact leastExponent

/-- The double nearest to `± numerator / denominator`, an infinity when it is out of range. -/
def ofRatio (negative : Bool) (numerator denominator : Nat) : Double :=
  if numerator = 0 then .finite negative 0 leastExponent
  else
    let e := exponentOf numerator denominator
    let (n, d) := scaleByTwo numerator denominator (-e)
    let m := divideToEven n d
    let (m, e) := if m = 1 <<< precision then (1 <<< (precision - 1), e + 1) else (m, e)
    if greatestExponent < e then .infinite negative else .finite negative m e

def ofNat (n : Nat) : Double := ofRatio false n 1

def neg : Double → Double
  | .nan => .nan
  | .infinite s => .infinite (!s)
  | .finite s m e => .finite (!s) m e

/-- The double nearest to a sum; an exact zero of two signs is positive. -/
def add : Double → Double → Double
  | .nan, _ | _, .nan => .nan
  | .infinite s, .infinite t => if s = t then .infinite s else .nan
  | .infinite s, .finite .. => .infinite s
  | .finite .., .infinite t => .infinite t
  | .finite s m e, .finite t n f =>
    let low := min e f
    let a : Int := (m <<< (e - low).toNat : Nat)
    let b : Int := (n <<< (f - low).toNat : Nat)
    let sum := (if s then -a else a) + (if t then -b else b)
    if sum = 0 then .finite (s && t) 0 leastExponent
    else
      let (num, den) := scaleByTwo sum.natAbs 1 low
      ofRatio (sum < 0) num den

def mul : Double → Double → Double
  | .nan, _ | _, .nan => .nan
  | .infinite s, .infinite t => .infinite (s != t)
  | .infinite s, .finite t n _ => if n = 0 then .nan else .infinite (s != t)
  | .finite s m _, .infinite t => if m = 0 then .nan else .infinite (s != t)
  | .finite s m e, .finite t n f =>
    let (num, den) := scaleByTwo (m * n) 1 (e + f)
    ofRatio (s != t) num den

def div : Double → Double → Double
  | .nan, _ | _, .nan => .nan
  | .infinite _, .infinite _ => .nan
  | .infinite s, .finite t _ _ => .infinite (s != t)
  | .finite s _ _, .infinite t => .finite (s != t) 0 leastExponent
  | .finite s m e, .finite t n f =>
    if n = 0 then (if m = 0 then .nan else .infinite (s != t))
    else
      let (num, den) := scaleByTwo m n (e - f)
      ofRatio (s != t) num den

def powerOfTen (k : Nat) : Double := ofNat (Nat.pow 10 k)

/-- Whether the value is zero, of either sign. -/
def isZero : Double → Bool
  | .finite _ m _ => m == 0
  | _ => false

def isFinite : Double → Bool
  | .finite .. => true
  | _ => false

def atLeastOne : Double → Bool
  | .nan => false
  | .infinite s => !s
  | .finite s m e =>
    let (num, den) := scaleByTwo m 1 e
    !s && den ≤ num

/-- Equality of values: the two zeros are one value, and not-a-number equals nothing. -/
def sameValue : Double → Double → Bool
  | .nan, _ | _, .nan => false
  | a, b => a == b || (a.isZero && b.isZero)

example : add (ofRatio false 1 10) (ofRatio false 2 10) ≠ ofRatio false 3 10 := by decide
example : div (ofNat 1) (ofNat 3) = .finite false 6004799503160661 (-54) := by decide
example : mul (ofNat 3) (ofRatio true 1 2) = ofRatio true 3 2 := by decide
example : ofNat (1 <<< 53 + 1) = .finite false (1 <<< 52) 1 := by decide

end Double

end MarketFeed
