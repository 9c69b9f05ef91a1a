/-!
Decimal numbers with a fixed point: a sign, a mantissa of 96 bits, and at most 28 places after the
point. The places are kept, so that `1.5` and `1.50` are two numbers of equal value; a zero has no sign.
-/

namespace MarketFeed

/-- The decimal `± mantissa / 10 ^ scale`. -/
structure Decimal where
  negative : Bool
  mantissa : Nat
  scale : Nat
  mantissa_lt : mantissa < 1 <<< 96
  scale_le : scale ≤ 28
  zero_unsigned : mantissa = 0 → negative = false
deriving DecidableEq, Repr

namespace Decimal

def maxScale : Nat := 28

/-- The decimal of a sign, a mantissa and a scale, if the two fit; the sign of a zero is dropped. -/
def ofParts? (negative : Bool) (mantissa scale : Nat) : Option Decimal :=
  if h : mantissa < 1 <<< 96 ∧ scale ≤ 28 then
    some ⟨negative && mantissa ≠ 0, mantissa, scale, h.1, h.2, by rintro rfl; simp⟩
  else none

def zero : Decimal := ⟨false, 0, 0, by decide, by decide, fun _ => rfl⟩

instance : Inhabited Decimal := ⟨zero⟩

def isZero (d : Decimal) : Bool := d.mantissa = 0

def signed (d : Decimal) : Int := if d.negative then -d.mantissa else d.mantissa

/-- Whether one value is strictly below another, whatever the places. -/
def below (a b : Decimal) : Bool := a.signed * Int.pow 10 b.scale < b.signed * Int.pow 10 a.scale

def sameValue (a b : Decimal) : Bool := a.signed * Int.pow 10 b.scale = b.signed * Int.pow 10 a.scale

@[simp] theorem ofParts?_self (d : Decimal) : ofParts? d.negative d.mantissa d.scale = some d := by
  have h : d.mantissa < 1 <<< 96 ∧ d.scale ≤ 28 := ⟨d.mantissa_lt, d.scale_le⟩
  rw [ofParts?, dif_pos h]
  obtain ⟨n, m, s, hm, hs, hz⟩ := d
  by_cases h0 : m = 0
  · simp [h0, hz h0]
  · simp [h0]

/-- The text: sign, whole part, and the places after a point. -/
def text (d : Decimal) : List Char :=
  let digits := Nat.toDigits 10 d.mantissa
  let padded := List.replicate (d.scale + 1 - digits.length) '0' ++ digits
  let whole := padded.take (padded.length - d.scale)
  let places := padded.drop (padded.length - d.scale)
  (if d.negative then ['-'] else []) ++ whole ++ (if d.scale = 0 then [] else '.' :: places)

instance : ToString Decimal := ⟨fun d => String.ofList d.text⟩

end Decimal

end MarketFeed
