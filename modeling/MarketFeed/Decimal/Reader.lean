import MarketFeed.Decimal.Basic

/-!
Reading a decimal. A plain numeral is an optional sign and digits, with an optional point anywhere
among them and `_` anywhere after the first digit. The first digit that no longer fits, in size or in
places, rounds the number half up and ends the reading. A text that is no plain numeral may be one with
an exponent of at most 28, which moves the point and adds no places beyond 28.
-/

namespace MarketFeed.Decimal

/-- What has been read of a plain numeral. -/
structure Progress where
  negative : Bool
  mantissa : Nat
  scale : Nat
  pointSeen : Bool
  digitSeen : Bool
deriving DecidableEq, Repr

def digit? (c : Char) : Option Nat := if c.isDigit then some (c.toNat - 48) else none

/-- Ends a numeral at the character that no longer fits, and rounds half up. A mantissa that grows out
of its 96 bits gives up its last place. -/
def roundAt (p : Progress) (c : Char) : Option Decimal :=
  let next :=
    if c = '_' ∨ (c = '.' ∧ p.pointSeen) then some 0 else digit? c
  match next with
  | none => none
  | some d =>
    let m := if 5 ≤ d then p.mantissa + 1 else p.mantissa
    if m < 1 <<< 96 then ofParts? p.negative m p.scale
    else if p.scale = 0 then none
    else ofParts? p.negative ((m + 4) / 10) (p.scale - 1)

/-- Reads on in a plain numeral. -/
def readOn (p : Progress) : List Char → Option Decimal
  | [] => if p.digitSeen then ofParts? p.negative p.mantissa p.scale else none
  | c :: rest =>
    if p.pointSeen ∧ maxScale ≤ p.scale then roundAt p c
    else
      match digit? c with
      | some d =>
        if p.mantissa * 10 + d < 1 <<< 96 then
          readOn { p with
            mantissa := p.mantissa * 10 + d
            scale := if p.pointSeen then p.scale + 1 else 0
            digitSeen := true } rest
        else if p.pointSeen then roundAt p c
        else none
      | none =>
        if c = '.' ∧ ¬p.pointSeen then readOn { p with pointSeen := true } rest
        else if c = '_' ∧ p.digitSeen then readOn p rest
        else none

def readPlain : List Char → Option Decimal
  | '-' :: rest => readOn ⟨true, 0, 0, false, false⟩ rest
  | '+' :: rest => readOn ⟨false, 0, 0, false, false⟩ rest
  | s => readOn ⟨false, 0, 0, false, false⟩ s

/-- The size of an exponent: digits after an optional plus sign. -/
def exponentSize? (s : List Char) : Option Nat :=
  let ds := match s with
    | '+' :: rest => rest
    | rest => rest
  if ds ≠ [] ∧ ds.all Char.isDigit then some (ds.foldl (fun n c => n * 10 + (c.toNat - 48)) 0) else none

/-- Moves the point of a decimal `places` to the right. -/
def shiftUp (d : Decimal) (places : Nat) : Option Decimal :=
  if places ≤ d.scale then ofParts? d.negative d.mantissa (d.scale - places)
  else if maxScale < places then none
  else ofParts? d.negative (d.mantissa * Nat.pow 10 (places - d.scale)) 0

/-- Moves the point of a decimal `places` to the left. -/
def shiftDown (d : Decimal) (places : Nat) : Option Decimal :=
  if maxScale < places then none else ofParts? d.negative d.mantissa (d.scale + places)

def isExponentMark (c : Char) : Bool := c = 'e' || c = 'E'

def readScientific (s : List Char) : Option Decimal :=
  match s.dropWhile (fun c => !isExponentMark c) with
  | [] => none
  | _ :: exponent => do
    let d ← readPlain (s.takeWhile fun c => !isExponentMark c)
    match exponent with
    | '-' :: size => shiftDown d (← exponentSize? size)
    | size => shiftUp d (← exponentSize? size)

/-- Reads a decimal, as a plain numeral or else with an exponent. -/
def read (s : List Char) : Option Decimal :=
  match readPlain s with
  | some d => some d
  | none => readScientific s

example : (read "-01.50".toList).map text = some "-1.50".toList := by decide
example : (read "1.2e10".toList).map text = some "12000000000".toList := by decide
example : read "1__.".toList = read "1".toList ∧ read "_1".toList = none := by decide
example : (read "79228162514264337593543950335.5".toList) = none := by decide
example : (read "7.92281625142643375935439503355".toList).map text
    = some "7.922816251426433759354395034".toList := by decide

end MarketFeed.Decimal
