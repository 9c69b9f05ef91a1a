import MarketFeed.Double.Shortest

/-!
The texts of a double: the digits come from `Double.shortest`, and a `Layout` decides where the point
stands and when an exponent is written.
-/

namespace MarketFeed.Double

/-- How the digits of a double are laid out. Values from `10 ^ positionalFrom` up to and without
`10 ^ positionalTo` are written without an exponent; without bounds all of them are. -/
structure Layout where
  positional : Option (Int × Int)
  wholePoint : Bool
  exponentPlus : Bool
  nan : String
  infinity : String

/-- The text of a float in a data document: always with a point or an exponent. -/
def Layout.document : Layout := ⟨some (-5, 16), true, true, "NaN", "inf"⟩

/-- The text of a float in a sentence: positional at every size, whole values without a point. -/
def Layout.sentence : Layout := ⟨none, false, false, "NaN", "inf"⟩

/-- The text of a float in a structure dump: whole values with a point, very large and very small
ones with an exponent. -/
def Layout.dump : Layout := ⟨some (-4, 16), true, false, "NaN", "inf"⟩

def zeros (count : Nat) : List Char := List.replicate count '0'

/-- The digits without an exponent. -/
def positionalText (layout : Layout) (ds : List Char) (exponent : Int) : List Char :=
  let whole := if layout.wholePoint then ['.', '0'] else []
  if 0 ≤ exponent then ds ++ zeros exponent.toNat ++ whole
  else
    let point : Int := ds.length + exponent
    if 0 < point then ds.take point.toNat ++ '.' :: ds.drop point.toNat
    else '0' :: '.' :: zeros (-point).toNat ++ ds

/-- The digits with one place before the point and an exponent. -/
def exponentText (layout : Layout) (ds : List Char) (exponent : Int) : List Char :=
  let e : Int := ds.length - 1 + exponent
  let head := match ds with
    | [] => []
    | [d] => [d]
    | d :: rest => d :: '.' :: rest
  let sign := if e < 0 then ['-'] else if layout.exponentPlus then ['+'] else []
  head ++ 'e' :: sign ++ Nat.toDigits 10 e.natAbs

/-- The text of a double in a layout. -/
def text (layout : Layout) : Double → String
  | .nan => layout.nan
  | .infinite s => (if s then "-" else "") ++ layout.infinity
  | .finite s m e =>
    let d := shortest m e
    let ds := Nat.toDigits 10 d.digits
    let body :=
      if m = 0 then '0' :: (if layout.wholePoint then ['.', '0'] else [])
      else
        let top : Int := ds.length - 1 + d.exponent
        let plain := match layout.positional with
          | none => true
          | some (low, high) => decide (low ≤ top) && decide (top < high)
        if plain then positionalText layout ds d.exponent else exponentText layout ds d.exponent
    (if s then "-" else "") ++ String.ofList body

end MarketFeed.Double
