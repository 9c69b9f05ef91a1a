import MarketFeed.Text.Table
import MarketFeed.Url.ScriptData

/-!
The direction of labels: in a domain with characters that are written from right to left, every label
has to keep to one direction, so that it is read in one way only.
-/

namespace MarketFeed.Url

open Text

/-- What a character does to the direction of a text. -/
inductive Direction where
  /-- A letter that is written from left to right. -/
  | left
  /-- A letter that is written from right to left. -/
  | right
  /-- A letter of the Arabic script and its kin. -/
  | arabic
  /-- A digit that goes with any letters. -/
  | digit
  /-- A plus or minus sign. -/
  | sign
  /-- A sign between digits. -/
  | divider
  /-- A sign at the end of a number. -/
  | unit
  /-- A digit that goes with Arabic letters. -/
  | arabicDigit
  | neutral
  | boundary
  | mark
  /-- Blanks, separators, and characters that set the direction. -/
  | other
deriving DecidableEq, Repr

namespace Direction

def ofNumber : Nat → Direction
  | 0 => left
  | 1 => right
  | 2 => arabic
  | 3 => digit
  | 4 => sign
  | 5 => divider
  | 6 => unit
  | 7 => arabicDigit
  | 8 => neutral
  | 9 => boundary
  | 10 => mark
  | _ => other

def table : Plateaus := Plateaus.ofList directionData

def ofChar (c : Char) : Direction := ofNumber (table.value c.toNat)

/-- Whether a character makes its domain one of both directions. -/
def isBackward : Direction → Bool
  | right | arabic | arabicDigit => true
  | _ => false

/-- Whether a character can stand in a label of either direction. -/
def isCommon : Direction → Bool
  | digit | sign | divider | unit | neutral | boundary | mark => true
  | _ => false

/-- Whether the directions of the characters of a label agree. A label starts with a letter, and all
others go with it; behind it, marks apart, it ends in a letter or a digit; and it has digits of one kind
only. -/
def agree (ds : List Direction) : Bool :=
  let last := (ds.reverse.dropWhile (· = mark)).head?
  match ds with
  | [] => true
  | left :: _ =>
    ds.all (fun d => d.isCommon || d = left) && (last = some left || last = some digit)
  | right :: _ | arabic :: _ =>
    ds.all (fun d => d.isCommon || d.isBackward) &&
      (last = some digit || last.any isBackward) && !(ds.contains digit && ds.contains arabicDigit)
  | _ => false

end Direction

/-- Whether the labels of a domain can be read in one way only. -/
def isDirected (labels : List (List Char)) : Bool :=
  let ds := labels.map (·.map Direction.ofChar)
  !ds.any (·.any Direction.isBackward) || ds.all Direction.agree

end MarketFeed.Url
