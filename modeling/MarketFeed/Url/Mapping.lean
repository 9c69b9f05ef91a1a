import MarketFeed.Text.Canonical
import MarketFeed.Url.Address
import MarketFeed.Url.MappingData

/-!
The mapping of domains: capitals, wide letters and the like are written as the characters that they
mean, characters without meaning are dropped, and characters that no domain can hold are refused.
-/

namespace MarketFeed.Url

open Text

/-- Characters that are mapped alike: `count` ones, each `step` after the one before, to characters in
the same distances. -/
structure Run where
  first : Nat
  step : Nat
  count : Nat
  target : Nat

namespace Run

def ofNumbers : List Nat → List Run
  | first :: step :: count :: target :: rest => ⟨first, step, count, target⟩ :: ofNumbers rest
  | _ => []

/-- Whether a code point belongs to a run. -/
def holds (r : Run) (n : Nat) : Bool :=
  r.first ≤ n && (n - r.first) % r.step = 0 && (n - r.first) / r.step < r.count

end Run

/-- Runs of characters that are mapped to one other. -/
def runTable : List Run := Run.ofNumbers runData

/-- Characters that are mapped to several others. -/
def spellingTable : List (Nat × List Nat) := Table.records spellingData

/-- Where refused characters begin and end. -/
def refusedBounds : Array Nat := refusedData.toArray

/-- Where dropped characters begin and end. -/
def droppedBounds : Array Nat := droppedData.toArray

/-- What a character is mapped to, unless it is refused. -/
def mapping? (c : Char) : Option (List Char) :=
  let n := c.toNat
  if insideRun refusedBounds n then none
  else if insideRun droppedBounds n then some []
  else
    match spellingTable.find? (·.1 = n), runTable.find? (·.holds n) with
    | some spelling, _ => some (spelling.2.map Char.ofNat)
    | none, some run => some [Char.ofNat (run.target + (n - run.first))]
    | none, none => some [c]

/-- The mapped and composed form of a text. -/
def normal? (s : List Char) : Option (List Char) :=
  (allSome (s.map mapping?)).map fun parts => canonical parts.flatten

/-- Whether a text is mapped and composed already. -/
def isNormal (s : List Char) : Bool := s.all (fun c => mapping? c = some [c]) && canonical s = s

end MarketFeed.Url
