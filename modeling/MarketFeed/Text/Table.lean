/-!
Tables that are written down as rows of numbers, and functions on code points that are constant on long
runs.
-/

namespace MarketFeed.Text

namespace Table

def pairs : List Nat → List (Nat × Nat)
  | a :: b :: rest => (a, b) :: pairs rest
  | _ => []

def triples : List Nat → List (Nat × Nat × Nat)
  | a :: b :: c :: rest => (a, b, c) :: triples rest
  | _ => []

/-- The numbers as records: a key, the number of values, and the values. -/
def records (ns : List Nat) : List (Nat × List Nat) :=
  match ns with
  | key :: count :: rest => (key, rest.take count) :: records (rest.drop count)
  | _ => []
termination_by ns.length
decreasing_by simp; omega

end Table

/-- The number of entries of a sorted array that are at most `n`, looked for between `low` and
`low + width`. -/
def countAtMost (bounds : Array Nat) (n : Nat) : (fuel low width : Nat) → Nat
  | 0, low, _ => low
  | fuel + 1, low, width =>
    if width = 0 then low
    else
      let half := width / 2
      if bounds.getD (low + half) 0 ≤ n then countAtMost bounds n fuel (low + half + 1) (width - half - 1)
      else countAtMost bounds n fuel low half

/-- Whether a sorted list of bounds puts `n` inside a run. -/
def insideRun (bounds : Array Nat) (n : Nat) : Bool :=
  countAtMost bounds n bounds.size 0 bounds.size % 2 = 1

/-- A function that is constant from each of its starts to the next. -/
structure Plateaus where
  starts : Array Nat
  values : Array Nat

namespace Plateaus

/-- A function given by its starts and values in turn. -/
def ofList (ns : List Nat) : Plateaus :=
  let ps := Table.pairs ns
  ⟨(ps.map (·.1)).toArray, (ps.map (·.2)).toArray⟩

/-- The value at a number. -/
def value (p : Plateaus) (n : Nat) : Nat :=
  p.values.getD (countAtMost p.starts n p.starts.size 0 p.starts.size - 1) 0

end Plateaus

end MarketFeed.Text
