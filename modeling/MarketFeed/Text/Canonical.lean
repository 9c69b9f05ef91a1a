import MarketFeed.Text.CanonicalData

/-!
Canonical composition: every character is taken apart, the marks after a character are put into the
order of their classes, and what can be put together is put together again. Texts that are written
alike then consist of the same characters.
-/

namespace MarketFeed.Text

/-- Characters with the two that they are put together from. -/
def pairTable : List (Char × Char × Char) :=
  (Table.triples pairData).map fun t => (Char.ofNat t.1, Char.ofNat t.2.1, Char.ofNat t.2.2)

/-- Characters that stand for others and are never put together. -/
def standInTable : List (Char × List Char) :=
  (Table.records standInData).map fun r => (Char.ofNat r.1, r.2.map Char.ofNat)

/-- The classes of marks. -/
def classTable : Plateaus := Plateaus.ofList classData

/-- The class of a mark; marks of one class keep their order. Other characters have the class 0. -/
def markClass (c : Char) : Nat := classTable.value c.toNat

/-- The two characters that a syllable of the Korean alphabet is put together from: a leading consonant
and a vowel, or a syllable that ends in its vowel and a trailing consonant. -/
def syllableParts? (c : Char) : Option (Char × Char) :=
  if 0xAC00 ≤ c.toNat ∧ c.toNat < 0xAC00 + 11172 then
    let i := c.toNat - 0xAC00
    if i % 28 = 0 then some (Char.ofNat (0x1100 + i / 588), Char.ofNat (0x1161 + i / 28 % 21))
    else some (Char.ofNat (c.toNat - i % 28), Char.ofNat (0x11A7 + i % 28))
  else none

/-- The syllable of the Korean alphabet with the given parts. -/
def syllable? (a b : Char) : Option Char :=
  if 0x1100 ≤ a.toNat ∧ a.toNat < 0x1100 + 19 ∧ 0x1161 ≤ b.toNat ∧ b.toNat < 0x1161 + 21 then
    some (Char.ofNat (0xAC00 + ((a.toNat - 0x1100) * 21 + (b.toNat - 0x1161)) * 28))
  else if 0xAC00 ≤ a.toNat ∧ a.toNat < 0xAC00 + 11172 ∧ (a.toNat - 0xAC00) % 28 = 0 ∧
      0x11A7 < b.toNat ∧ b.toNat < 0x11A7 + 28 then
    some (Char.ofNat (a.toNat + (b.toNat - 0x11A7)))
  else none

/-- The two characters that a character is put together from. -/
def parts? (c : Char) : Option (Char × Char) :=
  (syllableParts? c).or ((pairTable.find? (·.1 = c)).map (·.2))

/-- The character that is put together from two. -/
def whole? (a b : Char) : Option Char :=
  (syllable? a b).or ((pairTable.find? (·.2 = (a, b))).map (·.1))

/-- Takes a character apart, and the first of its parts again, as often as `steps` says. -/
def takeApart : (steps : Nat) → Char → List Char
  | 0, c => [c]
  | steps + 1, c =>
    match parts? c with
    | some (a, b) => takeApart steps a ++ [b]
    | none => [c]

/-- The characters that a character means. None is put together in more than three steps. -/
def elements (c : Char) : List Char :=
  match standInTable.find? (·.1 = c) with
  | some (_, cs) => cs
  | none => takeApart 3 c

/-- Adds a character to a reversed text; a mark goes before the marks of higher classes at the end. -/
def settle (c : Char) : List Char → List Char
  | [] => [c]
  | d :: ds =>
    if markClass c ≠ 0 ∧ markClass c < markClass d then d :: settle c ds else c :: d :: ds

/-- A text whose marks are in order. -/
def ordered (s : List Char) : List Char := (s.foldl (fun done c => settle c done) []).reverse

/-- Whether the latest mark after a character keeps another one away from it. -/
def isBlocked (marks : List Char) (c : Char) : Bool :=
  match marks with
  | [] => false
  | m :: _ => markClass c ≤ markClass m

/-- Puts a text together: `base` is the latest character that is no mark, and `marks` are those after
it, the latest first. -/
def putTogether : (base : Option Char) → (marks : List Char) → List Char → List Char
  | base, marks, [] => base.toList ++ marks.reverse
  | base, marks, c :: rest =>
    match base.bind fun b => if isBlocked marks c then none else whole? b c with
    | some d => putTogether (some d) marks rest
    | none =>
      if markClass c = 0 then base.toList ++ marks.reverse ++ putTogether (some c) [] rest
      else putTogether base (c :: marks) rest

def canonical (s : List Char) : List Char :=
  putTogether none [] (ordered (s.flatMap elements))

end MarketFeed.Text
