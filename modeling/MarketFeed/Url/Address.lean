/-!
Numeric hosts: addresses of 32 bits, whose parts may be decimal, octal or hexadecimal and of which the
last may fill several bytes, and addresses of 128 bits in groups of hexadecimal digits.
-/

namespace MarketFeed.Url

/-- A text cut at every occurrence of a character. -/
def splitAt (sep : Char) : List Char → List (List Char)
  | [] => [[]]
  | c :: rest =>
    if c = sep then [] :: splitAt sep rest
    else
      match splitAt sep rest with
      | [] => [[c]]
      | part :: parts => (c :: part) :: parts

/-- The value of a digit in a base of at most sixteen. -/
def digitIn? (base : Nat) (c : Char) : Option Nat :=
  let v :=
    if c.isDigit then c.toNat - 48
    else if 'a' ≤ c ∧ c ≤ 'f' then c.toNat - 87
    else if 'A' ≤ c ∧ c ≤ 'F' then c.toNat - 55
    else 16
  if v < base then some v else none

/-- The value of a row of digits in a base. -/
def valueIn? (base : Nat) (ds : List Char) : Option Nat :=
  ds.foldl (fun acc c => do return (← acc) * base + (← digitIn? base c)) (some 0)

/-- A part of an address: `0x` starts a hexadecimal number and `0` an octal one. -/
def part? : List Char → Option Nat
  | [] => none
  | '0' :: 'x' :: ds | '0' :: 'X' :: ds => valueIn? 16 ds
  | '0' :: d :: ds => valueIn? 8 (d :: ds)
  | ds => valueIn? 10 ds

/-- Whether the last label of a domain is a number, so that the domain has to be an address. -/
def endsInNumber (domain : List Char) : Bool :=
  let last? := match (splitAt '.' domain).reverse with
    | [] :: label :: _ => some label
    | [[]] => none
    | label :: _ => some label
    | [] => none
  match last? with
  | none => false
  | some label => (label ≠ [] && label.all Char.isDigit) || (part? label).isSome

/-- All values of a list, if there are any. -/
def allSome {α : Type} : List (Option α) → Option (List α)
  | [] => some []
  | none :: _ => none
  | some a :: rest => (allSome rest).map (a :: ·)

/-- An address of 32 bits. One empty label at the end does not count. -/
def address4? (domain : List Char) : Option Nat :=
  let labels := splitAt '.' domain
  let labels := if labels.getLast? = some [] then labels.dropLast else labels
  if 4 < labels.length then none
  else
    match allSome (labels.map part?) with
    | none => none
    | some numbers =>
      match numbers.reverse with
      | [] => none
      | last :: others =>
        let before := others.reverse
        if Nat.pow 256 (4 - before.length) ≤ last ∨ before.any (255 < ·) then none
        else some (before.foldl (fun n b => n * 256 + b) 0 * Nat.pow 256 (4 - before.length) + last)

def address4Text (n : Nat) : List Char :=
  let byte (i : Nat) := Nat.toDigits 10 (n / Nat.pow 256 i % 256)
  byte 3 ++ '.' :: byte 2 ++ '.' :: byte 1 ++ '.' :: byte 0

/-- A byte of a dotted part: one to three digits without a leading zero. -/
def dottedByte? (ds : List Char) : Option Nat :=
  match ds with
  | [] => none
  | '0' :: _ :: _ => none
  | _ => (valueIn? 10 ds).bind fun n => if n ≤ 255 then some n else none

/-- A dotted part, which stands for two groups. -/
def dotted? (s : List Char) : Option (List Nat) :=
  match (splitAt '.' s).map dottedByte? with
  | [some a, some b, some c, some d] => some [a * 256 + b, c * 256 + d]
  | _ => none

/-- A group of one to four hexadecimal digits. -/
def group? (ds : List Char) : Option Nat :=
  if ds = [] ∨ 4 < ds.length then none else valueIn? 16 ds

/-- The groups on one side of a gap; the last of them may be dotted. -/
def groups? : List (List Char) → Option (List Nat)
  | [] => some []
  | [last] =>
    match group? last with
    | some g => some [g]
    | none => if last.contains '.' then dotted? last else none
  | g :: rest => do return (← group? g) :: (← groups? rest)

/-- The text before and after the first two colons in a row. -/
def cutGap : List Char → Option (List Char × List Char)
  | [] => none
  | ':' :: ':' :: rest => some ([], rest)
  | c :: rest => (cutGap rest).map fun p => (c :: p.1, p.2)

def side? (s : List Char) : Option (List Nat) := if s = [] then some [] else groups? (splitAt ':' s)

/-- An address of 128 bits as eight groups. A gap stands for one group of zeros or more; a dotted part
is the end of the address. -/
def address6? (s : List Char) : Option (List Nat) :=
  match cutGap s with
  | none => (side? s).bind fun gs => if gs.length = 8 then some gs else none
  | some (before, after) =>
    if before.contains '.' then none
    else do
      let left ← side? before
      let right ← side? after
      if left.length + right.length < 8 then
        some (left ++ List.replicate (8 - left.length - right.length) 0 ++ right)
      else none

def zeroRun (gs : List Nat) : Nat := (gs.takeWhile (· = 0)).length

/-- The start and the length of the first longest run of zeros. -/
def longestRun (gs : List Nat) : Nat × Nat :=
  (List.range gs.length).foldl
    (fun best i => if best.2 < zeroRun (gs.drop i) then (i, zeroRun (gs.drop i)) else best) (0, 0)

def groupsText (gs : List Nat) : List Char :=
  ((gs.map (Nat.toDigits 16)).intersperse [':']).flatten

/-- The text of an address of 128 bits: the longest run of two or more zeros is a gap. -/
def address6Text (gs : List Nat) : List Char :=
  let (start, length) := longestRun gs
  if length < 2 then groupsText gs
  else groupsText (gs.take start) ++ ':' :: ':' :: groupsText (gs.drop (start + length))

example : address4? "0x7f.1".toList = some 2130706433 := by decide
example : (address6? "::ffff:1.2.3.4".toList).map address6Text
    = some "::ffff:102:304".toList := by decide

end MarketFeed.Url
