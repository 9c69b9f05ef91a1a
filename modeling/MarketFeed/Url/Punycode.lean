/-!
Labels in ASCII: the ASCII characters of a label come first, and after a hyphen stand numbers that say
which other characters are inserted where, in ascending order of the characters. A number is written in
digits of base 36, lowest first; a digit below a threshold is the last of its number, and the thresholds
follow the sizes of the numbers before.
-/

namespace MarketFeed.Url.Punycode

/-- The digit of a value below 36: letters come first. -/
def digitChar (d : Nat) : Char := if d < 26 then Char.ofNat (97 + d) else Char.ofNat (22 + d)

/-- The value of a digit. -/
def digitValue? (c : Char) : Option Nat :=
  if 'a' ≤ c ∧ c ≤ 'z' then some (c.toNat - 97)
  else if c.isDigit then some (c.toNat - 22)
  else none

/-- The threshold of the digit in a place; places count by 36, and the first is 36. -/
def threshold (bias place : Nat) : Nat := max 1 (min 26 (place - bias))

/-- Divides a number by 35 until it is at most 455, and adds 36 to the bias each time. -/
def shrink (delta bias : Nat) : Nat :=
  if 455 < delta then shrink (delta / 35) (bias + 36) else bias + 36 * delta / (delta + 38)
termination_by delta
decreasing_by omega

/-- The bias after a number, in a text that has grown to `size` characters. -/
def nextBias (delta size : Nat) (isFirst : Bool) : Nat :=
  let d := if isFirst then delta / 700 else delta / 2
  shrink (d + d / size) 0

/-- The digits of a number from a place on. -/
def digits (bias place n : Nat) : List Char :=
  let t := threshold bias place
  if n < t then [digitChar n]
  else digitChar (t + (n - t) % (36 - t)) :: digits bias (place + 36) ((n - t) / (36 - t))
termination_by n
decreasing_by
  have less : 1 ≤ threshold bias place := Nat.le_max_left ..
  exact Nat.lt_of_le_of_lt (Nat.div_le_self ..) (by omega)

/-- How far the writing of a label is: the number to write next, the bias, and how many characters of
the label are written. -/
structure Progress where
  delta : Nat
  bias : Nat
  written : Nat

/-- Goes through a label once and writes the positions of one of its characters; the first number of a
label is told by the count of its ASCII characters. -/
def writeOne (n basics : Nat) (p : Progress) : List Char → List Char × Progress
  | [] => ([], p)
  | c :: rest =>
    if c.toNat < n then writeOne n basics { p with delta := p.delta + 1 } rest
    else if c.toNat = n then
      let later := writeOne n basics
        ⟨0, nextBias p.delta (p.written + 1) (p.written = basics), p.written + 1⟩ rest
      (digits p.bias 36 p.delta ++ later.1, later.2)
    else writeOne n basics p rest

/-- Writes the given characters of a label, which ascend from `next` on. -/
def writeAll (label : List Char) (basics : Nat) : (next : Nat) → Progress → List Nat → List Char
  | _, _, [] => []
  | next, p, n :: ns =>
    let one := writeOne n basics { p with delta := p.delta + (n - next) * (p.written + 1) } label
    one.1 ++ writeAll label basics (n + 1) { one.2 with delta := one.2.delta + 1 } ns

def isBasic (c : Char) : Bool := c.toNat < 128

def encode (label : List Char) : List Char :=
  let basics := label.filter isBasic
  let others := ((label.filter (!isBasic ·)).map Char.toNat).mergeSort.eraseDups
  (if basics = [] then [] else basics ++ ['-']) ++
    writeAll label basics.length 128 ⟨0, 72, basics.length⟩ others

/-- How far the reading of a label is: its text, the character and the position that come next, the
bias, and the number that is being read with the weight of its next digit and its place. -/
structure Reading where
  text : List Char
  next : Nat
  position : Nat
  bias : Nat
  number : Nat
  weight : Nat
  place : Nat

namespace Reading

/-- A number has ended, which says how far the next insertion is from the last. -/
def insert? (r : Reading) (number : Nat) : Option Reading :=
  let size := r.text.length + 1
  let next := r.next + (r.position + number) / size
  let position := (r.position + number) % size
  if next.isValidChar then
    some ⟨r.text.take position ++ Char.ofNat next :: r.text.drop position, next, position + 1,
      nextBias number size (r.position = 0), 0, 1, 36⟩
  else none

/-- Reads one digit. -/
def digit? (r : Reading) (c : Char) : Option Reading :=
  match digitValue? c with
  | none => none
  | some d =>
    let number := r.number + d * r.weight
    let t := threshold r.bias r.place
    if d < t then r.insert? number
    else some { r with number, weight := r.weight * (36 - t), place := r.place + 36 }

/-- Reads all digits; no number may be left open. -/
def all? : Reading → List Char → Option (List Char)
  | r, [] => if r.place = 36 then some r.text else none
  | r, c :: rest => (r.digit? c).bind fun next => next.all? rest

end Reading

/-- The label that is written in ASCII. A hyphen at the front divides nothing. -/
def decode? (s : List Char) : Option (List Char) :=
  let numbers := (s.reverse.takeWhile (· ≠ '-')).reverse
  let basics := s.take (s.length - numbers.length - 1)
  let numbers := if basics = [] then s else numbers
  if basics.all isBasic then Reading.all? ⟨basics, 128, 0, 72, 0, 1, 36⟩ numbers else none

example : encode "bücher".toList = "bcher-kva".toList := by decide +kernel

example : decode? "bcher-kva".toList = some "bücher".toList := by decide +kernel

end MarketFeed.Url.Punycode
