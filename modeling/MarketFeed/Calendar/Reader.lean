import MarketFeed.Calendar.Timestamp
import MarketFeed.Text.Space

/-!
Reading a moment: `year-month-day`, then `T`, `t` or a blank, then `hour:minute:second` with an
optional fraction, then `Z`, `UTC` or an offset. White space may stand before every number and before
the separators, a year may have a sign and any number of digits, the other numbers have one or two
digits, and of a fraction the first nine digits count. Faults are found from left to right; whether the
date exists and the offset is less than a day is looked at in the end.
-/

namespace MarketFeed.Calendar

/-- Why a text is no moment. -/
inductive Fault where
  | tooShort
  | invalid
  | outOfRange
  | tooLong
deriving DecidableEq, Repr

def Fault.message : Fault → String
  | .tooShort => "premature end of input"
  | .invalid => "input contains invalid characters"
  | .outOfRange => "input is out of range"
  | .tooLong => "trailing input"

/-- A step that takes something off the front of a text. -/
abbrev Step (α : Type) := List Char → Except Fault (α × List Char)

/-- A number of one to `most` digits; it must fit 63 bits. -/
def number (most : Option Nat) : Step Nat := fun s =>
  let run := s.takeWhile Char.isDigit
  let ds := match most with
    | some m => run.take m
    | none => run
  match s with
  | [] => .error .tooShort
  | _ :: _ =>
    if ds = [] then .error .invalid
    else
      let n := ds.foldl (fun n c => n * 10 + (c.toNat - 48)) 0
      if n < 1 <<< 63 then .ok (n, s.drop ds.length) else .error .outOfRange

/-- A number after white space that must lie between two bounds. -/
def bounded (low high : Nat) : Step Nat := fun s => do
  let (n, rest) ← number (some 2) (Text.trimStart s)
  if low ≤ n ∧ n ≤ high then .ok (n, rest) else .error .outOfRange

/-- A year: four digits at most, or any number of them after a sign. -/
def year : Step Int := fun s => do
  let (y, rest) ← match Text.trimStart s with
    | '-' :: rest => (number none rest).map fun p => (-(p.1 : Int), p.2)
    | '+' :: rest => (number none rest).map fun p => ((p.1 : Int), p.2)
    | rest => (number (some 4) rest).map fun p => ((p.1 : Int), p.2)
  if -(1 <<< 31 : Nat) ≤ y ∧ y < (1 <<< 31 : Nat) then .ok (y, rest) else .error .outOfRange

def separator (c : Char) : Step Unit := fun s =>
  match Text.trimStart s with
  | [] => .error .tooShort
  | d :: rest => if d = c then .ok ((), rest) else .error .invalid

/-- What stands between the date and the time. -/
def dateEnd : Step Unit
  | [] => .error .tooShort
  | c :: rest => if c = 'T' ∨ c = 't' ∨ c = ' ' then .ok ((), rest) else .error .invalid

/-- The fraction of a second in nanoseconds; digits after the ninth are dropped. -/
def fraction : Step Nat
  | '.' :: s => do
    let (n, rest) ← number (some 9) s
    let places := s.length - rest.length
    .ok (n * Nat.pow 10 (9 - places), rest.dropWhile Char.isDigit)
  | s => .ok (0, s)

def twoDigits (tens : Char) : Step Nat
  | a :: b :: rest =>
    if a.isDigit ∧ b.isDigit then
      if a ≤ tens then .ok ((a.toNat - 48) * 10 + (b.toNat - 48), rest) else .error .outOfRange
    else .error .invalid
  | [c] => if c.utf8Size < 2 then .error .tooShort else .error .invalid
  | [] => .error .tooShort

def offsetSign : Step Bool
  | [] => .error .tooShort
  | c :: rest =>
    if c = '+' then .ok (false, rest)
    else if c = '-' ∨ c = '\u2212' then .ok (true, rest)
    else .error .invalid

/-- An offset from universal time in seconds. -/
def offset : Step Int := fun s =>
  match s with
  | 'Z' :: rest | 'z' :: rest => .ok (0, rest)
  | _ => do
    let (negative, s) ← offsetSign s
    let (hours, s) ← twoDigits '9' s
    let s := s.dropWhile fun c => c = ':' || Text.isSpace c
    let (minutes, s) ← twoDigits '5' s
    let size : Int := hours * 3600 + minutes * 60
    .ok (if negative then -size else size, s)

/-- The zone: `UTC` in any case, or an offset. -/
def zone : Step Int := fun s =>
  match s with
  | u :: t :: c :: rest =>
    if u.toUpper = 'U' ∧ t.toUpper = 'T' ∧ c.toUpper = 'C' then .ok (0, rest) else offset s
  | _ => offset s

def moment (date : Date) (hour minute second nanos : Nat) (offset : Int) : Except Fault Timestamp :=
  if ¬date.isValid ∨ offset ≤ -86400 ∨ 86400 ≤ offset then .error .outOfRange
  else
    let (second, nanos) := if second = 60 then (59, nanos + 1000000000) else (second, nanos)
    let inDay := hour * 3600 + minute * 60 + second
    match Timestamp.of? (date.toDay * 86400 + inDay - offset) nanos with
    | some t => .ok t
    | none => .error .outOfRange

def read (s : List Char) : Except Fault Timestamp := do
  let (y, s) ← year s
  let ((), s) ← separator '-' s
  let (mo, s) ← bounded 1 12 s
  let ((), s) ← separator '-' s
  let (d, s) ← bounded 1 31 s
  let ((), s) ← dateEnd s
  let (h, s) ← bounded 0 23 s
  let ((), s) ← separator ':' s
  let (mi, s) ← bounded 0 59 s
  let ((), s) ← separator ':' s
  let (sec, s) ← bounded 0 60 s
  let (nanos, s) ← fraction s
  let (off, s) ← zone (Text.trimStart s)
  if Text.trimStart s = [] then moment ⟨y, mo, d⟩ h mi sec nanos off else .error .tooLong

end MarketFeed.Calendar
