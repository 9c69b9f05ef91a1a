import MarketFeed.Schema.Mismatch
import MarketFeed.Decimal.Reader

/-!
Codecs: how a type is read off a document and written as one. The members of a tagged choice are kept
aside until its tag is known, and what was kept is read a little more freely; the stage tells which of
the two a reader faces. The law of a codec is that it reads back what it writes.
-/

namespace MarketFeed.Schema

/-- Whether a document is read as it stands, or after it was kept aside with the other members of a
tagged choice. -/
inductive Stage where
  | direct
  | kept
deriving DecidableEq, Repr

/-- Reads a type off a document. -/
abbrev Reader (α : Type) := Stage → Json → Except Mismatch α

/-- How a type is read and written. -/
structure Codec (α : Type) where
  read : Reader α
  write : α → Json

namespace Codec

/-- A codec for a type with the same content. -/
def imap {α β : Type} (c : Codec α) (f : α → β) (g : β → α) : Codec β where
  read st j := (c.read st j).map f
  write b := c.write (g b)

def text : Codec String where
  read _
    | .string s => .ok s
    | j => .error (.ofType j .text)
  write := .string

def boolean : Codec Bool where
  read _
    | .bool b => .ok b
    | j => .error (.ofType j .boolean)
  write := .bool

/-- Integers between two bounds. -/
def integerWithin (low high : Int) (wanted : Wanted) : Reader Int := fun _ j =>
  match j with
  | .number (.integer n) =>
    if low ≤ n ∧ n ≤ high then .ok n else .error (.wrongValue (.integer n) wanted)
  | j => .error (.ofType j wanted)

def int64 : Codec Int64 where
  read st j :=
    (integerWithin (-(1 <<< 63 : Nat)) ((1 <<< 63 : Nat) - 1) .integer st j).map Int64.ofInt
  write n := .int n.toInt

def nat64 : Codec UInt64 where
  read st j :=
    (integerWithin 0 ((1 <<< 64 : Nat) - 1) .natural st j).map fun n => UInt64.ofNat n.toNat
  write n := .int n.toNat

/-- Decimals, which stand in a document as texts. -/
def decimal : Codec Decimal where
  read _
    | .string s =>
      match Decimal.read s.toList with
      | some d => .ok d
      | none => .error (.wrongValue (.text s) .decimal)
    | j => .error (.ofType j .decimal)
  write d := .string (toString d)

def moment : Codec Timestamp where
  read _
    | .string s =>
      match Calendar.read s.toList with
      | .ok t => .ok t
      | .error e => .error (.unreadableMoment e)
    | j => .error (.ofType j .moment)
  write t := .string (String.ofList t.text)

/-- Moments as counts of milliseconds. -/
def milliseconds : Codec Timestamp where
  read _
    | .number (.integer n) =>
      match Timestamp.ofMillis? n with
      | some t => .ok t
      | none => .error (.uncoveredMoment n)
    | j => .error (.ofType j .milliseconds)
  write t := .int t.toMillis

/-- Reads each of some documents in turn. -/
def readEach {α : Type} (r : Json → Except Mismatch α) : List Json → Except Mismatch (List α)
  | [] => .ok []
  | j :: rest =>
    match r j with
    | .error e => .error e
    | .ok a => (readEach r rest).map (a :: ·)

def list {α : Type} (c : Codec α) : Codec (List α) where
  read st
    | .array items => readEach (c.read st) items
    | j => .error (.ofType j .sequence)
  write xs := .array (xs.map c.write)

/-- Values that may be absent: null stands for absence. -/
def option {α : Type} (c : Codec α) : Codec (Option α) where
  read st
    | .null => .ok none
    | j => (c.read st j).map some
  write
    | none => .null
    | some a => c.write a

/-- What was kept is nothing if it is null or, more freely, an empty object. -/
def readNothing (st : Stage) : Json → Except Mismatch Unit
  | .null => .ok ()
  | .object [] => if st = .kept then .ok () else .error (.wrongType .map .nothing)
  | j => .error (.ofType j .nothing)

/-- The value of a name. -/
def choose {α : Type} (names : List (String × α)) (name : String) : Except Mismatch α :=
  match names.find? (·.1 = name) with
  | some p => .ok p.2
  | none => .error (.unknownVariant name (names.map (·.1)))

/-- A choice among names: the name as a text, or as the one key of an object with nothing in it. -/
def plainChoice {α : Type} (names : List (String × α)) (name : α → String) : Codec α where
  read st
    | .string s => choose names s
    | .object [(k, v)] =>
      match choose names k with
      | .error e => .error e
      | .ok a => (readNothing st v).map fun _ => a
    | .object _ => .error (.wrongValue .map .singleKey)
    | j => .error (.ofType j .plainChoice)
  write a := .string (name a)

end Codec

end MarketFeed.Schema
