import MarketFeed.Schema.Codec

/-!
Identifiers. All are texts, kept as they are; the kind of an identifier is part of its type, so that
none stands for another. They are ordered by code point, which is the order of their UTF-8 bytes.
-/

namespace MarketFeed

/-- What an identifier names. -/
inductive IdKind where
  | market
  | symbol
  | order
  | clientOrder
  | trade
deriving DecidableEq, Repr

structure Id (kind : IdKind) where
  text : String
deriving DecidableEq, Repr, Inhabited

/-- A market, usually `BASE/QUOTE`. -/
abbrev MarketId := Id .market

/-- An asset. -/
abbrev Symbol := Id .symbol

/-- An order, as the server numbers it. -/
abbrev OrderId := Id .order

/-- An order, as the caller numbers it. -/
abbrev ClientOrderId := Id .clientOrder

/-- A trade. -/
abbrev TradeId := Id .trade

namespace Id

variable {kind : IdKind}

instance : ToString (Id kind) := ⟨Id.text⟩

def codec : Schema.Codec (Id kind) := Schema.Codec.text.imap Id.mk Id.text

def le (a b : Id kind) : Bool := decide (a.text ≤ b.text)

/-- Drops repetitions of neighbours. -/
def dropRepeated : List (Id kind) → List (Id kind)
  | [] => []
  | [a] => [a]
  | a :: b :: rest => if a = b then dropRepeated (b :: rest) else a :: dropRepeated (b :: rest)

/-- The identifiers of a list in order, each once. -/
def sortedUnique (ids : List (Id kind)) : List (Id kind) := dropRepeated (ids.mergeSort Id.le)

def byteLength (i : Id kind) : Nat := i.text.utf8ByteSize

/-- The two sides of a market, before and after the first slash. -/
def baseAndQuote (m : MarketId) : Option (String × String) :=
  let cs := m.text.toList
  match cs.dropWhile (· ≠ '/') with
  | [] => none
  | _ :: quote => some (String.ofList (cs.takeWhile (· ≠ '/')), String.ofList quote)

end Id

end MarketFeed
