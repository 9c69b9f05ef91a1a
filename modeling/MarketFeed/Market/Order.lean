import MarketFeed.Market.Id
import MarketFeed.Market.Vocabulary
import MarketFeed.Schema.Choice

/-!
Orders. The members of an order hold its common fields and, beside them, the tag and the fields of its
kind.
-/

namespace MarketFeed

open Schema

/-- What kind of order it is. -/
inductive OrderKind where
  | market
  | backToBackMarket (second : MarketId)
  | limit (originalAmount : Decimal) (autoReduced : Bool) (price : Decimal)
deriving DecidableEq, Repr

namespace OrderKind

/-- The second market of a back-to-back order. -/
def second : OrderKind → MarketId
  | backToBackMarket m => m
  | _ => default

def originalAmount : OrderKind → Decimal
  | limit a _ _ => a
  | _ => default

def autoReduced : OrderKind → Bool
  | limit _ r _ => r
  | _ => false

def price : OrderKind → Decimal
  | limit _ _ p => p
  | _ => default

def marketVariant : Variant OrderKind := ⟨"market", "Market", pure market⟩

/-- A market order over two markets. -/
def backToBackVariant : Variant OrderKind :=
  ⟨"backToBackMarket", "BackToBackMarket",
    backToBackMarket <$> .required "secondMarketId" Id.codec second⟩

def limitVariant : Variant OrderKind :=
  ⟨"limit", "Limit",
    limit <$> .required "originalAmount" .decimal originalAmount
      <*> .required "autoReduced" .boolean autoReduced
      <*> .required "price" .decimal price⟩

def choice : Choice OrderKind where
  name := "OrderKind"
  variants := [marketVariant, backToBackVariant, limitVariant]
  variantOf
    | market => marketVariant
    | backToBackMarket _ => backToBackVariant
    | limit _ _ _ => limitVariant

def codec : Codec OrderKind := choice.codec

end OrderKind

/-- A fill of an order. -/
structure Execution where
  trade : TradeId
  timestamp : Timestamp
  amount : Decimal
  price : Decimal
  role : ExecutionRole
  feeAmount : Decimal
  feeSymbol : Symbol
  market : MarketId
deriving DecidableEq, Repr

def Execution.codec : Codec Execution := .record "Execution"
  (mk <$> .required "tradeId" Id.codec trade
    <*> .required "timestamp" .moment timestamp
    <*> .required "amount" .decimal amount
    <*> .required "price" .decimal price
    <*> .required "role" ExecutionRole.codec role
    <*> .required "feeAmount" .decimal feeAmount
    <*> .required "feeSymbol" Id.codec feeSymbol
    <*> .required "marketId" Id.codec market)

/-- When an order was made, changed and closed. -/
structure Timing where
  createdAt : Timestamp
  updatedAt : Option Timestamp
  closedAt : Option Timestamp
  sequencerTime : Decimal
deriving DecidableEq, Repr

def Timing.codec : Codec Timing := .record "Timing"
  (mk <$> .required "createdAt" .moment createdAt
    <*> .nullable "updatedAt" .moment updatedAt
    <*> .nullable "closedAt" .moment closedAt
    <*> .required "sequencerTimeNs" .decimal sequencerTime)

structure Order where
  id : OrderId
  clientOrderId : ClientOrderId
  status : OrderStatus
  market : MarketId
  side : Side
  amount : Decimal
  executions : List Execution
  timing : Timing
  kind : OrderKind
deriving DecidableEq, Repr

namespace Order

def commonFields : Fields Order (OrderKind → Order) :=
  mk <$> .required "id" Id.codec id
    <*> .required "clientOrderId" Id.codec clientOrderId
    <*> .required "status" OrderStatus.codec status
    <*> .required "marketId" Id.codec market
    <*> .required "side" Side.codec side
    <*> .required "amount" .decimal amount
    <*> .required "executions" Execution.codec.list executions
    <*> .required "timing" Timing.codec timing

/-- The members of an order that are not common to all orders. -/
def kindMembers (ms : Json.Members) : Json.Members :=
  ms.filter fun p => (commonFields.slot? p.1).isNone

/-- The codec of an order. The common fields are looked at before anything about the kind, whose
members are kept aside meanwhile. -/
def codec : Codec Order where
  read st
    | .object ms =>
      match commonFields.readMembers st ms with
      | .error e => .error e
      | .ok make => (OrderKind.choice.readMembers .kept (kindMembers ms)).map make
    | j => .error (.ofType j (.record "Order"))
  write o := .object (commonFields.members o ++ OrderKind.choice.members o.kind)

end Order

end MarketFeed
