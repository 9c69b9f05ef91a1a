import MarketFeed.Market.Id
import MarketFeed.Market.Vocabulary
import MarketFeed.Schema.Record

/-!
Trades: the caller's own, and those of a market.
-/

namespace MarketFeed

open Schema

/-- A trade of the caller. -/
structure Trade where
  id : TradeId
  timestamp : Timestamp
  order : OrderId
  clientOrder : Option ClientOrderId
  market : MarketId
  role : ExecutionRole
  counterOrder : OrderId
  side : Side
  amount : Decimal
  price : Decimal
  feeAmount : Decimal
  feeSymbol : Symbol
  settlement : SettlementStatus
  error : Option String
deriving DecidableEq, Repr

def Trade.codec : Codec Trade := .record "Trade"
  (mk <$> .required "id" Id.codec id
    <*> .required "timestamp" .moment timestamp
    <*> .required "orderId" Id.codec order
    <*> .nullable "clientOrderId" Id.codec clientOrder
    <*> .required "marketId" Id.codec market
    <*> .required "executionRole" ExecutionRole.codec role
    <*> .required "counterOrderId" Id.codec counterOrder
    <*> .required "side" Side.codec side
    <*> .required "amount" .decimal amount
    <*> .required "price" .decimal price
    <*> .required "feeAmount" .decimal feeAmount
    <*> .required "feeSymbol" Id.codec feeSymbol
    <*> .required "settlementStatus" SettlementStatus.codec settlement
    <*> .defaulted "error" .text error)

/-- A trade of a market. -/
structure MarketTrade where
  id : TradeId
  side : Side
  amount : Decimal
  price : Decimal
  notional : Decimal
  timestamp : Timestamp
  takerNickname : String
  taker : Decimal
deriving DecidableEq, Repr

/-- The codec of a market trade; the server lists the fields in an array. -/
def MarketTrade.codec : Codec MarketTrade := .record "MarketTrade"
  (mk <$> .required "id" Id.codec id
    <*> .required "side" Side.codec side
    <*> .required "amount" .decimal amount
    <*> .required "price" .decimal price
    <*> .required "notional" .decimal notional
    <*> .required "timestamp" .milliseconds timestamp
    <*> .required "taker_nickname" .text takerNickname
    <*> .required "taker_id" .decimal taker)

end MarketFeed
