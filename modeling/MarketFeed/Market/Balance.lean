import MarketFeed.Market.Id
import MarketFeed.Market.Vocabulary
import MarketFeed.Schema.Record

/-!
Balances, and single figures of them that changed.
-/

namespace MarketFeed

open Schema

/-- The balance of one asset. -/
structure Balance where
  symbol : Symbol
  total : Decimal
  available : Decimal
  lastUpdated : Timestamp
  value : Decimal
deriving DecidableEq, Repr

def Balance.codec : Codec Balance := .record "Balance"
  (mk <$> .required "symbol" Id.codec symbol
    <*> .required "total" .decimal total
    <*> .required "available" .decimal available
    <*> .required "lastUpdated" .moment lastUpdated
    <*> .required "usdcValue" .decimal value)

/-- One figure that changed. -/
structure UpdatedBalance where
  symbol : Symbol
  figure : BalanceFigure
  value : Decimal
  lastUpdated : Timestamp
deriving DecidableEq, Repr

def UpdatedBalance.codec : Codec UpdatedBalance := .record "UpdatedBalance"
  (mk <$> .required "symbol" Id.codec symbol
    <*> .required "type" BalanceFigure.codec figure
    <*> .required "value" .decimal value
    <*> .required "lastUpdated" .moment lastUpdated)

end MarketFeed
