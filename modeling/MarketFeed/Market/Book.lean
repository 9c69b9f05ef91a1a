import MarketFeed.Market.Id
import MarketFeed.Market.Vocabulary
import MarketFeed.Schema.Record

/-!
Order books, their changes, and candles.
-/

namespace MarketFeed

open Schema

/-- One price level of a book. The price is kept as it is written. -/
structure BookEntry where
  price : String
  size : Decimal
deriving DecidableEq, Repr

namespace BookEntry

def codec : Codec BookEntry := .record "BookEntry"
  (mk <$> .required "price" .text price <*> .required "size" .decimal size)

/-- Whether a change with this level takes the level away. -/
def isRemoval (e : BookEntry) : Bool := e.size.isZero

end BookEntry

/-- The last price and how it moved. -/
structure LastTrade where
  price : String
  move : PriceMove
deriving DecidableEq, Repr

def LastTrade.codec : Codec LastTrade := .record "LastTrade"
  (mk <$> .required "price" .text price <*> .required "direction" PriceMove.codec move)

structure OrderBook where
  market : MarketId
  buy : List BookEntry
  sell : List BookEntry
  last : LastTrade
deriving DecidableEq, Repr

def OrderBook.codec : Codec OrderBook := .record "OrderBook"
  (mk <$> .required "marketId" Id.codec market
    <*> .required "buy" BookEntry.codec.list buy
    <*> .required "sell" BookEntry.codec.list sell
    <*> .required "last" LastTrade.codec last)

/-- A change of a book. -/
structure OrderBookDiff where
  sequenceNumber : UInt64
  market : MarketId
  buy : List BookEntry
  sell : List BookEntry
  last : Option LastTrade
deriving DecidableEq, Repr

def OrderBookDiff.codec : Codec OrderBookDiff := .record "OrderBookDiff"
  (mk <$> .required "sequenceNumber" .nat64 sequenceNumber
    <*> .required "marketId" Id.codec market
    <*> .required "buy" BookEntry.codec.list buy
    <*> .required "sell" BookEntry.codec.list sell
    <*> .nullable "last" LastTrade.codec last)

structure Candle where
  start : Timestamp
  opening : Decimal
  high : Decimal
  low : Decimal
  close : Decimal
  length : CandleLength
  openMarketCap : Option Decimal
  highMarketCap : Option Decimal
  lowMarketCap : Option Decimal
  closeMarketCap : Option Decimal
deriving DecidableEq, Repr

def Candle.codec : Codec Candle := .record "Ohlc"
  (mk <$> .required "start" .moment start
    <*> .required "open" .decimal opening
    <*> .required "high" .decimal high
    <*> .required "low" .decimal low
    <*> .required "close" .decimal close
    <*> .required "duration" CandleLength.codec length
    <*> .defaulted "openMarketCap" .decimal openMarketCap
    <*> .defaulted "highMarketCap" .decimal highMarketCap
    <*> .defaulted "lowMarketCap" .decimal lowMarketCap
    <*> .defaulted "closeMarketCap" .decimal closeMarketCap)

/-- Candles of one market: the whole history, or the latest ones. -/
structure Prices where
  market : MarketId
  length : CandleLength
  candles : List Candle
  full : Bool
  dailyChange : Decimal
  dailyMarketCapChange : Decimal
deriving DecidableEq, Repr

def Prices.codec : Codec Prices := .record "Prices"
  (mk <$> .required "market" Id.codec market
    <*> .required "duration" CandleLength.codec length
    <*> .required "ohlc" Candle.codec.list candles
    <*> .required "full" .boolean full
    <*> .required "dailyChange" .decimal dailyChange
    <*> .required "dailyMarketCapChange" .decimal dailyMarketCapChange)

/-- How much of a market's limits is used and left. -/
structure MarketConsumption where
  base : Int64
  quote : Int64
  baseLeft : Int64
  quoteLeft : Int64
deriving DecidableEq, Repr

/-- The codec of consumption; the server lists the fields in an array. -/
def MarketConsumption.codec : Codec MarketConsumption := .record "MarketConsumption"
  (mk <$> .required "base_amount" .int64 base
    <*> .required "quote_amount" .int64 quote
    <*> .required "base_amount_left" .int64 baseLeft
    <*> .required "quote_amount_left" .int64 quoteLeft)

end MarketFeed
