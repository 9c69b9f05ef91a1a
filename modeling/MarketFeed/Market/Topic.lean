import MarketFeed.Market.Id
import MarketFeed.Market.Vocabulary
import MarketFeed.Schema.Choice

/-!
Topics: the streams of events that can be subscribed to. Two topics are the same if their kind and all
their parameters are.
-/

namespace MarketFeed

open Schema

/-- A stream of events. -/
inductive Topic where
  | orderBook (market : MarketId)
  | incrementalOrderBook (market : MarketId)
  | prices (market : MarketId) (length : CandleLength)
  | myTrades
  | marketTrades (market : MarketId)
  | myOrders
  | balances
  | consumption (market : MarketId)
deriving DecidableEq, Repr

/-- A topic without its parameters. -/
inductive TopicKind where
  | orderBook
  | incrementalOrderBook
  | prices
  | myTrades
  | marketTrades
  | myOrders
  | balances
  | consumption
deriving DecidableEq, Repr

namespace TopicKind

def name : TopicKind → String
  | orderBook => "OrderBook"
  | incrementalOrderBook => "IncrementalOrderBook"
  | prices => "Prices"
  | myTrades => "MyTrades"
  | marketTrades => "MarketTrades"
  | myOrders => "MyOrders"
  | balances => "Balances"
  | consumption => "Consumption"

instance : ToString TopicKind := ⟨name⟩

end TopicKind

namespace Topic

def kind : Topic → TopicKind
  | orderBook _ => .orderBook
  | incrementalOrderBook _ => .incrementalOrderBook
  | prices _ _ => .prices
  | myTrades => .myTrades
  | marketTrades _ => .marketTrades
  | myOrders => .myOrders
  | balances => .balances
  | consumption _ => .consumption

def market? : Topic → Option MarketId
  | orderBook m | incrementalOrderBook m | prices m _ | marketTrades m | consumption m => some m
  | myTrades | myOrders | balances => none

/-- Whether a topic is the caller's own, which is to say about no market. -/
def isPrivate (t : Topic) : Bool := t.market?.isNone

/-- The candle length of a topic; only prices have one of their own. -/
def candleLength : Topic → CandleLength
  | prices _ l => l
  | _ => default

/-- The kind, and the parameters in parentheses. -/
def display (t : Topic) : String :=
  match t with
  | prices m l => "Prices(" ++ m.text ++ ", " ++ l.name ++ ")"
  | t =>
    match t.market? with
    | some m => t.kind.name ++ "(" ++ m.text ++ ")"
    | none => t.kind.name

instance : ToString Topic := ⟨display⟩

def marketField : Fields Topic MarketId :=
  .required "marketId" Id.codec fun t => t.market?.getD default

def fieldsOf : TopicKind → Fields Topic Topic
  | .orderBook => orderBook <$> marketField
  | .incrementalOrderBook => incrementalOrderBook <$> marketField
  | .prices =>
    prices <$> marketField <*> .required "duration" CandleLength.codec candleLength
  | .myTrades => pure myTrades
  | .marketTrades => marketTrades <$> marketField
  | .myOrders => pure myOrders
  | .balances => pure balances
  | .consumption => consumption <$> marketField

def variant (k : TopicKind) : Variant Topic := ⟨k.name, k.name, fieldsOf k⟩

def choice : Choice Topic where
  name := "Topic"
  variants := [variant .orderBook, variant .incrementalOrderBook, variant .prices,
    variant .myTrades, variant .marketTrades, variant .myOrders, variant .balances,
    variant .consumption]
  variantOf t := variant t.kind

def codec : Codec Topic := choice.codec

end Topic

end MarketFeed
