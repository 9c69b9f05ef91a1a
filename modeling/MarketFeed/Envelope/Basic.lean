import MarketFeed.Market.Book
import MarketFeed.Market.Order
import MarketFeed.Market.Trade
import MarketFeed.Market.Balance
import MarketFeed.Market.Message

/-!
Envelopes: what the server sends, one decoded unit at a time. A publication either replaces what is
known of its topic, and is a snapshot, or amends it.
-/

namespace MarketFeed

/-- How a list of trades or orders relates to the ones before it. -/
inductive Extent where
  | snapshot
  | created
  | updated
deriving DecidableEq, Repr

/-- New trades of a market. -/
structure MarketTradesCreated where
  sequenceNumber : UInt64
  market : MarketId
  trades : List MarketTrade
deriving DecidableEq, Repr

/-- What is published on a topic. -/
inductive Publication where
  | orderBook (book : OrderBook)
  | bookSnapshot (book : OrderBook)
  | bookDiff (diff : OrderBookDiff)
  | prices (prices : Prices)
  | myTrades (extent : Extent) (trades : List Trade)
  | marketTrades (created : MarketTradesCreated)
  | myOrders (extent : Extent) (orders : List Order)
  | balances (balances : List Balance)
  | balancesUpdated (balances : List UpdatedBalance)
  | consumption (consumption : MarketConsumption)
deriving DecidableEq, Repr

namespace Publication

/-- Whether the publication replaces what is known of its topic. -/
def isSnapshot : Publication → Bool
  | orderBook _ | bookSnapshot _ | balances _ | consumption _ => true
  | prices p => p.full
  | myTrades e _ | myOrders e _ => e = .snapshot
  | bookDiff _ | marketTrades _ | balancesUpdated _ => false

def kind : Publication → TopicKind
  | orderBook _ => .orderBook
  | bookSnapshot _ | bookDiff _ => .incrementalOrderBook
  | prices _ => .prices
  | myTrades _ _ => .myTrades
  | marketTrades _ => .marketTrades
  | myOrders _ _ => .myOrders
  | balances _ | balancesUpdated _ => .balances
  | consumption _ => .consumption

end Publication

/-- One decoded unit: the answer to a heartbeat, the answer to a request, or a publication. -/
inductive Envelope where
  | heartbeat
  | ack (topic : Topic) (action : Action) (success : Bool) (reason : Option String)
  | publish (topic : Topic) (payload : Publication)
deriving DecidableEq, Repr

namespace Envelope

def topic? : Envelope → Option Topic
  | heartbeat => none
  | ack t _ _ _ | publish t _ => some t

def payload? : Envelope → Option Publication
  | publish _ p => some p
  | _ => none

/-- Whether an envelope is about one of the caller's own topics. -/
def isPrivate (e : Envelope) : Bool :=
  match e.topic? with
  | some t => t.isPrivate
  | none => false

def isSnapshot (e : Envelope) : Bool :=
  match e.payload? with
  | some p => p.isSnapshot
  | none => false

end Envelope

end MarketFeed
