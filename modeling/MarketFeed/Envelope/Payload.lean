import MarketFeed.Envelope.Basic

/-!
Payloads: the member `data` of a frame that publishes. Its member `type` says what it is; for each kind
of topic there are one to three such words, and the other members are read accordingly.
-/

namespace MarketFeed

open Schema

def MarketTradesCreated.codec : Codec MarketTradesCreated := .record "MarketTradesData"
  (mk <$> .required "sequenceNumber" .nat64 sequenceNumber
    <*> .required "marketId" Id.codec market
    <*> .required "trades" MarketTrade.codec.list trades)

namespace Payload

/-- A payload with a single member. -/
def single {α : Type} (name : String) (c : Codec α) : Fields α α := .required name c id

/-- One kind of payload: its word, and how its members are read. -/
structure Form where
  word : String
  read : Json → Except Mismatch Publication

/-- A payload whose members are those of a record. -/
def Form.record {α : Type} (word : String) (c : Codec α) (make : α → Publication) : Form :=
  ⟨word, fun j => (c.read .direct j).map make⟩

/-- A payload with one member, which holds a value. -/
def Form.member {α : Type} (word name : String) (c : Codec α) (make : α → Publication) : Form :=
  .record word (.record word (single name c)) make

/-- The payloads of a kind of topic. -/
def forms : TopicKind → List Form
  | .orderBook => [.record "OrderBook" OrderBook.codec .orderBook]
  | .incrementalOrderBook =>
    [.record "OrderBook" OrderBook.codec .bookSnapshot,
      .record "OrderBookDiff" OrderBookDiff.codec .bookDiff]
  | .prices => [.record "Prices" Prices.codec .prices]
  | .myTrades =>
    [.member "MyTrades" "trades" Trade.codec.list (.myTrades .snapshot),
      .member "MyTradesCreated" "trades" Trade.codec.list (.myTrades .created),
      .member "MyTradesUpdated" "trades" Trade.codec.list (.myTrades .updated)]
  | .marketTrades => [.record "MarketTradesCreated" MarketTradesCreated.codec .marketTrades]
  | .myOrders =>
    [.member "MyOrders" "orders" Order.codec.list (.myOrders .snapshot),
      .member "MyOrdersCreated" "orders" Order.codec.list (.myOrders .created),
      .member "MyOrdersUpdated" "orders" Order.codec.list (.myOrders .updated)]
  | .balances =>
    [.member "Balances" "balances" Balance.codec.list .balances,
      .member "BalancesUpdated" "balances" UpdatedBalance.codec.list .balancesUpdated]
  | .consumption => [.member "Consumption" "consumption" MarketConsumption.codec .consumption]

/-- The words that servers are known to send. -/
def known : List String :=
  ["OrderBook", "OrderBookDiff", "Prices", "MyTrades", "MyTradesCreated", "MyTradesUpdated",
    "MarketTradesCreated", "MyOrders", "MyOrdersCreated", "MyOrdersUpdated", "Balances",
    "BalancesUpdated", "Consumption"]

def isKnown (word : String) : Bool := known.contains word

end Payload

namespace Publication

/-- The word for a publication. -/
def word : Publication → String
  | orderBook _ | bookSnapshot _ => "OrderBook"
  | bookDiff _ => "OrderBookDiff"
  | prices _ => "Prices"
  | myTrades .snapshot _ => "MyTrades"
  | myTrades .created _ => "MyTradesCreated"
  | myTrades .updated _ => "MyTradesUpdated"
  | marketTrades _ => "MarketTradesCreated"
  | myOrders .snapshot _ => "MyOrders"
  | myOrders .created _ => "MyOrdersCreated"
  | myOrders .updated _ => "MyOrdersUpdated"
  | balances _ => "Balances"
  | balancesUpdated _ => "BalancesUpdated"
  | consumption _ => "Consumption"

def content : Publication → Json
  | orderBook b | bookSnapshot b => OrderBook.codec.write b
  | bookDiff d => OrderBookDiff.codec.write d
  | prices p => Prices.codec.write p
  | myTrades _ ts => Trade.codec.list.write ts
  | marketTrades c => MarketTradesCreated.codec.write c
  | myOrders _ os => Order.codec.list.write os
  | balances bs => Balance.codec.list.write bs
  | balancesUpdated bs => UpdatedBalance.codec.list.write bs
  | consumption c => MarketConsumption.codec.write c

end Publication

end MarketFeed
