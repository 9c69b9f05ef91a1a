import MarketFeed.Envelope.Decode

/-!
Frames as the server writes them. The document of an envelope carries its type first; a publication
carries its topic and a payload, whose word comes before the members of what is published. Trades of a
market and figures of consumption are written as rows, that is as the lists of their fields.
-/

namespace MarketFeed

open Schema

def Json.contents : Json → Json.Members
  | .object ms => ms
  | _ => []

/-- The row of a record: its fields without their names. -/
def Json.row (j : Json) : Json := .array (j.contents.map (·.2))

namespace Publication

/-- The members of a payload, its word apart. -/
def members : Publication → Json.Members
  | orderBook b | bookSnapshot b => (OrderBook.codec.write b).contents
  | bookDiff d => (OrderBookDiff.codec.write d).contents
  | prices p => (Prices.codec.write p).contents
  | myTrades _ ts => [("trades", Trade.codec.list.write ts)]
  | marketTrades c =>
    [("sequenceNumber", Codec.nat64.write c.sequenceNumber), ("marketId", Id.codec.write c.market),
      ("trades", .array (c.trades.map fun t => (MarketTrade.codec.write t).row))]
  | myOrders _ os => [("orders", Order.codec.list.write os)]
  | balances bs => [("balances", Balance.codec.list.write bs)]
  | balancesUpdated bs => [("balances", UpdatedBalance.codec.list.write bs)]
  | consumption c => [("consumption", (MarketConsumption.codec.write c).row)]

def document (p : Publication) : Json := .object (("type", .string p.word) :: p.members)

/-- Whether a publication can stand under a topic of a kind and keeps all of itself when it is
written: moments of market trades are written in milliseconds. -/
def fits (kind : TopicKind) (p : Publication) : Bool :=
  decide (p.kind = kind) &&
    match p with
    | marketTrades c => c.trades.all fun t => Timestamp.ofMillis? t.timestamp.toMillis = some t.timestamp
    | _ => true

end Publication

namespace Envelope

def document : Envelope → Json
  | heartbeat => .object [("type", .string "Pong")]
  | ack topic action success reason =>
    .object ([("type", .string "SubscriptionAck"), ("topic", Topic.codec.write topic),
      ("action", Action.codec.write action), ("success", .bool success)] ++
        reason.toList.map fun r => ("error", .string r))
  | publish topic payload =>
    .object [("type", .string "Publish"), ("topic", Topic.codec.write topic),
      ("data", payload.document)]

def text (e : Envelope) : String := e.document.compact

/-- Whether an envelope is what its frame says. -/
def fits : Envelope → Bool
  | publish topic payload => payload.fits topic.kind
  | _ => true

end Envelope

end MarketFeed
