import MarketFeed.Schema.Codec

/-!
The small vocabularies of the feed: sides, statuses, roles and the like. Each is a choice among names.
-/

namespace MarketFeed

open Schema (Codec)

inductive Side where
  | buy
  | sell
deriving DecidableEq, Repr

def Side.name : Side → String
  | .buy => "Buy"
  | .sell => "Sell"

def Side.all : List Side := [.buy, .sell]

/-- The codec of a vocabulary from its words in order. -/
def vocabulary {α : Type} (all : List α) (name : α → String) : Codec α :=
  .plainChoice (all.map fun a => (name a, a)) name

@[inherit_doc vocabulary]
def Side.codec : Codec Side := vocabulary all name

/-- Where an order stands in its life. -/
inductive OrderStatus where
  | opened
  | partly
  | filled
  | cancelled
  | expired
  | rejected
  | failed
deriving DecidableEq, Repr

namespace OrderStatus

def name : OrderStatus → String
  | opened => "Open"
  | partly => "Partial"
  | filled => "Filled"
  | cancelled => "Cancelled"
  | expired => "Expired"
  | rejected => "Rejected"
  | failed => "Failed"

def all : List OrderStatus := [opened, partly, filled, cancelled, expired, rejected, failed]

@[inherit_doc vocabulary]
def codec : Codec OrderStatus := vocabulary all name

/-- Whether an order of this status can no longer change. -/
def isFinal : OrderStatus → Bool
  | opened | partly => false
  | _ => true

end OrderStatus

/-- Whether an execution took liquidity or made it. -/
inductive ExecutionRole where
  | taker
  | maker
deriving DecidableEq, Repr

def ExecutionRole.name : ExecutionRole → String
  | .taker => "Taker"
  | .maker => "Maker"

@[inherit_doc vocabulary]
def ExecutionRole.codec : Codec ExecutionRole := vocabulary [.taker, .maker] name

/-- How far the settlement of a trade is. -/
inductive SettlementStatus where
  | pending
  | settling
  | pendingRollback
  | failedSettling
  | completed
  | failed
deriving DecidableEq, Repr

def SettlementStatus.name : SettlementStatus → String
  | .pending => "Pending"
  | .settling => "Settling"
  | .pendingRollback => "PendingRollback"
  | .failedSettling => "FailedSettling"
  | .completed => "Completed"
  | .failed => "Failed"

@[inherit_doc vocabulary]
def SettlementStatus.codec : Codec SettlementStatus :=
  vocabulary [.pending, .settling, .pendingRollback, .failedSettling, .completed, .failed] name

/-- Which figure of a balance changed. -/
inductive BalanceFigure where
  | total
  | available
deriving DecidableEq, Repr

def BalanceFigure.name : BalanceFigure → String
  | .total => "Total"
  | .available => "Available"

@[inherit_doc vocabulary]
def BalanceFigure.codec : Codec BalanceFigure := vocabulary [.total, .available] name

/-- How the last price moved. -/
inductive PriceMove where
  | up
  | down
  | unchanged
deriving DecidableEq, Repr

def PriceMove.name : PriceMove → String
  | .up => "Up"
  | .down => "Down"
  | .unchanged => "Unchanged"

@[inherit_doc vocabulary]
def PriceMove.codec : Codec PriceMove := vocabulary [.up, .down, .unchanged] name

/-- The length of a candle. -/
inductive CandleLength where
  | minutes1
  | minutes5
  | minutes15
  | hours1
  | hours4
  | days1
deriving DecidableEq, Repr

namespace CandleLength

def name : CandleLength → String
  | minutes1 => "P1M"
  | minutes5 => "P5M"
  | minutes15 => "P15M"
  | hours1 => "P1H"
  | hours4 => "P4H"
  | days1 => "P1D"

def all : List CandleLength := [minutes1, minutes5, minutes15, hours1, hours4, days1]

/-- A candle of five minutes, unless another is asked for. -/
instance : Inhabited CandleLength := ⟨minutes5⟩

@[inherit_doc vocabulary]
def codec : Codec CandleLength := vocabulary all name

def seconds : CandleLength → Nat
  | minutes1 => 60
  | minutes5 => 300
  | minutes15 => 900
  | hours1 => 3600
  | hours4 => 14400
  | days1 => 86400

end CandleLength

end MarketFeed
