import MarketFeed.Client.Fault
import MarketFeed.Envelope.Basic
import MarketFeed.Stream.Lane
import MarketFeed.Time.Instant

/-!
Waiting for one event of a stream. A search reads envelopes up to the first that its matcher answers
on; the others are lost. It fails when the stream has ended, and with a deadline also when that has
passed and nothing that is there answers.
-/

namespace MarketFeed

/-- What a search makes of one envelope; it goes on if that is nothing. -/
abbrev Matcher (β : Type) := Envelope → Option (Except ClientFault β)

/-- A matcher that may remember what it was shown. -/
abbrev Seeker (σ β : Type) := σ → Envelope → Option (Except ClientFault β) × σ

namespace Matcher

variable {β : Type}

/-- A matcher that remembers nothing. -/
def seeker (matcher : Matcher β) : Seeker Unit β := fun m e => (matcher e, m)

/-- The matcher of a function that finds something in an envelope. -/
def finding (f : Envelope → Option β) : Matcher β := fun e => (f e).map .ok

/-- The server's answer to a request for a topic, or the first publication on it. -/
def subscription (topic : Topic) : Matcher Unit
  | .ack t .subscribe success reason =>
    if t = topic then
      some (if success then .ok () else .error (.ofRefusal topic .subscribe reason))
    else none
  | .publish t _ => if t = topic then some (.ok ()) else none
  | _ => none

/-- The orders of an envelope among the extents that `wanted` names. -/
def ordersIn (wanted : Extent → Bool) (e : Envelope) : List Order :=
  match e.payload? with
  | some (.myOrders extent orders) => if wanted extent then orders else []
  | _ => []

/-- An order that was created. -/
def orderCreated (id : ClientOrderId) : Matcher Order :=
  finding fun e => (ordersIn (· = .created) e).find? (·.clientOrderId = id)

/-- An order that has a status, whether it is new, changed or part of a snapshot. -/
def orderStatus (id : ClientOrderId) (status : OrderStatus) : Matcher Order :=
  finding fun e => (ordersIn (fun _ => true) e).find? fun o => o.clientOrderId = id ∧ o.status = status

def figuresIn (e : Envelope) : List UpdatedBalance :=
  match e.payload? with
  | some (.balancesUpdated balances) => balances
  | _ => []

/-- An available balance above a given value. -/
def balanceAbove (symbol : Symbol) (initial : Decimal) : Matcher UpdatedBalance :=
  finding fun e => (figuresIn e).find? fun b =>
    b.symbol = symbol ∧ b.figure = .available ∧ initial.below b.value

def tradesIn (e : Envelope) : List Trade :=
  match e.payload? with
  | some (.myTrades .updated trades) => trades
  | _ => []

/-- A trade of an order that is settled. -/
def tradeSettled (order : OrderId) : Matcher Trade :=
  finding fun e => (tradesIn e).find? fun t => t.order = order ∧ t.settlement = .completed

/-- A publication that is a snapshot; its topic is what is found. -/
def snapshot : Matcher Topic := finding fun e => if e.isSnapshot then e.topic? else none

end Matcher

/-- Whether a deadline, if there is one, has come. -/
def isDue (deadline : Option Instant) (now : Instant) : Bool :=
  match deadline with
  | some d => d ≤ now
  | none => false

/-- What a deadline makes of a search that found nothing. -/
def expiry {β : Type} (deadline : Option Instant) (now : Instant) : Option (Except ClientFault β) :=
  if isDue deadline now then some (.error .timeout) else none

/-- A search takes envelopes up to the first that its matcher answers on, but no more than so many in a
turn. What is there is looked at before the deadline. -/
def Lane.seek {σ β : Type} (f : Seeker σ β) (deadline : Option Instant) (now : Instant) :
    (turns : Nat) → σ → Lane Envelope → Option (Except ClientFault β) × σ × Lane Envelope
  | 0, m, l => (expiry deadline now, m, l)
  | turns + 1, m, l =>
    match l.poll with
    | (.item e, l) =>
      match f m e with
      | (some found, m) => (some found, m, l)
      | (none, m) => seek f deadline now turns m l
    | (.ended, l) => (some (.error .streamEnded), m, l)
    | (.pending, l) => (expiry deadline now, m, l)

/-- One look at a stream by a search that is not cut short. -/
def Lane.search {β : Type} (matcher : Matcher β) (deadline : Option Instant) (now : Instant)
    (l : Lane Envelope) : Option (Except ClientFault β) × Lane Envelope :=
  let (outcome, _, l) := l.seek matcher.seeker deadline now (l.backlog.length + 1) ()
  (outcome, l)

/-- One look for the next envelope, which is nothing at the end of the stream. -/
def Lane.next (deadline : Option Instant) (now : Instant) (l : Lane Envelope) :
    Option (Except ClientFault (Option Envelope)) × Lane Envelope :=
  match l.poll with
  | (.item e, l) => (some (.ok (some e)), l)
  | (.ended, l) => (some (.ok none), l)
  | (.pending, l) => (if isDue deadline now then some (.error .timeout) else none, l)

end MarketFeed
