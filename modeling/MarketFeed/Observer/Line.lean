import MarketFeed.Envelope.Basic
import MarketFeed.Session.PendingAcks

/-!
What an observer prints about the events of a feed. Answers to heartbeats are counted and not printed.
-/

namespace MarketFeed.Observer

/-- A line, and where it is printed. -/
inductive Line where
  | out (text : String)
  | err (text : String)
deriving DecidableEq, Repr

def balanceText (b : Balance) : String :=
  "[Balance] " ++ b.symbol.text ++ " total=" ++ toString b.total ++ " available="
    ++ toString b.available

def figureText (b : UpdatedBalance) : String :=
  "[Balance update] " ++ b.symbol.text ++ " " ++ b.figure.name ++ "=" ++ toString b.value

def orderText (o : Order) : String :=
  "[Order] " ++ o.id.text ++ " (" ++ o.clientOrderId.text ++ ") " ++ o.side.name ++ " "
    ++ o.status.name ++ " amount=" ++ toString o.amount

def diffText (t : Topic) (d : OrderBookDiff) : String :=
  "[Book diff] " ++ t.display ++ " seq=" ++ toString d.sequenceNumber ++ " buys="
    ++ toString d.buy.length ++ " sells=" ++ toString d.sell.length

/-- Any other publication, with the number of the event. -/
def otherText (t : Topic) (p : Publication) (count : Nat) : String :=
  "[" ++ t.display ++ " #" ++ toString count ++ "] snapshot="
    ++ (if p.isSnapshot then "true" else "false")

/-- The answer to a request, with the number of the event, and a reason if there is one. -/
def ackTexts (t : Topic) (a : Action) (success : Bool) (reason : Option String) (count : Nat) :
    List String :=
  ("[Ack #" ++ toString count ++ "] " ++ a.word ++ " " ++ t.display ++ " success="
    ++ (if success then "true" else "false")) :: (reason.map ("  Reason: " ++ ·)).toList

/-- The texts about an envelope, which is event number `count`. -/
def texts (count : Nat) : Envelope → List String
  | .heartbeat => []
  | .ack t a success reason => ackTexts t a success reason count
  | .publish t p =>
    match p with
    | .balances bs => bs.map balanceText
    | .balancesUpdated bs => bs.map figureText
    | .myOrders .created os | .myOrders .updated os => os.map orderText
    | .bookDiff d => [diffText t d]
    | p => [otherText t p count]

/-- The lines about an envelope. -/
def lines (count : Nat) (e : Envelope) : List Line := (texts count e).map .out

end MarketFeed.Observer
