import Mathlib.Data.Rat.Defs
import Mathlib.Tactic.FieldSimp
import Mathlib.Tactic.Positivity
import MarketFeed.Proofs.Searches

/-!
Waiting for one event of the market without a deadline. Each wait is decided by the first envelope that
is about its event, or by the first element of that kind in the lists of the envelopes, and otherwise by
the end of the stream.
-/

namespace MarketFeed

variable {β : Type}

/-- The value of a decimal, whatever its places. -/
def Decimal.value (d : Decimal) : ℚ := d.signed / 10 ^ d.scale

lemma Decimal.below_iff (a b : Decimal) : a.below b = true ↔ a.value < b.value := by
  have ha : (0 : ℚ) < 10 ^ a.scale := by positivity
  have hb : (0 : ℚ) < 10 ^ b.scale := by positivity
  rw [value, value, div_lt_div_iff₀ ha hb, below, decide_eq_true_iff]
  exact_mod_cast Iff.rfl

namespace Envelope

/-- Whether an envelope decides about a subscription: an answer to a request for the topic, or a
publication on it. -/
def decides (topic : Topic) : Envelope → Bool
  | ack t .subscribe _ _ | publish t _ => t = topic
  | _ => false

/-- What an envelope decides about a subscription. -/
def verdict (topic : Topic) : Envelope → Except ClientFault Unit
  | ack _ _ false reason => .error (.rejected topic (reason.getD "subscribe failed"))
  | _ => .ok ()

def createdOrders : Envelope → List Order
  | publish _ (.myOrders .created orders) => orders
  | _ => []

/-- The orders of an envelope, whether they are a snapshot, new or changed. -/
def reportedOrders : Envelope → List Order
  | publish _ (.myOrders .snapshot orders) | publish _ (.myOrders .created orders)
  | publish _ (.myOrders .updated orders) => orders
  | _ => []

def updatedBalances : Envelope → List UpdatedBalance
  | publish _ (.balancesUpdated balances) => balances
  | _ => []

def updatedTrades : Envelope → List Trade
  | publish _ (.myTrades .updated trades) => trades
  | _ => []

end Envelope

namespace Matcher

lemma firstMatch?_seeker (matcher : Matcher β) (es : List Envelope) :
    (firstMatch? matcher.seeker () es).map (·.1) = es.findSome? matcher := by
  induction es with
  | nil => rfl
  | cons e es ih =>
    rw [firstMatch?, seeker, List.findSome?_cons]
    cases matcher e with
    | none => exact ih
    | some r => rfl

lemma findSome?_finding (f : Envelope → Option β) (es : List Envelope) :
    es.findSome? (finding f) = (es.findSome? f).map .ok :=
  (List.map_findSome? ..).symm

lemma findSome?_subscription (topic : Topic) (es : List Envelope) :
    es.findSome? (subscription topic) = (es.find? (·.decides topic)).map (·.verdict topic) := by
  induction es with
  | nil => rfl
  | cons e es ih =>
    have he : subscription topic e = if e.decides topic then some (e.verdict topic) else none := by
      cases e with
      | heartbeat => rfl
      | ack t action success reason =>
        cases action <;> cases success <;> by_cases ht : t = topic <;>
          simp [subscription, Envelope.decides, Envelope.verdict, ClientFault.ofRefusal, Action.word, ht]
      | publish t payload =>
        by_cases ht : t = topic <;> simp [subscription, Envelope.decides, Envelope.verdict, ht]
    rw [List.findSome?_cons, List.find?_cons, he]
    cases e.decides topic with
    | true => rfl
    | false => exact ih

/-- Elements of lists are found in the order of the envelopes, and then of their lists. -/
theorem findSome?_list (lists : Envelope → List β) (p : β → Bool) (es : List Envelope) :
    es.findSome? (finding fun e => (lists e).find? p) = ((es.flatMap lists).find? p).map .ok := by
  rw [findSome?_finding, List.find?_flatMap]

lemma ordersIn_created (e : Envelope) : ordersIn (· = .created) e = e.createdOrders := by
  cases e with
  | heartbeat | ack => rfl
  | publish t payload =>
    cases payload with
    | myOrders extent orders => cases extent <;> rfl
    | _ => rfl

lemma ordersIn_all (e : Envelope) : ordersIn (fun _ => true) e = e.reportedOrders := by
  cases e with
  | heartbeat | ack => rfl
  | publish t payload =>
    cases payload with
    | myOrders extent orders => cases extent <;> rfl
    | _ => rfl

lemma figuresIn_eq (e : Envelope) : figuresIn e = e.updatedBalances := by
  cases e with
  | heartbeat | ack => rfl
  | publish t payload => cases payload <;> rfl

lemma tradesIn_eq (e : Envelope) : tradesIn e = e.updatedTrades := by
  cases e with
  | heartbeat | ack => rfl
  | publish t payload =>
    cases payload with
    | myTrades extent trades => cases extent <;> rfl
    | _ => rfl

end Matcher

/-- A wait without a deadline. -/
def Matcher.call (matcher : Matcher β) : Call Unit β := ⟨matcher.seeker, (), none⟩

/-- How a wait stands when `first` is the first event that was there for it, if there was one. -/
structure IsDecidedBy (matcher : Matcher β) (first : Option (Except ClientFault β))
    (s : Search Unit β) : Prop where
  returned : ∀ r, s.outcome = some r → first = some r ∨
    first = none ∧ s.stream.finished = true ∧ s.stream.backlog = [] ∧ r = .error .streamEnded
  /-- A further look that is not cut short decides as soon as there is an event or the stream has ended. -/
  looks : s.outcome = none → ∀ turns, s.stream.backlog.length < turns →
    (matcher.call.look s turns).outcome =
      first.or (if s.stream.finished then some (.error .streamEnded) else none)

/-- Whatever envelopes are there and arrive, and whenever the stream ends, a wait is decided by the first
event among them. -/
def Finds (matcher : Matcher β) (first : List Envelope → Option (Except ClientFault β)) : Prop :=
  ∀ (backlog : List Envelope) (finished : Bool) (now : Instant) (hs : List Happening),
    IsDecidedBy matcher (first (backlog ++ arrived finished hs))
      (matcher.call.run (matcher.call.start ⟨backlog, finished, false⟩ now) hs)

variable {matcher : Matcher β} {s : Search Unit β} {whole : List Envelope}

theorem Call.Stands.isDecidedBy (h : matcher.call.Stands whole s) :
    IsDecidedBy matcher (whole.findSome? matcher) s := by
  have looks (hn : s.outcome = none) (turns : Nat) (ht : s.stream.backlog.length < turns) :
      (matcher.call.look s turns).outcome =
        (whole.findSome? matcher).or
          (if s.stream.finished then some (.error .streamEnded) else none) := by
    rw [h.look_complete hn ht, ← Matcher.firstMatch?_seeker]
    change _ = ((firstMatch? matcher.call.seeker matcher.call.memory whole).map (·.1)).or _
    cases firstMatch? matcher.call.seeker matcher.call.memory whole <;> rfl
  refine ⟨fun r hr => ?_, looks⟩
  cases h with
  | searching taken unanswered =>
    rw [unanswered] at hr
    cases hr
  | found r' answer first =>
    rw [answer] at hr
    cases hr
    refine .inl ?_
    rw [← Matcher.firstMatch?_seeker]
    exact congrArg (Option.map (·.1)) first
  | ended answer finished drained passed =>
    rw [answer] at hr
    cases hr
    refine .inr ⟨?_, finished, drained, rfl⟩
    rw [← Matcher.firstMatch?_seeker]
    exact congrArg (Option.map (·.1)) passed
  | late taken answer due => cases due

theorem Matcher.finds_first (matcher : Matcher β) : Finds matcher (·.findSome? matcher) :=
  fun backlog finished now hs =>
    ((matcher.call.stands_start ⟨backlog, finished, false⟩ now).run rfl hs).isDecidedBy

/-- A wait looks at the elements of lists one after another, envelope by envelope. -/
theorem Finds.list {lists : Envelope → List β} {p : β → Bool}
    (h : ∀ e, matcher e = ((lists e).find? p).map .ok) :
    Finds matcher fun es => ((es.flatMap lists).find? p).map .ok := by
  have heq : matcher = Matcher.finding fun e => (lists e).find? p := funext h
  subst heq
  exact funext (Matcher.findSome?_list lists p) ▸ Matcher.finds_first _

/-- Each wait for an event finds the first of its kind. -/
theorem events_found :
    (∀ topic, Finds (.subscription topic) fun es =>
      (es.find? (·.decides topic)).map (·.verdict topic)) ∧
    (∀ id, Finds (.orderCreated id) fun es =>
      ((es.flatMap (·.createdOrders)).find? fun o => o.clientOrderId = id).map .ok) ∧
    (∀ id status, Finds (.orderStatus id status) fun es =>
      ((es.flatMap (·.reportedOrders)).find? fun o =>
        o.clientOrderId = id ∧ o.status = status).map .ok) ∧
    (∀ symbol initial, Finds (.balanceAbove symbol initial) fun es =>
      ((es.flatMap (·.updatedBalances)).find? fun b =>
        b.symbol = symbol ∧ b.figure = .available ∧ initial.value < b.value.value).map .ok) ∧
    (∀ order, Finds (.tradeSettled order) fun es =>
      ((es.flatMap (·.updatedTrades)).find? fun t =>
        t.order = order ∧ t.settlement = .completed).map .ok) := by
  refine ⟨fun topic => ?_, fun id => .list fun e => ?_, fun id status => .list fun e => ?_,
    fun symbol initial => .list fun e => ?_, fun order => .list fun e => ?_⟩
  · exact funext (Matcher.findSome?_subscription topic) ▸ Matcher.finds_first _
  · rw [Matcher.orderCreated, Matcher.finding, Matcher.ordersIn_created]
  · rw [Matcher.orderStatus, Matcher.finding, Matcher.ordersIn_all]
  · rw [Matcher.balanceAbove, Matcher.finding, Matcher.figuresIn_eq]
    simp only [Decimal.below_iff]
  · rw [Matcher.tradeSettled, Matcher.finding, Matcher.tradesIn_eq]

end MarketFeed
