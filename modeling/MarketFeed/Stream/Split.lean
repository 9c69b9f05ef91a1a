import MarketFeed.Stream.Lane

/-!
Feeding several streams from one. A fan-out copies every value into each of its lanes as long as that
lane has a reader; a partition gives every value to one of two lanes, as a predicate with a state of its
own decides. Both read their source one value at a time, and their lanes end when the source has.
-/

namespace MarketFeed

/-- What one turn of a splitter comes to. -/
inductive Turn (σ : Type) where
  | resting
  | working (after : σ)
  | over (after : σ)

/-- A source and the lanes that are fed from it. A lane that was found without a reader is detached. -/
structure FanOut (α : Type) where
  source : Lane α
  lanes : List (Lane α)
  attached : List Bool

/-- A source, two lanes, and the state of the predicate between them. -/
structure Partition (σ α : Type) where
  source : Lane α
  matched : Lane α
  rest : Lane α
  memory : σ

namespace FanOut

variable {α : Type}

/-- Puts a value into a lane that is still attached. -/
def feed (a : α) (lane : Lane α) (attached : Bool) : Lane α := if attached then lane.push a else lane

/-- Whether a lane stays attached after it was fed. -/
def keeps (lane : Lane α) (attached : Bool) : Bool := attached && !lane.abandoned

/-- The lane of a source that has ended. -/
def conclude (lane : Lane α) (attached : Bool) : Lane α := if attached then lane.finish else lane

/-- One turn: the next value goes to every attached lane. When none is left, or the source has ended,
the source is let go. -/
def turn (f : FanOut α) : Turn (FanOut α) :=
  match f.source.poll with
  | (.pending, _) => .resting
  | (.ended, source) =>
    .over { f with source := source.abandon, lanes := List.zipWith conclude f.lanes f.attached }
  | (.item a, source) =>
    let attached := List.zipWith keeps f.lanes f.attached
    let lanes := List.zipWith (feed a) f.lanes f.attached
    if attached.any id then .working { source, lanes, attached }
    else .over { source := source.abandon, lanes, attached }

end FanOut

namespace Partition

variable {σ α : Type}

/-- One turn: the next value goes to the lane that the predicate chooses. -/
def turn (choose : σ → α → Bool × σ) (p : Partition σ α) : Turn (Partition σ α) :=
  match p.source.poll with
  | (.pending, _) => .resting
  | (.ended, source) =>
    .over { p with
      source := source.abandon, matched := p.matched.finish, rest := p.rest.finish }
  | (.item a, source) =>
    let (yes, memory) := choose p.memory a
    .working <|
      if yes then { p with source, matched := p.matched.push a, memory }
      else { p with source, rest := p.rest.push a, memory }

end Partition

end MarketFeed
