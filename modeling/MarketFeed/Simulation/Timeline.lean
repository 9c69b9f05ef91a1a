/-!
Time that passes only when it is told to. A simulated thing comes to rest at each moment before its
clock moves on, and its timers go off one after another.
-/

namespace MarketFeed.Simulation

/-- A thing with a clock in milliseconds. -/
class Timed (W : Type) where
  clock : W → Nat
  /-- When a timer goes off next. -/
  wakeAt? : W → Option Nat
  moveTo : W → Nat → W
  /-- Lets everything happen that can happen before the clock moves. -/
  settle : W → W

namespace Timed

variable {W : Type} [Timed W]

/-- The end of the next stretch of time in which nothing happens, up to a moment. -/
def stretch (target : Nat) (w : W) : Nat :=
  match wakeAt? w with
  | some t => if clock w < t then min t target else target
  | none => target

/-- Moves the clock on and lets things happen. -/
def moveOn (w : W) (time : Nat) : W := settle (moveTo w time)

/-- Lets timers go off one after another until the clock has come to a moment. The timers before it
are no more than `n`. -/
def advanceTo (target : Nat) : Nat → W → W
  | 0, w => moveOn w target
  | n + 1, w =>
    if stretch target w < target then advanceTo target n (moveOn w (stretch target w))
    else moveOn w target

def advance (w : W) (millis : Nat) : W :=
  let w := settle w
  advanceTo (clock w + millis) millis w

/-- Lets time pass until something is so, but no further than to a moment. The timers before it are
less than `n`. -/
def awaitUntil {β : Type} (found : W → Option β) (target : Nat) : Nat → W → Option β × W
  | 0, w => (found w, w)
  | n + 1, w =>
    match found w with
    | some b => (some b, w)
    | none =>
      if target ≤ clock w then (none, w)
      else awaitUntil found target n (moveOn w (stretch target w))

/-- Lets time pass until something is so, for no longer than some milliseconds. -/
def await {β : Type} (w : W) (found : W → Option β) (millis : Nat) : Option β × W :=
  let w := settle w
  awaitUntil found (clock w + millis) (millis + 1) w

end Timed

end MarketFeed.Simulation
