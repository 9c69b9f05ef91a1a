import MarketFeed.Time.Duration

/-!
How long to wait before the next attempt. The base delay of an exponential policy grows from one
attempt to the next and never beyond the policy's greatest delay; jitter is added to what is returned
and not to what grows. The random choice is an argument.
-/

namespace MarketFeed

/-- How delays are chosen. -/
inductive BackoffPolicy where
  | fixed (delay : Duration)
  | exponential (initial greatest : Duration) (multiplier : Double) (jitter : Bool)
deriving DecidableEq, Repr

/-- A policy and the base delay that comes next. -/
structure Backoff where
  policy : BackoffPolicy
  current : Duration
deriving DecidableEq, Repr

def BackoffPolicy.initial : BackoffPolicy → Duration
  | .fixed d => d
  | .exponential d _ _ _ => d

/-- The base delay after a given one: the product in doubles, but no more than the greatest delay,
which also stands for every product that is no length of time. -/
def BackoffPolicy.grow : BackoffPolicy → Duration → Duration
  | .fixed d, _ => d
  | .exponential _ greatest multiplier _, current =>
    match Duration.ofDouble? (current.toDouble.mul multiplier) with
    | some next => next.shorter greatest
    | none => greatest

namespace Backoff

def ofPolicy (p : BackoffPolicy) : Backoff := ⟨p, p.initial⟩

def reset (b : Backoff) : Backoff := { b with current := b.policy.initial }

/-- The most milliseconds that jitter adds to a delay: half of it, as far as 64 bits reach. -/
def jitterLimit (d : Duration) : Nat := min (d.millis / 2) (1 <<< 64 - 1)

def base (b : Backoff) : Duration :=
  match b.policy with
  | .fixed d => d
  | .exponential .. => b.current

/-- The delay that comes next when chance adds `extra` milliseconds, as far as jitter allows. -/
def delay (b : Backoff) (extra : Nat) : Duration :=
  match b.policy with
  | .exponential _ _ _ true =>
    if b.current.isZero then b.base else b.base.addMillis (min extra (jitterLimit b.base))
  | _ => b.base

/-- After a delay was taken. -/
def advance (b : Backoff) : Backoff := { b with current := b.policy.grow b.current }

def next (b : Backoff) (extra : Nat) : Duration × Backoff := (b.delay extra, b.advance)

@[simp] theorem advance_policy (b : Backoff) : b.advance.policy = b.policy := rfl

@[simp] theorem reset_policy (b : Backoff) : b.reset.policy = b.policy := rfl

end Backoff

end MarketFeed
