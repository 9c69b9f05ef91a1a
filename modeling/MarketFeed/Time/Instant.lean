import MarketFeed.Time.Duration

/-!
Moments of the clock that timers go by, in nanoseconds since the client was made. The clock had run
for a while before that, and its seconds fit 63 bits: a moment beyond is out of range. A timer whose
end is out of range is set to a far end instead.
-/

namespace MarketFeed

abbrev Instant := Nat

namespace Instant

/-- How long the clock had run when the client was made. The hour stands for whatever time a machine may have
been up: it only decides from which length on a timer does not fit the clock any more. Results on that say
so by `add?`, and depend on no more of it. -/
def head : Nat := 3600 * 1000000000

/-- The end of the clock's range. -/
def horizon : Nat := 1 <<< 63 * 1000000000

/-- The moment at a distance, if the clock reaches it. -/
def add? (t : Instant) (d : Duration) : Option Instant :=
  if head + t + d.nanos < horizon then some (t + d.nanos) else none

/-- How far the end of a timer is put off whose own end is out of range: thirty years of 365 days. -/
def far : Nat := 30 * 365 * 86400 * 1000000000

/-- The end of a timer. Here a timer is over at its end to the nanosecond; those of the runtime are over at
the first whole millisecond that is not before it. -/
def deadline (t : Instant) (d : Duration) : Instant := (t.add? d).getD (t + far)

def millis (t : Instant) : Nat := t / 1000000

/-- The first whole millisecond that is not before a moment. -/
def millisUp (t : Instant) : Nat := (t + 999999) / 1000000

def ofMillis (n : Nat) : Instant := n * 1000000

theorem add?_eq_some {t : Instant} {d : Duration} {u : Instant} (h : t.add? d = some u) :
    u = t + d.nanos := by
  unfold add? at h
  split at h
  · exact (Option.some.inj h).symm
  · cases h

end Instant

end MarketFeed
