import MarketFeed.Market.Message

/-!
What the caller wants, and what a session still owes an answer for. The registry outlives every
connection; the pending acknowledgments belong to one session and go with it.
-/

namespace MarketFeed

/-- The topics that are wanted, in the order in which they were first asked for. -/
structure Registry where
  topics : List Topic
deriving DecidableEq, Repr

namespace Registry

def empty : Registry := ⟨[]⟩

instance : Inhabited Registry := ⟨empty⟩

def contains (r : Registry) (t : Topic) : Bool := t ∈ r.topics

/-- Adds a topic at the end, unless it is there. -/
def insert (r : Registry) (t : Topic) : Registry :=
  if r.contains t then r else ⟨r.topics ++ [t]⟩

def remove (r : Registry) (t : Topic) : Registry := ⟨r.topics.filter (· ≠ t)⟩

/-- What an action does to the registry. -/
def apply (r : Registry) : Action → Topic → Registry
  | .subscribe, t => r.insert t
  | .unsubscribe, t => r.remove t

def changes (r : Registry) : Action → Topic → Bool
  | .subscribe, t => !r.contains t
  | .unsubscribe, t => r.contains t

def size (r : Registry) : Nat := r.topics.length

def isEmpty (r : Registry) : Bool := r.topics.isEmpty

end Registry

end MarketFeed
