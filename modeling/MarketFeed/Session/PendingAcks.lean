import MarketFeed.Market.Message

/-!
Requests that were made on one session and are not acknowledged yet. They are counted per topic and
action, so that a request made twice awaits two answers. No count is zero.
-/

namespace MarketFeed

/-- A request: an action on a topic. -/
structure Request where
  topic : Topic
  action : Action
deriving DecidableEq, Repr

/-- The number of a session, which is that of its attempt to connect. -/
abbrev Generation := Nat

/-- The session that answers are awaited on, and how many for each request. The counts have no bound here; the
program's have 32 bits, so for 2^32 requests of one kind on one session this says nothing. -/
structure PendingAcks where
  generation : Option Generation
  counts : List (Request × Nat)
deriving DecidableEq, Repr

namespace PendingAcks

def empty : PendingAcks := ⟨none, []⟩

instance : Inhabited PendingAcks := ⟨empty⟩

/-- The start of a session; what was pending is forgotten. -/
def start (_ : PendingAcks) (g : Generation) : PendingAcks := ⟨some g, []⟩

def stop (_ : PendingAcks) : PendingAcks := empty

/-- Counts a request once more. -/
def countUp (r : Request) : List (Request × Nat) → List (Request × Nat)
  | [] => [(r, 1)]
  | (s, n) :: rest => if s = r then (s, n + 1) :: rest else (s, n) :: countUp r rest

/-- Counts a request once less, if it is there. -/
def countDown (r : Request) : List (Request × Nat) → Option (List (Request × Nat))
  | [] => none
  | (s, n) :: rest =>
    if s = r then some (if 1 < n then (s, n - 1) :: rest else rest)
    else (countDown r rest).map ((s, n) :: ·)

def record (p : PendingAcks) (r : Request) : PendingAcks := { p with counts := countUp r p.counts }

/-- An answer on a session: what is pending after it, if it was awaited there. -/
def resolve? (p : PendingAcks) (g : Generation) (r : Request) : Option PendingAcks :=
  if p.generation = some g then (countDown r p.counts).map fun c => { p with counts := c } else none

def isPending (p : PendingAcks) (r : Request) : Bool := p.counts.any (·.1 = r)

/-- The requests, each as often as it awaits an answer. -/
def entries (p : PendingAcks) : List Request := p.counts.flatMap fun c => List.replicate c.2 c.1

def size (p : PendingAcks) : Nat := p.counts.foldl (fun n c => n + c.2) 0

def isEmpty (p : PendingAcks) : Bool := p.counts.isEmpty

end PendingAcks

end MarketFeed
