import MarketFeed.Client.Run
import MarketFeed.Stream.Search

/-!
Reading the stream of a client. A call of the reader looks once, or again and again until it has an
answer. It may be given up after any look, and then another call looks next.
-/

namespace MarketFeed

/-- A call of the reader. -/
inductive Reading where
  | next
  /-- Waits no longer than to a moment. -/
  | nextBefore (deadline : Instant)
  /-- Does not wait at all. -/
  | tryNext
  | pollNext
deriving DecidableEq, Repr

namespace Reading

/-- One look of a call, and its answer, unless it waits on. -/
def look (r : Reading) (now : Instant) (l : Lane Envelope) :
    Option (Except ClientFault (Option Envelope)) × Lane Envelope :=
  match r with
  | next | pollNext => l.next none now
  | nextBefore deadline => l.next (some deadline) now
  | tryNext =>
    let (answer, l) := l.next none now
    (some (answer.getD (.ok none)), l)

end Reading

/-- What happens to a client and its reader. -/
inductive Act where
  /-- Something that is no look of the reader. -/
  | event (e : Event)
  | look (r : Reading)

namespace Client

/-- One look of a call of the reader. -/
def look (c : Client) (r : Reading) : Option (Except ClientFault (Option Envelope)) × Client :=
  ((r.look c.now c.stream).1, c.read.2)

/-- The envelope that a call returns. -/
def returned? : Option (Except ClientFault (Option Envelope)) → Option Envelope
  | some (.ok x) => x
  | _ => none

/-- The envelopes that the reader gets while things happen, and the client after that. The reader keeps
its stream. -/
def follow (c : Client) : List Act → Option (List Envelope × Client)
  | [] => some ([], c)
  | .event .read :: _ | .event .dropStream :: _ => none
  | .event e :: rest => (c.step e).bind fun c => c.follow rest
  | .look r :: rest =>
    ((c.look r).2.follow rest).map fun (xs, d) => ((returned? (c.look r).1).toList ++ xs, d)

end Client

end MarketFeed
