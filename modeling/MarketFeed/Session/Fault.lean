/-!
Faults of one physical connection. Callers never see them; each ends a session or an attempt.
-/

namespace MarketFeed

/-- Why a connection failed or ended. -/
inductive TransportFault where
  | connect (cause : String)
  | maintenance
  | send (cause : String)
  | receive (cause : String)
  | closed
  | idle
  | undecodable (count : Nat)
deriving DecidableEq, Repr

/-- The fault of a message that a connection does not take. -/
def TransportFault.refused : TransportFault := .send "refused"

def TransportFault.message : TransportFault → String
  | connect cause => "connect failed: " ++ cause
  | maintenance => "server is in maintenance mode"
  | send cause => "send failed: " ++ cause
  | receive cause => "receive failed: " ++ cause
  | closed => "connection closed by peer"
  | idle => "no frame received within idle timeout"
  | undecodable count => toString count ++ " consecutive frames failed to decode"

end MarketFeed
