import MarketFeed.Session.PendingAcks

/-!
What callers see of the connection. Each attempt to connect has a number, which a session keeps.
-/

namespace MarketFeed

inductive ConnectionState where
  | connecting (generation : Generation)
  | connected (generation : Generation)
  | disconnected (generation : Generation)
  | closing
  | closed
deriving DecidableEq, Repr

namespace ConnectionState

def isConnected : ConnectionState → Bool
  | connected _ => true
  | _ => false

/-- Whether no session will follow. -/
def isTerminal : ConnectionState → Bool
  | closing | closed => true
  | _ => false

/-- The session or attempt that a state is about. -/
def generation? : ConnectionState → Option Generation
  | connecting g | connected g | disconnected g => some g
  | closing | closed => none

def text : ConnectionState → String
  | connecting g => "Connecting(" ++ toString g ++ ")"
  | connected g => "Connected(" ++ toString g ++ ")"
  | disconnected g => "Disconnected(" ++ toString g ++ ")"
  | closing => "Closing"
  | closed => "Closed"

instance : ToString ConnectionState := ⟨text⟩

end ConnectionState

/-- The code and the reason that a connection is closed with. -/
structure CloseFrame where
  code : Nat
  reason : String
deriving DecidableEq, Repr

/-- What a connection is closed with when nobody asked for anything else. -/
def CloseFrame.normal : CloseFrame := ⟨1000, ""⟩

end MarketFeed
