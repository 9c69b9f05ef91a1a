import MarketFeed.Config.Basic
import MarketFeed.Market.Message

/-!
What a call of the client can fail with. Faults of a connection are not among them: they end a session,
and the next attempt follows.
-/

namespace MarketFeed

/-- Why a call failed. -/
inductive ClientFault where
  | notConnected
  | closed
  | streamEnded
  | timeout
  | rejected (topic : Topic) (reason : String)
  | config (fault : ConfigFault)
deriving DecidableEq, Repr

namespace ClientFault

def message : ClientFault → String
  | notConnected => "no live websocket session"
  | closed => "websocket client is closed"
  | streamEnded => "envelope stream ended"
  | timeout => "timed out waiting for websocket event"
  | rejected topic reason => "subscription to " ++ topic.display ++ " rejected: " ++ reason
  | config fault => fault.message

/-- A request that the server refused. Without a reason the action itself is named. -/
def ofRefusal (topic : Topic) (action : Action) (reason : Option String) : ClientFault :=
  .rejected topic (reason.getD (action.word ++ " failed"))

end ClientFault

end MarketFeed
