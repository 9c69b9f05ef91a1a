import MarketFeed.Market.Topic
import MarketFeed.Json.Printer

/-!
Messages of the client to the server.
-/

namespace MarketFeed

open Schema

/-- What the server is asked to do with a topic. -/
inductive Action where
  | subscribe
  | unsubscribe
deriving DecidableEq, Repr

namespace Action

def name : Action → String
  | subscribe => "Subscribe"
  | unsubscribe => "Unsubscribe"

/-- The word for an action in a sentence. -/
def word : Action → String
  | subscribe => "subscribe"
  | unsubscribe => "unsubscribe"

instance : ToString Action := ⟨word⟩

@[inherit_doc vocabulary]
def codec : Codec Action := vocabulary [subscribe, unsubscribe] name

end Action

/-- A feature that the server keeps for one connection. With no market it is for all of them. -/
inductive Feature where
  | cancelOnDisconnect (markets : List MarketId)
deriving DecidableEq, Repr

namespace Feature

def markets : Feature → List MarketId
  | cancelOnDisconnect ms => ms

def cancelVariant : Variant Feature :=
  ⟨"CancelOnDisconnect", "CancelOnDisconnect",
    cancelOnDisconnect <$> .required "marketIds" Id.codec.list markets⟩

def choice : Choice Feature where
  name := "Feature"
  variants := [cancelVariant]
  variantOf _ := cancelVariant

def codec : Codec Feature := choice.codec

end Feature

/-- A feature without its parameters. -/
inductive FeatureKind where
  | cancelOnDisconnect
deriving DecidableEq, Repr

@[inherit_doc vocabulary]
def FeatureKind.codec : Codec FeatureKind :=
  vocabulary [.cancelOnDisconnect] fun _ => "CancelOnDisconnect"

/-- What one session is told besides topics: to cancel open orders when it drops, or to keep them. -/
inductive Directive where
  | cancelOnDisconnect (markets : List MarketId)
  | keepOnDisconnect
deriving DecidableEq, Repr

/-- A message to the server. -/
inductive Message where
  | ping
  | subscribe (topic : Topic)
  | unsubscribe (topic : Topic)
  | setFeature (feature : Feature)
  | unsetFeature (feature : FeatureKind)
deriving DecidableEq, Repr

namespace Message

/-- The message that asks for an action on a topic. -/
def ofAction (a : Action) (t : Topic) : Message :=
  match a with
  | .subscribe => subscribe t
  | .unsubscribe => unsubscribe t

def topic : Message → Topic
  | subscribe t | unsubscribe t => t
  | _ => .balances

def feature : Message → Feature
  | setFeature f => f
  | _ => .cancelOnDisconnect []

def featureKind : Message → FeatureKind
  | unsetFeature k => k
  | _ => .cancelOnDisconnect

def pingVariant : Variant Message := ⟨"Ping", "Ping", pure ping⟩

def subscribeVariant : Variant Message :=
  ⟨"Subscribe", "Subscribe", subscribe <$> .required "topic" Topic.codec topic⟩

def unsubscribeVariant : Variant Message :=
  ⟨"Unsubscribe", "Unsubscribe", unsubscribe <$> .required "topic" Topic.codec topic⟩

def setVariant : Variant Message :=
  ⟨"SetFeature", "SetFeature", setFeature <$> .required "feature" Feature.codec feature⟩

def unsetVariant : Variant Message :=
  ⟨"UnsetFeature", "UnsetFeature",
    unsetFeature <$> .required "feature" FeatureKind.codec featureKind⟩

def choice : Choice Message where
  name := "ClientMessage"
  variants := [pingVariant, subscribeVariant, unsubscribeVariant, setVariant, unsetVariant]
  variantOf
    | ping => pingVariant
    | subscribe _ => subscribeVariant
    | unsubscribe _ => unsubscribeVariant
    | setFeature _ => setVariant
    | unsetFeature _ => unsetVariant

def codec : Codec Message := choice.codec

def frameText (m : Message) : String := (codec.write m).compact

def ofDirective : Directive → Message
  | .cancelOnDisconnect markets => setFeature (.cancelOnDisconnect markets)
  | .keepOnDisconnect => unsetFeature .cancelOnDisconnect

example : ping.frameText = "\x7b\"type\":\"Ping\"\x7d" := by decide

end Message

end MarketFeed
