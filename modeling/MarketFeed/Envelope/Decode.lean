import MarketFeed.Envelope.Payload
import MarketFeed.Json.Reader
import MarketFeed.Text.Space

/-!
Decoding a frame. A frame is a document that is exactly one of three things, by its member `type`: the
answer to a heartbeat, the answer to a request, or a publication. A frame that is none of them is a
fault of its own; nothing is decoded in part.
-/

namespace MarketFeed

open Schema

/-- A frame as it comes off the connection. -/
inductive Frame where
  | text (content : String)
  | binary (bytes : ByteArray)

/-- Why a frame is no envelope. -/
inductive DecodeFault where
  | empty
  | notText
  | notDocument (fault : Json.Fault)
  | misfit (cause : Mismatch)
  | unknownMessage (name : String)
  | unknownTopic (described : String) (cause : Mismatch)
  | unknownPayload (kind : TopicKind) (word : String)
  | payloadMismatch (kind : TopicKind) (word : String)
deriving DecidableEq, Repr

/-- The sentence for a fault. A text that is no document has none of its own. -/
def DecodeFault.message? : DecodeFault → Option String
  | empty => some "empty frame"
  | notText => some "binary frame is not valid UTF-8"
  | notDocument _ => none
  | misfit cause => some ("malformed frame: " ++ cause.message)
  | unknownMessage name => some ("unknown message type `" ++ name ++ "`")
  | unknownTopic described cause => some ("unknown topic: " ++ described ++ ": " ++ cause.message)
  | unknownPayload kind word =>
    some ("unknown payload `" ++ word ++ "` for " ++ kind.name ++ " topic")
  | payloadMismatch kind word =>
    some ("payload `" ++ word ++ "` does not belong to " ++ kind.name ++ " topic")

namespace Frame

/-- The text of the member `type`. -/
def typeOf (j : Json) : Option String :=
  match j.get? "type" with
  | some (.string s) => some s
  | _ => none

def withoutType : Json → Json
  | .object ms => .object (Json.eraseMember "type" ms)
  | j => j

def readAs {α : Type} (c : Codec α) (j : Json) : Except DecodeFault α :=
  match c.read .direct j with
  | .ok a => .ok a
  | .error e => .error (.misfit e)

def anyDocument : Codec Json where
  read _ j := .ok j
  write j := j

structure Ack where
  topic : Json
  action : Action
  success : Bool
  error : Option String

def Ack.codec : Codec Ack := .record "AckFrame"
  (mk <$> .required "topic" anyDocument topic
    <*> .required "action" Action.codec action
    <*> .required "success" .boolean success
    <*> .defaulted "error" .text error)

structure Publish where
  topic : Json
  data : Json

def Publish.codec : Codec Publish := .record "PublishFrame"
  (mk <$> .required "topic" anyDocument topic <*> .required "data" anyDocument data)

/-- The topic of a frame; a topic that cannot be read is described by its tag or by its whole text. -/
def decodeTopic (j : Json) : Except DecodeFault Topic :=
  match Topic.codec.read .direct j with
  | .ok t => .ok t
  | .error e => .error (.unknownTopic ((typeOf j).getD j.compact) e)

def decodePayload (kind : TopicKind) (data : Json) : Except DecodeFault Publication :=
  let word := (typeOf data).getD ""
  match (Payload.forms kind).find? (·.word = word) with
  | some form =>
    match form.read (withoutType data) with
    | .ok p => .ok p
    | .error e => .error (.misfit e)
  | none =>
    if Payload.isKnown word then .error (.payloadMismatch kind word)
    else .error (.unknownPayload kind word)

/-- The envelope that a document stands for. -/
def decodeDocument (j : Json) : Except DecodeFault Envelope := do
  match typeOf j with
  | none => .error (.unknownMessage "<missing>")
  | some "Pong" => return .heartbeat
  | some "SubscriptionAck" =>
    let ack ← readAs Ack.codec (withoutType j)
    return .ack (← decodeTopic ack.topic) ack.action ack.success ack.error
  | some "Publish" =>
    let publish ← readAs Publish.codec (withoutType j)
    let topic ← decodeTopic publish.topic
    return .publish topic (← decodePayload topic.kind publish.data)
  | some name => .error (.unknownMessage name)

/-- The envelope in a text; white space around it does not count. -/
def decodeText (s : String) : Except DecodeFault Envelope :=
  match Text.trim s.toList with
  | [] => .error .empty
  | cs =>
    match Json.read cs with
    | .error e => .error (.notDocument e)
    | .ok j => decodeDocument j

def decode : Frame → Except DecodeFault Envelope
  | text s => decodeText s
  | binary bytes =>
    match String.fromUTF8? bytes with
    | some s => decodeText s
    | none => .error .notText

end Frame

end MarketFeed
