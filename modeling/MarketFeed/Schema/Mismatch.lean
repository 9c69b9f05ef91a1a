import MarketFeed.Json.Value
import MarketFeed.Text.Quoted
import MarketFeed.Calendar.Reader

/-!
Why a document does not fit a type, and the sentence that says so.
-/

namespace MarketFeed.Schema

/-- What stands in the document. -/
inductive Found where
  | null
  | boolean (value : Bool)
  | integer (value : Int)
  | real (value : Double)
  | text (value : String)
  | sequence
  | map
deriving DecidableEq, Repr

def Found.ofJson : Json → Found
  | .null => .null
  | .bool b => .boolean b
  | .number (.integer n) => .integer n
  | .number (.real d) => .real d
  | .string s => .text s
  | .array _ => .sequence
  | .object _ => .map

def Found.words : Found → String
  | .null => "null"
  | .boolean b => "boolean `" ++ (if b then "true" else "false") ++ "`"
  | .integer n => "integer `" ++ toString n ++ "`"
  | .real d => "floating point `" ++ d.text .document ++ "`"
  | .text s => "string " ++ Text.quoted s
  | .sequence => "sequence"
  | .map => "map"

/-- What the type asks for. -/
inductive Wanted where
  | text
  | boolean
  | natural
  | integer
  | sequence
  | record (name : String)
  | plainChoice
  | taggedChoice (name : String)
  | tag
  | position (count : Nat)
  | singleKey
  | nothing
  | decimal
  | moment
  | milliseconds
deriving DecidableEq, Repr

def Wanted.words : Wanted → String
  | .text => "a string"
  | .boolean => "a boolean"
  | .natural => "u64"
  | .integer => "i64"
  | .sequence => "a sequence"
  | .record name => "struct " ++ name
  | .plainChoice => "string or map"
  | .taggedChoice name => "internally tagged enum " ++ name
  | .tag => "variant identifier"
  | .position count => "variant index 0 <= i < " ++ toString count
  | .singleKey => "map with a single key"
  | .nothing => "unit"
  | .decimal => "a Decimal type representing a fixed-point number"
  | .moment => "an RFC 3339 formatted date and time string"
  | .milliseconds => "a unix timestamp in milliseconds"

/-- Of how many elements a sequence should be. -/
inductive Size where
  | record (name : String) (count : Nat)
  | variant (choice name : String) (count : Nat)
  | fewer
  | exactly (count : Nat)
deriving DecidableEq, Repr

/-- A count of elements in words. -/
def countWords (count : Nat) : String :=
  if count = 1 then "1 element" else toString count ++ " elements"

def Size.words : Size → String
  | .record name count => "struct " ++ name ++ " with " ++ countWords count
  | .variant choice name count =>
    "struct variant " ++ choice ++ "::" ++ name ++ " with " ++ countWords count
  | .fewer => "fewer elements in array"
  | .exactly count => countWords count ++ " in sequence"

/-- Why a document does not fit a type. -/
inductive Mismatch where
  | wrongType (found : Found) (wanted : Wanted)
  | wrongValue (found : Found) (wanted : Wanted)
  | wrongLength (length : Nat) (wanted : Size)
  | missingField (name : String)
  | unknownVariant (name : String) (known : List String)
  | unreadableMoment (fault : Calendar.Fault)
  | uncoveredMoment (millis : Int)
deriving DecidableEq, Repr

/-- A list of names between back quotes. -/
def quotedNames : List String → String
  | [] => "there are no variants"
  | [a] => "expected `" ++ a ++ "`"
  | [a, b] => "expected `" ++ a ++ "` or `" ++ b ++ "`"
  | names => "expected one of " ++ ", ".intercalate (names.map fun n => "`" ++ n ++ "`")

def Mismatch.message : Mismatch → String
  | .wrongType f w => "invalid type: " ++ f.words ++ ", expected " ++ w.words
  | .wrongValue f w => "invalid value: " ++ f.words ++ ", expected " ++ w.words
  | .wrongLength n w => "invalid length " ++ toString n ++ ", expected " ++ w.words
  | .missingField name => "missing field `" ++ name ++ "`"
  | .unknownVariant name known => "unknown variant `" ++ name ++ "`, " ++ quotedNames known
  | .unreadableMoment fault => fault.message
  | .uncoveredMoment n => "value is not a legal timestamp: " ++ toString n

/-- The mismatch of a document of another kind. -/
def Mismatch.ofType (found : Json) (wanted : Wanted) : Mismatch := .wrongType (.ofJson found) wanted

end MarketFeed.Schema
