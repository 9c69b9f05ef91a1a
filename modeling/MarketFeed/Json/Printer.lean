import MarketFeed.Json.Value

/-!
The compact text of a document: no blanks, members in key order. A string is written between double
quotes; the quote, the backslash and the control characters below the space are escaped, and nothing
else is.
-/

namespace MarketFeed.Json

/-- The lower-case hexadecimal digit of a number below sixteen. -/
def hexDigit (n : Nat) : Char := if n < 10 then Char.ofNat (48 + n) else Char.ofNat (87 + n)

/-- How one character stands inside a string. -/
def escapeChar (c : Char) : List Char :=
  if c = '"' then ['\\', '"']
  else if c = '\\' then ['\\', '\\']
  else if c.toNat < 0x20 then
    if c.toNat = 8 then ['\\', 'b']
    else if c.toNat = 9 then ['\\', 't']
    else if c.toNat = 10 then ['\\', 'n']
    else if c.toNat = 12 then ['\\', 'f']
    else if c.toNat = 13 then ['\\', 'r']
    else ['\\', 'u', '0', '0', hexDigit (c.toNat / 16), hexDigit (c.toNat % 16)]
  else [c]

def stringText (s : List Char) : List Char := '"' :: s.flatMap escapeChar ++ ['"']

def integerText (n : Int) : List Char :=
  if n < 0 then '-' :: Nat.toDigits 10 n.natAbs else Nat.toDigits 10 n.natAbs

/-- The text of a number. A double that is no number has no text of its own. -/
def Number.text : Number → List Char
  | .integer n => integerText n
  | .real d => if d.isFinite then (d.text .document).toList else "null".toList

mutual

/-- The compact text of a document. -/
def text : Json → List Char
  | .null => "null".toList
  | .bool true => "true".toList
  | .bool false => "false".toList
  | .number n => n.text
  | .string s => stringText s.toList
  | .array items => '[' :: itemsText items ++ [']']
  | .object members => '{' :: membersText members ++ ['}']

def itemsText : List Json → List Char
  | [] => []
  | [x] => x.text
  | x :: y :: rest => x.text ++ ',' :: itemsText (y :: rest)

def membersText : List (String × Json) → List Char
  | [] => []
  | [(k, v)] => stringText k.toList ++ ':' :: v.text
  | (k, v) :: p :: rest => stringText k.toList ++ ':' :: v.text ++ ',' :: membersText (p :: rest)

end

def compact (j : Json) : String := String.ofList j.text

end MarketFeed.Json
