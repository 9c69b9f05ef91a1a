/-!
Percent encoding: characters outside a set stand as the bytes of their UTF-8 form, each as a percent
sign and two hexadecimal digits. What has to be encoded depends on the part of the address.
-/

namespace MarketFeed.Url

/-- The upper-case hexadecimal digit of a number below sixteen. -/
def upperHex (n : Nat) : Char := if n < 10 then Char.ofNat (48 + n) else Char.ofNat (55 + n)

def percentByte (b : UInt8) : List Char := ['%', upperHex (b.toNat / 16), upperHex (b.toNat % 16)]

def charBytes (c : Char) : List UInt8 := String.utf8EncodeChar c

/-- A text with the characters of a set, and all beyond ASCII, encoded. -/
def percentEncode (encoded : Char → Bool) (s : List Char) : List Char :=
  s.flatMap fun c =>
    if encoded c || 0x7F ≤ c.toNat then (charBytes c).flatMap percentByte else [c]

def isControl (c : Char) : Bool := c.toNat < 0x20 || c.toNat = 0x7F

def inFragment (c : Char) : Bool :=
  isControl c || c = ' ' || c = '"' || c = '<' || c = '>' || c = '\x60'

def inPath (c : Char) : Bool := inFragment c || c = '#' || c = '?' || c = '{' || c = '}'

def inQuery (c : Char) : Bool :=
  isControl c || c = ' ' || c = '"' || c = '#' || c = '<' || c = '>' || c = '\''

def inUserInfo (c : Char) : Bool :=
  inPath c || c = '/' || c = ':' || c = ';' || c = '=' || c = '@' || c = '[' || c = '\\' ||
    c = ']' || c = '^' || c = '|'

/-- Whether a form keeps a character as it is. -/
def inForm (c : Char) : Bool :=
  c.isAlphanum || c = '*' || c = '-' || c = '.' || c = '_'

/-- A text as a value of a form: the space is a plus sign, letters, digits and `*-._` stay, and every
other byte is encoded. -/
def formEncode (s : List Char) : List Char :=
  s.flatMap fun c =>
    if inForm c then [c]
    else if c = ' ' then ['+']
    else (charBytes c).flatMap percentByte

def hexDigit? (c : Char) : Option Nat :=
  if '0' ≤ c ∧ c ≤ '9' then some (c.toNat - 48)
  else if 'a' ≤ c ∧ c ≤ 'f' then some (c.toNat - 87)
  else if 'A' ≤ c ∧ c ≤ 'F' then some (c.toNat - 55)
  else none

/-- The bytes of a text in which encoded bytes are decoded; a percent sign without two digits after it
stands for itself. -/
def percentDecode : List Char → List UInt8
  | [] => []
  | '%' :: a :: b :: rest =>
    match hexDigit? a, hexDigit? b with
    | some x, some y => (x * 16 + y).toUInt8 :: percentDecode rest
    | _, _ => charBytes '%' ++ percentDecode (a :: b :: rest)
  | c :: rest => charBytes c ++ percentDecode rest

example : formEncode "a b&é".toList = "a+b%26%C3%A9".toList := by decide +kernel

end MarketFeed.Url
