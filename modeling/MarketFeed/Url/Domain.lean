import MarketFeed.Url.Direction
import MarketFeed.Url.Joining
import MarketFeed.Url.Mapping
import MarketFeed.Url.Percent
import MarketFeed.Url.Punycode

/-!
Domains in their ASCII form. A domain is mapped and composed, and each of its labels is checked and,
unless it consists of ASCII, written in ASCII behind `xn--`. A label that comes in that form is read back
and checked too.
-/

namespace MarketFeed.Url

open Text

def isForbidden (c : Char) : Bool :=
  isControl c || c = ' ' || c = '#' || c = '/' || c = ':' || c = '<' || c = '>' || c = '?' ||
    c = '@' || c = '[' || c = '\\' || c = ']' || c = '^' || c = '|' || c = '%'

/-- The sign of a label that is written in ASCII. -/
def codeSign : List Char := ['x', 'n', '-', '-']

/-- Where the marks begin and end. -/
def markBounds : Array Nat := markData.toArray

/-- Whether a label can be one of a domain: it is mapped and composed, no mark stands at its front, and
its joiners fit. -/
def isLabel (label : List Char) : Bool :=
  isNormal label && !label.head?.any (fun c => insideRun markBounds c.toNat) && joinersFit [] label

/-- Whether a label is worth the form that it was read from. -/
def deservesCode (label : List Char) : Bool :=
  !label.all Punycode.isBasic && !label.contains '.' && !codeSign.isPrefixOf label

/-- The label that a mapped label means. -/
def label? (s : List Char) : Option (List Char) :=
  if codeSign.isPrefixOf s then
    let code := s.drop codeSign.length
    if code.getLast? = some '-' then none
    else (Punycode.decode? code).filter fun label => deservesCode label && isLabel label
  else if isLabel s then some s
  else none

def asciiLabel (label : List Char) : List Char :=
  if label.all Punycode.isBasic then label else codeSign ++ Punycode.encode label

def joinLabels (labels : List (List Char)) : List Char := (labels.intersperse ['.']).flatten

def asciiDomain? (bytes : List UInt8) : Option (List Char) := do
  let text ← String.fromUTF8? ⟨bytes.toArray⟩
  let domain ← normal? text.toList
  let labels ← allSome ((splitAt '.' domain).map label?)
  let result := joinLabels (labels.map asciiLabel)
  if result.any isForbidden || !isDirected labels then none else some result

end MarketFeed.Url
