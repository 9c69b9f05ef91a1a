import MarketFeed.Text.Canonical
import MarketFeed.Url.ScriptData

/-!
Joiners: characters without a glyph that make their neighbours join or keep them from joining. A label
may hold one only where it changes how the label looks.
-/

namespace MarketFeed.Url

open Text

/-- How a letter joins its neighbours. -/
inductive Joining where
  /-- Not at all. -/
  | none
  /-- Both of them. -/
  | both
  /-- The one after it. -/
  | next
  /-- The one before it. -/
  | previous
  /-- It lets its neighbours join each other. -/
  | transparent
deriving DecidableEq, Repr

namespace Joining

def ofNumber : Nat → Joining
  | 1 => both
  | 2 => next
  | 3 => previous
  | 4 => transparent
  | _ => none

def table : Plateaus := Plateaus.ofList joiningData

def ofChar (c : Char) : Joining := ofNumber (table.value c.toNat)

/-- The joining of the first of some characters that is not transparent. -/
def ofFirst (s : List Char) : Joining :=
  (((s.map ofChar).dropWhile (· = transparent)).head?).getD none

end Joining

/-- Whether a joiner may stand between two texts, of which the one before it is reversed: after a sign
that kills a vowel, or, if it keeps letters apart, between letters that would join. -/
def joinerFits (c : Char) (before after : List Char) : Bool :=
  let afterKiller := before.head?.any (markClass · = 9)
  let wouldJoin :=
    (Joining.ofFirst before = .next || Joining.ofFirst before = .both) &&
      (Joining.ofFirst after = .previous || Joining.ofFirst after = .both)
  if c.toNat = 0x200D then afterKiller
  else if c.toNat = 0x200C then afterKiller || wouldJoin
  else true

/-- Whether all joiners of a label may stand where they are; `before` is what comes before it, reversed. -/
def joinersFit : (before : List Char) → List Char → Bool
  | _, [] => true
  | before, c :: rest => joinerFits c before rest && joinersFit (c :: before) rest

end MarketFeed.Url
