import MarketFeed.Schema.Record

/-!
Tagged choices: types whose member `type` names the variant that the other members make up. They are
read off an object, or off an array that starts with the tag. The other members are kept aside until
the tag is known. The tag of a choice that was itself kept aside may also be the variant's position.
-/

namespace MarketFeed.Schema

/-- A variant of a choice of type `α`: its tag, its own name, and its fields. -/
structure Variant (α : Type) where
  tag : String
  name : String
  fields : Fields α α

/-- A tagged choice: its name, its variants in order, and which one a value belongs to. -/
structure Choice (α : Type) where
  name : String
  variants : List (Variant α)
  variantOf : α → Variant α

namespace Choice

variable {α : Type}

/-- The member that holds the tag. -/
def tagName : String := "type"

def tags (c : Choice α) : List String := c.variants.map (·.tag)

/-- The variant that a tag names. -/
def readTag (c : Choice α) (st : Stage) : Json → Except Mismatch (Variant α)
  | .string s =>
    match c.variants.find? (·.tag = s) with
    | some v => .ok v
    | none => .error (.unknownVariant s c.tags)
  | .number (.integer n) =>
    if st = .kept ∧ 0 ≤ n then
      match c.variants[n.toNat]? with
      | some v => .ok v
      | none => .error (.wrongValue (.integer n) (.position c.variants.length))
    else .error (.wrongType (.integer n) .tag)
  | j => .error (.ofType j .tag)

/-- Reads a choice off the members of an object. -/
def readMembers (c : Choice α) (st : Stage) (ms : Json.Members) : Except Mismatch α :=
  match Json.member? tagName ms with
  | none => .error (.missingField tagName)
  | some tag =>
    match c.readTag st tag with
    | .error e => .error e
    | .ok v => v.fields.readMembers .kept (Json.eraseMember tagName ms)

/-- The members that a value is written as: the tag first. -/
def members (c : Choice α) (a : α) : Json.Members :=
  (tagName, .string (c.variantOf a).tag) :: (c.variantOf a).fields.members a

def codec (c : Choice α) : Codec α where
  read st
    | .object ms => c.readMembers st ms
    | .array [] => .error (.missingField tagName)
    | .array (tag :: items) =>
      match c.readTag st tag with
      | .error e => .error e
      | .ok v =>
        v.fields.readItems .kept (.variant c.name v.name v.fields.slots.length) items
    | j => .error (.ofType j (.taggedChoice c.name))
  write a := .object (c.members a)

end Choice

end MarketFeed.Schema
