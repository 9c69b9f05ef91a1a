import MarketFeed.Schema.Codec

/-!
Records: types with named fields. One declaration of the fields gives the reader and the writer. A
record is read off an object, whose members are looked at in the order of their keys, so that the first
member that does not fit decides, and a field that is missing is reported only after that, in the order
of declaration; or it is read off an array that lists the fields in that order.
-/

namespace MarketFeed.Schema

/-- Whether a field may be missing. A nullable one may be missing in an object only, one with a
default in an array too. -/
inductive Presence where
  | required
  | nullable
  | defaulted
deriving DecidableEq, Repr

/-- One field of a record of type `ρ`. -/
structure Slot (ρ : Type) where
  name : String
  presence : Presence
  check : Stage → Json → Option Mismatch
  write : ρ → Json

/-- Fields of a record of type `ρ` that together make a value of type `α`. -/
structure Fields (ρ α : Type) where
  slots : List (Slot ρ)
  build : Stage → (String → Option Json) → Except Mismatch α
  view : ρ → α

namespace Fields

variable {ρ α β : Type}

protected def pure (a : α) : Fields ρ α := ⟨[], fun _ _ => .ok a, fun _ => a⟩

/-- The fields of one declaration followed by those of another. -/
protected def seq (f : Fields ρ (α → β)) (x : Fields ρ α) : Fields ρ β where
  slots := f.slots ++ x.slots
  build st look :=
    match f.build st look with
    | .error e => .error e
    | .ok g => (x.build st look).map g
  view r := f.view r (x.view r)

instance : Applicative (Fields ρ) where
  pure := Fields.pure
  seq f x := Fields.seq f (x ())
  map f x := Fields.seq (Fields.pure f) x

@[simp] theorem slots_pure (a : α) : (pure a : Fields ρ α).slots = [] := rfl

@[simp] theorem slots_map (g : α → β) (x : Fields ρ α) : (g <$> x).slots = x.slots := rfl

@[simp] theorem slots_seq (f : Fields ρ (α → β)) (x : Fields ρ α) :
    (f <*> x).slots = f.slots ++ x.slots := rfl

@[simp] theorem build_pure (a : α) (st : Stage) (look : String → Option Json) :
    (pure a : Fields ρ α).build st look = .ok a := rfl

@[simp] theorem build_map (g : α → β) (x : Fields ρ α) (st : Stage) (look : String → Option Json) :
    (g <$> x).build st look = (x.build st look).map g := rfl

@[simp] theorem build_seq (f : Fields ρ (α → β)) (x : Fields ρ α) (st : Stage)
    (look : String → Option Json) : (f <*> x).build st look =
      match f.build st look with
      | .error e => .error e
      | .ok g => (x.build st look).map g := rfl

@[simp] theorem view_pure (a : α) (r : ρ) : (pure a : Fields ρ α).view r = a := rfl

@[simp] theorem view_map (g : α → β) (x : Fields ρ α) (r : ρ) : (g <$> x).view r = g (x.view r) := rfl

@[simp] theorem view_seq (f : Fields ρ (α → β)) (x : Fields ρ α) (r : ρ) :
    (f <*> x).view r = f.view r (x.view r) := rfl

/-- The fault of a reading, if it fails. -/
def faultOf {ε α : Type} : Except ε α → Option ε
  | .ok _ => none
  | .error e => some e

/-- A field that has to be there. -/
def required (name : String) (c : Codec α) (get : ρ → α) : Fields ρ α where
  slots := [⟨name, .required, fun st j => faultOf (c.read st j), fun r => c.write (get r)⟩]
  build st look :=
    match look name with
    | some j => c.read st j
    | none => .error (.missingField name)
  view := get

/-- A field that may be null or missing. -/
def maybe (presence : Presence) (name : String) (c : Codec α) (get : ρ → Option α) :
    Fields ρ (Option α) where
  slots := [⟨name, presence, fun st j => faultOf (c.option.read st j),
    fun r => c.option.write (get r)⟩]
  build st look :=
    match look name with
    | some j => c.option.read st j
    | none => .ok none
  view := get

/-- A field that may be null, or missing from an object. -/
def nullable (name : String) (c : Codec α) (get : ρ → Option α) : Fields ρ (Option α) :=
  maybe .nullable name c get

/-- A field that may be null, or missing anywhere. -/
def defaulted (name : String) (c : Codec α) (get : ρ → Option α) : Fields ρ (Option α) :=
  maybe .defaulted name c get

def slot? (f : Fields ρ α) (name : String) : Option (Slot ρ) := f.slots.find? (·.name = name)

/-- The first member that does not fit its field. -/
def faultInMembers (f : Fields ρ α) (st : Stage) (ms : Json.Members) : Option Mismatch :=
  ms.findSome? fun p => (f.slot? p.1).bind fun s => s.check st p.2

/-- Reads the fields off the members of an object. -/
def readMembers (f : Fields ρ α) (st : Stage) (ms : Json.Members) : Except Mismatch α :=
  match f.faultInMembers st ms with
  | some e => .error e
  | none => f.build st fun name => Json.member? name ms

/-- The first item that does not fit its field, or the first field without an item. -/
def faultInItems (st : Stage) (size : Size) : List (Slot ρ) → List Json → Nat → Option Mismatch
  | [], _, _ => none
  | s :: slots, j :: items, i =>
    match s.check st j with
    | some e => some e
    | none => faultInItems st size slots items (i + 1)
  | s :: slots, [], i =>
    if s.presence = .defaulted then faultInItems st size slots [] (i + 1)
    else some (.wrongLength i size)

/-- Reads the fields off the items of an array. -/
def readItems (f : Fields ρ α) (st : Stage) (size : Size) (items : List Json) :
    Except Mismatch α :=
  match faultInItems st size f.slots items 0 with
  | some e => .error e
  | none =>
    if f.slots.length < items.length then
      .error (.wrongLength items.length
        (if st = .kept then .exactly f.slots.length else .fewer))
    else f.build st fun name => Json.member? name ((f.slots.map (·.name)).zip items)

/-- The members that a record is written as, in the order of declaration. -/
def members (f : Fields ρ α) (r : ρ) : Json.Members := f.slots.map fun s => (s.name, s.write r)

end Fields

def Codec.record {ρ : Type} (name : String) (f : Fields ρ ρ) : Codec ρ where
  read st
    | .object ms => f.readMembers st ms
    | .array items => f.readItems st (.record name f.slots.length) items
    | j => .error (.ofType j (.record name))
  write r := .object (f.members r)

end MarketFeed.Schema
