import MarketFeed.Double.Text

/-!
Data documents as values. An object keeps its members in increasing order of their keys, by code
point, each key once; `Json.insertMember` is the one operation that adds a member.
-/

namespace MarketFeed

/-- A number of a document: an integer that fits 64 bits, signed or unsigned, or a double. -/
inductive Json.Number where
  | integer (value : Int)
  | real (value : Double)
deriving DecidableEq, Repr

inductive Json where
  | null
  | bool (value : Bool)
  | number (value : Json.Number)
  | string (value : String)
  | array (items : List Json)
  | object (members : List (String × Json))
deriving Repr, Inhabited, BEq

namespace Json

/-- The members of an object. -/
abbrev Members := List (String × Json)

/-- The least and the greatest integer that a document number holds exactly. -/
def leastInteger : Int := -(1 <<< 63 : Nat)

@[inherit_doc leastInteger]
def greatestInteger : Int := (1 <<< 64 : Nat) - 1

def int (n : Int) : Json := .number (.integer n)

/-- Adds a member; of two members with one key the later one stays. -/
def insertMember (key : String) (value : Json) : Members → Members
  | [] => [(key, value)]
  | (k, v) :: rest =>
    if key < k then (key, value) :: (k, v) :: rest
    else if key = k then (key, value) :: rest
    else (k, v) :: insertMember key value rest

/-- The members of an object that is written as a list of pairs. -/
def membersOf (pairs : Members) : Members :=
  pairs.foldl (fun ms p => insertMember p.1 p.2 ms) []

/-- An object with the given members. -/
def ofMembers (pairs : Members) : Json := .object (membersOf pairs)

/-- The value of a key. -/
def member? (key : String) : Members → Option Json
  | [] => none
  | (k, v) :: rest => if k = key then some v else member? key rest

/-- The members without one key. -/
def eraseMember (key : String) (ms : Members) : Members := ms.filter fun p => p.1 ≠ key

def get? (key : String) : Json → Option Json
  | .object ms => member? key ms
  | _ => none

@[simp] theorem member?_nil (key : String) : member? key [] = none := rfl

@[simp] theorem member?_cons (key k : String) (v : Json) (rest : Members) :
    member? key ((k, v) :: rest) = if k = key then some v else member? key rest := rfl

/-- What a key has after an insertion. -/
theorem member?_insertMember (key k : String) (v : Json) (ms : Members) :
    member? key (insertMember k v ms) = if k = key then some v else member? key ms := by
  induction ms with
  | nil => rfl
  | cons p rest ih =>
    obtain ⟨k', v'⟩ := p
    rw [insertMember]
    split
    · rfl
    · split
      · rename_i h; subst h; by_cases hk : k = key <;> simp [hk]
      · rename_i h
        by_cases hk : k' = key
        · subst hk; simp [h]
        · simp [hk, ih]

/-- What a key has among the members whose keys are kept. -/
theorem member?_filter (key : String) (keep : String → Bool) (ms : Members) :
    member? key (ms.filter fun p => keep p.1) = if keep key then member? key ms else none := by
  induction ms with
  | nil => simp
  | cons p rest ih =>
    obtain ⟨k, v⟩ := p
    by_cases hk : k = key
    · subst hk
      cases hkeep : keep k <;> simp_all
    · cases hkeep : keep k <;> simp_all

theorem member?_eraseMember (key k : String) (ms : Members) :
    member? key (eraseMember k ms) = if key = k then none else member? key ms := by
  have h := member?_filter key (fun x => x ≠ k) ms
  by_cases hk : key = k
  · simpa [hk, eraseMember] using h
  · simpa [hk, eraseMember] using h

end Json

end MarketFeed
