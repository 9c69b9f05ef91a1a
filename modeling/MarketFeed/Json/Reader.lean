import MarketFeed.Json.Scanner

/-!
Reading a text as a document. The containers that are still open stand on a stack; each token is
looked at together with what is expected next, so a text goes wrong at its first wrong character and
ends too early only where it was right so far. At most 127 containers may be open at a time.
-/

namespace MarketFeed.Json

/-- An open container with what it holds so far. The items of an array stand in reverse order; of an
object the key whose value is awaited is remembered. -/
inductive Open where
  | array (items : List Json)
  | object (members : Members) (key : String)
deriving Repr

/-- What has to come next. -/
inductive Expected where
  | value
  | firstItem
  | key
  | firstKey
  | colon
  | separator
  | nothing (document : Json)
deriving Repr

/-- Where the reader stands. -/
structure Position where
  stack : List Open
  expected : Expected
deriving Repr

/-- How many containers may be open at a time. -/
def depthLimit : Nat := 127

def isBlank (c : Char) : Bool := c = ' ' || c = '\n' || c = '\t' || c = '\r'

/-- Gives a finished document to the innermost open container. -/
def deliver (v : Json) : List Open → Position
  | [] => ⟨[], .nothing v⟩
  | .array items :: below => ⟨.array (v :: items) :: below, .separator⟩
  | .object members key :: below => ⟨.object (insertMember key v members) key :: below, .separator⟩

/-- Opens a container, unless too many are open. -/
def openContainer (o : Open) (e : Expected) (stack : List Open) : Except Fault Position :=
  if stack.length < depthLimit then .ok ⟨o :: stack, e⟩ else .error .malformed

/-- What a scanned document means for the position. -/
def delivered {α : Type} (stack : List Open) (make : α → Json) :
    Except Fault (α × List Char) → Except Fault (Position × List Char)
  | .error e => .error e
  | .ok (a, rest) => .ok (deliver (make a) stack, rest)

/-- Takes a document off the front, or opens one. The text starts with `c`. -/
def startValue (stack : List Open) (c : Char) (rest : List Char) :
    Except Fault (Position × List Char) :=
  if c = '"' then delivered stack .string (scanString [] rest)
  else if c = '-' ∨ c.isDigit then delivered stack .number (scanNumber (c :: rest))
  else if c = '[' then (openContainer (.array []) .firstItem stack).map (·, rest)
  else if c = '{' then (openContainer (.object [] "") .firstKey stack).map (·, rest)
  else if c = 't' then
    delivered stack (fun _ => .bool true) ((scanWord ['r', 'u', 'e'] rest).map ((), ·))
  else if c = 'f' then
    delivered stack (fun _ => .bool false) ((scanWord ['a', 'l', 's', 'e'] rest).map ((), ·))
  else if c = 'n' then
    delivered stack (fun _ => .null) ((scanWord ['u', 'l', 'l'] rest).map ((), ·))
  else .error .malformed

/-- Takes a key off the front; its opening quote is `c`. -/
def startKey (stack : List Open) (c : Char) (rest : List Char) :
    Except Fault (Position × List Char) :=
  match stack with
  | .object members _ :: below =>
    if c = '"' then
      (scanString [] rest).map fun p => (⟨.object members p.1 :: below, .colon⟩, p.2)
    else .error .malformed
  | _ => .error .malformed

/-- Ends the innermost container, if `c` is its closing bracket. -/
def close (stack : List Open) (c : Char) : Except Fault Position :=
  match stack with
  | .array items :: below =>
    if c = ']' then .ok (deliver (.array items.reverse) below) else .error .malformed
  | .object members _ :: below =>
    if c = '}' then .ok (deliver (.object members) below) else .error .malformed
  | [] => .error .malformed

/-- What a comma leads to. -/
def afterComma : List Open → Expected
  | .object .. :: _ => .key
  | _ => .value

/-- One token, which starts with `c`, a character that is no blank. -/
def token (p : Position) (c : Char) (rest : List Char) : Except Fault (Position × List Char) :=
  match p.expected with
  | .value => startValue p.stack c rest
  | .firstItem =>
    if c = ']' then (close p.stack c).map (·, rest) else startValue p.stack c rest
  | .key => startKey p.stack c rest
  | .firstKey =>
    if c = '}' then (close p.stack c).map (·, rest) else startKey p.stack c rest
  | .colon => if c = ':' then .ok (⟨p.stack, .value⟩, rest) else .error .malformed
  | .separator =>
    if c = ',' then .ok (⟨p.stack, afterComma p.stack⟩, rest)
    else (close p.stack c).map (·, rest)
  | .nothing _ => .error .malformed

theorem delivered_length {α : Type} {stack : List Open} {make : α → Json} {s : List Char}
    {r : Except Fault (α × List Char)} {q : Position} {rest : List Char}
    (short : ∀ a t, r = .ok (a, t) → t.length ≤ s.length)
    (h : delivered stack make r = .ok (q, rest)) : rest.length ≤ s.length := by
  cases r with
  | error e => cases h
  | ok p => cases h; exact short _ _ rfl

theorem map_pair_length {s rest : List Char} {r : Except Fault Position} {q : Position}
    (h : r.map (·, s) = .ok (q, rest)) : rest.length ≤ s.length := by
  cases r with
  | error e => cases h
  | ok p => cases h; simp

theorem word_length {w s : List Char} (a : Unit) (t : List Char)
    (h : (scanWord w s).map (fun r => ((), r)) = .ok (a, t)) : t.length ≤ s.length := by
  cases hw : scanWord w s with
  | error e => rw [hw] at h; cases h
  | ok r => rw [hw] at h; cases h; exact scanWord_length hw

theorem scanNumber_shorter {c : Char} {s rest : List Char} {n : Number}
    (h : scanNumber (c :: s) = .ok (n, rest)) : rest.length ≤ s.length := by
  have digits : ∀ {t ds r : List Char}, scanDigits t = .ok (ds, r) → r.length + 1 ≤ t.length := by
    intro t ds r hd
    unfold scanDigits at hd
    split at hd
    · cases hd
    · rename_i d t
      split at hd
      · rename_i hdigit
        cases hd
        have := length_dropWhile_le Char.isDigit t
        simp [List.dropWhile, hdigit]
        omega
      · cases hd
  have whole : ∀ {t ds r : List Char}, scanWhole t = .ok (ds, r) → r.length + 1 ≤ t.length := by
    intro t ds r hw
    unfold scanWhole at hw
    split at hw
    · split at hw
      · cases hw
      · cases hw; simp
    · exact digits hw
  have minus := takeMinus_length (c :: s)
  unfold scanNumber at h
  split at h
  · cases h
  · rename_i hw
    split at h
    · cases h
    · rename_i hf
      split at h
      · cases h
      · rename_i he
        have := whole hw
        have := scanFraction_length hf
        have := scanExponent_length he
        simp only [List.length_cons] at minus
        revert h
        generalize Numeral.value _ = v
        intro h
        cases v with
        | error e => cases h
        | ok v => cases h; omega

theorem startValue_length {stack : List Open} {c : Char} {s rest : List Char} {q : Position}
    (h : startValue stack c s = .ok (q, rest)) : rest.length ≤ s.length := by
  unfold startValue at h
  split at h
  · exact delivered_length (fun _ _ => scanString_length) h
  · split at h
    · exact delivered_length (fun _ _ => scanNumber_shorter) h
    · repeat' split at h
      all_goals first
        | exact map_pair_length h
        | exact delivered_length word_length h
        | cases h

theorem startKey_length {stack : List Open} {c : Char} {s rest : List Char} {q : Position}
    (h : startKey stack c s = .ok (q, rest)) : rest.length ≤ s.length := by
  unfold startKey at h
  split at h
  · split at h
    · cases hs : scanString [] s with
      | error e => rw [hs] at h; cases h
      | ok p => rw [hs] at h; cases h; exact scanString_length hs
    · cases h
  · cases h

theorem token_length {p q : Position} {c : Char} {s rest : List Char}
    (h : token p c s = .ok (q, rest)) : rest.length ≤ s.length := by
  unfold token at h
  split at h
  · exact startValue_length h
  · split at h
    · exact map_pair_length h
    · exact startValue_length h
  · exact startKey_length h
  · split at h
    · exact map_pair_length h
    · exact startKey_length h
  · split at h
    · cases h; simp
    · cases h
  · split at h
    · cases h; simp
    · exact map_pair_length h
  · cases h

/-- Reads on from a position to the end of the text. -/
def readFrom (p : Position) (s : List Char) : Except Fault Json :=
  match s with
  | [] =>
    match p.expected with
    | .nothing v => .ok v
    | _ => .error .ended
  | c :: rest =>
    if isBlank c then readFrom p rest
    else
      match _h : token p c rest with
      | .error e => .error e
      | .ok (q, after) => readFrom q after
termination_by s.length
decreasing_by
  · simp
  · have := token_length _h; simp; omega

def read (s : List Char) : Except Fault Json := readFrom ⟨[], .value⟩ s


end MarketFeed.Json
