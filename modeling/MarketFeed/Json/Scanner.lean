import MarketFeed.Json.Value

/-!
The tokens of a document that are longer than one character: words, strings and numbers. A scanner
takes its token off the front of a text and returns what follows, which is never longer than the text.
-/

namespace MarketFeed.Json

/-- Why a text is no document: it ends too early, or it goes wrong before its end. -/
inductive Fault where
  | ended
  | malformed
deriving DecidableEq, Repr

/-- Takes a fixed word off the front. -/
def scanWord : (word s : List Char) → Except Fault (List Char)
  | [], s => .ok s
  | _ :: _, [] => .error .ended
  | w :: word, c :: s => if c = w then scanWord word s else .error .malformed

def hexValue (c : Char) : Option Nat :=
  if '0' ≤ c ∧ c ≤ '9' then some (c.toNat - 48)
  else if 'a' ≤ c ∧ c ≤ 'f' then some (c.toNat - 87)
  else if 'A' ≤ c ∧ c ≤ 'F' then some (c.toNat - 55)
  else none

/-- Four hexadecimal digits. With fewer than four bytes left the text has ended, whatever they are. -/
def scanUnit : List Char → Except Fault (Nat × List Char)
  | a :: b :: c :: d :: rest =>
    match hexValue a, hexValue b, hexValue c, hexValue d with
    | some a, some b, some c, some d => .ok (((a * 16 + b) * 16 + c) * 16 + d, rest)
    | _, _, _, _ => .error .malformed
  | short => if short.foldl (fun n c => n + c.utf8Size) 0 < 4 then .error .ended else .error .malformed

/-- The character after a backslash and `u`: one unit, or a pair of surrogates. A surrogate that
stands alone is malformed. -/
def scanUnicode (s : List Char) : Except Fault (Char × List Char) :=
  match scanUnit s with
  | .error e => .error e
  | .ok (n, rest) =>
    if 0xDC00 ≤ n ∧ n ≤ 0xDFFF then .error .malformed
    else if n < 0xD800 ∨ 0xDBFF < n then .ok (Char.ofNat n, rest)
    else
      match rest with
      | [] => .error .ended
      | '\\' :: [] => .error .ended
      | '\\' :: 'u' :: rest =>
        match scanUnit rest with
        | .error e => .error e
        | .ok (m, rest) =>
          if m < 0xDC00 ∨ 0xDFFF < m then .error .malformed
          else .ok (Char.ofNat (0x10000 + (n - 0xD800) * 0x400 + (m - 0xDC00)), rest)
      | _ => .error .malformed

/-- The character that an escape stands for; the backslash is gone already. -/
def scanEscape : List Char → Except Fault (Char × List Char)
  | [] => .error .ended
  | c :: rest =>
    if c = 'u' then scanUnicode rest
    else if c = '"' ∨ c = '\\' ∨ c = '/' then .ok (c, rest)
    else if c = 'b' then .ok (Char.ofNat 8, rest)
    else if c = 'f' then .ok (Char.ofNat 12, rest)
    else if c = 'n' then .ok ('\n', rest)
    else if c = 'r' then .ok ('\r', rest)
    else if c = 't' then .ok ('\t', rest)
    else .error .malformed

theorem scanUnit_length {s rest : List Char} {n : Nat} (h : scanUnit s = .ok (n, rest)) :
    rest.length ≤ s.length := by
  rw [scanUnit.eq_def] at h
  split at h
  · split at h
    · cases h; simp; omega
    · cases h
  · split at h <;> cases h

theorem scanUnicode_length {s rest : List Char} {c : Char} (h : scanUnicode s = .ok (c, rest)) :
    rest.length ≤ s.length := by
  unfold scanUnicode at h
  split at h
  · cases h
  · rename_i n r hr
    have first := scanUnit_length hr
    split at h
    · cases h
    · split at h
      · simp only [Except.ok.injEq, Prod.mk.injEq] at h
        exact h.2 ▸ first
      · split at h
        · cases h
        · cases h
        · split at h
          · cases h
          · rename_i hr'
            have second := scanUnit_length hr'
            split at h
            · cases h
            · simp only [Except.ok.injEq, Prod.mk.injEq] at h
              rw [← h.2]
              simp only [List.length_cons] at first
              omega
        · cases h

theorem scanEscape_length {s rest : List Char} {c : Char} (h : scanEscape s = .ok (c, rest)) :
    rest.length ≤ s.length := by
  cases s with
  | nil => cases h
  | cons d s =>
    simp only [scanEscape] at h
    split at h
    · have := scanUnicode_length h
      simp only [List.length_cons]
      omega
    · repeat' split at h
      all_goals simp only [Except.ok.injEq, Prod.mk.injEq, reduceCtorEq] at h
      all_goals simp [← h.2]

/-- A string up to its closing quote; the opening one is gone already. -/
def scanString (done s : List Char) : Except Fault (String × List Char) :=
  match s with
  | [] => .error .ended
  | c :: rest =>
    if c = '"' then .ok (String.ofList done.reverse, rest)
    else if c = '\\' then
      match _h : scanEscape rest with
      | .error e => .error e
      | .ok (d, after) => scanString (d :: done) after
    else if c.toNat < 0x20 then .error .malformed
    else scanString (c :: done) rest
termination_by s.length
decreasing_by
  · have := scanEscape_length _h; simp; omega
  · simp

theorem scanString_length {done s rest : List Char} {t : String}
    (h : scanString done s = .ok (t, rest)) : rest.length ≤ s.length := by
  fun_induction scanString done s with
  | case1 => cases h
  | case2 => cases h; simp
  | case3 => cases h
  | case4 _ _ _ _ hs _ ih =>
    have := scanEscape_length hs
    have := ih h
    simp only [List.length_cons]
    omega
  | case5 => cases h
  | case6 _ _ _ _ _ _ ih =>
    have := ih h
    simp only [List.length_cons]
    omega

/-- Adds digits to a significand as long as it fits 64 bits; the digits from the first that does not
fit are left over. -/
def keepDigits (significand : Nat) : List Char → Nat × List Char
  | [] => (significand, [])
  | c :: rest =>
    let next := significand * 10 + (c.toNat - 48)
    if next < 1 <<< 64 then keepDigits next rest else (significand, c :: rest)

/-- The double `f · 10 ^ e`, in steps of at most 308 places, each of them rounded. There is none when
the value is out of range. -/
def shiftPlaces (f : Double) (e : Int) : Option Double :=
  if 0 ≤ e then
    if e ≤ 308 then
      let p := f.mul (.powerOfTen e.toNat)
      if p.isFinite then some p else none
    else if f.isZero then some f else none
  else if -308 ≤ e then some (f.div (.powerOfTen (-e).toNat))
  else if f.isZero then some f
  else shiftPlaces (f.div (.powerOfTen 308)) (e + 308)
termination_by (-e).toNat
decreasing_by omega

structure Numeral where
  negative : Bool
  whole : List Char
  fraction : Option (List Char)
  exponent : Option Int
deriving DecidableEq, Repr

def digitsValue (ds : List Char) : Nat := ds.foldl (fun n c => n * 10 + (c.toNat - 48)) 0

/-- The number that a numeral stands for. Whole numbers that fit 64 bits are integers; all others, and
the negative zero, are doubles, read from the leading digits that fit 64 bits. -/
def Numeral.value (n : Numeral) : Except Fault Number :=
  let (significand, left) := keepDigits 0 n.whole
  let real (significand : Nat) (places : Int) : Except Fault Number :=
    match shiftPlaces (.ofNat significand) places with
    | some d => .ok (.real (if n.negative then d.neg else d))
    | none => .error .malformed
  match n.fraction, n.exponent with
  | none, none =>
    if left ≠ [] then real significand left.length
    else if n.negative then
      if significand = 0 ∨ 1 <<< 63 < significand then .ok (.real (Double.ofNat significand).neg)
      else .ok (.integer (-significand))
    else .ok (.integer significand)
  | fraction, exponent =>
    let digits := fraction.getD []
    let (significand, dropped) := keepDigits significand digits
    real significand (left.length - ((digits.length - dropped.length : Nat) : Int) + exponent.getD 0)

/-- The digits at the front, of which there has to be one. -/
def scanDigits (s : List Char) : Except Fault (List Char × List Char) :=
  match s with
  | [] => .error .ended
  | c :: _ =>
    if c.isDigit then .ok (s.takeWhile Char.isDigit, s.dropWhile Char.isDigit) else .error .malformed

theorem length_dropWhile_le {α : Type} (p : α → Bool) (s : List α) :
    (s.dropWhile p).length ≤ s.length := by
  induction s with
  | nil => simp
  | cons c s ih => simp only [List.dropWhile]; split <;> simp; omega

theorem scanDigits_length {s ds rest : List Char} (h : scanDigits s = .ok (ds, rest)) :
    rest.length ≤ s.length := by
  unfold scanDigits at h
  split at h
  · cases h
  · split at h
    · cases h; exact length_dropWhile_le _ _
    · cases h

/-- The whole part: a zero alone, or digits that do not start with a zero. -/
def scanWhole (s : List Char) : Except Fault (List Char × List Char) :=
  match s with
  | '0' :: c :: rest => if c.isDigit then .error .malformed else .ok (['0'], c :: rest)
  | _ => scanDigits s

theorem scanWhole_length {s ds rest : List Char} (h : scanWhole s = .ok (ds, rest)) :
    rest.length ≤ s.length := by
  unfold scanWhole at h
  split at h
  · split at h
    · cases h
    · cases h; simp
  · exact scanDigits_length h

/-- The point and the digits after it, if there is a point. -/
def scanFraction (s : List Char) : Except Fault (Option (List Char) × List Char) :=
  match s with
  | '.' :: rest => (scanDigits rest).map fun p => (some p.1, p.2)
  | _ => .ok (none, s)

theorem scanFraction_length {s rest : List Char} {f : Option (List Char)}
    (h : scanFraction s = .ok (f, rest)) : rest.length ≤ s.length := by
  unfold scanFraction at h
  split at h
  · rename_i s'
    cases hd : scanDigits s' with
    | error e => rw [hd] at h; cases h
    | ok p =>
      rw [hd] at h
      cases h
      have := scanDigits_length hd
      simp; omega
  · cases h; simp

/-- A minus sign at the front, if there is one. -/
def takeMinus : List Char → Bool × List Char
  | '-' :: rest => (true, rest)
  | s => (false, s)

/-- A sign at the front, if there is one; only a minus makes the number negative. -/
def takeSign : List Char → Bool × List Char
  | '+' :: rest => (false, rest)
  | s => takeMinus s

theorem takeMinus_length (s : List Char) : (takeMinus s).2.length ≤ s.length := by
  unfold takeMinus
  split <;> simp

theorem takeSign_length (s : List Char) : (takeSign s).2.length ≤ s.length := by
  unfold takeSign
  split
  · simp
  · exact takeMinus_length _

/-- The exponent mark, a sign and digits, if there is a mark. -/
def scanExponent (s : List Char) : Except Fault (Option Int × List Char) :=
  match s with
  | [] => .ok (none, [])
  | c :: rest =>
    if c = 'e' ∨ c = 'E' then
      match scanDigits (takeSign rest).2 with
      | .error e => .error e
      | .ok (ds, after) =>
        let size : Int := digitsValue ds
        .ok (some (if (takeSign rest).1 then -size else size), after)
    else .ok (none, c :: rest)

theorem scanExponent_length {s rest : List Char} {e : Option Int}
    (h : scanExponent s = .ok (e, rest)) : rest.length ≤ s.length := by
  unfold scanExponent at h
  split at h
  · cases h; simp
  · rename_i c r
    split at h
    · split at h
      · cases h
      · rename_i hd
        simp only [Except.ok.injEq, Prod.mk.injEq] at h
        have := scanDigits_length hd
        have := takeSign_length r
        rw [← h.2]
        simp only [List.length_cons]
        omega
    · cases h; simp

def scanNumber (s : List Char) : Except Fault (Number × List Char) :=
  match scanWhole (takeMinus s).2 with
  | .error e => .error e
  | .ok (whole, rest) =>
    match scanFraction rest with
    | .error e => .error e
    | .ok (fraction, rest) =>
      match scanExponent rest with
      | .error e => .error e
      | .ok (exponent, rest) =>
        (Numeral.value ⟨(takeMinus s).1, whole, fraction, exponent⟩).map fun n => (n, rest)

theorem scanWord_length {w s rest : List Char} (h : scanWord w s = .ok rest) :
    rest.length ≤ s.length := by
  induction w generalizing s with
  | nil => cases h; simp
  | cons c w ih =>
    cases s with
    | nil => cases h
    | cons d s =>
      simp only [scanWord] at h
      split at h
      · have := ih h
        simp only [List.length_cons]
        omega
      · cases h

example : scanNumber "-0,".toList = .ok (.real (.finite true 0 (-1074)), [',']) := by cbv
example : scanNumber "18446744073709551615".toList = .ok (.integer ((1 <<< 64 : Nat) - 1), []) := by cbv
example : scanNumber "1.".toList = .error .ended := by cbv
example : scanString [] "a\\u00e9\"x".toList = .ok ("aé", ['x']) := by cbv

end MarketFeed.Json
