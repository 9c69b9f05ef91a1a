import MarketFeed.Proofs.Numerals
import MarketFeed.Decimal.Reader

/-!
Decimals and their texts. The text of a decimal is read back as that decimal, with all its places.
-/

namespace MarketFeed.Decimal

variable {negative seen : Bool} {m k : Nat} {ds s : List Char}

lemma digit?_of_isDigit {c : Char} (h : c.isDigit = true) :
    digit? c = some (c.toNat - '0'.toNat) := by
  rw [digit?, if_pos h]
  rfl

/-- The next digit of digits whose number fits does fit. -/
theorem next_lt {c : Char} (h : Nat.ofDigitChars 10 (c :: ds) m < 1 <<< 96) :
    m * 10 + (c.toNat - '0'.toNat) < 1 <<< 96 := by
  rw [Nat.ofDigitChars_cons] at h
  have hle := Digits.le_ofDigitChars ds (10 * m + (c.toNat - '0'.toNat))
  omega

/-- Digits before the point. -/
theorem readOn_whole (hd : ∀ c ∈ ds, c.isDigit = true) (hm : Nat.ofDigitChars 10 ds m < 1 <<< 96) :
    readOn ⟨negative, m, 0, false, seen⟩ (ds ++ s) =
      readOn ⟨negative, Nat.ofDigitChars 10 ds m, 0, false, seen || !ds.isEmpty⟩ s := by
  induction ds generalizing m seen with
  | nil => simp
  | cons c ds ih =>
    have hc := digit?_of_isDigit (hd c List.mem_cons_self)
    have hlt := next_lt hm
    rw [Nat.ofDigitChars_cons, Nat.mul_comm 10 m] at hm ⊢
    rw [List.cons_append, readOn, if_neg (by simp), hc]
    dsimp only
    rw [if_pos hlt]
    refine (ih (fun d hd' => hd d (List.mem_cons_of_mem c hd')) hm).trans ?_
    simp

/-- Digits after the point, which end the number. -/
theorem readOn_places (hd : ∀ c ∈ ds, c.isDigit = true) (hm : Nat.ofDigitChars 10 ds m < 1 <<< 96)
    (hk : k + ds.length ≤ maxScale) :
    readOn ⟨negative, m, k, true, true⟩ ds =
      ofParts? negative (Nat.ofDigitChars 10 ds m) (k + ds.length) := by
  induction ds generalizing m k with
  | nil => simp [readOn]
  | cons c ds ih =>
    have hc := digit?_of_isDigit (hd c List.mem_cons_self)
    have hlt := next_lt hm
    rw [List.length_cons] at hk ⊢
    rw [Nat.ofDigitChars_cons, Nat.mul_comm 10 m] at hm ⊢
    have hroom : ¬ ((true = true) ∧ maxScale ≤ k) := by omega
    rw [readOn, if_neg hroom, hc]
    dsimp only
    rw [if_pos hlt, if_pos rfl, ih (fun d hd' => hd d (List.mem_cons_of_mem c hd')) hm (by omega)]
    congr 1
    omega

lemma readOn_numeral (negative : Bool) {whole places : List Char} (hne : whole ≠ [])
    (hw : ∀ c ∈ whole, c.isDigit = true) (hp : ∀ c ∈ places, c.isDigit = true)
    (hm : Nat.ofDigitChars 10 (whole ++ places) 0 < 1 <<< 96) (hl : places.length ≤ maxScale) :
    readOn ⟨negative, 0, 0, false, false⟩ (whole ++ if places.length = 0 then [] else '.' :: places) =
      ofParts? negative (Nat.ofDigitChars 10 (whole ++ places) 0) places.length := by
  rw [Nat.ofDigitChars_append] at hm ⊢
  have hlt : Nat.ofDigitChars 10 whole 0 < 1 <<< 96 :=
    Nat.lt_of_le_of_lt (Digits.le_ofDigitChars places _) hm
  have hseen : (false || !whole.isEmpty) = true := by simpa using hne
  rw [readOn_whole hw hlt, hseen]
  split
  · rename_i h
    obtain rfl := List.length_eq_zero_iff.mp h
    rfl
  · have hpoint : digit? '.' = none := by decide
    rw [readOn, if_neg (by simp), hpoint]
    dsimp only
    rw [if_pos ⟨rfl, by simp⟩, readOn_places hp hm (by omega), Nat.zero_add]

/-- A numeral that starts with a digit has no sign. -/
theorem readPlain_signed {c : Char} (hc : c.isDigit = true) (negative : Bool) (s : List Char) :
    readPlain ((if negative then ['-'] else []) ++ c :: s) =
      readOn ⟨negative, 0, 0, false, false⟩ (c :: s) := by
  cases negative with
  | true => rfl
  | false =>
    have hm : c ≠ '-' := by rintro rfl; cases hc
    have hp : c ≠ '+' := by rintro rfl; cases hc
    simp [readPlain, hm, hp]

/-- A decimal is read back from its text. -/
theorem read_text (d : Decimal) : read d.text = some d := by
  let digits := Nat.toDigits 10 d.mantissa
  let padded := List.replicate (d.scale + 1 - digits.length) '0' ++ digits
  have hlen : d.scale < padded.length := by
    simp only [padded, List.length_append, List.length_replicate]
    omega
  have hdigits : ∀ c ∈ padded, c.isDigit = true := by
    intro c hc
    rcases List.mem_append.mp hc with hc | hc
    · obtain rfl := (List.mem_replicate.mp hc).2
      rfl
    · exact Digits.isDigit_of_mem hc
  have hvalue : Nat.ofDigitChars 10 padded 0 = d.mantissa := by
    simp [padded, digits, Nat.ofDigitChars_append]
  -- the last places are the digits after the point
  obtain ⟨whole, places, hsplit, hw, hp⟩ : ∃ whole places, padded = whole ++ places ∧
      padded.take (padded.length - d.scale) = whole ∧ padded.drop (padded.length - d.scale) = places :=
    ⟨_, _, (List.take_append_drop _ _).symm, rfl, rfl⟩
  have hscale : places.length = d.scale := by
    rw [← hp, List.length_drop]
    omega
  have hne : whole ≠ [] := by
    rintro rfl
    rw [hsplit, List.nil_append] at hlen
    omega
  obtain ⟨c, rest, hcons⟩ := List.exists_cons_of_ne_nil hne
  have hc : c.isDigit = true := hdigits c (by simp [hsplit, hcons])
  have hread := readOn_numeral d.negative hne
    (fun c hc => hdigits c (hsplit ▸ List.mem_append_left _ hc))
    (fun c hc => hdigits c (hsplit ▸ List.mem_append_right _ hc))
    (by rw [← hsplit, hvalue]; exact d.mantissa_lt) (hscale ▸ d.scale_le)
  rw [← hsplit, hvalue, hscale, ofParts?_self] at hread
  have htext : d.text = (if d.negative then ['-'] else []) ++ whole ++
      (if d.scale = 0 then [] else '.' :: places) := by
    rw [← hw, ← hp]
    rfl
  rw [hcons, List.cons_append] at hread
  rw [Decimal.read, htext, hcons, List.append_assoc, List.cons_append, readPlain_signed hc, hread]

end MarketFeed.Decimal
