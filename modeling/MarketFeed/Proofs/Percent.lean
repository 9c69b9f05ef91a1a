import Mathlib.Data.Bool.AllAny
import MarketFeed.Url.Percent

/-!
Percent encoding and back. What is encoded stays as it is when it is encoded again, and the bytes of a
text come back from its encoded form.
-/

namespace MarketFeed.Url

/-- The text of some UTF-8 bytes. -/
theorem fromUTF8?_charBytes (s : List Char) :
    String.fromUTF8? ⟨(s.flatMap charBytes).toArray⟩ = some (String.ofList s) := by
  have h : (⟨(s.flatMap charBytes).toArray⟩ : ByteArray) = (String.ofList s).toByteArray := by
    rw [String.toByteArray_ofList, List.utf8Encode]
    refine ByteArray.ext (Array.ext' ?_)
    rw [List.toList_data_toByteArray]
    rfl
  rw [h]
  exact dif_pos (String.ofList s).isValidUTF8

/-- What holds of the first 128 characters. -/
theorem forall_ascii {p : Char → Prop} (hall : ∀ m : Fin 128, p (Char.ofNat m)) {c : Char}
    (h : c.toNat < 128) : p c := by
  have hc := hall ⟨c.toNat, h⟩
  rwa [Char.ofNat_toNat] at hc

/-- Whether encoding keeps a character. -/
def isKept (encoded : Char → Bool) (c : Char) : Bool := !(encoded c || 0x7F ≤ c.toNat)

/-- The characters that encoding writes. -/
def codeChars : List Char := "%0123456789ABCDEF".toList

/-- A text in which nothing is left to encode. -/
def IsEncoded (encoded : Char → Bool) (s : List Char) : Prop := ∀ c ∈ s, isKept encoded c = true

variable {encoded : Char → Bool} {s : List Char}

theorem toNat_lt_of_isKept {c : Char} (h : isKept encoded c = true) : c.toNat < 0x7F := by
  rw [isKept, Bool.not_eq_true', Bool.or_eq_false_iff] at h
  exact Nat.lt_of_not_le (of_decide_eq_false h.2)

theorem percentEncode_cons_kept {c : Char} (h : isKept encoded c = true) :
    percentEncode encoded (c :: s) = c :: percentEncode encoded s := by
  rw [percentEncode, List.flatMap_cons, if_neg, List.singleton_append, ← percentEncode]
  intro hc
  rw [isKept, hc] at h
  cases h

theorem percentEncode_cons_encoded {c : Char} (h : isKept encoded c = false) :
    percentEncode encoded (c :: s) = (charBytes c).flatMap percentByte ++ percentEncode encoded s := by
  rw [percentEncode, List.flatMap_cons, if_pos, ← percentEncode]
  rw [isKept, Bool.not_eq_false'] at h
  exact h

theorem IsEncoded.percentEncode_eq (h : IsEncoded encoded s) : percentEncode encoded s = s := by
  induction s with
  | nil => rfl
  | cons c s ih =>
    obtain ⟨hc, hs⟩ := List.forall_mem_cons.mp h
    rw [percentEncode_cons_kept hc, ih hs]

theorem upperHex_mem {n : Nat} (h : n < 16) : upperHex n ∈ codeChars := by
  have all : ∀ m : Fin 16, upperHex m ∈ codeChars := by decide
  exact all ⟨n, h⟩

theorem hexDigit?_upperHex {n : Nat} (h : n < 16) : hexDigit? (upperHex n) = some n := by
  have all : ∀ m : Fin 16, hexDigit? (upperHex m) = some m.val := by decide
  exact all ⟨n, h⟩

theorem mem_percentByte {b : UInt8} {c : Char} (h : c ∈ percentByte b) : c ∈ codeChars := by
  have hb : b.toNat < 256 := b.toNat_lt
  rw [percentByte] at h
  rcases List.mem_cons.mp h with rfl | h
  · decide
  rcases List.mem_cons.mp h with rfl | h
  · exact upperHex_mem (by omega)
  · rw [List.mem_singleton.mp h]
    exact upperHex_mem (by omega)

/-- A character of an encoded text was kept or is one that encoding writes. -/
theorem mem_percentEncode {x : Char} (h : x ∈ percentEncode encoded s) :
    x ∈ s ∧ isKept encoded x = true ∨ x ∈ codeChars := by
  induction s with
  | nil => cases h
  | cons c s ih =>
    have hrest (hx : x ∈ percentEncode encoded s) :
        x ∈ c :: s ∧ isKept encoded x = true ∨ x ∈ codeChars :=
      (ih hx).imp_left fun hkept => ⟨List.mem_cons_of_mem c hkept.1, hkept.2⟩
    cases hc : isKept encoded c with
    | true =>
      rw [percentEncode_cons_kept hc] at h
      rcases List.mem_cons.mp h with rfl | h
      · exact .inl ⟨List.mem_cons_self, hc⟩
      · exact hrest h
    | false =>
      rw [percentEncode_cons_encoded hc] at h
      rcases List.mem_append.mp h with h | h
      · obtain ⟨b, -, hb⟩ := List.mem_flatMap.mp h
        exact .inr (mem_percentByte hb)
      · exact hrest h

/-- What encoding leaves needs no encoding, if the set has none of the characters that encoding writes. -/
theorem isEncoded_percentEncode (hcode : ∀ c ∈ codeChars, isKept encoded c = true) (s : List Char) :
    IsEncoded encoded (percentEncode encoded s) := fun c hc =>
  (mem_percentEncode hc).elim And.right (hcode c)

lemma percentDecode_percentByte (b : UInt8) (rest : List Char) :
    percentDecode (percentByte b ++ rest) = b :: percentDecode rest := by
  have hb : b.toNat < 256 := b.toNat_lt
  have hdiv : b.toNat / 16 < 16 := by omega
  have hmod : b.toNat % 16 < 16 := by omega
  have hback : (b.toNat / 16 * 16 + b.toNat % 16).toUInt8 = b := by
    rw [Nat.div_add_mod']
    exact UInt8.ofNat_toNat
  rw [percentByte]
  simp only [List.cons_append, List.nil_append, percentDecode, hexDigit?_upperHex hdiv,
    hexDigit?_upperHex hmod, hback]

theorem percentDecode_percentBytes (bs : List UInt8) (rest : List Char) :
    percentDecode (bs.flatMap percentByte ++ rest) = bs ++ percentDecode rest := by
  induction bs with
  | nil => rfl
  | cons b bs ih =>
    rw [List.flatMap_cons, List.append_assoc, percentDecode_percentByte, ih, List.cons_append]

theorem percentDecode_cons_plain {c : Char} (h : c ≠ '%') (rest : List Char) :
    percentDecode (c :: rest) = charBytes c ++ percentDecode rest := by
  rw [percentDecode]
  rintro a b rest' rfl
  exact absurd rfl h

/-- A text without percent signs stands for its own bytes. -/
theorem percentDecode_plain (h : '%' ∉ s) : percentDecode s = s.flatMap charBytes := by
  induction s with
  | nil => rfl
  | cons c s ih =>
    have hc : c ≠ '%' := (List.ne_of_not_mem_cons h).symm
    rw [percentDecode_cons_plain hc, ih (List.not_mem_of_not_mem_cons h), List.flatMap_cons]

theorem inPath_codeChars : ∀ c ∈ codeChars, isKept inPath c = true :=
  List.all_iff_forall_prop.mp (by decide)

theorem inFragment_codeChars : ∀ c ∈ codeChars, isKept inFragment c = true :=
  List.all_iff_forall_prop.mp (by decide)

theorem inQuery_codeChars : ∀ c ∈ codeChars, isKept inQuery c = true :=
  List.all_iff_forall_prop.mp (by decide)

theorem inUserInfo_codeChars : ∀ c ∈ codeChars, isKept inUserInfo c = true :=
  List.all_iff_forall_prop.mp (by decide)

end MarketFeed.Url
