import MarketFeed.Proofs.Cuts
import MarketFeed.Proofs.Percent

/-!
Forms: how a query is read as pairs of names and values, and that a text comes back from its encoded
form.
-/

namespace MarketFeed.Url

/-- A plus sign in a form stands for a space. -/
def unplus (c : Char) : Char := if c = '+' then ' ' else c

/-- The text that a name or a value of a form stands for. -/
def formText? (s : List Char) : Option String :=
  String.fromUTF8? ⟨(percentDecode (s.map unplus)).toArray⟩

/-- The pairs of a form: its parts between ampersands, each cut at its first equals sign. Empty parts do
not count. -/
def formPairs? (s : List Char) : Option (List (String × String)) :=
  allSome <| ((splitAt '&' s).filter (· ≠ [])).map fun part => do
    let (name, value) := cutMark '=' part
    return (← formText? name, ← formText? (value.getD []))

/-- The characters that stand in an encoded value. -/
def isFormChar (c : Char) : Bool := inForm c || c = '+' || c = '%'

/-- Letters and digits are basic. -/
theorem toNat_lt_of_isAlphanum {c : Char} (h : c.isAlphanum = true) : c.toNat < 128 := by
  have hcases : (decide (65 ≤ c.val ∧ c.val ≤ 90) || (decide (97 ≤ c.val) && decide (c.val ≤ 122)) ||
      (decide (48 ≤ c.val) && decide (c.val ≤ 57))) = true := h
  simp only [Bool.or_eq_true, Bool.and_eq_true, decide_eq_true_eq] at hcases
  rcases hcases with (⟨-, hle⟩ | ⟨-, hle⟩) | ⟨-, hle⟩ <;>
    exact Nat.lt_of_le_of_lt (UInt32.le_iff_toNat_le.mp hle) (by decide)

theorem toNat_lt_of_isFormChar {c : Char} (h : isFormChar c = true) : c.toNat < 128 := by
  simp only [isFormChar, inForm, Bool.or_eq_true, decide_eq_true_eq] at h
  rcases h with (((((h | rfl) | rfl) | rfl) | rfl) | rfl) | rfl
  · exact toNat_lt_of_isAlphanum h
  all_goals decide

lemma isFormChar_codeChars : ∀ c ∈ codeChars, isFormChar c = true :=
  List.all_iff_forall_prop.mp (by decide)

theorem isFormChar_formEncode (s : List Char) : ∀ c ∈ formEncode s, isFormChar c = true := by
  intro c hc
  obtain ⟨x, -, hx⟩ := List.mem_flatMap.mp hc
  split at hx
  next hin =>
    rw [List.mem_singleton.mp hx, isFormChar, hin]
    rfl
  next =>
    split at hx
    · rw [List.mem_singleton.mp hx]
      rfl
    · obtain ⟨b, -, hb⟩ := List.mem_flatMap.mp hx
      exact isFormChar_codeChars c (mem_percentByte hb)

lemma map_unplus_code (bs : List UInt8) :
    (bs.flatMap percentByte).map unplus = bs.flatMap percentByte := by
  have hcode : ∀ c ∈ codeChars, unplus c = c := List.all_iff_forall_prop.mp (by decide)
  have h : ∀ c ∈ bs.flatMap percentByte, unplus c = id c := fun c hc => by
    obtain ⟨b, -, hb⟩ := List.mem_flatMap.mp hc
    exact hcode c (mem_percentByte hb)
  rw [List.map_congr_left h, List.map_id]

/-- The bytes of a text come back from its encoded form. -/
theorem percentDecode_formEncode (s : List Char) :
    percentDecode ((formEncode s).map unplus) = s.flatMap charBytes := by
  induction s with
  | nil => rfl
  | cons c s ih =>
    rw [formEncode, List.flatMap_cons, ← formEncode, List.map_append, List.flatMap_cons]
    split
    next hin =>
      have hplus : c ≠ '+' := by rintro rfl; cases hin
      have hsign : c ≠ '%' := by rintro rfl; cases hin
      rw [List.map_singleton, unplus, if_neg hplus, List.singleton_append,
        percentDecode_cons_plain hsign, ih]
    next =>
      split
      next hspace =>
        rw [hspace, List.map_singleton, List.singleton_append, unplus, if_pos rfl,
          percentDecode_cons_plain (by decide), ih]
      next => rw [map_unplus_code, percentDecode_percentBytes, ih]

lemma formText?_formEncode (s : List Char) : formText? (formEncode s) = some (String.ofList s) := by
  rw [formText?, percentDecode_formEncode, fromUTF8?_charBytes]

lemma formEncode_plain {s : List Char} (h : ∀ c ∈ s, inForm c = true) : formEncode s = s := by
  induction s with
  | nil => rfl
  | cons c s ih =>
    obtain ⟨hc, hs⟩ := List.forall_mem_cons.mp h
    rw [formEncode, List.flatMap_cons, if_pos hc, ← formEncode, ih hs, List.singleton_append]

/-- A query that is written for one value is read as that one. -/
theorem formPairs?_single {name : String} (hname : ∀ c ∈ name.toList, inForm c = true) (value : String) :
    formPairs? (name.toList ++ '=' :: formEncode value.toList) = some [(name, value)] := by
  have hvalue := isFormChar_formEncode value.toList
  have hamp : '&' ∉ name.toList ++ '=' :: formEncode value.toList := fun h => by
    rcases List.mem_append.mp h with h | h
    · exact absurd (hname _ h) (by decide)
    · rcases List.mem_cons.mp h with h | h
      · exact absurd h (by decide)
      · exact absurd (hvalue _ h) (by decide)
  have heq : '=' ∉ name.toList := fun h => absurd (hname _ h) (by decide)
  have hn : formText? name.toList = some name := by
    rw [← formEncode_plain hname, formText?_formEncode, String.ofList_toList]
  have hv : formText? (formEncode value.toList) = some value := by
    rw [formText?_formEncode, String.ofList_toList]
  rw [formPairs?, splitAt_of_not_mem hamp, List.filter_cons_of_pos (by simp)]
  simp only [List.filter_nil, List.map_cons, List.map_nil, cutMark_append heq, hn, Option.getD_some, hv,
    allSome, Option.bind_eq_bind, Option.bind_some, Option.pure_def, Option.map_some]

end MarketFeed.Url
