import MarketFeed.Proofs.AsciiText
import MarketFeed.Proofs.Cuts
import MarketFeed.Proofs.Percent
import MarketFeed.Proofs.Punycode
import MarketFeed.Url.Domain

/-!
Domains in their ASCII form are read as themselves: their characters are mapped and composed already, and
each of their labels means what it was written for.
-/

namespace MarketFeed.Url

open Text Punycode

/-- A label that was read from a domain. -/
structure IsRead (label : List Char) : Prop where
  valid : isLabel label = true
  noDot : '.' ∉ label
  noSign : codeSign.isPrefixOf label = false

lemma IsRead.ofLabel? {s label : List Char} (hs : '.' ∉ s) (h : label? s = some label) :
    IsRead label := by
  rw [label?] at h
  split at h
  next hsign =>
    dsimp only at h
    split at h
    · cases h
    · obtain ⟨-, hvalid⟩ := Option.filter_eq_some_iff.mp h
      rw [Bool.and_eq_true, deservesCode, Bool.and_eq_true, Bool.and_eq_true] at hvalid
      obtain ⟨⟨⟨-, hdot⟩, hprefix⟩, hlabel⟩ := hvalid
      exact ⟨hlabel, by simpa using hdot, by rwa [Bool.not_eq_true'] at hprefix⟩
  next hsign =>
    split at h
    next hlabel =>
      cases h
      exact ⟨hlabel, hs, Bool.eq_false_iff.mpr hsign⟩
    · cases h

/-- A character of ASCII that mapping keeps. -/
def isSettled (c : Char) : Bool := isBasic c && mapping? c = some [c]

lemma isSettled_of_ascii {c : Char} (h : isBasic c = true) (hcapital : c.isUpper = false) :
    isSettled c = true := by
  rw [isSettled, h, mapping?_ascii (of_decide_eq_true h) hcapital]
  simp

lemma isSettled_digitChars {c : Char} (h : c ∈ '-' :: digitChars) : isSettled c = true := by
  have hall : ∀ c ∈ '-' :: digitChars, isBasic c = true ∧ c.isUpper = false :=
    List.all_iff_forall_prop.mp (by decide)
  exact isSettled_of_ascii (hall c h).1 (hall c h).2

lemma isSettled_codeSign : ∀ c ∈ codeSign, isSettled c = true := fun c hc => by
  have hall : ∀ c ∈ codeSign, isBasic c = true ∧ c.isUpper = false :=
    List.all_iff_forall_prop.mp (by decide)
  exact isSettled_of_ascii (hall c hc).1 (hall c hc).2

/-- A text of settled characters is mapped to itself. -/
theorem normal?_settled {s : List Char} (h : ∀ c ∈ s, isSettled c = true) : normal? s = some s := by
  have hmap : allSome (s.map mapping?) = some (s.map fun c => [c]) :=
    allSome_map fun c hc => of_decide_eq_true (Bool.and_eq_true_iff.mp (h c hc)).2
  have hflatten : (s.map fun c => [c]).flatten = s := by
    rw [← List.flatMap_def]
    exact List.flatMap_singleton' s
  have hascii : ∀ c ∈ s, c.toNat < 128 := fun c hc =>
    of_decide_eq_true (Bool.and_eq_true_iff.mp (h c hc)).1
  rw [normal?, hmap, Option.map_some, hflatten, canonical_ascii hascii]

namespace IsRead

variable {label : List Char}

lemma mapping?_eq (h : IsRead label) {c : Char} (hc : c ∈ label) : mapping? c = some [c] := by
  have hvalid := h.valid
  rw [isLabel, isNormal, Bool.and_eq_true, Bool.and_eq_true, Bool.and_eq_true] at hvalid
  exact of_decide_eq_true (List.all_eq_true.mp hvalid.1.1.1 c hc)

/-- In the ASCII form of a label all characters are settled. -/
theorem isSettled_asciiLabel (h : IsRead label) : ∀ c ∈ asciiLabel label, isSettled c = true := by
  have hbasic {c : Char} (hc : c ∈ label) (hb : isBasic c = true) : isSettled c = true := by
    rw [isSettled, hb, h.mapping?_eq hc]
    simp
  intro c hc
  rw [asciiLabel] at hc
  split at hc
  next hall => exact hbasic hc (List.all_eq_true.mp hall c hc)
  next =>
    rcases List.mem_append.mp hc with hc | hc
    · exact isSettled_codeSign c hc
    · rcases mem_encode hc with hc | rfl | hc
      · exact hbasic (List.mem_filter.mp hc).1 (List.mem_filter.mp hc).2
      · exact isSettled_digitChars List.mem_cons_self
      · exact isSettled_digitChars (List.mem_cons_of_mem _ hc)

lemma noDot_asciiLabel (h : IsRead label) : '.' ∉ asciiLabel label := by
  rw [asciiLabel]
  split
  · exact h.noDot
  · intro hdot
    rcases List.mem_append.mp hdot with hdot | hdot
    · exact absurd hdot (by decide)
    · rcases mem_encode hdot with hdot | hdot | hdot
      · exact h.noDot (List.mem_filter.mp hdot).1
      · exact absurd hdot (by decide)
      · exact absurd hdot (by decide)

/-- The ASCII form of a label is read as that label. -/
theorem label?_asciiLabel (h : IsRead label) : label? (asciiLabel label) = some label := by
  cases hall : label.all isBasic with
  | true =>
    rw [asciiLabel, if_pos hall, label?, if_neg (by rw [h.noSign]; decide), if_pos h.valid]
  | false =>
    have hdeserves : deservesCode label = true := by
      rw [deservesCode, hall, h.noSign]
      simpa using h.noDot
    have hprefix : codeSign.isPrefixOf (codeSign ++ encode label) = true :=
      List.isPrefixOf_iff_prefix.mpr (List.prefix_append ..)
    rw [asciiLabel, if_neg (by rw [hall]; decide), label?, if_pos hprefix, List.drop_left]
    dsimp only
    rw [if_neg (getLast?_encode hall), decode?_encode hall]
    exact Option.filter_eq_some_iff.mpr ⟨rfl, by rw [hdeserves, h.valid]; rfl⟩

end IsRead

/-- What a domain in its ASCII form is made of. -/
theorem exists_labels {bytes : List UInt8} {d : List Char} (h : asciiDomain? bytes = some d) :
    ∃ labels, labels ≠ [] ∧ (∀ label ∈ labels, IsRead label) ∧ isDirected labels = true ∧
      d = joinLabels (labels.map asciiLabel) ∧ d.any isForbidden = false := by
  simp only [asciiDomain?, Option.bind_eq_bind, Option.bind_eq_some_iff] at h
  obtain ⟨text, -, domain, -, labels, hlabels, h⟩ := h
  split at h
  · cases h
  next hgood =>
    cases h
    rw [Bool.or_eq_true, not_or, Bool.not_eq_true, Bool.not_eq_true', Bool.not_eq_false] at hgood
    have hne : labels ≠ [] := by
      rw [← List.length_pos_iff, length_of_allSome hlabels, List.length_pos_iff]
      exact splitAt_ne_nil '.' domain
    refine ⟨labels, hne, fun label hl => ?_, hgood.2, rfl, hgood.1⟩
    obtain ⟨s, hs, hlabel⟩ := mem_of_allSome hlabels hl
    exact .ofLabel? (not_mem_of_mem_splitAt hs) hlabel

lemma isSettled_joinLabels {labels : List (List Char)} (h : ∀ label ∈ labels, IsRead label) :
    ∀ c ∈ joinLabels (labels.map asciiLabel), isSettled c = true := by
  intro c hc
  rcases mem_join hc with rfl | ⟨s, hs, hcs⟩
  · exact isSettled_of_ascii (by decide) (by decide)
  · obtain ⟨label, hl, rfl⟩ := List.mem_map.mp hs
    exact (h label hl).isSettled_asciiLabel c hcs

/-- The characters of a domain in its ASCII form. -/
theorem isBasic_of_asciiDomain? {bytes : List UInt8} {d : List Char} (h : asciiDomain? bytes = some d) :
    ∀ c ∈ d, isBasic c = true ∧ isForbidden c = false := by
  obtain ⟨labels, -, hread, -, rfl, hallowed⟩ := exists_labels h
  exact fun c hc => ⟨(Bool.and_eq_true_iff.mp (isSettled_joinLabels hread c hc)).1,
    by simpa using List.any_eq_false.mp hallowed c hc⟩

/-- Labels in their ASCII form are read as a domain of these labels. -/
theorem asciiDomain?_joinLabels {labels : List (List Char)} (hne : labels ≠ [])
    (hread : ∀ label ∈ labels, IsRead label) (hdirected : isDirected labels = true)
    (hallowed : (joinLabels (labels.map asciiLabel)).any isForbidden = false) :
    asciiDomain? (percentDecode (joinLabels (labels.map asciiLabel))) =
      some (joinLabels (labels.map asciiLabel)) := by
  have hsettled := isSettled_joinLabels hread
  have hplain : '%' ∉ joinLabels (labels.map asciiLabel) := fun hin =>
    absurd (List.any_eq_false.mp hallowed _ hin) (by decide)
  have hsplit : splitAt '.' (joinLabels (labels.map asciiLabel)) = labels.map asciiLabel := by
    refine splitAt_join (by simpa using hne) fun s hs => ?_
    obtain ⟨label, hl, rfl⟩ := List.mem_map.mp hs
    exact (hread label hl).noDot_asciiLabel
  have hlabels : allSome ((labels.map asciiLabel).map label?) = some labels := by
    have hsame := allSome_map (f := label? ∘ asciiLabel) (g := id) fun label hl =>
      (hread label hl).label?_asciiLabel
    rwa [List.map_id, ← List.map_map] at hsame
  rw [asciiDomain?, percentDecode_plain hplain, fromUTF8?_charBytes]
  simp only [Option.bind_eq_bind, Option.bind_some, String.toList_ofList, normal?_settled hsettled, hsplit,
    hlabels, hallowed, hdirected, Bool.not_true, Bool.or_false, Bool.false_eq_true, if_false]

/-- A domain in its ASCII form is read as itself. -/
theorem asciiDomain?_self {bytes : List UInt8} {d : List Char} (h : asciiDomain? bytes = some d) :
    asciiDomain? (percentDecode d) = some d := by
  obtain ⟨labels, hne, hread, hdirected, rfl, hallowed⟩ := exists_labels h
  exact asciiDomain?_joinLabels hne hread hdirected hallowed

def decimalDigits : List Char := "0123456789".toList

theorem mem_decimalDigits {c : Char} (h : c.isDigit = true) : c ∈ decimalDigits := by
  have hall : ∀ m : Fin 10, Char.ofNat (48 + m) ∈ decimalDigits := by decide
  have hbounds : 48 ≤ c.toNat ∧ c.toNat ≤ 57 := Char.isDigit_iff_toNat.mp h
  have hmem := hall ⟨c.toNat - 48, by omega⟩
  rwa [Nat.add_sub_cancel' hbounds.1, Char.ofNat_toNat] at hmem

lemma decimalDigits_settled :
    ∀ c ∈ decimalDigits, isBasic c = true ∧ c.isUpper = false ∧ isForbidden c = false :=
      List.all_iff_forall_prop.mp (by decide)

/-- No digit makes a domain one of both directions. -/
theorem decimalDigits_direction : ∀ c ∈ decimalDigits, (Direction.ofChar c).isBackward = false :=
  List.all_iff_forall_prop.mp (by decide +kernel)

lemma markData_beyond : ∀ n ∈ markData, 128 ≤ n := by
  have h : markData.all (128 ≤ ·) = true := by decide +kernel
  exact fun n hn => of_decide_eq_true (List.all_eq_true.mp h n hn)

lemma joinersFit_ascii {s : List Char} (before : List Char) (h : ∀ c ∈ s, c.toNat < 128) :
    joinersFit before s = true := by
  induction s generalizing before with
  | nil => rfl
  | cons c s ih =>
    obtain ⟨hc, hs⟩ := List.forall_mem_cons.mp h
    have hleft : c.toNat ≠ 0x200D := fun heq => absurd (heq ▸ hc) (by decide)
    have hright : c.toNat ≠ 0x200C := fun heq => absurd (heq ▸ hc) (by decide)
    rw [joinersFit, ih _ hs, Bool.and_true]
    dsimp only [joinerFits]
    rw [if_neg hleft, if_neg hright]

/-- A label of digits. -/
theorem IsRead.ofDigits {label : List Char} (h : ∀ c ∈ label, c ∈ decimalDigits) : IsRead label := by
  have hascii (c : Char) (hc : c ∈ label) : c.toNat < 128 :=
    of_decide_eq_true (decimalDigits_settled c (h c hc)).1
  have hmark : label.head?.any (fun c => insideRun markBounds c.toNat) = false := by
    cases label with
    | nil => rfl
    | cons c label =>
      have hrun : insideRun markData.toArray c.toNat = false := insideRun_of_lt fun n hn =>
        Nat.lt_of_lt_of_le (hascii c List.mem_cons_self) (markData_beyond n hn)
      rw [List.head?_cons, Option.any_some, markBounds, hrun]
  have hnormal : isNormal label = true := by
    rw [isNormal, canonical_ascii hascii, Bool.and_eq_true]
    refine ⟨List.all_eq_true.mpr fun c hc => decide_eq_true ?_, decide_eq_true rfl⟩
    exact mapping?_ascii (hascii c hc) (decimalDigits_settled c (h c hc)).2.1
  refine ⟨?_, fun hdot => absurd (h _ hdot) (by decide), Bool.eq_false_iff.mpr fun hprefix => ?_⟩
  · rw [isLabel, hnormal, hmark, joinersFit_ascii [] hascii]
    rfl
  · have hx : 'x' ∈ label := (List.isPrefixOf_iff_prefix.mp hprefix).subset (by decide)
    exact absurd (h _ hx) (by decide)

/-- A domain of digits and dots is read as itself. -/
theorem asciiDomain?_numeric {s : List Char} (h : ∀ c ∈ s, c ∈ '.' :: decimalDigits) :
    asciiDomain? (percentDecode s) = some s := by
  have hlabel (label : List Char) (hl : label ∈ splitAt '.' s) (c : Char) (hc : c ∈ label) :
      c ∈ decimalDigits :=
    (List.mem_cons.mp (h c (mem_of_mem_splitAt hl hc))).resolve_left fun hdot =>
      not_mem_of_mem_splitAt hl (hdot ▸ hc)
  have hascii : (splitAt '.' s).map asciiLabel = splitAt '.' s := by
    have hsame (label : List Char) (hl : label ∈ splitAt '.' s) : asciiLabel label = id label :=
      if_pos (List.all_eq_true.mpr fun c hc => (decimalDigits_settled c (hlabel label hl c hc)).1)
    rw [List.map_congr_left hsame, List.map_id]
  have hdirected : isDirected (splitAt '.' s) = true := by
    have hnone :
        ((splitAt '.' s).map (·.map Direction.ofChar)).any (·.any Direction.isBackward) = false := by
      refine List.any_eq_false.mpr fun ds hds => ?_
      obtain ⟨label, hl, rfl⟩ := List.mem_map.mp hds
      rw [Bool.not_eq_true]
      refine List.any_eq_false.mpr fun d hd => ?_
      obtain ⟨c, hc, rfl⟩ := List.mem_map.mp hd
      rw [decimalDigits_direction c (hlabel label hl c hc)]
      decide
    rw [isDirected, hnone]
    rfl
  have hallowed : s.any isForbidden = false := List.any_eq_false.mpr fun c hc => by
    have hall : ∀ c ∈ '.' :: decimalDigits, isForbidden c = false :=
      List.all_iff_forall_prop.mp (by decide)
    rw [hall c (h c hc)]
    decide
  have hself := asciiDomain?_joinLabels (splitAt_ne_nil '.' s)
    (fun label hl => .ofDigits (hlabel label hl)) hdirected
  rw [hascii, joinLabels, join_splitAt] at hself
  exact hself hallowed

end MarketFeed.Url
