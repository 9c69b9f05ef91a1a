import MarketFeed.Proofs.Percent
import MarketFeed.Url.Reader

/-!
Paths: what following the segments of a path leaves, and that it is left as it is when it is followed
again. Encoding makes no segment one that means a directory.
-/

namespace MarketFeed.Url

/-! ### Dots -/

/-- A row of dots, each plain or encoded. -/
inductive IsDotted : List Char → Prop where
  | nil : IsDotted []
  | dot {s : List Char} (rest : IsDotted s) : IsDotted ('.' :: s)
  | code {e : Char} {s : List Char} (digit : e = 'e' ∨ e = 'E') (rest : IsDotted s) :
      IsDotted ('%' :: '2' :: e :: s)

def capitals : List Char := "ABCDEFGHIJKLMNOPQRSTUVWXYZ".toList

lemma toLower_cases (c : Char) : c.toLower = c ∨ c ∈ capitals := by
  have hall : ∀ m : Fin 26, Char.ofNat (65 + m) ∈ capitals := by decide
  by_cases hc : c.val ≥ 'A'.val ∧ c.val ≤ 'Z'.val
  · have hbounds : 65 ≤ c.toNat ∧ c.toNat ≤ 90 := hc
    have hmem := hall ⟨c.toNat - 65, by omega⟩
    rw [Nat.add_sub_cancel' hbounds.1, Char.ofNat_toNat] at hmem
    exact .inr hmem
  · exact .inl (dif_neg hc)

/-- A character of which the small letter is no letter is itself that. -/
theorem eq_of_toLower {c d : Char} (h : c.toLower = d) (hd : d.isLower = false) : c = d := by
  have hall : ∀ c ∈ capitals, c.toLower.isLower = true := List.all_iff_forall_prop.mp (by decide)
  rcases toLower_cases c with hc | hc
  · exact hc.symm.trans h
  · have hlower := hall c hc
    rw [h, hd] at hlower
    cases hlower

lemma eq_of_toLower_e {c : Char} (h : c.toLower = 'e') : c = 'e' ∨ c = 'E' := by
  have hall : ∀ c ∈ capitals, c.toLower = 'e' → c = 'E' := List.all_iff_forall_prop.mp (by decide)
  rcases toLower_cases c with hc | hc
  · exact .inl (hc.symm.trans h)
  · exact .inr (hall c hc h)

/-- The first byte of a character tells a dot. -/
theorem exists_charBytes (c : Char) : ∃ b bs, charBytes c = b :: bs ∧ (b.toNat = 46 → c = '.') := by
  have hdot {b : UInt8} (h : 192 ≤ b.toNat) : b.toNat = 46 → c = '.' := fun heq => by omega
  have hval : c.val.toNat = c.toNat := rfl
  rw [charBytes, String.utf8EncodeChar]
  split
  next hle =>
    refine ⟨_, _, rfl, fun heq => ?_⟩
    rw [UInt8.toNat_ofNat'] at heq
    have hc : c.toNat = 46 := by omega
    rw [← Char.ofNat_toNat c, hc]
  next =>
    split
    · refine ⟨_, _, rfl, hdot ?_⟩
      rw [UInt8.toNat_ofNat']
      omega
    · split
      · refine ⟨_, _, rfl, hdot ?_⟩
        rw [UInt8.toNat_ofNat']
        omega
      · refine ⟨_, _, rfl, hdot ?_⟩
        rw [UInt8.toNat_ofNat']
        omega

lemma exists_map_eq_cons {s t : List Char} {d : Char} (h : s.map Char.toLower = d :: t) :
    ∃ c s', s = c :: s' ∧ c.toLower = d ∧ s'.map Char.toLower = t := by
  obtain ⟨c, s', rfl, hc, hs⟩ := List.map_eq_cons_iff.mp h
  exact ⟨c, s', rfl, hc, hs⟩

lemma IsDotted.ofDot {s t : List Char} (h : s.map Char.toLower = '.' :: t)
    (hrest : ∀ s', s'.map Char.toLower = t → IsDotted s') : IsDotted s := by
  obtain ⟨c, s', rfl, hc, hs⟩ := exists_map_eq_cons h
  rw [eq_of_toLower hc (by decide)]
  exact .dot (hrest s' hs)

lemma IsDotted.ofCode {s t : List Char} (h : s.map Char.toLower = '%' :: '2' :: 'e' :: t)
    (hrest : ∀ s', s'.map Char.toLower = t → IsDotted s') : IsDotted s := by
  obtain ⟨a, s, rfl, ha, h⟩ := exists_map_eq_cons h
  obtain ⟨b, s, rfl, hb, h⟩ := exists_map_eq_cons h
  obtain ⟨c, s, rfl, hc, h⟩ := exists_map_eq_cons h
  rw [eq_of_toLower ha (by decide), eq_of_toLower hb (by decide)]
  exact .code (eq_of_toLower_e hc) (hrest s h)

lemma IsDotted.ofNil {s : List Char} (h : s.map Char.toLower = []) : IsDotted s := by
  rw [List.map_eq_nil_iff.mp h]
  exact .nil

lemma IsDotted.ofIsDot {s : List Char} (h : isDot s = true) : IsDotted s := by
  rw [isDot, Bool.or_eq_true, decide_eq_true_eq, decide_eq_true_eq] at h
  rcases h with rfl | h
  · exact .dot .nil
  · exact .ofCode h fun _ => .ofNil

lemma IsDotted.ofIsDotDot {s : List Char} (h : isDotDot s = true) : IsDotted s := by
  simp only [isDotDot, Bool.or_eq_true, decide_eq_true_eq] at h
  rcases h with ((h | h) | h) | h
  · exact .ofDot h fun _ h => .ofDot h fun _ => .ofNil
  · exact .ofDot h fun _ h => .ofCode h fun _ => .ofNil
  · exact .ofCode h fun _ h => .ofDot h fun _ => .ofNil
  · exact .ofCode h fun _ h => .ofCode h fun _ => .ofNil

lemma upperHex_inj {m n : Nat} (hm : m < 16) (hn : n < 16) (h : upperHex m = upperHex n) : m = n := by
  have hdigit := hexDigit?_upperHex hm
  rw [h, hexDigit?_upperHex hn] at hdigit
  exact (Option.some.inj hdigit).symm

/-- Encoding of a character begins with a percent sign and is never that of a dot. -/
theorem exists_encoded {c : Char} {s : List Char} (h : isKept inPath c = false) :
    ∃ x y t, percentEncode inPath (c :: s) = '%' :: x :: y :: t ∧
      ¬(x = '2' ∧ (y = 'e' ∨ y = 'E')) := by
  obtain ⟨b, bs, hbytes, hdot⟩ := exists_charBytes c
  have hb : b.toNat < 256 := b.toNat_lt
  rw [percentEncode_cons_encoded h, hbytes, List.flatMap_cons]
  refine ⟨_, _, _, rfl, fun ⟨hx, hy⟩ => ?_⟩
  have hhigh : b.toNat / 16 = 2 := upperHex_inj (by omega) (by decide) (hx.trans (by decide))
  have hlow : b.toNat % 16 = 14 := by
    rcases hy with hy | hy
    · have hmem := upperHex_mem (Nat.mod_lt b.toNat (show 16 > 0 by decide))
      rw [hy] at hmem
      exact absurd hmem (by decide)
    · exact upperHex_inj (by omega) (by decide) (hy.trans (by decide))
  rw [hdot (by omega)] at h
  cases h

lemma exists_kept_or_encoded {s t : List Char} {d : Char} (h : percentEncode inPath s = d :: t) :
    (∃ s', s = d :: s' ∧ percentEncode inPath s' = t) ∨
      d = '%' ∧ ∃ x y t', t = x :: y :: t' ∧ ¬(x = '2' ∧ (y = 'e' ∨ y = 'E')) := by
  cases s with
  | nil => cases h
  | cons c s =>
    cases hc : isKept inPath c with
    | true =>
      rw [percentEncode_cons_kept hc] at h
      obtain ⟨rfl, htail⟩ := List.cons.inj h
      exact .inl ⟨s, rfl, htail⟩
    | false =>
      obtain ⟨x, y, t', hxy, hne⟩ := exists_encoded (s := s) hc
      rw [hxy] at h
      obtain ⟨rfl, rfl⟩ := List.cons.inj h
      exact .inr ⟨rfl, x, y, t', rfl, hne⟩

lemma exists_kept {s t : List Char} {d : Char} (h : percentEncode inPath s = d :: t) (hd : d ≠ '%') :
    ∃ s', s = d :: s' ∧ percentEncode inPath s' = t :=
  (exists_kept_or_encoded h).resolve_right fun hcode => hd hcode.1

/-- A text that is a row of dots once it is encoded was one before. -/
theorem IsDotted.percentEncode_eq {s : List Char} (h : IsDotted (percentEncode inPath s)) :
    percentEncode inPath s = s := by
  generalize ht : percentEncode inPath s = t at h
  induction h generalizing s with
  | nil =>
    cases s with
    | nil => rfl
    | cons c s =>
      cases hc : isKept inPath c with
      | true =>
        rw [percentEncode_cons_kept hc] at ht
        cases ht
      | false =>
        obtain ⟨x, y, t', hxy, -⟩ := exists_encoded (s := s) hc
        rw [hxy] at ht
        cases ht
  | dot rest ih =>
    obtain ⟨s', rfl, hs⟩ := exists_kept ht (by decide)
    rw [ih hs]
  | code digit rest ih =>
    rcases exists_kept_or_encoded ht with ⟨s₁, rfl, h₁⟩ | ⟨-, x, y, t', hxy, hne⟩
    · obtain ⟨s₂, rfl, h₂⟩ := exists_kept h₁ (by decide)
      obtain ⟨s₃, rfl, h₃⟩ := exists_kept h₂ (by rcases digit with rfl | rfl <;> decide)
      rw [ih h₃]
    · cases hxy
      exact absurd ⟨rfl, digit⟩ hne

/-- Encoding makes no segment a directory. -/
theorem isDot_percentEncode {s : List Char} (h : isDot s = false) :
    isDot (percentEncode inPath s) = false := by
  refine Bool.eq_false_iff.mpr fun hdot => ?_
  rw [(IsDotted.ofIsDot hdot).percentEncode_eq, h] at hdot
  cases hdot

lemma isDotDot_percentEncode {s : List Char} (h : isDotDot s = false) :
    isDotDot (percentEncode inPath s) = false := by
  refine Bool.eq_false_iff.mpr fun hdot => ?_
  rw [(IsDotted.ofIsDotDot hdot).percentEncode_eq, h] at hdot
  cases hdot

/-! ### Segments -/

/-- A segment that is left as it is. -/
structure IsSegment (s : List Char) : Prop where
  encoded : IsEncoded inPath s
  noSlash : '/' ∉ s
  noBackslash : '\\' ∉ s
  noDot : isDot s = false
  noDotDot : isDotDot s = false

theorem IsSegment.nil : IsSegment [] := ⟨nofun, List.not_mem_nil, List.not_mem_nil, rfl, rfl⟩

lemma segments_ne_nil (s : List Char) : segments s ≠ [] := by
  cases s with
  | nil => exact List.cons_ne_nil [] []
  | cons c s =>
    rw [segments]
    split
    · exact List.cons_ne_nil _ _
    · split <;> exact List.cons_ne_nil _ _

lemma segments_cons {c : Char} {s part : List Char} {parts : List (List Char)}
    (hc : ¬(c = '/' ∨ c = '\\')) (h : segments s = part :: parts) :
    segments (c :: s) = (c :: part) :: parts := by
  rw [segments, if_neg hc, h]

/-- A path is cut at every slash. -/
theorem noSlash_of_mem_segments {s part : List Char} (h : part ∈ segments s) :
    '/' ∉ part ∧ '\\' ∉ part := by
  induction s generalizing part with
  | nil =>
    rw [List.mem_singleton.mp h]
    exact ⟨List.not_mem_nil, List.not_mem_nil⟩
  | cons c s ih =>
    by_cases hc : c = '/' ∨ c = '\\'
    · rw [segments, if_pos hc] at h
      rcases List.mem_cons.mp h with rfl | h
      · exact ⟨List.not_mem_nil, List.not_mem_nil⟩
      · exact ih h
    · obtain ⟨first, parts, hs⟩ := List.exists_cons_of_ne_nil (segments_ne_nil s)
      rw [segments_cons hc hs] at h
      rw [hs] at ih
      rcases List.mem_cons.mp h with rfl | h
      · obtain ⟨hslash, hback⟩ := ih List.mem_cons_self
        exact ⟨List.not_mem_cons_of_ne_of_not_mem (fun he => hc (.inl he.symm)) hslash,
          List.not_mem_cons_of_ne_of_not_mem (fun he => hc (.inr he.symm)) hback⟩
      · exact ih (List.mem_cons_of_mem _ h)

lemma segments_append {s rest part : List Char} {parts : List (List Char)} (hs : IsSegment s)
    (h : segments rest = part :: parts) : segments (s ++ rest) = (s ++ part) :: parts := by
  have hslash := hs.noSlash
  have hback := hs.noBackslash
  clear hs
  induction s with
  | nil => exact h
  | cons c s ih =>
    refine segments_cons (fun hc => ?_)
      (ih (List.not_mem_of_not_mem_cons hslash) (List.not_mem_of_not_mem_cons hback))
    rcases hc with rfl | rfl
    · exact hslash List.mem_cons_self
    · exact hback List.mem_cons_self

/-- Segments come back from the text of their path. -/
theorem segments_join {s : List Char} {path : List (List Char)} (hs : IsSegment s)
    (h : ∀ s ∈ path, IsSegment s) : segments (s ++ path.flatMap fun s => '/' :: s) = s :: path := by
  induction path generalizing s with
  | nil => simpa using segments_append hs (show segments [] = [[]] from rfl)
  | cons t path ih =>
    obtain ⟨ht, hpath⟩ := List.forall_mem_cons.mp h
    have hrest : segments ((t :: path).flatMap fun s => '/' :: s) = [] :: t :: path := by
      rw [List.flatMap_cons, List.cons_append, segments, if_pos (.inl rfl), ih ht hpath]
    simpa using segments_append hs hrest

/-- The encoded form of a segment that means no directory. -/
theorem IsSegment.encode {s : List Char} (hslash : '/' ∉ s ∧ '\\' ∉ s) (hdot : isDot s = false)
    (hdotdot : isDotDot s = false) : IsSegment (percentEncode inPath s) where
  encoded := isEncoded_percentEncode inPath_codeChars s
  noSlash := fun h => (mem_percentEncode h).elim (fun hs => hslash.1 hs.1) fun hs => absurd hs (by decide)
  noBackslash := fun h =>
    (mem_percentEncode h).elim (fun hs => hslash.2 hs.1) fun hs => absurd hs (by decide)
  noDot := isDot_percentEncode hdot
  noDotDot := isDotDot_percentEncode hdotdot

/-- The directory that a segment leads to, if it is followed by another one. -/
def descend (above : List (List Char)) (s : List Char) : List (List Char) :=
  if isDotDot s then above.drop 1
  else if isDot s then above
  else percentEncode inPath s :: above

lemma follow_cons_cons (above : List (List Char)) (s t : List Char) (path : List (List Char)) :
    follow above (s :: t :: path) = follow (descend above s) (t :: path) := by
  rw [follow, descend]
  split
  · rfl
  · split <;> rfl

/-- After a last segment that means a directory there is a slash. -/
theorem follow_singleton (above : List (List Char)) (s : List Char) :
    follow above [s] =
      (if isDotDot s ∨ isDot s then [] :: descend above s else descend above s).reverse := by
  rw [follow, descend]
  cases isDotDot s with
  | true => rfl
  | false => cases isDot s <;> rfl

lemma isSegment_descend {above : List (List Char)} {s : List Char} (habove : ∀ s ∈ above, IsSegment s)
    (hs : '/' ∉ s ∧ '\\' ∉ s) : ∀ t ∈ descend above s, IsSegment t := by
  unfold descend
  split
  next => exact fun t ht => habove t (List.mem_of_mem_drop ht)
  next hdotdot =>
    split
    next => exact habove
    next hdot =>
      have hself : IsSegment (percentEncode inPath s) :=
        .encode hs (Bool.eq_false_iff.mpr hdot) (Bool.eq_false_iff.mpr hdotdot)
      exact List.forall_mem_cons.mpr ⟨hself, habove⟩

/-- What following the segments of a path leaves. -/
theorem isSegment_follow {above path : List (List Char)} (habove : ∀ s ∈ above, IsSegment s)
    (hpath : ∀ s ∈ path, '/' ∉ s ∧ '\\' ∉ s) : ∀ s ∈ follow above path, IsSegment s := by
  induction path generalizing above with
  | nil => exact fun s hs => habove s (List.mem_reverse.mp hs)
  | cons s path ih =>
    obtain ⟨hs, hrest⟩ := List.forall_mem_cons.mp hpath
    have hnext := isSegment_descend habove hs
    cases path with
    | nil =>
      intro t ht
      rw [follow_singleton, List.mem_reverse] at ht
      split at ht
      · exact List.forall_mem_cons.mpr ⟨.nil, hnext⟩ t ht
      · exact hnext t ht
    | cons next path =>
      rw [follow_cons_cons]
      exact ih hnext hrest

lemma follow_ne_nil {above path : List (List Char)} (h : path ≠ []) : follow above path ≠ [] := by
  induction path generalizing above with
  | nil => exact absurd rfl h
  | cons s path ih =>
    cases path with
    | nil =>
      rw [follow]
      split
      · simp
      · split <;> simp
    | cons next path =>
      rw [follow_cons_cons]
      exact ih (List.cons_ne_nil _ _)

lemma IsSegment.descend_eq {s : List Char} (h : IsSegment s) (above : List (List Char)) :
    descend above s = s :: above := by
  rw [descend, h.noDotDot, if_neg Bool.false_ne_true, h.noDot, if_neg Bool.false_ne_true,
    h.encoded.percentEncode_eq]

/-- Following segments that are left as they are. -/
theorem follow_eq {above path : List (List Char)} (h : ∀ s ∈ path, IsSegment s) :
    follow above path = above.reverse ++ path := by
  induction path generalizing above with
  | nil => rw [follow, List.append_nil]
  | cons s path ih =>
    obtain ⟨hs, hpath⟩ := List.forall_mem_cons.mp h
    cases path with
    | nil =>
      have hplain : ¬(isDotDot s = true ∨ isDot s = true) := by
        rw [hs.noDotDot, hs.noDot]
        decide
      rw [follow_singleton, if_neg hplain, hs.descend_eq, List.reverse_cons]
    | cons t path =>
      rw [follow_cons_cons, hs.descend_eq, ih hpath, List.reverse_cons, List.append_assoc]
      rfl

/-- A path that is left as it is. -/
structure IsPath (path : List (List Char)) : Prop where
  ne_nil : path ≠ []
  segments : ∀ s ∈ path, IsSegment s

/-- What is read as a path is left as it is. -/
theorem isPath_readPath (s : List Char) : IsPath (readPath s) := by
  have hfollow (t : List Char) : IsPath (follow [] (Url.segments t)) :=
    ⟨follow_ne_nil (segments_ne_nil t), isSegment_follow nofun fun _ hs => noSlash_of_mem_segments hs⟩
  unfold readPath
  split <;> exact hfollow _

/-- A path comes back from its text. -/
theorem readPath_text {path : List (List Char)} (h : IsPath path) :
    readPath (path.flatMap fun s => '/' :: s) = path := by
  obtain ⟨s, rest, rfl⟩ := List.exists_cons_of_ne_nil h.ne_nil
  obtain ⟨hs, hrest⟩ := List.forall_mem_cons.mp h.segments
  rw [List.flatMap_cons, List.cons_append, readPath, segments_join hs hrest, follow_eq h.segments]
  rfl

end MarketFeed.Url
