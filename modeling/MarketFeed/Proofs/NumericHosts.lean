import Mathlib.Data.List.Induction
import Mathlib.Tactic.Ring
import MarketFeed.Proofs.Cuts
import MarketFeed.Url.Address

/-!
Numeric hosts come back from their texts: addresses of 32 bits from four decimal bytes, and addresses of
128 bits from their groups, of which a run of zeros may be left out.
-/

namespace MarketFeed.Url

lemma digitIn?_digitChar {d : Nat} (h : d < 16) : digitIn? 16 d.digitChar = some d := by
  have hall : ∀ m : Fin 16, digitIn? 16 m.val.digitChar = some m.val := by decide
  exact hall ⟨d, h⟩

lemma digitIn?_lt {base d : Nat} {c : Char} (h : digitIn? base c = some d) : d < base := by
  obtain ⟨hlt, heq⟩ := Option.ite_none_right_eq_some.mp h
  exact Option.some.inj heq ▸ hlt

lemma valueIn?_concat (ds : List Char) (c : Char) :
    valueIn? 16 (ds ++ [c]) = (do return (← valueIn? 16 ds) * 16 + (← digitIn? 16 c)) := by
  rw [valueIn?, List.foldl_append, ← valueIn?, List.foldl_cons, List.foldl_nil]

/-- A number comes back from its hexadecimal digits. -/
theorem valueIn?_toDigits (n : Nat) : valueIn? 16 (Nat.toDigits 16 n) = some n := by
  induction n using Nat.strongRecOn with
  | ind n ih =>
    by_cases hn : n < 16
    · rw [Nat.toDigits_of_lt_base hn, ← List.nil_append [n.digitChar], valueIn?_concat,
        digitIn?_digitChar hn]
      simp [valueIn?]
    · have hmod : n % 16 < 16 := Nat.mod_lt n (by decide)
      rw [Nat.toDigits_of_base_le (by decide) (Nat.le_of_not_lt hn), valueIn?_concat,
        ih (n / 16) (by omega), digitIn?_digitChar hmod]
      simp [Nat.div_add_mod']

/-! ### Addresses of 32 bits -/

/-- The text of a byte. -/
theorem byte_text {b : Nat} (h : b < 256) : part? (Nat.toDigits 10 b) = some b ∧
    (Nat.toDigits 10 b).all Char.isDigit = true ∧ Nat.toDigits 10 b ≠ [] := by
  have hall : ∀ m : Fin 256, part? (Nat.toDigits 10 m) = some m.val := by decide +kernel
  have hdigit (c : Char) (hc : c ∈ Nat.toDigits 10 b) : c.isDigit = true :=
    Nat.isDigit_of_mem_toDigits (by decide) (by decide) hc
  exact ⟨hall ⟨b, h⟩, List.all_eq_true.mpr hdigit, Nat.toDigits_ne_nil⟩

/-- The bytes of an address, the first first. -/
def bytes4 (n : Nat) : List Nat :=
  [n / 256 ^ 3 % 256, n / 256 ^ 2 % 256, n / 256 ^ 1 % 256, n / 256 ^ 0 % 256]

lemma lt_of_mem_bytes4 {n b : Nat} (h : b ∈ bytes4 n) : b < 256 := by
  simp only [bytes4, List.mem_cons, List.not_mem_nil, or_false] at h
  omega

lemma address4Text_eq (n : Nat) :
    address4Text n = (((bytes4 n).map (Nat.toDigits 10)).intersperse ['.']).flatten := by
  simp [address4Text, bytes4, List.intersperse]

lemma splitAt_address4Text (n : Nat) :
    splitAt '.' (address4Text n) = (bytes4 n).map (Nat.toDigits 10) := by
  rw [address4Text_eq]
  refine splitAt_join (by simp [bytes4]) fun part hpart hdot => ?_
  obtain ⟨b, hb, rfl⟩ := List.mem_map.mp hpart
  exact absurd (Nat.isDigit_of_mem_toDigits (by decide) (by decide) hdot) (by decide)

theorem mem_address4Text {n : Nat} {c : Char} (h : c ∈ address4Text n) : c = '.' ∨ c.isDigit = true := by
  rw [address4Text_eq] at h
  rcases mem_join h with h | ⟨part, hpart, hc⟩
  · exact .inl h
  · obtain ⟨b, -, rfl⟩ := List.mem_map.mp hpart
    exact .inr (Nat.isDigit_of_mem_toDigits (by decide) (by decide) hc)

theorem endsInNumber_address4Text (n : Nat) : endsInNumber (address4Text n) = true := by
  have hsplit := splitAt_address4Text n
  have hlast : n / 256 ^ 0 % 256 < 256 := Nat.mod_lt _ (by decide)
  obtain ⟨-, hdigits, hne⟩ := byte_text hlast
  obtain ⟨c, ds, hcd⟩ := List.exists_cons_of_ne_nil hne
  simp only [bytes4, List.map_cons, List.map_nil, hcd] at hsplit
  rw [hcd] at hdigits
  simp [endsInNumber, hsplit, hdigits]

/-- An address of 32 bits comes back from its text. -/
theorem address4?_address4Text {n : Nat} (h : n < 256 ^ 4) : address4? (address4Text n) = some n := by
  have hlast : ((bytes4 n).map (Nat.toDigits 10)).getLast? ≠ some [] := by
    simp [bytes4]
  have hparts : allSome (((bytes4 n).map (Nat.toDigits 10)).map part?) = some (bytes4 n) := by
    rw [List.map_map]
    have hbyte (b : Nat) (hb : b ∈ bytes4 n) : (part? ∘ Nat.toDigits 10) b = some (id b) :=
      (byte_text (lt_of_mem_bytes4 hb)).1
    rw [allSome_map hbyte, List.map_id]
  rw [address4?, splitAt_address4Text]
  dsimp only
  rw [if_neg hlast, if_neg (by simp [bytes4]), hparts]
  simp [bytes4]
  omega

lemma foldl_bytes_lt {bs : List Nat} (h : ∀ b ∈ bs, b ≤ 255) (n : Nat) :
    bs.foldl (fun n b => n * 256 + b) n < (n + 1) * 256 ^ bs.length := by
  induction bs generalizing n with
  | nil => simp
  | cons b bs ih =>
    obtain ⟨hb, hbs⟩ := List.forall_mem_cons.mp h
    calc bs.foldl (fun n b => n * 256 + b) (n * 256 + b)
        < (n * 256 + b + 1) * 256 ^ bs.length := ih hbs _
      _ ≤ ((n + 1) * 256) * 256 ^ bs.length := Nat.mul_le_mul_right _ (by omega)
      _ = (n + 1) * 256 ^ (b :: bs).length := by rw [List.length_cons, Nat.pow_succ']; ring

/-- A last number that fills the bytes that others leave free. -/
theorem mul_pow_add_lt {front last k : Nat} (hk : k ≤ 4) (hfront : front < 256 ^ k)
    (hlast : last < 256 ^ (4 - k)) : front * 256 ^ (4 - k) + last < 256 ^ 4 :=
  calc front * 256 ^ (4 - k) + last
      < front * 256 ^ (4 - k) + 256 ^ (4 - k) := Nat.add_lt_add_left hlast _
    _ = (front + 1) * 256 ^ (4 - k) := (Nat.succ_mul ..).symm
    _ ≤ 256 ^ k * 256 ^ (4 - k) := Nat.mul_le_mul_right _ hfront
    _ = 256 ^ 4 := by rw [← Nat.pow_add, Nat.add_sub_cancel' hk]

/-- Four bytes hold an address. -/
theorem address4?_lt {s : List Char} {n : Nat} (h : address4? s = some n) : n < 256 ^ 4 := by
  rw [address4?] at h
  dsimp only at h
  generalize (if (splitAt '.' s).getLast? = some [] then (splitAt '.' s).dropLast else splitAt '.' s)
    = labels at h
  split at h
  · cases h
  next hfew =>
    split at h
    · cases h
    next numbers hnumbers =>
      split at h
      · cases h
      next last others hreverse =>
        split at h
        · cases h
        next hsmall =>
          rw [not_or, Nat.not_le, Bool.not_eq_true] at hsmall
          have hlength : others.reverse.length + 1 ≤ 4 := by
            have hcount := congrArg List.length hreverse
            rw [List.length_reverse, length_of_allSome hnumbers, List.length_cons] at hcount
            rw [List.length_reverse]
            omega
          have hbytes : ∀ b ∈ others.reverse, b ≤ 255 := fun b hb =>
            Nat.not_lt.mp (of_decide_eq_false (by simpa using List.any_eq_false.mp hsmall.2 b hb))
          have hfront := foldl_bytes_lt hbytes 0
          rw [Nat.zero_add, Nat.one_mul] at hfront
          cases h
          exact mul_pow_add_lt (by omega) hfront hsmall.1

/-! ### Addresses of 128 bits -/

lemma zeros_of_zeroRun (gs : List Nat) : gs.take (zeroRun gs) = List.replicate (zeroRun gs) 0 := by
  induction gs with
  | nil => rfl
  | cons g gs ih =>
    by_cases hg : g = 0
    · have hrun : zeroRun (g :: gs) = zeroRun gs + 1 := by simp [zeroRun, hg]
      rw [hrun, List.take_succ_cons, ih, hg, List.replicate_succ]
    · have hrun : zeroRun (g :: gs) = 0 := by simp [zeroRun, hg]
      rw [hrun, List.take_zero, List.replicate_zero]

/-- The longest run of zeros is a run of zeros. -/
theorem longestRun_zeros (gs : List Nat) :
    (gs.drop (longestRun gs).1).take (longestRun gs).2 = List.replicate (longestRun gs).2 0 := by
  have hkeep (is : List Nat) (best : Nat × Nat)
      (hbest : (gs.drop best.1).take best.2 = List.replicate best.2 0) :
      let found := is.foldl (fun best i =>
        if best.2 < zeroRun (gs.drop i) then (i, zeroRun (gs.drop i)) else best) best
      (gs.drop found.1).take found.2 = List.replicate found.2 0 := by
    induction is generalizing best with
    | nil => exact hbest
    | cons i is ih =>
      rw [List.foldl_cons]
      split
      · exact ih _ (zeros_of_zeroRun _)
      · exact ih _ hbest
  exact hkeep _ (0, 0) rfl

/-- A text of groups of hexadecimal digits. -/
theorem groupsText_eq (gs : List Nat) :
    groupsText gs = ((gs.map (Nat.toDigits 16)).intersperse [':']).flatten :=
  rfl

lemma isHex_of_mem_toDigits {n : Nat} {c : Char} (h : c ∈ Nat.toDigits 16 n) :
    c ∈ "0123456789abcdef".toList := by
  have hall : ∀ m : Fin 16, m.val.digitChar ∈ "0123456789abcdef".toList := by decide
  induction n using Nat.strongRecOn with
  | ind n ih =>
    by_cases hn : n < 16
    · rw [Nat.toDigits_of_lt_base hn] at h
      rw [List.mem_singleton.mp h]
      exact hall ⟨n, hn⟩
    · rw [Nat.toDigits_of_base_le (by decide) (Nat.le_of_not_lt hn)] at h
      rcases List.mem_append.mp h with h | h
      · exact ih (n / 16) (by omega) h
      · rw [List.mem_singleton.mp h]
        exact hall ⟨n % 16, Nat.mod_lt n (by decide)⟩

lemma group?_toDigits {g : Nat} (h : g < 65536) : group? (Nat.toDigits 16 g) = some g := by
  have hlength : (Nat.toDigits 16 g).length ≤ 4 :=
    (Nat.length_toDigits_le_iff (by decide) (by decide)).mpr h
  rw [group?, if_neg, valueIn?_toDigits]
  rintro (hnil | hlong)
  · exact Nat.toDigits_ne_nil hnil
  · omega

lemma groups?_toDigits {gs : List Nat} (h : ∀ g ∈ gs, g < 65536) :
    groups? (gs.map (Nat.toDigits 16)) = some gs := by
  induction gs with
  | nil => rfl
  | cons g gs ih =>
    obtain ⟨hg, hgs⟩ := List.forall_mem_cons.mp h
    cases gs with
    | nil => simp only [List.map_cons, List.map_nil, groups?, group?_toDigits hg]
    | cons next gs =>
      have hrest := ih hgs
      rw [List.map_cons] at hrest ⊢
      rw [List.map_cons, groups?, group?_toDigits hg, hrest]
      · rfl
      · exact List.cons_ne_nil _ _

/-- The groups on one side of a gap come back from their text. -/
theorem side?_groupsText {gs : List Nat} (h : ∀ g ∈ gs, g < 65536) :
    side? (groupsText gs) = some gs := by
  cases gs with
  | nil => rfl
  | cons g gs =>
    have hne : groupsText (g :: gs) ≠ [] := by
      obtain ⟨c, ds, hcd⟩ := List.exists_cons_of_ne_nil (Nat.toDigits_ne_nil (n := g) (b := 16))
      rw [groupsText, List.map_cons, hcd]
      cases gs <;> simp
    rw [side?, if_neg hne, groupsText_eq, splitAt_join (by simp), groups?_toDigits h]
    intro part hpart hcolon
    obtain ⟨g, -, rfl⟩ := List.mem_map.mp hpart
    exact absurd (isHex_of_mem_toDigits hcolon) (by decide)

section Gaps

variable {part rest : List Char}

lemma cutGap_part (h : ':' ∉ part) :
    cutGap (part ++ rest) = (cutGap rest).map fun p => (part ++ p.1, p.2) := by
  induction part with
  | nil => simp
  | cons c part ih =>
    have hc : c ≠ ':' := (List.ne_of_not_mem_cons h).symm
    rw [List.cons_append, cutGap, ih (List.not_mem_of_not_mem_cons h), Option.map_map]
    · rfl
    · rintro rest' rfl
      exact absurd rfl hc

lemma cutGap_colon {c : Char} (h : c ≠ ':') :
    cutGap (':' :: c :: rest) = (cutGap (c :: rest)).map fun p => (':' :: p.1, p.2) := by
  rw [cutGap]
  rintro rest' - heq
  cases heq
  exact absurd rfl h

/-- Parts that are joined by single colons have no gap. -/
theorem cutGap_join {parts : List (List Char)} (hne : ∀ part ∈ parts, part ≠ [])
    (h : ∀ part ∈ parts, ':' ∉ part) :
    cutGap ((parts.intersperse [':']).flatten ++ rest) =
      (cutGap rest).map fun p => ((parts.intersperse [':']).flatten ++ p.1, p.2) := by
  induction parts with
  | nil => simp
  | cons part parts ih =>
    obtain ⟨hpart, hparts⟩ := List.forall_mem_cons.mp h
    cases parts with
    | nil => simpa using cutGap_part hpart
    | cons next parts =>
      have hjoin : ((part :: next :: parts).intersperse [':']).flatten =
          part ++ ':' :: ((next :: parts).intersperse [':']).flatten := rfl
      have hrest := ih (List.forall_mem_cons.mp hne).2 hparts
      obtain ⟨c, ds, hcd, hc⟩ :
          ∃ c ds, ((next :: parts).intersperse [':']).flatten = c :: ds ∧ c ≠ ':' := by
        obtain ⟨c, tail, rfl⟩ := List.exists_cons_of_ne_nil (hne next (by simp))
        have hc : c ≠ ':' := fun heq => hparts _ List.mem_cons_self (heq ▸ List.mem_cons_self)
        cases parts with
        | nil => exact ⟨c, _, rfl, hc⟩
        | cons last parts => exact ⟨c, _, rfl, hc⟩
      rw [hjoin, List.append_assoc, cutGap_part hpart, List.cons_append, hcd, List.cons_append,
        cutGap_colon hc, ← List.cons_append, ← hcd, hrest, Option.map_map, Option.map_map]
      refine congrArg (Option.map · (cutGap rest)) (funext fun p => ?_)
      simp

end Gaps

lemma noColon_toDigits {g : Nat} : ':' ∉ Nat.toDigits 16 g := fun h =>
  absurd (isHex_of_mem_toDigits h) (by decide)

lemma cutGap_groupsText (gs : List Nat) (rest : List Char) :
    cutGap (groupsText gs ++ rest) = (cutGap rest).map fun p => (groupsText gs ++ p.1, p.2) := by
  refine cutGap_join (fun part hpart => ?_) fun part hpart => ?_
  · obtain ⟨g, -, rfl⟩ := List.mem_map.mp hpart
    exact Nat.toDigits_ne_nil
  · obtain ⟨g, -, rfl⟩ := List.mem_map.mp hpart
    exact noColon_toDigits

theorem mem_groupsText {gs : List Nat} {c : Char} (h : c ∈ groupsText gs) :
    c ∈ ":0123456789abcdef".toList := by
  rcases mem_join h with rfl | ⟨part, hpart, hc⟩
  · decide
  · obtain ⟨g, -, rfl⟩ := List.mem_map.mp hpart
    exact List.mem_cons_of_mem ':' (isHex_of_mem_toDigits hc)

/-- The parts of an address of 128 bits: what is before the zeros that are left out, and what is behind. -/
theorem address6Text_cases (gs : List Nat) :
    address6Text gs = groupsText gs ∨ ∃ before after n, 2 ≤ n ∧
      gs = before ++ List.replicate n 0 ++ after ∧
        address6Text gs = groupsText before ++ ':' :: ':' :: groupsText after := by
  rw [address6Text]
  dsimp only
  split
  · exact .inl rfl
  next hlong =>
    refine .inr ⟨_, _, (longestRun gs).2, Nat.le_of_not_lt hlong, ?_, rfl⟩
    rw [← longestRun_zeros, ← List.drop_drop, List.append_assoc, List.take_append_drop,
      List.take_append_drop]

/-- An address of 128 bits comes back from its text. -/
theorem address6?_address6Text {gs : List Nat} (hlength : gs.length = 8) (h : ∀ g ∈ gs, g < 65536) :
    address6? (address6Text gs) = some gs := by
  rcases address6Text_cases gs with htext | ⟨before, after, n, hn, rfl, htext⟩
  · have hgap := cutGap_groupsText gs []
    rw [List.append_nil, cutGap, Option.map_none] at hgap
    rw [htext, address6?, hgap]
    simp only [side?_groupsText h, Option.bind_some, hlength, if_true]
  · have hgap := cutGap_groupsText before (':' :: ':' :: groupsText after)
    rw [cutGap, Option.map_some, List.append_nil] at hgap
    have hdot : (groupsText before).contains '.' = false := Bool.eq_false_iff.mpr fun hin =>
      absurd (mem_groupsText (List.contains_iff_mem.mp hin)) (by decide)
    have hbefore : side? (groupsText before) = some before :=
      side?_groupsText fun g hg => h g (by simp [hg])
    have hafter : side? (groupsText after) = some after := side?_groupsText fun g hg => h g (by simp [hg])
    have hfew : before.length + after.length < 8 ∧ 8 - before.length - after.length = n := by
      rw [List.length_append, List.length_append, List.length_replicate] at hlength
      omega
    rw [htext, address6?, hgap]
    simp only [hdot, hbefore, hafter, Bool.false_eq_true, if_false, Option.bind_eq_bind, Option.bind_some,
      if_pos hfew.1, hfew.2]

lemma valueIn?_lt {ds : List Char} {n : Nat} (h : valueIn? 16 ds = some n) : n < 16 ^ ds.length := by
  induction ds using List.reverseRecOn generalizing n with
  | nil =>
    cases h
    decide
  | append_singleton ds c ih =>
    rw [valueIn?_concat] at h
    simp only [Option.bind_eq_bind, Option.bind_eq_some_iff, Option.pure_def, Option.some.injEq] at h
    obtain ⟨m, hm, d, hd, rfl⟩ := h
    have hdigit := digitIn?_lt hd
    have hm := ih hm
    rw [List.length_append, List.length_singleton, Nat.pow_succ]
    omega

lemma group?_lt {ds : List Char} {g : Nat} (h : group? ds = some g) : g < 65536 := by
  rw [group?] at h
  split at h
  · cases h
  next hshort =>
    rw [not_or, Nat.not_lt] at hshort
    exact Nat.lt_of_lt_of_le (valueIn?_lt h) (Nat.pow_le_pow_right (by decide) hshort.2)

lemma dottedByte?_le {ds : List Char} {n : Nat} (h : dottedByte? ds = some n) : n ≤ 255 := by
  unfold dottedByte? at h
  split at h
  · cases h
  · cases h
  · obtain ⟨m, -, hm⟩ := Option.bind_eq_some_iff.mp h
    split at hm
    next hle => exact Option.some.inj hm ▸ hle
    next => cases hm

lemma dotted?_lt {s : List Char} {gs : List Nat} (h : dotted? s = some gs) : ∀ g ∈ gs, g < 65536 := by
  unfold dotted? at h
  split at h
  next a b c d heq =>
    have hle (n : Nat) (hn : some n ∈ (splitAt '.' s).map dottedByte?) : n ≤ 255 := by
      obtain ⟨ds, -, hds⟩ := List.mem_map.mp hn
      exact dottedByte?_le hds
    rw [heq] at hle
    have ha := hle a (by simp)
    have hb := hle b (by simp)
    have hc := hle c (by simp)
    have hd := hle d (by simp)
    intro g hg
    cases h
    rcases List.mem_cons.mp hg with rfl | hg
    · omega
    · rw [List.mem_singleton.mp hg]
      omega
  next => cases h

lemma groups?_lt {parts : List (List Char)} {gs : List Nat} (h : groups? parts = some gs) :
    ∀ g ∈ gs, g < 65536 := by
  induction parts generalizing gs with
  | nil =>
    cases h
    nofun
  | cons part parts ih =>
    cases parts with
    | nil =>
      rw [groups?] at h
      split at h
      next g hg =>
        cases h
        exact List.forall_mem_singleton.mpr (group?_lt hg)
      next =>
        split at h
        · exact dotted?_lt h
        · cases h
    | cons next parts =>
      rw [groups?] at h
      · simp only [Option.bind_eq_bind, Option.bind_eq_some_iff, Option.pure_def, Option.some.injEq] at h
        obtain ⟨g, hg, rest, hrest, rfl⟩ := h
        exact List.forall_mem_cons.mpr ⟨group?_lt hg, ih hrest⟩
      · exact List.cons_ne_nil _ _

lemma side?_lt {s : List Char} {gs : List Nat} (h : side? s = some gs) : ∀ g ∈ gs, g < 65536 := by
  rw [side?] at h
  split at h
  · cases h
    nofun
  · exact groups?_lt h

/-- An address of 128 bits has eight groups of 16 bits. -/
theorem address6?_bounds {s : List Char} {gs : List Nat} (h : address6? s = some gs) :
    gs.length = 8 ∧ ∀ g ∈ gs, g < 65536 := by
  rw [address6?] at h
  split at h
  · obtain ⟨gs', hside, hgs⟩ := Option.bind_eq_some_iff.mp h
    split at hgs
    next hlength =>
      cases hgs
      exact ⟨hlength, side?_lt hside⟩
    next => cases hgs
  · split at h
    · cases h
    · simp only [Option.bind_eq_bind, Option.bind_eq_some_iff] at h
      obtain ⟨left, hleft, right, hright, h⟩ := h
      split at h
      next hfew =>
        cases h
        refine ⟨by simp; omega, fun g hg => ?_⟩
        rcases List.mem_append.mp hg with hg | hg
        · rcases List.mem_append.mp hg with hg | hg
          · exact side?_lt hleft g hg
          · rw [List.eq_of_mem_replicate hg]
            decide
        · exact side?_lt hright g hg
      next => cases h

end MarketFeed.Url
