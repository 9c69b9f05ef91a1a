import Mathlib.Data.List.TakeWhile
import MarketFeed.Url.Reader

/-!
Cutting a text at a character: the parts do not have that character, and parts that do not have it come
back from the text that they are joined to.
-/

namespace MarketFeed.Url

section Lists

variable {α β : Type} {f : α → Option β} {xs : List α} {ys : List β}

theorem allSome_map {g : α → β} (h : ∀ x ∈ xs, f x = some (g x)) :
    allSome (xs.map f) = some (xs.map g) := by
  induction xs with
  | nil => rfl
  | cons x xs ih =>
    obtain ⟨hx, hxs⟩ := List.forall_mem_cons.mp h
    rw [List.map_cons, hx, allSome, ih hxs]
    rfl

lemma allSome_cons_eq_some {x : α} (h : allSome ((x :: xs).map f) = some ys) :
    ∃ y rest, f x = some y ∧ allSome (xs.map f) = some rest ∧ ys = y :: rest := by
  rw [List.map_cons] at h
  cases hx : f x with
  | none =>
    rw [hx] at h
    cases h
  | some y =>
    rw [hx] at h
    obtain ⟨rest, hrest, rfl⟩ := Option.map_eq_some_iff.mp h
    exact ⟨y, rest, rfl, hrest, rfl⟩

theorem mem_of_allSome (h : allSome (xs.map f) = some ys) {y : β} (hy : y ∈ ys) :
    ∃ x ∈ xs, f x = some y := by
  induction xs generalizing ys with
  | nil =>
    cases h
    cases hy
  | cons x xs ih =>
    obtain ⟨z, rest, hz, hrest, rfl⟩ := allSome_cons_eq_some h
    rcases List.mem_cons.mp hy with rfl | hy
    · exact ⟨x, List.mem_cons_self, hz⟩
    · obtain ⟨w, hw, hwy⟩ := ih hrest hy
      exact ⟨w, List.mem_cons_of_mem x hw, hwy⟩

theorem length_of_allSome (h : allSome (xs.map f) = some ys) : ys.length = xs.length := by
  induction xs generalizing ys with
  | nil =>
    cases h
    rfl
  | cons x xs ih =>
    obtain ⟨y, rest, -, hrest, rfl⟩ := allSome_cons_eq_some h
    rw [List.length_cons, List.length_cons, ih hrest]

end Lists

section Cuts

variable {sep : Char} {s t : List Char}

theorem splitAt_ne_nil (sep : Char) (s : List Char) : splitAt sep s ≠ [] := by
  cases s with
  | nil => exact List.cons_ne_nil [] []
  | cons c s =>
    rw [splitAt]
    split
    · exact List.cons_ne_nil _ _
    · split <;> exact List.cons_ne_nil _ _

lemma splitAt_cons_of_ne {c : Char} (h : c ≠ sep) {part : List Char} {parts : List (List Char)}
    (hs : splitAt sep s = part :: parts) : splitAt sep (c :: s) = (c :: part) :: parts := by
  rw [splitAt, if_neg h, hs]

/-- The parts of a text do not have the character at which it is cut. -/
theorem not_mem_of_mem_splitAt (h : t ∈ splitAt sep s) : sep ∉ t := by
  induction s generalizing t with
  | nil =>
    rw [List.mem_singleton.mp h]
    exact List.not_mem_nil
  | cons c s ih =>
    by_cases hc : c = sep
    · rw [splitAt, if_pos hc] at h
      rcases List.mem_cons.mp h with rfl | h
      · exact List.not_mem_nil
      · exact ih h
    · obtain ⟨part, parts, hs⟩ := List.exists_cons_of_ne_nil (splitAt_ne_nil sep s)
      rw [splitAt_cons_of_ne hc hs] at h
      rw [hs] at ih
      rcases List.mem_cons.mp h with rfl | h
      · exact List.not_mem_cons_of_ne_of_not_mem (Ne.symm hc) (ih List.mem_cons_self)
      · exact ih (List.mem_cons_of_mem _ h)

/-- The characters of the parts are those of the text. -/
theorem mem_of_mem_splitAt (h : t ∈ splitAt sep s) {x : Char} (hx : x ∈ t) : x ∈ s := by
  induction s generalizing t with
  | nil =>
    rw [List.mem_singleton.mp h] at hx
    cases hx
  | cons c s ih =>
    by_cases hc : c = sep
    · rw [splitAt, if_pos hc] at h
      rcases List.mem_cons.mp h with rfl | h
      · cases hx
      · exact List.mem_cons_of_mem c (ih h hx)
    · obtain ⟨part, parts, hs⟩ := List.exists_cons_of_ne_nil (splitAt_ne_nil sep s)
      rw [splitAt_cons_of_ne hc hs] at h
      rw [hs] at ih
      rcases List.mem_cons.mp h with rfl | h
      · rcases List.mem_cons.mp hx with rfl | hx
        · exact List.mem_cons_self
        · exact List.mem_cons_of_mem c (ih List.mem_cons_self hx)
      · exact List.mem_cons_of_mem c (ih (List.mem_cons_of_mem _ h) hx)

lemma splitAt_append (h : sep ∉ s) : splitAt sep (s ++ sep :: t) = s :: splitAt sep t := by
  induction s with
  | nil => rw [List.nil_append, splitAt, if_pos rfl]
  | cons c s ih =>
    rw [List.cons_append]
    exact splitAt_cons_of_ne (List.ne_of_not_mem_cons h).symm (ih (List.not_mem_of_not_mem_cons h))

theorem splitAt_of_not_mem (h : sep ∉ s) : splitAt sep s = [s] := by
  induction s with
  | nil => rfl
  | cons c s ih =>
    rw [splitAt, if_neg (List.ne_of_not_mem_cons h).symm, ih (List.not_mem_of_not_mem_cons h)]

/-- Parts that are joined are found again. -/
theorem splitAt_join {parts : List (List Char)} (hne : parts ≠ []) (h : ∀ part ∈ parts, sep ∉ part) :
    splitAt sep (parts.intersperse [sep]).flatten = parts := by
  induction parts with
  | nil => exact absurd rfl hne
  | cons part parts ih =>
    obtain ⟨hpart, hparts⟩ := List.forall_mem_cons.mp h
    cases parts with
    | nil => simpa using splitAt_of_not_mem hpart
    | cons next parts =>
      have hjoin : ((part :: next :: parts).intersperse [sep]).flatten =
          part ++ sep :: ((next :: parts).intersperse [sep]).flatten := rfl
      rw [hjoin, splitAt_append hpart, ih (List.cons_ne_nil _ _) hparts]

/-- Joining undoes cutting. -/
theorem join_splitAt (sep : Char) (s : List Char) : ((splitAt sep s).intersperse [sep]).flatten = s := by
  induction s with
  | nil => rfl
  | cons c s ih =>
    obtain ⟨part, parts, hs⟩ := List.exists_cons_of_ne_nil (splitAt_ne_nil sep s)
    rw [hs] at ih
    by_cases hc : c = sep
    · rw [splitAt, if_pos hc, hs, hc]
      exact congrArg (sep :: ·) ih
    · rw [splitAt_cons_of_ne hc hs]
      cases parts with
      | nil => exact congrArg (c :: ·) ih
      | cons next parts => exact congrArg (c :: ·) ih

/-- A part of a text is followed by the rest of it. -/
theorem mem_join {parts : List (List Char)} {x : Char}
    (h : x ∈ (parts.intersperse [sep]).flatten) : x = sep ∨ ∃ part ∈ parts, x ∈ part := by
  induction parts with
  | nil => cases h
  | cons part parts ih =>
    cases parts with
    | nil => exact .inr ⟨part, List.mem_singleton_self part, by simpa using h⟩
    | cons next parts =>
      have hjoin : ((part :: next :: parts).intersperse [sep]).flatten =
          part ++ sep :: ((next :: parts).intersperse [sep]).flatten := rfl
      rw [hjoin] at h
      rcases List.mem_append.mp h with h | h
      · exact .inr ⟨part, List.mem_cons_self, h⟩
      · rcases List.mem_cons.mp h with h | h
        · exact .inl h
        · rcases ih h with h | ⟨p, hp, hx⟩
          · exact .inl h
          · exact .inr ⟨p, List.mem_cons_of_mem part hp, hx⟩

theorem forall_ne {mark : Char} (h : mark ∉ s) : ∀ c ∈ s, decide (c ≠ mark) = true := fun _ hc =>
  decide_eq_true fun he => h (he ▸ hc)

theorem cutMark_append {mark : Char} (h : mark ∉ s) (rest : List Char) :
    cutMark mark (s ++ mark :: rest) = (s, some rest) := by
  rw [cutMark, List.takeWhile_append_of_pos (forall_ne h), List.dropWhile_append_of_pos (forall_ne h)]
  simp

theorem cutMark_of_not_mem {mark : Char} (h : mark ∉ s) : cutMark mark s = (s, none) := by
  rw [cutMark, List.takeWhile_eq_self_iff.mpr (forall_ne h), List.dropWhile_eq_nil_iff.mpr (forall_ne h)]

end Cuts

end MarketFeed.Url
