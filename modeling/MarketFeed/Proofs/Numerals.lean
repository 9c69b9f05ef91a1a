import Mathlib.Tactic.Lemma
import MarketFeed.Json.Scanner
import MarketFeed.Json.Printer

/-!
Digits of a number, as they are written and read. A run of digits ends where something else follows,
and the digits that a number is written with give the number back.
-/

namespace MarketFeed

/-- What follows is no digit. -/
def NoDigit (s : List Char) : Prop := ∀ c ∈ s.head?, c.isDigit = false

theorem noDigit_cons {c : Char} {s : List Char} (h : c.isDigit = false) : NoDigit (c :: s) :=
  fun _ hm => Option.some.inj hm ▸ h

namespace Digits

variable {ds s : List Char} {n : Nat}

theorem takeWhile_append (hd : ∀ c ∈ ds, c.isDigit = true) (hs : NoDigit s) :
    (ds ++ s).takeWhile Char.isDigit = ds := by
  rw [List.takeWhile_append_of_pos hd]
  cases s with
  | nil => simp
  | cons c s => simp [hs c rfl]

theorem dropWhile_append (hd : ∀ c ∈ ds, c.isDigit = true) (hs : NoDigit s) :
    (ds ++ s).dropWhile Char.isDigit = s := by
  rw [List.dropWhile_append_of_pos hd]
  cases s with
  | nil => rfl
  | cons c s => simp [hs c rfl]

theorem isDigit_of_mem {c : Char} (h : c ∈ Nat.toDigits 10 n) : c.isDigit = true :=
  Nat.isDigit_of_mem_toDigits (by decide) (by decide) h

/-- The value of digits is what they are read as. -/
theorem foldl_eq (ds : List Char) (n : Nat) :
    ds.foldl (fun n c => n * 10 + (c.toNat - 48)) n = Nat.ofDigitChars 10 ds n := by
  simp only [Nat.ofDigitChars, Nat.mul_comm 10]
  rfl

theorem le_ofDigitChars (ds : List Char) (n : Nat) : n ≤ Nat.ofDigitChars 10 ds n := by
  induction ds generalizing n with
  | nil => simp
  | cons c ds ih =>
    rw [Nat.ofDigitChars_cons]
    have h := ih (10 * n + (c.toNat - '0'.toNat))
    omega

/-- A number above zero does not start with a zero. -/
theorem head_ne_zero (hn : 0 < n) : (Nat.toDigits 10 n).head? ≠ some '0' := by
  induction n using Nat.strongRecOn with
  | ind n ih =>
    rw [Nat.toDigits_eq_if (by decide)]
    split
    · rename_i h
      have hd : ∀ k < 10, 0 < k → Nat.digitChar k ≠ '0' := by decide
      simpa using hd n h hn
    · rename_i h
      have hlow : 0 < n / 10 := by omega
      obtain ⟨c, ds, hds⟩ := List.exists_cons_of_ne_nil (Nat.toDigits_ne_nil (n := n / 10) (b := 10))
      have hc := ih (n / 10) (by omega) hlow
      rw [hds] at hc ⊢
      exact hc

end Digits

namespace Json

variable {s : List Char}

/-- All digits are kept of a number that fits 64 bits. -/
theorem keepDigits_all (ds : List Char) (n : Nat) (h : Nat.ofDigitChars 10 ds n < 1 <<< 64) :
    keepDigits n ds = (Nat.ofDigitChars 10 ds n, []) := by
  induction ds generalizing n with
  | nil => simp [keepDigits]
  | cons c ds ih =>
    rw [Nat.ofDigitChars_cons] at h ⊢
    have hnext : 10 * n + (c.toNat - '0'.toNat) = n * 10 + (c.toNat - 48) := by
      rw [Nat.mul_comm]
      rfl
    rw [hnext] at h ⊢
    have hle := Digits.le_ofDigitChars ds (n * 10 + (c.toNat - 48))
    rw [keepDigits, if_pos (by omega)]
    exact ih _ h

lemma scanDigits_append {ds : List Char} (hne : ds ≠ []) (hd : ∀ c ∈ ds, c.isDigit = true)
    (hs : NoDigit s) : scanDigits (ds ++ s) = .ok (ds, s) := by
  obtain ⟨c, ds', rfl⟩ := List.exists_cons_of_ne_nil hne
  have hc : c.isDigit = true := hd c List.mem_cons_self
  unfold scanDigits
  dsimp only [List.cons_append]
  rw [if_pos hc, ← List.cons_append, Digits.takeWhile_append hd hs, Digits.dropWhile_append hd hs]

theorem scanWhole_toDigits (n : Nat) (hs : NoDigit s) :
    scanWhole (Nat.toDigits 10 n ++ s) = .ok (Nat.toDigits 10 n, s) := by
  have hscan := scanDigits_append (s := s) Nat.toDigits_ne_nil (fun c => Digits.isDigit_of_mem (n := n)) hs
  unfold scanWhole
  split
  · rename_i c rest heq
    rcases Nat.eq_zero_or_pos n with rfl | hn
    · rw [Nat.toDigits_zero] at heq ⊢
      cases heq
      rw [if_neg (by simp [hs c rfl])]
    · have hhead := Digits.head_ne_zero hn
      obtain ⟨d, ds, hds⟩ := List.exists_cons_of_ne_nil (Nat.toDigits_ne_nil (n := n) (b := 10))
      rw [hds] at heq hhead
      rw [List.cons_append] at heq
      exact absurd (congrArg some (List.cons.inj heq).1) hhead
  · exact hscan

end Json

end MarketFeed
