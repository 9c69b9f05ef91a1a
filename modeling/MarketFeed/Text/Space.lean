/-!
White space in the sense of the property `White_Space`, and its removal from the ends of a text.
-/

namespace MarketFeed.Text

/-- Whether a character is white space: the blanks of the first plane, from the tab to the
ideographic space. -/
def isSpace (c : Char) : Bool :=
  let n := c.toNat
  (9 ≤ n && n ≤ 13) || n = 0x20 || n = 0x85 || n = 0xA0 || n = 0x1680 ||
    (0x2000 ≤ n && n ≤ 0x200A) || n = 0x2028 || n = 0x2029 || n = 0x202F || n = 0x205F || n = 0x3000

def trimStart (s : List Char) : List Char := s.dropWhile isSpace

def trimEnd (s : List Char) : List Char := (s.reverse.dropWhile isSpace).reverse

def trim (s : List Char) : List Char := trimEnd (trimStart s)

@[simp] theorem trim_nil : trim [] = [] := rfl

/-- A text that neither starts nor ends with white space stays as it is. -/
theorem trim_eq_self {s : List Char} (first : ∀ c ∈ s.head?, isSpace c = false)
    (last : ∀ c ∈ s.getLast?, isSpace c = false) : trim s = s := by
  have start : s.dropWhile isSpace = s := by
    cases s with
    | nil => rfl
    | cons c r => simp [List.dropWhile, first c (by simp)]
  have back : s.reverse.dropWhile isSpace = s.reverse := by
    rw [List.getLast?_eq_head?_reverse] at last
    cases h : s.reverse with
    | nil => rfl
    | cons c r => simp [List.dropWhile, last c (by simp [h])]
  rw [trim, trimStart, trimEnd, start, back, List.reverse_reverse]

example : trim " \u3000a b\n".toList = "a b".toList := by decide

end MarketFeed.Text
