import MarketFeed.Proofs.Numerals
import MarketFeed.Json.Reader

/-!
Documents and their texts. The text of a document without doubles is read back as the document, whose
objects then have their members in order. The reader takes one value off the front of a text and goes on
with what follows, so that containers are read item by item.
-/

namespace MarketFeed.Json

variable {s : List Char} {stack : List Open}

/-- A value that ends here ends for every reader: a comma or a closing bracket follows, or nothing. -/
def Ends (s : List Char) : Prop := ∀ c ∈ s.head?, c = ',' ∨ c = ']' ∨ c = '}'

lemma ends_nil : Ends [] := fun _ h => nomatch h

lemma ends_cons {c : Char} (h : c = ',' ∨ c = ']' ∨ c = '}') (s : List Char) : Ends (c :: s) :=
  fun _ hm => Option.some.inj hm ▸ h

lemma Ends.noDigit (h : Ends s) : NoDigit s := by
  intro c hc
  rcases h c hc with rfl | rfl | rfl <;> decide

/-! ### Numbers -/

lemma scanFraction_ends (h : Ends s) : scanFraction s = .ok (none, s) := by
  unfold scanFraction
  split
  · rcases h '.' rfl with hc | hc | hc <;> cases hc
  · rfl

lemma scanExponent_ends (h : Ends s) : scanExponent s = .ok (none, s) := by
  cases s with
  | nil => rfl
  | cons c s => rcases h c rfl with rfl | rfl | rfl <;> simp [scanExponent]

/-- The minus sign belongs to the number, and nothing else does. -/
theorem scanNumber_signed (negative : Bool) {n : Nat} {i : Int} (hs : Ends s)
    (hv : Numeral.value ⟨negative, Nat.toDigits 10 n, none, none⟩ = .ok (.integer i))
    (hm : takeMinus ((if negative then ['-'] else []) ++ Nat.toDigits 10 n ++ s) =
      (negative, Nat.toDigits 10 n ++ s)) :
    scanNumber ((if negative then ['-'] else []) ++ Nat.toDigits 10 n ++ s) = .ok (.integer i, s) := by
  unfold scanNumber
  rw [hm]
  dsimp only
  rw [scanWhole_toDigits n hs.noDigit]
  dsimp only
  rw [scanFraction_ends hs]
  dsimp only
  rw [scanExponent_ends hs]
  dsimp only
  rw [hv]
  rfl

lemma takeMinus_digits (n : Nat) (s : List Char) :
    takeMinus (Nat.toDigits 10 n ++ s) = (false, Nat.toDigits 10 n ++ s) := by
  unfold takeMinus
  split
  · rename_i rest heq
    obtain ⟨c, ds, hds⟩ := List.exists_cons_of_ne_nil (Nat.toDigits_ne_nil (n := n) (b := 10))
    have hc : c.isDigit = true := Digits.isDigit_of_mem (n := n) (by simp [hds])
    rw [hds, List.cons_append] at heq
    rw [(List.cons.inj heq).1] at hc
    cases hc
  · rfl

/-- An integer of 64 bits is read back. -/
theorem scanNumber_integerText {i : Int} (hi : leastInteger ≤ i ∧ i ≤ greatestInteger) (hs : Ends s) :
    scanNumber (integerText i ++ s) = .ok (.integer i, s) := by
  have hlow : leastInteger = -9223372036854775808 := rfl
  have hhigh : greatestInteger = 18446744073709551615 := rfl
  have hkeep : keepDigits 0 (Nat.toDigits 10 i.natAbs) = (i.natAbs, []) := by
    have hlt : i.natAbs < 1 <<< 64 := by
      have h64 : 1 <<< 64 = 18446744073709551616 := rfl
      omega
    have h := keepDigits_all (Nat.toDigits 10 i.natAbs) 0 (by simpa using hlt)
    simpa using h
  unfold integerText
  split
  · rename_i hneg
    refine scanNumber_signed true hs ?_ rfl
    have h63 : 1 <<< 63 = 9223372036854775808 := rfl
    simp only [Numeral.value, hkeep]
    rw [if_neg (by simp), if_pos trivial, if_neg (by omega)]
    congr 2
    omega
  · rename_i hpos
    refine scanNumber_signed false hs ?_ (takeMinus_digits _ _)
    simp only [Numeral.value, hkeep]
    rw [if_neg (by simp), if_neg (by simp)]
    congr 2
    omega

/-! ### Strings -/

lemma scanString_plain {c : Char} (done s : List Char) (hq : c ≠ '"') (hb : c ≠ '\\')
    (hc : ¬ c.toNat < 0x20) : scanString done (c :: s) = scanString (c :: done) s := by
  rw [scanString, if_neg hq, if_neg hb, if_neg hc]

lemma scanString_escaped {c : Char} {t : List Char} (done : List Char)
    (h : scanEscape t = .ok (c, s)) : scanString done ('\\' :: t) = scanString (c :: done) s := by
  rw [scanString, if_neg (by decide), if_pos rfl]
  split
  · rename_i he
    cases h.symm.trans he
  · rename_i d after he
    cases h.symm.trans he
    rfl

/-- Two hexadecimal digits give a control character back. -/
theorem scanEscape_control (n : Nat) (hn : n < 0x20) (s : List Char) :
    scanEscape ('u' :: '0' :: '0' :: hexDigit (n / 16) :: hexDigit (n % 16) :: s) =
      .ok (Char.ofNat n, s) := by
  have hhex : ∀ n < 0x20, hexValue (hexDigit (n / 16)) = some (n / 16) ∧
      hexValue (hexDigit (n % 16)) = some (n % 16) := by decide
  have hzero : hexValue '0' = some 0 := by decide
  have hunit : scanUnit ('0' :: '0' :: hexDigit (n / 16) :: hexDigit (n % 16) :: s) = .ok (n, s) := by
    simp only [scanUnit, hzero, (hhex n hn).1, (hhex n hn).2]
    congr 2
    omega
  rw [scanEscape, if_pos rfl, scanUnicode, hunit]
  dsimp only
  rw [if_neg (by omega), if_pos (by omega)]

/-- A character is read back, escaped or not. -/
theorem scanString_escapeChar (c : Char) (done s : List Char) :
    scanString done (escapeChar c ++ s) = scanString (c :: done) s := by
  have back {n : Nat} (h : c.toNat = n) : c = Char.ofNat n := by rw [← h, Char.ofNat_toNat]
  unfold escapeChar
  split
  · subst c
    exact scanString_escaped done rfl
  · rename_i hq
    split
    · subst c
      exact scanString_escaped done rfl
    · rename_i hb
      split
      · rename_i hlow
        have hcontrol := scanEscape_control c.toNat hlow s
        rw [Char.ofNat_toNat] at hcontrol
        repeat' split
        all_goals first
          | exact scanString_escaped done hcontrol
          | (rename_i h; exact scanString_escaped done (by rw [back h]; rfl))
      · rename_i hlow
        exact scanString_plain done s hq hb hlow

lemma scanString_text (cs done s : List Char) :
    scanString done (cs.flatMap escapeChar ++ '"' :: s) = .ok (String.ofList (done.reverse ++ cs), s) := by
  induction cs generalizing done with
  | nil => simp [scanString]
  | cons c cs ih =>
    rw [List.flatMap_cons, List.append_assoc, scanString_escapeChar, ih]
    simp

/-! ### Documents -/

mutual

/-- The document that is read back from the text of one. -/
def ordered : Json → Json
  | .array items => .array (orderedItems items)
  | .object ms => .object (membersOf (orderedMembers ms))
  | j => j

def orderedItems : List Json → List Json
  | [] => []
  | j :: js => j.ordered :: orderedItems js

def orderedMembers : Members → Members
  | [] => []
  | (k, v) :: ms => (k, v.ordered) :: orderedMembers ms

end

theorem ordered_string (s : String) : (Json.string s).ordered = .string s := rfl

/-- Documents without doubles, whose integers fit 64 bits, with so many containers inside one another. -/
inductive Plain : Nat → Json → Prop
  | null {n : Nat} : Plain n .null
  | bool {n : Nat} (b : Bool) : Plain n (.bool b)
  | integer {n : Nat} {i : Int} (h : leastInteger ≤ i ∧ i ≤ greatestInteger) :
    Plain n (.number (.integer i))
  | string {n : Nat} (s : String) : Plain n (.string s)
  | array {n : Nat} {items : List Json} (h : ∀ j ∈ items, Plain n j) : Plain (n + 1) (.array items)
  | object {n : Nat} {ms : Members} (h : ∀ p ∈ ms, Plain n p.2) : Plain (n + 1) (.object ms)

variable {n : Nat} {j : Json} {p q : Position} {c : Char} {after : List Char}

lemma readFrom_token (hb : isBlank c = false) (h : token p c s = .ok (q, after)) :
    readFrom p (c :: s) = readFrom q after := by
  rw [readFrom, if_neg (by simp [hb])]
  split
  · rename_i he
    cases h.symm.trans he
  · rename_i he
    cases h.symm.trans he
    rfl

lemma readFrom_fault {e : Fault} (hb : isBlank c = false) (h : token p c s = .error e) :
    readFrom p (c :: s) = .error e := by
  rw [readFrom, if_neg (by simp [hb])]
  split
  · rename_i he
    cases h.symm.trans he
    rfl
  · rename_i he
    cases h.symm.trans he

/-- The first item is read as any other value. -/
theorem readFrom_firstItem (hb : isBlank c = false) (hc : c ≠ ']') :
    readFrom ⟨stack, .firstItem⟩ (c :: s) = readFrom ⟨stack, .value⟩ (c :: s) := by
  have hf : token ⟨stack, .firstItem⟩ c s = startValue stack c s := if_neg hc
  have hv : token ⟨stack, .value⟩ c s = startValue stack c s := rfl
  cases h : startValue stack c s with
  | error e => rw [readFrom_fault hb (hf.trans h), readFrom_fault hb (hv.trans h)]
  | ok r => rw [readFrom_token hb (hf.trans h), readFrom_token hb (hv.trans h)]

lemma isBlank_of_isDigit (h : c.isDigit = true) : isBlank c = false ∧ c ≠ ']' := by
  constructor
  · simp only [isBlank, Bool.or_eq_false_iff, decide_eq_false_iff_not]
    refine ⟨⟨⟨?_, ?_⟩, ?_⟩, ?_⟩ <;> (rintro rfl; cases h)
  · rintro rfl
    cases h

/-- The text of an integer starts with its sign or a digit. -/
theorem integerText_head (i : Int) : ∃ c cs, integerText i = c :: cs ∧ (c = '-' ∨ c.isDigit = true) := by
  by_cases hi : i < 0
  · exact ⟨'-', _, by rw [integerText, if_pos hi], .inl rfl⟩
  · obtain ⟨c, ds, hds⟩ := List.exists_cons_of_ne_nil (Nat.toDigits_ne_nil (n := i.natAbs) (b := 10))
    exact ⟨c, ds, by rw [integerText, if_neg hi, hds],
      .inr (Digits.isDigit_of_mem (n := i.natAbs) (by simp [hds]))⟩

/-- No text of a document starts with a blank or with a closing bracket. -/
theorem Plain.text_head (h : Plain n j) : ∃ c cs, j.text = c :: cs ∧ isBlank c = false ∧ c ≠ ']' := by
  cases h with
  | null => exact ⟨_, _, rfl, by decide, by decide⟩
  | bool b => cases b <;> exact ⟨_, _, rfl, by decide, by decide⟩
  | @integer _ i _ =>
    obtain ⟨c, cs, hc, rfl | hd⟩ := integerText_head i
    · exact ⟨_, cs, by rw [text, Number.text, hc], by decide, by decide⟩
    · exact ⟨c, cs, by rw [text, Number.text, hc], isBlank_of_isDigit hd⟩
  | string s => exact ⟨'"', _, by rw [text, stringText]; rfl, by decide, by decide⟩
  | array _ => exact ⟨'[', _, by rw [text]; rfl, by decide, by decide⟩
  | object _ => exact ⟨'\x7b', _, by rw [text]; rfl, by decide, by decide⟩

/-- The text of a document is taken off the front of what follows the position of a value. -/
def Scans (n : Nat) (j : Json) : Prop := ∀ (stack : List Open) (s : List Char),
  stack.length + n ≤ depthLimit → Ends s →
    readFrom ⟨stack, .value⟩ (j.text ++ s) = readFrom (deliver j.ordered stack) s

lemma readFrom_close_array {items : List Json} (s : List Char) :
    readFrom ⟨.array items :: stack, .separator⟩ (']' :: s) =
      readFrom (deliver (.array items.reverse) stack) s :=
  readFrom_token rfl rfl

lemma readFrom_close_object {ms : Members} {key : String} (s : List Char) :
    readFrom ⟨.object ms key :: stack, .separator⟩ ('\x7d' :: s) = readFrom (deliver (.object ms) stack) s :=
  readFrom_token rfl rfl

/-- The items of an array are read one after another. -/
theorem readFrom_items {items : List Json} (j : Json) (done : List Json)
    (h : ∀ x ∈ j :: items, Scans n x) (hn : stack.length + n < depthLimit) (s : List Char) :
    readFrom ⟨.array done :: stack, .value⟩ (itemsText (j :: items) ++ ']' :: s) =
      readFrom (deliver (.array (done.reverse ++ orderedItems (j :: items))) stack) s := by
  have hlen : (Open.array done :: stack).length + n ≤ depthLimit := by
    simp only [List.length_cons]
    omega
  induction items generalizing j done with
  | nil =>
    rw [itemsText, h j List.mem_cons_self _ _ hlen (ends_cons (by simp) _)]
    change readFrom ⟨.array (j.ordered :: done) :: stack, .separator⟩ _ = _
    rw [readFrom_close_array]
    simp [orderedItems]
  | cons x items ih =>
    have hcomma : readFrom ⟨.array (j.ordered :: done) :: stack, .separator⟩
        (',' :: (itemsText (x :: items) ++ ']' :: s)) =
          readFrom ⟨.array (j.ordered :: done) :: stack, .value⟩ (itemsText (x :: items) ++ ']' :: s) :=
      readFrom_token rfl rfl
    rw [itemsText, List.append_assoc, List.cons_append,
      h j List.mem_cons_self _ _ hlen (ends_cons (by simp) _)]
    change readFrom ⟨.array (j.ordered :: done) :: stack, .separator⟩ _ = _
    rw [hcomma, ih x (j.ordered :: done) (fun y hy => h y (List.mem_cons_of_mem j hy)) hlen]
    simp [orderedItems]

/-- A key and its colon are read. -/
theorem readFrom_key {ms : Members} {old : String} {e : Expected} (he : e = .key ∨ e = .firstKey)
    (key : String) (s : List Char) :
    readFrom ⟨.object ms old :: stack, e⟩ (stringText key.toList ++ ':' :: s) =
      readFrom ⟨.object ms key :: stack, .value⟩ s := by
  have hkey : startKey (.object ms old :: stack) '"' (key.toList.flatMap escapeChar ++ '"' :: ':' :: s) =
      .ok (⟨.object ms key :: stack, .colon⟩, ':' :: s) := by
    simp [startKey, scanString_text, Except.map]
  have htoken : token ⟨.object ms old :: stack, e⟩ '"'
      (key.toList.flatMap escapeChar ++ '"' :: ':' :: s) = .ok (⟨.object ms key :: stack, .colon⟩, ':' :: s) := by
    rcases he with rfl | rfl
    · exact hkey
    · rw [token, if_neg (by decide)]
      exact hkey
  have htext : stringText key.toList ++ ':' :: s =
      '"' :: (key.toList.flatMap escapeChar ++ '"' :: ':' :: s) := by
    simp [stringText]
  rw [htext, readFrom_token rfl htoken]
  exact readFrom_token rfl rfl

/-- The members of an object are read one after another. -/
theorem readFrom_members {rest : Members} {e : Expected} (he : e = .key ∨ e = .firstKey) (k : String)
    (v : Json) (done : Members) (old : String) (h : ∀ p ∈ (k, v) :: rest, Scans n p.2)
    (hn : stack.length + n < depthLimit) (s : List Char) :
    readFrom ⟨.object done old :: stack, e⟩ (membersText ((k, v) :: rest) ++ '\x7d' :: s) =
      readFrom (deliver (.object ((orderedMembers ((k, v) :: rest)).foldl
        (fun ms p => insertMember p.1 p.2 ms) done)) stack) s := by
  have hlen (o : Open) : (o :: stack).length + n ≤ depthLimit := by
    simp only [List.length_cons]
    omega
  have hv := h (k, v) List.mem_cons_self
  induction rest generalizing k v done old e with
  | nil =>
    rw [membersText, List.append_assoc, List.cons_append, readFrom_key he,
      hv _ _ (hlen _) (ends_cons (by simp) _)]
    exact readFrom_close_object s
  | cons p rest ih =>
    obtain ⟨k', v'⟩ := p
    have hcomma : readFrom ⟨.object (insertMember k v.ordered done) k :: stack, .separator⟩
        (',' :: (membersText ((k', v') :: rest) ++ '\x7d' :: s)) =
          readFrom ⟨.object (insertMember k v.ordered done) k :: stack, .key⟩
            (membersText ((k', v') :: rest) ++ '\x7d' :: s) :=
      readFrom_token rfl rfl
    simp only [membersText, List.append_assoc, List.cons_append]
    rw [readFrom_key he, hv _ _ (hlen _) (ends_cons (by simp) _)]
    change readFrom ⟨.object (insertMember k v.ordered done) k :: stack, .separator⟩ _ = _
    rw [hcomma, ih (.inl rfl) k' v' _ k (fun p hp => h p (List.mem_cons_of_mem _ hp))
      (h (k', v') (by simp))]
    rfl

lemma startValue_integer {i : Int} {cs : List Char} (hi : leastInteger ≤ i ∧ i ≤ greatestInteger)
    (hs : Ends s) (hc : integerText i = c :: cs) (hd : c = '-' ∨ c.isDigit = true) :
    startValue stack c (cs ++ s) = .ok (deliver (.int i) stack, s) := by
  have hq : c ≠ '"' := by
    rintro rfl
    rcases hd with h | h <;> cases h
  rw [startValue, if_neg hq, if_pos hd, ← List.cons_append, ← hc, scanNumber_integerText hi hs]
  rfl

lemma itemsText_cons (j : Json) (items : List Json) : ∃ t, itemsText (j :: items) = j.text ++ t := by
  cases items with
  | nil => exact ⟨[], by simp [itemsText]⟩
  | cons x items => exact ⟨_, by rw [itemsText]⟩

lemma Plain.scans (h : Plain n j) : Scans n j := by
  induction h with
  | null => exact fun _ _ _ _ => readFrom_token rfl rfl
  | bool b => cases b <;> exact fun _ _ _ _ => readFrom_token rfl rfl
  | @integer _ i hi =>
    intro stack s _ hs
    obtain ⟨c, cs, hc, hd⟩ := integerText_head i
    have hb : isBlank c = false := by
      rcases hd with rfl | hd
      · decide
      · exact (isBlank_of_isDigit hd).1
    rw [text, Number.text, hc]
    exact readFrom_token hb (startValue_integer hi hs hc hd)
  | string t =>
    intro stack s _ _
    have htext : (Json.string t).text ++ s = '"' :: (t.toList.flatMap escapeChar ++ '"' :: s) := by
      simp [text, stringText]
    rw [htext]
    refine readFrom_token rfl ?_
    change delivered stack .string (scanString [] _) = _
    rw [scanString_text]
    simp [delivered, ordered]
  | @array n items hp ih =>
    intro stack s hn _
    have hroom : stack.length < depthLimit := by omega
    have hopen : token ⟨stack, .value⟩ '[' (itemsText items ++ ']' :: s) =
        .ok (⟨.array [] :: stack, .firstItem⟩, itemsText items ++ ']' :: s) := by
      change (openContainer (.array []) .firstItem stack).map _ = _
      rw [openContainer, if_pos hroom]
      rfl
    have htext : (Json.array items).text ++ s = '[' :: (itemsText items ++ ']' :: s) := by
      simp [text]
    rw [htext, readFrom_token rfl hopen]
    cases items with
    | nil => exact readFrom_token rfl rfl
    | cons j items =>
      obtain ⟨c, cs, hc, hb, hne⟩ := (hp j List.mem_cons_self).text_head
      obtain ⟨t, ht⟩ := itemsText_cons j items
      have hhead : itemsText (j :: items) ++ ']' :: s = c :: (cs ++ t ++ ']' :: s) := by
        simp [ht, hc]
      rw [hhead, readFrom_firstItem hb hne, ← hhead, readFrom_items j [] ih (by omega)]
      simp [ordered]
  | @object n ms _ ih =>
    intro stack s hn _
    have hroom : stack.length < depthLimit := by omega
    have hopen : token ⟨stack, .value⟩ '\x7b' (membersText ms ++ '\x7d' :: s) =
        .ok (⟨.object [] "" :: stack, .firstKey⟩, membersText ms ++ '\x7d' :: s) := by
      change (openContainer (.object [] "") .firstKey stack).map _ = _
      rw [openContainer, if_pos hroom]
      rfl
    have htext : (Json.object ms).text ++ s = '\x7b' :: (membersText ms ++ '\x7d' :: s) := by
      simp [text]
    rw [htext, readFrom_token rfl hopen]
    cases ms with
    | nil => exact readFrom_token rfl rfl
    | cons p ms =>
      rw [readFrom_members (.inr rfl) p.1 p.2 [] "" ih (by omega)]
      simp [ordered, membersOf]

/-- A document without doubles is read back from its text. -/
theorem Plain.read_text (h : Plain depthLimit j) : read j.text = .ok j.ordered := by
  have hscan := h.scans [] [] (by simp) ends_nil
  rw [List.append_nil] at hscan
  rw [read, hscan, deliver, readFrom]

end MarketFeed.Json
