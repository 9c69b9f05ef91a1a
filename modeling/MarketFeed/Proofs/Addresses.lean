import MarketFeed.Proofs.Hosts
import MarketFeed.Proofs.Numerals
import MarketFeed.Proofs.Paths

/-!
Addresses come back from their texts: what was read from any text is read again from its own.
-/

namespace MarketFeed.Url

/-- An address whose parts come back from their texts. -/
structure IsSound (u : Url) : Prop where
  user : IsEncoded inUserInfo u.user
  password : IsEncoded inUserInfo u.password
  host : u.host.IsSound
  port : ∀ p, u.port = some p → p ≤ 65535 ∧ p ≠ u.scheme.defaultPort
  path : IsPath u.path
  query : ∀ q, u.query = some q → IsEncoded inQuery q
  fragment : ∀ f, u.fragment = some f → IsEncoded inFragment f

/-! ### Parts of a text -/

section Parts

variable {s : List Char}

/-- A text without blanks and controls counts as it is. -/
theorem clean_eq (h : ∀ c ∈ s, 0x20 < c.toNat) : clean s = s := by
  have hdrop {t : List Char} (ht : ∀ c ∈ t, 0x20 < c.toNat) :
      t.dropWhile (fun c => decide (c.toNat ≤ 0x20)) = t := by
    cases t with
    | nil => rfl
    | cons c t =>
      have hc := ht c List.mem_cons_self
      exact List.dropWhile_cons_of_neg (by simp only [decide_eq_true_eq]; omega)
  have hkept : s.filter (fun c => c ≠ '\t' ∧ c ≠ '\n' ∧ c ≠ '\r') = s :=
    List.filter_eq_self.mpr fun c hc => by
      have hlow := h c hc
      refine decide_eq_true ⟨?_, ?_, ?_⟩ <;> rintro rfl <;> exact absurd hlow (by decide)
  rw [clean]
  rw [hdrop h, hdrop fun c hc => h c (List.mem_reverse.mp hc), List.reverse_reverse, hkept]

lemma cutScheme_name (k : Scheme) (rest : List Char) :
    cutScheme (k.name.toList ++ ':' :: rest) = some (k.name.toList, rest) := by
  cases k <;> rfl

lemma webScheme?_name (k : Scheme) : webScheme? k.name.toList = some k := by
  cases k <;> decide

lemma cutMark_marked {mark : Char} (h : mark ∉ s) (part : Option (List Char)) :
    cutMark mark (s ++ markedText mark part) = (s, part) := by
  cases part with
  | none =>
    rw [markedText, List.append_nil]
    exact cutMark_of_not_mem h
  | some t => exact cutMark_append h t

/-- The user information in front of a server. -/
theorem cutUser_append {user : List Char} (h : '@' ∉ s) :
    cutUser (user ++ '@' :: s) = some (user, s) := by
  have hp := forall_ne fun hin => h (List.mem_reverse.mp hin)
  have hrev : (user ++ '@' :: s).reverse = s.reverse ++ '@' :: user.reverse := by simp
  rw [cutUser, hrev, List.dropWhile_append_of_pos hp, List.takeWhile_append_of_pos hp]
  simp

lemma cutUser_none (h : '@' ∉ s) : cutUser s = none := by
  rw [cutUser, List.dropWhile_eq_nil_iff.mpr (forall_ne fun hin => h (List.mem_reverse.mp hin))]

/-- A port comes back from its digits. -/
theorem readPort_digits {p : Nat} (h : p ≤ 65535) :
    readPort (':' :: Nat.toDigits 10 p) = .ok (some p) := by
  have hdigits : ∀ c ∈ Nat.toDigits 10 p, c.isDigit = true := fun _ => Digits.isDigit_of_mem
  have hvalue : (Nat.toDigits 10 p).foldl (fun n c => n * 10 + (c.toNat - 48)) 0 = p := by
    rw [Digits.foldl_eq, Nat.ofDigitChars_toDigits (by decide) (by decide)]
  rw [readPort]
  simp only [List.takeWhile_eq_self_iff.mpr hdigits, List.dropWhile_eq_nil_iff.mpr hdigits, hvalue]
  rw [if_neg (Nat.not_lt.mpr h), if_neg Nat.toDigits_ne_nil]

/-- A user and a password come back from their text. -/
theorem readUser_append {user password : List Char} (huser : IsEncoded inUserInfo user)
    (hpassword : IsEncoded inUserInfo password) :
    readUser (user ++ if password = [] then [] else ':' :: password) = (user, password) := by
  have hp := forall_ne fun hin : ':' ∈ user => absurd (huser ':' hin) (by decide)
  rw [readUser, List.takeWhile_append_of_pos hp, List.dropWhile_append_of_pos hp]
  split
  next hnil =>
    rw [hnil, List.takeWhile_nil, List.append_nil, huser.percentEncode_eq]
    rfl
  next => simp [huser.percentEncode_eq, hpassword.percentEncode_eq]

end Parts

/-! ### Characters -/

section Characters

variable {c : Char}

lemma of_isKept {encoded : Char → Bool} {p : Char → Prop} (h : isKept encoded c = true)
    (hall : ∀ m : Fin 128, isKept encoded (Char.ofNat m) = true → p (Char.ofNat m)) : p c :=
  forall_ascii (p := fun c => isKept encoded c = true → p c) hall
    (Nat.lt_succ_of_lt (toNat_lt_of_isKept h)) h

lemma isHostChar_of_inUserInfo (h : isKept inUserInfo c = true) : isHostChar c = true :=
  of_isKept (p := fun c => isHostChar c = true) h (by decide +kernel)

lemma plain_of_inPath (h : isKept inPath c = true) : 0x20 < c.toNat ∧ c ≠ '?' ∧ c ≠ '#' :=
  of_isKept (p := fun c => 0x20 < c.toNat ∧ c ≠ '?' ∧ c ≠ '#') h (by decide +kernel)

lemma plain_of_inQuery (h : isKept inQuery c = true) : 0x20 < c.toNat ∧ c ≠ '#' :=
  of_isKept (p := fun c => 0x20 < c.toNat ∧ c ≠ '#') h (by decide +kernel)

lemma visible_of_inFragment (h : isKept inFragment c = true) : 0x20 < c.toNat :=
  of_isKept (p := fun c => 0x20 < c.toNat) h (by decide +kernel)

lemma isHostChar_of_isDigit (h : c.isDigit = true) : isHostChar c = true := by
  have hall : ∀ c ∈ decimalDigits, isHostChar c = true := List.all_iff_forall_prop.mp (by decide)
  exact hall c (mem_decimalDigits h)

/-- A character of a host does not end the authority and is no sign of a user. -/
theorem plain_of_isHostChar (h : isHostChar c = true) :
    0x20 < c.toNat ∧ endsAuthority true c = false ∧ c ≠ '@' := by
  have hlow : c.toNat < 128 := by
    simp only [isHostChar, Bool.and_eq_true, decide_eq_true_eq] at h
    omega
  exact forall_ascii (p := fun c => isHostChar c = true →
    0x20 < c.toNat ∧ endsAuthority true c = false ∧ c ≠ '@') (by decide +kernel) hlow h

end Characters

/-! ### Texts of addresses -/

/-- The user information without its sign. -/
def credentials (u : Url) : List Char := u.user ++ if u.password = [] then [] else ':' :: u.password

/-- The host and the port. -/
def serverText (u : Url) : List Char := u.host.text ++ u.portText

/-- What follows the authority. -/
def afterText (u : Url) : List Char :=
  u.pathText ++ markedText '?' u.query ++ markedText '#' u.fragment

lemma text_eq (u : Url) : u.text =
    u.scheme.name.toList ++ ':' :: '/' :: '/' :: (u.userText ++ u.serverText ++ u.afterText) := by
  simp [text, serverText, afterText]

lemma mem_markedText {mark c : Char} {part : Option (List Char)} (h : c ∈ markedText mark part) :
    c = mark ∨ ∃ s, part = some s ∧ c ∈ s := by
  cases part with
  | none => cases h
  | some s => exact (List.mem_cons.mp h).imp_right fun hs => ⟨s, rfl, hs⟩

namespace IsSound

variable {u : Url} {c : Char}

lemma isHostChar_server (h : u.IsSound) (hc : c ∈ u.serverText) : isHostChar c = true := by
  rcases List.mem_append.mp hc with hc | hc
  · exact h.host.chars c hc
  · unfold portText at hc
    split at hc
    · rcases List.mem_cons.mp hc with rfl | hc
      · decide
      · exact isHostChar_of_isDigit (Digits.isDigit_of_mem hc)
    · cases hc

lemma isHostChar_user (h : u.IsSound) (hc : c ∈ u.userText) : isHostChar c = true ∨ c = '@' := by
  unfold userText at hc
  split at hc
  · cases hc
  · simp only [List.mem_append, List.mem_singleton] at hc
    rcases hc with (hc | hc) | hc
    · exact .inl (isHostChar_of_inUserInfo (h.user c hc))
    · split at hc
      · cases hc
      · rcases List.mem_cons.mp hc with rfl | hc
        · exact .inl (by decide)
        · exact .inl (isHostChar_of_inUserInfo (h.password c hc))
    · exact .inr hc

lemma plain_authority (h : u.IsSound) (hc : c ∈ u.userText ++ u.serverText) :
    0x20 < c.toNat ∧ endsAuthority true c = false := by
  have hhost (hc : isHostChar c = true) : 0x20 < c.toNat ∧ endsAuthority true c = false :=
    ⟨(plain_of_isHostChar hc).1, (plain_of_isHostChar hc).2.1⟩
  rcases List.mem_append.mp hc with hc | hc
  · rcases h.isHostChar_user hc with hc | rfl
    · exact hhost hc
    · decide
  · exact hhost (h.isHostChar_server hc)

lemma plain_path (h : u.IsSound) (hc : c ∈ u.pathText) : 0x20 < c.toNat ∧ c ≠ '?' ∧ c ≠ '#' := by
  obtain ⟨s, hs, hc⟩ := List.mem_flatMap.mp hc
  rcases List.mem_cons.mp hc with rfl | hc
  · decide
  · exact plain_of_inPath ((h.path.segments s hs).encoded c hc)

lemma plain_query (h : u.IsSound) (hc : c ∈ markedText '?' u.query) : 0x20 < c.toNat ∧ c ≠ '#' := by
  rcases mem_markedText hc with rfl | ⟨q, hq, hc⟩
  · decide
  · exact plain_of_inQuery (h.query q hq c hc)

lemma visible_fragment (h : u.IsSound) (hc : c ∈ markedText '#' u.fragment) : 0x20 < c.toNat := by
  rcases mem_markedText hc with rfl | ⟨f, hf, hc⟩
  · decide
  · exact visible_of_inFragment (h.fragment f hf c hc)

lemma visible_text (h : u.IsSound) (hc : c ∈ u.text) : 0x20 < c.toNat := by
  simp only [text_eq, afterText, List.mem_append, List.mem_cons] at hc
  rcases hc with hc | rfl | rfl | rfl | hc | (hc | hc) | hc
  · have hall (k : Scheme) : ∀ c ∈ k.name.toList, 0x20 < c.toNat :=
      List.all_iff_forall_prop.mp (by cases k <;> decide)
    exact hall u.scheme c hc
  · decide
  · decide
  · decide
  · exact (h.plain_authority (List.mem_append.mpr hc)).1
  · exact (h.plain_path hc).1
  · exact (h.plain_query hc).1
  · exact h.visible_fragment hc

lemma authority_ne_nil (h : u.IsSound) : u.userText ++ u.serverText ≠ [] := fun hnil =>
  h.host.ne_nil (List.append_eq_nil_iff.mp (List.append_eq_nil_iff.mp hnil).2).1

lemma exists_after (h : u.IsSound) : ∃ rest, u.afterText = '/' :: rest := by
  obtain ⟨s, path, hpath⟩ := List.exists_cons_of_ne_nil h.path.ne_nil
  rw [afterText, pathText, hpath, List.flatMap_cons]
  exact ⟨_, rfl⟩

lemma not_endsAuthority (h : u.IsSound) :
    ∀ c ∈ u.userText ++ u.serverText, (!endsAuthority true c) = true := fun c hc => by
  rw [(h.plain_authority hc).2]
  rfl

lemma takeWhile_authority (h : u.IsSound) :
    (u.userText ++ u.serverText ++ u.afterText).takeWhile (fun c => !endsAuthority true c) =
      u.userText ++ u.serverText := by
  obtain ⟨rest, hrest⟩ := h.exists_after
  rw [List.takeWhile_append_of_pos h.not_endsAuthority, hrest, List.takeWhile_cons_of_neg (by decide),
    List.append_nil]

lemma dropWhile_authority (h : u.IsSound) :
    (u.userText ++ u.serverText ++ u.afterText).dropWhile (fun c => !endsAuthority true c) =
      u.afterText := by
  obtain ⟨rest, hrest⟩ := h.exists_after
  rw [List.dropWhile_append_of_pos h.not_endsAuthority, hrest, List.dropWhile_cons_of_neg (by decide)]

/-- The user information and the server are found again. -/
theorem cutUser_authority (h : u.IsSound) :
    cutUser (u.userText ++ u.serverText) = some (u.credentials, u.serverText) ∨
      u.userText = [] ∧ u.credentials = [] ∧ cutUser u.serverText = none := by
  have hat : '@' ∉ u.serverText := fun hin => (plain_of_isHostChar (h.isHostChar_server hin)).2.2 rfl
  by_cases hnone : u.user = [] ∧ u.password = []
  · refine .inr ⟨if_pos hnone, ?_, cutUser_none hat⟩
    rw [credentials, hnone.1, hnone.2, if_pos rfl, List.nil_append]
  · have huser : u.userText = u.credentials ++ ['@'] := if_neg hnone
    refine .inl ?_
    rw [huser, List.append_assoc, List.singleton_append, cutUser_append hat]

lemma readUser_credentials (h : u.IsSound) : readUser u.credentials = (u.user, u.password) :=
  readUser_append h.user h.password

lemma cutHost_server (h : u.IsSound) : cutHost false u.serverText = (u.host.text, u.portText) := by
  refine h.host.cut u.portText fun c hc => ?_
  unfold portText at hc
  split at hc
  · exact (Option.some.inj hc).symm
  · cases hc

lemma readPort_portText (h : u.IsSound) : readPort u.portText = .ok u.port := by
  unfold portText
  cases hport : u.port with
  | none => rfl
  | some p => exact readPort_digits (h.port p hport).1

lemma cutMark_after (h : u.IsSound) :
    cutMark '#' u.afterText = (u.pathText ++ markedText '?' u.query, u.fragment) := by
  refine cutMark_marked (fun hin => ?_) u.fragment
  rcases List.mem_append.mp hin with hin | hin
  · exact (h.plain_path hin).2.2 rfl
  · exact (h.plain_query hin).2 rfl

lemma cutMark_path (h : u.IsSound) :
    cutMark '?' (u.pathText ++ markedText '?' u.query) = (u.pathText, u.query) :=
  cutMark_marked (fun hin => (h.plain_path hin).2.1 rfl) u.query

lemma readPath_pathText (h : u.IsSound) : readPath u.pathText = u.path := readPath_text h.path

lemma map_percentEncode {encoded : Char → Bool} {part : Option (List Char)}
    (h : ∀ s, part = some s → IsEncoded encoded s) : part.map (percentEncode encoded) = part := by
  cases part with
  | none => rfl
  | some s => exact congrArg some (h s rfl).percentEncode_eq

theorem readWeb_text (h : u.IsSound) :
    readWeb u.scheme (u.userText ++ u.serverText ++ u.afterText) = .ok u := by
  have hport : (if u.port = some u.scheme.defaultPort then none else u.port) = u.port :=
    if_neg fun hdefault => (h.port _ hdefault).2 rfl
  unfold readWeb
  simp only [h.takeWhile_authority, h.dropWhile_authority, h.cutMark_after, h.cutMark_path,
    h.readPath_pathText, map_percentEncode h.query, map_percentEncode h.fragment]
  rcases h.cutUser_authority with hcut | ⟨huser, hnil, hcut⟩
  · simp only [hcut, h.cutHost_server, if_neg h.host.ne_nil, h.host.read, h.readPort_portText,
      h.readUser_credentials, Except.bind, bind, pure, Except.pure, hport]
  · have hnone : readUser [] = (u.user, u.password) := hnil ▸ h.readUser_credentials
    simp only [huser, List.nil_append, hcut, h.cutHost_server, if_neg h.host.ne_nil, h.host.read,
      h.readPort_portText, hnone, Except.bind, bind, pure, Except.pure, hport]

/-- An address comes back from its text. -/
theorem read_text (h : u.IsSound) : read u.text = .ok (.web u) := by
  have hslashes : ('/' :: '/' :: (u.userText ++ u.serverText ++ u.afterText)).dropWhile
      (fun c => c = '/' || c = '\\') = u.userText ++ u.serverText ++ u.afterText := by
    rw [List.dropWhile_cons_of_pos (by decide), List.dropWhile_cons_of_pos (by decide)]
    obtain ⟨c, rest, hrest⟩ := List.exists_cons_of_ne_nil h.authority_ne_nil
    have hc : endsAuthority true c = false := (h.plain_authority (hrest ▸ List.mem_cons_self)).2
    rw [hrest, List.cons_append]
    refine List.dropWhile_cons_of_neg fun hslash => ?_
    rw [Bool.or_eq_true, decide_eq_true_eq, decide_eq_true_eq] at hslash
    rcases hslash with rfl | rfl <;> cases hc
  rw [read, clean_eq fun c => h.visible_text, text_eq, cutScheme_name]
  simp only [webScheme?_name, hslashes, h.readWeb_text]
  rfl

end IsSound

/-! ### What was read -/

lemma le_of_readPort {s : List Char} {p : Nat} (h : readPort s = .ok (some p)) : p ≤ 65535 := by
  unfold readPort at h
  split at h
  · dsimp only at h
    split at h
    · cases h
    next hle =>
      split at h
      case h_3 => cases h
      all_goals
        split at h
        · cases h
        · cases h
          exact Nat.not_lt.mp hle
  · cases h

lemma isEncoded_of_map {encoded : Char → Bool} (hcode : ∀ c ∈ codeChars, isKept encoded c = true)
    {part : Option (List Char)} {s : List Char} (h : part.map (percentEncode encoded) = some s) :
    IsEncoded encoded s := by
  obtain ⟨t, -, rfl⟩ := Option.map_eq_some_iff.mp h
  exact isEncoded_percentEncode hcode t

lemma isEncoded_readUser (s : List Char) :
    IsEncoded inUserInfo (readUser s).1 ∧ IsEncoded inUserInfo (readUser s).2 :=
  ⟨isEncoded_percentEncode inUserInfo_codeChars _, isEncoded_percentEncode inUserInfo_codeChars _⟩

theorem IsSound.of_readWeb {k : Scheme} {s : List Char} {u : Url} (h : readWeb k s = .ok u) :
    u.IsSound := by
  unfold readWeb at h
  dsimp only at h
  generalize cutHost false _ = server at h
  generalize huser : readUser _ = user at h
  split at h
  · cases h
  · generalize hhost : readHost _ = host at h
    cases host with
    | error fault => cases h
    | ok host =>
      generalize hport : readPort _ = port at h
      cases port with
      | error fault => cases h
      | ok port =>
        cases h
        exact {
          user := huser ▸ (isEncoded_readUser _).1
          password := huser ▸ (isEncoded_readUser _).2
          host := Host.isSound_of_read hhost
          port := fun p hp => by
            dsimp only at hp ⊢
            split at hp
            · cases hp
            next hne =>
              rw [hp] at hport hne
              exact ⟨le_of_readPort hport, fun heq => hne (congrArg some heq)⟩
          path := isPath_readPath _
          query := fun q hq => isEncoded_of_map inQuery_codeChars hq
          fragment := fun f hf => isEncoded_of_map inFragment_codeChars hf }

lemma exists_of_map {α β : Type} {f : α → β} {x : Except Fault α} {b : β} (h : x.map f = .ok b) :
    ∃ a, x = .ok a ∧ f a = b := by
  cases x with
  | error fault => cases h
  | ok a => exact ⟨a, rfl, Except.ok.inj h⟩

/-- An address that was read is sound. -/
theorem IsSound.of_read {s : List Char} {u : Url} (h : read s = .ok (.web u)) : u.IsSound := by
  unfold read at h
  split at h
  · cases h
  · dsimp only at h
    split at h
    · obtain ⟨v, hv, hweb⟩ := exists_of_map h
      cases hweb
      exact .of_readWeb hv
    · obtain ⟨-, -, hforeign⟩ := exists_of_map h
      cases hforeign

end MarketFeed.Url
