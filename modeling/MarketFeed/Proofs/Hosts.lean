import MarketFeed.Proofs.Domains
import MarketFeed.Proofs.NumericHosts
import MarketFeed.Url.Reader

/-!
Hosts come back from their texts, whatever kind they are of, and their texts have no characters that mean
something else in an address.
-/

namespace MarketFeed.Url

/-- The characters that a host is written with. -/
def isHostChar (c : Char) : Bool := 0x20 < c.toNat && c.toNat < 0x7F && !"/?#\\@".toList.contains c

/-- A host that comes back from its text. -/
structure Host.IsSound (h : Host) : Prop where
  read : readHost h.text = .ok h
  ne_nil : h.text ≠ []
  chars : ∀ c ∈ h.text, isHostChar c = true
  /-- What comes after it is nothing or a port. -/
  cut : ∀ port : List Char, (∀ c ∈ port.head?, c = ':') →
    cutHost false (h.text ++ port) = (h.text, port)

lemma cutHost_port {port : List Char} (h : ∀ c ∈ port.head?, c = ':') :
    cutHost false port = ([], port) := by
  cases port with
  | nil => rfl
  | cons c port =>
    rw [h c rfl, cutHost, if_pos ⟨rfl, Bool.false_ne_true⟩]

lemma cutHost_plain {s port : List Char} (h : ∀ c ∈ s, c ≠ ':' ∧ c ≠ '[' ∧ c ≠ ']')
    (hport : ∀ c ∈ port.head?, c = ':') : cutHost false (s ++ port) = (s, port) := by
  induction s with
  | nil => exact cutHost_port hport
  | cons c s ih =>
    obtain ⟨⟨hcolon, hopen, hclose⟩, hs⟩ := List.forall_mem_cons.mp h
    rw [List.cons_append, cutHost, if_neg fun hc => hcolon hc.1, if_neg hopen, if_neg hclose, ih hs]

/-- In brackets colons belong to the host. -/
theorem cutHost_inside {s port : List Char} (h : ∀ c ∈ s, c ≠ '[' ∧ c ≠ ']')
    (hport : ∀ c ∈ port.head?, c = ':') :
    cutHost true (s ++ ']' :: port) = (s ++ [']'], port) := by
  induction s with
  | nil =>
    rw [List.nil_append, cutHost, if_neg fun hc => hc.2 rfl, if_neg (by decide), if_pos rfl,
      cutHost_port hport]
    rfl
  | cons c s ih =>
    obtain ⟨⟨hopen, hclose⟩, hs⟩ := List.forall_mem_cons.mp h
    rw [List.cons_append, cutHost, if_neg fun hc => hc.2 rfl, if_neg hopen, if_neg hclose, ih hs]
    rfl

/-- Reading a host that is not in brackets. -/
theorem readHost_eq {s : List Char} (h : '[' ∉ s) : readHost s =
    match asciiDomain? (percentDecode s) with
    | none => .error .badDomain
    | some [] => .error .emptyHost
    | some domain =>
      if endsInNumber domain then
        match address4? domain with
        | some n => .ok (.address4 n)
        | none => .error .badAddress4
      else .ok (.domain domain) := by
  unfold readHost
  split
  next => exact absurd List.mem_cons_self h
  next => rfl

theorem Host.isSound_address6 {gs : List Nat} (hlength : gs.length = 8) (h : ∀ g ∈ gs, g < 65536) :
    (Host.address6 gs).IsSound := by
  have hchars (c : Char) (hc : c ∈ address6Text gs) : c ∈ ":0123456789abcdef".toList := by
    rcases address6Text_cases gs with htext | ⟨before, after, n, -, -, htext⟩ <;> rw [htext] at hc
    · exact mem_groupsText hc
    · rcases List.mem_append.mp hc with hc | hc
      · exact mem_groupsText hc
      · rcases List.mem_cons.mp hc with rfl | hc
        · decide
        · rcases List.mem_cons.mp hc with rfl | hc
          · decide
          · exact mem_groupsText hc
  refine ⟨?_, ?_, fun c hc => ?_, fun port hport => ?_⟩
  · rw [text, List.cons_append, readHost, if_pos List.getLast?_concat, List.dropLast_concat,
      address6?_address6Text hlength h]
  · rw [text]
    exact List.cons_ne_nil _ _
  · have hall : ∀ c ∈ '[' :: ']' :: ":0123456789abcdef".toList, isHostChar c = true :=
      List.all_iff_forall_prop.mp (by decide)
    rw [text, List.cons_append] at hc
    refine hall c ?_
    rcases List.mem_cons.mp hc with rfl | hc
    · decide
    · rcases List.mem_append.mp hc with hc | hc
      · exact List.mem_cons_of_mem _ (List.mem_cons_of_mem _ (hchars c hc))
      · rw [List.mem_singleton.mp hc]
        decide
  · have hinner : ∀ c ∈ address6Text gs, c ≠ '[' ∧ c ≠ ']' := fun c hc => by
      have hall : ∀ c ∈ ":0123456789abcdef".toList, c ≠ '[' ∧ c ≠ ']' :=
        List.all_iff_forall_prop.mp (by decide)
      exact hall c (hchars c hc)
    rw [text, List.cons_append, List.cons_append, List.append_assoc, cutHost,
      if_neg fun hc => absurd hc.1 (by decide), if_pos rfl, List.singleton_append,
      cutHost_inside hinner hport]

theorem Host.isSound_address4 {n : Nat} (h : n < 256 ^ 4) : (Host.address4 n).IsSound := by
  have hchars (c : Char) (hc : c ∈ address4Text n) : c ∈ '.' :: decimalDigits := by
    rcases mem_address4Text hc with rfl | hdigit
    · exact List.mem_cons_self
    · exact List.mem_cons_of_mem _ (mem_decimalDigits hdigit)
  have hends := endsInNumber_address4Text n
  have hne : address4Text n ≠ [] := fun hnil => by
    rw [hnil] at hends
    cases hends
  obtain ⟨c, s, hcs⟩ := List.exists_cons_of_ne_nil hne
  have hbracket : '[' ∉ address4Text n := fun hin => absurd (hchars _ hin) (by decide)
  refine ⟨?_, hne, fun c hc => ?_, fun port hport => cutHost_plain (fun c hc => ?_) hport⟩
  · rw [text, readHost_eq hbracket, asciiDomain?_numeric hchars, hcs]
    dsimp only
    rw [← hcs, if_pos hends, address4?_address4Text h]
  · have hall : ∀ c ∈ '.' :: decimalDigits, isHostChar c = true :=
      List.all_iff_forall_prop.mp (by decide)
    exact hall c (hchars c hc)
  · have hall : ∀ c ∈ '.' :: decimalDigits, c ≠ ':' ∧ c ≠ '[' ∧ c ≠ ']' :=
      List.all_iff_forall_prop.mp (by decide)
    exact hall c (hchars c hc)

lemma isHostChar_of_allowed {c : Char} (hbasic : Punycode.isBasic c = true)
    (hallowed : isForbidden c = false) :
    isHostChar c = true ∧ c ≠ ':' ∧ c ≠ '[' ∧ c ≠ ']' :=
  forall_ascii (p := fun c => isForbidden c = false → isHostChar c = true ∧ c ≠ ':' ∧ c ≠ '[' ∧ c ≠ ']')
    (by decide) (of_decide_eq_true hbasic) hallowed

theorem Host.isSound_domain {bytes : List UInt8} {d : List Char} (h : asciiDomain? bytes = some d)
    (hne : d ≠ []) (hends : endsInNumber d = false) : (Host.domain d).IsSound := by
  have hchars (c : Char) (hc : c ∈ d) : isHostChar c = true ∧ c ≠ ':' ∧ c ≠ '[' ∧ c ≠ ']' :=
    isHostChar_of_allowed (isBasic_of_asciiDomain? h c hc).1 (isBasic_of_asciiDomain? h c hc).2
  have hbracket : '[' ∉ d := fun hin => (hchars _ hin).2.2.1 rfl
  obtain ⟨c, s, rfl⟩ := List.exists_cons_of_ne_nil hne
  refine ⟨?_, hne, fun x hx => (hchars x hx).1, fun port hport => cutHost_plain (fun x hx => ?_) hport⟩
  · rw [text, readHost_eq hbracket, asciiDomain?_self h]
    dsimp only
    rw [hends, if_neg Bool.false_ne_true]
  · exact (hchars x hx).2

/-- A host that was read comes back from its text. -/
theorem Host.isSound_of_read {s : List Char} {h : Host} (hr : readHost s = .ok h) : h.IsSound := by
  unfold readHost at hr
  split at hr
  · split at hr
    · split at hr
      next gs hgs =>
        cases hr
        exact isSound_address6 (address6?_bounds hgs).1 (address6?_bounds hgs).2
      next => cases hr
    · cases hr
  · split at hr
    · cases hr
    · cases hr
    next d hne hd =>
      split at hr
      · split at hr
        next n hn =>
          cases hr
          exact isSound_address4 (address4?_lt hn)
        next => cases hr
      next hends =>
        cases hr
        exact isSound_domain hd hne (Bool.eq_false_iff.mpr hends)

end MarketFeed.Url
