import MarketFeed.Proofs.DocumentText
import MarketFeed.Proofs.Decimals
import MarketFeed.Proofs.Moments
import MarketFeed.Schema.Choice
import MarketFeed.Envelope.Written

/-!
Values and their documents. A codec reads back what it writes, once the members of objects are in the
order of their keys. What holds of the fields holds of a record, however it is read: the reader looks
fields up by name, so other members beside them do no harm.
-/

namespace MarketFeed

open Schema

namespace Json

variable {ms pairs : Members} {key : String} {v : Json}

lemma orderedItems_eq (js : List Json) : orderedItems js = js.map ordered := by
  induction js with
  | nil => rfl
  | cons j js ih => rw [orderedItems, ih, List.map_cons]

theorem orderedMembers_eq (ms : Members) : orderedMembers ms = ms.map fun p => (p.1, p.2.ordered) := by
  induction ms with
  | nil => rfl
  | cons p ms ih =>
    obtain ⟨k, v⟩ := p
    rw [orderedMembers, ih, List.map_cons]

theorem member?_eq_none_iff : member? key ms = none ↔ key ∉ ms.map (·.1) := by
  induction ms with
  | nil => simp
  | cons p ms ih =>
    rw [member?_cons, List.map_cons, List.mem_cons, not_or, ← ih]
    by_cases hp : p.1 = key
    · simp [hp]
    · simp [hp, Ne.symm hp]

theorem member?_of_mem (hn : (ms.map (·.1)).Nodup) (h : (key, v) ∈ ms) : member? key ms = some v := by
  induction ms with
  | nil => cases h
  | cons p ms ih =>
    rw [List.map_cons, List.nodup_cons] at hn
    rcases List.mem_cons.mp h with rfl | h
    · exact if_pos rfl
    · have hne : p.1 ≠ key := fun he => hn.1 (List.mem_map.mpr ⟨_, h, he.symm⟩)
      rw [member?_cons, if_neg hne, ih hn.2 h]

/-- The members of an object are these pairs, in another order maybe. -/
structure Lists (ms pairs : Members) : Prop where
  mem : ∀ p ∈ ms, p ∈ pairs
  same : ∀ key, member? key ms = member? key pairs
  single : (pairs.map (·.1)).Nodup

lemma mem_insertMember {p : String × Json} (h : p ∈ insertMember key v ms) :
    p = (key, v) ∨ p ∈ ms := by
  induction ms with
  | nil => simpa [insertMember] using h
  | cons q ms ih =>
    obtain ⟨k, w⟩ := q
    unfold insertMember at h
    split at h
    · simpa using h
    · split at h
      · rcases List.mem_cons.mp h with hp | hp
        · exact .inl hp
        · exact .inr (List.mem_cons_of_mem _ hp)
      · rcases List.mem_cons.mp h with hp | hp
        · exact .inr (List.mem_cons.mpr (.inl hp))
        · exact (ih hp).imp_right (List.mem_cons_of_mem _)

lemma mem_inserted {p : String × Json}
    (h : p ∈ pairs.foldl (fun ms p => insertMember p.1 p.2 ms) ms) : p ∈ pairs ∨ p ∈ ms := by
  induction pairs generalizing ms with
  | nil => exact .inr h
  | cons q pairs ih =>
    rcases ih h with hp | hp
    · exact .inl (List.mem_cons_of_mem q hp)
    · rcases mem_insertMember hp with rfl | hp
      · exact .inl List.mem_cons_self
      · exact .inr hp

/-- What a key has after some pairs were inserted. -/
theorem member?_inserted (hn : (pairs.map (·.1)).Nodup) (ms : Members) (key : String) :
    member? key (pairs.foldl (fun ms p => insertMember p.1 p.2 ms) ms) =
      (member? key pairs).or (member? key ms) := by
  induction pairs generalizing ms with
  | nil => rfl
  | cons q pairs ih =>
    rw [List.map_cons, List.nodup_cons] at hn
    rw [List.foldl_cons, ih hn.2, member?_insertMember, member?_cons]
    by_cases hq : q.1 = key
    · rw [if_pos hq, if_pos hq, member?_eq_none_iff.mpr (hq ▸ hn.1)]
      rfl
    · rw [if_neg hq, if_neg hq]

theorem lists_membersOf (h : (pairs.map (·.1)).Nodup) : Lists (membersOf pairs) pairs where
  mem _ hp := (mem_inserted hp).resolve_right fun hn => nomatch hn
  same key := (member?_inserted h [] key).trans (Option.or_none ..)
  single := h

theorem Lists.filter (h : Lists ms pairs) (keep : String → Bool) :
    Lists (ms.filter fun p => keep p.1) (pairs.filter fun p => keep p.1) := by
  refine ⟨fun p hp => ?_, fun key => ?_, ?_⟩
  · obtain ⟨hp, hk⟩ := List.mem_filter.mp hp
    exact List.mem_filter.mpr ⟨h.mem p hp, hk⟩
  · rw [member?_filter, member?_filter, h.same]
  · exact h.single.sublist (List.Sublist.map _ List.filter_sublist)

theorem Lists.erase (h : Lists ms pairs) (key : String) :
    Lists (eraseMember key ms) (eraseMember key pairs) := by
  have hf := h.filter fun k => k ≠ key
  simpa [eraseMember] using hf

/-- What stands in an object is the value of its key. -/
theorem Lists.member? (h : Lists ms pairs) {p : String × Json} (hp : p ∈ ms) :
    Json.member? p.1 pairs = some p.2 := member?_of_mem h.single (h.mem p hp)

end Json

namespace Schema

variable {α β ρ : Type} {n : Nat}

/-- A value is read back from its document, which has at most so many containers inside one another. -/
structure Codec.RoundTrip (c : Codec α) (n : Nat) (a : α) : Prop where
  plain : (c.write a).Plain n
  reads : ∀ st, c.read st (c.write a).ordered = .ok a

/-- What was found of a field is what was written, or nothing where nothing was written. -/
def Slot.Seen (s : Slot ρ) (r : ρ) (found : Option Json) : Prop :=
  found = some (s.write r).ordered ∨ s.presence ≠ .required ∧ s.write r = .null ∧ found = none

/-- The fields of a record are read back. -/
structure Fields.RoundTrip (f : Fields ρ α) (n : Nat) (r : ρ) : Prop where
  plain : ∀ s ∈ f.slots, (s.write r).Plain n
  checks : ∀ s ∈ f.slots, ∀ st, s.check st (s.write r).ordered = none
  builds : ∀ st look, (∀ s ∈ f.slots, s.Seen r (look s.name)) → f.build st look = .ok (f.view r)

namespace Fields.RoundTrip

variable {r : ρ} {ms pairs : Json.Members}

theorem pure (a : α) : (Pure.pure a : Fields ρ α).RoundTrip n r :=
  ⟨fun _ hs => (nomatch hs), fun _ hs => (nomatch hs), fun _ _ _ => rfl⟩

theorem seq {f : Fields ρ (α → β)} {x : Fields ρ α} (hf : f.RoundTrip n r) (hx : x.RoundTrip n r) :
    (f <*> x).RoundTrip n r := by
  refine ⟨fun s hs => ?_, fun s hs => ?_, fun st look hl => ?_⟩
  · rw [slots_seq] at hs
    exact (List.mem_append.mp hs).elim (hf.plain s) (hx.plain s)
  · rw [slots_seq] at hs
    exact (List.mem_append.mp hs).elim (hf.checks s) (hx.checks s)
  · rw [slots_seq] at hl
    rw [build_seq, hf.builds st look fun s hs => hl s (List.mem_append_left _ hs),
      hx.builds st look fun s hs => hl s (List.mem_append_right _ hs)]
    rfl

theorem map {x : Fields ρ α} (hx : x.RoundTrip n r) (g : α → β) : (g <$> x).RoundTrip n r := by
  refine ⟨hx.plain, hx.checks, fun st look hl => ?_⟩
  rw [build_map, hx.builds st look hl]
  rfl

theorem required {c : Codec α} {get : ρ → α} (name : String) (h : c.RoundTrip n (get r)) :
    (Fields.required name c get).RoundTrip n r := by
  refine ⟨fun s hs => ?_, fun s hs st => ?_, fun st look hl => ?_⟩
  · obtain rfl := List.mem_singleton.mp hs
    exact h.plain
  · obtain rfl := List.mem_singleton.mp hs
    exact congrArg faultOf (h.reads st)
  · have hseen := hl _ (List.mem_singleton_self _)
    have hname : look name = some (c.write (get r)).ordered :=
      hseen.resolve_right fun hn => hn.1 rfl
    dsimp only [Fields.required]
    rw [hname]
    exact h.reads st

/-- A field that may be null is read back from null, and also where it is missing. -/
theorem maybe {c : Codec α} {get : ρ → Option α} (p : Presence) (name : String)
    (h : c.option.RoundTrip n (get r)) : (Fields.maybe p name c get).RoundTrip n r := by
  refine ⟨fun s hs => ?_, fun s hs st => ?_, fun st look hl => ?_⟩
  · obtain rfl := List.mem_singleton.mp hs
    exact h.plain
  · obtain rfl := List.mem_singleton.mp hs
    exact congrArg faultOf (h.reads st)
  · dsimp only [Fields.maybe]
    rcases hl _ (List.mem_singleton_self _) with hname | ⟨-, hnull, hname⟩
    · change look name = some (c.option.write (get r)).ordered at hname
      rw [hname]
      exact h.reads st
    · change look name = none at hname
      change c.option.write (get r) = .null at hnull
      have hr := h.reads st
      rw [hnull] at hr
      rw [hname]
      exact hr

/-- A record is read off members among which its own are. -/
theorem readMembers {f : Fields ρ α} (h : f.RoundTrip n r) (hl : Json.Lists ms pairs)
    (hs : ∀ s ∈ f.slots, s.Seen r (Json.member? s.name pairs)) (st : Stage) :
    f.readMembers st ms = .ok (f.view r) := by
  have hfault : f.faultInMembers st ms = none := by
    refine List.findSome?_eq_none_iff.mpr fun p hp => ?_
    cases hf : f.slot? p.1 with
    | none => rfl
    | some s =>
      have hm : s ∈ f.slots := List.mem_of_find?_eq_some hf
      have hn : s.name = p.1 := by simpa using List.find?_some hf
      have hseen := hs s hm
      rw [hn, hl.member? hp] at hseen
      rcases hseen with hv | ⟨-, -, hv⟩
      · rw [Option.bind_some, Option.some.inj hv]
        exact h.checks s hm st
      · cases hv
  rw [Fields.readMembers, hfault]
  refine h.builds st _ fun s hm => ?_
  rw [hl.same]
  exact hs s hm

/-- Each field has its item. -/
theorem faultInItems (st : Stage) (size : Size) (slots : List (Slot ρ)) (i : Nat)
    (hc : ∀ s ∈ slots, ∀ st, s.check st (s.write r).ordered = none) :
    Fields.faultInItems st size slots (slots.map fun s => (s.write r).ordered) i = none := by
  induction slots generalizing i with
  | nil => rfl
  | cons s slots ih =>
    rw [List.map_cons, Fields.faultInItems, hc s List.mem_cons_self st]
    exact ih (i + 1) fun s' hs => hc s' (List.mem_cons_of_mem s hs)

theorem members_ordered (f : Fields ρ α) (r : ρ) : Json.orderedMembers (f.members r) =
    f.slots.map fun s => (s.name, (s.write r).ordered) := by
  simp [Json.orderedMembers_eq, members, Function.comp_def]

theorem members_plain {f : Fields ρ α} (h : f.RoundTrip n r) : ∀ p ∈ f.members r, p.2.Plain n := by
  intro p hp
  obtain ⟨s, hs, rfl⟩ := List.mem_map.mp hp
  exact h.plain s hs

/-- All fields are seen among the members that a record is written as, and others. -/
theorem seen {f : Fields ρ α} (hn : (pairs.map (·.1)).Nodup)
    (hp : ∀ p ∈ Json.orderedMembers (f.members r), p ∈ pairs) :
    ∀ s ∈ f.slots, s.Seen r (Json.member? s.name pairs) := by
  intro s hs
  rw [members_ordered] at hp
  exact .inl (Json.member?_of_mem hn (hp _ (List.mem_map_of_mem hs)))

theorem readItems {f : Fields ρ α} (h : f.RoundTrip n r) (hn : (f.slots.map (·.name)).Nodup)
    (st : Stage) (size : Size) :
    f.readItems st size (f.slots.map fun s => (s.write r).ordered) = .ok (f.view r) := by
  have hpairs : (f.slots.map (·.name)).zip (f.slots.map fun s => (s.write r).ordered) =
      Json.orderedMembers (f.members r) := by
    rw [members_ordered, List.zip_map']
  have hkeys : ((Json.orderedMembers (f.members r)).map (·.1)).Nodup := by
    simpa [members_ordered, Function.comp_def] using hn
  rw [Fields.readItems, faultInItems st size f.slots 0 h.checks]
  dsimp only
  rw [if_neg (by simp), hpairs]
  exact h.builds st _ (seen hkeys fun p hp => hp)

end Fields.RoundTrip

namespace Fields

variable {st : Stage} {look : String → Option Json}

/-- What was built of two parts was built of both. -/
theorem build_seq_ok {f : Fields ρ (α → β)} {x : Fields ρ α} {b : β} :
    (f <*> x).build st look = .ok b ↔
      ∃ g a, f.build st look = .ok g ∧ x.build st look = .ok a ∧ b = g a := by
  rw [build_seq]
  cases f.build st look with
  | error e => simp
  | ok g => cases x.build st look <;> simp [Except.map, eq_comm]

theorem build_map_ok {x : Fields ρ α} {g : α → β} {b : β} :
    (g <$> x).build st look = .ok b ↔ ∃ a, x.build st look = .ok a ∧ b = g a := by
  rw [build_map]
  cases x.build st look <;> simp [Except.map, eq_comm]

theorem build_required_ok {c : Codec α} {name : String} {get : ρ → α} {a : α} :
    (required name c get).build st look = .ok a ↔ ∃ j, look name = some j ∧ c.read st j = .ok a := by
  dsimp only [required]
  cases look name <;> simp

end Fields

/-- A record codec, all of whose fields are read back, each by its own name. -/
inductive Codec.ByFields : Codec ρ → Nat → ρ → Prop
  | intro {n : Nat} {r : ρ} (name : String) {f : Fields ρ ρ} (trip : f.RoundTrip n r)
    (names : (f.slots.map (·.name)).Nodup) (view : f.view r = r) : ByFields (Codec.record name f) n r

/-- A codec that reads like another one and writes in its own way. -/
def Codec.writing (c : Codec α) (write : α → Json) : Codec α := ⟨c.read, write⟩

/-- A codec that writes records as rows. -/
def Codec.rows (c : Codec α) : Codec α := c.writing fun a => (c.write a).row

/-- Two declarations of fields that read alike. -/
structure Fields.Alike (f g : Fields ρ α) : Prop where
  slots : f.slots.map (fun s => (s.name, s.check)) = g.slots.map fun s => (s.name, s.check)
  build : f.build = g.build

theorem Fields.Alike.readMembers {f g : Fields ρ α} (h : f.Alike g) : f.readMembers = g.readMembers := by
  have hfault : ∀ (f : Fields ρ α) (st : Stage) (ms : Json.Members), f.faultInMembers st ms =
      ms.findSome? fun p => ((f.slots.map fun s => (s.name, s.check)).find? (·.1 = p.1)).bind
        fun x => x.2 st p.2 := by
    intro f st ms
    simp only [faultInMembers, slot?, List.find?_map, Option.bind_map]
    rfl
  funext st ms
  simp only [Fields.readMembers, hfault, h.slots, h.build]

/-- Records whose fields read alike are read alike off objects. -/
theorem Codec.read_alike {f g : Fields ρ ρ} {name name' : String} (h : f.Alike g) {st : Stage}
    (ms : Json.Members) :
    (Codec.record name f).read st (.object ms) = (Codec.record name' g).read st (.object ms) := by
  change f.readMembers st ms = g.readMembers st ms
  rw [h.readMembers]

namespace Codec.ByFields

variable {c : Codec ρ} {r : ρ}

theorem roundTrip (h : c.ByFields n r) : c.RoundTrip (n + 1) r := by
  obtain ⟨name, trip, names, view⟩ := h
  rename_i f
  refine ⟨.object trip.members_plain, fun st => ?_⟩
  have hkeys : ((Json.orderedMembers (f.members r)).map (·.1)).Nodup := by
    simpa [Fields.RoundTrip.members_ordered, Function.comp_def] using names
  change f.readMembers st _ = _
  rw [trip.readMembers (Json.lists_membersOf hkeys) (Fields.RoundTrip.seen hkeys fun p hp => hp), view]

theorem row (h : c.ByFields n r) : c.rows.RoundTrip (n + 1) r := by
  obtain ⟨name, trip, names, view⟩ := h
  rename_i f
  refine ⟨.array fun j hj => ?_, fun st => ?_⟩
  · obtain ⟨p, hp, rfl⟩ := List.mem_map.mp hj
    exact trip.members_plain p hp
  · have hrow : ((Codec.record name f).rows.write r).ordered =
        .array (f.slots.map fun s => (s.write r).ordered) := by
      change Json.array (Json.orderedItems ((f.members r).map (·.2))) = _
      simp [Json.orderedItems_eq, Fields.members, Function.comp_def]
    rw [hrow]
    change f.readItems st _ _ = _
    rw [trip.readItems names, view]

end Codec.ByFields

namespace Codec.RoundTrip

variable {c : Codec α} {a : α}

theorem imap {f : α → β} {g : β → α} {b : β} (h : c.RoundTrip n (g b)) (hf : f (g b) = b) :
    (c.imap f g).RoundTrip n b where
  plain := h.plain
  reads st := by
    change (c.read st (c.write (g b)).ordered).map f = _
    rw [h.reads st]
    exact congrArg Except.ok hf

theorem readEach {read : Json → Except Mismatch α} {write : α → Json} (as : List α)
    (h : ∀ a ∈ as, read (write a) = .ok a) : Codec.readEach read (as.map write) = .ok as := by
  induction as with
  | nil => rfl
  | cons a as ih =>
    rw [List.map_cons, Codec.readEach, h a List.mem_cons_self,
      ih fun b hb => h b (List.mem_cons_of_mem a hb)]
    rfl

theorem list {as : List α} (h : ∀ a ∈ as, c.RoundTrip n a) : c.list.RoundTrip (n + 1) as where
  plain := by
    refine .array fun j hj => ?_
    obtain ⟨a, ha, rfl⟩ := List.mem_map.mp hj
    exact (h a ha).plain
  reads st := by
    change Codec.readEach (c.read st) (Json.orderedItems (as.map c.write)) = _
    rw [Json.orderedItems_eq, List.map_map]
    exact readEach as fun a ha => (h a ha).reads st

theorem none : c.option.RoundTrip n none := ⟨.null, fun _ => rfl⟩

/-- What is written as something else than nothing is read back as something. -/
theorem some (h : c.RoundTrip n a) (hw : (c.write a).ordered ≠ .null) :
    c.option.RoundTrip n (some a) where
  plain := h.plain
  reads st := by
    have hr : c.option.read st (c.write a).ordered = (c.read st (c.write a).ordered).map Option.some := by
      cases hj : (c.write a).ordered with
      | null => exact absurd hj hw
      | _ => rfl
    change c.option.read st (c.write a).ordered = _
    rw [hr, h.reads st]
    rfl

theorem option {o : Option α} (h : ∀ a ∈ o, c.RoundTrip n a)
    (hw : ∀ a ∈ o, (c.write a).ordered ≠ .null) : c.option.RoundTrip n o := by
  cases o with
  | none => exact none
  | some a => exact some (h a rfl) (hw a rfl)

theorem decimal (d : Decimal) : Codec.decimal.RoundTrip n d := by
  have hread : Decimal.read (String.ofList d.text).toList = .some d := by
    rw [String.toList_ofList, Decimal.read_text]
  have htext : (Codec.decimal.write d).ordered = .string (String.ofList d.text) := Json.ordered_string _
  refine ⟨.string _, fun st => ?_⟩
  rw [htext]
  simp only [Codec.decimal, hread]

theorem moment (t : Timestamp) : Codec.moment.RoundTrip n t := by
  have hread : Calendar.read (String.ofList t.text).toList = .ok t := by
    rw [String.toList_ofList, Calendar.read_text]
  have htext : (Codec.moment.write t).ordered = .string (String.ofList t.text) := Json.ordered_string _
  refine ⟨.string _, fun st => ?_⟩
  rw [htext]
  simp only [Codec.moment, hread]

theorem text (s : String) : Codec.text.RoundTrip n s := ⟨.string s, fun _ => rfl⟩

theorem boolean (b : Bool) : Codec.boolean.RoundTrip n b := ⟨.bool b, fun _ => rfl⟩

theorem integerWithin {low high i : Int} (h : low ≤ i ∧ i ≤ high) (wanted : Wanted) (st : Stage) :
    Codec.integerWithin low high wanted st (.int i) = .ok i := if_pos h

theorem int64 (i : Int64) : Codec.int64.RoundTrip n i := by
  have hlow : -9223372036854775808 ≤ i.toInt := i.le_toInt
  have hhigh : i.toInt < 9223372036854775808 := i.toInt_lt
  refine ⟨.integer ⟨hlow, ?_⟩, fun st => ?_⟩
  · have hg : Json.greatestInteger = 18446744073709551615 := rfl
    omega
  · have hr : Codec.integerWithin (-(1 <<< 63 : Nat)) ((1 <<< 63 : Nat) - 1) .integer st (.int i.toInt) =
        .ok i.toInt := integerWithin ⟨hlow, Int.le_of_lt_add_one hhigh⟩ _ _
    change (Codec.integerWithin _ _ _ st (.int i.toInt)).map _ = _
    rw [hr]
    exact congrArg Except.ok (Int64.ofInt_toInt i)

theorem nat64 (k : UInt64) : Codec.nat64.RoundTrip n k := by
  have hk : k.toNat < 18446744073709551616 := k.toNat_lt
  refine ⟨.integer ⟨?_, ?_⟩, fun st => ?_⟩
  · have hl : Json.leastInteger = -9223372036854775808 := rfl
    omega
  · have hg : Json.greatestInteger = 18446744073709551615 := rfl
    omega
  · have h64 : ((1 <<< 64 : Nat) : Int) = 18446744073709551616 := rfl
    have hr : Codec.integerWithin 0 ((1 <<< 64 : Nat) - 1) .natural st (.int k.toNat) = .ok k.toNat :=
      integerWithin ⟨by omega, by omega⟩ _ _
    change (Codec.integerWithin _ _ _ st (.int k.toNat)).map _ = _
    rw [hr]
    exact congrArg Except.ok (UInt64.ofNat_toNat)

/-- A moment that is a count of milliseconds is read back from it. -/
theorem milliseconds {t : Timestamp} (h : Timestamp.ofMillis? t.toMillis = .some t) :
    Codec.milliseconds.RoundTrip n t := by
  have hfirst : Calendar.firstSecond = -8334601228800 := by decide
  have hlast : Calendar.lastSecond = 8210266876799 := by decide
  have hcovered := t.covered
  have hnanos := t.nanos_lt
  refine ⟨.integer ⟨?_, ?_⟩, fun st => ?_⟩
  · have hleast : Json.leastInteger = -9223372036854775808 := rfl
    rw [Timestamp.toMillis]
    omega
  · have hgreatest : Json.greatestInteger = 18446744073709551615 := rfl
    rw [Timestamp.toMillis]
    omega
  · dsimp only [Codec.milliseconds, Json.int, Json.ordered]
    rw [h]

theorem choose {names : List (String × α)} {p : String × α} (hp : p ∈ names)
    (hn : (names.map (·.1)).Nodup) : Codec.choose names p.1 = .ok p.2 := by
  have hf : names.find? (·.1 = p.1) = .some p := by
    induction names with
    | nil => cases hp
    | cons q names ih =>
      rw [List.map_cons, List.nodup_cons] at hn
      rcases List.mem_cons.mp hp with rfl | hp
      · simp
      · have hne : q.1 ≠ p.1 := fun he => hn.1 (he ▸ List.mem_map_of_mem hp)
        simpa [hne] using ih hp hn.2
  rw [Codec.choose, hf]

/-- A word of a vocabulary is read back. -/
theorem vocabulary {all : List α} {name : α → String} (ha : a ∈ all) (hn : (all.map name).Nodup) :
    (MarketFeed.vocabulary all name).RoundTrip n a where
  plain := .string _
  reads _ := by
    have hnames : ((all.map fun a => (name a, a)).map (·.1)).Nodup := by
      simpa [Function.comp_def] using hn
    exact choose (p := (name a, a)) (List.mem_map_of_mem (f := fun a => (name a, a)) ha) hnames

end Codec.RoundTrip

namespace Choice

variable {c : Choice α} {a : α}

/-- A choice is read off members among which its own are. -/
theorem readMembers_ok {ms pairs : Json.Members} (hl : Json.Lists ms pairs)
    (hv : c.variants.find? (·.tag = (c.variantOf a).tag) = some (c.variantOf a))
    (hf : (c.variantOf a).fields.RoundTrip n a) (hview : (c.variantOf a).fields.view a = a)
    (ht : tagName ∉ (c.variantOf a).fields.slots.map (·.name))
    (hp : ∀ p ∈ Json.orderedMembers (c.members a), p ∈ pairs) (st : Stage) :
    c.readMembers st ms = .ok a := by
  have htag : Json.member? tagName ms = some (.string (c.variantOf a).tag) := by
    rw [hl.same]
    exact Json.member?_of_mem hl.single (hp _ List.mem_cons_self)
  have hseen : ∀ s ∈ (c.variantOf a).fields.slots,
      s.Seen a (Json.member? s.name (Json.eraseMember tagName pairs)) := by
    intro s hs
    have hne : s.name ≠ tagName := fun he => ht (he ▸ List.mem_map_of_mem hs)
    rw [Json.member?_eraseMember, if_neg hne]
    exact Fields.RoundTrip.seen hl.single (fun p hm => hp p (List.mem_cons_of_mem _ hm)) s hs
  rw [readMembers, htag]
  dsimp only
  rw [readTag, hv]
  dsimp only
  rw [hf.readMembers (hl.erase tagName) hseen, hview]

theorem members_names (c : Choice α) (a : α) : (Json.orderedMembers (c.members a)).map (·.1) =
    tagName :: (c.variantOf a).fields.slots.map (·.name) := by
  rw [members, Json.orderedMembers, Fields.RoundTrip.members_ordered]
  simp [Function.comp_def]

theorem members_plain (hf : (c.variantOf a).fields.RoundTrip n a) : ∀ p ∈ c.members a, p.2.Plain n := by
  intro p hp
  rcases List.mem_cons.mp hp with rfl | hp
  · exact .string _
  · exact hf.members_plain p hp

theorem roundTrip (hv : c.variants.find? (·.tag = (c.variantOf a).tag) = some (c.variantOf a))
    (hf : (c.variantOf a).fields.RoundTrip n a) (hview : (c.variantOf a).fields.view a = a)
    (hn : (tagName :: (c.variantOf a).fields.slots.map (·.name)).Nodup) :
    c.codec.RoundTrip (n + 1) a where
  plain := .object (members_plain hf)
  reads st := readMembers_ok (Json.lists_membersOf ((members_names c a).symm ▸ hn)) hv hf hview
    (List.nodup_cons.mp hn).1 (fun _ hp => hp) st

end Choice

/-! ### Texts -/

/-- Reads a value off a text. -/
def Codec.readText (c : Codec α) (s : String) : Option α :=
  (Json.read s.toList).toOption.bind fun j => (c.read .direct j).toOption

/-- The text of a value. -/
def Codec.writeText (c : Codec α) (a : α) : String := (c.write a).compact

theorem Codec.readText_eq_some {c : Codec α} {s : String} {a : α} :
    c.readText s = some a ↔ ∃ j, Json.read s.toList = .ok j ∧ c.read .direct j = .ok a := by
  unfold readText
  cases Json.read s.toList with
  | error e => simp [Except.toOption]
  | ok j => cases hr : c.read .direct j <;> simp [Except.toOption, hr]

theorem Codec.RoundTrip.document {c : Codec α} {a : α} (h : c.RoundTrip Json.depthLimit a) :
    Json.read (c.writeText a).toList = .ok (c.write a).ordered := by
  rw [Codec.writeText, Json.compact, String.toList_ofList, h.plain.read_text]

theorem Codec.RoundTrip.readText {c : Codec α} {a : α} (h : c.RoundTrip Json.depthLimit a) :
    c.readText (c.writeText a) = Option.some a :=
  Codec.readText_eq_some.mpr ⟨_, h.document, h.reads .direct⟩

/-- Values that are read back have the same text only if they are the same. -/
theorem Codec.RoundTrip.eq_of_writeText {c : Codec α} {a b : α} (ha : c.RoundTrip Json.depthLimit a)
    (hb : c.RoundTrip Json.depthLimit b) (h : c.writeText a = c.writeText b) : a = b := by
  have hr := ha.readText
  rw [h, hb.readText] at hr
  exact (Option.some.inj hr).symm

end Schema

end MarketFeed
