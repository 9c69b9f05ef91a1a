import MarketFeed.Proofs.MarketRecords

/-!
The records of the feed as texts. What was read off a text is read off what is written of it, too. The
fields of a record that are all required may stand in an array or under their names, and it is read as
the same value.
-/

namespace MarketFeed

namespace Schema

variable {α β ρ : Type} {n : Nat}

/-- A value that was read off a text is read back from its own text, which does not change any more. -/
def Codec.Faithful (c : Codec α) : Prop :=
  ∀ (s : String) (a : α), c.readText s = some a →
    ∃ b, c.readText (c.writeText a) = some b ∧ b = a ∧ c.writeText b = c.writeText a

lemma Codec.Faithful.ofReads {c : Codec α}
    (h : ∀ j a, c.read .direct j = .ok a → c.RoundTrip Json.depthLimit a) : c.Faithful := by
  intro s a hs
  obtain ⟨j, -, hj⟩ := Codec.readText_eq_some.mp hs
  exact ⟨a, (h j a hj).readText, rfl, rfl⟩

lemma Codec.Faithful.ofFields {c : Codec α} (h : ∀ a, c.ByFields 126 a) : c.Faithful :=
  ofReads fun _ a _ => (h a).roundTrip

/-- An array of values for these names and an object with these values under their names are read alike. -/
def Codec.ReadsRows (c : Codec α) (names : List String) : Prop :=
  ∀ (row object : String) (items : List Json) (ms : Json.Members),
    Json.read row.toList = .ok (.array items) → Json.read object.toList = .ok (.object ms) →
      items.length = names.length → Json.Lists ms (names.zip items) →
        c.readText row = c.readText object

namespace Fields

variable {st : Stage} {look : String → Option Json}

/-- Fields are found by their own names, and what they are built of fits them. -/
structure Lawful (f : Fields ρ α) : Prop where
  looks : ∀ st look look', (∀ s ∈ f.slots, look s.name = look' s.name) →
    f.build st look = f.build st look'
  fits : ∀ st look a, f.build st look = .ok a → ∀ s ∈ f.slots, ∀ j, look s.name = some j →
    s.check st j = none

namespace Lawful

theorem seq {f : Fields ρ (α → β)} {x : Fields ρ α} (hf : f.Lawful) (hx : x.Lawful) :
    (f <*> x).Lawful := by
  refine ⟨fun st look look' hl => ?_, fun st look b hb s hs j hj => ?_⟩
  · rw [slots_seq] at hl
    rw [build_seq, build_seq, hf.looks st look look' fun s hs => hl s (List.mem_append_left _ hs),
      hx.looks st look look' fun s hs => hl s (List.mem_append_right _ hs)]
  · obtain ⟨g, a, hg, ha, -⟩ := build_seq_ok.mp hb
    rw [slots_seq] at hs
    rcases List.mem_append.mp hs with hs | hs
    · exact hf.fits st look g hg s hs j hj
    · exact hx.fits st look a ha s hs j hj

theorem map {x : Fields ρ α} (hx : x.Lawful) (g : α → β) : (g <$> x).Lawful := by
  refine ⟨fun st look look' hl => ?_, fun st look b hb s hs j hj => ?_⟩
  · rw [build_map, build_map, hx.looks st look look' hl]
  · obtain ⟨a, ha, -⟩ := build_map_ok.mp hb
    exact hx.fits st look a ha s hs j hj

theorem required (name : String) (c : Codec α) (get : ρ → α) : (Fields.required name c get).Lawful := by
  refine ⟨fun st look look' hl => ?_, fun st look a ha s hs j hj => ?_⟩
  · have hname : look name = look' name := hl _ (List.mem_singleton_self _)
    dsimp only [Fields.required]
    rw [hname]
  · obtain rfl := List.mem_singleton.mp hs
    obtain ⟨k, hk, hread⟩ := build_required_ok.mp ha
    obtain rfl : k = j := Option.some.inj (hk.symm.trans hj)
    exact congrArg faultOf hread

/-- Off an object the fields are read by their names. -/
theorem readMembers_ok {f : Fields ρ α} (hf : f.Lawful) {ms pairs : Json.Members}
    (hl : Json.Lists ms pairs) {a : α} :
    f.readMembers st ms = .ok a ↔ f.build st (fun name => Json.member? name pairs) = .ok a := by
  have hsame : f.build st (fun name => Json.member? name ms) =
      f.build st fun name => Json.member? name pairs := hf.looks st _ _ fun s _ => hl.same s.name
  rw [Fields.readMembers, hsame]
  constructor
  · intro h
    split at h
    · cases h
    · exact h
  · intro h
    have hfault : f.faultInMembers st ms = none := by
      refine List.findSome?_eq_none_iff.mpr fun p hp => ?_
      cases hs : f.slot? p.1 with
      | none => rfl
      | some s =>
        have hn : s.name = p.1 := by simpa using List.find?_some hs
        exact hf.fits st _ a h s (List.mem_of_find?_eq_some hs) p.2 (hn ▸ hl.member? hp)
    rw [hfault]
    exact h

lemma faultInItems_eq_none {size : Size} {slots : List (Slot ρ)} {items : List Json} (i : Nat)
    (hlen : items.length = slots.length) (h : ∀ q ∈ slots.zip items, q.1.check st q.2 = none) :
    Fields.faultInItems st size slots items i = none := by
  induction slots generalizing items i with
  | nil => rfl
  | cons s slots ih =>
    cases items with
    | nil => cases hlen
    | cons j items =>
      rw [List.zip_cons_cons] at h
      rw [Fields.faultInItems, h (s, j) List.mem_cons_self]
      exact ih (i + 1) (Nat.succ.inj hlen) fun q hq => h q (List.mem_cons_of_mem _ hq)

/-- Off an array the fields are read by their places. -/
theorem readItems_ok {f : Fields ρ α} (hf : f.Lawful) {items : List Json} {size : Size}
    (hlen : items.length = f.slots.length) (hn : (f.slots.map (·.name)).Nodup) {a : α} :
    f.readItems st size items = .ok a ↔
      f.build st (fun name => Json.member? name ((f.slots.map (·.name)).zip items)) = .ok a := by
  rw [Fields.readItems, if_neg (by omega)]
  constructor
  · intro h
    split at h
    · cases h
    · exact h
  · intro h
    have hkeys : (((f.slots.map (·.name)).zip items).map (·.1)).Nodup := by
      rwa [List.map_fst_zip (by simp [hlen])]
    have hfault : Fields.faultInItems st size f.slots items 0 = none := by
      refine faultInItems_eq_none 0 hlen fun q hq => ?_
      have hpair : (q.1.name, q.2) ∈ (f.slots.map (·.name)).zip items := by
        rw [List.zip_map_left]
        exact List.mem_map_of_mem (f := Prod.map (·.name) id) hq
      exact hf.fits st _ a h q.1 (List.of_mem_zip hq).1 q.2 (Json.member?_of_mem hkeys hpair)
    rw [hfault]
    exact h

theorem readsRows {f : Fields ρ ρ} (hf : f.Lawful) (hn : (f.slots.map (·.name)).Nodup) (name : String) :
    (Codec.record name f).ReadsRows (f.slots.map (·.name)) := by
  intro row object items ms hrow hobject hlen hl
  rw [List.length_map] at hlen
  refine Option.ext fun a => ?_
  rw [Codec.readText_eq_some, Codec.readText_eq_some, hrow, hobject]
  have hitems : f.readItems .direct (.record name f.slots.length) items = .ok a ↔ _ :=
    hf.readItems_ok hlen hn
  have hmembers : f.readMembers .direct ms = .ok a ↔ _ := hf.readMembers_ok hl
  constructor
  · rintro ⟨j, hj, ha⟩
    cases hj
    exact ⟨_, rfl, hmembers.mpr (hitems.mp ha)⟩
  · rintro ⟨j, hj, ha⟩
    cases hj
    exact ⟨_, rfl, hitems.mpr (hmembers.mp ha)⟩

end Lawful

end Fields

/-- What is read as a record is built of its fields, wherever they stand. -/
theorem Codec.exists_build {name : String} {f : Fields ρ ρ} {st : Stage} {j : Json} {r : ρ}
    (h : (Codec.record name f).read st j = .ok r) : ∃ look, f.build st look = .ok r := by
  cases j with
  | object ms =>
    change f.readMembers st ms = .ok r at h
    rw [Fields.readMembers] at h
    split at h
    · cases h
    · exact ⟨_, h⟩
  | array items =>
    change f.readItems st _ items = .ok r at h
    rw [Fields.readItems] at h
    split at h
    · cases h
    · split at h
      · cases h
      · exact ⟨_, h⟩
  | _ => cases h

/-- A moment that was read off a count of milliseconds is such a count. -/
theorem Codec.milliseconds_read {st : Stage} {j : Json} {t : Timestamp}
    (h : Codec.milliseconds.read st j = .ok t) : Timestamp.ofMillis? t.toMillis = some t := by
  unfold Codec.milliseconds at h
  dsimp only at h
  split at h
  · rename_i k
    split at h
    · rename_i u hu
      cases h
      rw [Timestamp.toMillis_ofMillis? hu, hu]
    · cases h
  · cases h

end Schema

open Schema

lemma MarketTrade.moment_of_read {st : Stage} {j : Json} {t : MarketTrade}
    (h : codec.read st j = .ok t) : Timestamp.ofMillis? t.timestamp.toMillis = some t.timestamp := by
  obtain ⟨look, hbuild⟩ := Codec.exists_build h
  obtain ⟨_, taker, h8, -, ht⟩ := Fields.build_seq_ok.mp hbuild
  obtain ⟨_, nickname, h7, -, rfl⟩ := Fields.build_seq_ok.mp h8
  obtain ⟨_, moment, h6, hm, rfl⟩ := Fields.build_seq_ok.mp h7
  obtain ⟨_, notional, h5, -, rfl⟩ := Fields.build_seq_ok.mp h6
  obtain ⟨_, price, h4, -, rfl⟩ := Fields.build_seq_ok.mp h5
  obtain ⟨_, amount, h3, -, rfl⟩ := Fields.build_seq_ok.mp h4
  obtain ⟨_, side, h2, -, rfl⟩ := Fields.build_seq_ok.mp h3
  obtain ⟨id, -, rfl⟩ := Fields.build_map_ok.mp h2
  obtain ⟨k, -, hread⟩ := Fields.build_required_ok.mp hm
  rw [ht]
  exact Codec.milliseconds_read hread

theorem MarketTrade.readsRows : codec.ReadsRows
    ["id", "side", "amount", "price", "notional", "timestamp", "taker_nickname", "taker_id"] :=
  Fields.Lawful.readsRows ((Fields.Lawful.required ..).map _
    |>.seq (.required ..)
    |>.seq (.required ..)
    |>.seq (.required ..)
    |>.seq (.required ..)
    |>.seq (.required ..)
    |>.seq (.required ..)
    |>.seq (.required ..)) (by decide) "MarketTrade"

theorem MarketConsumption.readsRows : codec.ReadsRows
    ["base_amount", "quote_amount", "base_amount_left", "quote_amount_left"] :=
  Fields.Lawful.readsRows ((Fields.Lawful.required ..).map _
    |>.seq (.required ..)
    |>.seq (.required ..)
    |>.seq (.required ..)) (by decide) "MarketConsumption"

/-- The records of the feed are read back from their texts, and the two that the server sends as rows are
read alike off rows and objects. -/
theorem payload_texts_faithful :
    Order.codec.Faithful ∧ Execution.codec.Faithful ∧ Timing.codec.Faithful ∧ Trade.codec.Faithful ∧
      MarketTrade.codec.Faithful ∧ Balance.codec.Faithful ∧ UpdatedBalance.codec.Faithful ∧
      OrderBook.codec.Faithful ∧ OrderBookDiff.codec.Faithful ∧ Prices.codec.Faithful ∧
      Candle.codec.Faithful ∧ MarketConsumption.codec.Faithful ∧
      MarketTrade.codec.ReadsRows
        ["id", "side", "amount", "price", "notional", "timestamp", "taker_nickname", "taker_id"] ∧
      MarketConsumption.codec.ReadsRows
        ["base_amount", "quote_amount", "base_amount_left", "quote_amount_left"] := by
  have trade : MarketTrade.codec.Faithful := .ofReads fun j t h =>
    (t.byFields (n := 126) (MarketTrade.moment_of_read h)).roundTrip
  exact ⟨.ofReads fun _ o _ => o.roundTrip (n := 124), .ofFields fun e => e.byFields,
    .ofFields fun t => t.byFields, .ofFields fun t => t.byFields, trade, .ofFields fun b => b.byFields,
    .ofFields fun b => b.byFields, .ofFields fun b => b.byFields (n := 124),
    .ofFields fun d => d.byFields (n := 124), .ofFields fun p => p.byFields (n := 124),
    .ofFields fun c => c.byFields, .ofFields fun c => c.byFields, MarketTrade.readsRows,
    MarketConsumption.readsRows⟩

/-- A trade whose name holds a quotation mark. -/
def quotedTrade : MarketTrade where
  id := ⟨"t\"1"⟩
  side := .sell
  amount := (Decimal.ofParts? false 150 2).get (by decide)
  price := (Decimal.ofParts? false 2 0).get (by decide)
  notional := (Decimal.ofParts? false 3 0).get (by decide)
  timestamp := (Timestamp.ofMillis? 1700000000123).get (by decide)
  takerNickname := "nobody"
  taker := Decimal.zero

theorem quotedTrade_faithful :
    MarketTrade.codec.rows.writeText quotedTrade =
      "[\"t\\\"1\",\"Sell\",\"1.50\",\"2\",\"3\",1700000000123,\"nobody\",\"0\"]" ∧
    MarketTrade.codec.readText (MarketTrade.codec.rows.writeText quotedTrade) = some quotedTrade ∧
    MarketTrade.codec.readText (MarketTrade.codec.writeText quotedTrade) = some quotedTrade := by
  obtain ⟨-, -, -, -, hfaithful, -, -, -, -, -, -, -, hrows, -⟩ := payload_texts_faithful
  have htrip : MarketTrade.codec.ByFields 126 quotedTrade := quotedTrade.byFields (by decide)
  have hsame : MarketTrade.codec.readText (MarketTrade.codec.rows.writeText quotedTrade) =
      MarketTrade.codec.readText (MarketTrade.codec.writeText quotedTrade) :=
    hrows _ _ _ _ htrip.row.document htrip.roundTrip.document rfl (Json.lists_membersOf (by decide))
  obtain ⟨u, hu, rfl, -⟩ := hfaithful _ _ (hsame.trans htrip.roundTrip.readText)
  exact ⟨by decide +kernel, hsame.trans hu, hu⟩

end MarketFeed
