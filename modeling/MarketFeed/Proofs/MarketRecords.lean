import MarketFeed.Proofs.Records
import MarketFeed.Envelope.Basic

/-!
The records of the feed are read back from their documents, field by field.
-/

namespace MarketFeed

open Schema Fields.RoundTrip

variable {n : Nat}

/-! ### Words and identifiers -/

theorem Id.roundTrip {kind : IdKind} (i : Id kind) : Id.codec.RoundTrip n i := (Codec.RoundTrip.text _).imap rfl

theorem Side.roundTrip (s : Side) : Side.codec.RoundTrip n s :=
  .vocabulary (by cases s <;> decide) (by decide)

theorem OrderStatus.roundTrip (s : OrderStatus) : OrderStatus.codec.RoundTrip n s :=
  .vocabulary (by cases s <;> decide) (by decide)

theorem ExecutionRole.roundTrip (r : ExecutionRole) : ExecutionRole.codec.RoundTrip n r :=
  .vocabulary (by cases r <;> decide) (by decide)

theorem SettlementStatus.roundTrip (s : SettlementStatus) : SettlementStatus.codec.RoundTrip n s :=
  .vocabulary (by cases s <;> decide) (by decide)

theorem BalanceFigure.roundTrip (f : BalanceFigure) : BalanceFigure.codec.RoundTrip n f :=
  .vocabulary (by cases f <;> decide) (by decide)

theorem PriceMove.roundTrip (m : PriceMove) : PriceMove.codec.RoundTrip n m :=
  .vocabulary (by cases m <;> decide) (by decide)

theorem CandleLength.roundTrip (l : CandleLength) : CandleLength.codec.RoundTrip n l :=
  .vocabulary (by cases l <;> decide) (by decide)

theorem Action.roundTrip (a : Action) : Action.codec.RoundTrip n a :=
  .vocabulary (by cases a <;> decide) (by decide)

/-! ### Books, candles and consumption -/

theorem BookEntry.byFields (e : BookEntry) : BookEntry.codec.ByFields n e :=
  .intro _ (((required _ (.text _)).map _).seq (required _ (.decimal _))) (by decide) rfl

lemma BookEntry.list_roundTrip (es : List BookEntry) : BookEntry.codec.list.RoundTrip (n + 2) es :=
  .list fun e _ => e.byFields.roundTrip

theorem LastTrade.byFields (t : LastTrade) : LastTrade.codec.ByFields n t :=
  .intro _ (((required _ (.text _)).map _).seq (required _ t.move.roundTrip)) (by decide) rfl

theorem OrderBook.byFields (b : OrderBook) : OrderBook.codec.ByFields (n + 2) b :=
  .intro _ ((required _ b.market.roundTrip).map _
    |>.seq (required _ (BookEntry.list_roundTrip b.buy))
    |>.seq (required _ (BookEntry.list_roundTrip b.sell))
    |>.seq (required _ b.last.byFields.roundTrip)) (by decide) rfl

lemma LastTrade.option_roundTrip (t : Option LastTrade) : LastTrade.codec.option.RoundTrip (n + 1) t :=
  .option (fun t _ => t.byFields.roundTrip) fun _ _ h => nomatch h

theorem OrderBookDiff.byFields (d : OrderBookDiff) : OrderBookDiff.codec.ByFields (n + 2) d :=
  .intro _ ((required _ (.nat64 _)).map _
    |>.seq (required _ d.market.roundTrip)
    |>.seq (required _ (BookEntry.list_roundTrip d.buy))
    |>.seq (required _ (BookEntry.list_roundTrip d.sell))
    |>.seq (maybe _ _ (LastTrade.option_roundTrip d.last))) (by decide) rfl

lemma Decimal.option_roundTrip (d : Option Decimal) : Codec.decimal.option.RoundTrip n d :=
  .option (fun d _ => .decimal d) fun _ _ h => nomatch h

lemma Timestamp.option_roundTrip (t : Option Timestamp) : Codec.moment.option.RoundTrip n t :=
  .option (fun t _ => .moment t) fun _ _ h => nomatch h

theorem Candle.byFields (c : Candle) : Candle.codec.ByFields n c :=
  .intro _ ((required _ (.moment _)).map _
    |>.seq (required _ (.decimal _))
    |>.seq (required _ (.decimal _))
    |>.seq (required _ (.decimal _))
    |>.seq (required _ (.decimal _))
    |>.seq (required _ c.length.roundTrip)
    |>.seq (maybe _ _ (Decimal.option_roundTrip _))
    |>.seq (maybe _ _ (Decimal.option_roundTrip _))
    |>.seq (maybe _ _ (Decimal.option_roundTrip _))
    |>.seq (maybe _ _ (Decimal.option_roundTrip _))) (by decide) rfl

theorem Prices.byFields (p : Prices) : Prices.codec.ByFields (n + 2) p :=
  .intro _ ((required _ p.market.roundTrip).map _
    |>.seq (required _ p.length.roundTrip)
    |>.seq (required _ (.list fun c _ => c.byFields.roundTrip))
    |>.seq (required _ (.boolean _))
    |>.seq (required _ (.decimal _))
    |>.seq (required _ (.decimal _))) (by decide) rfl

theorem MarketConsumption.byFields (c : MarketConsumption) : MarketConsumption.codec.ByFields n c :=
  .intro _ ((required _ (.int64 _)).map _
    |>.seq (required _ (.int64 _))
    |>.seq (required _ (.int64 _))
    |>.seq (required _ (.int64 _))) (by decide) rfl

/-! ### Balances and trades -/

theorem Balance.byFields (b : Balance) : Balance.codec.ByFields n b :=
  .intro _ ((required _ b.symbol.roundTrip).map _
    |>.seq (required _ (.decimal _))
    |>.seq (required _ (.decimal _))
    |>.seq (required _ (.moment _))
    |>.seq (required _ (.decimal _))) (by decide) rfl

theorem UpdatedBalance.byFields (b : UpdatedBalance) : UpdatedBalance.codec.ByFields n b :=
  .intro _ ((required _ b.symbol.roundTrip).map _
    |>.seq (required _ b.figure.roundTrip)
    |>.seq (required _ (.decimal _))
    |>.seq (required _ (.moment _))) (by decide) rfl

theorem Trade.byFields (t : Trade) : Trade.codec.ByFields n t := by
  have horder : Id.codec.option.RoundTrip n t.clientOrder :=
    .option (fun i _ => i.roundTrip) fun _ _ h => nomatch h
  have herror : Codec.text.option.RoundTrip n t.error :=
    .option (fun s _ => .text s) fun _ _ h => nomatch h
  exact .intro _ ((required _ t.id.roundTrip).map _
    |>.seq (required _ (.moment _))
    |>.seq (required _ t.order.roundTrip)
    |>.seq (maybe _ _ horder)
    |>.seq (required _ t.market.roundTrip)
    |>.seq (required _ t.role.roundTrip)
    |>.seq (required _ t.counterOrder.roundTrip)
    |>.seq (required _ t.side.roundTrip)
    |>.seq (required _ (.decimal _))
    |>.seq (required _ (.decimal _))
    |>.seq (required _ (.decimal _))
    |>.seq (required _ t.feeSymbol.roundTrip)
    |>.seq (required _ t.settlement.roundTrip)
    |>.seq (maybe _ _ herror)) (by decide) rfl

/-- A trade of a market is read back if its moment is a count of milliseconds. -/
theorem MarketTrade.byFields (t : MarketTrade)
    (h : Timestamp.ofMillis? t.timestamp.toMillis = some t.timestamp) : MarketTrade.codec.ByFields n t :=
  .intro _ ((required _ t.id.roundTrip).map _
    |>.seq (required _ t.side.roundTrip)
    |>.seq (required _ (.decimal _))
    |>.seq (required _ (.decimal _))
    |>.seq (required _ (.decimal _))
    |>.seq (required _ (.milliseconds h))
    |>.seq (required _ (.text _))
    |>.seq (required _ (.decimal _))) (by decide) rfl

/-! ### Topics -/

theorem Topic.find_variant (k : TopicKind) :
    choice.variants.find? (·.tag = k.name) = some (variant k) := by
  cases k <;> rfl

theorem Topic.names_nodup (k : TopicKind) :
    (Choice.tagName :: (fieldsOf k).slots.map (·.name)).Nodup := by
  cases k <;> decide

theorem Topic.fields_roundTrip (t : Topic) : (fieldsOf t.kind).RoundTrip n t := by
  cases t with
  | prices m l => exact ((required _ m.roundTrip).map _).seq (required _ l.roundTrip)
  | orderBook m | incrementalOrderBook m | marketTrades m | consumption m =>
    exact (required _ m.roundTrip).map _
  | myTrades | myOrders | balances => exact .pure _

theorem Topic.roundTrip (t : Topic) : Topic.codec.RoundTrip (n + 1) t := by
  have hview : (fieldsOf t.kind).view t = t := by cases t <;> rfl
  exact Choice.roundTrip (find_variant t.kind) t.fields_roundTrip hview (names_nodup t.kind)

/-! ### Orders -/

theorem Execution.byFields (e : Execution) : Execution.codec.ByFields n e :=
  .intro _ ((required _ e.trade.roundTrip).map _
    |>.seq (required _ (.moment _))
    |>.seq (required _ (.decimal _))
    |>.seq (required _ (.decimal _))
    |>.seq (required _ e.role.roundTrip)
    |>.seq (required _ (.decimal _))
    |>.seq (required _ e.feeSymbol.roundTrip)
    |>.seq (required _ e.market.roundTrip)) (by decide) rfl

theorem Timing.byFields (t : Timing) : Timing.codec.ByFields n t :=
  .intro _ ((required _ (.moment _)).map _
    |>.seq (maybe _ _ (Timestamp.option_roundTrip _))
    |>.seq (maybe _ _ (Timestamp.option_roundTrip _))
    |>.seq (required _ (.decimal _))) (by decide) rfl

theorem OrderKind.find_variant (k : OrderKind) :
    choice.variants.find? (·.tag = (choice.variantOf k).tag) = some (choice.variantOf k) := by
  cases k <;> rfl

theorem OrderKind.fields_roundTrip (k : OrderKind) : (choice.variantOf k).fields.RoundTrip n k := by
  cases k with
  | market => exact .pure _
  | backToBackMarket m => exact (required _ m.roundTrip).map _
  | limit a r p =>
    exact (((required _ (.decimal a)).map _).seq (required _ (.boolean r))).seq (required _ (.decimal p))

lemma Order.common_roundTrip (o : Order) : commonFields.RoundTrip (n + 2) o :=
  (required _ o.id.roundTrip).map _
    |>.seq (required _ o.clientOrderId.roundTrip)
    |>.seq (required _ o.status.roundTrip)
    |>.seq (required _ o.market.roundTrip)
    |>.seq (required _ o.side.roundTrip)
    |>.seq (required _ (.decimal _))
    |>.seq (required _ (.list fun e _ => e.byFields.roundTrip))
    |>.seq (required _ o.timing.byFields.roundTrip)

/-- No member of an order's kind is common to all orders, and none stands twice. -/
theorem Order.names_nodup : ∀ v ∈ OrderKind.choice.variants,
    (commonFields.slots.map (·.name) ++ Choice.tagName :: v.fields.slots.map (·.name)).Nodup := by
  decide

/-- The common fields leave the members of the kind aside. -/
theorem Order.mem_kindMembers {pairs : Json.Members} {p : String × Json} (hp : p ∈ pairs)
    (hn : p.1 ∉ commonFields.slots.map (·.name)) : p ∈ kindMembers pairs := by
  have hnone : commonFields.slot? p.1 = none := by
    refine List.find?_eq_none.mpr fun s hs => ?_
    have hne : s.name ≠ p.1 := fun he => hn (he ▸ List.mem_map_of_mem hs)
    simpa using hne
  exact List.mem_filter.mpr ⟨hp, by rw [hnone]; rfl⟩

/-- The members of an order, and those of its kind among them. -/
theorem Order.lists_members (o : Order) {pairs : Json.Members} (hpairs : pairs =
      Json.orderedMembers (commonFields.members o) ++ Json.orderedMembers (OrderKind.choice.members o.kind)) :
    Json.Lists (Json.membersOf pairs) pairs ∧
      ∀ p ∈ Json.orderedMembers (OrderKind.choice.members o.kind), p ∈ kindMembers pairs := by
  have hnames := names_nodup _ (List.mem_of_find?_eq_some o.kind.find_variant)
  have hkeys := Choice.members_names OrderKind.choice o.kind
  constructor
  · apply Json.lists_membersOf
    rw [hpairs, List.map_append, hkeys, members_ordered]
    simpa [Function.comp_def] using hnames
  · intro p hp
    refine mem_kindMembers (hpairs ▸ List.mem_append_right _ hp) fun hc => ?_
    have hk : p.1 ∈ Choice.tagName :: (OrderKind.choice.variantOf o.kind).fields.slots.map (·.name) :=
      hkeys ▸ List.mem_map_of_mem hp
    exact (List.nodup_append.mp hnames).2.2 _ hc _ hk rfl

theorem Order.roundTrip (o : Order) : Order.codec.RoundTrip (n + 3) o := by
  have hcommon : commonFields.RoundTrip (n + 2) o := o.common_roundTrip
  have hkind : (OrderKind.choice.variantOf o.kind).fields.RoundTrip (n + 2) o.kind := o.kind.fields_roundTrip
  have hview : (OrderKind.choice.variantOf o.kind).fields.view o.kind = o.kind := by
    cases o.kind <;> rfl
  have htag := (List.nodup_cons.mp (List.nodup_append.mp
    (names_nodup _ (List.mem_of_find?_eq_some o.kind.find_variant))).2.1).1
  obtain ⟨pairs, hpairs⟩ : ∃ pairs, pairs = Json.orderedMembers (commonFields.members o) ++
    Json.orderedMembers (OrderKind.choice.members o.kind) := ⟨_, rfl⟩
  have hordered : (Order.codec.write o).ordered = .object (Json.membersOf pairs) := by
    rw [codec, Json.ordered, hpairs]
    simp only [Json.orderedMembers_eq, List.map_append]
  obtain ⟨hl, hrest⟩ := o.lists_members hpairs
  have hlk : Json.Lists (kindMembers (Json.membersOf pairs)) (kindMembers pairs) :=
    hl.filter fun key => (commonFields.slot? key).isNone
  refine ⟨.object fun p hp => ?_, fun st => ?_⟩
  · exact (List.mem_append.mp hp).elim (members_plain hcommon p) (Choice.members_plain hkind p)
  · have hread : commonFields.readMembers st (Json.membersOf pairs) = .ok (commonFields.view o) :=
      hcommon.readMembers hl (seen hl.single fun p hp => hpairs ▸ List.mem_append_left _ hp) st
    have hchoice : OrderKind.choice.readMembers .kept (kindMembers (Json.membersOf pairs)) = .ok o.kind :=
      Choice.readMembers_ok hlk o.kind.find_variant hkind hview htag hrest .kept
    rw [hordered, codec]
    dsimp only
    rw [hread]
    dsimp only
    rw [hchoice]
    rfl

end MarketFeed
