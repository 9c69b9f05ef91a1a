import MarketFeed.Proofs.Classification
import MarketFeed.Proofs.MarketRecords
import MarketFeed.Envelope.Written

/-!
Frames and their envelopes. A frame that the server writes for an envelope is decoded as that envelope:
its type comes off first, then its members are read by their names, and the payload in the same way.
-/

namespace MarketFeed

open Schema

/-- The codec of new trades, with each trade as a row. -/
def MarketTradesCreated.rowCodec : Codec MarketTradesCreated := .record "MarketTradesData"
  (mk <$> .required "sequenceNumber" .nat64 sequenceNumber
    <*> .required "marketId" Id.codec market
    <*> .required "trades" MarketTrade.codec.rows.list trades)

lemma MarketTradesCreated.read_rowCodec (ms : Json.Members) :
    codec.read .direct (.object ms) = rowCodec.read .direct (.object ms) := by
  apply Codec.read_alike
  exact ⟨rfl, rfl⟩

lemma MarketTradesCreated.row_byFields {n : Nat} (c : MarketTradesCreated)
    (h : (c.trades.all fun t => Timestamp.ofMillis? t.timestamp.toMillis = some t.timestamp) = true) :
    MarketTradesCreated.rowCodec.ByFields (n + 2) c := by
  have htrades : MarketTrade.codec.rows.list.RoundTrip (n + 2) c.trades :=
    .list fun t ht => (t.byFields (of_decide_eq_true (List.all_eq_true.mp h t ht))).row
  exact .intro _ ((Fields.RoundTrip.required _ (.nat64 _)).map _
    |>.seq (.required _ c.market.roundTrip)
    |>.seq (.required _ htrades)) (by decide) rfl

namespace Frame

variable {n : Nat} {word : String} {ms : Json.Members} {kind : TopicKind}

/-- The members of a document of some type, as they are written. -/
def tagged (word : String) (ms : Json.Members) : Json := .object (("type", .string word) :: ms)

lemma plain_tagged (h : ∀ p ∈ ms, p.2.Plain n) : (tagged word ms).Plain (n + 1) := by
  refine .object fun p hp => ?_
  rcases List.mem_cons.mp hp with rfl | hp
  · exact .string _
  · exact h p hp

/-- They are read in the order of their keys. -/
def taggedPairs (word : String) (ms : Json.Members) : Json.Members :=
  ("type", .string word) :: Json.orderedMembers ms

lemma ordered_tagged : (tagged word ms).ordered = .object (Json.membersOf (taggedPairs word ms)) := by
  rw [tagged, Json.ordered, taggedPairs, Json.orderedMembers, Json.ordered_string]

lemma lists_tagged (hn : ("type" :: ms.map (·.1)).Nodup) :
    Json.Lists (Json.membersOf (taggedPairs word ms)) (taggedPairs word ms) := by
  apply Json.lists_membersOf
  rw [taggedPairs, Json.orderedMembers_eq]
  simpa [Function.comp_def] using hn

lemma typeOf_tagged (hn : ("type" :: ms.map (·.1)).Nodup) : typeOf (tagged word ms).ordered = some word := by
  rw [ordered_tagged, typeOf, Json.get?, (lists_tagged hn).same]
  rfl

/-- The other members are what they were. -/
theorem get?_tagged (hn : ("type" :: ms.map (·.1)).Nodup) {key : String} (hk : key ≠ "type") :
    (tagged word ms).ordered.get? key = Json.member? key (Json.orderedMembers ms) := by
  rw [ordered_tagged, Json.get?, (lists_tagged hn).same, taggedPairs, Json.member?_cons, if_neg (Ne.symm hk)]

/-- Fields are read off the members beside the type. -/
theorem readMembers_tagged {α : Type} {f : Fields α α} {a : α} (h : f.RoundTrip n a)
    (hn : ("type" :: ms.map (·.1)).Nodup) (ht : "type" ∉ f.slots.map (·.name))
    (hs : ∀ s ∈ f.slots, s.Seen a (Json.member? s.name (Json.orderedMembers ms))) :
    f.readMembers .direct (Json.eraseMember "type" (Json.membersOf (taggedPairs word ms))) =
      .ok (f.view a) := by
  refine h.readMembers ((lists_tagged hn).erase "type") (fun s hm => ?_) .direct
  have hne : s.name ≠ "type" := fun he => ht (he ▸ List.mem_map_of_mem hm)
  rw [Json.member?_eraseMember, if_neg hne, taggedPairs, Json.member?_cons, if_neg (Ne.symm hne)]
  exact hs s hm

/-! ### Payloads -/

lemma single_byFields {α : Type} {c : Codec α} {a : α} (word name : String) (h : c.RoundTrip n a) :
    (Codec.record word (Payload.single name c)).ByFields n a :=
  .intro _ (.required _ h) (by simp [Payload.single, Fields.required]) rfl

lemma read_single_rows {α : Type} (c : Codec α) {word name : String} (ms : Json.Members) :
    (Codec.record word (Payload.single name c)).read .direct (.object ms) =
      (Codec.record word (Payload.single name c.rows)).read .direct (.object ms) := by
  apply Codec.read_alike
  exact ⟨rfl, rfl⟩

/-- A payload is read by a codec that reads like the one it was written by. -/
theorem decodePayload_record {α : Type} {c d : Codec α} {make : α → Publication} {a : α}
    (hform : (Payload.forms kind).find? (·.word = word) = some (.record word c make))
    (hd : ∀ ms, c.read .direct (.object ms) = d.read .direct (.object ms)) (h : d.ByFields n a)
    (ht : Json.member? "type" (d.write a).contents = none) :
    (tagged word (d.write a).contents).Plain (n + 1) ∧
      decodePayload kind (tagged word (d.write a).contents).ordered = .ok (make a) := by
  obtain ⟨name, trip, names, view⟩ := h
  rename_i f
  have hkeys : (f.members a).map (·.1) = f.slots.map (·.name) := by
    simp [Fields.members, Function.comp_def]
  have htype : "type" ∉ f.slots.map (·.name) := by
    rw [← hkeys]
    exact Json.member?_eq_none_iff.mp ht
  have hn : ("type" :: (f.members a).map (·.1)).Nodup := by
    rw [hkeys]
    exact List.nodup_cons.mpr ⟨htype, names⟩
  have hordered : ((Json.orderedMembers (f.members a)).map (·.1)).Nodup := by
    simpa [Json.orderedMembers_eq, Function.comp_def] using (List.nodup_cons.mp hn).2
  have hmembers : ((Codec.record name f).write a).contents = f.members a := rfl
  rw [hmembers]
  constructor
  · exact plain_tagged trip.members_plain
  · have hread : c.read .direct (withoutType (tagged word (f.members a)).ordered) = .ok a := by
      rw [ordered_tagged, withoutType, hd]
      exact (readMembers_tagged trip hn htype (Fields.RoundTrip.seen hordered fun p hp => hp)).trans
        (congrArg Except.ok view)
    unfold decodePayload
    dsimp only
    rw [typeOf_tagged hn, Option.getD_some, hform]
    dsimp only [Payload.Form.record]
    rw [hread]
    rfl

/-- A publication is read back under the kind of its topic. -/
theorem decodePayload_document (p : Publication) (h : p.fits kind = true) :
    p.document.Plain (n + 5) ∧ decodePayload kind p.document.ordered = .ok p := by
  obtain ⟨hkind, hfits⟩ := Bool.and_eq_true_iff.mp h
  obtain rfl := of_decide_eq_true hkind
  cases p with
  | orderBook b | bookSnapshot b => exact decodePayload_record rfl (fun _ => rfl) b.byFields rfl
  | bookDiff d => exact decodePayload_record rfl (fun _ => rfl) d.byFields rfl
  | prices p => exact decodePayload_record rfl (fun _ => rfl) p.byFields rfl
  | myTrades e ts =>
    have hts : Trade.codec.list.RoundTrip (n + 4) ts := .list fun t _ => t.byFields.roundTrip
    cases e <;> exact decodePayload_record rfl (fun _ => rfl) (single_byFields _ _ hts) rfl
  | marketTrades c =>
    have hc : MarketTradesCreated.rowCodec.ByFields (n + 4) c := c.row_byFields hfits
    exact decodePayload_record rfl MarketTradesCreated.read_rowCodec hc rfl
  | myOrders e os =>
    have hos : Order.codec.list.RoundTrip (n + 4) os := .list fun o _ => o.roundTrip
    cases e <;> exact decodePayload_record rfl (fun _ => rfl) (single_byFields _ _ hos) rfl
  | balances bs =>
    have hbs : Balance.codec.list.RoundTrip (n + 4) bs := .list fun b _ => b.byFields.roundTrip
    exact decodePayload_record rfl (fun _ => rfl) (single_byFields _ _ hbs) rfl
  | balancesUpdated bs =>
    have hbs : UpdatedBalance.codec.list.RoundTrip (n + 4) bs := .list fun b _ => b.byFields.roundTrip
    exact decodePayload_record rfl (fun _ => rfl) (single_byFields _ _ hbs) rfl
  | consumption c =>
    have hc : MarketConsumption.codec.rows.RoundTrip (n + 4) c := c.byFields.row
    exact decodePayload_record rfl (read_single_rows _) (single_byFields "Consumption" "consumption" hc) rfl

/-! ### Envelopes -/

theorem decodeTopic_write (t : Topic) : decodeTopic (Topic.codec.write t).ordered = .ok t :=
  decodeTopic_ok.mpr ((t.roundTrip (n := 0)).reads .direct)

/-- The fields of an answer about what stands for a topic. -/
def Ack.fieldsAbout (topic : Json) : Fields Ack Ack :=
  mk <$> .required "topic" (anyDocument.writing fun _ => topic) Ack.topic
    <*> .required "action" Action.codec action
    <*> .required "success" .boolean success
    <*> .defaulted "error" .text error

/-- An answer without a reason may leave it out. -/
def Ack.members (topic : Json) (action : Action) (success : Bool) (reason : Option String) : Json.Members :=
  [("topic", topic), ("action", Action.codec.write action), ("success", .bool success)] ++
    reason.toList.map fun r => ("error", .string r)

theorem Ack.names_nodup (topic : Json) (action : Action) (success : Bool) (reason : Option String) :
    ("type" :: (members topic action success reason).map (·.1)).Nodup := by
  cases reason <;> simp [members]

lemma Ack.readAs_members {topic : Json} (h : topic.Plain n) (action : Action) (success : Bool)
    (reason : Option String) :
    readAs codec (withoutType (tagged word (members topic action success reason)).ordered) =
      .ok ⟨topic.ordered, action, success, reason⟩ := by
  have hreason : Codec.text.option.RoundTrip n reason :=
    .option (fun s _ => .text s) fun _ _ h => nomatch h
  have htrip : (fieldsAbout topic).RoundTrip n ⟨topic.ordered, action, success, reason⟩ :=
    (Fields.RoundTrip.required _ ⟨h, fun _ => rfl⟩).map _
      |>.seq (.required _ action.roundTrip)
      |>.seq (.required _ (.boolean _))
      |>.seq (.maybe _ _ hreason)
  have hn := names_nodup topic action success reason
  have hseen : ∀ s ∈ (fieldsAbout topic).slots, s.Seen ⟨topic.ordered, action, success, reason⟩
      (Json.member? s.name (Json.orderedMembers (members topic action success reason))) := by
    refine List.forall_mem_cons.mpr ⟨.inl rfl, List.forall_mem_cons.mpr ⟨.inl rfl,
      List.forall_mem_cons.mpr ⟨.inl rfl, List.forall_mem_singleton.mpr ?_⟩⟩⟩
    cases reason with
    | none => exact .inr ⟨by decide, rfl, rfl⟩
    | some r => exact .inl rfl
  have htype : "type" ∉ (fieldsAbout topic).slots.map (·.name) := by
    simp [fieldsAbout, Fields.required, Fields.defaulted, Fields.maybe]
  have hread : (Codec.record "AckFrame" (fieldsAbout topic)).read .direct (.object (Json.eraseMember "type"
      (Json.membersOf (taggedPairs word (members topic action success reason))))) =
        .ok ⟨topic.ordered, action, success, reason⟩ :=
    readMembers_tagged htrip hn htype hseen
  have halike : ∀ ms, codec.read .direct (.object ms) =
      (Codec.record "AckFrame" (fieldsAbout topic)).read .direct (.object ms) := by
    intro ms
    apply Codec.read_alike
    exact ⟨rfl, rfl⟩
  rw [ordered_tagged, withoutType, readAs, halike, hread]

lemma decodeDocument_ack (topic : Topic) (action : Action) (success : Bool) (reason : Option String) :
    (Envelope.ack topic action success reason).document.Plain (n + 2) ∧
      decodeDocument (Envelope.ack topic action success reason).document.ordered =
        .ok (.ack topic action success reason) := by
  have htopic : (Topic.codec.write topic).Plain (n + 1) := topic.roundTrip.plain
  have hdoc : (Envelope.ack topic action success reason).document =
      tagged "SubscriptionAck" (Ack.members (Topic.codec.write topic) action success reason) := rfl
  rw [hdoc]
  constructor
  · refine plain_tagged fun p hp => ?_
    simp only [Ack.members, List.cons_append, List.nil_append, List.mem_cons, List.mem_map] at hp
    rcases hp with rfl | rfl | rfl | ⟨r, -, rfl⟩
    · exact htopic
    · exact .string _
    · exact .bool _
    · exact .string _
  · have hword : typeOf (tagged "SubscriptionAck"
        (Ack.members (Topic.codec.write topic) action success reason)).ordered = some "SubscriptionAck" :=
      typeOf_tagged (Ack.names_nodup ..)
    unfold decodeDocument
    rw [hword]
    change (readAs Ack.codec _ >>= _) = _
    rw [Ack.readAs_members htopic]
    change (decodeTopic (Topic.codec.write topic).ordered >>= _) = _
    rw [decodeTopic_write]
    rfl

lemma decodeDocument_publication (topic : Topic) {p : Publication} (h : p.fits topic.kind = true) :
    (Envelope.publish topic p).document.Plain (n + 6) ∧
      decodeDocument (Envelope.publish topic p).document.ordered = .ok (.publish topic p) := by
  obtain ⟨hplain, hpayload⟩ := decodePayload_document (n := n) p h
  have htopic : (Topic.codec.write topic).Plain (n + 5) := topic.roundTrip.plain
  have hn : ("type" :: [("topic", Topic.codec.write topic), ("data", p.document)].map (·.1)).Nodup := by
    simp
  constructor
  · refine plain_tagged fun q hq => ?_
    simp only [List.mem_cons, List.not_mem_nil, or_false] at hq
    rcases hq with rfl | rfl
    · exact htopic
    · exact hplain
  · have hdoc : decodeDocument (Envelope.publish topic p).document.ordered = (do
        let t ← decodeTopic (Topic.codec.write topic).ordered
        return .publish t (← decodePayload t.kind p.document.ordered)) :=
      decodeDocument_publish (typeOf_tagged hn) (get?_tagged hn (by decide)) (get?_tagged hn (by decide))
    rw [hdoc, decodeTopic_write]
    change (decodePayload topic.kind p.document.ordered >>= _) = _
    rw [hpayload]
    rfl

lemma decodeDocument_document (e : Envelope) (h : e.fits = true) :
    e.document.Plain Json.depthLimit ∧ decodeDocument e.document.ordered = .ok e := by
  cases e with
  | heartbeat =>
    exact ⟨plain_tagged (n := 126) fun _ hp => (nomatch hp), rfl⟩
  | ack topic action success reason => exact decodeDocument_ack (n := 125) topic action success reason
  | publish topic p => exact decodeDocument_publication (n := 121) topic h

/-- Nothing is trimmed off the text of an object. -/
theorem trim_object (ms : Json.Members) : Text.trim (Json.object ms).text = (Json.object ms).text := by
  have htext : (Json.object ms).text = '\x7b' :: Json.membersText ms ++ ['\x7d'] := by
    rw [Json.text]
  rw [htext]
  refine Text.trim_eq_self (fun c hc => ?_) fun c hc => ?_
  · obtain rfl := Option.some.inj hc
    decide
  · rw [List.getLast?_concat] at hc
    obtain rfl := Option.some.inj hc
    decide

lemma document_text (e : Envelope) : ∃ ms, e.document = .object ms := by
  cases e <;> exact ⟨_, rfl⟩

/-- The text of an envelope holds its document. -/
theorem read_text (e : Envelope) (h : e.fits = true) :
    (Json.read (Text.trim e.text.toList)).toOption = some e.document.ordered := by
  obtain ⟨ms, hms⟩ := document_text e
  have htrim : Text.trim e.text.toList = e.document.text := by
    rw [Envelope.text, Json.compact, String.toList_ofList, hms]
    exact trim_object ms
  rw [htrim, (decodeDocument_document e h).1.read_text]
  rfl

lemma fromUTF8?_toUTF8 (s : String) : String.fromUTF8? s.toUTF8 = some s := dif_pos s.isValidUTF8

/-- A publication fits its frame if it is of the kind of its topic and the moments of market trades are
whole milliseconds. From a count of milliseconds the second half of a long second cannot be told from the
second after it. -/
theorem fits_iff (topic : Topic) (p : Publication) : (Envelope.publish topic p).fits = true ↔
    p.kind = topic.kind ∧ ∀ c, p = .marketTrades c → ∀ t ∈ c.trades,
      t.timestamp.nanos < 1000000000 ∧ t.timestamp.nanos % 1000000 = 0 := by
  cases p with
  | marketTrades c =>
    simp [Envelope.fits, Publication.fits, Timestamp.ofMillis?_toMillis_iff]
  | _ => simp [Envelope.fits, Publication.fits]

/-- A frame as the server writes it is decoded as its envelope. -/
theorem decode_written (e : Envelope) (h : e.fits = true) :
    (text e.text).decode = .ok e ∧ (binary e.text.toUTF8).decode = .ok e := by
  have hread := read_text e h
  obtain ⟨-, hdecode⟩ := decodeDocument_document e h
  constructor
  · rw [decode_of_document (f := text e.text) hread, hdecode]
  · have hdoc : (binary e.text.toUTF8).document? = some e.document.ordered := by
      rw [document?, content?, fromUTF8?_toUTF8]
      exact hread
    rw [decode_of_document hdoc, hdecode]

/-- New trades of a market, one of them. -/
def someTrades : Envelope :=
  .publish (.marketTrades ⟨"BTC/USDC"⟩) (.marketTrades ⟨7, ⟨"BTC/USDC"⟩,
    [⟨⟨"t\"1"⟩, .sell, ⟨false, 150, 2, by decide, by decide, by decide⟩, Decimal.zero, Decimal.zero,
      ⟨1700000000, 123000000, by decide, by decide, by decide⟩, "nobody", Decimal.zero⟩]⟩)

theorem someTrades_decoded :
    someTrades.text = "\x7b\"type\":\"Publish\"," ++
      "\"topic\":\x7b\"type\":\"MarketTrades\",\"marketId\":\"BTC/USDC\"\x7d," ++
      "\"data\":\x7b\"type\":\"MarketTradesCreated\",\"sequenceNumber\":7," ++
      "\"marketId\":\"BTC/USDC\",\"trades\":[[\"t\\\"1\",\"Sell\",\"1.50\",\"0\",\"0\"," ++
      "1700000000123,\"nobody\",\"0\"]]\x7d\x7d" ∧
    someTrades.fits = true ∧ (text someTrades.text).decode = .ok someTrades ∧
      (binary someTrades.text.toUTF8).decode = .ok someTrades :=
  ⟨by decide +kernel, by decide, decode_written someTrades (by decide)⟩

end Frame

end MarketFeed
