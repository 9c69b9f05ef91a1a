import Mathlib.Tactic.Lemma
import MarketFeed.Envelope.Decode

/-!
What publications are taken for. Each kind of topic has its own words for payloads, and each word tells
how the rest of the payload is read. A publication goes to the reader only as its word and its topic
together say, and a word that does not belong to the topic is told from one that belongs to none.
-/

namespace MarketFeed

open Schema

namespace Payload

/-- The value of the one member that a payload with a word holds. -/
def readMember {α : Type} (word name : String) (c : Codec α) (ms : Json.Members) : Except Mismatch α :=
  (Codec.record word (single name c)).read .direct (.object ms)

/-- The word of a payload under a kind of topic, and how its other members are read. -/
inductive Assigned : TopicKind → String → (Json.Members → Except Mismatch Publication) → Prop
  | orderBook : Assigned .orderBook "OrderBook" fun ms =>
    (OrderBook.codec.read .direct (.object ms)).map .orderBook
  | bookSnapshot : Assigned .incrementalOrderBook "OrderBook" fun ms =>
    (OrderBook.codec.read .direct (.object ms)).map .bookSnapshot
  | bookDiff : Assigned .incrementalOrderBook "OrderBookDiff" fun ms =>
    (OrderBookDiff.codec.read .direct (.object ms)).map .bookDiff
  | prices : Assigned .prices "Prices" fun ms => (Prices.codec.read .direct (.object ms)).map .prices
  | myTrades : Assigned .myTrades "MyTrades" fun ms =>
    (readMember "MyTrades" "trades" Trade.codec.list ms).map (.myTrades .snapshot)
  | myTradesCreated : Assigned .myTrades "MyTradesCreated" fun ms =>
    (readMember "MyTradesCreated" "trades" Trade.codec.list ms).map (.myTrades .created)
  | myTradesUpdated : Assigned .myTrades "MyTradesUpdated" fun ms =>
    (readMember "MyTradesUpdated" "trades" Trade.codec.list ms).map (.myTrades .updated)
  | marketTrades : Assigned .marketTrades "MarketTradesCreated" fun ms =>
    (MarketTradesCreated.codec.read .direct (.object ms)).map .marketTrades
  | myOrders : Assigned .myOrders "MyOrders" fun ms =>
    (readMember "MyOrders" "orders" Order.codec.list ms).map (.myOrders .snapshot)
  | myOrdersCreated : Assigned .myOrders "MyOrdersCreated" fun ms =>
    (readMember "MyOrdersCreated" "orders" Order.codec.list ms).map (.myOrders .created)
  | myOrdersUpdated : Assigned .myOrders "MyOrdersUpdated" fun ms =>
    (readMember "MyOrdersUpdated" "orders" Order.codec.list ms).map (.myOrders .updated)
  | balances : Assigned .balances "Balances" fun ms =>
    (readMember "Balances" "balances" Balance.codec.list ms).map .balances
  | balancesUpdated : Assigned .balances "BalancesUpdated" fun ms =>
    (readMember "BalancesUpdated" "balances" UpdatedBalance.codec.list ms).map .balancesUpdated
  | consumption : Assigned .consumption "Consumption" fun ms =>
    (readMember "Consumption" "consumption" MarketConsumption.codec ms).map .consumption

/-- Whether a word stands under a kind of topic. -/
def Allowed (kind : TopicKind) (word : String) : Prop := ∃ r, Assigned kind word r

/-- Whether a payload with a word replaces what is known of its topic. -/
def Replaces (word : String) (p : Publication) : Prop :=
  word ∈ ["OrderBook", "Consumption", "MyTrades", "MyOrders", "Balances"] ∨
    ∃ q, p = .prices q ∧ q.full = true

variable {kind : TopicKind} {word : String} {ms : Json.Members} {p : Publication}
  {r : Json.Members → Except Mismatch Publication}

theorem Assigned.form (h : Assigned kind word r) : ∃ form,
    (forms kind).find? (·.word = word) = some form ∧ ∀ ms, form.read (.object ms) = r ms := by
  cases h <;> simp [forms, Form.record, Form.member, readMember]

lemma Assigned.ne_empty (h : Assigned kind word r) : word ≠ "" := by
  cases h <;> decide

/-- A word under a kind of topic has one way to be read. -/
theorem Assigned.unique {r' : Json.Members → Except Mismatch Publication} (h : Assigned kind word r)
    (h' : Assigned kind word r') : r = r' := by
  obtain ⟨form, hf, hr⟩ := h.form
  obtain ⟨form', hf', hr'⟩ := h'.form
  obtain rfl := Option.some.inj (hf.symm.trans hf')
  funext ms
  rw [← hr, ← hr']

lemma assigned_of_mem {form : Form} (h : form ∈ forms kind) :
    Assigned kind form.word fun ms => form.read (.object ms) := by
  cases kind with
  | orderBook =>
    obtain rfl := List.mem_singleton.mp h
    exact .orderBook
  | incrementalOrderBook =>
    simp only [forms, List.mem_cons, List.not_mem_nil, or_false] at h
    obtain rfl | rfl := h
    · exact .bookSnapshot
    · exact .bookDiff
  | prices =>
    obtain rfl := List.mem_singleton.mp h
    exact .prices
  | myTrades =>
    simp only [forms, List.mem_cons, List.not_mem_nil, or_false] at h
    obtain rfl | rfl | rfl := h
    · exact .myTrades
    · exact .myTradesCreated
    · exact .myTradesUpdated
  | marketTrades =>
    obtain rfl := List.mem_singleton.mp h
    exact .marketTrades
  | myOrders =>
    simp only [forms, List.mem_cons, List.not_mem_nil, or_false] at h
    obtain rfl | rfl | rfl := h
    · exact .myOrders
    · exact .myOrdersCreated
    · exact .myOrdersUpdated
  | balances =>
    simp only [forms, List.mem_cons, List.not_mem_nil, or_false] at h
    obtain rfl | rfl := h
    · exact .balances
    · exact .balancesUpdated
  | consumption =>
    obtain rfl := List.mem_singleton.mp h
    exact .consumption

lemma allowed_iff : Allowed kind word ↔ ∃ form, (forms kind).find? (·.word = word) = some form := by
  refine ⟨fun ⟨r, h⟩ => h.form.imp fun _ hf => hf.1, fun ⟨form, hf⟩ => ?_⟩
  have hw : form.word = word := by simpa using List.find?_some hf
  exact hw ▸ ⟨_, assigned_of_mem (List.mem_of_find?_eq_some hf)⟩

/-- The known words are those that stand under some kind of topic. -/
theorem isKnown_iff : isKnown word = true ↔ ∃ kind, Allowed kind word := by
  refine ⟨fun h => ?_, fun ⟨kind, r, h⟩ => ?_⟩
  · simp only [isKnown, known, List.contains_eq_mem, List.mem_cons, List.not_mem_nil, or_false,
      decide_eq_true_eq] at h
    obtain rfl | rfl | rfl | rfl | rfl | rfl | rfl | rfl | rfl | rfl | rfl | rfl | rfl := h
    · exact ⟨_, _, .orderBook⟩
    · exact ⟨_, _, .bookDiff⟩
    · exact ⟨_, _, .prices⟩
    · exact ⟨_, _, .myTrades⟩
    · exact ⟨_, _, .myTradesCreated⟩
    · exact ⟨_, _, .myTradesUpdated⟩
    · exact ⟨_, _, .marketTrades⟩
    · exact ⟨_, _, .myOrders⟩
    · exact ⟨_, _, .myOrdersCreated⟩
    · exact ⟨_, _, .myOrdersUpdated⟩
    · exact ⟨_, _, .balances⟩
    · exact ⟨_, _, .balancesUpdated⟩
    · exact ⟨_, _, .consumption⟩
  · cases h <;> decide

/-- What was made of a value that was read. -/
theorem made_of_ok {α : Type} {x : Except Mismatch α} {make : α → Publication}
    (h : x.map make = .ok p) : ∃ a, p = make a := by
  cases x with
  | error e => cases h
  | ok a => exact ⟨a, (Except.ok.inj h).symm⟩

lemma Assigned.isSnapshot_iff (h : Assigned kind word r) (hr : r ms = .ok p) :
    p.isSnapshot = true ↔ Replaces word p := by
  cases h <;> obtain ⟨a, rfl⟩ := made_of_ok hr <;> simp [Publication.isSnapshot, Replaces]

end Payload

namespace Frame

/-- The text of a frame, if it is one. -/
def content? : Frame → Option String
  | text s => some s
  | binary bytes => String.fromUTF8? bytes

/-- The document in a frame, if there is one. -/
def document? (f : Frame) : Option Json :=
  f.content?.bind fun s => (Json.read (Text.trim s.toList)).toOption

/-- A frame publishes some data under what stands for a topic. -/
def Publishes (f : Frame) (topic data : Json) : Prop :=
  ∃ j, f.document? = some j ∧ typeOf j = some "Publish" ∧ j.get? "topic" = some topic ∧
    j.get? "data" = some data

/-- The word of a payload; without one it is empty. -/
def wordOf (data : Json) : String := (typeOf data).getD ""

variable {f : Frame} {j topic data : Json}

lemma decodeText_of_document {s : String} (h : (Json.read (Text.trim s.toList)).toOption = some j) :
    decodeText s = decodeDocument j := by
  unfold decodeText
  split
  · rename_i hs
    rw [hs, Json.read, Json.readFrom] at h
    cases h
  · cases hr : Json.read (Text.trim s.toList) with
    | error e =>
      rw [hr] at h
      cases h
    | ok k =>
      rw [hr] at h
      cases h
      rfl

theorem decode_of_document (h : f.document? = some j) : f.decode = decodeDocument j := by
  obtain ⟨s, hs, hj⟩ := Option.bind_eq_some_iff.mp h
  cases f with
  | text content =>
    cases hs
    exact decodeText_of_document hj
  | binary bytes =>
    have hb : String.fromUTF8? bytes = some s := hs
    rw [decode, hb]
    exact decodeText_of_document hj

lemma document_of_decodeText {s : String} {e : Envelope} (h : decodeText s = .ok e) :
    ∃ j, (Json.read (Text.trim s.toList)).toOption = some j ∧ decodeDocument j = .ok e := by
  unfold decodeText at h
  split at h
  · cases h
  · cases hr : Json.read (Text.trim s.toList) with
    | error e' =>
      rw [hr] at h
      cases h
    | ok j =>
      rw [hr] at h
      exact ⟨j, rfl, h⟩

lemma document_of_decode {e : Envelope} (h : f.decode = .ok e) :
    ∃ j, f.document? = some j ∧ decodeDocument j = .ok e := by
  cases f with
  | text content => exact document_of_decodeText h
  | binary bytes =>
    cases hs : String.fromUTF8? bytes with
    | none =>
      rw [decode, hs] at h
      cases h
    | some s =>
      rw [decode, hs] at h
      obtain ⟨j, hj, hd⟩ := document_of_decodeText h
      exact ⟨j, Option.bind_eq_some_iff.mpr ⟨s, hs, hj⟩, hd⟩

/-- What stands for the topic and for the data is any document. -/
theorem Publish.read_members (ms : Json.Members) : Publish.codec.read .direct (.object ms) =
    match Json.member? "topic" ms, Json.member? "data" ms with
    | some t, some d => .ok ⟨t, d⟩
    | some _, none => .error (.missingField "data")
    | none, _ => .error (.missingField "topic") := by
  have hfault : Fields.faultInMembers (Publish.mk <$> .required "topic" anyDocument topic
      <*> .required "data" anyDocument data) .direct ms = none := by
    refine List.findSome?_eq_none_iff.mpr fun p _ => ?_
    by_cases ht : "topic" = p.1
    · simp [Fields.slot?, Fields.required, ht, anyDocument, Fields.faultOf]
    · by_cases hd : "data" = p.1 <;> simp [Fields.slot?, Fields.required, ht, hd, anyDocument, Fields.faultOf]
  change Fields.readMembers _ .direct ms = _
  rw [Fields.readMembers, hfault]
  cases ht : Json.member? "topic" ms <;> cases hd : Json.member? "data" ms <;>
    simp [Fields.required, ht, hd, anyDocument, Except.map]

lemma eq_object_of_typeOf {word : String} (h : typeOf j = some word) : ∃ ms, j = .object ms := by
  cases j with
  | object ms => exact ⟨ms, rfl⟩
  | _ => cases h

/-- A document of this type is decoded as its topic and its data say, if it has both. -/
theorem decodeDocument_publish (h : typeOf j = some "Publish") (ht : j.get? "topic" = some topic)
    (hd : j.get? "data" = some data) : decodeDocument j = (do
      let t ← decodeTopic topic
      return .publish t (← decodePayload t.kind data)) := by
  obtain ⟨ms, rfl⟩ := eq_object_of_typeOf h
  have hr : readAs Publish.codec (withoutType (.object ms)) = .ok ⟨topic, data⟩ := by
    rw [readAs, withoutType, Publish.read_members, Json.member?_eraseMember, Json.member?_eraseMember,
      if_neg (by decide), if_neg (by decide), show Json.member? "topic" ms = some topic from ht,
      show Json.member? "data" ms = some data from hd]
  unfold decodeDocument
  rw [h]
  change (readAs Publish.codec (withoutType (.object ms)) >>= _) = _
  rw [hr]
  rfl

/-- Both steps of what succeeds succeed. -/
theorem ok_of_bind {ε α β : Type} {x : Except ε α} {k : α → Except ε β} {b : β}
    (h : x >>= k = .ok b) : ∃ a, x = .ok a ∧ k a = .ok b := by
  cases x with
  | error e => cases h
  | ok a => exact ⟨a, rfl, h⟩

/-- Only a document of this type, with a topic that can be read and with data, makes a publication. -/
theorem publish_of_decodeDocument {t : Topic} {p : Publication}
    (h : decodeDocument j = .ok (.publish t p)) : typeOf j = some "Publish" ∧
      ∃ topic data, j.get? "topic" = some topic ∧ j.get? "data" = some data ∧
        decodeTopic topic = .ok t ∧ decodePayload t.kind data = .ok p := by
  unfold decodeDocument at h
  split at h
  · cases h
  · cases h
  · obtain ⟨ack, -, h⟩ := ok_of_bind h
    obtain ⟨topic, -, h⟩ := ok_of_bind h
    cases h
  · rename_i hw
    obtain ⟨publish, hr, h⟩ := ok_of_bind h
    obtain ⟨topic, ht, h⟩ := ok_of_bind h
    obtain ⟨payload, hp, h⟩ := ok_of_bind h
    cases h
    obtain ⟨ms, rfl⟩ := eq_object_of_typeOf hw
    rw [readAs, withoutType, Publish.read_members, Json.member?_eraseMember, Json.member?_eraseMember,
      if_neg (by decide), if_neg (by decide)] at hr
    cases hmt : Json.member? "topic" ms with
    | none =>
      rw [hmt] at hr
      cases hr
    | some topic =>
      cases hmd : Json.member? "data" ms with
      | none =>
        rw [hmt, hmd] at hr
        cases hr
      | some data =>
        rw [hmt, hmd] at hr
        cases hr
        exact ⟨hw, topic, data, hmt, hmd, ht, hp⟩
  · cases h

theorem decodeTopic_ok {t : Topic} : decodeTopic j = .ok t ↔ Topic.codec.read .direct j = .ok t := by
  unfold decodeTopic
  cases Topic.codec.read .direct j <;> simp

/-! ### Payloads -/

/-- A word that stands under the kind of topic decides how the payload is read. -/
theorem decodePayload_assigned {kind : TopicKind} {r : Json.Members → Except Mismatch Publication}
    (h : Payload.Assigned kind (wordOf data) r) : ∃ ms, data = .object ms ∧
      typeOf data = some (wordOf data) ∧ decodePayload kind data =
        match r (Json.eraseMember "type" ms) with
        | .ok p => .ok p
        | .error e => .error (.misfit e) := by
  have hne : wordOf data ≠ "" := h.ne_empty
  have ht : typeOf data = some (wordOf data) := by
    unfold wordOf at hne ⊢
    cases hw : typeOf data with
    | none =>
      rw [hw] at hne
      exact absurd rfl hne
    | some word => rfl
  obtain ⟨ms, rfl⟩ := eq_object_of_typeOf ht
  obtain ⟨form, hf, hr⟩ := h.form
  refine ⟨ms, rfl, ht, ?_⟩
  unfold decodePayload
  dsimp only
  rw [show ((typeOf (.object ms)).getD "") = wordOf (.object ms) from rfl, hf]
  dsimp only
  rw [← hr]
  rfl

/-- Another word is known or not. -/
theorem decodePayload_other {kind : TopicKind} (h : ¬ Payload.Allowed kind (wordOf data)) :
    decodePayload kind data = .error (if Payload.isKnown (wordOf data)
      then .payloadMismatch kind (wordOf data) else .unknownPayload kind (wordOf data)) := by
  have hf : (Payload.forms kind).find? (·.word = wordOf data) = none :=
    Option.eq_none_iff_forall_ne_some.mpr fun form hf => h (Payload.allowed_iff.mpr ⟨form, hf⟩)
  unfold decodePayload
  dsimp only
  rw [show ((typeOf data).getD "") = wordOf data from rfl, hf]
  dsimp only
  split <;> rfl

/-! ### Publications -/

/-- What becomes of a frame that publishes. -/
structure Classified (f : Frame) : Prop where
  /-- A publication says what the frame says, by the word of its payload and the kind of its topic. -/
  sound : ∀ t p, f.decode = .ok (.publish t p) → ∃ topic ms word r,
    f.Publishes topic (.object ms) ∧ Topic.codec.read .direct topic = .ok t ∧
      typeOf (.object ms) = some word ∧ Payload.Assigned t.kind word r ∧
        r (Json.eraseMember "type" ms) = .ok p ∧ (p.isSnapshot = true ↔ Payload.Replaces word p)
  /-- A word that stands under the kind of topic has its payload read, or the fault of reading it. -/
  fitting : ∀ topic data t r, f.Publishes topic data → Topic.codec.read .direct topic = .ok t →
    Payload.Assigned t.kind (wordOf data) r → ∃ ms, data = .object ms ∧
      typeOf data = some (wordOf data) ∧ f.decode =
        match r (Json.eraseMember "type" ms) with
        | .ok p => .ok (.publish t p)
        | .error e => .error (.misfit e)
  /-- Other words are told apart by whether they stand under another kind of topic. -/
  mismatch : ∀ topic data t, f.Publishes topic data → Topic.codec.read .direct topic = .ok t →
    ∀ kind word, f.decode = .error (.payloadMismatch kind word) ↔ kind = t.kind ∧ word = wordOf data ∧
      ¬ Payload.Allowed t.kind word ∧ ∃ other, Payload.Allowed other word
  unknown : ∀ topic data t, f.Publishes topic data → Topic.codec.read .direct topic = .ok t →
    ∀ kind word, f.decode = .error (.unknownPayload kind word) ↔ kind = t.kind ∧ word = wordOf data ∧
      ∀ other, ¬ Payload.Allowed other word
  /-- A topic that cannot be read is the fault, whatever the data. -/
  strange : ∀ topic data e, f.Publishes topic data → Topic.codec.read .direct topic = .error e →
    f.decode = .error (.unknownTopic ((typeOf topic).getD topic.compact) e)

lemma decode_of_publishes (h : f.Publishes topic data) : f.decode = (do
    let t ← decodeTopic topic
    return .publish t (← decodePayload t.kind data)) := by
  obtain ⟨j, hj, hw, ht, hd⟩ := h
  rw [decode_of_document hj, decodeDocument_publish hw ht hd]

lemma decode_of_topic {t : Topic} (h : f.Publishes topic data)
    (ht : Topic.codec.read .direct topic = .ok t) :
    f.decode = (decodePayload t.kind data).map (.publish t) := by
  rw [decode_of_publishes h, decodeTopic_ok.mpr ht]
  cases hp : decodePayload t.kind data with
  | error e =>
    change (decodePayload t.kind data >>= _) = _
    rw [hp]
    rfl
  | ok p =>
    change (decodePayload t.kind data >>= _) = _
    rw [hp]
    rfl

theorem decode_fitting {t : Topic} {r : Json.Members → Except Mismatch Publication}
    (h : f.Publishes topic data) (ht : Topic.codec.read .direct topic = .ok t)
    (hr : Payload.Assigned t.kind (wordOf data) r) : ∃ ms, data = .object ms ∧
      typeOf data = some (wordOf data) ∧ f.decode =
        match r (Json.eraseMember "type" ms) with
        | .ok p => .ok (.publish t p)
        | .error e => .error (.misfit e) := by
  obtain ⟨ms, hd, hw, hp⟩ := decodePayload_assigned hr
  refine ⟨ms, hd, hw, ?_⟩
  rw [decode_of_topic h ht, hp]
  cases r (Json.eraseMember "type" ms) <;> rfl

theorem decode_other {t : Topic} (h : f.Publishes topic data)
    (ht : Topic.codec.read .direct topic = .ok t) (hn : ¬ Payload.Allowed t.kind (wordOf data)) :
    f.decode = .error (if Payload.isKnown (wordOf data)
      then .payloadMismatch t.kind (wordOf data) else .unknownPayload t.kind (wordOf data)) := by
  rw [decode_of_topic h ht, decodePayload_other hn]
  rfl

/-- A word under the kind of topic is no fault of its own. -/
theorem decode_ne_of_allowed {t : Topic} (h : f.Publishes topic data)
    (ht : Topic.codec.read .direct topic = .ok t) (ha : Payload.Allowed t.kind (wordOf data))
    (kind : TopicKind) (word : String) : f.decode ≠ .error (.payloadMismatch kind word) ∧
      f.decode ≠ .error (.unknownPayload kind word) := by
  obtain ⟨r, hr⟩ := ha
  obtain ⟨ms, -, -, hd⟩ := decode_fitting h ht hr
  rw [hd]
  cases r (Json.eraseMember "type" ms) <;> simp

/-- A word stands under the kind of topic, or only under another kind, or under none. -/
theorem decode_verdict {t : Topic} (h : f.Publishes topic data)
    (ht : Topic.codec.read .direct topic = .ok t) :
    (Payload.Allowed t.kind (wordOf data) ∧ ∀ kind word,
      f.decode ≠ .error (.payloadMismatch kind word) ∧ f.decode ≠ .error (.unknownPayload kind word)) ∨
    (¬ Payload.Allowed t.kind (wordOf data) ∧ (∃ other, Payload.Allowed other (wordOf data)) ∧
      f.decode = .error (.payloadMismatch t.kind (wordOf data))) ∨
    ((∀ other, ¬ Payload.Allowed other (wordOf data)) ∧
      f.decode = .error (.unknownPayload t.kind (wordOf data))) := by
  by_cases ha : Payload.Allowed t.kind (wordOf data)
  · exact .inl ⟨ha, decode_ne_of_allowed h ht ha⟩
  · have hd := decode_other h ht ha
    by_cases hk : Payload.isKnown (wordOf data) = true
    · rw [if_pos hk] at hd
      exact .inr (.inl ⟨ha, Payload.isKnown_iff.mp hk, hd⟩)
    · rw [if_neg hk] at hd
      exact .inr (.inr ⟨not_exists.mp (mt Payload.isKnown_iff.mpr hk), hd⟩)

theorem mismatch_iff {t : Topic} (h : f.Publishes topic data)
    (ht : Topic.codec.read .direct topic = .ok t) (kind : TopicKind) (word : String) :
    f.decode = .error (.payloadMismatch kind word) ↔ kind = t.kind ∧ word = wordOf data ∧
      ¬ Payload.Allowed t.kind word ∧ ∃ other, Payload.Allowed other word := by
  obtain ⟨ha, hne⟩ | ⟨hn, hother, hd⟩ | ⟨hnone, hd⟩ := decode_verdict h ht
  · refine ⟨fun hf => absurd hf (hne kind word).1, ?_⟩
    rintro ⟨-, rfl, hn, -⟩
    exact absurd ha hn
  · rw [hd]
    grind
  · rw [hd]
    grind

theorem unknown_iff {t : Topic} (h : f.Publishes topic data)
    (ht : Topic.codec.read .direct topic = .ok t) (kind : TopicKind) (word : String) :
    f.decode = .error (.unknownPayload kind word) ↔ kind = t.kind ∧ word = wordOf data ∧
      ∀ other, ¬ Payload.Allowed other word := by
  obtain ⟨ha, hne⟩ | ⟨hn, hother, hd⟩ | ⟨hnone, hd⟩ := decode_verdict h ht
  · refine ⟨fun hf => absurd hf (hne kind word).2, ?_⟩
    rintro ⟨-, rfl, hnone⟩
    exact absurd ha (hnone t.kind)
  · rw [hd]
    grind
  · rw [hd]
    grind

theorem decode_strange {e : Mismatch} (h : f.Publishes topic data)
    (ht : Topic.codec.read .direct topic = .error e) :
    f.decode = .error (.unknownTopic ((typeOf topic).getD topic.compact) e) := by
  have hd : decodeTopic topic = .error (.unknownTopic ((typeOf topic).getD topic.compact) e) := by
    rw [decodeTopic, ht]
  rw [decode_of_publishes h, hd]
  rfl

/-- A payload that was read stands under the kind of topic, and was read as its word says. -/
theorem assigned_of_decodePayload {kind : TopicKind} {p : Publication}
    (h : decodePayload kind data = .ok p) : ∃ ms r, data = .object ms ∧
      typeOf data = some (wordOf data) ∧ Payload.Assigned kind (wordOf data) r ∧
        r (Json.eraseMember "type" ms) = .ok p := by
  by_cases ha : Payload.Allowed kind (wordOf data)
  · obtain ⟨r, hr⟩ := ha
    obtain ⟨ms, hms, hword, hpay⟩ := decodePayload_assigned hr
    refine ⟨ms, r, hms, hword, hr, ?_⟩
    rw [hpay] at h
    cases hm : r (Json.eraseMember "type" ms) with
    | error e =>
      rw [hm] at h
      cases h
    | ok q =>
      rw [hm] at h
      exact congrArg _ (Except.ok.inj h)
  · rw [decodePayload_other ha] at h
    cases h

theorem publications_classified (f : Frame) : f.Classified where
  sound t p h := by
    obtain ⟨j, hj, hd⟩ := document_of_decode h
    obtain ⟨hw, topic, data, ht, hdata, hread, hp⟩ := publish_of_decodeDocument hd
    obtain ⟨ms, r, rfl, hword, hr, hok⟩ := assigned_of_decodePayload hp
    exact ⟨topic, ms, _, r, ⟨j, hj, hw, ht, hdata⟩, decodeTopic_ok.mp hread, hword, hr, hok,
      hr.isSnapshot_iff hok⟩
  fitting _ _ _ _ h ht hr := decode_fitting h ht hr
  mismatch _ _ _ h ht := mismatch_iff h ht
  unknown _ _ _ h ht := unknown_iff h ht
  strange _ _ _ h ht := decode_strange h ht

end Frame

end MarketFeed
