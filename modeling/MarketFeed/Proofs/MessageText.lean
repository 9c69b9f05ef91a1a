import MarketFeed.Proofs.Frames
import MarketFeed.Session.PendingAcks

/-!
Messages to the server as texts. A message is all that its frame says, so two messages never look the
same on the wire. A topic that the server repeats as it stood in a request is that topic again, and the
answer finds the request that awaits it.
-/

namespace MarketFeed

open Schema Fields.RoundTrip

theorem Feature.roundTrip {n : Nat} (f : Feature) : Feature.codec.RoundTrip (n + 2) f := by
  have hmarkets : Id.codec.list.RoundTrip (n + 1) f.markets := .list fun i _ => i.roundTrip
  have hnames : (Choice.tagName :: cancelVariant.fields.slots.map (·.name)).Nodup := by decide
  exact Choice.roundTrip (c := choice) rfl ((required _ hmarkets).map _) rfl hnames

theorem FeatureKind.roundTrip {n : Nat} (k : FeatureKind) : FeatureKind.codec.RoundTrip n k :=
  .vocabulary (by cases k; decide) (by decide)

namespace Message

theorem find_variant (m : Message) :
    choice.variants.find? (·.tag = (choice.variantOf m).tag) = some (choice.variantOf m) := by
  cases m <;> rfl

theorem fields_roundTrip {n : Nat} (m : Message) : (choice.variantOf m).fields.RoundTrip (n + 2) m := by
  cases m with
  | ping => exact .pure _
  | subscribe t | unsubscribe t => exact (required _ t.roundTrip).map _
  | setFeature f => exact (required _ f.roundTrip).map _
  | unsetFeature k => exact (required _ k.roundTrip).map _

theorem names_nodup : ∀ v ∈ choice.variants, (Choice.tagName :: v.fields.slots.map (·.name)).Nodup := by
  decide

theorem roundTrip {n : Nat} (m : Message) : codec.RoundTrip (n + 3) m := by
  have hview : (choice.variantOf m).fields.view m = m := by cases m <;> rfl
  exact Choice.roundTrip m.find_variant m.fields_roundTrip hview
    (names_nodup _ (List.mem_of_find?_eq_some m.find_variant))

/-- The document in the frame of a request, which repeats the document of its topic. -/
theorem get?_topic (a : Action) (t : Topic) :
    (codec.write (ofAction a t)).ordered.get? "topic" = some (Topic.codec.write t).ordered := by
  have hn : ("type" :: [("topic", Topic.codec.write t)].map (·.1)).Nodup := by simp
  have hk : "topic" ≠ "type" := by decide
  cases a <;> exact Frame.get?_tagged hn hk

end Message

namespace Frame

variable {f : Frame} {doc topic : Json} {t : Topic}

/-- An answer is about the topic that stands in it. -/
theorem topic_of_readAs {ack : Ack} (h : readAs Ack.codec (withoutType doc) = .ok ack)
    (ht : doc.get? "topic" = some topic) : ack.topic = topic := by
  cases doc with
  | object ms =>
    have hread : Ack.codec.read .direct (.object (Json.eraseMember "type" ms)) = .ok ack := by
      rw [withoutType, readAs] at h
      split at h
      · rename_i hr
        rw [hr]
        exact congrArg Except.ok (Except.ok.inj h)
      · cases h
    change Fields.readMembers _ .direct (Json.eraseMember "type" ms) = _ at hread
    rw [Fields.readMembers] at hread
    split at hread
    · cases hread
    · obtain ⟨_, error, hsuccess, -, hack⟩ := Fields.build_seq_ok.mp hread
      obtain ⟨_, success, haction, -, rfl⟩ := Fields.build_seq_ok.mp hsuccess
      obtain ⟨_, action, htopic, -, rfl⟩ := Fields.build_seq_ok.mp haction
      obtain ⟨j, hj, rfl⟩ := Fields.build_map_ok.mp htopic
      obtain ⟨k, hk, hkj⟩ := Fields.build_required_ok.mp hj
      rw [Json.member?_eraseMember, if_neg (by decide)] at hk
      cases hkj
      rw [hack]
      exact Option.some.inj (hk.symm.trans ht)
  | _ => cases ht

/-- The answer to a request about a topic that can be read is decoded, or it misfits elsewhere. -/
theorem decode_ack (hf : f.document? = some doc) (hw : typeOf doc = some "SubscriptionAck")
    (ht : doc.get? "topic" = some topic) (hd : decodeTopic topic = .ok t) :
    f.decode = (readAs Ack.codec (withoutType doc)).map fun k => .ack t k.action k.success k.error := by
  rw [decode_of_document hf]
  unfold decodeDocument
  rw [hw]
  change (readAs Ack.codec (withoutType doc) >>= _) = _
  cases hr : readAs Ack.codec (withoutType doc) with
  | error e => rfl
  | ok ack =>
    have htopic := topic_of_readAs hr ht
    change (decodeTopic ack.topic >>= _) = _
    rw [htopic, hd]
    rfl

end Frame

namespace PendingAcks

/-- An answer is awaited exactly if its session is the one that is awaited and its request is pending. -/
theorem resolve?_isSome (p : PendingAcks) (g : Generation) (r : Request) :
    (p.resolve? g r).isSome = true ↔ p.generation = some g ∧ p.isPending r = true := by
  have hcount : ∀ cs, (countDown r cs).isSome = cs.any (·.1 = r) := by
    intro cs
    induction cs with
    | nil => rfl
    | cons c cs ih =>
      obtain ⟨s, n⟩ := c
      by_cases hs : s = r <;> simp [countDown, hs, ih]
  by_cases hg : p.generation = some g <;> simp [resolve?, isPending, hg, hcount]

end PendingAcks

/-- What stands for a topic in the frame of a request is that topic wherever it is repeated. -/
structure Request.Echoed (r : Request) (echo : Json) : Prop where
  /-- It is what stands in the frame. -/
  sent : ∃ doc, Json.read (Message.ofAction r.action r.topic).frameText.toList = .ok doc ∧
    doc.get? "topic" = some echo
  /-- It is the topic's own text, too. -/
  alone : Json.read (Topic.codec.writeText r.topic).toList = .ok echo
  decoded : Frame.decodeTopic echo = .ok r.topic
  /-- An answer that repeats it is about the topic, whatever else it says. -/
  answered : ∀ (f : Frame) (doc : Json), f.document? = some doc →
    Frame.typeOf doc = some "SubscriptionAck" → doc.get? "topic" = some echo →
      f.decode = (Frame.readAs Frame.Ack.codec (Frame.withoutType doc)).map fun k =>
        .ack r.topic k.action k.success k.error
  /-- The request is found if it is pending. -/
  awaited : ∀ (p : PendingAcks) (g : Generation) (t : Topic), Frame.decodeTopic echo = .ok t →
    ((p.resolve? g ⟨t, r.action⟩).isSome = true ↔ p.generation = some g ∧ p.isPending r = true)

theorem Request.echoed (r : Request) : r.Echoed (Topic.codec.write r.topic).ordered where
  sent := ⟨_, (Message.roundTrip (n := 124) _).document, Message.get?_topic r.action r.topic⟩
  alone := (r.topic.roundTrip (n := 126)).document
  decoded := Frame.decodeTopic_write r.topic
  answered f doc hf hw ht := Frame.decode_ack hf hw ht (Frame.decodeTopic_write r.topic)
  awaited p g t ht := by
    obtain rfl : r.topic = t := Except.ok.inj ((Frame.decodeTopic_write r.topic).symm.trans ht)
    exact p.resolve?_isSome g r

/-- Messages and topics are read back from their texts, which tell them apart, and the server's echo of a
topic is the topic. -/
theorem message_texts_unambiguous :
    (∀ m : Message, Message.codec.readText m.frameText = some m) ∧
      (∀ m m' : Message, m ≠ m' → m.frameText ≠ m'.frameText) ∧
      (∀ t : Topic, Topic.codec.readText (Topic.codec.writeText t) = some t) ∧
      (∀ t t' : Topic, t ≠ t' → Topic.codec.writeText t ≠ Topic.codec.writeText t') ∧
      ∀ r : Request, ∃ echo, r.Echoed echo := by
  have message (m : Message) : Message.codec.RoundTrip Json.depthLimit m := m.roundTrip (n := 124)
  have topic (t : Topic) : Topic.codec.RoundTrip Json.depthLimit t := t.roundTrip (n := 126)
  refine ⟨fun m => (message m).readText, fun m m' hne h => ?_, fun t => (topic t).readText,
    fun t t' hne h => ?_, fun r => ⟨_, r.echoed⟩⟩
  · exact hne ((message m).eq_of_writeText (message m') h)
  · exact hne ((topic t).eq_of_writeText (topic t') h)

end MarketFeed
