import MarketFeed.Proofs.Lifecycle

/-!
Closing. The first request that finds the client open is recorded, and so is the loss of the last
handle. One connection at most is closed with what is recorded, and nothing goes out after that.
-/

namespace MarketFeed

open History

/-- A connection is closed, or its session ends for another cause. -/
def History.EndsLink (g : Generation) (n : Nat) (os : List Occurrence) : Prop :=
  (∃ frame, .linkClosed g n frame ∈ os) ∨ (∃ cause, .lost g cause ∈ os) ∨ .brokeDown ∈ os

theorem History.EndsLink.mono {g : Generation} {n : Nat} {os ps : List Occurrence}
    (h : EndsLink g n os) (hs : os ⊆ ps) : EndsLink g n ps :=
  h.imp (fun ⟨frame, hf⟩ => ⟨frame, hs hf⟩) (Or.imp (fun ⟨cause, hl⟩ => ⟨cause, hs hl⟩) (@hs _))

/-- What a request that finds the client open asks to close with. -/
def Occurrence.closes? : Occurrence → Option CloseFrame
  | closeAsked found frame => if found.isTerminal then none else some frame
  | _ => none

/-- What a connection is closed with. -/
def Occurrence.farewell? : Occurrence → Option CloseFrame
  | linkClosed _ _ frame => some frame
  | _ => none

/-- What goes to the connector or to a connection. -/
def Occurrence.isOutward : Occurrence → Bool
  | dialed .. | writing .. | linkClosed .. => true
  | _ => false

/-- The requests that found the client open. -/
def History.closeRequests (j : List Entry) : List CloseFrame := view Occurrence.closes? j

/-- What connections were closed with. -/
def History.farewells (j : List Entry) : List CloseFrame := view Occurrence.farewell? j

lemma Occurrence.farewell?_of_not_outward {o : Occurrence} (h : o.isOutward = false) :
    o.farewell? = none := by
  cases o <;> first | rfl | cases h

/-- Whether the worker has left its last session or attempt. -/
def Stage.isDeparted : Stage → Bool
  | leaving | releasing | gone => true
  | _ => false

/-- How many steps of its worker a session takes at most, once a close was signalled, until it ends, when
the worker looks for the signal next. -/
def Activity.toClose : Activity → Nat
  | opening | listening _ => 1
  | replaying rest => 2 * rest.length + 2
  | writing _ (.replay rest) => 2 * rest.length + 3
  | writing _ (.listen _) => 2

lemma Activity.toClose_pos (a : Activity) : 0 < a.toClose := by
  unfold toClose
  split <;> exact Nat.succ_pos _

theorem Stage.not_departed_of_awaits {p : Stage} (h : p.awaits = true) : p.isDeparted = false := by
  cases p <;> first | rfl | cases h

/-- Where a list that was continued is cut. -/
theorem append_cut {α : Type} {l m before after : List α} {x : α} (h : l ++ m = before ++ x :: after) :
    (∃ mid, l = before ++ x :: mid ∧ after = mid ++ m) ∨
      ∃ lead, before = l ++ lead ∧ m = lead ++ x :: after := by
  rcases List.append_eq_append_iff.mp h with ⟨lead, hb, hm⟩ | ⟨mid, hl, ha⟩
  · exact .inr ⟨lead, hb, hm⟩
  · cases mid with
    | nil => exact .inr ⟨[], by simpa using hl.symm, ha.symm⟩
    | cons y mid =>
      obtain ⟨rfl, rfl⟩ := List.cons.inj ha
      exact .inl ⟨mid, hl, rfl⟩

namespace Client

variable {c d : Client} {e : Event} {os : List Occurrence} {config : Config}
  {tokens : Nat → Option String}

/-! ### What is recorded -/

/-- What a client is to be closed with, and where it comes from. -/
structure Recorded (c : Client) : Prop where
  source : ∀ frame, c.shared.closeFrame = some frame → closeRequests c.journal = [frame] ∨
    closeRequests c.journal = [] ∧ frame = .normal ∧ .handleDropped 0 ∈ happened c.journal
  unasked : c.shared.closeFrame = none → closeRequests c.journal = []
  unclosed : c.state.isTerminal = false → c.shared.closeFrame = none
  closing : c.state = .closing → c.shared.closeFrame ≠ none
  deserted : c.handles = 0 → .handleDropped 0 ∈ happened c.journal

/-- Nothing new is recorded. -/
theorem Recorded.frame (h : c.Recorded) (hf : d.shared.closeFrame = c.shared.closeFrame)
    (hs : d.state = .closing → c.state = .closing)
    (ht : d.state.isTerminal = false → c.state.isTerminal = false)
    (hn : d.handles = 0 → .handleDropped 0 ∈ happened d.journal)
    (hq : closeRequests d.journal = closeRequests c.journal)
    (hh : ∀ o ∈ happened c.journal, o ∈ happened d.journal) : d.Recorded := by
  refine ⟨fun frame he => ?_, fun he => ?_, fun ho => ?_, fun hc => ?_, hn⟩
  · rw [hq]
    exact (h.source frame (hf ▸ he)).imp_right fun ⟨hq, hn, hd⟩ => ⟨hq, hn, hh _ hd⟩
  · rw [hq]
    exact h.unasked (hf ▸ he)
  · rw [hf]
    exact h.unclosed (ht ho)
  · rw [hf]
    exact h.closing (hs hc)

/-- The last handle is gone. -/
theorem Recorded.desert (h : c.Recorded) (ho : c.state.isTerminal = false) (hn : c.handles = 0)
    (hs : d.state = .closing) (hf : d.shared.closeFrame = some .normal)
    (hq : closeRequests d.journal = closeRequests c.journal)
    (hh : ∀ o ∈ happened c.journal, o ∈ happened d.journal) : d.Recorded := by
  have hd := hh _ (h.deserted hn)
  refine ⟨fun frame he => .inr ⟨hq.trans (h.unasked (h.unclosed ho)), ?_, hd⟩, fun he => ?_,
    fun ht => ?_, fun _ he => ?_, fun _ => hd⟩
  · exact (Option.some.inj (hf.symm.trans he)).symm
  · cases hf.symm.trans he
  · rw [hs] at ht
    cases ht
  · cases hf.symm.trans he

theorem Deed.recorded (hd : Deed e c os d) (h : c.Recorded) : d.Recorded := by
  have hq : closeRequests d.journal = closeRequests c.journal ++ os.filterMap Occurrence.closes? :=
    hd.shown fun _ _ => rfl
  have quiet {l : List CloseFrame} (hq : l = closeRequests c.journal ++ []) : l = closeRequests c.journal :=
    hq.trans (List.append_nil _)
  have ha := hd.adds
  have hh (o : Occurrence) (ho : o ∈ happened c.journal) : o ∈ happened d.journal := by
    rw [ha]
    exact List.mem_append_left _ ho
  have hn (h0 : c.handles = 0) : .handleDropped 0 ∈ happened d.journal := hh _ (h.deserted h0)
  cases hd with
  | close frame ho =>
    have hask : [Occurrence.closeAsked c.state frame, .published .closing].filterMap
        Occurrence.closes? = [frame] := by
      simp [Occurrence.closes?, ho]
    rw [hask, h.unasked (h.unclosed ho)] at hq
    refine ⟨fun f he => ?_, fun he => (nomatch he), fun ht => (nomatch ht), fun _ he => (nomatch he), hn⟩
    cases he
    exact .inl hq
  | closeAgain frame ht =>
    have hask : [Occurrence.closeAsked c.state frame].filterMap Occurrence.closes? = [] := by
      simp [Occurrence.closes?, ht]
    rw [hask] at hq
    exact h.frame rfl id id hn (quiet hq) hh
  | clone _ => exact h.frame rfl id id (fun h0 => nomatch h0) (quiet hq) hh
  | dropHandle _ =>
    refine h.frame rfl id id (fun h0 => ?_) (quiet hq) hh
    have h0 : c.handles - 1 = 0 := h0
    rw [ha, h0]
    exact List.mem_append_right _ (List.mem_singleton_self _)
  | attempt _ ho | announce _ _ ho | pause _ _ _ _ ho | giveUp _ _ ho =>
    exact h.frame rfl (fun hn => nomatch hn) (fun _ => ho) hn (quiet hq) hh
  | departAlone _ _ _ ho h0 | leaveAlone _ _ ho h0 => exact h.desert ho h0 rfl rfl (quiet hq) hh
  | finish => exact h.frame rfl (fun hn => nomatch hn) (fun ht => nomatch ht) hn (quiet hq) hh
  | latePatience _ _ a | hangUp _ _ _ a => cases a <;> exact h.frame rfl id id hn (quiet hq) hh
  | _ => exact h.frame rfl id id hn (quiet hq) hh

theorem Reachable.recorded
    (h : Reachable config tokens c) : c.Recorded :=
  h.invariant ⟨fun _ he => (nomatch he), fun _ => rfl, fun _ => rfl, fun hs => (nomatch hs),
    fun h0 => (nomatch h0)⟩ fun _ hd ih => hd.recorded ih

/-- Nothing is recorded after the first close. -/
theorem Deed.record_eq (hd : Deed e c os d) (ht : c.state.isTerminal = true) :
    d.shared.closeFrame = c.shared.closeFrame := by
  cases hd with
  | close _ ho | departAlone _ _ _ ho | leaveAlone _ _ ho => cases ho.symm.trans ht
  | latePatience _ _ a | hangUp _ _ _ a => cases a <;> rfl
  | _ => rfl

/-- What is recorded stays. -/
theorem Deed.keepsRecord {frame : CloseFrame} (hd : Deed e c os d) (h : c.Recorded)
    (hf : c.shared.closeFrame = some frame) : d.shared.closeFrame = some frame := by
  have ht : c.state.isTerminal = true :=
    Bool.of_not_eq_false fun ho => nomatch hf.symm.trans (h.unclosed ho)
  rw [hd.record_eq ht, hf]

/-! ### The last of what goes out -/

/-- Nothing has happened at the start. -/
theorem initial_uncut {before after : List Occurrence} {o : Occurrence} :
    happened (initial config tokens).journal ≠ before ++ o :: after := by
  intro hj
  exact List.append_ne_nil_of_right_ne_nil _ (List.cons_ne_nil _ _) (hj.symm.trans rfl)

/-- A worker that has left its last session or attempt does not go back, and nothing goes out. -/
theorem Deed.departed (hd : Deed e c os d) (hc : c.worker.stage.isDeparted = true) :
    d.worker.stage.isDeparted = true ∧ (∀ o ∈ os, o.isOutward = false) ∧ ∀ g n, .opened g n ∉ os := by
  have away {p : Stage} (hw : c.worker.stage = p) (hp : p.isDeparted = false) : False := by
    rw [hw] at hc
    cases hp.symm.trans hc
  cases hd with
  | rest | ask | direct | refuse | close | closeAgain | signal | clone | dropHandle | read | readEnd
  | dropStream | pass | look => exact ⟨hc, by simp [Occurrence.isOutward], by simp⟩
  | finish | release => exact ⟨rfl, by simp [Occurrence.isOutward], by simp⟩
  | leave _ _ hw => exact (hw.elim (away · rfl) fun hw => hw.elim (away · rfl) (away · rfl)).elim
  | failAttempt _ _ hw => exact (hw.elim (away · rfl) (away · rfl)).elim
  | crash _ _ hw => exact (away rfl (Stage.not_departed_of_awaits hw)).elim
  | tend _ _ _ hw | meet _ _ hw | attempt hw | abandon hw | dial _ hw | announce _ hw | decline _ hw
  | replay _ _ _ hw | listen _ _ hw | lateHeartbeat _ hw | written _ _ _ _ hw | refused _ _ _ hw
  | depart _ _ hw | departLate _ _ hw | execute _ _ _ _ hw | skip _ _ _ _ hw | departAlone _ _ hw
  | latePatience _ _ _ hw | hangUp _ _ _ _ hw | deliver _ _ _ _ _ _ _ _ hw | withhold _ _ _ _ _ _ _ _ _ _ hw
  | misread _ _ _ _ _ _ hw | despair _ _ _ _ hw | idle _ _ hw | beat _ _ _ hw | pause _ _ _ hw
  | giveUp _ hw | pauseQuietly _ _ _ hw | giveUpQuietly _ hw | wake _ hw | drop _ _ _ hw
  | leaveAlone _ hw => exact (away hw rfl).elim

/-- Before the end there is something to close with as soon as no session will follow. -/
theorem Reachable.farewell (h : Reachable config tokens c) (ht : c.state.isTerminal = true)
    (ho : c.worker.stage.post.isOver = false) : c.shared.closeFrame = some c.shared.farewell := by
  cases hs : c.state with
  | closing =>
    obtain ⟨frame, hf⟩ := Option.ne_none_iff_exists'.mp (h.recorded.closing hs)
    rw [Shared.farewell, hf]
    rfl
  | closed => cases ho.symm.trans (h.reached.isOver hs)
  | _ =>
    rw [hs] at ht
    cases ht

/-- A close was signalled after the worker, in a session, had looked for the signal, and it will see the end
of the queue next if the last handle goes before. -/
structure MissesSignal (c : Client) : Prop where
  cancelled : c.shared.cancelled = true
  stage : ∃ l w, c.worker.stage = .session l (.listening w)
  branch : c.worker.branch = .queue
  commands : c.commands = []

/-- A connection is closed last, and with what is recorded, unless the worker misses the signal. -/
theorem Deed.closesLast {lead after : List Occurrence} {g : Generation} {n : Nat} {frame : CloseFrame}
    (hd : Deed e c os d) (hc : Reachable config tokens c)
    (ho : os = lead ++ .linkClosed g n frame :: after) :
    (d.shared.closeFrame = some frame ∨ frame = .normal ∧ c.MissesSignal ∧ c.handles = 0) ∧
      d.worker.stage.isDeparted = true ∧ after = [] := by
  have hmem : .linkClosed g n frame ∈ os := by
    rw [ho]
    exact List.mem_append_right _ List.mem_cons_self
  cases hd with
  | decline l hw ht | depart l w hw ht =>
    obtain ⟨-, ⟨-, -, rfl⟩, rfl⟩ :
        lead = [] ∧ (g = _ ∧ n = _ ∧ frame = c.shared.farewell) ∧ after = [] := by
      simpa [List.cons_eq_append_iff] using ho
    exact ⟨.inl (hc.farewell ht (hw ▸ Stage.session_not_over ..)), rfl, rfl⟩
  | departAlone =>
    obtain ⟨-, ⟨-, -, rfl⟩, rfl⟩ : lead = [_] ∧ (g = _ ∧ n = _ ∧ frame = .normal) ∧ after = [] := by
      simpa [List.cons_eq_append_iff] using ho
    exact ⟨.inl rfl, rfl, rfl⟩
  | departLate l w hw _ ht hb hq h0 =>
    obtain ⟨-, ⟨-, -, rfl⟩, rfl⟩ : lead = [] ∧ (g = _ ∧ n = _ ∧ frame = .normal) ∧ after = [] := by
      simpa [List.cons_eq_append_iff] using ho
    exact ⟨.inr ⟨rfl, ⟨ht, ⟨l, w, hw⟩, hb, hq⟩, h0⟩, rfl, rfl⟩
  | latePatience _ _ a | hangUp _ _ _ a => cases a <;> simp at hmem
  | _ => simp at hmem

/-- When a connection was closed, nothing went out after that. It was closed with what is recorded, or with
the normal frame after the last handle was gone. -/
def ClosedLast (c : Client) : Prop :=
  ∀ before after g n frame, happened c.journal = before ++ .linkClosed g n frame :: after →
    (c.shared.closeFrame = some frame ∨ frame = .normal ∧ .handleDropped 0 ∈ before) ∧
      c.worker.stage.isDeparted = true ∧ ∀ o ∈ after, o.isOutward = false

theorem Deed.closedLast (hd : Deed e c os d) (hc : Reachable config tokens c) (h : c.ClosedLast) :
    d.ClosedLast := by
  intro before after g n frame hj
  rw [hd.adds] at hj
  rcases append_cut hj with ⟨mid, hold, rfl⟩ | ⟨lead, rfl, hnew⟩
  · obtain ⟨hf, hp, hout⟩ := h before mid g n frame hold
    obtain ⟨hdp, hos, -⟩ := hd.departed hp
    exact ⟨hf.imp_left (hd.keepsRecord hc.recorded), hdp,
      fun o ho => (List.mem_append.mp ho).elim (hout o) (hos o)⟩
  · obtain ⟨hf, hp, rfl⟩ := hd.closesLast hc hnew
    exact ⟨hf.imp_right fun ⟨hn, _, h0⟩ => ⟨hn, List.mem_append_left _ (hc.recorded.deserted h0)⟩, hp,
      fun o ho => nomatch ho⟩

theorem Reachable.closedLast (h : Reachable config tokens c) : c.ClosedLast :=
  h.invariant (fun _ _ _ _ _ hj => absurd hj initial_uncut) fun hr hd ih => hd.closedLast hr ih

/-- One connection at most is closed. -/
theorem ClosedLast.once (h : c.ClosedLast) : farewells c.journal = [] ∨
    ∃ frame, farewells c.journal = [frame] ∧
      (c.shared.closeFrame = some frame ∨ frame = .normal ∧ .handleDropped 0 ∈ happened c.journal) := by
  rw [farewells, ← filterMap_happened fun _ _ => rfl]
  cases hf : (happened c.journal).filterMap Occurrence.farewell? with
  | nil => exact .inl rfl
  | cons frame rest =>
    obtain ⟨before, o, after, hj, -, ho, rfl⟩ := List.filterMap_eq_cons_iff.mp hf
    obtain ⟨g, n, rfl⟩ : ∃ g n, o = .linkClosed g n frame := by
      cases o with
      | linkClosed g n _ =>
        cases ho
        exact ⟨g, n, rfl⟩
      | _ => cases ho
    obtain ⟨hc, -, hout⟩ := h before after g n frame hj
    have hnone : after.filterMap Occurrence.farewell? = [] :=
      List.filterMap_eq_nil_iff.mpr fun o ho => Occurrence.farewell?_of_not_outward (hout o ho)
    refine .inr ⟨frame, by rw [hnone], hc.imp_right fun ⟨hn, h0⟩ => ⟨hn, ?_⟩⟩
    rw [hj]
    exact List.mem_append_left _ h0

/-! ### A signal that is missed -/

/-- Once a close was signalled, or nobody is there to ask for one, the worker does not come to miss the
signal. -/
theorem Deed.heeds (hd : Deed e c os d) (hc : c.Signalled)
    (h : c.shared.cancelled = true ∨ c.handles = 0) (hm : ¬ c.MissesSignal) : ¬ d.MissesSignal := by
  intro hn
  have same (ht : d.shared.cancelled = c.shared.cancelled) (hw : d.worker.stage = c.worker.stage)
      (hb : d.worker.branch = c.worker.branch) (hq : d.commands = c.commands) : False :=
    hm ⟨ht ▸ hn.cancelled, hw ▸ hn.stage, hb ▸ hn.branch, hq ▸ hn.commands⟩
  cases hd with
  | rest | refuse | close | closeAgain | clone | dropHandle | read | readEnd | dropStream | pass =>
    exact same rfl rfl rfl rfl
  | ask _ _ _ _ _ hcs =>
    refine same rfl rfl rfl (hcs ?_).2
    exact ConnectionState.not_connected (hc.told hn.cancelled)
  | direct _ g _ hs =>
    have ht := hc.told hn.cancelled
    rw [hs] at ht
    cases ht
  | signal ha =>
    have hf : c.shared.cancelled = false := by
      simpa using (Bool.and_eq_true_iff.mp ha).2
    rcases h with h | h
    · cases hf.symm.trans h
    · exact hc.asking ha h
  | tend l m a hw =>
    obtain ⟨_, w, hs⟩ := hn.stage
    obtain ⟨-, rfl⟩ := Stage.session.inj hs
    exact hm ⟨hn.cancelled, ⟨l, w, hw⟩, hn.branch, hn.commands⟩
  | look b _ hl hb =>
    obtain rfl : b = .queue := hn.branch
    obtain ⟨l, w, hw⟩ : ∃ l w, c.worker.stage = .session l (.listening w) := hn.stage
    -- Before the queue the worker looks for the signal.
    have hs : c.worker.branch = .signal := by
      rcases hb with hb | hb
      · cases hb
      · rw [hw] at hb
        simpa using follows_listening.mp hb
    rw [hs] at hl hb
    cases (uncancelled_of_follows (hb.resolve_left nofun) hl).symm.trans hn.cancelled
  | latePatience _ _ a | hangUp _ _ _ a => cases a <;> exact nomatch hn.branch
  | _ => exact nomatch hn.branch

/-! ### What becomes of a connection -/

/-- Whether the worker is on a connection of a session or attempt. -/
def Holds (c : Client) (g : Generation) (n : Nat) : Prop :=
  c.generation = g ∧ ∃ l a, c.worker.stage = .session l a ∧ l.number = n

/-- How many steps the worker takes at most, once a close was signalled, until a session ends. In a round in
which it looked for the signal before, it may still pass a message on, which takes two steps. -/
def toClose (c : Client) (a : Activity) : Nat := a.toClose + if c.worker.branch = .signal then 0 else 2

lemma toClose_of_signal (h : c.worker.branch = .signal) (a : Activity) : c.toClose a = a.toClose := by
  rw [toClose, if_pos h, Nat.add_zero]

lemma toClose_of_past (h : c.worker.branch ≠ .signal) (a : Activity) :
    c.toClose a = a.toClose + 2 := by
  rw [toClose, if_neg h]

lemma le_toClose (c : Client) (a : Activity) : a.toClose ≤ c.toClose a := Nat.le_add_right _ _

/-- The worker stays with the connection of a session. Once a close was signalled its step brings the end of
the session nearer, and nothing else puts that off. -/
def StaysOn (e : Event) (c : Client) (l : Link) (a : Activity) (d : Client) : Prop :=
  ∃ m b, d.worker.stage = .session m b ∧ m.number = l.number ∧ d.generation = c.generation ∧
    (c.shared.cancelled = true → d.toClose b + (if e.isWork = true then 1 else 0) ≤ c.toClose a)

lemma StaysOn.still {l m : Link} {a b : Activity} (hq : e.isWork = false)
    (hs : d.worker.stage = .session m b) (hn : m.number = l.number) (hg : d.generation = c.generation)
    (h : c.shared.cancelled = true → d.toClose b ≤ c.toClose a) : StaysOn e c l a d := by
  refine ⟨m, b, hs, hn, hg, fun ht => ?_⟩
  rw [hq]
  exact h ht

lemma StaysOn.forth {l m : Link} {a b : Activity} (hb : d.worker.branch = .signal)
    (hs : d.worker.stage = .session m b) (hn : m.number = l.number) (hg : d.generation = c.generation)
    (h : c.shared.cancelled = true → b.toClose < c.toClose a) : StaysOn e c l a d := by
  refine ⟨m, b, hs, hn, hg, fun ht => ?_⟩
  have hlt := h ht
  rw [toClose_of_signal hb]
  split <;> omega

/-- The worker goes on with a connection, or it closes it or loses it. -/
theorem Deed.held {l : Link} {a : Activity} (hd : Deed e c os d) (hc : c.Signalled)
    (hs : c.worker.stage = .session l a) :
    StaysOn e c l a d ∨ EndsLink c.generation l.number os := by
  cases hd with
  | rest hq | refuse _ _ _ hq | close _ _ _ hq | closeAgain _ _ hq | signal _ hq | clone _ hq
  | dropHandle _ _ hq | readEnd _ _ hq | direct _ _ _ _ hq =>
    exact .inl (.still hq hs rfl rfl fun _ => Nat.le_refl _)
  | ask _ _ _ he | read _ _ he | dropStream he | pass _ he =>
    exact .inl (.still (he ▸ rfl) hs rfl rfl fun _ => Nat.le_refl _)
  | tend _ m _ hw hn hq =>
    cases hs.symm.trans hw
    exact .inl (.still hq rfl hn rfl fun _ => Nat.le_refl _)
  | look b he hl hb =>
    refine .inl (.still (he ▸ rfl) hs rfl rfl fun ht => ?_)
    rcases hb with rfl | hb
    · rw [toClose_of_signal rfl]
      exact c.le_toClose a
    · -- A worker that looks on in vain had looked for the signal before.
      have hp : c.worker.branch ≠ .signal := fun hp =>
        nomatch ht.symm.trans (uncancelled_of_follows (hp ▸ hb) (hp ▸ hl))
      rw [toClose_of_past hp]
      exact Nat.add_le_add_left (by split <;> decide) _
  | deliver _ m _ _ _ _ _ _ hw hn _ _ _ _ hb | withhold _ m _ _ _ _ _ _ _ _ hw hn _ _ _ _ hb
  | misread _ m _ _ _ _ hw hn _ _ _ _ hb =>
    cases hs.symm.trans hw
    refine .inl (.forth rfl rfl hn rfl fun ht => ?_)
    rw [toClose_of_past (hb.past_signal ht nofun)]
    exact Nat.lt_add_of_pos_right Nat.two_pos
  | announce _ hw ho =>
    -- The replay that follows may be long, but it does not follow a signal.
    cases hs.symm.trans hw
    exact .inl (.forth rfl rfl rfl rfl fun ht => nomatch ho.symm.trans (hc.told ht))
  | execute _ _ _ _ hw hb | skip _ _ _ _ hw hb | beat _ _ _ hw hb =>
    cases hs.symm.trans hw
    refine .inl (.forth rfl rfl rfl rfl fun ht => ?_)
    rw [toClose_of_past (hb.past_signal ht nofun)]
    simp [Activity.toClose]
  | replay _ topic topics hw =>
    cases hs.symm.trans hw
    exact .inl (.forth rfl rfl rfl rfl fun _ =>
      Nat.lt_of_lt_of_le (Nat.lt_succ_self _) (c.le_toClose (.replaying (topic :: topics))))
  | listen _ _ hw =>
    cases hs.symm.trans hw
    exact .inl (.forth rfl rfl rfl rfl fun _ =>
      Nat.lt_of_lt_of_le (Nat.lt_succ_self _) (c.le_toClose (.replaying [])))
  | written _ _ s _ hw =>
    cases hs.symm.trans hw
    refine .inl (.forth rfl rfl rfl rfl fun _ => Nat.lt_of_lt_of_le ?_ (c.le_toClose _))
    cases s <;> exact Nat.lt_succ_self _
  | decline _ hw | depart _ _ hw | departLate _ _ hw =>
    cases hs.symm.trans hw
    exact .inr (.inl ⟨_, List.mem_cons_self⟩)
  | departAlone _ _ hw =>
    cases hs.symm.trans hw
    exact .inr (.inl ⟨_, List.mem_cons_of_mem _ List.mem_cons_self⟩)
  | idle => exact .inr (.inr (.inl ⟨_, List.mem_cons_self⟩))
  | refused | despair => exact .inr (.inr (.inl ⟨_, List.mem_cons_of_mem _ List.mem_cons_self⟩))
  | hangUp => exact .inr (.inr (.inl ⟨_, List.mem_append_right _ List.mem_cons_self⟩))
  | crash | lateHeartbeat => exact .inr (.inr (.inr List.mem_cons_self))
  | latePatience => exact .inr (.inr (.inr (List.mem_append_right _ List.mem_cons_self)))
  | leave _ _ hw => rcases hw with hw | hw | hw <;> cases hs.symm.trans hw
  | failAttempt _ _ hw => rcases hw with hw | hw <;> cases hs.symm.trans hw
  | meet _ _ hw | attempt hw | abandon hw | dial _ hw | pause _ _ _ hw | giveUp _ hw
  | pauseQuietly _ _ _ hw | giveUpQuietly _ hw | wake _ hw | drop _ _ _ hw | leaveAlone _ hw | finish hw
  | release _ hw => cases hs.symm.trans hw

theorem Deed.holds {g : Generation} {n : Nat} (hd : Deed e c os d) (hc : c.Signalled)
    (h : c.Holds g n) : d.Holds g n ∨ EndsLink g n os := by
  obtain ⟨rfl, l, a, hs, rfl⟩ := h
  exact (hd.held hc hs).imp_left fun ⟨m, b, hw, hn, hg, _⟩ => ⟨hg, m, b, hw, hn⟩

/-- A connection that was handed over is held, or it was closed, or its session ended otherwise. -/
def KeepsLinks (c : Client) : Prop :=
  ∀ before after g n, happened c.journal = before ++ .opened g n :: after →
    c.Holds g n ∨ EndsLink g n after

theorem Deed.meets {g : Generation} {n : Nat} (hd : Deed e c os d) (ho : .opened g n ∈ os) :
    (∃ deadline, c.worker.stage = .dialing deadline) ∧ g = c.generation ∧
      (∃ l, d.worker.stage = .session l .opening ∧ l.number = n) ∧ os = [.opened g n] ∧
        d.generation = c.generation := by
  cases hd with
  | meet deadline _ hw =>
    obtain ⟨rfl, rfl⟩ : g = c.generation ∧ n = c.worker.linksOpened + 1 := by simpa using ho
    exact ⟨⟨deadline, hw⟩, rfl, ⟨_, rfl, rfl⟩, rfl, rfl⟩
  | _ => simp at ho

theorem Deed.keepsLinks (hd : Deed e c os d) (hc : c.Signalled) (h : c.KeepsLinks) :
    d.KeepsLinks := by
  intro before after g n hj
  rw [hd.adds] at hj
  rcases append_cut hj with ⟨mid, hold, rfl⟩ | ⟨lead, -, hnew⟩
  · rcases h before mid g n hold with hh | hend
    · exact (hd.holds hc hh).imp_right (·.mono (List.subset_append_right _ _))
    · exact .inr (hend.mono (List.subset_append_left _ _))
  · obtain ⟨-, rfl, ⟨l, hw, hn⟩, -, hg⟩ := hd.meets (g := g) (n := n) (by rw [hnew]; simp)
    exact .inl ⟨hg, l, _, hw, hn⟩

theorem Reachable.keepsLinks (h : Reachable config tokens c) : c.KeepsLinks :=
  h.invariant (fun _ _ _ _ hj => absurd hj initial_uncut) fun hr hd ih => hd.keepsLinks hr.signalled ih

/-! ### Connections that come too late -/

theorem Deed.notLive (hd : Deed e c os d) (ht : c.state.isTerminal = true)
    (hl : c.worker.stage.post.isLive = false) : d.worker.stage.post.isLive = false := by
  have away {p : Stage} (hw : c.worker.stage = p) (hp : p.post.isLive = true) : False := by
    rw [hw] at hl
    cases hl.symm.trans hp
  cases hd with
  | rest | ask | direct | refuse | close | closeAgain | signal | clone | dropHandle | read | readEnd
  | dropStream | pass | look | drop => exact hl
  | tend _ _ a hw =>
    rw [hw] at hl
    exact hl
  | announce _ _ ho => cases ho.symm.trans ht
  | replay _ _ _ hw | listen _ _ hw | written _ _ _ _ hw | execute _ _ _ _ hw | skip _ _ _ _ hw
  | deliver _ _ _ _ _ _ _ _ hw | withhold _ _ _ _ _ _ _ _ _ _ hw | misread _ _ _ _ _ _ hw
  | beat _ _ _ hw => exact (away hw rfl).elim
  | _ => rfl

/-- Only a live session is told something. -/
theorem Deed.writes {g : Generation} {o : Outgoing} (hd : Deed e c os d) (ho : .writing g o ∈ os) :
    c.worker.stage.post.isLive = true := by
  cases hd with
  | replay _ _ _ hw | execute _ _ _ _ hw | beat _ _ _ hw =>
    rw [hw]
    rfl
  | latePatience _ _ a | hangUp _ _ _ a => cases a <;> simp at ho
  | _ => simp at ho

/-- After the close was announced no session follows. -/
theorem Deed.announcesClose (hd : Deed e c os d)
    (h : .published .closing ∈ happened c.journal → c.state.isTerminal = true)
    (hc : .published .closing ∈ happened d.journal) : d.state.isTerminal = true := by
  rw [hd.adds] at hc
  rcases List.mem_append.mp hc with hc | hc
  · have ht := h hc
    rcases hd.final ht with hs | hs <;> rw [hs]
    · exact ht
    · rfl
  · cases hd with
    | close | departAlone | leaveAlone => rfl
    | _ => simp at hc

theorem Reachable.announcesClose (h : Reachable config tokens c) :
    .published .closing ∈ happened c.journal → c.state.isTerminal = true :=
  h.invariant (P := fun c => .published .closing ∈ happened c.journal → c.state.isTerminal = true)
    (fun hn => nomatch hn) fun _ hd ih => hd.announcesClose ih

/-- A connection that is handed over after a close was announced is told nothing. -/
def LeavesLateLinks (c : Client) : Prop :=
  ∀ before after g n, happened c.journal = before ++ .published .closing :: after →
    .opened g n ∈ after → c.worker.stage.post.isLive = false ∧ ∀ o, .writing g o ∉ happened c.journal

/-- Nothing was said in an attempt that has no session yet. -/
theorem Reachable.unspoken {deadline : Instant} (h : Reachable config tokens c)
    (hw : c.worker.stage = .dialing deadline) (o : Outgoing) :
    .writing c.generation o ∉ happened c.journal := by
  intro hm
  obtain ⟨e, he, hu⟩ := mem_happened hm
  have hp : c.core.post = .attempting := core_post hw
  refine (h.reached.silentOn (.inr ⟨rfl, hp⟩)).journal e he ?_
  rw [hu]
  rfl

theorem Deed.leavesLateLinks (hd : Deed e c os d) (hc : Reachable config tokens c)
    (h : c.LeavesLateLinks) : d.LeavesLateLinks := by
  intro before after g n hj ho
  have ha := hd.adds
  rw [ha] at hj
  rcases append_cut hj with ⟨mid, hold, rfl⟩ | ⟨lead, -, hnew⟩
  · have ht : c.state.isTerminal = true := hc.announcesClose (by rw [hold]; simp)
    rcases List.mem_append.mp ho with ho | ho
    · obtain ⟨hl, hn⟩ := h before mid g n hold ho
      refine ⟨hd.notLive ht hl, fun o hm => ?_⟩
      rw [ha] at hm
      rcases List.mem_append.mp hm with hm | hm
      · exact hn o hm
      · cases hl.symm.trans (hd.writes hm)
    · obtain ⟨⟨deadline, hw⟩, rfl, ⟨l, hl, -⟩, rfl, -⟩ := hd.meets ho
      refine ⟨by rw [hl]; rfl, fun o hm => ?_⟩
      rw [ha] at hm
      rcases List.mem_append.mp hm with hm | hm
      · exact hc.unspoken hw o hm
      · simp at hm
  · have hm : .opened g n ∈ os := by
      rw [hnew]
      exact List.mem_append_right _ (List.mem_cons_of_mem _ ho)
    obtain ⟨-, -, -, hos, -⟩ := hd.meets hm
    rw [hos] at hnew
    simp [List.cons_eq_append_iff] at hnew

theorem Reachable.leavesLateLinks (h : Reachable config tokens c) : c.LeavesLateLinks :=
  h.invariant (fun _ _ _ _ hj _ => absurd hj initial_uncut) fun hr hd ih => hd.leavesLateLinks hr ih

/-! ### A session ends soon -/

/-- Once a close was signalled a session does not wait. -/
theorem work_ne_none {l : Link} {a : Activity} (ht : c.shared.cancelled = true)
    (hs : c.worker.stage = .session l a) (chance : Nat) : c.step (.work chance) ≠ none := by
  intro hn
  have hw : c.workSession l a = none := by
    change c.work chance = none at hn
    rwa [work, hs] at hn
  cases a with
  | opening | writing => cases hw
  | replaying topics => cases topics <;> cases hw
  | listening w =>
    have hsignal := poll_eq_none hw (b := .signal) (by rw [hs]; exact List.mem_cons_self)
    rw [turnTo_session hs, listenTo_signal_eq_none] at hsignal
    cases hsignal.symm.trans ht

theorem Reachable.run_adds {es : List Event} (h : Reachable config tokens c) (hr : c.run es = some d) :
    happened c.journal <+: happened d.journal :=
  h.keep (P := fun b => happened c.journal <+: happened b.journal) hr (List.prefix_refl _)
    fun _ _ hd ih => by
      rw [hd.adds]
      exact ih.trans (List.prefix_append _ _)

/-- A close that was signalled stays signalled. -/
theorem Deed.keepsSignal (hd : Deed e c os d) (h : c.shared.cancelled = true) :
    d.shared.cancelled = true := by
  cases hd with
  | signal | departAlone | leaveAlone | finish => rfl
  | latePatience _ _ a | hangUp _ _ _ a => cases a <;> exact h
  | _ => exact h

/-- After so many steps of the worker a connection is closed, or its session has ended otherwise. -/
theorem Reachable.closesSoon {es : List Event} {l : Link} {a : Activity} (h : Reachable config tokens c)
    (ht : c.shared.cancelled = true) (hs : c.worker.stage = .session l a) (hr : c.run es = some d)
    (hn : c.toClose a ≤ es.countP (·.isWork)) :
    ∃ new, happened d.journal = happened c.journal ++ new ∧ EndsLink c.generation l.number new := by
  induction es generalizing c l a with
  | nil => exact absurd hn (Nat.not_le_of_lt (Nat.lt_of_lt_of_le a.toClose_pos (c.le_toClose a)))
  | cons e es ih =>
    obtain ⟨b, hb, hd⟩ := Option.bind_eq_some_iff.mp hr
    obtain ⟨os, hdeed⟩ := h.deed hb
    have ha := hdeed.adds
    have hbt : b.shared.cancelled = true := hdeed.keepsSignal ht
    rcases hdeed.held h.signalled hs with ⟨m, x, hw, hnum, hg, hle⟩ | hend
    · -- A step of the worker lowers the measure, and nothing else raises it.
      have hx : b.toClose x ≤ es.countP (·.isWork) := by
        have hstep := hle ht
        rw [List.countP_cons] at hn
        omega
      obtain ⟨new, hnew, hend⟩ := ih (h.step e hb) hbt hw hd hx
      rw [ha, List.append_assoc] at hnew
      rw [hg, hnum] at hend
      exact ⟨os ++ new, hnew, hend.mono (List.subset_append_right _ _)⟩
    · obtain ⟨new, hnew⟩ := (h.step e hb).run_adds hd
      rw [ha, List.append_assoc] at hnew
      exact ⟨os ++ new, hnew.symm, hend.mono (List.subset_append_left _ _)⟩

/-! ### What a connection is closed with after a signal -/

/-- What connections were closed with is what is recorded. -/
def Faithful (c : Client) : Prop := ∀ frame ∈ farewells c.journal, c.shared.closeFrame = some frame

theorem Deed.faithful (hd : Deed e c os d) (hc : Reachable config tokens c)
    (hm : ¬ c.MissesSignal ∨ c.handles ≠ 0) (h : c.Faithful) : d.Faithful := by
  intro frame hf
  have hj : farewells d.journal = farewells c.journal ++ os.filterMap Occurrence.farewell? :=
    hd.shown fun _ _ => rfl
  rw [hj] at hf
  rcases List.mem_append.mp hf with hf | hf
  · exact hd.keepsRecord hc.recorded (h frame hf)
  · obtain ⟨o, ho, hw⟩ := List.mem_filterMap.mp hf
    obtain ⟨g, n, rfl⟩ : ∃ g n, o = .linkClosed g n frame := by
      cases o with
      | linkClosed g n _ =>
        cases hw
        exact ⟨g, n, rfl⟩
      | _ => cases hw
    obtain ⟨lead, after, hos⟩ := List.append_of_mem ho
    refine (hd.closesLast hc hos).1.resolve_right fun ⟨_, hmiss, h0⟩ => ?_
    exact hm.elim (· hmiss) (· h0)

/-- After a signal that the worker does not miss a connection is closed with what is recorded. -/
theorem Reachable.keeps_faith {es : List Event} (h : Reachable config tokens c)
    (ht : c.shared.cancelled = true) (hm : ¬ c.MissesSignal) (hf : c.Faithful) (hr : c.run es = some d) :
    d.Faithful :=
  (h.keep (P := fun b => b.shared.cancelled = true ∧ ¬ b.MissesSignal ∧ b.Faithful) hr ⟨ht, hm, hf⟩
    fun _ hb hd ih => ⟨hd.keepsSignal ih.1, hd.heeds hb.signalled (.inl ih.1) ih.2.1,
      hd.faithful hb (.inl ih.2.1) ih.2.2⟩).2.2

/-- Once a close was signalled all handles can be dropped. -/
theorem run_dropHandles (ht : c.shared.cancelled = true) :
    ∃ d, c.run (List.replicate c.handles .dropHandle) = some d ∧ d.handles = 0 ∧
      d.shared = c.shared ∧ d.worker = c.worker ∧ d.commands = c.commands ∧
        farewells d.journal = farewells c.journal := by
  induction hn : c.handles generalizing c with
  | zero => exact ⟨c, rfl, hn, rfl, rfl, rfl, rfl⟩
  | succ n ih =>
    have hstep : c.step .dropHandle = some c.dropHandle := by
      simp [step, isAsking, hn, ht]
    obtain ⟨d, hd, h0, hs, hw, hc, hf⟩ := ih (c := c.dropHandle) ht (by
      change c.handles - 1 = n
      omega)
    refine ⟨d, run_of_step hstep hd, h0, hs, hw, hc, hf.trans ?_⟩
    exact (view_cons _).trans (List.append_nil _)

theorem Reachable.record_eq {es : List Event} (h : Reachable config tokens c)
    (ht : c.shared.cancelled = true) (hr : c.run es = some d) :
    d.shared.closeFrame = c.shared.closeFrame :=
  (h.keep (P := fun b => b.shared.cancelled = true ∧ b.shared.closeFrame = c.shared.closeFrame) hr
    ⟨ht, rfl⟩ fun _ hb hd ih => ⟨hd.keepsSignal ih.1,
      (hd.record_eq (hb.signalled.told ih.1)).trans ih.2⟩).2

/-- A worker that misses the signal closes the connection with the normal frame, when nobody is left. -/
theorem Reachable.closes_normally (h : Reachable config tokens c) (hm : c.MissesSignal) :
    ∃ es d, c.run es = some d ∧ farewells d.journal = farewells c.journal ++ [.normal] := by
  obtain ⟨b, hb, h0, hs, hw, hc, hf⟩ := run_dropHandles hm.cancelled
  obtain ⟨l, w, hl⟩ := hm.stage
  have hbl : b.worker.stage = .session l (.listening w) := by rw [hw, hl]
  have hbb : b.worker.branch = .queue := by rw [hw, hm.branch]
  have hbc : b.commands = [] := by rw [hc, hm.commands]
  have ht : b.shared.cancelled = true := by rw [hs, hm.cancelled]
  have hq : b.listenTo l w .queue = some (b.closeLink l .normal) := by
    have hr := recordClose_of_terminal ((h.run hb).signalled.told ht) .normal
    simp only [listenTo, hbc, h0, if_true, hr, signal_of_cancelled ht]
  have hd : b.step (.work 0) = some (b.closeLink l .normal) := by
    change b.work 0 = _
    rw [work_of_listening hbl, poll, Worker.ahead, hbl, hbb, funext (turnTo_session hbl)]
    simp [Stage.branches, hq]
  have hr : b.run [.work 0] = some (b.closeLink l .normal) := run_of_step hd rfl
  refine ⟨_, b.closeLink l .normal, run_of_append hb hr, ?_⟩
  rw [← hf]
  exact view_cons _

theorem Reachable.faithful_iff (h : Reachable config tokens c) (ht : c.shared.cancelled = true)
    (hf : farewells c.journal = []) :
    (∀ es d frame, c.run es = some d → farewells d.journal = [frame] → c.shared.closeFrame = some frame) ↔
      (c.MissesSignal → c.shared.closeFrame = some .normal) := by
  refine ⟨fun hall hm => ?_, fun himp es d frame hr hd => ?_⟩
  · obtain ⟨es, d, hr, hd⟩ := h.closes_normally hm
    exact hall es d .normal hr (by rw [hd, hf]; rfl)
  · have hkeep := h.record_eq ht hr
    by_cases hm : c.MissesSignal
    · have hn := himp hm
      rcases (h.run hr).closedLast.once with he | ⟨frame', he, hw | ⟨rfl, -⟩⟩ <;>
        cases hd.symm.trans he
      · rw [← hkeep, hw]
      · exact hn
    · rw [← hkeep]
      exact h.keeps_faith ht hm (fun f hf' => nomatch hf ▸ hf') hr frame (by simp [hd])

/-! ### The state and what is announced of it -/

theorem Deed.watched (hd : Deed e c os d) (h : c.watched = c.state) : d.watched = d.state := by
  have hj : states d.journal = states c.journal ++ os.filterMap Occurrence.state? :=
    hd.shown fun _ _ => rfl
  have quiet (hj : states d.journal = states c.journal ++ []) : d.watched = c.state := by
    rw [Client.watched, hj, List.append_nil]
    exact h
  have told {s : ConnectionState} (hj : states d.journal = states c.journal ++ [s]) : d.watched = s := by
    rw [Client.watched, hj, List.getLast?_concat]
    rfl
  cases hd with
  | close | attempt | announce | departAlone | pause | giveUp | leaveAlone | finish => exact told hj
  | latePatience _ _ a | hangUp _ _ _ a => cases a <;> exact quiet hj
  | _ => exact quiet hj

/-- What watches of the state show is the state. -/
theorem Reachable.watched (h : Reachable config tokens c) : c.watched = c.state :=
  h.invariant (P := fun c => c.watched = c.state) rfl fun _ hd ih => hd.watched ih

/-- Whether a call for a close may return: it waits until watches show the end. -/
def closeReturns (c : Client) : Prop := c.watched = .closed

/-- The first request to close wins, and one connection at most is closed. It is closed with that request,
unless the worker misses the signal. -/
structure ClosesOnce (c : Client) : Prop where
  /-- A request that finds the client open is recorded. -/
  taken : ∀ frame, c.state.isTerminal = false → (c.askClose frame).shared =
    { c.shared with closeFrame := some frame, state := .closing }
  ignored : ∀ frame, c.state.isTerminal = true → (c.askClose frame).shared = c.shared
  /-- A request that was recorded signals the worker, whatever comes in between. -/
  signals : c.state = .closing → c.shared.cancelled = true ∨ c.step .signal = some c.signal
  /-- Whatever happens later. -/
  kept : ∀ frame es d, c.shared.closeFrame = some frame → c.run es = some d →
    d.shared.closeFrame = some frame
  /-- What is recorded is from the one request that found the client open, or the last handle is gone. -/
  source : ∀ frame, c.shared.closeFrame = some frame → closeRequests c.journal = [frame] ∨
    closeRequests c.journal = [] ∧ frame = .normal ∧ .handleDropped 0 ∈ happened c.journal
  once : farewells c.journal = [] ∨ ∃ frame, farewells c.journal = [frame] ∧
    (c.shared.closeFrame = some frame ∨ frame = .normal ∧ .handleDropped 0 ∈ happened c.journal)
  last : ∀ before after g n frame, happened c.journal = before ++ .linkClosed g n frame :: after →
    (c.shared.closeFrame = some frame ∨ frame = .normal ∧ .handleDropped 0 ∈ before) ∧
      ∀ o ∈ after, o.isOutward = false
  /-- Once a close was signalled, a connection that is closed later is closed with what is recorded, exactly
  if the worker does not miss the signal, or what is recorded is the normal frame. -/
  faithful : c.shared.cancelled = true → farewells c.journal = [] →
    ((∀ es d frame, c.run es = some d → farewells d.journal = [frame] → c.shared.closeFrame = some frame) ↔
      (c.MissesSignal → c.shared.closeFrame = some .normal))
  /-- A connection that was handed over is held, or closed, or its session ended for another cause. -/
  links : ∀ before after g n, happened c.journal = before ++ .opened g n :: after →
    c.Holds g n ∨ EndsLink g n after
  late : ∀ before after g n, happened c.journal = before ++ .published .closing :: after →
    .opened g n ∈ after → ∀ o, .writing g o ∉ happened c.journal
  /-- A connection that is held does not make the worker wait once a close was signalled. -/
  moving : ∀ g n chance, c.shared.cancelled = true → c.Holds g n → c.step (.work chance) ≠ none
  /-- And it is closed after a number of steps of the worker, or its session has ended. -/
  soon : ∀ l a es d, c.shared.cancelled = true → c.worker.stage = .session l a → c.run es = some d →
    c.toClose a ≤ es.countP (·.isWork) →
      ∃ new, happened d.journal = happened c.journal ++ new ∧ EndsLink c.generation l.number new
  returns : c.closeReturns → c.state = .closed

theorem closes_once (h : Reachable config tokens c) : c.ClosesOnce where
  taken frame ho := by rw [askClose, recordClose_of_open (c := c.note (.closeAsked c.state frame)) ho]; rfl
  ignored frame ht := by rw [show c.askClose frame = _ from if_pos ht]; rfl
  signals hs := by
    cases hc : c.shared.cancelled with
    | true => exact .inl rfl
    | false => exact .inr (by simp [step, isAsking, hs, hc])
  kept frame es d hf hr :=
    h.keep (P := fun b => b.shared.closeFrame = some frame) hr hf
      fun _ hb hd ih => hd.keepsRecord hb.recorded ih
  source := h.recorded.source
  once := h.closedLast.once
  last before after g n frame hj := ⟨(h.closedLast before after g n frame hj).1,
    (h.closedLast before after g n frame hj).2.2⟩
  faithful ht hf := h.faithful_iff ht hf
  links := h.keepsLinks
  late before after g n hj ho := (h.leavesLateLinks before after g n hj ho).2
  moving g n chance ht hh := by
    obtain ⟨-, l, a, hs, -⟩ := hh
    exact work_ne_none ht hs chance
  soon l a es d ht hs hr hn := h.closesSoon ht hs hr hn
  returns hr := h.watched.symm.trans hr

/-- Two requests find a session in a round, which takes one more frame before it is closed with the first; a
third finds the client closed. -/
def twiceClosedRun : List Event :=
  [.work 0, .work 0, .dialAnswer (.link none), .work 0, .work 0, .arrive (.ok (.text "")), .look,
    .close ⟨4000, "first"⟩, .close ⟨4001, "second"⟩, .signal, .work 0, .work 0, .work 0, .work 0,
    .close ⟨4002, "third"⟩]

theorem twice_closed_once : ∃ c, (initial .loopback fun _ => none).run twiceClosedRun = some c ∧
    c.state = .closed ∧ closeRequests c.journal = [⟨4000, "first"⟩] ∧
    farewells c.journal = [⟨4000, "first"⟩] ∧ c.ClosesOnce := by
  have hr : ((initial .loopback fun _ => none).run twiceClosedRun).map
      (fun c => (c.state, closeRequests c.journal, farewells c.journal)) =
        some (.closed, [⟨4000, "first"⟩], [⟨4000, "first"⟩]) := by
    decide +kernel
  obtain ⟨c, hc, hv⟩ := Option.map_eq_some_iff.mp hr
  simp only [Prod.mk.injEq] at hv
  exact ⟨c, hc, hv.1, hv.2.1, hv.2.2, closes_once (.ofRun hc)⟩

/-- In a round that a frame began, the worker has looked for the signal when a request to close is recorded
and signalled and the last handle dropped; then it looks at the queue. -/
def missedSignalRun : List Event :=
  [.work 0, .work 0, .dialAnswer (.link none), .work 0, .work 0, .arrive (.ok (.text "")), .look,
    .close ⟨4000, "bye"⟩, .signal, .dropHandle, .work 0]

/-- The connection is closed with the normal frame, and not with the request. -/
theorem missed_signal_closes_normally : ¬ ∀ (config : Config) (tokens : Nat → Option String) (c : Client),
    Reachable config tokens c → farewells c.journal = [] ∨
      ∃ frame, c.shared.closeFrame = some frame ∧ farewells c.journal = [frame] := by
  intro hall
  have hr : ((initial .loopback fun _ => none).run missedSignalRun).map
      (fun c => (c.shared.closeFrame, farewells c.journal)) =
        some (some ⟨4000, "bye"⟩, [⟨1000, ""⟩]) := by
    decide +kernel
  obtain ⟨c, hc, hv⟩ := Option.map_eq_some_iff.mp hr
  obtain ⟨hf, hl⟩ := Prod.mk.inj hv
  rcases hall .loopback _ c (.ofRun hc) with hn | ⟨frame, hs, hq⟩
  · cases hl.symm.trans hn
  · cases hf.symm.trans hs
    cases hl.symm.trans hq

end Client

end MarketFeed
