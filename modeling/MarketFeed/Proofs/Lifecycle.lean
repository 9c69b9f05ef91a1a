import Mathlib.Data.List.Chain
import MarketFeed.Proofs.Timers

/-!
The life of a client as its state tells it. While neither the connector nor a connection breaks down and
the clock holds the timers, the announced states go from attempt to attempt by few moves, and to the end
only from a close or from the last attempt of a limit.
-/

namespace MarketFeed

open History

namespace ConnectionState

/-- The moves of the state. -/
inductive Next : ConnectionState → ConnectionState → Prop
  | connect (g : Generation) : Next (.connecting g) (.connected g)
  | fail (g : Generation) : Next (.connecting g) (.disconnected g)
  | lose (g : Generation) : Next (.connected g) (.disconnected g)
  | retry (g : Generation) : Next (.disconnected g) (.connecting (g + 1))
  | close {s : ConnectionState} (h : s.isTerminal = false) : Next s .closing
  | giveUp (g : Generation) : Next (.disconnected g) .closed
  | finish : Next .closing .closed

/-- The session that a state is of. -/
def session? : ConnectionState → Option Generation
  | connected g => some g
  | _ => none

variable {s t : ConnectionState} {l : List ConnectionState}

lemma Next.closed_of_isTerminal (h : Next s t) (hs : s.isTerminal = true) : t = .closed := by
  cases h with
  | close ho => exact nomatch ho.symm.trans hs
  | finish => rfl
  | _ => cases hs

/-- Nothing but the end follows once no session will. -/
theorem closed_of_isTerminal (h : (s :: l).IsChain Next) (hs : s.isTerminal = true) :
    ∀ t ∈ l, t = .closed := by
  induction l generalizing s with
  | nil => exact fun t ht => nomatch ht
  | cons t l ih =>
    obtain ⟨hn, hl⟩ := List.isChain_cons_cons.mp h
    obtain rfl := hn.closed_of_isTerminal hs
    exact List.forall_mem_cons.mpr ⟨rfl, ih hl rfl⟩

lemma filterMap_of_isTerminal {f : ConnectionState → Option Generation} (hf : f .closed = none)
    (h : (s :: l).IsChain Next) (hs : s.isTerminal = true) : l.filterMap f = [] := by
  refine List.filterMap_eq_nil_iff.mpr fun t ht => ?_
  rw [closed_of_isTerminal h hs t ht, hf]

/-- Along the moves the generations go up by one at most. -/
theorem generations_chain {g : Generation} (h : (s :: l).IsChain Next) (hs : s.generation? = some g) :
    (g :: l.filterMap generation?).IsChain fun m n => n = m ∨ n = m + 1 := by
  induction l generalizing s g with
  | nil => exact .singleton g
  | cons t l ih =>
    obtain ⟨hn, hl⟩ := List.isChain_cons_cons.mp h
    cases hn with
    | connect _ | fail _ | lose _ =>
      cases hs
      exact .cons_cons (.inl rfl) (ih hl rfl)
    | retry _ =>
      cases hs
      exact .cons_cons (.inr rfl) (ih hl rfl)
    | close _ | giveUp _ | finish =>
      rw [List.filterMap_cons_none rfl, filterMap_of_isTerminal rfl hl rfl]
      exact .singleton g

/-- The least generation that can be connected after a state. -/
def floor : ConnectionState → Generation
  | connecting g => g
  | connected g | disconnected g => g + 1
  | closing | closed => 0

/-- Along the moves each generation is connected once. -/
theorem sessions_rise (h : (s :: l).IsChain Next) :
    (∀ g ∈ l.filterMap session?, s.floor ≤ g) ∧ (l.filterMap session?).Pairwise (· < ·) := by
  induction l generalizing s with
  | nil => exact ⟨fun g hg => (nomatch hg), .nil⟩
  | cons t l ih =>
    obtain ⟨hn, hl⟩ := List.isChain_cons_cons.mp h
    obtain ⟨hf, hp⟩ := ih hl
    cases hn with
    | connect g =>
      rw [List.filterMap_cons_some (f := session?) rfl]
      exact ⟨List.forall_mem_cons.mpr ⟨Nat.le_refl g, fun m hm => Nat.le_of_succ_le (hf m hm)⟩,
        .cons hf hp⟩
    | fail g => exact ⟨fun m hm => Nat.le_of_succ_le (hf m hm), hp⟩
    | lose g | retry g => exact ⟨hf, hp⟩
    | close _ | giveUp _ | finish =>
      rw [List.filterMap_cons_none rfl, filterMap_of_isTerminal rfl hl rfl]
      exact ⟨fun m hm => (nomatch hm), .nil⟩

end ConnectionState

/-- The attempt that a connection is asked for in. -/
def Occurrence.dial? : Occurrence → Option Generation
  | dialed g _ => some g
  | _ => none

namespace History

/-- The attempts that connections were asked for in. -/
def dials (j : List Entry) : List Generation := view Occurrence.dial? j

/-- Announced states go by the moves from the first attempt on to a state. The first attempt may be
announced again. -/
def Course (l : List ConnectionState) (s : ConnectionState) : Prop :=
  ∃ rest, (l = rest ∨ l = .connecting 1 :: rest) ∧ (.connecting 1 :: rest).IsChain ConnectionState.Next ∧
    (ConnectionState.connecting 1 :: rest).getLast? = some s

theorem Course.start : Course [] (.connecting 1) := ⟨[], .inl rfl, .singleton _, rfl⟩

theorem Course.again : Course [.connecting 1] (.connecting 1) := ⟨[], .inr rfl, .singleton _, rfl⟩

theorem Course.move {l : List ConnectionState} {s t : ConnectionState} (h : Course l s)
    (hn : s.Next t) : Course (l ++ [t]) t := by
  obtain ⟨rest, hl, hc, he⟩ := h
  refine ⟨rest ++ [t], ?_, ?_, ?_⟩
  · exact hl.imp (congrArg (· ++ [t])) (congrArg (· ++ [t]))
  · rw [← List.cons_append]
    refine hc.append (.singleton t) fun x hx y hy => ?_
    obtain rfl := Option.some.inj (he.symm.trans hx)
    cases hy
    exact hn
  · exact List.getLast?_concat (l := _ :: rest)

theorem Course.getLast? {l : List ConnectionState} {s : ConnectionState} (h : Course l s) :
    l.getLast?.getD (.connecting 1) = s := by
  obtain ⟨rest, rfl | rfl, -, he⟩ := h
  · rw [List.getLast?_cons] at he
    exact Option.some.inj he
  · rw [he]
    rfl

end History

/-- The states that fit the place of the worker. -/
def Stage.Suits (g : Generation) (s : ConnectionState) : Stage → Prop
  | starting | pausing _ => s = .disconnected g ∨ s = .closing ∨ g = 0 ∧ s = .connecting 1
  | calling | dialing _ | session _ .opening => s = .connecting g ∨ s = .closing
  | session .. => s = .connected g ∨ s = .closing
  | ending _ => s = .connecting g ∨ s = .connected g ∨ s = .closing
  | leaving => s = .disconnected g ∨ s = .closing
  | releasing | gone => s = .closed

namespace Stage

variable {p : Stage} {g : Generation} {s : ConnectionState}

theorem Suits.closing (h : p.Suits g s) (hp : p.post.isOver = false) (hs : s.isTerminal = true) :
    s = .closing := by
  cases s with
  | closing => rfl
  | closed =>
    cases p with
    | session l a => cases a <;> simp [Suits] at h
    | releasing | gone => cases hp
    | _ => simp [Suits] at h
  | _ => cases hs

lemma Suits.not_over (h : p.Suits g s) (hs : s.isTerminal = false) : p.post.isOver = false := by
  cases p with
  | session l a => cases a <;> rfl
  | releasing | gone =>
    obtain rfl : s = .closed := h
    cases hs
  | _ => rfl

theorem session_not_over (l : Link) (a : Activity) : (session l a).post.isOver = false := by
  cases a <;> rfl

lemma suits_closing (hp : p.post.isOver = false) : p.Suits g .closing := by
  cases p with
  | session l a => cases a <;> exact .inr rfl
  | releasing | gone => cases hp
  | starting | pausing _ => exact .inr (.inl rfl)
  | ending _ => exact .inr (.inr rfl)
  | _ => exact .inr rfl

end Stage

namespace Client

/-- The client that watches of the state show: what was announced last. -/
def watched (c : Client) : ConnectionState := (states c.journal).getLast?.getD (.connecting 1)

/-- Where a client is in its life while nothing breaks down. -/
structure OnCourse (c : Client) : Prop where
  suits : c.worker.stage.Suits c.generation c.state
  course : Course (states c.journal) c.state
  fresh : c.generation = 0 → c.state = .connecting 1 → states c.journal = []
  leaving : c.worker.stage = .leaving → ∀ g, c.state = .disconnected g → c.givesUp = true
  stopped : ∀ g, [.disconnected g, .closed] <:+: states c.journal →
    c.worker.stage.post.isOver = true ∧ c.givesUp = true
  /-- There is something to close with, or the limit was reached. -/
  ended : c.state.isTerminal = true →
    c.shared.closeFrame ≠ none ∨ c.state = .closed ∧ c.givesUp = true

variable {c d : Client}

/-- Nothing that concerns the state, and the worker stays where it is. -/
theorem OnCourse.still (h : c.OnCourse) (hw : d.worker.stage = c.worker.stage)
    (hg : d.generation = c.generation)
    (hs : (d.state, d.shared.closeFrame) = (c.state, c.shared.closeFrame)) (hu : d.givesUp = c.givesUp)
    (hj : states d.journal = states c.journal) : d.OnCourse := by
  obtain ⟨hs, hf⟩ := Prod.mk.inj hs
  refine ⟨?_, ?_, ?_, ?_, ?_, ?_⟩
  · rw [hw, hg, hs]
    exact h.suits
  · rw [hj, hs]
    exact h.course
  · rw [hg, hs, hj]
    exact h.fresh
  · rw [hw, hs, hu]
    exact h.leaving
  · rw [hj, hw, hu]
    exact h.stopped
  · rw [hs, hf, hu]
    exact h.ended

/-- Before the end a state that no session follows is that of a close. -/
theorem OnCourse.closing (h : c.OnCourse) (ho : c.worker.stage.post.isOver = false)
    (ht : c.state.isTerminal = true) : c.state = .closing ∧ c.shared.closeFrame ≠ none := by
  have hs : c.state = .closing := h.suits.closing ho ht
  refine ⟨hs, (h.ended ht).resolve_right fun hc => ?_⟩
  cases hs.symm.trans hc.1

/-- The worker moves on without an announcement. -/
theorem OnCourse.proceed {p q : Stage} (h : c.OnCourse) (hw : c.worker.stage = p)
    (ho : p.post.isOver = false) (hd : d.worker.stage = q)
    (hq : p.Suits c.generation c.state → q.Suits d.generation d.state)
    (hs : (d.state, d.shared.closeFrame) = (c.state, c.shared.closeFrame))
    (hj : states d.journal = states c.journal) (hg : d.generation = 0 → c.generation = 0)
    (hl : q = .leaving → ∀ g, c.state ≠ .disconnected g) : d.OnCourse := by
  obtain ⟨hs, hf⟩ := Prod.mk.inj hs
  subst hw
  refine ⟨hd ▸ hq h.suits, ?_, fun hz hn => ?_, fun hq g hn => ?_, fun g hi => ?_, fun ht => .inl ?_⟩
  · rw [hj, hs]
    exact h.course
  · rw [hj]
    exact h.fresh (hg hz) (hs.symm.trans hn)
  · exact absurd (hs.symm.trans hn) (hl (hd.symm.trans hq) g)
  · rw [hj] at hi
    exact nomatch ho.symm.trans (h.stopped g hi).1
  · rw [hf]
    exact (h.closing ho (hs ▸ ht)).2

/-- After a close was asked for the worker leaves without an announcement. -/
theorem OnCourse.leave {p : Stage} (h : c.OnCourse) (hw : c.worker.stage = p)
    (ho : p.post.isOver = false) (ht : c.state.isTerminal = true) (hd : d.worker.stage = .leaving)
    (hs : (d.state, d.shared.closeFrame) = (c.state, c.shared.closeFrame))
    (hj : states d.journal = states c.journal) (hg : d.generation = 0 → c.generation = 0) :
    d.OnCourse := by
  have hc : c.state = .closing := (hw ▸ h.suits).closing ho ht
  refine h.proceed hw ho hd (fun _ => .inr ((Prod.mk.inj hs).1.trans hc)) hs hj hg fun _ g hn => ?_
  cases hc.symm.trans hn

/-- A state other than the last is announced. -/
theorem OnCourse.announce {x : ConnectionState} (h : c.OnCourse) (hn : c.state.Next x)
    (hx : d.state = x) (hj : states d.journal = states c.journal ++ [x])
    (hp : d.worker.stage.Suits d.generation x) (hf : d.generation = 0 → x ≠ .connecting 1)
    (hl : d.worker.stage = .leaving → ∀ g, x = .disconnected g → d.givesUp = true)
    (ho : c.worker.stage.post.isOver = false)
    (hc : x.isTerminal = true → x = .closing ∧ d.shared.closeFrame ≠ none) : d.OnCourse := by
  subst hx
  refine ⟨hp, hj ▸ h.course.move hn, fun hz hs => absurd hs (hf hz), hl, fun g hi => ?_,
    fun ht => .inl (hc ht).2⟩
  rw [hj, List.infix_concat_iff] at hi
  rcases hi with ⟨l, hl⟩ | hi
  · have hlast := congrArg List.getLast? hl
    rw [List.getLast?_concat, List.getLast?_append_of_ne_nil _ (by simp)] at hlast
    have hs : d.state = .closed := (Option.some.inj hlast).symm
    cases hs.symm.trans (hc (by rw [hs]; rfl)).1
  · exact nomatch ho.symm.trans (h.stopped g hi).1

/-- The end is announced after a close, or after the last attempt. -/
theorem OnCourse.finish (h : c.OnCourse) (hw : c.worker.stage = .leaving) :
    ({ c.settle.publish .closed with shared.cancelled := true }.goTo .releasing).OnCourse := by
  have hs : Stage.Suits c.generation c.state .leaving := hw ▸ h.suits
  have hj : states (c.publish .closed).journal = states c.journal ++ [.closed] := view_cons _
  have hn : c.state.Next .closed := by
    rcases hs with hs | hs <;> rw [hs]
    · exact .giveUp _
    · exact .finish
  refine ⟨rfl, ?_, fun _ hf => (nomatch hf), fun hl => (nomatch hl), fun g hi => ⟨rfl, ?_⟩, fun _ => ?_⟩
  · exact hj ▸ h.course.move hn
  · change _ <:+: states (c.publish .closed).journal at hi
    rw [hj, List.infix_concat_iff] at hi
    rcases hi with hi | hi
    · obtain ⟨l, hl⟩ := hi
      have hl : l ++ [.disconnected g] = states c.journal :=
        List.append_cancel_right ((List.append_assoc ..).trans hl)
      have hlast := h.course.getLast?
      rw [← hl, List.getLast?_concat] at hlast
      exact h.leaving hw g hlast.symm
    · exact (h.stopped g hi).2
  · rcases hs with hs | hs
    · exact .inr ⟨rfl, h.leaving hw _ hs⟩
    · exact .inl (h.closing (by rw [hw]; rfl) (by rw [hs]; rfl)).2

theorem OnCourse.release {es : List Entry} (h : c.OnCourse) (hw : c.worker.stage = .releasing)
    (hes : ∀ e ∈ es, e.what.isAnswer = true) :
    ({ c with commands := [], stream := c.stream.finish }.log es |>.goTo .gone).OnCourse := by
  have hs : c.state = .closed := (hw ▸ h.suits : Stage.Suits c.generation c.state .releasing)
  have hj : states (c.log es).journal = states c.journal := view_answers hes (fun _ _ => rfl) _
  refine ⟨hs, hj ▸ h.course, fun _ hf => ?_, fun hl => (nomatch hl), fun g hi => ⟨rfl, ?_⟩, h.ended⟩
  · cases hs.symm.trans hf
  · exact (h.stopped g (hj ▸ hi)).2

/-- An attempt is announced, if it is not the first. -/
theorem OnCourse.attempt (h : c.OnCourse) (hw : c.worker.stage = .starting)
    (ho : c.state.isTerminal = false) : (({ c with worker.generation := c.generation + 1 }.publish
      (.connecting (c.generation + 1))).goTo .calling).OnCourse := by
  have hj : states (c.publish (.connecting (c.generation + 1))).journal =
      states c.journal ++ [.connecting (c.generation + 1)] := view_cons _
  rcases (hw ▸ h.suits : Stage.Suits c.generation c.state .starting) with hs | hs | ⟨hg, hs⟩
  · exact h.announce (hs ▸ .retry _) rfl hj (.inl rfl) (fun hn => nomatch hn) (fun hn => nomatch hn)
      (h.suits.not_over ho) fun hn => nomatch hn
  · cases (congrArg ConnectionState.isTerminal hs).symm.trans ho
  · -- The first attempt is announced for the second time.
    rw [h.fresh hg hs, hg] at hj
    refine ⟨.inl rfl, ?_, fun hn => (nomatch hn), fun hn => (nomatch hn), fun g hi => ?_,
      fun hn => (nomatch hn)⟩
    · change Course (states (c.publish (.connecting (c.generation + 1))).journal)
        (.connecting (c.generation + 1))
      rw [hg, hj]
      exact .again
    · have hlen : 2 ≤ (states (c.publish (.connecting (c.generation + 1))).journal).length := hi.length_le
      rw [hg, hj] at hlen
      exact absurd hlen (by decide)

/-- The end of an attempt or of a session is announced. -/
theorem OnCourse.lose {cause : TransportFault} (h : c.OnCourse) (hw : c.worker.stage = .ending cause)
    (ho : c.state.isTerminal = false) : c.state.Next (.disconnected c.generation) := by
  rcases (hw ▸ h.suits : Stage.Suits c.generation c.state (.ending cause)) with hs | hs | hs
  · exact hs ▸ .fail _
  · exact hs ▸ .lose _
  · cases (congrArg ConnectionState.isTerminal hs).symm.trans ho

/-- A calm change keeps the client on its course, if the clock holds the timers. -/
theorem Deed.onCourse {e : Event} {os : List Occurrence} (hd : Deed e c os d) (he : e.isCalm = true)
    (ht : c.config.FitsClock c.now) (h : c.OnCourse) : d.OnCourse := by
  have hj : states d.journal = states c.journal ++ os.filterMap Occurrence.state? :=
    hd.shown fun _ _ => rfl
  have quiet {l : List ConnectionState} (hj : l = states c.journal ++ []) : l = states c.journal :=
    hj.trans (List.append_nil _)
  cases hd with
  | rest | ask | direct | refuse | closeAgain | signal | clone | dropHandle | read | readEnd | dropStream
  | pass | look | drop => exact h.still rfl rfl rfl rfl (quiet hj)
  | close _ ho =>
    have hp := h.suits.not_over ho
    exact h.announce (.close ho) rfl hj (Stage.suits_closing hp) (fun _ hn => nomatch hn)
      (fun _ _ hn => nomatch hn) hp fun _ => ⟨rfl, Option.some_ne_none _⟩
  | departAlone _ _ _ ho | leaveAlone _ _ ho =>
    exact h.announce (.close ho) rfl hj (.inr rfl) (fun _ hn => nomatch hn)
      (fun _ _ hn => nomatch hn) (h.suits.not_over ho) fun _ => ⟨rfl, Option.some_ne_none _⟩
  | tend l m a hw =>
    exact h.proceed hw (Stage.session_not_over l a) rfl (by cases a <;> exact id) rfl (quiet hj) id
      fun hl => nomatch hl
  | attempt hw ho => exact h.attempt hw ho
  | abandon hw ho => exact h.leave hw rfl ho rfl rfl (quiet hj) fun hn => nomatch hn
  | leave _ _ hw ho =>
    obtain hw | hw | hw := hw <;> exact h.leave hw rfl ho rfl rfl (quiet hj) id
  | decline _ hw ho | depart _ _ hw ho | departLate _ _ hw ho | giveUpQuietly _ hw ho =>
    exact h.leave hw rfl ho rfl rfl (quiet hj) id
  | dial _ hw | meet _ _ hw | replay _ _ _ hw | listen _ _ hw | execute _ _ _ _ hw | skip _ _ _ _ hw
  | deliver _ _ _ _ _ _ _ _ hw | withhold _ _ _ _ _ _ _ _ _ _ hw | misread _ _ _ _ _ _ hw
  | beat _ _ _ hw | wake _ hw =>
    exact h.proceed hw rfl rfl id rfl (quiet hj) id fun hl => nomatch hl
  | written _ _ s _ hw =>
    exact h.proceed hw rfl rfl (by cases s <;> exact id) rfl (quiet hj) id fun hl => nomatch hl
  | failAttempt _ _ hw =>
    obtain hw | hw := hw <;>
      exact h.proceed hw rfl rfl (Or.imp_right .inr) rfl (quiet hj) id fun hl => nomatch hl
  | refused _ _ _ hw | despair _ _ _ _ hw | idle _ _ hw =>
    exact h.proceed hw rfl rfl .inr rfl (quiet hj) id fun hl => nomatch hl
  | hangUp _ _ _ a hw =>
    cases a <;> exact h.proceed hw rfl rfl .inr rfl (quiet hj) id fun hl => nomatch hl
  | announce l hw ho =>
    have hs : c.state = .connecting c.generation := by
      obtain hs | hs := (hw ▸ h.suits : Stage.Suits c.generation c.state (.session l .opening))
      · exact hs
      · cases (congrArg ConnectionState.isTerminal hs).symm.trans ho
    exact h.announce (hs ▸ .connect _) rfl hj (.inl rfl) (fun _ hn => nomatch hn)
      (fun hn => nomatch hn) (h.suits.not_over ho) fun hn => nomatch hn
  | pause _ _ _ hw ho =>
    exact h.announce (h.lose hw ho) rfl hj (.inl rfl) (fun _ hn => nomatch hn) (fun hn => nomatch hn)
      (h.suits.not_over ho) fun hn => nomatch hn
  | giveUp _ hw ho hg =>
    exact h.announce (h.lose hw ho) rfl hj (.inl rfl) (fun _ hn => nomatch hn) (fun _ _ _ => hg)
      (h.suits.not_over ho) fun hn => nomatch hn
  | pauseQuietly _ _ _ hw ho =>
    have hs : c.state = .closing := (hw ▸ h.suits).closing rfl ho
    exact h.proceed hw rfl rfl (fun _ => .inr (.inl hs)) rfl (quiet hj) id fun hl => nomatch hl
  | crash _ hf => cases hf.symm.trans he
  | lateHeartbeat _ _ hn => exact absurd hn ht.1
  | latePatience _ _ _ _ hn => exact absurd hn ht.2
  | finish hw => exact h.finish hw
  | release _ hw hes => exact h.release hw hes

/-- What a calm run leads to, if the clock holds the timers at its end. -/
theorem onCourse_of_run {config : Config} {tokens : Nat → Option String} {es : List Event}
    (hv : config.isValid = true) (h : (Client.initial config tokens).run es = some c)
    (he : ∀ e ∈ es, e.isCalm = true) (ht : config.FitsClock c.now) : c.OnCourse := by
  have hk : c.config.FitsClock c.now → c.OnCourse := by
    have hr : Reachable config tokens (.initial config tokens) := .initial hv
    refine hr.keep (P := fun c => c.config.FitsClock c.now → c.OnCourse) h (fun _ => ?_)
      fun {e b _ d} hm _ hd ih hf => ?_
    · exact ⟨.inr (.inr ⟨rfl, rfl⟩), .start, fun _ _ => rfl, fun hn => (nomatch hn), fun g hi =>
        absurd (show 2 ≤ 0 from hi.length_le) (by decide), fun hn => (nomatch hn)⟩
    · have hb : b.config.FitsClock b.now := (hd.frame.1 ▸ hf).mono hd.frame.2.2
      exact hd.onCourse (he e hm) hb (ih hb)
  exact hk (((Reachable.initial hv).run h).config_eq ▸ ht)

/-! ### Connections asked for -/

/-- A connection is asked for once in an attempt. -/
structure Dialed (c : Client) : Prop where
  rising : (dials c.journal).Pairwise (· < ·)
  reached : ∀ g ∈ dials c.journal, g ≤ c.generation
  calling : c.worker.stage = .calling → ∀ g ∈ dials c.journal, g < c.generation

theorem Dialed.frame (h : c.Dialed) (hj : dials d.journal = dials c.journal)
    (hg : c.generation ≤ d.generation)
    (hc : d.worker.stage = .calling →
      c.worker.stage = .calling ∧ d.generation = c.generation ∨ c.generation < d.generation) :
    d.Dialed where
  rising := hj ▸ h.rising
  reached g hm := Nat.le_trans (h.reached g (hj ▸ hm)) hg
  calling hw g hm := by
    rw [hj] at hm
    rcases hc hw with ⟨hc, hg⟩ | hlt
    · rw [hg]
      exact h.calling hc g hm
    · exact Nat.lt_of_le_of_lt (h.reached g hm) hlt

theorem Dialed.dial {endpoint : String} (h : c.Dialed) (hw : c.worker.stage = .calling) :
    (({ c with worker.tokensAsked := c.worker.tokensAsked + 1 }.note
      (.dialed c.generation endpoint)).goTo (.dialing (c.now.deadline c.config.connectTimeout))).Dialed := by
  have hj : dials (⟨c.now, .dialed c.generation endpoint⟩ :: c.journal) =
      dials c.journal ++ [c.generation] := view_cons _
  refine ⟨?_, fun g hm => ?_, fun hn => nomatch hn⟩
  · refine hj ▸ List.pairwise_append.mpr ⟨h.rising, List.pairwise_singleton .., fun g hg x hx => ?_⟩
    rw [List.mem_singleton.mp hx]
    exact h.calling hw g hg
  · rcases List.mem_append.mp (hj ▸ hm) with hm | hm
    · exact h.reached g hm
    · exact Nat.le_of_eq (List.mem_singleton.mp hm)

theorem Deed.dialed {e : Event} {os : List Occurrence} (hd : Deed e c os d) (h : c.Dialed) :
    d.Dialed := by
  have hj : dials d.journal = dials c.journal ++ os.filterMap Occurrence.dial? :=
    hd.shown fun _ _ => rfl
  have quiet {l : List Generation} (hj : l = dials c.journal ++ []) : l = dials c.journal :=
    hj.trans (List.append_nil _)
  cases hd with
  | rest | ask | direct | refuse | close | closeAgain | signal | clone | dropHandle | read | readEnd
  | dropStream | pass | look | drop => exact h.frame (quiet hj) (Nat.le_refl _) fun hn => .inl ⟨hn, rfl⟩
  | attempt => exact h.frame (quiet hj) (Nat.le_succ _) fun _ => .inr (Nat.lt_succ_self _)
  | abandon => exact h.frame (quiet hj) (Nat.le_succ _) fun hn => nomatch hn
  | dial _ hw => exact h.dial hw
  | latePatience _ _ a | hangUp _ _ _ a =>
    cases a <;> exact h.frame (quiet hj) (Nat.le_refl _) fun hn => nomatch hn
  | _ => exact h.frame (quiet hj) (Nat.le_refl _) fun hn => nomatch hn

theorem Reachable.dialed {config : Config} {tokens : Nat → Option String}
    (h : Reachable config tokens c) : c.Dialed :=
  h.invariant ⟨.nil, fun _ hg => (nomatch hg), fun hw => (nomatch hw)⟩ fun _ hd ih => hd.dialed ih

/-! ### The end -/

/-- Once no session will follow, only the end does. -/
theorem Deed.final {e : Event} {os : List Occurrence} (hd : Deed e c os d) (hs : c.state.isTerminal = true) :
    d.state = c.state ∨ d.state = .closed := by
  cases hd with
  | close frame ho | departAlone _ _ _ ho | leaveAlone _ _ ho | attempt _ ho | announce _ _ ho
  | pause _ _ _ _ ho | giveUp _ _ ho => exact nomatch ho.symm.trans hs
  | finish => exact .inr rfl
  | latePatience _ _ a | hangUp _ _ _ a => cases a <;> exact .inl rfl
  | _ => exact .inl rfl

theorem Reachable.final {config : Config} {tokens : Nat → Option String} {es : List Event}
    (h : Reachable config tokens c) (hr : c.run es = some d) (hs : c.state.isTerminal = true) :
    d.state = c.state ∨ d.state = .closed := by
  refine h.keep (P := fun b => b.state = c.state ∨ b.state = .closed) hr (.inl rfl)
    fun {_ b _ _} _ _ hd ih => ?_
  have hb : b.state.isTerminal = true := by
    rcases ih with ih | ih <;> rw [ih]
    · exact hs
    · rfl
  rcases hd.final hb with he | he
  · exact ih.imp he.trans he.trans
  · exact .inr he

/-- The state goes by its moves. -/
structure GoesByMoves (c : Client) : Prop where
  watched : c.watched = c.state
  /-- Only the first attempt may be announced once more. -/
  moves : ∃ rest, (states c.journal = rest ∨ states c.journal = .connecting 1 :: rest) ∧
    (.connecting 1 :: rest).IsChain ConnectionState.Next
  /-- The end without a close comes when so many attempts have failed as the limit allows. -/
  limited : ∀ g, [.disconnected g, .closed] <:+: states c.journal →
    ∃ most, c.config.reconnect.maxAttempts = some most ∧ most ≤ c.worker.failedAttempts
  generations : (1 :: (states c.journal).filterMap (·.generation?)).IsChain fun g h => h = g ∨ h = g + 1
  sessions : ((states c.journal).filterMap (·.session?)).Pairwise (· < ·)
  dials : (dials c.journal).Pairwise (· < ·)
  /-- Whatever happens later. -/
  final : ∀ es d, c.run es = some d → c.state.isTerminal = true →
    d.state = c.state ∨ d.state = .closed

theorem givesUp_eq_true (h : c.givesUp = true) :
    ∃ most, c.config.reconnect.maxAttempts = some most ∧ most ≤ c.worker.failedAttempts := by
  unfold givesUp at h
  split at h
  · rename_i most hm
    exact ⟨most, hm, of_decide_eq_true h⟩
  · cases h

theorem goesByMoves_of_run {config : Config} {tokens : Nat → Option String} {es : List Event}
    (hv : config.isValid = true) (h : (Client.initial config tokens).run es = some c)
    (he : ∀ e ∈ es, e.isCalm = true) (ht : config.FitsClock c.now) : c.GoesByMoves := by
  have hc := onCourse_of_run hv h he ht
  have hr : Reachable config tokens c := (Reachable.initial hv).run h
  obtain ⟨rest, hl, hn, -⟩ := hc.course
  refine ⟨hc.course.getLast?, ⟨rest, hl, hn⟩, fun g hi => givesUp_eq_true (hc.stopped g hi).2, ?_, ?_,
    hr.dialed.rising, fun es d => hr.final⟩
  · have hg := ConnectionState.generations_chain hn rfl
    rcases hl with hl | hl <;> rw [hl]
    · exact hg
    · exact .cons_cons (.inl rfl) hg
  · have hs := (ConnectionState.sessions_rise hn).2
    rcases hl with hl | hl <;> rw [hl] <;> exact hs

/-- A session does not go over into the end. -/
theorem not_goesByMoves (hs : states c.journal = [.connecting 1, .connected 1, .closed]) :
    ¬ c.GoesByMoves := by
  intro h
  obtain ⟨rest, hl, hn⟩ := h.moves
  have hnot : ¬ ConnectionState.Next (.connected 1) .closed := fun hn => nomatch hn
  rw [hs] at hl
  rcases hl with rfl | hl
  · exact hnot (List.isChain_cons_cons.mp (List.isChain_cons_cons.mp (List.isChain_cons_cons.mp hn).2).2).1
  · cases hl
    exact hnot (List.isChain_cons_cons.mp (List.isChain_cons_cons.mp hn).2).1

/-- Until a moment the state goes by its moves, exactly if the clock holds the timers that are set at
that moment. -/
theorem state_goes_by_moves {config : Config} (hv : config.isValid = true) (t : Instant) :
    (∀ (tokens : Nat → Option String) (es : List Event) (c : Client),
      (Client.initial config tokens).run es = some c → (∀ e ∈ es, e.isCalm = true) → c.now ≤ t →
        c.GoesByMoves) ↔ config.FitsClock t := by
  refine ⟨fun hall => by_contra fun ht => ?_, fun ht tokens es c hc he hle => ?_⟩
  · obtain ⟨es, c, hc, he, hn, -, hs⟩ := exists_broken_run hv ht
    exact not_goesByMoves hs (hall _ es c hc he (Nat.le_of_eq hn))
  · exact goesByMoves_of_run hv hc he (ht.mono hle)

/-- A session is lost, and a close finds the next attempt, whose connection comes too late. -/
def lateConnectionRun : List Event :=
  [.work 0, .work 0, .dialAnswer (.link none), .work 0, .work 0, .hangUp, .work 0, .work 0,
    .pass 1000000000, .work 0, .work 0, .work 0, .look, .close .normal, .signal,
    .dialAnswer (.link none), .work 0, .work 0, .work 0]

theorem late_connection_goes_by_moves : ∃ c,
    (initial .loopback fun _ => none).run lateConnectionRun = some c ∧
      states c.journal = [.connecting 1, .connected 1, .disconnected 1, .connecting 2, .closing, .closed] ∧
      c.GoesByMoves := by
  have hr : ((initial .loopback fun _ => none).run lateConnectionRun).map
      (fun c => (c.now, states c.journal)) = some (1000000000,
        [.connecting 1, .connected 1, .disconnected 1, .connecting 2, .closing, .closed]) := by
    decide +kernel
  obtain ⟨c, hc, hv⟩ := Option.map_eq_some_iff.mp hr
  simp only [Prod.mk.injEq] at hv
  exact ⟨c, hc, hv.2, (state_goes_by_moves Config.loopback_isValid 1000000000).mpr
    (Config.fitsClock_iff.mpr (by decide)) _ lateConnectionRun c hc (by decide) (Nat.le_of_eq hv.1)⟩

end Client

/-- Settings that pass the checks although the clock cannot hold the end of their patience. -/
def Config.patient : Config := { Config.loopback with idle := .longest }

theorem Config.patient_isValid : Config.patient.isValid = true := by decide +kernel

/-- A sign of life of the server. -/
def Frame.pong : Frame := .text "\x7b\"type\":\"Pong\"\x7d"

namespace Client

/-- A frame comes in on the first session. -/
def firstFrameRun : List Event :=
  [.work 0, .work 0, .dialAnswer (.link none), .work 0, .work 0, .arrive (.ok .pong), .work 0, .work 0]

/-- With settings that the clock cannot hold, a session can go over into the end. -/
theorem patient_state_leaves_moves : ¬ ∀ (config : Config) (tokens : Nat → Option String)
    (es : List Event) (c : Client), config.isValid = true →
      (Client.initial config tokens).run es = some c → (∀ e ∈ es, e.isCalm = true) → c.GoesByMoves := by
  intro hall
  have hr : ((initial .patient fun _ => none).run firstFrameRun).map (fun c => states c.journal) =
      some [.connecting 1, .connected 1, .closed] := by
    decide +kernel
  obtain ⟨c, hc, hs⟩ := Option.map_eq_some_iff.mp hr
  exact not_goesByMoves hs (hall .patient _ firstFrameRun c Config.patient_isValid hc (by decide))

end Client

end MarketFeed
