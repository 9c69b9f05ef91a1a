import Mathlib.Data.List.Nodup
import MarketFeed.Client.Run

/-!
The journal of a client, read in the order of time: what was asked for, what a session was told and
what it acknowledged. Each reading is a view of single occurrences, and an entry that a view does not
show changes nothing in it.
-/

namespace MarketFeed

namespace Registry

/-- The wanted topics after a message, for one who hears nothing else. Only requests change them. -/
def heed (r : Registry) : Message → Registry
  | .subscribe t => r.insert t
  | .unsubscribe t => r.remove t
  | _ => r

/-- The wanted topics after messages. -/
def heedAll (r : Registry) (os : List Outgoing) : Registry := os.foldl (fun r o => r.heed o.message) r

@[simp] theorem heedAll_nil (r : Registry) : r.heedAll [] = r := rfl

@[simp] lemma heedAll_cons (r : Registry) (o : Outgoing) (os : List Outgoing) :
    r.heedAll (o :: os) = (r.heed o.message).heedAll os := rfl

@[simp] theorem heedAll_append (r : Registry) (os ps : List Outgoing) :
    r.heedAll (os ++ ps) = (r.heedAll os).heedAll ps := List.foldl_append

@[simp] theorem heed_ofAction (r : Registry) (a : Action) (t : Topic) :
    r.heed (.ofAction a t) = r.apply a t := by
  cases a <;> rfl

@[simp] theorem heed_ofDirective (r : Registry) (d : Directive) : r.heed (.ofDirective d) = r := by
  cases d <;> rfl

/-- A sign of life changes nothing, so the topics are those of the other messages. -/
theorem heedAll_filter (r : Registry) (os : List Outgoing) :
    r.heedAll (os.filter (· ≠ .heartbeat)) = r.heedAll os := by
  induction os generalizing r with
  | nil => rfl
  | cons o os ih =>
    by_cases h : o = .heartbeat
    · subst h
      simpa [heed, Outgoing.heartbeat] using ih r
    · simpa [h] using ih (r.heed o.message)

lemma apply_nodup {r : Registry} (h : r.topics.Nodup) (a : Action) (t : Topic) :
    (r.apply a t).topics.Nodup := by
  cases a with
  | subscribe =>
    by_cases ht : t ∈ r.topics
    · simpa [apply, insert, contains, ht] using h
    · simpa [apply, insert, contains, ht] using h.concat ht
  | unsubscribe => exact h.filter _

/-- Asking for topics that are all new adds them in their order. -/
theorem heedAll_ofReplay (old new : List Topic) (h : (old ++ new).Nodup) :
    (⟨old⟩ : Registry).heedAll (new.map .ofReplay) = ⟨old ++ new⟩ := by
  induction new generalizing old with
  | nil => simp
  | cons t ts ih =>
    have ht : t ∉ old := by
      intro hm
      exact List.disjoint_of_nodup_append h hm List.mem_cons_self
    have hstep : (⟨old⟩ : Registry).heed (Outgoing.ofReplay t).message = ⟨old ++ [t]⟩ := by
      simp [Outgoing.ofReplay, heed, insert, contains, ht]
    rw [List.map_cons, heedAll_cons, hstep, ih (old ++ [t]) (by simpa using h)]
    simp

end Registry

namespace Occurrence

/-- The request of a caller. -/
def request? : Occurrence → Option Request
  | requested _ _ r => some r
  | _ => none

/-- The session that is announced. -/
def announced? : Occurrence → Option Generation
  | published (.connected g) => some g
  | _ => none

/-- The state that is announced. -/
def state? : Occurrence → Option ConnectionState
  | published s => some s
  | _ => none

/-- The message of a call that found a session live. -/
def called? (g : Generation) : Occurrence → Option Outgoing
  | requested (.connected h) call r => if h = g then some (.ofRequest call r) else none
  | directed (.connected h) call d => if h = g then some (.ofDirective call d) else none
  | _ => none

/-- A message that was passed to the connection of a session. -/
def passed? (g : Generation) : Occurrence → Option Outgoing
  | writing h o => if h = g then some o else none
  | _ => none

/-- A message that the connection of a session took. -/
def written? (g : Generation) : Occurrence → Option Outgoing
  | written h _ o => if h = g then some o else none
  | _ => none

/-- The request that an acknowledgment of a session was about, if that went to the reader. -/
def acknowledged? (g : Generation) : Occurrence → Option Request
  | delivered h (.ack t a _ _) => if h = g then some ⟨t, a⟩ else none
  | _ => none

/-- The session that an occurrence is about: it was announced, a call found it live, or something was
said on it. -/
def session? : Occurrence → Option Generation
  | requested (.connected g) _ _ | directed (.connected g) _ _ | published (.connected g)
  | writing g _ | written g _ _ | delivered g (.ack ..) => some g
  | _ => none

/-- The call for a directive. -/
def directive? : Occurrence → Option CallNumber
  | directed _ call _ => some call
  | _ => none

/-- The call that was answered. -/
def answered? : Occurrence → Option CallNumber
  | answered call _ => some call
  | _ => none

/-- An occurrence that has no part in what sessions are told and what they owe. -/
def isSilent (o : Occurrence) : Bool :=
  o.request?.isNone && o.session?.isNone && o.directive?.isNone && o.answered?.isNone

variable {o : Occurrence} {g : Generation}

theorem isSilent_iff : o.isSilent = true ↔
    o.request? = none ∧ o.session? = none ∧ o.directive? = none ∧ o.answered? = none := by
  simp [isSilent, and_assoc]

/-- A call that found no session is about none. -/
theorem session?_requested {s : ConnectionState} (h : s.isConnected = false) (call : CallNumber)
    (r : Request) : (requested s call r).session? = none := by
  cases s with
  | connected g => cases h
  | _ => rfl

theorem session?_directed {s : ConnectionState} (h : s.isConnected = false) (call : CallNumber)
    (d : Directive) : (directed s call d).session? = none := by
  cases s with
  | connected g => cases h
  | _ => rfl

lemma announced?_other (h : o.session? ≠ some g) : o.announced? ≠ some g := by
  unfold announced?
  split
  · exact h
  · exact fun he => nomatch he

/-- What is about no session is not about this one. -/
theorem session?_ne (h : o.session? = none) : o.session? ≠ some g := by
  rw [h]
  exact fun he => nomatch he

theorem session?_of_isSilent (h : o.isSilent = true) : o.session? = none := (isSilent_iff.mp h).2.1

lemma called?_other (h : o.session? ≠ some g) : o.called? g = none := by
  unfold called?
  split
  · exact if_neg fun he => h (congrArg some he)
  · exact if_neg fun he => h (congrArg some he)
  · rfl

lemma passed?_other (h : o.session? ≠ some g) : o.passed? g = none := by
  unfold passed?
  split
  · exact if_neg fun he => h (congrArg some he)
  · rfl

lemma written?_other (h : o.session? ≠ some g) : o.written? g = none := by
  unfold written?
  split
  · exact if_neg fun he => h (congrArg some he)
  · rfl

theorem acknowledged?_other (h : o.session? ≠ some g) : o.acknowledged? g = none := by
  unfold acknowledged?
  split
  · exact if_neg fun he => h (congrArg some he)
  · rfl

end Occurrence

namespace History

/-- What a view shows of a journal, the earliest first. -/
def view {α : Type} (f : Occurrence → Option α) (j : List Entry) : List α :=
  j.reverse.filterMap fun e => f e.what

section view

variable {α : Type} {f : Occurrence → Option α} {j : List Entry}

@[simp] theorem view_cons (e : Entry) : view f (e :: j) = view f j ++ (f e.what).toList := by
  cases h : f e.what <;> simp [view, h]

theorem mem_view {a : α} : a ∈ view f j ↔ ∃ e ∈ j, f e.what = some a := by
  simp [view]

/-- What a view does not show changes nothing in it. -/
theorem view_append_hidden {n : List Entry} (h : ∀ e ∈ n, f e.what = none) :
    view f (n ++ j) = view f j := by
  simp [view, List.filterMap_eq_nil_iff.mpr fun e he => h e (List.mem_reverse.mp he)]

/-- What shows less shows it in the same order. -/
theorem view_sublist {f' : Occurrence → Option α} (h : ∀ o a, f o = some a → f' o = some a)
    (j : List Entry) : (view f j).Sublist (view f' j) := by
  induction j with
  | nil => exact List.Sublist.slnil
  | cons e j ih =>
    rw [view_cons, view_cons]
    refine ih.append ?_
    cases ha : f e.what with
    | none => exact List.nil_sublist _
    | some a => rw [h _ _ ha]

theorem view_eq_nil (h : ∀ e ∈ j, f e.what = none) : view f j = [] := by
  simpa [view, List.filterMap_eq_nil_iff] using h

/-- What a view shows once stands at one place. -/
theorem view_injective {a : α} (hn : (view f j).Nodup) {e x : Entry} (he : e ∈ j) (hx : x ∈ j)
    (hfe : f e.what = some a) (hfx : f x.what = some a) : e = x := by
  induction j with
  | nil => cases he
  | cons y j ih =>
    rw [view_cons, List.nodup_append] at hn
    obtain ⟨hj, -, hne⟩ := hn
    have late {z : Entry} (hz : z ∈ j) (hfz : f z.what = some a) (hy : f y.what = some a) : False :=
      hne a (mem_view.mpr ⟨z, hz, hfz⟩) a (by rw [hy]; exact List.mem_singleton_self a) rfl
    rcases List.mem_cons.mp he with rfl | he'
    · rcases List.mem_cons.mp hx with rfl | hx'
      · rfl
      · exact (late hx' hfx hfe).elim
    · rcases List.mem_cons.mp hx with rfl | hx'
      · exact (late he' hfe hfx).elim
      · exact ih hj he' hx'

end view

/-- Every entry fits what was before it. -/
def Always (P : List Entry → Entry → Prop) : List Entry → Prop
  | [] => True
  | e :: j => P j e ∧ Always P j

theorem Always.fits {P : List Entry → Entry → Prop} {later earlier : List Entry} {e : Entry}
    (h : Always P (later ++ e :: earlier)) : P earlier e := by
  induction later with
  | nil => exact h.1
  | cons x later ih => exact ih h.2

theorem Always.mem {P : Entry → Prop} {j : List Entry} {e : Entry} (h : Always (fun _ e => P e) j)
    (he : e ∈ j) : P e := by
  obtain ⟨later, earlier, rfl⟩ := List.append_of_mem he
  exact h.fits

theorem Always.append {P : List Entry → Entry → Prop} {n j : List Entry} (h : Always P j)
    (he : ∀ e ∈ n, ∀ l, P l e) : Always P (n ++ j) := by
  induction n with
  | nil => exact h
  | cons e n ih =>
    exact ⟨he e List.mem_cons_self _, ih fun x hx => he x (List.mem_cons_of_mem e hx)⟩

/-- The topics that requests leave wanted. -/
def wanted (j : List Entry) : Registry :=
  (view Occurrence.request? j).foldl (fun r q => r.apply q.action q.topic) .empty

/-- The topics that were wanted when a session was announced, none if it was not. -/
def snapshot (g : Generation) : List Entry → List Topic
  | [] => []
  | e :: j => if e.what.announced? = some g then (wanted j).topics else snapshot g j

/-- The messages of the calls that found a session live. -/
def called (g : Generation) (j : List Entry) : List Outgoing := view (Occurrence.called? g) j

/-- All that a session is to be told: the topics wanted at its start, and then what callers ask. -/
def asked (g : Generation) (j : List Entry) : List Outgoing :=
  (snapshot g j).map .ofReplay ++ called g j

/-- The messages that were passed to the connection of a session. -/
def passed (g : Generation) (j : List Entry) : List Outgoing := view (Occurrence.passed? g) j

/-- Those among them that are no signs of life. -/
def spoken (g : Generation) (j : List Entry) : List Outgoing := (passed g j).filter (· ≠ .heartbeat)

/-- The messages that the connection of a session took. -/
def written (g : Generation) (j : List Entry) : List Outgoing := view (Occurrence.written? g) j

/-- The requests whose acknowledgments went to the reader, once for each. -/
def acknowledged (g : Generation) (j : List Entry) : List Request :=
  view (Occurrence.acknowledged? g) j

/-- The announced states, the earliest first. -/
def states (j : List Entry) : List ConnectionState := view Occurrence.state? j

/-- The calls for directives. -/
def directives (j : List Entry) : List CallNumber := view Occurrence.directive? j

/-- The calls that were answered. -/
def answered (j : List Entry) : List CallNumber := view Occurrence.answered? j

@[simp] theorem directives_cons (e : Entry) (j : List Entry) :
    directives (e :: j) = directives j ++ e.what.directive?.toList := view_cons e

@[simp] theorem answered_cons (e : Entry) (j : List Entry) :
    answered (e :: j) = answered j ++ e.what.answered?.toList := view_cons e

@[simp] theorem wanted_cons (e : Entry) (j : List Entry) :
    wanted (e :: j) = (e.what.request?.toList).foldl (fun r q => r.apply q.action q.topic) (wanted j) := by
  simp [wanted, List.foldl_append]

/-- What is no request leaves wanted what was. -/
theorem wanted_append {n j : List Entry} (h : ∀ e ∈ n, e.what.request? = none) :
    wanted (n ++ j) = wanted j := by
  induction n with
  | nil => rfl
  | cons e n ih =>
    rw [List.cons_append, wanted_cons, h e List.mem_cons_self]
    exact ih fun x hx => h x (List.mem_cons_of_mem e hx)

lemma wanted_nodup (j : List Entry) : (wanted j).topics.Nodup := by
  induction j with
  | nil => exact List.nodup_nil
  | cons e j ih =>
    rw [wanted_cons]
    cases e.what.request? with
    | none => exact ih
    | some q => exact Registry.apply_nodup ih _ _

theorem snapshot_nodup (g : Generation) (j : List Entry) : (snapshot g j).Nodup := by
  induction j with
  | nil => exact List.nodup_nil
  | cons e j ih =>
    rw [snapshot]
    split
    · exact wanted_nodup j
    · exact ih

section session

variable {g : Generation} {j : List Entry}

@[simp] theorem called_cons (e : Entry) :
    called g (e :: j) = called g j ++ (e.what.called? g).toList := view_cons e

@[simp] lemma passed_cons (e : Entry) :
    passed g (e :: j) = passed g j ++ (e.what.passed? g).toList := view_cons e

@[simp] lemma written_cons (e : Entry) :
    written g (e :: j) = written g j ++ (e.what.written? g).toList := view_cons e

@[simp] theorem acknowledged_cons (e : Entry) :
    acknowledged g (e :: j) = acknowledged g j ++ (e.what.acknowledged? g).toList := view_cons e

@[simp] theorem snapshot_cons (e : Entry) :
    snapshot g (e :: j) = if e.what.announced? = some g then (wanted j).topics else snapshot g j := rfl

@[simp] theorem called_nil : called g [] = [] := rfl

@[simp] theorem passed_nil : passed g [] = [] := rfl

@[simp] theorem written_nil : written g [] = [] := rfl

theorem spoken_cons (e : Entry) : spoken g (e :: j) =
    spoken g j ++ (e.what.passed? g).toList.filter (· ≠ .heartbeat) := by
  rw [spoken, passed_cons, List.filter_append, spoken]

theorem asked_cons {e : Entry} (hp : e.what.announced? ≠ some g) :
    asked g (e :: j) = asked g j ++ (e.what.called? g).toList := by
  rw [asked, snapshot_cons, if_neg hp, called_cons, ← List.append_assoc, asked]

theorem snapshot_other {e : Entry} (h : e.what.session? ≠ some g) :
    snapshot g (e :: j) = snapshot g j := if_neg (Occurrence.announced?_other h)

/-- Two journals say the same of what a session is to be told and was told. -/
structure Agree (g : Generation) (j l : List Entry) : Prop where
  snapshot : snapshot g l = snapshot g j
  called : called g l = called g j
  passed : passed g l = passed g j
  written : written g l = written g j

theorem Agree.cons {l : List Entry} {e : Entry} (h : Agree g j l) (he : e.what.session? ≠ some g) :
    Agree g j (e :: l) where
  snapshot := (snapshot_other he).trans h.snapshot
  called := by rw [called_cons, Occurrence.called?_other he, h.called, Option.toList_none, List.append_nil]
  passed := by rw [passed_cons, Occurrence.passed?_other he, h.passed, Option.toList_none, List.append_nil]
  written := by
    rw [written_cons, Occurrence.written?_other he, h.written, Option.toList_none, List.append_nil]

/-- What is about no session or another one changes nothing. -/
theorem agree_append {n : List Entry} (h : ∀ e ∈ n, e.what.session? ≠ some g) :
    Agree g j (n ++ j) := by
  induction n with
  | nil => exact ⟨rfl, rfl, rfl, rfl⟩
  | cons e n ih =>
    exact (ih fun x hx => h x (List.mem_cons_of_mem e hx)).cons (h e List.mem_cons_self)

theorem agree_cons {e : Entry} (h : e.what.session? ≠ some g) : Agree g j (e :: j) :=
  Agree.cons ⟨rfl, rfl, rfl, rfl⟩ h

/-- A session that no entry is about. -/
theorem agree_nil (h : ∀ e ∈ j, e.what.session? ≠ some g) : Agree g [] j := by
  rw [← List.append_nil j]
  exact agree_append h

theorem Agree.asked {l : List Entry} (h : Agree g j l) : asked g l = asked g j := by
  rw [History.asked, h.snapshot, h.called, History.asked]

theorem Agree.spoken {l : List Entry} (h : Agree g j l) : spoken g l = spoken g j := by
  rw [History.spoken, h.passed, History.spoken]

end session

end History

end MarketFeed
