import MarketFeed.Proofs.Schedules
import MarketFeed.Stream.Search

/-!
What a search takes of a stream. Envelopes arrive, the stream ends, time passes and the search looks, in
any order. Whatever it looked at so far it has taken, and none of that answered, until something does;
then it looks no more. So calls that wait one after another take consecutive stretches of the stream.
-/

namespace MarketFeed

variable {σ β ρ : Type}

/-- The answer to the first envelope of a list that is answered, and the envelopes after that one. -/
def firstMatch? (f : σ → Envelope → Option ρ × σ) : σ → List Envelope → Option (ρ × List Envelope)
  | _, [] => none
  | m, e :: es =>
    match f m e with
    | (some r, _) => some (r, es)
    | (none, m) => firstMatch? f m es

section FirstMatch

variable {f : σ → Envelope → Option ρ × σ} {m : σ} {xs ys : List Envelope}

lemma firstMatch?_append_of_none (h : firstMatch? f m xs = none) :
    firstMatch? f m (xs ++ ys) = firstMatch? f (memoryAfter f m xs) ys := by
  induction xs generalizing m with
  | nil => rfl
  | cons e xs ih =>
    rw [List.cons_append, memoryAfter_cons]
    rw [firstMatch?] at h ⊢
    rcases hf : f m e with ⟨_ | r, m'⟩ <;> rw [hf] at h
    · exact ih h
    · cases h

lemma firstMatch?_append_of_some {r : ρ} {rest : List Envelope}
    (h : firstMatch? f m xs = some (r, rest)) :
    firstMatch? f m (xs ++ ys) = some (r, rest ++ ys) := by
  induction xs generalizing m with
  | nil => cases h
  | cons e xs ih =>
    rw [List.cons_append]
    rw [firstMatch?] at h ⊢
    rcases hf : f m e with ⟨_ | r', m'⟩ <;> rw [hf] at h
    · exact ih h
    · cases h
      rfl

/-- The first envelope that is answered comes after some that are not. -/
theorem exists_of_firstMatch? {r : ρ} {rest : List Envelope} (h : firstMatch? f m xs = some (r, rest)) :
    ∃ before e, xs = before ++ e :: rest ∧ firstMatch? f m before = none ∧
      (f (memoryAfter f m before) e).1 = some r := by
  induction xs generalizing m with
  | nil => cases h
  | cons e xs ih =>
    rw [firstMatch?] at h
    rcases hf : f m e with ⟨_ | r', m'⟩ <;> rw [hf] at h
    · obtain ⟨before, x, hx, hp, ha⟩ := ih h
      refine ⟨e :: before, x, by rw [hx, List.cons_append], ?_, ?_⟩
      · rw [firstMatch?, hf]
        exact hp
      · rw [memoryAfter_cons, hf]
        exact ha
    · cases h
      exact ⟨[], e, rfl, rfl, congrArg Prod.fst hf⟩

end FirstMatch

/-- The matcher of a function that finds something in an envelope and may remember. -/
def Seeker.finding (g : σ → Envelope → Option β × σ) : Seeker σ β :=
  fun m e => ((g m e).1.map .ok, (g m e).2)

lemma Seeker.firstMatch?_finding (g : σ → Envelope → Option β × σ) (m : σ) (es : List Envelope) :
    firstMatch? (finding g) m es = (firstMatch? g m es).map fun (b, rest) => (.ok b, rest) := by
  induction es generalizing m with
  | nil => rfl
  | cons e es ih =>
    rw [firstMatch?, firstMatch?, finding]
    rcases g m e with ⟨_ | b, m'⟩
    · exact ih m'
    · rfl

lemma isDue_add {deadline : Option Instant} {now : Instant} (h : isDue deadline now = true) (n : Nat) :
    isDue deadline (now + n) = true := by
  cases deadline with
  | none => cases h
  | some d => exact decide_eq_true (Nat.le_trans (of_decide_eq_true h) (Nat.le_add_right now n))

lemma exists_of_isDue {deadline : Option Instant} {now : Instant} (h : isDue deadline now = true) :
    ∃ d, deadline = some d ∧ d ≤ now := by
  cases deadline with
  | none => cases h
  | some d => exact ⟨d, rfl, of_decide_eq_true h⟩

/-- What may happen while a search is under way. -/
inductive Happening where
  | arrive (e : Envelope)
  | finish
  | pass (nanos : Nat)
  /-- The search looks; it may be cut short after so many envelopes. -/
  | look (turns : Nat)

/-- The envelopes that arrive at a stream. None do once it has ended. -/
def arrived : (finished : Bool) → List Happening → List Envelope
  | true, _ | false, [] | false, .finish :: _ => []
  | false, .arrive e :: hs => e :: arrived false hs
  | false, .pass _ :: hs | false, .look _ :: hs => arrived false hs

@[simp] lemma arrived_finished (hs : List Happening) : arrived true hs = [] := by
  rw [arrived]

@[simp] theorem arrived_nil (finished : Bool) : arrived finished [] = [] := by
  cases finished <;> rfl

/-- A call that waits: its matcher, what that remembers at first, and until when it waits. -/
structure Call (σ β : Type) where
  seeker : Seeker σ β
  memory : σ
  deadline : Option Instant

/-- A search that is under way or has its outcome. -/
structure Search (σ β : Type) where
  stream : Lane Envelope
  now : Instant
  memory : σ
  outcome : Option (Except ClientFault β)

namespace Call

variable (c : Call σ β)

def start (l : Lane Envelope) (now : Instant) : Search σ β := ⟨l, now, c.memory, none⟩

/-- One look, unless there is an outcome already. -/
def look (s : Search σ β) (turns : Nat) : Search σ β :=
  match s.outcome with
  | some _ => s
  | none =>
    let (outcome, memory, stream) := s.stream.seek c.seeker c.deadline s.now turns s.memory
    { s with stream, memory, outcome }

def step (s : Search σ β) : Happening → Search σ β
  | .arrive e => { s with stream := if s.stream.finished then s.stream else s.stream.push e }
  | .finish => { s with stream := s.stream.finish }
  | .pass n => { s with now := s.now + n }
  | .look turns => c.look s turns

def run (s : Search σ β) (hs : List Happening) : Search σ β := hs.foldl c.step s

/-- How a search stands when `whole` is all that was there for it. -/
inductive Stands (whole : List Envelope) (s : Search σ β) : Prop where
  | searching (taken : List Envelope) (unanswered : s.outcome = none)
      (whole_eq : whole = taken ++ s.stream.backlog) (passed : firstMatch? c.seeker c.memory taken = none)
      (memory : s.memory = memoryAfter c.seeker c.memory taken)
  | found (r : Except ClientFault β) (answer : s.outcome = some r)
      (first : firstMatch? c.seeker c.memory whole = some (r, s.stream.backlog))
  | ended (answer : s.outcome = some (.error .streamEnded)) (finished : s.stream.finished = true)
      (drained : s.stream.backlog = []) (passed : firstMatch? c.seeker c.memory whole = none)
  | late (taken : List Envelope) (answer : s.outcome = some (.error .timeout))
      (due : isDue c.deadline s.now = true) (whole_eq : whole = taken ++ s.stream.backlog)
      (passed : firstMatch? c.seeker c.memory taken = none)


variable {c : Call σ β} {s : Search σ β} {whole taken : List Envelope}

lemma look_of_outcome {r : Except ClientFault β} (h : s.outcome = some r) (turns : Nat) :
    c.look s turns = s := by
  rw [look, h]

lemma look_zero (h : s.outcome = none) :
    c.look s 0 = { s with outcome := expiry c.deadline s.now } := by
  rw [look, h, Lane.seek]

lemma look_empty (h : s.outcome = none) (hs : s.stream.backlog = []) (turns : Nat) :
    c.look s (turns + 1) = { s with
      outcome := if s.stream.finished then some (.error .streamEnded) else expiry c.deadline s.now } := by
  rw [look, h, Lane.seek, Lane.poll, hs]
  cases s.stream.finished <;> rfl

lemma look_match {e : Envelope} {es : List Envelope} {r : Except ClientFault β} {m : σ}
    (h : s.outcome = none) (hs : s.stream.backlog = e :: es) (hf : c.seeker s.memory e = (some r, m))
    (turns : Nat) : c.look s (turns + 1) =
      { s with stream := { s.stream with backlog := es }, memory := m, outcome := some r } := by
  rw [look, h, Lane.seek, Lane.poll, hs]
  simp only [hf]

lemma look_pass {e : Envelope} {es : List Envelope} {m : σ} (h : s.outcome = none)
    (hs : s.stream.backlog = e :: es) (hf : c.seeker s.memory e = (none, m)) (turns : Nat) :
    c.look s (turns + 1) =
      c.look { s with stream := { s.stream with backlog := es }, memory := m } turns := by
  rw [look, h, Lane.seek, Lane.poll, hs]
  simp only [hf, look]

/-- A look changes nothing of a stream but what is left to read. -/
theorem look_stream (s : Search σ β) (turns : Nat) :
    (c.look s turns).stream = { s.stream with backlog := (c.look s turns).stream.backlog } := by
  induction turns generalizing s with
  | zero =>
    cases h : s.outcome with
    | some r => rw [look_of_outcome h]
    | none => rw [look_zero h]
  | succ turns ih =>
    cases h : s.outcome with
    | some r => rw [look_of_outcome h]
    | none =>
      cases hs : s.stream.backlog with
      | nil => rw [look_empty h hs]
      | cons e es =>
        rcases hf : c.seeker s.memory e with ⟨_ | r, m⟩
        · rw [look_pass h hs hf]
          exact ih _
        · rw [look_match h hs hf]

/-- Without an envelope that answers a search goes on, unless its deadline has come. -/
theorem Stands.expire (hw : whole = taken ++ s.stream.backlog)
    (hp : firstMatch? c.seeker c.memory taken = none)
    (hm : s.memory = memoryAfter c.seeker c.memory taken) :
    c.Stands whole { s with outcome := expiry c.deadline s.now } := by
  cases hd : isDue c.deadline s.now with
  | true => exact .late taken (by simp [expiry, hd]) hd hw hp
  | false => exact .searching taken (by simp [expiry, hd]) hw hp hm

/-- The loop of a look: each envelope that does not answer joins the ones that were taken. -/
theorem Stands.look_searching (turns : Nat) (h : s.outcome = none) (hw : whole = taken ++ s.stream.backlog)
    (hp : firstMatch? c.seeker c.memory taken = none)
    (hm : s.memory = memoryAfter c.seeker c.memory taken) :
    c.Stands whole (c.look s turns) := by
  induction turns generalizing s taken with
  | zero =>
    rw [look_zero h]
    exact .expire hw hp hm
  | succ turns ih =>
    cases hs : s.stream.backlog with
    | nil =>
      rw [look_empty h hs]
      cases hf : s.stream.finished with
      | true =>
        have hall : whole = taken := by rw [hw, hs, List.append_nil]
        exact .ended rfl hf hs (hall ▸ hp)
      | false => exact .expire hw hp hm
    | cons e es =>
      rw [hs] at hw
      rcases hf : c.seeker s.memory e with ⟨_ | r, m⟩
      · have hone : firstMatch? c.seeker (memoryAfter c.seeker c.memory taken) [e] = none := by
          rw [firstMatch?, ← hm, hf]
          rfl
        have hmore : memoryAfter c.seeker (memoryAfter c.seeker c.memory taken) [e] = m := by
          rw [memoryAfter_cons, ← hm, hf]
          rfl
        rw [look_pass h hs hf]
        refine @ih _ (taken ++ [e]) h ?_ ?_ ?_
        · rw [hw, List.append_assoc, List.singleton_append]
        · rw [firstMatch?_append_of_none hp, hone]
        · rw [memoryAfter_append, hmore]
      · rw [look_match h hs hf]
        refine .found r rfl ?_
        rw [hw, firstMatch?_append_of_none hp, firstMatch?, ← hm, hf]

theorem Stands.look (h : c.Stands whole s) (turns : Nat) : c.Stands whole (c.look s turns) := by
  cases h with
  | searching taken unanswered whole_eq passed memory =>
    exact .look_searching turns unanswered whole_eq passed memory
  | found r answer first =>
    rw [look_of_outcome answer]
    exact .found r answer first
  | ended answer finished drained passed =>
    rw [look_of_outcome answer]
    exact .ended answer finished drained passed
  | late taken answer due whole_eq passed =>
    rw [look_of_outcome answer]
    exact .late taken answer due whole_eq passed

theorem Stands.arrive (h : c.Stands whole s) (hf : s.stream.finished = false)
    (ha : s.stream.abandoned = false) (e : Envelope) :
    c.Stands (whole ++ [e]) { s with stream := s.stream.push e } := by
  have hb := s.stream.push_backlog ha e
  cases h with
  | searching taken unanswered whole_eq passed memory =>
    refine .searching taken unanswered ?_ passed memory
    rw [whole_eq, hb, List.append_assoc]
  | found r answer first =>
    refine .found r answer ?_
    rw [hb, firstMatch?_append_of_some first]
  | ended answer finished drained passed =>
    rw [hf] at finished
    cases finished
  | late taken answer due whole_eq passed =>
    refine .late taken answer due ?_ passed
    rw [whole_eq, hb, List.append_assoc]

theorem Stands.finish (h : c.Stands whole s) :
    c.Stands whole { s with stream := s.stream.finish } := by
  cases h with
  | searching taken unanswered whole_eq passed memory =>
    exact .searching taken unanswered whole_eq passed memory
  | found r answer first => exact .found r answer first
  | ended answer finished drained passed => exact .ended answer rfl drained passed
  | late taken answer due whole_eq passed => exact .late taken answer due whole_eq passed

theorem Stands.pass (h : c.Stands whole s) (n : Nat) : c.Stands whole { s with now := s.now + n } := by
  cases h with
  | searching taken unanswered whole_eq passed memory =>
    exact .searching taken unanswered whole_eq passed memory
  | found r answer first => exact .found r answer first
  | ended answer finished drained passed => exact .ended answer finished drained passed
  | late taken answer due whole_eq passed => exact .late taken answer (isDue_add due n) whole_eq passed

/-- What happens leaves the reader at its end of the stream. -/
theorem step_abandoned (s : Search σ β) (x : Happening) :
    (c.step s x).stream.abandoned = s.stream.abandoned := by
  cases x with
  | arrive e =>
    rw [step]
    split
    · rfl
    · unfold Lane.push
      split <;> rfl
  | finish | pass => rfl
  | look turns =>
    rw [step, look_stream]

/-- Whether the stream has ended after something happened. -/
theorem arrived_cons (s : Search σ β) (x : Happening) (hs : List Happening) :
    arrived s.stream.finished (x :: hs) =
      arrived s.stream.finished [x] ++ arrived (c.step s x).stream.finished hs := by
  cases hf : s.stream.finished with
  | true =>
    have hx : (c.step s x).stream.finished = true := by
      cases x with
      | arrive e => rw [step, if_pos hf, hf]
      | finish => rfl
      | pass => exact hf
      | look turns => rw [step, look_stream, hf]
    simp [hx]
  | false =>
    cases x with
    | arrive e => simp [step, arrived, hf]
    | finish => simp [step, arrived, Lane.finish]
    | pass => simp [step, arrived, hf]
    | look turns => rw [step, look_stream, hf]; simp [arrived]

theorem Stands.step (h : c.Stands whole s) (ha : s.stream.abandoned = false) (x : Happening) :
    c.Stands (whole ++ arrived s.stream.finished [x]) (c.step s x) := by
  cases hf : s.stream.finished with
  | true =>
    rw [arrived_finished, List.append_nil]
    cases x with
    | arrive e =>
      rw [Call.step, if_pos hf]
      exact h
    | finish => exact h.finish
    | pass n => exact h.pass n
    | look turns => exact h.look turns
  | false =>
    cases x with
    | arrive e =>
      rw [Call.step, if_neg (by simp [hf])]
      exact h.arrive hf ha e
    | finish => simpa [arrived, Call.step] using h.finish
    | pass n => simpa [arrived, Call.step] using h.pass n
    | look turns => simpa [arrived, Call.step] using h.look turns

theorem Stands.run (h : c.Stands whole s) (ha : s.stream.abandoned = false) (hs : List Happening) :
    c.Stands (whole ++ arrived s.stream.finished hs) (c.run s hs) := by
  induction hs generalizing s whole with
  | nil => simpa [Call.run] using h
  | cons x hs ih =>
    rw [arrived_cons (c := c), ← List.append_assoc]
    exact ih (h.step ha x) ((step_abandoned s x).trans ha)

theorem stands_start (c : Call σ β) (l : Lane Envelope) (now : Instant) :
    c.Stands l.backlog (c.start l now) :=
  .searching [] rfl rfl rfl rfl

/-- What a look that is not cut short makes of what is there. -/
theorem look_complete {turns : Nat} (h : s.outcome = none) (ht : s.stream.backlog.length < turns) :
    (c.look s turns).outcome = match firstMatch? c.seeker s.memory s.stream.backlog with
      | some (r, _) => some r
      | none => if s.stream.finished then some (.error .streamEnded) else expiry c.deadline s.now := by
  induction turns generalizing s with
  | zero => cases ht
  | succ turns ih =>
    cases hs : s.stream.backlog with
    | nil => rw [look_empty h hs, firstMatch?]
    | cons e es =>
      rw [firstMatch?]
      rcases hf : c.seeker s.memory e with ⟨_ | r, m⟩
      · rw [look_pass h hs hf]
        rw [hs] at ht
        exact ih h (Nat.lt_of_succ_lt_succ ht)
      · rw [look_match h hs hf]

/-- So it decides the search by what is there for it in all. -/
theorem Stands.look_complete {turns : Nat} (hw : c.Stands whole s) (h : s.outcome = none)
    (ht : s.stream.backlog.length < turns) :
    (c.look s turns).outcome = match firstMatch? c.seeker c.memory whole with
      | some (r, _) => some r
      | none => if s.stream.finished then some (.error .streamEnded) else expiry c.deadline s.now := by
  cases hw with
  | searching taken unanswered whole_eq passed memory =>
    rw [Call.look_complete h ht, whole_eq, firstMatch?_append_of_none passed, memory]
  | found r answer | ended answer | late _ answer =>
    rw [h] at answer
    cases answer

theorem run_abandoned (s : Search σ β) (hs : List Happening) :
    (c.run s hs).stream.abandoned = s.stream.abandoned := by
  induction hs generalizing s with
  | nil => rfl
  | cons x hs ih => exact (ih _).trans (step_abandoned s x)

/-- The stream ends by what happens, whoever waits. -/
theorem arrived_append (s : Search σ β) (hs rest : List Happening) :
    arrived s.stream.finished (hs ++ rest) =
      arrived s.stream.finished hs ++ arrived (c.run s hs).stream.finished rest := by
  induction hs generalizing s with
  | nil => simp [Call.run]
  | cons x hs ih =>
    rw [List.cons_append, arrived_cons (c := c) s x, arrived_cons (c := c) s x hs, ih, List.append_assoc]
    rfl

end Call

/-- A search of the model is one look that is not cut short. -/
theorem Lane.search_eq (l : Lane Envelope) (matcher : Matcher β) (deadline : Option Instant)
    (now : Instant) :
    let c : Call Unit β := ⟨matcher.seeker, (), deadline⟩
    let s := c.look (c.start l now) (l.backlog.length + 1)
    l.search matcher deadline now = (s.outcome, s.stream) :=
  rfl

/-- A wait for the first envelope in which a function finds something, and what happens meanwhile. It may
be given up without an outcome. -/
structure Wait : Type 1 where
  {σ β : Type}
  finds : σ → Envelope → Option β × σ
  memory : σ
  deadline : Option Instant
  happenings : List Happening

/-- A wait in its turn: the stream as it finds it, and when. -/
structure Stretch extends Wait where
  stream : Lane Envelope
  since : Instant

namespace Stretch

variable (t : Stretch)

def call : Call t.σ t.β := ⟨.finding t.finds, t.memory, t.deadline⟩

def search : Search t.σ t.β := t.call.run (t.call.start t.stream t.since) t.happenings

/-- All envelopes that were there during the wait. -/
def whole : List Envelope := t.stream.backlog ++ arrived t.stream.finished t.happenings

/-- The envelopes that the wait left in the stream. -/
def left : List Envelope := t.search.stream.backlog

/-- The envelopes that the wait took from the stream. -/
def taken : List Envelope := t.whole.take (t.whole.length - t.left.length)

/-- What a wait may take and return. -/
structure StopsAtMatch : Prop where
  whole : t.whole = t.taken ++ t.left
  found : ∀ b, t.search.outcome = some (.ok b) → firstMatch? t.finds t.memory t.whole = some (b, t.left)
  waits : t.search.outcome = none → firstMatch? t.finds t.memory t.taken = none
  ended : t.search.outcome = some (.error .streamEnded) →
    t.search.stream.finished = true ∧ t.left = [] ∧ firstMatch? t.finds t.memory t.whole = none
  late : t.search.outcome = some (.error .timeout) →
    (∃ d, t.deadline = some d ∧ d ≤ t.search.now) ∧ firstMatch? t.finds t.memory t.taken = none
  fails : ∀ e, t.search.outcome = some (.error e) → e = .streamEnded ∨ e = .timeout
  /-- A further look that is not cut short finds a match if there is one, also when the stream has ended or
  the deadline has come. -/
  looks : t.search.outcome = none → ∀ turns, t.left.length < turns →
    (t.call.look t.search turns).outcome = match firstMatch? t.finds t.memory t.whole with
      | some (b, _) => some (.ok b)
      | none =>
        if t.search.stream.finished then some (.error .streamEnded)
        else expiry t.deadline t.search.now

variable {t}

theorem stands (h : t.stream.abandoned = false) : t.call.Stands t.whole t.search :=
  (t.call.stands_start t.stream t.since).run h t.happenings

theorem firstMatch?_of_call {es : List Envelope} (h : firstMatch? t.call.seeker t.call.memory es = none) :
    firstMatch? t.finds t.memory es = none := by
  rwa [call, Seeker.firstMatch?_finding, Option.map_eq_none_iff] at h

lemma exists_of_call {es rest : List Envelope} {r : Except ClientFault t.β}
    (h : firstMatch? t.call.seeker t.call.memory es = some (r, rest)) :
    ∃ b, r = .ok b ∧ firstMatch? t.finds t.memory es = some (b, rest) := by
  rw [call, Seeker.firstMatch?_finding] at h
  obtain ⟨⟨b, left⟩, hb, heq⟩ := Option.map_eq_some_iff.mp h
  cases heq
  exact ⟨b, rfl, hb⟩

/-- What arrives during a wait and after it. -/
theorem whole_append (t : Stretch) (rest : List Happening) :
    t.stream.backlog ++ arrived t.stream.finished (t.happenings ++ rest) =
      t.whole ++ arrived t.search.stream.finished rest := by
  have h : arrived t.stream.finished (t.happenings ++ rest) =
      arrived t.stream.finished t.happenings ++ arrived t.search.stream.finished rest :=
    Call.arrived_append (c := t.call) (t.call.start t.stream t.since) t.happenings rest
  rw [h, whole, List.append_assoc]

lemma taken_eq {taken : List Envelope} (h : t.whole = taken ++ t.left) : t.taken = taken := by
  rw [Stretch.taken, h, List.length_append, Nat.add_sub_cancel]
  exact List.take_left

lemma exists_taken (h : t.call.Stands t.whole t.search) : ∃ taken, t.whole = taken ++ t.left := by
  cases h with
  | searching taken unanswered whole_eq | late taken answer due whole_eq => exact ⟨taken, whole_eq⟩
  | found r answer first =>
    obtain ⟨before, e, hw, -⟩ := exists_of_firstMatch? first
    exact ⟨before ++ [e], by rw [List.append_assoc]; exact hw⟩
  | ended answer finished drained => exact ⟨t.whole, by rw [left, drained, List.append_nil]⟩

lemma looks_on (h : t.call.Stands t.whole t.search) (hn : t.search.outcome = none) (turns : Nat)
    (ht : t.left.length < turns) :
    (t.call.look t.search turns).outcome = match firstMatch? t.finds t.memory t.whole with
      | some (b, _) => some (.ok b)
      | none =>
        if t.search.stream.finished then some (.error .streamEnded)
        else expiry t.deadline t.search.now := by
  rw [h.look_complete hn ht, call, Seeker.firstMatch?_finding]
  cases firstMatch? t.finds t.memory t.whole <;> rfl

theorem stopsAtMatch (h : t.stream.abandoned = false) : t.StopsAtMatch := by
  have hs := stands h
  have looks := looks_on hs
  obtain ⟨taken, hcut⟩ := exists_taken hs
  have htaken : t.taken = taken := taken_eq hcut
  have whole : t.whole = t.taken ++ t.left := htaken ▸ hcut
  cases hs with
  | searching taken' unanswered whole_eq passed memory =>
    have hsame : taken' = t.taken := (taken_eq whole_eq).symm
    exact {
      whole, looks
      found := by simp [unanswered]
      waits := fun _ => hsame ▸ firstMatch?_of_call passed
      ended := by simp [unanswered]
      late := by simp [unanswered]
      fails := by simp [unanswered] }
  | found r answer first =>
    obtain ⟨b, rfl, hb⟩ := exists_of_call first
    exact {
      whole, looks
      found := by simpa [answer, Stretch.left] using hb
      waits := by simp [answer]
      ended := by simp [answer]
      late := by simp [answer]
      fails := by simp [answer] }
  | ended answer finished drained passed =>
    exact {
      whole, looks
      found := by simp [answer]
      waits := by simp [answer]
      ended := fun _ => ⟨finished, drained, firstMatch?_of_call passed⟩
      late := by simp [answer]
      fails := by simp [answer] }
  | late taken' answer due whole_eq passed =>
    have hsame : taken' = t.taken := (taken_eq whole_eq).symm
    exact {
      whole, looks
      found := by simp [answer]
      waits := by simp [answer]
      ended := by simp [answer]
      late := fun _ => ⟨exists_of_isDue due, hsame ▸ firstMatch?_of_call passed⟩
      fails := by simp [answer] }

end Stretch

/-- The stream and the time that waits leave which take their turns. -/
def leftBy : List Wait → Lane Envelope → Instant → Lane Envelope × Instant
  | [], l, now => (l, now)
  | w :: ws, l, now =>
    let s := Stretch.search ⟨w, l, now⟩
    leftBy ws s.stream s.now

/-- Waits on one stream, one after another. -/
def inTurn : List Wait → Lane Envelope → Instant → List Stretch
  | [], _, _ => []
  | w :: ws, l, now =>
    let t : Stretch := ⟨w, l, now⟩
    t :: inTurn ws t.search.stream t.search.now

/-- Every wait stops at its match, and the stretches that waits take one after another are, with what they
leave, the whole stream. -/
theorem waits_stop_at_match (waits : List Wait) (backlog : List Envelope) (finished : Bool)
    (now : Instant) :
    (∀ t ∈ inTurn waits ⟨backlog, finished, false⟩ now, t.StopsAtMatch) ∧
      backlog ++ arrived finished (waits.flatMap (·.happenings)) =
        (inTurn waits ⟨backlog, finished, false⟩ now).flatMap (·.taken) ++
          (leftBy waits ⟨backlog, finished, false⟩ now).1.backlog := by
  generalize hl : (⟨backlog, finished, false⟩ : Lane Envelope) = l
  have ha : l.abandoned = false := by rw [← hl]
  obtain ⟨rfl, rfl⟩ : l.backlog = backlog ∧ l.finished = finished := by rw [← hl]; exact ⟨rfl, rfl⟩
  clear hl
  induction waits generalizing l now with
  | nil => simp [inTurn, leftBy]
  | cons w ws ih =>
    let t : Stretch := ⟨w, l, now⟩
    have ht : t.StopsAtMatch := Stretch.stopsAtMatch ha
    have hopen : t.search.stream.abandoned = false := (Call.run_abandoned _ _).trans ha
    obtain ⟨hall, hrest⟩ := ih t.search.now t.search.stream hopen
    refine ⟨List.forall_mem_cons.mpr ⟨ht, hall⟩, ?_⟩
    calc l.backlog ++ arrived l.finished ((w :: ws).flatMap (·.happenings))
        = t.whole ++ arrived t.search.stream.finished (ws.flatMap (·.happenings)) :=
          t.whole_append _
      _ = t.taken ++ (t.left ++ arrived t.search.stream.finished (ws.flatMap (·.happenings))) := by
          rw [ht.whole, List.append_assoc]
      _ = t.taken ++ ((inTurn ws t.search.stream t.search.now).flatMap (·.taken) ++
            (leftBy ws t.search.stream t.search.now).1.backlog) := congrArg _ hrest
      _ = _ := (List.append_assoc ..).symm

end MarketFeed
