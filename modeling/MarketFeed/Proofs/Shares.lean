import MarketFeed.Envelope.Basic
import MarketFeed.Proofs.Schedules
import MarketFeed.Stream.Split
import Mathlib.Logic.Function.Basic

/-!
What the two lanes of a partition get. Values arrive at the source, the partition asks its predicate about
each and sends it to the lane of the answer, and readers look and go at any moment, also between the answer
and the sending. The predicate is asked once about each value, whoever reads, and a lane that keeps its
reader gets the values of its answer, once and in order.
-/

namespace MarketFeed.Partition

variable {σ α : Type}

/-! ### What a predicate with a memory says -/

section Answers

variable (choose : σ → α → Bool × σ)

/-- What the predicate says when it is asked about one value after another. -/
def answers : σ → List α → List (α × Bool)
  | _, [] => []
  | m, a :: rest => (a, (choose m a).1) :: answers (choose m a).2 rest

/-- The values of an answer. -/
def ofAnswer (answer : Bool) (judged : List (α × Bool)) : List α :=
  (judged.filter (·.2 == answer)).map Prod.fst

/-- The values that get an answer when the predicate is asked about one after another. -/
def share (m : σ) (answer : Bool) (values : List α) : List α := ofAnswer answer (answers choose m values)

lemma answers_append (m : σ) (xs ys : List α) :
    answers choose m (xs ++ ys) = answers choose m xs ++ answers choose (memoryAfter choose m xs) ys := by
  induction xs generalizing m with
  | nil => rfl
  | cons a xs ih =>
    rw [List.cons_append, answers, answers, ih]
    rfl

lemma ofAnswer_append (answer : Bool) (xs ys : List (α × Bool)) :
    ofAnswer answer (xs ++ ys) = ofAnswer answer xs ++ ofAnswer answer ys := by
  rw [ofAnswer, List.filter_append, List.map_append]
  rfl

lemma share_append (m : σ) (answer : Bool) (xs ys : List α) :
    share choose m answer (xs ++ ys) =
      share choose m answer xs ++ share choose (memoryAfter choose m xs) answer ys := by
  rw [share, answers_append, ofAnswer_append]
  rfl

variable {choose}

/-- A predicate whose answers do not depend on what it remembers parts the values as a filter does. -/
theorem share_eq_filter {p : α → Bool} (hp : ∀ m a, (choose m a).1 = p a) (m : σ) (answer : Bool)
    (values : List α) : share choose m answer values = values.filter (p · == answer) := by
  induction values generalizing m with
  | nil => rfl
  | cons a values ih =>
    have hrest := ih (choose m a).2
    rw [share, ofAnswer] at hrest
    rw [share, answers, ofAnswer, hp, List.filter_cons, List.filter_cons]
    split
    · rw [List.map_cons, hrest]
    · exact hrest

end Answers

/-! ### The steps of a partition -/

/-- Where a partition is: it waits for its source, or has an answer and not sent the value yet, or lets its
lanes go one after another, or it is gone. -/
inductive Phase (α : Type) where
  | waiting
  | sending (a : α) (answer : Bool)
  | parting
  | gone
deriving DecidableEq

/-- What was taken from the source and not sent yet to the lane of an answer. -/
def Phase.inHand (answer : Bool) : Phase α → List α
  | sending a b => if b = answer then [a] else []
  | _ => []

/-- A partition between any two of its steps, with all that its predicate was asked and said. -/
structure Work (σ α : Type) where
  source : Lane α
  readers : Bool → Reader α
  memory : σ
  phase : Phase α
  judged : List (α × Bool)

/-- What happens at the source, to the partition itself, and at its lanes. -/
inductive Step (α : Type) where
  | arrive (a : α)
  | finish
  | take
  | send
  | part (answer : Bool)
  | leave
  | read (answer : Bool)
  | drop (answer : Bool)
deriving DecidableEq

namespace Step

/-- Whether the partition itself takes the step. -/
def isOwn : Step α → Bool
  | take | send | part _ | leave => true
  | _ => false

def arrival? : Step α → Option α
  | arrive a => some a
  | _ => none

/-- The step, if it is not what the reader of the other lane does. -/
def besides (answer : Bool) : Step α → Option (Step α)
  | read b => if b = answer then some (read b) else none
  | drop b => if b = answer then some (drop b) else none
  | e => some e

end Step

namespace Work

def start (source : Lane α) (memory : σ) : Work σ α := ⟨source, fun _ => .fresh, memory, .waiting, []⟩

/-- Something happens at the lane of an answer. -/
def change (w : Work σ α) (answer : Bool) (f : Reader α → Reader α) : Work σ α :=
  { w with readers := Function.update w.readers answer (f (w.readers answer)) }

lemma change_same (w : Work σ α) (answer : Bool) (f : Reader α → Reader α) :
    (w.change answer f).readers answer = f (w.readers answer) :=
  Function.update_self ..

lemma change_other {a b : Bool} (h : a ≠ b) (w : Work σ α) (f : Reader α → Reader α) :
    (w.change b f).readers a = w.readers a :=
  Function.update_of_ne h ..

/-- The partition after a step, if that can be taken. -/
def step (choose : σ → α → Bool × σ) (w : Work σ α) : Step α → Option (Work σ α)
  | .arrive a => if w.source.finished then none else some { w with source := w.source.push a }
  | .finish => some { w with source := w.source.finish }
  | .take =>
    match w.phase, w.source.poll with
    | .waiting, (.item a, source) =>
      let (answer, memory) := choose w.memory a
      some { w with source, memory, phase := .sending a answer, judged := w.judged ++ [(a, answer)] }
    | .waiting, (.ended, _) => some { w with phase := .parting }
    | _, _ => none
  | .send =>
    match w.phase with
    | .sending a answer => some { w.change answer (.push a) with phase := .waiting }
    | _ => none
  | .part answer =>
    match w.phase with
    | .parting => if (w.readers answer).lane.finished then none else some (w.change answer .finish)
    | _ => none
  | .leave =>
    match w.phase with
    | .parting =>
      if (w.readers true).lane.finished ∧ (w.readers false).lane.finished then
        some { w with source := w.source.abandon, phase := .gone }
      else none
    | _ => none
  | .read answer => some (w.change answer .read)
  | .drop answer => some (w.change answer .drop)

def run (choose : σ → α → Bool × σ) (w : Work σ α) (steps : List (Step α)) : Option (Work σ α) :=
  Schedule.run (step choose) w steps

/-- The partition itself. -/
def split (w : Work σ α) : Partition σ α :=
  ⟨w.source, (w.readers true).lane, (w.readers false).lane, w.memory⟩

/-- The steps from one value to the next. -/
def round (w : Work σ α) : List (Step α) :=
  if w.source.backlog.isEmpty then [.take, .part true, .part false, .leave] else [.take, .send]

/-- What a step did, by the kinds of steps. -/
inductive Goes (choose : σ → α → Bool × σ) (w : Work σ α) : Step α → Work σ α → Prop where
  | arrive (a : α) (running : w.source.finished = false) :
    Goes choose w (.arrive a) { w with source := w.source.push a }
  | finish : Goes choose w .finish { w with source := w.source.finish }
  | take (a : α) (rest : List α) (waits : w.phase = .waiting) (backlog : w.source.backlog = a :: rest) :
    Goes choose w .take { w with
      source := { w.source with backlog := rest }, memory := (choose w.memory a).2,
      phase := .sending a (choose w.memory a).1, judged := w.judged ++ [(a, (choose w.memory a).1)] }
  | takeEnd (waits : w.phase = .waiting) (drained : w.source.backlog = [])
      (ended : w.source.finished = true) : Goes choose w .take { w with phase := .parting }
  | send (a : α) (answer : Bool) (sends : w.phase = .sending a answer) :
    Goes choose w .send { w.change answer (.push a) with phase := .waiting }
  | part (answer : Bool) (parts : w.phase = .parting) (untold : (w.readers answer).lane.finished = false) :
    Goes choose w (.part answer) (w.change answer .finish)
  | leave (parts : w.phase = .parting) (told : ∀ answer, (w.readers answer).lane.finished = true) :
    Goes choose w .leave { w with source := w.source.abandon, phase := .gone }
  | read (answer : Bool) : Goes choose w (.read answer) (w.change answer .read)
  | drop (answer : Bool) : Goes choose w (.drop answer) (w.change answer .drop)

variable {choose : σ → α → Bool × σ} {w v : Work σ α} {e : Step α}

theorem goes_of_step (h : w.step choose e = some v) : Goes choose w e v := by
  cases e with
  | arrive a =>
    rw [step] at h
    split at h
    · cases h
    · rename_i hf
      cases h
      exact .arrive a (Bool.eq_false_iff.mpr hf)
  | finish =>
    cases h
    exact .finish
  | take =>
    rw [step] at h
    cases hp : w.phase with
    | sending | parting | gone =>
      rw [hp] at h
      cases h
    | waiting =>
      rw [hp] at h
      cases hb : w.source.backlog with
      | nil =>
        rw [Lane.poll_of_nil hb] at h
        cases hf : w.source.finished <;> rw [hf] at h <;> cases h
        exact .takeEnd hp hb hf
      | cons a rest =>
        rw [Lane.poll_of_cons hb] at h
        cases h
        exact .take a rest hp hb
  | send =>
    rw [step] at h
    split at h
    · rename_i a answer hp
      cases h
      exact .send a answer hp
    · cases h
  | part answer =>
    rw [step] at h
    split at h
    · rename_i hp
      split at h
      · cases h
      · rename_i hf
        cases h
        exact .part answer hp (Bool.eq_false_iff.mpr hf)
    · cases h
  | leave =>
    rw [step] at h
    split at h
    · rename_i hp
      split at h
      · rename_i hall
        cases h
        exact .leave hp (Bool.forall_bool.mpr ⟨hall.2, hall.1⟩)
      · cases h
    · cases h
  | read answer =>
    cases h
    exact .read answer
  | drop answer =>
    cases h
    exact .drop answer

theorem Goes.step (h : Goes choose w e v) : w.step choose e = some v := by
  cases h with
  | arrive a running => simp [Work.step, running]
  | finish | read | drop => rfl
  | take a rest waits backlog => simp [Work.step, waits, Lane.poll_of_cons backlog]
  | takeEnd waits drained ended => simp [Work.step, waits, Lane.poll_of_nil drained, ended]
  | send a answer sends => simp [Work.step, sends]
  | part answer parts untold => simp [Work.step, parts, untold]
  | leave parts told => simp [Work.step, parts, told]

/-! ### The predicate and the source -/

/-- What the predicate was asked and said, where the values are that `whole` lists, and when the lanes are
let go. -/
structure Judges (choose : σ → α → Bool × σ) (memory : σ) (whole : List α) (w : Work σ α) : Prop where
  answered : w.judged = answers choose memory (w.judged.map Prod.fst)
  recalled : w.memory = memoryAfter choose memory (w.judged.map Prod.fst)
  reads : whole = w.judged.map Prod.fst ++ w.source.backlog
  stays : w.phase ≠ .gone → w.source.abandoned = false
  ending : w.phase = .parting ∨ w.phase = .gone → w.source.finished = true ∧ w.source.backlog = []
  told : ∀ answer, (w.readers answer).lane.finished = true → w.phase = .parting ∨ w.phase = .gone
  left : w.phase = .gone → ∀ answer, (w.readers answer).lane.finished = true

variable {memory : σ} {whole : List α}

lemma judges_start {source : Lane α} (h : source.abandoned = false) (memory : σ) :
    (start source memory).Judges choose memory source.backlog where
  answered := rfl
  recalled := rfl
  reads := rfl
  stays _ := h
  ending hp := by rcases hp with hp | hp <;> cases hp
  told _ hf := nomatch hf
  left hp := nomatch hp

/-- What a reader does ends no lane. -/
theorem Judges.change (h : w.Judges choose memory whole) {f : Reader α → Reader α}
    (hf : ∀ r : Reader α, (f r).lane.finished = r.lane.finished) (answer : Bool) :
    (w.change answer f).Judges choose memory whole := by
  have same (b : Bool) : ((w.change answer f).readers b).lane.finished = (w.readers b).lane.finished := by
    by_cases hb : b = answer
    · rw [hb, change_same, hf]
    · rw [change_other hb]
  refine ⟨h.answered, h.recalled, h.reads, h.stays, h.ending, fun b hb => ?_, fun hp b => ?_⟩
  · exact h.told b ((same b).symm.trans hb)
  · exact (same b).trans (h.left hp b)

theorem Goes.judges (h : Goes choose w e v) (hj : w.Judges choose memory whole) :
    v.Judges choose memory (whole ++ e.arrival?.toList) := by
  have still : whole ++ [] = whole := List.append_nil whole
  cases h with
  | arrive a running =>
    have hopen : ¬(w.phase = .parting ∨ w.phase = .gone) := fun hp => by simp [(hj.ending hp).1] at running
    have hstays := hj.stays fun hp => hopen (.inr hp)
    refine ⟨hj.answered, hj.recalled, ?_, fun _ => (w.source.push_abandoned a).trans hstays,
      fun hp => absurd hp hopen, hj.told, hj.left⟩
    change whole ++ [a] = _ ++ (w.source.push a).backlog
    rw [Lane.push_backlog hstays, hj.reads, List.append_assoc]
  | finish =>
    exact still.symm ▸ ⟨hj.answered, hj.recalled, hj.reads, hj.stays, fun hp => ⟨rfl, (hj.ending hp).2⟩,
      hj.told, hj.left⟩
  | take a rest waits backlog =>
    have hfst : (w.judged ++ [(a, (choose w.memory a).1)]).map Prod.fst = w.judged.map Prod.fst ++ [a] := by
      rw [List.map_append]
      rfl
    refine still.symm ▸ ⟨?_, ?_, ?_, fun _ => hj.stays (by simp [waits]), by simp,
      fun b hb => by simpa [waits] using hj.told b hb, by simp⟩
    · -- The memory is that of all the answers before, so this answer is the one that comes next.
      change w.judged ++ _ = answers choose memory (List.map Prod.fst (w.judged ++ _))
      rw [hfst, answers_append, ← hj.answered, ← hj.recalled]
      rfl
    · change _ = memoryAfter choose memory (List.map Prod.fst (w.judged ++ _))
      rw [hfst, memoryAfter_append, ← hj.recalled]
      rfl
    · change whole = List.map Prod.fst (w.judged ++ _) ++ rest
      rw [hfst, hj.reads, backlog, List.append_assoc, List.singleton_append]
  | takeEnd waits drained ended =>
    exact still.symm ▸ ⟨hj.answered, hj.recalled, hj.reads, fun _ => hj.stays (by simp [waits]),
      fun _ => ⟨ended, drained⟩, fun _ _ => .inl rfl, by simp⟩
  | send a answer sends =>
    have hc := hj.change (f := .push a) (fun r => r.lane.push_finished a) answer
    refine still.symm ▸ ⟨hc.answered, hc.recalled, hc.reads, fun _ => hj.stays (by simp [sends]),
      by simp, fun b hb => ?_, by simp⟩
    have hp := hc.told b hb
    rw [Work.change, sends] at hp
    rcases hp with hp | hp <;> cases hp
  | part answer parts untold =>
    exact still.symm ▸ ⟨hj.answered, hj.recalled, hj.reads, hj.stays, hj.ending, fun _ _ => .inl parts,
      fun hp => absurd (parts.symm.trans hp) (by simp)⟩
  | leave parts told =>
    exact still.symm ▸ ⟨hj.answered, hj.recalled, by rw [hj.reads, (hj.ending (.inl parts)).2]; rfl,
      fun hn => absurd rfl hn, fun _ => ⟨(hj.ending (.inl parts)).1, rfl⟩, fun _ _ => .inr rfl, fun _ => told⟩
  | read answer => exact still.symm ▸ hj.change (fun r => r.read_finished) answer
  | drop answer => exact still.symm ▸ hj.change (f := .drop) (fun _ => rfl) answer

theorem judges_run {steps : List (Step α)} (h : w.run choose steps = some v)
    (hj : w.Judges choose memory whole) : v.Judges choose memory (whole ++ steps.filterMap Step.arrival?) :=
  Schedule.run_gathers (fun hu hj => (goes_of_step hu).judges hj) h hj

/-! ### A lane with its reader -/

/-- The lane of an answer has its reader, and got the values of that answer. -/
structure Serves (answer : Bool) (w : Work σ α) : Prop where
  stays : (w.readers answer).lane.abandoned = false
  passed : ofAnswer answer w.judged = (w.readers answer).contents ++ w.phase.inHand answer

variable {answer : Bool}

theorem serves_start (source : Lane α) (memory : σ) (answer : Bool) : (start source memory).Serves answer :=
  ⟨rfl, rfl⟩

/-- What happens at the other lane changes nothing here. -/
theorem Serves.other {b : Bool} (hs : w.Serves answer) (hb : answer ≠ b) (f : Reader α → Reader α) :
    (w.change b f).Serves answer := by
  refine ⟨?_, ?_⟩
  · rw [change_other hb]
    exact hs.stays
  · rw [change_other hb]
    exact hs.passed

/-- What loses nothing from any lane changes nothing here. -/
theorem Serves.change (hs : w.Serves answer) {f : Reader α → Reader α} (b : Bool)
    (hc : ∀ r : Reader α, (f r).contents = r.contents)
    (ha : ∀ r : Reader α, (f r).lane.abandoned = r.lane.abandoned) : (w.change b f).Serves answer := by
  by_cases hb : answer = b
  · subst hb
    refine ⟨?_, ?_⟩
    · rw [change_same, ha]
      exact hs.stays
    · rw [change_same, hc]
      exact hs.passed
  · exact hs.other hb f

theorem Goes.serves (h : Goes choose w e v) (hs : w.Serves answer) (hd : e ≠ .drop answer) :
    v.Serves answer := by
  have hp := hs.passed
  cases h with
  | arrive | finish => exact ⟨hs.stays, hs.passed⟩
  | take a rest waits backlog =>
    refine ⟨hs.stays, ?_⟩
    rw [waits] at hp
    change ofAnswer answer (w.judged ++ _) = (w.readers answer).contents ++ _
    rw [ofAnswer_append, hp]
    simp [Phase.inHand, ofAnswer, List.filter_cons, apply_ite (List.map Prod.fst)]
  | takeEnd waits drained ended =>
    rw [waits] at hp
    exact ⟨hs.stays, hp⟩
  | send a b sends =>
    rw [sends] at hp
    by_cases hb : answer = b
    · subst hb
      refine ⟨?_, ?_⟩
      · change ((w.change answer (.push a)).readers answer).lane.abandoned = false
        rw [change_same]
        exact ((w.readers answer).lane.push_abandoned a).trans hs.stays
      · change ofAnswer answer w.judged = ((w.change answer (.push a)).readers answer).contents ++ []
        rw [change_same, hp, Reader.push, Reader.contents, Reader.contents, Lane.push_backlog hs.stays]
        simp [Phase.inHand]
    · have ho := hs.other hb (.push a)
      refine ⟨ho.stays, ho.passed.trans ?_⟩
      simp [Work.change, sends, Phase.inHand, Ne.symm hb]
  | part b parts untold => exact hs.change b (fun _ => rfl) fun _ => rfl
  | leave parts told =>
    rw [parts] at hp
    exact ⟨hs.stays, hp⟩
  | read b => exact hs.change b Reader.read_contents Reader.read_abandoned
  | drop b => exact hs.other (fun hb => hd (hb ▸ rfl)) .drop

theorem serves_run {steps : List (Step α)} (h : w.run choose steps = some v) (hs : w.Serves answer)
    (hd : .drop answer ∉ steps) : v.Serves answer :=
  Schedule.run_keeps (fun _ he hu hs => (goes_of_step hu).serves hs fun hn => hd (hn ▸ he)) h hs

/-! ### The other lane -/

/-- Nothing but what the reader of the other lane did is different. -/
structure Agrees (answer : Bool) (w u : Work σ α) : Prop where
  source : u.source = w.source
  memory : u.memory = w.memory
  phase : u.phase = w.phase
  judged : u.judged = w.judged
  reader : u.readers answer = w.readers answer
  finished : ∀ b, (u.readers b).lane.finished = (w.readers b).lane.finished

variable {u : Work σ α}

/-- The same happens at a lane on both sides. -/
theorem Agrees.change (h : w.Agrees answer u) (b : Bool) {f : Reader α → Reader α}
    (hf : ∀ r s : Reader α, r.lane.finished = s.lane.finished → (f r).lane.finished = (f s).lane.finished) :
    (w.change b f).Agrees answer (u.change b f) := by
  refine ⟨h.source, h.memory, h.phase, h.judged, ?_, fun c => ?_⟩
  · by_cases hb : answer = b
    · rw [hb, change_same, change_same, ← hb, h.reader]
    · rw [change_other hb, change_other hb, h.reader]
  · by_cases hc : c = b
    · rw [hc, change_same, change_same]
      exact hf _ _ (h.finished b)
    · rw [change_other hc, change_other hc]
      exact h.finished c

/-- Something happens at the other lane on one side only. -/
theorem Agrees.other {b : Bool} (h : w.Agrees answer u) (hb : answer ≠ b) {f : Reader α → Reader α}
    (hf : ∀ r : Reader α, (f r).lane.finished = r.lane.finished) : (w.change b f).Agrees answer u := by
  refine ⟨h.source, h.memory, h.phase, h.judged, ?_, fun c => ?_⟩
  · rw [change_other hb, h.reader]
  · by_cases hc : c = b
    · rw [hc, change_same, hf, h.finished]
    · rw [change_other hc, h.finished]

theorem Goes.agrees (h : Goes choose w e v) (ha : w.Agrees answer u) :
    ∃ x, (e.besides answer).elim (some u) (u.step choose) = some x ∧ v.Agrees answer x := by
  obtain ⟨source, readers, memory, phase, judged⟩ := u
  obtain ⟨hs, hm, hp, hj, hr, hf⟩ := id ha
  dsimp only at hs hm hp hj
  subst hs hm hp hj
  let u : Work σ α := { w with readers }
  have own {f : Step α} {x : Work σ α} (he : e.besides answer = some f) (hg : Goes choose u f x) :
      (e.besides answer).elim (some u) (u.step choose) = some x := by
    rw [he]
    exact hg.step
  cases h with
  | arrive a running => exact ⟨_, own rfl (.arrive a running), rfl, rfl, rfl, rfl, hr, hf⟩
  | finish => exact ⟨_, own rfl .finish, rfl, rfl, rfl, rfl, hr, hf⟩
  | take a rest waits backlog => exact ⟨_, own rfl (.take a rest waits backlog), rfl, rfl, rfl, rfl, hr, hf⟩
  | takeEnd waits drained ended =>
    exact ⟨_, own rfl (.takeEnd waits drained ended), rfl, rfl, rfl, rfl, hr, hf⟩
  | send a b sends =>
    have hc := ha.change b (f := .push a) fun r s hrs => by simpa [Reader.push] using hrs
    exact ⟨_, own rfl (.send a b sends), rfl, rfl, rfl, rfl, hc.reader, hc.finished⟩
  | part b parts untold =>
    exact ⟨_, own rfl (.part b parts ((hf b).trans untold)), ha.change b fun _ _ _ => rfl⟩
  | leave parts told =>
    exact ⟨_, own rfl (.leave parts fun b => (hf b).trans (told b)), rfl, rfl, rfl, rfl, hr, hf⟩
  | read b =>
    by_cases hb : b = answer
    · refine ⟨_, own (if_pos hb) (.read b), ha.change b fun r s hrs => ?_⟩
      rw [r.read_finished, s.read_finished, hrs]
    · refine ⟨u, ?_, ha.other (Ne.symm hb) Reader.read_finished⟩
      rw [Step.besides, if_neg hb]
      rfl
  | drop b =>
    by_cases hb : b = answer
    · exact ⟨_, own (if_pos hb) (.drop b), ha.change b fun _ _ hrs => hrs⟩
    · refine ⟨u, ?_, ha.other (Ne.symm hb) fun _ => rfl⟩
      rw [Step.besides, if_neg hb]
      rfl

/-- The reader of the other lane could as well have done nothing. -/
theorem run_besides {steps : List (Step α)} (h : w.run choose steps = some v) (answer : Bool) :
    ∃ x, w.run choose (steps.filterMap (Step.besides answer)) = some x ∧ v.Agrees answer x :=
  Schedule.run_mirrors (fun _ _ hu ha => (goes_of_step hu).agrees ha) h
    ⟨rfl, rfl, rfl, rfl, rfl, fun _ => rfl⟩

/-! ### How a partition goes on -/

/-- How many steps a partition can take before something arrives. -/
def toDo (w : Work σ α) : Nat :=
  -- After the last value, the end is taken, told to two lanes and left.
  let untold b := if (w.readers b).lane.finished then 0 else 1
  match w.phase with
  | .waiting => 2 * w.source.backlog.length + 4
  | .sending _ _ => 2 * w.source.backlog.length + 5
  | .parting => untold true + untold false + 1
  | .gone => 0

theorem Goes.toDo_lt (h : Goes choose w e v) (ho : e.isOwn = true) : v.toDo < w.toDo := by
  cases h with
  | arrive | finish | read | drop => cases ho
  | take a rest waits backlog =>
    simp only [toDo, waits, backlog, List.length_cons]
    omega
  | takeEnd waits drained ended =>
    simp only [toDo, waits]
    grind
  | send a answer sends =>
    simp only [toDo, sends, Work.change]
    omega
  | part answer parts untold =>
    cases answer <;> simp [toDo, parts, untold, Work.change, Reader.finish, Lane.finish]
  | leave parts told =>
    simp only [toDo, parts]
    omega

theorem length_le_toDo {more : List (Step α)} (ho : ∀ e ∈ more, e.isOwn = true)
    (h : w.run choose more = some v) : more.length ≤ w.toDo :=
  Schedule.length_le_of_run (fun e he hu => (goes_of_step hu).toDo_lt (ho e he)) h

/-- Nothing is left to do but to wait. -/
def IsSettled (choose : σ → α → Bool × σ) (w : Work σ α) : Prop :=
  ∀ e : Step α, e.isOwn = true → w.step choose e = none

/-- A partition with nothing to do has asked about everything, and its lanes have ended if the source has. -/
theorem Judges.of_settled (hj : w.Judges choose memory whole) (h : w.IsSettled choose) :
    w.judged.map Prod.fst = whole ∧ (∀ answer, w.phase.inHand answer = []) ∧
      ∀ answer, (w.readers answer).lane.finished = w.source.finished := by
  have never (e : Step α) (v : Work σ α) (ho : e.isOwn = true) : ¬ Goes choose w e v := fun hg =>
    nomatch (h e ho).symm.trans hg.step
  cases hp : w.phase with
  | sending a b => exact absurd (.send a b hp) (never .send _ rfl)
  | parting =>
    cases ht : (w.readers true).lane.finished with
    | false => exact absurd (.part true hp ht) (never (.part true) _ rfl)
    | true =>
      cases hf : (w.readers false).lane.finished with
      | false => exact absurd (.part false hp hf) (never (.part false) _ rfl)
      | true => exact absurd (.leave hp (Bool.forall_bool.mpr ⟨hf, ht⟩)) (never .leave _ rfl)
  | gone =>
    obtain ⟨hf, hb⟩ := hj.ending (.inr hp)
    refine ⟨by rw [hj.reads, hb, List.append_nil], fun _ => rfl, fun answer => ?_⟩
    rw [hj.left hp, hf]
  | waiting =>
    cases hb : w.source.backlog with
    | cons a rest => exact absurd (.take a rest hp hb) (never .take _ rfl)
    | nil =>
      refine ⟨by rw [hj.reads, hb, List.append_nil], fun _ => rfl, fun answer => ?_⟩
      have hsource : w.source.finished = false :=
        Bool.eq_false_iff.mpr fun hf => never .take _ rfl (.takeEnd hp hb hf)
      rw [hsource]
      refine Bool.eq_false_iff.mpr fun hf => ?_
      rcases hj.told answer hf with hn | hn <;> cases hp.symm.trans hn

/-! ### A round without interruption -/

/-- A whole round without anything in between is one turn of the partition. -/
theorem run_round (hj : w.Judges choose memory whole) (h : w.phase = .waiting) :
    (w.run choose w.round).map (fun v => (v.split, v.phase)) =
      match w.split.turn choose with
      | .resting => none
      | .working p => some (p, .waiting)
      | .over p => some (p, .gone) := by
  have untold (answer : Bool) : (w.readers answer).lane.finished = false :=
    Bool.eq_false_iff.mpr fun hf => by rcases hj.told answer hf with hn | hn <;> cases h.symm.trans hn
  cases hb : w.source.backlog with
  | nil =>
    have hround : w.round = [.take, .part true, .part false, .leave] := by simp [round, hb]
    cases hf : w.source.finished with
    | false =>
      have hs : w.step choose .take = none := by rw [step, h, Lane.poll_of_nil hb, hf]; rfl
      rw [hround, run, Schedule.run, hs, turn, split, Lane.poll_of_nil hb, hf]
      rfl
    | true =>
      rw [hround, run, Schedule.run, (Goes.takeEnd h hb hf).step, turn, split, Lane.poll_of_nil hb, hf]
      simp [Schedule.run, step, split, Work.change, untold, Reader.finish, Lane.finish]
  | cons a rest =>
    have hround : w.round = [.take, .send] := by simp [round, hb]
    rw [hround, run, Schedule.run, (Goes.take a rest h hb).step, Option.bind_some, Schedule.run,
      (Goes.send a _ rfl).step, turn, split, Lane.poll_of_cons hb]
    cases hc : (choose w.memory a).1 with
    | true => simp [Schedule.run, split, Work.change, hc, Reader.push]
    | false => simp [Schedule.run, split, Work.change, hc, Reader.push]

/-! ### The shares -/

variable {source : Lane α} {steps : List (Step α)}

/-- A lane of a partition with its reader has its share of what the source had, of which `whole` is all. -/
structure IsShare (choose : σ → α → Bool × σ) (source : Lane α) (memory : σ) (steps : List (Step α))
    (whole : List α) (w : Work σ α) (answer : Bool) : Prop where
  /-- Nothing is missing but what the partition has in hand and the share of what is left in the source. -/
  history : share choose memory answer whole = (w.readers answer).contents ++ w.phase.inHand answer ++
    share choose w.memory answer w.source.backlog
  ends : (w.readers answer).lane.poll.1 = .ended →
    w.source.finished = true ∧ (w.readers answer).got = share choose memory answer whole
  settled : w.IsSettled choose → (w.readers answer).contents = share choose memory answer whole ∧
    (w.readers answer).lane.finished = w.source.finished
  /-- The lane is what it would be if the reader of the other one had neither looked nor gone. -/
  alone : ∃ u, (start source memory).run choose (steps.filterMap (Step.besides answer)) = some u ∧
    w.Agrees answer u

/-- What a partition keeps to, whatever steps have led to it. -/
structure Splits (choose : σ → α → Bool × σ) (source : Lane α) (memory : σ) (steps : List (Step α))
    (w : Work σ α) : Prop where
  /-- The predicate was asked about what came from the source, about each value once and in order. -/
  asked : source.backlog ++ steps.filterMap Step.arrival? = w.judged.map Prod.fst ++ w.source.backlog
  answered : w.judged = answers choose memory (w.judged.map Prod.fst)
  recalled : w.memory = memoryAfter choose memory (w.judged.map Prod.fst)
  shares : ∀ answer, .drop answer ∉ steps →
    IsShare choose source memory steps (source.backlog ++ steps.filterMap Step.arrival?) w answer
  /-- A partition is gone only when it has asked about everything and the source has ended. -/
  stops : w.phase = .gone → w.source.finished = true ∧
    w.judged.map Prod.fst = source.backlog ++ steps.filterMap Step.arrival?
  /-- By its own steps a partition comes to a point where it has nothing to do. -/
  settles : ∃ bound, ∀ more v, (∀ e ∈ more, e.isOwn = true) → w.run choose more = some v →
    more.length ≤ bound
  /-- With nothing to do it has asked about everything. -/
  settled : w.IsSettled choose →
    w.judged.map Prod.fst = source.backlog ++ steps.filterMap Step.arrival?
  /-- A round in which nothing else happens is a turn. -/
  turn : w.phase = .waiting → (w.run choose w.round).map (fun v => (v.split, v.phase)) =
    match w.split.turn choose with
    | .resting => none
    | .working p => some (p, .waiting)
    | .over p => some (p, .gone)

/-- What was asked about and what is left are parted alike. -/
theorem Judges.share_eq (hj : w.Judges choose memory whole) (answer : Bool) :
    share choose memory answer whole =
      ofAnswer answer w.judged ++ share choose w.memory answer w.source.backlog := by
  rw [hj.reads, share_append, ← hj.recalled, share, ← hj.answered]

theorem isShare_of_run (hopen : source.abandoned = false)
    (h : (start source memory).run choose steps = some w) (hd : .drop answer ∉ steps) :
    IsShare choose source memory steps (source.backlog ++ steps.filterMap Step.arrival?) w answer := by
  have hj := judges_run h (judges_start hopen memory)
  have hs := serves_run h (serves_start source memory answer) hd
  have hall := hj.share_eq answer
  rw [hs.passed] at hall
  refine ⟨hall, fun he => ?_, fun hn => ?_, run_besides h answer⟩
  · obtain ⟨hfinished, hempty⟩ := Lane.of_poll_ended he
    have hp := hj.told answer hfinished
    obtain ⟨hsource, hdrained⟩ := hj.ending hp
    have hhand : w.phase.inHand answer = [] := by rcases hp with hp | hp <;> rw [hp] <;> rfl
    refine ⟨hsource, ?_⟩
    rw [hall, hhand, hdrained, Reader.contents, hempty]
    simp [share, answers, ofAnswer]
  · obtain ⟨hasked, hhand, hfinished⟩ := hj.of_settled hn
    refine ⟨?_, hfinished answer⟩
    rw [← hasked, share, ← hj.answered, hs.passed, hhand, List.append_nil]

theorem splits_of_run (hopen : source.abandoned = false)
    (h : (start source memory).run choose steps = some w) : Splits choose source memory steps w := by
  have hj := judges_run h (judges_start hopen memory)
  refine ⟨hj.reads, hj.answered, hj.recalled, fun answer hd => isShare_of_run hopen h hd, fun hp => ?_,
    ⟨w.toDo, fun _ _ ho hv => length_le_toDo ho hv⟩, fun hn => (hj.of_settled hn).1, run_round hj⟩
  obtain ⟨hfinished, hdrained⟩ := hj.ending (.inr hp)
  rw [hj.reads, hdrained, List.append_nil]
  exact ⟨hfinished, rfl⟩

end Work

/-! ### The caller's own topics -/

/-- How envelopes are parted that are about the caller's own topics. -/
structure PartsPrivate (choose : σ → Envelope → Bool × σ) (memory : σ) (whole : List Envelope) : Prop where
  first : share choose memory true whole = whole.filter Envelope.isPrivate
  second : share choose memory false whole = whole.filter (!·.isPrivate)
  /-- The first lane is for acks and publications on topics without a market. -/
  of_topic : ∀ e : Envelope, e.isPrivate = true ↔
    (∃ topic action success reason, e = .ack topic action success reason ∧ topic.market? = none) ∨
      ∃ topic payload, e = .publish topic payload ∧ topic.market? = none
  heartbeats : Envelope.heartbeat.isPrivate = false

lemma partsPrivate {choose : σ → Envelope → Bool × σ} (hp : ∀ m e, (choose m e).1 = e.isPrivate)
    (memory : σ) (whole : List Envelope) : PartsPrivate choose memory whole where
  first := by simp [share_eq_filter hp]
  second := by simp [share_eq_filter hp]
  of_topic e := by
    cases e with
    | heartbeat => simp [Envelope.isPrivate, Envelope.topic?]
    | ack topic => simp [Envelope.isPrivate, Envelope.topic?, Topic.isPrivate]
    | publish topic => simp [Envelope.isPrivate, Envelope.topic?, Topic.isPrivate]
  heartbeats := rfl

open Work in
/-- Whatever arrives, whoever reads and goes, and wherever in a round, a partition asks its predicate once
about every envelope and gives each lane that keeps its reader the envelopes of its answer. -/
theorem partition_splits {choose : σ → Envelope → Bool × σ} {memory : σ} {backlog : List Envelope}
    {finished : Bool} {steps : List (Step Envelope)} {w : Work σ Envelope}
    (h : (start ⟨backlog, finished, false⟩ memory).run choose steps = some w) :
    Splits choose ⟨backlog, finished, false⟩ memory steps w ∧
      ((∀ m e, (choose m e).1 = e.isPrivate) →
        PartsPrivate choose memory (backlog ++ steps.filterMap Step.arrival?)) :=
  ⟨splits_of_run rfl h, fun hp => partsPrivate hp ..⟩

/-- The second reader goes while the first envelope is in hand, and two envelopes are for a lane that
nobody reads. The predicate counts what it is asked. -/
def privateSteps : List (Step Envelope) :=
  [.arrive (.ack .balances .subscribe true none), .arrive .heartbeat, .take, .drop false, .send, .read true,
    .take, .send, .arrive (.ack (.orderBook ⟨"BTC/USDC"⟩) .subscribe true none),
    .arrive (.ack .myOrders .subscribe true none), .finish, .take, .send, .take, .send, .take, .part true,
    .read true, .part false, .leave]

theorem partition_splits_private : ∃ w : Work Nat Envelope,
    (Work.start ⟨[], false, false⟩ 0).run (fun n e => (e.isPrivate, n + 1)) privateSteps = some w ∧
    w.phase = .gone ∧ w.memory = 4 ∧
    (w.readers true).got = [.ack .balances .subscribe true none, .ack .myOrders .subscribe true none] ∧
    (w.readers true).lane.poll.1 = .ended ∧
    Work.Splits (fun n e => (e.isPrivate, n + 1)) ⟨[], false, false⟩ 0 privateSteps w ∧
    PartsPrivate (fun n e => (e.isPrivate, n + 1)) 0 (privateSteps.filterMap Step.arrival?) := by
  have hr : ((Work.start ⟨[], false, false⟩ 0).run (fun n e => (e.isPrivate, n + 1)) privateSteps).map
      (fun w => (w.phase, w.memory, (w.readers true).got, (w.readers true).lane.poll.1)) =
        some (.gone, 4, [.ack .balances .subscribe true none, .ack .myOrders .subscribe true none],
          .ended) := by
    decide
  obtain ⟨w, hw, hv⟩ := Option.map_eq_some_iff.mp hr
  simp only [Prod.mk.injEq] at hv
  obtain ⟨hphase, hmemory, hgot, hended⟩ := hv
  obtain ⟨hsplits, hprivate⟩ := partition_splits hw
  exact ⟨w, hw, hphase, hmemory, hgot, hended, hsplits, hprivate fun _ _ => rfl⟩

end MarketFeed.Partition
