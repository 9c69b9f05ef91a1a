import Mathlib.Tactic.Lemma
import MarketFeed.Stream.Lane

/-!
What happens around streams, one step at a time and in any order. A reader looks at its lane and goes when
it likes; what is true of it after any steps comes from what one step keeps. What is asked about one value
of a stream after another may remember what it was asked before.
-/

namespace MarketFeed

section Memory

variable {σ α β : Type} (ask : σ → α → β × σ)

/-- What is remembered when one value after another was asked about. -/
def memoryAfter (m : σ) (values : List α) : σ := values.foldl (fun m a => (ask m a).2) m

theorem memoryAfter_cons (m : σ) (a : α) (values : List α) :
    memoryAfter ask m (a :: values) = memoryAfter ask (ask m a).2 values := rfl

theorem memoryAfter_append (m : σ) (xs ys : List α) :
    memoryAfter ask m (xs ++ ys) = memoryAfter ask (memoryAfter ask m xs) ys :=
  List.foldl_append ..

end Memory

/-- A lane and what its reader got. -/
structure Reader (α : Type) where
  lane : Lane α
  got : List α
deriving DecidableEq

namespace Reader

variable {α : Type} {r : Reader α}

def fresh : Reader α := ⟨.empty, []⟩

/-- The reader looks. -/
def read (r : Reader α) : Reader α :=
  match r.lane.poll with
  | (.item a, lane) => ⟨lane, r.got ++ [a]⟩
  | (_, lane) => { r with lane }

/-- The reader goes. -/
def drop (r : Reader α) : Reader α := { r with lane := r.lane.abandon }

/-- A value is put into the lane. -/
def push (a : α) (r : Reader α) : Reader α := { r with lane := r.lane.push a }

/-- The writer of the lane goes. -/
def finish (r : Reader α) : Reader α := { r with lane := r.lane.finish }

/-- All that was put into the lane. -/
def contents (r : Reader α) : List α := r.got ++ r.lane.backlog

lemma read_of_cons {a : α} {rest : List α} (h : r.lane.backlog = a :: rest) :
    r.read = ⟨{ r.lane with backlog := rest }, r.got ++ [a]⟩ := by
  rw [read, Lane.poll_of_cons h]

lemma read_of_nil (h : r.lane.backlog = []) : r.read = r := by
  rw [read, Lane.poll_of_nil h]
  cases r.lane.finished <;> rfl

/-- A look loses nothing. -/
@[simp] theorem read_contents (r : Reader α) : r.read.contents = r.contents := by
  cases hb : r.lane.backlog with
  | nil => rw [read_of_nil hb]
  | cons a rest => rw [read_of_cons hb, contents, contents, hb, List.append_assoc, List.singleton_append]

@[simp] theorem read_finished (r : Reader α) : r.read.lane.finished = r.lane.finished := by
  cases hb : r.lane.backlog with
  | nil => rw [read_of_nil hb]
  | cons a rest => rw [read_of_cons hb]

@[simp] theorem read_abandoned (r : Reader α) : r.read.lane.abandoned = r.lane.abandoned := by
  cases hb : r.lane.backlog with
  | nil => rw [read_of_nil hb]
  | cons a rest => rw [read_of_cons hb]

end Reader

namespace Schedule

variable {σ τ ε δ α : Type} {step : σ → ε → Option σ} {s t : σ} {es : List ε}

/-- One step after another, as long as each can be taken. -/
def run (step : σ → ε → Option σ) : σ → List ε → Option σ
  | s, [] => some s
  | s, e :: es => (step s e).bind (run step · es)

theorem run_append (es fs : List ε) : run step s (es ++ fs) = (run step s es).bind (run step · fs) := by
  induction es generalizing s with
  | nil => rfl
  | cons e es ih =>
    rw [List.cons_append, run, run, Option.bind_assoc]
    exact congrArg _ (funext fun u => ih)

/-- What every step keeps, a run keeps. -/
theorem run_keeps {P : σ → Prop} (hstep : ∀ {s t : σ}, ∀ e ∈ es, step s e = some t → P s → P t)
    (h : run step s es = some t) (hs : P s) : P t := by
  induction es generalizing s with
  | nil =>
    cases h
    exact hs
  | cons e es ih =>
    obtain ⟨u, hu, ht⟩ := Option.bind_eq_some_iff.mp h
    exact ih (fun f hf => hstep f (List.mem_cons_of_mem e hf)) ht (hstep e List.mem_cons_self hu hs)

/-- What every step keeps of the list of all that arrived, a run keeps. -/
theorem run_gathers {P : List α → σ → Prop} {arrival? : ε → Option α} {whole : List α}
    (hstep : ∀ {whole : List α} {s t : σ} {e : ε}, step s e = some t → P whole s →
      P (whole ++ (arrival? e).toList) t)
    (h : run step s es = some t) (hs : P whole s) : P (whole ++ es.filterMap arrival?) t := by
  induction es generalizing s whole with
  | nil =>
    cases h
    rw [List.filterMap_nil, List.append_nil]
    exact hs
  | cons e es ih =>
    obtain ⟨u, hu, ht⟩ := Option.bind_eq_some_iff.mp h
    have hall := ih ht (hstep hu hs)
    rw [List.append_assoc] at hall
    cases he : arrival? e with
    | none =>
      rw [he] at hall
      rw [List.filterMap_cons_none he]
      exact hall
    | some a =>
      rw [he] at hall
      rw [List.filterMap_cons_some he]
      exact hall

/-- A run is followed elsewhere, where some of its steps have a counterpart and the others do not show. -/
theorem run_mirrors {step' : τ → δ → Option τ} {mirror : ε → Option δ} {R : σ → τ → Prop} {u : τ}
    (hstep : ∀ {s t : σ} {u : τ}, ∀ e ∈ es, step s e = some t → R s u →
      ∃ v, (mirror e).elim (some u) (step' u) = some v ∧ R t v)
    (h : run step s es = some t) (hs : R s u) :
    ∃ v, run step' u (es.filterMap mirror) = some v ∧ R t v := by
  induction es generalizing s u with
  | nil =>
    cases h
    exact ⟨u, rfl, hs⟩
  | cons e es ih =>
    obtain ⟨r, hr, ht⟩ := Option.bind_eq_some_iff.mp h
    obtain ⟨v, hv, hrv⟩ := hstep e List.mem_cons_self hr hs
    obtain ⟨x, hx, htx⟩ := ih (fun f hf => hstep f (List.mem_cons_of_mem e hf)) ht hrv
    refine ⟨x, ?_, htx⟩
    cases he : mirror e with
    | none =>
      rw [he] at hv
      cases hv
      rw [List.filterMap_cons_none he]
      exact hx
    | some f =>
      rw [he] at hv
      rw [List.filterMap_cons_some he, run]
      exact Option.bind_eq_some_iff.mpr ⟨v, hv, hx⟩

/-- There are no more steps than something is lowered that each of them lowers. -/
theorem length_le_of_run {left : σ → Nat}
    (hstep : ∀ {s t : σ}, ∀ e ∈ es, step s e = some t → left t < left s) (h : run step s es = some t) :
    es.length ≤ left s := by
  induction es generalizing s with
  | nil => exact Nat.zero_le _
  | cons e es ih =>
    obtain ⟨u, hu, ht⟩ := Option.bind_eq_some_iff.mp h
    have hrest := ih (fun f hf => hstep f (List.mem_cons_of_mem e hf)) ht
    exact Nat.lt_of_le_of_lt hrest (hstep e List.mem_cons_self hu)

end Schedule

end MarketFeed
