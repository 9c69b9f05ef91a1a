/-!
Streams: what is written at one end is read at the other, once and in order. Writing never waits. The
reader learns that the writer has finished only after reading all that was written; what is written
after the reader has gone is lost.
-/

namespace MarketFeed

/-- What one look at a stream gives. -/
inductive Poll (α : Type) where
  | item (value : α)
  | pending
  | ended
deriving DecidableEq, Repr

/-- A stream: what is written and not read yet, and which of the two ends are gone. -/
structure Lane (α : Type) where
  backlog : List α
  finished : Bool
  abandoned : Bool
deriving DecidableEq, Repr

namespace Lane

variable {α : Type}

def empty : Lane α := ⟨[], false, false⟩

instance : Inhabited (Lane α) := ⟨empty⟩

def push (l : Lane α) (a : α) : Lane α :=
  if l.abandoned then l else { l with backlog := l.backlog ++ [a] }

/-- The writer goes. -/
def finish (l : Lane α) : Lane α := { l with finished := true }

/-- The reader goes, and with it what was not read. -/
def abandon (l : Lane α) : Lane α := { l with backlog := [], abandoned := true }

/-- One look: the next value, if there is one. -/
def poll (l : Lane α) : Poll α × Lane α :=
  match l.backlog with
  | a :: rest => (.item a, { l with backlog := rest })
  | [] => (if l.finished then .ended else .pending, l)

def drain (l : Lane α) : List α × Lane α := (l.backlog, { l with backlog := [] })

@[simp] theorem push_finished (l : Lane α) (a : α) : (l.push a).finished = l.finished := by
  unfold push; split <;> rfl

theorem push_backlog {l : Lane α} (h : l.abandoned = false) (a : α) :
    (l.push a).backlog = l.backlog ++ [a] := by
  simp [push, h]

@[simp] theorem push_abandoned (l : Lane α) (a : α) : (l.push a).abandoned = l.abandoned := by
  unfold push; split <;> rfl

theorem poll_of_cons {l : Lane α} {a : α} {rest : List α} (h : l.backlog = a :: rest) :
    l.poll = (.item a, { l with backlog := rest }) := by
  rw [poll, h]

theorem poll_of_nil {l : Lane α} (h : l.backlog = []) :
    l.poll = (if l.finished then .ended else .pending, l) := by
  rw [poll, h]

/-- A stream ends when the writer has gone and everything was read. -/
theorem of_poll_ended {l : Lane α} (h : l.poll.1 = .ended) : l.finished = true ∧ l.backlog = [] := by
  cases hb : l.backlog with
  | cons a rest =>
    rw [poll_of_cons hb] at h
    cases h
  | nil =>
    rw [poll_of_nil hb] at h
    cases hf : l.finished with
    | true => exact ⟨rfl, rfl⟩
    | false =>
      rw [hf] at h
      cases h

end Lane

end MarketFeed
