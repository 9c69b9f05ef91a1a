import MarketFeed.Envelope.Basic
import MarketFeed.Proofs.Schedules
import MarketFeed.Stream.Split

/-!
What the lanes of a fan-out get. Values arrive at the source, the fan-out takes them and hands each to one
lane after another, and readers look and go at any moment, also while a value goes round. A lane is the same
as if it were the only one. So a lane that keeps its reader gets all that the source had, once and in order,
and ends after it.
-/

namespace MarketFeed.FanOut

variable {α : Type}

/-! ### The steps of a fan-out -/

/-- A lane of a fan-out with its reader, and whether it is attached. -/
structure Outlet (α : Type) extends Reader α where
  attached : Bool
deriving DecidableEq

namespace Outlet

def fresh : Outlet α := ⟨.fresh, true⟩

/-- Hands a value to the lane, or the end of the source. -/
def hand : Option α → Outlet α → Outlet α
  | some a, o => { o with lane := feed a o.lane o.attached, attached := keeps o.lane o.attached }
  | none, o => { o with lane := conclude o.lane o.attached }

def read (o : Outlet α) : Outlet α := { o with toReader := o.toReader.read }

def drop (o : Outlet α) : Outlet α := { o with toReader := o.toReader.drop }

end Outlet

/-- Where a fan-out is: it waits for its source, or hands a value to its lanes one after another, or the
end of the source, or it is gone. -/
inductive Phase (α : Type) where
  | waiting
  | passing (what : Option α) (next : Nat)
  | gone
deriving DecidableEq

/-- A fan-out between any two of its steps, with all that it took from its source. -/
structure Work (α : Type) where
  source : Lane α
  outlets : List (Outlet α)
  phase : Phase α
  drawn : List α
deriving DecidableEq

/-- What happens at the source, to the fan-out itself, and at its lanes. -/
inductive Step (α : Type) where
  | arrive (a : α)
  | finish
  | take
  | serve (lane : Nat)
  | settle
  | read (lane : Nat)
  | drop (lane : Nat)
deriving DecidableEq

namespace Step

/-- Whether the fan-out itself takes the step. -/
def isOwn : Step α → Bool
  | take | serve _ | settle => true
  | _ => false

def arrival? : Step α → Option α
  | arrive a => some a
  | _ => none

/-- The same step where a lane is the only one, if it is not about another lane. -/
def alone (i : Nat) : Step α → Option (Step α)
  | serve j => if j = i then some (serve 0) else none
  | read j => if j = i then some (read 0) else none
  | drop j => if j = i then some (drop 0) else none
  | e => some e

end Step

namespace Work

def start (source : Lane α) (lanes : Nat) : Work α := ⟨source, List.replicate lanes .fresh, .waiting, []⟩

/-- A round is over. If it was not the last one, the fan-out waits for the next value. -/
def settle (w : Work α) (what : Option α) : Work α :=
  if what.isSome ∧ w.outlets.any (·.attached) then { w with phase := .waiting }
  else { w with source := w.source.abandon, phase := .gone }

/-- The fan-out after a step, if that can be taken. -/
def step (w : Work α) : Step α → Option (Work α)
  | .arrive a => if w.source.finished then none else some { w with source := w.source.push a }
  | .finish => some { w with source := w.source.finish }
  | .take =>
    match w.phase, w.source.poll with
    | .waiting, (.item a, source) =>
      some { w with source, phase := .passing (some a) 0, drawn := w.drawn ++ [a] }
    | .waiting, (.ended, _) => some { w with phase := .passing none 0 }
    | _, _ => none
  | .serve i =>
    match w.phase with
    | .passing what next =>
      if i = next ∧ i < w.outlets.length then
        some { w with outlets := w.outlets.modify i (.hand what), phase := .passing what (i + 1) }
      else none
    | _ => none
  | .settle =>
    match w.phase with
    | .passing what next => if next = w.outlets.length then some (w.settle what) else none
    | _ => none
  | .read i => some { w with outlets := w.outlets.modify i .read }
  | .drop i => some { w with outlets := w.outlets.modify i .drop }

def run (w : Work α) (steps : List (Step α)) : Option (Work α) := Schedule.run step w steps

/-- The fan-out itself. -/
def fan (w : Work α) : FanOut α := ⟨w.source, w.outlets.map (·.lane), w.outlets.map (·.attached)⟩

/-- The steps from one value to the next. -/
def round (w : Work α) : List (Step α) := .take :: ((List.range w.outlets.length).map .serve ++ [.settle])

/-- What a step did, by the kinds of steps. -/
inductive Goes (w : Work α) : Step α → Work α → Prop where
  | arrive (a : α) (running : w.source.finished = false) :
    Goes w (.arrive a) { w with source := w.source.push a }
  | finish : Goes w .finish { w with source := w.source.finish }
  | take (a : α) (rest : List α) (waits : w.phase = .waiting) (backlog : w.source.backlog = a :: rest) :
    Goes w .take { w with
      source := { w.source with backlog := rest }, phase := .passing (some a) 0, drawn := w.drawn ++ [a] }
  | takeEnd (waits : w.phase = .waiting) (drained : w.source.backlog = [])
      (ended : w.source.finished = true) : Goes w .take { w with phase := .passing none 0 }
  | serve (what : Option α) (i : Nat) (passes : w.phase = .passing what i)
      (some_lane : i < w.outlets.length) :
    Goes w (.serve i) { w with
      outlets := w.outlets.modify i (.hand what), phase := .passing what (i + 1) }
  | settle (a : α) (passed : w.phase = .passing (some a) w.outlets.length)
      (attached : w.outlets.any (·.attached) = true) : Goes w .settle { w with phase := .waiting }
  | leave (what : Option α) (passed : w.phase = .passing what w.outlets.length)
      (last : ∀ a, what = some a → w.outlets.any (·.attached) = false) :
    Goes w .settle { w with source := w.source.abandon, phase := .gone }
  | read (i : Nat) : Goes w (.read i) { w with outlets := w.outlets.modify i .read }
  | drop (i : Nat) : Goes w (.drop i) { w with outlets := w.outlets.modify i .drop }

variable {w v : Work α} {e : Step α} {i : Nat}

theorem goes_of_step (h : w.step e = some v) : Goes w e v := by
  cases e with
  | arrive a =>
    rw [step] at h
    split at h
    · cases h
    · rename_i hf
      cases h
      exact .arrive a (Bool.eq_false_iff.mpr hf)
  | finish =>
    cases h
    exact .finish
  | take =>
    rw [step] at h
    cases hp : w.phase with
    | passing | gone =>
      rw [hp] at h
      cases h
    | waiting =>
      rw [hp] at h
      cases hb : w.source.backlog with
      | nil =>
        rw [Lane.poll_of_nil hb] at h
        cases hf : w.source.finished <;> rw [hf] at h <;> cases h
        exact .takeEnd hp hb hf
      | cons a rest =>
        rw [Lane.poll_of_cons hb] at h
        cases h
        exact .take a rest hp hb
  | serve i =>
    rw [step] at h
    split at h
    · rename_i what next hp
      split at h
      · rename_i hi
        cases h
        exact .serve what i (hi.1 ▸ hp) hi.2
      · cases h
    · cases h
  | settle =>
    rw [step] at h
    split at h
    · rename_i what next hp
      split at h
      · rename_i hn
        subst hn
        cases h
        rw [Work.settle]
        split
        · rename_i ha
          obtain ⟨a, rfl⟩ := Option.isSome_iff_exists.mp ha.1
          exact .settle a hp ha.2
        · rename_i ha
          refine .leave what hp ?_
          rintro a rfl
          exact Bool.eq_false_iff.mpr fun hn => ha ⟨rfl, hn⟩
      · cases h
    · cases h
  | read i =>
    cases h
    exact .read i
  | drop i =>
    cases h
    exact .drop i

theorem Goes.step (h : Goes w e v) : w.step e = some v := by
  cases h with
  | arrive a running => simp [Work.step, running]
  | finish | read | drop => rfl
  | take a rest waits backlog => simp [Work.step, waits, Lane.poll_of_cons backlog]
  | takeEnd waits drained ended => simp [Work.step, waits, Lane.poll_of_nil drained, ended]
  | serve what i passes some_lane => simp [Work.step, passes, some_lane]
  | settle a passed attached =>
    rw [Work.step, passed]
    simp only [if_true, Work.settle, attached, Option.isSome_some, and_self]
  | leave what passed last =>
    rw [Work.step, passed]
    simp only [if_true, Work.settle]
    rw [if_neg]
    rintro ⟨hs, ha⟩
    obtain ⟨a, rfl⟩ := Option.isSome_iff_exists.mp hs
    exact absurd (last a rfl) (by simp [ha])

/-! ### A lane for itself -/

end Work

/-- A lane that is fed and has its reader. -/
structure Outlet.IsKept (o : Outlet α) : Prop where
  attached : o.attached = true
  stays : o.lane.abandoned = false

namespace Outlet

variable {o : Outlet α}

lemma isKept_fresh : (fresh : Outlet α).IsKept := ⟨rfl, rfl⟩

lemma IsKept.hand_some (h : o.IsKept) (a : α) :
    o.hand (some a) = { o with lane := { o.lane with backlog := o.lane.backlog ++ [a] } } := by
  obtain ⟨⟨lane, got⟩, attached⟩ := o
  obtain rfl : attached = true := h.attached
  have hs : lane.abandoned = false := h.stays
  simp [hand, feed, keeps, Lane.push, hs]

lemma IsKept.hand_none (h : o.IsKept) : o.hand none = { o with lane := o.lane.finish } := by
  rw [hand, conclude, if_pos h.attached]

theorem IsKept.hand (h : o.IsKept) (what : Option α) : (o.hand what).IsKept := by
  cases what with
  | none =>
    rw [h.hand_none]
    exact ⟨h.attached, h.stays⟩
  | some a =>
    rw [h.hand_some]
    exact ⟨h.attached, h.stays⟩

theorem IsKept.read (h : o.IsKept) : o.read.IsKept :=
  ⟨h.attached, o.toReader.read_abandoned.trans h.stays⟩

end Outlet

/-- The same phase for one lane alone. -/
def Phase.alone (i : Nat) : Phase α → Phase α
  | waiting => waiting
  | passing what next => passing what (if i < next then 1 else 0)
  | gone => gone

namespace Work

/-- The same fan-out, as if one lane were the only one. -/
def alone (i : Nat) (w : Work α) : Work α :=
  { w with outlets := w.outlets[i]?.toList, phase := w.phase.alone i }

/-- A lane is there, is fed and has its reader. -/
def Keeps (i : Nat) (w : Work α) : Prop := ∃ o, w.outlets[i]? = some o ∧ o.IsKept

variable {w v : Work α} {e : Step α} {i : Nat}

lemma keeps_start {source : Lane α} {lanes : Nat} (h : i < lanes) : (start source lanes).Keeps i :=
  ⟨.fresh, by simp [start, h], Outlet.isKept_fresh⟩

lemma alone_start {source : Lane α} {lanes : Nat} (h : i < lanes) :
    (start source lanes).alone i = start source 1 := by
  simp [alone, start, h, Phase.alone]

/-- A change at some lane shows at a lane if that is the one. -/
theorem getElem?_modify_of {o : Outlet α} (h : w.outlets[i]? = some o) (j : Nat) (f : Outlet α → Outlet α) :
    (w.outlets.modify j f)[i]? = some (if j = i then f o else o) := by
  rw [List.getElem?_modify, h]
  rfl

lemma alone_outlets {o : Outlet α} (h : w.outlets[i]? = some o) : (w.alone i).outlets = [o] := by
  rw [alone, h, Option.toList_some]

lemma alone_passed {what : Option α} (hi : i < w.outlets.length)
    (h : w.phase = .passing what w.outlets.length) :
    (w.alone i).phase = .passing what (w.alone i).outlets.length := by
  have hone : (w.alone i).outlets.length = 1 := by
    rw [alone_outlets (List.getElem?_eq_getElem hi), List.length_singleton]
  rw [hone, alone, h, Phase.alone, if_pos hi]

/-- A change at another lane does not show at a lane. -/
theorem alone_modify_other {o : Outlet α} {j : Nat} (h : w.outlets[i]? = some o) (hj : j ≠ i)
    (f : Outlet α → Outlet α) : { w with outlets := w.outlets.modify j f }.alone i = w.alone i := by
  simp only [alone, getElem?_modify_of h, if_neg hj, h]

/-- A step leaves a lane what it was, or it is a step of that lane alone. -/
theorem Goes.alone (h : Goes w e v) (hk : w.Keeps i) (hd : e ≠ .drop i) :
    v.Keeps i ∧ ((e.alone i).elim (some (w.alone i)) (w.alone i).step) = some (v.alone i) := by
  obtain ⟨o, ho, hkept⟩ := hk
  have hi : i < w.outlets.length := (List.getElem?_eq_some_iff.mp ho).1
  have hout := alone_outlets ho
  have other {j : Nat} (f : Outlet α → Outlet α) (hj : j ≠ i) : (w.outlets.modify j f)[i]? = some o := by
    rw [getElem?_modify_of ho, if_neg hj]
  have own (f : Outlet α → Outlet α) : (w.outlets.modify i f)[i]? = some (f o) := by
    rw [getElem?_modify_of ho, if_pos rfl]
  cases h with
  | arrive a running =>
    exact ⟨⟨o, ho, hkept⟩, (Goes.arrive (w := w.alone i) a running).step⟩
  | finish => exact ⟨⟨o, ho, hkept⟩, rfl⟩
  | take a rest waits backlog =>
    have hp : (w.alone i).phase = .waiting := by rw [Work.alone, waits, Phase.alone]
    exact ⟨⟨o, ho, hkept⟩, (Goes.take a rest hp backlog).step⟩
  | takeEnd waits drained ended =>
    have hp : (w.alone i).phase = .waiting := by rw [Work.alone, waits, Phase.alone]
    exact ⟨⟨o, ho, hkept⟩, (Goes.takeEnd hp drained ended).step⟩
  | serve what j passes some_lane =>
    by_cases hj : j = i
    · subst hj
      have hp : (w.alone j).phase = .passing what 0 := by
        rw [Work.alone, passes, Phase.alone, if_neg (Nat.lt_irrefl j)]
      refine ⟨⟨_, own _, hkept.hand what⟩, ?_⟩
      rw [Step.alone, if_pos rfl, Option.elim_some, (Goes.serve what 0 hp (by simp [hout])).step, hout]
      simp [Work.alone, Phase.alone, own]
    · -- A lane is behind the one that is served next just as it was before.
      have hlt : i < j + 1 ↔ i < j := by omega
      refine ⟨⟨o, other _ hj, hkept⟩, ?_⟩
      rw [Step.alone, if_neg hj, Option.elim_none]
      simp only [Work.alone, Phase.alone, passes, ho, other _ hj, hlt]
  | settle a passed attached =>
    have hany : (w.alone i).outlets.any (·.attached) = true := by simp [hout, hkept.attached]
    exact ⟨⟨o, ho, hkept⟩, (Goes.settle a (alone_passed hi passed) hany).step⟩
  | leave what passed last =>
    -- With this lane attached, the fan-out leaves only after the end.
    have hnone (a : α) : what ≠ some a := by
      intro ha
      have hany : w.outlets.any (·.attached) = true :=
        List.any_eq_true.mpr ⟨o, List.mem_of_getElem? ho, hkept.attached⟩
      exact absurd hany (by simp [last a ha])
    exact ⟨⟨o, ho, hkept⟩,
      (Goes.leave what (alone_passed hi passed) fun a ha => absurd ha (hnone a)).step⟩
  | read j =>
    by_cases hj : j = i
    · subst hj
      refine ⟨⟨_, own _, hkept.read⟩, ?_⟩
      rw [Step.alone, if_pos rfl, Option.elim_some, (Goes.read 0).step, hout]
      simp [Work.alone, own]
    · refine ⟨⟨o, other _ hj, hkept⟩, ?_⟩
      rw [Step.alone, if_neg hj, Option.elim_none, alone_modify_other ho hj]
  | drop j =>
    have hj : j ≠ i := fun he => hd (he ▸ rfl)
    refine ⟨⟨o, other _ hj, hkept⟩, ?_⟩
    rw [Step.alone, if_neg hj, Option.elim_none, alone_modify_other ho hj]

theorem run_alone {steps : List (Step α)} (h : w.run steps = some v) (hk : w.Keeps i)
    (hd : .drop i ∉ steps) :
    v.Keeps i ∧ (w.alone i).run (steps.filterMap (Step.alone i)) = some (v.alone i) := by
  obtain ⟨u, hu, hkv, rfl⟩ : ∃ u, (w.alone i).run (steps.filterMap (Step.alone i)) = some u ∧
      v.Keeps i ∧ u = v.alone i := by
    refine Schedule.run_mirrors (R := fun x y => x.Keeps i ∧ y = x.alone i) ?_ h ⟨hk, rfl⟩
    rintro x y - e he hx ⟨hkx, rfl⟩
    obtain ⟨hkeeps, hstep⟩ := (goes_of_step hx).alone hkx fun hn => hd (hn ▸ he)
    exact ⟨_, hstep, hkeeps, rfl⟩
  exact ⟨hkv, hu⟩

end Work

/-- What a fan-out has taken and not handed to a lane yet. -/
def Phase.inHand (i : Nat) : Phase α → List α
  | passing (some a) next => if next ≤ i then [a] else []
  | _ => []

/-- Whether a lane was told of the end. -/
def Phase.hasTold (i : Nat) : Phase α → Bool
  | passing none next => decide (i < next)
  | passing (some _) _ | waiting => false
  | gone => true

lemma Phase.inHand_alone (i : Nat) (p : Phase α) : (p.alone i).inHand 0 = p.inHand i := by
  cases p with
  | waiting | gone => rfl
  | passing what next =>
    cases what with
    | none => rfl
    | some a =>
      rw [alone, inHand, inHand]
      grind

lemma Phase.hasTold_alone (i : Nat) (p : Phase α) : (p.alone i).hasTold 0 = p.hasTold i := by
  cases p with
  | waiting | gone => rfl
  | passing what next =>
    cases what with
    | some a => rfl
    | none =>
      rw [alone, hasTold, hasTold]
      grind

namespace Work

/-- A fan-out of one lane, which has got what was taken from the source. -/
structure Serves (w : Work α) (o : Outlet α) : Prop where
  only : w.outlets = [o]
  kept : o.IsKept
  passed : w.drawn = o.contents ++ w.phase.inHand 0
  told : o.lane.finished = w.phase.hasTold 0

variable {w v : Work α} {e : Step α} {i : Nat} {o : Outlet α}

theorem serves_start (source : Lane α) : (start source 1).Serves .fresh :=
  ⟨rfl, Outlet.isKept_fresh, rfl, rfl⟩

theorem Goes.serves (h : Goes w e v) (hs : w.Serves o) (hd : e ≠ .drop 0) : ∃ o', v.Serves o' := by
  have hout := hs.only
  have hp := hs.passed
  have ht := hs.told
  cases h with
  | arrive | finish => exact ⟨o, hout, hs.kept, hp, ht⟩
  | take a rest waits backlog =>
    rw [waits] at hp ht
    exact ⟨o, hout, hs.kept, congrArg (· ++ [a]) (hp.trans (List.append_nil _)), ht⟩
  | takeEnd waits drained ended =>
    rw [waits] at hp ht
    exact ⟨o, hout, hs.kept, hp, ht⟩
  | serve what j passes some_lane =>
    obtain rfl : j = 0 := by simpa [hout] using some_lane
    rw [passes] at hp ht
    refine ⟨o.hand what, by rw [hout]; rfl, hs.kept.hand what, ?_, ?_⟩
    · cases what with
      | none =>
        rw [hs.kept.hand_none]
        exact hp
      | some a =>
        rw [hs.kept.hand_some]
        refine hp.trans ?_
        simp [Reader.contents, Phase.inHand]
    · cases what with
      | none =>
        rw [hs.kept.hand_none]
        rfl
      | some a =>
        rw [hs.kept.hand_some]
        exact ht
  | settle a passed attached =>
    rw [passed, hout] at hp ht
    exact ⟨o, hout, hs.kept, hp, ht⟩
  | leave what passed last =>
    rw [passed, hout] at hp ht
    cases what with
    | none => exact ⟨o, hout, hs.kept, hp, ht⟩
    | some a =>
      -- Only a lane without its reader is detached.
      have hany := last a rfl
      simp [hout, hs.kept.attached] at hany
  | read j =>
    cases j with
    | zero =>
      refine ⟨o.read, by rw [hout]; rfl, hs.kept.read, ?_, o.toReader.read_finished.trans ht⟩
      rw [Outlet.read, o.toReader.read_contents]
      exact hp
    | succ j => exact ⟨o, by simp [hout], hs.kept, hp, ht⟩
  | drop j =>
    cases j with
    | zero => exact absurd rfl hd
    | succ j => exact ⟨o, by simp [hout], hs.kept, hp, ht⟩

theorem serves_run {steps : List (Step α)} (h : w.run steps = some v) (hs : w.Serves o)
    (hd : .drop 0 ∉ steps) : ∃ o', v.Serves o' := by
  refine Schedule.run_keeps (P := fun u => ∃ o', u.Serves o') ?_ h ⟨o, hs⟩
  rintro s t e he hu ⟨o', ho⟩
  exact (goes_of_step hu).serves ho fun hn => hd (hn ▸ he)

/-! ### The source -/

/-- Where the values are that `whole` lists, and why a fan-out is gone. -/
structure Draws (whole : List α) (w : Work α) : Prop where
  reads : w.phase ≠ .gone → w.source.abandoned = false ∧ whole = w.drawn ++ w.source.backlog
  inRange : ∀ what next, w.phase = .passing what next → next ≤ w.outlets.length
  ending : ∀ next, w.phase = .passing none next → w.source.finished = true ∧ w.source.backlog = []
  /-- A lane that is not fed any more has lost its reader. -/
  detached : ∀ o ∈ w.outlets, o.attached = false → o.lane.abandoned = true
  left : w.phase = .gone → w.source.abandoned = true ∧ w.source.backlog = []
  gone : w.phase = .gone → w.source.finished = true ∧ w.drawn = whole ∨
    ∀ o ∈ w.outlets, o.lane.abandoned = true

end Work

lemma Outlet.forall_mem_modify {P : Outlet α → Prop} {os : List (Outlet α)} {f : Outlet α → Outlet α}
    (hf : ∀ o, P o → P (f o)) (h : ∀ o ∈ os, P o) (i : Nat) : ∀ o ∈ os.modify i f, P o := by
  intro o ho
  obtain ⟨j, hj⟩ := List.mem_iff_getElem?.mp ho
  rw [List.getElem?_modify] at hj
  obtain ⟨p, hp, rfl⟩ := Option.map_eq_some_iff.mp hj
  have hpos := h p (List.mem_of_getElem? hp)
  split
  · exact hf p hpos
  · exact hpos

lemma Outlet.hand_abandoned (what : Option α) (o : Outlet α) :
    (o.hand what).lane.abandoned = o.lane.abandoned := by
  cases what with
  | none =>
    rw [hand, conclude]
    split <;> rfl
  | some a =>
    rw [hand, feed]
    split
    · exact Lane.push_abandoned _ _
    · rfl

/-- Whoever is detached by being handed something has lost its reader. -/
theorem Outlet.hand_detached (what : Option α) (o : Outlet α)
    (h : o.attached = false → o.lane.abandoned = true) :
    (o.hand what).attached = false → (o.hand what).lane.abandoned = true := by
  rw [hand_abandoned]
  cases what with
  | none => exact h
  | some a =>
    intro hk
    rcases Bool.and_eq_false_iff.mp hk with hd | hd
    · exact h hd
    · simpa using hd

namespace Work

variable {w v : Work α} {e : Step α} {whole : List α}

lemma draws_start {source : Lane α} (h : source.abandoned = false) (lanes : Nat) :
    (start source lanes).Draws source.backlog where
  reads _ := ⟨h, rfl⟩
  inRange _ _ hp := nomatch hp
  ending _ hp := nomatch hp
  detached o ho hd := by
    rw [List.eq_of_mem_replicate ho] at hd
    cases hd
  left hp := nomatch hp
  gone hp := nomatch hp

/-- A change at a lane that keeps what is known of lanes without readers. -/
theorem Draws.modify (h : w.Draws whole) {f : Outlet α → Outlet α} (i : Nat)
    (hd : ∀ o : Outlet α, (o.attached = false → o.lane.abandoned = true) →
      (f o).attached = false → (f o).lane.abandoned = true)
    (ha : ∀ o : Outlet α, o.lane.abandoned = true → (f o).lane.abandoned = true) :
    { w with outlets := w.outlets.modify i f }.Draws whole where
  reads := h.reads
  inRange := by
    intro what next hp
    rw [List.length_modify]
    exact h.inRange what next hp
  ending := h.ending
  detached := Outlet.forall_mem_modify hd h.detached i
  left := h.left
  gone hp := (h.gone hp).imp_right fun hall => Outlet.forall_mem_modify ha hall i

/-- What is to be known while a fan-out is there. -/
theorem Draws.of_reads (h : w.phase ≠ .gone)
    (hreads : w.source.abandoned = false ∧ whole = w.drawn ++ w.source.backlog)
    (hrange : ∀ what next, w.phase = .passing what next → next ≤ w.outlets.length)
    (hending : ∀ next, w.phase = .passing none next → w.source.finished = true ∧ w.source.backlog = [])
    (hdetached : ∀ o ∈ w.outlets, o.attached = false → o.lane.abandoned = true) : w.Draws whole where
  reads _ := hreads
  inRange := hrange
  ending := hending
  detached := hdetached
  left hp := absurd hp h
  gone hp := absurd hp h

theorem Goes.draws (h : Goes w e v) (hd : w.Draws whole) : v.Draws (whole ++ e.arrival?.toList) := by
  have still : whole ++ [] = whole := List.append_nil whole
  cases h with
  | arrive a running =>
    refine ⟨fun hp => ?_, hd.inRange, fun next hp => ?_, hd.detached, fun hp => ?_, fun hp => ?_⟩
    · obtain ⟨hs, hw⟩ := hd.reads hp
      refine ⟨(w.source.push_abandoned a).trans hs, ?_⟩
      change whole ++ [a] = w.drawn ++ (w.source.push a).backlog
      rw [Lane.push_backlog hs, hw, List.append_assoc]
    · exact absurd (hd.ending next hp).1 (by simp [running])
    · obtain ⟨hs, hb⟩ := hd.left hp
      refine ⟨(w.source.push_abandoned a).trans hs, ?_⟩
      change (w.source.push a).backlog = []
      rw [Lane.push, if_pos hs, hb]
    · exact .inr ((hd.gone hp).resolve_left fun hn => by simp [running] at hn)
  | finish =>
    exact still.symm ▸ ⟨hd.reads, hd.inRange, fun next hp => ⟨rfl, (hd.ending next hp).2⟩,
      hd.detached, hd.left, fun hp => (hd.gone hp).imp_left fun hn => ⟨rfl, hn.2⟩⟩
  | take a rest waits backlog =>
    obtain ⟨hs, hw⟩ := hd.reads (by simp [waits])
    refine still.symm ▸ .of_reads (by simp) ⟨hs, ?_⟩ (fun _ _ hp => ?_) (by simp) hd.detached
    · rw [hw, backlog, List.append_assoc, List.singleton_append]
    · cases hp
      exact Nat.zero_le _
  | takeEnd waits drained ended =>
    have hr := hd.reads (by simp [waits])
    refine still.symm ▸ .of_reads (by simp) hr (fun _ _ hp => ?_) (fun _ _ => ⟨ended, drained⟩) hd.detached
    cases hp
    exact Nat.zero_le _
  | serve what i passes some_lane =>
    have hm := hd.modify i (Outlet.hand_detached what) fun o ho => (o.hand_abandoned what).trans ho
    have hr := hd.reads (by simp [passes])
    refine still.symm ▸ .of_reads (by simp) hr (fun _ _ hp => ?_) (fun next hp => ?_) hm.detached
    · cases hp
      rw [List.length_modify]
      exact some_lane
    · cases hp
      exact hd.ending i passes
  | settle a passed attached =>
    have hr := hd.reads (by simp [passed])
    exact still.symm ▸ .of_reads (by simp) hr (by simp) (by simp) hd.detached
  | leave what passed last =>
    refine still.symm ▸ ⟨fun hn => absurd rfl hn, by simp, by simp, hd.detached, fun _ => ⟨rfl, rfl⟩,
      fun _ => ?_⟩
    cases what with
    | none =>
      obtain ⟨hf, hb⟩ := hd.ending _ passed
      have hw := (hd.reads (by simp [passed])).2
      rw [hb, List.append_nil] at hw
      exact .inl ⟨hf, hw.symm⟩
    | some a =>
      have hnone := List.any_eq_false.mp (last a rfl)
      exact .inr fun o ho => hd.detached o ho (Bool.eq_false_iff.mpr (hnone o ho))
  | read i =>
    have hread (o : Outlet α) : o.read.lane.abandoned = o.lane.abandoned := o.toReader.read_abandoned
    exact still.symm ▸ hd.modify i (fun o ho hk => (hread o).trans (ho hk)) fun o ho => (hread o).trans ho
  | drop i => exact still.symm ▸ hd.modify i (fun _ _ _ => rfl) fun _ _ => rfl

theorem draws_run {steps : List (Step α)} (h : w.run steps = some v) (hd : w.Draws whole) :
    v.Draws (whole ++ steps.filterMap Step.arrival?) :=
  Schedule.run_gathers (fun hu hd => (goes_of_step hu).draws hd) h hd

/-! ### How a fan-out goes on -/

/-- How many steps a fan-out can take before something arrives. -/
def toDo (w : Work α) : Nat :=
  let rounds := (w.outlets.length + 2) * (w.source.backlog.length + 1)
  match w.phase with
  | .waiting => rounds
  | .passing (some _) next => rounds + (w.outlets.length - next) + 1
  | .passing none next => w.outlets.length - next + 1
  | .gone => 0

theorem Goes.toDo_lt (h : Goes w e v) (ho : e.isOwn = true) : v.toDo < w.toDo := by
  cases h with
  | arrive | finish | read | drop => cases ho
  | take a rest waits backlog =>
    simp only [toDo, waits, backlog, List.length_cons]
    rw [Nat.mul_add_one (w.outlets.length + 2) (rest.length + 1)]
    omega
  | takeEnd waits drained ended =>
    simp only [toDo, waits, drained, List.length_nil]
    omega
  | serve what i passes some_lane =>
    cases what with
    | none =>
      simp only [toDo, passes, List.length_modify]
      omega
    | some a =>
      simp only [toDo, passes, List.length_modify]
      omega
  | settle a passed attached =>
    simp only [toDo, passed]
    omega
  | leave what passed last =>
    cases what with
    | none =>
      simp only [toDo, passed]
      omega
    | some a =>
      simp only [toDo, passed]
      omega

theorem length_le_toDo {more : List (Step α)} (ho : ∀ e ∈ more, e.isOwn = true)
    (h : w.run more = some v) : more.length ≤ w.toDo :=
  Schedule.length_le_of_run (fun e he hu => (goes_of_step hu).toDo_lt (ho e he)) h

/-- Nothing is left to do but to wait. -/
def IsSettled (w : Work α) : Prop := ∀ e : Step α, e.isOwn = true → w.step e = none

/-- A fan-out with nothing to do has taken everything from its source and is in no round, or it is gone. -/
theorem Draws.of_settled (hd : w.Draws whole) (h : w.IsSettled) :
    w.phase = .waiting ∧ w.drawn = whole ∧ w.source.finished = false ∨ w.phase = .gone := by
  have never (e : Step α) (v : Work α) (ho : e.isOwn = true) : ¬ Goes w e v := fun hg =>
    nomatch (h e ho).symm.trans hg.step
  cases hp : w.phase with
  | gone => exact .inr rfl
  | waiting =>
    cases hb : w.source.backlog with
    | cons a rest => exact absurd (.take a rest hp hb) (never .take _ rfl)
    | nil =>
      have hw := (hd.reads (by simp [hp])).2
      rw [hb, List.append_nil] at hw
      refine .inl ⟨rfl, hw.symm, Bool.eq_false_iff.mpr fun hf => ?_⟩
      exact never .take _ rfl (.takeEnd hp hb hf)
  | passing what next =>
    rcases Nat.lt_or_eq_of_le (hd.inRange what next hp) with hlt | heq
    · exact absurd (.serve what next hp hlt) (never (.serve next) _ rfl)
    · rw [heq] at hp
      cases what with
      | none => exact absurd (.leave none hp fun a ha => nomatch ha) (never .settle _ rfl)
      | some a =>
        cases ha : w.outlets.any (·.attached) with
        | true => exact absurd (.settle a hp ha) (never .settle _ rfl)
        | false => exact absurd (.leave (some a) hp fun _ _ => ha) (never .settle _ rfl)

/-! ### A round without interruption -/

/-- The lanes that were not served yet are served one after another. -/
theorem run_serve {what : Option α} {done todo : List (Outlet α)} (ho : w.outlets = done ++ todo)
    (hp : w.phase = .passing what done.length) :
    w.run ((List.range' done.length todo.length).map .serve) =
      some { w with
        outlets := done ++ todo.map (.hand what), phase := .passing what (done ++ todo).length } := by
  induction todo generalizing w done with
  | nil =>
    obtain ⟨source, outlets, phase, drawn⟩ := w
    obtain rfl : outlets = done ++ [] := ho
    obtain rfl : phase = .passing what done.length := hp
    simp [run, Schedule.run]
  | cons o todo ih =>
    have hlt : done.length < w.outlets.length := by simp [ho]
    have hmod : w.outlets.modify done.length (.hand what) = (done ++ [o.hand what]) ++ todo := by
      rw [ho, List.modify_eq_take_cons_drop (by simp)]
      simp
    have hnext := ih (w := { w with
      outlets := w.outlets.modify done.length (.hand what), phase := .passing what (done.length + 1) })
      hmod (by simp)
    rw [List.length_cons, List.range'_succ, List.map_cons, run, Schedule.run,
      (Goes.serve what done.length hp hlt).step]
    rw [List.length_append, List.length_singleton] at hnext
    refine hnext.trans ?_
    simp

/-- A whole round without anything in between is one turn of the fan-out. -/
theorem run_round (h : w.phase = .waiting) : (w.run w.round).map (fun v => (v.fan, v.phase)) =
    match w.fan.turn with
    | .resting => none
    | .working f => some (f, .waiting)
    | .over f => some (f, .gone) := by
  have zip {β : Type} (f : Lane α → Bool → β) :
      List.zipWith f (w.outlets.map (·.lane)) (w.outlets.map (·.attached)) =
        w.outlets.map fun o => f o.lane o.attached := by
    rw [List.zipWith_map, List.zipWith_self]
  have pass {u : Work α} {what : Option α} (hu : w.step .take = some u) (ho : u.outlets = w.outlets)
      (hp : u.phase = .passing what 0) : w.run w.round =
        some ({ u with
          outlets := w.outlets.map (.hand what), phase := .passing what w.outlets.length }.settle what) := by
    have ho : u.outlets = [] ++ w.outlets := ho
    have hserve := run_serve ho hp
    rw [round, run, Schedule.run, hu, Option.bind_some, Schedule.run_append, List.range_eq_range']
    rw [List.length_nil, run] at hserve
    rw [hserve, Option.bind_some, Schedule.run, step]
    simp [Schedule.run]
  cases hb : w.source.backlog with
  | nil =>
    cases hf : w.source.finished with
    | false =>
      have hs : w.step .take = none := by rw [step, h, Lane.poll_of_nil hb, hf]; rfl
      rw [round, run, Schedule.run, hs, turn, fan, Lane.poll_of_nil hb, hf]
      rfl
    | true =>
      rw [pass (Goes.takeEnd h hb hf).step rfl rfl, turn, fan, Lane.poll_of_nil hb, hf]
      simp [settle, fan, Outlet.hand, zip, Function.comp_def]
  | cons a rest =>
    rw [pass (Goes.take a rest h hb).step rfl rfl, turn, fan, Lane.poll_of_cons hb]
    simp only [zip, List.any_map, Function.comp_def, id_eq]
    cases hk : w.outlets.any fun o => keeps o.lane o.attached with
    | true => simp [settle, fan, Outlet.hand, Function.comp_def, hk]
    | false => simp [settle, fan, Outlet.hand, Function.comp_def, hk]

/-! ### The copies -/

/-- A lane of a fan-out with its reader has what the source had, of which `whole` is all. -/
structure IsCopy (source : Lane α) (steps : List (Step α)) (whole : List α) (w : Work α) (i : Nat)
    (o : Outlet α) : Prop where
  here : w.outlets[i]? = some o
  /-- Nothing is missing but what the fan-out has in hand and what is left in the source. -/
  history : whole = o.contents ++ w.phase.inHand i ++ w.source.backlog
  ends : o.lane.poll.1 = .ended → w.source.finished = true ∧ o.got = whole
  settled : w.IsSettled → o.contents = whole ∧ o.lane.finished = w.source.finished
  /-- The lane is what it would be without the others and all that happened to them. -/
  alone : ∃ v, (start source 1).run (steps.filterMap (Step.alone i)) = some v ∧ v.outlets = [o]

/-- What a fan-out keeps to, whatever steps have led to it. -/
structure Duplicates (source : Lane α) (lanes : Nat) (steps : List (Step α)) (w : Work α) : Prop where
  copies : ∀ i < lanes, .drop i ∉ steps →
    ∃ o, IsCopy source steps (source.backlog ++ steps.filterMap Step.arrival?) w i o
  /-- A fan-out is gone when it has passed on everything and the end, or when all readers went. -/
  stops : w.phase = .gone → w.source.finished = true ∧
      w.drawn = source.backlog ++ steps.filterMap Step.arrival? ∨ ∀ i < lanes, .drop i ∈ steps
  /-- By its own steps a fan-out comes to a point where it has nothing to do. -/
  settles : ∃ bound, ∀ more v, (∀ e ∈ more, e.isOwn = true) → w.run more = some v → more.length ≤ bound
  /-- A round in which nothing else happens is a turn. -/
  turn : w.phase = .waiting → (w.run w.round).map (fun v => (v.fan, v.phase)) =
    match w.fan.turn with
    | .resting => none
    | .working f => some (f, .waiting)
    | .over f => some (f, .gone)

variable {i : Nat} {o : Outlet α}

/-- A fan-out with a reader has passed on all that it took, and is gone only after the end. -/
theorem Draws.of_keeps (hd : w.Draws whole) (hk : w.Keeps i) : whole = w.drawn ++ w.source.backlog ∧
    (w.phase = .gone → w.source.finished = true) := by
  obtain ⟨o, ho, hkept⟩ := hk
  by_cases hp : w.phase = .gone
  · have hgone := (hd.gone hp).resolve_right fun hall =>
      absurd hkept.stays (by simp [hall o (List.mem_of_getElem? ho)])
    rw [(hd.left hp).2, List.append_nil]
    exact ⟨hgone.2.symm, fun _ => hgone.1⟩
  · exact ⟨(hd.reads hp).2, fun hn => absurd hn hp⟩

lemma Draws.of_told (hd : w.Draws whole) (hk : w.Keeps i) (ht : w.phase.hasTold i = true) :
    w.source.finished = true ∧ whole = w.drawn ∧ w.phase.inHand i = [] := by
  obtain ⟨hw, hgone⟩ := hd.of_keeps hk
  cases hp : w.phase with
  | waiting =>
    rw [hp] at ht
    cases ht
  | gone =>
    rw [(hd.left hp).2, List.append_nil] at hw
    exact ⟨hgone hp, hw, rfl⟩
  | passing what next =>
    cases what with
    | some a =>
      rw [hp] at ht
      cases ht
    | none =>
      obtain ⟨hf, hb⟩ := hd.ending next hp
      rw [hb, List.append_nil] at hw
      exact ⟨hf, hw, rfl⟩

/-- What a lane is by itself, seen in the fan-out. -/
theorem Serves.passed_of_alone (hs : (w.alone i).Serves o) :
    w.drawn = o.contents ++ w.phase.inHand i ∧ o.lane.finished = w.phase.hasTold i :=
  ⟨hs.passed.trans (by rw [← Phase.inHand_alone i w.phase]; rfl),
    hs.told.trans (Phase.hasTold_alone i w.phase)⟩

lemma drop_not_mem_alone {steps : List (Step α)} (h : .drop i ∉ steps) :
    .drop 0 ∉ steps.filterMap (Step.alone i) := by
  intro hm
  obtain ⟨e, he, hd⟩ := List.mem_filterMap.mp hm
  cases e with
  | drop j =>
    rw [Step.alone] at hd
    split at hd
    · rename_i hj
      exact h (hj ▸ he)
    · cases hd
  | serve j | read j =>
    rw [Step.alone] at hd
    split at hd <;> cases hd
  | arrive | finish | take | settle => cases hd

theorem isCopy_of_run {source : Lane α} {lanes : Nat} {steps : List (Step α)}
    (hopen : source.abandoned = false) (h : (start source lanes).run steps = some w) (hi : i < lanes)
    (hd : .drop i ∉ steps) :
    ∃ o, IsCopy source steps (source.backlog ++ steps.filterMap Step.arrival?) w i o := by
  have hdraws := draws_run h (draws_start hopen lanes)
  obtain ⟨hkeeps, halone⟩ := run_alone h (keeps_start hi) hd
  rw [alone_start hi] at halone
  obtain ⟨o, hserves⟩ := serves_run halone (serves_start source) (drop_not_mem_alone hd)
  obtain ⟨hpassed, htold⟩ := hserves.passed_of_alone
  obtain ⟨o', ho, -⟩ := id hkeeps
  obtain rfl : o' = o := List.singleton_inj.mp ((alone_outlets ho).symm.trans hserves.only)
  obtain ⟨hwhole, hgone⟩ := hdraws.of_keeps hkeeps
  refine ⟨o', ho, ?_, fun he => ?_, fun hs => ?_, _, halone, hserves.only⟩
  · rw [hwhole, hpassed]
  · obtain ⟨hfinished, hempty⟩ := Lane.of_poll_ended he
    obtain ⟨hsource, hall, hhand⟩ := hdraws.of_told hkeeps (htold ▸ hfinished)
    refine ⟨hsource, ?_⟩
    rw [hall, hpassed, hhand, List.append_nil, Reader.contents, hempty, List.append_nil]
  · rcases hdraws.of_settled hs with ⟨hp, hall, hrunning⟩ | hp
    · rw [hp] at hpassed htold
      exact ⟨((hall.symm.trans hpassed).trans (List.append_nil _)).symm, htold.trans hrunning.symm⟩
    · rw [(hdraws.left hp).2, List.append_nil] at hwhole
      rw [hp] at hpassed htold
      exact ⟨((hwhole.trans hpassed).trans (List.append_nil _)).symm, htold.trans (hgone hp).symm⟩

end Work

open Work in
/-- Whatever arrives, whoever reads and goes, and wherever in a round, a fan-out gives every lane that keeps
its reader the whole source. -/
theorem fan_out_duplicates {backlog : List α} {finished : Bool} {lanes : Nat} {steps : List (Step α)}
    {w : Work α} (h : (start ⟨backlog, finished, false⟩ lanes).run steps = some w) :
    Duplicates ⟨backlog, finished, false⟩ lanes steps w where
  copies i hi hd := isCopy_of_run rfl h hi hd
  stops hp := by
    refine ((draws_run h (draws_start rfl lanes)).gone hp).imp_right fun hall i hi => ?_
    by_cases hd : .drop i ∈ steps
    · exact hd
    · obtain ⟨o, ho, hkept⟩ := (run_alone h (keeps_start hi) hd).1
      exact absurd hkept.stays (by simp [hall o (List.mem_of_getElem? ho)])
  settles := ⟨w.toDo, fun _ _ ho hv => length_le_toDo ho hv⟩
  turn := run_round

/-- Two of three readers go while the first value goes round, one after its lane was served and one
before. -/
def thinningSteps : List (Step Envelope) :=
  [.arrive .heartbeat, .take, .serve 0, .drop 0, .drop 1, .serve 1, .serve 2, .settle,
    .arrive (.ack .balances .subscribe true none), .read 2, .take, .serve 0, .serve 1, .serve 2, .settle,
    .finish, .take, .serve 0, .serve 1, .serve 2, .read 2, .settle]

theorem thinned_fan_out_duplicates : ∃ w : Work Envelope,
    (Work.start ⟨[], false, false⟩ 3).run thinningSteps = some w ∧ w.phase = .gone ∧
    w.outlets[2]?.map (fun o => (o.got, o.lane.poll.1)) =
      some ([.heartbeat, .ack .balances .subscribe true none], .ended) ∧
    Work.Duplicates ⟨[], false, false⟩ 3 thinningSteps w := by
  have hr : ((Work.start ⟨[], false, false⟩ 3).run thinningSteps).map (fun w =>
      (w.phase, w.outlets[2]?.map fun o => (o.got, o.lane.poll.1))) =
        some (.gone, some ([.heartbeat, .ack .balances .subscribe true none], .ended)) := by
    decide
  obtain ⟨w, hw, hv⟩ := Option.map_eq_some_iff.mp hr
  simp only [Prod.mk.injEq] at hv
  exact ⟨w, hw, hv.1, hv.2, fan_out_duplicates hw⟩

end MarketFeed.FanOut
