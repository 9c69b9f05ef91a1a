import Mathlib.Data.List.Range
import MarketFeed.Proofs.Placement

/-!
What calls leave behind. The registry is that of all requests, and calls are numbered as they are made.
-/

namespace MarketFeed

open History

/-- The number of a call for a request or a directive. -/
def Occurrence.call? : Occurrence → Option CallNumber
  | requested _ call _ | directed _ call _ => some call
  | _ => none

/-- The call, and the state that it found. -/
def Occurrence.callIn? : Occurrence → Option (CallNumber × ConnectionState)
  | requested found call _ | directed found call _ => some (call, found)
  | _ => none

/-- The calls, in the order in which they were made. -/
def History.calls (j : List Entry) : List CallNumber := view Occurrence.call? j

namespace Occurrence

lemma call?_of_isSilent {o : Occurrence} (h : o.isSilent = true) : o.call? = none := by
  obtain ⟨hr, -, hd, -⟩ := isSilent_iff.mp h
  unfold call?
  split
  · cases hr
  · cases hd
  · rfl

end Occurrence

/-- The registry is that of the requests so far. -/
theorem Move.registry {k l : Core} (m : Move k l) (h : k.registry = wanted k.journal) :
    l.registry = wanted l.journal := by
  cases m with
  | note e silent =>
    have hr := (Occurrence.isSilent_iff.mp silent).1
    exact h.trans (wanted_append (List.forall_mem_singleton.mpr hr)).symm
  | defer t r | ask g t r =>
    change k.registry.apply r.action r.topic = wanted (_ :: k.journal)
    rw [wanted_cons, ← h]
    rfl
  | write t link o =>
    refine Eq.trans ?_ (wanted_append (Origin.answer_hidden fun _ => rfl)).symm
    simpa [Core.log, Occurrence.request?] using h
  | fail | drop => exact h.trans (wanted_append (Origin.answer_hidden fun _ => rfl)).symm
  | refuse | direct => simpa [Core.log, Core.countCall, Core.enqueue, Occurrence.request?] using h
  | withhold | connect | replay | take | beat | acknowledge =>
    simpa [Core.log, Occurrence.request?] using h
  | _ => exact h

/-- Calls are numbered as they are made. -/
theorem Move.numbered {k l : Core} (m : Move k l) (h : calls k.journal = List.range k.callsMade) :
    calls l.journal = List.range l.callsMade := by
  cases m with
  | note e silent =>
    have hc := Occurrence.call?_of_isSilent silent
    exact (view_append_hidden (List.forall_mem_singleton.mpr hc)).trans h
  | defer | ask | refuse | direct =>
    simpa [Core.log, Core.countCall, Core.want, Core.enqueue, History.calls, Occurrence.call?,
      List.range_succ] using h
  | write t link o =>
    refine (Origin.view_answer fun _ => rfl).trans ?_
    simpa [Core.log, History.calls, Occurrence.call?] using h
  | fail | drop => exact (Origin.view_answer fun _ => rfl).trans h
  | withhold | connect | replay | take | beat | acknowledge =>
    simpa [Core.log, History.calls, Occurrence.call?] using h
  | _ => exact h

theorem Core.Reached.registry {k : Core} (h : k.Reached) : k.registry = wanted k.journal :=
  h.invariant (P := fun k => k.registry = wanted k.journal) rfl fun _ m ih => m.registry ih

theorem Core.Reached.numbered {k : Core} (h : k.Reached) :
    calls k.journal = List.range k.callsMade :=
  h.invariant (P := fun k => calls k.journal = List.range k.callsMade) rfl fun _ m ih => m.numbered ih

/-- The call that a message is of. -/
def Origin.call? : Origin → Option CallNumber
  | request call | directive call => some call
  | _ => none

theorem Occurrence.callIn?_of_called? {x : Occurrence} {g : Generation} {o : Outgoing}
    (h : x.called? g = some o) : ∃ call, x.callIn? = some (call, .connected g) ∧
      o.origin.call? = some call := by
  unfold called? at h
  split at h
  · rename_i s call r
    split at h <;> cases h
    rename_i hs
    subst hs
    exact ⟨call, rfl, rfl⟩
  · rename_i s call d
    split at h <;> cases h
    rename_i hs
    subst hs
    exact ⟨call, rfl, rfl⟩
  · cases h

lemma Occurrence.call?_of_callIn? {x : Occurrence} {call : CallNumber} {s : ConnectionState}
    (h : x.callIn? = some (call, s)) : x.call? = some call := by
  unfold callIn? at h
  split at h <;> cases h <;> rfl

/-- The calls that found a session are among all calls, in their order. -/
theorem History.called_sublist (g : Generation) (j : List Entry) :
    ((called g j).filterMap (·.origin.call?)).Sublist (calls j) := by
  induction j with
  | nil => exact List.Sublist.slnil
  | cons e j ih =>
    rw [called_cons, List.filterMap_append, calls, view_cons]
    refine ih.append ?_
    cases hc : e.what.called? g with
    | none => exact List.nil_sublist _
    | some o =>
      obtain ⟨call, hi, ho⟩ := Occurrence.callIn?_of_called? hc
      rw [Occurrence.call?_of_callIn? hi]
      simp [ho]

/-- So each of them counts once, in the order of the calls. -/
theorem Core.Reached.called_pairwise {k : Core} (h : k.Reached) (g : Generation) :
    ((called g k.journal).filterMap (·.origin.call?)).Pairwise (· < ·) := by
  refine List.Pairwise.sublist (called_sublist g k.journal) ?_
  rw [h.numbered]
  exact List.pairwise_lt_range

/-- A call found one state. -/
theorem Core.Reached.found_unique {k : Core} (h : k.Reached) {e x : Entry} {call : CallNumber}
    {s u : ConnectionState} (he : e ∈ k.journal) (hx : x ∈ k.journal)
    (hs : e.what.callIn? = some (call, s)) (hu : x.what.callIn? = some (call, u)) : s = u := by
  have hn : (calls k.journal).Nodup := by
    rw [h.numbered]
    exact List.nodup_range
  have heq := view_injective hn he hx (Occurrence.call?_of_callIn? hs) (Occurrence.call?_of_callIn? hu)
  rw [heq, hu] at hs
  cases hs
  rfl

end MarketFeed
