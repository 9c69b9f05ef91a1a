import MarketFeed.Proofs.Closing

/-!
What a worker survives. While neither the connector nor a connection breaks down, a client is closed
only because it was asked for, because nobody was left who could ask for anything, or after the last
attempt of a limit, as long as the clock holds the timers of a session.
-/

namespace MarketFeed

open History

namespace Client

variable {c d : Client} {config : Config} {tokens : Nat → Option String} {t : Instant}

/-- The worker did not break down, and an end has a cause that somebody wanted. -/
structure Survives (c : Client) : Prop where
  unbroken : .brokeDown ∉ happened c.journal
  /-- A close was asked for, or the last handle is gone, or so many attempts have failed as the limit
  allows. -/
  caused : c.state = .closed → closeRequests c.journal ≠ [] ∨ .handleDropped 0 ∈ happened c.journal ∨
    ∃ most, c.config.reconnect.maxAttempts = some most ∧ most ≤ c.worker.failedAttempts

/-- A calm run breaks nothing down, if the clock holds the timers at its end. -/
theorem unbroken_of_run {es : List Event} (hv : config.isValid = true)
    (h : (Client.initial config tokens).run es = some c) (he : ∀ e ∈ es, e.isCalm = true)
    (ht : config.FitsClock c.now) : .brokeDown ∉ happened c.journal := by
  have hr : Reachable config tokens (.initial config tokens) := .initial hv
  have hk : c.config.FitsClock c.now → .brokeDown ∉ happened c.journal := by
    refine hr.keep (P := fun c => c.config.FitsClock c.now → .brokeDown ∉ happened c.journal) h
      (fun _ hm => nomatch hm) fun {e b _ d} hm _ hd ih hf => ?_
    have hb : b.config.FitsClock b.now := (hd.frame.1 ▸ hf).mono hd.frame.2.2
    rw [hd.adds]
    exact fun hb' => (List.mem_append.mp hb').elim (ih hb) (hd.unbroken (he e hm) hb)
  exact hk ((hr.run h).config_eq ▸ ht)

theorem survives_of_run {es : List Event} (hv : config.isValid = true)
    (h : (Client.initial config tokens).run es = some c) (he : ∀ e ∈ es, e.isCalm = true)
    (ht : config.FitsClock c.now) : c.Survives where
  unbroken := unbroken_of_run hv h he ht
  caused hs := by
    have hr : Reachable config tokens c := (Reachable.initial hv).run h
    rcases (onCourse_of_run hv h he ht).ended (by rw [hs]; rfl) with hf | ⟨-, hg⟩
    · obtain ⟨frame, hf⟩ := Option.ne_none_iff_exists'.mp hf
      rcases hr.recorded.source frame hf with hq | ⟨-, -, hd⟩
      · exact .inl (by rw [hq]; exact List.cons_ne_nil _ _)
      · exact .inr (.inl hd)
    · exact .inr (.inr (givesUp_eq_true hg))

/-- Until a moment workers survive all that is calm, exactly if the clock holds the timers that are set
at that moment. -/
theorem worker_survives (hv : config.isValid = true) (t : Instant) :
    (∀ (tokens : Nat → Option String) (es : List Event) (c : Client),
      (Client.initial config tokens).run es = some c → (∀ e ∈ es, e.isCalm = true) → c.now ≤ t →
        c.Survives) ↔ config.FitsClock t := by
  refine ⟨fun hall => by_contra fun ht => ?_, fun ht tokens es c hc he hle => ?_⟩
  · obtain ⟨es, c, hc, he, hn, hb, -⟩ := exists_broken_run hv ht
    exact (hall _ es c hc he (Nat.le_of_eq hn)).unbroken hb
  · exact survives_of_run hv hc he (ht.mono hle)

end Client

/-- Settings for one attempt only. -/
def Config.onlyOnce : Config :=
  { Config.loopback with reconnect := { Config.loopback.reconnect with maxAttempts := some 1 } }

lemma Config.onlyOnce_isValid : Config.onlyOnce.isValid = true := by decide +kernel

/-- Settings that pass the checks although the clock cannot hold their heartbeat. -/
def Config.unhurried : Config := { Config.loopback with heartbeat := .longest }

theorem Config.unhurried_isValid : Config.unhurried.isValid = true := by decide +kernel

namespace Client

/-- The only attempt fails. -/
def refusedRun : List Event := [.work 0, .work 0, .dialAnswer (.fault .closed), .work 0, .work 0]

theorem refused_worker_survives : ∃ c, (initial .onlyOnce fun _ => none).run refusedRun = some c ∧
    c.state = .closed ∧ closeRequests c.journal = [] ∧ c.handles = 1 ∧ c.Survives := by
  have hr : ((initial .onlyOnce fun _ => none).run refusedRun).map
      (fun c => (c.state, closeRequests c.journal, c.handles, c.now)) = some (.closed, [], 1, 0) := by
    decide +kernel
  obtain ⟨c, hc, hv⟩ := Option.map_eq_some_iff.mp hr
  simp only [Prod.mk.injEq] at hv
  obtain ⟨hs, hq, hh, hn⟩ := hv
  exact ⟨c, hc, hs, hq, hh, (worker_survives Config.onlyOnce_isValid 0).mpr
    (Config.fitsClock_iff.mpr (by decide)) _ refusedRun c hc (by decide) (Nat.le_of_eq hn)⟩

/-- With settings that the clock cannot hold, the first session breaks a worker down although all is
calm. -/
theorem unhurried_worker_breaks : ¬ ∀ (config : Config) (tokens : Nat → Option String)
    (es : List Event) (c : Client), config.isValid = true →
      (Client.initial config tokens).run es = some c → (∀ e ∈ es, e.isCalm = true) → c.Survives := by
  intro hall
  obtain ⟨c, hc, hf⟩ := run_toSession Config.unhurried_isValid 0
  obtain ⟨d, hd, -, hj⟩ := hf.late_heartbeat (by decide)
  have hb : .brokeDown ∈ happened d.journal := mem_view.mpr ⟨⟨0, .brokeDown⟩, by rw [hj]; simp, rfl⟩
  exact (hall .unhurried _ (toSession 0 ++ [.work 0, .work 0]) d Config.unhurried_isValid
    (run_of_append hc hd) (by decide)).unbroken hb

end Client

end MarketFeed
