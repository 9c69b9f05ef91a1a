import MarketFeed.Proofs.Delays

/-!
How far delays go. However often a backoff is asked for a delay and set back, and whatever chance adds, its
base delays start with the initial one and stay up to the greatest, and no delay is longer than its base
delay by more than jitter may add. Chance and jitter have no part in what the base delays are.
-/

namespace MarketFeed

lemma Duration.le_ofNanos {d : Duration} {n : Nat} (h : d.nanos ≤ n) : d.nanos ≤ (ofNanos n).nanos := by
  have hd := d.bounded
  unfold ofNanos
  split
  · exact h
  · have hl : longest.nanos = 1 <<< 64 * 1000000000 - 1 := rfl
    omega

/-- The same policy with jitter, or without. -/
def BackoffPolicy.withJitter (jitter : Bool) : BackoffPolicy → BackoffPolicy
  | .fixed d => .fixed d
  | .exponential initial greatest multiplier _ => .exponential initial greatest multiplier jitter

namespace Backoff

/-- What a backoff is asked to do. -/
inductive Ask where
  | next
  | reset
deriving DecidableEq, Repr

/-- A delay and the base delay that it comes from. -/
structure Given where
  base : Duration
  delay : Duration
deriving DecidableEq, Repr

/-- The delays that a backoff gives when chance adds to each what it does. -/
def given : Backoff → List Ask → (chance : Nat → Nat) → List Given
  | _, [], _ => []
  | b, .next :: asks, chance =>
    let (delay, b') := b.next (chance 0)
    ⟨b.base, delay⟩ :: given b' asks fun n => chance (n + 1)
  | b, .reset :: asks, chance => given b.reset asks fun n => chance (n + 1)

def bases (b : Backoff) (asks : List Ask) (chance : Nat → Nat) : List Duration :=
  (b.given asks chance).map (·.base)

namespace Ask

/-- How often delays were asked for since the last reset, or in all and so many times before. -/
def sinceReset : Nat → List Ask → Nat
  | n, [] => n
  | n, .next :: asks => sinceReset (n + 1) asks
  | _, .reset :: asks => sinceReset 0 asks

/-- The same count whenever a delay is asked for. -/
def counts : Nat → List Ask → List Nat
  | _, [] => []
  | n, .next :: asks => n :: counts (n + 1) asks
  | _, .reset :: asks => counts 0 asks

lemma counts_append (n : Nat) (before after : List Ask) :
    counts n (before ++ after) = counts n before ++ counts (sinceReset n before) after := by
  induction before generalizing n with
  | nil => rfl
  | cons a before ih =>
    cases a with
    | next => exact congrArg (n :: ·) (ih (n + 1))
    | reset => exact ih 0

lemma length_counts (n : Nat) (asks : List Ask) : (counts n asks).length = asks.count .next := by
  induction asks generalizing n with
  | nil => rfl
  | cons a asks ih =>
    cases a with
    | next => rw [counts, List.length_cons, ih, List.count_cons_self]
    | reset => rw [counts, ih, List.count_cons_of_ne (by decide)]

lemma sinceReset_concat_reset (n : Nat) (asks : List Ask) : sinceReset n (asks ++ [.reset]) = 0 := by
  induction asks generalizing n with
  | nil => rfl
  | cons a asks ih => cases a <;> exact ih _

/-- The count when a delay is asked for. -/
theorem counts_getElem? (before after : List Ask) :
    (counts 0 (before ++ .next :: after))[before.count .next]? = some (sinceReset 0 before) := by
  rw [counts_append, List.getElem?_append_right (Nat.le_of_eq (length_counts 0 before)), length_counts,
    Nat.sub_self, counts, List.getElem?_cons_zero]

end Ask

variable {b : Backoff} {p : BackoffPolicy}

/-- Base delays have grown as often as delays were asked for since the last reset. -/
theorem bases_eq {n : Nat} (h : b.current = b.policy.base n) (asks : List Ask) (chance : Nat → Nat) :
    b.bases asks chance = (Ask.counts n asks).map b.policy.base := by
  induction asks generalizing b n chance with
  | nil => rfl
  | cons a asks ih =>
    cases a with
    | next =>
      have hgrown : b.advance.current = b.advance.policy.base (n + 1) := congrArg b.policy.grow h
      exact List.cons_eq_cons.mpr ⟨base_eq h, ih hgrown _⟩
    | reset => exact ih (b := b.reset) rfl _

/-- Every delay follows from its base delay. -/
theorem allows_of_given (asks : List Ask) (chance : Nat → Nat) :
    ∀ x ∈ b.given asks chance, b.policy.Allows x.base x.delay := by
  induction asks generalizing b chance with
  | nil => exact fun x hx => nomatch hx
  | cons a asks ih =>
    cases a with
    | next => exact List.forall_mem_cons.mpr ⟨b.allows_delay (chance 0), ih (b := b.advance) _⟩
    | reset => exact ih (b := b.reset) _

end Backoff

namespace BackoffPolicy

variable {p : BackoffPolicy}

@[simp] lemma withJitter_base (p : BackoffPolicy) (jitter : Bool) (n : Nat) :
    (p.withJitter jitter).base n = p.base n := by
  cases p with
  | fixed d => rfl
  | exponential initial greatest multiplier j =>
    induction n with
    | zero => rfl
    | succ n ih =>
      rw [base, ih]
      rfl

/-- No growth leads beyond the greatest delay, also where the product is no length of time. -/
theorem grow_le (initial greatest : Duration) (multiplier : Double) (jitter : Bool) (d : Duration) :
    ((exponential initial greatest multiplier jitter).grow d).nanos ≤ greatest.nanos := by
  unfold grow
  dsimp only
  split
  · exact Duration.shorter_le_right _ _
  · exact Nat.le_refl _

lemma initial_le_of_fault? {initial greatest : Duration} {multiplier : Double} {jitter : Bool}
    (h : (exponential initial greatest multiplier jitter).fault? = none) :
    initial.nanos ≤ greatest.nanos := by
  simp only [fault?] at h
  split at h
  · cases h
  · split at h
    · cases h
    · rename_i he
      simpa [Duration.exceeds] using he

theorem base_le {initial greatest : Duration} {multiplier : Double} {jitter : Bool}
    (h : (exponential initial greatest multiplier jitter).fault? = none) (n : Nat) :
    ((exponential initial greatest multiplier jitter).base n).nanos ≤ greatest.nanos := by
  cases n with
  | zero => exact initial_le_of_fault? h
  | succ n => exact grow_le ..

/-- What the delays of a policy keep to. -/
structure KeepsBounds (p : BackoffPolicy) (asks : List Backoff.Ask) (chance : Nat → Nat) : Prop where
  /-- The first delay of all and the first after a reset come from the initial one. -/
  first : ∀ before after, asks = before ++ .next :: after →
    before = [] ∨ before.getLast? = some .reset →
      ((Backoff.ofPolicy p).bases asks chance)[before.count .next]? = some p.initial
  capped : ∀ initial greatest multiplier jitter, p = .exponential initial greatest multiplier jitter →
    ∀ base ∈ (Backoff.ofPolicy p).bases asks chance, base.nanos ≤ greatest.nanos
  /-- Jitter adds up to half of the whole milliseconds of the base delay. -/
  jittered : ∀ initial greatest multiplier, p = .exponential initial greatest multiplier true →
    ∀ x ∈ (Backoff.ofPolicy p).given asks chance, x.base.nanos ≤ x.delay.nanos ∧
      x.delay.nanos ≤ (x.base.addMillis (x.base.millis / 2)).nanos ∧
      x.delay.nanos ≤ greatest.nanos + greatest.nanos / 2
  plain : ∀ initial greatest multiplier, p = .exponential initial greatest multiplier false →
    ∀ x ∈ (Backoff.ofPolicy p).given asks chance, x.delay = x.base
  /-- Base delays are the same whatever chance does, with jitter and without. -/
  steady : ∀ jitter otherwise, (Backoff.ofPolicy (p.withJitter jitter)).bases asks otherwise =
    (Backoff.ofPolicy p).bases asks chance
  fixed : ∀ d, p = .fixed d → ∀ x ∈ (Backoff.ofPolicy p).given asks chance, x.delay = d

end BackoffPolicy

open BackoffPolicy Backoff in
/-- However a backoff with a policy that was accepted is used, its delays keep to their bounds. -/
theorem Config.delays_bounded {c : Config} (h : c.isValid = true) (asks : List Backoff.Ask)
    (chance : Nat → Nat) : c.reconnect.backoff.KeepsBounds asks chance := by
  have hv := backoff_of_isValid h
  generalize c.reconnect.backoff = p at hv
  have hbases (q : BackoffPolicy) (otherwise : Nat → Nat) :
      (ofPolicy q).bases asks otherwise = (Ask.counts 0 asks).map q.base := bases_eq rfl asks otherwise
  have hallows : ∀ x ∈ (ofPolicy p).given asks chance, p.Allows x.base x.delay :=
    allows_of_given (b := ofPolicy p) asks chance
  have hcapped (initial greatest multiplier jitter)
      (hp : p = .exponential initial greatest multiplier jitter) :
      ∀ base ∈ (ofPolicy p).bases asks chance, base.nanos ≤ greatest.nanos := by
    intro base hb
    rw [hbases] at hb
    obtain ⟨n, -, rfl⟩ := List.mem_map.mp hb
    subst hp
    exact base_le hv n
  exact {
    first := by
      intro before after hasks hreset
      have hzero : Ask.sinceReset 0 before = 0 := by
        rcases hreset with rfl | hlast
        · rfl
        · obtain ⟨earlier, rfl⟩ := List.getLast?_eq_some_iff.mp hlast
          exact Ask.sinceReset_concat_reset 0 earlier
      rw [hbases, hasks, List.getElem?_map, Ask.counts_getElem?, hzero]
      rfl
    capped := hcapped
    jittered := by
      intro initial greatest multiplier hp x hx
      have hle : x.base.nanos ≤ greatest.nanos :=
        hcapped _ _ _ _ hp _ (List.mem_map_of_mem hx)
      have hbounds := hallows x hx
      rw [hp] at hbounds
      obtain ⟨hlow, hhigh⟩ := hbounds
      refine ⟨hlow, Duration.le_ofNanos hhigh, Nat.le_trans hhigh ?_⟩
      rw [Duration.millis]
      omega
    plain := by
      intro initial greatest multiplier hp x hx
      have hbounds := hallows x hx
      rw [hp] at hbounds
      exact hbounds
    steady := by
      intro jitter otherwise
      rw [hbases, hbases]
      exact List.map_congr_left fun n _ => withJitter_base p jitter n
    fixed := by
      intro d hp x hx
      have hbase : x.base ∈ (ofPolicy p).bases asks chance := List.mem_map_of_mem hx
      have hbounds := hallows x hx
      rw [hbases] at hbase
      obtain ⟨n, -, hn⟩ := List.mem_map.mp hbase
      rw [hp] at hbounds hn
      exact hbounds.trans (hn.symm.trans (base_fixed d n)) }

/-- Settings whose delays grow beyond every length of time, up to the longest there is. -/
def Config.boundless : Config :=
  { Config.loopback with reconnect := { Config.loopback.reconnect with
      backoff := .exponential (.ofSeconds 1) .longest (.finite false (1 <<< 53 - 1) 971) true } }

theorem Config.boundless_delays_bounded : Config.boundless.isValid = true ∧
    ((Backoff.ofPolicy Config.boundless.reconnect.backoff).given [.next, .next, .reset, .next]
      fun _ => 300) = [⟨.ofSeconds 1, .ofMillis 1300⟩, ⟨.longest, .longest⟩,
        ⟨.ofSeconds 1, .ofMillis 1300⟩] ∧
    Config.boundless.reconnect.backoff.KeepsBounds [.next, .next, .reset, .next] fun _ => 300 := by
  have hv : Config.boundless.isValid = true := by decide +kernel
  exact ⟨hv, by decide +kernel, Config.delays_bounded hv _ _⟩

end MarketFeed
