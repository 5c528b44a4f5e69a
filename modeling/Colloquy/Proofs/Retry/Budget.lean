import Colloquy.Proofs.Retry.Course
import Mathlib.Algebra.BigOperators.Group.List.Basic
import Mathlib.Algebra.Order.Field.Rat
import Mathlib.Order.Interval.Set.Defs
import Mathlib.Tactic.Linarith

/-!
# The time that retries may take

With fractions as numbers nothing is rounded and nothing overflows, so bounds on times
and pauses can be said exactly.  One pass keeps them: a pause never leads past the limit
of time, it is no longer than the greatest delay or the delay that was asked for, and it
lasts as long as was asked for unless the time is up before (`RetryRun.Pass.Taken.within`,
`RetryRun.Pass.Taken.sleep_le`, `RetryRun.Pass.Taken.le_sleep`).

The sum of the pauses is bounded by the clock, which attempts only move forward
(`RetryRun.Course.sum_sleeps_le`).
-/

namespace Colloquy

/-- Fractions are computed with exactly. -/
instance : Quantity ℚ where
  zero := 0
  below a b := decide (a < b)
  atMost a b := decide (a ≤ b)
  add a b := .ok (a + b)
  sub a b := .ok (a - b)
  mul a b := .ok (a * b)
  pow a n := .ok (a ^ n)

namespace Quantity

@[simp] theorem zero_fraction : (zero : ℚ) = 0 :=
  rfl

@[simp] theorem below_iff {a b : ℚ} : below a b = true ↔ a < b :=
  decide_eq_true_iff

@[simp] theorem atMost_iff {a b : ℚ} : atMost a b = true ↔ a ≤ b :=
  decide_eq_true_iff

@[simp] theorem below_eq_false {a b : ℚ} : below a b = false ↔ b ≤ a := by
  rw [← Bool.not_eq_true, below_iff, not_lt]

@[simp] theorem atMost_eq_false {a b : ℚ} : atMost a b = false ↔ b < a := by
  rw [← Bool.not_eq_true, atMost_iff, not_le]

theorem least_eq_min (a b : ℚ) : least a b = min a b := by
  unfold least
  by_cases h : b < a
  · rw [if_pos (below_iff.2 h), min_eq_right h.le]
  · rw [if_neg (mt below_iff.1 h), min_eq_left (not_lt.1 h)]

theorem greatest_eq_max (a b : ℚ) : greatest a b = max a b := by
  unfold greatest
  by_cases h : a < b
  · rw [if_pos (below_iff.2 h), max_eq_right h.le]
  · rw [if_neg (mt below_iff.1 h), max_eq_left (not_lt.1 h)]

end Quantity

/-- A policy whose numbers are as they have to be. -/
structure RetryPolicy.Valid (policy : RetryPolicy ℚ) : Prop where
  initialDelay_nonneg : 0 ≤ policy.initialDelay
  multiplier_pos : 0 < policy.multiplier
  maxDelay_nonneg : 0 ≤ policy.maxDelay
  maxElapsed_nonneg : ∀ limit ∈ policy.maxElapsed, 0 ≤ limit

/-- Surroundings in which time moves forward: attempts take some time, the numbers that are drawn
are between zero and one, and whatever an exception asks for can be read.  It is not negative: who
gives a negative delay does not ask for one (`retryDelay?`). -/
structure Surroundings.Forward {β : Type} (env : Surroundings ℚ β) : Prop where
  duration_nonneg : ∀ i, 0 ≤ (env.attempt i).duration
  random_mem : ∀ i, env.random i ∈ Set.Ico 0 1
  exists_delay : ∀ e, ∃ asked, env.delay? e = .ok asked ∧ ∀ seconds ∈ asked, 0 ≤ seconds

/-! ## Pauses -/

namespace RetryPolicy

variable {policy : RetryPolicy ℚ}

theorem backoffBase_eq (policy : RetryPolicy ℚ) (retry : Int) :
    policy.backoffBase retry = .ok (min policy.maxDelay
      (policy.initialDelay * policy.multiplier ^ (retry - 1).toNat)) := by
  rw [← Quantity.least_eq_min]
  rfl

theorem backoff_eq (policy : RetryPolicy ℚ) (retry : Int) (random : ℚ) :
    policy.backoff retry random = .ok (
      let base := min policy.maxDelay
        (policy.initialDelay * policy.multiplier ^ (retry - 1).toNat)
      if base ≤ 0 then (0, false)
      else if policy.jitter then (random * base, true) else (base, false)) := by
  unfold backoff
  rw [backoffBase_eq, ok_bind]
  simp only [Quantity.zero_fraction, Quantity.atMost_iff]
  split_ifs <;> rfl

/-- The delay by the policy lies between nothing and the greatest delay. -/
theorem backoff_mem (hpolicy : policy.Valid) {retry : Int} {random delay : ℚ} {drawn : Bool}
    (hrandom : random ∈ Set.Ico (0 : ℚ) 1)
    (h : policy.backoff retry random = .ok (delay, drawn)) :
    delay ∈ Set.Icc 0 policy.maxDelay := by
  have hmax := hpolicy.maxDelay_nonneg
  rw [backoff_eq] at h
  generalize hbase :
    min policy.maxDelay (policy.initialDelay * policy.multiplier ^ (retry - 1).toNat) = base at h
  have hle : base ≤ policy.maxDelay := hbase ▸ min_le_left _ _
  dsimp only at h
  split_ifs at h with hnone hjitter
  · cases h
    exact ⟨le_refl 0, hmax⟩
  · cases h
    obtain ⟨hlow, hhigh⟩ := hrandom
    have hpositive : 0 ≤ base := (not_le.1 hnone).le
    refine ⟨mul_nonneg hlow hpositive, ?_⟩
    calc random * base ≤ 1 * base := mul_le_mul_of_nonneg_right hhigh.le hpositive
      _ = base := one_mul base
      _ ≤ policy.maxDelay := hle
  · cases h
    exact ⟨(not_le.1 hnone).le, hle⟩

end RetryPolicy

namespace RetryRun

variable {β : Type} {policy : RetryPolicy ℚ} {env : Surroundings ℚ β}

/-- The longer one of two delays is bounded by the greatest delay and by what was asked for. -/
theorem longest_bounds {delay : ℚ} (hdelay : delay ∈ Set.Icc 0 policy.maxDelay)
    (asked : Option ℚ) :
    longest delay asked ≤ max policy.maxDelay (asked.getD 0) ∧
      ∀ seconds ∈ asked, seconds ≤ longest delay asked := by
  obtain ⟨-, hmax⟩ := hdelay
  cases asked with
  | none => exact ⟨hmax.trans (le_max_left _ _), fun seconds h => nomatch h⟩
  | some seconds =>
    rw [longest, Quantity.greatest_eq_max]
    refine ⟨max_le_max_right seconds hmax, ?_⟩
    rintro _ ⟨⟩
    exact le_max_right delay seconds

/-- With fractions, what is left of a delay is the delay itself or the time that remains. -/
theorem limited_iff {limit? : Option ℚ} {clock delay rest : ℚ} :
    Limited limit? clock delay (some rest) ↔
      match limit? with
      | none => rest = delay
      | some limit => clock < limit ∧ rest = min delay (limit - clock) := by
  constructor
  · intro h
    cases h with
    | unlimited hlimit =>
      subst hlimit
      exact rfl
    | within hlimit hremaining hsome =>
      subst hlimit
      cases hremaining
      exact ⟨sub_pos.1 (Quantity.atMost_eq_false.1 hsome), Quantity.least_eq_min _ _⟩
  · cases limit? with
    | none =>
      rintro rfl
      exact .unlimited rfl
    | some limit =>
      rintro ⟨hclock, rfl⟩
      rw [← Quantity.least_eq_min]
      exact .within rfl rfl (Quantity.atMost_eq_false.2 (sub_pos.2 hclock))

/-! ## Passes -/

namespace Pass.Taken

variable {p : Pass ℚ}

/-- The pause of a pass, with the bounds on the delay that it comes from. -/
theorem exists_fraction (h : p.Taken policy env) (hpolicy : policy.Valid) (henv : env.Forward) :
    ∃ delay rest, delay ≤ max policy.maxDelay (p.asked.getD 0) ∧
      (∀ seconds ∈ p.asked, seconds ≤ delay) ∧
      (match policy.maxElapsed with
        | none => rest = delay
        | some limit => p.clock < limit ∧ rest = min delay (limit - p.clock)) ∧
      (0 < rest ∧ p.sleep = some rest ∧ p.next.clock = p.clock + rest ∨
        rest ≤ 0 ∧ p.sleep = none ∧ p.next.clock = p.clock) := by
  obtain ⟨delay, drawn, rest, -, hbackoff, hlimited, hrest⟩ := h.exists_pause
  have hdelay := RetryPolicy.backoff_mem hpolicy (henv.random_mem p.start.draws) hbackoff
  obtain ⟨hle, hasked⟩ := longest_bounds hdelay p.asked
  refine ⟨longest delay p.asked, rest, hle, hasked, limited_iff.1 hlimited, ?_⟩
  rcases hrest with ⟨hpositive, hsleep, hnext⟩ | ⟨hnone, hsleep, hnext⟩
  · exact .inl ⟨Quantity.below_iff.1 hpositive, hsleep, (Except.ok.inj hnext).symm⟩
  · exact .inr ⟨Quantity.below_eq_false.1 hnone, hsleep, hnext⟩

/-- After a pass the limit of time is not passed. -/
theorem within (h : p.Taken policy env) (hpolicy : policy.Valid) (henv : env.Forward) {limit : ℚ}
    (hlimit : policy.maxElapsed = some limit) : p.next.clock ≤ limit := by
  obtain ⟨delay, rest, -, -, hlimited, hrest⟩ := h.exists_fraction hpolicy henv
  rw [hlimit] at hlimited
  obtain ⟨hclock, rfl⟩ := hlimited
  have hremaining := min_le_right delay (limit - p.clock)
  rcases hrest with ⟨-, -, hnext⟩ | ⟨-, -, hnext⟩ <;> linarith

/-- A pause is longer than nothing, and no longer than the greatest delay or the delay that was
asked for. -/
theorem sleep_le (h : p.Taken policy env) (hpolicy : policy.Valid) (henv : env.Forward) {rest : ℚ}
    (hsleep : p.sleep = some rest) : 0 < rest ∧ rest ≤ max policy.maxDelay (p.asked.getD 0) := by
  obtain ⟨delay, rest', hle, -, hlimited, hrest⟩ := h.exists_fraction hpolicy henv
  rcases hrest with ⟨hpositive, hslept, -⟩ | ⟨-, hnone, -⟩
  · obtain rfl : rest = rest' := Option.some.inj (hsleep.symm.trans hslept)
    refine ⟨hpositive, le_trans ?_ hle⟩
    cases hlimit : policy.maxElapsed with
    | none =>
      rw [hlimit] at hlimited
      exact hlimited.le
    | some limit =>
      rw [hlimit] at hlimited
      exact hlimited.2.trans_le (min_le_left _ _)
  · rw [hnone] at hsleep
    cases hsleep

/-- A pause lasts as long as was asked for, unless the time is up before.  Where there is none,
nothing was asked for. -/
theorem le_sleep (h : p.Taken policy env) (hpolicy : policy.Valid) (henv : env.Forward)
    {seconds : ℚ} (hasked : p.asked = some seconds) :
    match policy.maxElapsed with
    | none => seconds ≤ p.sleep.getD 0
    | some limit => min seconds (limit - p.clock) ≤ p.sleep.getD 0 := by
  obtain ⟨delay, rest, -, hseconds, hlimited, hrest⟩ := h.exists_fraction hpolicy henv
  have hdelay := hseconds seconds hasked
  have hslept : rest ≤ p.sleep.getD 0 := by
    rcases hrest with ⟨-, hsleep, -⟩ | ⟨hnone, hsleep, -⟩ <;> rw [hsleep]
    · exact le_refl rest
    · exact hnone
  cases hlimit : policy.maxElapsed with
  | none =>
    rw [hlimit] at hlimited
    obtain rfl := hlimited
    exact hdelay.trans hslept
  | some limit =>
    rw [hlimit] at hlimited
    obtain ⟨-, rfl⟩ := hlimited
    exact (min_le_min_right _ hdelay).trans hslept

end Pass.Taken

/-! ## Runs -/

/-- The pauses of a run take no longer than the clock shows. -/
theorem Course.sum_sleeps_le {passes : List (Pass ℚ)} {last : RetryState ℚ}
    (h : Course policy env opening passes last) (hpolicy : policy.Valid) (henv : env.Forward) :
    (passes.filterMap Pass.sleep).sum ≤ last.clock := by
  rw [← h.sleeps_opening]
  refine h.invariant (I := fun s => s.sleeps.sum ≤ s.clock) ?_ (le_refl (0 : ℚ))
  intro p taken hstart
  have hclock : p.start.clock ≤ p.clock := by
    rw [← Except.ok.inj taken.comesBack.clock_eq]
    exact le_add_of_nonneg_right (henv.duration_nonneg _)
  obtain ⟨delay, rest, -, -, -, hrest⟩ := taken.exists_fraction hpolicy henv
  rw [taken.next_sleeps, List.sum_append]
  rcases hrest with ⟨-, hsleep, hnext⟩ | ⟨-, hsleep, hnext⟩ <;>
  · rw [hsleep, hnext]
    simp only [Option.toList, List.sum_cons, List.sum_nil]
    linarith

/-- With fractions, nothing overflows. -/
theorem not_overflows (policy : RetryPolicy ℚ) {env : Surroundings ℚ β}
    (henv : ∀ e, ∃ asked, env.delay? e = .ok asked) (left : Nat) (s : RetryState ℚ)
    (e : Exception) : ¬ Overflows policy env left s e := by
  intro h
  cases h with
  | clock h => cases h
  | @pause _ _ failure _ _ _ h =>
    obtain ⟨asked, hasked⟩ := henv failure
    rcases pause_eq_error h with h | h | ⟨limit, -, h⟩
    · rw [hasked] at h
      cases h
    · rw [RetryPolicy.backoff_eq] at h
      cases h
    · cases h
  | sleep _ _ _ h => cases h

end RetryRun

open RetryRun

/-- Retries keep to the time that they are given.  With a limit of time, every attempt after the
first starts before the limit is passed, so the pauses take no longer in all.  Every pause is longer
than nothing, and at most as long as the greatest delay or as the failure before it asked for.
After a failure that asked for a delay, the loop pauses as long as that, or until the time is up. -/
theorem retry_within_time {β : Type} (policy : RetryPolicy ℚ) (hpolicy : policy.Valid)
    (env : Surroundings ℚ β) (henv : env.Forward) {n : Nat} {positive : 0 < n}
    (hlimit : policy.maxAttempts = .count n positive) :
    ∃ passes last, RetryRun.Course policy env opening passes last ∧
      retry policy env = ⟨(env.attempt passes.length).result, passes.length + 1,
        passes.filterMap Pass.sleep⟩ ∧
      (∀ limit, policy.maxElapsed = some limit →
        (∀ p ∈ passes, p.next.clock ≤ limit) ∧ (retry policy env).sleeps.sum ≤ limit) ∧
      (∀ p ∈ passes, ∀ rest, p.sleep = some rest →
        0 < rest ∧ rest ≤ max policy.maxDelay (p.asked.getD 0)) ∧
      ∀ p ∈ passes, ∀ seconds, p.asked = some seconds →
        match policy.maxElapsed with
        | none => seconds ≤ p.sleep.getD 0
        | some limit => min seconds (limit - p.clock) ≤ p.sleep.getD 0 := by
  obtain ⟨passes, last, hcourse, -, ⟨e, hover⟩ | ⟨-, hretry⟩⟩ := exists_course_retry env hlimit
  · have hdelay : ∀ e, ∃ asked, env.delay? e = .ok asked := fun e =>
      (henv.exists_delay e).imp fun _ h => h.1
    exact absurd hover (not_overflows policy hdelay _ _ _)
  have htaken := hcourse.taken
  refine ⟨passes, last, hcourse, hretry, ?_, ?_, ?_⟩
  · intro limit hbudget
    have hnext : ∀ p ∈ passes, p.next.clock ≤ limit := fun p hp =>
      (htaken p hp).within hpolicy henv hbudget
    refine ⟨hnext, ?_⟩
    rw [hretry]
    rcases hcourse.last_cases with ⟨rfl, -⟩ | ⟨p, hp, rfl⟩
    · exact hpolicy.maxElapsed_nonneg limit hbudget
    · exact (hcourse.sum_sleeps_le hpolicy henv).trans (hnext p hp)
  · exact fun p hp rest => (htaken p hp).sleep_le hpolicy henv
  · exact fun p hp seconds => (htaken p hp).le_sleep hpolicy henv

/-- A backend that is busy for two attempts, of which the second one takes long, and asks for a
delay of two and a half seconds each time. -/
def busyTwice : Surroundings ℚ Unit where
  attempt
    | 0 => ⟨.error (.own { cls := .rateLimit, message := "busy" }), 1⟩
    | 1 => ⟨.error (.own { cls := .rateLimit, message := "busy" }), 26⟩
    | _ => ⟨.ok (), 1⟩
  failure? _ := none
  accepts _ := true
  delay? _ := .ok (some (5 / 2))
  random _ := 1 / 2

/-- Half a second is left when the backend is busy for the second time, so the second pause is cut
off and the last attempt starts at the limit. -/
theorem retry_within_time_busyTwice :
    let policy : RetryPolicy ℚ := ⟨.count 4 (Nat.succ_pos 3), 1 / 2, 2, 5, true, some 30⟩
    policy.Valid ∧ busyTwice.Forward ∧ (retry policy busyTwice).sleeps = [5 / 2, 1 / 2] ∧
    ∃ passes last, RetryRun.Course policy busyTwice opening passes last ∧
      retry policy busyTwice = ⟨(busyTwice.attempt passes.length).result, passes.length + 1,
        passes.filterMap Pass.sleep⟩ ∧
      (retry policy busyTwice).sleeps.sum ≤ 30 ∧ ∀ p ∈ passes, p.next.clock ≤ 30 := by
  intro policy
  have hpolicy : policy.Valid :=
    ⟨by decide +kernel, by decide +kernel, by decide +kernel, by rintro _ ⟨⟩; decide +kernel⟩
  have hduration : ∀ i, 0 ≤ (busyTwice.attempt i).duration := by
    intro i
    match i with
    | 0 => show (0 : ℚ) ≤ 1; decide +kernel
    | 1 => show (0 : ℚ) ≤ 26; decide +kernel
    | _ + 2 => show (0 : ℚ) ≤ 1; decide +kernel
  have hrandom : (1 / 2 : ℚ) ∈ Set.Ico 0 1 := ⟨by decide +kernel, by decide +kernel⟩
  have henv : busyTwice.Forward := by
    refine ⟨hduration, fun _ => hrandom, fun _ => ⟨_, rfl, ?_⟩⟩
    rintro _ ⟨⟩
    decide +kernel
  refine ⟨hpolicy, henv, by decide +kernel, ?_⟩
  obtain ⟨passes, last, hcourse, hretry, htime, -⟩ :=
    retry_within_time policy hpolicy busyTwice henv rfl
  obtain ⟨hnext, hsum⟩ := htime 30 rfl
  exact ⟨passes, last, hcourse, hretry, hsum, hnext⟩

end Colloquy
