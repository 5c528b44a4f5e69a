import Colloquy.Proofs.Error.Raised
import Colloquy.Proofs.Retry.Stop

/-!
# When retries overflow

With integers and floats the delay before a retry may lie beyond the range of floats: the
power of the multiplier is computed before it is cut off at the greatest delay.  Retries
then raise an exception of their own, and the failure that they should have given back is
lost (`overflow_hides_failure`).

They raise nothing else.  For a policy whose numbers are floats the power is the only
computation that can fail (`RetryRun.not_overflows_of_floating`).
-/

namespace Colloquy

/-- An exception for a number that lies beyond the range of floats. -/
def Exception.IsOverflow (e : Exception) : Prop :=
  e = Number.tooLarge ∨ e = Number.outOfRange

/-! ## Numbers -/

namespace Number

theorem floatOfInt_raises (i : Int) : Raises (· = tooLarge) (floatOfInt i) :=
  .ite (.error rfl) (.ok _)

theorem toFloat_raises (n : Number) : Raises (· = tooLarge) n.toFloat := by
  cases n with
  | int i => exact floatOfInt_raises i
  | float x => exact .ok x

/-- Numbers that are not both integers are rounded to floats first. -/
theorem rounded_raises (a b : Number) (f : Float → Float → Float) :
    Raises (· = tooLarge)
      (do return .float (f (← a.toFloat) (← b.toFloat)) : Except Exception Number) :=
  a.toFloat_raises.bind fun _ => b.toFloat_raises.bind fun _ => .pure _

theorem add_raises (a b : Number) : Raises (· = tooLarge) (add a b) := by
  cases a <;> cases b
  · exact .ok _
  all_goals exact rounded_raises _ _ (· + ·)

theorem sub_raises (a b : Number) : Raises (· = tooLarge) (sub a b) := by
  cases a <;> cases b
  · exact .ok _
  all_goals exact rounded_raises _ _ (· - ·)

theorem mul_raises (a b : Number) : Raises (· = tooLarge) (mul a b) := by
  cases a <;> cases b
  · exact .ok _
  all_goals exact rounded_raises _ _ (· * ·)

theorem pow_raises (a : Number) (n : Nat) : Raises Exception.IsOverflow (pow a n) := by
  cases a with
  | int i => exact .ok _
  | float x =>
    exact ((floatOfInt_raises n).mono fun _ => .inl).bind fun _ =>
      .ite (.error (.inr rfl)) (.pure _)

/-- A power of a float is a float. -/
theorem IsFloat.pow {a b : Number} {n : Nat} (ha : a.IsFloat) (h : a.pow n = .ok b) :
    b.IsFloat := by
  obtain ⟨x, rfl⟩ := ha
  obtain ⟨y, -, h⟩ := bind_eq_ok_iff.1 h
  dsimp only at h
  split at h
  · cases h
  · cases h
    exact ⟨_, rfl⟩

theorem IsFloat.least {a b : Number} (ha : a.IsFloat) (hb : b.IsFloat) :
    IsFloat (Quantity.least a b) := by
  unfold Quantity.least
  split
  · exact hb
  · exact ha

theorem IsFloat.greatest {a b : Number} (ha : a.IsFloat) (hb : b.IsFloat) :
    IsFloat (Quantity.greatest a b) := by
  unfold Quantity.greatest
  split
  · exact hb
  · exact ha

end Number

/-! ## Delays -/

namespace RetryPolicy

theorem backoffBase_raises (policy : RetryPolicy Number) (retry : Int) :
    Raises Exception.IsOverflow (policy.backoffBase retry) :=
  (Number.pow_raises _ _).bind fun _ =>
    ((Number.mul_raises _ _).mono fun _ => .inl).bind fun _ => .pure _

theorem backoff_raises (policy : RetryPolicy Number) (retry : Int) (random : Number) :
    Raises Exception.IsOverflow (policy.backoff retry random) :=
  (policy.backoffBase_raises retry).bind fun _ =>
    .ite (.pure _) (.ite (((Number.mul_raises _ _).mono fun _ => .inl).bind fun _ => .pure _)
      (.pure _))

/-- A policy all of whose numbers are floats. -/
structure Floating (policy : RetryPolicy Number) : Prop where
  initialDelay : policy.initialDelay.IsFloat
  multiplier : policy.multiplier.IsFloat
  maxDelay : policy.maxDelay.IsFloat
  maxElapsed : ∀ limit, policy.maxElapsed = some limit → limit.IsFloat

/-- With floats, the delay before a retry can be computed when the power of the multiplier can, and
it is a float. -/
theorem Floating.exists_backoff {policy : RetryPolicy Number} (h : policy.Floating) {k : Nat}
    {random : Number} (hrandom : random.IsFloat)
    (hpow : ∃ factor, policy.multiplier.pow k = .ok factor) :
    ∃ delay drawn, policy.backoff (k + 1 : Nat) random = .ok (delay, drawn) ∧ delay.IsFloat := by
  obtain ⟨factor, hfactor⟩ := hpow
  obtain ⟨y, rfl⟩ := h.multiplier.pow hfactor
  obtain ⟨x, hx⟩ := h.initialDelay
  obtain ⟨r, rfl⟩ := hrandom
  have hbase : policy.backoffBase (k + 1 : Nat)
      = .ok (Quantity.least policy.maxDelay (.float (x * y))) := by
    have hexponent : (((k + 1 : Nat) : Int) - 1).toNat = k := by omega
    have hpow : Quantity.pow policy.multiplier k = .ok (.float y) := hfactor
    rw [backoffBase, hexponent, hpow, hx]
    rfl
  obtain ⟨z, hz⟩ := h.maxDelay.least ⟨x * y, rfl⟩
  unfold backoff
  rw [hbase, hz, ok_bind]
  by_cases hnone : Quantity.atMost (.float z) (Quantity.zero : Number) = true
  · rw [if_pos hnone]
    exact ⟨_, _, rfl, _, rfl⟩
  · rw [if_neg hnone]
    cases policy.jitter
    · exact ⟨_, _, rfl, _, rfl⟩
    · exact ⟨_, _, rfl, _, rfl⟩

end RetryPolicy

/-- Surroundings all of whose numbers are floats, in which the delays that failures ask for can be
read. -/
structure Surroundings.Floating {β : Type} (env : Surroundings Number β) : Prop where
  duration : ∀ i, (env.attempt i).duration.IsFloat
  random : ∀ i, (env.random i).IsFloat
  exists_delay : ∀ i e, env.MayRetry (env.attempt i).result e →
    ∃ asked, env.delay? e = .ok asked ∧ ∀ seconds, asked = some seconds → seconds.IsFloat

/-- The power of the multiplier is part of every delay. -/
theorem RetryPolicy.exists_pow_of_backoff {policy : RetryPolicy Number} {k : Nat} {random : Number}
    {result : Number × Bool} (h : policy.backoff (k + 1 : Nat) random = .ok result) :
    ∃ factor, policy.multiplier.pow k = .ok factor := by
  obtain ⟨base, hbase, -⟩ := bind_eq_ok_iff.1 h
  obtain ⟨factor, hfactor, -⟩ := bind_eq_ok_iff.1 hbase
  have hexponent : (((k + 1 : Nat) : Int) - 1).toNat = k := by omega
  rw [hexponent] at hfactor
  exact ⟨factor, hfactor⟩

theorem retryDelay?_raises (e : Exception) : Raises Exception.IsOverflow (retryDelay? e) := by
  cases e with
  | foreign cls text => exact .ok none
  | own e =>
    unfold retryDelay?
    refine .ite ?_ (.ok none)
    cases Number.ofValue? e.retryAfter with
    | none => exact .ok none
    | some n =>
      exact .ite ((n.toFloat_raises.mono fun _ => .inl).bind fun _ => .pure _) (.ok none)

/-! ## Runs -/

namespace RetryRun

variable {β : Type} {policy : RetryPolicy Number} {env : Surroundings Number β} {left : Nat}
  {s : RetryState Number} {e : Exception}

/-- What a failing computation raises tells of a number beyond the range of floats, as far as the
delays that are asked for do. -/
theorem Overflows.isOverflow (hdelay : ∀ failure, Raises Exception.IsOverflow (env.delay? failure))
    (h : Overflows policy env left s e) : e.IsOverflow := by
  cases h with
  | clock h => exact .inl (Number.add_raises _ _ e h)
  | pause _ h =>
    rcases pause_eq_error h with h | h | ⟨limit, -, h⟩
    · exact hdelay _ e h
    · exact policy.backoff_raises _ _ e h
    · exact .inl (Number.sub_raises _ _ e h)
  | sleep _ _ _ h => exact .inl (Number.add_raises _ _ e h)

/-- With floats, what is left of a delay is a float. -/
theorem Limited.isFloat {limit? : Option Number} {clock delay rest : Number}
    (h : Limited limit? clock delay (some rest)) (hclock : clock.IsFloat) (hdelay : delay.IsFloat)
    (hlimit : ∀ limit, limit? = some limit → limit.IsFloat) : rest.IsFloat := by
  cases h with
  | unlimited _ => exact hdelay
  | within heq hremaining _ =>
    obtain ⟨x, rfl⟩ := hclock
    obtain ⟨y, rfl⟩ := hlimit _ heq
    cases hremaining
    exact hdelay.least ⟨y - x, rfl⟩

/-- With floats, a pause is a float. -/
theorem isFloat_of_pause (hpolicy : policy.Floating) (henv : env.Floating) {clock rest : Number}
    {failure : Exception} {draws : Nat} (back : ComesBack env s failure clock)
    (hclock : clock.IsFloat)
    (hpow : ∃ factor, policy.multiplier.pow s.attempts = .ok factor)
    (h : pause policy env failure (s.back clock) = .ok (some rest, draws)) : rest.IsFloat := by
  obtain ⟨asked, delay, drawn, hasked, hbackoff, hlimited⟩ := pause_eq_ok h
  obtain ⟨asked', hasked', hfloat⟩ := henv.exists_delay _ failure back.mayRetry
  obtain rfl : asked = asked' := Except.ok.inj (hasked.symm.trans hasked')
  obtain ⟨delay', drawn', hbackoff', hdelay⟩ := hpolicy.exists_backoff (henv.random s.draws) hpow
  obtain ⟨rfl, rfl⟩ : delay = delay' ∧ drawn = drawn' :=
    Prod.mk.inj (Except.ok.inj (hbackoff.symm.trans hbackoff'))
  refine hlimited.isFloat hclock ?_ hpolicy.maxElapsed
  cases asked with
  | none => exact hdelay
  | some seconds => exact hdelay.greatest (hfloat seconds rfl)

/-- With floats, only the power of the multiplier can overflow. -/
theorem not_overflows_of_floating (hpolicy : policy.Floating) (henv : env.Floating)
    (hclock : s.clock.IsFloat)
    (hpow : left ≠ 0 → ∃ factor, policy.multiplier.pow s.attempts = .ok factor) :
    ¬ Overflows policy env left s e := by
  obtain ⟨x, hx⟩ := hclock
  obtain ⟨d, hd⟩ := henv.duration s.attempts
  have hadd : Quantity.add s.clock (env.attempt s.attempts).duration = .ok (.float (x + d)) := by
    rw [hx, hd]
    rfl
  intro h
  cases h with
  | clock h =>
    rw [hadd] at h
    cases h
  | @pause _ _ failure _ clock back h =>
    obtain rfl : .float (x + d) = clock := Except.ok.inj (hadd.symm.trans back.clock_eq)
    obtain ⟨asked, hasked, -⟩ := henv.exists_delay _ failure back.mayRetry
    obtain ⟨delay, drawn, hbackoff, -⟩ :=
      hpolicy.exists_backoff (henv.random s.draws) (hpow (Nat.succ_ne_zero _))
    rcases pause_eq_error h with h | h | ⟨limit, hlimit, h⟩
    · cases hasked.symm.trans h
    · cases hbackoff.symm.trans h
    · obtain ⟨y, rfl⟩ := hpolicy.maxElapsed limit hlimit
      cases h
  | @sleep _ _ failure _ clock rest draws back hpause _ h =>
    obtain rfl : .float (x + d) = clock := Except.ok.inj (hadd.symm.trans back.clock_eq)
    obtain ⟨y, rfl⟩ :=
      isFloat_of_pause hpolicy henv back ⟨x + d, rfl⟩ (hpow (Nat.succ_ne_zero _)) hpause
    cases h

/-- A backend that is always busy. -/
def alwaysBusy : Surroundings Number β where
  attempt _ := ⟨.error (.own { cls := .rateLimit, message := "busy", retryable := .bool true }),
    .float 0.0⟩
  failure? _ := none
  accepts := shouldRetry
  delay? := retryDelay?
  random _ := .float 0.5

theorem alwaysBusy_floating : (alwaysBusy : Surroundings Number β).Floating := by
  refine ⟨fun _ => ⟨_, rfl⟩, fun _ => ⟨_, rfl⟩, ?_⟩
  rintro i e ⟨hfails, -⟩
  cases hfails with
  | raised _ => exact ⟨none, rfl, fun _ h => nomatch h⟩

/-- What a busy backend fails with is no overflow. -/
theorem alwaysBusy_result_ne {e : Exception} (h : e.IsOverflow) (i : Nat) :
    .error e ≠ ((alwaysBusy : Surroundings Number β).attempt i).result := by
  intro hbusy
  rcases h with rfl | rfl <;> cases hbusy

/-- Without a limit of time, a busy backend is tried as often as the policy allows, unless something
overflows before. -/
theorem exists_course_alwaysBusy (β : Type) {n : Nat} {positive : 0 < n}
    (hlimit : policy.maxAttempts = .count n positive) (hnone : policy.maxElapsed = none) :
    ∃ passes last, Course policy (alwaysBusy : Surroundings Number β) opening passes last ∧
      (retry policy (alwaysBusy : Surroundings Number β)).attempts = passes.length + 1 ∧
      (passes.length + 1 = n ∨ ∃ e, e.IsOverflow ∧
        (retry policy (alwaysBusy : Surroundings Number β)).ending = .error e) := by
  obtain ⟨passes, last, hcourse, hlength, ⟨e, hover⟩ | ⟨hstops, hretry⟩⟩ :=
    exists_course_retry (alwaysBusy : Surroundings Number β) hlimit
  · have hretry := hcourse.retry_of_overflows hlimit hlength hover
    rw [hretry]
    exact ⟨passes, last, hcourse, rfl, .inr ⟨e, hover.isOverflow retryDelay?_raises, rfl⟩⟩
  · refine ⟨passes, last, hcourse, by rw [hretry], .inl ?_⟩
    rcases hstops with hleft | hfailed | ⟨_, limit, _, _, hsome, _⟩
    · omega
    · exact absurd ⟨.raised rfl, rfl⟩ (hfailed _)
    · rw [hnone] at hsome
      cases hsome

end RetryRun

/-! ## Outcomes -/

open RetryRun

/-- Under a policy, retries give back what some attempt gave or raised, as long as all numbers are
floats. -/
def RetryPolicy.KeepsOutcome (β : Type) (policy : RetryPolicy Number) : Prop :=
  ∀ env : Surroundings Number β, env.Floating →
    ∃ i < (retry policy env).attempts, (retry policy env).ending = (env.attempt i).result

/-- A policy keeps outcomes when its numbers are floats and the powers of the multiplier can be
computed for all retries. -/
theorem RetryPolicy.Floating.keepsOutcome {β : Type} {policy : RetryPolicy Number} {n : Nat}
    {positive : 0 < n} (hpolicy : policy.Floating)
    (hlimit : policy.maxAttempts = .count n positive)
    (hpow : ∀ k, k + 1 < n → ∃ factor, policy.multiplier.pow k = .ok factor) :
    policy.KeepsOutcome β := by
  intro env henv
  obtain ⟨passes, last, hcourse, hlength, ⟨e, he⟩ | ⟨-, hretry⟩⟩ := exists_course_retry env hlimit
  · refine absurd he (not_overflows_of_floating hpolicy henv hcourse.clock_isFloat ?_)
    intro hleft
    rw [hcourse.attempts_opening]
    exact hpow passes.length (by omega)
  · rw [hretry]
    exact ⟨passes.length, Nat.lt_succ_self _, rfl⟩

/-- A policy without a limit of time that keeps outcomes lets all powers be computed, since a busy
backend asks for all of them. -/
theorem RetryPolicy.KeepsOutcome.exists_pow {β : Type} {policy : RetryPolicy Number} {n : Nat}
    {positive : 0 < n} (h : policy.KeepsOutcome β)
    (hlimit : policy.maxAttempts = .count n positive) (hnone : policy.maxElapsed = none) {k : Nat}
    (hk : k + 1 < n) : ∃ factor, policy.multiplier.pow k = .ok factor := by
  obtain ⟨passes, last, hcourse, -, hall | ⟨e, hover, hending⟩⟩ :=
    exists_course_alwaysBusy β hlimit hnone
  · have hlength : k < passes.length := by omega
    have htaken := hcourse.taken passes[k] (List.getElem_mem hlength)
    have hstart : passes[k].start.attempts = k :=
      hcourse.start_attempts_opening (List.getElem?_eq_getElem hlength)
    obtain ⟨delay, drawn, rest, -, hbackoff, -⟩ := htaken.exists_pause
    rw [hstart] at hbackoff
    exact RetryPolicy.exists_pow_of_backoff hbackoff
  · obtain ⟨i, -, hi⟩ := h alwaysBusy alwaysBusy_floating
    exact absurd (hending.symm.trans hi) (alwaysBusy_result_ne hover i)

/-- Retries give back the outcome of their last attempt, unless a computation overflows after it;
then they raise the overflow, and they raise nothing else of their own.  When the numbers of the
policy are floats, it is enough for an outcome that the powers of the multiplier can be computed for
all retries that the policy allows, and without a limit of time this is also necessary. -/
theorem retry_outcome_or_overflow {β : Type} (policy : RetryPolicy Number) {n : Nat}
    {positive : 0 < n} (hlimit : policy.maxAttempts = .count n positive) :
    (∀ env : Surroundings Number β, env.delay? = retryDelay? →
      ∃ passes last, RetryRun.Course policy env opening passes last ∧
        (retry policy env).attempts = passes.length + 1 ∧ passes.length + 1 ≤ n ∧
        ((∀ e, ¬ Overflows policy env (n - 1 - passes.length) last e) →
          (retry policy env).ending = (env.attempt passes.length).result) ∧
        ∀ e, Overflows policy env (n - 1 - passes.length) last e →
          (retry policy env).ending = .error e ∧ e.IsOverflow) ∧
    (policy.Floating →
      ((∀ k, k + 1 < n → ∃ factor, policy.multiplier.pow k = .ok factor) →
        policy.KeepsOutcome β) ∧
      (policy.maxElapsed = none → policy.KeepsOutcome β →
        ∀ k, k + 1 < n → ∃ factor, policy.multiplier.pow k = .ok factor)) := by
  refine ⟨?_, fun hpolicy =>
    ⟨hpolicy.keepsOutcome hlimit, fun hnone h _ hk => h.exists_pow hlimit hnone hk⟩⟩
  intro env hdelay
  obtain ⟨passes, last, hcourse, hlength, hend⟩ := exists_course_retry env hlimit
  have hover : ∀ e, Overflows policy env (n - 1 - passes.length) last e →
      retry policy env = ⟨.error e, passes.length + 1, passes.filterMap Pass.sleep⟩ :=
    fun e he => hcourse.retry_of_overflows hlimit hlength he
  refine ⟨passes, last, hcourse, ?_, hlength, ?_, ?_⟩
  · rcases hend with ⟨e, he⟩ | ⟨-, hretry⟩
    · rw [hover e he]
    · rw [hretry]
  · intro hnone
    rcases hend with ⟨e, he⟩ | ⟨-, hretry⟩
    · exact absurd he (hnone e)
    · rw [hretry]
  · intro e he
    rw [hover e he]
    exact ⟨rfl, he.isOverflow (hdelay ▸ retryDelay?_raises)⟩

/-- Three attempts at a busy backend, with pauses that can be computed. -/
theorem retry_outcome_or_overflow_alwaysBusy :
    let policy : RetryPolicy Number :=
      ⟨.count 3 (Nat.succ_pos 2), .float 0.5, .int 2, .float 5.0, false, none⟩
    let env : Surroundings Number Unit := alwaysBusy
    ∃ passes last, RetryRun.Course policy env opening passes last ∧ passes.length = 2 ∧
      (retry policy env).ending = (env.attempt 2).result := by
  intro policy env
  obtain ⟨passes, last, hcourse, hattempts, -, hending, -⟩ :=
    (retry_outcome_or_overflow policy rfl).1 env rfl
  have hthree : (retry policy env).attempts = 3 := by decide +kernel
  have hlength : passes.length = 2 := by omega
  rw [hlength] at hending
  refine ⟨passes, last, hcourse, hlength, hending ?_⟩
  -- no attempt is left after the third one, so only the clock could overflow
  intro e h
  have hlast : Overflows policy env 0 last e := h
  obtain ⟨x, hclock⟩ := hcourse.clock_isFloat
  cases hlast with
  | clock h =>
    rw [hclock] at h
    cases h

/-- A policy that is accepted, and under which the delay before the third retry overflows.  A fourth
attempt is allowed and its failure should be given back, but retries raise an exception that comes
from none of the three attempts they made. -/
theorem overflow_hides_failure :
    let offer : RetryPolicy.Offer :=
      { maxAttempts := .int 4, multiplier := .int (Int.pow 10 200), jitter := .bool false,
        maxElapsed := .null }
    let env : Surroundings Number Unit := alwaysBusy
    ∃ policy, RetryPolicy.make? offer = .ok policy ∧ (retry policy env).attempts = 3 ∧
      (∃ e, e.IsOverflow ∧ (retry policy env).ending = .error e) ∧
      ∀ i, (retry policy env).ending ≠ (env.attempt i).result := by
  intro offer env
  let policy : RetryPolicy Number :=
    ⟨.count 4 (Nat.succ_pos 3), .float 0.5, .int (Int.pow 10 200), .float 5.0, false, none⟩
  have hlimit : policy.maxAttempts = .count 4 (Nat.succ_pos 3) := rfl
  have hthree : (retry policy env).attempts = 3 := by decide +kernel
  obtain ⟨passes, last, -, hattempts, hall | ⟨e, hover, hending⟩⟩ :=
    exists_course_alwaysBusy Unit hlimit rfl
  · have hlength : passes.length + 1 = 3 := hattempts.symm.trans hthree
    omega
  · exact ⟨policy, rfl, hthree, ⟨e, hover, hending⟩,
      fun i hi => alwaysBusy_result_ne hover i (hending.symm.trans hi)⟩

end Colloquy
