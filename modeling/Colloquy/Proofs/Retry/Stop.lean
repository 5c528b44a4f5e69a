import Colloquy.Proofs.Retry.Course

/-!
# Where retries stop

An attempt after which no other may follow is the last one of its course, and what
overflows there can only be the clock (`RetryRun.Overflows.clock_of_not_mayRetry`).

The clock of a run may show integers or floats.  It shows a float from the start, and with
it stays a float (`RetryRun.Course.clock_isFloat`), so the time of an attempt in floats can
always be added to it.  Hence retries end with the first attempt that raises an exception
that is not an ordinary one (`retry_of_not_ordinary`).
-/

namespace Colloquy

/-! ## Clocks -/

namespace Number

/-- A number that is a float. -/
def IsFloat (n : Number) : Prop :=
  ∃ x, n = .float x

/-- A float to which a number is added is a float. -/
theorem IsFloat.add {a n t : Number} (ha : a.IsFloat) (h : Number.add a n = .ok t) :
    t.IsFloat := by
  obtain ⟨x, rfl⟩ := ha
  have hadd : Number.add (.float x) n = (do return .float (x + (← n.toFloat))) := by
    cases n <;> rfl
  rw [hadd] at h
  obtain ⟨y, -, h⟩ := bind_eq_ok_iff.1 h
  cases h
  exact ⟨_, rfl⟩

end Number

namespace RetryRun

/-- The clock shows a float from the start. -/
theorem Course.clock_isFloat {β : Type} {policy : RetryPolicy Number}
    {env : Surroundings Number β} {passes : List (Pass Number)} {last : RetryState Number}
    (h : Course policy env opening passes last) : last.clock.IsFloat := by
  refine h.invariant (I := fun s => s.clock.IsFloat) ?_ ⟨0.0, rfl⟩
  intro p taken hstart
  have hback : p.clock.IsFloat := hstart.add taken.comesBack.clock_eq
  obtain ⟨_, _, rest, -, -, -, ⟨-, -, hnext⟩ | ⟨-, -, hnext⟩⟩ := taken.exists_pause
  · exact hback.add hnext
  · rw [hnext]
    exact hback

/-! ## The last attempt -/

section

variable {α β : Type} {env : Surroundings α β}

/-- No other attempt follows an exception that is not an ordinary one, whatever is accepted. -/
theorem not_mayRetry_of_not_ordinary {e failure : Exception} (he : e.isOrdinary = false) :
    ¬ env.MayRetry (.error e) failure := by
  rintro ⟨hfails, -⟩
  cases hfails with
  | raised hordinary =>
    rw [he] at hordinary
    cases hordinary

variable [Quantity α] {policy : RetryPolicy α}

/-- No pass starts with an attempt after which no other may follow. -/
theorem Course.length_le_of_not_mayRetry {passes : List (Pass α)} {last : RetryState α}
    (h : Course policy env opening passes last) {i : Nat}
    (hlast : ∀ e, ¬ env.MayRetry (env.attempt i).result e) : passes.length ≤ i := by
  by_contra hmore
  have hi : i < passes.length := Nat.lt_of_not_le hmore
  have hstart : passes[i].start.attempts = i :=
    h.start_attempts_opening (List.getElem?_eq_getElem hi)
  have hback := (h.taken passes[i] (List.getElem_mem hi)).comesBack.mayRetry
  rw [hstart] at hback
  exact hlast _ hback

/-- Only the clock can overflow after an attempt after which no other may follow. -/
theorem Overflows.clock_of_not_mayRetry {left : Nat} {s : RetryState α} {e : Exception}
    (h : Overflows policy env left s e)
    (hlast : ∀ failure, ¬ env.MayRetry (env.attempt s.attempts).result failure) :
    Quantity.add s.clock (env.attempt s.attempts).duration = .error e := by
  cases h with
  | clock h => exact h
  | pause back _ => exact absurd back.mayRetry (hlast _)
  | sleep back _ _ _ => exact absurd back.mayRetry (hlast _)

end

end RetryRun

open RetryRun

/-- Retries end with the first attempt that raises an exception that is not an ordinary one,
whatever the policy is and whatever is accepted. -/
theorem retry_of_not_ordinary {β : Type} (policy : RetryPolicy Number)
    (env : Surroundings Number β) {i : Nat} {e : Exception} {seconds : Float}
    (hattempt : env.attempt i = ⟨.error e, .float seconds⟩) (he : e.isOrdinary = false)
    (hmade : i < (retry policy env).attempts) :
    (retry policy env).ending = .error e ∧ (retry policy env).attempts = i + 1 := by
  cases hlimit : policy.maxAttempts with
  | uncountable typeName =>
    rw [retry, hlimit] at hmade
    cases hmade
  | count n positive =>
    have hlast : ∀ failure, ¬ env.MayRetry (env.attempt i).result failure := by
      rw [hattempt]
      exact fun _ => not_mayRetry_of_not_ordinary he
    obtain ⟨passes, last, hcourse, hlength, hend⟩ := exists_course_retry env hlimit
    have hle : passes.length ≤ i := hcourse.length_le_of_not_mayRetry hlast
    rcases hend with ⟨failure, hover⟩ | ⟨-, hretry⟩
    · rw [hcourse.retry_of_overflows hlimit hlength hover] at hmade
      have hi : last.attempts = i :=
        hcourse.attempts_opening.trans (Nat.le_antisymm hle (Nat.le_of_lt_succ hmade))
      rw [← hi] at hlast hattempt
      have hclock := hover.clock_of_not_mayRetry hlast
      obtain ⟨x, hx⟩ := hcourse.clock_isFloat
      rw [hattempt, hx] at hclock
      cases hclock
    · rw [hretry] at hmade ⊢
      obtain rfl : passes.length = i := Nat.le_antisymm hle (Nat.le_of_lt_succ hmade)
      rw [hattempt]
      exact ⟨rfl, rfl⟩

end Colloquy
