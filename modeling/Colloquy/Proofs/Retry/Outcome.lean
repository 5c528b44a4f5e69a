import Colloquy.Proofs.Retry.Budget

/-!
# What comes of retries

The outcome of retries is that of the last attempt, and every attempt before it failed in
a way that may be retried.  This holds of all numbers that the loop can compute with.
Only `Quantity.add` moves the clock, and it is left open what a sum is, so the clock may
show anything when an attempt comes back.
-/

namespace Colloquy

open RetryRun

/-- Retries make an attempt for each pass of their course and one more, and no more of them than the
policy allows.  Each attempt before the last one fails in a way that may be retried, and only then
is there a pause, at most one after each.  The outcome is that of the last attempt, whether it is
given or raised.  When the policy allows more attempts, the last one does not fail in such a way, or
the time was used up when it came back. -/
theorem retry_outcome {α β : Type} [Quantity α] (policy : RetryPolicy α) (env : Surroundings α β)
    {n : Nat} {positive : 0 < n} (hlimit : policy.maxAttempts = .count n positive)
    (hcomputed : ∀ passes last e, RetryRun.Course policy env opening passes last →
      passes.length < n → ¬ Overflows policy env (n - 1 - passes.length) last e) :
    ∃ passes last, RetryRun.Course policy env opening passes last ∧
      (retry policy env).attempts = passes.length + 1 ∧ passes.length + 1 ≤ n ∧
      (retry policy env).ending = (env.attempt passes.length).result ∧
      (retry policy env).sleeps = passes.filterMap Pass.sleep ∧
      (∀ i p, passes[i]? = some p →
        p.start.attempts = i ∧ env.MayRetry (env.attempt i).result p.failure) ∧
      (passes.length + 1 < n →
        (∀ e, ¬ env.MayRetry (env.attempt passes.length).result e) ∨ UsedUp policy env last) := by
  obtain ⟨passes, last, hcourse, hlength, ⟨e, hover⟩ | ⟨hstops, hretry⟩⟩ :=
    exists_course_retry env hlimit
  · exact absurd hover (hcomputed passes last e hcourse hlength)
  refine ⟨passes, last, hcourse, ?_⟩
  rw [hretry]
  refine ⟨rfl, hlength, rfl, rfl, ?_, ?_⟩
  · intro i p hp
    have hstart : p.start.attempts = i := hcourse.start_attempts_opening hp
    have hback := (hcourse.taken p (List.mem_of_getElem? hp)).comesBack
    rw [← hstart]
    exact ⟨rfl, hback.mayRetry⟩
  · intro hmore
    rw [Stops, hcourse.attempts_opening] at hstops
    rcases hstops with hnone | hends
    · omega
    · exact hends

/-- An attempt that reports a failure and one that raises it, with a clock that is set back in
between, and an attempt that goes well. -/
def clockSetBack : Surroundings ℚ (Option Exception) where
  attempt
    | 0 =>
      ⟨.ok (some (.own { cls := .unavailable, message := "down", retryable := .bool true })), 20⟩
    | 1 => ⟨.error (.own { cls := .request, message := "reset", retryable := .bool true }), -15⟩
    | _ => ⟨.ok none, 1⟩
  failure? := id
  accepts := shouldRetry
  delay? _ := .ok none
  random _ := 1 / 2

/-- Three of five attempts are made, with a pause after each of the first two. -/
theorem retry_outcome_clockSetBack :
    let policy : RetryPolicy ℚ := ⟨.count 5 (Nat.succ_pos 4), 1 / 2, 2, 5, true, some 30⟩
    (∀ passes last e, RetryRun.Course policy clockSetBack opening passes last →
      passes.length < 5 → ¬ Overflows policy clockSetBack (5 - 1 - passes.length) last e) ∧
    (retry policy clockSetBack).sleeps = [1 / 4, 1 / 2] ∧
    ∃ passes last, RetryRun.Course policy clockSetBack opening passes last ∧ passes.length = 2 ∧
      (retry policy clockSetBack).ending = .ok none ∧
      ∀ i p, passes[i]? = some p →
        p.start.attempts = i ∧ clockSetBack.MayRetry (clockSetBack.attempt i).result p.failure := by
  intro policy
  have hcomputed : ∀ passes last e, RetryRun.Course policy clockSetBack opening passes last →
      passes.length < 5 → ¬ Overflows policy clockSetBack (5 - 1 - passes.length) last e :=
    fun _ _ e _ _ => not_overflows policy (fun _ => ⟨none, rfl⟩) _ _ e
  obtain ⟨passes, last, hcourse, hattempts, -, hending, -, hfailed, -⟩ :=
    retry_outcome policy clockSetBack rfl hcomputed
  have hthree : (retry policy clockSetBack).attempts = 3 := by decide +kernel
  have hlength : passes.length = 2 := by omega
  rw [hlength] at hending
  exact ⟨hcomputed, by decide +kernel, passes, last, hcourse, hlength, hending, hfailed⟩

end Colloquy
