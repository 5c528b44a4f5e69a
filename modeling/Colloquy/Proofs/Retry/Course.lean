import Colloquy.Proofs.Error.Escape
import Colloquy.Retry.Basic

/-!
# The course of retries

A run of retries is a row of passes and a last attempt.  A pass is an attempt that
failed in a way that may be retried, and what the loop does until the next attempt
starts (`RetryRun.Pass`).  `RetryRun.Course` is the relation between the state in which a
run starts, its passes, and the state in which its last attempt starts.

* A turn of the loop overflows, or the run stops there, or it is a pass
  (`RetryRun.runFrom_turn`).
* So every run has a course (`RetryRun.exists_course`), and the loop goes through the
  states of the course (`RetryRun.Course.runFrom_eq`).

Nothing here depends on what the numbers are.
-/

namespace Colloquy

/-! ## Failures -/

namespace Surroundings

variable {α β : Type}

/-- What a result fails with: the failure that a returned value reports, or an ordinary exception
that is raised. -/
inductive FailsWith (env : Surroundings α β) : Except Exception β → Exception → Prop
  | returned {value : β} {e : Exception} (reported : env.failure? value = some e) :
      env.FailsWith (.ok value) e
  | raised {e : Exception} (ordinary : e.isOrdinary = true) : env.FailsWith (.error e) e

/-- A result that another attempt may follow, because what it fails with is accepted. -/
def MayRetry (env : Surroundings α β) (result : Except Exception β) (e : Exception) : Prop :=
  env.FailsWith result e ∧ env.accepts e = true

end Surroundings

/-- The state in which the attempt that started in a state has come back, at the time that the
clock shows. -/
def RetryState.back {α : Type} (s : RetryState α) (clock : α) : RetryState α :=
  { s with clock, attempts := s.attempts + 1 }

namespace RetryRun

variable {α β : Type}

theorem retryable?_eq_some_iff {env : Surroundings α β} {result : Except Exception β}
    {e : Exception} : retryable? env result = some e ↔ env.MayRetry result e := by
  cases result with
  | ok value =>
    rw [retryable?, Option.filter_eq_some_iff]
    constructor
    · rintro ⟨hreported, haccepted⟩
      exact ⟨.returned hreported, haccepted⟩
    · rintro ⟨hfails, haccepted⟩
      cases hfails with
      | returned hreported => exact ⟨hreported, haccepted⟩
  | error e' =>
    rw [retryable?]
    constructor
    · intro h
      split at h
      · next hboth =>
        obtain rfl : e' = e := Option.some.inj h
        rw [Bool.and_eq_true] at hboth
        exact ⟨.raised hboth.1, hboth.2⟩
      · cases h
    · rintro ⟨hfails, haccepted⟩
      cases hfails with
      | raised hordinary => rw [hordinary, haccepted]; rfl

variable [Quantity α]

/-! ## Pauses -/

/-- The longer one of the delay by the policy and the delay that a failure asks for. -/
def longest (delay : α) : Option α → α
  | some seconds => Quantity.greatest delay seconds
  | none => delay

/-- What is left of a delay when the clock shows `clock`: all of it without a limit of time, no more
than what remains until the limit, and nothing when the time is used up. -/
inductive Limited (limit? : Option α) (clock delay : α) : Option α → Prop
  | unlimited (hlimit : limit? = none) : Limited limit? clock delay (some delay)
  | usedUp {limit remaining : α} (hlimit : limit? = some limit)
      (hremaining : Quantity.sub limit clock = .ok remaining)
      (hnone : Quantity.atMost remaining Quantity.zero = true) : Limited limit? clock delay none
  | within {limit remaining : α} (hlimit : limit? = some limit)
      (hremaining : Quantity.sub limit clock = .ok remaining)
      (hsome : Quantity.atMost remaining Quantity.zero = false) :
      Limited limit? clock delay (some (Quantity.least delay remaining))

/-- A pause is the longer one of two delays, as far as the time suffices. -/
theorem pause_eq_ok {policy : RetryPolicy α} {env : Surroundings α β} {e : Exception}
    {s : RetryState α} {rest : Option α} {draws : Nat}
    (h : pause policy env e s = .ok (rest, draws)) :
    ∃ asked delay drawn, env.delay? e = .ok asked ∧
      policy.backoff s.attempts (env.random s.draws) = .ok (delay, drawn) ∧
      Limited policy.maxElapsed s.clock (longest delay asked) rest := by
  obtain ⟨asked, hasked, h⟩ := bind_eq_ok_iff.1 h
  obtain ⟨⟨delay, drawn⟩, hbackoff, h⟩ := bind_eq_ok_iff.1 h
  refine ⟨asked, delay, drawn, hasked, hbackoff, ?_⟩
  dsimp only at h
  cases hlimit : policy.maxElapsed with
  | none =>
    rw [hlimit] at h
    cases h
    exact .unlimited rfl
  | some limit =>
    rw [hlimit] at h
    obtain ⟨remaining, hremaining, h⟩ := bind_eq_ok_iff.1 h
    split at h
    · next hnone =>
      cases h
      exact .usedUp rfl hremaining hnone
    · next hsome =>
      cases h
      exact .within rfl hremaining (Bool.eq_false_iff.2 hsome)

/-- A pause cannot be computed when one of the delays or the time that remains cannot. -/
theorem pause_eq_error {policy : RetryPolicy α} {env : Surroundings α β} {e e' : Exception}
    {s : RetryState α} (h : pause policy env e s = .error e') :
    env.delay? e = .error e' ∨ policy.backoff s.attempts (env.random s.draws) = .error e' ∨
      ∃ limit, policy.maxElapsed = some limit ∧ Quantity.sub limit s.clock = .error e' := by
  unfold pause at h
  cases hasked : env.delay? e with
  | error e'' =>
    rw [hasked] at h
    cases h
    exact .inl rfl
  | ok asked =>
    cases hbackoff : policy.backoff s.attempts (env.random s.draws) with
    | error e'' =>
      rw [hasked, hbackoff] at h
      cases h
      exact .inr (.inl rfl)
    | ok drawn =>
      rw [hasked, hbackoff, ok_bind, ok_bind] at h
      dsimp only at h
      cases hlimit : policy.maxElapsed with
      | none =>
        rw [hlimit] at h
        cases h
      | some limit =>
        rw [hlimit] at h
        dsimp only at h
        cases hsub : Quantity.sub limit s.clock with
        | error e'' =>
          rw [hsub] at h
          cases h
          exact .inr (.inr ⟨limit, rfl, hsub⟩)
        | ok remaining =>
          rw [hsub, ok_bind] at h
          split at h
          · cases h
          · cases h

/-! ## Passes -/

/-- An attempt that another one follows: the states in which the two start, what the first one
fails with and what the clock shows then, the delay that the failure asks for, and the pause before
the second one, if there is any. -/
structure Pass (α : Type) where
  start : RetryState α
  failure : Exception
  clock : α
  asked : Option α
  sleep : Option α
  next : RetryState α

/-- The attempt that starts in a state comes back with a failure that may be retried, when the
clock shows `clock`. -/
structure ComesBack (env : Surroundings α β) (s : RetryState α) (e : Exception) (clock : α) :
    Prop where
  clock_eq : Quantity.add s.clock (env.attempt s.attempts).duration = .ok clock
  mayRetry : env.MayRetry (env.attempt s.attempts).result e

/-- What the loop does in a pass.  It computes the pause and sleeps for it, or it goes on at once
when there is nothing to sleep. -/
inductive Pass.Taken (policy : RetryPolicy α) (env : Surroundings α β) : Pass α → Prop
  | slept {s : RetryState α} {e : Exception} {clock delay later : α} {asked : Option α}
      {draws : Nat} (back : ComesBack env s e clock) (hasked : env.delay? e = .ok asked)
      (hpause : pause policy env e (s.back clock) = .ok (some delay, draws))
      (hpositive : Quantity.below Quantity.zero delay = true)
      (hlater : Quantity.add clock delay = .ok later) :
      Taken policy env ⟨s, e, clock, asked, some delay,
        { s.back clock with clock := later, draws, sleeps := s.sleeps ++ [delay] }⟩
  | unslept {s : RetryState α} {e : Exception} {clock delay : α} {asked : Option α}
      {draws : Nat} (back : ComesBack env s e clock) (hasked : env.delay? e = .ok asked)
      (hpause : pause policy env e (s.back clock) = .ok (some delay, draws))
      (hnone : Quantity.below Quantity.zero delay = false) :
      Taken policy env ⟨s, e, clock, asked, none, { s.back clock with draws }⟩

/-- The passes of a run that starts in the first state and whose last attempt starts in the
second one. -/
inductive Course (policy : RetryPolicy α) (env : Surroundings α β) :
    RetryState α → List (Pass α) → RetryState α → Prop
  | last (s : RetryState α) : Course policy env s [] s
  | again {p : Pass α} {passes : List (Pass α)} {last : RetryState α}
      (taken : p.Taken policy env) (rest : Course policy env p.next passes last) :
      Course policy env p.start (p :: passes) last

namespace Pass.Taken

variable {policy : RetryPolicy α} {env : Surroundings α β} {p : Pass α}

theorem comesBack (h : p.Taken policy env) : ComesBack env p.start p.failure p.clock := by
  cases h with
  | slept back => exact back
  | unslept back => exact back

theorem next_attempts (h : p.Taken policy env) : p.next.attempts = p.start.attempts + 1 := by
  cases h <;> rfl

theorem next_sleeps (h : p.Taken policy env) :
    p.next.sleeps = p.start.sleeps ++ p.sleep.toList := by
  cases h with
  | slept => rfl
  | unslept => exact (List.append_nil _).symm

/-- The pause of a pass is the delay by the policy or the one that was asked for, as far as the time
suffices.  Only a pause that is longer than nothing is slept, and then it moves the clock. -/
theorem exists_pause (h : p.Taken policy env) :
    ∃ delay drawn rest, env.delay? p.failure = .ok p.asked ∧
      policy.backoff ((p.start.attempts + 1 : Nat) : Int) (env.random p.start.draws)
        = .ok (delay, drawn) ∧
      Limited policy.maxElapsed p.clock (longest delay p.asked) (some rest) ∧
      (Quantity.below Quantity.zero rest = true ∧ p.sleep = some rest ∧
          Quantity.add p.clock rest = .ok p.next.clock ∨
        Quantity.below Quantity.zero rest = false ∧ p.sleep = none ∧ p.next.clock = p.clock) := by
  cases h with
  | @slept s e clock rest later asked draws _ hasked hpause hpositive hlater =>
    obtain ⟨asked', delay, drawn, hasked', hbackoff, hlimited⟩ := pause_eq_ok hpause
    obtain rfl : asked = asked' := Except.ok.inj (hasked.symm.trans hasked')
    exact ⟨delay, drawn, rest, hasked, hbackoff, hlimited, .inl ⟨hpositive, rfl, hlater⟩⟩
  | @unslept s e clock rest asked draws _ hasked hpause hnone =>
    obtain ⟨asked', delay, drawn, hasked', hbackoff, hlimited⟩ := pause_eq_ok hpause
    obtain rfl : asked = asked' := Except.ok.inj (hasked.symm.trans hasked')
    exact ⟨delay, drawn, rest, hasked, hbackoff, hlimited, .inr ⟨hnone, rfl, rfl⟩⟩

end Pass.Taken

/-! ## Where a run ends -/

/-- A computation that the loop needs fails with an exception, when the attempt that starts in the
state may be followed by `left` others: what the clock shows when the attempt comes back, the pause
after it, or what the clock shows after the pause. -/
inductive Overflows (policy : RetryPolicy α) (env : Surroundings α β) :
    Nat → RetryState α → Exception → Prop
  | clock {left : Nat} {s : RetryState α} {e : Exception}
      (h : Quantity.add s.clock (env.attempt s.attempts).duration = .error e) :
      Overflows policy env left s e
  | pause {left : Nat} {s : RetryState α} {failure e : Exception} {clock : α}
      (back : ComesBack env s failure clock)
      (h : RetryRun.pause policy env failure (s.back clock) = .error e) :
      Overflows policy env (left + 1) s e
  | sleep {left : Nat} {s : RetryState α} {failure e : Exception} {clock delay : α}
      {draws : Nat} (back : ComesBack env s failure clock)
      (hpause : RetryRun.pause policy env failure (s.back clock) = .ok (some delay, draws))
      (hpositive : Quantity.below Quantity.zero delay = true)
      (h : Quantity.add clock delay = .error e) : Overflows policy env (left + 1) s e

/-- The time is used up when the attempt that starts in a state comes back. -/
def UsedUp (policy : RetryPolicy α) (env : Surroundings α β) (s : RetryState α) : Prop :=
  ∃ clock limit remaining, Quantity.add s.clock (env.attempt s.attempts).duration = .ok clock ∧
    policy.maxElapsed = some limit ∧ Quantity.sub limit clock = .ok remaining ∧
    Quantity.atMost remaining Quantity.zero = true

/-- No attempt follows the one that starts in a state and may be followed by `left` others: there
are none left, the attempt does not fail in a way that may be retried, or the time is used up. -/
def Stops (policy : RetryPolicy α) (env : Surroundings α β) (left : Nat) (s : RetryState α) :
    Prop :=
  left = 0 ∨ (∀ e, ¬ env.MayRetry (env.attempt s.attempts).result e) ∨ UsedUp policy env s

/-! ## Turns of the loop -/

section Turn

variable {policy : RetryPolicy α} {env : Surroundings α β} {left : Nat} {s : RetryState α}

/-- A pass is one turn of the loop. -/
theorem Pass.Taken.runFrom_eq {p : Pass α} (h : p.Taken policy env) (left : Nat) :
    runFrom policy env (left + 1) p.start = runFrom policy env left p.next := by
  cases h with
  | slept back _ hpause hpositive hlater =>
    rw [runFrom]
    simp only [back.clock_eq, retryable?_eq_some_iff.2 back.mayRetry]
    rw [RetryState.back] at hpause
    simp only [hpause, hpositive, hlater, if_true]
    rfl
  | unslept back _ hpause hnone =>
    rw [runFrom]
    simp only [back.clock_eq, retryable?_eq_some_iff.2 back.mayRetry]
    rw [RetryState.back] at hpause
    simp only [hpause, hnone]
    rfl

/-- A run ends with the exception of a computation that fails. -/
theorem Overflows.runFrom_eq {e : Exception} (h : Overflows policy env left s e) :
    runFrom policy env left s = ⟨.error e, s.attempts + 1, s.sleeps⟩ := by
  rw [runFrom.eq_def]
  cases h with
  | clock h => simp only [h]
  | pause back h =>
    rw [RetryState.back] at h
    simp only [back.clock_eq, retryable?_eq_some_iff.2 back.mayRetry, h]
  | sleep back hpause hpositive h =>
    rw [RetryState.back] at hpause
    simp only [back.clock_eq, retryable?_eq_some_iff.2 back.mayRetry, hpause, hpositive, h, if_true]

/-- What follows an attempt that may be retried, when others are left.  A computation fails, or the
time is used up and the run stops with the result of the attempt, or the turn is a pass. -/
theorem ComesBack.turn {e : Exception} {clock : α} (back : ComesBack env s e clock)
    (policy : RetryPolicy α) (left : Nat) :
    (∃ e, Overflows policy env (left + 1) s e) ∨
    (UsedUp policy env s ∧ runFrom policy env (left + 1) s
      = ⟨(env.attempt s.attempts).result, s.attempts + 1, s.sleeps⟩) ∨
    ∃ p, p.start = s ∧ Pass.Taken policy env p := by
  rcases hpause : pause policy env e (s.back clock) with e' | ⟨rest, draws⟩
  · exact .inl ⟨e', .pause back hpause⟩
  obtain ⟨asked, delay, drawn, hasked, -, hlimited⟩ := pause_eq_ok hpause
  cases rest with
  | none =>
    refine .inr (.inl ⟨?_, ?_⟩)
    · cases hlimited with
      | usedUp hlimit hremaining hnone =>
        exact ⟨clock, _, _, back.clock_eq, hlimit, hremaining, hnone⟩
    · rw [RetryState.back] at hpause
      rw [runFrom]
      simp only [back.clock_eq, retryable?_eq_some_iff.2 back.mayRetry, hpause]
  | some delay =>
    cases hpositive : Quantity.below Quantity.zero delay with
    | false => exact .inr (.inr ⟨_, rfl, .unslept back hasked hpause hpositive⟩)
    | true =>
      cases hlater : Quantity.add clock delay with
      | error e' => exact .inl ⟨e', .sleep back hpause hpositive hlater⟩
      | ok later => exact .inr (.inr ⟨_, rfl, .slept back hasked hpause hpositive hlater⟩)

/-- One turn of the loop.  A computation fails, or the run stops with the result of the attempt, or
the turn is a pass. -/
theorem runFrom_turn (policy : RetryPolicy α) (env : Surroundings α β) (left : Nat)
    (s : RetryState α) :
    (∃ e, Overflows policy env left s e) ∨
    (Stops policy env left s ∧ runFrom policy env left s
      = ⟨(env.attempt s.attempts).result, s.attempts + 1, s.sleeps⟩) ∨
    ∃ left' p, left = left' + 1 ∧ p.start = s ∧ Pass.Taken policy env p := by
  cases hclock : Quantity.add s.clock (env.attempt s.attempts).duration with
  | error e => exact .inl ⟨e, .clock hclock⟩
  | ok clock =>
    cases left with
    | zero =>
      refine .inr (.inl ⟨.inl rfl, ?_⟩)
      rw [runFrom]
      simp only [hclock]
    | succ left =>
      cases hretryable : retryable? env (env.attempt s.attempts).result with
      | none =>
        refine .inr (.inl ⟨.inr (.inl ?_), ?_⟩)
        · intro e he
          rw [retryable?_eq_some_iff.2 he] at hretryable
          cases hretryable
        · rw [runFrom]
          simp only [hclock, hretryable]
      | some e =>
        have back : ComesBack env s e clock := ⟨hclock, retryable?_eq_some_iff.1 hretryable⟩
        rcases back.turn policy left with hover | ⟨hused, hrun⟩ | ⟨p, hstart, htaken⟩
        · exact .inl hover
        · exact .inr (.inl ⟨.inr (.inr hused), hrun⟩)
        · exact .inr (.inr ⟨left, p, rfl, hstart, htaken⟩)

end Turn

/-! ## Courses -/

namespace Course

variable {policy : RetryPolicy α} {env : Surroundings α β} {s last : RetryState α}
  {passes : List (Pass α)}

/-- The loop goes through the states of a course. -/
theorem runFrom_eq (h : Course policy env s passes last) (left : Nat) :
    runFrom policy env (left + passes.length) s = runFrom policy env left last := by
  induction h with
  | last s => rfl
  | again taken _ ih => exact (taken.runFrom_eq _).trans ih

theorem taken (h : Course policy env s passes last) : ∀ p ∈ passes, p.Taken policy env := by
  induction h with
  | last s => exact fun p hp => nomatch hp
  | again taken _ ih => exact List.forall_mem_cons.2 ⟨taken, ih⟩

/-- What each pass keeps is true of all states in which an attempt starts. -/
theorem invariant {I : RetryState α → Prop} (h : Course policy env s passes last)
    (hpass : ∀ p : Pass α, p.Taken policy env → I p.start → I p.next) (hs : I s) : I last := by
  induction h with
  | last s => exact hs
  | again taken _ ih => exact ih (hpass _ taken hs)

/-- The last attempt is the first one, or it starts where a pass leads. -/
theorem last_cases (h : Course policy env s passes last) :
    (passes = [] ∧ last = s) ∨ ∃ p ∈ passes, p.next = last := by
  induction h with
  | last s => exact .inl ⟨rfl, rfl⟩
  | @again p passes last _ _ ih =>
    rcases ih with ⟨-, rfl⟩ | ⟨q, hq, hnext⟩
    · exact .inr ⟨p, List.mem_cons_self, rfl⟩
    · exact .inr ⟨q, List.mem_cons_of_mem p hq, hnext⟩

/-- Each pass makes one attempt. -/
theorem attempts_eq (h : Course policy env s passes last) :
    last.attempts = s.attempts + passes.length := by
  induction h with
  | last s => rfl
  | again taken _ ih =>
    rw [ih, taken.next_attempts, List.length_cons]
    omega

/-- The pauses of a run are those of its passes, in order. -/
theorem sleeps_eq (h : Course policy env s passes last) :
    last.sleeps = s.sleeps ++ passes.filterMap Pass.sleep := by
  induction h with
  | last s => exact (List.append_nil s.sleeps).symm
  | @again p passes last taken _ ih =>
    rw [ih, taken.next_sleeps, List.append_assoc]
    cases hsleep : p.sleep with
    | none => rw [List.filterMap_cons_none hsleep]; rfl
    | some delay => rw [List.filterMap_cons_some hsleep]; rfl

/-- The passes start with one attempt after the other. -/
theorem start_attempts (h : Course policy env s passes last) {i : Nat} {p : Pass α}
    (hp : passes[i]? = some p) : p.start.attempts = s.attempts + i := by
  induction h generalizing i with
  | last s => cases hp
  | @again q passes last taken _ ih =>
    cases i with
    | zero =>
      cases hp
      rfl
    | succ i =>
      rw [List.getElem?_cons_succ] at hp
      rw [ih hp, taken.next_attempts]
      omega

end Course

/-- Every run has a course.  After its passes a computation fails, or the run stops with the result
of its last attempt. -/
theorem exists_course (policy : RetryPolicy α) (env : Surroundings α β) (left : Nat)
    (s : RetryState α) :
    ∃ passes last rest, Course policy env s passes last ∧ left = rest + passes.length ∧
      ((∃ e, Overflows policy env rest last e) ∨
        Stops policy env rest last ∧ runFrom policy env left s
          = ⟨(env.attempt last.attempts).result, last.attempts + 1, last.sleeps⟩) := by
  induction left using Nat.strongRecOn generalizing s with
  | ind left ih =>
    rcases runFrom_turn policy env left s with hover | hstops | ⟨left', p, rfl, rfl, htaken⟩
    · exact ⟨[], s, left, .last s, rfl, .inl hover⟩
    · exact ⟨[], s, left, .last s, rfl, .inr hstops⟩
    · obtain ⟨passes, last, rest, hcourse, hleft, hend⟩ := ih left' (Nat.lt_succ_self _) p.next
      refine ⟨p :: passes, last, rest, .again htaken hcourse, ?_, ?_⟩
      · rw [List.length_cons, hleft]
        omega
      · rwa [htaken.runFrom_eq]

/-! ## Whole runs -/

/-- The state in which the first attempt starts. -/
def opening : RetryState α where
  clock := Quantity.zero

section Whole

variable {policy : RetryPolicy α} {env : Surroundings α β} {n : Nat} {positive : 0 < n}

theorem Course.attempts_opening {passes : List (Pass α)} {last : RetryState α}
    (h : Course policy env opening passes last) : last.attempts = passes.length :=
  h.attempts_eq.trans (Nat.zero_add _)

/-- The attempt of a pass is the one with the number of the pass. -/
theorem Course.start_attempts_opening {passes : List (Pass α)} {last : RetryState α}
    (h : Course policy env opening passes last) {i : Nat} {p : Pass α}
    (hp : passes[i]? = some p) : p.start.attempts = i :=
  (h.start_attempts hp).trans (Nat.zero_add i)

theorem Course.sleeps_opening {passes : List (Pass α)} {last : RetryState α}
    (h : Course policy env opening passes last) :
    last.sleeps = passes.filterMap Pass.sleep :=
  h.sleeps_eq

theorem retry_eq (hlimit : policy.maxAttempts = .count n positive) :
    retry policy env = runFrom policy env (n - 1) opening := by
  rw [retry, hlimit]
  rfl

/-- Retries end with the exception of the computation that fails after their passes. -/
theorem Course.retry_of_overflows (hlimit : policy.maxAttempts = .count n positive)
    {passes : List (Pass α)} {last : RetryState α} (h : Course policy env opening passes last)
    (hlength : passes.length < n) {e : Exception}
    (hover : Overflows policy env (n - 1 - passes.length) last e) :
    retry policy env = ⟨.error e, passes.length + 1, passes.filterMap Pass.sleep⟩ := by
  have hleft : n - 1 = n - 1 - passes.length + passes.length := by omega
  rw [retry_eq hlimit, hleft, h.runFrom_eq, hover.runFrom_eq, h.attempts_opening,
    h.sleeps_opening]

/-- Retries have a course of fewer passes than attempts are allowed.  After it a computation fails,
or they stop with the result of the last attempt. -/
theorem exists_course_retry (env : Surroundings α β)
    (hlimit : policy.maxAttempts = .count n positive) :
    ∃ passes last, Course policy env opening passes last ∧ passes.length < n ∧
      ((∃ e, Overflows policy env (n - 1 - passes.length) last e) ∨
        Stops policy env (n - 1 - passes.length) last ∧ retry policy env
          = ⟨(env.attempt passes.length).result, passes.length + 1,
            passes.filterMap Pass.sleep⟩) := by
  obtain ⟨passes, last, rest, hcourse, hleft, hend⟩ :=
    exists_course policy env (n - 1) (opening : RetryState α)
  have hrest : n - 1 - passes.length = rest := by omega
  refine ⟨passes, last, hcourse, by omega, ?_⟩
  rw [hrest]
  refine hend.imp_right ?_
  rintro ⟨hstops, hrun⟩
  rw [hcourse.attempts_opening, hcourse.sleeps_opening] at hrun
  exact ⟨hstops, (retry_eq hlimit).trans hrun⟩

end Whole

end RetryRun

end Colloquy
