import Colloquy.Provider.Failure
import Colloquy.Retry.Policy

/-!
# Retries

An exchange is attempted until it comes back with something other than a failure
that a retry may help against, or until the attempts or the time are used up.
Pauses lie between attempts only; the last outcome is the result.
-/

namespace Colloquy

/-! ## What is retried -/

/-- Whether a value is one of the statuses after which a retry may help. -/
def isRetryableStatus : Value → Bool
  | .int i => retryableStatuses.contains i
  | .bool b => retryableStatuses.contains (Value.intOfBool b)
  | _ => false

/-- Whether a mark is the truth value that is true. -/
def isTrue : Value → Bool
  | .bool b => b
  | _ => false

/-- Whether a retry may help after an exception: only after a failed call of a provider that is
marked so or has one of the statuses. -/
def shouldRetry : Exception → Bool
  | .own e => e.isA .api && (isTrue e.retryable || isRetryableStatus e.statusCode)
  | .foreign _ _ => false

/-- The delay that an exception asks for. -/
def retryDelay? : Exception → Except Exception (Option Number)
  | .own e =>
    if e.isA .api then
      match Number.ofValue? e.retryAfter with
      | some n =>
        if Number.atMost (.int 0) n then do return some (.float (← n.toFloat)) else .ok none
      | none => .ok none
    else .ok none
  | .foreign _ _ => .ok none

/-! ## The loop -/

/-- How one attempt goes: what it returns or raises, and how long it takes. -/
structure Attempt (α β : Type) where
  result : Except Exception β
  duration : α

/-- What surrounds a run of retries. -/
structure Surroundings (α β : Type) where
  /-- The attempt of each number, counted from zero. -/
  attempt : Nat → Attempt α β
  /-- The exception that a returned value reports as its failure. -/
  failure? : β → Option Exception
  /-- Whether an exception may be followed by another attempt. -/
  accepts : Exception → Bool
  /-- The delay that an exception asks for. -/
  delay? : Exception → Except Exception (Option α)
  /-- The numbers that are drawn, in order. -/
  random : Nat → α

/-- How a run of retries went. -/
structure RetryRun (α β : Type) where
  ending : Except Exception β
  attempts : Nat
  sleeps : List α

/-- Where a run of retries stands: the time since its start, how many attempts and draws were
made, and the pauses so far. -/
structure RetryState (α : Type) where
  clock : α
  attempts : Nat := 0
  draws : Nat := 0
  sleeps : List α := []

namespace RetryRun

/-- The failure in the result of an attempt that may be followed by another one. -/
def retryable? (env : Surroundings α β) (result : Except Exception β) : Option Exception :=
  match result with
  | .ok value => (env.failure? value).filter env.accepts
  | .error e => if e.isOrdinary && env.accepts e then some e else none

/-- The pause after a failure, none when the time is used up, and the draws made by then. -/
def pause [Quantity α] (policy : RetryPolicy α) (env : Surroundings α β) (e : Exception)
    (s : RetryState α) : Except Exception (Option α × Nat) := do
  let asked ← env.delay? e
  let (delay, drawn) ← policy.backoff s.attempts (env.random s.draws)
  let draws := s.draws + if drawn then 1 else 0
  let delay := match asked with
    | some seconds => Quantity.greatest delay seconds
    | none => delay
  match policy.maxElapsed with
  | none => return (some delay, draws)
  | some limit =>
    let remaining ← Quantity.sub limit s.clock
    if Quantity.atMost remaining Quantity.zero then return (none, draws)
    else return (some (Quantity.least delay remaining), draws)

/-- The run from a state on, with at most `left` further attempts after the next one. -/
def runFrom [Quantity α] (policy : RetryPolicy α) (env : Surroundings α β) (left : Nat)
    (s : RetryState α) : RetryRun α β :=
  let stop (ending : Except Exception β) (s : RetryState α) : RetryRun α β :=
    ⟨ending, s.attempts, s.sleeps⟩
  let attempt := env.attempt s.attempts
  match Quantity.add s.clock attempt.duration with
  | .error e => stop (.error e) { s with attempts := s.attempts + 1 }
  | .ok clock =>
    let s := { s with clock, attempts := s.attempts + 1 }
    match left, retryable? env attempt.result with
    | 0, _ => stop attempt.result s
    | _ + 1, none => stop attempt.result s
    | left + 1, some e =>
      match pause policy env e s with
      | .error e => stop (.error e) s
      | .ok (none, _) => stop attempt.result s
      | .ok (some delay, draws) =>
        if Quantity.below Quantity.zero delay then
          match Quantity.add s.clock delay with
          | .error e => stop (.error e) s
          | .ok clock =>
            runFrom policy env left { s with clock, draws, sleeps := s.sleeps ++ [delay] }
        else runFrom policy env left { s with draws }

end RetryRun

/-- The run of retries under a policy. -/
def retry [Quantity α] (policy : RetryPolicy α) (env : Surroundings α β) : RetryRun α β :=
  match policy.maxAttempts with
  | .count n _ => RetryRun.runFrom policy env (n - 1) { clock := Quantity.zero }
  | .uncountable typeName =>
    ⟨.error (.type (Text.concat ["'", typeName, "' object cannot be interpreted as an integer"])),
      0, []⟩

end Colloquy
