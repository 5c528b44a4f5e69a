import Colloquy.Number
import Colloquy.Value.Settings

/-!
# Retry policies

A policy bounds how often an exchange is tried again, how long the pauses are and
how long all of it may take. The numbers may be of any type on which the few
operations of the retry loop are defined.
-/

namespace Colloquy

/-- What the retry loop does with its numbers. -/
class Quantity (α : Type) where
  /-- Nothing. -/
  zero : α
  /-- Whether the first number is below the second. -/
  below : α → α → Bool
  /-- Whether the first number is at most the second. -/
  atMost : α → α → Bool
  /-- The sum. -/
  add : α → α → Except Exception α
  /-- The difference. -/
  sub : α → α → Except Exception α
  /-- The product. -/
  mul : α → α → Except Exception α
  /-- The power. -/
  pow : α → Nat → Except Exception α

instance : Quantity Number where
  zero := .float 0.0
  below := Number.below
  atMost := Number.atMost
  add := Number.add
  sub := Number.sub
  mul := Number.mul
  pow := Number.pow

namespace Quantity

/-- The smaller of two numbers, the first one unless the second is below it. -/
def least [Quantity α] (a b : α) : α :=
  if below b a then b else a

/-- The greater of two numbers, the first one unless it is below the second. -/
def greatest [Quantity α] (a b : α) : α :=
  if below a b then b else a

end Quantity

/-- The greatest number of attempts: a positive count, or a number that nothing can be counted
up to. -/
inductive AttemptLimit
  | count (n : Nat) (positive : 0 < n)
  | uncountable (typeName : Text)

/-- A bounded retry policy. -/
structure RetryPolicy (α : Type) where
  maxAttempts : AttemptLimit
  initialDelay : α
  multiplier : α
  maxDelay : α
  jitter : Bool
  maxElapsed : Option α

namespace RetryPolicy

/-! ## Policies from what a caller offers -/

/-- What a caller offers as a policy. -/
structure Offer where
  maxAttempts : Value := .int 3
  initialDelay : Value := .float 0.5
  multiplier : Value := .float 2.0
  maxDelay : Value := .float 5.0
  jitter : Value := .bool true
  maxElapsed : Value := .float 30.0

/-- The offer in the fields of an object. What they do not name is as by default. -/
def Offer.ofFields (fields : Fields) : Except Exception Offer := do
  checkSettings "RetryPolicy" []
    ["max_attempts", "initial_delay_s", "backoff_multiplier", "max_delay_s", "jitter",
      "max_elapsed_s"] fields
  let usual : Offer := {}
  let entry (name : Text) (other : Value) : Value := (Assoc.get? fields name).getD other
  return {
    maxAttempts := entry "max_attempts" usual.maxAttempts
    initialDelay := entry "initial_delay_s" usual.initialDelay
    multiplier := entry "backoff_multiplier" usual.multiplier
    maxDelay := entry "max_delay_s" usual.maxDelay
    jitter := entry "jitter" usual.jitter
    maxElapsed := entry "max_elapsed_s" usual.maxElapsed }

/-- The number that a value is, which must not satisfy `bad`. -/
def bounded (sign : Text) (bad : Number → Bool) (fault : Text) (value : Value) :
    Except Exception Number :=
  match Number.ofValue? value with
  | none => .error (value.incomparable sign)
  | some n => if bad n then .error (.value fault) else .ok n

/-- The limit of attempts that a value is. -/
def attemptLimit (value : Value) : Except Exception AttemptLimit := do
  let fault : Text := "RetryPolicy.max_attempts must be >= 1"
  match ← bounded "<" (·.below (.int 1)) fault value with
  | .int i =>
    if h : 0 < i.toNat then return .count i.toNat h else throw (.value fault)
  | .float _ => return .uncountable value.typeName

/-- A policy from what a caller offers, or the first fault in it. -/
def make? (offer : Offer) : Except Exception (RetryPolicy Number) := do
  let zero : Number := .int 0
  let maxAttempts ← attemptLimit offer.maxAttempts
  let initialDelay ← bounded "<" (·.below zero) "RetryPolicy.initial_delay_s must be >= 0"
    offer.initialDelay
  let multiplier ← bounded "<=" (·.atMost zero) "RetryPolicy.backoff_multiplier must be > 0"
    offer.multiplier
  let maxDelay ← bounded "<" (·.below zero) "RetryPolicy.max_delay_s must be >= 0" offer.maxDelay
  let maxElapsed ←
    if offer.maxElapsed.isNull then pure none
    else (bounded "<" (·.below zero) "RetryPolicy.max_elapsed_s must be >= 0 or None"
      offer.maxElapsed).map some
  return { maxAttempts, initialDelay, multiplier, maxDelay, jitter := offer.jitter.truthy,
           maxElapsed }

/-! ## Pauses -/

/-- The pause before a retry without jitter: it grows by the multiplier from retry to retry up
to the greatest delay. -/
def backoffBase [Quantity α] (p : RetryPolicy α) (retry : Int) : Except Exception α := do
  let factor ← Quantity.pow p.multiplier (retry - 1).toNat
  return Quantity.least p.maxDelay (← Quantity.mul p.initialDelay factor)

/-- The pause before a retry, with `random` as the number drawn for it. Whether one was drawn is
the second part. -/
def backoff [Quantity α] (p : RetryPolicy α) (retry : Int) (random : α) :
    Except Exception (α × Bool) := do
  let base ← p.backoffBase retry
  if Quantity.atMost base Quantity.zero then return (Quantity.zero, false)
  else if p.jitter then return (← Quantity.mul random base, true)
  else return (base, false)

end RetryPolicy

end Colloquy
