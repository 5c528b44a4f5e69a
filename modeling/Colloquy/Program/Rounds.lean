import Colloquy.Number
import Colloquy.Error.Basic

/-!
# Rules of tool rounds

When the model asks for tools, their results go back to it and it is asked again:
one round. How many rounds there may be and what a failed call does is settled
before a run.
-/

namespace Colloquy

/-- The greatest number of tool rounds: a count, the truth value that counts as one, or a float,
which need not be a number. -/
inductive RoundLimit
  | count (n : Nat) (positive : 1 ≤ n)
  | flag
  | real (x : Float) (notBelow : (Number.float x).below (.int 1) = false)

namespace RoundLimit

/-- The value that a limit is written as. -/
def toValue : RoundLimit → Value
  | .count n _ => .int n
  | .flag => .bool true
  | .real x _ => .float x

/-- The limit that a value is: none when it is below one, and an exception when it cannot be
compared. -/
def ofValue? : Value → Except Exception (Option RoundLimit)
  | .bool b => .ok (if b then some .flag else none)
  | .int (.ofNat n) => .ok (if h : 1 ≤ n then some (.count n h) else none)
  | .int (.negSucc _) => .ok none
  | .float x =>
    .ok (if h : (Number.float x).below (.int 1) = false then some (.real x h) else none)
  | other => .error (other.incomparable "<")

/-- Whether a number of rounds reaches a limit. -/
def reached (limit : RoundLimit) (rounds : Nat) : Bool :=
  match limit with
  | .count n _ => n ≤ rounds
  | .flag => 1 ≤ rounds
  | .real x _ => (Number.float x).atMost (.int rounds)

end RoundLimit

/-- What a failed tool call does to a turn: fail it, or tell the model. -/
inductive ToolErrorPolicy
  | raise
  | continue
  deriving DecidableEq

/-- The name of a policy. -/
def ToolErrorPolicy.name : ToolErrorPolicy → Text
  | .raise => "raise"
  | .continue => "continue"

/-- A link of a chain as the owner of continuations: its place, counted from the inside, and the
name of its kind. -/
structure Owner where
  place : Nat
  kind : Text
  deriving DecidableEq

/-- The loop of tool rounds that a link drives. -/
structure ToolLoop where
  owner : Owner
  limit : RoundLimit
  policy : ToolErrorPolicy

end Colloquy
