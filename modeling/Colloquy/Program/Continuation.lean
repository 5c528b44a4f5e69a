import Colloquy.Program.Plan
import Colloquy.Program.Rounds

/-!
# Continuations

A continuation takes the result of an operation to the next program. Continuations
are data: each names what it goes on with, so a program can be taken apart, and
taken over by the links of a chain. Each can be used once.
-/

namespace Colloquy

mutual

/-- What is done with the result of an operation. It can be done once. The owners are the links
that have taken it over. -/
inductive Cont
  | mk (number : Nat) (owners : List Owner) (body : Body)

/-- How a continuation goes on. -/
inductive Body
  /-- With the program that a callback gives. -/
  | callback (f : Outcome → Plan)
  /-- With another continuation, and after its program with a frame. -/
  | extended (k : Cont) (frame : Frame)
  /-- After a generation: with its tool calls, when rounds are left, else with the continuation
  that was there. -/
  | rounds (loop : ToolLoop) (k : Cont) (count : Nat)
  /-- After a generation: with the end, when a call of one of the tools is among its calls, else
  with the continuation that was there. -/
  | check (names : List Text) (k : Cont)

/-- What comes after a program. -/
inductive Frame
  /-- The program that a callback gives. -/
  | callback (f : Outcome → Plan)
  /-- The next tool call of a round. -/
  | answer (call : ToolCall) (policy : ToolErrorPolicy)
  /-- The message that answers a tool call. -/
  | record (chat : Chat) (call : ToolCall) (policy : ToolErrorPolicy)
  /-- The generation after a round. -/
  | regenerate (loop : ToolLoop) (k : Cont) (count : Nat)

end

namespace Cont

/-- The number of a continuation. -/
def number : Cont → Nat
  | ⟨number, _, _⟩ => number

/-- The links that have taken a continuation over. -/
def owners : Cont → List Owner
  | ⟨_, owners, _⟩ => owners

/-- Whether a link has taken a continuation over. -/
def ownedBy (k : Cont) (owner : Owner) : Bool :=
  k.owners.contains owner

/-- A new continuation. -/
def issue (owners : List Owner) (body : Body) : Act Cont := do
  return ⟨← Act.issue, owners, body⟩

/-- A new continuation that an owner puts in the place of another one. -/
def wrap (k : Cont) (owner : Owner) (body : Body) : Act Cont :=
  issue (k.owners.insert owner) body

/-- A continuation as it is shown: whether it is used up, and the kinds of its owners. -/
def shown (k : Cont) (ledger : Ledger) : Text :=
  let state : Text := if k.number ∈ ledger.spent then "consumed" else "pending"
  let kinds := Text.sort (k.owners.map Owner.kind)
  Text.concat ["<Continuation ", state, " owners=", (Value.list (kinds.map Value.text)).shown, ">"]

end Cont

end Colloquy
