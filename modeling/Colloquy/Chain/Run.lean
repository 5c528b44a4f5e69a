import Colloquy.Chain.Generation
import Colloquy.Program.Resume

/-!
# Running programs

A step resolves at most one operation. A run takes steps until a program is
terminal; every program that a continuation gives enters the chain at its head
again, so that all links see it.
-/

namespace Colloquy

/-! ## Steps -/

/-- The program with another continuation for its generation, put there by an owner. -/
def Program.takeOver (chat : Chat) (k : Cont) (owner : Owner) (body : Body) : Act Program := do
  return .pending (.generate chat (← k.wrap owner body))

/-- The loop of tool rounds of a link. -/
def Executor.loop (x : Executor) (owner : Owner) : ToolLoop :=
  { owner, limit := x.limit, policy := x.policy }

/-- A step after a program was taken over: what the links inside made of it, or the program
itself. -/
def changed (p : Program) (inner : Program → Act (Option Program)) : Act (Option Program) := do
  return some ((← inner p).getD p)

/-- The program after one step, none when the links pass the very same program on. -/
def Chain.step : Chain → Program → Act (Option Program)
  | [], _ => return none
  | .terminal :: _, _ => return none
  | .forward :: inner, p => Chain.step inner p
  | .generation g :: inner, p => do
    Act.ofExcept (p.validate.mapError .own)
    match p with
    | .pending (.generate chat k) => return some (← k.call (← g.generate chat))
    | _ => Chain.step inner p
  | .breakOn names :: inner, p => do
    Act.ofExcept (p.validate.mapError .own)
    let owner := (Link.breakOn names).owner inner
    match p with
    | .pending (.generate chat k) =>
      if k.ownedBy owner then Chain.step inner p
      else changed (← Program.takeOver chat k owner (.check names k)) (Chain.step inner)
    | _ => Chain.step inner p
  | .executor x :: inner, p => do
    Act.ofExcept (p.validate.mapError .own)
    let owner := (Link.executor x).owner inner
    match p with
    | .pending (.execute call k) => return some (← k.call (← x.execute call))
    | .pending (.generate chat k) =>
      if x.auto && !k.ownedBy owner then
        changed (← Program.takeOver chat k owner (.rounds (x.loop owner) k 0)) (Chain.step inner)
      else Chain.step inner p
    | _ => Chain.step inner p

/-! ## The end of a run -/

/-- What the terminal link gives out. -/
def Program.finish : Program → Except Error Outcome
  | .final value => .ok value
  | .pending (.done result) => .ok result
  | .pending operation => .error (.internal (Text.concat
      ["Program still has a pending ", operation.kind, " at the terminal interpreter"]))
  | .both _ _ => .error (Program.invalid "both")
  | .neither => .error (Program.invalid "neither")

/-- What a chain gives out for a program that is terminal. -/
def Chain.finish : Chain → Program → Except Error Outcome
  | [], _ => .error (.internal "Interpreter chain has no terminal interpreter")
  | .terminal :: _, p => p.finish
  | _ :: inner, p => Chain.finish inner p

/-- The error for a program that no link resolves. -/
def unhandled (p : Program) : Error :=
  let kind : Text := match p.operation? with
    | some operation => operation.kind
    | none => "NoneType"
  { cls := .internal
    message := Text.concat ["No interpreter in the chain handles ", kind]
    hint := .ofString "Add the matching interpreter to the chain." }

/-! ## Runs -/

/-- The outcome of a program, none when more than `fuel` steps would be needed. -/
def Chain.run (chain : Chain) : Nat → Program → Act (Option Outcome)
  | 0, _ => return none
  | fuel + 1, p => do
    Act.ofExcept (p.validate.mapError .own)
    if p.isTerminal then
      return some (← Act.ofExcept ((chain.finish p).mapError .own))
    else
      match ← chain.step p with
      | none => throw (.own (unhandled p))
      | some next => Chain.run chain fuel next

end Colloquy
