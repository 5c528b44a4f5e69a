import Colloquy.Program.Basic

/-!
# Building programs

A plan is built into a program. One program follows another at once when the first
has a value, and through its continuation when it waits for an operation.
-/

namespace Colloquy

/-- What a callback gave: a program, or something else. -/
inductive Built
  | program (p : Program)
  | stray (value : Outcome)

/-- The program that was built; for anything else the error says who expected one. -/
def Built.expect (who : Text) : Built → Act Program
  | .program p => pure p
  | .stray value => throw (.own (.internal
      (Text.concat [who, " returned ", value.typeName, ", expected Program"])))

/-- A program followed by a frame. A final value goes to the frame at once, which `apply` does; of
a pending operation the continuation is extended. A program that is done stays as it is. -/
def Program.sequence (p : Program) (frame : Frame) (apply : Outcome → Act Built) : Act Program :=
  match p with
  | .final value => do (← apply value).expect "and_then callback"
  | .pending (.generate chat k) => do
    return .pending (.generate chat (← Cont.issue [] (.extended k frame)))
  | .pending (.execute call k) => do
    return .pending (.execute call (← Cont.issue [] (.extended k frame)))
  | .pending (.done result) => return .pending (.done result)
  | .both _ _ => throw (.own (Program.invalid "both"))
  | .neither => throw (.own (Program.invalid "neither"))

/-- Builds the program of a plan. -/
def Plan.build : Plan → Act Built
  | .pure value => return .program (.final value)
  | .generate chat => do
    return .program (.pending (.generate chat (← Cont.issue [] (.callback .pure))))
  | .execute call => do
    return .program (.pending (.execute call (← Cont.issue [] (.callback .pure))))
  | .done result => return .program (.pending (.done result))
  | .andThen first next => do
    match ← first.build with
    | .stray value => throw (.missingAttribute value.typeName "and_then")
    | .program p =>
      return .program (← p.sequence (.callback next) fun value => (next value).build)
  | .neither => return .program .neither
  | .both result value => return .program (.both (.done result) value)
  | .raise e => throw e
  | .stray value => return .stray value
  | .note name plan => do
    Act.record (.noted name)
    plan.build

/-- A program followed by what a callback gives for its value. -/
def Program.andThen (p : Program) (next : Outcome → Plan) : Act Program :=
  p.sequence (.callback next) fun value => (next value).build

end Colloquy
