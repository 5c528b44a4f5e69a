import Colloquy.Program.Continuation

/-!
# Programs

A program is one pending operation or one final value. A pending operation carries
the continuation that takes its result to the next program. A program with both an
operation and a value, or with neither, is refused by whatever is done with it.
-/

namespace Colloquy

/-- What a program waits for. -/
inductive Operation
  | generate (chat : Chat) (k : Cont)
  | execute (call : ToolCall) (k : Cont)
  | done (result : Outcome)

/-- The name of the kind of an operation. -/
def Operation.kind : Operation → Text
  | .generate _ _ => "GenerateNextMessage"
  | .execute _ _ => "ExecuteTool"
  | .done _ => "Done"

/-- A program. -/
inductive Program
  | pending (operation : Operation)
  | final (value : Outcome)
  | both (operation : Operation) (value : Outcome)
  | neither

namespace Program

/-- The operation of a program. -/
def operation? : Program → Option Operation
  | .pending operation => some operation
  | .both operation _ => some operation
  | _ => none

/-- The value of a program. -/
def value? : Program → Option Outcome
  | .final value => some value
  | .both _ value => some value
  | _ => none

/-- Whether a program ends with a given result. -/
def isDone (p : Program) : Bool :=
  match p.operation? with
  | some (.done _) => true
  | _ => false

/-- Whether nothing of a program is left to be resolved. -/
def isTerminal (p : Program) : Bool :=
  p.value?.isSome || p.isDone

/-- A program as it is shown, when its value is a bare one. -/
def shown? : Program → Option Text
  | .pending operation => some (Text.concat ["Program(operation=", operation.kind, ")"])
  | .final (.plain (.value v)) => some (Text.concat ["Program(value=", v.shown, ")"])
  | .final _ => none
  | .both _ _ => some "Program(<invalid>)"
  | .neither => some "Program(<invalid>)"

/-- The error for a program with both an operation and a value, or with neither. -/
def invalid (state : Text) : Error :=
  .internal (Text.concat ["Invalid program state: ", state, " of operation and value present"])

/-- Refuses a program that has not exactly one of operation and value. -/
def validate : Program → Except Error Unit
  | .pending _ => .ok ()
  | .final _ => .ok ()
  | .both _ _ => .error (invalid "both")
  | .neither => .error (invalid "neither")

end Program

end Colloquy
