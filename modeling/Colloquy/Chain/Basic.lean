import Colloquy.Program.Basic
import Colloquy.Provider.Basic
import Colloquy.Tool.Registry
import Colloquy.Transport.Script

/-!
# Chains of interpreters

A chain is a list of links, the outermost in front. Each link resolves the
operations it knows and leaves the rest to the links inside it. The terminal link
resolves nothing and gives out final values.
-/

namespace Colloquy

/-! ## Links -/

/-- The link that runs tools, and that answers the tool calls of every generation when it is
automatic. -/
structure Executor where
  registry : Registry
  auto : Bool
  limit : RoundLimit
  policy : ToolErrorPolicy

/-- The link that asks the backend. -/
structure Generator where
  backend : Backend
  model : Value
  transport : Transport

/-- A link of a chain. -/
inductive Link
  | executor (x : Executor)
  | breakOn (names : List Text)
  | generation (g : Generator)
  | forward
  | terminal

/-- The links of a chain, the outermost in front. -/
abbrev Chain := List Link

/-- The name of the kind of a link. -/
def Link.kind : Link → Text
  | .executor _ => "ToolExecutorInterpreter"
  | .breakOn _ => "BreakOnToolInterpreter"
  | .generation _ => "GenerationInterpreter"
  | .forward => "Interpreter"
  | .terminal => "TerminalInterpreter"

/-- A chain as it is shown. -/
def Chain.shown : Chain → Text
  | [] => "None"
  | .terminal :: _ => "TerminalInterpreter()"
  | link :: inner => Text.concat [link.kind, "(inner=", Chain.shown inner, ")"]

/-- The owner that a link is when `inner` are the links inside it. -/
def Link.owner (link : Link) (inner : Chain) : Owner :=
  ⟨inner.length, link.kind⟩

/-! ## Links from what a caller offers -/

/-- The policy of a value. -/
def ToolErrorPolicy.ofValue? (v : Value) : Option ToolErrorPolicy :=
  [ToolErrorPolicy.raise, ToolErrorPolicy.continue].find? fun policy => v.same (.text policy.name)

/-- The link that runs tools. -/
def Executor.make? (registry : Registry) (auto rounds policy : Value) :
    Except Exception Executor := do
  match ← RoundLimit.ofValue? rounds with
  | none => throw (.value "max_tool_rounds must be >= 1")
  | some limit =>
    match ToolErrorPolicy.ofValue? policy with
    | none => throw (.value (Text.concat ["Unknown tool_error_policy: ", policy.shown]))
    | some policy => return { registry, auto := auto.truthy, limit, policy }

/-- The names of tools among values. -/
def namesAmong (values : List Value) : List Text :=
  values.filterMap fun
    | .text name => some name
    | _ => none

/-- The tools to end a turn on: a single name, or every name in a sequence that is not empty. -/
def breakNames (names : Value) : Except Exception (List Text) := do
  let names ← match names with
    | .text name => pure [.text name]
    | other => other.iterate
  if names.isEmpty then throw (.value "BreakOnToolInterpreter needs at least one tool name")
  match Value.unhashableItem? names with
  | some typeName => throw (Value.unhashable typeName)
  | none => return namesAmong names

end Colloquy
