import Colloquy.Proofs.Error.Escape
import Colloquy.Tool.Inference

/-!
# What is registered

A registry begins with the tools that it is made of, and tools are registered after
that: a definition with its handler, or a function.  An insertion that fails leaves the
registry as it is, and one that succeeds puts one tool at the end
(`Registry.insert_eq_ok_iff`).  So after any insertions the tools are those that were
accepted, in order, and the tool of a name is the first one that was offered under it.
-/

namespace Colloquy.Registry

variable {r r' : Registry} {tool : Tool} {tools : List Tool} {name : Text}

/-! ## One tool -/

/-- What may be registered: a definition with what is to run for it, or a function under a name,
with a description and with a type for its output. -/
inductive Insertion
  | ofDefinition (definition : ToolDefinition) (handler : Option Handler)
  | ofFunction (f : ToolFunction) (name description : Value) (output : Option OutputModel)

/-- The registry with what is registered. -/
def insert (r : Registry) : Insertion → Except Exception Registry
  | .ofDefinition definition handler => (r.register definition handler).mapError .own
  | .ofFunction f name description output => r.registerFunction f name description output

variable {i : Insertion} {insertions : List Insertion}

/-- The registry after an attempt to register: one that fails leaves it as it is. -/
def attempt (r : Registry) (i : Insertion) : Registry :=
  match r.insert i with
  | .ok grown => grown
  | .error _ => r

/-- The registry after attempts, whether they fail or not. -/
def attempts (r : Registry) (insertions : List Insertion) : Registry :=
  insertions.foldl attempt r

end Colloquy.Registry
