import Colloquy.Tool.Registry

/-!
# Tools from functions

A function of one annotated parameter can be registered as it stands: its
annotation is the input, its name and its documentation describe the tool unless
the caller says otherwise.
-/

namespace Colloquy

/-- A function as it declares itself. -/
structure ToolFunction where
  name : Text
  /-- The documentation, empty when there is none. -/
  documentation : Text
  /-- Why the annotations cannot be resolved, if they cannot. -/
  unresolved : Option Text
  /-- The model that each parameter which can be given by position is annotated with. -/
  parameters : List (Option InputModel)
  handler : Handler

namespace ToolFunction

/-- The error for a function whose annotations cannot be resolved. -/
def unresolvable (f : ToolFunction) (reason : Text) : Error where
  cls := .configuration
  message := Text.concat ["Cannot resolve annotations of ", f.name.quoted, ": ", reason]

/-- The error for a function that does not take a single model. -/
def unfit (f : ToolFunction) : Error where
  cls := .configuration
  message := Text.concat ["Tool function ", f.name.quoted,
    " must take one argument annotated with a pydantic model"]
  hint := .ofString "Use ToolRegistry.register(ToolDefinition(...), handler) instead."

/-- The input of a function. -/
def input (f : ToolFunction) : Except Error InputModel :=
  match f.unresolved with
  | some reason => .error (f.unresolvable reason)
  | none =>
    match f.parameters with
    | [some model] => .ok model
    | _ => .error f.unfit

end ToolFunction

/-- The registry with a function, under the name and the description that the caller gives, if
they count as true. -/
def Registry.registerFunction (r : Registry) (f : ToolFunction) (name description : Value)
    (output : Option OutputModel) : Except Exception Registry := do
  let input ← f.input.mapError .own
  let name := if name.truthy then name else .text f.name
  let description := if description.truthy then description else .text f.documentation
  let definition ← ToolDefinition.make? name description (some input) output
  (r.register definition (some f.handler)).mapError .own

end Colloquy
