import Colloquy.Chat.Basic
import Colloquy.Tool.Model

/-!
# Definitions of tools

A definition says what a tool is called, what it is for, what arguments it takes
and as what its output is written. A backend sees it as a specification with the
schema of the arguments.
-/

namespace Colloquy

/-- The name of a tool, its description, the model of its arguments, and the type of its output when
there is one. -/
structure ToolDefinition where
  name : Text
  description : Value
  input : InputModel
  output : Option OutputModel := none
  named : name ≠ []

namespace ToolDefinition

/-- A definition from what a caller offers; the input is none when it is no model. -/
def make? (name description : Value) (input : Option InputModel) (output : Option OutputModel) :
    Except Exception ToolDefinition :=
  let badName := Exception.value "name: must be a non-empty str"
  match name with
  | .text name =>
    if h : name ≠ [] then
      match input with
      | some input => .ok ⟨name, description, input, output, h⟩
      | none => .error (.type "input_model: must be a pydantic BaseModel subclass")
    else .error badName
  | _ => .error badName

/-- The specification that a backend sees. -/
def spec (d : ToolDefinition) : ToolSpec where
  name := d.name
  description := d.description
  parameters := d.input.schema
  named := d.named

end ToolDefinition

end Colloquy
