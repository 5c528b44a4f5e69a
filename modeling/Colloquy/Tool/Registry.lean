import Colloquy.Tool.Basic
import Colloquy.Value.Access

/-!
# The registry of tools

A registry holds tools in the order in which they were registered, under distinct
names. A call runs exactly one handler, and never twice.
-/

namespace Colloquy

/-- Tools under distinct names, in the order of their registration. -/
structure Registry where
  tools : List Tool := []
  distinct : (tools.map Tool.name).Nodup := by simp

namespace Registry

/-- The names of the tools. -/
def names (r : Registry) : List Text :=
  r.tools.map Tool.name

/-- The specifications of the tools. -/
def specs (r : Registry) : List ToolSpec :=
  r.tools.map fun tool => tool.definition.spec

/-- The tool of a name. -/
def get? (r : Registry) (name : Text) : Option Tool :=
  r.tools.find? fun tool => tool.name = name

/-- The tool under any value that can be a key. -/
def lookup? (r : Registry) (key : Value) : Except Exception (Option Tool) :=
  match key.unhashable? with
  | some typeName => .error (Value.unhashable typeName)
  | none => .ok (match key with
    | .text name => r.get? name
    | _ => none)

/-! ## Registration -/

/-- The error for a name that is taken. -/
def taken (name : Text) : Error where
  cls := .configuration
  message := Text.concat ["Tool ", name.quoted, " is already registered"]
  hint := .ofString "Tool names must be unique within a registry."

/-- The registry with a tool at the end. -/
def add (r : Registry) (tool : Tool) : Except Error Registry :=
  if h : tool.name ∈ r.names then .error (taken tool.name)
  else .ok
    { tools := r.tools ++ [tool]
      distinct := by
        rw [List.map_append, List.nodup_append]
        refine ⟨r.distinct, by simp, ?_⟩
        intro a ha b hb
        simp only [List.map_cons, List.map_nil, List.mem_singleton] at hb
        rintro rfl
        exact h (hb ▸ ha) }

/-- The registry of tools that are added one by one. -/
def ofList (tools : List Tool) : Except Error Registry :=
  tools.foldlM add {}

/-- The registry with a definition and its handler, none when what was offered cannot run. -/
def register (r : Registry) (definition : ToolDefinition) (handler : Option Handler) :
    Except Error Registry :=
  match handler with
  | some handler => r.add ⟨definition, handler⟩
  | none => .error
    { cls := .configuration
      message := Text.concat
        ["Handler for tool ", definition.name.quoted, " is not callable"] }

/-! ## Calls -/

/-- The error for a call of a tool that is not registered. -/
def unknown (r : Registry) (call : ToolCall) : Error where
  cls := .toolNotFound
  message := Text.concat ["Unknown tool ", call.name.quoted]
  toolName := .text call.name
  toolCallId := .text call.id
  hint := .text (Text.concat ["Registered tools: ",
    if r.names.isEmpty then Text.ofString "none"
    else (Value.list ((Text.sort r.names).map Value.text)).shown])

/-- The error for a handler that failed. -/
def failed (call : ToolCall) (e : Exception) : Error where
  cls := .toolExecution
  message := Text.concat ["Tool ", call.name.quoted, " failed: ", e.text]
  toolName := .text call.name
  toolCallId := .text call.id

/-- What comes of an exception of a handler: an error of the call, unless the exception is not an
ordinary one. -/
def ofHandler (call : ToolCall) (result : Except Exception Output) : Except Exception Output :=
  result.mapError fun e => if e.isOrdinary then .own (failed call e) else e

/-- Runs the handler for a call. -/
def invoke (r : Registry) (call : ToolCall) : Act ToolResult := do
  Act.record (.invoked call)
  match r.get? call.name with
  | none => throw (.own (r.unknown call))
  | some tool =>
    let arguments ← Act.ofExcept ((tool.arguments call).mapError .own)
    Act.record (.handled arguments)
    let output ← Act.ofExcept (ofHandler call (tool.handler (← get).events arguments))
    let content ← Act.ofExcept ((tool.written output).mapError .own)
    return { callId := call.id, content, toolName := .text call.name }

end Registry

end Colloquy
