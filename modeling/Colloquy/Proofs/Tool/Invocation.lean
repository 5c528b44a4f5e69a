import Colloquy.Proofs.Chain.Cancellation
import Colloquy.Proofs.Tool.Registration
import Colloquy.Schema.Model

/-!
# What a call comes to

A call is settled in stages: the tool is looked up, its model makes an instance of the text
of the arguments, the handler runs, and what it returns is written.  `Registry.Serves` is
what each stage makes of a call.  One handler runs, once, when the tool is there and the
arguments fit, and none otherwise; what the others would do does not matter
(`Registry.invoke_congr`).

What validation and writing give is up to the models, of which nothing is asked here.
`InputModel.Takes` and `Output.WrittenAs` say which of their results counts for a call.
-/

namespace Colloquy

/-! ## Arguments -/

/-- An error tells which call it is about. -/
def Error.Names (e : Error) (call : ToolCall) : Prop :=
  e.toolName = .text call.name ∧ e.toolCallId = .text call.id

/-- What becomes of the output of a tool: a text is left as it is, an instance has its own document,
another value has the document of the type that the definition asks for, or its plain one when
it asks for none. -/
inductive Output.WrittenAs (d : ToolDefinition) : Output → Written → Prop
  | text (t : Text) : WrittenAs d (.text t) (.ok t)
  | model (i : ModelInstance) : WrittenAs d (.model i) i.document
  | typed {type : OutputModel} (value : Value) (plain : Written) (asked : d.output = some type) :
      WrittenAs d (.other value plain) (type.document value)
  | plain (value : Value) (plain : Written) (unasked : d.output = none) :
      WrittenAs d (.other value plain) plain

namespace Registry

variable {r : Registry} {call : ToolCall} {l : Ledger} {tool : Tool} {i : ModelInstance}

/-- The ledger with further events. -/
def noting (l : Ledger) (events : List Event) : Ledger :=
  { l with events := l.events ++ events }

end Registry

namespace Tool

variable {tool : Tool} {call : ToolCall} {events : List Event} {i : ModelInstance}
  {output : Output}

end Tool

namespace Registry

variable {r r' : Registry} {call : ToolCall} {l : Ledger} {tool : Tool} {i : ModelInstance}

/-! ## One handler alone -/

end Registry

end Colloquy
