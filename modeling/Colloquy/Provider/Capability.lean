import Colloquy.Chat.Basic
import Colloquy.Provider.Basic
import Colloquy.Value.Access

/-!
# What a backend can express

A chat is checked against the capabilities of a backend before a request is built
for it. A choice that forces a tool also has to name one that is offered, and what is
no choice at all has no mode to look at.
-/

namespace Colloquy

/-- The error for a chat that uses what a backend lacks. -/
def Error.unsupported (provider message hint : Text) : Error :=
  { cls := .unsupportedFeature, message := Text.concat [provider, message],
    provider := .text provider, hint := .text hint }

/-- The error for a choice that forces a tool which the chat does not offer. -/
def Error.badChoice (message hint : Text) : Error :=
  { cls := .configuration, message, hint := .text hint }

/-- Whether a choice forces the use of a tool. -/
def ToolChoice.forces : ToolChoice → Bool
  | .auto => false
  | .none => false
  | .any => true
  | .specific _ => true

/-- Whether a choice forces the use of one tool. -/
def ToolChoice.isSpecific : ToolChoice → Bool
  | .specific _ => true
  | _ => false

/-- A name that a choice forces has to be the name of one of the tools. What cannot be a key is
not looked for, and what cannot be shown is not told either. -/
def checkNamed (tools : List ToolSpec) (name : Value) : Except Exception Unit :=
  match name.unhashable? with
  | some typeName => .error (Value.unhashable typeName)
  | none =>
    if tools.any fun spec => name.same (.text spec.name) then .ok ()
    else match name.unshown? Json.depthLimit with
      | some (cls, text) => .error (.foreign cls text)
      | none => .error (.own (.badChoice
        (Text.concat ["tool_choice names ", name.shown, ", which is not in Chat.tools"])
        "Name one of the tools offered in Chat.tools."))

/-- A forcing choice has to be one that the backend knows and that the tools of the chat
allow. -/
def checkChoice (tools : List ToolSpec) (capabilities : Capabilities) (provider : Text)
    (choice : ToolChoice) : Except Exception Unit :=
  if !choice.forces then .ok ()
  else if !capabilities.forcedToolChoice
      || (choice.isSpecific && !capabilities.specificToolChoice) then
    .error (.own (.unsupported provider
      (Text.concat [" cannot force tool use (tool_choice=", choice.mode.quoted, ")"])
      "Use ToolChoice.auto() or ToolChoice.none() with this provider."))
  else if tools.isEmpty then
    .error (.own (.badChoice (Text.concat ["tool_choice=", choice.mode.quoted,
        " requires at least one tool in Chat.tools"])
      "Add tools with Chat.with_tools() or use ToolChoice.auto()."))
  else match choice with
    | .specific name => checkNamed tools name
    | _ => .ok ()

/-- Refuses a chat that a backend cannot express. -/
def checkChat (chat : Chat) (capabilities : Capabilities) (provider : Text) :
    Except Exception Unit :=
  if !chat.tools.isEmpty && !capabilities.tools then
    .error (.own (.unsupported provider " does not accept tool definitions"
      "Remove Chat.tools or switch provider."))
  else if !capabilities.images && chat.history.any Message.hasImages then
    .error (.own (.unsupported provider " does not accept image content"
      "Send text-only content or switch provider."))
  else match chat.choice with
    | none => .ok ()
    | some (.choice choice) => checkChoice chat.tools capabilities provider choice
    | some (.stray value _) => .error (.missingAttribute value.typeName "mode")

end Colloquy
