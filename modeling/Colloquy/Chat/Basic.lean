import Colloquy.Chat.Message

/-!
# Chats

A chat is the conversation that every operation passes on: its history, and the
settings of the next generation. A chat is never changed; every change gives a
new one.
-/

namespace Colloquy

/-! ## Tool specifications -/

/-- What a backend sees of a tool: its name, a description and the schema of its arguments. -/
structure ToolSpec where
  name : Text
  description : Value
  parameters : Fields
  named : name ≠ []

/-- A tool specification from what a caller offers. -/
def ToolSpec.make? (name description parameters : Value) : Except Exception ToolSpec :=
  let badName := Exception.value "name: must be a non-empty str"
  match name with
  | .text name =>
    if h : name ≠ [] then
      match parameters with
      | .object parameters => .ok ⟨name, description, parameters, h⟩
      | _ => .error (.type "parameters: must be a JSON-schema dict")
    else .error badName
  | _ => .error badName

/-- Whether two tool specifications are equal. -/
def ToolSpec.same (a b : ToolSpec) : Bool :=
  a.name == b.name && a.description.same b.description
    && (Value.object a.parameters).same (.object b.parameters)

/-! ## Tool choice -/

/-- Which tools the model may or must call: as it likes, some tool, none, or the named one. -/
inductive ToolChoice
  | auto
  | any
  | none
  | specific (name : Value)

namespace ToolChoice

/-- The name of the mode of a choice. -/
def mode : ToolChoice → Text
  | .auto => "auto"
  | .any => "any"
  | .none => "none"
  | .specific _ => "specific"

/-- The tool that a choice names, null when it names none. -/
def toolName : ToolChoice → Value
  | .specific name => name
  | _ => .null

/-- The mode of a name other than the specific one. -/
def plain? (mode : Value) : Option ToolChoice :=
  [ToolChoice.auto, ToolChoice.any, ToolChoice.none].find? fun choice =>
    mode.same (.text choice.mode)

/-- A tool choice from what a caller offers. -/
def make? (mode name : Value) : Except Exception ToolChoice :=
  if mode.same (.ofString "specific") then
    if name.truthy then .ok (.specific name)
    else .error (.value "name: a specific tool choice needs a tool name")
  else match plain? mode with
    | .some choice =>
      if name.isNull then .ok choice
      else .error (.value (Text.concat
        ["name: name is only valid with mode='specific', got mode=", mode.shown]))
    | .none => .error (.value (Text.concat ["mode: unknown tool choice ", mode.shown]))

/-- Whether two choices are equal. -/
def same (a b : ToolChoice) : Bool :=
  a.mode == b.mode && a.toolName.same b.toolName

end ToolChoice

/-- What a chat is given as its tool choice: a choice, or some other value in its place. A chat
takes either; only a request needs a choice. -/
inductive ChoiceSetting
  | choice (c : ToolChoice)
  | stray (value : Value) (given : value.isNull = false)

namespace ChoiceSetting

/-- The setting that a value other than a choice makes, none when it is null. -/
def ofValue? (value : Value) : Option ChoiceSetting :=
  if h : value.isNull = false then some (.stray value h) else none

/-- The choice of a setting. -/
def choice? : ChoiceSetting → Option ToolChoice
  | .choice c => some c
  | .stray _ _ => none

/-- Whether two settings are equal. -/
def same : ChoiceSetting → ChoiceSetting → Bool
  | .choice a, .choice b => a.same b
  | .stray a _, .stray b _ => a.same b
  | _, _ => false

end ChoiceSetting

/-! ## Limits -/

/-- The greatest number of tokens of a reply: a positive count, or the truth value that counts
as one. -/
inductive TokenLimit
  | count (n : Nat) (positive : 0 < n)
  | flag

namespace TokenLimit

/-- The value that a limit is written as. -/
def toValue : TokenLimit → Value
  | .count n _ => .int n
  | .flag => .bool true

/-- The number of tokens. -/
def tokens : TokenLimit → Nat
  | .count n _ => n
  | .flag => 1

/-- A limit from what a caller offers. -/
def make? (offered : Value) : Except Exception TokenLimit :=
  let fault := Exception.value
    (Text.concat ["max_output_tokens: must be a positive int, got ", offered.shown])
  match offered with
  | .bool true => .ok .flag
  | .int (.ofNat n) => if h : 0 < n then .ok (.count n h) else .error fault
  | _ => .error fault

end TokenLimit

/-! ## Chats -/

/-- A conversation and the settings of its next generation. -/
structure Chat where
  history : List Message := []
  systemPrompt : Value := .null
  tools : List ToolSpec := []
  choice : Option ChoiceSetting := none
  maxOutputTokens : TokenLimit := .count 2048 (by decide)

namespace Chat

/-- The tool choice, none also when something else is in its place. -/
def toolChoice (chat : Chat) : Option ToolChoice :=
  chat.choice.bind ChoiceSetting.choice?

/-- The exception for a history that holds something other than messages. -/
def badHistory : Exception :=
  .type "history: must be a tuple of messages"

/-- The exception for tools that are something other than specifications. -/
def badTools : Exception :=
  .type "tools: must be a tuple of ToolSpec"

/-- A chat from what a caller offers. -/
def make? (history : Offered Message) (systemPrompt : Value) (tools : Offered ToolSpec)
    (choice : Option ChoiceSetting) (limit : Value) : Except Exception Chat :=
  match history.items? with
  | none => .error badHistory
  | some history =>
    match tools.items? with
    | none => .error badTools
    | some tools => do
      return { history, systemPrompt, tools, choice,
               maxOutputTokens := ← TokenLimit.make? limit }

/-- The chat with a message at the end of its history. -/
def addMessage (chat : Chat) (message : Message) : Chat :=
  { chat with history := chat.history ++ [message] }

/-- The chat with what a caller offers as messages at the end of its history. -/
def addOffered? (chat : Chat) (messages : List (Option Message)) : Except Exception Chat :=
  match Offered.items? (some messages) with
  | none => .error badHistory
  | some messages => .ok { chat with history := chat.history ++ messages }

/-- The chat with another system prompt. -/
def withSystemPrompt (chat : Chat) (prompt : Value) : Chat :=
  { chat with systemPrompt := prompt }

/-- The chat with what a caller offers as its tools. -/
def withTools? (chat : Chat) (tools : List (Option ToolSpec)) : Except Exception Chat :=
  match Offered.items? (some tools) with
  | none => .error badTools
  | some tools => .ok { chat with tools }

/-- The chat with another tool choice. -/
def withToolChoice (chat : Chat) (choice : Option ChoiceSetting) : Chat :=
  { chat with choice }

/-- The chat with another limit of tokens. -/
def withTokenLimit? (chat : Chat) (limit : Value) : Except Exception Chat := do
  return { chat with maxOutputTokens := ← TokenLimit.make? limit }

/-- The last message. -/
def lastMessage? (chat : Chat) : Option Message :=
  chat.history.getLast?

/-- The last assistant message. -/
def lastAssistant? (chat : Chat) : Option AssistantMessage :=
  chat.history.reverse.findSome? Message.assistant?

/-- The first tool of a name. -/
def toolSpec? (chat : Chat) (name : Text) : Option ToolSpec :=
  chat.tools.find? fun spec => spec.name = name

/-- Whether two chats are equal. -/
def same (a b : Chat) : Bool :=
  let sameAll {α : Type} (eq : α → α → Bool) (as bs : List α) : Bool :=
    as.length == bs.length && (as.zip bs).all fun (x, y) => eq x y
  sameAll Message.same a.history b.history
    && a.systemPrompt.same b.systemPrompt
    && sameAll ToolSpec.same a.tools b.tools
    && (match a.choice, b.choice with
      | none, none => true
      | some x, some y => x.same y
      | _, _ => false)
    && a.maxOutputTokens.tokens == b.maxOutputTokens.tokens

end Chat

end Colloquy
