import Colloquy.Proofs.Provider.Alternation

/-!
# Tool choices in requests

A tool choice is checked against what the backend can express and against the tools of the
chat, and then it is put in the words of the backend.  `Provider.word?` lists these words;
`Provider.toolsIn` and `Provider.directive` read off a payload which tools it offers and
what it says of their use.

`Provider.Honours` says what a payload must offer and say under each choice, and
`Backend.choice_honoured` that the payload of every request does: a choice that forces a
tool is never sent without tools or in weaker words.
-/

namespace Colloquy

namespace Provider

/-! ## Tools and words in payloads -/

/-- The tools that a payload offers. -/
def toolsIn (p : Provider) (payload : Value) : List Value :=
  match p with
  | .gemini => (payload.field "tools").elements.flatMap fun group =>
      (group.field "functionDeclarations").elements
  | _ => (payload.field "tools").elements

/-- The name of a tool that a payload offers. -/
def toolName (p : Provider) (tool : Value) : Value :=
  match p with
  | .openai | .mistral | .ollama => (tool.field "function").field "name"
  | _ => tool.field "name"

/-- What a payload says of the use of tools, null when it says nothing. -/
def directive (p : Provider) (payload : Value) : Value :=
  match p with
  | .gemini => (payload.field "toolConfig").field "functionCallingConfig"
  | _ => payload.field "tool_choice"

/-- The words of a backend for a choice, if it has words for it. -/
def word? (p : Provider) (choice : ToolChoice) : Option Value :=
  match p, choice with
  | .openai, .auto | .mistral, .auto => some (.ofString "auto")
  | .openai, .any => some (.ofString "required")
  | .mistral, .any => some (.ofString "any")
  | .openai, .none | .mistral, .none => some (.ofString "none")
  | .openai, .specific name =>
    some (.object [("type", .ofString "function"), ("function", .object [("name", name)])])
  | .mistral, .specific _ => none
  | .anthropic, .auto => some (.object [("type", .ofString "auto")])
  | .anthropic, .any => some (.object [("type", .ofString "any")])
  | .anthropic, .none => some (.object [("type", .ofString "none")])
  | .anthropic, .specific name => some (.object [("type", .ofString "tool"), ("name", name)])
  | .gemini, .auto => some (.object [("mode", .ofString "AUTO")])
  | .gemini, .any => some (.object [("mode", .ofString "ANY")])
  | .gemini, .none => some (.object [("mode", .ofString "NONE")])
  | .gemini, .specific name =>
    some (.object [("mode", .ofString "ANY"), ("allowedFunctionNames", .list [name])])
  | .mock, .auto => some (.object [("mode", .ofString "auto"), ("name", .null)])
  | .mock, .any => some (.object [("mode", .ofString "any"), ("name", .null)])
  | .mock, .none => some (.object [("mode", .ofString "none"), ("name", .null)])
  | .mock, .specific name => some (.object [("mode", .ofString "specific"), ("name", name)])
  | .ollama, _ => none

/-- A payload honours a choice.  Some tool is forced with tools to choose from.  A named tool is
among them, and it is named in the words of the backend, or there are no tools of other names.
Without tools nothing has to be forbidden.  Without a choice no tool is forced. -/
def Honours (p : Provider) (payload : Value) : Option ToolChoice → Prop
  | some .any => p.toolsIn payload ≠ [] ∧ p.word? .any = some (p.directive payload)
  | some (.specific name) =>
    (∃ tool ∈ p.toolsIn payload, p.toolName tool = name) ∧
    (p.word? (.specific name) = some (p.directive payload) ∨
      p.word? .any = some (p.directive payload) ∧
        ∀ tool ∈ p.toolsIn payload, p.toolName tool = name)
  | some .none => p.word? .none = some (p.directive payload) ∨ p.toolsIn payload = []
  | some .auto | none =>
    p.directive payload = .null ∨ p.word? .auto = some (p.directive payload)

/-! ## What is sent -/

/-- The tools of a chat that are sent. -/
def sentTools (p : Provider) (chat : Chat) : List ToolSpec :=
  match p with
  | .openai => OpenAI.Dialect.openai.tools chat
  | .mistral => OpenAI.Dialect.mistral.tools chat
  | .ollama => Ollama.tools chat
  | _ => chat.tools

/-- The words that are sent for a choice, when tools are sent: those for any tool where there are
none for one, and for no choice those for a free one or nothing. -/
def wording (p : Provider) : Option ToolChoice → Value
  | none => if p = .openai ∨ p = .mistral then .ofString "auto" else .null
  | some choice => ((p.word? choice).or (p.word? .any)).getD .null

/-- A payload offers the tools of a chat, and says the words for its choice, unless there are no
tools. -/
structure Announces (p : Provider) (chat : Chat) (payload : Value) : Prop where
  tools : ∃ write : ToolSpec → Value, (∀ spec, p.toolName (write spec) = .text spec.name) ∧
    p.toolsIn payload = (p.sentTools chat).map write
  words : p.directive payload = p.wording chat.toolChoice ∨
    p.sentTools chat = [] ∧ p.directive payload = .null

end Provider

/-! ## Checks -/

/-- A choice that forces a tool can be made of the tools. -/
def ToolChoice.Granted (tools : List ToolSpec) : ToolChoice → Prop
  | .any => tools ≠ []
  | .specific name => ∃ spec ∈ tools, name = .text spec.name
  | _ => True

theorem checkNamed_eq_ok {tools : List ToolSpec} {name : Value}
    (h : checkNamed tools name = .ok ()) :
    ∃ spec ∈ tools, name = .text spec.name := by
  unfold checkNamed at h
  split at h
  · cases h
  · split at h
    · rename_i hany
      obtain ⟨spec, hspec, hsame⟩ := List.any_eq_true.1 hany
      exact ⟨spec, hspec, Value.same_text_iff.1 hsame⟩
    · split at h
      · cases h
      · cases h

/-- A choice that forces a tool passes when the backend can be forced, there are tools, and a named
one is among them. -/
theorem checkChoice_of_forces {tools : List ToolSpec} {capabilities : Capabilities}
    {provider : Text} {choice : ToolChoice} (hforces : choice.forces = true)
    (h : checkChoice tools capabilities provider choice = .ok ()) :
    capabilities.forcedToolChoice = true ∧ tools ≠ [] ∧
      ∀ name, choice = .specific name → checkNamed tools name = .ok () := by
  unfold checkChoice at h
  rw [hforces, Bool.not_true, if_neg Bool.false_ne_true] at h
  split at h
  · cases h
  · rename_i hable
    split at h
    · cases h
    · rename_i htools
      refine ⟨?_, ?_, ?_⟩
      · simp only [Bool.or_eq_true, Bool.not_eq_true', not_or, Bool.not_eq_false] at hable
        exact hable.1
      · rintro rfl
        exact htools rfl
      · rintro name rfl
        exact h

/-- The choice of a chat that passes is granted, and a backend that cannot be forced is not
forced. -/
theorem granted_of_checkChat {chat : Chat} {capabilities : Capabilities} {provider : Text}
    (h : checkChat chat capabilities provider = .ok ()) {choice : ToolChoice}
    (hchoice : chat.toolChoice = some choice) :
    choice.Granted chat.tools ∧ (choice.forces = true → capabilities.forcedToolChoice = true) := by
  have hcheck := (checkChat_eq_ok_iff.1 h).2.2.of_toolChoice hchoice
  refine ⟨?_, fun hforces => (checkChoice_of_forces hforces hcheck).1⟩
  cases choice with
  | auto | none => trivial
  | any => exact (checkChoice_of_forces rfl hcheck).2.1
  | specific name => exact checkNamed_eq_ok ((checkChoice_of_forces rfl hcheck).2.2 name rfl)

/-! ## Payloads -/

namespace Provider

variable {p : Provider}

/-- The tools and the words stand in fields of their own, which are left out without tools. -/
theorem announces_of_fields (hp : p ≠ .gemini) {chat : Chat} {v : Value} {write : ToolSpec → Value}
    (hwrite : ∀ spec, p.toolName (write spec) = .text spec.name)
    (htools : v.field "tools"
      = if (p.sentTools chat).isEmpty then .null else .list ((p.sentTools chat).map write))
    (hwords : v.field "tool_choice"
      = if (p.sentTools chat).isEmpty then .null else p.wording chat.toolChoice) :
    p.Announces chat v := by
  have htoolsIn : p.toolsIn v = (v.field "tools").elements := by
    cases p with
    | gemini => exact absurd rfl hp
    | _ => rfl
  have hdirective : p.directive v = v.field "tool_choice" := by
    cases p with
    | gemini => exact absurd rfl hp
    | _ => rfl
  constructor
  · refine ⟨write, hwrite, ?_⟩
    rw [htoolsIn, htools]
    cases p.sentTools chat with
    | nil => rfl
    | cons spec specs => rfl
  · rw [hdirective, hwords]
    cases p.sentTools chat with
    | nil => exact .inr ⟨rfl, rfl⟩
    | cons spec specs => exact .inl rfl

end Provider

namespace OpenAI

theorem Dialect.limitKey_eq (d : Dialect) (model : Text) :
    d.limitKey model = "max_tokens" ∨ d.limitKey model = "max_completion_tokens" := by
  cases d with
  | openai =>
    by_cases h : countsReasoning model = true
    · exact .inr (if_pos h)
    · exact .inl (if_neg h)
  | mistral => exact .inl rfl

theorem ofField_backFields (d : Dialect) (model : Text) (chat : Chat) :
    Value.ofField (d.backFields model chat) "tools"
      = (if (d.tools chat).isEmpty then .null else .list ((d.tools chat).map tool)) ∧
    Value.ofField (d.backFields model chat) "tool_choice"
      = if (d.tools chat).isEmpty then .null else d.choice chat := by
  rw [Dialect.backFields]
  rcases d.limitKey_eq model with h | h
  · rw [h]
    cases d.tools chat with
    | nil => exact ⟨rfl, rfl⟩
    | cons spec specs => exact ⟨rfl, rfl⟩
  · rw [h]
    cases d.tools chat with
    | nil => exact ⟨rfl, rfl⟩
    | cons spec specs => exact ⟨rfl, rfl⟩

theorem choice_eq_wording (d : Dialect) (chat : Chat) :
    d.choice chat = d.provider.wording chat.toolChoice := by
  unfold Dialect.choice
  cases chat.toolChoice with
  | none => cases d <;> rfl
  | some choice => cases d <;> cases choice <;> rfl

theorem payload_announces (d : Dialect) {model : Text} {chat : Chat} {v : Value}
    (h : d.payload model chat = .ok v) : d.provider.Announces chat v := by
  rw [payload_eq] at h
  obtain ⟨values, -, h⟩ := bind_eq_ok_iff.1 h
  cases h
  have hsent : d.provider.sentTools chat = d.tools chat := by cases d <;> rfl
  have hfield : ∀ key, key ≠ Text.ofString "model" → key ≠ Text.ofString "messages" →
      (d.provider.around [("model", .text model)] (d.backFields model chat)
        (chat.promptMessages ++ values)).field key =
          Value.ofField (d.backFields model chat) key := by
    intro key hmodel hmessages
    have hturns : d.provider.turnsKey = Text.ofString "messages" := by cases d <;> rfl
    rw [← hturns] at hmessages
    exact Provider.field_around (fun hmem => hmodel (List.mem_singleton.1 hmem)) hmessages _
  obtain ⟨htools, hwords⟩ := ofField_backFields d model chat
  rw [← hfield _ (by decide) (by decide), ← hsent] at htools hwords
  rw [choice_eq_wording] at hwords
  refine Provider.announces_of_fields ?_ (fun spec => ?_) htools hwords
  · cases d <;> decide
  · cases d <;> rfl

end OpenAI

namespace Anthropic

theorem toolChoice_eq_wording (choice : ToolChoice) :
    toolChoice choice = Provider.anthropic.wording (some choice) := by
  cases choice <;> rfl

theorem ofField_backFields (chat : Chat) {system : Fields}
    (hsystem : system = [] ∨ ∃ text, system = [(Text.ofString "system", Value.text text)]) :
    Value.ofField (backFields chat system) "tools"
      = (if chat.tools.isEmpty then .null else .list (chat.tools.map tool)) ∧
    Value.ofField (backFields chat system) "tool_choice"
      = if chat.tools.isEmpty then .null else Provider.anthropic.wording chat.toolChoice := by
  have hfront : ∀ back key, key ≠ Text.ofString "system" →
      Value.ofField (system ++ back) key = Value.ofField back key := by
    intro back key hkey
    rw [Value.ofField, Value.ofField, get?_append_of_notMem]
    rcases hsystem with rfl | ⟨text, rfl⟩
    · exact List.not_mem_nil
    · exact fun hmem => hkey (List.mem_singleton.1 hmem)
  rw [backFields, Assoc.concat, List.flatten_cons, hfront _ _ (by decide), hfront _ _ (by decide)]
  cases chat.tools with
  | nil => exact ⟨rfl, rfl⟩
  | cons spec specs =>
    cases chat.toolChoice with
    | none => exact ⟨rfl, rfl⟩
    | some choice => exact ⟨rfl, toolChoice_eq_wording choice⟩

theorem payload_announces {model : Text} {chat : Chat} {v : Value}
    (h : payload model chat = .ok v) :
    Provider.anthropic.Announces chat v := by
  rw [payload_eq] at h
  obtain ⟨merged, -, h⟩ := bind_eq_ok_iff.1 h
  obtain ⟨system, hsystem, h⟩ := bind_eq_ok_iff.1 h
  cases h
  have hshape : system = [] ∨ ∃ text, system = [(Text.ofString "system", Value.text text)] := by
    rcases systemFields_eq_ok hsystem with ⟨hnone, -⟩ | hsome
    · exact .inl hnone
    · exact .inr ⟨_, hsome⟩
  have hfield : ∀ key, key ∉ [Text.ofString "model", Text.ofString "max_tokens"] →
      key ≠ Text.ofString "messages" → (Provider.anthropic.around
        [("model", .text model), ("max_tokens", chat.maxOutputTokens.toValue)]
        (backFields chat system) (merged.map Turn.toValue)).field key
      = Value.ofField (backFields chat system) key :=
    fun key hkey hmessages => Provider.field_around hkey hmessages _
  obtain ⟨htools, hwords⟩ := ofField_backFields chat hshape
  rw [← hfield _ (by decide) (by decide)] at htools hwords
  exact Provider.announces_of_fields (by decide) (fun _ => rfl) htools hwords

end Anthropic

namespace Gemini

theorem toolConfig_eq_wording (choice : ToolChoice) :
    (toolConfig choice).field "functionCallingConfig" = Provider.gemini.wording (some choice) := by
  cases choice <;> rfl

theorem ofField_backFields (chat : Chat) (system : Text) :
    Value.ofField (backFields chat system) "tools"
      = (if chat.tools.isEmpty then .null
        else .list [.object [("functionDeclarations", .list (chat.tools.map tool))]]) ∧
    (Value.ofField (backFields chat system) "toolConfig").field "functionCallingConfig"
      = if chat.tools.isEmpty then .null else Provider.gemini.wording chat.toolChoice := by
  rw [backFields]
  by_cases hsystem : system = []
  · rw [if_pos hsystem]
    cases chat.tools with
    | nil => exact ⟨rfl, rfl⟩
    | cons spec specs =>
      cases chat.toolChoice with
      | none => exact ⟨rfl, rfl⟩
      | some choice => exact ⟨rfl, toolConfig_eq_wording choice⟩
  · rw [if_neg hsystem]
    cases chat.tools with
    | nil => exact ⟨rfl, rfl⟩
    | cons spec specs =>
      cases chat.toolChoice with
      | none => exact ⟨rfl, rfl⟩
      | some choice => exact ⟨rfl, toolConfig_eq_wording choice⟩

theorem payload_announces {chat : Chat} {v : Value} (h : payload chat = .ok v) :
    Provider.gemini.Announces chat v := by
  rw [payload_eq] at h
  obtain ⟨merged, -, h⟩ := bind_eq_ok_iff.1 h
  obtain ⟨system, -, h⟩ := bind_eq_ok_iff.1 h
  cases h
  have hfield : ∀ key, key ≠ Text.ofString "contents" →
      (Provider.gemini.around [] (backFields chat system) (merged.map Item.toValue)).field key
      = Value.ofField (backFields chat system) key :=
    fun key hkey => Provider.field_around List.not_mem_nil hkey _
  obtain ⟨htools, hwords⟩ := ofField_backFields chat system
  rw [← hfield _ (by decide)] at htools hwords
  constructor
  · refine ⟨tool, fun _ => rfl, ?_⟩
    rw [Provider.toolsIn, htools]
    show _ = chat.tools.map tool
    cases chat.tools with
    | nil => rfl
    | cons spec specs => exact List.append_nil _
  · rw [Provider.directive, hwords]
    show _ ∨ chat.tools = [] ∧ _
    cases chat.tools with
    | nil => exact .inr ⟨rfl, rfl⟩
    | cons spec specs => exact .inl rfl

end Gemini

namespace Ollama

/-- Nothing is said of the use of tools, and there are no words for any choice. -/
theorem ofField_backFields (chat : Chat) :
    Value.ofField (backFields chat) "tools"
      = (if (tools chat).isEmpty then .null else .list ((tools chat).map tool)) ∧
    Value.ofField (backFields chat) "tool_choice"
      = if (tools chat).isEmpty then .null else Provider.ollama.wording chat.toolChoice := by
  have hwording : Provider.ollama.wording chat.toolChoice = .null := by
    cases chat.toolChoice with
    | none => rfl
    | some choice => cases choice <;> rfl
  rw [hwording, backFields]
  cases tools chat with
  | nil => exact ⟨rfl, rfl⟩
  | cons spec specs => exact ⟨rfl, rfl⟩

theorem payload_announces {model : Text} {chat : Chat} {v : Value}
    (h : payload model chat = .ok v) :
    Provider.ollama.Announces chat v := by
  rw [payload_eq] at h
  obtain ⟨values, -, h⟩ := bind_eq_ok_iff.1 h
  cases h
  have hfield : ∀ key, key ≠ Text.ofString "model" → key ≠ Text.ofString "messages" →
      (Provider.ollama.around [("model", .text model)] (backFields chat)
        (chat.promptMessages ++ values)).field key = Value.ofField (backFields chat) key :=
    fun key hmodel hmessages =>
      Provider.field_around (fun hmem => hmodel (List.mem_singleton.1 hmem)) hmessages _
  obtain ⟨htools, hwords⟩ := ofField_backFields chat
  rw [← hfield _ (by decide) (by decide)] at htools hwords
  exact Provider.announces_of_fields (by decide) (fun _ => rfl) htools hwords

end Ollama

namespace Canonical

theorem payload_announces (model : Text) (chat : Chat) :
    Provider.mock.Announces chat (payload model chat) := by
  refine ⟨⟨tool, fun _ => rfl, rfl⟩, .inl ?_⟩
  show toolChoice chat.toolChoice = _
  cases chat.toolChoice with
  | none => rfl
  | some choice => cases choice <;> rfl

end Canonical

/-! ## Requests -/

theorem Backend.payload_announces {b : Backend} {model : Text} {chat : Chat} {v : Value}
    (h : b.payload model chat = .ok v) : b.provider.Announces chat v := by
  rw [payload] at h
  cases hp : b.provider with
  | openai =>
    rw [hp] at h
    exact OpenAI.payload_announces .openai h
  | mistral =>
    rw [hp] at h
    exact OpenAI.payload_announces .mistral h
  | anthropic =>
    rw [hp] at h
    exact Anthropic.payload_announces h
  | gemini =>
    rw [hp] at h
    exact Gemini.payload_announces h
  | ollama =>
    rw [hp] at h
    exact Ollama.payload_announces h
  | mock =>
    rw [hp] at h
    cases h
    exact Canonical.payload_announces model chat

namespace Provider

variable {p : Provider} {chat : Chat} {v : Value}

/-- All tools of a chat are sent, except for Mistral when one is named, and for Ollama when none is
to be used. -/
theorem sentTools_eq {choice : ToolChoice} (hchoice : chat.toolChoice = some choice)
    (hmistral : p = .mistral → choice.isSpecific = false) (hollama : p ≠ .ollama) :
    p.sentTools chat = chat.tools := by
  cases p with
  | openai => rfl
  | mistral =>
    have hplain := hmistral rfl
    cases choice with
    | specific name => cases hplain
    | _ => simp [sentTools, OpenAI.Dialect.tools, hchoice]
  | anthropic | gemini | mock => rfl
  | ollama => exact absurd rfl hollama

/-- For Mistral the tools of the named one's name are sent. -/
theorem mem_sentTools_mistral {name : Value} (hchoice : chat.toolChoice = some (.specific name))
    {spec : ToolSpec} : spec ∈ Provider.mistral.sentTools chat ↔
      spec ∈ chat.tools ∧ name = .text spec.name := by
  simp [sentTools, OpenAI.Dialect.tools, hchoice, Value.same_text_iff]

namespace Announces

/-- Some tool is forced with tools to choose from. -/
theorem honours_any (h : p.Announces chat v) (hchoice : chat.toolChoice = some .any)
    (htools : chat.tools ≠ []) (hollama : p ≠ .ollama) : p.Honours v (some .any) := by
  obtain ⟨⟨write, -, hwritten⟩, hwords⟩ := h
  have hsent : p.sentTools chat = chat.tools := sentTools_eq hchoice (fun _ => rfl) hollama
  rw [hsent] at hwritten hwords
  constructor
  · rw [hwritten]
    exact fun hnone => htools (List.map_eq_nil_iff.1 hnone)
  · rcases hwords with hwords | ⟨hnone, -⟩
    · rw [hwords, hchoice]
      cases p with
      | ollama => exact absurd rfl hollama
      | _ => rfl
    · exact absurd hnone htools

/-- A named tool is sent, and it is named in the words or the only one. -/
theorem honours_specific (h : p.Announces chat v) {spec : ToolSpec} (hspec : spec ∈ chat.tools)
    (hchoice : chat.toolChoice = some (.specific (.text spec.name))) (hollama : p ≠ .ollama) :
    p.Honours v (some (.specific (.text spec.name))) := by
  obtain ⟨⟨write, hwrite, hwritten⟩, hwords⟩ := h
  have hsent : spec ∈ p.sentTools chat := by
    by_cases hmistral : p = .mistral
    · rw [hmistral]
      exact (mem_sentTools_mistral hchoice).2 ⟨hspec, rfl⟩
    · rw [sentTools_eq hchoice (fun heq => absurd heq hmistral) hollama]
      exact hspec
  have hdirective : p.directive v = p.wording (some (.specific (.text spec.name))) := by
    rcases hwords with hwords | ⟨hnone, -⟩
    · rw [hwords, hchoice]
    · rw [hnone] at hsent
      cases hsent
  refine ⟨⟨write spec, ?_, hwrite spec⟩, ?_⟩
  · rw [hwritten]
    exact List.mem_map_of_mem hsent
  · rw [hdirective]
    cases p with
    | mistral =>
      -- no words name a tool, so there is no other
      refine .inr ⟨rfl, fun tool htool => ?_⟩
      rw [hwritten] at htool
      obtain ⟨other, hother, rfl⟩ := List.mem_map.1 htool
      rw [hwrite, ((mem_sentTools_mistral hchoice).1 hother).2]
    | ollama => exact absurd rfl hollama
    | _ => exact .inl rfl

/-- What a payload announces honours a choice that passes the check. -/
theorem honours (h : p.Announces chat v) (hcheck : checkChat chat p.capabilities p.name = .ok ()) :
    p.Honours v chat.toolChoice := by
  cases hchoice : chat.toolChoice with
  | none =>
    rcases h.words with hwords | ⟨-, hnull⟩
    · rw [hchoice] at hwords
      rw [Honours, hwords]
      cases p with
      | openai | mistral => exact .inr rfl
      | _ => exact .inl rfl
    · exact .inl hnull
  | some choice =>
    obtain ⟨hgranted, hforced⟩ := granted_of_checkChat hcheck hchoice
    have hollama : choice.forces = true → p ≠ .ollama := by
      rintro hforces rfl
      cases hforced hforces
    cases choice with
    | auto =>
      rcases h.words with hwords | ⟨-, hnull⟩
      · rw [hchoice] at hwords
        rw [Honours, hwords]
        cases p with
        | ollama => exact .inl rfl
        | _ => exact .inr rfl
      · exact .inl hnull
    | none =>
      by_cases hsent : p.sentTools chat = []
      · obtain ⟨write, -, hwritten⟩ := h.tools
        rw [hsent] at hwritten
        exact .inr hwritten
      · rcases h.words with hwords | ⟨hnone, -⟩
        · rw [hchoice] at hwords
          rw [Honours, hwords]
          cases p with
          | ollama =>
            refine absurd ?_ hsent
            simp [sentTools, Ollama.tools, hchoice]
          | _ => exact .inl rfl
        · exact absurd hnone hsent
    | any => exact h.honours_any hchoice hgranted (hollama rfl)
    | specific name =>
      obtain ⟨spec, hspec, rfl⟩ := hgranted
      exact h.honours_specific hspec hchoice (hollama rfl)

end Announces

end Provider

namespace Backend

/-- The payload of a request honours the tool choice of the chat, whatever the tools are; and no
request to Ollama is built for a choice that forces a tool. -/
theorem choice_honoured {b : Backend} {model : Value} {chat : Chat} {request : Wire.Request}
    (h : b.buildRequest model chat = .ok request) :
    (∃ payload, b.payload model.inText chat = .ok payload ∧
      Json.encode payload = .ok request.body ∧ b.provider.Honours payload chat.toolChoice) ∧
    ∀ choice, chat.toolChoice = some choice → choice.forces = true → b.provider ≠ .ollama := by
  obtain ⟨-, hcheck, v, hpayload, hencode⟩ := buildRequest_eq_ok h
  refine ⟨⟨v, hpayload, hencode, (payload_announces hpayload).honours hcheck⟩, ?_⟩
  intro choice hchoice hforces hollama
  have hforced := (granted_of_checkChat hcheck hchoice).2 hforces
  rw [hollama] at hforced
  cases hforced

/-- A chat with two tools, of which one has to be used. -/
def searchChat : Chat where
  history := [.user (some (.text "Look it up.")) []]
  tools := [⟨"search", .null, [], by decide⟩, ⟨"fetch", .null, [], by decide⟩]
  choice := some (.choice (.specific (.ofString "fetch")))
  maxOutputTokens := .count 1 Nat.one_pos

/-- Mistral is sent the named tool of that chat alone, and has to use some tool. -/
theorem choice_honoured_searchChat : ∃ request payload,
    ({ provider := .mistral } : Backend).buildRequest .null searchChat = .ok request ∧
    Json.encode payload = .ok request.body ∧ Provider.mistral.toolsIn payload ≠ [] ∧
    (∀ tool ∈ Provider.mistral.toolsIn payload,
      Provider.mistral.toolName tool = .ofString "fetch") ∧
    Provider.mistral.directive payload = .ofString "any" := by
  obtain ⟨request, hbuild⟩ : ∃ request,
      ({ provider := .mistral } : Backend).buildRequest .null searchChat = .ok request :=
    exists_of_isOk (by decide +kernel)
  obtain ⟨⟨payload, -, hencode, ⟨tool, htool, -⟩, hwords⟩, -⟩ := choice_honoured hbuild
  refine ⟨request, payload, hbuild, hencode, List.ne_nil_of_mem htool, ?_⟩
  rcases hwords with hnamed | ⟨hany, honly⟩
  · cases hnamed
  · exact ⟨honly, (Option.some.inj hany).symm⟩

end Backend

end Colloquy
