import Colloquy.Proofs.Json.Room
import Colloquy.Proofs.Provider.Reply

/-!
# Requests that escape

Building a request reports most of what is wrong as an error of the library.  The rest
escapes as some other exception, and this module says for every backend what the rest
is: the name of a model with a surrogate (`Gemini.path_escapes_iff`), a host that stands
for no name (`resolveEndpoint_escapes_iff`), a tool choice that is none or names its tool
by what is no name (`checkChat_escapes_iff`), a message of the user without content or
arguments that nest too deep (`Message.Stumbles`), a system prompt that is no text
(`Anthropic.joinTexts_systemParts_escapes_iff`), and a payload that takes more room than
there is (`dumpPayload_escapes_iff`).

The stages of a request come one after the other, so each cause counts only when the
stages before it pass.  `Backend.buildRequest_escapes_iff` puts them together.
-/

namespace Colloquy

/-! ## Addresses -/

/-- The host of a base is there, but stands for no name. -/
def Backend.HostUnread (b : Backend) : Prop :=
  ∃ text url fault, b.base = .text text ∧ Url.parse text = .ok url ∧
    (url.scheme = "http" ∨ url.scheme = "https") ∧ url.readHost = .error fault

theorem resolveEndpoint_escapes_iff (b : Backend) (path : Text) :
    Escapes (resolveEndpoint b.base path) ↔ b.HostUnread := by
  constructor
  · intro h
    unfold resolveEndpoint at h
    split at h
    · rename_i text hbase
      split at h
      · exact absurd h (not_escapes_own _)
      · rename_i url hparse
        split at h
        · rename_i hscheme
          cases hhost : url.readHost with
          | error fault => exact ⟨text, url, fault, hbase, hparse, hscheme, hhost⟩
          | ok host =>
            rw [hhost] at h
            by_cases hempty : host = []
            · subst hempty
              exact absurd h (not_escapes_own _)
            · replace h : Escapes (if host = [] then _ else _) := h
              rw [if_neg hempty] at h
              exact absurd h (not_escapes_pure _)
        · exact absurd h (not_escapes_own _)
    · exact absurd h (not_escapes_own _)
  · rintro ⟨text, url, fault, hbase, hparse, hscheme, hhost⟩
    simp only [resolveEndpoint, hbase, hparse, if_pos hscheme, hhost]
    trivial

/-- A name of a model with a surrogate cannot be quoted. -/
theorem Gemini.path_escapes_iff (model : Text) :
    Escapes (path model) ↔ (Text.dropFront "models/" model).isClean = false := by
  rw [path, escapes_bind_iff_left fun _ => not_escapes_pure _, quoteModel,
    ← Bool.not_eq_true, ← Utf8.encode_isOk_iff]
  cases Utf8.encode (Text.dropFront "models/" model) with
  | ok octets => exact ⟨nofun, fun h => absurd ⟨octets, rfl⟩ h⟩
  | error failure => exact ⟨fun _ => nofun, fun _ => trivial⟩

theorem Gemini.exists_path {model : Text}
    (h : (Text.dropFront "models/" model).isClean = true) : ∃ text, path model = .ok text := by
  obtain ⟨octets, hoctets⟩ := (Utf8.encode_isOk_iff _).2 h
  rw [path, quoteModel, hoctets]
  exact ⟨_, rfl⟩

/-- The causes for which finding the address of a request escapes. -/
theorem Backend.endpoint_escapes_iff (b : Backend) (model : Text) :
    Escapes (b.endpoint model) ↔
      b.provider = .gemini ∧ (Text.dropFront "models/" model).isClean = false ∨
      b.provider ≠ .mock ∧ b.HostUnread := by
  unfold endpoint
  cases hp : b.provider with
  | gemini =>
    dsimp only
    rw [escapes_bind_iff, Gemini.path_escapes_iff]
    constructor
    · rintro (hmodel | ⟨path, -, hhost⟩)
      · exact .inl ⟨rfl, hmodel⟩
      · exact .inr ⟨nofun, (resolveEndpoint_escapes_iff b path).1 hhost⟩
    · rintro (⟨-, hmodel⟩ | ⟨-, hhost⟩)
      · exact .inl hmodel
      · -- either way it escapes: at the name of the model, or later at the host
        by_cases hmodel : (Text.dropFront "models/" model).isClean = false
        · exact .inl hmodel
        · obtain ⟨path, hpath⟩ := Gemini.exists_path ((Bool.not_eq_false _).mp hmodel)
          exact .inr ⟨path, hpath, (resolveEndpoint_escapes_iff b path).2 hhost⟩
  | mock => simp
  | _ => simpa using resolveEndpoint_escapes_iff b _

/-! ## Choices -/

/-- A value cannot be the name of a tool: it cannot be looked for among names, or cannot be shown in
a message that says that it is none. -/
def Value.NoName (v : Value) : Prop :=
  v.unhashable?.isSome = true ∨ (v.unshown? Json.depthLimit).isSome = true

/-- A text can be looked for and shown. -/
theorem Value.not_noName_text (t : Text) : ¬(Value.text t).NoName := by
  simp [NoName, unhashable?, unshown?, Json.depthLimit]

theorem checkNamed_escapes_iff (tools : List ToolSpec) (name : Value) :
    Escapes (checkNamed tools name) ↔ name.NoName := by
  unfold checkNamed
  split
  · rename_i typeName hcontainer
    exact iff_of_true (escapes_foreign _ _) (.inl (by rw [hcontainer]; rfl))
  · rename_i hkey
    split
    · -- the name is found, so it is a text
      rename_i hany
      obtain ⟨spec, -, hsame⟩ := List.any_eq_true.1 hany
      rw [Value.same_text_iff.1 hsame]
      exact iff_of_false (not_escapes_ok _) (Value.not_noName_text _)
    · rw [Value.NoName, hkey, or_iff_right (by simp)]
      cases name.unshown? Json.depthLimit with
      | some fault => exact iff_of_true (escapes_foreign _ _) rfl
      | none => exact iff_of_false (not_escapes_own _) (by simp)

/-- A choice escapes when it names a tool by what cannot be a name. That shows when there are tools,
for a backend that can be forced to use one of them. -/
theorem checkChoice_escapes_iff (tools : List ToolSpec) (capabilities : Capabilities)
    (provider : Text) (choice : ToolChoice) :
    Escapes (checkChoice tools capabilities provider choice) ↔
      (capabilities.forcedToolChoice = true ∧ capabilities.specificToolChoice = true) ∧ tools ≠ [] ∧
      ∃ name, choice = .specific name ∧ name.NoName := by
  unfold checkChoice
  simp only [escapes_ite_iff, not_escapes_ok, not_escapes_own, if_false_left]
  cases choice with
  | specific name => simp [ToolChoice.forces, ToolChoice.isSpecific, checkNamed_escapes_iff]
  | _ => simp

/-- The chat names the tool that it forces by what cannot be a name. -/
def Chat.ForcesNoName (chat : Chat) : Prop :=
  chat.tools ≠ [] ∧ ∃ name, chat.toolChoice = some (.specific name) ∧ name.NoName

/-- The chat has something else in place of its tool choice. -/
def Chat.StrayChoice (chat : Chat) : Prop :=
  ∃ value given, chat.choice = some (.stray value given)

/-- A chat that gets past the checks of its tools and its images escapes at its tool choice. -/
theorem checkChat_escapes_iff (chat : Chat) (capabilities : Capabilities) (provider : Text) :
    Escapes (checkChat chat capabilities provider) ↔
      (chat.tools = [] ∨ capabilities.tools = true) ∧
      (capabilities.images = true ∨ chat.history.any Message.hasImages = false) ∧
      (chat.StrayChoice ∨
        (capabilities.forcedToolChoice = true ∧ capabilities.specificToolChoice = true) ∧
          chat.ForcesNoName) := by
  have htools : ¬(!chat.tools.isEmpty && !capabilities.tools) = true ↔
      (chat.tools = [] ∨ capabilities.tools = true) := by
    simp [or_iff_not_imp_left]
  have himages : ¬(!capabilities.images && chat.history.any Message.hasImages) = true ↔
      (capabilities.images = true ∨ chat.history.any Message.hasImages = false) := by
    simp [or_iff_not_imp_left]
  unfold checkChat
  simp only [escapes_ite_iff, not_escapes_own, if_false_left, htools, himages, and_congr_right_iff]
  intro _ _
  cases hchoice : chat.choice with
  | none => simp [Chat.StrayChoice, Chat.ForcesNoName, Chat.toolChoice, hchoice]
  | some setting =>
    cases setting with
    | choice choice =>
      have hread : chat.toolChoice = some choice := by
        rw [Chat.toolChoice, hchoice]
        rfl
      simp [Chat.StrayChoice, hchoice, checkChoice_escapes_iff, Chat.ForcesNoName, hread]
    | stray value given =>
      exact iff_of_true (escapes_foreign _ _) (.inl ⟨value, given, hchoice⟩)

/-! ## Calls -/

/-- The arguments of a call can be read as an object. -/
def ToolCall.Readable (call : ToolCall) : Prop :=
  ∃ fields, call.argumentFields = .ok fields

/-- The arguments of a call nest too deep to be read. -/
def ToolCall.TooDeep (call : ToolCall) : Prop :=
  ∃ fault, Json.read (argumentText call.arguments) = .error fault ∧
    (Json.DocumentFault.text fault).isTooDeep = true

/-- The first of some calls that cannot be read is too deep. -/
def ToolCall.Stumble (calls : List ToolCall) : Prop :=
  ∃ front call back, calls = front ++ call :: back ∧
    (∀ earlier ∈ front, earlier.Readable) ∧ call.TooDeep

theorem ToolCall.Stumble.ne_nil {calls : List ToolCall} (h : Stumble calls) : calls ≠ [] := by
  obtain ⟨front, call, back, rfl, -⟩ := h
  exact List.append_ne_nil_of_right_ne_nil front (List.cons_ne_nil call back)

theorem ToolCall.argumentFields_escapes_iff (call : ToolCall) :
    Escapes call.argumentFields ↔ call.TooDeep := by
  rw [argumentFields, loadArguments, escapes_bind_iff_left]
  · simp only [escapes_mapError_iff, escapes_reported_iff, TooDeep]
  · intro value
    cases value with
    | object fields => exact not_escapes_pure _
    | _ => exact not_escapes_own _

/-- Calls that are written with their arguments as objects. -/
theorem ToolCall.escapes_mapM_iff (write : ToolCall → Fields → Value) (calls : List ToolCall) :
    Escapes (calls.mapM fun call => do return write call (← call.argumentFields)) ↔
      Stumble calls := by
  have hread : ∀ call : ToolCall,
      (∃ v, (do return write call (← call.argumentFields) : Except Exception Value) = .ok v) ↔
        call.Readable :=
    fun call => exists_bind_eq_ok_iff_left fun _ => ⟨_, rfl⟩
  have hdeep : ∀ call : ToolCall,
      Escapes (do return write call (← call.argumentFields) : Except Exception Value) ↔
        call.TooDeep := fun call => by
    rw [escapes_bind_iff_left fun _ => not_escapes_pure _, call.argumentFields_escapes_iff]
  simp only [Colloquy.escapes_mapM_iff, hread, hdeep, Stumble]

/-! ## Messages -/

/-- A message at which writing stops, and not with an error of the library. -/
def Message.Stumbles (p : Provider) : Message → Prop
  | .user none _ => p ∈ [Provider.openai, .mistral, .anthropic, .gemini]
  | .assistant turn => p ∈ [Provider.anthropic, .gemini, .ollama] ∧ ToolCall.Stumble turn.calls
  | _ => False

theorem Message.not_stumbles_mock (m : Message) : ¬m.Stumbles .mock := by
  match m with
  | .system .. | .user none _ | .user (some _) _ | .tool .. | .assistant _ => simp [Stumbles]

theorem OpenAI.message_escapes_iff (d : Dialect) (m : Message) :
    Escapes (message m) ↔ m.Stumbles d.provider := by
  cases m with
  | user content metadata =>
    rw [message, escapes_bind_iff_left fun _ => not_escapes_pure _]
    cases content with
    | none =>
      have hwants : d.provider ∈ [Provider.openai, .mistral, .anthropic, .gemini] := by
        cases d <;> decide
      exact ⟨fun _ => hwants, fun _ => trivial⟩
    | some content => cases content <;> simp [Message.Stumbles, userContent]
  | assistant turn => cases d <;> simp [Message.Stumbles, Dialect.provider, message]
  | _ => simp [Message.Stumbles, message]

theorem Anthropic.turnOf_escapes_iff (m : Message) :
    Escapes (turnOf m) ↔ m.Stumbles .anthropic := by
  cases m with
  | user content metadata =>
    rw [turnOf, escapes_bind_iff_left fun _ => not_escapes_pure _]
    cases content with
    | none => exact iff_of_true trivial (by simp [Message.Stumbles])
    | some content => cases content <;> simp [Message.Stumbles, userContent]
  | assistant turn =>
    rw [turnOf, escapes_bind_iff_left fun _ => not_escapes_pure _, assistantBlocks,
      escapes_bind_iff_left fun _ => not_escapes_pure _]
    exact (ToolCall.escapes_mapM_iff _ turn.calls).trans (by simp [Message.Stumbles])
  | _ => simp [Message.Stumbles, turnOf]

theorem Gemini.itemOf_escapes_iff (names : CallNames) (m : Message) :
    Escapes (itemOf names m) ↔ m.Stumbles .gemini := by
  cases m with
  | system => simp [Message.Stumbles, itemOf]
  | user content metadata =>
    cases content with
    | none => exact iff_of_true trivial (by simp [Message.Stumbles])
    | some content => simp [Message.Stumbles, itemOf]
  | tool id content metadata identified =>
    cases hname : Assoc.get? names id <;> simp [Message.Stumbles, itemOf, hname]
  | assistant turn =>
    rw [itemOf, escapes_bind_iff_left fun _ => not_escapes_pure _]
    exact (ToolCall.escapes_mapM_iff _ turn.calls).trans (by simp [Message.Stumbles])

/-- An image that is not inline is reported. -/
theorem Ollama.not_escapes_imagesData (content : Option Content) :
    ¬Escapes (imagesData content) := by
  match content with
  | none | some (.text _) => exact not_escapes_ok _
  | some (.parts items) =>
    rw [imagesData, escapes_bind_iff_left fun _ => not_escapes_pure _]
    refine not_escapes_mapM (fun part => ?_) items
    cases part with
    | text t => exact not_escapes_ok _
    | image url detail addressed =>
      rw [partData?, escapes_map_iff, imageData]
      cases InlineImage.ofUrl? url with
      | some image => exact not_escapes_ok _
      | none => exact not_escapes_own _

theorem Ollama.message_escapes_iff (names : Gemini.CallNames) (m : Message) :
    Escapes (message names m) ↔ m.Stumbles .ollama := by
  cases m with
  | system => exact iff_of_false (not_escapes_pure _) id
  | user content metadata =>
    refine iff_of_false ?_ (by cases content <;> simp [Message.Stumbles])
    simp only [message, pure_bind]
    rw [escapes_bind_iff_left fun _ => not_escapes_pure _]
    exact not_escapes_imagesData content
  | tool => exact iff_of_false (not_escapes_pure _) id
  | assistant turn =>
    have hcalls : Escapes (turn.calls.mapM toolCall) ↔ ToolCall.Stumble turn.calls :=
      ToolCall.escapes_mapM_iff _ turn.calls
    simp only [message, pure_bind, escapes_ite_iff, not_escapes_pure, if_false_left]
    rw [escapes_bind_iff_left fun _ => not_escapes_pure _, hcalls,
      and_iff_right_of_imp ToolCall.Stumble.ne_nil]
    simp [Message.Stumbles]

/-! ## Histories -/

/-- A history can be written in the format of a provider. -/
def Provider.Writes (p : Provider) (history : List Message) : Prop :=
  match p with
  | .openai | .mistral => ∃ values, history.mapM OpenAI.message = .ok values
  | .anthropic => ∃ turns, history.mapM Anthropic.turnOf = .ok turns
  | .gemini => ∃ items, Gemini.itemsFrom [] history = .ok items
  | .ollama => ∃ values, Ollama.messagesFrom [] history = .ok values
  | .mock => True

/-- Writing a history gets to a message at which it stumbles. -/
def Provider.StumblesIn (p : Provider) (history : List Message) : Prop :=
  ∃ front m back, history = front ++ m :: back ∧ p.Writes front ∧ m.Stumbles p

theorem OpenAI.messages_escapes_iff (d : Dialect) (chat : Chat) :
    Escapes (messages chat) ↔ d.provider.StumblesIn chat.history := by
  rw [messages, escapes_bind_iff_left fun _ => not_escapes_pure _,
    (IsTraversal.mapM message).escapes_iff (s := ())]
  simp only [message_escapes_iff d]
  cases d <;> exact Iff.rfl

theorem Anthropic.turns_escapes_iff (history : List Message) :
    Escapes (turns history) ↔ Provider.anthropic.StumblesIn history := by
  rw [turns, escapes_bind_iff_left fun _ => not_escapes_pure _,
    (IsTraversal.mapM turnOf).escapes_iff (s := ())]
  simp only [turnOf_escapes_iff]
  exact Iff.rfl

theorem Gemini.itemsFrom_isTraversal :
    IsTraversal itemsFrom itemOf (fun names m => names.add m.calls)
      (fun item items => item.toList ++ items) where
  nil _ := ⟨[], rfl⟩
  cons _ _ _ := rfl

theorem Gemini.items_escapes_iff (history : List Message) :
    Escapes (items history) ↔ Provider.gemini.StumblesIn history := by
  rw [items, escapes_bind_iff_left fun _ => not_escapes_pure _,
    itemsFrom_isTraversal.escapes_iff]
  simp only [itemOf_escapes_iff]
  exact Iff.rfl

theorem Ollama.messagesFrom_isTraversal :
    IsTraversal messagesFrom message (fun names m => names.add m.calls) List.cons where
  nil _ := ⟨[], rfl⟩
  cons _ _ _ := rfl

theorem Ollama.messagesFrom_escapes_iff (history : List Message) :
    Escapes (messagesFrom [] history) ↔ Provider.ollama.StumblesIn history := by
  rw [messagesFrom_isTraversal.escapes_iff]
  simp only [message_escapes_iff]
  exact Iff.rfl

/-! ## Prompts -/

/-- A system prompt that counts as true, but is no text. -/
def Chat.PromptUnread (chat : Chat) : Prop :=
  chat.systemPrompt.truthy = true ∧ ∀ text, chat.systemPrompt ≠ .text text

/-- Joining stops at a part that is no text, and none of them is passed over unless it counts as
false. -/
theorem Anthropic.joinTexts_escapes_iff (parts : List Value) :
    Escapes (joinTexts parts) ↔ ∃ part ∈ parts, part.truthy = true ∧ ∀ text, part ≠ .text text := by
  rw [joinTexts]
  dsimp only
  -- no part is reported, so one that escapes is enough, wherever it stands
  rw [escapes_bind_iff_left fun _ => not_escapes_pure _, escapes_mapM_iff_exists]
  · constructor
    · rintro ⟨⟨part, i⟩, hmem, hpart⟩
      obtain ⟨hpart_mem, htruthy⟩ := List.mem_filter.1 (List.fst_mem_of_mem_zipIdx hmem)
      refine ⟨part, hpart_mem, htruthy, ?_⟩
      rintro text rfl
      exact absurd hpart (not_escapes_pure text)
    · rintro ⟨part, hmem, htruthy, htext⟩
      obtain ⟨i, hi⟩ := List.mem_iff_getElem?.1 (List.mem_filter.2 ⟨hmem, htruthy⟩)
      refine ⟨(part, i), List.mk_mem_zipIdx_iff_getElem?.2 hi, ?_⟩
      cases part with
      | text t => exact absurd rfl (htext t)
      | _ => trivial
  · rintro ⟨part, i⟩
    cases part with
    | text t => exact .inr ⟨t, rfl⟩
    | _ => exact .inl trivial

/-- Only the prompt can be no text: what system messages say is one. -/
theorem Anthropic.joinTexts_systemParts_escapes_iff (chat : Chat) :
    Escapes (joinTexts (systemParts chat)) ↔ chat.PromptUnread := by
  rw [joinTexts_escapes_iff, systemParts, Chat.PromptUnread]
  cases hprompt : chat.systemPrompt.truthy with
  | false => simp
  | true => simp [hprompt]

/-! ## Requests -/

theorem OpenAI.payload_escapes_iff (d : Dialect) (model : Text) (chat : Chat) :
    Escapes (d.payload model chat) ↔ d.provider.StumblesIn chat.history := by
  rw [Dialect.payload, escapes_bind_iff_left fun _ => not_escapes_pure _, messages_escapes_iff]

theorem Anthropic.payload_escapes_iff (model : Text) (chat : Chat) :
    Escapes (payload model chat) ↔ Provider.anthropic.StumblesIn chat.history ∨
      Provider.anthropic.Writes chat.history ∧ chat.PromptUnread := by
  have hwrites : (∃ own, turns chat.history = .ok own) ↔ Provider.anthropic.Writes chat.history :=
    exists_bind_eq_ok_iff_left fun _ => ⟨_, rfl⟩
  rw [← turns_escapes_iff, ← hwrites, ← joinTexts_systemParts_escapes_iff, payload]
  refine escapes_bind_iff_any fun own => ?_
  dsimp only
  split
  · rename_i hparts
    rw [List.isEmpty_iff.1 hparts]
    exact iff_of_false (not_escapes_pure _) (not_escapes_pure _)
  · exact escapes_bind_iff_left fun _ => not_escapes_pure _

theorem Gemini.payload_escapes_iff (chat : Chat) :
    Escapes (payload chat) ↔ Provider.gemini.StumblesIn chat.history ∨
      Provider.gemini.Writes chat.history ∧ chat.PromptUnread := by
  have hwrites : (∃ own, items chat.history = .ok own) ↔ Provider.gemini.Writes chat.history :=
    exists_bind_eq_ok_iff_left fun _ => ⟨_, rfl⟩
  rw [← items_escapes_iff, ← hwrites, ← Anthropic.joinTexts_systemParts_escapes_iff, payload]
  exact escapes_bind_iff_any fun _ => escapes_bind_iff_left fun _ => not_escapes_pure _

theorem Ollama.payload_escapes_iff (model : Text) (chat : Chat) :
    Escapes (payload model chat) ↔ Provider.ollama.StumblesIn chat.history := by
  rw [payload]
  dsimp only
  rw [escapes_bind_iff_left fun _ => not_escapes_pure _, messagesFrom_escapes_iff]

/-- The causes for which writing the payload of a request escapes: the history, then the prompt for
a backend that joins it with what system messages say. -/
theorem Backend.payload_escapes_iff (b : Backend) (model : Text) (chat : Chat) :
    Escapes (b.payload model chat) ↔ b.provider.StumblesIn chat.history ∨
      b.provider ∈ [Provider.anthropic, .gemini] ∧ b.provider.Writes chat.history ∧
        chat.PromptUnread := by
  unfold payload
  cases b.provider with
  | openai =>
    rw [or_iff_left (by simp)]
    exact OpenAI.payload_escapes_iff .openai model chat
  | mistral =>
    rw [or_iff_left (by simp)]
    exact OpenAI.payload_escapes_iff .mistral model chat
  | anthropic => simpa using Anthropic.payload_escapes_iff model chat
  | gemini => simpa using Gemini.payload_escapes_iff chat
  | ollama =>
    rw [or_iff_left (by simp)]
    exact Ollama.payload_escapes_iff model chat
  | mock =>
    rw [or_iff_left (by simp)]
    refine iff_of_false (not_escapes_ok _) ?_
    rintro ⟨front, m, back, -, -, hm⟩
    exact m.not_stumbles_mock hm

/-- The causes for which building a request escapes.  Each counts when the stages before it pass. -/
inductive Backend.Stumbles (b : Backend) (model : Text) (chat : Chat) : Prop
  | model (hprovider : b.provider = .gemini)
      (hmodel : (Text.dropFront "models/" model).isClean = false)
  | host (hprovider : b.provider ≠ .mock) (hhost : b.HostUnread)
  | stray (hfound : ∃ url, b.endpoint model = .ok url)
      (himages : b.provider.capabilities.images = true ∨
        chat.history.any Message.hasImages = false)
      (hchoice : chat.StrayChoice)
  | choice (hfound : ∃ url, b.endpoint model = .ok url)
      (himages : b.provider.capabilities.images = true ∨
        chat.history.any Message.hasImages = false)
      (hforced : b.provider.capabilities.forcedToolChoice = true ∧
        b.provider.capabilities.specificToolChoice = true)
      (hchoice : chat.ForcesNoName)
  | history (hfound : ∃ url, b.endpoint model = .ok url)
      (hallowed : checkChat chat b.provider.capabilities b.provider.name = .ok ())
      (hhistory : b.provider.StumblesIn chat.history)
  | prompt (hfound : ∃ url, b.endpoint model = .ok url)
      (hallowed : checkChat chat b.provider.capabilities b.provider.name = .ok ())
      (hprovider : b.provider ∈ [Provider.anthropic, .gemini])
      (hwritten : b.provider.Writes chat.history) (hprompt : chat.PromptUnread)
  | room (hfound : ∃ url, b.endpoint model = .ok url)
      (hallowed : checkChat chat b.provider.capabilities b.provider.name = .ok ())
      {payload : Value} (hpayload : b.payload model chat = .ok payload)
      (hroom : Json.Overflows Json.depthLimit payload)

theorem Backend.buildRequest_escapes_iff (b : Backend) (model : Value) (chat : Chat) :
    Escapes (b.buildRequest model chat) ↔ b.Stumbles model.inText chat := by
  have htools : chat.tools = [] ∨ b.provider.capabilities.tools = true :=
    .inr (by cases b.provider <;> rfl)
  have hdump : ∀ (payload : Value) (url : Text), Escapes (do
      let body ← dumpPayload payload
      return ({ method := "POST", url, headers := b.headers, body } : Wire.Request)) ↔
        Json.Overflows Json.depthLimit payload := by
    intro payload url
    rw [escapes_bind_iff_left fun _ => not_escapes_pure _, dumpPayload_escapes_iff]
  rw [buildRequest, escapes_bind_iff, endpoint_escapes_iff]
  simp only [escapes_bind_iff, checkChat_escapes_iff, payload_escapes_iff, hdump, htools, true_and]
  constructor
  · rintro ((⟨hp, hmodel⟩ | ⟨hp, hhost⟩) | ⟨url, hurl, ⟨himages, hstray | ⟨hforced, hchoice⟩⟩ |
      ⟨⟨⟩, hallowed, (hhistory | ⟨hp, hwritten, hprompt⟩) | ⟨payload, hpayload, hroom⟩⟩⟩)
    · exact .model hp hmodel
    · exact .host hp hhost
    · exact .stray ⟨url, hurl⟩ himages hstray
    · exact .choice ⟨url, hurl⟩ himages hforced hchoice
    · exact .history ⟨url, hurl⟩ hallowed hhistory
    · exact .prompt ⟨url, hurl⟩ hallowed hp hwritten hprompt
    · exact .room ⟨url, hurl⟩ hallowed hpayload hroom
  · rintro (⟨hp, hmodel⟩ | ⟨hp, hhost⟩ | ⟨⟨url, hurl⟩, himages, hstray⟩ |
      ⟨⟨url, hurl⟩, himages, hforced, hchoice⟩ | ⟨⟨url, hurl⟩, hallowed, hhistory⟩ |
      ⟨⟨url, hurl⟩, hallowed, hp, hwritten, hprompt⟩ | ⟨⟨url, hurl⟩, hallowed, hpayload, hroom⟩)
    · exact .inl (.inl ⟨hp, hmodel⟩)
    · exact .inl (.inr ⟨hp, hhost⟩)
    · exact .inr ⟨url, hurl, .inl ⟨himages, .inl hstray⟩⟩
    · exact .inr ⟨url, hurl, .inl ⟨himages, .inr ⟨hforced, hchoice⟩⟩⟩
    · exact .inr ⟨url, hurl, .inr ⟨(), hallowed, .inl (.inl hhistory)⟩⟩
    · exact .inr ⟨url, hurl, .inr ⟨(), hallowed, .inl (.inr ⟨hp, hwritten, hprompt⟩)⟩⟩
    · exact .inr ⟨url, hurl, .inr ⟨(), hallowed, .inr ⟨_, hpayload, hroom⟩⟩⟩

end Colloquy
