import Colloquy.Provider.Exchange
import Mathlib.Data.List.Forall2

/-!
# Metadata stay at home

Messages carry metadata: what a backend told of itself in a reply, and whatever a caller put
there.  No request shows any of them.  A request is made from the messages without their metadata
(`Message.bare`), so chats that are the same without them have the same request or are refused with
the same error (`Backend.buildRequest_eq_of_bare_eq`).

* An encoder of one message sends a message without its metadata as the message itself.
* An encoder of histories either treats the messages one by one, or keeps the names of the calls so
  far, which are no metadata.
* The rest of a request is settled by the other parts of the chat.
-/

namespace Colloquy

/-! ## Messages without metadata -/

namespace Message

/-- A message with other metadata. -/
def withMetadata (fields : Fields) : Message → Message
  | .system content _ => .system content fields
  | .user content _ => .user content fields
  | .assistant turn => .assistant { turn with metadata := fields }
  | .tool id content _ identified => .tool id content fields identified

/-- A message without metadata. -/
def bare (m : Message) : Message :=
  m.withMetadata []

@[simp] theorem withMetadata_withMetadata (fields fields' : Fields) (m : Message) :
    (m.withMetadata fields).withMetadata fields' = m.withMetadata fields' := by
  cases m <;> rfl

@[simp] theorem withMetadata_metadata (m : Message) : m.withMetadata m.metadata = m := by
  cases m <;> rfl

/-- Messages are the same without metadata when one is the other with its own metadata. -/
theorem bare_eq_bare_iff {m m' : Message} : m.bare = m'.bare ↔ m.withMetadata m'.metadata = m' := by
  constructor
  · intro h
    have hback := congrArg (withMetadata m'.metadata) h
    simpa [bare] using hback
  · intro h
    rw [bare, bare, ← h, withMetadata_withMetadata]

@[simp] theorem calls_bare (m : Message) : m.bare.calls = m.calls := by
  cases m <;> rfl

@[simp] theorem hasImages_bare (m : Message) : m.bare.hasImages = m.hasImages := by
  cases m <;> rfl

/-- What does not look at metadata does the same to messages without them. -/
theorem mapM_bare {f : Message → Except Exception β} (hf : ∀ m, f m.bare = f m)
    (history : List Message) : (history.map bare).mapM f = history.mapM f := by
  rw [List.mapM_map, Function.comp_def, funext hf]

end Message

/-- A chat whose messages have no metadata. -/
def Chat.bare (chat : Chat) : Chat :=
  { chat with history := chat.history.map Message.bare }

/-- Chats are the same without metadata when they differ in the metadata of their messages only. -/
theorem Chat.bare_eq_bare_iff {chat chat' : Chat} :
    chat.bare = chat'.bare ↔
      List.Forall₂ (fun m m' => m.withMetadata m'.metadata = m') chat.history chat'.history ∧
        chat' = { chat with history := chat'.history } := by
  have hhistory : chat.history.map Message.bare = chat'.history.map Message.bare ↔
      List.Forall₂ (fun m m' => m.withMetadata m'.metadata = m') chat.history chat'.history := by
    rw [← List.forall₂_eq_eq_eq, List.forall₂_map_left_iff, List.forall₂_map_right_iff]
    simp only [Message.bare_eq_bare_iff]
  rw [← hhistory]
  constructor
  · intro h
    obtain ⟨hmessages, hprompt, htools, hchoice, htokens⟩ := Chat.mk.inj h
    refine ⟨hmessages, ?_⟩
    rw [hprompt, htools, hchoice, htokens]
  · rintro ⟨hmessages, hrest⟩
    rw [Chat.bare, hmessages, hrest]
    rfl

/-! ## The check of a chat -/

theorem checkChat_bare (chat : Chat) (capabilities : Capabilities) (provider : Text) :
    checkChat chat.bare capabilities provider = checkChat chat capabilities provider := by
  have himages : chat.bare.history.any Message.hasImages = chat.history.any Message.hasImages := by
    rw [Chat.bare, List.any_map, Function.comp_def, funext Message.hasImages_bare]
  rw [checkChat, himages]
  rfl

/-! ## Chat completions -/

namespace OpenAI

theorem message_bare (m : Message) : message m.bare = message m := by
  cases m <;> rfl

theorem messages_bare (chat : Chat) : messages chat.bare = messages chat := by
  rw [messages, Chat.bare, Message.mapM_bare message_bare]
  rfl

theorem Dialect.payload_bare (d : Dialect) (model : Text) (chat : Chat) :
    d.payload model chat.bare = d.payload model chat := by
  rw [payload, messages_bare]
  rfl

end OpenAI

/-! ## Alternating turns -/

namespace Anthropic

theorem turnOf_bare (m : Message) : turnOf m.bare = turnOf m := by
  cases m <;> rfl

theorem systemText?_bare (m : Message) : systemText? m.bare = systemText? m := by
  cases m <;> rfl

theorem turns_bare (history : List Message) : turns (history.map Message.bare) = turns history := by
  rw [turns, Message.mapM_bare turnOf_bare]
  rfl

theorem systemParts_bare (chat : Chat) : systemParts chat.bare = systemParts chat := by
  rw [systemParts, Chat.bare, List.filterMap_map, Function.comp_def, funext systemText?_bare]
  rfl

theorem payload_bare (model : Text) (chat : Chat) :
    payload model chat.bare = payload model chat := by
  rw [payload, systemParts_bare, Chat.bare, turns_bare]
  rfl

end Anthropic

/-! ## Contents of parts -/

namespace Gemini

theorem itemOf_bare (names : CallNames) (m : Message) : itemOf names m.bare = itemOf names m := by
  cases m <;> rfl

/-- The names of calls that are kept on the way do not depend on metadata. -/
theorem itemsFrom_bare (names : CallNames) (history : List Message) :
    itemsFrom names (history.map Message.bare) = itemsFrom names history := by
  induction history generalizing names with
  | nil => rfl
  | cons m rest ih =>
    rw [List.map_cons, itemsFrom, itemsFrom, itemOf_bare, Message.calls_bare, ih]

theorem payload_bare (chat : Chat) : payload chat.bare = payload chat := by
  have hitems : items chat.bare.history = items chat.history := by
    rw [items, Chat.bare, itemsFrom_bare]
    rfl
  rw [payload, hitems, Anthropic.systemParts_bare]
  rfl

end Gemini

/-! ## Local chat -/

namespace Ollama

theorem message_bare (names : Gemini.CallNames) (m : Message) :
    message names m.bare = message names m := by
  cases m <;> rfl

theorem messagesFrom_bare (names : Gemini.CallNames) (history : List Message) :
    messagesFrom names (history.map Message.bare) = messagesFrom names history := by
  induction history generalizing names with
  | nil => rfl
  | cons m rest ih =>
    rw [List.map_cons, messagesFrom, messagesFrom, message_bare, Message.calls_bare, ih]

theorem payload_bare (model : Text) (chat : Chat) :
    payload model chat.bare = payload model chat := by
  rw [payload, Chat.bare, messagesFrom_bare]
  rfl

end Ollama

/-! ## The canonical format -/

namespace Canonical

theorem message_bare (m : Message) : message m.bare = message m := by
  cases m <;> rfl

theorem payload_bare (model : Text) (chat : Chat) :
    payload model chat.bare = payload model chat := by
  rw [payload, Chat.bare, List.map_map, Function.comp_def, funext message_bare]
  rfl

end Canonical

/-! ## Requests -/

namespace Backend

theorem payload_bare (b : Backend) (model : Text) (chat : Chat) :
    b.payload model chat.bare = b.payload model chat := by
  rw [payload, payload]
  cases b.provider with
  | openai => exact OpenAI.Dialect.payload_bare .openai model chat
  | mistral => exact OpenAI.Dialect.payload_bare .mistral model chat
  | anthropic => exact Anthropic.payload_bare model chat
  | gemini => exact Gemini.payload_bare chat
  | ollama => exact Ollama.payload_bare model chat
  | mock => exact congrArg Except.ok (Canonical.payload_bare model chat)

/-- A backend makes of a chat what it makes of the chat without metadata. -/
theorem buildRequest_bare (b : Backend) (model : Value) (chat : Chat) :
    b.buildRequest model chat.bare = b.buildRequest model chat := by
  simp only [buildRequest, checkChat_bare, payload_bare]

/-- Metadata never reach a backend.  Of two chats that are the same but for the metadata of their
messages, every backend refuses both with the same error, or makes requests with the same address,
the same headers and the same octets in the body. -/
theorem buildRequest_eq_of_bare_eq (b : Backend) (model : Value) (chat chat' : Chat)
    (h : chat.bare = chat'.bare) : b.buildRequest model chat = b.buildRequest model chat' := by
  rw [← buildRequest_bare b model chat, h, buildRequest_bare]

/-- A chat about the weather with a message of every role, once without metadata and once with the
metadata of a reply on all of its messages. -/
theorem buildRequest_eq_of_bare_eq_weather :
    let b : Backend := { provider := .gemini }
    let call : ToolCall :=
      ⟨"c1", "weather", "\x7b\"city\": \"Oslo\"\x7d", by decide, by decide⟩
    let history : List Message :=
      [.system (some (.text "Be brief.")) [], .user (some (.text "How is it in Oslo?")) [],
        .assistant ⟨none, [call], [], by decide⟩,
        .tool call.id (some (.text "rain")) [] call.identified]
    let told : Fields := [("id", .ofString "resp-7"), ("usage", .object [("tokens", .int 21)])]
    let chat : Chat := { history }
    let chat' : Chat := { history := history.map (Message.withMetadata told) }
    chat.same chat' = false ∧ (b.buildRequest "gemini-2.0-flash" chat).isOk = true ∧
      b.buildRequest "gemini-2.0-flash" chat = b.buildRequest "gemini-2.0-flash" chat' := by
  intro b call history told chat chat'
  exact ⟨by decide +kernel, by decide +kernel, buildRequest_eq_of_bare_eq b _ chat chat' rfl⟩

end Backend

end Colloquy
