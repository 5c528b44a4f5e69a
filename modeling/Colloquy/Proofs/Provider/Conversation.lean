import Colloquy.Proofs.Error.Escape
import Colloquy.Proofs.Json.Written
import Colloquy.Proofs.Provider.Reply

/-!
# Conversations in payloads

A payload says what the messages of a chat say.  `Provider.said` reads it off again, as
pieces with the roles under which they are said, in the order of the messages.  Backends
that merge turns say a turn in several pieces, so that a merged turn says the pieces of
both turns.

When a turn of the model is added to a chat, the payload says the pieces of that turn
behind all that it said before (`Backend.payload_addMessage`).
-/

namespace Colloquy

/-- Something that a payload says, and the role under which it says it. -/
structure Said where
  role : Value
  piece : Value

namespace Provider

/-- The field of a payload that holds its turns. -/
def turnsKey : Provider → Text
  | .gemini => "contents"
  | _ => "messages"

/-- The turns of a payload. -/
def turns (p : Provider) (payload : Value) : List Value :=
  (payload.field p.turnsKey).elements

/-- The blocks of the content of a turn; plain text is one block. -/
def blocks : Value → List Value
  | .text t => [.object [("type", .ofString "text"), ("text", .text t)]]
  | content => content.elements

/-- What a turn says: its blocks or parts where turns are merged, else itself. -/
def saidIn (p : Provider) (turn : Value) : List Said :=
  match p with
  | .anthropic => (blocks (turn.field "content")).map (Said.mk (turn.field "role"))
  | .gemini => (turn.field "parts").elements.map (Said.mk (turn.field "role"))
  | _ => [⟨turn.field "role", turn⟩]

/-- What a payload says, in order. -/
def said (p : Provider) (payload : Value) : List Said :=
  (p.turns payload).flatMap p.saidIn

/-- The role under which the model speaks. -/
def modelRole : Provider → Value
  | .gemini => .ofString "model"
  | _ => .ofString "assistant"

/-- The pieces in which a turn of the model is said. -/
def ownPieces (p : Provider) (m : AssistantMessage) : Except Exception (List Value) :=
  match p with
  | .openai | .mistral => do return [← OpenAI.message (.assistant m)]
  | .anthropic => Anthropic.assistantBlocks m
  | .gemini => do
    return (m.content.map Gemini.parts).getD [] ++ (← m.calls.mapM Gemini.callPart)
  | .ollama => do return [← Ollama.message [] (.assistant m)]
  | .mock => .ok [Canonical.message (.assistant m)]

/-- The room that is left for a turn in a payload: the payload is an object, and in it the turns are
a list. -/
def turnRoom : Nat :=
  Json.depthLimit - 2

/-- The room that is left for a piece of a turn: a turn that may be merged is an object, and in it
the pieces are a list. -/
def pieceRoom : Provider → Nat
  | .anthropic | .gemini => turnRoom - 2
  | .openai | .mistral | .ollama | .mock => turnRoom

/-- A payload says some pieces of the model behind all that another one says, and can be sent when
the other one can and these pieces can in the room that is left for them. -/
structure Extends (p : Provider) (before : Value) (own : List Value) (after : Value) : Prop where
  said : p.said after = p.said before ++ own.map (Said.mk p.modelRole)
  isSendable : Json.isSendable Json.depthLimit after = true ↔
    Json.isSendable Json.depthLimit before = true ∧
      ∀ piece ∈ own, Json.isSendable p.pieceRoom piece = true

end Provider

/-! ## Stages -/

/-- A result comes of an earlier one and of what is added to it. -/
structure Continues {α β : Type} (before : Except Exception α) (own : Except Exception β)
    (after : Except Exception α) (R : α → β → α → Prop) : Prop where
  error {x : α} {e : Exception} (hbefore : before = .ok x) (hown : own = .error e) :
    after = .error e
  ok {x : α} {y : β} (hbefore : before = .ok x) (hown : own = .ok y) : ∃ z, after = .ok z ∧ R x y z
  before {z : α} (hafter : after = .ok z) : ∃ x, before = .ok x

/-- What is written in the same way of a history and of that history with something added to it. -/
theorem Continues.of_stages {α β σ τ : Type} {R : α → β → α → Prop} {own : Except Exception β}
    {before after : Except Exception α} (history : Except Exception τ)
    (settings : Except Exception σ) (join : τ → β → τ) (write : τ → σ → α)
    (hbefore : before = do return write (← history) (← settings))
    (hafter : after = do return write (join (← history) (← own)) (← settings))
    (hR : ∀ t y s, own = .ok y → R (write t s) y (write (join t y) s)) :
    Continues before own after R := by
  subst hbefore hafter
  cases history with
  | error e => exact ⟨nofun, nofun, nofun⟩
  | ok t =>
    cases own with
    | error e =>
      refine ⟨?_, nofun, nofun⟩
      rintro x e' - ⟨⟩
      rfl
    | ok y =>
      cases settings with
      | error e => exact ⟨nofun, nofun, nofun⟩
      | ok s =>
        refine ⟨nofun, ?_, fun _ => ⟨write t s, rfl⟩⟩
        rintro _ _ ⟨⟩ ⟨⟩
        exact ⟨_, rfl, hR t y s rfl⟩

/-- A name that is not among the first fields is looked up behind them. -/
theorem get?_append_of_notMem {front back : Fields} {name : Text}
    (h : name ∉ front.map Prod.fst) : Assoc.get? (front ++ back) name = Assoc.get? back name := by
  have hfront : front.find? (fun entry => entry.1 = name) = none := by
    rw [List.find?_eq_none]
    intro entry hentry hname
    exact h (List.mem_map.2 ⟨entry, hentry, of_decide_eq_true hname⟩)
  rw [Assoc.get?, List.find?_append, hfront, Option.none_or, Assoc.get?]

namespace Provider

variable {p : Provider} {front back : Fields} {old new own : List Value}

/-- A payload with given turns, and what stands around them. -/
def around (p : Provider) (front back : Fields) (turns : List Value) : Value :=
  .object (front ++ (p.turnsKey, .list turns) :: back)

theorem turns_around (hkey : p.turnsKey ∉ front.map Prod.fst) (turns : List Value) :
    p.turns (p.around front back turns) = turns := by
  have hget : Assoc.get? (front ++ (p.turnsKey, Value.list turns) :: back) p.turnsKey
      = some (.list turns) := by
    rw [get?_append_of_notMem hkey]
    simp [Assoc.get?]
  rw [around, Provider.turns, Value.field, Value.ofField, hget]
  rfl

/-- A payload can be sent when its turns can and what stands around them can. -/
theorem around_isSendable_iff {turns : List Value} :
    Json.isSendable Json.depthLimit (p.around front back turns) = true ↔
      (∀ turn ∈ turns, Json.isSendable turnRoom turn = true) ∧
        Json.isSendable Json.depthLimit (.object (front ++ back)) = true := by
  have hkey : p.turnsKey.isClean = true := by cases p <;> decide
  have hroom : Json.depthLimit = turnRoom + 1 + 1 := rfl
  rw [hroom]
  simp only [around, Json.isSendable_object_iff, List.forall_mem_append, List.forall_mem_cons,
    Json.isSendable_list_iff, hkey]
  tauto

/-- What stands behind the turns of a payload. -/
theorem field_around {name : Text} (hfront : name ∉ front.map Prod.fst) (hname : name ≠ p.turnsKey)
    (turns : List Value) : (p.around front back turns).field name = Value.ofField back name := by
  have hother : name ∉ [(p.turnsKey, Value.list turns)].map Prod.fst :=
    fun hmem => hname (List.mem_singleton.1 hmem)
  have hturns : Assoc.get? ((p.turnsKey, Value.list turns) :: back) name = Assoc.get? back name :=
    get?_append_of_notMem hother
  rw [around, Value.field, Value.ofField, get?_append_of_notMem hfront, hturns, Value.ofField]

/-- A payload that differs in its turns alone says what is added to them. -/
theorem extends_of_turns (hkey : p.turnsKey ∉ front.map Prod.fst)
    (hsaid : new.flatMap p.saidIn = old.flatMap p.saidIn ++ own.map (Said.mk p.modelRole))
    (hsendable : (∀ turn ∈ new, Json.isSendable turnRoom turn = true) ↔
      (∀ turn ∈ old, Json.isSendable turnRoom turn = true) ∧
        ∀ piece ∈ own, Json.isSendable p.pieceRoom piece = true) :
    p.Extends (p.around front back old) own (p.around front back new) := by
  constructor
  · rw [said, said, turns_around hkey, turns_around hkey, hsaid]
  · rw [around_isSendable_iff, around_isSendable_iff, hsendable]
    tauto

/-- A backend takes each message as one turn. -/
def TakesMessages (p : Provider) : Prop :=
  ∀ turn, p.saidIn turn = [⟨turn.field "role", turn⟩]

theorem extends_of_messages (hp : p.TakesMessages) (hroom : p.pieceRoom = turnRoom)
    (hkey : p.turnsKey ∉ front.map Prod.fst)
    (hrole : ∀ piece ∈ own, piece.field "role" = p.modelRole) :
    p.Extends (p.around front back old) own (p.around front back (old ++ own)) := by
  refine extends_of_turns hkey ?_ (by rw [hroom]; exact List.forall_mem_append)
  have hown : own.flatMap p.saidIn = own.map (Said.mk p.modelRole) := by
    induction own with
    | nil => rfl
    | cons piece own ih =>
      rw [List.forall_mem_cons] at hrole
      rw [List.flatMap_cons, hp, hrole.1, ih hrole.2]
      rfl
  rw [List.flatMap_append, hown]

end Provider

/-! ## Whole messages -/

/-- The system prompt of a chat as a message, when there is one. -/
def Chat.promptMessages (chat : Chat) : List Value :=
  if chat.systemPrompt.truthy then
    [.object [("role", .ofString "system"), ("content", chat.systemPrompt)]]
  else []

namespace OpenAI

/-- The fields of a payload behind the messages. -/
def Dialect.backFields (d : Dialect) (model : Text) (chat : Chat) : Fields :=
  (d.limitKey model, chat.maxOutputTokens.toValue) :: Assoc.concat
    [if (d.tools chat).isEmpty then []
      else [("tools", .list ((d.tools chat).map tool)), ("tool_choice", d.choice chat)]]

theorem payload_eq (d : Dialect) (model : Text) (chat : Chat) :
    d.payload model chat = do
      return d.provider.around [("model", .text model)] (d.backFields model chat)
        (chat.promptMessages ++ (← chat.history.mapM message)) := by
  have hkey : d.provider.turnsKey = Text.ofString "messages" := by cases d <;> rfl
  rw [Dialect.payload, messages]
  simp only [Provider.around, hkey, bind_assoc, pure_bind]
  rfl

theorem payload_continues (d : Dialect) (model : Text) (chat : Chat) (m : AssistantMessage) :
    Continues (d.payload model chat) (d.provider.ownPieces m)
      (d.payload model (chat.addMessage (.assistant m))) d.provider.Extends := by
  have hown : d.provider.ownPieces m = do return [← message (.assistant m)] := by
    cases d <;> rfl
  have hmessages : d.provider.TakesMessages := by
    cases d <;> exact fun _ => rfl
  have hroom : d.provider.pieceRoom = Provider.turnRoom := by
    cases d <;> rfl
  have hkey : d.provider.turnsKey ∉ [Text.ofString "model"] := by
    cases d <;> decide
  have hrole : d.provider.modelRole = .ofString "assistant" := by
    cases d <;> rfl
  refine .of_stages (chat.history.mapM message) (pure ()) (fun t y => t ++ y)
    (fun t _ => d.provider.around [("model", .text model)] (d.backFields model chat)
      (chat.promptMessages ++ t)) ?_ ?_ ?_
  · exact payload_eq d model chat
  · have hhistory : (chat.addMessage (.assistant m)).history = chat.history ++ [.assistant m] := rfl
    rw [payload_eq, hown, hhistory]
    simp only [List.mapM_append, List.mapM_cons, List.mapM_nil, bind_assoc, pure_bind]
    rfl
  · rintro t y - hy
    rw [← List.append_assoc]
    refine Provider.extends_of_messages hmessages hroom hkey ?_
    rw [hown] at hy
    cases hy
    rw [hrole]
    exact List.forall_mem_singleton.2 rfl

end OpenAI

namespace Ollama

/-- The fields of a payload behind the messages. -/
def backFields (chat : Chat) : Fields :=
  ("stream", .bool false) :: ("options", .object [("num_predict", chat.maxOutputTokens.toValue)]) ::
    Assoc.concat
      [if (tools chat).isEmpty then [] else [("tools", .list ((tools chat).map tool))]]

theorem payload_eq (model : Text) (chat : Chat) :
    payload model chat = do
      return Provider.ollama.around [("model", .text model)] (backFields chat)
        (chat.promptMessages ++ (← messagesFrom [] chat.history)) := by
  rw [payload]
  rfl

/-- The field for the calls of a turn of the model, when it has calls. -/
def callFields (m : AssistantMessage) : Except Exception Fields :=
  if m.calls = [] then .ok []
  else do return [("tool_calls", .list (← m.calls.mapM toolCall))]

/-- A turn of the model is written without the names of earlier calls. -/
theorem message_assistant (names : Gemini.CallNames) (m : AssistantMessage) :
    message names (.assistant m) = do
      return .object (Assoc.concat [[("role", .ofString "assistant"),
        ("content", .text (Content.plainText m.content))], ← callFields m]) := by
  rw [callFields]
  simp only [message, pure_bind]
  split
  · rfl
  · simp only [bind_assoc, pure_bind]
    rfl

theorem messagesFrom_append (names : Gemini.CallNames) (history : List Message)
    (m : AssistantMessage) : messagesFrom names (history ++ [.assistant m]) = do
      return (← messagesFrom names history) ++ [← message [] (.assistant m)] := by
  induction history generalizing names with
  | nil =>
    rw [List.nil_append, messagesFrom, messagesFrom, messagesFrom, message_assistant,
      message_assistant]
    rfl
  | cons first history ih =>
    rw [List.cons_append, messagesFrom, ih, messagesFrom]
    simp only [bind_assoc, pure_bind]
    rfl

theorem message_role (m : AssistantMessage) {piece : Value}
    (h : message [] (.assistant m) = .ok piece) : piece.field "role" = .ofString "assistant" := by
  rw [message_assistant] at h
  obtain ⟨calls, -, h⟩ := bind_eq_ok_iff.1 h
  cases h
  rfl

theorem payload_continues (model : Text) (chat : Chat) (m : AssistantMessage) :
    Continues (payload model chat) (Provider.ollama.ownPieces m)
      (payload model (chat.addMessage (.assistant m))) Provider.ollama.Extends := by
  refine .of_stages (messagesFrom [] chat.history) (pure ()) (fun t y => t ++ y)
    (fun t _ => Provider.ollama.around [("model", .text model)] (backFields chat)
      (chat.promptMessages ++ t)) ?_ ?_ ?_
  · exact payload_eq model chat
  · have hhistory : (chat.addMessage (.assistant m)).history = chat.history ++ [.assistant m] := rfl
    rw [payload_eq, hhistory, messagesFrom_append, Provider.ownPieces]
    simp only [bind_assoc, pure_bind]
    rfl
  · rintro t y - hy
    rw [← List.append_assoc]
    refine Provider.extends_of_messages (fun _ => rfl) rfl
      (show Provider.ollama.turnsKey ∉ [Text.ofString "model"] by decide) ?_
    obtain ⟨piece, hpiece, hy⟩ := bind_eq_ok_iff.1 hy
    cases hy
    exact List.forall_mem_singleton.2 (message_role m hpiece)

end Ollama

namespace Canonical

theorem payload_continues (model : Text) (chat : Chat) (m : AssistantMessage) :
    Continues (.ok (payload model chat)) (Provider.mock.ownPieces m)
      (.ok (payload model (chat.addMessage (.assistant m)))) Provider.mock.Extends := by
  refine .of_stages (pure (chat.history.map message)) (pure ()) (fun t y => t ++ y)
    (fun t _ => Provider.mock.around [("model", .text model), ("system", chat.systemPrompt)]
      [("tools", .list (chat.tools.map tool)), ("tool_choice", toolChoice chat.toolChoice),
        ("max_output_tokens", chat.maxOutputTokens.toValue)] t) rfl ?_ ?_
  · have hhistory : (chat.addMessage (.assistant m)).history = chat.history ++ [.assistant m] := rfl
    rw [payload, hhistory, List.map_append]
    rfl
  · rintro t y - hy
    refine Provider.extends_of_messages (fun _ => rfl) rfl
      (show Provider.mock.turnsKey ∉ [Text.ofString "model", Text.ofString "system"] by decide) ?_
    cases hy
    exact List.forall_mem_singleton.2 rfl

end Canonical

/-! ## Merged turns -/

/-- A turn behind others, joined with the last of them when both are of one side. -/
def mergeLast {τ κ : Type} [DecidableEq κ] (side : τ → κ) (join : τ → τ → τ) (turns : List τ)
    (turn : τ) : List τ :=
  turns.getLast?.elim [turn] fun last =>
    if side last = side turn then turns.dropLast ++ [join last turn] else turns ++ [turn]

theorem mergeLast_cases {τ κ : Type} [DecidableEq κ] (side : τ → κ) (join : τ → τ → τ)
    (turns : List τ) (turn : τ) :
    (∀ last ∈ turns.getLast?, side last ≠ side turn) ∧
        mergeLast side join turns turn = turns ++ [turn] ∨
      ∃ front last, turns = front ++ [last] ∧ side last = side turn ∧
        mergeLast side join turns turn = front ++ [join last turn] := by
  rcases List.eq_nil_or_concat turns with rfl | ⟨front, last, rfl⟩
  · exact .inl ⟨fun _ hlast => absurd hlast (Option.not_mem_none _), rfl⟩
  · rw [List.concat_eq_append]
    have hlast : (front ++ [last]).getLast? = some last := List.getLast?_concat
    by_cases hside : side last = side turn
    · refine .inr ⟨front, last, rfl, hside, ?_⟩
      rw [mergeLast, hlast, Option.elim_some, if_pos hside, List.dropLast_concat]
    · refine .inl ⟨?_, ?_⟩
      · rw [hlast]
        rintro _ ⟨⟩
        exact hside
      · rw [mergeLast, hlast, Option.elim_some, if_neg hside]

/-- A turn is put behind others, or what it says is put behind what the last of them says. -/
def Merges {τ : Type} (said : τ → List Said) (add : List τ → τ → List τ) : Prop :=
  ∀ turns turn, add turns turn = turns ++ [turn] ∨
    ∃ front last merged, turns = front ++ [last] ∧ add turns turn = front ++ [merged] ∧
      said merged = said last ++ said turn

namespace Merges

variable {τ : Type} {said : τ → List Said} {add : List τ → τ → List τ}

theorem mergeLast {κ : Type} [DecidableEq κ] {side : τ → κ} {join : τ → τ → τ}
    (hjoin : ∀ last turn, side last = side turn → said (join last turn) = said last ++ said turn) :
    Merges said (mergeLast side join) := by
  intro turns turn
  rcases mergeLast_cases side join turns turn with ⟨-, hadd⟩ | ⟨front, last, hturns, hside, hadd⟩
  · exact .inl hadd
  · exact .inr ⟨front, last, _, hturns, hadd, hjoin last turn hside⟩

/-- Merging loses nothing that is said. -/
theorem flatMap_add (h : Merges said add) (turns : List τ) (turn : τ) :
    (add turns turn).flatMap said = turns.flatMap said ++ said turn := by
  rcases h turns turn with hadd | ⟨front, last, merged, rfl, hadd, hmerged⟩
  · rw [hadd, List.flatMap_append, List.flatMap_singleton]
  · rw [hadd, List.flatMap_append, List.flatMap_append, List.flatMap_singleton,
      List.flatMap_singleton, hmerged, List.append_assoc]

theorem flatMap_foldl (h : Merges said add) (turns own : List τ) :
    (own.foldl add turns).flatMap said = turns.flatMap said ++ own.flatMap said := by
  induction own generalizing turns with
  | nil => simp
  | cons turn own ih =>
    rw [List.foldl_cons, ih, h.flatMap_add, List.flatMap_cons, List.append_assoc]

/-- The turns of a payload may be merged with one of the model. -/
theorem extends_around {p : Provider} {front back : Fields} {own : List Value}
    {toValue : τ → Value} (h : Merges said add) (hkey : p.turnsKey ∉ front.map Prod.fst)
    (hsaid : ∀ turn, p.saidIn (toValue turn) = said turn)
    (hsendable : ∀ turn, Json.isSendable Provider.turnRoom (toValue turn) = true ↔
      ∀ s ∈ said turn, Json.isSendable p.pieceRoom s.piece = true)
    {turn : τ} (hturn : said turn = own.map (Said.mk p.modelRole)) (turns : List τ) :
    p.Extends (p.around front back (turns.map toValue)) own
      (p.around front back ((add turns turn).map toValue)) := by
  have hflat : ∀ turns : List τ, (turns.map toValue).flatMap p.saidIn = turns.flatMap said := by
    intro turns
    rw [List.flatMap_map]
    exact List.flatMap_congr fun turn _ => hsaid turn
  have hall : ∀ turns : List τ,
      (∀ value ∈ turns.map toValue, Json.isSendable Provider.turnRoom value = true) ↔
        ∀ s ∈ turns.flatMap said, Json.isSendable p.pieceRoom s.piece = true := by
    intro turns
    simp only [List.forall_mem_map, hsendable, List.forall_mem_flatMap]
  refine Provider.extends_of_turns hkey ?_ ?_
  · rw [hflat, hflat, h.flatMap_add, hturn]
  · rw [hall, hall, h.flatMap_add, hturn, List.forall_mem_append, List.forall_mem_map]

end Merges

/-- What a system message says is no part of a turn of the model. -/
theorem Anthropic.systemParts_addMessage (chat : Chat) (m : AssistantMessage) :
    systemParts (chat.addMessage (.assistant m)) = systemParts chat := by
  have htexts : (chat.addMessage (.assistant m)).history.filterMap systemText?
      = chat.history.filterMap systemText? := by
    show (chat.history ++ [Message.assistant m]).filterMap systemText? = _
    rw [List.filterMap_append]
    exact List.append_nil _
  rw [systemParts, systemParts, htexts]
  rfl

namespace Anthropic

/-- What a turn says, block by block. -/
def Turn.said (turn : Turn) : List Said :=
  turn.content.toBlocks.map (Said.mk (.text turn.side.name))

/-- Two turns of one side as one. -/
def Turn.join (last turn : Turn) : Turn :=
  ⟨turn.side, .blocks (last.content.toBlocks ++ turn.content.toBlocks)⟩

theorem addTurn_eq : addTurn = mergeLast Turn.side Turn.join := by
  funext turns turn
  rw [addTurn, mergeLast]
  cases turns.getLast? with
  | none => rfl
  | some last => rfl

theorem addTurn_merges : Merges Turn.said addTurn := by
  rw [addTurn_eq]
  refine .mergeLast fun last turn hside => ?_
  simp [Turn.said, Turn.join, TurnContent.toBlocks, hside]

theorem saidIn_toValue (turn : Turn) : Provider.anthropic.saidIn turn.toValue = turn.said := by
  cases turn with
  | mk side content => cases content <;> rfl

theorem textBlock_isSendable_iff {room : Nat} {t : Text} :
    Json.isSendable (room + 1) (textBlock t) = true ↔ t.isClean = true := by
  rw [textBlock, Json.isSendable_object_iff]
  simp only [List.forall_mem_cons, Json.isSendable_text_iff, Value.ofString]
  constructor
  · intro h
    exact h.2.1.2
  · intro h
    exact ⟨⟨by decide, by decide⟩, ⟨by decide, h⟩, nofun⟩

/-- A turn of plain text takes less room than one with a block of the text; there is enough for
both. -/
theorem toValue_isSendable_iff_of_room {room : Nat} (turn : Turn) :
    Json.isSendable (room + 3) turn.toValue = true ↔
      ∀ s ∈ turn.said, Json.isSendable (room + 1) s.piece = true := by
  have hname : turn.side.name.isClean = true := by cases turn.side <;> decide
  have hblocks : (∀ s ∈ turn.said, Json.isSendable (room + 1) s.piece = true) ↔
      ∀ block ∈ turn.content.toBlocks, Json.isSendable (room + 1) block = true := by
    rw [Turn.said, List.forall_mem_map]
  rw [hblocks, Turn.toValue, Json.isSendable_object_iff]
  simp only [List.forall_mem_cons, Json.isSendable_text_iff, hname, and_true]
  have hkeys : (Text.ofString "role").isClean = true ∧
      (Text.ofString "content").isClean = true := by
    decide
  cases turn.content with
  | text t =>
    simp only [TurnContent.toBlocks, List.forall_mem_cons, textBlock_isSendable_iff,
      Json.isSendable_text_iff]
    tauto
  | blocks items =>
    simp only [TurnContent.toBlocks, Json.isSendable_list_iff]
    tauto

theorem toValue_isSendable_iff (turn : Turn) :
    Json.isSendable Provider.turnRoom turn.toValue = true ↔
      ∀ s ∈ turn.said, Json.isSendable (Provider.pieceRoom .anthropic) s.piece = true :=
  toValue_isSendable_iff_of_room turn

/-- The fields of a payload behind the turns. -/
def backFields (chat : Chat) (system : Fields) : Fields :=
  Assoc.concat [system, if chat.tools.isEmpty then []
    else Assoc.concat
      [[("tools", .list (chat.tools.map tool))],
        match chat.toolChoice with
        | none => []
        | some choice => [("tool_choice", toolChoice choice)]]]

/-- The field for what the system says, when there is something. -/
def systemFields (parts : List Value) : Except Exception Fields :=
  if parts.isEmpty then .ok []
  else do return [("system", .text (← joinTexts parts))]

theorem payload_eq (model : Text) (chat : Chat) :
    payload model chat = do
      let merged ← turns chat.history
      let system ← systemFields (systemParts chat)
      return Provider.anthropic.around
        [("model", .text model), ("max_tokens", chat.maxOutputTokens.toValue)]
        (backFields chat system) (merged.map Turn.toValue) := by
  rw [payload]
  refine congrArg (turns chat.history >>= ·) (funext fun merged => ?_)
  dsimp only
  rw [systemFields]
  split
  · rfl
  · simp only [bind_assoc, pure_bind]
    rfl

theorem turns_append (history : List Message) (m : AssistantMessage) :
    turns (history ++ [.assistant m]) = do
      return addTurn (← turns history) ⟨.assistant, .blocks (← assistantBlocks m)⟩ := by
  rw [turns, turns, List.mapM_append]
  simp only [List.mapM_cons, List.mapM_nil, turnOf, bind_assoc, pure_bind, List.filterMap_append,
    List.foldl_append]
  rfl

theorem payload_continues (model : Text) (chat : Chat) (m : AssistantMessage) :
    Continues (payload model chat) (Provider.anthropic.ownPieces m)
      (payload model (chat.addMessage (.assistant m))) Provider.anthropic.Extends := by
  refine .of_stages (turns chat.history) (systemFields (systemParts chat))
    (fun merged blocks => addTurn merged ⟨.assistant, .blocks blocks⟩)
    (fun merged system => Provider.anthropic.around
      [("model", .text model), ("max_tokens", chat.maxOutputTokens.toValue)]
      (backFields chat system) (merged.map Turn.toValue)) ?_ ?_ ?_
  · exact payload_eq model chat
  · have hhistory : (chat.addMessage (.assistant m)).history = chat.history ++ [.assistant m] := rfl
    rw [payload_eq, hhistory, turns_append, systemParts_addMessage]
    simp only [bind_assoc, pure_bind]
    rfl
  · rintro merged blocks system -
    exact addTurn_merges.extends_around
      (show Provider.anthropic.turnsKey ∉ [Text.ofString "model", Text.ofString "max_tokens"] by
        decide)
      saidIn_toValue toValue_isSendable_iff rfl merged

end Anthropic

namespace Gemini

/-- What contents say, part by part. -/
def Item.said (item : Item) : List Said :=
  item.parts.map (Said.mk (.text item.role.name))

/-- Contents of one role as one. -/
def Item.join (last item : Item) : Item :=
  ⟨item.role, last.parts ++ item.parts⟩

theorem addItem_eq : addItem = mergeLast Item.role Item.join := by
  funext items item
  rw [addItem, mergeLast]
  cases items.getLast? with
  | none => rfl
  | some last => rfl

theorem addItem_merges : Merges Item.said addItem := by
  rw [addItem_eq]
  refine .mergeLast fun last item hrole => ?_
  simp [Item.said, Item.join, hrole]

theorem toValue_isSendable_iff (item : Item) :
    Json.isSendable Provider.turnRoom item.toValue = true ↔
      ∀ s ∈ item.said, Json.isSendable (Provider.pieceRoom .gemini) s.piece = true := by
  have hname : item.role.name.isClean = true := by cases item.role <;> decide
  have hkeys : (Text.ofString "role").isClean = true ∧ (Text.ofString "parts").isClean = true := by
    decide
  have hroom : Provider.turnRoom = Provider.pieceRoom .gemini + 1 + 1 := rfl
  rw [hroom, Item.toValue, Json.isSendable_object_iff, Item.said, List.forall_mem_map]
  simp only [List.forall_mem_cons, Json.isSendable_text_iff, Json.isSendable_list_iff, hname,
    and_true]
  tauto

/-- The fields of a payload behind the contents. -/
def backFields (chat : Chat) (system : Text) : Fields :=
  ("generationConfig", .object [("maxOutputTokens", chat.maxOutputTokens.toValue)]) ::
    Assoc.concat
      [if system = [] then []
        else [("systemInstruction", .object [("parts", .list [.object [("text", .text system)]])])],
        if chat.tools.isEmpty then []
        else Assoc.concat
          [[("tools", .list [.object [("functionDeclarations", .list (chat.tools.map tool))]])],
            match chat.toolChoice with
            | none => []
            | some choice => [("toolConfig", toolConfig choice)]]]

theorem payload_eq (chat : Chat) :
    payload chat = do
      let merged ← items chat.history
      let system ← Anthropic.joinTexts (Anthropic.systemParts chat)
      return Provider.gemini.around [] (backFields chat system) (merged.map Item.toValue) := by
  rw [payload]
  rfl

theorem itemsFrom_append (names : CallNames) (history : List Message) (m : AssistantMessage) :
    itemsFrom names (history ++ [.assistant m]) = do
      return (← itemsFrom names history) ++ [⟨.model, ← Provider.gemini.ownPieces m⟩] := by
  induction history generalizing names with
  | nil =>
    rw [List.nil_append, itemsFrom, itemsFrom, itemsFrom, itemOf, Provider.ownPieces]
    simp only [bind_assoc, pure_bind]
    rfl
  | cons first history ih =>
    rw [List.cons_append, itemsFrom, ih, itemsFrom]
    simp only [bind_assoc, pure_bind, List.append_assoc]

theorem items_append (history : List Message) (m : AssistantMessage) :
    items (history ++ [.assistant m]) = do
      return addItem (← items history) ⟨.model, ← Provider.gemini.ownPieces m⟩ := by
  rw [items, items, itemsFrom_append]
  simp only [bind_assoc, pure_bind, List.foldl_append]
  rfl

theorem payload_continues (chat : Chat) (m : AssistantMessage) :
    Continues (payload chat) (Provider.gemini.ownPieces m)
      (payload (chat.addMessage (.assistant m))) Provider.gemini.Extends := by
  refine .of_stages (items chat.history) (Anthropic.joinTexts (Anthropic.systemParts chat))
    (fun merged parts => addItem merged ⟨.model, parts⟩)
    (fun merged system => Provider.gemini.around [] (backFields chat system)
      (merged.map Item.toValue)) ?_ ?_ ?_
  · exact payload_eq chat
  · have hhistory : (chat.addMessage (.assistant m)).history = chat.history ++ [.assistant m] := rfl
    rw [payload_eq, hhistory, items_append, Anthropic.systemParts_addMessage]
    simp only [bind_assoc, pure_bind]
    rfl
  · rintro merged parts system -
    exact addItem_merges.extends_around List.not_mem_nil (fun _ => rfl) toValue_isSendable_iff rfl
      merged

end Gemini

/-! ## Payloads -/

/-- When a turn of the model is added to a chat, its payload says the pieces of that turn behind all
that it said before, or the turn cannot be written. -/
theorem Backend.payload_addMessage (b : Backend) (model : Text) (chat : Chat)
    (m : AssistantMessage) :
    Continues (b.payload model chat) (b.provider.ownPieces m)
      (b.payload model (chat.addMessage (.assistant m))) b.provider.Extends := by
  unfold payload
  cases b.provider with
  | openai => exact OpenAI.payload_continues .openai model chat m
  | mistral => exact OpenAI.payload_continues .mistral model chat m
  | anthropic => exact Anthropic.payload_continues model chat m
  | gemini => exact Gemini.payload_continues chat m
  | ollama => exact Ollama.payload_continues model chat m
  | mock => exact Canonical.payload_continues model chat m

/-! ## Requests -/

/-- What a chat has as its tool choice is one that can be looked at, and what the choice asks for is
granted. -/
def Chat.ChoiceGranted (chat : Chat) (capabilities : Capabilities) (provider : Text) : Prop :=
  ∀ setting, chat.choice = some setting → ∃ choice, setting = .choice choice ∧
    checkChoice chat.tools capabilities provider choice = .ok ()

theorem Chat.ChoiceGranted.of_toolChoice {chat : Chat} {capabilities : Capabilities}
    {provider : Text} (h : chat.ChoiceGranted capabilities provider) {choice : ToolChoice}
    (hchoice : chat.toolChoice = some choice) :
    checkChoice chat.tools capabilities provider choice = .ok () := by
  obtain ⟨setting, hsetting, hread⟩ := Option.bind_eq_some_iff.1 hchoice
  obtain ⟨choice', rfl, hgranted⟩ := h setting hsetting
  cases hread
  exact hgranted

/-- A chat can be expressed when the backend takes its tools, its images and its choice. -/
theorem checkChat_eq_ok_iff {chat : Chat} {capabilities : Capabilities} {provider : Text} :
    checkChat chat capabilities provider = .ok () ↔
      (chat.tools = [] ∨ capabilities.tools = true) ∧
      (capabilities.images = true ∨ ∀ m ∈ chat.history, m.hasImages = false) ∧
      chat.ChoiceGranted capabilities provider := by
  rw [checkChat, Chat.ChoiceGranted]
  by_cases htools : (!chat.tools.isEmpty && !capabilities.tools) = true
  · rw [if_pos htools]
    refine iff_of_false (fun h => by cases h) fun h => ?_
    rcases h.1 with hnone | hyes
    · simp [hnone] at htools
    · simp [hyes] at htools
  · rw [if_neg htools]
    have htaken : chat.tools = [] ∨ capabilities.tools = true := by
      simpa [or_iff_not_imp_left] using htools
    by_cases himages : (!capabilities.images && chat.history.any Message.hasImages) = true
    · rw [if_pos himages]
      refine iff_of_false (fun h => by cases h) fun h => ?_
      simp only [Bool.and_eq_true, Bool.not_eq_true', List.any_eq_true] at himages
      obtain ⟨hno, m, hm, hshown⟩ := himages
      rcases h.2.1 with hyes | hnone
      · rw [hno] at hyes
        cases hyes
      · rw [hnone m hm] at hshown
        cases hshown
    · rw [if_neg himages]
      have hshown : capabilities.images = true ∨ ∀ m ∈ chat.history, m.hasImages = false := by
        simpa [or_iff_not_imp_left] using himages
      cases hchoice : chat.choice with
      | none => simp [htaken, hshown]
      | some setting =>
        cases setting with
        | choice choice => simp [htaken, hshown]
        | stray value given => simp [htaken, hshown]

/-- A request that is built has an address, is for a chat that the backend can express, and carries
the payload of the chat. -/
theorem Backend.buildRequest_eq_ok {b : Backend} {model : Value} {chat : Chat}
    {request : Wire.Request} (h : b.buildRequest model chat = .ok request) :
    (∃ url, b.endpoint model.inText = .ok url) ∧
    checkChat chat b.provider.capabilities b.provider.name = .ok () ∧
    ∃ payload, b.payload model.inText chat = .ok payload ∧
      Json.encode payload = .ok request.body := by
  obtain ⟨url, hurl, h⟩ := bind_eq_ok_iff.1 h
  obtain ⟨⟨⟩, hcheck, h⟩ := bind_eq_ok_iff.1 h
  obtain ⟨payload, hpayload, h⟩ := bind_eq_ok_iff.1 h
  obtain ⟨body, hbody, h⟩ := bind_eq_ok_iff.1 h
  cases h
  exact ⟨⟨url, hurl⟩, hcheck, payload, hpayload, mapError_eq_ok_iff.1 hbody⟩

/-- A request is built when it has an address, is for a chat that the backend can express, and has a
payload that can be written. -/
theorem Backend.exists_buildRequest_iff (b : Backend) (model : Value) (chat : Chat) :
    (∃ request, b.buildRequest model chat = .ok request) ↔
      (∃ url, b.endpoint model.inText = .ok url) ∧
      checkChat chat b.provider.capabilities b.provider.name = .ok () ∧
      ∃ payload, b.payload model.inText chat = .ok payload ∧
        ∃ body, Json.encode payload = .ok body := by
  constructor
  · rintro ⟨request, h⟩
    obtain ⟨hurl, hcheck, payload, hpayload, hencode⟩ := buildRequest_eq_ok h
    exact ⟨hurl, hcheck, payload, hpayload, _, hencode⟩
  · rintro ⟨⟨url, hurl⟩, hcheck, payload, hpayload, body, hencode⟩
    have hbody : dumpPayload payload = .ok body := mapError_eq_ok_iff.2 hencode
    exact ⟨_, bind_eq_ok_iff.2 ⟨url, hurl, bind_eq_ok_iff.2 ⟨(), hcheck,
      bind_eq_ok_iff.2 ⟨payload, hpayload, bind_eq_ok_iff.2 ⟨body, hbody, rfl⟩⟩⟩⟩⟩

end Colloquy
