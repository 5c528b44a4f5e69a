import Colloquy.Proofs.Chat.Arguments
import Colloquy.Proofs.Chat.InlineImage
import Colloquy.Proofs.Provider.Conversation
import Mathlib.Data.List.Chain

/-!
# Alternating turns lose nothing

A payload in the format of Anthropic has turns of two sides, and neighbouring turns of one
side are merged.  `Anthropic.Says` tells block by block what a message says, and under
which role, without looking at the messages around it.  A payload that is sent alternates
between the sides, says exactly the blocks of the messages in their order, and carries the
prompt and the system messages at the top (`Backend.anthropic_turns`).
-/

namespace Colloquy

/-- Items are related one to one by a function just when they are what it gives. -/
theorem forall₂_eq_map_iff {α β : Type} {f : α → β} {xs : List α} {ys : List β} :
    List.Forall₂ (fun x y => y = f x) xs ys ↔ ys = xs.map f := by
  rw [eq_comm, ← List.forall₂_eq_eq_eq, List.forall₂_map_left_iff]
  simp only [eq_comm]

/-! ## Sides -/

/-- A turn is put behind a last one of another side, or it is merged into the last one, which keeps
its side. -/
def KeepsApart {τ κ : Type} (side : τ → κ) (add : List τ → τ → List τ) : Prop :=
  ∀ turns turn,
    (∀ last ∈ turns.getLast?, side last ≠ side turn) ∧ add turns turn = turns ++ [turn] ∨
    ∃ front last merged, turns = front ++ [last] ∧ add turns turn = front ++ [merged] ∧
      side merged = side last

namespace KeepsApart

variable {τ κ : Type} {side : τ → κ} {add : List τ → τ → List τ} {turns : List τ}

theorem mergeLast [DecidableEq κ] {join : τ → τ → τ}
    (hjoin : ∀ last turn, side last = side turn → side (join last turn) = side last) :
    KeepsApart side (mergeLast side join) := by
  intro turns turn
  rcases mergeLast_cases side join turns turn with hadd | ⟨front, last, hturns, hside, hadd⟩
  · exact .inl hadd
  · exact .inr ⟨front, last, _, hturns, hadd, hjoin last turn hside⟩

theorem isChain_add (h : KeepsApart side add) (hturns : (turns.map side).IsChain (· ≠ ·))
    (turn : τ) : ((add turns turn).map side).IsChain (· ≠ ·) := by
  rcases h turns turn with ⟨hother, hadd⟩ | ⟨front, last, merged, rfl, hadd, hside⟩
  · rw [hadd, List.map_append, List.isChain_append]
    refine ⟨hturns, .singleton _, ?_⟩
    rintro x hx y ⟨⟩
    rw [List.getLast?_map] at hx
    obtain ⟨last, hlast, rfl⟩ := Option.map_eq_some_iff.1 hx
    exact hother last hlast
  · -- the merged turn is of the side of the last one
    have hsides : (front ++ [merged]).map side = (front ++ [last]).map side := by
      rw [List.map_append, List.map_append, List.map_singleton, List.map_singleton, hside]
    rw [hadd, hsides]
    exact hturns

theorem isChain_foldl (h : KeepsApart side add) (hturns : (turns.map side).IsChain (· ≠ ·))
    (own : List τ) : ((own.foldl add turns).map side).IsChain (· ≠ ·) := by
  induction own generalizing turns with
  | nil => exact hturns
  | cons turn own ih => exact ih (h.isChain_add hturns turn)

end KeepsApart

/-- Turns of different sides are sent under different roles. -/
theorem isChain_roles {τ κ : Type} {side : τ → κ} {name : κ → Text} {toValue : τ → Value}
    (hname : Function.Injective name)
    (hrole : ∀ turn, (toValue turn).field "role" = .text (name (side turn))) {turns : List τ}
    (h : (turns.map side).IsChain (· ≠ ·)) :
    ((turns.map toValue).map fun turn => turn.field "role").IsChain (· ≠ ·) := by
  have hroles : (turns.map toValue).map (fun turn => turn.field "role")
      = (turns.map side).map fun side => Value.text (name side) := by
    rw [List.map_map, List.map_map]
    exact List.map_congr_left fun turn _ => hrole turn
  rw [hroles, List.isChain_map]
  exact h.imp fun a b hne heq => hne (hname (Value.text.inj heq))

namespace Anthropic

/-! ## Messages -/

/-- The block of a call with its arguments. -/
def CallsAs (call : ToolCall) (block : Value) : Prop :=
  ∃ input, call.argumentFields = .ok input ∧
    block = .object [("type", .ofString "tool_use"), ("id", .text call.id),
      ("name", .text call.name), ("input", .object input)]

/-- The block of a part of content: a text, an image whose data stand in its address, or an image
that is found at its address. -/
inductive PartAs : Part → Value → Prop
  | text (t : Text) :
      PartAs (.text t) (.object [("type", .ofString "text"), ("text", .text t)])
  | inline {url : Text} {image : InlineImage} (detail : Value) (addressed : url ≠ [])
      (hspelled : image.SpelledBy url) :
      PartAs (.image url detail addressed) (.object [("type", .ofString "image"),
        ("source", .object [("type", .ofString "base64"), ("media_type", .text image.mediaType),
          ("data", .text image.data)])])
  | linked {url : Text} (detail : Value) (addressed : url ≠ [])
      (hspelled : ∀ image : InlineImage, ¬image.SpelledBy url) :
      PartAs (.image url detail addressed) (.object [("type", .ofString "image"),
        ("source", .object [("type", .ofString "url"), ("url", .text url)])])

theorem partAs_iff {part : Part} {block : Value} : PartAs part block ↔ block = partBlock part := by
  constructor
  · rintro (t | ⟨detail, addressed, hspelled⟩ | ⟨detail, addressed, hspelled⟩)
    · rfl
    · rw [partBlock, imageSource, InlineImage.ofUrl?_eq_some_iff.2 hspelled]
    · rw [partBlock, imageSource, InlineImage.ofUrl?_eq_none_iff.2 hspelled]
  · rintro rfl
    cases part with
    | text t => exact .text t
    | image url detail addressed =>
      rw [partBlock, imageSource]
      cases himage : InlineImage.ofUrl? url with
      | some image => exact .inline detail addressed (InlineImage.ofUrl?_eq_some_iff.1 himage)
      | none => exact .linked detail addressed (InlineImage.ofUrl?_eq_none_iff.1 himage)

theorem forall₂_partAs_iff {items : List Part} {blocks : List Value} :
    List.Forall₂ PartAs items blocks ↔ blocks = items.map partBlock := by
  have heq : PartAs = fun part block => block = partBlock part :=
    funext₂ fun _ _ => propext partAs_iff
  rw [heq, forall₂_eq_map_iff]

/-- The blocks of a message, and the role that says them. -/
inductive Says : Message → List Said → Prop
  | system (content : Option Content) (metadata : Fields) : Says (.system content metadata) []
  | userText (t : Text) (metadata : Fields) :
      Says (.user (some (.text t)) metadata)
        [⟨.ofString "user", .object [("type", .ofString "text"), ("text", .text t)]⟩]
  | userParts {items : List Part} {blocks : List Value} (metadata : Fields)
      (hparts : List.Forall₂ PartAs items blocks) :
      Says (.user (some (.parts items)) metadata) (blocks.map (Said.mk (.ofString "user")))
  | tool (id : Text) (content : Option Content) (metadata : Fields) (identified : id ≠ []) :
      Says (.tool id content metadata identified)
        [⟨.ofString "user", .object [("type", .ofString "tool_result"), ("tool_use_id", .text id),
          ("content", .text (Content.plainText content))]⟩]
  | silent {m : AssistantMessage} {calls : List Value} (htext : Content.plainText m.content = [])
      (hcalls : List.Forall₂ CallsAs m.calls calls) :
      Says (.assistant m) (calls.map (Said.mk (.ofString "assistant")))
  | spoken {m : AssistantMessage} {calls : List Value} (htext : Content.plainText m.content ≠ [])
      (hcalls : List.Forall₂ CallsAs m.calls calls) :
      Says (.assistant m)
        (⟨.ofString "assistant", .object [("type", .ofString "text"),
          ("text", .text (Content.plainText m.content))]⟩ ::
          calls.map (Said.mk (.ofString "assistant")))

/-- What a turn of a message says, nothing when there is no turn. -/
def turnSaid (turn : Option Turn) : List Said :=
  turn.elim [] Turn.said

theorem callBlock_returns (call : ToolCall) : Returns (CallsAs call) (callBlock call) := by
  intro block h
  obtain ⟨input, hinput, h⟩ := bind_eq_ok_iff.1 h
  cases h
  exact ⟨input, hinput, rfl⟩

/-- The turn of a message says what the message says. -/
theorem turnOf_returns (m : Message) : Returns (fun turn => Says m (turnSaid turn)) (turnOf m) := by
  cases m with
  | system content metadata => exact .ok (.system content metadata)
  | tool id content metadata identified => exact .ok (.tool id content metadata identified)
  | user content metadata =>
    match content with
    | none => exact .error _
    | some (.text t) => exact .ok (.userText t metadata)
    | some (.parts items) => exact .ok (.userParts metadata (forall₂_partAs_iff.2 rfl))
  | assistant m =>
    intro turn h
    obtain ⟨blocks, hblocks, h⟩ := bind_eq_ok_iff.1 h
    cases h
    obtain ⟨calls, hfound, hblocks⟩ := bind_eq_ok_iff.1 hblocks
    cases hblocks
    have hcalls := Returns.mapM callBlock_returns m.calls calls hfound
    by_cases htext : Content.plainText m.content = []
    · rw [if_pos htext]
      exact .silent htext hcalls
    · rw [if_neg htext]
      exact .spoken htext hcalls

/-! ## Histories -/

theorem turns_eq_ok {history : List Message} {merged : List Turn}
    (h : turns history = .ok merged) :
    ∃ own, List.Forall₂ Says history own ∧ merged.flatMap Turn.said = own.flatten := by
  obtain ⟨found, hfound, h⟩ := bind_eq_ok_iff.1 h
  cases h
  have hsays := Returns.mapM turnOf_returns history found hfound
  refine ⟨found.map turnSaid, List.forall₂_map_right_iff.2 hsays, ?_⟩
  rw [addTurn_merges.flatMap_foldl, List.flatMap_nil, List.nil_append]
  clear h hfound hsays
  induction found with
  | nil => rfl
  | cons turn found ih =>
    rw [List.map_cons, List.flatten_cons, ← ih]
    cases turn with
    | none => rfl
    | some turn => rfl

/-- Neighbouring turns are of different sides. -/
def Alternates (turns : List Turn) : Prop :=
  (turns.map Turn.side).IsChain (· ≠ ·)

theorem addTurn_keepsApart : KeepsApart Turn.side addTurn := by
  rw [addTurn_eq]
  exact .mergeLast fun _ _ hside => hside.symm

/-! ## What the system says -/

/-- Only texts are joined, and of them those that are not empty. -/
theorem joinTexts_eq_ok {parts : List Value} {text : Text} (h : joinTexts parts = .ok text) :
    ∃ texts, parts.filter Value.truthy = texts.map Value.text ∧ text = Text.join "\n\n" texts := by
  obtain ⟨texts, htexts, h⟩ := bind_eq_ok_iff.1 h
  cases h
  refine ⟨texts, ?_, rfl⟩
  have hrelated := Returns.mapM (R := fun (entry : Value × Nat) t => entry.1 = .text t)
    (fun entry => by
      obtain ⟨part, i⟩ := entry
      cases part with
      | text t => exact .pure rfl
      | _ => exact .error _) _ texts htexts
  have hparts : ∀ {entries : List (Value × Nat)} {texts : List Text},
      List.Forall₂ (fun entry t => entry.1 = .text t) entries texts →
        entries.map Prod.fst = texts.map Value.text := by
    intro entries texts h
    induction h with
    | nil => rfl
    | cons hentry _ ih => rw [List.map_cons, List.map_cons, hentry, ih]
  rw [← hparts hrelated, List.zipIdx_map_fst]

/-- The system text of a chat: the prompt and what the system messages say, without what is empty,
and with a blank line between neighbours. -/
def systemText (chat : Chat) : Text :=
  Text.join "\n\n" ((chat.systemPrompt.textOrEmpty :: chat.history.filterMap systemText?).filter
    (· ≠ []))

theorem filter_truthy_texts (texts : List Text) :
    (texts.map Value.text).filter Value.truthy = (texts.filter (· ≠ [])).map Value.text := by
  rw [List.filter_map]
  refine congrArg (List.map Value.text) (List.filter_congr fun t _ => ?_)
  cases t with
  | nil => rfl
  | cons c t => rfl

theorem map_text_inj {s t : List Text} (h : s.map Value.text = t.map Value.text) : s = t :=
  List.map_injective_iff.2 (fun _ _ heq => Value.text.inj heq) h

/-- A prompt that counts as false has no text. -/
theorem textOrEmpty_of_not_truthy {v : Value} (h : ¬v.truthy = true) : v.textOrEmpty = [] := by
  cases v with
  | text t =>
    cases t with
    | nil => rfl
    | cons c t => exact absurd rfl h
  | _ => rfl

theorem joinTexts_systemParts {chat : Chat} {text : Text}
    (h : joinTexts (systemParts chat) = .ok text) : text = systemText chat := by
  obtain ⟨texts, hkept, rfl⟩ := joinTexts_eq_ok h
  rw [systemParts, List.filter_append, filter_truthy_texts] at hkept
  rw [systemText]
  refine congrArg (Text.join "\n\n") ?_
  by_cases htruthy : chat.systemPrompt.truthy = true
  · rw [if_pos htruthy, List.filter_singleton, htruthy] at hkept
    cases texts with
    | nil => cases hkept
    | cons t texts =>
      -- the prompt stands in front, and it is a text
      obtain ⟨hprompt, hrest⟩ := List.cons.inj hkept
      rw [hprompt] at htruthy ⊢
      have hkeep : decide (t ≠ []) = true := by
        cases t with
        | nil => cases htruthy
        | cons c t => rfl
      show t :: texts = (t :: chat.history.filterMap systemText?).filter (· ≠ [])
      rw [List.filter_cons, if_pos hkeep]
      exact congrArg (t :: ·) (map_text_inj hrest).symm
  · rw [if_neg htruthy] at hkept
    rw [textOrEmpty_of_not_truthy htruthy]
    exact (map_text_inj hkept).symm

theorem systemFields_eq_ok {chat : Chat} {system : Fields}
    (h : systemFields (systemParts chat) = .ok system) :
    system = [] ∧ systemText chat = [] ∨
      system = [(Text.ofString "system", Value.text (systemText chat))] := by
  unfold systemFields at h
  split at h
  · rename_i hparts
    have hjoined : joinTexts (systemParts chat) = .ok [] := by
      rw [List.isEmpty_iff.1 hparts]
      rfl
    cases h
    exact .inl ⟨rfl, (joinTexts_systemParts hjoined).symm⟩
  · obtain ⟨text, htext, h⟩ := bind_eq_ok_iff.1 h
    cases h
    rw [joinTexts_systemParts htext]
    exact .inr rfl

/-! ## Payloads -/

theorem Side.name_injective : Function.Injective Side.name := by
  intro a b
  cases a <;> cases b <;> decide

theorem Alternates.roles {merged : List Turn} (h : Alternates merged) :
    ((merged.map Turn.toValue).map fun turn => turn.field "role").IsChain (· ≠ ·) :=
  isChain_roles Side.name_injective (fun _ => rfl) h

theorem payload_says {model : Text} {chat : Chat} {v : Value} (h : payload model chat = .ok v) :
    ((Provider.anthropic.turns v).map fun turn => turn.field "role").IsChain (· ≠ ·) ∧
    (∀ turn ∈ Provider.anthropic.turns v,
      turn.field "role" = .ofString "user" ∨ turn.field "role" = .ofString "assistant") ∧
    (∃ own, List.Forall₂ Says chat.history own ∧ Provider.anthropic.said v = own.flatten) ∧
    (v.field "system").textOrEmpty = systemText chat := by
  rw [payload_eq] at h
  obtain ⟨merged, hmerged, h⟩ := bind_eq_ok_iff.1 h
  obtain ⟨system, hsystem, h⟩ := bind_eq_ok_iff.1 h
  cases h
  have hsides : Alternates merged := by
    obtain ⟨found, -, hmerged⟩ := bind_eq_ok_iff.1 hmerged
    cases hmerged
    exact addTurn_keepsApart.isChain_foldl .nil _
  obtain ⟨own, hown, hsaid⟩ := turns_eq_ok hmerged
  have hturns : Provider.anthropic.turns (Provider.anthropic.around
      [("model", .text model), ("max_tokens", chat.maxOutputTokens.toValue)]
      (backFields chat system) (merged.map Turn.toValue)) = merged.map Turn.toValue :=
    Provider.turns_around
      (show Provider.anthropic.turnsKey ∉ [Text.ofString "model", Text.ofString "max_tokens"] by
        decide) _
  rw [Provider.said, hturns]
  refine ⟨hsides.roles, ?_, ⟨own, hown, ?_⟩, ?_⟩
  · rintro _ hturn
    obtain ⟨turn, -, rfl⟩ := List.mem_map.1 hturn
    cases hside : turn.side with
    | user => exact .inl (by rw [Turn.toValue, hside]; rfl)
    | assistant => exact .inr (by rw [Turn.toValue, hside]; rfl)
  · rw [List.flatMap_map, ← hsaid]
    exact List.flatMap_congr fun turn _ => saidIn_toValue turn
  · rcases systemFields_eq_ok hsystem with ⟨rfl, hempty⟩ | rfl
    · rw [hempty, backFields]
      cases chat.tools.isEmpty with
      | true => rfl
      | false =>
        cases chat.toolChoice with
        | none => rfl
        | some choice => rfl
    · rfl

end Anthropic

namespace Backend

open Anthropic

/-- The payload of a request in the format of Anthropic alternates between the user and the
assistant.  What its turns say is what the messages of the history say, each under its role, in
their order and without a block more or less; and the text of the system is made of the prompt and
the system messages. -/
theorem anthropic_turns {b : Backend} (hb : b.provider = .anthropic) {model : Value} {chat : Chat}
    {request : Wire.Request} (h : b.buildRequest model chat = .ok request) :
    ∃ payload, b.payload model.inText chat = .ok payload ∧
      Json.encode payload = .ok request.body ∧
      ((Provider.anthropic.turns payload).map fun turn => turn.field "role").IsChain (· ≠ ·) ∧
      (∀ turn ∈ Provider.anthropic.turns payload,
        turn.field "role" = .ofString "user" ∨ turn.field "role" = .ofString "assistant") ∧
      (∃ own, List.Forall₂ Says chat.history own ∧
        Provider.anthropic.said payload = own.flatten) ∧
      (payload.field "system").textOrEmpty = systemText chat := by
  obtain ⟨-, -, v, hpayload, hencode⟩ := buildRequest_eq_ok h
  refine ⟨v, hpayload, hencode, ?_⟩
  rw [payload, hb] at hpayload
  exact payload_says hpayload

/-- A call of the clock. -/
def clockCall : ToolCall := ⟨"c1", "time", "\x7b\"zone\": \"UTC\"\x7d", by decide, by decide⟩

/-- A chat with neighbouring turns of one side, and with a system message between them. -/
def mixedChat : Chat where
  history := [.user (some (.text "Hello")) [], .system (some (.text "Use the clock.")) [],
    .user (some (.parts [.text "What time is it?"])) [],
    .assistant ⟨some (.text "Let me see."), [clockCall], [], .inl rfl⟩,
    .tool "c1" (some (.text "noon")) [] (by decide), .user (some (.text "Thanks")) []]
  systemPrompt := .ofString "Be brief."
  maxOutputTokens := .count 1 Nat.one_pos

/-- The turns of that chat are merged into three, and all six blocks are said. -/
theorem anthropic_turns_mixedChat : ∃ request payload,
    ({ provider := .anthropic } : Backend).buildRequest .null mixedChat = .ok request ∧
    Json.encode payload = .ok request.body ∧
    ((Provider.anthropic.turns payload).map fun turn => turn.field "role").IsChain (· ≠ ·) ∧
    Provider.anthropic.said payload =
      [⟨.ofString "user", .object [("type", .ofString "text"), ("text", .ofString "Hello")]⟩,
        ⟨.ofString "user",
          .object [("type", .ofString "text"), ("text", .ofString "What time is it?")]⟩,
        ⟨.ofString "assistant",
          .object [("type", .ofString "text"), ("text", .ofString "Let me see.")]⟩,
        ⟨.ofString "assistant", .object [("type", .ofString "tool_use"), ("id", .ofString "c1"),
          ("name", .ofString "time"), ("input", .object [("zone", .ofString "UTC")])]⟩,
        ⟨.ofString "user", .object [("type", .ofString "tool_result"),
          ("tool_use_id", .ofString "c1"), ("content", .ofString "noon")]⟩,
        ⟨.ofString "user", .object [("type", .ofString "text"), ("text", .ofString "Thanks")]⟩] ∧
    (payload.field "system").textOrEmpty = Text.ofString "Be brief.\n\nUse the clock." := by
  obtain ⟨request, hbuild⟩ : ∃ request,
      ({ provider := .anthropic } : Backend).buildRequest .null mixedChat = .ok request :=
    exists_of_isOk (by decide +kernel)
  have hinput : clockCall.argumentFields = .ok [("zone", .ofString "UTC")] := by
    have hwrite : Json.write false (.object [("zone", .ofString "UTC")])
        = .ok (argumentText clockCall.arguments) := by decide +kernel
    have hnames : ([Text.ofString "zone"] : List Text).Nodup := by decide
    refine ToolCall.argumentFields_eq_ok_iff.2 (Json.read_write ?_ ?_ hwrite)
    · exact ⟨hnames, trivial, trivial⟩
    · exact ⟨trivial, trivial, trivial⟩
  obtain ⟨payload, -, hencode, hroles, -, ⟨own, hown, hsaid⟩, hsystem⟩ := anthropic_turns rfl hbuild
  refine ⟨request, payload, hbuild, hencode, hroles, hsaid.trans ?_, hsystem⟩
  -- what each message says is read off its shape, one after the other
  rw [mixedChat] at hown
  obtain - | ⟨⟨⟩, - | ⟨⟨⟩, - | ⟨hparted, - | ⟨hspoken, - | ⟨⟨⟩, - | ⟨⟨⟩, ⟨⟩⟩⟩⟩⟩⟩⟩ := hown
  cases hparted with
  | userParts _ hparts =>
    cases hspoken with
    | silent htext => exact absurd htext (by decide)
    | spoken _ hcalls =>
      obtain rfl := forall₂_partAs_iff.1 hparts
      obtain - | ⟨⟨input, hread, rfl⟩, ⟨⟩⟩ := hcalls
      cases hinput.symm.trans hread
      rfl

end Backend

end Colloquy
