import Colloquy.Proofs.Chat.InlineImage
import Colloquy.Proofs.Provider.Naming
import Colloquy.Proofs.Provider.Resend

/-!
# What images cost a request

A chat is refused for one of the images that the user sends, or for something else, and then it is
refused without these images as well.  `Chat.unpictured` is a chat without them.

* A history is written by a traversal with one step for each message, and
  `IsTraversal.exists_ok_map_iff` compares two traversals step by step, one of the messages and one
  of the messages without images.
* An image is one piece of its message, so a message can be written when it can be without its
  images and each image can be written.
* Anthropic and Gemini write every image whose address has no surrogate, and Ollama writes every
  image that is inline and whose data have none (`Backend.builds_iff`, `Backend.ollama_builds_iff`).
  An image that is not inline is the reason that Ollama gives (`Backend.ollama_refuses`).
-/

namespace Colloquy

open Json (isSendable depthLimit)
open Provider (turnRoom)

/-! ## Images of the user -/

/-- The address of a part that is an image. -/
def Part.url? : Part → Option Text
  | .text _ => none
  | .image url _ _ => some url

namespace Message

/-- The addresses of the images in a message of the user, in order. -/
def userUrls : Message → List Text
  | .user (some (.parts items)) _ => items.filterMap Part.url?
  | _ => []

/-- A message of the user without its images, and the other messages as they are. -/
def unpictured : Message → Message
  | .user (some (.parts items)) metadata =>
    .user (some (.parts (items.filter fun part => !part.isImage))) metadata
  | m => m

/-- Only messages of the user that are made of parts have such images. -/
theorem unpictured_cases (m : Message) :
    m.unpictured = m ∧ m.userUrls = [] ∨
      ∃ items metadata, m = .user (some (.parts items)) metadata := by
  match m with
  | .user (some (.parts items)) metadata => exact .inr ⟨items, metadata, rfl⟩
  | .user none _ | .user (some (.text _)) _ | .system .. | .assistant _ | .tool .. =>
    exact .inl ⟨rfl, rfl⟩

@[simp] theorem calls_unpictured (m : Message) : m.unpictured.calls = m.calls := by
  rcases m.unpictured_cases with ⟨hsame, -⟩ | ⟨items, metadata, rfl⟩
  · rw [hsame]
  · rfl

theorem systemText?_unpictured (m : Message) :
    Anthropic.systemText? m.unpictured = Anthropic.systemText? m := by
  rcases m.unpictured_cases with ⟨hsame, -⟩ | ⟨items, metadata, rfl⟩
  · rw [hsame]
  · rfl

end Message

namespace Chat

/-- The addresses of the images that the user sends in a chat, in order. -/
def userUrls (chat : Chat) : List Text :=
  chat.history.flatMap Message.userUrls

/-- A chat without the images that the user sends. -/
def unpictured (chat : Chat) : Chat :=
  { chat with history := chat.history.map Message.unpictured }

theorem forall_userUrls_iff {chat : Chat} {P : Text → Prop} :
    (∀ url ∈ chat.userUrls, P url) ↔ ∀ m ∈ chat.history, ∀ url ∈ m.userUrls, P url :=
  List.forall_mem_flatMap

theorem systemParts_unpictured (chat : Chat) :
    Anthropic.systemParts chat.unpictured = Anthropic.systemParts chat := by
  rw [Anthropic.systemParts, unpictured, List.filterMap_map, Function.comp_def,
    funext Message.systemText?_unpictured]
  rfl

end Chat

namespace Content

theorem plainText_filter (items : List Part) :
    plainText (some (.parts (items.filter fun part => !part.isImage)))
      = plainText (some (.parts items)) := by
  rw [plainText, plainText, List.filterMap_filter]
  refine congrArg List.flatten (List.filterMap_congr fun part _ => ?_)
  cases part <;> rfl

theorem urls_filter (items : List Part) :
    (items.filter fun part => !part.isImage).filterMap Part.url? = [] := by
  rw [List.filterMap_filter, List.filterMap_eq_nil_iff]
  intro part _
  cases part <;> rfl

/-- What is asked of the parts of content is asked of the others and of the images. -/
theorem forall_parts_iff {S : Part → Prop} {C : Text → Prop}
    (himage : ∀ url detail addressed, S (.image url detail addressed) ↔ C url) (items : List Part) :
    (∀ part ∈ items, S part) ↔ (∀ part ∈ items.filter fun part => !part.isImage, S part) ∧
      ∀ url ∈ items.filterMap Part.url?, C url := by
  induction items with
  | nil => simp
  | cons part items ih =>
    cases part with
    | text t => simp [ih, Part.isImage, Part.url?, and_assoc]
    | image url detail addressed =>
      simp [ih, Part.isImage, Part.url?, himage]
      tauto

end Content

/-! ## Traversals -/

namespace IsTraversal

variable {σ α β γ : Type} {run : σ → List α → Except Exception β}
  {step : σ → α → Except Exception γ} {next : σ → α → σ} {join : γ → β → β}

/-- Items are changed, but not what is known from them.  If each step asks something more of an item
as it was, then the traversal asks this of all items. -/
theorem exists_ok_map_iff (h : IsTraversal run step next join) {P : β → Prop} {Q : γ → Prop}
    (hjoin : ∀ z y, P (join z y) ↔ Q z ∧ P y) {f : α → α} {R : α → Prop}
    (hnext : ∀ s x, next s (f x) = next s x)
    (hstep : ∀ s x, (∃ z, step s x = .ok z ∧ Q z) ↔ (∃ z, step s (f x) = .ok z ∧ Q z) ∧ R x)
    (hnil : ∀ s, ∃ y, run s [] = .ok y ∧ P y) {s : σ} {xs : List α} :
    (∃ y, run s xs = .ok y ∧ P y) ↔ (∃ y, run s (xs.map f) = .ok y ∧ P y) ∧ ∀ x ∈ xs, R x := by
  induction xs generalizing s with
  | nil => exact iff_of_true (hnil s) ⟨hnil s, List.forall_mem_nil _⟩
  | cons x xs ih =>
    rw [List.map_cons, h.exists_ok_cons_iff hjoin, h.exists_ok_cons_iff hjoin, hnext, hstep, ih,
      List.forall_mem_cons]
    tauto

/-- Where every step gives something or raises one exception, so does the traversal. -/
theorem ok_or_error (h : IsTraversal run step next join) {e : Exception} {s : σ} {xs : List α}
    (hsteps : ∀ front x back, xs = front ++ x :: back →
      (∃ z, step (front.foldl next s) x = .ok z) ∨ step (front.foldl next s) x = .error e) :
    (∃ y, run s xs = .ok y) ∨ run s xs = .error e := by
  induction xs generalizing s with
  | nil => exact .inl (h.nil s)
  | cons x xs ih =>
    have hrest := ih fun front y back hxs => hsteps (x :: front) y back (congrArg (x :: ·) hxs)
    rw [h.cons]
    rcases hsteps [] x xs rfl with ⟨z, hz⟩ | hz
    · replace hz : step s x = .ok z := hz
      rw [hz, ok_bind]
      rcases hrest with ⟨y, hy⟩ | hy
      · rw [hy]
        exact .inl ⟨join z y, rfl⟩
      · rw [hy]
        exact .inr rfl
    · replace hz : step s x = .error e := hz
      rw [hz]
      exact .inr rfl

end IsTraversal

/-! ## Payloads in parts -/

/-- What is written of a history and of settings can be sent when both can be. -/
theorem exists_stages_iff {τ σ : Type} {history : Except Exception τ}
    {settings : Except Exception σ} {write : τ → σ → Value} {P : τ → Prop} {Q : σ → Prop}
    (hwrite : ∀ t s, isSendable depthLimit (write t s) = true ↔ P t ∧ Q s) :
    (∃ v, (do return write (← history) (← settings) : Except Exception Value) = .ok v ∧
      isSendable depthLimit v = true) ↔
      (∃ t, history = .ok t ∧ P t) ∧ ∃ s, settings = .ok s ∧ Q s := by
  constructor
  · rintro ⟨v, hv, hsendable⟩
    obtain ⟨t, ht, hv⟩ := bind_eq_ok_iff.1 hv
    obtain ⟨s, hs, hv⟩ := bind_eq_ok_iff.1 hv
    cases hv
    obtain ⟨hP, hQ⟩ := (hwrite t s).1 hsendable
    exact ⟨⟨t, ht, hP⟩, s, hs, hQ⟩
  · rintro ⟨⟨t, ht, hP⟩, s, hs, hQ⟩
    refine ⟨write t s, ?_, (hwrite t s).2 ⟨hP, hQ⟩⟩
    rw [ht, hs]
    rfl

/-- Merged turns can be sent when the turns can be. -/
theorem Merges.forall_foldl_iff {τ : Type} {said : τ → List Said} {add : List τ → τ → List τ}
    (h : Merges said add) {toValue : τ → Value} {room inner : Nat}
    (hsendable : ∀ turn, isSendable room (toValue turn) = true ↔
      ∀ s ∈ said turn, isSendable inner s.piece = true) (own : List τ) :
    (∀ turn ∈ own.foldl add [], isSendable room (toValue turn) = true) ↔
      ∀ turn ∈ own, isSendable room (toValue turn) = true := by
  have hsaid : ∀ turns : List τ, (∀ turn ∈ turns, isSendable room (toValue turn) = true) ↔
      ∀ s ∈ turns.flatMap said, isSendable inner s.piece = true := by
    intro turns
    rw [List.forall_mem_flatMap]
    exact forall₂_congr fun turn _ => hsendable turn
  rw [hsaid, hsaid, h.flatMap_foldl, List.flatMap_nil, List.nil_append]

/-! ## Alternating turns -/

namespace Anthropic

theorem imageBlock_isSendable_iff (url : Text) (detail : Value) (addressed : url ≠ []) :
    isSendable (Provider.pieceRoom .anthropic) (partBlock (.image url detail addressed)) = true ↔
      url.isClean = true := by
  have hroom : Provider.pieceRoom .anthropic = Provider.argumentRoom .anthropic - 1 + 1 + 1 := rfl
  rw [partBlock, imageSource, hroom]
  cases hinline : InlineImage.ofUrl? url with
  | none => simp [Json.isSendable_object_iff, Json.isSendable_text_iff]
  | some image =>
    rw [(InlineImage.ofUrl?_eq_some_iff.1 hinline).isClean_iff]
    simp [Json.isSendable_object_iff, Json.isSendable_text_iff]

/-- The turn of a message can be sent. -/
def TurnSendable (turn : Option Turn) : Prop :=
  ∀ t ∈ turn, isSendable turnRoom t.toValue = true

theorem exists_userTurn_iff (items : List Part) (metadata : Fields) :
    (∃ turn, turnOf (.user (some (.parts items)) metadata) = .ok turn ∧ TurnSendable turn) ↔
      ∀ part ∈ items, isSendable (Provider.pieceRoom .anthropic) (partBlock part) = true := by
  have hturn : ∀ turn : Turn, turn = ⟨.user, .blocks (items.map partBlock)⟩ →
      (isSendable turnRoom turn.toValue = true ↔
        ∀ part ∈ items, isSendable (Provider.pieceRoom .anthropic) (partBlock part) = true) := by
    rintro _ rfl
    rw [toValue_isSendable_iff, Turn.said, TurnContent.toBlocks, List.map_map, List.forall_mem_map]
    rfl
  constructor
  · rintro ⟨turn, h, hsendable⟩
    cases h
    exact (hturn _ rfl).1 (hsendable _ rfl)
  · intro hparts
    refine ⟨_, rfl, ?_⟩
    rintro t ⟨⟩
    exact (hturn _ rfl).2 hparts

theorem turnOf_unpictured_iff (m : Message) :
    (∃ turn, turnOf m = .ok turn ∧ TurnSendable turn) ↔
      (∃ turn, turnOf m.unpictured = .ok turn ∧ TurnSendable turn) ∧
        ∀ url ∈ m.userUrls, url.isClean = true := by
  rcases m.unpictured_cases with ⟨hsame, hnone⟩ | ⟨items, metadata, rfl⟩
  · rw [hsame, hnone]
    exact (and_iff_left (List.forall_mem_nil _)).symm
  · rw [Message.unpictured, exists_userTurn_iff, exists_userTurn_iff]
    exact Content.forall_parts_iff imageBlock_isSendable_iff items

theorem exists_turns_iff (history : List Message) :
    (∃ merged, turns history = .ok merged ∧
      ∀ turn ∈ merged.map Turn.toValue, isSendable turnRoom turn = true) ↔
    ∃ own, history.mapM turnOf = .ok own ∧ ∀ turn ∈ own, TurnSendable turn := by
  rw [turns, exists_return_iff]
  refine exists_congr fun own => and_congr_right fun _ => ?_
  rw [List.forall_mem_map, addTurn_merges.forall_foldl_iff toValue_isSendable_iff]
  exact List.forall_mem_filterMap

theorem turns_unpictured_iff (history : List Message) :
    (∃ merged, turns history = .ok merged ∧
      ∀ turn ∈ merged.map Turn.toValue, isSendable turnRoom turn = true) ↔
    (∃ merged, turns (history.map Message.unpictured) = .ok merged ∧
      ∀ turn ∈ merged.map Turn.toValue, isSendable turnRoom turn = true) ∧
      ∀ m ∈ history, ∀ url ∈ m.userUrls, url.isClean = true := by
  rw [exists_turns_iff, exists_turns_iff]
  exact (IsTraversal.mapM turnOf).exists_ok_map_iff (s := ()) (fun _ _ => List.forall_mem_cons)
    (fun _ _ => rfl) (fun _ => turnOf_unpictured_iff) fun _ => ⟨[], rfl, List.forall_mem_nil _⟩

theorem payload_isSendable_iff (model : Text) (chat : Chat) :
    (∃ v, payload model chat = .ok v ∧ isSendable depthLimit v = true) ↔
      (∃ merged, turns chat.history = .ok merged ∧
        ∀ turn ∈ merged.map Turn.toValue, isSendable turnRoom turn = true) ∧
      ∃ system, systemFields (systemParts chat) = .ok system ∧
        isSendable depthLimit (.object (([("model", .text model),
          ("max_tokens", chat.maxOutputTokens.toValue)] : Fields) ++ backFields chat system))
          = true := by
  rw [payload_eq]
  exact exists_stages_iff fun _ _ => Provider.around_isSendable_iff

/-- The payload of a chat can be sent when it can be without the images of the user, and no address
of such an image has a surrogate. -/
theorem payload_unpictured_iff (model : Text) (chat : Chat) :
    (∃ v, payload model chat = .ok v ∧ isSendable depthLimit v = true) ↔
      (∃ v, payload model chat.unpictured = .ok v ∧ isSendable depthLimit v = true) ∧
        ∀ url ∈ chat.userUrls, url.isClean = true := by
  rw [payload_isSendable_iff, payload_isSendable_iff, Chat.systemParts_unpictured,
    turns_unpictured_iff, Chat.forall_userUrls_iff]
  exact and_right_comm

end Anthropic

/-! ## Contents of parts -/

namespace Gemini

theorem imagePart_isSendable_iff (url : Text) (detail : Value) (addressed : url ≠ []) :
    isSendable (Provider.pieceRoom .gemini) (part (.image url detail addressed)) = true ↔
      url.isClean = true := by
  rw [part, pieceRoom_eq]
  cases hinline : InlineImage.ofUrl? url with
  | none => simp [Json.isSendable_object_iff, Json.isSendable_text_iff]
  | some image =>
    rw [(InlineImage.ofUrl?_eq_some_iff.1 hinline).isClean_iff]
    simp [Json.isSendable_object_iff, Json.isSendable_text_iff]

/-- The contents of a message can be sent. -/
def ItemSendable (item : Option Item) : Prop :=
  ∀ i ∈ item, isSendable turnRoom i.toValue = true

theorem exists_userItem_iff (names : CallNames) (items : List Part) (metadata : Fields) :
    (∃ item, itemOf names (.user (some (.parts items)) metadata) = .ok item ∧ ItemSendable item) ↔
      ∀ p ∈ items, isSendable (Provider.pieceRoom .gemini) (part p) = true := by
  have hitem : ∀ item : Item, item = ⟨.user, items.map part⟩ →
      (isSendable turnRoom item.toValue = true ↔
        ∀ p ∈ items, isSendable (Provider.pieceRoom .gemini) (part p) = true) := by
    rintro _ rfl
    rw [toValue_isSendable_iff, Item.said, List.map_map, List.forall_mem_map]
    rfl
  constructor
  · rintro ⟨item, h, hsendable⟩
    cases h
    exact (hitem _ rfl).1 (hsendable _ rfl)
  · intro hparts
    refine ⟨_, rfl, ?_⟩
    rintro i ⟨⟩
    exact (hitem _ rfl).2 hparts

theorem itemOf_unpictured_iff (names : CallNames) (m : Message) :
    (∃ item, itemOf names m = .ok item ∧ ItemSendable item) ↔
      (∃ item, itemOf names m.unpictured = .ok item ∧ ItemSendable item) ∧
        ∀ url ∈ m.userUrls, url.isClean = true := by
  rcases m.unpictured_cases with ⟨hsame, hnone⟩ | ⟨items, metadata, rfl⟩
  · rw [hsame, hnone]
    exact (and_iff_left (List.forall_mem_nil _)).symm
  · rw [Message.unpictured, exists_userItem_iff, exists_userItem_iff]
    exact Content.forall_parts_iff imagePart_isSendable_iff items

theorem exists_items_sendable_iff (history : List Message) :
    (∃ merged, items history = .ok merged ∧
      ∀ turn ∈ merged.map Item.toValue, isSendable turnRoom turn = true) ↔
    ∃ own, itemsFrom [] history = .ok own ∧
      ∀ item ∈ own, isSendable turnRoom item.toValue = true := by
  rw [items, exists_return_iff]
  refine exists_congr fun own => and_congr_right fun _ => ?_
  rw [List.forall_mem_map, addItem_merges.forall_foldl_iff toValue_isSendable_iff]

theorem items_unpictured_iff (history : List Message) :
    (∃ merged, items history = .ok merged ∧
      ∀ turn ∈ merged.map Item.toValue, isSendable turnRoom turn = true) ↔
    (∃ merged, items (history.map Message.unpictured) = .ok merged ∧
      ∀ turn ∈ merged.map Item.toValue, isSendable turnRoom turn = true) ∧
      ∀ m ∈ history, ∀ url ∈ m.userUrls, url.isClean = true := by
  have hjoin : ∀ (item : Option Item) (rest : List Item),
      (∀ i ∈ item.toList ++ rest, isSendable turnRoom i.toValue = true) ↔
        ItemSendable item ∧ ∀ i ∈ rest, isSendable turnRoom i.toValue = true := by
    intro item rest
    rw [List.forall_mem_append]
    simp only [Option.mem_toList, ItemSendable, Option.mem_def]
  rw [exists_items_sendable_iff, exists_items_sendable_iff]
  exact itemsFrom_isTraversal.exists_ok_map_iff hjoin
    (fun names m => congrArg names.add m.calls_unpictured) itemOf_unpictured_iff
    fun _ => ⟨[], rfl, List.forall_mem_nil _⟩

theorem payload_isSendable_iff (chat : Chat) :
    (∃ v, payload chat = .ok v ∧ isSendable depthLimit v = true) ↔
      (∃ merged, items chat.history = .ok merged ∧
        ∀ turn ∈ merged.map Item.toValue, isSendable turnRoom turn = true) ∧
      ∃ system, Anthropic.joinTexts (Anthropic.systemParts chat) = .ok system ∧
        isSendable depthLimit (.object ([] ++ backFields chat system)) = true := by
  rw [payload_eq]
  exact exists_stages_iff fun _ _ => Provider.around_isSendable_iff

/-- The payload of a chat can be sent when it can be without the images of the user, and no address
of such an image has a surrogate. -/
theorem payload_unpictured_iff (chat : Chat) :
    (∃ v, payload chat = .ok v ∧ isSendable depthLimit v = true) ↔
      (∃ v, payload chat.unpictured = .ok v ∧ isSendable depthLimit v = true) ∧
        ∀ url ∈ chat.userUrls, url.isClean = true := by
  rw [payload_isSendable_iff, payload_isSendable_iff, Chat.systemParts_unpictured,
    items_unpictured_iff, Chat.forall_userUrls_iff]
  exact and_right_comm

end Gemini

/-! ## Local chat -/

namespace Ollama

/-- The error for an image that is not inline. -/
def notInline : Error where
  cls := .unsupportedFeature
  message := "ollama only accepts inline base64 images"
  provider := .ofString "ollama"
  hint := .ofString "Pass images as data:<mime>;base64,<data> URLs."

/-- An address is that of an image that can be sent: it is inline, with data without a surrogate. -/
def TakesImage (url : Text) : Prop :=
  ∃ image : InlineImage, image.SpelledBy url ∧ image.data.isClean = true

theorem takesImage_iff {room : Nat} {url : Text} : TakesImage url ↔
    ∃ image : InlineImage, image.SpelledBy url ∧ isSendable room (.text image.data) = true := by
  simp only [TakesImage, Json.isSendable_text_iff]

variable {Q : Value → Prop}

theorem exists_imageData_iff (url : Text) : (∃ v, imageData url = .ok v ∧ Q v) ↔
    ∃ image : InlineImage, image.SpelledBy url ∧ Q (.text image.data) := by
  simp only [← InlineImage.ofUrl?_eq_some_iff, imageData]
  cases InlineImage.ofUrl? url with
  | none => simp
  | some image => simp

theorem exists_partData_iff (part : Part) :
    (∃ found, partData? part = .ok found ∧ ∀ v ∈ found, Q v) ↔
      ∀ url ∈ part.url?, ∃ image : InlineImage, image.SpelledBy url ∧ Q (.text image.data) := by
  cases part with
  | text t => exact iff_of_true ⟨none, rfl, nofun⟩ nofun
  | image url detail addressed =>
    simp only [Part.url?, Option.mem_some_iff, forall_eq', ← exists_imageData_iff, partData?]
    cases imageData url with
    | error e => simp [Except.map]
    | ok data => simp [Except.map]

/-- What is asked of the images that are read of content is asked of the data of each image, and
each image is inline. -/
theorem exists_imagesData_iff (items : List Part) :
    (∃ images, imagesData (some (.parts items)) = .ok images ∧ ∀ v ∈ images, Q v) ↔
      ∀ url ∈ items.filterMap Part.url?,
        ∃ image : InlineImage, image.SpelledBy url ∧ Q (.text image.data) := by
  have hparts : (∃ found, items.mapM partData? = .ok found ∧ ∀ data ∈ found, ∀ v ∈ data, Q v) ↔
      ∀ url ∈ items.filterMap Part.url?,
        ∃ image : InlineImage, image.SpelledBy url ∧ Q (.text image.data) := by
    rw [exists_mapM_and_iff, List.forall_mem_filterMap]
    exact forall₂_congr fun part _ => exists_partData_iff part
  have hflat : ∀ found : List (Option Value), (∀ v ∈ found.filterMap id, Q v) ↔
      ∀ data ∈ found, ∀ v ∈ data, Q v :=
    fun _ => List.forall_mem_filterMap
  rw [← hparts, imagesData, exists_return_iff]
  exact exists_congr fun found => and_congr_right fun _ => hflat found

/-- A message of the user with images, in the parts that can be sent or not. -/
theorem userMessage_isSendable_iff {room : Nat} (content : Option Content) (images : List Value) :
    isSendable (room + 2) (.object (Assoc.concat
      [[("role", .ofString "user"), ("content", .text (Content.plainText content))],
        if images.isEmpty then [] else [("images", .list images)]])) = true ↔
    (Content.plainText content).isClean = true ∧
      ∀ v ∈ images, isSendable room v = true := by
  cases images with
  | nil => simp [Assoc.concat, Json.isSendable_object_iff, Json.isSendable_text_iff]
  | cons image images =>
    simp [Assoc.concat, Json.isSendable_object_iff, Json.isSendable_text_iff,
      Json.isSendable_list_iff]

theorem exists_userMessage_iff (names : Gemini.CallNames) (items : List Part) (metadata : Fields) :
    (∃ v, message names (.user (some (.parts items)) metadata) = .ok v ∧
      isSendable turnRoom v = true) ↔
    (Content.plainText (some (.parts items))).isClean = true ∧
      ∀ url ∈ items.filterMap Part.url?, TakesImage url := by
  simp only [@takesImage_iff (turnRoom - 2)]
  rw [← exists_imagesData_iff (Q := fun v => isSendable (turnRoom - 2) v = true)]
  simp only [message, pure_bind, exists_return_iff]
  refine (exists_congr fun images => and_congr_right fun _ =>
    userMessage_isSendable_iff (some (.parts items)) images).trans ?_
  tauto

theorem message_unpictured_iff (names : Gemini.CallNames) (m : Message) :
    (∃ v, message names m = .ok v ∧ isSendable turnRoom v = true) ↔
      (∃ v, message names m.unpictured = .ok v ∧ isSendable turnRoom v = true) ∧
        ∀ url ∈ m.userUrls, TakesImage url := by
  rcases m.unpictured_cases with ⟨hsame, hnone⟩ | ⟨items, metadata, rfl⟩
  · rw [hsame, hnone]
    exact (and_iff_left (List.forall_mem_nil _)).symm
  · rw [Message.unpictured, exists_userMessage_iff, exists_userMessage_iff,
      Content.plainText_filter, Content.urls_filter, and_iff_left (List.forall_mem_nil _)]
    exact Iff.rfl

theorem payload_isSendable_iff (model : Text) (chat : Chat) :
    (∃ v, payload model chat = .ok v ∧ isSendable depthLimit v = true) ↔
      (∃ values, messagesFrom [] chat.history = .ok values ∧
        ∀ v ∈ values, isSendable turnRoom v = true) ∧
      (∀ v ∈ chat.promptMessages, isSendable turnRoom v = true) ∧
        isSendable depthLimit (.object (([("model", .text model)] : Fields) ++ backFields chat))
          = true := by
  rw [payload_eq]
  simp only [exists_return_iff, Provider.around_isSendable_iff, List.forall_mem_append]
  tauto

/-- The payload of a chat can be sent when it can be without the images of the user, and each of
these images can be. -/
theorem payload_unpictured_iff (model : Text) (chat : Chat) :
    (∃ v, payload model chat = .ok v ∧ isSendable depthLimit v = true) ↔
      (∃ v, payload model chat.unpictured = .ok v ∧ isSendable depthLimit v = true) ∧
        ∀ url ∈ chat.userUrls, TakesImage url := by
  have hhistory : (∃ values, messagesFrom [] chat.history = .ok values ∧
      ∀ v ∈ values, isSendable turnRoom v = true) ↔
      (∃ values, messagesFrom [] chat.unpictured.history = .ok values ∧
        ∀ v ∈ values, isSendable turnRoom v = true) ∧
        ∀ m ∈ chat.history, ∀ url ∈ m.userUrls, TakesImage url :=
    messagesFrom_isTraversal.exists_ok_map_iff (fun _ _ => List.forall_mem_cons)
      (fun names m => congrArg names.add m.calls_unpictured) message_unpictured_iff
      fun _ => ⟨[], rfl, List.forall_mem_nil _⟩
  rw [payload_isSendable_iff, payload_isSendable_iff, hhistory, Chat.forall_userUrls_iff]
  exact and_right_comm

/-! ### Refusals -/

theorem partData?_cases (part : Part) :
    (∃ found, partData? part = .ok found) ∨ partData? part = .error (.own notInline) := by
  cases part with
  | text t => exact .inl ⟨none, rfl⟩
  | image url detail addressed =>
    rw [partData?, imageData]
    cases InlineImage.ofUrl? url with
    | none => exact .inr rfl
    | some image => exact .inl ⟨_, rfl⟩

/-- The images of content are read, or the first that is not inline is refused. -/
theorem imagesData_cases (content : Option Content) :
    (∃ images, imagesData content = .ok images) ∨
      imagesData content = .error (.own notInline) := by
  match content with
  | none | some (.text _) => exact .inl ⟨[], rfl⟩
  | some (.parts items) =>
    rw [imagesData]
    rcases (IsTraversal.mapM partData?).ok_or_error (s := ())
      fun _ part _ _ => partData?_cases part with ⟨found, hfound⟩ | herror
    · rw [hfound]
      exact .inl ⟨_, rfl⟩
    · rw [herror]
      exact .inr rfl

theorem message_cases {names : Gemini.CallNames} {m : Message}
    (h : ∃ v, message names m.unpictured = .ok v) :
    (∃ v, message names m = .ok v) ∨ message names m = .error (.own notInline) := by
  rcases m.unpictured_cases with ⟨hsame, -⟩ | ⟨items, metadata, rfl⟩
  · rw [hsame] at h
    exact .inl h
  · simp only [message, pure_bind]
    rcases imagesData_cases (some (.parts items)) with ⟨images, himages⟩ | herror
    · rw [himages]
      exact .inl ⟨_, rfl⟩
    · rw [herror]
      exact .inr rfl

/-- A message with an image that is not inline is not written. -/
theorem inline_of_message {names : Gemini.CallNames} {m : Message} {v : Value}
    (h : message names m = .ok v) :
    ∀ url ∈ m.userUrls, ∃ image : InlineImage, image.SpelledBy url := by
  rcases m.unpictured_cases with ⟨-, hnone⟩ | ⟨items, metadata, rfl⟩
  · rw [hnone]
    exact List.forall_mem_nil _
  · simp only [message, pure_bind] at h
    obtain ⟨images, himages, -⟩ := bind_eq_ok_iff.1 h
    have hinline := (exists_imagesData_iff (Q := fun _ => True) items).1
      ⟨images, himages, fun _ _ => trivial⟩
    exact fun url hurl => (hinline url hurl).imp fun _ => And.left

/-- A history that is written without the images of the user is refused for the first image that is
not inline. -/
theorem messagesFrom_refuses {history : List Message}
    (hplain : ∃ values, messagesFrom [] (history.map Message.unpictured) = .ok values)
    {m : Message} (hm : m ∈ history) {url : Text} (hurl : url ∈ m.userUrls)
    (hlinked : ∀ image : InlineImage, ¬image.SpelledBy url) :
    messagesFrom [] history = .error (.own notInline) := by
  refine (messagesFrom_isTraversal.ok_or_error fun front m back hhistory => ?_).resolve_left ?_
  · refine message_cases ?_
    have hstep := messagesFrom_isTraversal.exists_ok_iff.1 hplain (front.map Message.unpictured)
      m.unpictured (back.map Message.unpictured) (by rw [hhistory, List.map_append, List.map_cons])
    simpa only [List.foldl_map, Message.calls_unpictured] using hstep
  · intro hwritten
    obtain ⟨front, back, hhistory⟩ := List.append_of_mem hm
    obtain ⟨v, hv⟩ := messagesFrom_isTraversal.exists_ok_iff.1 hwritten front m back hhistory
    obtain ⟨image, himage⟩ := inline_of_message hv url hurl
    exact hlinked image himage

end Ollama

/-! ## Requests -/

theorem checkChat_unpictured {capabilities : Capabilities} (h : capabilities.images = true)
    (chat : Chat) (provider : Text) :
    checkChat chat.unpictured capabilities provider = checkChat chat capabilities provider := by
  simp only [checkChat, h, Bool.not_true, Bool.false_and]
  rfl

namespace Backend

/-- A request is built when there is an address for it, the chat can be expressed and its payload
can be sent. -/
theorem exists_buildRequest_iff_isSendable (b : Backend) (model : Value) (chat : Chat) :
    (∃ request, b.buildRequest model chat = .ok request) ↔
      ((∃ url, b.endpoint model.inText = .ok url) ∧
        checkChat chat b.provider.capabilities b.provider.name = .ok ()) ∧
      ∃ v, b.payload model.inText chat = .ok v ∧ isSendable depthLimit v = true := by
  simp only [exists_buildRequest_iff, Json.encode_isOk_iff, and_assoc]

/-- Where images are supported, what the payload asks of a chat with images more than of the chat
without them is all that a request asks more. -/
theorem builds_unpictured_iff {b : Backend} (himages : b.provider.capabilities.images = true)
    {model : Value} {chat : Chat} {C : Text → Prop}
    (hpayload : (∃ v, b.payload model.inText chat = .ok v ∧ isSendable depthLimit v = true) ↔
      (∃ v, b.payload model.inText chat.unpictured = .ok v ∧ isSendable depthLimit v = true) ∧
        ∀ url ∈ chat.userUrls, C url) :
    (∃ request, b.buildRequest model chat = .ok request) ↔
      (∃ request, b.buildRequest model chat.unpictured = .ok request) ∧
        ∀ url ∈ chat.userUrls, C url := by
  rw [exists_buildRequest_iff_isSendable, exists_buildRequest_iff_isSendable, hpayload,
    checkChat_unpictured himages]
  exact and_assoc.symm

/-- Anthropic and Gemini take a chat with images when they take it without them and no address of an
image of the user has a surrogate. -/
theorem builds_iff {b : Backend} (hb : b.provider = .anthropic ∨ b.provider = .gemini)
    (model : Value) (chat : Chat) :
    (∃ request, b.buildRequest model chat = .ok request) ↔
      (∃ request, b.buildRequest model chat.unpictured = .ok request) ∧
        ∀ url ∈ chat.userUrls, url.isClean = true := by
  rcases hb with hb | hb
  · refine builds_unpictured_iff (by rw [hb]; rfl) ?_
    unfold payload
    rw [hb]
    exact Anthropic.payload_unpictured_iff model.inText chat
  · refine builds_unpictured_iff (by rw [hb]; rfl) ?_
    unfold payload
    rw [hb]
    exact Gemini.payload_unpictured_iff chat

/-- Ollama takes a chat with images when it takes it without them and each image of the user is
inline, with data that have no surrogate. -/
theorem ollama_builds_iff {b : Backend} (hb : b.provider = .ollama) (model : Value) (chat : Chat) :
    (∃ request, b.buildRequest model chat = .ok request) ↔
      (∃ request, b.buildRequest model chat.unpictured = .ok request) ∧
        ∀ url ∈ chat.userUrls, Ollama.TakesImage url := by
  refine builds_unpictured_iff (by rw [hb]; rfl) ?_
  unfold payload
  rw [hb]
  exact Ollama.payload_unpictured_iff model.inText chat

/-- A chat that Ollama takes without the images of the user is refused for an image that is not
inline, the other images with it. -/
theorem ollama_refuses {b : Backend} (hb : b.provider = .ollama) {model : Value} {chat : Chat}
    (hplain : ∃ request, b.buildRequest model chat.unpictured = .ok request) {url : Text}
    (hurl : url ∈ chat.userUrls) (hlinked : ∀ image : InlineImage, ¬image.SpelledBy url) :
    b.buildRequest model chat = .error (.own Ollama.notInline) := by
  have himages : b.provider.capabilities.images = true := by rw [hb]; rfl
  obtain ⟨⟨address, haddress⟩, hcheck, v, hv, -⟩ := (exists_buildRequest_iff b model _).1 hplain
  rw [checkChat_unpictured himages] at hcheck
  obtain ⟨m, hm, hurl⟩ := List.mem_flatMap.1 hurl
  have hmessages : Ollama.messagesFrom [] chat.history = .error (.own Ollama.notInline) := by
    rw [payload, hb] at hv
    rw [Ollama.payload_eq] at hv
    obtain ⟨values, hvalues, -⟩ := bind_eq_ok_iff.1 hv
    exact Ollama.messagesFrom_refuses ⟨values, hvalues⟩ hm hurl hlinked
  have hpayload : b.payload model.inText chat = .error (.own Ollama.notInline) := by
    rw [payload, hb]
    show Ollama.payload model.inText chat = _
    rw [Ollama.payload_eq, hmessages]
    rfl
  rw [buildRequest, haddress, ok_bind, hcheck, ok_bind, hpayload]
  rfl

end Backend

end Colloquy
