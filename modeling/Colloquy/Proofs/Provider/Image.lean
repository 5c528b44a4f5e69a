import Colloquy.Proofs.Provider.Naming

/-!
# Images in requests

Every kind of message can hold images.  `Provider.picturesIn` reads off a payload again
which images it shows, by their addresses or their data.  Not every backend shows the
images of every kind of message: `Provider.shows` tells the kinds whose images are shown.
The other kinds are sent as text, and their images are left out.

`Backend.images_sent` says for every backend which images a request that was built shows.
None is left out just when the images are in messages of the kinds that are shown.
`Backend.images_lost` is a chat with an image in the result of a tool, which four backends
take and send without the image.
-/

namespace Colloquy

/-! ## Images of messages -/

namespace Provider

/-- The kinds of messages whose images are shown. -/
def shows (p : Provider) (role : Role) : Bool :=
  match p with
  | .mock => true
  | .gemini => role = .user || role = .assistant
  | _ => role = .user

/-- What is sent of an image: its address, or its data when it is inline and the backend takes
data. -/
def pictureOf (p : Provider) (url : Text) : Value :=
  match p with
  | .openai | .mistral | .mock => .text url
  | .anthropic | .gemini | .ollama => .text ((InlineImage.ofUrl? url).elim url InlineImage.data)

/-- What is sent of a part that is an image. -/
def picture? (p : Provider) : Part → Option Value
  | .text _ => none
  | .image url _ _ => some (p.pictureOf url)

/-- What is sent of the images in content, in order. -/
def pictures (p : Provider) : Option Content → List Value
  | some (.parts items) => items.filterMap p.picture?
  | _ => []

/-! ## Images in payloads -/

/-- The image that an item of the content of a turn shows. -/
def shownBy? (p : Provider) (item : Value) : Option Value :=
  match p with
  | .openai | .mistral =>
    if (item.field "type").same (.ofString "image_url") then
      some ((item.field "image_url").field "url")
    else none
  | .anthropic =>
    if (item.field "type").same (.ofString "image") then
      [(item.field "source").field "url", (item.field "source").field "data"].find? (!·.isNull)
    else none
  | .gemini =>
    [(item.field "fileData").field "fileUri", (item.field "inlineData").field "data"].find?
      (!·.isNull)
  | .ollama => some item
  | .mock =>
    if (item.field "type").same (.ofString "image") then some (item.field "url") else none

/-- The images that a piece of a payload shows, in order. -/
def picturesIn (p : Provider) (piece : Value) : List Value :=
  match p with
  | .anthropic | .gemini => (p.shownBy? piece).toList
  | .ollama => (piece.field "images").elements.filterMap p.shownBy?
  | _ => (piece.field "content").elements.filterMap p.shownBy?

/-- The pieces of a message show the images of the message if they are of a kind that is shown, and
else none. -/
def Shown (p : Provider) (m : Message) (said : List Said) : Prop :=
  (said.flatMap fun s => p.picturesIn s.piece) = if p.shows m.role then p.pictures m.content else []

/-- The turns in front of those of the history. -/
def promptTurns (p : Provider) (chat : Chat) : List Value :=
  match p with
  | .openai | .mistral | .ollama => chat.promptMessages
  | _ => []

variable {p : Provider}

theorem pictures_eq_nil_iff {content : Option Content} :
    p.pictures content = [] ↔ Content.images content = [] := by
  match content with
  | none | some (.text t) => exact iff_of_true rfl rfl
  | some (.parts items) =>
    rw [pictures, Content.images, List.filterMap_eq_nil_iff, List.filter_eq_nil_iff]
    refine forall₂_congr fun part _ => ?_
    cases part with
    | text t => simp [picture?, Part.isImage]
    | image url detail addressed => simp [picture?, Part.isImage]

/-- Items that are written part by part show the images among the parts. -/
theorem filterMap_shownBy? {write : Part → Value}
    (hwrite : ∀ part, p.shownBy? (write part) = p.picture? part) (items : List Part) :
    (items.map write).filterMap p.shownBy? = items.filterMap p.picture? := by
  rw [List.filterMap_map]
  exact congrArg (items.filterMap ·) (funext hwrite)

/-- A backend that takes each message as one turn says for each message its turn. -/
theorem shown_of_turns (hp : p.TakesMessages) {history : List Message} {values front : List Value}
    {payload : Value} (hturns : p.turns payload = front ++ values)
    (hvalues : List.Forall₂ (fun m value =>
      p.picturesIn value = if p.shows m.role then p.pictures m.content else []) history values) :
    ∃ own, List.Forall₂ p.Shown history own ∧
      p.said payload = front.flatMap p.saidIn ++ own.flatten := by
  refine ⟨values.map p.saidIn, List.forall₂_map_right_iff.2 (hvalues.imp fun m value h => ?_), ?_⟩
  · rw [Shown, hp, List.flatMap_singleton]
    exact h
  · rw [said, hturns, List.flatMap_append, List.flatMap_def (l := values)]

end Provider

/-! ## Backends that take messages -/

namespace OpenAI

theorem shownBy?_part (d : Dialect) (part : Part) :
    d.provider.shownBy? (OpenAI.part part) = d.provider.picture? part := by
  cases d <;> cases part <;> rfl

theorem message_shows (d : Dialect) (m : Message) : Returns (fun value =>
    d.provider.picturesIn value
      = if d.provider.shows m.role then d.provider.pictures m.content else []) (message m) := by
  cases m with
  | system content metadata =>
    refine .ok ?_
    cases d <;> rfl
  | tool id content metadata identified =>
    refine .ok ?_
    cases d <;> rfl
  | assistant turn =>
    refine .ok ?_
    cases turn.content with
    | none => cases d <;> rfl
    | some content => cases d <;> rfl
  | user content metadata =>
    match content with
    | none => exact .error _
    | some (.text t) =>
      refine .ok ?_
      cases d <;> rfl
    | some (.parts items) =>
      have hitems := Provider.filterMap_shownBy? (shownBy?_part d) items
      refine .ok ?_
      cases d with
      | openai => exact hitems
      | mistral => exact hitems

theorem payload_shows (d : Dialect) {model : Text} {chat : Chat} {v : Value}
    (h : d.payload model chat = .ok v) : ∃ own,
    List.Forall₂ d.provider.Shown chat.history own ∧ d.provider.said v
      = (d.provider.promptTurns chat).flatMap d.provider.saidIn ++ own.flatten := by
  rw [payload_eq] at h
  obtain ⟨values, hvalues, h⟩ := bind_eq_ok_iff.1 h
  cases h
  have hprompt : d.provider.promptTurns chat = chat.promptMessages := by cases d <;> rfl
  have hmessages : d.provider.TakesMessages := by
    cases d <;> exact fun _ => rfl
  have hkey : d.provider.turnsKey ∉ [Text.ofString "model"] := by
    cases d <;> decide
  rw [hprompt]
  exact Provider.shown_of_turns hmessages (Provider.turns_around hkey _)
    (Returns.mapM (message_shows d) chat.history values hvalues)

end OpenAI

namespace Ollama

/-- The data of the images in content are read from it, or one of them is not inline. -/
theorem imagesData_pictures (content : Option Content) :
    Returns (· = Provider.ollama.pictures content) (imagesData content) := by
  match content with
  | none | some (.text t) => exact .ok rfl
  | some (.parts items) =>
    intro images h
    obtain ⟨found, hfound, h⟩ := bind_eq_ok_iff.1 h
    cases h
    have hdata :
        List.Forall₂ (fun part data => Provider.ollama.picture? part = data) items found := by
      refine Returns.mapM (fun part => ?_) items found hfound
      cases part with
      | text t => exact .ok rfl
      | image url detail addressed =>
        intro data hdata
        rw [partData?, imageData] at hdata
        cases hinline : InlineImage.ofUrl? url with
        | none =>
          rw [hinline] at hdata
          cases hdata
        | some image =>
          rw [hinline] at hdata
          cases hdata
          rw [Provider.picture?, Provider.pictureOf, hinline]
          rfl
    rw [← List.forall₂_map_left_iff, List.forall₂_eq_eq_eq] at hdata
    rw [← hdata, List.filterMap_map]
    rfl

theorem message_shows {earlier : List Message} {m : Message} {value : Value}
    (h : WrittenAs earlier m value) : Provider.ollama.picturesIn value
      = if Provider.ollama.shows m.role then Provider.ollama.pictures m.content else [] := by
  cases h with
  | result content metadata identified =>
    cases lastCall? _ earlier with
    | none => rfl
    | some call => rfl
  | other hrole h =>
    cases m with
    | tool id content metadata identified => exact absurd rfl hrole
    | system content metadata =>
      cases h
      rfl
    | assistant turn =>
      rw [message_assistant] at h
      obtain ⟨calls, hcalls, h⟩ := bind_eq_ok_iff.1 h
      cases h
      rw [callFields] at hcalls
      split at hcalls
      · cases hcalls
        rfl
      · obtain ⟨values, -, hcalls⟩ := bind_eq_ok_iff.1 hcalls
        cases hcalls
        rfl
    | user content metadata =>
      simp only [message, pure_bind] at h
      obtain ⟨images, himages, h⟩ := bind_eq_ok_iff.1 h
      cases h
      have hpictures : images = Provider.ollama.pictures content :=
        imagesData_pictures content images himages
      cases images with
      | nil => exact hpictures
      | cons image images =>
        show (image :: images).filterMap Provider.ollama.shownBy? = _
        rw [hpictures]
        exact List.filterMap_some

theorem payload_shows {model : Text} {chat : Chat} {v : Value} (h : payload model chat = .ok v) :
    ∃ own, List.Forall₂ Provider.ollama.Shown chat.history own ∧ Provider.ollama.said v
      = (Provider.ollama.promptTurns chat).flatMap Provider.ollama.saidIn ++ own.flatten := by
  obtain ⟨values, hvalues, hturns⟩ := payload_writtenAs h
  exact Provider.shown_of_turns (fun _ => rfl) hturns (hvalues.forall₂ fun _ _ _ => message_shows)

end Ollama

namespace Canonical

theorem message_shows (m : Message) : Provider.mock.picturesIn (message m)
    = if Provider.mock.shows m.role then Provider.mock.pictures m.content else [] := by
  have hcontent : Provider.mock.picturesIn (message m)
      = (content m.content).elements.filterMap Provider.mock.shownBy? := rfl
  have hpart : ∀ part,
      Provider.mock.shownBy? (Canonical.part part) = Provider.mock.picture? part := by
    intro part
    cases part <;> rfl
  rw [hcontent]
  show _ = Provider.mock.pictures m.content
  match m.content with
  | none | some (.text t) => rfl
  | some (.parts items) => exact Provider.filterMap_shownBy? hpart items

theorem payload_shows (model : Text) (chat : Chat) : ∃ own,
    List.Forall₂ Provider.mock.Shown chat.history own ∧ Provider.mock.said (payload model chat)
      = (Provider.mock.promptTurns chat).flatMap Provider.mock.saidIn ++ own.flatten := by
  have hturns : Provider.mock.turns (payload model chat) = [] ++ chat.history.map message := rfl
  refine Provider.shown_of_turns (fun _ => rfl) hturns ?_
  rw [List.forall₂_map_right_iff, List.forall₂_same]
  exact fun m _ => message_shows m

end Canonical

/-! ## Backends that merge turns -/

/-- Parts of content that are written one by one as pieces. -/
theorem Provider.flatMap_picturesIn_parts {p : Provider} {write : Part → Value} {role : Value}
    (hwrite : ∀ part, p.picturesIn (write part) = (p.picture? part).toList) (items : List Part) :
    ((items.map write).map (Said.mk role)).flatMap (fun s => p.picturesIn s.piece)
      = items.filterMap p.picture? := by
  rw [List.flatMap_map, List.flatMap_map, List.filterMap_eq_flatMap_toList]
  exact List.flatMap_congr fun part _ => hwrite part

namespace Anthropic

theorem picturesIn_partBlock (part : Part) :
    Provider.anthropic.picturesIn (partBlock part) = (Provider.anthropic.picture? part).toList := by
  cases part with
  | text t => rfl
  | image url detail addressed =>
    rw [partBlock, imageSource, Provider.picture?, Provider.pictureOf]
    cases InlineImage.ofUrl? url with
    | none => rfl
    | some image => rfl

theorem picturesIn_of_callsAs {call : ToolCall} {block : Value} (h : CallsAs call block) :
    Provider.anthropic.picturesIn block = [] := by
  obtain ⟨input, -, rfl⟩ := h
  rfl

theorem Says.shown {m : Message} {said : List Said} (h : Says m said) :
    Provider.anthropic.Shown m said := by
  have hcalls : ∀ {calls : List ToolCall} {blocks : List Value}, List.Forall₂ CallsAs calls blocks →
      ∀ s ∈ blocks.map (Said.mk (.ofString "assistant")),
        Provider.anthropic.picturesIn s.piece = [] := by
    intro calls blocks h
    refine List.forall_mem_map.2 fun block hblock => ?_
    obtain ⟨call, -, hcall⟩ := exists_of_forall₂ h.flip hblock
    exact picturesIn_of_callsAs hcall
  cases h with
  | system | userText | tool => rfl
  | userParts _ hparts =>
    obtain rfl := forall₂_partAs_iff.1 hparts
    exact Provider.flatMap_picturesIn_parts picturesIn_partBlock _
  | silent htext h => exact List.flatMap_eq_nil_iff.2 (hcalls h)
  | spoken htext h =>
    exact List.flatMap_eq_nil_iff.2 (List.forall_mem_cons.2 ⟨rfl, hcalls h⟩)

theorem payload_shows {model : Text} {chat : Chat} {v : Value} (h : payload model chat = .ok v) :
    ∃ own, List.Forall₂ Provider.anthropic.Shown chat.history own ∧ Provider.anthropic.said v
      = (Provider.anthropic.promptTurns chat).flatMap Provider.anthropic.saidIn ++ own.flatten := by
  obtain ⟨-, -, ⟨own, hown, hsaid⟩, -⟩ := payload_says h
  exact ⟨own, hown.imp fun _ _ => Says.shown, hsaid⟩

end Anthropic

namespace Gemini

theorem picturesIn_part (part : Part) :
    Provider.gemini.picturesIn (Gemini.part part) = (Provider.gemini.picture? part).toList := by
  cases part with
  | text t => rfl
  | image url detail addressed =>
    rw [Gemini.part, Provider.picture?, Provider.pictureOf]
    cases InlineImage.ofUrl? url with
    | none => rfl
    | some image => rfl

theorem picturesIn_parts (content : Content) (role : Value) :
    ((parts content).map (Said.mk role)).flatMap (fun s => Provider.gemini.picturesIn s.piece)
      = Provider.gemini.pictures (some content) := by
  cases content with
  | text t => rfl
  | parts items => exact Provider.flatMap_picturesIn_parts picturesIn_part items

theorem Says.shown {earlier : List Message} {m : Message} {said : List Said}
    (h : Says earlier m said) : Provider.gemini.Shown m said := by
  have hnone : ∀ {calls : List ToolCall} {values : List Value},
      List.Forall₂ CallsAs calls values → (values.map (Said.mk (.ofString "model"))).flatMap
        (fun s => Provider.gemini.picturesIn s.piece) = [] := by
    intro calls values hcalls
    refine List.flatMap_eq_nil_iff.2 (List.forall_mem_map.2 fun part hpart => ?_)
    obtain ⟨call, -, args, -, rfl⟩ := exists_of_forall₂ hcalls.flip hpart
    rfl
  cases h with
  | system | tool => rfl
  | user _ hcontent =>
    obtain rfl := contentAs_iff.1 hcontent
    exact picturesIn_parts _ _
  | @silent turn _ hcontent hcalls =>
    rw [Provider.Shown, hnone hcalls]
    show _ = Provider.gemini.pictures turn.content
    rw [hcontent]
    rfl
  | @spoken turn _ _ _ hsome hcontent hcalls =>
    obtain rfl := contentAs_iff.1 hcontent
    rw [Provider.Shown, List.map_append, List.flatMap_append, hnone hcalls, List.append_nil,
      picturesIn_parts]
    show _ = Provider.gemini.pictures turn.content
    rw [hsome]

theorem payload_shows {chat : Chat} {v : Value} (h : payload chat = .ok v) :
    ∃ own, List.Forall₂ Provider.gemini.Shown chat.history own ∧ Provider.gemini.said v
      = (Provider.gemini.promptTurns chat).flatMap Provider.gemini.saidIn ++ own.flatten := by
  obtain ⟨-, -, own, hown, hsaid⟩ := payload_says h
  exact ⟨own, hown.forall₂ fun _ _ _ => Says.shown, hsaid⟩

end Gemini

/-! ## Requests -/

/-- Every image of every message is shown among the pieces of the message. -/
def Provider.ShowsAll (p : Provider) (history : List Message) (own : List (List Said)) : Prop :=
  List.Forall₂ (fun m said =>
    (said.flatMap fun s => p.picturesIn s.piece) = p.pictures m.content) history own

/-- Nothing is left out just when the messages with images are of kinds that are shown. -/
theorem Provider.showsAll_iff {p : Provider} {history : List Message} {own : List (List Said)}
    (h : List.Forall₂ p.Shown history own) :
    p.ShowsAll history own ↔ ∀ m ∈ history, m.hasImages = true → p.shows m.role = true := by
  induction h with
  | nil => exact iff_of_true .nil (List.forall_mem_nil _)
  | @cons m said history own hshown _ ih =>
    have hfirst : (said.flatMap fun s => p.picturesIn s.piece) = p.pictures m.content ↔
        (m.hasImages = true → p.shows m.role = true) := by
      rw [Shown] at hshown
      rw [hshown]
      by_cases hrole : p.shows m.role = true
      · rw [if_pos hrole]
        exact iff_of_true rfl fun _ => hrole
      · rw [if_neg hrole, eq_comm, pictures_eq_nil_iff, Message.hasImages]
        simp [hrole]
    rw [ShowsAll, List.forall₂_cons, hfirst, List.forall_mem_cons]
    exact and_congr_right fun _ => ih

namespace Backend

theorem payload_shows {b : Backend} {model : Text} {chat : Chat} {v : Value}
    (h : b.payload model chat = .ok v) : ∃ own,
    List.Forall₂ b.provider.Shown chat.history own ∧ b.provider.said v
      = (b.provider.promptTurns chat).flatMap b.provider.saidIn ++ own.flatten := by
  rw [payload] at h
  cases hp : b.provider with
  | openai =>
    rw [hp] at h
    exact OpenAI.payload_shows .openai h
  | mistral =>
    rw [hp] at h
    exact OpenAI.payload_shows .mistral h
  | anthropic =>
    rw [hp] at h
    exact Anthropic.payload_shows h
  | gemini =>
    rw [hp] at h
    exact Gemini.payload_shows h
  | ollama =>
    rw [hp] at h
    exact Ollama.payload_shows h
  | mock =>
    rw [hp] at h
    cases h
    exact Canonical.payload_shows model chat

/-- What is said in the payload of a request falls into pieces for each message, behind those of the
prompt.  They show the images of the messages of the kinds that the backend shows, in order, and no
others; so no image is left out just when all images are in messages of these kinds.  A backend that
takes no images is sent none. -/
theorem images_sent {b : Backend} {model : Value} {chat : Chat} {request : Wire.Request}
    (h : b.buildRequest model chat = .ok request) : ∃ payload own,
    b.payload model.inText chat = .ok payload ∧ Json.encode payload = .ok request.body ∧
    b.provider.said payload
      = (b.provider.promptTurns chat).flatMap b.provider.saidIn ++ own.flatten ∧
    List.Forall₂ b.provider.Shown chat.history own ∧
    (b.provider.ShowsAll chat.history own ↔
      ∀ m ∈ chat.history, m.hasImages = true → b.provider.shows m.role = true) ∧
    (b.provider.capabilities.images = false → ∀ m ∈ chat.history, m.hasImages = false) := by
  obtain ⟨-, hcheck, v, hpayload, hencode⟩ := buildRequest_eq_ok h
  obtain ⟨own, hshown, hsaid⟩ := payload_shows hpayload
  refine ⟨v, own, hpayload, hencode, hsaid, hshown, Provider.showsAll_iff hshown, fun hnone => ?_⟩
  rcases (checkChat_eq_ok_iff.1 hcheck).2.1 with hyes | hhistory
  · rw [hnone] at hyes
    cases hyes
  · exact hhistory

/-- A picture of a chart. -/
def chartUrl : Text := "https://example.com/chart.png"

/-- A call of a tool that draws. -/
def plotCall : ToolCall := ⟨"call_plot", "plot", "\x7b\x7d", by decide, by decide⟩

/-- A chat in which a tool answers with a picture. -/
def chartChat : Chat where
  history := [.user (some (.text "Draw the sales.")) [],
    .assistant ⟨none, [plotCall], [], .inr (List.cons_ne_nil _ _)⟩,
    .tool plotCall.id (some (.parts [.text "Here: ", .image chartUrl .null (by decide)])) []
      plotCall.identified]
  maxOutputTokens := .count 1 Nat.one_pos

/-- The canonical form shows the picture in that chat, and the format of OpenAI does not. -/
theorem images_sent_chartChat :
    (∃ request payload own,
      ({ provider := .mock } : Backend).buildRequest .null chartChat = .ok request ∧
      Json.encode payload = .ok request.body ∧ Provider.mock.said payload = own.flatten ∧
      Provider.mock.ShowsAll chartChat.history own) ∧
    ∃ request payload own,
      ({ provider := .openai } : Backend).buildRequest .null chartChat = .ok request ∧
      Json.encode payload = .ok request.body ∧ Provider.openai.said payload = own.flatten ∧
      ¬Provider.openai.ShowsAll chartChat.history own := by
  have hall : ∀ m ∈ chartChat.history, m.hasImages = true → Provider.mock.shows m.role = true :=
    fun _ _ _ => rfl
  have hsome : ¬∀ m ∈ chartChat.history,
      m.hasImages = true → Provider.openai.shows m.role = true := by
    decide
  constructor
  · obtain ⟨request, hbuild⟩ : ∃ request,
        ({ provider := .mock } : Backend).buildRequest .null chartChat = .ok request :=
      exists_of_isOk (by decide +kernel)
    obtain ⟨payload, own, -, hencode, hsaid, -, hshows, -⟩ := images_sent hbuild
    exact ⟨request, payload, own, hbuild, hencode, hsaid, hshows.2 hall⟩
  · obtain ⟨request, hbuild⟩ : ∃ request,
        ({ provider := .openai } : Backend).buildRequest .null chartChat = .ok request :=
      exists_of_isOk (by decide +kernel)
    obtain ⟨payload, own, -, hencode, hsaid, -, hshows, -⟩ := images_sent hbuild
    exact ⟨request, payload, own, hbuild, hencode, hsaid, fun hyes => hsome (hshows.1 hyes)⟩

/-- Four backends take that chat, and the address of the picture, which is all there is of it, is
nowhere in what they are sent. -/
theorem images_lost :
    (∃ m ∈ chartChat.history, ∃ addressed,
      Part.image chartUrl .null addressed ∈ Content.images m.content) ∧
    InlineImage.ofUrl? chartUrl = none ∧
    ∀ p ∈ [Provider.openai, .anthropic, .gemini, .ollama], ∃ request octets,
      ({ provider := p } : Backend).buildRequest .null chartChat = .ok request ∧
      Utf8.encode chartUrl = .ok octets ∧ ¬octets <:+: request.body := by
  have hsent : ∀ p ∈ [Provider.openai, .anthropic, .gemini, .ollama],
      (do
        let request ← (({ provider := p } : Backend).buildRequest .null chartChat).toOption
        let octets ← (Utf8.encode chartUrl).toOption
        return decide (octets <:+: request.body)) = some false := by
    decide +kernel
  refine ⟨⟨_, List.mem_of_getElem? (i := 2) rfl, by decide, List.mem_singleton.2 rfl⟩,
    by decide, ?_⟩
  intro p hp
  obtain ⟨request, hbuild, hrest⟩ := Option.bind_eq_some_iff.1 (hsent p hp)
  obtain ⟨octets, hoctets, hmissing⟩ := Option.bind_eq_some_iff.1 hrest
  exact ⟨request, octets, eq_ok_of_toOption hbuild, eq_ok_of_toOption hoctets,
    of_decide_eq_false (Option.some.inj hmissing)⟩

end Backend

end Colloquy
