import Colloquy.Proofs.Provider.Image
import Colloquy.Proofs.Provider.Unpictured

/-!
# Images mean the same everywhere

Three backends take images by their data, and each of them has a form of its own for that.
`Provider.picturesIn` reads off a piece of a payload what is sent of each image, and
`Provider.depictedIn` reads off what it is sent as: data, with their media type, or an address.
What is read is the same for each of the three (`Provider.depiction`): the inline image that the
address spells, or the address itself.  Ollama has no place for a media type.

`Backend.images_alike` says how the images of the user are shown in requests that are built, and
that nothing else comes between an image and a request but a surrogate, and for Ollama an image that
is not inline.  Ollama then refuses the chat with all of its images: `Backend.inline_image_refused`
is a message with an inline image that the other two show and Ollama does not.
-/

namespace Colloquy

/-! ## Pictures -/

/-- An image as a request shows it: by its data, with its media type where the format has a place
for that, or by its address. -/
inductive Picture
  | inline (mediaType : Option Text) (data : Text)
  | linked (url : Text)
  deriving DecidableEq

namespace Picture

/-- The picture that an address stands for: the inline image that it spells, else the address. -/
def ofUrl (url : Text) : Picture :=
  (InlineImage.ofUrl? url).elim (.linked url) fun image => .inline (some image.mediaType) image.data

/-- A picture in a format without media types. -/
def untyped : Picture → Picture
  | .inline _ data => .inline none data
  | .linked url => .linked url

end Picture

/-- The text that a value is. -/
def Value.asText? : Value → Option Text
  | .text t => some t
  | _ => none

/-- The image that a block shows. -/
def Anthropic.depicted? (block : Value) : Option Picture :=
  let source := block.field "source"
  if !(block.field "type").same (.ofString "image") then none
  else if (source.field "type").same (.ofString "base64") then do
    return .inline (some (← (source.field "media_type").asText?)) (← (source.field "data").asText?)
  else if (source.field "type").same (.ofString "url") then
    (source.field "url").asText?.map Picture.linked
  else none

/-- The image that a part shows. -/
def Gemini.depicted? (part : Value) : Option Picture :=
  match part.field "inlineData", part.field "fileData" with
  | .object image, .null => do
    return .inline (some (← (Value.ofField image "mimeType").asText?))
      (← (Value.ofField image "data").asText?)
  | .null, .object file => (Value.ofField file "fileUri").asText?.map Picture.linked
  | _, _ => none

/-- The images of a message. -/
def Ollama.depicted (message : Value) : List Picture :=
  (message.field "images").elements.filterMap fun data => data.asText?.map (Picture.inline none)

namespace Provider

/-- The images that a piece of a payload shows to a backend that takes images by their data. -/
def depictedIn (p : Provider) (piece : Value) : List Picture :=
  match p with
  | .anthropic => (Anthropic.depicted? piece).toList
  | .gemini => (Gemini.depicted? piece).toList
  | .ollama => Ollama.depicted piece
  | .openai | .mistral | .mock => []

/-- The picture that is shown of an image. -/
def depiction (p : Provider) (url : Text) : Picture :=
  if p = .ollama then (Picture.ofUrl url).untyped else Picture.ofUrl url

theorem depiction_of_ne {p : Provider} (hp : p ≠ .ollama) (url : Text) : p.depiction url
    = (InlineImage.ofUrl? url).elim (.linked url) fun image =>
      .inline (some image.mediaType) image.data :=
  if_neg hp

theorem ollama_depiction (url : Text) : Provider.ollama.depiction url
    = (InlineImage.ofUrl? url).elim (.linked url) fun image => .inline none image.data := by
  have hdepiction : Provider.ollama.depiction url = (Picture.ofUrl url).untyped := rfl
  rw [hdepiction, Picture.ofUrl]
  cases InlineImage.ofUrl? url <;> rfl

/-- The pieces of a message of the user show its images, in order and nothing else. -/
def Depicts (p : Provider) (m : Message) (said : List Said) : Prop :=
  m.role = .user → (said.flatMap fun s => p.depictedIn s.piece) = m.userUrls.map p.depiction

/-- The images among parts that are written one by one. -/
theorem flatMap_depictedIn {p : Provider} {write : Part → Value} (role : Value)
    (hwrite : ∀ part, p.depictedIn (write part) = (part.url?.map p.depiction).toList)
    (items : List Part) :
    ((items.map write).map (Said.mk role)).flatMap (fun s => p.depictedIn s.piece)
      = (items.filterMap Part.url?).map p.depiction := by
  rw [List.flatMap_map, List.flatMap_map, List.map_filterMap, List.filterMap_eq_flatMap_toList]
  exact List.flatMap_congr fun part _ => hwrite part

end Provider

/-! ## Requests of each backend -/

namespace Anthropic

theorem depictedIn_partBlock (part : Part) : Provider.anthropic.depictedIn (partBlock part)
    = (part.url?.map Provider.anthropic.depiction).toList := by
  cases part with
  | text t => rfl
  | image url detail addressed =>
    rw [Part.url?, Option.map_some, Provider.depiction_of_ne (by decide), partBlock, imageSource]
    cases InlineImage.ofUrl? url with
    | none => rfl
    | some image => rfl

theorem Says.depicts {m : Message} {said : List Said} (h : Says m said) :
    Provider.anthropic.Depicts m said := by
  intro hrole
  cases h with
  | userText => rfl
  | userParts _ hparts =>
    obtain rfl := forall₂_partAs_iff.1 hparts
    exact Provider.flatMap_depictedIn (.ofString "user") depictedIn_partBlock _
  | system | tool | silent | spoken => cases hrole

end Anthropic

namespace Gemini

theorem depictedIn_part (part : Part) : Provider.gemini.depictedIn (Gemini.part part)
    = (part.url?.map Provider.gemini.depiction).toList := by
  cases part with
  | text t => rfl
  | image url detail addressed =>
    rw [Part.url?, Option.map_some, Provider.depiction_of_ne (by decide), Gemini.part]
    cases InlineImage.ofUrl? url with
    | none => rfl
    | some image => rfl

theorem Says.depicts {earlier : List Message} {m : Message} {said : List Said}
    (h : Says earlier m said) : Provider.gemini.Depicts m said := by
  intro hrole
  cases h with
  | @user content _ _ hcontent =>
    obtain rfl := contentAs_iff.1 hcontent
    cases content with
    | text t => rfl
    | parts items => exact Provider.flatMap_depictedIn (.ofString "user") depictedIn_part items
  | system | tool | silent | spoken => cases hrole

end Gemini

namespace Ollama

theorem pictures_user (content : Option Content) (metadata : Fields) :
    Provider.ollama.pictures content
      = (Message.user content metadata).userUrls.map Provider.ollama.pictureOf := by
  match content with
  | none | some (.text _) => rfl
  | some (.parts items) =>
    rw [Provider.pictures, Message.userUrls, List.map_filterMap]
    refine List.filterMap_congr fun part _ => ?_
    cases part <;> rfl

/-- An image that is inline is depicted by what is sent of it. -/
theorem asText?_pictureOf {url : Text} (h : ∃ image : InlineImage, image.SpelledBy url) :
    (Provider.ollama.pictureOf url).asText?.map (Picture.inline none)
      = some (Provider.ollama.depiction url) := by
  obtain ⟨image, himage⟩ := h
  rw [Provider.ollama_depiction, Provider.pictureOf, InlineImage.ofUrl?_eq_some_iff.2 himage]
  rfl

theorem WrittenAs.depicts {earlier : List Message} {m : Message} {value : Value}
    (h : WrittenAs earlier m value) : Provider.ollama.Depicts m (Provider.ollama.saidIn value) := by
  intro hrole
  have hshows := message_shows h
  cases h with
  | result => cases hrole
  | other htool hvalue =>
    cases m with
    | user content metadata =>
      have helements : (value.field "images").elements
          = (Message.user content metadata).userUrls.map Provider.ollama.pictureOf := by
        rw [← pictures_user]
        exact (List.filterMap_some).symm.trans hshows
      show Ollama.depicted value ++ [] = _
      rw [List.append_nil, Ollama.depicted, helements, List.filterMap_map, ← List.filterMap_eq_map]
      exact List.filterMap_congr fun url hurl =>
        asText?_pictureOf (inline_of_message hvalue url hurl)
    | system | assistant | tool => cases hrole

end Ollama

namespace Backend

/-- The images of the user in a payload. -/
theorem payload_depicts {b : Backend} (hb : b.provider ∈ [Provider.anthropic, .gemini, .ollama])
    {model : Text} {chat : Chat} {v : Value} (h : b.payload model chat = .ok v) : ∃ own,
    List.Forall₂ b.provider.Depicts chat.history own ∧ b.provider.said v
      = (b.provider.promptTurns chat).flatMap b.provider.saidIn ++ own.flatten := by
  rw [payload] at h
  cases hp : b.provider with
  | anthropic =>
    rw [hp] at h
    obtain ⟨-, -, ⟨own, hown, hsaid⟩, -⟩ := Anthropic.payload_says h
    exact ⟨own, hown.imp fun _ _ => Anthropic.Says.depicts, hsaid⟩
  | gemini =>
    rw [hp] at h
    obtain ⟨-, -, own, hown, hsaid⟩ := Gemini.payload_says h
    exact ⟨own, hown.forall₂ fun _ _ _ => Gemini.Says.depicts, hsaid⟩
  | ollama =>
    rw [hp] at h
    obtain ⟨values, hvalues, hturns⟩ := Ollama.payload_writtenAs h
    refine ⟨values.map Provider.ollama.saidIn, List.forall₂_map_right_iff.2
      (hvalues.forall₂ fun _ _ _ => Ollama.WrittenAs.depicts), ?_⟩
    rw [Provider.said, hturns, List.flatMap_append, List.flatMap_def (l := values)]
    rfl
  | openai | mistral | mock =>
    rw [hp] at hb
    exact absurd hb (by decide)

/-- Every address can be read, and is read as the inline image that it spells.  In each request that
is built for Anthropic, Gemini or Ollama, each message of the user shows its images in order, each
of them by the data that its address spells, with their media type for the first two, or by its
address.  Anthropic and Gemini take a chat with images when they take it without them, as long as
no address has a surrogate.  Ollama takes it when all of the images are inline, and their data have
no surrogate.  If it takes the chat without them and one is not inline, it refuses the whole chat
for that reason. -/
theorem images_alike (model : Value) (chat : Chat) :
    (∀ url, ∃ found, InlineImage.read url = .ok found ∧
      (∀ image, found = some image ↔ image.SpelledBy url) ∧
      (∀ p ∈ [Provider.anthropic, .gemini], p.depiction url
        = found.elim (.linked url) fun image => .inline (some image.mediaType) image.data) ∧
      Provider.ollama.depiction url
        = found.elim (.linked url) fun image => .inline none image.data) ∧
    (∀ b : Backend, b.provider ∈ [Provider.anthropic, .gemini, .ollama] →
      ∀ request, b.buildRequest model chat = .ok request → ∃ payload own,
        b.payload model.inText chat = .ok payload ∧ Json.encode payload = .ok request.body ∧
        b.provider.said payload
          = (b.provider.promptTurns chat).flatMap b.provider.saidIn ++ own.flatten ∧
        List.Forall₂ b.provider.Depicts chat.history own) ∧
    (∀ b : Backend, b.provider = .anthropic ∨ b.provider = .gemini →
      ((∃ request, b.buildRequest model chat = .ok request) ↔
        (∃ request, b.buildRequest model chat.unpictured = .ok request) ∧
          ∀ url ∈ chat.userUrls, url.isClean = true)) ∧
    (∀ b : Backend, b.provider = .ollama →
      ((∃ request, b.buildRequest model chat = .ok request) ↔
        (∃ request, b.buildRequest model chat.unpictured = .ok request) ∧
          ∀ url ∈ chat.userUrls,
            ∃ image : InlineImage, image.SpelledBy url ∧ image.data.isClean = true) ∧
      ((∃ request, b.buildRequest model chat.unpictured = .ok request) →
        (∃ url ∈ chat.userUrls, ∀ image : InlineImage, ¬image.SpelledBy url) →
        b.buildRequest model chat = .error (.own Ollama.notInline))) := by
  refine ⟨fun url => ⟨InlineImage.ofUrl? url, InlineImage.read_eq url,
    fun _ => InlineImage.ofUrl?_eq_some_iff, fun p hp => ?_, ?_⟩, fun b hb request h => ?_,
    fun b hb => builds_iff hb model chat, fun b hb => ⟨ollama_builds_iff hb model chat, ?_⟩⟩
  · exact Provider.depiction_of_ne (by rintro rfl; exact absurd hp (by decide)) url
  · exact Provider.ollama_depiction url
  · obtain ⟨-, -, v, hpayload, hencode⟩ := buildRequest_eq_ok h
    obtain ⟨own, hown, hsaid⟩ := payload_depicts hb hpayload
    exact ⟨v, own, hpayload, hencode, hsaid, hown⟩
  · rintro hplain ⟨url, hurl, hlinked⟩
    exact ollama_refuses hb hplain hurl hlinked

/-- A picture of a pixel, and the address that spells it. -/
def pixel : InlineImage := ⟨"image/png", "iVBORw0KGgo="⟩

def pixelUrl : Text := "data:image/png;base64,iVBORw0KGgo="

/-- The address of another picture. -/
def landscapeUrl : Text := "https://example.com/landscape.png"

/-- A chat with an inline image. -/
def pixelChat : Chat where
  history := [.user (some (.parts [.text "What is this?", .image pixelUrl .null (by decide)])) []]
  maxOutputTokens := .count 1 Nat.one_pos

/-- A chat with an inline image beside one that is not inline. -/
def albumChat : Chat where
  history := [.user (some (.parts [.image pixelUrl .null (by decide),
    .image landscapeUrl .null (by decide)])) []]
  maxOutputTokens := .count 1 Nat.one_pos

theorem not_spelledBy_landscapeUrl (image : InlineImage) : ¬image.SpelledBy landscapeUrl :=
  InlineImage.ofUrl?_eq_none_iff.1 (by decide) image

/-- Without its images the album is taken. -/
theorem exists_buildRequest_album : ∃ request,
    ({ provider := .ollama } : Backend).buildRequest .null albumChat.unpictured = .ok request :=
  exists_of_isOk (by decide +kernel)

/-- All three show the inline image alone, and Ollama refuses it beside the other one. -/
theorem images_alike_pixelChat :
    (∀ p ∈ [Provider.anthropic, .gemini, .ollama], ∃ request payload own,
      ({ provider := p } : Backend).buildRequest .null pixelChat = .ok request ∧
      Json.encode payload = .ok request.body ∧
      p.said payload = (p.promptTurns pixelChat).flatMap p.saidIn ++ own.flatten ∧
      List.Forall₂ p.Depicts pixelChat.history own) ∧
    ({ provider := .ollama } : Backend).buildRequest .null albumChat
      = .error (.own Ollama.notInline) := by
  have hbuilt : ∀ p ∈ [Provider.anthropic, .gemini, .ollama],
      (({ provider := p } : Backend).buildRequest .null pixelChat).isOk = true := by
    decide +kernel
  refine ⟨fun p hp => ?_, ((images_alike .null albumChat).2.2.2 { provider := .ollama } rfl).2
    exists_buildRequest_album ⟨landscapeUrl, by decide, not_spelledBy_landscapeUrl⟩⟩
  obtain ⟨request, hbuild⟩ := exists_of_isOk (hbuilt p hp)
  obtain ⟨payload, own, -, hencode, hsaid, hown⟩ :=
    (images_alike .null pixelChat).2.1 { provider := p } hp request hbuild
  exact ⟨request, payload, own, hbuild, hencode, hsaid, hown⟩

/-- A picture is shown in the request that is built for a chat. -/
def SendsPicture (b : Backend) (chat : Chat) (picture : Picture) : Prop :=
  ∃ request payload, b.buildRequest .null chat = .ok request ∧
    b.payload (Value.inText .null) chat = .ok payload ∧ Json.encode payload = .ok request.body ∧
    picture ∈ (b.provider.said payload).flatMap fun s => b.provider.depictedIn s.piece

/-- The pictures of the album that the other two backends show. -/
theorem sendsPicture_album_iff {p : Provider} (hp : p ∈ [Provider.anthropic, .gemini])
    (picture : Picture) : ({ provider := p } : Backend).SendsPicture albumChat picture ↔
      picture ∈ [.inline (some pixel.mediaType) pixel.data, .linked landscapeUrl] := by
  have hbuilt : ∀ p ∈ [Provider.anthropic, .gemini],
      (({ provider := p } : Backend).buildRequest .null albumChat).isOk = true := by
    decide +kernel
  have hshown : ∀ p ∈ [Provider.anthropic, .gemini],
      (({ provider := p } : Backend).payload (Value.inText .null) albumChat).toOption.map
        (fun v => (p.said v).flatMap fun s => p.depictedIn s.piece)
      = some [.inline (some pixel.mediaType) pixel.data, .linked landscapeUrl] := by
    decide +kernel
  obtain ⟨request, hbuild⟩ := exists_of_isOk (hbuilt p hp)
  obtain ⟨-, -, v, hpayload, hencode⟩ := buildRequest_eq_ok hbuild
  have hpictures := hshown p hp
  rw [hpayload] at hpictures
  rw [← Option.some.inj hpictures]
  constructor
  · rintro ⟨_, payload, -, hsame, -, hmem⟩
    cases hpayload.symm.trans hsame
    exact hmem
  · exact fun hmem => ⟨request, v, hbuild, hpayload, hencode, hmem⟩

/-- Beside an image that is not inline, an inline image is neither shown by all three backends, nor
by its address while Ollama refuses the chat: Ollama refuses it, and the other two show the data. -/
theorem inline_image_refused :
    pixelUrl ∈ albumChat.userUrls ∧ pixel.SpelledBy pixelUrl ∧
    (∀ p ∈ [Provider.anthropic, .gemini], ({ provider := p } : Backend).SendsPicture albumChat
      (.inline (some pixel.mediaType) pixel.data)) ∧
    ({ provider := .ollama } : Backend).buildRequest .null albumChat
      = .error (.own Ollama.notInline) ∧
    ¬∀ url ∈ albumChat.userUrls,
      (∃ image : InlineImage, image.SpelledBy url ∧
        (∀ p ∈ [Provider.anthropic, .gemini], ({ provider := p } : Backend).SendsPicture albumChat
          (.inline (some image.mediaType) image.data)) ∧
        ({ provider := .ollama } : Backend).SendsPicture albumChat (.inline none image.data)) ∨
      ((∀ p ∈ [Provider.anthropic, .gemini],
        ({ provider := p } : Backend).SendsPicture albumChat (.linked url)) ∧
        ∀ request, ({ provider := .ollama } : Backend).buildRequest .null albumChat
          ≠ .ok request) := by
  have hpixel : pixelUrl ∈ albumChat.userUrls := by decide
  have hrefused : ({ provider := .ollama } : Backend).buildRequest .null albumChat
      = .error (.own Ollama.notInline) :=
    ollama_refuses rfl exists_buildRequest_album (show landscapeUrl ∈ _ by decide)
      not_spelledBy_landscapeUrl
  refine ⟨hpixel, InlineImage.ofUrl?_eq_some_iff.1 (by decide), fun p hp => ?_, hrefused, ?_⟩
  · exact (sendsPicture_album_iff hp _).2 List.mem_cons_self
  · intro hall
    rcases hall pixelUrl hpixel with ⟨_, -, -, request, -, hbuild, -⟩ | ⟨hlinked, -⟩
    · rw [hrefused] at hbuild
      cases hbuild
    · have hmem := (sendsPicture_album_iff List.mem_cons_self _).1 (hlinked _ List.mem_cons_self)
      exact absurd hmem (by decide)

end Backend

end Colloquy
