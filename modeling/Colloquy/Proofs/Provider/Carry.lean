import Colloquy.Proofs.Provider.Call

/-!
# Calls sent back

A call that a reply makes is kept as a name, an identifier and the text of its arguments,
and with the next request it is sent back.  `Provider.Holds` tells which object the
arguments of a call hold, in whatever form a backend gives or takes them.  What is sent
back is what the reply gave: the same calls in the same order, with the same names, the
same identifiers where they are sent, and arguments that hold the same object
(`Backend.carries_reply`).
-/

namespace Colloquy

/-! ## Arguments -/

namespace Provider

/-- Whether arguments may come as a text that holds an object. -/
def takesText : Provider → Bool
  | .anthropic | .gemini => false
  | .openai | .mistral | .ollama | .mock => true

/-- The object that arguments hold: the empty one when there are none, the object that they are, or
the object that their text is read as. -/
def Holds (p : Provider) (arguments : Value) (fields : Fields) : Prop :=
  match arguments with
  | .null => fields = []
  | .object own => fields = own
  | .text t => p.takesText = true ∧ Json.read t = .ok (.object fields)
  | _ => False

/-- A call of a reply is sent back as another value. -/
structure Resends (p : Provider) (given sent : Value) : Prop where
  name : p.callName sent = p.callName given
  id (hids : p.sendsIds = true) : sent.field "id" = given.field "id"
  arguments : ∃ fields, p.Holds (p.callArguments given) fields ∧
    p.Holds (p.callArguments sent) fields
  verbatim (hp : p = .openai ∨ p = .mistral) {t : Text} (ht : p.callArguments given = .text t) :
    p.callArguments sent = .text t

end Provider

/-- The empty object is its own default. -/
theorem Value.orElse_object (fields : Fields) :
    (Value.object fields).orElse (.object []) = .object fields := by
  cases fields with
  | nil => rfl
  | cons field fields => rfl

/-- The text that arguments are kept as holds the object that they hold. -/
theorem Provider.read_argumentsOf {p : Provider} {arguments : Value} {fields : Fields} {text : Text}
    (hholds : p.Holds arguments fields) (hread : arguments.Throughout Value.IsRead)
    (hfloats : arguments.Throughout Value.ReadsBack) (h : p.argumentsOf arguments = .ok text) :
    Json.read text = .ok (.object fields) := by
  have hempty : ∀ {text}, dumpText (.object []) = .ok text → Json.read text = .ok (.object []) := by
    intro text hdump
    refine read_of_dumpText ?_ ?_ hdump
    · exact Value.throughout_object.2 ⟨List.nodup_nil, List.forall_mem_nil _⟩
    · exact Value.throughout_object.2 ⟨trivial, List.forall_mem_nil _⟩
  cases arguments with
  | null =>
    have hnone : fields = [] := hholds
    have hdump : dumpText (.object []) = .ok text := by cases p <;> exact h
    rw [hnone]
    exact hempty hdump
  | object own =>
    have hsame : fields = own := hholds
    have hdump : dumpText (.object own) = .ok text := by
      cases p with
      | openai | mistral | mock => exact h
      | anthropic | gemini =>
        rw [Provider.argumentsOf, Value.orElse_object] at h
        exact h
      | ollama =>
        rw [Provider.argumentsOf, Ollama.argumentsOf, Value.orElse_object] at h
        exact h
    rw [hsame]
    exact read_of_dumpText hread hfloats hdump
  | text t =>
    obtain ⟨htakes, hread⟩ := hholds
    have hkept : text = t := by
      cases p with
      | openai | mistral | mock =>
        cases h
        rfl
      | anthropic | gemini => cases htakes
      | ollama =>
        cases t with
        | nil => cases hread
        | cons c t =>
          cases h
          rfl
    rw [hkept]
    exact hread
  | _ => exact hholds.elim

/-! ## One call -/

namespace Provider

/-- A call is written as a value of a payload. -/
structure Carries (p : Provider) (call : ToolCall) (sent : Value) : Prop where
  name : p.callName sent = .text call.name
  id (hids : p.sendsIds = true) : sent.field "id" = .text call.id
  arguments : match p with
    | .openai | .mistral | .mock => p.callArguments sent = .text call.arguments
    | .anthropic | .gemini | .ollama => ∃ fields, call.argumentFields = .ok fields ∧
        p.callArguments sent = .object fields

/-- A call that was read from a reply and is written again is sent back. -/
theorem Reads.resends {p : Provider} {given sent : Value} {call : ToolCall}
    (hreads : p.Reads given call) (hcarries : p.Carries call sent) {fields : Fields}
    (hholds : p.Holds (p.callArguments given) fields)
    (hgiven : (p.callArguments given).Throughout Value.IsRead)
    (hfloats : (p.callArguments given).Throughout Value.ReadsBack) : p.Resends given sent := by
  have hread : Json.read call.arguments = .ok (.object fields) :=
    read_argumentsOf hholds hgiven hfloats hreads.arguments
  have hagain : ∀ own, call.argumentFields = .ok own → fields = own := by
    intro own hown
    have hown := ToolCall.argumentFields_eq_ok_iff.1 hown
    rw [read_argumentText_of_read hread] at hown
    cases hown
    rfl
  refine ⟨hcarries.name.trans hreads.name.symm,
    fun hids => (hcarries.id hids).trans (hreads.id hids).symm, ⟨fields, hholds, ?_⟩, ?_⟩
  · cases p with
    | openai | mistral | mock =>
      have hsent := hcarries.arguments
      rw [hsent]
      exact ⟨rfl, hread⟩
    | anthropic | gemini | ollama =>
      obtain ⟨own, hown, hsent⟩ := hcarries.arguments
      rw [hsent]
      exact hagain own hown
  · intro hp t ht
    have harguments := hreads.arguments
    rw [ht] at harguments
    rcases hp with rfl | rfl
    all_goals
      cases harguments
      exact hcarries.arguments

end Provider

/-! ## Whole turns -/

/-- What is read one to one and then written one to one. -/
theorem forall₂_comp {α β γ : Type} {R : α → β → Prop} {S : β → γ → Prop} {xs : List α}
    {ys : List β} {zs : List γ} (hR : List.Forall₂ R xs ys) (hS : List.Forall₂ S ys zs) :
    List.Forall₂ (fun x z => ∃ y, R x y ∧ S y z) xs zs := by
  induction hR generalizing zs with
  | nil =>
    cases hS
    exact .nil
  | cons hxy _ ih =>
    cases hS with
    | cons hyz hS => exact .cons ⟨_, hxy, hyz⟩ (ih hS)

/-- A turn is written as pieces that carry its text and its calls. -/
structure AssistantMessage.CarriedBy (p : Provider) (m : AssistantMessage) (own : List Value) :
    Prop where
  text : Text.concat (own.map p.textIn) = Content.plainText m.content
  calls : List.Forall₂ p.Carries m.calls (own.flatMap p.callsIn)

/-- A turn that is written as one message is carried by it. -/
theorem AssistantMessage.carriedBy_message {p : Provider}
    (hp : p = .openai ∨ p = .mistral ∨ p = .ollama) {m : AssistantMessage} {content : Value}
    {values : List Value} {calls : Fields}
    (hcontent : content.textOrEmpty = Content.plainText m.content)
    (hvalues : List.Forall₂ p.Carries m.calls values)
    (hcalls : calls = if m.calls = [] then []
      else [(Text.ofString "tool_calls", Value.list values)]) :
    m.CarriedBy p [.object (Assoc.concat
      [[("role", .ofString "assistant"), ("content", content)], calls])] := by
  have hpiece : ∀ piece, p.textIn piece = (piece.field "content").textOrEmpty ∧
      p.callsIn piece = (piece.field "tool_calls").elements := by
    intro piece
    rcases hp with rfl | rfl | rfl
    all_goals exact ⟨rfl, rfl⟩
  constructor
  · rw [List.map_singleton, (hpiece _).1, ← hcontent]
    exact List.append_nil _
  · rw [List.flatMap_singleton, (hpiece _).2, hcalls]
    split
    · rename_i hnone
      rw [hnone]
      exact .nil
    · exact hvalues

namespace OpenAI

theorem toolCall_carries {p : Provider} (hp : p = .openai ∨ p = .mistral) (call : ToolCall) :
    p.Carries call (toolCall call) := by
  rcases hp with rfl | rfl
  all_goals exact ⟨rfl, fun _ => rfl, rfl⟩

theorem ownPieces_carriedBy {p : Provider} (hp : p = .openai ∨ p = .mistral)
    (m : AssistantMessage) : Returns (m.CarriedBy p) (p.ownPieces m) := by
  have hvalues : List.Forall₂ p.Carries m.calls (m.calls.map toolCall) :=
    List.forall₂_map_right_iff.2 (List.forall₂_same.2 fun call _ => toolCall_carries hp call)
  have hown : p.ownPieces m = do return [← message (.assistant m)] := by
    rcases hp with rfl | rfl <;> rfl
  have hall : p = .openai ∨ p = .mistral ∨ p = .ollama := by tauto
  rw [hown]
  refine .pure (AssistantMessage.carriedBy_message hall ?_ hvalues rfl)
  cases m.content <;> rfl

end OpenAI

namespace Ollama

theorem toolCall_carries (call : ToolCall) :
    Returns (Provider.ollama.Carries call) (toolCall call) := by
  intro sent h
  obtain ⟨fields, hfields, h⟩ := bind_eq_ok_iff.1 h
  cases h
  exact ⟨rfl, nofun, fields, hfields, rfl⟩

theorem ownPieces_carriedBy (m : AssistantMessage) :
    Returns (m.CarriedBy .ollama) (Provider.ollama.ownPieces m) := by
  rw [Provider.ownPieces, message_assistant, callFields]
  intro own h
  obtain ⟨piece, hpiece, h⟩ := bind_eq_ok_iff.1 h
  obtain ⟨calls, hcalls, hpiece⟩ := bind_eq_ok_iff.1 hpiece
  cases h
  cases hpiece
  have hall : Provider.ollama = .openai ∨ Provider.ollama = .mistral ∨ Provider.ollama = .ollama :=
    .inr (.inr rfl)
  split at hcalls
  · rename_i hnone
    cases hcalls
    have hvalues : List.Forall₂ (Provider.Carries .ollama) m.calls [] := by
      rw [hnone]
      exact .nil
    exact AssistantMessage.carriedBy_message hall rfl hvalues (if_pos hnone).symm
  · rename_i hsome
    obtain ⟨values, hvalues, hcalls⟩ := bind_eq_ok_iff.1 hcalls
    cases hcalls
    exact AssistantMessage.carriedBy_message hall rfl
      (Returns.mapM toolCall_carries m.calls values hvalues) (if_neg hsome).symm

end Ollama

/-- A piece of a payload is a call of its own, without any text. -/
def Provider.CarriesAlone (p : Provider) (call : ToolCall) (sent : Value) : Prop :=
  p.Carries call sent ∧ p.textIn sent = [] ∧ p.callsIn sent = [sent]

/-- A turn that is written as pieces for its text and a piece for each call is carried by them. -/
theorem AssistantMessage.carriedBy_append {p : Provider} {m : AssistantMessage}
    {front values : List Value}
    (htext : Text.concat (front.map p.textIn) = Content.plainText m.content)
    (hfront : front.flatMap p.callsIn = [])
    (hvalues : List.Forall₂ p.CarriesAlone m.calls values) : m.CarriedBy p (front ++ values) := by
  have halone : ∀ {calls : List ToolCall} {values : List Value},
      List.Forall₂ p.CarriesAlone calls values →
        Text.concat (values.map p.textIn) = [] ∧ values.flatMap p.callsIn = values := by
    intro calls values hvalues
    induction hvalues with
    | nil => exact ⟨rfl, rfl⟩
    | @cons call sent calls values hsent _ ih =>
      obtain ⟨-, hsilent, hwhole⟩ := hsent
      constructor
      · rw [List.map_cons, hsilent]
        exact ih.1
      · rw [List.flatMap_cons, hwhole, ih.2]
        rfl
  obtain ⟨hsilent, hwhole⟩ := halone hvalues
  constructor
  · rw [List.map_append, ← htext]
    have hconcat : Text.concat (front.map p.textIn ++ values.map p.textIn)
        = Text.concat (front.map p.textIn) ++ Text.concat (values.map p.textIn) :=
      List.flatten_append
    rw [hconcat, hsilent, List.append_nil]
  · rw [List.flatMap_append, hfront, hwhole]
    exact hvalues.imp fun call sent hsent => hsent.1

namespace Anthropic

theorem callBlock_carries (call : ToolCall) :
    Returns (Provider.anthropic.CarriesAlone call) (callBlock call) := by
  intro block h
  obtain ⟨fields, hfields, h⟩ := bind_eq_ok_iff.1 h
  cases h
  exact ⟨⟨rfl, fun _ => rfl, fields, hfields, rfl⟩, rfl, rfl⟩

theorem ownPieces_carriedBy (m : AssistantMessage) :
    Returns (m.CarriedBy .anthropic) (Provider.anthropic.ownPieces m) := by
  intro own h
  obtain ⟨values, hvalues, h⟩ := bind_eq_ok_iff.1 h
  cases h
  have hcalls := Returns.mapM callBlock_carries m.calls values hvalues
  by_cases htext : Content.plainText m.content = []
  · rw [if_pos htext]
    exact AssistantMessage.carriedBy_append htext.symm rfl hcalls
  · rw [if_neg htext]
    exact AssistantMessage.carriedBy_append (List.append_nil _) rfl hcalls

end Anthropic

namespace Gemini

theorem callPart_carries (call : ToolCall) :
    Returns (Provider.gemini.CarriesAlone call) (callPart call) := by
  intro part h
  obtain ⟨fields, hfields, h⟩ := bind_eq_ok_iff.1 h
  cases h
  exact ⟨⟨rfl, nofun, fields, hfields, rfl⟩, rfl, rfl⟩

theorem ownPieces_carriedBy {m : AssistantMessage}
    (hcontent : m.content = none ∨ ∃ t, m.content = some (.text t)) :
    Returns (m.CarriedBy .gemini) (Provider.gemini.ownPieces m) := by
  intro own h
  obtain ⟨values, hvalues, h⟩ := bind_eq_ok_iff.1 h
  cases h
  have hcalls := Returns.mapM callPart_carries m.calls values hvalues
  rcases hcontent with hnone | ⟨t, htext⟩
  · refine AssistantMessage.carriedBy_append ?_ ?_ hcalls
    · rw [hnone]
      rfl
    · rw [hnone]
      rfl
  · refine AssistantMessage.carriedBy_append ?_ ?_ hcalls
    · rw [htext]
      exact List.append_nil t
    · rw [htext]
      rfl

end Gemini

/-- Whatever a turn of plain text is written as, its text and its calls are in it. -/
theorem Provider.ownPieces_carriedBy {p : Provider} (hp : p ≠ .mock) {m : AssistantMessage}
    (hcontent : m.content = none ∨ ∃ t, m.content = some (.text t)) :
    Returns (m.CarriedBy p) (p.ownPieces m) := by
  cases p with
  | openai => exact OpenAI.ownPieces_carriedBy (.inl rfl) m
  | mistral => exact OpenAI.ownPieces_carriedBy (.inr rfl) m
  | anthropic => exact Anthropic.ownPieces_carriedBy m
  | gemini => exact Gemini.ownPieces_carriedBy hcontent
  | ollama => exact Ollama.ownPieces_carriedBy m
  | mock => exact absurd rfl hp

/-! ## Parts of a reply -/

namespace Json.Fits

variable {room : Nat} {v : Value}

theorem elements (h : Fits room v) : ∀ item ∈ v.elements, Fits room item := by
  cases v with
  | list items => exact h.item
  | tuple items => exact h.1.self.elim
  | _ => exact List.forall_mem_nil _

theorem first (h : Fits room v) : Fits room v.first := by
  have hall := h.elements
  rw [Value.first]
  cases helements : v.elements with
  | nil => exact null room
  | cons item items =>
    rw [helements] at hall
    exact hall item List.mem_cons_self

end Json.Fits

/-- The arguments of the calls in a document that was read could be read by themselves. -/
theorem Provider.callArguments_fits {p : Provider} {room : Nat} {document raw : Value}
    (hdocument : Json.Fits room document) (hraw : raw ∈ p.calls document) :
    Json.Fits room (p.callArguments raw) := by
  have hreplied : ∀ piece ∈ p.replied document, Json.Fits room piece := by
    cases p with
    | openai | mistral =>
      exact List.forall_mem_singleton.2 ((hdocument.field _).first.field _)
    | anthropic => exact (hdocument.field _).elements
    | gemini => exact (((hdocument.field _).first.field _).field _).elements
    | ollama => exact List.forall_mem_singleton.2 (hdocument.field _)
    | mock => exact List.forall_mem_singleton.2 hdocument
  have hcalls : ∀ piece, Json.Fits room piece → ∀ call ∈ p.callsIn piece, Json.Fits room call := by
    intro piece hpiece
    cases p with
    | anthropic =>
      rw [callsIn]
      split
      · exact List.forall_mem_singleton.2 hpiece
      · exact List.forall_mem_nil _
    | gemini =>
      rw [callsIn]
      split
      · exact List.forall_mem_singleton.2 hpiece
      · exact List.forall_mem_nil _
    | openai | mistral | ollama | mock => exact (hpiece.field _).elements
  obtain ⟨piece, hpiece, hmem⟩ := List.mem_flatMap.1 hraw
  have hcall := hcalls piece (hreplied piece hpiece) raw hmem
  cases p with
  | anthropic | mock => exact hcall.field _
  | openai | mistral | gemini | ollama => exact (hcall.field _).field _

/-! ## Replies -/

namespace Backend

/-- The turn that is sent for a reply says all of its text, and the calls of the reply one for one:
with their names and identifiers, and with arguments that hold the same objects. -/
theorem carries_reply {b : Backend} (hb : b.provider ≠ .mock) {model : Value} {chat : Chat}
    {body : Bytes} {document : Value} {m : AssistantMessage} {request : Wire.Request}
    (hdocument : Json.decode body = .ok document)
    (hlegacy : ¬b.provider.UsesLegacyCall document)
    (hholds : ∀ raw ∈ b.provider.calls document,
      ∃ fields, b.provider.Holds (b.provider.callArguments raw) fields)
    (hfloats : ∀ raw ∈ b.provider.calls document,
      (b.provider.callArguments raw).Throughout Value.ReadsBack)
    (hparse : parseResponse b.provider body = .ok m)
    (hbuild : b.buildRequest model (chat.addMessage (.assistant m)) = .ok request) :
    ∃ (before after : Value) (own : List Value), b.payload model.inText chat = .ok before ∧
      b.payload model.inText (chat.addMessage (.assistant m)) = .ok after ∧
      Json.encode after = .ok request.body ∧
      b.provider.said after = b.provider.said before ++ own.map (Said.mk b.provider.modelRole) ∧
      Text.concat (own.map b.provider.textIn) = Content.plainText m.content ∧
      List.Forall₂ b.provider.Resends (b.provider.calls document)
        (own.flatMap b.provider.callsIn) := by
  obtain ⟨-, -, after, hafter, hencode⟩ := buildRequest_eq_ok hbuild
  have hstep := b.payload_addMessage model.inText chat m
  obtain ⟨before, hbefore⟩ := hstep.before hafter
  obtain ⟨_, hfound, hreads⟩ := parseResponse_reads hb body m hparse
  rw [hdocument] at hfound
  cases hfound
  cases hown : b.provider.ownPieces m with
  | error e =>
    rw [hstep.error hbefore hown] at hafter
    cases hafter
  | ok own =>
    obtain ⟨_, hfound, hextends⟩ := hstep.ok hbefore hown
    rw [hafter] at hfound
    cases hfound
    have hcarried := Provider.ownPieces_carriedBy hb hreads.content own hown
    have hmem : List.Forall₂ (fun raw call => raw ∈ b.provider.calls document ∧
        b.provider.Reads raw call) (b.provider.calls document) m.calls :=
      (List.forall₂_and_left _ _).2 ⟨fun raw hraw => hraw, hreads.calls hlegacy⟩
    refine ⟨before, after, own, hbefore, hafter, hencode, hextends.said, hcarried.text, ?_⟩
    refine (forall₂_comp hmem hcarried.calls).imp fun raw sent hboth => ?_
    obtain ⟨call, ⟨hraw, hread⟩, hcarries⟩ := hboth
    obtain ⟨fields, hfields⟩ := hholds raw hraw
    have hfits := Provider.callArguments_fits (Json.decode_fits hdocument) hraw
    exact hread.resends hcarries hfields hfits.1 (hfloats raw hraw)

/-- A call with an object for its arguments. -/
def weatherCall : Value :=
  .object [("id", .ofString "call_1"), ("function", .object [("name", .ofString "weather"),
    ("arguments", .object [("city", .ofString "Oslo"), ("degrees", .float 21.5)])])]

/-- A reply that makes this call. -/
def weatherReply : Value :=
  .object [("choices", .list
    [.object [("message", .object [("tool_calls", .list [weatherCall])])]])]

theorem weatherReply_decodes : ∃ body, Json.decode body = .ok weatherReply := by
  have hread : weatherReply.Throughout Value.IsRead := by
    simp [weatherReply, weatherCall, Value.Throughout, Value.ThroughoutFields,
      Value.ThroughoutItems, Value.IsRead, Value.ofString]
    decide
  have hfloats : weatherReply.Throughout Value.ReadsBack := by
    have hfloat : (Value.float 21.5).ReadsBack := rfl
    simpa [weatherReply, weatherCall, Value.Throughout, Value.ThroughoutFields,
      Value.ThroughoutItems, Value.ReadsBack, Value.ofString] using hfloat
  have hrange : weatherReply.Throughout Value.InRange := by
    simp [weatherReply, weatherCall, Value.Throughout, Value.ThroughoutFields,
      Value.ThroughoutItems, Value.InRange, Value.ofString]
    decide
  have hsendable : Json.isSendable Json.depthLimit weatherReply = true := by decide +kernel
  obtain ⟨body, hbody⟩ := Json.encode_isOk_iff.2 hsendable
  exact ⟨body, Json.decode_encode hread hfloats hrange hbody⟩

/-- That call is sent back with its number as it was. -/
theorem carries_reply_weather : ∃ body m request after, ∃ own : List Value,
    Json.decode body = .ok weatherReply ∧ parseResponse .openai body = .ok m ∧
    ({ provider := .openai } : Backend).buildRequest .null (Chat.addMessage {} (.assistant m))
      = .ok request ∧
    ({ provider := .openai } : Backend).payload (Value.inText .null)
      (Chat.addMessage {} (.assistant m)) = .ok after ∧
    Json.encode after = .ok request.body ∧
    List.Forall₂ Provider.openai.Resends [weatherCall] (own.flatMap Provider.openai.callsIn) := by
  obtain ⟨body, hdocument⟩ := weatherReply_decodes
  have hload : loadDocument body = .ok weatherReply := by rw [loadDocument, hdocument]; rfl
  obtain ⟨request, hboth⟩ : ∃ request, (parseResponse .openai body >>= fun m =>
      ({ provider := .openai } : Backend).buildRequest .null
        (Chat.addMessage {} (.assistant m))) = .ok request := by
    rw [parseResponse, hload]
    exact exists_of_isOk (by decide +kernel)
  obtain ⟨m, hparse, hbuild⟩ := bind_eq_ok_iff.1 hboth
  have hlegacy : ¬Provider.openai.UsesLegacyCall weatherReply := by
    rintro ⟨-, hnone, -⟩
    cases hnone
  have hholds : ∀ raw ∈ Provider.openai.calls weatherReply,
      ∃ fields, Provider.openai.Holds (Provider.openai.callArguments raw) fields :=
    List.forall_mem_singleton.2 ⟨_, rfl⟩
  have hfloats : ∀ raw ∈ Provider.openai.calls weatherReply,
      (Provider.openai.callArguments raw).Throughout Value.ReadsBack := by
    have hfloat : (Value.float 21.5).ReadsBack := rfl
    exact List.forall_mem_singleton.2 ⟨trivial, trivial, hfloat, trivial⟩
  obtain ⟨-, after, own, -, hafter, hencode, -, -, hcalls⟩ :=
    carries_reply (b := { provider := .openai }) nofun hdocument hlegacy hholds hfloats hparse
      hbuild
  exact ⟨body, m, request, after, own, hdocument, hparse, hbuild, hafter, hencode, hcalls⟩

end Backend

end Colloquy
