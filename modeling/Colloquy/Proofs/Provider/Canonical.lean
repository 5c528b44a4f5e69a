import Colloquy.Proofs.Json.Read
import Colloquy.Proofs.Provider.Resend

/-!
# Messages written and read back

A message in the canonical form is read back as it was, but for what the form leaves out:
metadata, and the detail of images (`AssistantMessage.reduced`).  This holds of every turn
of the model whose texts are made of Unicode scalar values, whatever is in them
(`Canonical.parseResponse_message`).
-/

namespace Colloquy

/-! ## Turns without what is left out -/

/-- A part of content without the detail of an image. -/
def Part.reduced : Part → Part
  | .text t => .text t
  | .image url _ addressed => .image url .null addressed

/-- Content without the details of its images. -/
def Content.reduced : Content → Content
  | .text t => .text t
  | .parts items => .parts (items.map Part.reduced)

/-- A turn of the model without metadata and without the details of images. -/
def AssistantMessage.reduced (m : AssistantMessage) : AssistantMessage where
  content := m.content.map Content.reduced
  calls := m.calls
  metadata := []
  spoken := by
    rw [Option.isSome_map]
    exact m.spoken

/-- The texts that a turn of the model is written with. -/
def AssistantMessage.texts (m : AssistantMessage) : List Text :=
  Content.texts m.content ++ m.calls.flatMap fun call => [call.id, call.name, call.arguments]

/-- A text of Unicode scalar values: no code point is a surrogate. -/
def Text.IsScalar (t : Text) : Prop :=
  t.isClean = true ∧ ∀ c ∈ t, c < 0x110000

instance (t : Text) : Decidable t.IsScalar :=
  inferInstanceAs (Decidable (t.isClean = true ∧ ∀ c ∈ t, c < 0x110000))

/-- Every text of a turn of the model is made of Unicode scalar values. -/
def AssistantMessage.IsScalar (m : AssistantMessage) : Prop :=
  ∀ t ∈ m.texts, t.IsScalar

instance (m : AssistantMessage) : Decidable m.IsScalar :=
  inferInstanceAs (Decidable (∀ t ∈ m.texts, t.IsScalar))

namespace AssistantMessage.IsScalar

variable {m : AssistantMessage} (h : m.IsScalar)
include h

theorem content : ∀ t ∈ Content.texts m.content, t.IsScalar :=
  fun t ht => h t (List.mem_append_left _ ht)

theorem call {call : ToolCall} (hcall : call ∈ m.calls) :
    call.id.IsScalar ∧ call.name.IsScalar ∧ call.arguments.IsScalar := by
  have htexts : ∀ t ∈ [call.id, call.name, call.arguments], t.IsScalar := fun t ht =>
    h t (List.mem_append_right _ (List.mem_flatMap.2 ⟨call, hcall, ht⟩))
  simp only [List.forall_mem_cons] at htexts
  exact ⟨htexts.1, htexts.2.1, htexts.2.2.1⟩

end AssistantMessage.IsScalar

/-- Literals are made of code points. -/
theorem Text.ofString_lt (s : String) : ∀ c ∈ Text.ofString s, c < 0x110000 := by
  intro c hc
  obtain ⟨char, -, rfl⟩ := List.mem_map.1 hc
  have hvalid : char.toNat < 0xd800 ∨ 0xdfff < char.toNat ∧ char.toNat < 0x110000 := char.valid
  show char.toNat < 0x110000
  omega

namespace Canonical

/-! ## Reading -/

/-- A walk that reads back what was written of each item. -/
theorem mapM_written {ε α β : Type} {write : α → Value} {read : Value → Except ε β}
    {back : α → β} (h : ∀ x, read (write x) = .ok (back x)) (xs : List α) :
    (xs.map write).mapM read = .ok (xs.map back) := by
  induction xs with
  | nil => rfl
  | cons x xs ih =>
    rw [List.map_cons, List.mapM_cons, h, ih]
    rfl

theorem readCall_toolCall (call : ToolCall) : readCall (toolCall call) = .ok call := by
  have hmake : readCall (toolCall call)
      = ToolCall.make? (.text call.id) (.text call.name) (.text call.arguments) := rfl
  rw [hmake]
  simp [ToolCall.make?, call.identified, call.named]

theorem readPart_part (p : Part) : readPart (part p) = .ok p.reduced := by
  cases p with
  | text t => rfl
  | image url detail addressed =>
    have hmake : readPart (part (.image url detail addressed)) = Part.ofImage? (.text url) .null :=
      rfl
    rw [hmake]
    simp [Part.ofImage?, addressed, Part.reduced]

theorem readContent_content (c : Option Content) :
    readContent (content c) = .ok (c.map Content.reduced) := by
  match c with
  | none => rfl
  | some (.text t) => rfl
  | some (.parts items) =>
    have hwalk : readContent (content (some (.parts items))) = do
        return some (.parts (← (items.map part).mapM readPart)) := rfl
    rw [hwalk, mapM_written readPart_part]
    rfl

/-- The fields that a turn of the model is written as. -/
def assistantFields (m : AssistantMessage) : Fields :=
  let calls : Fields :=
    if m.calls = [] then [] else [("tool_calls", .list (m.calls.map toolCall))]
  Assoc.concat [[("role", .ofString "assistant"), ("content", content m.content)], calls]

theorem message_assistant (m : AssistantMessage) :
    message (.assistant m) = .object (assistantFields m) :=
  rfl

theorem readAssistant_assistantFields (m : AssistantMessage) :
    readAssistant (assistantFields m) = .ok m.reduced := by
  have hwalk : ((Value.ofField (assistantFields m) "tool_calls").orElse (.list [])).iterate
      = .ok (m.calls.map toolCall) := by
    rw [assistantFields]
    cases m.calls with
    | nil => rfl
    | cons call calls => rfl
  have hcalls : (m.calls.map toolCall).mapM readCall = .ok m.calls := by
    have hall := mapM_written readCall_toolCall m.calls
    rwa [List.map_id'] at hall
  have hcontent : readContent (Value.ofField (assistantFields m) "content")
      = .ok (m.content.map Content.reduced) := readContent_content m.content
  have hspoken : (m.content.map Content.reduced).isSome ∨ m.calls ≠ [] := m.reduced.spoken
  refine bind_eq_ok_iff.2 ⟨_, hwalk, bind_eq_ok_iff.2 ⟨_, hcalls, ?_⟩⟩
  refine bind_eq_ok_iff.2 ⟨_, hcontent, ?_⟩
  rw [dif_pos hspoken]
  rfl

theorem assistantOf_assistantFields (m : AssistantMessage) :
    assistantOf (assistantFields m) = .ok m.reduced := by
  have hrole : (Value.ofField (assistantFields m) "role").same (.ofString "assistant") = true := rfl
  rw [assistantOf, hrole, if_pos rfl, readAssistant_assistantFields]
  rfl

/-! ## Writing -/

theorem toolCall_kept {call : ToolCall}
    (h : call.id.IsScalar ∧ call.name.IsScalar ∧ call.arguments.IsScalar) :
    Json.Kept (toolCall call) := by
  obtain ⟨hid, hname, harguments⟩ := h
  have hnames : (["id", "name", "arguments"].map Text.ofString).Nodup := by decide
  refine .object hnames ?_
  simp only [List.forall_mem_cons]
  exact ⟨⟨Text.ofString_lt _, .ofText hid.2⟩, ⟨Text.ofString_lt _, .ofText hname.2⟩,
    ⟨Text.ofString_lt _, .ofText harguments.2⟩, List.forall_mem_nil _⟩

theorem part_kept {p : Part} (h : ∀ t ∈ Content.texts (some (.parts [p])), t.IsScalar) :
    Json.Kept (part p) := by
  cases p with
  | text t =>
    have ht : t.IsScalar := h t List.mem_cons_self
    have hnames : (["type", "text"].map Text.ofString).Nodup := by decide
    refine .object hnames ?_
    simp only [List.forall_mem_cons]
    exact ⟨⟨Text.ofString_lt _, .ofText (Text.ofString_lt _)⟩,
      ⟨Text.ofString_lt _, .ofText ht.2⟩, List.forall_mem_nil _⟩
  | image url detail addressed =>
    have hurl : url.IsScalar := h url List.mem_cons_self
    have hnames : (["type", "url"].map Text.ofString).Nodup := by decide
    refine .object hnames ?_
    simp only [List.forall_mem_cons]
    exact ⟨⟨Text.ofString_lt _, .ofText (Text.ofString_lt _)⟩,
      ⟨Text.ofString_lt _, .ofText hurl.2⟩, List.forall_mem_nil _⟩

theorem content_kept {c : Option Content} (h : ∀ t ∈ Content.texts c, t.IsScalar) :
    Json.Kept (content c) := by
  match c with
  | none => exact .null
  | some (.text t) => exact .ofText (h t List.mem_cons_self).2
  | some (.parts items) =>
    refine .list (List.forall_mem_map.2 fun item hitem => part_kept fun t ht => ?_)
    rw [Content.texts, List.map_singleton, List.mem_singleton] at ht
    exact h t (List.mem_map.2 ⟨item, hitem, ht.symm⟩)

/-- A turn whose texts are made of scalar values is read back as it was written. -/
theorem message_kept {m : AssistantMessage} (h : m.IsScalar) :
    Json.Kept (message (.assistant m)) := by
  have hrole : (∀ c ∈ Text.ofString "role", c < 0x110000) ∧
      Json.Kept (.ofString "assistant") :=
    ⟨Text.ofString_lt _, .ofText (Text.ofString_lt _)⟩
  have hcontent : (∀ c ∈ Text.ofString "content", c < 0x110000) ∧
      Json.Kept (content m.content) :=
    ⟨Text.ofString_lt _, content_kept h.content⟩
  rw [message_assistant, assistantFields]
  split
  · have hnames : (["role", "content"].map Text.ofString).Nodup := by decide
    refine .object hnames ?_
    exact List.forall_mem_cons.2 ⟨hrole, List.forall_mem_singleton.2 hcontent⟩
  · have hnames : (["role", "content", "tool_calls"].map Text.ofString).Nodup := by decide
    have hcalls : Json.Kept (.list (m.calls.map toolCall)) :=
      .list (List.forall_mem_map.2 fun call hcall => toolCall_kept (h.call hcall))
    refine .object hnames ?_
    exact List.forall_mem_cons.2 ⟨hrole, List.forall_mem_cons.2
      ⟨hcontent, List.forall_mem_singleton.2 ⟨Text.ofString_lt _, hcalls⟩⟩⟩

theorem message_isSendable {m : AssistantMessage} (h : m.IsScalar) :
    Json.isSendable Provider.turnRoom (message (.assistant m)) = true := by
  have hsends : Provider.mock.Sends m := by
    refine ⟨fun t ht => (h.content t ht).1, fun call hcall => ?_⟩
    obtain ⟨hid, hname, harguments⟩ := h.call hcall
    exact (Provider.sendsCall_iff_texts (.inr (.inr rfl))).2 ⟨hid.1, hname.1, harguments.1⟩
  obtain ⟨own, hown, hsendable⟩ := (written_iff m).2 hsends
  cases hown
  exact hsendable _ List.mem_cons_self

/-- A turn whose texts are made of scalar values is written, and read back but for what the form
leaves out. -/
theorem parseResponse_message {m : AssistantMessage} (h : m.IsScalar) :
    ∃ body, dumpPayload (message (.assistant m)) = .ok body ∧
      Backend.parseResponse .mock body = .ok m.reduced := by
  have hroom : Provider.turnRoom ≤ Json.depthLimit := by decide
  obtain ⟨body, hbody⟩ :=
    Json.encode_isOk_iff.2 (Json.isSendable_mono hroom (message_isSendable h))
  refine ⟨body, mapError_eq_ok_iff.2 hbody, ?_⟩
  · have hload : loadDocument body = .ok (message (.assistant m)) := by
      rw [loadDocument, (message_kept h).decode hbody]
      rfl
    rw [Backend.parseResponse, hload]
    show (assistantOf (assistantFields m)).mapError _ = _
    rw [assistantOf_assistantFields]
    rfl

end Canonical

end Colloquy
