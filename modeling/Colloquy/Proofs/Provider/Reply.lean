import Colloquy.Proofs.Provider.Raised

/-!
# Replies

What the body of a response is read as, for every backend.  `Provider.calledNames`
tells the names of the calls in a document from where its format has them, without
reading a message.  `Backend.parseResponse_replies` says that reading gives a message
with just these calls, or an error of the classes for bodies.
-/

namespace Colloquy

/-! ## The calls of a document -/

/-- The elements of a sequence, none of what is no sequence. -/
def Value.elements : Value → List Value
  | .list items => items
  | .tuple items => items
  | _ => []

/-- The first element of a sequence, null when there is none. -/
def Value.first (v : Value) : Value :=
  v.elements.headD .null

/-- The name in a call that has its function in an object of its own. -/
def Value.functionName (raw : Value) : Value :=
  (raw.field "function").field "name"

/-- The name in a call of the older form, when there is one. -/
def Value.legacyNames (legacy : Value) : List Value :=
  if (legacy.field "name").truthy then [legacy.field "name"] else []

/-- The name in a block that is a call. -/
def Value.blockName? (block : Value) : Option Value :=
  if (block.field "type").same (.ofString "tool_use") then some (block.field "name") else none

/-- The name in a part that has a call. -/
def Value.partName? (part : Value) : Option Value :=
  match part.field "functionCall" with
  | .object call => some (Value.ofField call "name")
  | _ => none

/-- The names of the calls in a document in the format of a backend, in order. -/
def Provider.calledNames (p : Provider) (document : Value) : List Value :=
  match p with
  | .openai | .mistral =>
    let message := (document.field "choices").first.field "message"
    let calls := (message.field "tool_calls").elements
    if calls.isEmpty then (message.field "function_call").legacyNames
    else calls.map Value.functionName
  | .anthropic => (document.field "content").elements.filterMap Value.blockName?
  | .gemini =>
    let content := (document.field "candidates").first.field "content"
    (content.field "parts").elements.filterMap Value.partName?
  | .ollama => ((document.field "message").field "tool_calls").elements.map Value.functionName
  | .mock => (document.field "tool_calls").elements.map fun raw => raw.field "name"

/-! ## Parts of replies -/

namespace Value

/-- A default for a sequence adds no elements. -/
theorem elements_orElse (v : Value) : (v.orElse (.list [])).elements = v.elements := by
  unfold orElse
  split
  · rfl
  · rename_i hfalse
    cases v with
    | list items | tuple items =>
      cases items with
      | nil => rfl
      | cons item items => exact absurd rfl hfalse
    | _ => rfl

/-- A default for an object adds no fields. -/
theorem field_orElse (v : Value) (name : Text) :
    (v.orElse (.object [])).field name = v.field name := by
  unfold orElse
  split
  · rfl
  · rename_i hfalse
    cases v with
    | object fields =>
      cases fields with
      | nil => rfl
      | cons field fields => exact absurd rfl hfalse
    | _ => rfl

/-- What is the same as a text is that text. -/
theorem same_text_iff {v : Value} {t : Text} : v.same (.text t) = true ↔ v = .text t := by
  cases v with
  | text s =>
    show (s == t) = true ↔ _
    rw [beq_iff_eq, Value.text.injEq]
  | _ =>
    constructor
    · intro h
      cases h
    · intro h
      cases h

/-- A walk goes through the elements of a sequence.  In a walk through anything else an item is met
that is no object, unless there are no items. -/
theorem iterate_returns (v : Value) : Returns (fun items => items = v.elements ∨
    ∃ item ∈ items, ∀ fields, item ≠ .object fields) v.iterate := by
  have hfirst : ∀ {α : Type} (f : α → Value) (xs : List α), (∀ x fields, f x ≠ .object fields) →
      xs.map f = [] ∨ ∃ item ∈ xs.map f, ∀ fields, item ≠ .object fields := by
    intro α f xs hf
    cases xs with
    | nil => exact .inl rfl
    | cons x xs => exact .inr ⟨f x, List.mem_cons_self, hf x⟩
  cases v with
  | list items | tuple items => exact .ok (.inl rfl)
  | text t => exact .ok (hfirst _ t nofun)
  | bytes octets => exact .ok (hfirst _ octets nofun)
  | object fields => exact .ok (hfirst _ fields nofun)
  | null | bool | int | float | foreign => exact .error _

end Value

theorem ToolCall.make?_returns (id name arguments : Value) :
    Returns (fun call => name = .text call.name) (ToolCall.make? id name arguments) := by
  unfold ToolCall.make?
  dsimp only
  repeat' split
  all_goals first | exact .ok rfl | exact .error _

/-! ## Calls one to one -/

/-- A call comes of an object, and its name is found there. -/
def ToolCall.Names (nameOf : Value → Value) (raw : Value) (call : ToolCall) : Prop :=
  (∃ fields, raw = .object fields) ∧ nameOf raw = .text call.name

/-- The names of calls, as values. -/
def calledBy (calls : List ToolCall) : List Value :=
  calls.map fun call => .text call.name

/-- Calls that come of what was met in a walk have the names in the elements. -/
theorem calledBy_of_walk {nameOf : Value → Value} {v : Value} {items : List Value}
    {calls : List ToolCall} (hcalls : List.Forall₂ (ToolCall.Names nameOf) items calls)
    (hitems : items = v.elements ∨ ∃ item ∈ items, ∀ fields, item ≠ .object fields) :
    calledBy calls = v.elements.map nameOf := by
  have hnames : calledBy calls = items.map nameOf := by
    clear hitems
    induction hcalls with
    | nil => rfl
    | cons hcall _ ih =>
      rw [List.map_cons, ← ih, hcall.2]
      rfl
  have hobjects : ∀ item ∈ items, ∃ fields, item = .object fields := by
    clear hitems hnames
    induction hcalls with
    | nil => nofun
    | cons hcall _ ih =>
      intro item hitem
      rcases List.mem_cons.1 hitem with rfl | hitem
      · exact hcall.1
      · exact ih item hitem
  rcases hitems with rfl | ⟨item, hitem, hother⟩
  · exact hnames
  · obtain ⟨fields, hobject⟩ := hobjects item hitem
    exact absurd hobject (hother fields)

/-- Calls that some items are read as have the names in these items. -/
theorem calledBy_filterMap {α : Type} {call? : α → Option ToolCall}
    {name? : Value → Option Value} {items : List Value} {read : List α}
    (h : List.Forall₂ (fun item x => (call? x).map (fun call => .text call.name) = name? item)
      items read) :
    calledBy (read.filterMap call?) = items.filterMap name? := by
  induction h with
  | nil => rfl
  | @cons item x items read hfirst _ ih =>
    cases hcall : call? x with
    | none =>
      rw [hcall] at hfirst
      rw [List.filterMap_cons_none hcall, List.filterMap_cons_none hfirst.symm]
      exact ih
    | some call =>
      rw [hcall] at hfirst
      rw [List.filterMap_cons_some hcall, List.filterMap_cons_some hfirst.symm, ← ih]
      rfl

/-- A message has calls with given names, one to one and in order, and its metadata are not null. -/
def AssistantMessage.Replies (names : List Value) (m : AssistantMessage) : Prop :=
  calledBy m.calls = names ∧ ∀ field ∈ m.metadata, field.2 ≠ .null

/-- Fields that are null are not kept as metadata. -/
theorem metadataOf_ne_null (fields : Fields) : ∀ field ∈ metadataOf fields, field.2 ≠ .null := by
  intro field hfield hnull
  have hkept := (List.mem_filter.1 hfield).2
  rw [hnull] at hkept
  cases hkept

/-- Calls with the names and metadata that are not null make a message with them. -/
theorem AssistantMessage.replies_dite {names : List Value} {content : Option Content}
    {calls : List ToolCall} {metadata : Fields} {e : Exception} (hcalls : calledBy calls = names)
    (hmetadata : ∀ field ∈ metadata, field.2 ≠ .null) :
    Returns (Replies names) (if h : content.isSome ∨ calls ≠ [] then
      (return ⟨content, calls, metadata, h⟩ : Except Exception AssistantMessage)
      else throw e) := by
  split
  · exact .pure ⟨hcalls, hmetadata⟩
  · exact .error e

/-! ## The formats -/

namespace OpenAI

theorem callOf_returns (provider : Text) (raw : Value) :
    Returns (ToolCall.Names Value.functionName raw) (callOf provider raw) := by
  refine .bind (expectObject_returns _ _) fun fields hraw => ?_
  refine .bind (expectObject_returns _ _) fun function hfunction => ?_
  refine .bind (expectText_returns _ _) fun name hname => ?_
  refine .bind_any fun arguments => ?_
  split
  · refine (ToolCall.make?_returns _ _ _).mono fun call hcall => ⟨⟨fields, hraw⟩, ?_⟩
    rw [← hcall, ← hname, Value.functionName, hraw, Value.field, hfunction]
    rfl
  · exact .error _

theorem legacyCall?_returns (legacy : Value) :
    Returns (fun calls => calledBy calls = legacy.legacyNames) (legacyCall? legacy) := by
  unfold legacyCall?
  split
  · rename_i fields
    have hfield : (Value.object fields).field "name" = Value.ofField fields "name" := rfl
    unfold Value.legacyNames
    rw [hfield]
    dsimp only
    split
    · refine .bind (ToolCall.make?_returns _ _ _) fun call hcall => .pure ?_
      rw [hcall]
      rfl
    · exact .ok rfl
  · rename_i hother
    refine .ok ?_
    cases legacy with
    | object fields => exact absurd rfl (hother fields)
    | _ => rfl

theorem assistantOf_returns (provider : Text) (payload : Fields) :
    Returns (AssistantMessage.Replies (Provider.openai.calledNames (.object payload)))
      (assistantOf provider payload) := by
  refine .bind (expectList_returns _ _) fun choices hchoices => ?_
  split
  · exact .error _
  · rename_i choice others
    refine .bind (expectObject_returns _ _) fun fields hchoice => ?_
    refine .bind (expectObject_returns _ _) fun message hmessage => ?_
    refine .bind (Value.iterate_returns _) fun raws hraws => ?_
    refine .bind (.mapM (callOf_returns provider) _) fun modern hmodern => ?_
    have hwalk := calledBy_of_walk hmodern hraws
    rw [Value.elements_orElse] at hwalk
    have hpath : ((Value.object payload).field "choices").first.field "message"
        = .object message := by
      show (Value.ofField payload "choices").first.field "message" = _
      rw [hchoices, hchoice]
      exact hmessage
    have hempty : modern.isEmpty = (Value.ofField message "tool_calls").elements.isEmpty := by
      have hlength := congrArg List.isEmpty hwalk
      rwa [calledBy, List.isEmpty_map, List.isEmpty_map] at hlength
    have hnames : Provider.openai.calledNames (.object payload) =
        if modern.isEmpty then (Value.ofField message "function_call").legacyNames
        else calledBy modern := by
      rw [Provider.calledNames, hpath, hempty, hwalk]
      rfl
    rw [hnames]
    split
    · refine .bind (legacyCall?_returns _) fun calls hcalls => ?_
      exact .bind_any fun _ => AssistantMessage.replies_dite hcalls (metadataOf_ne_null _)
    · refine .bind (.pure rfl) fun calls hcalls => ?_
      exact .bind_any fun _ => AssistantMessage.replies_dite (by rw [← hcalls])
        (metadataOf_ne_null _)

end OpenAI

namespace Anthropic

theorem pieceOf_returns (block : Value) : Returns (fun piece =>
    piece.call?.map (fun call => .text call.name) = block.blockName?) (pieceOf block) := by
  refine .bind (expectObject_returns _ _) fun fields hblock => ?_
  subst hblock
  have hkind : (Value.object fields).field "type" = Value.ofField fields "type" := rfl
  unfold Value.blockName?
  rw [hkind]
  dsimp only
  by_cases htext : (Value.ofField fields "type").same (.ofString "text") = true
  · have hother : (Value.ofField fields "type").same (.ofString "tool_use") = false := by
      rw [Value.same_text_iff.1 htext]
      decide
    rw [if_pos htext, hother]
    exact .bind_any fun t => .pure rfl
  · rw [if_neg htext]
    by_cases hcall : (Value.ofField fields "type").same (.ofString "tool_use") = true
    · rw [if_pos hcall, if_pos hcall]
      refine .bind_any fun id => .bind (expectText_returns _ _) fun name hname => ?_
      refine .bind_any fun arguments => ?_
      refine .bind (ToolCall.make?_returns _ _ _) fun call hcall => .pure ?_
      show some (Value.text call.name) = some (Value.ofField fields "name")
      rw [hname, hcall]
    · rw [if_neg hcall, if_neg hcall]
      exact .pure rfl

theorem assistantOf_returns (payload : Fields) :
    Returns (AssistantMessage.Replies (Provider.anthropic.calledNames (.object payload)))
      (assistantOf payload) := by
  refine .bind (expectList_returns _ _) fun blocks hblocks => ?_
  refine .bind (.mapM pieceOf_returns _) fun pieces hpieces => ?_
  refine AssistantMessage.replies_dite ?_ (metadataOf_ne_null _)
  show _ = (Value.ofField payload "content").elements.filterMap Value.blockName?
  rw [calledBy_filterMap hpieces, hblocks]
  rfl

end Anthropic

namespace Gemini

theorem callOf?_returns (position : Nat) (part : Fields) : Returns (fun call =>
    call.map (fun call => .text call.name) = (Value.object part).partName?)
    (callOf? position part) := by
  unfold callOf?
  split
  · rename_i call hcall
    refine .bind (expectText_returns _ _) fun name hname => .bind_any fun arguments => ?_
    refine .bind (ToolCall.make?_returns _ _ _) fun made hmade => .pure ?_
    show some (Value.text made.name) = match Value.ofField part "functionCall" with
      | .object call => some (Value.ofField call "name")
      | _ => none
    rw [hcall]
    dsimp only
    rw [hname, hmade]
  · rename_i hother
    refine .ok ?_
    show none = match Value.ofField part "functionCall" with
      | .object call => some (Value.ofField call "name")
      | _ => none
    split
    · rename_i call hcall
      exact absurd hcall (hother call)
    · rfl

/-- The calls that parts are read as have the names in the parts, whatever was read before. -/
theorem readParts_returns (parts : List Value) (count : Nat) :
    Returns (fun read => calledBy read.2 = parts.filterMap Value.partName?)
      (readParts count parts) := by
  induction parts generalizing count with
  | nil => exact .ok rfl
  | cons part parts ih =>
    refine .bind (expectObject_returns _ _) fun fields hpart => ?_
    subst hpart
    refine .bind (callOf?_returns _ _) fun call hcall => .bind (ih _) fun read hread => .pure ?_
    show calledBy (call.toList ++ read.2) = _
    cases call with
    | none =>
      rw [List.filterMap_cons_none hcall.symm]
      exact hread
    | some call =>
      rw [List.filterMap_cons_some hcall.symm, ← hread]
      rfl

theorem assistantOf_returns (payload : Fields) :
    Returns (AssistantMessage.Replies (Provider.gemini.calledNames (.object payload)))
      (assistantOf payload) := by
  refine .bind (expectList_returns _ _) fun candidates hcandidates => ?_
  split
  · exact .error _
  · rename_i candidate others
    refine .bind (expectObject_returns _ _) fun fields hcandidate => ?_
    refine .bind (expectObject_returns _ _) fun content hcontent => ?_
    refine .bind (expectList_returns _ _) fun parts hparts => ?_
    refine .bind (readParts_returns _ _) fun read hread => ?_
    have hpath : ((Value.object payload).field "candidates").first.field "content"
        = Value.ofField fields "content" := by
      show (Value.ofField payload "candidates").first.field "content" = _
      rw [hcandidates, hcandidate]
      rfl
    have hlist : ((Value.ofField fields "content").field "parts").elements = parts := by
      rw [← Value.field_orElse, hcontent]
      show (Value.ofField content "parts").elements = parts
      rw [← Value.elements_orElse, hparts]
      rfl
    refine AssistantMessage.replies_dite ?_ (metadataOf_ne_null _)
    show calledBy read.2
      = ((((Value.object payload).field "candidates").first.field "content").field
        "parts").elements.filterMap Value.partName?
    rw [hpath, hlist]
    exact hread

end Gemini

namespace Ollama

theorem callOf_returns (position : Nat) (raw : Value) :
    Returns (ToolCall.Names Value.functionName raw) (callOf position raw) := by
  refine .bind (expectObject_returns _ _) fun fields hraw => ?_
  refine .bind (expectObject_returns _ _) fun function hfunction => ?_
  refine .bind (expectText_returns _ _) fun name hname => .bind_any fun arguments => ?_
  refine (ToolCall.make?_returns _ _ _).mono fun call hcall => ⟨⟨fields, hraw⟩, ?_⟩
  rw [← hcall, ← hname, Value.functionName, hraw, Value.field, hfunction]
  rfl

theorem readCalls_returns (raws : List Value) (count : Nat) :
    Returns (List.Forall₂ (ToolCall.Names Value.functionName) raws) (readCalls count raws) := by
  induction raws generalizing count with
  | nil => exact .ok .nil
  | cons raw raws ih =>
    exact .bind (callOf_returns _ _) fun call hcall => .bind (ih _) fun calls hcalls =>
      .pure (.cons hcall hcalls)

theorem assistantOf_returns (payload : Fields) :
    Returns (AssistantMessage.Replies (Provider.ollama.calledNames (.object payload)))
      (assistantOf payload) := by
  refine .bind (expectObject_returns _ _) fun message hmessage => ?_
  refine .bind (Value.iterate_returns _) fun raws hraws => ?_
  refine .bind (readCalls_returns _ _) fun calls hcalls => .bind_any fun content => ?_
  have hwalk := calledBy_of_walk hcalls hraws
  rw [Value.elements_orElse] at hwalk
  refine AssistantMessage.replies_dite ?_ (metadataOf_ne_null _)
  show calledBy calls
    = (((Value.ofField payload "message").field "tool_calls").elements).map Value.functionName
  rw [hmessage]
  exact hwalk

end Ollama

namespace Canonical

theorem entry_returns (v : Value) (name : Text) :
    Returns (fun found => (∃ fields, v = .object fields) ∧ v.field name = found)
      (v.entry name) := by
  unfold Value.entry
  split
  · rename_i fields
    split
    · rename_i found hfound
      refine .ok ⟨⟨fields, rfl⟩, ?_⟩
      show Value.ofOption (Assoc.get? fields name) = found
      rw [hfound]
      rfl
    · exact .error _
  all_goals exact .error _

theorem readCall_returns (raw : Value) :
    Returns (ToolCall.Names (fun raw => raw.field "name") raw) (readCall raw) := by
  refine .bind_any fun id => .bind (entry_returns _ _) fun name hname => ?_
  refine .bind_any fun arguments => ?_
  refine (ToolCall.make?_returns _ _ _).mono fun call hcall => ⟨hname.1, ?_⟩
  rw [← hcall]
  exact hname.2

theorem readAssistant_returns (payload : Fields) :
    Returns (AssistantMessage.Replies (Provider.mock.calledNames (.object payload)))
      (readAssistant payload) := by
  refine .bind (Value.iterate_returns _) fun raws hraws => ?_
  refine .bind (.mapM readCall_returns _) fun calls hcalls => .bind_any fun content => ?_
  have hwalk := calledBy_of_walk hcalls hraws
  rw [Value.elements_orElse] at hwalk
  exact AssistantMessage.replies_dite hwalk nofun

theorem assistantOf_returns (payload : Fields) :
    Returns (AssistantMessage.Replies (Provider.mock.calledNames (.object payload)))
      (assistantOf payload) := by
  unfold assistantOf
  split
  · exact .mapError _ (readAssistant_returns payload)
  · exact .error _

end Canonical

/-! ## Bodies of responses -/

namespace Backend

/-- The message that a payload is read as has the calls of the payload. -/
theorem assistantOf_returns (p : Provider) (payload : Fields) :
    Returns (AssistantMessage.Replies (p.calledNames (.object payload)))
      (assistantOf p payload) := by
  cases p with
  | openai => exact OpenAI.assistantOf_returns _ payload
  | mistral => exact OpenAI.assistantOf_returns _ payload
  | anthropic => exact Anthropic.assistantOf_returns payload
  | gemini => exact Gemini.assistantOf_returns payload
  | ollama => exact Ollama.assistantOf_returns payload
  | mock => exact Canonical.assistantOf_returns payload

theorem parseResponse_returns (p : Provider) (body : Bytes) :
    Returns (fun message => ∃ payload, loadDocument body = .ok (.object payload) ∧
      message.Replies (p.calledNames (.object payload))) (parseResponse p body) := by
  unfold parseResponse
  refine .bind (P := fun document => loadDocument body = .ok document) (fun _ h => h)
    fun document hload => ?_
  dsimp only
  split
  · exact .error _
  · refine .bind (expectObject_returns _ _) fun payload hpayload => ?_
    subst hpayload
    exact .mapError _ ((assistantOf_returns p payload).mono fun message h => ⟨payload, hload, h⟩)

/-- Reading the body of a response gives a message or an error.  A message says something, its calls
can be answered, its metadata are not null, and its calls are those of the document in the body, one
to one and in order.  An error is one of serialization, or it tells that the backend is unavailable;
only a document that is too deep raises another exception. -/
theorem parseResponse_replies (p : Provider) (body : Bytes) :
    match parseResponse p body with
    | .ok message => ∃ payload, loadDocument body = .ok (.object payload) ∧
        (message.content.isSome ∨ message.calls ≠ []) ∧
        (∀ call ∈ message.calls, call.id ≠ [] ∧ call.name ≠ []) ∧
        (∀ field ∈ message.metadata, field.2 ≠ .null) ∧
        message.calls.map (fun call => Value.text call.name) = p.calledNames (.object payload)
    | .error (.own e) => e.cls = .serialization ∨ e.cls = .unavailable
    | .error (.foreign cls text) =>
      cls = .recursion ∧ loadDocument body = .error (.foreign cls text) := by
  have hreturns := parseResponse_returns p body
  have hraises := parseResponse_raises p body
  rcases hread : parseResponse p body with (e | ⟨cls, text⟩) | message
  · rcases hraises _ hread with hown | ⟨-, hown⟩
    · have hcls : e.cls ∈ bodyClasses := hown
      simpa [bodyClasses] using hcls
    · exact .inl (List.mem_singleton.1 hown)
  · rcases hraises _ hread with hforeign | ⟨hload, hforeign⟩
    · cases hforeign
    · exact ⟨List.mem_singleton.1 hforeign, hload⟩
  · obtain ⟨payload, hload, hcalls, hmetadata⟩ := hreturns message hread
    exact ⟨payload, hload, message.spoken, fun call _ => ⟨call.identified, call.named⟩, hmetadata,
      hcalls⟩

end Backend

/-- Text and other parts are passed over. -/
example : Provider.gemini.calledNames (.object [("candidates", .list [.object [("content",
    .object [("parts", .list [.object [("text", .ofString "Let me see.")],
      .object [("functionCall", .object [("name", .ofString "clock")])],
      .object [("functionCall", .null)]])])]])]) = [.ofString "clock"] := rfl

end Colloquy
