import Colloquy.Proofs.Chat.Arguments
import Colloquy.Proofs.Provider.Conversation

/-!
# Calls in replies and in payloads

A reply and a payload hold calls in the same form, so one description serves both:
`Provider.callsIn` finds the calls in a piece, and `Provider.callName` and
`Provider.callArguments` tell what they ask for.

Reading a reply keeps its calls (`Backend.assistantOf_reads`): one call for each of them,
with its name, the text of its arguments, and its identifier where the backend sends one.
-/

namespace Colloquy

namespace Provider

/-- The pieces of a reply. -/
def replied (p : Provider) (document : Value) : List Value :=
  match p with
  | .openai | .mistral => [(document.field "choices").first.field "message"]
  | .anthropic => (document.field "content").elements
  | .gemini => (((document.field "candidates").first.field "content").field "parts").elements
  | .ollama => [document.field "message"]
  | .mock => [document]

/-- The calls in a piece. -/
def callsIn (p : Provider) (piece : Value) : List Value :=
  match p with
  | .anthropic => if (piece.field "type").same (.ofString "tool_use") then [piece] else []
  | .gemini => match piece.field "functionCall" with
    | .object _ => [piece]
    | _ => []
  | .openai | .mistral | .ollama | .mock => (piece.field "tool_calls").elements

/-- The text in a piece. -/
def textIn (p : Provider) (piece : Value) : Text :=
  match p with
  | .anthropic | .gemini => (piece.field "text").textOrEmpty
  | .openai | .mistral | .ollama | .mock => (piece.field "content").textOrEmpty

/-- The name in a call. -/
def callName (p : Provider) (raw : Value) : Value :=
  match p with
  | .anthropic | .mock => raw.field "name"
  | .gemini => (raw.field "functionCall").field "name"
  | .openai | .mistral | .ollama => (raw.field "function").field "name"

/-- The arguments in a call, null when there are none. -/
def callArguments (p : Provider) (raw : Value) : Value :=
  match p with
  | .anthropic => raw.field "input"
  | .gemini => (raw.field "functionCall").field "args"
  | .mock => raw.field "arguments"
  | .openai | .mistral | .ollama => (raw.field "function").field "arguments"

/-- Whether calls carry their identifiers to a backend. -/
def sendsIds : Provider → Bool
  | .gemini | .ollama => false
  | .openai | .mistral | .anthropic | .mock => true

/-- The calls of a reply, in order. -/
def calls (p : Provider) (document : Value) : List Value :=
  (p.replied document).flatMap p.callsIn

/-- A reply has no calls but one of the older form. -/
def UsesLegacyCall (p : Provider) (document : Value) : Prop :=
  (p = .openai ∨ p = .mistral) ∧ p.calls document = [] ∧
    ∃ message ∈ p.replied document, (message.field "function_call").legacyNames ≠ []

/-- The text that the arguments of a call are kept as. -/
def argumentsOf (p : Provider) (arguments : Value) : Except Exception Text :=
  match p with
  | .anthropic | .gemini => dumpText (arguments.orElse (.object []))
  | .ollama => Ollama.argumentsOf arguments
  | .openai | .mistral | .mock => OpenAI.argumentsOf arguments

/-- A call is read from a value. -/
structure Reads (p : Provider) (raw : Value) (call : ToolCall) : Prop where
  object : ∃ fields, raw = .object fields
  name : p.callName raw = .text call.name
  id (hids : p.sendsIds = true) : raw.field "id" = .text call.id
  arguments : p.argumentsOf (p.callArguments raw) = .ok call.arguments

end Provider

/-! ## Calls one to one -/

theorem ToolCall.make?_eq_ok {id name arguments : Value} {call : ToolCall}
    (h : make? id name arguments = .ok call) :
    id = .text call.id ∧ name = .text call.name ∧ arguments = .text call.arguments := by
  unfold make? at h
  dsimp only at h
  repeat' split at h
  all_goals
    cases h
  exact ⟨rfl, rfl, rfl⟩

/-- The items that were met in a walk are the elements, when calls are read from them and only
from objects. -/
theorem eq_elements_of_walk {R : Value → ToolCall → Prop} {v : Value} {items : List Value}
    {calls : List ToolCall} (hobject : ∀ raw call, R raw call → ∃ fields, raw = .object fields)
    (hcalls : List.Forall₂ R items calls)
    (hitems : items = v.elements ∨ ∃ item ∈ items, ∀ fields, item ≠ .object fields) :
    items = v.elements := by
  rcases hitems with rfl | ⟨item, hitem, hother⟩
  · rfl
  · obtain ⟨call, -, hcall⟩ := exists_of_forall₂ hcalls hitem
    obtain ⟨fields, hfields⟩ := hobject item call hcall
    exact absurd hfields (hother fields)

/-- What is related piece by piece is related as a whole. -/
theorem forall₂_flatMap {α β γ δ : Type} {R : γ → δ → Prop} {f : α → List γ} {g : β → List δ}
    {xs : List α} {ys : List β} (h : List.Forall₂ (fun x y => List.Forall₂ R (f x) (g y)) xs ys) :
    List.Forall₂ R (xs.flatMap f) (ys.flatMap g) := by
  induction h with
  | nil => exact .nil
  | cons hxy _ ih => exact List.rel_append hxy ih

/-- A message is read from a reply: it is plain text if anything, and it has the calls. -/
structure AssistantMessage.ReadsReply (p : Provider) (document : Value) (m : AssistantMessage) :
    Prop where
  content : m.content = none ∨ ∃ t, m.content = some (.text t)
  calls (hlegacy : ¬p.UsesLegacyCall document) : List.Forall₂ p.Reads (p.calls document) m.calls

/-- What is given does not depend on how errors are told. -/
theorem mapError_returns {ε α : Type} (r : Except ε α) (f : ε → Exception) :
    Returns (fun x => r = .ok x) (r.mapError f) := by
  cases r with
  | ok x => exact .ok rfl
  | error e => exact .error _

/-- A message is given when there is something in it. -/
theorem AssistantMessage.returns_dite {Q : AssistantMessage → Prop} {content : Option Content}
    {calls : List ToolCall} {metadata : Fields} {e : Exception}
    (hQ : ∀ spoken, Q ⟨content, calls, metadata, spoken⟩) :
    Returns Q (if h : content.isSome ∨ calls ≠ [] then
      (return ⟨content, calls, metadata, h⟩ : Except Exception AssistantMessage)
      else throw e) := by
  split
  · exact .pure (hQ _)
  · exact .error e

/-- The rest of a message does not matter for its content and its calls. -/
theorem AssistantMessage.readsReply_dite {p : Provider} {document : Value}
    {content : Option Content} {calls : List ToolCall} {metadata : Fields} {e : Exception}
    (hcontent : content = none ∨ ∃ t, content = some (.text t))
    (hcalls : ¬p.UsesLegacyCall document → List.Forall₂ p.Reads (p.calls document) calls) :
    Returns (ReadsReply p document) (if h : content.isSome ∨ calls ≠ [] then
      (return ⟨content, calls, metadata, h⟩ : Except Exception AssistantMessage)
      else throw e) :=
  returns_dite fun _ => ⟨hcontent, hcalls⟩

/-! ## The formats -/

namespace OpenAI

theorem callOf_reads {p : Provider} (hp : p = .openai ∨ p = .mistral) (provider : Text)
    (raw : Value) : Returns (p.Reads raw) (callOf provider raw) := by
  refine .bind (expectObject_returns _ _) fun fields hraw => ?_
  refine .bind (expectObject_returns _ _) fun function hfunction => ?_
  refine .bind (expectText_returns _ _) fun name hname => ?_
  refine .bind (.self _) fun arguments harguments => ?_
  subst hraw
  split
  · rename_i c id hid
    intro call hcall
    obtain ⟨hcallId, hcallName, hcallArguments⟩ := ToolCall.make?_eq_ok hcall
    have hfield : (Value.object fields).field "function" = .object function := hfunction
    cases hcallArguments
    refine ⟨⟨fields, rfl⟩, ?_, fun _ => hid.trans hcallId, ?_⟩
    · rcases hp with rfl | rfl
      all_goals
        rw [Provider.callName, hfield]
        exact hname.trans hcallName
    · rcases hp with rfl | rfl
      all_goals
        rw [Provider.callArguments, hfield]
        exact harguments
  · exact .error _

theorem contentOf_returns (provider : Text) (message : Fields) (calls : List ToolCall) :
    Returns (fun content => content = none ∨ ∃ t, content = some (.text t))
      (contentOf provider message calls) := by
  unfold contentOf
  dsimp only
  split
  · exact .ok (.inr ⟨_, rfl⟩)
  · split
    · exact .error _
    · exact .ok (.inl rfl)
  · exact .error _

theorem assistantOf_reads {p : Provider} (hp : p = .openai ∨ p = .mistral) (provider : Text)
    (payload : Fields) :
    Returns (AssistantMessage.ReadsReply p (.object payload)) (assistantOf provider payload) := by
  refine .bind (expectList_returns _ _) fun choices hchoices => ?_
  split
  · exact .error _
  · rename_i choice others
    refine .bind (expectObject_returns _ _) fun fields hchoice => ?_
    refine .bind (expectObject_returns _ _) fun message hmessage => ?_
    refine .bind (Value.iterate_returns _) fun raws hraws => ?_
    refine .bind (.mapM (callOf_reads hp provider) _) fun modern hmodern => ?_
    have hwalk := hmodern
    rw [eq_elements_of_walk (fun _ _ h => h.object) hmodern hraws, Value.elements_orElse] at hwalk
    have hreplied : p.replied (.object payload) = [.object message] := by
      have hpath : ((Value.object payload).field "choices").first.field "message"
          = .object message := by
        show (Value.ofField payload "choices").first.field "message" = _
        rw [hchoices, hchoice]
        exact hmessage
      rcases hp with rfl | rfl
      all_goals rw [Provider.replied, hpath]
    have hcalls : p.calls (.object payload) = (Value.ofField message "tool_calls").elements := by
      rw [Provider.calls, hreplied, List.flatMap_singleton]
      rcases hp with rfl | rfl <;> rfl
    rw [← hcalls] at hwalk
    split
    · rename_i hempty
      refine .bind (legacyCall?_returns _) fun calls hlegacyCalls => ?_
      refine .bind (contentOf_returns _ _ _) fun content hcontent => ?_
      refine AssistantMessage.readsReply_dite hcontent fun hlegacy => ?_
      rw [List.isEmpty_iff.1 hempty] at hwalk
      have hnone : p.calls (.object payload) = [] := List.forall₂_nil_right_iff.1 hwalk
      have hnames : (Value.ofField message "function_call").legacyNames = [] := by
        by_contra hsome
        have hmem : Value.object message ∈ p.replied (.object payload) := by
          rw [hreplied]
          exact List.mem_singleton_self _
        exact hlegacy ⟨hp, hnone, .object message, hmem, hsome⟩
      rw [hnames, calledBy, List.map_eq_nil_iff] at hlegacyCalls
      rw [hnone, hlegacyCalls]
      exact .nil
    · refine .bind (.pure rfl) fun calls hmodernCalls => ?_
      refine .bind (contentOf_returns _ _ _) fun content hcontent => ?_
      refine AssistantMessage.readsReply_dite hcontent fun _ => ?_
      rw [← hmodernCalls]
      exact hwalk

end OpenAI

namespace Anthropic

theorem pieceOf_reads (block : Value) : Returns (fun piece =>
    List.Forall₂ (Provider.Reads .anthropic) (Provider.anthropic.callsIn block) piece.call?.toList)
    (pieceOf block) := by
  refine .bind (expectObject_returns _ _) fun fields hblock => ?_
  subst hblock
  have hkind : (Value.object fields).field "type" = Value.ofField fields "type" := rfl
  rw [Provider.callsIn, hkind]
  dsimp only
  by_cases htext : (Value.ofField fields "type").same (.ofString "text") = true
  · have hother : (Value.ofField fields "type").same (.ofString "tool_use") = false := by
      rw [Value.same_text_iff.1 htext]
      decide
    rw [if_pos htext, hother]
    exact .bind_any fun t => .pure .nil
  · rw [if_neg htext]
    by_cases hcall : (Value.ofField fields "type").same (.ofString "tool_use") = true
    · rw [if_pos hcall, if_pos hcall]
      refine .bind (expectText_returns _ _) fun id hid => ?_
      refine .bind (expectText_returns _ _) fun name hname => ?_
      refine .bind (.self _) fun arguments harguments => ?_
      refine .bind (fun _ => ToolCall.make?_eq_ok) fun call hmade => .pure (.cons ?_ .nil)
      obtain ⟨hcallId, hcallName, hcallArguments⟩ := hmade
      cases hcallArguments
      exact ⟨⟨fields, rfl⟩, hname.trans hcallName, fun _ => hid.trans hcallId, harguments⟩
    · rw [if_neg hcall, if_neg hcall]
      exact .pure .nil

theorem assistantOf_reads (payload : Fields) :
    Returns (AssistantMessage.ReadsReply .anthropic (.object payload)) (assistantOf payload) := by
  refine .bind (expectList_returns _ _) fun blocks hblocks => ?_
  refine .bind (.mapM pieceOf_reads _) fun pieces hpieces => ?_
  refine AssistantMessage.readsReply_dite ?_ fun _ => ?_
  · split
    · exact .inl rfl
    · exact .inr ⟨_, rfl⟩
  · have hreplied : Provider.anthropic.replied (.object payload) = blocks := by
      show (Value.ofField payload "content").elements = blocks
      rw [hblocks]
      rfl
    rw [Provider.calls, hreplied, List.filterMap_eq_flatMap_toList]
    exact forall₂_flatMap hpieces

end Anthropic

namespace Gemini

theorem callOf?_reads (position : Nat) (part : Fields) : Returns (fun call =>
    List.Forall₂ (Provider.Reads .gemini) (Provider.gemini.callsIn (.object part)) call.toList)
    (callOf? position part) := by
  have hfield : (Value.object part).field "functionCall" = Value.ofField part "functionCall" := rfl
  rw [Provider.callsIn, hfield]
  unfold callOf?
  cases hcall : Value.ofField part "functionCall" with
  | object call =>
    refine .bind (expectText_returns _ _) fun name hname => ?_
    refine .bind (.self _) fun arguments harguments => ?_
    refine .bind (fun _ => ToolCall.make?_eq_ok) fun made hmade => .pure (.cons ?_ .nil)
    obtain ⟨-, hcallName, hcallArguments⟩ := hmade
    cases hcallArguments
    refine ⟨⟨part, rfl⟩, ?_, nofun, ?_⟩
    · rw [Provider.callName, hfield, hcall]
      exact hname.trans hcallName
    · rw [Provider.callArguments, hfield, hcall]
      exact harguments
  | _ => exact .ok .nil

/-- The calls of the parts are read, whatever was read before. -/
theorem readParts_reads (parts : List Value) (count : Nat) :
    Returns (fun read => List.Forall₂ (Provider.Reads .gemini)
      (parts.flatMap Provider.gemini.callsIn) read.2) (readParts count parts) := by
  induction parts generalizing count with
  | nil => exact .ok .nil
  | cons part parts ih =>
    refine .bind (expectObject_returns _ _) fun fields hpart => ?_
    subst hpart
    refine .bind (callOf?_reads _ _) fun call hcall => .bind (ih _) fun read hread => .pure ?_
    exact List.rel_append hcall hread

/-- A reply is read by reading its parts. -/
theorem assistantOf_parts (payload : Fields) : Returns (fun m =>
    (m.content = none ∨ ∃ t, m.content = some (.text t)) ∧
      ∃ texts, readParts 0 (Provider.gemini.replied (.object payload)) = .ok (texts, m.calls))
    (assistantOf payload) := by
  refine .bind (expectList_returns _ _) fun candidates hcandidates => ?_
  split
  · exact .error _
  · rename_i candidate others
    refine .bind (expectObject_returns _ _) fun fields hcandidate => ?_
    refine .bind (expectObject_returns _ _) fun content hcontent => ?_
    refine .bind (expectList_returns _ _) fun parts hparts => ?_
    refine .bind (.self _) fun read hread => ?_
    have hpath : ((Value.object payload).field "candidates").first.field "content"
        = Value.ofField fields "content" := by
      show (Value.ofField payload "candidates").first.field "content" = _
      rw [hcandidates, hcandidate]
      rfl
    have hreplied : Provider.gemini.replied (.object payload) = parts := by
      rw [Provider.replied, hpath, ← Value.field_orElse, hcontent]
      show (Value.ofField content "parts").elements = parts
      rw [← Value.elements_orElse, hparts]
      rfl
    refine AssistantMessage.returns_dite fun _ => ⟨?_, read.1, hreplied ▸ hread⟩
    show (if read.1.isEmpty then none else some (Content.text read.1.flatten)) = none ∨ _
    split
    · exact .inl rfl
    · exact .inr ⟨_, rfl⟩

theorem assistantOf_reads (payload : Fields) :
    Returns (AssistantMessage.ReadsReply .gemini (.object payload)) (assistantOf payload) :=
  (assistantOf_parts payload).mono fun _ ⟨hcontent, _, hread⟩ =>
    ⟨hcontent, fun _ => readParts_reads _ _ _ hread⟩

end Gemini

namespace Ollama

theorem callOf_reads (position : Nat) (raw : Value) :
    Returns (Provider.Reads .ollama raw) (callOf position raw) := by
  refine .bind (expectObject_returns _ _) fun fields hraw => ?_
  refine .bind (expectObject_returns _ _) fun function hfunction => ?_
  refine .bind (expectText_returns _ _) fun name hname => ?_
  refine .bind (.self _) fun arguments harguments => ?_
  subst hraw
  intro call hcall
  obtain ⟨-, hcallName, hcallArguments⟩ := ToolCall.make?_eq_ok hcall
  have hfield : (Value.object fields).field "function" = .object function := hfunction
  cases hcallArguments
  refine ⟨⟨fields, rfl⟩, ?_, nofun, ?_⟩
  · rw [Provider.callName, hfield]
    exact hname.trans hcallName
  · rw [Provider.callArguments, hfield]
    exact harguments

theorem readCalls_reads (raws : List Value) (count : Nat) :
    Returns (List.Forall₂ (Provider.Reads .ollama) raws) (readCalls count raws) := by
  induction raws generalizing count with
  | nil => exact .ok .nil
  | cons raw raws ih =>
    exact .bind (callOf_reads _ _) fun call hcall => .bind (ih _) fun calls hcalls =>
      .pure (.cons hcall hcalls)

theorem contentOf_returns (content : Value) (calls : List ToolCall) :
    Returns (fun content => content = none ∨ ∃ t, content = some (.text t))
      ((contentOf content calls).mapError .own) := by
  unfold contentOf
  split
  · split
    · exact .ok (.inl rfl)
    · exact .ok (.inr ⟨_, rfl⟩)
  · split
    · exact .error _
    · exact .ok (.inl rfl)
  · exact .error _

/-- A reply is read by reading its calls. -/
theorem assistantOf_calls (payload : Fields) : Returns (fun m =>
    (m.content = none ∨ ∃ t, m.content = some (.text t)) ∧
      readCalls 0 (Provider.ollama.calls (.object payload)) = .ok m.calls)
    (assistantOf payload) := by
  refine .bind (expectObject_returns _ _) fun message hmessage => ?_
  refine .bind (Value.iterate_returns _) fun raws hraws => ?_
  refine .bind (.self _) fun calls hcalls => ?_
  refine .bind (contentOf_returns _ _) fun content hcontent => ?_
  have hreads := readCalls_reads raws 0 calls hcalls
  have hraws := eq_elements_of_walk (fun _ _ h => h.object) hreads hraws
  have hfound : Provider.ollama.calls (.object payload) = raws := by
    show ((Value.ofField payload "message").field "tool_calls").elements ++ [] = _
    rw [hmessage, List.append_nil, hraws, Value.elements_orElse]
    rfl
  exact AssistantMessage.returns_dite fun _ => ⟨hcontent, hfound ▸ hcalls⟩

theorem assistantOf_reads (payload : Fields) :
    Returns (AssistantMessage.ReadsReply .ollama (.object payload)) (assistantOf payload) :=
  (assistantOf_calls payload).mono fun _ ⟨hcontent, hcalls⟩ =>
    ⟨hcontent, fun _ => readCalls_reads _ _ _ hcalls⟩

end Ollama

/-! ## Bodies -/

namespace Backend

theorem assistantOf_reads {p : Provider} (hp : p ≠ .mock) (payload : Fields) :
    Returns (AssistantMessage.ReadsReply p (.object payload)) (assistantOf p payload) := by
  cases p with
  | openai => exact OpenAI.assistantOf_reads (.inl rfl) _ payload
  | mistral => exact OpenAI.assistantOf_reads (.inr rfl) _ payload
  | anthropic => exact Anthropic.assistantOf_reads payload
  | gemini => exact Gemini.assistantOf_reads payload
  | ollama => exact Ollama.assistantOf_reads payload
  | mock => exact absurd rfl hp

/-- A message that is read from the body of a response is read from the object in it. -/
theorem parseResponse_of_assistantOf {p : Provider} {Q : Value → AssistantMessage → Prop}
    (hQ : ∀ payload, Returns (Q (.object payload)) (assistantOf p payload)) (body : Bytes) :
    Returns (fun m => ∃ document, Json.decode body = .ok document ∧ Q document m)
      (parseResponse p body) := by
  unfold parseResponse
  refine .bind (mapError_returns _ _) fun document hload => ?_
  dsimp only
  split
  · exact .error _
  · refine .bind (expectObject_returns _ _) fun payload hpayload => ?_
    subst hpayload
    exact .mapError _ ((hQ payload).mono fun message h => ⟨_, hload, h⟩)

/-- A message that is read from the body of a response is plain text if anything, and its calls are
those of the document in the body. -/
theorem parseResponse_reads {p : Provider} (hp : p ≠ .mock) (body : Bytes) :
    Returns (fun m => ∃ document, Json.decode body = .ok document ∧ m.ReadsReply p document)
      (parseResponse p body) :=
  parseResponse_of_assistantOf (assistantOf_reads hp) body

end Backend

end Colloquy
