import Colloquy.Proofs.Error.Raised
import Colloquy.Proofs.Json.Room
import Colloquy.Provider.Exchange

/-!
# What an exchange raises

The classes of the library's own errors that building a request and reading a
response can raise, for every backend.  A request fails on the address, on what a
backend cannot express, or on what cannot be written; a response on its shape, or
with the error that it reports.
-/

namespace Colloquy

/-- The classes of errors that a request can fail with on account of its chat. -/
def chatClasses : List ErrorClass :=
  [.unsupportedFeature, .configuration, .serialization]

/-- The classes of errors that building a request can raise. -/
def requestClasses : List ErrorClass :=
  .baseUrl :: chatClasses

/-- The classes of errors that reading the body of a response can raise. -/
def bodyClasses : List ErrorClass :=
  [.serialization, .unavailable]

/-- The classes of errors that stand for a response without success. -/
def statusClasses : List ErrorClass :=
  [.rateLimit, .authentication, .unsupportedModel, .contextLength, .unavailable, .api]

/-- An exception for a part of a message that does not fit: an error of serialization, or a wrong
type or value.  Reading a response turns the latter into the former. -/
abbrev Exception.Misfit : Exception → Prop :=
  Exception.Within [.serialization] [.type, .value]

theorem Exception.Misfit.of_type (text : Text) : (Exception.type text).Misfit :=
  List.mem_cons_self

theorem Exception.Misfit.of_value (text : Text) : (Exception.value text).Misfit :=
  List.mem_cons_of_mem _ List.mem_cons_self

theorem Exception.Misfit.of_serialization (message : Text) :
    Exception.Misfit (.own (.serialization message)) :=
  List.mem_cons_self

/-! ## Parts of messages -/

theorem ToolCall.make?_raises (id name arguments : Value) :
    Raises Exception.Misfit (ToolCall.make? id name arguments) := by
  unfold ToolCall.make?
  dsimp only
  repeat' split
  all_goals first | exact .ok _ | exact .error (.of_value _) | exact .error (.of_type _)

theorem Value.iterate_raises (v : Value) : Raises Exception.Misfit v.iterate := by
  unfold Value.iterate
  split
  all_goals first | exact .ok _ | exact .error (.of_type _)

theorem expectObject_raises (what : Text) (v : Value) :
    Raises Exception.Misfit ((expectObject what v).mapError .own) := by
  unfold expectObject
  split
  · exact .ok _
  · exact .error (.of_serialization _)

theorem expectList_raises (what : Text) (v : Value) :
    Raises Exception.Misfit ((expectList what v).mapError .own) := by
  unfold expectList
  split
  · exact .ok _
  · exact .error (.of_serialization _)

theorem expectText_raises (what : Text) (v : Value) :
    Raises Exception.Misfit ((expectText what v).mapError .own) := by
  unfold expectText
  split
  · exact .ok _
  · exact .error (.of_serialization _)

theorem Json.Refusal.reported_within (refusal : Refusal) :
    refusal.reported.Within [.serialization] [.recursion] := by
  unfold reported
  split
  · exact List.mem_cons_self
  · exact List.mem_cons_self

theorem dumpPayload_raises (v : Value) :
    Raises (Exception.Within [.serialization] [.recursion]) (dumpPayload v) :=
  .ofErrors _ fun refusal _ => refusal.reported_within

/-- What is wrong with a document is told as an error of serialization, unless it is too deep. -/
theorem DocumentFault.reported_within (front : Text) (fault : Json.DocumentFault) :
    (fault.reported front).Within [.serialization] [.recursion] := by
  unfold Json.DocumentFault.reported
  split
  · rename_i hdeep
    unfold Json.DocumentFault.isTooDeep at hdeep
    split at hdeep
    · exact List.mem_cons_self
    · cases hdeep
  · exact List.mem_cons_self

theorem ToolCall.argumentFields_raises (call : ToolCall) :
    Raises (Exception.Within [.serialization] [.recursion]) call.argumentFields := by
  unfold ToolCall.argumentFields loadArguments
  refine .bind (.ofErrors _ fun fault _ => DocumentFault.reported_within _ _) fun value => ?_
  split
  · exact .pure _
  · exact .error List.mem_cons_self

/-! ## Requests -/

/-- What cannot be read or written can make a request fail. -/
theorem Exception.Within.chat {kinds : List ForeignClass} {e : Exception}
    (h : e.Within [.serialization] kinds) : e.Among chatClasses := by
  refine (h.mono (fun cls hcls => ?_) (List.Subset.refl kinds)).among
  rw [List.mem_singleton.1 hcls]
  decide

/-- A call that is written with its arguments as an object. -/
theorem ToolCall.written_raises (call : ToolCall) (write : Fields → Value) :
    Raises (Exception.Among chatClasses) (do return write (← call.argumentFields)) :=
  .bind (call.argumentFields_raises.mono fun _ h => h.chat) fun _ => .pure _

theorem resolveEndpoint_raises (base : Value) (path : Text) :
    Raises (Exception.Among requestClasses) (resolveEndpoint base path) := by
  have hbase : ∀ reason, (Error.badBase base reason).cls ∈ requestClasses := by
    intro reason
    cases reason <;> exact List.mem_cons_self
  unfold resolveEndpoint
  split
  · split
    · exact .own (hbase _)
    · refine .ite (.bind (.ofErrors _ ?_) fun host => .ite ?_ ?_) ?_
      · exact fun fault _ => trivial
      · exact .own (hbase none)
      · exact .pure _
      · exact .own (hbase none)
  · exact .own (hbase _)

theorem checkChat_raises (chat : Chat) (capabilities : Capabilities) (provider : Text) :
    Raises (Exception.Among chatClasses) (checkChat chat capabilities provider) := by
  have hunsupported : ErrorClass.unsupportedFeature ∈ chatClasses := by decide
  have hchoice : ErrorClass.configuration ∈ chatClasses := by decide
  unfold checkChat checkChoice checkNamed
  repeat' split
  all_goals first
    | exact .ok _
    | exact .own hunsupported
    | exact .own hchoice
    | exact .foreign _ _

namespace OpenAI

theorem messages_raises (chat : Chat) :
    Raises (Exception.Among chatClasses) (messages chat) := by
  refine .bind (.mapM (fun m => ?_) _) fun _ => .pure _
  cases m with
  | system | tool | assistant => exact .ok _
  | user content metadata =>
    refine .bind ?_ fun _ => .pure _
    unfold userContent
    split
    · exact .ok _
    · exact .ok _
    · exact .foreign _ _

theorem payload_raises (d : Dialect) (model : Text) (chat : Chat) :
    Raises (Exception.Among chatClasses) (d.payload model chat) :=
  .bind (messages_raises chat) fun _ => .pure _

end OpenAI

namespace Anthropic

theorem turns_raises (history : List Message) :
    Raises (Exception.Among chatClasses) (turns history) := by
  refine .bind (.mapM (fun m => ?_) _) fun _ => .pure _
  cases m with
  | system | tool => exact .ok _
  | user content metadata =>
    refine .bind ?_ fun _ => .pure _
    unfold userContent
    split
    · exact .ok _
    · exact .ok _
    · exact .foreign _ _
  | assistant turn =>
    refine .bind (.bind (.mapM (fun call => ?_) _) fun _ => .pure _) fun _ => .pure _
    exact call.written_raises _

theorem joinTexts_raises (parts : List Value) :
    Raises (Exception.Among chatClasses) (joinTexts parts) := by
  refine .bind (.mapM (fun part => ?_) _) fun _ => .pure _
  dsimp only
  split
  · exact .pure _
  · exact .foreign _ _

theorem payload_raises (model : Text) (chat : Chat) :
    Raises (Exception.Among chatClasses) (payload model chat) := by
  refine .bind (turns_raises chat.history) fun turns => ?_
  dsimp only
  split
  · exact .pure _
  · exact .bind (joinTexts_raises _) fun _ => .pure _

end Anthropic

namespace Gemini

theorem itemsFrom_raises (history : List Message) (names : CallNames) :
    Raises (Exception.Among chatClasses) (itemsFrom names history) := by
  induction history generalizing names with
  | nil => exact .ok _
  | cons m history ih =>
    refine .bind ?_ fun item => .bind (ih _) fun _ => .pure _
    cases m with
    | system => exact .ok _
    | user content metadata =>
      cases content with
      | none => exact .foreign _ _
      | some content => exact .ok _
    | tool id content metadata identified =>
      have hserial : ErrorClass.serialization ∈ chatClasses := by decide
      dsimp only [itemOf]
      split
      · exact .ok _
      · exact .own hserial
    | assistant turn =>
      refine .bind (.mapM (fun call => ?_) _) fun _ => .pure _
      exact call.written_raises _

theorem payload_raises (chat : Chat) : Raises (Exception.Among chatClasses) (payload chat) := by
  refine .bind (.bind (itemsFrom_raises chat.history []) fun _ => .pure _) fun items => ?_
  exact .bind (Anthropic.joinTexts_raises _) fun _ => .pure _

theorem path_raises (model : Text) : Raises (Exception.Among chatClasses) (path model) := by
  refine .bind ?_ fun _ => .pure _
  unfold quoteModel
  split
  · exact .ok _
  · exact .foreign _ _

end Gemini

namespace Ollama

theorem imagesData_raises (content : Option Content) :
    Raises (Exception.Among chatClasses) (imagesData content) := by
  unfold imagesData
  split
  · refine .bind (.mapM (fun part => ?_) _) fun _ => .pure _
    cases part with
    | text t => exact .ok _
    | image url detail addressed =>
      refine .map ?_ _
      unfold imageData
      split
      · exact .ok _
      · exact .own (by decide)
  · exact .ok _

theorem message_raises (names : Gemini.CallNames) (m : Message) :
    Raises (Exception.Among chatClasses) (message names m) := by
  cases m with
  | system | tool => exact .pure _
  | user content metadata => exact .bind (imagesData_raises content) fun _ => .pure _
  | assistant turn =>
    unfold message
    dsimp only
    split
    · exact .pure _
    · refine .bind (.mapM (fun call => ?_) _) fun _ => .pure _
      exact call.written_raises _

theorem messagesFrom_raises (history : List Message) (names : Gemini.CallNames) :
    Raises (Exception.Among chatClasses) (messagesFrom names history) := by
  induction history generalizing names with
  | nil => exact .ok _
  | cons m history ih => exact .bind (message_raises names m) fun _ => .bind (ih _) fun _ => .pure _

theorem payload_raises (model : Text) (chat : Chat) :
    Raises (Exception.Among chatClasses) (payload model chat) :=
  .bind (messagesFrom_raises chat.history []) fun _ => .pure _

end Ollama

theorem Backend.payload_raises (b : Backend) (model : Text) (chat : Chat) :
    Raises (Exception.Among chatClasses) (b.payload model chat) := by
  unfold Backend.payload
  split
  · exact OpenAI.payload_raises _ _ _
  · exact OpenAI.payload_raises _ _ _
  · exact Anthropic.payload_raises _ _
  · exact Gemini.payload_raises _
  · exact Ollama.payload_raises _ _
  · exact .ok _

/-- Building a request fails as settling its address does, or on account of the chat. -/
theorem Backend.buildRequest_raises_of_endpoint {P : Exception → Prop} {b : Backend} {model : Value}
    (h : Raises P (b.endpoint model.inText)) (hchat : ∀ e, e.Among chatClasses → P e)
    (chat : Chat) : Raises P (b.buildRequest model chat) := by
  refine .bind h fun url => .bind ((checkChat_raises _ _ _).mono hchat) fun _ =>
    .bind ((b.payload_raises _ _).mono hchat) fun payload => .bind ?_ fun _ => .pure _
  exact (dumpPayload_raises payload).mono fun e he => hchat e he.chat

/-- Building a request raises errors of its classes alone. -/
theorem Backend.buildRequest_raises (b : Backend) (model : Value) (chat : Chat) :
    Raises (Exception.Among requestClasses) (b.buildRequest model chat) := by
  have hchat : ∀ e : Exception, e.Among chatClasses → e.Among requestClasses := by
    intro e he
    cases e with
    | own error => exact List.mem_cons_of_mem _ he
    | foreign cls text => trivial
  refine buildRequest_raises_of_endpoint ?_ hchat chat
  unfold Backend.endpoint
  split
  · exact resolveEndpoint_raises _ _
  · exact resolveEndpoint_raises _ _
  · exact resolveEndpoint_raises _ _
  · exact .bind ((Gemini.path_raises _).mono hchat) fun path => resolveEndpoint_raises _ _
  · exact resolveEndpoint_raises _ _
  · exact .ok _

/-! ## Responses -/

theorem expectObject_returns (what : Text) (v : Value) :
    Returns (fun fields => v = .object fields) ((expectObject what v).mapError .own) := by
  unfold expectObject
  split
  · exact .ok rfl
  · exact .error _

theorem expectList_returns (what : Text) (v : Value) :
    Returns (fun items => v = .list items) ((expectList what v).mapError .own) := by
  unfold expectList
  split
  · exact .ok rfl
  · exact .error _

theorem expectText_returns (what : Text) (v : Value) :
    Returns (fun t => v = .text t) ((expectText what v).mapError .own) := by
  unfold expectText
  split
  · exact .ok rfl
  · exact .error _

theorem iterate_fits {room : Nat} {v : Value} (h : Json.Fits room v) :
    Returns (fun items => ∀ item ∈ items, Json.Fits room item) v.iterate := by
  cases v with
  | list items => exact .ok h.item
  | text t =>
    refine .ok (List.forall_mem_map.2 fun c _ => ?_)
    exact .ofText room [c]
  | object fields =>
    refine .ok (List.forall_mem_map.2 fun field _ => ?_)
    exact .ofText room field.1
  | tuple | bytes => exact h.1.self.elim
  | null | bool | int | float | foreign => exact .error _

theorem Json.Fits.orElse {room : Nat} {v other : Value} (h : Fits room v)
    (hother : Fits room other) : Fits room (v.orElse other) := by
  rw [Value.orElse]
  split
  · exact h
  · exact hother

theorem Json.Fits.emptyObject : Fits depthLimit (.object []) :=
  .object (.nil 984)

theorem Json.Fits.emptyList : Fits depthLimit (.list []) :=
  show Fits (984 + 1) (.list []) from .list (List.forall_mem_nil _)

/-- What a document holds can be written again, but for surrogates: it is not too deep. -/
theorem dumpText_raises {v : Value} (h : Json.Fits Json.depthLimit v) :
    Raises Exception.Misfit (dumpText v) := by
  have hdump : Raises Exception.Misfit (dumpPayload v) := by
    intro e he
    have hshallow := mt dumpPayload_escapes_iff.1 h.not_overflows
    have hkind := dumpPayload_raises v e he
    cases e with
    | own e => exact hkind
    | foreign cls text =>
      rw [he] at hshallow
      exact absurd (escapes_foreign cls text) hshallow
  have hwrite : ∀ e, (Json.write false v).mapError Json.Refusal.reported = .error e →
      dumpPayload v = .error e := by
    intro e he
    cases hwritten : Json.write false v with
    | error refusal =>
      rw [hwritten] at he
      cases he
      rw [dumpPayload, Json.encode, hwritten]
      rfl
    | ok text =>
      rw [hwritten] at he
      cases he
  exact .bind (fun e he => hdump e (hwrite e he)) fun _ => .bind hdump fun _ => .pure _

theorem OpenAI.argumentsOf_raises {arguments : Value} (h : Json.Fits Json.depthLimit arguments) :
    Raises Exception.Misfit (argumentsOf arguments) := by
  unfold argumentsOf
  split
  · exact .ok _
  · exact dumpText_raises .emptyObject
  · exact dumpText_raises h

theorem OpenAI.callOf_raises (provider : Text) {raw : Value} (h : Json.Fits Json.depthLimit raw) :
    Raises Exception.Misfit (callOf provider raw) := by
  refine .bind_of_returns (expectObject_raises _ _) (expectObject_returns _ _) fun fields hraw =>
    .bind_of_returns (expectObject_raises _ _) (expectObject_returns _ _) fun function hfunction =>
    .bind (expectText_raises _ _) fun name => .bind ?_ fun arguments => ?_
  · rw [hraw] at h
    have hinner := h.ofField "function"
    rw [hfunction] at hinner
    exact argumentsOf_raises (hinner.ofField "arguments")
  · split
    · exact ToolCall.make?_raises _ _ _
    · exact .error (.of_serialization _)

theorem OpenAI.legacyCall?_raises (legacy : Value) :
    Raises Exception.Misfit (legacyCall? legacy) := by
  unfold legacyCall?
  split
  · exact .ite (.bind (ToolCall.make?_raises _ _ _) fun _ => .pure _) (.ok _)
  · exact .ok _

theorem OpenAI.contentOf_raises (provider : Text) (message : Fields) (calls : List ToolCall) :
    Raises Exception.Misfit (contentOf provider message calls) := by
  unfold contentOf
  dsimp only
  generalize (if (Value.ofField message "content").isNull && calls.isEmpty then
    Value.ofField message "refusal" else Value.ofField message "content") = content
  split
  · exact .ok _
  · exact .ite (.error (.of_serialization _)) (.ok _)
  · exact .error (.of_serialization _)

theorem OpenAI.assistantOf_raises (provider : Text) {payload : Fields}
    (h : Json.Fits Json.depthLimit (.object payload)) :
    Raises Exception.Misfit (assistantOf provider payload) := by
  refine .bind_of_returns (expectList_raises _ _) (expectList_returns _ _)
    fun choices hchoices => ?_
  split
  · exact .error (.of_serialization _)
  · rename_i first others
    refine .bind_of_returns (expectObject_raises _ _) (expectObject_returns _ _)
        fun choice hchoice =>
      .bind_of_returns (expectObject_raises _ _) (expectObject_returns _ _) fun message hmessage =>
      ?_
    have hlist := h.ofField "choices"
    rw [hchoices] at hlist
    have hfirst := hlist.item first List.mem_cons_self
    rw [hchoice] at hfirst
    have hinner := hfirst.ofField "message"
    rw [hmessage] at hinner
    refine .bind_of_returns (Value.iterate_raises _)
      (iterate_fits ((hinner.ofField "tool_calls").orElse .emptyList)) fun raws hraws => ?_
    refine .bind (.mapM_of_mem fun raw hraw => callOf_raises provider (hraws raw hraw))
      fun modern => ?_
    have hcalls : ∀ calls, Raises Exception.Misfit (do
        let content ← contentOf provider message calls
        let metadata := metadataOf
          [("id", Value.ofField payload "id"), ("model", Value.ofField payload "model"),
            ("finish_reason", Value.ofField choice "finish_reason"),
            ("usage", Value.ofField payload "usage")]
        if h : content.isSome ∨ calls ≠ [] then
          (return ⟨content, calls, metadata, h⟩ : Except Exception AssistantMessage)
        else throw (.value "assistant message needs content, tool_calls, or both")) := fun calls =>
      .bind (contentOf_raises _ _ _) fun _ =>
        .dite (fun _ => .pure _) fun _ => .error (.of_value _)
    exact .ite (.bind (legacyCall?_raises _) hcalls) (.bind (.pure modern) hcalls)

theorem Anthropic.pieceOf_raises {block : Value} (h : Json.Fits Json.depthLimit block) :
    Raises Exception.Misfit (pieceOf block) := by
  refine .bind_of_returns (expectObject_raises _ _) (expectObject_returns _ _)
    fun fields hblock => ?_
  rw [hblock] at h
  dsimp only
  split
  · exact .bind (expectText_raises _ _) fun _ => .pure _
  · split
    · exact .bind (expectText_raises _ _) fun id => .bind (expectText_raises _ _) fun name =>
        .bind (dumpText_raises ((h.ofField "input").orElse .emptyObject)) fun arguments =>
        .bind (ToolCall.make?_raises _ _ _) fun _ => .pure _
    · exact .pure _

theorem Anthropic.assistantOf_raises {payload : Fields}
    (h : Json.Fits Json.depthLimit (.object payload)) :
    Raises Exception.Misfit (assistantOf payload) := by
  refine .bind_of_returns (expectList_raises _ _) (expectList_returns _ _) fun blocks hblocks => ?_
  have hlist := h.ofField "content"
  rw [hblocks] at hlist
  exact .bind (.mapM_of_mem fun block hblock => pieceOf_raises (hlist.item block hblock)) fun _ =>
    .dite (fun _ => .pure _) fun _ => .error (.of_serialization _)

theorem Gemini.callOf?_raises (position : Nat) {part : Fields}
    (h : Json.Fits Json.depthLimit (.object part)) :
    Raises Exception.Misfit (callOf? position part) := by
  have hinner := h.ofField "functionCall"
  unfold callOf?
  split
  · rename_i call hcall
    rw [hcall] at hinner
    exact .bind (expectText_raises _ _) fun name =>
      .bind (dumpText_raises ((hinner.ofField "args").orElse .emptyObject)) fun arguments =>
      .bind (ToolCall.make?_raises _ _ _) fun _ => .pure _
  · exact .ok _

theorem Gemini.readParts_raises {parts : List Value}
    (h : ∀ part ∈ parts, Json.Fits Json.depthLimit part) (count : Nat) :
    Raises Exception.Misfit (readParts count parts) := by
  induction parts generalizing count with
  | nil => exact .ok _
  | cons part parts ih =>
    rw [List.forall_mem_cons] at h
    refine .bind_of_returns (expectObject_raises _ _) (expectObject_returns _ _)
      fun fields hpart => ?_
    have hfirst := h.1
    rw [hpart] at hfirst
    exact .bind (callOf?_raises _ hfirst) fun call => .bind (ih h.2 _) fun _ => .pure _

theorem Gemini.assistantOf_raises {payload : Fields}
    (h : Json.Fits Json.depthLimit (.object payload)) :
    Raises Exception.Misfit (assistantOf payload) := by
  refine .bind_of_returns (expectList_raises _ _) (expectList_returns _ _)
    fun candidates hcandidates => ?_
  split
  · exact .error (.of_serialization _)
  · rename_i first others
    refine .bind_of_returns (expectObject_raises _ _) (expectObject_returns _ _)
        fun candidate hcandidate =>
      .bind_of_returns (expectObject_raises _ _) (expectObject_returns _ _) fun content hcontent =>
      .bind_of_returns (expectList_raises _ _) (expectList_returns _ _) fun parts hparts => ?_
    have hlist := h.ofField "candidates"
    rw [hcandidates] at hlist
    have hfirst := hlist.item first List.mem_cons_self
    rw [hcandidate] at hfirst
    have hinner := (hfirst.ofField "content").orElse .emptyObject
    rw [hcontent] at hinner
    have hitems := (hinner.ofField "parts").orElse .emptyList
    rw [hparts] at hitems
    refine .bind (readParts_raises hitems.item 0) fun read => ?_
    exact .dite (fun _ => .pure _) fun _ => .error (.of_serialization _)

theorem Ollama.argumentsOf_raises {arguments : Value} (h : Json.Fits Json.depthLimit arguments) :
    Raises Exception.Misfit (argumentsOf arguments) := by
  unfold argumentsOf
  split
  · exact .ok _
  · exact dumpText_raises (h.orElse .emptyObject)

theorem Ollama.callOf_raises (position : Nat) {raw : Value}
    (h : Json.Fits Json.depthLimit raw) : Raises Exception.Misfit (callOf position raw) := by
  refine .bind_of_returns (expectObject_raises _ _) (expectObject_returns _ _) fun fields hraw =>
    .bind_of_returns (expectObject_raises _ _) (expectObject_returns _ _) fun function hfunction =>
    .bind (expectText_raises _ _) fun name => .bind ?_ fun arguments => ToolCall.make?_raises _ _ _
  rw [hraw] at h
  have hinner := h.ofField "function"
  rw [hfunction] at hinner
  exact argumentsOf_raises (hinner.ofField "arguments")

theorem Ollama.readCalls_raises {raws : List Value}
    (h : ∀ raw ∈ raws, Json.Fits Json.depthLimit raw) (count : Nat) :
    Raises Exception.Misfit (readCalls count raws) := by
  induction raws generalizing count with
  | nil => exact .ok _
  | cons raw raws ih =>
    rw [List.forall_mem_cons] at h
    exact .bind (callOf_raises _ h.1) fun call => .bind (ih h.2 _) fun _ => .pure _

theorem Ollama.assistantOf_raises {payload : Fields}
    (h : Json.Fits Json.depthLimit (.object payload)) :
    Raises Exception.Misfit (assistantOf payload) := by
  refine .bind_of_returns (expectObject_raises _ _) (expectObject_returns _ _)
    fun message hmessage => ?_
  have hinner := h.ofField "message"
  rw [hmessage] at hinner
  refine .bind_of_returns (Value.iterate_raises _)
    (iterate_fits ((hinner.ofField "tool_calls").orElse .emptyList)) fun raws hraws =>
    .bind (readCalls_raises hraws 0) fun calls => .bind ?_ fun content => ?_
  · unfold contentOf
    repeat' split
    all_goals first | exact .ok _ | exact .error (.of_serialization _)
  · exact .dite (fun _ => .pure _) fun _ => .error (.of_value _)

namespace Canonical

/-- An exception while a message is read in the canonical format: a misfit, or a part that is
missing. -/
abbrev Unread : Exception → Prop :=
  Exception.Within [.serialization] [.type, .value, .key, .missingAttribute]

theorem Unread.of_misfit {e : Exception} (h : e.Misfit) : Unread e :=
  h.mono (List.Subset.refl _) (by decide)

theorem entry_raises (v : Value) (name : Text) : Raises Unread (v.entry name) := by
  have hkey : ∀ text, Unread (.foreign .key text) := fun _ =>
    show ForeignClass.key ∈ [ForeignClass.type, .value, .key, .missingAttribute] by decide
  unfold Value.entry
  repeat' split
  all_goals first | exact .ok _ | exact .error (hkey _) | exact .error (.of_misfit (.of_type _))

theorem lookup_raises (v : Value) (name : Text) (fallback : Value) :
    Raises Unread (v.lookup name fallback) := by
  have hmissing : ∀ text, Unread (.foreign .missingAttribute text) := fun _ =>
    show ForeignClass.missingAttribute ∈ [ForeignClass.type, .value, .key, .missingAttribute] by
      decide
  unfold Value.lookup
  split
  · exact .ok _
  · exact .error (hmissing _)

theorem readCall_raises (raw : Value) : Raises Unread (readCall raw) :=
  .bind (entry_raises _ _) fun _ => .bind (entry_raises _ _) fun _ =>
    .bind (lookup_raises _ _ _) fun _ => (ToolCall.make?_raises _ _ _).mono fun _ => .of_misfit

theorem readPart_raises (raw : Value) : Raises Unread (readPart raw) := by
  refine .bind (lookup_raises _ _ _) fun kind => .ite ?_ ?_
  · refine .bind (entry_raises _ _) fun text => ?_
    unfold Part.ofText?
    split
    · exact .ok _
    · exact .error (.of_misfit (.of_type _))
  · refine .bind (entry_raises _ _) fun url => ?_
    unfold Part.ofImage?
    dsimp only
    split
    · exact .dite (fun _ => .ok _) fun _ => .error (.of_misfit (.of_value _))
    · exact .error (.of_misfit (.of_value _))

theorem readContent_raises (content : Value) : Raises Unread (readContent content) := by
  unfold readContent
  split
  · exact .ok _
  · exact .ok _
  · exact .bind ((Value.iterate_raises _).mono fun _ => .of_misfit) fun items =>
      .bind (.mapM readPart_raises _) fun _ => .pure _

theorem readAssistant_raises (payload : Fields) : Raises Unread (readAssistant payload) :=
  .bind ((Value.iterate_raises _).mono fun _ => .of_misfit) fun _ =>
    .bind (.mapM readCall_raises _) fun _ => .bind (readContent_raises _) fun _ =>
    .dite (fun _ => .pure _) fun _ => .error (.of_misfit (.of_value _))

/-- Every exception that reading can raise counts as a malformed response. -/
theorem Unread.invalid {e : Exception} (h : Unread e) :
    (invalid e).Within [.serialization] [] := by
  cases e with
  | own e => exact h
  | foreign cls text =>
    have hcaught : ∀ c ∈ [ForeignClass.type, .value, .key, .missingAttribute],
        (c.isA .key || c.isA .missingAttribute || c.isA .type || c.isA .value) = true := by decide
    rw [Canonical.invalid, if_pos (hcaught cls h)]
    exact List.mem_cons_self

theorem assistantOf_raises (payload : Fields) :
    Raises (Exception.Within [.serialization] []) (assistantOf payload) :=
  .ite (.mapError (readAssistant_raises payload) fun _ => Unread.invalid)
    (.error List.mem_cons_self)

end Canonical

/-- A misfit counts as a malformed response. -/
theorem Exception.Misfit.asMalformed {e : Exception} (h : e.Misfit) (provider : Text) :
    (e.asMalformed provider).Within [.serialization] [] := by
  cases e with
  | own e => exact h
  | foreign cls text =>
    have hcaught : ∀ c ∈ [ForeignClass.type, .value], (c.isA .type || c.isA .value) = true := by
      decide
    rw [Exception.asMalformed, if_pos (hcaught cls h)]
    exact List.mem_cons_self

/-- What a payload describes, or an error of serialization. -/
theorem Backend.assistantOf_raises (p : Provider) {payload : Fields}
    (h : Json.Fits Json.depthLimit (.object payload)) :
    Raises (Exception.Within [.serialization] [])
      ((assistantOf p payload).mapError (.asMalformed p.name)) := by
  refine .mapError (P := Exception.Misfit) ?_ fun _ h => h.asMalformed _
  cases p with
  | openai => exact OpenAI.assistantOf_raises _ h
  | mistral => exact OpenAI.assistantOf_raises _ h
  | anthropic => exact Anthropic.assistantOf_raises h
  | gemini => exact Gemini.assistantOf_raises h
  | ollama => exact Ollama.assistantOf_raises h
  | mock =>
    exact (Canonical.assistantOf_raises _).mono fun _ h =>
      h.mono (List.Subset.refl _) (List.nil_subset _)

/-- An error payload that came with success stands for a backend that is unavailable. -/
theorem errorOfPayload?_cls {payload : Value} {provider : Text} {e : Error}
    (h : errorOfPayload? payload provider = some e) : e.cls = .unavailable := by
  unfold errorOfPayload? at h
  split at h
  · split at h
    · cases h
      rfl
    · cases h
  · cases h

/-- Reading the body of a response raises errors of its classes alone.  Another exception comes of
nothing but a document that is too deep. -/
theorem Backend.parseResponse_raises (p : Provider) (body : Bytes) :
    Raises (fun e => e.Within bodyClasses [] ∨
      loadDocument body = .error e ∧ e.Within [.serialization] [.recursion])
      (parseResponse p body) := by
  have hbody : ∀ {e : Exception}, e.Within [.serialization] [] → e.Within bodyClasses [] :=
    fun h => h.mono (by decide) (List.Subset.refl _)
  unfold parseResponse
  cases hload : loadDocument body with
  | error e =>
    refine .error (.inr ⟨rfl, ?_⟩)
    exact Raises.ofErrors _ (fun fault _ => DocumentFault.reported_within _ fault) e hload
  | ok document =>
    dsimp only [bind, Except.bind]
    split
    · rename_i e hreported
      refine .error (.inl ?_)
      split at hreported
      · show e.cls ∈ bodyClasses
        rw [errorOfPayload?_cls hreported]
        decide
      · cases hreported
    · cases document with
      | object payload =>
        have hfits := Json.decode_fits (mapError_eq_ok_iff.1 hload)
        exact (assistantOf_raises p hfits).mono fun _ h => .inl (hbody h)
      | _ => exact .error (.inl (hbody List.mem_cons_self))

theorem classify_mem (status : Int) (detail provider : Text) :
    (classify status detail provider).1 ∈ statusClasses := by
  unfold classify
  repeat' split
  all_goals
    dsimp only
    decide

/-- The error for a response without success is of a class for that. -/
theorem errorOfResponse_cls {response : Wire.Response} {provider : Text} {e : Error}
    (h : errorOfResponse response provider = .ok e) : e.cls ∈ statusClasses := by
  unfold errorOfResponse at h
  cases hpayload : response.payload with
  | error e' =>
    rw [hpayload] at h
    cases h
  | ok payload =>
    rw [hpayload] at h
    cases h
    exact classify_mem _ _ _

/-- Making the error for a response raises no error of the library. -/
theorem errorOfResponse_raises (response : Wire.Response) (provider : Text) :
    Raises (Exception.Among []) (errorOfResponse response provider) := by
  refine .bind ?_ fun payload => .pure _
  unfold Wire.Response.payload
  split
  · exact .ok _
  · exact .ite (.foreign _ _) (.ok _)

end Colloquy
