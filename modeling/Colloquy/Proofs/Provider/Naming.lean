import Colloquy.Proofs.Chat.Arguments
import Colloquy.Proofs.Provider.Alternation
import Colloquy.Proofs.Provider.Escape
import Mathlib.Data.List.Nodup

/-!
# Results under the names of their calls

Gemini and Ollama send no identifiers.  A result is sent under the name of its call, which
is looked up in the calls of the messages before it.  Identifiers come back from turn to
turn, and of the calls with one identifier the last one counts (`lastCall?`).

A walk over a history writes each message with what is known from the messages before
it.  `EachAfter` says of one entry for each message what the entry has to do with the
message and with those before it, and `IsTraversal.eachAfter` takes a walk apart in this
way.  What is known from the messages before is a table of names, and `get?_names` reads
it as `lastCall?`.

The main statement is `Backend.named_results`: which histories are written for Gemini, and
what the contents are then; and the same rule for the names in the messages of Ollama.
-/

namespace Colloquy

/-! ## Walks -/

/-- One entry for each item of a list, in a relation to the items before it and to the item. -/
structure EachAfter {α β : Type} (R : List α → α → β → Prop) (items : List α) (entries : List β) :
    Prop where
  length : entries.length = items.length
  entry {front back : List α} {x : α} (hitems : items = front ++ x :: back) :
    ∃ y, entries[front.length]? = some y ∧ R front x y

namespace EachAfter

variable {α β : Type} {R S : List α → α → β → Prop} {items : List α} {entries : List β}

theorem nil : EachAfter R [] [] where
  length := rfl
  entry hitems := absurd hitems.symm (List.append_ne_nil_of_right_ne_nil _ (List.cons_ne_nil _ _))

theorem cons {x : α} {y : β} (hfirst : R [] x y)
    (h : EachAfter (fun front => R (x :: front)) items entries) :
    EachAfter R (x :: items) (y :: entries) := by
  refine ⟨congrArg (· + 1) h.length, ?_⟩
  intro front back z hitems
  rcases List.cons_eq_append_iff.1 hitems with ⟨rfl, hfront⟩ | ⟨front, rfl, hrest⟩
  · obtain ⟨rfl, -⟩ := List.cons.inj hfront
    exact ⟨y, rfl, hfirst⟩
  · exact h.entry hrest

theorem imp (h : EachAfter R items entries) (himp : ∀ front x y, R front x y → S front x y) :
    EachAfter S items entries := by
  refine ⟨h.length, fun hitems => ?_⟩
  obtain ⟨y, hy, hr⟩ := h.entry hitems
  exact ⟨y, hy, himp _ _ _ hr⟩

theorem map {γ : Type} {T : List α → α → γ → Prop} {f : β → γ} (h : EachAfter R items entries)
    (himp : ∀ front x y, R front x y → T front x (f y)) : EachAfter T items (entries.map f) := by
  refine ⟨(List.length_map f).trans h.length, fun hitems => ?_⟩
  obtain ⟨y, hy, hr⟩ := h.entry hitems
  refine ⟨f y, ?_, himp _ _ _ hr⟩
  rw [List.getElem?_map, hy]
  rfl

/-- Relations that do not look at the items before. -/
theorem forall₂ {T : α → β → Prop} (h : EachAfter R items entries)
    (himp : ∀ front x y, R front x y → T x y) : List.Forall₂ T items entries := by
  rw [List.forall₂_iff_get]
  refine ⟨h.length.symm, fun i hi hentry => ?_⟩
  have hitems : items = items.take i ++ items[i] :: items.drop (i + 1) := by
    rw [List.getElem_cons_drop, List.take_append_drop]
  obtain ⟨y, hy, hr⟩ := h.entry hitems
  have hlength : (items.take i).length = i := List.length_take_of_le (Nat.le_of_lt hi)
  rw [hlength, List.getElem?_eq_getElem hentry] at hy
  cases hy
  exact himp _ _ _ hr

end EachAfter

namespace IsTraversal

variable {σ α β γ : Type} {run : σ → List α → Except Exception β}
  {step : σ → α → Except Exception γ} {next : σ → α → σ} {join : γ → β → β}

/-- A traversal gives something when each step does so, with what is known from the items before. -/
theorem exists_ok_iff (h : IsTraversal run step next join) {s : σ} {xs : List α} :
    (∃ y, run s xs = .ok y) ↔
      ∀ front x back, xs = front ++ x :: back → ∃ z, step (front.foldl next s) x = .ok z := by
  induction xs generalizing s with
  | nil =>
    refine iff_of_true (h.nil s) fun front x back hxs => ?_
    exact absurd hxs.symm (List.append_ne_nil_of_right_ne_nil front (List.cons_ne_nil x back))
  | cons first xs ih =>
    rw [h.ok_cons_iff, ih]
    constructor
    · rintro ⟨hfirst, hothers⟩ front x back hxs
      rcases List.cons_eq_append_iff.1 hxs with ⟨rfl, hfront⟩ | ⟨front, rfl, hrest⟩
      · obtain ⟨rfl, -⟩ := List.cons.inj hfront
        exact hfirst
      · exact hothers front x back hrest
    · intro hall
      exact ⟨hall [] first xs rfl, fun front x back hxs =>
        hall (first :: front) x back (congrArg (first :: ·) hxs)⟩

/-- What a traversal gives is joined from the steps. -/
theorem eachAfter (h : IsTraversal run step next join) {e : β} (hnil : ∀ s, run s [] = .ok e)
    {s : σ} {xs : List α} {y : β} (hrun : run s xs = .ok y) : ∃ zs,
    EachAfter (fun front x z => step (front.foldl next s) x = .ok z) xs zs ∧
      y = zs.foldr join e := by
  induction xs generalizing s y with
  | nil =>
    rw [hnil] at hrun
    cases hrun
    exact ⟨[], .nil, rfl⟩
  | cons x xs ih =>
    rw [h.cons] at hrun
    obtain ⟨z, hz, hrun⟩ := bind_eq_ok_iff.1 hrun
    obtain ⟨rest, hrest, hrun⟩ := bind_eq_ok_iff.1 hrun
    cases hrun
    obtain ⟨zs, hzs, rfl⟩ := ih hrest
    exact ⟨z :: zs, .cons hz hzs, rfl⟩

end IsTraversal

/-! ## Last calls -/

theorem get?_set {α : Type} (entries : Assoc α) (key name : Text) (thing : α) :
    Assoc.get? (Assoc.set entries key thing) name
      = if key = name then some thing else Assoc.get? entries name := by
  induction entries with
  | nil => by_cases h : key = name <;> simp [Assoc.set, Assoc.get?, h]
  | cons entry entries ih =>
    rw [Assoc.set]
    split
    · rename_i hkey
      by_cases h : key = name
      · simp [Assoc.get?, h]
      · simp [Assoc.get?, hkey, h]
    · rename_i hkey
      by_cases h : entry.1 = name
      · have hname : ¬key = name := fun heq => hkey (h.trans heq.symm)
        simp [Assoc.get?, h, hname]
      · simp only [Assoc.get?, List.find?_cons, decide_eq_false h] at ih ⊢
        exact ih

/-- The last call of an identifier in a history. -/
def lastCall? (id : Text) (history : List Message) : Option ToolCall :=
  ((history.flatMap Message.calls).filter fun call => call.id = id).getLast?

namespace Gemini

/-- The last of some calls gives the name of its identifier, and else the name is the one before. -/
theorem get?_add (names : CallNames) (calls : List ToolCall) (id : Text) :
    Assoc.get? (names.add calls) id
      = ((calls.filter fun call => call.id = id).getLast?.map ToolCall.name).or
        (Assoc.get? names id) := by
  induction calls generalizing names with
  | nil => rfl
  | cons call calls ih =>
    have hadd : names.add (call :: calls)
        = CallNames.add (Assoc.set names call.id call.name) calls := rfl
    rw [hadd, ih, get?_set, List.filter_cons]
    by_cases hid : call.id = id
    · rw [if_pos hid, if_pos (decide_eq_true hid), List.getLast?_cons]
      cases (calls.filter fun call => call.id = id).getLast? with
      | none => rfl
      | some last => rfl
    · rw [if_neg hid, if_neg (by simpa using hid)]

/-- The names that are known behind some messages. -/
def namesAfter (earlier : List Message) : CallNames :=
  earlier.foldl (fun names m => names.add m.calls) []

/-- A result is sent under the name of the last call of its identifier. -/
theorem get?_namesAfter (earlier : List Message) (id : Text) :
    Assoc.get? (namesAfter earlier) id = (lastCall? id earlier).map ToolCall.name := by
  have hadd : namesAfter earlier = CallNames.add [] (earlier.flatMap Message.calls) := by
    rw [namesAfter, CallNames.add, List.foldl_flatMap]
    rfl
  rw [hadd, get?_add]
  exact Option.or_none

end Gemini

theorem isSome_lastCall?_iff {id : Text} {history : List Message} :
    (lastCall? id history).isSome = true ↔
      ∃ turn, Message.assistant turn ∈ history ∧ ∃ call ∈ turn.calls, call.id = id := by
  rw [lastCall?, Option.isSome_iff_ne_none, Ne, List.getLast?_eq_none_iff]
  constructor
  · intro hne
    obtain ⟨call, hcall⟩ := List.exists_mem_of_ne_nil _ hne
    obtain ⟨hmem, hid⟩ := List.mem_filter.1 hcall
    obtain ⟨m, hm, hcalls⟩ := List.mem_flatMap.1 hmem
    cases m with
    | assistant turn => exact ⟨turn, hm, call, hcalls, of_decide_eq_true hid⟩
    | _ => cases hcalls
  · rintro ⟨turn, hturn, call, hcall, hid⟩
    have hmem : call ∈ history.flatMap Message.calls := List.mem_flatMap.2 ⟨_, hturn, hcall⟩
    exact List.ne_nil_of_mem (List.mem_filter.2 ⟨hmem, decide_eq_true hid⟩)

/-- A turn makes a call, its calls have different identifiers, and behind it there are only results
so far. -/
def ToolCall.Awaits (call : ToolCall) (earlier : List Message) : Prop :=
  ∃ front turn results, earlier = front ++ .assistant turn :: results ∧ call ∈ turn.calls ∧
    (turn.calls.map ToolCall.id).Nodup ∧ ∀ m ∈ results, m.role = .tool

/-- The last call of its identifier is the one that awaits its result, whatever calls there were
before. -/
theorem ToolCall.Awaits.lastCall?_eq {call : ToolCall} {earlier : List Message}
    (h : call.Awaits earlier) : lastCall? call.id earlier = some call := by
  obtain ⟨front, turn, results, rfl, hcall, hdistinct, hresults⟩ := h
  have hnone : results.flatMap Message.calls = [] := by
    refine List.flatMap_eq_nil_iff.2 fun m hm => ?_
    have hrole := hresults m hm
    cases m with
    | tool => rfl
    | _ => cases hrole
  have hcalls : (front ++ .assistant turn :: results).flatMap Message.calls
      = front.flatMap Message.calls ++ turn.calls := by
    rw [List.flatMap_append, List.flatMap_cons, hnone, List.append_nil]
    rfl
  rw [lastCall?, hcalls, List.filter_append, List.getLast?_append]
  have hmem : call ∈ turn.calls.filter fun other => other.id = call.id :=
    List.mem_filter.2 ⟨hcall, decide_eq_true rfl⟩
  cases hlast : (turn.calls.filter fun other => other.id = call.id).getLast? with
  | none =>
    rw [List.getLast?_eq_none_iff.1 hlast] at hmem
    cases hmem
  | some last =>
    obtain ⟨hin, hid⟩ := List.mem_filter.1 (List.mem_of_getLast? hlast)
    rw [List.inj_on_of_nodup_map hdistinct hin hcall (of_decide_eq_true hid)]
    rfl

/-! ## Arguments -/

/-- The arguments of a call are blank, or a document that is an object. -/
def ToolCall.HoldsObject (call : ToolCall) : Prop :=
  Text.strip call.arguments = [] ∨
    ∃ fields, Json.read (Text.strip call.arguments) = .ok (.object fields)

theorem ToolCall.readable_iff_holdsObject (call : ToolCall) :
    call.Readable ↔ call.HoldsObject := by
  simp only [Readable, HoldsObject, argumentFields_eq_ok_iff, argumentText]
  cases Text.strip call.arguments with
  | nil => exact iff_of_true ⟨[], rfl⟩ (.inl rfl)
  | cons c text => exact (or_iff_right (List.cons_ne_nil c text)).symm

/-- Calls that are written with their arguments as objects are all written when all arguments hold
objects. -/
theorem ToolCall.exists_mapM_iff (write : ToolCall → Fields → Value) (calls : List ToolCall) :
    (∃ values, calls.mapM (fun call => do return write call (← call.argumentFields))
        = Except.ok (ε := Exception) values) ↔ ∀ call ∈ calls, call.HoldsObject := by
  rw [exists_mapM_eq_ok_iff]
  refine forall₂_congr fun call _ => ?_
  rw [← call.readable_iff_holdsObject]
  exact exists_bind_eq_ok_iff_left fun _ => ⟨_, rfl⟩

/-- A tool message has the identifier of a call that an earlier turn makes. -/
def Message.HasCall (earlier : List Message) : Message → Prop
  | .tool id _ _ _ => ∃ turn, Message.assistant turn ∈ earlier ∧ ∃ call ∈ turn.calls, call.id = id
  | _ => True

namespace Gemini

/-! ## Contents -/

/-- The part of a call with its arguments. -/
def CallsAs (call : ToolCall) (part : Value) : Prop :=
  ∃ args, call.argumentFields = .ok args ∧
    part = .object [("functionCall", .object [("name", .text call.name), ("args", .object args)])]

/-- The part of a part of content: a text, the data of an image that stands in its address, or the
address of an image. -/
inductive PartAs : Part → Value → Prop
  | text (t : Text) : PartAs (.text t) (.object [("text", .text t)])
  | inline {url : Text} {image : InlineImage} (detail : Value) (addressed : url ≠ [])
      (hspelled : image.SpelledBy url) :
      PartAs (.image url detail addressed) (.object [("inlineData",
        .object [("mimeType", .text image.mediaType), ("data", .text image.data)])])
  | linked {url : Text} (detail : Value) (addressed : url ≠ [])
      (hspelled : ∀ image : InlineImage, ¬image.SpelledBy url) :
      PartAs (.image url detail addressed) (.object [("fileData",
        .object [("mimeType", .ofString "image/jpeg"), ("fileUri", .text url)])])

theorem partAs_iff {p : Part} {v : Value} : PartAs p v ↔ v = part p := by
  constructor
  · rintro (t | ⟨detail, addressed, hspelled⟩ | ⟨detail, addressed, hspelled⟩)
    · rfl
    · rw [part, InlineImage.ofUrl?_eq_some_iff.2 hspelled]
    · rw [part, InlineImage.ofUrl?_eq_none_iff.2 hspelled]
  · rintro rfl
    cases p with
    | text t => exact .text t
    | image url detail addressed =>
      rw [part]
      cases himage : InlineImage.ofUrl? url with
      | some image => exact .inline detail addressed (InlineImage.ofUrl?_eq_some_iff.1 himage)
      | none => exact .linked detail addressed (InlineImage.ofUrl?_eq_none_iff.1 himage)

/-- The parts of content: of a text one part, of parts one part each. -/
inductive ContentAs : Content → List Value → Prop
  | text (t : Text) : ContentAs (.text t) [.object [("text", .text t)]]
  | parts {items : List Part} {values : List Value} (hparts : List.Forall₂ PartAs items values) :
      ContentAs (.parts items) values

theorem contentAs_iff {content : Content} {values : List Value} :
    ContentAs content values ↔ values = parts content := by
  have hparts : PartAs = fun p v => v = part p := funext₂ fun _ _ => propext partAs_iff
  constructor
  · rintro (t | hitems)
    · rfl
    · rw [hparts, forall₂_eq_map_iff] at hitems
      exact hitems
  · rintro rfl
    cases content with
    | text t => exact .text t
    | parts items =>
      refine .parts ?_
      rw [hparts, forall₂_eq_map_iff]
      rfl

/-- The parts of a message behind earlier ones, and the role that says them. -/
inductive Says (earlier : List Message) : Message → List Said → Prop
  | system (content : Option Content) (metadata : Fields) :
      Says earlier (.system content metadata) []
  | user {content : Content} {own : List Value} (metadata : Fields)
      (hcontent : ContentAs content own) :
      Says earlier (.user (some content) metadata) (own.map (Said.mk (.ofString "user")))
  | silent {m : AssistantMessage} {calls : List Value} (hnone : m.content = none)
      (hcalls : List.Forall₂ CallsAs m.calls calls) :
      Says earlier (.assistant m) (calls.map (Said.mk (.ofString "model")))
  | spoken {m : AssistantMessage} {content : Content} {own calls : List Value}
      (hsome : m.content = some content) (hcontent : ContentAs content own)
      (hcalls : List.Forall₂ CallsAs m.calls calls) :
      Says earlier (.assistant m) ((own ++ calls).map (Said.mk (.ofString "model")))
  | tool {call : ToolCall} {id : Text} (content : Option Content) (metadata : Fields)
      (identified : id ≠ []) (hcall : lastCall? id earlier = some call) :
      Says earlier (.tool id content metadata identified)
        [⟨.ofString "user", .object [("functionResponse", .object [("name", .text call.name),
          ("response", .object [("content", .text (Content.plainText content))])])]⟩]

/-- What the contents of a message say, nothing when there are none. -/
def itemSaid (item : Option Item) : List Said :=
  item.elim [] Item.said

theorem callPart_returns (call : ToolCall) : Returns (CallsAs call) (callPart call) := by
  intro part h
  obtain ⟨args, hargs, h⟩ := bind_eq_ok_iff.1 h
  cases h
  exact ⟨args, hargs, rfl⟩

theorem itemOf_says {earlier : List Message} {m : Message} {item : Option Item}
    (h : itemOf (namesAfter earlier) m = .ok item) : Says earlier m (itemSaid item) := by
  cases m with
  | system content metadata =>
    cases h
    exact .system content metadata
  | user content metadata =>
    cases content with
    | none => cases h
    | some content =>
      cases h
      exact .user metadata (contentAs_iff.2 rfl)
  | tool id content metadata identified =>
    rw [itemOf, get?_namesAfter] at h
    cases hcall : lastCall? id earlier with
    | none =>
      rw [hcall] at h
      cases h
    | some call =>
      rw [hcall] at h
      cases h
      exact .tool content metadata identified hcall
  | assistant m =>
    obtain ⟨calls, hcalls, h⟩ := bind_eq_ok_iff.1 h
    cases h
    have hcalled := Returns.mapM (R := CallsAs) callPart_returns m.calls calls hcalls
    cases hcontent : m.content with
    | none => exact .silent hcontent hcalled
    | some content => exact .spoken hcontent (contentAs_iff.2 rfl) hcalled

/-- Behind earlier messages a message is written unless it is one of the user without content, a
result without a call, or has arguments that hold no object. -/
theorem exists_itemOf_iff {earlier : List Message} {m : Message} :
    (∃ item, itemOf (namesAfter earlier) m = .ok item) ↔
      (∀ metadata, m ≠ .user none metadata) ∧ m.HasCall earlier ∧
        ∀ call ∈ m.calls, call.HoldsObject := by
  cases m with
  | system content metadata =>
    exact iff_of_true ⟨_, rfl⟩ ⟨fun _ => Message.noConfusion, trivial, List.forall_mem_nil _⟩
  | user content metadata =>
    cases content with
    | none =>
      refine iff_of_false ?_ fun h => h.1 metadata rfl
      rintro ⟨item, h⟩
      cases h
    | some content =>
      refine iff_of_true ⟨_, rfl⟩ ⟨?_, trivial, List.forall_mem_nil _⟩
      intro other h
      cases h
  | tool id content metadata identified =>
    have hcall : (∃ item, itemOf (namesAfter earlier) (.tool id content metadata identified)
        = .ok item) ↔ (lastCall? id earlier).isSome = true := by
      rw [itemOf, get?_namesAfter]
      cases lastCall? id earlier with
      | none => simp
      | some call => simp
    rw [hcall, isSome_lastCall?_iff]
    constructor
    · intro h
      exact ⟨fun _ => Message.noConfusion, h, List.forall_mem_nil _⟩
    · exact fun h => h.2.1
  | assistant m =>
    have hcalls : (∃ item, itemOf (namesAfter earlier) (.assistant m) = .ok item) ↔
        ∀ call ∈ m.calls, call.HoldsObject := by
      rw [← ToolCall.exists_mapM_iff (fun call args => .object [("functionCall",
        .object [("name", .text call.name), ("args", .object args)])])]
      exact exists_bind_eq_ok_iff_left fun _ => ⟨_, rfl⟩
    rw [hcalls]
    constructor
    · intro h
      exact ⟨fun _ => Message.noConfusion, trivial, h⟩
    · exact fun h => h.2.2

theorem exists_items_iff {history : List Message} :
    (∃ merged, items history = .ok merged) ↔
      (∀ metadata, Message.user none metadata ∉ history) ∧
      (∀ front m back, history = front ++ m :: back → m.HasCall front) ∧
      ∀ m ∈ history, ∀ call ∈ m.calls, call.HoldsObject := by
  have hwalk : (∃ merged, items history = .ok merged) ↔
      ∀ front m back, history = front ++ m :: back →
        ∃ item, itemOf (namesAfter front) m = .ok item :=
    (exists_bind_eq_ok_iff_left fun _ => ⟨_, rfl⟩).trans itemsFrom_isTraversal.exists_ok_iff
  simp only [hwalk, exists_itemOf_iff]
  constructor
  · intro h
    refine ⟨fun metadata hmem => ?_, fun front m back hm => (h front m back hm).2.1,
      fun m hmem => ?_⟩
    · obtain ⟨front, back, hm⟩ := List.append_of_mem hmem
      exact (h front _ back hm).1 metadata rfl
    · obtain ⟨front, back, hm⟩ := List.append_of_mem hmem
      exact (h front m back hm).2.2
  · rintro ⟨hcontents, hcalled, hobjects⟩ front m back rfl
    have hmem : m ∈ front ++ m :: back := List.mem_append_cons_self
    refine ⟨?_, hcalled front m back rfl, hobjects m hmem⟩
    rintro metadata rfl
    exact hcontents metadata hmem

theorem items_eq_ok {history : List Message} {merged : List Item}
    (h : items history = .ok merged) :
    ∃ own, EachAfter Says history own ∧ merged.flatMap Item.said = own.flatten := by
  obtain ⟨found, hfound, h⟩ := bind_eq_ok_iff.1 h
  cases h
  obtain ⟨steps, hsteps, rfl⟩ := itemsFrom_isTraversal.eachAfter (fun _ => rfl) hfound
  refine ⟨steps.map itemSaid, hsteps.map fun _ _ _ hitem => itemOf_says hitem, ?_⟩
  rw [addItem_merges.flatMap_foldl, List.flatMap_nil, List.nil_append]
  clear h hfound hsteps
  induction steps with
  | nil => rfl
  | cons item steps ih =>
    rw [List.foldr_cons, List.flatMap_append, ih, List.map_cons, List.flatten_cons]
    cases item with
    | none => rfl
    | some item => rw [Option.toList_some, List.flatMap_singleton]; rfl

/-- A call that awaits its result is answered under its own name. -/
theorem entry_of_awaits {history earlier later : List Message} {own : List (List Said)}
    (h : EachAfter Says history own) {call : ToolCall} {content : Option Content}
    {metadata : Fields} {identified : call.id ≠ []}
    (hhistory : history = earlier ++ .tool call.id content metadata identified :: later)
    (hawaits : call.Awaits earlier) :
    own[earlier.length]? = some [⟨.ofString "user", .object [("functionResponse",
      .object [("name", .text call.name),
        ("response", .object [("content", .text (Content.plainText content))])])]⟩] := by
  obtain ⟨said, hentry, hsays⟩ := h.entry hhistory
  rw [hentry]
  cases hsays with
  | tool content metadata identified hlast =>
    rw [hawaits.lastCall?_eq] at hlast
    cases hlast
    rfl

theorem addItem_keepsApart : KeepsApart Item.role addItem := by
  rw [addItem_eq]
  exact .mergeLast fun _ _ hrole => hrole.symm

theorem Role.name_injective : Function.Injective Role.name := by
  intro a b
  cases a <;> cases b <;> decide

end Gemini

/-! ## Prompts -/

/-- Joining gives a text unless it escapes: nothing is reported. -/
theorem Anthropic.exists_joinTexts_iff (parts : List Value) :
    (∃ text, joinTexts parts = .ok text) ↔ ¬Escapes (joinTexts parts) := by
  rw [joinTexts]
  dsimp only
  rw [escapes_bind_iff_left fun _ => not_escapes_pure _]
  refine (exists_bind_eq_ok_iff_left fun _ => ⟨_, rfl⟩).trans
    (exists_mapM_iff_not_escapes fun entry => ?_)
  obtain ⟨part, i⟩ := entry
  cases part with
  | text t => exact .inr ⟨t, rfl⟩
  | _ => exact .inl trivial

theorem Anthropic.exists_joinTexts_systemParts_iff (chat : Chat) :
    (∃ text, joinTexts (systemParts chat) = .ok text) ↔ ¬chat.PromptUnread := by
  rw [exists_joinTexts_iff, joinTexts_systemParts_escapes_iff]

theorem Gemini.exists_payload_iff (chat : Chat) :
    (∃ v, payload chat = .ok v) ↔
      (∃ merged, items chat.history = .ok merged) ∧ ¬chat.PromptUnread := by
  rw [payload_eq, ← Anthropic.exists_joinTexts_systemParts_iff]
  constructor
  · rintro ⟨v, hv⟩
    obtain ⟨merged, hmerged, hv⟩ := bind_eq_ok_iff.1 hv
    obtain ⟨system, hsystem, -⟩ := bind_eq_ok_iff.1 hv
    exact ⟨⟨merged, hmerged⟩, system, hsystem⟩
  · rintro ⟨⟨merged, hmerged⟩, system, hsystem⟩
    rw [hmerged, hsystem]
    exact ⟨_, rfl⟩

/-! ## Payloads -/

theorem Gemini.payload_says {chat : Chat} {v : Value} (h : payload chat = .ok v) :
    ((Provider.gemini.turns v).map fun turn => turn.field "role").IsChain (· ≠ ·) ∧
    (∀ turn ∈ Provider.gemini.turns v,
      turn.field "role" = .ofString "user" ∨ turn.field "role" = .ofString "model") ∧
    ∃ own, EachAfter Says chat.history own ∧ Provider.gemini.said v = own.flatten := by
  rw [payload_eq] at h
  obtain ⟨merged, hmerged, h⟩ := bind_eq_ok_iff.1 h
  obtain ⟨system, -, h⟩ := bind_eq_ok_iff.1 h
  cases h
  have hroles : (merged.map Item.role).IsChain (· ≠ ·) := by
    obtain ⟨found, -, hfolded⟩ := bind_eq_ok_iff.1 hmerged
    cases hfolded
    exact addItem_keepsApart.isChain_foldl .nil found
  obtain ⟨own, hown, hsaid⟩ := items_eq_ok hmerged
  have hturns : Provider.gemini.turns (Provider.gemini.around [] (backFields chat system)
      (merged.map Item.toValue)) = merged.map Item.toValue :=
    Provider.turns_around List.not_mem_nil _
  rw [Provider.said, hturns]
  refine ⟨isChain_roles Role.name_injective (fun _ => rfl) hroles, ?_, own, hown, ?_⟩
  · rintro _ hitem
    obtain ⟨item, -, rfl⟩ := List.mem_map.1 hitem
    cases hrole : item.role with
    | user => exact .inl (by rw [Item.toValue, hrole]; rfl)
    | model => exact .inr (by rw [Item.toValue, hrole]; rfl)
  · rw [List.flatMap_map, ← hsaid]
    rfl

namespace Ollama

/-- How a message is written behind earlier ones.  A result has the name of its call, if there is
one; the other messages do not look at the ones before. -/
inductive WrittenAs (earlier : List Message) : Message → Value → Prop
  | result {id : Text} (content : Option Content) (metadata : Fields) (identified : id ≠ []) :
      WrittenAs earlier (.tool id content metadata identified)
        (.object (("role", .ofString "tool") :: ("content", .text (Content.plainText content)) ::
          ((lastCall? id earlier).map fun call =>
            (Text.ofString "tool_name", Value.text call.name)).toList))
  | other {m : Message} {value : Value} (hrole : m.role ≠ .tool) (h : message [] m = .ok value) :
      WrittenAs earlier m value

theorem message_writtenAs {earlier : List Message} {m : Message} {value : Value}
    (h : message (Gemini.namesAfter earlier) m = .ok value) : WrittenAs earlier m value := by
  cases m with
  | tool id content metadata identified =>
    have hresult : WrittenAs earlier (.tool id content metadata identified) _ :=
      .result content metadata identified
    simp only [message, Gemini.get?_namesAfter] at h
    cases hcall : lastCall? id earlier with
    | none =>
      rw [hcall] at h hresult
      cases h
      exact hresult
    | some call =>
      rw [hcall] at h hresult
      cases h
      exact hresult
  | assistant turn =>
    rw [message_assistant, ← message_assistant []] at h
    exact .other (by rintro ⟨⟩) h
  | system => exact .other (by rintro ⟨⟩) h
  | user => exact .other (by rintro ⟨⟩) h

theorem payload_writtenAs {model : Text} {chat : Chat} {v : Value}
    (h : payload model chat = .ok v) :
    ∃ values, EachAfter WrittenAs chat.history values ∧
      Provider.ollama.turns v = chat.promptMessages ++ values := by
  rw [payload_eq] at h
  obtain ⟨found, hfound, h⟩ := bind_eq_ok_iff.1 h
  cases h
  obtain ⟨values, hvalues, rfl⟩ := messagesFrom_isTraversal.eachAfter (fun _ => rfl) hfound
  refine ⟨values, hvalues.imp fun _ _ _ hvalue => message_writtenAs hvalue, ?_⟩
  rw [Provider.turns_around (show Provider.ollama.turnsKey ∉ [Text.ofString "model"] by decide),
    List.foldr_cons_nil]

end Ollama

namespace Backend

/-- What a backend with merged contents asks of a chat, apart from what its messages have to do with
each other: an address for the model, a choice that can be expressed with the tools, a prompt that
is a text or none, and no message of the user without content. -/
structure Admits (b : Backend) (model : Text) (chat : Chat) : Prop where
  address : ∃ url, b.endpoint model = .ok url
  choice : checkChat chat b.provider.capabilities b.provider.name = .ok ()
  prompt : ¬chat.PromptUnread
  contents : ∀ metadata, Message.user none metadata ∉ chat.history

theorem gemini_builds_iff {b : Backend} (hb : b.provider = .gemini) (model : Value) (chat : Chat) :
    (∃ request, b.buildRequest model chat = .ok request) ↔
      b.Admits model.inText chat ∧
      (∀ front m back, chat.history = front ++ m :: back → m.HasCall front) ∧
      (∀ m ∈ chat.history, ∀ call ∈ m.calls, call.HoldsObject) ∧
      ∀ payload, b.payload model.inText chat = .ok payload →
        ∃ body, Json.encode payload = .ok body := by
  have hpayload : b.payload model.inText chat = Gemini.payload chat := by rw [payload, hb]
  rw [exists_buildRequest_iff, hpayload]
  have hwritten := Gemini.exists_payload_iff chat
  rw [Gemini.exists_items_iff] at hwritten
  constructor
  · rintro ⟨hurl, hcheck, v, hv, hbody⟩
    obtain ⟨⟨hcontents, hcalled, hobjects⟩, hprompt⟩ := hwritten.1 ⟨v, hv⟩
    refine ⟨⟨hurl, hcheck, hprompt, hcontents⟩, hcalled, hobjects, fun payload hsame => ?_⟩
    cases hv.symm.trans hsame
    exact hbody
  · rintro ⟨⟨hurl, hcheck, hprompt, hcontents⟩, hcalled, hobjects, hsent⟩
    obtain ⟨v, hv⟩ := hwritten.2 ⟨⟨hcontents, hcalled, hobjects⟩, hprompt⟩
    exact ⟨hurl, hcheck, v, hv, hsent v hv⟩

/-- Gemini takes a chat just when every result has the identifier of an earlier call, the arguments
of every call are blank or an object, and what is written of it can be sent.  The contents then
alternate between the user and the model.  They say what the messages say, in their order, and a
result says the name of the last call of its identifier before it: the call that awaits the result,
even when earlier turns made calls with the same identifier.  Ollama names its results in the same
way, and leaves out the name where there is no call. -/
theorem named_results (b : Backend) (model : Value) (chat : Chat) :
    (b.provider = .gemini →
      ((∃ request, b.buildRequest model chat = .ok request) ↔
        b.Admits model.inText chat ∧
        (∀ front m back, chat.history = front ++ m :: back → m.HasCall front) ∧
        (∀ m ∈ chat.history, ∀ call ∈ m.calls, call.HoldsObject) ∧
        ∀ payload, b.payload model.inText chat = .ok payload →
          ∃ body, Json.encode payload = .ok body) ∧
      ∀ request, b.buildRequest model chat = .ok request → ∃ payload own,
        b.payload model.inText chat = .ok payload ∧ Json.encode payload = .ok request.body ∧
        ((Provider.gemini.turns payload).map fun turn => turn.field "role").IsChain (· ≠ ·) ∧
        (∀ turn ∈ Provider.gemini.turns payload,
          turn.field "role" = .ofString "user" ∨ turn.field "role" = .ofString "model") ∧
        EachAfter Gemini.Says chat.history own ∧ Provider.gemini.said payload = own.flatten ∧
        ∀ (call : ToolCall) earlier content metadata identified later,
          chat.history = earlier ++ .tool call.id content metadata identified :: later →
          call.Awaits earlier →
          own[earlier.length]? = some [⟨.ofString "user", .object [("functionResponse",
            .object [("name", .text call.name),
              ("response", .object [("content", .text (Content.plainText content))])])]⟩]) ∧
    (b.provider = .ollama →
      ∀ request, b.buildRequest model chat = .ok request → ∃ payload values,
        b.payload model.inText chat = .ok payload ∧ Json.encode payload = .ok request.body ∧
        EachAfter Ollama.WrittenAs chat.history values ∧
        Provider.ollama.turns payload = chat.promptMessages ++ values) := by
  refine ⟨fun hb => ⟨gemini_builds_iff hb model chat, fun request h => ?_⟩, fun hb request h => ?_⟩
  · obtain ⟨-, -, v, hpayload, hencode⟩ := buildRequest_eq_ok h
    have hv : Gemini.payload chat = .ok v := by
      rw [payload, hb] at hpayload
      exact hpayload
    obtain ⟨hchain, hroles, own, hown, hsaid⟩ := Gemini.payload_says hv
    exact ⟨v, own, hpayload, hencode, hchain, hroles, hown, hsaid,
      fun _ _ _ _ _ _ hhistory hawaits => Gemini.entry_of_awaits hown hhistory hawaits⟩
  · obtain ⟨-, -, v, hpayload, hencode⟩ := buildRequest_eq_ok h
    have hv : Ollama.payload model.inText chat = .ok v := by
      rw [payload, hb] at hpayload
      exact hpayload
    obtain ⟨values, hvalues, hturns⟩ := Ollama.payload_writtenAs hv
    exact ⟨v, values, hpayload, hencode, hvalues, hturns⟩

/-- A call of the forecast. -/
def forecastCall : ToolCall :=
  ⟨"gemini_call_1", "forecast", "\x7b\"day\": 1\x7d", by decide, by decide⟩

/-- A call of another tool with the same identifier, and with blank arguments. -/
def swellCall : ToolCall :=
  ⟨"gemini_call_1", "swell", " ", forecastCall.identified, by decide⟩

/-- A chat with two rounds. -/
def surfChat : Chat where
  history := [.user (some (.text "Can I surf?")) [],
    .assistant ⟨none, [forecastCall], [], .inr (List.cons_ne_nil _ _)⟩,
    .tool forecastCall.id (some (.text "sunny")) [] forecastCall.identified,
    .assistant ⟨some (.text "And the waves?"), [swellCall], [], .inl rfl⟩,
    .tool swellCall.id (some (.text "high")) [] swellCall.identified]
  maxOutputTokens := .count 1 Nat.one_pos

/-- Each result of that chat is sent under the name of its own call. -/
theorem named_results_surfChat :
    (∃ request payload, ∃ own : List (List Said),
      ({ provider := .gemini } : Backend).buildRequest .null surfChat = .ok request ∧
      Json.encode payload = .ok request.body ∧ Provider.gemini.said payload = own.flatten ∧
      own[2]? = some [⟨.ofString "user", .object [("functionResponse",
        .object [("name", .ofString "forecast"),
          ("response", .object [("content", .ofString "sunny")])])]⟩] ∧
      own[4]? = some [⟨.ofString "user", .object [("functionResponse",
        .object [("name", .ofString "swell"),
          ("response", .object [("content", .ofString "high")])])]⟩]) ∧
    ∃ request payload values,
      ({ provider := .ollama } : Backend).buildRequest .null surfChat = .ok request ∧
      Json.encode payload = .ok request.body ∧ Provider.ollama.turns payload = values ∧
      values[4]? = some (.object [("role", .ofString "tool"), ("content", .ofString "high"),
        ("tool_name", .ofString "swell")]) := by
  have hforecast : forecastCall.Awaits (surfChat.history.take 2) :=
    ⟨surfChat.history.take 1, ⟨none, [forecastCall], [], .inr (List.cons_ne_nil _ _)⟩, [], rfl,
      List.mem_singleton.2 rfl, List.nodup_singleton _, List.forall_mem_nil _⟩
  have hswell : swellCall.Awaits (surfChat.history.take 4) :=
    ⟨surfChat.history.take 3, ⟨some (.text "And the waves?"), [swellCall], [], .inl rfl⟩, [], rfl,
      List.mem_singleton.2 rfl, List.nodup_singleton _, List.forall_mem_nil _⟩
  constructor
  · obtain ⟨request, hbuild⟩ : ∃ request,
        ({ provider := .gemini } : Backend).buildRequest .null surfChat = .ok request :=
      exists_of_isOk (by decide +kernel)
    obtain ⟨payload, own, -, hencode, -, -, -, hsaid, hresult⟩ :=
      ((named_results { provider := .gemini } .null surfChat).1 rfl).2 request hbuild
    refine ⟨request, payload, own, hbuild, hencode, hsaid, ?_, ?_⟩
    · exact hresult forecastCall _ _ _ forecastCall.identified _ rfl hforecast
    · exact hresult swellCall _ _ _ swellCall.identified _ rfl hswell
  · obtain ⟨request, hbuild⟩ : ∃ request,
        ({ provider := .ollama } : Backend).buildRequest .null surfChat = .ok request :=
      exists_of_isOk (by decide +kernel)
    obtain ⟨payload, values, -, hencode, hvalues, hturns⟩ :=
      (named_results { provider := .ollama } .null surfChat).2 rfl request hbuild
    have hlast : surfChat.history = surfChat.history.take 4 ++
        [.tool swellCall.id (some (.text "high")) [] swellCall.identified] := rfl
    obtain ⟨value, hvalue, hwritten⟩ := hvalues.entry hlast
    refine ⟨request, payload, values, hbuild, hencode, hturns, hvalue.trans ?_⟩
    cases hwritten with
    | result => rfl
    | other hrole => exact absurd rfl hrole

end Backend

end Colloquy
