import Colloquy.Json.Writer
import Mathlib.Data.List.TakeWhile

/-!
# Documents that can be sent

A document is written for a backend when everything in it can be written in the room
that there is and no surrogate is in its text.  `Json.isSendable` asks for this; of the
items of a list, and of the names and values of an object, it is enough to ask it in
the room that is left within them.
-/

namespace Colloquy

/-! ## Texts without surrogates -/

/-- Whether no surrogate is in a text. -/
def Text.isClean (text : Text) : Bool :=
  text.all (!Utf8.isSurrogate ·)

namespace Text

@[simp] theorem isClean_append (s t : Text) : isClean (s ++ t) = (isClean s && isClean t) :=
  List.all_append

@[simp] theorem isClean_concat_cons (part : Text) (parts : List Text) :
    isClean (concat (part :: parts)) = (isClean part && isClean (concat parts)) :=
  isClean_append part (concat parts)

theorem isClean_flatMap {text : Text} {f : CodePoint → Text}
    (h : ∀ c ∈ text, isClean (f c) = true) :
    isClean (text.flatMap f) = true := by
  induction text with
  | nil => rfl
  | cons c text ih =>
    have hrest := ih fun d hd => h d (List.mem_cons_of_mem c hd)
    rw [List.flatMap_cons, isClean_append, h c List.mem_cons_self, hrest]
    rfl

theorem isClean_join {separator : Text} (hseparator : isClean separator = true)
    {parts : List Text} (h : ∀ part ∈ parts, isClean part = true) :
    isClean (join separator parts) = true := by
  induction parts with
  | nil => rfl
  | cons part parts ih =>
    have hpart := h part List.mem_cons_self
    have hrest := ih fun p hp => h p (List.mem_cons_of_mem part hp)
    cases parts with
    | nil => exact hpart
    | cons next parts =>
      show isClean (part ++ separator ++ join separator (next :: parts)) = true
      rw [isClean_append, isClean_append, hpart, hseparator, hrest]
      rfl

end Text

namespace Utf8

/-- A text can be encoded when no surrogate is in it, and only then. -/
theorem encode_isOk_iff (text : Text) :
    (∃ octets, encode text = .ok octets) ↔ text.isClean = true := by
  have hrun : firstRun? isSurrogate text = none ↔ text.dropWhile (!isSurrogate ·) = [] := by
    rw [firstRun?]
    cases text.dropWhile (!isSurrogate ·) with
    | nil => exact ⟨fun _ => rfl, fun _ => rfl⟩
    | cons c rest => exact ⟨nofun, nofun⟩
  rw [Text.isClean, List.all_eq_true, ← List.dropWhile_eq_nil_iff, ← hrun, encode]
  cases firstRun? isSurrogate text with
  | none => exact ⟨fun _ => rfl, fun _ => ⟨_, rfl⟩⟩
  | some run => exact ⟨nofun, nofun⟩

end Utf8

namespace Json

/-! ## Strings -/

theorem escape_isClean {c : CodePoint} (h : Utf8.isSurrogate c = false) :
    (escape c).isClean = true := by
  have hcontrol : ∀ c < 0x20, (Text.concat ["\\u", Text.hex 4 c]).isClean = true := by decide
  unfold escape
  split
  · rfl
  split
  · rfl
  split
  · rfl
  split
  · rfl
  split
  · rfl
  split
  · rfl
  split
  · rfl
  split
  · rename_i hlow
    exact hcontrol c hlow
  · rw [Text.isClean, List.all_cons, h]
    rfl

theorem string_isClean {text : Text} (h : text.isClean = true) : (string text).isClean = true := by
  have hescaped : Text.isClean (text.flatMap escape) = true := by
    rw [Text.isClean, List.all_eq_true] at h
    exact Text.isClean_flatMap fun c hc => escape_isClean ((by simpa using h c hc))
  have hquotes : string text = [0x22] ++ text.flatMap escape ++ [0x22] := rfl
  rw [hquotes, Text.isClean_append, Text.isClean_append, hescaped]
  rfl

/-! ## Documents -/

/-- Whether a document can be sent: everything in it can be written in so much room and no surrogate
is in its text. -/
def isSendable (room : Nat) (value : Value) : Bool :=
  match writeValue false room value with
  | .ok text => text.isClean
  | .error _ => false

variable {room : Nat}

theorem isSendable_iff {value : Value} : isSendable room value = true ↔
    ∃ text, writeValue false room value = .ok text ∧ text.isClean = true := by
  rw [isSendable]
  cases writeValue false room value with
  | ok text =>
    constructor
    · intro h
      exact ⟨text, rfl, h⟩
    · rintro ⟨_, heq, h⟩
      cases heq
      exact h
  | error e => exact ⟨nofun, nofun⟩

/-- What can be sent in the room of a call is what can be encoded. -/
theorem encode_isOk_iff {value : Value} :
    (∃ octets, encode value = .ok octets) ↔ isSendable depthLimit value = true := by
  rw [isSendable, encode, write]
  cases writeValue false depthLimit value with
  | error e => exact ⟨nofun, nofun⟩
  | ok text =>
    dsimp only
    rw [← Utf8.encode_isOk_iff]
    cases Utf8.encode text with
    | ok octets => exact ⟨fun _ => ⟨_, rfl⟩, fun _ => ⟨_, rfl⟩⟩
    | error e => exact ⟨nofun, nofun⟩

theorem writeValue_text (names : Bool) (room : Nat) (text : Text) :
    writeValue names room (.text text) = .ok (string text) := by
  rw [writeValue]

theorem isSendable_text {text : Text} (h : text.isClean = true) :
    isSendable room (.text text) = true :=
  isSendable_iff.2 ⟨string text, writeValue_text false room text, string_isClean h⟩

/-- A list can be sent when its items can. -/
theorem isSendable_list {items : List Value} (h : ∀ item ∈ items, isSendable room item = true) :
    isSendable (room + 1) (.list items) = true := by
  have hitems : ∃ parts, writeItems false room items = .ok parts ∧
      ∀ part ∈ parts, Text.isClean part = true := by
    induction items with
    | nil => exact ⟨[], rfl, fun part hpart => by cases hpart⟩
    | cons item items ih =>
      obtain ⟨parts, hparts, hclean⟩ := ih fun i hi => h i (List.mem_cons_of_mem item hi)
      obtain ⟨text, htext, htextClean⟩ := isSendable_iff.1 (h item List.mem_cons_self)
      refine ⟨text :: parts, by rw [writeItems, htext, hparts]; rfl, ?_⟩
      intro part hpart
      cases hpart with
      | head => exact htextClean
      | tail _ hpart => exact hclean part hpart
  obtain ⟨parts, hparts, hclean⟩ := hitems
  refine isSendable_iff.2 ⟨Text.concat ["[", Text.join ", " parts, "]"], ?_, ?_⟩
  · rw [writeValue, hparts]
    rfl
  · have hjoined : Text.isClean (Text.join ", " parts) = true := Text.isClean_join rfl hclean
    rw [Text.isClean_concat_cons, Text.isClean_concat_cons, hjoined]
    rfl

/-- An object can be sent when its names have no surrogates and its values can be sent. -/
theorem isSendable_object {fields : Fields}
    (h : ∀ field ∈ fields, field.1.isClean = true ∧ isSendable room field.2 = true) :
    isSendable (room + 1) (.object fields) = true := by
  have hfields : ∃ parts, writeFields false room fields = .ok parts ∧
      ∀ part ∈ parts, Text.isClean part = true := by
    induction fields with
    | nil => exact ⟨[], rfl, fun part hpart => by cases hpart⟩
    | cons field fields ih =>
      obtain ⟨name, value⟩ := field
      obtain ⟨parts, hparts, hclean⟩ := ih fun i hi => h i (List.mem_cons_of_mem _ hi)
      obtain ⟨hname, hvalue⟩ := h _ List.mem_cons_self
      obtain ⟨text, htext, htextClean⟩ := isSendable_iff.1 hvalue
      refine ⟨Text.concat [string name, ": ", text] :: parts, by
        rw [writeFields, htext, hparts]; rfl, ?_⟩
      intro part hpart
      cases hpart with
      | head =>
        rw [Text.isClean_concat_cons, Text.isClean_concat_cons, Text.isClean_concat_cons,
          string_isClean hname, htextClean]
        rfl
      | tail _ hpart => exact hclean part hpart
  obtain ⟨parts, hparts, hclean⟩ := hfields
  refine isSendable_iff.2 ⟨Text.concat ["\x7b", Text.join ", " parts, "\x7d"], ?_, ?_⟩
  · rw [writeValue, hparts]
    rfl
  · have hjoined : Text.isClean (Text.join ", " parts) = true := Text.isClean_join rfl hclean
    rw [Text.isClean_concat_cons, Text.isClean_concat_cons, hjoined]
    rfl

end Json

end Colloquy
