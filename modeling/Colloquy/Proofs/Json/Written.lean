import Colloquy.Proofs.Error.Escape
import Colloquy.Proofs.Json.Number
import Colloquy.Proofs.Json.Sendable
import Colloquy.Proofs.Json.String
import Colloquy.Proofs.Text.Pieces
import Colloquy.Proofs.Value.Throughout

/-!
# What is written

The text of a value comes of the texts of what is within it: `Json.writeValue_list_eq_ok_iff`
and `Json.writeValue_object_eq_ok_iff` take it apart again.  From them follows that a list or
an object can be sent just when everything in it can (`Json.isSendable_list_iff`,
`Json.isSendable_object_iff`), and that no control stands in a text that is written
(`Json.writeValue_legible`).
-/

namespace Colloquy

/-- A relation one to one may be changed for what is among the items. -/
theorem forall₂_imp_of_mem {α β : Type} {R S : α → β → Prop} {xs : List α} {ys : List β}
    (h : List.Forall₂ R xs ys) (himp : ∀ x ∈ xs, ∀ y, R x y → S x y) : List.Forall₂ S xs ys := by
  induction h with
  | nil => exact .nil
  | cons hxy _ ih =>
    rw [List.forall_mem_cons] at himp
    exact .cons (himp.1 _ hxy) (ih himp.2)

/-! ## Texts in parts -/

namespace Text

theorem isClean_iff {text : Text} :
    text.isClean = true ↔ ∀ c ∈ text, Utf8.isSurrogate c = false := by
  simp [isClean]

theorem isClean_join_iff {separator : Text} (hseparator : isClean separator = true)
    {parts : List Text} :
    isClean (join separator parts) = true ↔ ∀ part ∈ parts, isClean part = true := by
  refine ⟨fun h => ?_, isClean_join hseparator⟩
  induction parts with
  | nil => exact List.forall_mem_nil _
  | cons part parts ih =>
    cases parts with
    | nil => exact List.forall_mem_singleton.2 h
    | cons next parts =>
      have h : isClean (part ++ separator ++ join separator (next :: parts)) = true := h
      rw [isClean_append, isClean_append, Bool.and_eq_true, Bool.and_eq_true] at h
      exact List.forall_mem_cons.2 ⟨h.1.1, ih h.2⟩

end Text

namespace Json

variable {names : Bool} {room : Nat} {items : List Value} {fields : Fields}
  {parts : List Text} {text : Text}

/-! ## Taking a text apart -/

/-- A part of the text of an object is the text of one of its fields. -/
def WritesField (names : Bool) (room : Nat) (field : Text × Value) (part : Text) : Prop :=
  ∃ text, writeValue names room field.2 = .ok text ∧ part = Text.concat [string field.1, ": ", text]

theorem writeItems_eq_mapM : writeItems names room items = items.mapM (writeValue names room) := by
  induction items with
  | nil => rw [writeItems, List.mapM_nil]; rfl
  | cons item items ih => rw [writeItems, ih, List.mapM_cons]

/-- The text of a field in an object. -/
def writeField (names : Bool) (room : Nat) (field : Text × Value) : Except Refusal Text :=
  (writeValue names room field.2).map fun text => Text.concat [string field.1, ": ", text]

theorem writeFields_eq_mapM :
    writeFields names room fields = fields.mapM (writeField names room) := by
  induction fields with
  | nil => rw [writeFields, List.mapM_nil]; rfl
  | cons field fields ih =>
    rw [writeFields, ih, List.mapM_cons, writeField]
    cases writeValue names room field.2 <;> rfl

theorem writeField_eq_ok_iff {field : Text × Value} {part : Text} :
    writeField names room field = .ok part ↔ WritesField names room field part := by
  rw [writeField, WritesField]
  cases writeValue names room field.2 with
  | error refusal =>
    constructor
    · intro h
      cases h
    · rintro ⟨text, h, -⟩
      cases h
  | ok text =>
    constructor
    · intro h
      cases h
      exact ⟨text, rfl, rfl⟩
    · rintro ⟨_, ⟨⟩, rfl⟩
      rfl

theorem writeItems_eq_ok_iff : writeItems names room items = .ok parts ↔
    List.Forall₂ (fun item part => writeValue names room item = .ok part) items parts := by
  rw [writeItems_eq_mapM, mapM_eq_ok_iff]

theorem writeFields_eq_ok_iff : writeFields names room fields = .ok parts ↔
    List.Forall₂ (WritesField names room) fields parts := by
  rw [writeFields_eq_mapM, mapM_eq_ok_iff]
  simp only [writeField_eq_ok_iff]

/-- A list is written with one unit of room less for its items. -/
theorem writeValue_list_eq_ok_iff : writeValue names room (.list items) = .ok text ↔
    ∃ inner, room = inner + 1 ∧
      ∃ parts, List.Forall₂ (fun item part => writeValue names inner item = .ok part) items parts ∧
        text = Text.concat ["[", Text.join ", " parts, "]"] := by
  constructor
  · intro h
    cases room with
    | zero =>
      rw [writeValue] at h
      cases h
    | succ inner =>
      rw [writeValue] at h
      cases hitems : writeItems names inner items with
      | error e =>
        rw [hitems] at h
        cases h
      | ok parts =>
        rw [hitems] at h
        cases h
        exact ⟨inner, rfl, parts, writeItems_eq_ok_iff.1 hitems, rfl⟩
  · rintro ⟨inner, rfl, parts, hparts, rfl⟩
    rw [writeValue, writeItems_eq_ok_iff.2 hparts]
    rfl

/-- A tuple is written as a list is. -/
theorem writeValue_tuple :
    writeValue names room (.tuple items) = writeValue names room (.list items) := by
  cases room with
  | zero => rw [writeValue, writeValue]
  | succ inner => rw [writeValue, writeValue]

/-- An object is written with one unit of room less for its values. -/
theorem writeValue_object_eq_ok_iff : writeValue names room (.object fields) = .ok text ↔
    ∃ inner, room = inner + 1 ∧ ∃ parts, List.Forall₂ (WritesField names inner) fields parts ∧
      text = Text.concat ["\x7b", Text.join ", " parts, "\x7d"] := by
  constructor
  · intro h
    cases room with
    | zero =>
      rw [writeValue] at h
      cases h
    | succ inner =>
      rw [writeValue] at h
      cases hfields : writeFields names inner fields with
      | error e =>
        rw [hfields] at h
        cases h
      | ok parts =>
        rw [hfields] at h
        cases h
        exact ⟨inner, rfl, parts, writeFields_eq_ok_iff.1 hfields, rfl⟩
  · rintro ⟨inner, rfl, parts, hparts, rfl⟩
    rw [writeValue, writeFields_eq_ok_iff.2 hparts]
    rfl

/-- What is written in some room is written so in more room too. -/
theorem writeValue_mono {v : Value} {larger : Nat} (hle : room ≤ larger)
    (h : writeValue names room v = .ok text) : writeValue names larger v = .ok text := by
  have hlist : ∀ {items : List Value} {room larger : Nat} {text : Text}, room ≤ larger →
      (∀ item ∈ items, ∀ {room larger text}, room ≤ larger →
        writeValue names room item = .ok text → writeValue names larger item = .ok text) →
      writeValue names room (.list items) = .ok text →
      writeValue names larger (.list items) = .ok text := by
    intro items room larger text hle hitems h
    obtain ⟨inner, rfl, parts, hparts, rfl⟩ := writeValue_list_eq_ok_iff.1 h
    obtain ⟨wider, rfl⟩ := Nat.exists_eq_add_of_lt hle
    exact writeValue_list_eq_ok_iff.2 ⟨inner + wider, by omega, parts,
      forall₂_imp_of_mem hparts fun item hitem _ => hitems item hitem (by omega), rfl⟩
  induction v using Value.nestedInduction generalizing room larger text with
  | list items ih => exact hlist hle (fun item hitem _ _ _ => ih item hitem) h
  | tuple items ih =>
    rw [writeValue_tuple] at h ⊢
    exact hlist hle (fun item hitem _ _ _ => ih item hitem) h
  | object fields ih =>
    obtain ⟨inner, rfl, parts, hparts, rfl⟩ := writeValue_object_eq_ok_iff.1 h
    obtain ⟨wider, rfl⟩ := Nat.exists_eq_add_of_lt hle
    refine writeValue_object_eq_ok_iff.2 ⟨inner + wider, by omega, parts,
      forall₂_imp_of_mem hparts ?_, rfl⟩
    rintro field hfield _ ⟨text, hvalue, rfl⟩
    exact ⟨text, ih field hfield (by omega) hvalue, rfl⟩
  | bytes octets =>
    rw [writeValue] at h
    cases h
  | foreign =>
    rw [writeValue] at h
    cases h
  | null | bool | int | float | text =>
    rw [writeValue] at h ⊢
    exact h

/-! ## What can be sent -/

theorem isSendable_mono {v : Value} {larger : Nat} (hle : room ≤ larger)
    (h : isSendable room v = true) : isSendable larger v = true := by
  obtain ⟨text, hwrite, hclean⟩ := isSendable_iff.1 h
  exact isSendable_iff.2 ⟨text, writeValue_mono hle hwrite, hclean⟩

theorem string_isClean_iff {text : Text} : (string text).isClean = true ↔ text.isClean = true := by
  refine ⟨fun h => ?_, string_isClean⟩
  rw [Text.isClean_iff] at h ⊢
  intro c hc
  by_contra hsurrogate
  rw [Bool.not_eq_false, Utf8.isSurrogate, Bool.and_eq_true, decide_eq_true_iff,
    decide_eq_true_iff] at hsurrogate
  have hbound : (0xd800 : Nat) ≤ c := hsurrogate.1
  have hself : escape c = [c] := escape_eq_self (by omega) (by omega) (by omega)
  have hmem : c ∈ string text :=
    List.mem_append_left _ (List.mem_cons_of_mem _
      (List.mem_flatMap.2 ⟨c, hc, by rw [hself]; exact List.mem_singleton_self c⟩))
  have hclean := h c hmem
  rw [Utf8.isSurrogate, decide_eq_true hsurrogate.1, decide_eq_true hsurrogate.2] at hclean
  cases hclean

theorem isSendable_text_iff {text : Text} :
    isSendable room (.text text) = true ↔ text.isClean = true := by
  rw [isSendable, writeValue_text]
  exact string_isClean_iff

theorem isSendable_null (room : Nat) : isSendable room .null = true := by
  rw [isSendable, writeValue]
  rfl

theorem isSendable_bool (room : Nat) (b : Bool) : isSendable room (.bool b) = true := by
  rw [isSendable, writeValue]
  cases b <;> rfl

/-- The parts of a clean text that is between brackets are clean. -/
theorem isClean_of_bracketed {before after : Text} {parts : List Text}
    (h : (Text.concat [before, Text.join ", " parts, after]).isClean = true) :
    ∀ part ∈ parts, part.isClean = true := by
  rw [Text.isClean_concat_cons, Text.isClean_concat_cons, Bool.and_eq_true, Bool.and_eq_true] at h
  exact (Text.isClean_join_iff rfl).1 h.2.1

/-- A list can be sent just when its items can. -/
theorem isSendable_list_iff :
    isSendable (room + 1) (.list items) = true ↔ ∀ item ∈ items, isSendable room item = true := by
  refine ⟨fun h item hitem => ?_, isSendable_list⟩
  obtain ⟨text, hwrite, hclean⟩ := isSendable_iff.1 h
  obtain ⟨_, ⟨⟩, parts, hparts, rfl⟩ := writeValue_list_eq_ok_iff.1 hwrite
  obtain ⟨part, hpart, hitem⟩ := exists_of_forall₂ hparts hitem
  exact isSendable_iff.2 ⟨part, hitem, isClean_of_bracketed hclean part hpart⟩

/-- An object can be sent just when its names have no surrogates and its values can be sent. -/
theorem isSendable_object_iff : isSendable (room + 1) (.object fields) = true ↔
    ∀ field ∈ fields, field.1.isClean = true ∧ isSendable room field.2 = true := by
  refine ⟨fun h field hfield => ?_, isSendable_object⟩
  obtain ⟨text, hwrite, hclean⟩ := isSendable_iff.1 h
  obtain ⟨_, ⟨⟩, parts, hparts, rfl⟩ := writeValue_object_eq_ok_iff.1 hwrite
  obtain ⟨part, hpart, text, hvalue, rfl⟩ := exists_of_forall₂ hparts hfield
  have hpartClean := isClean_of_bracketed hclean _ hpart
  simp only [Text.isClean_concat_cons, Bool.and_eq_true] at hpartClean
  exact ⟨string_isClean_iff.1 hpartClean.1, isSendable_iff.2 ⟨text, hvalue, hpartClean.2.2.1⟩⟩

end Json

/-! ## Code points -/

/-- A text is made of code points, and no control is among them. -/
def Text.Legible (text : Text) : Prop :=
  ∀ c ∈ text, 0x20 ≤ c ∧ c < 0x110000

instance (text : Text) : Decidable text.Legible :=
  inferInstanceAs (Decidable (∀ c ∈ text, 0x20 ≤ c ∧ c < 0x110000))

namespace Text.Legible

theorem append {s t : Text} (hs : Legible s) (ht : Legible t) : Legible (s ++ t) :=
  List.forall_mem_append.2 ⟨hs, ht⟩

theorem concat {parts : List Text} (h : ∀ part ∈ parts, Legible part) :
    Legible (Text.concat parts) := by
  intro c hc
  obtain ⟨part, hpart, hc⟩ := List.mem_flatten.1 hc
  exact h part hpart c hc

end Text.Legible

/-- A text of printable ASCII, as numbers are written. -/
def Text.Ascii (text : Text) : Prop :=
  ∀ c ∈ text, 0x20 ≤ c ∧ c < 0x80

instance (text : Text) : Decidable text.Ascii :=
  inferInstanceAs (Decidable (∀ c ∈ text, 0x20 ≤ c ∧ c < 0x80))

namespace Text.Ascii

variable {s t : Text}

theorem legible (h : Ascii t) : Legible t := by
  intro c hc
  have bounds := h c hc
  exact ⟨bounds.1, Nat.lt_trans bounds.2 (by decide)⟩

/-- Surrogates lie beyond ASCII. -/
theorem isClean (h : Ascii t) : t.isClean = true := by
  rw [isClean_iff]
  intro c hc
  have below : c < 0xd800 := Nat.lt_trans (h c hc).2 (by decide)
  simp only [Utf8.isSurrogate, Bool.and_eq_false_iff, decide_eq_false_iff_not]
  exact Or.inl (Nat.not_le.mpr below)

theorem nil : Ascii [] :=
  List.forall_mem_nil _

theorem append (hs : Ascii s) (ht : Ascii t) : Ascii (s ++ t) :=
  List.forall_mem_append.2 ⟨hs, ht⟩

theorem concat {parts : List Text} (h : ∀ part ∈ parts, Ascii part) :
    Ascii (Text.concat parts) := by
  intro c hc
  obtain ⟨part, hpart, hc⟩ := List.mem_flatten.1 hc
  exact h part hpart c hc

theorem take (h : Ascii t) (n : Nat) : Ascii (t.take n) :=
  fun c hc => h c (List.mem_of_mem_take hc)

theorem drop (h : Ascii t) (n : Nat) : Ascii (t.drop n) :=
  fun c hc => h c (List.mem_of_mem_drop hc)

theorem ofDigits (h : ∀ c ∈ t, isAsciiDigit c = true) : Ascii t := by
  intro c hc
  have hdigit := h c hc
  rw [isAsciiDigit, Bool.and_eq_true, decide_eq_true_iff, decide_eq_true_iff] at hdigit
  exact ⟨Nat.le_trans (by decide) hdigit.1, Nat.lt_of_le_of_lt hdigit.2 (by decide)⟩

theorem ofNat (n : Nat) : Ascii (Text.ofNat n) :=
  ofDigits (isAsciiDigit_of_mem_ofNat n)

theorem ofInt (i : Int) : Ascii (Text.ofInt i) := by
  cases i with
  | ofNat n => exact ofNat n
  | negSucc n => exact append (s := [0x2d]) (by decide) (ofNat (n + 1))

end Text.Ascii

namespace Decimal

open Text

theorem zeros_ascii (n : Nat) : Ascii (zeros n) := by
  intro c hc
  rw [List.eq_of_mem_replicate hc]
  decide

theorem positional_ascii {digits : Text} (h : Ascii digits) (place : Int) :
    Ascii (positional digits place) := by
  unfold positional
  split
  · split
    · exact .append (by decide) h
    split
    · exact .append (.append h (zeros_ascii _)) (by decide)
    · refine .concat ?_
      simp only [List.forall_mem_cons]
      exact ⟨h.take _, by decide, h.drop _, List.forall_mem_nil _⟩
  · refine .concat ?_
    simp only [List.forall_mem_cons]
    exact ⟨by decide, zeros_ascii _, h, List.forall_mem_nil _⟩

theorem withExponent_ascii (layout : Layout) {digits : Text} (h : Ascii digits) (place : Int) :
    Ascii (withExponent layout digits place) := by
  have hsign : Ascii (if place - 1 < 0 then Text.ofString "-" else Text.ofString "+") := by
    split <;> decide
  refine .concat ?_
  simp only [List.forall_mem_cons]
  refine ⟨h.take 1, ?_, by decide, hsign, .append (zeros_ascii _) (.ofNat _),
    List.forall_mem_nil _⟩
  split
  · exact .nil
  · refine .concat ?_
    simp only [List.forall_mem_cons]
    exact ⟨by decide, by simpa using h.drop 1, List.forall_mem_nil _⟩

/-- The text of a float is ASCII when the names for what is no finite number are. -/
theorem Layout.ofFloat_ascii (layout : Layout) (hnan : Ascii layout.notANumber)
    (hinfinity : Ascii layout.infinity) (hnegative : Ascii layout.negativeInfinity)
    (x : Float) : Ascii (layout.ofFloat x) := by
  have hscaled : ∀ d, Ascii (layout.ofScaled d) := by
    intro d
    unfold Layout.ofScaled
    dsimp only
    split
    · exact positional_ascii (.ofNat _) _
    · exact withExponent_ascii layout (.ofNat _) _
  have hmagnitude : ∀ b : Binary,
      Ascii (if b.mantissa = 0 then Text.ofString "0.0" else layout.ofScaled (shortest b)) := by
    intro b
    split
    · decide
    · exact hscaled _
  unfold Layout.ofFloat
  dsimp only
  split
  · exact hnan
  split
  · split
    · exact hnegative
    · exact hinfinity
  split
  · exact .append (by decide) (hmagnitude _)
  · exact hmagnitude _

end Decimal

/-- The texts in a value are made of code points. -/
def Value.InRange : Value → Prop
  | .text t => ∀ c ∈ t, c < 0x110000
  | .object fields => ∀ field ∈ fields, ∀ c ∈ field.1, c < 0x110000
  | _ => True

namespace Json

open Text

theorem Escaped.legible {c : CodePoint} {written : Text} (h : Escaped c written)
    (hc : c < 0x110000) : Legible written := by
  cases h with
  | itself hcontrol => exact List.forall_mem_singleton.2 ⟨hcontrol, hc⟩
  | @letter e hletter hstands =>
    have hletters : e ∈ [0x22, 0x5c, 0x2f, 0x62, 0x66, 0x6e, 0x72, 0x74] := by
      by_contra hother
      simp only [List.mem_cons, List.not_mem_nil, or_false, not_or] at hother
      simp [simpleEscape?, hother] at hstands
    have hall : ∀ e ∈ [0x22, 0x5c, 0x2f, 0x62, 0x66, 0x6e, 0x72, 0x74], Legible [0x5c, e] := by
      decide
    exact hall e hletters
  | number hcontrol =>
    have hall : ∀ c < 0x20, Legible (0x5c :: 0x75 :: Text.hex 4 c) := by decide
    exact hall c hcontrol

theorem string_legible {t : Text} (h : ∀ c ∈ t, c < 0x110000) : Legible (string t) := by
  have hescaped : Legible (t.flatMap escape) := by
    intro c hc
    obtain ⟨d, hd, hc⟩ := List.mem_flatMap.1 hc
    exact (escape_escaped d).legible (h d hd) c hc
  exact .append (s := 0x22 :: t.flatMap escape) (.append (s := [0x22]) (by decide) hescaped)
    (by decide)

/-- What stands between brackets is legible when its parts are. -/
theorem bracketed_legible {before after : Text} (hbefore : Legible before) (hafter : Legible after)
    (h : ∀ part ∈ parts, Legible part) :
    Legible (Text.concat [before, Text.join ", " parts, after]) := by
  have hjoined : Legible (Text.join ", " parts) := forall_mem_join (by decide) h
  refine .concat ?_
  simp only [List.forall_mem_cons]
  exact ⟨hbefore, hjoined, hafter, List.forall_mem_nil _⟩

/-- Whatever is written is legible, when its texts are made of code points. -/
theorem writeValue_legible {v : Value} (h : v.Throughout Value.InRange)
    (hwrite : writeValue names room v = .ok text) : Legible text := by
  have hbracketed : ∀ {items : List Value} {room : Nat} {text : Text},
      (∀ item ∈ items, ∀ {room text}, writeValue names room item = .ok text → Legible text) →
      writeValue names room (.list items) = .ok text → Legible text := by
    intro items room text hitems hwrite
    obtain ⟨inner, rfl, parts, hparts, rfl⟩ := writeValue_list_eq_ok_iff.1 hwrite
    refine bracketed_legible (by decide) (by decide) fun part hpart => ?_
    obtain ⟨item, hitem, hwritten⟩ := exists_of_forall₂ hparts.flip hpart
    exact hitems item hitem hwritten
  induction v using Value.nestedInduction generalizing room text with
  | null =>
    rw [writeValue] at hwrite
    cases hwrite
    decide
  | bool b =>
    rw [writeValue] at hwrite
    cases hwrite
    cases b <;> decide
  | int i =>
    rw [writeValue, integer] at hwrite
    split at hwrite
    · cases hwrite
      exact (Text.Ascii.ofInt i).legible
    · cases hwrite
  | float x =>
    rw [writeValue, float] at hwrite
    split at hwrite
    · cases hwrite
      exact (Decimal.Layout.ofFloat_ascii _ (by decide) (by decide) (by decide) x).legible
    · cases hwrite
  | text t =>
    rw [writeValue] at hwrite
    cases hwrite
    exact string_legible h
  | bytes octets =>
    rw [writeValue] at hwrite
    cases hwrite
  | foreign =>
    rw [writeValue] at hwrite
    cases hwrite
  | list items ih =>
    exact hbracketed
      (fun item hitem _ _ => ih item hitem ((Value.throughout_list.1 h).2 item hitem)) hwrite
  | tuple items ih =>
    rw [writeValue_tuple] at hwrite
    exact hbracketed
      (fun item hitem _ _ => ih item hitem ((Value.throughout_tuple.1 h).2 item hitem)) hwrite
  | object fields ih =>
    obtain ⟨hnames, hvalues⟩ := Value.throughout_object.1 h
    obtain ⟨inner, rfl, parts, hparts, rfl⟩ := writeValue_object_eq_ok_iff.1 hwrite
    refine bracketed_legible (by decide) (by decide) fun part hpart => ?_
    obtain ⟨field, hfield, text, hvalue, rfl⟩ := exists_of_forall₂ hparts.flip hpart
    refine .concat ?_
    simp only [List.forall_mem_cons]
    exact ⟨string_legible (hnames field hfield), by decide,
      ih field hfield (hvalues field hfield) hvalue, List.forall_mem_nil _⟩

end Json

end Colloquy
