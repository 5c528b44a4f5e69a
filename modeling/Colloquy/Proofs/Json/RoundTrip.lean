import Colloquy.Proofs.Error.Escape
import Colloquy.Proofs.Json.Number
import Colloquy.Proofs.Json.String
import Colloquy.Proofs.Json.Written
import Colloquy.Proofs.Text.Utf8

/-!
# Documents read back

A value that is written is read back from its text (`Json.read_write`), and also from the
octets of a document (`Json.decode_encode`).  The reader gives nothing but what documents
have and sets the fields of an object one after the other, so the value must be one that
a reader can give (`Value.IsRead`).  It need not be shallow: what there was room to write
there is room to read (`Json.readsAs_of_write`).  Of floats it is assumed that they are
read back from their text (`Value.ReadsBack`).
-/

namespace Colloquy

/-- What a reader can give: values that documents have, and objects whose fields have distinct
names. -/
def Value.IsRead : Value → Prop
  | .tuple _ | .bytes _ | .foreign => False
  | .object fields => (fields.map Prod.fst).Nodup
  | _ => True

/-- A float is read back from its text. -/
def Value.ReadsBack : Value → Prop
  | .float x => Json.readNumber (Decimal.Layout.document.ofFloat x) = .ok (.float x, [])
  | _ => True

namespace Json

variable {text rest : Text} {v : Value} {room fuel : Nat}

/-! ## Parts of documents -/

/-- The text of a value begins with a letter, a digit or a sign of ASCII, which opens the value. -/
def Opens (text : Text) : Prop :=
  ∃ c more, text = c :: more ∧ isSpace c = false ∧ c ≠ 0x5d ∧ c ≠ 0x7d ∧ c < 0x80

theorem skip_of_opens (h : Opens text) (rest : Text) : skip (text ++ rest) = text ++ rest := by
  obtain ⟨c, more, rfl, hspace, -⟩ := h
  rw [skip, List.cons_append, List.dropWhile_cons_of_neg (by rw [hspace]; exact Bool.false_ne_true)]

/-- A text that has another one behind it opens as it does. -/
theorem Opens.append (h : Opens text) (rest : Text) : Opens (text ++ rest) := by
  obtain ⟨c, more, rfl, hc⟩ := h
  exact ⟨c, more ++ rest, rfl, hc⟩

theorem Opens.length_pos (h : Opens text) : 0 < text.length := by
  obtain ⟨c, more, rfl, -⟩ := h
  exact Nat.succ_pos _

/-- A text of spaces alone. -/
def Spaces (text : Text) : Prop :=
  ∀ c ∈ text, isSpace c = true

theorem Spaces.nil : Spaces [] :=
  nofun

theorem skip_spaces {spaces : Text} (h : Spaces spaces) (rest : Text) :
    skip (spaces ++ rest) = skip rest :=
  List.dropWhile_append_of_pos h

/-- Spaces may stand in front of what ends a value. -/
theorem Ends.spaces {spaces : Text} (h : Spaces spaces) (hrest : Ends rest) :
    Ends (spaces ++ rest) := by
  cases spaces with
  | nil => exact hrest
  | cons c spaces => exact .cons (.inr (.inr (.inr (h c List.mem_cons_self)))) _

/-- A value is read from a text, whatever ends it, with room for so many lists and objects within
each other. -/
def ReadsAs (room : Nat) (text : Text) (v : Value) : Prop :=
  Opens text ∧ ∀ fuel rest, text.length ≤ fuel → Ends rest →
    readValue fuel room (text ++ rest) = .ok (v, rest)

/-- What begins neither a string nor a list nor an object is a word or a number. -/
theorem readValue_of_plain {c : CodePoint} (hquote : c ≠ 0x22) (hbrace : c ≠ 0x7b)
    (hbracket : c ≠ 0x5b) (fuel room : Nat) (more : Text) :
    readValue (fuel + 1) room (c :: more) = match readWord? (c :: more) with
      | some found => .ok found
      | none => readNumber (c :: more) := by
  unfold readValue
  split
  · rename_i heq
    cases heq
    exact absurd rfl hquote
  · rename_i heq
    cases heq
    exact absurd rfl hbrace
  · rename_i heq
    cases heq
    exact absurd rfl hbracket
  · rfl

/-- A word is read as the value that it stands for. -/
theorem ReadsAs.word {word : Text} (h : (word, v) ∈ words) (room : Nat) : ReadsAs room word v := by
  simp only [words, List.mem_cons, List.not_mem_nil, or_false, Prod.mk.injEq] at h
  rcases h with ⟨rfl, rfl⟩ | ⟨rfl, rfl⟩ | ⟨rfl, rfl⟩ | ⟨rfl, rfl⟩ | ⟨rfl, rfl⟩ | ⟨rfl, rfl⟩
  all_goals
    refine ⟨⟨_, _, rfl, rfl, by decide, by decide, by decide⟩, fun fuel rest hfuel _ => ?_⟩
    cases fuel with
    | zero => cases hfuel
    | succ fuel => rfl

/-- The first two code points of a word are no digits. -/
theorem exists_of_mem_words {word : Text × Value} (h : word ∈ words) :
    ∃ d e tail, word.1 = d :: e :: tail ∧ Text.isAsciiDigit d = false ∧
      Text.isAsciiDigit e = false := by
  simp only [words, List.mem_cons, List.not_mem_nil, or_false] at h
  rcases h with rfl | rfl | rfl | rfl | rfl | rfl
  all_goals exact ⟨_, _, _, rfl, rfl, rfl⟩

/-- No word begins with a digit, nor with a sign and a digit. -/
theorem readWord?_of_digit {c : CodePoint} {more : Text} (hdigit : Text.isAsciiDigit c = true)
    (htext : text = c :: more ∨ text = 0x2d :: c :: more) : readWord? text = none := by
  have hother : ∀ d, Text.isAsciiDigit d = false → (d == c) = false := by
    intro d hd
    refine beq_false_of_ne ?_
    rintro rfl
    rw [hdigit] at hd
    cases hd
  rw [readWord?, Option.map_eq_none_iff, List.find?_eq_none]
  intro word hword
  obtain ⟨d, e, tail, heq, hd, he⟩ := exists_of_mem_words hword
  rw [Text.startsWith, heq]
  rcases htext with rfl | rfl
  · simp only [List.isPrefixOf, hother d hd, Bool.false_and]
    exact Bool.false_ne_true
  · simp only [List.isPrefixOf, hother e he, Bool.false_and, Bool.and_false]
    exact Bool.false_ne_true

theorem opens_of_digit {c : CodePoint} (h : Text.isAsciiDigit c = true) :
    isSpace c = false ∧ c ≠ 0x5d ∧ c ≠ 0x7d ∧ c < 0x80 ∧ c ≠ 0x22 ∧ c ≠ 0x7b ∧ c ≠ 0x5b := by
  have hall : ∀ c < 0x80, Text.isAsciiDigit c = true →
      isSpace c = false ∧ c ≠ 0x5d ∧ c ≠ 0x7d ∧ c < 0x80 ∧ c ≠ 0x22 ∧ c ≠ 0x7b ∧ c ≠ 0x5b := by
    decide
  have hlimit := h
  rw [Text.isAsciiDigit, Bool.and_eq_true, decide_eq_true_iff, decide_eq_true_iff] at hlimit
  exact hall c (Nat.lt_of_le_of_lt hlimit.2 (by decide)) h

/-- A number is read as such. -/
theorem ReadsAs.number (hread : readNumber text = .ok (v, [])) (room : Nat) :
    ReadsAs room text v := by
  obtain ⟨c, more, hdigit, htext⟩ := exists_digit_of_readNumber hread
  have hfirst : ∃ d tail, text = d :: tail ∧ isSpace d = false ∧ d ≠ 0x5d ∧ d ≠ 0x7d ∧
      d < 0x80 ∧ d ≠ 0x22 ∧ d ≠ 0x7b ∧ d ≠ 0x5b := by
    rcases htext with rfl | rfl
    · exact ⟨c, more, rfl, opens_of_digit hdigit⟩
    · exact ⟨0x2d, c :: more, rfl, by decide⟩
  obtain ⟨d, tail, heq, hspace, hlist, hobject, hascii, hquote, hbrace, hbracket⟩ := hfirst
  refine ⟨⟨d, tail, heq, hspace, hlist, hobject, hascii⟩, fun fuel rest hfuel hrest => ?_⟩
  have hword : readWord? (text ++ rest) = none := by
    rcases htext with rfl | rfl
    · exact readWord?_of_digit hdigit (.inl rfl)
    · exact readWord?_of_digit hdigit (.inr rfl)
  have hnumber := readNumber_append hrest hread
  cases fuel with
  | zero =>
    rw [heq] at hfuel
    cases hfuel
  | succ fuel =>
    rw [heq] at hword hnumber ⊢
    rw [List.cons_append] at hword hnumber ⊢
    rw [readValue_of_plain hquote hbrace hbracket, hword]
    exact hnumber

/-- A string is read from its text up to the closing quote. -/
theorem ReadsAs.ofString {t : Text} (h : ∀ rest, readString (text ++ rest) = .ok (t, rest))
    (room : Nat) : ReadsAs room (0x22 :: text) (.text t) := by
  refine ⟨⟨0x22, text, rfl, rfl, by decide, by decide, by decide⟩, fun fuel rest hfuel _ => ?_⟩
  cases fuel with
  | zero => cases hfuel
  | succ fuel =>
    rw [List.cons_append, readValue]
    dsimp only
    rw [h rest]
    rfl

theorem ReadsAs.string (t : Text) (room : Nat) : ReadsAs room (string t) (.text t) := by
  have hbody : ∀ rest, readString (t.flatMap escape ++ [0x22] ++ rest) = .ok (t, rest) := by
    intro rest
    rw [List.append_assoc]
    exact readString_escaped t rest
  exact .ofString hbody room

/-! ## Lists -/

/-- The items of a list are read from a text up to the closing bracket, whatever stands behind. -/
def ReadsItems (room : Nat) (text : Text) (items : List Value) : Prop :=
  Opens text ∧ ∀ fuel rest, text.length ≤ fuel →
    readItems fuel room (text ++ rest) = .ok (items, rest)

variable {spaces spaces' part : Text} {item : Value} {items : List Value}

theorem ReadsItems.last (hitem : ReadsAs room part item) (hspaces : Spaces spaces) :
    ReadsItems room (part ++ (spaces ++ [0x5d])) [item] := by
  refine ⟨hitem.1.append _, fun fuel rest hfuel => ?_⟩
  have hpos := hitem.1.length_pos
  simp only [List.length_append, List.length_singleton] at hfuel
  cases fuel with
  | zero => omega
  | succ fuel =>
    have hends : Ends (spaces ++ 0x5d :: rest) := .spaces hspaces (.cons (by decide) rest)
    have hskip : skip (spaces ++ 0x5d :: rest) = 0x5d :: rest := skip_spaces hspaces _
    have htext : part ++ (spaces ++ [0x5d]) ++ rest = part ++ (spaces ++ 0x5d :: rest) := by simp
    rw [htext, readItems, hitem.2 fuel _ (by omega) hends, ok_bind]
    dsimp only
    rw [hskip]
    rfl

theorem ReadsItems.more (hitem : ReadsAs room part item) (hspaces : Spaces spaces)
    (hspaces' : Spaces spaces') (hitems : ReadsItems room text items) :
    ReadsItems room (part ++ (spaces ++ 0x2c :: (spaces' ++ text))) (item :: items) := by
  refine ⟨hitem.1.append _, fun fuel rest hfuel => ?_⟩
  have hpos := hitem.1.length_pos
  simp only [List.length_append, List.length_cons] at hfuel
  cases fuel with
  | zero => omega
  | succ fuel =>
    have hends : Ends (spaces ++ 0x2c :: (spaces' ++ (text ++ rest))) :=
      .spaces hspaces (.cons (by decide) _)
    have hskip : skip (spaces ++ 0x2c :: (spaces' ++ (text ++ rest)))
        = 0x2c :: (spaces' ++ (text ++ rest)) := skip_spaces hspaces _
    have hskip' : skip (spaces' ++ (text ++ rest)) = text ++ rest := by
      rw [skip_spaces hspaces', skip_of_opens hitems.1]
    have htext : part ++ (spaces ++ 0x2c :: (spaces' ++ text)) ++ rest
        = part ++ (spaces ++ 0x2c :: (spaces' ++ (text ++ rest))) := by simp
    rw [htext, readItems, hitem.2 fuel _ (by omega) hends, ok_bind]
    dsimp only
    rw [hskip]
    show (readItems fuel room (skip (spaces' ++ (text ++ rest))) >>= _) = _
    rw [hskip', hitems.2 fuel rest (by omega)]
    rfl

theorem ReadsAs.nilList (hspaces : Spaces spaces) (room : Nat) :
    ReadsAs (room + 1) (0x5b :: (spaces ++ [0x5d])) (.list []) := by
  refine ⟨⟨0x5b, _, rfl, rfl, by decide, by decide, by decide⟩, fun fuel rest hfuel _ => ?_⟩
  cases fuel with
  | zero => cases hfuel
  | succ fuel =>
    have hskip : skip (spaces ++ 0x5d :: rest) = 0x5d :: rest := skip_spaces hspaces _
    have htext : 0x5b :: (spaces ++ [0x5d]) ++ rest = 0x5b :: (spaces ++ 0x5d :: rest) := by simp
    rw [htext, readValue]
    dsimp only
    rw [if_neg (Nat.succ_ne_zero room), hskip]
    rfl

theorem ReadsAs.ofItems (hspaces : Spaces spaces) (h : ReadsItems room text items) :
    ReadsAs (room + 1) (0x5b :: (spaces ++ text)) (.list items) := by
  refine ⟨⟨0x5b, _, rfl, rfl, by decide, by decide, by decide⟩, fun fuel rest hfuel _ => ?_⟩
  cases fuel with
  | zero => cases hfuel
  | succ fuel =>
    simp only [List.length_cons, List.length_append] at hfuel
    have hread := h.2 fuel rest (by omega)
    have hskip : skip (spaces ++ (text ++ rest)) = text ++ rest := by
      rw [skip_spaces hspaces, skip_of_opens h.1]
    obtain ⟨c, more, heq, -, hclose, -⟩ := h.1
    have htext : 0x5b :: (spaces ++ text) ++ rest = 0x5b :: (spaces ++ (text ++ rest)) := by simp
    rw [htext, readValue]
    dsimp only
    rw [if_neg (Nat.succ_ne_zero room), hskip, Nat.add_sub_cancel]
    rw [heq, List.cons_append] at hread ⊢
    split
    · rename_i hempty
      cases hempty
      exact absurd rfl hclose
    · rw [hread]
      rfl

theorem join_cons_cons (part next : Text) (parts : List Text) :
    Text.join ", " (part :: next :: parts)
      = part ++ 0x2c :: 0x20 :: Text.join ", " (next :: parts) :=
  List.append_assoc part [0x2c, 0x20] (Text.join ", " (next :: parts))

/-- The items of a list are read from their texts with commas in between. -/
theorem readsItems_join {parts : List Text} (hitem : ReadsAs room part item)
    (hitems : List.Forall₂ (fun item part => ReadsAs room part item) items parts) :
    ReadsItems room (Text.join ", " (part :: parts) ++ [0x5d]) (item :: items) := by
  induction hitems generalizing item part with
  | nil => exact .last hitem .nil
  | @cons next nextPart items parts hnext _ ih =>
    have htext : Text.join ", " (part :: nextPart :: parts) ++ [0x5d]
        = part ++ ([] ++ 0x2c :: ([0x20] ++ (Text.join ", " (nextPart :: parts) ++ [0x5d]))) := by
      rw [join_cons_cons]
      simp
    rw [htext]
    exact .more hitem .nil (List.forall_mem_singleton.2 rfl) (ih hnext)

/-- A list is read from the texts of its items. -/
theorem ReadsAs.list {parts : List Text}
    (h : List.Forall₂ (fun item part => ReadsAs room part item) items parts) :
    ReadsAs (room + 1) (Text.concat ["[", Text.join ", " parts, "]"]) (.list items) := by
  have htext : Text.concat ["[", Text.join ", " parts, "]"]
      = 0x5b :: ([] ++ (Text.join ", " parts ++ [0x5d])) := by
    simp [Text.concat, Text.ofString]
  rw [htext]
  cases h with
  | nil => exact .nilList .nil room
  | cons hitem hitems => exact .ofItems .nil (readsItems_join hitem hitems)

/-! ## Objects -/

/-- A field is read from a text: its name up to the closing quote, a colon, and its value. -/
def ReadsField (room : Nat) (field : Text × Value) (part : Text) : Prop :=
  ∃ name spaces spaces' text, Spaces spaces ∧ Spaces spaces' ∧ ReadsAs room text field.2 ∧
    (∀ rest, readString (name ++ rest) = .ok (field.1, rest)) ∧
    part = 0x22 :: (name ++ (spaces ++ 0x3a :: (spaces' ++ text)))

theorem ReadsField.opens {field : Text × Value} (h : ReadsField room field part) :
    Opens part := by
  obtain ⟨name, spaces, spaces', text, -, -, -, -, rfl⟩ := h
  exact ⟨0x22, _, rfl, rfl, by decide, by decide, by decide⟩

/-- A field is read from the text that it is written as. -/
theorem readsField_concat {field : Text × Value} (h : ReadsAs room text field.2) :
    ReadsField room field (Text.concat [string field.1, ": ", text]) := by
  refine ⟨field.1.flatMap escape ++ [0x22], [], [0x20], text, .nil,
    List.forall_mem_singleton.2 rfl, h, fun rest => ?_, ?_⟩
  · rw [List.append_assoc]
    exact readString_escaped field.1 rest
  · simp [Text.concat, Text.ofString, string]

/-- One field is read and set, and then what follows it. -/
theorem readFields_field {field : Text × Value} (h : ReadsField room field part)
    (hfuel : part.length ≤ fuel) (hrest : Ends rest) (fields : Fields) :
    readFields (fuel + 1) room fields (part ++ rest) =
      match skip rest with
      | 0x7d :: rest => .ok (Assoc.set fields field.1 field.2, rest)
      | 0x2c :: rest => readFields fuel room (Assoc.set fields field.1 field.2) (skip rest)
      | rest => stop .expectingComma rest := by
  obtain ⟨name, spaces, spaces', text, hspaces, hspaces', ⟨hopens, hread⟩, hname, rfl⟩ := h
  have hlength : text.length ≤ fuel := by
    simp only [List.length_cons, List.length_append] at hfuel
    omega
  have hskip : skip (spaces ++ 0x3a :: (spaces' ++ (text ++ rest)))
      = 0x3a :: (spaces' ++ (text ++ rest)) := skip_spaces hspaces _
  have hskip' : skip (spaces' ++ (text ++ rest)) = text ++ rest := by
    rw [skip_spaces hspaces', skip_of_opens hopens]
  have htext : 0x22 :: (name ++ (spaces ++ 0x3a :: (spaces' ++ text))) ++ rest
      = 0x22 :: (name ++ (spaces ++ 0x3a :: (spaces' ++ (text ++ rest)))) := by simp
  rw [htext, readFields]
  dsimp only
  rw [hname, ok_bind]
  dsimp only
  rw [hskip]
  show (readValue fuel room (skip (spaces' ++ (text ++ rest))) >>= _) = _
  rw [hskip', hread fuel rest hlength hrest]
  rfl

/-- The fields of an object are read from a text up to the closing brace, whatever stands behind,
and set behind those that were read before. -/
def ReadsFields (room : Nat) (before : Fields) (text : Text) (fields : Fields) : Prop :=
  Opens text ∧ ∀ fuel rest, text.length ≤ fuel →
    readFields fuel room before (text ++ rest) = .ok (fields, rest)

variable {before fields : Fields} {field : Text × Value}

theorem ReadsFields.last (hfield : ReadsField room field part) (hspaces : Spaces spaces) :
    ReadsFields room before (part ++ (spaces ++ [0x7d]))
      (Assoc.set before field.1 field.2) := by
  refine ⟨hfield.opens.append _, fun fuel rest hfuel => ?_⟩
  have hpos := hfield.opens.length_pos
  simp only [List.length_append, List.length_singleton] at hfuel
  cases fuel with
  | zero => omega
  | succ fuel =>
    have hends : Ends (spaces ++ 0x7d :: rest) := .spaces hspaces (.cons (by decide) rest)
    have hskip : skip (spaces ++ 0x7d :: rest) = 0x7d :: rest := skip_spaces hspaces _
    have htext : part ++ (spaces ++ [0x7d]) ++ rest = part ++ (spaces ++ 0x7d :: rest) := by simp
    rw [htext, readFields_field hfield (by omega) hends, hskip]
    rfl

theorem ReadsFields.more (hfield : ReadsField room field part) (hspaces : Spaces spaces)
    (hspaces' : Spaces spaces')
    (hfields : ReadsFields room (Assoc.set before field.1 field.2) text fields) :
    ReadsFields room before (part ++ (spaces ++ 0x2c :: (spaces' ++ text))) fields := by
  refine ⟨hfield.opens.append _, fun fuel rest hfuel => ?_⟩
  have hpos := hfield.opens.length_pos
  simp only [List.length_append, List.length_cons] at hfuel
  cases fuel with
  | zero => omega
  | succ fuel =>
    have hends : Ends (spaces ++ 0x2c :: (spaces' ++ (text ++ rest))) :=
      .spaces hspaces (.cons (by decide) _)
    have hskip : skip (spaces ++ 0x2c :: (spaces' ++ (text ++ rest)))
        = 0x2c :: (spaces' ++ (text ++ rest)) := skip_spaces hspaces _
    have hskip' : skip (spaces' ++ (text ++ rest)) = text ++ rest := by
      rw [skip_spaces hspaces', skip_of_opens hfields.1]
    have htext : part ++ (spaces ++ 0x2c :: (spaces' ++ text)) ++ rest
        = part ++ (spaces ++ 0x2c :: (spaces' ++ (text ++ rest))) := by simp
    rw [htext, readFields_field hfield (by omega) hends, hskip]
    show readFields fuel room (Assoc.set before field.1 field.2) (skip (spaces' ++ (text ++ rest)))
      = Except.ok (fields, rest)
    rw [hskip', hfields.2 fuel rest (by omega)]

theorem ReadsAs.nilObject (hspaces : Spaces spaces) (room : Nat) :
    ReadsAs (room + 1) (0x7b :: (spaces ++ [0x7d])) (.object []) := by
  refine ⟨⟨0x7b, _, rfl, rfl, by decide, by decide, by decide⟩, fun fuel rest hfuel _ => ?_⟩
  cases fuel with
  | zero => cases hfuel
  | succ fuel =>
    have hskip : skip (spaces ++ 0x7d :: rest) = 0x7d :: rest := skip_spaces hspaces _
    have htext : 0x7b :: (spaces ++ [0x7d]) ++ rest = 0x7b :: (spaces ++ 0x7d :: rest) := by simp
    rw [htext, readValue]
    dsimp only
    rw [if_neg (Nat.succ_ne_zero room), hskip]
    rfl

theorem ReadsAs.ofFields (hspaces : Spaces spaces) (h : ReadsFields room [] text fields) :
    ReadsAs (room + 1) (0x7b :: (spaces ++ text)) (.object fields) := by
  refine ⟨⟨0x7b, _, rfl, rfl, by decide, by decide, by decide⟩, fun fuel rest hfuel _ => ?_⟩
  cases fuel with
  | zero => cases hfuel
  | succ fuel =>
    simp only [List.length_cons, List.length_append] at hfuel
    have hread := h.2 fuel rest (by omega)
    have hskip : skip (spaces ++ (text ++ rest)) = text ++ rest := by
      rw [skip_spaces hspaces, skip_of_opens h.1]
    obtain ⟨c, more, heq, -, -, hclose, -⟩ := h.1
    have htext : 0x7b :: (spaces ++ text) ++ rest = 0x7b :: (spaces ++ (text ++ rest)) := by simp
    rw [htext, readValue]
    dsimp only
    rw [if_neg (Nat.succ_ne_zero room), hskip, Nat.add_sub_cancel]
    rw [heq, List.cons_append] at hread ⊢
    split
    · rename_i hempty
      cases hempty
      exact absurd rfl hclose
    · rw [hread]
      rfl

/-- A name that is not there yet is set at the end. -/
theorem set_of_notMem {α : Type} {entries : Assoc α} {name : Text} (thing : α)
    (h : name ∉ entries.map Prod.fst) :
    Assoc.set entries name thing = entries ++ [(name, thing)] := by
  induction entries with
  | nil => rfl
  | cons entry entries ih =>
    rw [List.map_cons, List.mem_cons, not_or] at h
    rw [Assoc.set, if_neg (Ne.symm h.1), ih h.2]
    rfl

theorem set_of_nodup {α : Type} {before fields : Assoc α} {field : Text × α}
    (h : ((before ++ field :: fields).map Prod.fst).Nodup) :
    Assoc.set before field.1 field.2 = before ++ [field] := by
  refine set_of_notMem field.2 fun hmem => ?_
  rw [List.map_append, List.map_cons, List.nodup_append] at h
  exact h.2.2 _ hmem _ List.mem_cons_self rfl

/-- The fields of an object are read from their texts with commas in between, behind those that
were read before. -/
theorem readsFields_join {parts : List Text} (hfield : ReadsField room field part)
    (hfields : List.Forall₂ (ReadsField room) fields parts)
    (hnames : ((before ++ field :: fields).map Prod.fst).Nodup) :
    ReadsFields room before (Text.join ", " (part :: parts) ++ [0x7d])
      (before ++ field :: fields) := by
  have hset := set_of_nodup hnames
  induction hfields generalizing before field part with
  | nil =>
    rw [← hset]
    exact .last hfield .nil
  | @cons next nextPart fields parts hnext _ ih =>
    have hsplit : before ++ field :: next :: fields = (before ++ [field]) ++ next :: fields := by
      simp
    have htext : Text.join ", " (part :: nextPart :: parts) ++ [0x7d]
        = part ++ ([] ++ 0x2c :: ([0x20] ++ (Text.join ", " (nextPart :: parts) ++ [0x7d]))) := by
      rw [join_cons_cons]
      simp
    rw [hsplit] at hnames ⊢
    rw [htext]
    refine .more hfield .nil (List.forall_mem_singleton.2 rfl) ?_
    rw [hset]
    exact ih hnext hnames (set_of_nodup hnames)

/-- An object is read from the texts of its fields, which have distinct names. -/
theorem ReadsAs.object {parts : List Text} (h : List.Forall₂ (ReadsField room) fields parts)
    (hnames : (fields.map Prod.fst).Nodup) :
    ReadsAs (room + 1) (Text.concat ["\x7b", Text.join ", " parts, "\x7d"]) (.object fields) := by
  have htext : Text.concat ["\x7b", Text.join ", " parts, "\x7d"]
      = 0x7b :: ([] ++ (Text.join ", " parts ++ [0x7d])) := by
    simp [Text.concat, Text.ofString]
  rw [htext]
  cases h with
  | nil => exact .nilObject .nil room
  | @cons field part fields parts hfield hfields =>
    have hread : ReadsFields room [] (Text.join ", " (part :: parts) ++ [0x7d])
        ([] ++ field :: fields) := readsFields_join hfield hfields hnames
    exact .ofFields .nil hread

/-! ## Values -/

/-- A value that a reader can give is read back from its text in the room in which it was
written: writer and reader descend alike. -/
theorem readsAs_of_write (hread : v.Throughout Value.IsRead)
    (hfloats : v.Throughout Value.ReadsBack) (hwrite : writeValue false room v = .ok text) :
    ReadsAs room text v := by
  induction v using Value.nestedInduction generalizing text room with
  | null =>
    rw [writeValue] at hwrite
    cases hwrite
    exact .word (by simp [words]) room
  | bool b =>
    rw [writeValue] at hwrite
    cases hwrite
    cases b with
    | false => exact .word (by simp [words]) room
    | true => exact .word (by simp [words]) room
  | int i =>
    rw [writeValue, integer] at hwrite
    split at hwrite
    · rename_i hlimit
      cases hwrite
      exact .number (readNumber_ofInt hlimit) room
    · cases hwrite
  | float x =>
    rw [writeValue, float] at hwrite
    split at hwrite
    · cases hwrite
      exact .number hfloats room
    · cases hwrite
  | text t =>
    rw [writeValue] at hwrite
    cases hwrite
    exact .string t room
  | bytes octets =>
    rw [writeValue] at hwrite
    cases hwrite
  | foreign =>
    rw [writeValue] at hwrite
    cases hwrite
  | tuple items => exact hread.self.elim
  | list items ih =>
    obtain ⟨inner, rfl, parts, hparts, rfl⟩ := writeValue_list_eq_ok_iff.1 hwrite
    refine .list (forall₂_imp_of_mem hparts fun item hitem part hwritten => ?_)
    exact ih item hitem ((Value.throughout_list.1 hread).2 item hitem)
      ((Value.throughout_list.1 hfloats).2 item hitem) hwritten
  | object fields ih =>
    obtain ⟨inner, rfl, parts, hparts, rfl⟩ := writeValue_object_eq_ok_iff.1 hwrite
    refine .object (forall₂_imp_of_mem hparts fun field hfield part hwritten => ?_) hread.self
    obtain ⟨text, hvalue, rfl⟩ := hwritten
    exact readsField_concat (ih field hfield ((Value.throughout_object.1 hread).2 field hfield)
      ((Value.throughout_object.1 hfloats).2 field hfield) hvalue)

/-- A text that is read as a value, whatever ends it, is a document. -/
theorem ReadsAs.readWhole (h : ReadsAs depthLimit text v) : readWhole text = .ok v := by
  have hskip := skip_of_opens h.1 []
  have hvalue := h.2 (2 * text.length + 2) [] (by omega) .nil
  rw [List.append_nil] at hskip hvalue
  rw [Json.readWhole, hskip, hvalue]
  rfl

theorem ReadsAs.read (h : ReadsAs depthLimit text v) : read text = .ok v := by
  have hmark : text.head? ≠ some Encoding.mark := by
    obtain ⟨⟨c, more, heq, -, -, -, hascii⟩, -⟩ := h
    rw [heq]
    rintro ⟨⟩
    exact absurd hascii (by decide)
  rw [Json.read, if_neg hmark]
  exact h.readWhole

/-- A value that a reader can give is read back from its text. -/
theorem read_write (hread : v.Throughout Value.IsRead) (hfloats : v.Throughout Value.ReadsBack)
    (hwrite : write false v = .ok text) : read text = .ok v :=
  (readsAs_of_write hread hfloats hwrite).read

/-! ## Octets -/

theorem encode_eq_ok {octets : Bytes} (h : encode v = .ok octets) :
    ∃ text, write false v = .ok text ∧ Utf8.encode text = .ok octets := by
  unfold encode at h
  split at h
  · cases h
  · rename_i text hwrite
    split at h
    · cases h
    · rename_i octets hoctets
      cases h
      exact ⟨text, hwrite, hoctets⟩

/-- The octets of a legible text that begins with a letter of ASCII are taken for UTF-8. -/
theorem decodeDocument_encode {octets : Bytes} (hopens : Opens text) (hlegible : text.Legible)
    (hoctets : Utf8.encode text = .ok octets) : Encoding.decodeDocument octets = .ok text := by
  have hrange : ∀ c ∈ text, c < 0x110000 := fun c hc => (hlegible c hc).2
  have hzero : ∀ b ∈ octets, b ≠ 0 := by
    intro b hb
    rw [(Utf8.encode_eq_ok hoctets).2] at hb
    obtain ⟨c, hc, hb⟩ := List.mem_flatMap.1 hb
    have hpos : (0x20 : Nat) ≤ c := (hlegible c hc).1
    exact Utf8.encodePoint_ne_zero (by omega) (hrange c hc) b hb
  have hdecode := Utf8.decode_encode hrange hoctets
  obtain ⟨c, more, rfl, -, -, -, hascii⟩ := hopens
  have hoctet : Utf8.encodePoint c = [c.toUInt8] := if_pos hascii
  have hfirst : octets = c.toUInt8 :: more.flatMap Utf8.encodePoint := by
    rw [(Utf8.encode_eq_ok hoctets).2, List.flatMap_cons, hoctet]
    rfl
  have hsmall : c.toUInt8 < 0x80 := by
    have hoctet : c < 0x100 := Nat.lt_of_lt_of_le hascii (by decide)
    rw [UInt8.lt_iff_toNat_lt, Utf8.toNat_toUInt8_of_lt hoctet]
    exact hascii
  have hdetect : Encoding.detect octets = (.utf8, 0) := by
    rw [hfirst] at hzero ⊢
    exact Encoding.detect_of_nonzero hsmall hzero
  rw [Encoding.decodeDocument, hdetect]
  dsimp only
  rw [List.drop_zero, hdecode]

/-- A value that a reader can give is read back from its octets. -/
theorem decode_encode {octets : Bytes} (hread : v.Throughout Value.IsRead)
    (hfloats : v.Throughout Value.ReadsBack) (hrange : v.Throughout Value.InRange)
    (h : encode v = .ok octets) : decode octets = .ok v := by
  obtain ⟨text, hwrite, hoctets⟩ := encode_eq_ok h
  have hreads := readsAs_of_write hread hfloats hwrite
  have htext := decodeDocument_encode hreads.1 (writeValue_legible hrange hwrite) hoctets
  rw [decode, htext]
  dsimp only
  rw [hreads.readWhole]

end Json

end Colloquy
