import Colloquy.Proofs.Json.Read
import Colloquy.Wire.Basic

/-!
# Room for documents

The writer refuses a value at the first place where it cannot go on.  When that is for
want of room, the exception is not one of the library's own and passes through
`dumpPayload`.  `Json.Overflows room v` says that this happens: something in `v` lies too
deep, and all that is written before it can be written (`Json.overflows_iff`).

It happens to deep values alone (`Json.Overflows.lt_depth`), and to none that a reader
with the same room gave (`Json.Fits.not_overflows`).
-/

namespace Colloquy

namespace Json

variable {names : Bool} {room : Nat} {v : Value} {items : List Value} {fields : Fields}

/-! ## Where the room ends -/

/-- A value can be written in so much room. -/
def Writes (room : Nat) (v : Value) : Prop :=
  ∃ text, writeValue false room v = .ok text

/-- Writing a value runs out of room: at a sequence or an object for which there is none left, or at
a value that no writer knows, which takes two units to refuse.  All that comes before it can be
written. -/
inductive Overflows : Nat → Value → Prop
  | list (items : List Value) : Overflows 0 (.list items)
  | tuple (items : List Value) : Overflows 0 (.tuple items)
  | object (fields : Fields) : Overflows 0 (.object fields)
  | bytes {room : Nat} (hroom : room < 2) (octets : Bytes) : Overflows room (.bytes octets)
  | foreign {room : Nat} (hroom : room < 2) : Overflows room .foreign
  | item {room : Nat} {front : List Value} {item : Value} {back : List Value}
      (hfront : ∀ earlier ∈ front, Writes room earlier) (hitem : Overflows room item) :
      Overflows (room + 1) (.list (front ++ item :: back))
  | member {room : Nat} {front : List Value} {item : Value} {back : List Value}
      (hfront : ∀ earlier ∈ front, Writes room earlier) (hitem : Overflows room item) :
      Overflows (room + 1) (.tuple (front ++ item :: back))
  | field {room : Nat} {front : Fields} {field : Text × Value} {back : Fields}
      (hfront : ∀ earlier ∈ front, Writes room earlier.2) (hfield : Overflows room field.2) :
      Overflows (room + 1) (.object (front ++ field :: back))

theorem writeField_isOk_iff {field : Text × Value} :
    (∃ text, writeField false room field = .ok text) ↔ Writes room field.2 := by
  simp only [writeField_eq_ok_iff, WritesField, Writes]
  constructor
  · rintro ⟨_, text, h, -⟩
    exact ⟨text, h⟩
  · rintro ⟨text, h⟩
    exact ⟨_, text, h, rfl⟩

theorem map_eq_error_iff {α β : Type} {r : Except Refusal α} {f : α → β} {refusal : Refusal} :
    r.map f = .error refusal ↔ r = .error refusal := by
  cases r <;> simp [Except.map]

theorem writeField_eq_error_iff {field : Text × Value} {refusal : Refusal} :
    writeField names room field = .error refusal ↔
      writeValue names room field.2 = .error refusal :=
  map_eq_error_iff

/-- A value is refused for want of room. -/
def TooDeep (room : Nat) (v : Value) : Prop :=
  ∃ doing, writeValue false room v = .error (.tooDeep doing)

theorem tooDeep_unknown_iff : (∃ doing, unknown room v = .tooDeep doing) ↔ room < 2 := by
  match room with
  | 0 => exact iff_of_true ⟨_, rfl⟩ (by decide)
  | 1 => exact iff_of_true ⟨_, rfl⟩ (by decide)
  | room + 2 => exact iff_of_false nofun (by omega)

theorem tooDeep_list_iff : TooDeep (room + 1) (.list items) ↔
    ∃ front item back, items = front ++ item :: back ∧ (∀ earlier ∈ front, Writes room earlier) ∧
      TooDeep room item := by
  simp only [TooDeep, writeValue, map_eq_error_iff, writeItems_eq_mapM, mapM_eq_error_iff]
  constructor
  · rintro ⟨doing, front, item, back, hitems, hfront, hitem⟩
    exact ⟨front, item, back, hitems, hfront, doing, hitem⟩
  · rintro ⟨front, item, back, hitems, hfront, doing, hitem⟩
    exact ⟨doing, front, item, back, hitems, hfront, hitem⟩

theorem tooDeep_object_iff : TooDeep (room + 1) (.object fields) ↔
    ∃ front field back, fields = front ++ field :: back ∧
      (∀ earlier ∈ front, Writes room earlier.2) ∧ TooDeep room field.2 := by
  simp only [TooDeep, writeValue, map_eq_error_iff, writeFields_eq_mapM, mapM_eq_error_iff,
    writeField_eq_error_iff, writeField_isOk_iff]
  constructor
  · rintro ⟨doing, front, field, back, hfields, hfront, hfield⟩
    exact ⟨front, field, back, hfields, hfront, doing, hfield⟩
  · rintro ⟨front, field, back, hfields, hfront, doing, hfield⟩
    exact ⟨doing, front, field, back, hfields, hfront, hfield⟩

theorem Overflows.tooDeep (h : Overflows room v) : TooDeep room v := by
  induction h with
  | list | tuple | object => exact ⟨_, by rw [writeValue]; rfl⟩
  | bytes hroom octets =>
    obtain ⟨doing, hdoing⟩ := (tooDeep_unknown_iff (v := .bytes octets)).2 hroom
    exact ⟨doing, by rw [writeValue, hdoing]⟩
  | foreign hroom =>
    obtain ⟨doing, hdoing⟩ := (tooDeep_unknown_iff (v := .foreign)).2 hroom
    exact ⟨doing, by rw [writeValue, hdoing]⟩
  | item hfront _ ih => exact tooDeep_list_iff.2 ⟨_, _, _, rfl, hfront, ih⟩
  | member hfront _ ih =>
    rw [TooDeep, writeValue_tuple]
    exact tooDeep_list_iff.2 ⟨_, _, _, rfl, hfront, ih⟩
  | field hfront _ ih => exact tooDeep_object_iff.2 ⟨_, _, _, rfl, hfront, ih⟩

theorem overflows_of_tooDeep (h : TooDeep room v) : Overflows room v := by
  induction v using Value.nestedInduction generalizing room with
  | null | bool | text =>
    obtain ⟨doing, h⟩ := h
    rw [writeValue] at h
    cases h
  | int i =>
    obtain ⟨doing, h⟩ := h
    rw [writeValue, integer] at h
    split at h <;> cases h
  | float x =>
    obtain ⟨doing, h⟩ := h
    rw [writeValue, float] at h
    split at h <;> cases h
  | bytes octets =>
    obtain ⟨doing, h⟩ := h
    rw [writeValue, Except.error.injEq] at h
    exact .bytes (tooDeep_unknown_iff.1 ⟨doing, h⟩) octets
  | foreign =>
    obtain ⟨doing, h⟩ := h
    rw [writeValue, Except.error.injEq] at h
    exact .foreign (tooDeep_unknown_iff.1 ⟨doing, h⟩)
  | list items ih =>
    cases room with
    | zero => exact .list items
    | succ room =>
      obtain ⟨front, item, back, rfl, hfront, hitem⟩ := tooDeep_list_iff.1 h
      exact .item hfront (ih item (by simp) hitem)
  | tuple items ih =>
    cases room with
    | zero => exact .tuple items
    | succ room =>
      rw [TooDeep, writeValue_tuple] at h
      obtain ⟨front, item, back, rfl, hfront, hitem⟩ := tooDeep_list_iff.1 h
      exact .member hfront (ih item (by simp) hitem)
  | object fields ih =>
    cases room with
    | zero => exact .object fields
    | succ room =>
      obtain ⟨front, field, back, rfl, hfront, hfield⟩ := tooDeep_object_iff.1 h
      exact .field hfront (ih field (by simp) hfield)

/-- Writing runs out of room just when the refusal says so. -/
theorem overflows_iff : Overflows room v ↔ TooDeep room v :=
  ⟨Overflows.tooDeep, overflows_of_tooDeep⟩

/-! ## Which values are too deep -/

/-- Only values run out of room that lie as deep as there is room for, or one less where something
no writer knows is at the bottom. -/
theorem Overflows.lt_depth (h : Overflows room v) : room < v.depth + 2 := by
  induction h with
  | list | tuple | object => omega
  | bytes hroom | foreign hroom => exact hroom
  | @item room front item back _ _ ih =>
    have hdeep : item.depth ≤ Value.depthItems (front ++ item :: back) :=
      Value.depthItems_le_iff.1 (Nat.le_refl _) item (by simp)
    rw [Value.depth]
    omega
  | @member room front item back _ _ ih =>
    have hdeep : item.depth ≤ Value.depthItems (front ++ item :: back) :=
      Value.depthItems_le_iff.1 (Nat.le_refl _) item (by simp)
    rw [Value.depth]
    omega
  | @field room front field back _ _ ih =>
    have hdeep : field.2.depth ≤ Value.depthFields (front ++ field :: back) :=
      Value.depthFields_le_iff.1 (Nat.le_refl _) field (by simp)
    rw [Value.depth]
    omega

/-- What a reader gave can be written without running out of the same room. -/
theorem Fits.not_overflows (h : Fits room v) : ¬Overflows room v := by
  intro hover
  induction hover with
  | list | tuple | object => exact absurd h.2 (Nat.not_succ_le_zero _)
  | bytes | foreign => exact h.1.self.elim
  | member => exact h.1.self.elim
  | item _ _ ih =>
    exact ih ⟨(Value.throughout_list.1 h.1).2 _ (by simp),
      Value.depthItems_le_iff.1 (Nat.le_of_succ_le_succ h.2) _ (by simp)⟩
  | field _ _ ih =>
    exact ih ⟨(Value.throughout_object.1 h.1).2 _ (by simp),
      Value.depthFields_le_iff.1 (Nat.le_of_succ_le_succ h.2) _ (by simp)⟩

end Json

/-! ## Payloads -/

theorem Json.Refusal.escapes_reported_iff {α : Type} {refusal : Refusal} :
    Escapes (.error refusal.reported : Except Exception α) ↔ refusal.isTooDeep = true := by
  rw [reported]
  split
  · rename_i hdeep
    exact iff_of_true (escapes_foreign _ _) hdeep
  · rename_i hdeep
    exact iff_of_false (not_escapes_own _) hdeep

theorem Json.encode_eq_error_tooDeep_iff {v : Value} :
    (∃ refusal, encode v = .error refusal ∧ refusal.isTooDeep = true) ↔
      Overflows depthLimit v := by
  rw [overflows_iff, TooDeep, encode, write]
  cases writeValue false depthLimit v with
  | error refusal => cases refusal <;> simp [Refusal.isTooDeep]
  | ok text =>
    dsimp only
    cases Utf8.encode text with
    | ok octets => simp
    | error failure => simp [Refusal.isTooDeep]

/-- What is raised for a payload escapes when writing it runs out of room. -/
theorem dumpPayload_escapes_iff {v : Value} :
    Escapes (dumpPayload v) ↔ Json.Overflows Json.depthLimit v := by
  simp only [dumpPayload, escapes_mapError_iff, Json.Refusal.escapes_reported_iff,
    Json.encode_eq_error_tooDeep_iff]

end Colloquy
