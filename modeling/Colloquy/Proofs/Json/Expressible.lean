import Colloquy.Proofs.Chat.Arguments
import Colloquy.Proofs.Json.Room

/-!
# What documents express

`Value.Holds v w` says that `w` is within `v` at some depth.  Where there is room for it, a
document is refused just when something that no document expresses
(`Value.Inexpressible`) is held by it, and what is built from the types of documents alone
(`Value.IsPlain`) is read back from what was written: as arguments of a call, an object
comes back as it was.
-/

namespace Colloquy

namespace Value

variable {P Q : Value → Prop} {v w : Value}

/-! ## Values held -/

/-- The second value is the first one or lies within it, at any depth. -/
inductive Holds : Value → Value → Prop
  | self (v : Value) : Holds v v
  | item {items : List Value} {item w : Value} :
    item ∈ items → Holds item w → Holds (.list items) w
  | member {items : List Value} {item w : Value} :
    item ∈ items → Holds item w → Holds (.tuple items) w
  | field {fields : Fields} {field : Text × Value} {w : Value} :
    field ∈ fields → Holds field.2 w → Holds (.object fields) w

theorem Throughout.of_holds (h : v.Throughout P) (holds : v.Holds w) : P w := by
  induction holds with
  | self v => exact h.self
  | item mem _ ih => exact ih ((throughout_list.1 h).2 _ mem)
  | member mem _ ih => exact ih ((throughout_tuple.1 h).2 _ mem)
  | field mem _ ih => exact ih ((throughout_object.1 h).2 _ mem)

theorem throughout_of_forall_holds (h : ∀ w, v.Holds w → P w) : v.Throughout P := by
  induction v using nestedInduction with
  | list items ih =>
    apply throughout_list.2
    exact ⟨h _ (.self _), fun item mem => ih item mem fun w holds => h w (.item mem holds)⟩
  | tuple items ih =>
    apply throughout_tuple.2
    exact ⟨h _ (.self _), fun item mem => ih item mem fun w holds => h w (.member mem holds)⟩
  | object fields ih =>
    apply throughout_object.2
    exact ⟨h _ (.self _), fun field mem => ih field mem fun w holds => h w (.field mem holds)⟩
  | _ => exact h _ (.self _)

/-- What holds throughout a value holds of everything that the value holds. -/
theorem throughout_iff_holds : v.Throughout P ↔ ∀ w, v.Holds w → P w :=
  ⟨fun h _ holds => h.of_holds holds, throughout_of_forall_holds⟩

theorem Throughout.mono (h : v.Throughout P) (imp : ∀ w, P w → Q w) : v.Throughout Q := by
  apply throughout_of_forall_holds
  intro w holds
  exact imp w (h.of_holds holds)

/-! ## What no document expresses -/

/-- An integer has no more digits than are written. -/
def WithinDigits : Value → Prop
  | .int i => Decimal.digitCount i.natAbs ≤ Decimal.digitLimit
  | _ => True

/-- No document expresses a value: it is a float that is no finite number, octets or a foreign
object, a text with a surrogate, or an object with a surrogate in a name. -/
def Inexpressible : Value → Prop
  | .float x => x.isFinite = false
  | .bytes _ | .foreign => True
  | .text t => ∃ c ∈ t, Utf8.isSurrogate c = true
  | .object fields => ∃ field ∈ fields, ∃ c ∈ field.1, Utf8.isSurrogate c = true
  | .null | .bool _ | .int _ | .list _ | .tuple _ => False

/-- A value of the types that documents have, integers the only numbers: the names of an object
are distinct, and texts are made of code points. -/
def IsPlain : Value → Prop
  | .null | .bool _ | .int _ | .list _ => True
  | .text t => ∀ c ∈ t, c < 0x110000
  | .object fields =>
    (fields.map Prod.fst).Nodup ∧ ∀ field ∈ fields, ∀ c ∈ field.1, c < 0x110000
  | .float _ | .bytes _ | .tuple _ | .foreign => False

theorem IsPlain.isRead (h : v.IsPlain) : v.IsRead := by
  cases v with
  | object fields => exact h.1
  | tuple | bytes | foreign => exact h
  | _ => trivial

theorem IsPlain.readsBack (h : v.IsPlain) : v.ReadsBack := by
  cases v with
  | float x => exact h.elim
  | _ => trivial

theorem IsPlain.inRange (h : v.IsPlain) : v.InRange := by
  cases v with
  | text t => exact h
  | object fields => exact h.2
  | _ => trivial

end Value

/-! ## What can be sent -/

theorem Text.isClean_iff_not_exists {t : Text} :
    t.isClean = true ↔ ¬ ∃ c ∈ t, Utf8.isSurrogate c = true := by
  simp [isClean_iff]

namespace Json

variable {room : Nat} {v : Value}

theorem isSendable_int_iff {i : Int} :
    isSendable room (.int i) = true ↔ Decimal.digitCount i.natAbs ≤ Decimal.digitLimit := by
  rw [isSendable, writeValue, integer]
  by_cases within : Decimal.digitCount i.natAbs ≤ Decimal.digitLimit
  · simp [within, (Text.Ascii.ofInt i).isClean]
  · simp [within]

theorem isSendable_float_iff {x : Float} :
    isSendable room (.float x) = true ↔ x.isFinite = true := by
  have ascii : Text.Ascii (Decimal.Layout.document.ofFloat x) :=
    Decimal.Layout.ofFloat_ascii _ (by decide) (by decide) (by decide) x
  rw [isSendable, writeValue, float]
  cases finite : x.isFinite with
  | true => simp [ascii.isClean]
  | false => simp

/-- A tuple can be sent just when its items can. -/
theorem isSendable_tuple_iff {items : List Value} :
    isSendable (room + 1) (.tuple items) = true ↔ ∀ item ∈ items, isSendable room item = true := by
  rw [← isSendable_list_iff, isSendable, isSendable, writeValue_tuple]

/-- What can be sent is writable. -/
theorem isSendable_writes (h : isSendable room v = true) : Writes room v := by
  obtain ⟨text, written, -⟩ := isSendable_iff.1 h
  exact ⟨text, written⟩

/-- A sequence or an object that can be sent has room for what is in it. -/
theorem not_isSendable_zero_list (items : List Value) : isSendable 0 (.list items) = false := by
  rw [isSendable, writeValue]

theorem not_isSendable_zero_tuple (items : List Value) : isSendable 0 (.tuple items) = false := by
  rw [isSendable, writeValue]

theorem not_isSendable_zero_object (fields : Fields) :
    isSendable 0 (.object fields) = false := by
  rw [isSendable, writeValue]

/-- Nothing in what can be sent is beyond documents. -/
theorem isSendable_throughout (h : isSendable room v = true) :
    v.Throughout fun w => ¬ w.Inexpressible := by
  induction v using Value.nestedInduction generalizing room with
  | null | bool | int => exact id
  | float x => simpa [Value.Throughout, Value.Inexpressible] using isSendable_float_iff.1 h
  | text t => exact Text.isClean_iff_not_exists.1 (isSendable_text_iff.1 h)
  | bytes octets =>
    rw [isSendable, writeValue] at h
    cases h
  | foreign =>
    rw [isSendable, writeValue] at h
    cases h
  | list items ih =>
    cases room with
    | zero => simp [not_isSendable_zero_list] at h
    | succ room =>
      have sendable := isSendable_list_iff.1 h
      exact Value.throughout_list.2 ⟨id, fun item mem => ih item mem (sendable item mem)⟩
  | tuple items ih =>
    cases room with
    | zero => simp [not_isSendable_zero_tuple] at h
    | succ room =>
      have sendable := isSendable_tuple_iff.1 h
      exact Value.throughout_tuple.2 ⟨id, fun item mem => ih item mem (sendable item mem)⟩
  | object fields ih =>
    cases room with
    | zero => simp [not_isSendable_zero_object] at h
    | succ room =>
      have sendable := isSendable_object_iff.1 h
      refine Value.throughout_object.2 ⟨?_, fun field mem => ih field mem (sendable field mem).2⟩
      rintro ⟨field, mem, surrogate⟩
      exact Text.isClean_iff_not_exists.1 (sendable field mem).1 surrogate

/-- Either all items have a property, or there is a first one that has another. -/
theorem forall_or_exists_first {α : Type} {P Q : α → Prop} {xs : List α}
    (h : ∀ x ∈ xs, P x ∨ Q x) :
    (∀ x ∈ xs, P x) ∨ ∃ front x back, xs = front ++ x :: back ∧ (∀ y ∈ front, P y) ∧ Q x := by
  induction xs with
  | nil => exact .inl (List.forall_mem_nil _)
  | cons x xs ih =>
    obtain ⟨first, rest⟩ := List.forall_mem_cons.1 h
    rcases first with hP | hQ
    · rcases ih rest with all | ⟨front, y, back, rfl, before, hQ⟩
      · exact .inl (List.forall_mem_cons.2 ⟨hP, all⟩)
      · exact .inr ⟨x :: front, y, back, rfl, List.forall_mem_cons.2 ⟨hP, before⟩, hQ⟩
    · exact .inr ⟨[], x, xs, rfl, List.forall_mem_nil _, hQ⟩

/-- What is within documents can be sent, or there is no room for it. -/
theorem isSendable_or_overflows (digits : v.Throughout Value.WithinDigits)
    (expressible : v.Throughout fun w => ¬ w.Inexpressible) :
    isSendable room v = true ∨ Overflows room v := by
  induction v using Value.nestedInduction generalizing room with
  | null => exact .inl (isSendable_null room)
  | bool b => exact .inl (isSendable_bool room b)
  | int i => exact .inl (isSendable_int_iff.2 digits)
  | float x =>
    exact .inl (isSendable_float_iff.2 (by simpa [Value.Throughout, Value.Inexpressible] using
      expressible))
  | text t => exact .inl (isSendable_text_iff.2 (Text.isClean_iff_not_exists.2 expressible))
  | bytes | foreign => exact absurd trivial expressible
  | list items ih =>
    cases room with
    | zero => exact .inr (.list items)
    | succ room =>
      have within := (Value.throughout_list.1 digits).2
      have known := (Value.throughout_list.1 expressible).2
      rcases forall_or_exists_first fun item mem =>
        @ih item mem room (within item mem) (known item mem) with
        all | ⟨front, item, back, rfl, before, overflows⟩
      · exact .inl (isSendable_list_iff.2 all)
      · exact .inr (.item (fun earlier mem => isSendable_writes (before earlier mem)) overflows)
  | tuple items ih =>
    cases room with
    | zero => exact .inr (.tuple items)
    | succ room =>
      have within := (Value.throughout_tuple.1 digits).2
      have known := (Value.throughout_tuple.1 expressible).2
      rcases forall_or_exists_first fun item mem =>
        @ih item mem room (within item mem) (known item mem) with
        all | ⟨front, item, back, rfl, before, overflows⟩
      · exact .inl (isSendable_tuple_iff.2 all)
      · exact .inr (.member (fun earlier mem => isSendable_writes (before earlier mem)) overflows)
  | object fields ih =>
    cases room with
    | zero => exact .inr (.object fields)
    | succ room =>
      obtain ⟨names, known⟩ := Value.throughout_object.1 expressible
      have within := (Value.throughout_object.1 digits).2
      rcases forall_or_exists_first fun field mem =>
        @ih field mem room (within field mem) (known field mem) with
        all | ⟨front, field, back, rfl, before, overflows⟩
      · refine .inl (isSendable_object_iff.2 fun field mem => ⟨?_, all field mem⟩)
        exact Text.isClean_iff_not_exists.2 fun surrogate => names ⟨field, mem, surrogate⟩
      · exact .inr (.field (fun earlier mem => isSendable_writes (before earlier mem)) overflows)

end Json

/-! ## Refusals -/

/-- A payload that is not written is refused with an error of serialization, or it escapes. -/
theorem dumpPayload_refuses_iff {v : Value} :
    (∃ e, dumpPayload v = .error (.own e) ∧ e.cls = .serialization) ↔
      Json.isSendable Json.depthLimit v = false ∧ ¬Json.Overflows Json.depthLimit v := by
  rw [← dumpPayload_escapes_iff, ← Bool.not_eq_true, ← Json.encode_isOk_iff, dumpPayload]
  cases Json.encode v with
  | ok octets => simp [Except.mapError]
  | error refusal =>
    rw [Except.mapError, Json.Refusal.escapes_reported_iff, Json.Refusal.reported]
    cases refusal.isTooDeep <;> simp [Error.serialization]

theorem dumpPayload_eq_ok {v : Value} {octets : Bytes} (h : dumpPayload v = .ok octets) :
    Json.encode v = .ok octets :=
  mapError_eq_ok_iff.1 h

/-- A value of which the digits are within their limit is refused, with the error for what cannot
be serialized, just when something that no document expresses is held by it and the room does not
end before that. -/
theorem dumpPayload_refuses_iff_holds {v : Value} (digits : v.Throughout Value.WithinDigits) :
    (∃ e, dumpPayload v = .error (.own e) ∧ e.cls = .serialization) ↔
      (∃ w, v.Holds w ∧ w.Inexpressible) ∧ ¬Json.Overflows Json.depthLimit v := by
  have held : (∃ w, v.Holds w ∧ w.Inexpressible) ↔
      ¬ v.Throughout fun w => ¬ w.Inexpressible := by
    rw [Value.throughout_iff_holds]
    simp
  rw [dumpPayload_refuses_iff, held, ← Bool.not_eq_true]
  refine and_congr_left fun fits => not_congr ⟨Json.isSendable_throughout, fun expressible => ?_⟩
  exact (Json.isSendable_or_overflows digits expressible).resolve_right fits

/-! ## Arguments there and back -/

/-- What is built of plain values only, and was written, is read from the text that the octets
stand for. -/
theorem decode_dumpPayload {v : Value} {octets : Bytes} (plain : v.Throughout Value.IsPlain)
    (dumped : dumpPayload v = .ok octets) :
    ∃ text, Utf8.decode octets = .ok text ∧ Json.read text = .ok v := by
  obtain ⟨text, written, encoded⟩ := Json.encode_eq_ok (dumpPayload_eq_ok dumped)
  have legible := Json.writeValue_legible (plain.mono fun _ => Value.IsPlain.inRange) written
  refine ⟨text, Utf8.decode_encode (fun c mem => (legible c mem).2) encoded, ?_⟩
  exact Json.read_write (plain.mono fun _ => Value.IsPlain.isRead)
    (plain.mono fun _ => Value.IsPlain.readsBack) written

/-- A plain value is read in the room in which it was written, whatever room that is. -/
theorem Json.readValue_writeValue {room : Nat} {v : Value} {text : Text}
    (plain : v.Throughout Value.IsPlain) (written : writeValue false room v = .ok text) :
    readValue (2 * text.length + 2) room text = .ok (v, []) := by
  have reads := readsAs_of_write (plain.mono fun _ => Value.IsPlain.isRead)
    (plain.mono fun _ => Value.IsPlain.readsBack) written
  have whole := reads.2 (2 * text.length + 2) [] (by omega) .nil
  rwa [List.append_nil] at whole

/-- An object that is built of plain values only comes back from the payload that it was written
as, as the arguments of a call.  It may be as deep as the writer takes it: in whatever room a plain
value was written, in that room it is read.

Of a payload of any values, their integers within the limit of digits, two things can be wrong.  It
is refused just when something that no document expresses is held by it at some depth and the room
does not end before that.  Where the room ends an exception passes through that is no error of the
library, and this happens only to what lies as deep as there is room for, or one less. -/
theorem dumped_arguments_load :
    (∀ (fields : Fields) (octets : Bytes), (Value.object fields).Throughout Value.IsPlain →
      dumpPayload (.object fields) = .ok octets →
      ∃ text, Utf8.decode octets = .ok text ∧
        ∀ toolName, loadArguments text toolName = .ok fields) ∧
    (∀ (room : Nat) (v : Value) (text : Text), v.Throughout Value.IsPlain →
      Json.writeValue false room v = .ok text →
      Json.readValue (2 * text.length + 2) room text = .ok (v, [])) ∧
    ∀ v : Value, v.Throughout Value.WithinDigits →
      ((∃ e, dumpPayload v = .error (.own e) ∧ e.cls = .serialization) ↔
        (∃ w, v.Holds w ∧ w.Inexpressible) ∧ ¬Json.Overflows Json.depthLimit v) ∧
      (Escapes (dumpPayload v) ↔ Json.Overflows Json.depthLimit v) ∧
      (Json.Overflows Json.depthLimit v → Json.depthLimit < v.depth + 2) := by
  refine ⟨?_, fun room v text => Json.readValue_writeValue, ?_⟩
  · intro fields octets plain dumped
    obtain ⟨text, decoded, reads⟩ := decode_dumpPayload plain dumped
    refine ⟨text, decoded, fun toolName => ?_⟩
    rw [loadArguments_eq_ok_iff]
    exact read_argumentText_of_read reads
  · intro v digits
    exact ⟨dumpPayload_refuses_iff_holds digits, dumpPayload_escapes_iff, Json.Overflows.lt_depth⟩

/-- An object with a list in it, and in the list another object. -/
def nestedFields : Fields :=
  [(.ofString "cities", .list [.text (.ofString "Oslo"), .object [(.ofString "id", .int 7)]]),
    (.ofString "exact", .bool true)]

theorem dumped_arguments_load_nested :
    (∃ octets text, dumpPayload (.object nestedFields) = .ok octets ∧
      Utf8.decode octets = .ok text ∧
      loadArguments text (.ofString "weather") = .ok nestedFields) ∧
    (∃ text, Json.writeValue false 3 (.object nestedFields) = .ok text ∧
      Json.readValue (2 * text.length + 2) 3 text = .ok (.object nestedFields, [])) ∧
    ∃ e, dumpPayload (.list [.object nestedFields, .foreign]) = .error (.own e) ∧
      e.cls = .serialization := by
  have plain : (Value.object nestedFields).Throughout Value.IsPlain := by
    simp only [nestedFields, Value.Throughout, Value.ThroughoutFields, Value.ThroughoutItems,
      Value.IsPlain]
    decide
  have digits : (Value.list [.object nestedFields, .foreign]).Throughout Value.WithinDigits := by
    simp only [nestedFields, Value.Throughout, Value.ThroughoutFields, Value.ThroughoutItems,
      Value.WithinDigits]
    decide
  obtain ⟨loads, reads, refuses⟩ := dumped_arguments_load
  obtain ⟨text, decoded, loaded⟩ := loads nestedFields _ plain rfl
  obtain ⟨refused, -, deep⟩ := refuses _ digits
  refine ⟨⟨_, text, rfl, decoded, loaded _⟩, ⟨_, rfl, reads 3 _ _ plain rfl⟩, ?_⟩
  refine refused.mpr ⟨⟨.foreign, .item (by simp) (.self .foreign), trivial⟩, fun overflows => ?_⟩
  exact absurd (deep overflows) (by decide)

end Colloquy
