import Colloquy.Value

/-!
# Values within values

Lists, tuples and objects hold further values.  `Value.nestedInduction` is the induction
over all of them, with one hypothesis for the items of a sequence and one for the
fields of an object.

`Value.Throughout P v` says that `P` holds of `v` and of every value within it, however
deep; what a writer or a reader asks of a value is of this form.  `Value.depth` counts
the sequences and objects that lie within each other.
-/

namespace Colloquy.Value

/-! ## Induction -/

/-- To show something of every value it is enough to show it of the simple ones, and to pass from
the items of a sequence and the fields of an object to the sequence and the object. -/
@[elab_as_elim]
theorem nestedInduction {motive : Value → Prop} (null : motive .null)
    (bool : ∀ b, motive (.bool b)) (int : ∀ i, motive (.int i)) (float : ∀ x, motive (.float x))
    (text : ∀ t, motive (.text t)) (bytes : ∀ octets, motive (.bytes octets))
    (list : ∀ items, (∀ item ∈ items, motive item) → motive (.list items))
    (tuple : ∀ items, (∀ item ∈ items, motive item) → motive (.tuple items))
    (object : ∀ fields : Fields, (∀ field ∈ fields, motive field.2) → motive (.object fields))
    (foreign : motive .foreign) (v : Value) : motive v := by
  refine Value.rec (motive_1 := motive) (motive_2 := fun items => ∀ item ∈ items, motive item)
    (motive_3 := fun fields => ∀ field ∈ fields, motive field.2)
    (motive_4 := fun field => motive field.2) null bool int float text bytes list tuple object
    foreign ?_ ?_ ?_ ?_ ?_ v
  · simp
  · intro item items hitem hitems
    exact List.forall_mem_cons.2 ⟨hitem, hitems⟩
  · simp
  · intro field fields hfield hfields
    exact List.forall_mem_cons.2 ⟨hfield, hfields⟩
  · intro name value hvalue
    exact hvalue

/-! ## Throughout -/

mutual

/-- A property holds of a value and of every value within it. -/
def Throughout (P : Value → Prop) : Value → Prop
  | .null => P .null
  | .bool b => P (.bool b)
  | .int i => P (.int i)
  | .float x => P (.float x)
  | .text t => P (.text t)
  | .bytes octets => P (.bytes octets)
  | .list items => P (.list items) ∧ ThroughoutItems P items
  | .tuple items => P (.tuple items) ∧ ThroughoutItems P items
  | .object fields => P (.object fields) ∧ ThroughoutFields P fields
  | .foreign => P .foreign

/-- A property holds throughout the items of a sequence. -/
def ThroughoutItems (P : Value → Prop) : List Value → Prop
  | [] => True
  | item :: rest => Throughout P item ∧ ThroughoutItems P rest

/-- A property holds throughout the values of the fields of an object. -/
def ThroughoutFields (P : Value → Prop) : List (Text × Value) → Prop
  | [] => True
  | (_, value) :: rest => Throughout P value ∧ ThroughoutFields P rest

end

variable {P : Value → Prop} {items : List Value} {fields : Fields} {v : Value}

theorem throughoutItems_iff : ThroughoutItems P items ↔ ∀ item ∈ items, Throughout P item := by
  induction items with
  | nil => simp [ThroughoutItems]
  | cons item items ih => simp [ThroughoutItems, ih]

theorem throughoutFields_iff :
    ThroughoutFields P fields ↔ ∀ field ∈ fields, Throughout P field.2 := by
  induction fields with
  | nil => simp [ThroughoutFields]
  | cons field fields ih => simp [ThroughoutFields, ih]

theorem throughout_list :
    Throughout P (.list items) ↔ P (.list items) ∧ ∀ item ∈ items, Throughout P item := by
  rw [Throughout, throughoutItems_iff]

theorem throughout_tuple :
    Throughout P (.tuple items) ↔ P (.tuple items) ∧ ∀ item ∈ items, Throughout P item := by
  rw [Throughout, throughoutItems_iff]

theorem throughout_object :
    Throughout P (.object fields) ↔
      P (.object fields) ∧ ∀ field ∈ fields, Throughout P field.2 := by
  rw [Throughout, throughoutFields_iff]

theorem Throughout.self (h : Throughout P v) : P v := by
  cases v with
  | list | tuple | object => exact h.1
  | _ => exact h

/-! ## Depth -/

mutual

/-- How many sequences and objects lie within each other. -/
def depth : Value → Nat
  | .list items => depthItems items + 1
  | .tuple items => depthItems items + 1
  | .object fields => depthFields fields + 1
  | .null | .bool _ | .int _ | .float _ | .text _ | .bytes _ | .foreign => 0

/-- The greatest depth among items. -/
def depthItems : List Value → Nat
  | [] => 0
  | item :: rest => max (depth item) (depthItems rest)

/-- The greatest depth among the values of fields. -/
def depthFields : List (Text × Value) → Nat
  | [] => 0
  | (_, value) :: rest => max (depth value) (depthFields rest)

end

theorem depthItems_le_iff {n : Nat} : depthItems items ≤ n ↔ ∀ item ∈ items, item.depth ≤ n := by
  induction items with
  | nil => simp [depthItems]
  | cons item items ih => rw [depthItems, Nat.max_le, ih, List.forall_mem_cons]

theorem depthFields_le_iff {n : Nat} :
    depthFields fields ≤ n ↔ ∀ field ∈ fields, field.2.depth ≤ n := by
  induction fields with
  | nil => simp [depthFields]
  | cons field fields ih => rw [depthFields, Nat.max_le, ih, List.forall_mem_cons]

end Colloquy.Value
