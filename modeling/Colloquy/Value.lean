import Colloquy.Decimal.Layout
import Colloquy.Text.Quoted

/-!
# Values

Metadata, tool parameters, payloads and tool output are values: what a JSON
document can hold, and beyond it tuples, octets and foreign objects, which some
writer or other refuses. Fields of an object keep their order.
-/

namespace Colloquy

/-- Named things in order. -/
abbrev Assoc (α : Type) := List (Text × α)

namespace Assoc

/-- The thing under the first occurrence of a name. -/
def get? (entries : Assoc α) (name : Text) : Option α :=
  (entries.find? fun entry => entry.1 = name).map (·.2)

/-- Puts a thing under a name: at the place of that name, else at the end. -/
def set (entries : Assoc α) (name : Text) (thing : α) : Assoc α :=
  match entries with
  | [] => [(name, thing)]
  | entry :: rest =>
    if entry.1 = name then (name, thing) :: rest else entry :: Assoc.set rest name thing

/-- The entries that a sequence of assignments leaves: the last thing of each name, at the place
of its first. -/
def ofAssignments (assignments : Assoc α) : Assoc α :=
  assignments.foldl (fun entries entry => Assoc.set entries entry.1 entry.2) []

/-- The pieces one after the other. -/
def concat (pieces : List (Assoc α)) : Assoc α :=
  pieces.flatten

end Assoc

/-- A value. The fields of an object have distinct names; `foreign` is an object that no writer
knows. -/
inductive Value
  | null
  | bool (b : Bool)
  | int (i : Int)
  | float (x : Float)
  | text (t : Text)
  | bytes (octets : Bytes)
  | list (items : List Value)
  | tuple (items : List Value)
  | object (fields : List (Text × Value))
  | foreign

/-- Named values in order. -/
abbrev Fields := Assoc Value

namespace Value

instance : Inhabited Value := ⟨.null⟩

instance : Coe Text Value := ⟨.text⟩

/-- The text of a string literal as a value. -/
def ofString (s : String) : Value :=
  .text (Text.ofString s)

/-- An optional text, null when there is none. -/
def ofText? : Option Text → Value
  | some t => .text t
  | none => .null

/-- An optional value, null when there is none. -/
def ofOption : Option Value → Value
  | some v => v
  | none => .null

/-- The value of a field, null when there is none. -/
def ofField (fields : Fields) (name : Text) : Value :=
  ofOption (Assoc.get? fields name)

/-- The field of an object, null when the value is no object or has no such field. -/
def field (value : Value) (name : Text) : Value :=
  match value with
  | .object fields => ofField fields name
  | _ => .null

/-- The text that a value is, empty when it is none. -/
def textOrEmpty : Value → Text
  | .text t => t
  | _ => []

/-- The items of the list that a value is, none when it is no list. -/
def itemsOrNone : Value → List Value
  | .list items => items
  | _ => []

/-- Whether a value is null. -/
def isNull : Value → Bool
  | .null => true
  | _ => false

/-- Whether a value counts as true: null, zero, and what is empty do not. -/
def truthy : Value → Bool
  | .null => false
  | .bool b => b
  | .int i => i ≠ 0
  | .float x => x != 0.0
  | .text t => !t.isEmpty
  | .bytes octets => !octets.isEmpty
  | .list items => !items.isEmpty
  | .tuple items => !items.isEmpty
  | .object fields => !fields.isEmpty
  | .foreign => true

/-- The name of the type of a value, as messages give it. -/
def typeName : Value → Text
  | .null => "NoneType"
  | .bool _ => "bool"
  | .int _ => "int"
  | .float _ => "float"
  | .text _ => "str"
  | .bytes _ => "bytes"
  | .list _ => "list"
  | .tuple _ => "tuple"
  | .object _ => "dict"
  | .foreign => "object"

/-! ## Equality

Numbers are equal when they denote the same number, whatever their type, and
objects when they hold the same fields in any order. A float that is no number and a
foreign object are equal to no value that came about by itself. -/

/-- The integer that a float is, if it is one. -/
def intOfFloat? (x : Float) : Option Int :=
  if x.isNaN || x.isInf then none
  else
    let bits := x.toBits.toNat
    let b := Decimal.Binary.ofBits (bits % Decimal.signBit)
    let magnitude? : Option Nat := match b.exponent with
      | .ofNat e => some (b.mantissa * Nat.pow 2 e)
      | .negSucc e =>
        if b.mantissa % Nat.pow 2 (e + 1) = 0 then some (b.mantissa / Nat.pow 2 (e + 1)) else none
    magnitude?.map fun n => if Decimal.signBit ≤ bits then -(n : Int) else n

/-- The integer that a truth value counts as. -/
def intOfBool (b : Bool) : Int :=
  if b then 1 else 0

mutual

/-- Whether two values are equal. -/
def same : Value → Value → Bool
  | .null, .null => true
  | .bool a, .bool b => a == b
  | .bool a, .int b => intOfBool a == b
  | .int a, .bool b => a == intOfBool b
  | .bool a, .float y => intOfFloat? y == some (intOfBool a)
  | .float x, .bool b => intOfFloat? x == some (intOfBool b)
  | .int a, .int b => a == b
  | .int a, .float y => intOfFloat? y == some a
  | .float x, .int b => intOfFloat? x == some b
  | .float x, .float y => x == y
  | .text a, .text b => a == b
  | .bytes a, .bytes b => a == b
  | .list as, .list bs => sameItems as bs
  | .tuple as, .tuple bs => sameItems as bs
  | .object as, .object bs => as.length == bs.length && sameFields as bs
  | _, _ => false

/-- Whether two sequences are equal item by item. -/
def sameItems : List Value → List Value → Bool
  | [], [] => true
  | a :: as, b :: bs => same a b && sameItems as bs
  | _, _ => false

/-- Whether every field on the left stands on the right with an equal value. -/
def sameFields : List (Text × Value) → Fields → Bool
  | [], _ => true
  | (name, a) :: as, bs =>
    (match Assoc.get? bs name with
      | some b => same a b
      | none => false) && sameFields as bs

end

/-! ## Display

Messages show values between the marks of their types. -/

/-- Octets as messages show them. -/
def showBytes (octets : Bytes) : Text :=
  let mark : CodePoint := if 0x27 ∈ octets ∧ 0x22 ∉ octets then 0x22 else 0x27
  let body := octets.flatMap fun b =>
    let c := b.toNat
    if c = mark ∨ c = 0x5c then [0x5c, c]
    else if c = 0x09 then Text.ofString "\\t"
    else if c = 0x0a then Text.ofString "\\n"
    else if c = 0x0d then Text.ofString "\\r"
    else if 0x20 ≤ c ∧ c < 0x7f then [c]
    else Text.concat ["\\x", Text.hex 2 c]
  Text.concat ["b", [mark], body, [mark]]

mutual

/-- A value as messages show it. -/
def shown : Value → Text
  | .null => "None"
  | .bool b => if b then "True" else "False"
  | .int i => Text.ofInt i
  | .float x => Decimal.Layout.plain.ofFloat x
  | .text t => t.quoted
  | .bytes octets => showBytes octets
  | .list items => Text.concat ["[", Text.join ", " (shownItems items), "]"]
  | .tuple [item] => Text.concat ["(", shown item, ",)"]
  | .tuple items => Text.concat ["(", Text.join ", " (shownItems items), ")"]
  | .object fields => Text.concat ["\x7b", Text.join ", " (shownFields fields), "\x7d"]
  | .foreign => "<object object>"

/-- The items of a sequence as messages show them. -/
def shownItems : List Value → List Text
  | [] => []
  | item :: rest => shown item :: shownItems rest

/-- The fields of an object as messages show them. -/
def shownFields : List (Text × Value) → List Text
  | [] => []
  | (name, value) :: rest => Text.concat [name.quoted, ": ", shown value] :: shownFields rest

end

/-- A value as it stands within running text: a text as it is, anything else as shown. -/
def inText : Value → Text
  | .text t => t
  | value => shown value

end Value

end Colloquy
