import Colloquy.Error.Basic
import Colloquy.Json.Writer

/-!
# Access to values of any type

A reply may hold a value of any type where a list or an object is expected. What
can be walked through or looked up is taken as it is; the exceptions for the rest
name the type that was met. Not every value can be a key, and not every value can be
shown in a message.
-/

namespace Colloquy.Value

/-- The exception for a value that cannot be walked through. -/
def notIterable (value : Value) : Exception :=
  .type (Text.concat ["'", value.typeName, "' object is not iterable"])

/-- The items that a walk through a value meets: of a sequence its items, of a text its code
points, of an object its names. -/
def iterate : Value → Except Exception (List Value)
  | .list items => .ok items
  | .tuple items => .ok items
  | .text t => .ok (t.map fun c => .text [c])
  | .bytes octets => .ok (octets.map fun b => .int b.toNat)
  | .object fields => .ok (fields.map fun (name, _) => .text name)
  | other => .error (notIterable other)

/-- The entry of a value under a name, which has to be there. -/
def entry (value : Value) (name : Text) : Except Exception Value :=
  match value with
  | .object fields =>
    match Assoc.get? fields name with
    | some found => .ok found
    | none => .error (.foreign .key name.quoted)
  | .text _ => .error (.type "string indices must be integers, not 'str'")
  | .list _ => .error (.type "list indices must be integers or slices, not str")
  | .tuple _ => .error (.type "tuple indices must be integers or slices, not str")
  | .bytes _ => .error (.type "byte indices must be integers or slices, not str")
  | other => .error (.type (Text.concat ["'", other.typeName, "' object is not subscriptable"]))

/-- The entry of an object under a name, `fallback` when there is none. -/
def lookup (value : Value) (name : Text) (fallback : Value) : Except Exception Value :=
  match value with
  | .object fields => .ok ((Assoc.get? fields name).getD fallback)
  | other => .error (.missingAttribute other.typeName "get")

/-! ## Keys -/

mutual

/-- The name of the type because of which a value cannot be a key: a list or an object is none,
and a tuple is one when all of its items are. -/
def unhashable? : Value → Option Text
  | .list items => some (Value.list items).typeName
  | .object fields => some (Value.object fields).typeName
  | .tuple items => unhashableItem? items
  | _ => none

/-- The name of the first type among items that cannot be keys. -/
def unhashableItem? : List Value → Option Text
  | [] => none
  | item :: rest => (unhashable? item).or (unhashableItem? rest)

end

/-- The exception for a value that cannot be a key. -/
def unhashable (typeName : Text) : Exception :=
  .type (Text.concat ["unhashable type: '", typeName, "'"])

/-! ## Display -/

mutual

/-- What is raised when a value cannot be shown: something lies deeper than there is room for, or an
integer has too many digits. There is room for `room` values within each other. -/
def unshown? : Nat → Value → Option (ForeignClass × Text)
  | 0, _ => some (.recursion,
      "maximum recursion depth exceeded while getting the repr of an object")
  | _ + 1, .int i =>
    if Decimal.digitCount i.natAbs ≤ Decimal.digitLimit then none
    else some (.value, Json.Refusal.tooManyDigits.message)
  | room + 1, .list items => unshownItem? room items
  | room + 1, .tuple items => unshownItem? room items
  | room + 1, .object fields => unshownField? room fields
  | _ + 1, _ => none

/-- What is raised for the first of some items that cannot be shown. -/
def unshownItem? (room : Nat) : List Value → Option (ForeignClass × Text)
  | [] => none
  | item :: rest => (unshown? room item).or (unshownItem? room rest)

/-- What is raised for the first of some fields that cannot be shown. -/
def unshownField? (room : Nat) : List (Text × Value) → Option (ForeignClass × Text)
  | [] => none
  | (_, value) :: rest => (unshown? room value).or (unshownField? room rest)

end

end Colloquy.Value
