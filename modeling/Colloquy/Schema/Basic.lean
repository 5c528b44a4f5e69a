import Colloquy.Value

/-!
# Shapes of arguments

One kind of model for the arguments of a tool is a record of named fields. Its shape
is shown to a backend as a schema document, in which records within the record stand
apart and are referred to by name.

Tools do not depend on this kind: a definition takes any `InputModel`, and
`Record.model` is the one of a record.
-/

namespace Colloquy

/-- The shape of a value. A field without a fallback is required. -/
inductive Shape
  | text
  | integer
  | number
  | boolean
  | list (item : Shape)
  | record (name : Text) (fields : List (Text × Shape × Option Value))

/-- A record of named fields. -/
structure Record where
  name : Text
  fields : List (Text × Shape × Option Value)

/-- The shape of a record. -/
def Record.shape (r : Record) : Shape :=
  .record r.name r.fields

/-- The title of a field: its words, each with a capital. -/
def fieldTitle (name : Text) : Text :=
  let words := Text.splitOn 0x5f name
  Text.join " " (words.map fun word => match word with
    | [] => []
    | c :: rest => Text.capital c :: rest)

namespace Shape

mutual

/-- The schema of a shape inside a record, without its title. -/
def inner : Shape → Fields
  | .text => [("type", .ofString "string")]
  | .integer => [("type", .ofString "integer")]
  | .number => [("type", .ofString "number")]
  | .boolean => [("type", .ofString "boolean")]
  | .list item => [("items", .object (inner item)), ("type", .ofString "array")]
  | .record name _ => [("$ref", .text ("#/$defs/" ++ name))]

end

/-- The schema of a field: its fallback and its title among the rest, names in order. -/
def fieldSchema (name : Text) (shape : Shape) (fallback : Option Value) : Fields :=
  let given : Fields := match fallback with
    | some value => [("default", value)]
    | none => []
  let title : Fields := [("title", .text (fieldTitle name))]
  match shape with
  | .list _ =>
    let rest := shape.inner
    Assoc.concat [given, rest.take 1, title, rest.drop 1]
  | .record _ _ => Assoc.concat [shape.inner, given]
  | _ => Assoc.concat [given, title, shape.inner]

end Shape

/-- The schemas of fields by name. -/
def fieldSchemas : List (Text × Shape × Option Value) → Fields
  | [] => []
  | (name, shape, fallback) :: rest =>
    (name, .object (shape.fieldSchema name fallback)) :: fieldSchemas rest

/-- The names of the fields that are required. -/
def requiredNames : List (Text × Shape × Option Value) → List Value
  | [] => []
  | (name, _, none) :: rest => .text name :: requiredNames rest
  | (_, _, some _) :: rest => requiredNames rest

/-- The schema of a record by itself. -/
def recordSchema (name : Text) (fields : List (Text × Shape × Option Value)) : Fields :=
  let required := requiredNames fields
  Assoc.concat
    [[("properties", .object (fieldSchemas fields))],
      if required.isEmpty then [] else [("required", .list required)],
      [("title", .text name), ("type", .ofString "object")]]

mutual

/-- The records that a shape refers to, by name. -/
def Shape.definitions : Shape → Fields
  | .text => []
  | .integer => []
  | .number => []
  | .boolean => []
  | .list item => item.definitions
  | .record name fields =>
    (name, .object (recordSchema name fields)) :: fieldDefinitions fields

/-- The records that fields refer to, by name. -/
def fieldDefinitions : List (Text × Shape × Option Value) → Fields
  | [] => []
  | (_, shape, _) :: rest => shape.definitions ++ fieldDefinitions rest

end

/-- The schema document of a record. -/
def Record.schema (r : Record) : Fields :=
  let definitions := Assoc.ofAssignments (fieldDefinitions r.fields)
  Assoc.concat
    [if definitions.isEmpty then [] else [("$defs", .object definitions)],
      recordSchema r.name r.fields]

end Colloquy
