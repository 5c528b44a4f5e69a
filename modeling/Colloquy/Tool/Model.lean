import Colloquy.Value

/-!
# Models of data

The input of a tool is a model: a class of the library for data models, which has a
schema and makes instances of the texts that it validates.  The same library writes
what a tool returns.  It is not described here.  What a tool needs to know of it is
data: the schema of a model and what validation gives for each text, the document of an
instance, and what a type makes of a value.

Two things are assumed of that library, and the types below say them.  Validation gives
an instance or a validation error, and ends in no other way; writing gives a document
or a fault of serialization, and ends in no other way.
-/

namespace Colloquy

/-! ## Input -/

/-- A fault that validation found: the names and positions that lead to it, and what it is. -/
structure ValidationFault where
  path : List Text := []
  reason : Text := "invalid"

/-- The error of validation, with its faults in order. -/
structure ValidationError where
  faults : List ValidationFault

/-- A fault in words. What has no path is at the root. -/
def ValidationFault.message (fault : ValidationFault) : Text :=
  let place := Text.join "." fault.path
  Text.concat [if place = [] then Text.ofString "<root>" else place, ": ", fault.reason]

/-- The first fault in words, null when there is none. -/
def ValidationError.first (e : ValidationError) : Value :=
  match e.faults with
  | [] => .null
  | fault :: _ => .text fault.message

/-- Why something cannot be written as a document. -/
structure SerializationFault where
  text : Text

/-- What writing a document gives. -/
abbrev Written := Except SerializationFault Text

/-- An instance of a model: what its attributes hold, and its document. -/
structure ModelInstance where
  content : Fields
  document : Written

/-- A model that describes the input of tools: its schema, and the instance that is made of a
text. -/
structure InputModel where
  schema : Fields
  validate : Text → Except ValidationError ModelInstance

/-! ## Output -/

/-- A type as which the output of a tool is written. -/
structure OutputModel where
  document : Value → Written

/-- What a handler can return: a text, an instance of a model, or another value with the document
that is made of it where no type is asked for. -/
inductive Output
  | text (t : Text)
  | model (i : ModelInstance)
  | other (value : Value) (document : Written)

end Colloquy
