import Colloquy.Error.Basic

/-!
# Expected shapes

A reply has to have the shape of its wire format. The error for one that has not
names the part that is missing or of a wrong type.
-/

namespace Colloquy

/-- The error for a reply without the expected shape. -/
def Error.malformed (what : Text) : Error :=
  .serialization (Text.concat ["Malformed response: ", what])

/-- The error for a reply of a provider that holds no message. -/
def Error.malformedOf (provider what : Text) : Error :=
  .serialization (Text.concat ["Malformed ", provider, " response: ", what])

/-- The fields of what has to be an object. -/
def expectObject (what : Text) : Value → Except Error Fields
  | .object fields => .ok fields
  | _ => .error (.malformed what)

/-- The items of what has to be a list. -/
def expectList (what : Text) : Value → Except Error (List Value)
  | .list items => .ok items
  | _ => .error (.malformed what)

/-- What has to be a text. -/
def expectText (what : Text) : Value → Except Error Text
  | .text t => .ok t
  | _ => .error (.malformed what)

/-- The value, or the other one when it does not count as true. -/
def Value.orElse (value other : Value) : Value :=
  if value.truthy then value else other

/-- The fields of a reply that are kept as metadata: those that are not null. -/
def metadataOf (fields : Fields) : Fields :=
  fields.filter fun field => !field.2.isNull

/-- The error for a message that a reply describes but that cannot exist. -/
def Exception.asMalformed (provider : Text) : Exception → Exception
  | .foreign c text =>
    if c.isA .type || c.isA .value then
      .own (.malformedOf provider text)
    else .foreign c text
  | other => other

end Colloquy
