import Switchboard.Json.Decode
import Switchboard.Text.Blank

namespace Switchboard

/-!
# Arguments as definitions write them

An argument is a plain document, the name of an environment variable or the id of a service.  In
a definition it is written as a document: texts that start with `ENV.` or `@` are the last two,
everything else is taken as it is.  The tagged form says which of the three it is.
-/

/-- An argument of a constructor or factory, before it is resolved. -/
inductive Argument where
  /-- Handed over unchanged. -/
  | literal (value : Json.Value)
  /-- The value of an environment variable, as a text. -/
  | env (name : String)
  /-- A service of the container. -/
  | service (id : String)
  deriving Repr, Inhabited

namespace Argument

/-- What a text that names an environment variable starts with. -/
def envPrefix : String := "ENV."

/-- What a text that names a service starts with. -/
def servicePrefix : String := "@"

/-- Read an argument as a definition writes it. -/
def parse (raw : Json.Value) : Argument :=
  match raw with
  | .string text =>
      match Text.after? envPrefix text with
      | some name => .env name
      | none =>
          match Text.after? servicePrefix text with
          | some id => .service id
          | none => .literal raw
  | _ => .literal raw

/-- The document that a definition writes for an argument. -/
def unparse : Argument → Json.Value
  | .literal value => value
  | .env name => .string (envPrefix ++ name)
  | .service id => .string (servicePrefix ++ id)

/-- The name of the kind in the tagged form. -/
def kind : Argument → String
  | .literal _ => "literal"
  | .env _ => "env"
  | .service _ => "service"

/-- The content in the tagged form. -/
def content : Argument → Json.Value
  | .literal value => value
  | .env name => .string name
  | .service id => .string id

/-- The tagged form: an object with the kind and the content. -/
def toJson (argument : Argument) : Json.Value :=
  .object [("kind", .string argument.kind), ("value", argument.content)]

/-- The kinds of the tagged form. -/
def kinds : List String := ["literal", "env", "service"]

/-- What the tagged form is called in messages. -/
def taggedForm : String := "adjacently tagged enum Argument"

/-- The kind of a tagged form that is an object; an object of the kind alone, with null under it,
means the same. -/
def decodeKind : Json.Decoder String := Json.Decode.variant kinds

/-- The kind at the head of a tagged form that is an array, where it is a name and nothing else. -/
def decodeHead : Json.Decoder String
  | .string name =>
      if name ∈ kinds then .ok name else .error (.unknownVariant name kinds)
  | other => .error (.invalidType other "variant identifier")

/-- The argument of a kind with a content. -/
def ofContent (kind : String) (content : Json.Value) : Except Json.DataError Argument :=
  if kind = "env" then
    (Json.Decode.string content).map .env
  else if kind = "service" then
    (Json.Decode.string content).map .service
  else
    .ok (.literal content)

/-- Read the tagged form; an array of the kind and the content is accepted as well. -/
def decode : Json.Decoder Argument
  | .object members => do
      match Dict.find? members "kind" with
      | none => .error (.missingField "kind")
      | some kind => do
          let kind ← decodeKind kind
          match Dict.find? members "value" with
          | none => .error (.missingField "value")
          | some content => ofContent kind content
  | .array [] => .error (.invalidLength 0 taggedForm)
  | .array [kind] => do
      let _ ← decodeHead kind
      .error (.invalidLength 1 taggedForm)
  | .array (kind :: content :: rest) => do
      let kind ← decodeHead kind
      let argument ← ofContent kind content
      if rest.isEmpty then
        .ok argument
      else
        .error (.invalidLength (rest.length + 2) "fewer elements in array")
  | other => .error (.invalidType other taggedForm)

end Argument

end Switchboard
