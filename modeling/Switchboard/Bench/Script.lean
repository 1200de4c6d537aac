import Switchboard.Bench.Catalog
import Switchboard.Bench.Sample

namespace Switchboard.Bench

/-!
# Scripts as documents

Classes, factories, events and messages are written down as objects.  A missing text is empty, a
missing list or object has nothing in it, and a word nobody knows stands for the plainest choice.
-/

/-- A text member, empty if there is none. -/
def textMember (value : Json.Value) (name : String) : String :=
  ((value.member? name).bind Json.Value.asString?).getD ""

/-- A text member, if there is one. -/
def textMember? (value : Json.Value) (name : String) : Option String :=
  (value.member? name).bind Json.Value.asString?

/-- A list member, empty if there is none. -/
def listMember (value : Json.Value) (name : String) : List Json.Value :=
  ((value.member? name).bind Json.Value.asArray?).getD []

/-- An object member, empty if there is none. -/
def objectMember (value : Json.Value) (name : String) : Json.Object :=
  ((value.member? name).bind Json.Value.asObject?).getD Dict.empty

/-- Any member, null if there is none. -/
def anyMember (value : Json.Value) (name : String) : Json.Value :=
  (value.member? name).getD .null

/-- A truth member, or a fallback. -/
def truthMember (value : Json.Value) (name : String) (fallback : Bool) : Bool :=
  match value.member? name with
  | some (.bool truth) => truth
  | _ => fallback

/-- The type that a word stands for. -/
def Wanted.ofWord : String → Wanted
  | "object" => .object
  | "container" => .container
  | "log" => .log
  | "number" => .number
  | "mailer" => .mailer
  | "store" => .store
  | _ => .text

/-- The mode that a word stands for. -/
def ReadMode.ofWord : String → ReadMode
  | "string" => .string
  | "opt_string" => .optionalString
  | "strings" => .strings
  | "bool" => .bool
  | "u8" => .u8
  | "u32" => .u32
  | "i64" => .i64
  | "f64" => .f64
  | "value" => .value
  | "instance" => .anyService
  | "object" => .wanted .object
  | "log" => .wanted .log
  | "container" => .wanted .container
  | "text" => .wanted .text
  | "number" => .wanted .number
  | _ => .raw

/-- What a scripted handler does. -/
def HandlerScript.ofJson (value : Json.Value) : HandlerScript :=
  match textMember value "behavior" with
  | "same" => .same
  | "fail" => .fail (textMember value "text")
  | "count" => .count
  | "ack" => .ack
  | "event" => .event
  | _ => .echo

/-- What a scripted listener does. -/
def ListenerScript.ofJson (value : Json.Value) : ListenerScript :=
  match textMember value "behavior" with
  | "set" => .set (textMember value "key") (anyMember value "value")
  | "stop" => .stop
  | "fail" => .fail (textMember value "text")
  | "clear" => .clear
  | "resolve" => .resolve (textMember value "id")
  | _ => .trail

/-- What a class is. -/
def ClassKind.ofJson (value : Json.Value) : ClassKind :=
  match textMember value "kind" with
  | "abstract" => .interface
  | "recording" => .spy .record
  | "stopping" => .spy .stop
  | "failing" => .spy .fail
  | "builtin" => .builtin
  | "handler" => .handler (.ofJson value)
  | "listener" => .listener (.ofJson value)
  | _ => .plain

/-- A parameter; null as its fallback is a fallback. -/
def FieldSpec.ofJson (value : Json.Value) : FieldSpec :=
  { parameter :=
      { name := textMember value "name", typeName := textMember? value "type"
        fallback := value.member? "default" }
    mode := .ofWord (textMember value "read") }

/-- The parameters of a class or factory. -/
def fieldsOfJson (value : Json.Value) : List FieldSpec :=
  (listMember value "params").map FieldSpec.ofJson

/-- The further reads of a class or factory. -/
def readsOfJson (value : Json.Value) : List (String × ReadMode) :=
  (listMember value "reads").map fun read =>
    (textMember read "name", .ofWord (textMember read "read"))

/-- A class. -/
def ClassSpec.ofJson (value : Json.Value) : ClassSpec :=
  { name := textMember value "name", kind := .ofJson value, fields := fieldsOfJson value
    reads := readsOfJson value, failure := textMember? value "construct_error" }

/-- A factory method, which is static unless it says otherwise. -/
def FactorySpec.ofJson (value : Json.Value) : FactorySpec :=
  { className := textMember value "class", method := textMember value "method"
    fields := fieldsOfJson value, reads := readsOfJson value
    isStatic := truthMember value "static" true
    result :=
      match textMember value "returns" with
      | "u64" => .number
      | "string" => .text
      | "object" => .object
      | _ => .scripted (.ofJson value)
    label := textMember? value "as", failure := textMember? value "construct_error" }

/-- An event at a time. -/
def eventOfJson (occurredAt : String) (value : Json.Value) : Event :=
  { name := textMember value "name", source := textMember? value "source"
    occurredAt := occurredAt, data := objectMember value "data"
    isStopped := truthMember value "stopped" false }

/-- A sample message; an event in it is at the given time. -/
def Sample.ofJson (occurredAt : String) (value : Json.Value) : Except Json.DataError Sample :=
  match textMember value "type" with
  | "raw" => .ok (.raw (textMember value "name") (objectMember value "map"))
  | "Event" => .ok (.event (eventOfJson occurredAt (anyMember value "event")))
  | typeName => (Sample.read? typeName (objectMember value "map")).getD (.ok .ack)

end Switchboard.Bench
