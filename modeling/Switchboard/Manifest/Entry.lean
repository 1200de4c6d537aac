import Switchboard.Json.Decode

namespace Switchboard.Manifest

/-!
# Manifest entries

An entry of a manifest is a pattern for further manifests or an item.  An object with a text
under `glob` is a pattern, whatever else is in it; handler and listener items may also be written
as lists of their fields.
-/

/-- An entry of a manifest. -/
inductive Entry (α : Type) where
  | glob (pattern : String)
  | item (content : α)
  deriving Repr

/-- The pattern that an entry is, if it is one. -/
def globOf? (value : Json.Value) : Option String :=
  (value.member? "glob").bind Json.Value.asString?

/-- Read an entry, with a way to read items. -/
def Entry.read? {α : Type} (readItem : Json.Value → Option α) (value : Json.Value) :
    Option (Entry α) :=
  match globOf? value with
  | some pattern => some (.glob pattern)
  | none => (readItem value).map .item

/-- A handler class for a message, with another name for it. -/
structure HandlerItem where
  identifier : String
  handler : String
  nickname : Option String
  deriving Repr, DecidableEq

/-- A listener class for an event, with a declared priority. -/
structure ListenerItem where
  event : String
  listener : String
  priority : Option Int
  deriving Repr, DecidableEq

/-- The definition of a service. -/
structure ServiceItem where
  id : String
  definition : Json.Object
  deriving Repr

/-- A member that must be there; a document that is no object has none. -/
def required? {α : Type} (value : Json.Value) (name : String) (decoder : Json.Decoder α) :
    Option α := do
  let found ← value.member? name
  (decoder found).toOption

/-- A member that may be missing or null. -/
def optional? {α : Type} (value : Json.Value) (name : String) (decoder : Json.Decoder α) :
    Option (Option α) :=
  match value.member? name with
  | none => some none
  | some found => (Json.Decode.optional decoder found).toOption

/-- Three fields of an item by their names, the last of which is optional. -/
def threeFields? {α : Type}
    (first second third : String)
    (decoder : Json.Decoder α)
    (value : Json.Value) :
    Option (String × String × Option α) :=
  match value with
  | .object _ => do
      let left ← required? value first Json.Decode.string
      let middle ← required? value second Json.Decode.string
      let right ← optional? value third decoder
      some (left, middle, right)
  | .array [left, middle] => do
      let left ← left.asString?
      let middle ← middle.asString?
      some (left, middle, none)
  | .array [left, middle, right] => do
      let left ← left.asString?
      let middle ← middle.asString?
      let right ← (Json.Decode.optional decoder right).toOption
      some (left, middle, right)
  | _ => none

/-- Read a handler item. -/
def HandlerItem.read? (value : Json.Value) : Option HandlerItem := do
  let (identifier, handler, nickname) ←
    threeFields? "id" "handler" "cli_alias" Json.Decode.string value
  some { identifier := identifier, handler := handler, nickname := nickname }

/-- Read a listener item. -/
def ListenerItem.read? (value : Json.Value) : Option ListenerItem := do
  let (event, listener, priority) ←
    threeFields? "event" "handler" "priority" Json.Decode.i64 value
  some { event := event, listener := listener, priority := priority }

/-- Read a service item: its name, and the other members as the definition. -/
def ServiceItem.read? (value : Json.Value) : Option ServiceItem := do
  let members ← value.asObject?
  let id ← required? value "name" Json.Decode.string
  some { id := id, definition := members.erase "name" }

end Switchboard.Manifest
