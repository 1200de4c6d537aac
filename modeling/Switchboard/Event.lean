import Switchboard.Json.Writer

namespace Switchboard

/-!
# Events

An event has a name, which may be empty, and a bag of data that its listeners pass along.  Once
its propagation is stopped it stays stopped, and no listener after that is called.
-/

/-- Something that happened. -/
structure Event where
  /-- The declared name. -/
  name : String
  /-- Who reports it, if known. -/
  source : Option String
  /-- When it was made, as the clock writes it. -/
  occurredAt : String
  data : Json.Object
  /-- Whether a listener stopped its propagation. -/
  isStopped : Bool
  deriving Repr

namespace Event

/-- The name of events that declare none, and of events as messages. -/
def typeName : String := "Event"

/-- An event without a source and without data. -/
def named (name occurredAt : String) : Event :=
  { name := name, source := none, occurredAt := occurredAt, data := Dict.empty
    isStopped := false }

/-- The name listeners are looked up by. -/
def identifier (event : Event) : String :=
  if event.name = "" then typeName else event.name

/-- The event as reported by `source`. -/
def withSource (event : Event) (source : String) : Event :=
  { event with source := some source }

/-- The event with other data. -/
def withData (event : Event) (data : Json.Object) : Event :=
  { event with data := data }

/-- One entry of the data. -/
def get? (event : Event) (key : String) : Option Json.Value :=
  event.data.find? key

/-- The event with one entry of the data set. -/
def set (event : Event) (key : String) (value : Json.Value) : Event :=
  { event with data := event.data.insert key value }

/-- The event without one entry of the data. -/
def remove (event : Event) (key : String) : Event :=
  { event with data := event.data.erase key }

/-- The event with its propagation stopped. -/
def stop (event : Event) : Event :=
  { event with isStopped := true }

/-- The event as an object: its name, its source or null, its time and its data. -/
def toMap (event : Event) : Json.Object :=
  Dict.ofList
    [("name", .string event.name),
      ("source", .ofOption (event.source.map .string)),
      ("occurred_at", .string event.occurredAt),
      ("data", .object event.data)]

end Event

end Switchboard
