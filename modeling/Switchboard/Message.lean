import Switchboard.Error
import Switchboard.Event

namespace Switchboard

/-!
# Messages

A message is whatever a program sends to its handlers: it has the name by which handlers are
registered, a form as an object, and a check of its own content.  Some messages are events.
-/

/-- What can be sent to a handler, or come back from one. -/
class Message (μ : Type) where
  /-- The name handlers are looked up by. -/
  name : μ → String
  /-- The message as an object. -/
  toMap : μ → Json.Object
  /-- What is wrong with the content, if something is. -/
  validate : μ → Except Failure Unit
  /-- The event that the message is, if it is one. -/
  event? : μ → Option Event

namespace Message

variable {μ : Type} [Message μ]

/-- One field of a message. -/
def field? (message : μ) (key : String) : Option Json.Value :=
  (toMap message).find? key

/-- A message in words: its name and the compact text of its object. -/
def display (message : μ) : String :=
  name message ++ (Json.Value.object (toMap message)).render

/-- The event with the name and the content of a message. -/
def toEvent (message : μ) (occurredAt : String) : Event :=
  (Event.named (name message) occurredAt).withData (toMap message)

end Message

end Switchboard
