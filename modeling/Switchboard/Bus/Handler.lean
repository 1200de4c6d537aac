import Switchboard.Attempt
import Switchboard.Message

namespace Switchboard

/-!
# Handlers of one type of messages

A handler takes messages of the type it declares.  Whoever calls it can hand it any message: one
of another type is refused, and what the handler does is not begun.
-/

/-- What takes messages of a type `ν` out of all messages `μ`, and replies over a state `σ`. -/
structure Handler (σ μ ν : Type) where
  /-- The name of the type, as errors give it. -/
  expected : String
  /-- The message itself, if it is of that type. -/
  view : μ → Option ν
  /-- What is done with a message of that type. -/
  body : ν → Attempt σ Failure μ

/-- Hand a message of any type to a handler. -/
def Handler.handle {σ μ ν : Type} [Message μ] (handler : Handler σ μ ν) (message : μ) :
    Attempt σ Failure μ :=
  match handler.view message with
  | none => .fail (.bus (.messageMismatch handler.expected (Message.name message)))
  | some content => handler.body content

end Switchboard
