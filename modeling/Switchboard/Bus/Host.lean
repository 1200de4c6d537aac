import Switchboard.Attempt
import Switchboard.Message

namespace Switchboard

/-!
# What buses run on

A bus knows handlers and listeners by the names of their classes only.  Whoever hosts it builds
them, says what they can do and runs them, over a state of its own.
-/

/-- How a state `σ` builds and runs objects `ι` that exchange messages `μ`. -/
structure Host (σ ι μ : Type) where
  /-- Build an object of a class. -/
  build : String → Attempt σ BuildError ι
  /-- How an object handles messages, if it is a handler. -/
  handling? : ι → Option (μ → Attempt σ Failure μ)
  /-- How an object reacts to an event, which it may change, if it is a listener. -/
  listening? : ι → Option (Attempt (Event × σ) Failure Unit)
  /-- The present time, as events carry it. -/
  timestamp : σ → String
  /-- Whether work can be done in the background. -/
  hasBackground : Bool

/-- A host over a part of a larger state. -/
def Host.within {σ τ ι μ : Type}
    (host : Host σ ι μ)
    (view : τ → σ)
    (update : σ → τ → τ) :
    Host τ ι μ where
  build className := (host.build className).focus view update
  handling? object :=
    (host.handling? object).map fun handle message => (handle message).focus view update
  listening? object :=
    (host.listening? object).map fun react =>
      react.focus
        (fun state => (state.1, view state.2))
        (fun part state => (part.1, update part.2 state.2))
  timestamp state := host.timestamp (view state)
  hasBackground := host.hasBackground

/-- Something a bus reports without failing. -/
inductive Warning where
  /-- A registration replaced the handler of an identifier. -/
  | handlerReplaced (kind : String) (identifier : String) (previous : String)
  /-- A listener failed in the background. -/
  | listenerFailed (event : String) (error : BusError)
  /-- The background worker was gone before it was stopped. -/
  | workerEnded

/-- The text of a warning. -/
def Warning.message : Warning → String
  | .handlerReplaced _ _ _ => "handler replaced"
  | .listenerFailed _ _ => "background listener failed"
  | .workerEnded => "dispatch worker ended abnormally"

end Switchboard
