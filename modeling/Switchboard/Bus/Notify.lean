import Switchboard.Bus.Host

namespace Switchboard.Host

/-!
# Notifying listeners

Listeners are built and called one after another, each with the event as the one before left it.
A stopped event reaches no further listener, and a listener that cannot be built, is none or
fails ends the round with an error.
-/

variable {σ ι μ : Type}

/-- Build the listener of a class and let it react to the event. -/
def callListener (host : Host σ ι μ) (identifier className : String) :
    Attempt (Event × σ) BusError Unit := do
  let object ← ((host.build className).mapError (.build className)).onSecond
  match host.listening? object with
  | none => .fail (.notAListener className)
  | some react => react.mapError (.listener identifier className)

/-- Call listeners in order, while the event is not stopped. -/
def callListeners (host : Host σ ι μ) (identifier : String) :
    List String → Attempt (Event × σ) BusError Unit
  | [] => pure ()
  | className :: classNames => do
      if ← Attempt.reading fun state => state.1.isStopped then
        pure ()
      else do
        host.callListener identifier className
        host.callListeners identifier classNames

/-- Notify listeners of an event; errors name it as it was called at the start. -/
def notify (host : Host σ ι μ) (classNames : List String) :
    Attempt (Event × σ) BusError Unit := do
  let identifier ← Attempt.reading fun state => state.1.identifier
  host.callListeners identifier classNames

end Switchboard.Host
