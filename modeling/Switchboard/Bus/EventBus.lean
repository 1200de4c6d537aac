import Switchboard.Bus.Notify
import Switchboard.Config

namespace Switchboard

/-!
# The event bus

Listeners are registered for the name of an event or for all events.  An event goes to the
listeners of its own name first and to those of all events after that, in registration order;
declared priorities are only kept.  In the background mode an event is queued for a worker, which
works through its queue in order and turns failures into warnings.
-/

/-- A listener class that was registered for an event. -/
structure Registration where
  className : String
  /-- The declared priority, which changes nothing. -/
  priority : Option Int
  deriving Repr, DecidableEq

/-- An event and the listeners it is to reach. -/
structure Job where
  event : Event
  listeners : List String
  deriving Repr

/-- The background worker of an event bus. -/
inductive Worker where
  /-- It works on what is queued, oldest first. -/
  | running (queue : List Job)
  /-- It ended without being asked to, and what was queued is lost. -/
  | ended
  deriving Repr

/-- Listeners by the names of events, and the worker if one was started. -/
structure EventBus where
  registrations : Dict (List Registration)
  config : Config
  worker : Option Worker
  deriving Repr

namespace EventBus

/-- The name under which listeners of all events are registered. -/
def everyEvent : String := "*"

/-- A bus without listeners. -/
def empty (config : Config) : EventBus :=
  { registrations := Dict.empty, config := config, worker := none }

/-- Register a listener class for the name of an event. -/
def register
    (bus : EventBus)
    (event className : String)
    (priority : Option Int) :
    EventBus :=
  { bus with
    registrations := bus.registrations.alter event fun present =>
      present.getD [] ++ [{ className := className, priority := priority }] }

/-- What is registered for exactly this name, in order. -/
def registrationsFor (bus : EventBus) (event : String) : List Registration :=
  (bus.registrations.find? event).getD []

/-- The listener classes registered for exactly this name, in order. -/
def listenersOf (bus : EventBus) (event : String) : List String :=
  (bus.registrationsFor event).map Registration.className

/-- The listener classes that an event goes to, in order. -/
def listenersFor (bus : EventBus) (identifier : String) : List String :=
  bus.listenersOf identifier ++ bus.listenersOf everyEvent

/-- Whether events are dispatched in the background. -/
def isAsync (bus : EventBus) : Bool := bus.config.isAsync

/-- How many jobs wait for the worker. -/
def pending (bus : EventBus) : Nat :=
  match bus.worker with
  | some (.running queue) => queue.length
  | _ => 0

/-- Why no worker can be started. -/
def noBackground : String := "no tokio runtime"

/-- Why a worker takes no work any more. -/
def workerStopped : String := "dispatch worker has stopped"

/-- Queue a job, starting a worker if there is none. -/
def submit (bus : EventBus) (hasBackground : Bool) (job : Job) : Except BusError EventBus :=
  match bus.worker with
  | some (.running queue) => .ok { bus with worker := some (.running (queue ++ [job])) }
  | some .ended => .error (.workerUnavailable workerStopped)
  | none =>
      if hasBackground then
        .ok { bus with worker := some (.running [job]) }
      else
        .error (.workerUnavailable noBackground)

variable {σ ι μ ε : Type}

/-- Queue a job of the bus that the state starts with. -/
def enqueue (host : Host σ ι μ) (job : Job) : Attempt (EventBus × σ) BusError Unit :=
  fun state =>
    match state.1.submit host.hasBackground job with
    | .error error => some (.error error, state)
    | .ok bus => some (.ok (), (bus, state.2))

/--
Dispatch an event and give it back.

It comes back as its listeners left it; in the background mode, or without listeners, it comes
back as it was.
-/
def dispatch (host : Host σ ι μ) (event : Event) : Attempt (EventBus × σ) BusError Event := do
  let bus ← Attempt.reading Prod.fst
  let listeners := bus.listenersFor event.identifier
  if listeners.isEmpty then
    pure event
  else if bus.isAsync then do
    enqueue host { event := event, listeners := listeners }
    pure event
  else do
    let (_, after) ← ((host.notify listeners).carrying event).onSecond
    pure after

/-- Dispatch a message that is an event; any other message is passed over. -/
def execute [Message μ] (host : Host σ ι μ) (message : μ) :
    Attempt (EventBus × σ) BusError (Option Event) :=
  match Message.event? message with
  | none => pure none
  | some event => do
      let after ← dispatch host event
      pure (some after)

/-- Work on one job; a failure becomes a warning. -/
def work (host : Host σ ι μ) (job : Job) : Attempt σ ε (List Warning) := do
  match ← ((host.notify job.listeners).carrying job.event).settle with
  | .ok _ => pure []
  | .error error => pure [.listenerFailed job.event.identifier error]

/-- Work on jobs in order. -/
def workAll (host : Host σ ι μ) : List Job → Attempt σ ε (List Warning)
  | [] => pure []
  | job :: jobs => do
      let warnings ← work host job
      let others ← workAll host jobs
      pure (warnings ++ others)

/-- Let the worker of the bus do a number of the jobs that are queued, oldest first. -/
def workTurn (host : Host σ ι μ) (count : Nat) :
    Attempt (EventBus × σ) ε (List Warning) := do
  match ← Attempt.reading fun state => state.1.worker with
  | some (.running queue) => do
      let warnings ← (workAll host (queue.take count)).onSecond
      .changing fun state =>
        (warnings, ({ state.1 with worker := some (.running (queue.drop count)) }, state.2))
  | _ => pure []

/-- Let the worker of the bus do everything that is queued. -/
def drain (host : Host σ ι μ) : Attempt (EventBus × σ) ε (List Warning) := do
  workTurn host (← Attempt.reading fun state => state.1.pending)

/-- The bus without its worker. -/
def dismiss (bus : EventBus) : EventBus := { bus with worker := none }

/-- Stop the worker once it has done everything that is queued; a later dispatch starts another. -/
def shutdown (host : Host σ ι μ) : Attempt (EventBus × σ) ε (List Warning) := do
  let warnings ← drain host
  let worker ← Attempt.reading fun state => state.1.worker
  .changing fun state =>
    (match worker with
      | some .ended => [.workerEnded]
      | _ => warnings,
    (state.1.dismiss, state.2))

/-- The bus after everything that works in the background was taken down. -/
def loseWorker (bus : EventBus) : EventBus :=
  { bus with worker := bus.worker.map fun _ => .ended }

/-- How an event bus describes itself. -/
def described (bus : EventBus) : String :=
  "EventBus \x7b events: " ++ toString bus.registrations.size ++
    ", async_mode: " ++ (if bus.isAsync then "true" else "false") ++ ", .. \x7d"

end EventBus

end Switchboard
