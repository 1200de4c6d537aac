import Switchboard.Bus.EventBus
import Switchboard.Bus.MessageBus
import Switchboard.Bus.Turns

namespace Switchboard

/-!
# Exchanges

An exchange makes each bus when it is first asked for and shares one event bus between them.
After it is shut down it makes new ones; whoever kept an old bus can go on using it.  Buses are
told apart by numbers that are never given out twice.
-/

/-- The number that tells an event bus from all others. -/
abbrev EventBusId := Nat

/-- The number that tells a message bus from all others. -/
abbrev MessageBusId := Nat

/-- A message bus and the event bus it reports to. -/
structure Line where
  bus : MessageBus
  events : EventBusId
  deriving Repr

/-- All buses made so far, and those that are handed out. -/
structure Exchange where
  config : Config
  eventBuses : List EventBus
  lines : List Line
  events : Option EventBusId
  commands : Option MessageBusId
  queries : Option MessageBusId
  /-- The event buses whose workers are to have a turn, in order. -/
  awake : List EventBusId
  deriving Repr

/-- A bus by its number. -/
inductive AnyBus where
  | message (kind : BusKind) (id : MessageBusId)
  | event (id : EventBusId)
  deriving Repr, DecidableEq

namespace AnyBus

/-- The name of the kind of event buses. -/
def eventKind : String := "event"

/-- The name of the kind of a bus. -/
def kindName : AnyBus → String
  | .message kind _ => kind.name
  | .event _ => eventKind

end AnyBus

namespace Exchange

/-- An exchange that has made no bus. -/
def empty (config : Config) : Exchange :=
  { config := config, eventBuses := [], lines := [], events := none, commands := none
    queries := none, awake := [] }

/-- Add an event bus. -/
def addEventBus (exchange : Exchange) : EventBusId × Exchange :=
  (exchange.eventBuses.length,
    { exchange with eventBuses := exchange.eventBuses ++ [.empty exchange.config] })

/-- Add a message bus that reports to an event bus. -/
def addLine (exchange : Exchange) (kind : BusKind) (events : EventBusId) :
    MessageBusId × Exchange :=
  (exchange.lines.length,
    { exchange with lines := exchange.lines ++ [{ bus := .empty kind, events := events }] })

/-- The event bus that is handed out, made if there is none. -/
def eventBus (exchange : Exchange) : EventBusId × Exchange :=
  match exchange.events with
  | some id => (id, exchange)
  | none =>
      let (id, exchange) := exchange.addEventBus
      (id, { exchange with events := some id })

/-- The message bus of a kind that is handed out, if there is one. -/
def held? (exchange : Exchange) : BusKind → Option MessageBusId
  | .command => exchange.commands
  | .query => exchange.queries

/-- Hand out a message bus from now on. -/
def hold (exchange : Exchange) (id : MessageBusId) : BusKind → Exchange
  | .command => { exchange with commands := some id }
  | .query => { exchange with queries := some id }

/-- The message bus of a kind that is handed out, made if there is none. -/
def messageBus (exchange : Exchange) (kind : BusKind) : MessageBusId × Exchange :=
  let (events, exchange) := exchange.eventBus
  match exchange.held? kind with
  | some id => (id, exchange)
  | none =>
      let (id, exchange) := exchange.addLine kind events
      (id, exchange.hold id kind)

/-- The bus of a kind by its name. -/
def create (exchange : Exchange) (kind : String) : Except BusError (AnyBus × Exchange) :=
  if kind = AnyBus.eventKind then
    let (id, exchange) := exchange.eventBus
    .ok (.event id, exchange)
  else
    match [BusKind.command, .query].find? fun known => known.name = kind with
    | none => .error (.invalidBusType kind)
    | some kind =>
        let (id, exchange) := exchange.messageBus kind
        .ok (.message kind id, exchange)

/-- The event bus of a number. -/
def getEventBus (exchange : Exchange) (id : EventBusId) : EventBus :=
  exchange.eventBuses.getD id (.empty exchange.config)

/-- Put an event bus in the stead of the one of its number. -/
def setEventBus (exchange : Exchange) (id : EventBusId) (bus : EventBus) : Exchange :=
  { exchange with eventBuses := exchange.eventBuses.set id bus }

/-- The message bus of a number, with its event bus. -/
def getLine (exchange : Exchange) (id : MessageBusId) : Line :=
  exchange.lines.getD id { bus := .empty .command, events := 0 }

/-- Put a message bus in the stead of the one of its number. -/
def setMessageBus (exchange : Exchange) (id : MessageBusId) (bus : MessageBus) : Exchange :=
  { exchange with
    lines := exchange.lines.set id { exchange.getLine id with bus := bus } }

/-- Let the worker of an event bus wait for a turn, if it has jobs. -/
def noteAwake (exchange : Exchange) (id : EventBusId) : Exchange :=
  if (exchange.getEventBus id).pending ≠ 0 ∧ id ∉ exchange.awake then
    { exchange with awake := exchange.awake ++ [id] }
  else
    exchange

/-- The exchange after everything that works in the background was taken down. -/
def loseWorkers (exchange : Exchange) : Exchange :=
  { exchange with
    eventBuses := exchange.eventBuses.map EventBus.loseWorker
    awake := [] }

variable {σ ι μ ε α : Type}

/-- Run an attempt on one event bus. -/
def onEventBus (id : EventBusId) (attempt : Attempt (EventBus × σ) ε α) :
    Attempt (Exchange × σ) ε α :=
  attempt.focus
    (fun state => (state.1.getEventBus id, state.2))
    (fun part state => ((state.1.setEventBus id part.1).noteAwake id, part.2))

/-- Dispatch an event on an event bus. -/
def dispatch (host : Host σ ι μ) (id : EventBusId) (event : Event) :
    Attempt (Exchange × σ) BusError Event :=
  onEventBus id (EventBus.dispatch host event)

/-- Run a message on a message bus, which reports to its event bus. -/
def execute [Message μ] (host : Host σ ι μ) (id : MessageBusId) (message : μ) :
    Attempt (Exchange × σ) BusError μ := do
  let line ← Attempt.reading fun state => state.1.getLine id
  line.bus.execute
    (host.within Prod.snd fun part state => (state.1, part))
    (dispatch host line.events)
    message

/-- The workers that wait for a turn, with their jobs; one that is to stop waits for a turn in
which it sees that nothing is left. -/
def waitingLine (exchange : Exchange) (stopping : EventBusId) : List (Share EventBusId) :=
  let waiting :=
    if stopping ∈ exchange.awake then exchange.awake else exchange.awake ++ [stopping]
  waiting.map fun id => { worker := id, jobs := (exchange.getEventBus id).pending }

/-- Let workers of event buses have their turns. -/
def takeTurns (host : Host σ ι μ) :
    List (Share EventBusId) → Attempt (Exchange × σ) ε (List Warning)
  | [] => pure []
  | turn :: turns => do
      let warnings ← onEventBus turn.worker (EventBus.workTurn host turn.jobs)
      let others ← takeTurns host turns
      pure (warnings ++ others)

/--
Stop the worker of an event bus once it has done everything that is queued.

All workers share one thread, so waiting for one lets the others have their turns as well.
-/
def shutdownEventBus (host : Host σ ι μ) (id : EventBusId) :
    Attempt (Exchange × σ) ε (List Warning) := do
  match ← Attempt.reading fun state => (state.1.getEventBus id).worker with
  | none => pure []
  | some .ended => onEventBus id (EventBus.shutdown host)
  | some (.running _) => do
      let line ← Attempt.reading fun state => state.1.waitingLine id
      let (turns, left) := turnsUntil id line
      let warnings ← takeTurns host turns
      let others ← onEventBus id (EventBus.shutdown host)
      .changing fun state =>
        (warnings ++ others, ({ state.1 with awake := left.map Share.worker }, state.2))

/-- Hand out none of the present buses any more, and stop the worker of the event bus. -/
def shutdown (host : Host σ ι μ) : Attempt (Exchange × σ) ε (List Warning) := do
  let events ← Attempt.reading fun state => state.1.events
  .changing fun state =>
    ((), ({ state.1 with events := none, commands := none, queries := none }, state.2))
  match events with
  | none => pure []
  | some id => shutdownEventBus host id

end Exchange

end Switchboard
