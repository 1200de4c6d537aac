import Switchboard.Bus.Host
import Switchboard.Text.Quoted

namespace Switchboard

/-!
# Command and query buses

A message bus knows one handler class for every message name, and further names for handlers.
Running a message builds the handler, reports `before_execute`, calls the handler and reports
`after_execute`; the first step that fails ends the run.
-/

/-- The two kinds of message buses. -/
inductive BusKind where
  /-- Messages that change something. -/
  | command
  /-- Messages that ask for something. -/
  | query
  deriving Repr, DecidableEq

namespace BusKind

/-- The name of a kind, which is also the source of the events its buses report. -/
def name : BusKind → String
  | .command => "command"
  | .query => "query"

end BusKind

/-- Handler classes by message names, and by their other names. -/
structure MessageBus where
  kind : BusKind
  handlers : Dict String
  aliases : Dict String
  deriving Repr, DecidableEq

namespace MessageBus

/-- What stands for the message name of an alias that leads to none. -/
def noMessage : String := "NotFoundMessage"

/-- The event reported right before a handler runs. -/
def beforeExecute : String := "before_execute"

/-- The event reported right after a handler succeeded. -/
def afterExecute : String := "after_execute"

/-- A bus without handlers. -/
def empty (kind : BusKind) : MessageBus :=
  { kind := kind, handlers := Dict.empty, aliases := Dict.empty }

/-- The warning that a registration gives: none unless it replaces another handler. -/
def replacement (bus : MessageBus) (identifier handler : String) : List Warning :=
  match bus.handlers.find? identifier with
  | none => []
  | some previous =>
      if previous = handler then
        []
      else
        [.handlerReplaced bus.kind.name identifier previous]

/-- Register a handler class for a message name, and under an alias if one is given. -/
def register
    (bus : MessageBus)
    (identifier handler : String)
    (nickname : Option String) :
    MessageBus :=
  { bus with
    handlers := bus.handlers.insert identifier handler
    aliases :=
      match nickname with
      | none => bus.aliases
      | some nickname => bus.aliases.insert nickname handler }

/-- The handler class of a name; an alias goes before a message name. -/
def handler? (bus : MessageBus) (name : String) : Option String :=
  bus.aliases.find? name <|> bus.handlers.find? name

/-- Whether a name is a message name with a handler, or an alias. -/
def hasHandler (bus : MessageBus) (name : String) : Bool :=
  bus.aliases.contains name || bus.handlers.contains name

/-- The handler class of a name, or the error that there is none. -/
def getHandler (bus : MessageBus) (name : String) : Except BusError String :=
  match bus.handler? name with
  | some handler => .ok handler
  | none => .error (.handlerNotFound name)

/-- The least message name with the handler of an alias. -/
def messageOf (bus : MessageBus) (nickname : String) : String :=
  match bus.aliases.find? nickname with
  | none => noMessage
  | some handler =>
      match bus.handlers.toList.find? fun entry => entry.2 = handler with
      | none => noMessage
      | some entry => entry.1

/-- The event that reports a step of running a message. -/
def lifecycle (bus : MessageBus) (step identifier occurredAt : String) : Event :=
  ((Event.named step occurredAt).withSource bus.kind.name).set "identifier" (.string identifier)

variable {σ ι μ : Type} [Message μ]

/-- Build the handler of a class. -/
def buildHandler (host : Host σ ι μ) (className : String) :
    Attempt σ BusError (μ → Attempt σ Failure μ) := do
  let object ← (host.build className).mapError (.build className)
  match host.handling? object with
  | none => .fail (.notAHandler className)
  | some handle => pure handle

/-- Report a step of running a message. -/
def reportStep
    (host : Host σ ι μ)
    (report : Event → Attempt σ BusError Event)
    (bus : MessageBus)
    (step identifier : String) :
    Attempt σ BusError Event := do
  let time ← Attempt.reading host.timestamp
  report (bus.lifecycle step identifier time)

/-- Run a message, with a way to report events, and give back the reply. -/
def execute
    (host : Host σ ι μ)
    (report : Event → Attempt σ BusError Event)
    (bus : MessageBus)
    (message : μ) :
    Attempt σ BusError μ := do
  let identifier := Message.name message
  let className ← .ofExcept (bus.getHandler identifier)
  let handle ← buildHandler host className
  let _ ← bus.reportStep host report beforeExecute identifier
  let reply ← (handle message).mapError (.handler identifier)
  let _ ← bus.reportStep host report afterExecute identifier
  pure reply

/-- How a message bus describes itself. -/
def described (bus : MessageBus) : String :=
  "MessageBus \x7b kind: " ++ Text.shown bus.kind.name ++
    ", handlers: " ++ toString bus.handlers.size ++
    ", aliases: " ++ toString bus.aliases.size ++ ", .. \x7d"

end MessageBus

end Switchboard
