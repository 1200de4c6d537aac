import Switchboard.Bench.Realm
import Switchboard.Bus.Exchange
import Switchboard.Manifest.Load

namespace Switchboard.Bench

/-!
# Sessions

A session is a realm with buses on it, manifests to load, and builders of their own memo.  All
buses run in the first container.  Where nothing can work in the background, or only for the time
of one step, workers cannot be started or are lost after the step.
-/

/-- What can work in the background. -/
inductive Background where
  /-- Workers that run while somebody waits for them. -/
  | lasting
  /-- Workers that are lost after every step. -/
  | brief
  /-- Nothing. -/
  | missing
  deriving Repr, DecidableEq

/-- Who makes the buses of a session. -/
inductive BusSource where
  /-- The exchange makes them when they are asked for. -/
  | exchange
  /-- They were made at the start, and stay. -/
  | manual
  deriving Repr, DecidableEq

/-- How a session starts. -/
structure Setup where
  catalog : Catalog
  services : List (String × Definition Component)
  environment : Environment
  config : Option Config
  ttl : Option Ttl
  /-- How many containers there are. -/
  containers : Nat
  /-- The cache they share, if they do. -/
  shared : Option (Backend (Instance Component))
  /-- Whether documents of manifests are kept. -/
  keepsManifests : Bool
  busSource : BusSource
  background : Background
  tree : FileTree

/-- A realm with buses on it. -/
structure Session where
  catalog : Catalog
  config : Config
  realm : Realm
  exchange : Exchange
  tree : FileTree
  documents : Backend Json.Value
  keepsManifests : Bool
  busSource : BusSource
  background : Background
  /-- The memos of builders that belong to no container. -/
  memos : List (Memo Component)
  /-- What was reported without failing, and was not yet looked at. -/
  warnings : List Warning

namespace Session

variable {ε α : Type}

/-- The state of a session at its start. -/
def start (setup : Setup) : Session :=
  let config := setup.config.getD .initial
  let ttl := setup.ttl <|> setup.config.bind Config.cacheTtl
  let container (place : Nat) : BenchContainer :=
    (Container.empty (.container place) (.memory (.empty none)) ttl).withServices setup.services
  let exchange := Exchange.empty config
  { catalog := setup.catalog
    config := config
    realm :=
      { toolkit :=
          { registry := setup.catalog.registry, environment := setup.environment
            digest := Digest.sha256Hex }
        containers := (List.range setup.containers).map container
        shared := setup.shared
        now := 0
        nextId := 0
        runs := []
        logs := fun _ => []
        orders := fun _ => []
        calls := fun _ => 0 }
    exchange := exchange
    tree := setup.tree
    documents := if setup.keepsManifests then .memory (.empty none) else .blank
    keepsManifests := setup.keepsManifests
    busSource := setup.busSource
    background := setup.background
    memos := []
    warnings := [] }

/-- The session after a step: where workers last for one step only, they are lost. -/
def endStep (session : Session) : Session :=
  match session.background with
  | .brief => { session with exchange := session.exchange.loseWorkers }
  | _ => session

/-- What buses run on. -/
def host (session : Session) : Host Realm (Instance Component) Sample :=
  Realm.host (session.background ≠ .missing)

/-- Run an attempt on the realm. -/
def onRealm (attempt : Attempt Realm ε α) : Attempt Session ε α :=
  attempt.focus Session.realm fun realm session => { session with realm := realm }

/-- Run an attempt on one container. -/
def onContainer (place : Nat) (attempt : Attempt BenchContainer ε α) : Attempt Session ε α :=
  onRealm (Realm.onContainer place attempt)

/-- Run an attempt on the buses, with the realm they run on. -/
def onExchange (attempt : Attempt (Exchange × Realm) ε α) : Attempt Session ε α :=
  attempt.focus
    (fun session => (session.exchange, session.realm))
    (fun part session => { session with exchange := part.1, realm := part.2 })

/-- Keep warnings until somebody looks at them. -/
def warn (warnings : List Warning) : Attempt Session ε Unit :=
  .changing fun session => ((), { session with warnings := session.warnings ++ warnings })

/-- The warnings since they were last looked at. -/
def takeWarnings : Attempt Session ε (List Warning) :=
  .changing fun session => (session.warnings, { session with warnings := [] })

/-- The toolkit of all builders. -/
def toolkit : Attempt Session ε (Toolkit Component) :=
  .reading fun session => session.realm.toolkit

/-- Let time pass. -/
def sleep (nanos : Nat) : Attempt Session ε Unit :=
  onRealm <| .changing fun realm => ((), { realm with now := realm.now + nanos })

/-- A new object that was not built. -/
def enroll (product : Product Component) : Attempt Session ε (Instance Component) :=
  onRealm <| .changing (Realm.enroll product)

/-- Define a service, unless that is refused. -/
def define (place : Nat) (id : String) (definition : Definition Component) :
    Attempt Session ServiceError Unit :=
  onContainer place (Container.defining id definition)

/-- Define a service by a document, unless that is refused. -/
def defineJson (place : Nat) (id : String) (value : Json.Value) :
    Attempt Session ServiceError Unit := do
  let definition ← .ofExcept (Definition.ofJson id value)
  define place id definition

/-- Resolve a service. -/
def get (place : Nat) (id : String) : Attempt Session ServiceError (Instance Component) :=
  onRealm (Realm.resolve place id)

/-- Resolve a service to an object of a type. -/
def getAs (place : Nat) (id : String) (wanted : Wanted) :
    Attempt Session ServiceError (Instance Component) := do
  let toolkit ← toolkit
  onContainer place
    (Container.getAs toolkit Realm.depth id wanted.name wanted.view)

/-- Give a container a log, and give back the log it has then. -/
def installLog (place : Nat) : Attempt Session ε (Instance Component) := do
  let toolkit ← toolkit
  onContainer place
    (Container.install toolkit Realm.depth logId (.plain logType .log)
      Wanted.log.name Wanted.log.view)

/-- Run an attempt on the memo of a builder, with the container it builds from. -/
def onBuilder (builder : Nat) (place : Nat)
    (attempt : Attempt (Memo Component × BenchContainer) ε α) : Attempt Session ε α :=
  attempt.focus
    (fun session =>
      (session.memos.getD (builder - 1) Dict.empty, session.realm.getContainer place))
    (fun part session =>
      { session with
        memos := session.memos.set (builder - 1) part.1
        realm := session.realm.setContainer place part.2 })

/-- Build with the builder of a container, or with another one that has a number. -/
def build (place builder : Nat) (order : Order) :
    Attempt Session BuildError (Instance Component) := do
  let toolkit ← toolkit
  let resolve := Container.get toolkit Realm.depth
  if builder = 0 then
    onContainer place (Builder.build toolkit resolve order)
  else
    onBuilder builder place (Builder.buildApart toolkit resolve order)

/-- Build what a definition says, with either kind of builder. -/
def buildDefinition (place builder : Nat) (definition : Definition Component) :
    Attempt Session BuildError (Instance Component) := do
  let toolkit ← toolkit
  let resolve := Container.get toolkit Realm.depth
  if builder = 0 then
    onContainer place (Builder.buildDefinition toolkit resolve definition)
  else
    onBuilder builder place (Builder.buildDefinitionApart toolkit resolve definition)

/-- Make a builder that belongs to no container, and say how many there are. -/
def addBuilder : Attempt Session ε Nat :=
  .changing fun session =>
    (session.memos.length + 1, { session with memos := session.memos ++ [Dict.empty] })

/-- The event bus that is handed out. -/
def eventBus : Attempt Session ε EventBusId :=
  .changing fun session =>
    let (id, exchange) := session.exchange.eventBus
    (id, { session with exchange := exchange })

/-- The message bus of a kind that is handed out. -/
def messageBus (kind : BusKind) : Attempt Session ε MessageBusId :=
  .changing fun session =>
    let (id, exchange) := session.exchange.messageBus kind
    (id, { session with exchange := exchange })

/-- The bus of a kind by its name. -/
def create (kind : String) : Attempt Session BusError AnyBus :=
  fun session =>
    match session.exchange.create kind with
    | .error error => some (.error error, session)
    | .ok (bus, exchange) => some (.ok bus, { session with exchange := exchange })

/-- Change a message bus. -/
def onMessageBus (id : MessageBusId) (change : MessageBus → List Warning × MessageBus) :
    Attempt Session ε Unit := do
  let (warnings, bus) ← Attempt.reading fun session =>
    change (session.exchange.getLine id).bus
  .changing fun session =>
    ((), { session with exchange := session.exchange.setMessageBus id bus })
  warn warnings

/-- Register a handler on a message bus. -/
def register (id : MessageBusId) (identifier handler : String) (nickname : Option String) :
    Attempt Session ε Unit :=
  onMessageBus id fun bus =>
    (bus.replacement identifier handler, bus.register identifier handler nickname)

/-- Register a listener on an event bus. -/
def listen (id : EventBusId) (event className : String) (priority : Option Int) :
    Attempt Session ε Unit :=
  .changing fun session =>
    let bus := (session.exchange.getEventBus id).register event className priority
    ((), { session with exchange := session.exchange.setEventBus id bus })

/-- Run a message on a message bus. -/
def execute (id : MessageBusId) (message : Sample) : Attempt Session BusError Sample := do
  let host ← Attempt.reading host
  onExchange (Exchange.execute host id message)

/-- Dispatch an event on an event bus. -/
def dispatch (id : EventBusId) (event : Event) : Attempt Session BusError Event := do
  let host ← Attempt.reading host
  onExchange (Exchange.dispatch host id event)

/-- Dispatch a message that is an event on an event bus. -/
def executeEvent (id : EventBusId) (message : Sample) :
    Attempt Session BusError (Option Event) := do
  let host ← Attempt.reading host
  onExchange (Exchange.onEventBus id (EventBus.execute host message))

/-- Notify listeners of an event, and give back how that ended and what became of the event. -/
def notify (event : Event) (listeners : List String) :
    Attempt Session ε (Except BusError Unit × Event) := do
  let host ← Attempt.reading host
  onRealm ((host.notify listeners).settle.carrying event)

/-- Stop the worker of an event bus. -/
def shutdownEventBus (id : EventBusId) : Attempt Session ε Unit := do
  let host ← Attempt.reading host
  let warnings ← onExchange (Exchange.shutdownEventBus host id)
  warn warnings

/-- Hand out none of the present buses any more; buses that were made at the start stay. -/
def shutdown : Attempt Session ε Unit := do
  match ← Attempt.reading Session.busSource with
  | .exchange => do
      let host ← Attempt.reading host
      let warnings ← onExchange (Exchange.shutdown host)
      warn warnings
  | .manual => do
      let id ← eventBus
      shutdownEventBus id

/-- A reader of the files as they are now. -/
def reader (session : Session) (modules : Manifest.ModuleFilter) : Manifest.Reader :=
  { tree := session.tree, digest := session.realm.toolkit.digest, now := session.realm.now
    ttl := none, modules := modules }

/-- The reader of a configured part of the session. -/
def configuredReader (session : Session) : Manifest.Reader :=
  session.reader (.ofConfig session.config)

/-- The reader of message buses: those made at the start know no modules, unless manifests are
kept. -/
def handlerReader (session : Session) : Manifest.Reader :=
  match session.busSource with
  | .exchange => session.configuredReader
  | .manual => if session.keepsManifests then session.configuredReader else session.reader .all

/-- Run an attempt with the documents that are kept, or without any. -/
def withDocuments
    (isKept : Bool)
    (attempt : Attempt (Backend Json.Value × Session) ε α) :
    Attempt Session ε α := fun session =>
  match attempt (if isKept then session.documents else .blank, session) with
  | none => none
  | some (outcome, documents, session) =>
      some (outcome, if isKept then { session with documents := documents } else session)

/-- Whether buses of the session keep documents. -/
def busesKeep (session : Session) : Bool :=
  session.busSource = .manual && session.keepsManifests

/-- Read the document in a file. -/
def readDocument (path : Path) : Attempt Session ManifestError Json.Value := do
  let session ← Attempt.reading fun session => session
  withDocuments session.keepsManifests (session.configuredReader.read path).onFirst

/-- Load services into a container. -/
def loadServices (place : Nat) (path : Path) : Attempt Session ManifestError Nat := do
  let session ← Attempt.reading fun session => session
  withDocuments session.keepsManifests <|
    (session.configuredReader.loadServices path).focus
      (fun state => (state.1, state.2.realm.getContainer place))
      (fun part state =>
        (part.1, { state.2 with realm := state.2.realm.setContainer place part.2 }))

/-- Load handlers into a message bus. -/
def loadHandlers (id : MessageBusId) (path : Path) : Attempt Session ManifestError Nat := do
  let session ← Attempt.reading fun session => session
  let (count, warnings) ← withDocuments session.busesKeep <|
    (session.handlerReader.loadHandlers path).focus
      (fun state => (state.1, (state.2.exchange.getLine id).bus))
      (fun part state =>
        (part.1,
          { state.2 with exchange := state.2.exchange.setMessageBus id part.2 }))
  warn warnings
  pure count

/-- Load listeners into an event bus. -/
def loadListeners (id : EventBusId) (path : Path) : Attempt Session ManifestError Nat := do
  let session ← Attempt.reading fun session => session
  withDocuments session.busesKeep <|
    (session.configuredReader.loadListeners path).focus
      (fun state => (state.1, state.2.exchange.getEventBus id))
      (fun part state =>
        (part.1, { state.2 with exchange := state.2.exchange.setEventBus id part.2 }))

/-- The object of an identity, as far as anybody still has it. -/
def object? (session : Session) (id : ObjectId) : Option (Instance Component) :=
  let made := session.realm.runs.filterMap Run.made
  let given := session.realm.containers.flatMap fun container =>
    container.definitions.toList.filterMap fun entry =>
      match entry.2 with
      | .prebuilt object => some object
      | _ => none
  (made ++ given).find? fun object => object.id = id

/-- The names of the scripted runs from a number of runs on. -/
def notedFrom (session : Session) (count : Nat) : List String :=
  (session.realm.runs.drop count).filterMap fun run => session.catalog.noted? run.origin

end Session

end Switchboard.Bench
