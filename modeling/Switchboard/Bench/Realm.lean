import Switchboard.Bench.Backend
import Switchboard.Bench.Catalog
import Switchboard.Bench.Sample
import Switchboard.Bus.Handler
import Switchboard.Bus.Host
import Switchboard.Service.Resolve

namespace Switchboard.Bench

/-!
# Realms

A realm holds several containers that share a clock, the identities of objects and perhaps a
cache, and it holds what the components remember: logs, orders and calls.  Buses run on the realm
by building handlers and listeners in its first container.
-/

/-- The containers of the bench. -/
abbrev BenchContainer := Container Component (Backend (Instance Component))

/-- Containers and what their objects remember. -/
structure Realm where
  toolkit : Toolkit Component
  containers : List BenchContainer
  /-- The cache that all containers share, if they do. -/
  shared : Option (Backend (Instance Component))
  now : Instant
  nextId : ObjectId
  runs : List (Run Component)
  logs : ObjectId → List String
  orders : ObjectId → List (String × Int)
  calls : ObjectId → Nat

/-- A function that is changed at one place. -/
def put {α : Type} (function : ObjectId → α) (place : ObjectId) (value : α) :
    ObjectId → α :=
  fun other => if other = place then value else function other

namespace Realm

/-- How deep services may need each other. -/
def depth : Nat := 10000

/-- A container as it stands in the realm: with the shared clock, identities and cache. -/
def getContainer (realm : Realm) (place : Nat) : BenchContainer :=
  let container := realm.containers.getD place (.empty (.container place) .blank none)
  { container with
    cache := realm.shared.getD container.cache
    now := realm.now
    nextId := realm.nextId
    runs := realm.runs }

/-- Put a container back into the realm. -/
def setContainer (place : Nat) (container : BenchContainer) (realm : Realm) : Realm :=
  { realm with
    containers := realm.containers.set place container
    shared := realm.shared.map fun _ => container.cache
    nextId := container.nextId
    runs := container.runs }

/-- Run an attempt on one container. -/
def onContainer {ε α : Type} (place : Nat) (attempt : Attempt BenchContainer ε α) :
    Attempt Realm ε α :=
  attempt.focus (fun realm => realm.getContainer place) (setContainer place)

/-- Resolve a service of one container. -/
def resolve (place : Nat) (id : String) : Attempt Realm ServiceError (Instance Component) := do
  let toolkit ← Attempt.reading Realm.toolkit
  onContainer place (Container.get toolkit depth id)

/-- Build an object with one container. -/
def build (place : Nat) (order : Order) : Attempt Realm BuildError (Instance Component) := do
  let toolkit ← Attempt.reading Realm.toolkit
  onContainer place (Builder.build toolkit (Container.get toolkit depth) order)

/-- Write an entry into a log. -/
def record (log : ObjectId) (entry : String) (realm : Realm) : Realm :=
  { realm with logs := put realm.logs log (realm.logs log ++ [entry]) }

/-- Put an order into a store. -/
def store (store : ObjectId) (order : String × Int) (realm : Realm) : Realm :=
  { realm with orders := put realm.orders store (realm.orders store ++ [order]) }

/-- Count a call of an object. -/
def call (object : ObjectId) (realm : Realm) : Realm :=
  { realm with calls := put realm.calls object (realm.calls object + 1) }

/-- A new object of the realm. -/
def enroll (product : Product Component) (realm : Realm) : Instance Component × Realm :=
  (product.toInstance realm.nextId, { realm with nextId := realm.nextId + 1 })

/-- A handler of messages of any name and content. -/
def rawHandler (body : Sample → Attempt Realm Failure Sample) :
    Handler Realm Sample Sample where
  expected := applicationType "RawMessage"
  view message :=
    match message with
    | .raw _ _ => some message
    | _ => none
  body := body

/-- What a scripted handler does with a message. -/
def runHandler (object : ObjectId) : HandlerScript → Sample → Attempt Realm Failure Sample
  | .event =>
      Handler.handle
        { expected := eventType
          view := Message.event?
          body := fun event =>
            pure (.raw "GotEvent" (Dict.ofList [("identifier", .string event.identifier)])) }
  | .echo =>
      (rawHandler fun message =>
        pure (.raw "Echo"
          (Dict.ofList [("of", .string message.messageName), ("map", .object message.toMap)]))).handle
  | .same => (rawHandler fun message => pure message).handle
  | .fail text => (rawHandler fun _ => .fail (.text text)).handle
  | .count =>
      (rawHandler fun _ => do
        .changing fun realm => ((), realm.call object)
        let calls ← Attempt.reading fun realm => realm.calls object
        pure (.raw "Count" (Dict.ofList [("calls", .ofNat calls)]))).handle
  | .ack => (rawHandler fun _ => pure .ack).handle

/-- The handler that puts orders into a store. -/
def orderHandler (store : ObjectId) : Handler Realm Sample (String × Int) where
  expected := applicationType "CreateOrder"
  view message :=
    match message with
    | .createOrder sku quantity => some (sku, quantity)
    | _ => none
  body order := do
    .ofExcept (Sample.createOrder order.1 order.2).validate
    .changing fun realm => ((), realm.store store order)
    let orders ← Attempt.reading fun realm => realm.orders store
    pure (.orderCreated ("order-" ++ toString orders.length))

/-- The handler that counts the orders in a store. -/
def countHandler (store : ObjectId) : Handler Realm Sample Unit where
  expected := applicationType "CountOrders"
  view message :=
    match message with
    | .countOrders => some ()
    | _ => none
  body _ := do
    let orders ← Attempt.reading fun realm => realm.orders store
    pure (.orderCount orders.length)

/-- The handler that deletes users. -/
def deleteHandler : Handler Realm Sample Int where
  expected := applicationType "DeleteUser"
  view message :=
    match message with
    | .deleteUser id => some id
    | _ => none
  body id := do
    .ofExcept (Sample.deleteUser id).validate
    pure .ack

/-- How an object handles messages, if it does. -/
def handling? (object : Instance Component) : Option (Sample → Attempt Realm Failure Sample) :=
  match object.content with
  | .handler _ script => some (runHandler object.id script)
  | .orderHandler store => some (orderHandler store).handle
  | .countHandler store => some (countHandler store).handle
  | .deleteHandler => some deleteHandler.handle
  | _ => none

/-- The trail in an event with one more name on it; what is no trail is replaced. -/
def extendTrail (event : Event) (className : String) : Event :=
  let trail := ((event.get? "trail").bind Json.Value.asArray?).getD []
  event.set "trail" (.array (trail ++ [.string className]))

/-- The container in the field `container`, if there is one. -/
def ownContainer? (record : Record) : Option Nat :=
  match record.fields.lookup "container" with
  | some (.service _ _ container) => container
  | _ => none

/-- Change the event that is being dispatched. -/
def alterEvent (change : Event → Event) : Attempt (Event × Realm) Failure Unit :=
  .changing fun state => ((), (change state.1, state.2))

/-- What a scripted listener does with an event. -/
def runListener (record : Record) (script : ListenerScript) :
    Attempt (Event × Realm) Failure Unit :=
  match script with
  | .trail => alterEvent fun event => extendTrail event record.className
  | .set key value => alterEvent fun event => event.set key value
  | .stop => alterEvent Event.stop
  | .fail text => .fail (.text text)
  | .clear => alterEvent fun event => event.withData Dict.empty
  | .resolve id =>
      match ownContainer? record with
      | none => .fail (.text "no container field")
      | some place => do
          let object ← ((resolve place id).mapError Failure.service).onSecond
          alterEvent fun event => event.set "resolved" (.string object.typeName)

/-- Write an entry about the event that is being dispatched into a log. -/
def recordEvent (log : ObjectId) (entry : Event → String) :
    Attempt (Event × Realm) Failure Unit :=
  .changing fun state => ((), (state.1, state.2.record log (entry state.1)))

/-- What a spy does with an event. -/
def runSpy (label : String) (log : ObjectId) (script : SpyScript) :
    Attempt (Event × Realm) Failure Unit := do
  recordEvent log fun event => label ++ ":" ++ event.identifier
  match script with
  | .record => pure ()
  | .stop => alterEvent Event.stop
  | .fail => do
      let identifier ← Attempt.reading fun state => state.1.identifier
      .fail (.text (label ++ " refused `" ++ identifier ++ "`"))

/-- Who reported what, as it is written into a log. -/
def auditEntry (event : Event) : String :=
  event.source.getD "" ++ "/" ++
    ((event.get? "identifier").bind Json.Value.asString?).getD ""

/-- How an object reacts to events, if it does. -/
def listening? (object : Instance Component) : Option (Attempt (Event × Realm) Failure Unit) :=
  match object.content with
  | .listener record script => some (runListener record script)
  | .spy label log script => some (runSpy label log script)
  | .stampListener => some (alterEvent fun event => event.set "stamped" (.bool true))
  | .auditListener log => some (recordEvent log auditEntry)
  | _ => none

/-- The time that stands in events of the bench. -/
def timestamp : String := "<time>"

/-- The realm as what buses run on. -/
def host (hasBackground : Bool) : Host Realm (Instance Component) Sample where
  build className := build 0 (.ofClass className [])
  handling? := handling?
  listening? := listening?
  timestamp _ := timestamp
  hasBackground := hasBackground

end Realm

end Switchboard.Bench
