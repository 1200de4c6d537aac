import Switchboard.Bus.EventBus
import Switchboard.Bus.MessageBus
import Switchboard.Manifest.Reader
import Switchboard.Service.Container

namespace Switchboard.Manifest.Reader

/-!
# Loading manifests

All items of a section are collected before the first one is registered, so a manifest that
cannot be read registers nothing.  Services are then defined one by one, and the first refused
one ends the loading with those before it defined.
-/

/-- The section of handlers. -/
def handlersSection : String := "handlers"

/-- The section of listeners. -/
def listenersSection : String := "listeners"

/-- The section of services. -/
def servicesSection : String := "services"

variable {ω χ κ : Type} [CacheStore ω Json.Value]

/-- Register handler items in order. -/
def registerHandlers (bus : MessageBus) : List HandlerItem → List Warning × MessageBus
  | [] => ([], bus)
  | item :: items =>
      let warnings := bus.replacement item.identifier item.handler
      let (others, bus) :=
        registerHandlers (bus.register item.identifier item.handler item.nickname) items
      (warnings ++ others, bus)

/-- Register listener items in order. -/
def registerListeners (bus : EventBus) (items : List ListenerItem) : EventBus :=
  items.foldl (fun bus item => bus.register item.event item.listener item.priority) bus

/-- Define services in order, up to the first refused one. -/
def defineServices : List ServiceItem → Attempt (Container κ χ) ManifestError Unit
  | [] => pure ()
  | item :: items => fun container =>
      match container.defineJson item.id (.object item.definition) with
      | .error error => some (.error (.definition error), container)
      | .ok container => defineServices items container

/-- Load handlers into a message bus, and say how many there were. -/
def loadHandlers (reader : Reader) (path : Path) :
    Attempt (ω × MessageBus) ManifestError (Nat × List Warning) := do
  let items ← (reader.entries handlersSection HandlerItem.read? path).onFirst
  let warnings ← Attempt.onSecond <| .changing fun bus => registerHandlers bus items
  pure (items.length, warnings)

/-- Load listeners into an event bus, and say how many there were. -/
def loadListeners (reader : Reader) (path : Path) :
    Attempt (ω × EventBus) ManifestError Nat := do
  let items ← (reader.entries listenersSection ListenerItem.read? path).onFirst
  Attempt.onSecond <| .changing fun bus => ((), registerListeners bus items)
  pure items.length

/-- Load services into a container, and say how many there were. -/
def loadServices (reader : Reader) (path : Path) :
    Attempt (ω × Container κ χ) ManifestError Nat := do
  let items ← (reader.entries servicesSection ServiceItem.read? path).onFirst
  (defineServices items).onSecond
  pure items.length

/-- How a reader describes itself. -/
def described (reader : Reader) (isCached : Bool) : String :=
  "ManifestReader \x7b cached: " ++ Text.shownBool isCached ++
    ", ttl: " ++ Text.shownOption (reader.ttl.map Ttl.described) ++ ", .. \x7d"

end Switchboard.Manifest.Reader
