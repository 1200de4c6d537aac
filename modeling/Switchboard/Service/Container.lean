import Switchboard.Attempt
import Switchboard.Cache.Memory
import Switchboard.Service.Definition
import Switchboard.Service.Key
import Switchboard.Service.Registry

namespace Switchboard

/-!
# Containers

A container holds definitions by id and keeps the objects it resolved in a cache; its builder
keeps a memo of everything it built.  The first definition of an id stays, and two ids always
mean the container itself.  What happens when an id is resolved is the matter of `Service.Resolve`.

A container asks its cache at the time that it has.  A cache that reads a clock of its own, as
`ClockedCache` does, passes that over, so time can go by while an id is resolved.
-/

/-- What builders work with and never change. -/
structure Toolkit (κ : Type) where
  registry : Registry κ
  /-- The value of an environment variable, if it is set. -/
  environment : String → Option String
  /-- The digest that keys are made with. -/
  digest : Key.Digest

/-- An order to build something. -/
inductive Order where
  /-- Run the constructor of a class. -/
  | ofClass (className : String) (arguments : List Argument)
  /-- Call a factory method. -/
  | ofFactory (className : String) (method : String) (arguments : List Argument)
  deriving Repr

/-- The key under which the result of an order is remembered. -/
def Order.key (digest : Key.Digest) : Order → String
  | .ofClass className arguments => Key.build digest className Key.constructor arguments
  | .ofFactory className method arguments => Key.build digest className method arguments

/-- Objects that were built, by the keys of their orders. -/
abbrev Memo (κ : Type) := Dict (Instance κ)

/-- Remember an object, unless one is remembered already; the remembered one is the answer. -/
def Memo.remember {κ : Type} (memo : Memo κ) (key : String) (object : Instance κ) :
    Instance κ × Memo κ :=
  match memo.find? key with
  | some held => (held, memo)
  | none => (object, memo.insert key object)

/-- What ran to make an object. -/
inductive Origin where
  | constructor (className : String)
  | factory (className : String) (method : String)
  deriving Repr, DecidableEq

/-- One run of a constructor or factory. -/
structure Run (κ : Type) where
  origin : Origin
  arguments : Arguments κ
  /-- The object that was made, unless the run failed. -/
  made : Option (Instance κ)

/-- A container, with the clock it reads and the identities it gives out. -/
structure Container (κ χ : Type) where
  /-- What an instance of this container holds. -/
  self : κ
  definitions : Dict (Definition κ)
  cache : χ
  /-- How long resolved services stay in the cache. -/
  ttl : Option Ttl
  memo : Memo κ
  now : Instant
  nextId : ObjectId
  /-- Every run of a constructor or factory so far, in order. -/
  runs : List (Run κ)

namespace Container

variable {κ χ : Type}

/-- The id under which a container is a service of its own. -/
def ownId : String := "container"

/-- The type name of containers, and the other id under which a container is its own service. -/
def ownType : String := "conduit::Container"

/-- Why a definition as the container itself is refused. -/
def selfRefused : String := "self references cannot be registered"

/-- Why a definition of one of the container's own ids is refused. -/
def ownIdRefused : String := "the id is reserved for the container"

/-- A container without services. -/
def empty (self : κ) (cache : χ) (ttl : Option Ttl) : Container κ χ :=
  { self := self
    definitions := (Dict.empty.insert ownId .itself).insert ownType .itself
    cache := cache
    ttl := ttl
    memo := Dict.empty
    now := 0
    nextId := 0
    runs := [] }

/-- Define an id; the first definition of an id stays, and later ones change nothing. -/
def define
    (container : Container κ χ)
    (id : String)
    (definition : Definition κ) :
    Except ServiceError (Container κ χ) :=
  match definition with
  | .itself => .error (.invalidDefinition id selfRefused)
  | definition =>
      match container.definitions.find? id with
      | some .itself => .error (.invalidDefinition id ownIdRefused)
      | some _ => .ok container
      | none =>
          .ok { container with definitions := container.definitions.insert id definition }

/-- Define an id by a document. -/
def defineJson
    (container : Container κ χ)
    (id : String)
    (value : Json.Value) :
    Except ServiceError (Container κ χ) := do
  let definition ← Definition.ofJson id value
  container.define id definition

/-- Define an id, or fail and leave everything as it is. -/
def defining (id : String) (definition : Definition κ) :
    Attempt (Container κ χ) ServiceError Unit :=
  fun container =>
    match container.define id definition with
    | .error error => some (.error error, container)
    | .ok container => some (.ok (), container)

/-- Define services up front, passing over those that are refused. -/
def withServices
    (container : Container κ χ)
    (services : List (String × Definition κ)) :
    Container κ χ :=
  services.foldl
    (fun container service =>
      match container.define service.1 service.2 with
      | .ok container => container
      | .error _ => container)
    container

/-- All defined ids, in order. -/
def ids (container : Container κ χ) : List String :=
  container.definitions.keys

/-- A new object that holds the container itself. -/
def asInstance (container : Container κ χ) : Instance κ × Container κ χ :=
  ((Product.plain ownType container.self).toInstance container.nextId,
    { container with nextId := container.nextId + 1 })

/-- A new object that was not built. -/
def enroll (product : Product κ) (container : Container κ χ) : Instance κ × Container κ χ :=
  (product.toInstance container.nextId, { container with nextId := container.nextId + 1 })

/-- Whether an id is defined or in the cache. -/
def has [CacheStore χ (Instance κ)]
    (toolkit : Toolkit κ)
    (container : Container κ χ)
    (id : String) :
    Bool :=
  container.definitions.contains id ||
    CacheStore.has container.cache container.now (Key.service toolkit.digest id)

/-- Whether putting an object into the cache, for as long as objects stay there, panics. -/
def stops [CacheStore χ (Instance κ)] (container : Container κ χ) : Bool :=
  CacheStore.stops container.cache container.now container.ttl

/-- Forget every resolved service and every built object. -/
def clearCache [CacheStore χ (Instance κ)] (container : Container κ χ) : Container κ χ :=
  { container with
    cache := (CacheStore.clear container.cache).2
    memo := Dict.empty }

/-- Forget every built object. -/
def clearMemo (container : Container κ χ) : Container κ χ :=
  { container with memo := Dict.empty }

/-- How a container describes itself. -/
def described (container : Container κ χ) : String :=
  "Container \x7b definitions: " ++ Text.shownList (container.ids.map Text.shown) ++
    ", ttl: " ++ Text.shownOption (container.ttl.map Ttl.described) ++ " \x7d"

/-- How the builder of a container describes itself. -/
def builderDescribed (toolkit : Toolkit κ) (container : Container κ χ) : String :=
  "ObjectBuilder \x7b types: " ++ toString toolkit.registry.size ++
    ", memoized: " ++ toString container.memo.size ++ " \x7d"

end Container

end Switchboard
