import Switchboard.Service.Builder

namespace Switchboard.Container

/-!
# Resolving services

To resolve an id, the container answers with itself, with the cached object, or with what the
definition leads to; an id without a definition is built as a class of that name.  Building may
resolve further services, so resolving takes fuel; a run that ends with some fuel ends the same
way with more.  A resolved object is cached, a failure is wrapped once for every id on the way.
-/

variable {κ χ : Type} [CacheStore χ (Instance κ)]

/-- The ids that following aliases visits, up to and including the first repeated one. -/
def aliasCycle? (definitions : Dict (Definition κ)) :
    Nat → List String → String → Option (List String)
  | 0, _, _ => none
  | fuel + 1, chain, next =>
      if next ∈ chain then
        some (chain ++ [next])
      else
        match definitions.find? next with
        | some (.aliasOf further) => aliasCycle? definitions fuel (chain ++ [next]) further
        | _ => none

/-- Why an alias in a cycle is refused. -/
def cycleReason (chain : List String) : String :=
  "alias cycle " ++ String.intercalate " -> " chain

/-- Resolve the target of an alias, unless following aliases comes round in a circle. -/
def resolveAlias
    (resolve : Builder.Resolver κ χ)
    (id target : String) :
    Attempt (Container κ χ) AnyError (Instance κ) := do
  let cycle ← Attempt.reading fun container =>
    aliasCycle? container.definitions (container.definitions.size + 1) [id] target
  match cycle with
  | some chain => .fail (.container (.invalidDefinition id (cycleReason chain)))
  | none => (resolve target).mapError .container

/-- The object that a definition, or its absence, leads to. -/
def resolveDefinition
    (toolkit : Toolkit κ)
    (resolve : Builder.Resolver κ χ)
    (id : String) :
    Option (Definition κ) → Attempt (Container κ χ) AnyError (Instance κ)
  | some (.aliasOf target) => resolveAlias resolve id target
  | some (.prebuilt object) => pure object
  | some .itself => .changing asInstance
  | some definition => (Builder.buildDefinition toolkit resolve definition).mapError .build
  | none => (Builder.build toolkit resolve (.ofClass id [])).mapError .build

/-- Look an entry up in the cache. -/
def lookUp (key : String) : Attempt (Container κ χ) ServiceError (Option (Instance κ)) :=
  .changing fun container =>
    let (found, cache) := CacheStore.get container.cache container.now key
    (found, { container with cache := cache })

/-- Put a resolved object into the cache. -/
def keep (key : String) (object : Instance κ) :
    Attempt (Container κ χ) ServiceError (Instance κ) := do
  if ← Attempt.reading stops then
    .stopped
  else
    .changing fun container =>
      let (_, cache) := CacheStore.set container.cache container.now key object container.ttl
      (object, { container with cache := cache })

/-- Resolve an id. -/
def get (toolkit : Toolkit κ) : Nat → Builder.Resolver κ χ
  | 0, _ => .exhausted
  | fuel + 1, id => do
      match ← Attempt.reading fun container => container.definitions.find? id with
      | some .itself => .changing asInstance
      | definition => do
          let key := Key.service toolkit.digest id
          match ← lookUp key with
          | some found => pure found
          | none => do
              let object ←
                (resolveDefinition toolkit (get toolkit fuel) id definition).mapError
                  (.notFound id)
              keep key object

/-- Resolve an id to an object of a type that is called `expected` in messages. -/
def getAs {α : Type}
    (toolkit : Toolkit κ)
    (fuel : Nat)
    (id expected : String)
    (view : Instance κ → Option α) :
    Attempt (Container κ χ) ServiceError α := do
  let object ← get toolkit fuel id
  match view object with
  | some found => pure found
  | none => .fail (.typeMismatch id expected object.typeName)

/--
Define an id as a new object, and give back the object of a type that it has then.

If the id has another definition already, that one stays; if it does not lead to an object of the
type, the new object is given back although the container does not have it.
-/
def install {ε : Type}
    (toolkit : Toolkit κ)
    (fuel : Nat)
    (id : String)
    (product : Product κ)
    (expected : String)
    (view : Instance κ → Option (Instance κ)) :
    Attempt (Container κ χ) ε (Instance κ) := do
  let made ← .changing (enroll product)
  let _ ← (defining id (.prebuilt made)).settle
  match ← (getAs toolkit fuel id expected view).settle with
  | .ok installed => pure installed
  | .error _ => pure made

end Switchboard.Container
