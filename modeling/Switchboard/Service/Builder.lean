import Switchboard.Service.Container

namespace Switchboard.Builder

/-!
# Building objects

To build an object, each parameter of its constructor is supplied in order: by the argument at
its place, else by the service of its name, else by the service of its declared type, else by its
fallback.  Services come from a way to resolve them that is handed in, so everything here ends by
itself.  What was built once is remembered under the key of its order and never built again.
-/

variable {κ χ : Type} [CacheStore χ (Instance κ)]

/-- A way to resolve services of a container. -/
abbrev Resolver (κ χ : Type) := String → Attempt (Container κ χ) ServiceError (Instance κ)

/-- A service to inject. -/
def service (resolve : Resolver κ χ) (id : String) :
    Attempt (Container κ χ) BuildError (Instance κ) :=
  (resolve id).mapError (.service id)

/-- The value or service of an argument. -/
def resolveArgument
    (toolkit : Toolkit κ)
    (resolve : Resolver κ χ) :
    Argument → Attempt (Container κ χ) BuildError (Resolved κ)
  | .literal value => pure (.value value)
  | .env name =>
      match toolkit.environment name with
      | some text => pure (.value (.string text))
      | none => .fail (.missingVariable name)
  | .service id => do
      let object ← service resolve id
      pure (.service object)

/-- The declared type of a parameter, if it is known and the container has a service for it. -/
def typeService?
    (toolkit : Toolkit κ)
    (container : Container κ χ)
    (parameter : Parameter) :
    Option String :=
  match parameter.typeName with
  | none => none
  | some typeName =>
      if toolkit.registry.contains typeName && container.has toolkit typeName then
        some typeName
      else
        none

/-- What supplies a parameter that has no argument. -/
inductive Supply where
  | byService (id : String)
  | byFallback (value : Json.Value)
  | byNothing

/-- Which of the ways to supply a parameter without an argument is taken. -/
def Supply.choose
    (toolkit : Toolkit κ)
    (container : Container κ χ)
    (parameter : Parameter) :
    Supply :=
  if container.has toolkit parameter.name then
    .byService parameter.name
  else
    match typeService? toolkit container parameter with
    | some typeName => .byService typeName
    | none =>
        match parameter.fallback with
        | some value => .byFallback value
        | none => .byNothing

/-- Supply one parameter. -/
def supply
    (toolkit : Toolkit κ)
    (resolve : Resolver κ χ)
    (className : String)
    (parameter : Parameter) :
    Option Argument → Attempt (Container κ χ) BuildError (Resolved κ)
  | some argument => resolveArgument toolkit resolve argument
  | none => do
      match ← Attempt.reading fun container => Supply.choose toolkit container parameter with
      | .byService id => do
          let object ← service resolve id
          pure (.service object)
      | .byFallback value => pure (.value value)
      | .byNothing => .fail (.unresolvedDependency className parameter.name)

/-- Supply parameters in order; arguments beyond them are never looked at. -/
def supplyAll
    (toolkit : Toolkit κ)
    (resolve : Resolver κ χ)
    (className : String) :
    List Parameter → List Argument → Attempt (Container κ χ) BuildError (Arguments κ)
  | [], _ => pure []
  | parameter :: parameters, arguments => do
      let resolved ← supply toolkit resolve className parameter arguments.head?
      let others ← supplyAll toolkit resolve className parameters arguments.tail
      pure ((parameter.name, resolved) :: others)

/-- Run a constructor or factory, give its product an identity and keep a record of the run. -/
def make
    (origin : Origin)
    (label : String)
    (maker : Maker κ)
    (arguments : Arguments κ) :
    Attempt (Container κ χ) BuildError (Instance κ) :=
  fun container =>
    match maker arguments with
    | .error failure =>
        let run := { origin := origin, arguments := arguments, made := none }
        some (.error (.construct label failure),
          { container with runs := container.runs ++ [run] })
    | .ok product =>
        let object := product.toInstance container.nextId
        let run := { origin := origin, arguments := arguments, made := some object }
        some (.ok object,
          { container with
            nextId := container.nextId + 1
            runs := container.runs ++ [run] })

/-- Build an object of a class, whether or not it was built before. -/
def assembleClass
    (toolkit : Toolkit κ)
    (resolve : Resolver κ χ)
    (className : String)
    (arguments : List Argument) :
    Attempt (Container κ χ) BuildError (Instance κ) :=
  match toolkit.registry.blueprint? className with
  | none => .fail (.unknownType className)
  | some blueprint =>
      match blueprint.make with
      | none => .fail (.notInstantiable className)
      | some maker => do
          let resolved ← supplyAll toolkit resolve className blueprint.parameters arguments
          make (.constructor className) className maker resolved

/-- Call a factory, whether or not it was called before. -/
def assembleFactory
    (toolkit : Toolkit κ)
    (resolve : Resolver κ χ)
    (className method : String)
    (arguments : List Argument) :
    Attempt (Container κ χ) BuildError (Instance κ) :=
  match toolkit.registry.factory? className method with
  | none => .fail (.unknownFactory className method)
  | some factory =>
      if !factory.isStatic then
        .fail (.notStatic className method)
      else if arguments.length < factory.required then
        .fail (.missingArguments className method factory.required arguments.length)
      else do
        let resolved ← supplyAll toolkit resolve className factory.parameters arguments
        make (.factory className method) (className ++ "::" ++ method) factory.make resolved

/-- Carry out an order, whether or not it was carried out before. -/
def assemble (toolkit : Toolkit κ) (resolve : Resolver κ χ) :
    Order → Attempt (Container κ χ) BuildError (Instance κ)
  | .ofClass className arguments => assembleClass toolkit resolve className arguments
  | .ofFactory className method arguments =>
      assembleFactory toolkit resolve className method arguments

/-- Remember an object in the memo of the container's own builder. -/
def remember (key : String) (object : Instance κ) :
    Attempt (Container κ χ) BuildError (Instance κ) :=
  .changing fun container =>
    let (held, memo) := container.memo.remember key object
    (held, { container with memo := memo })

/-- Carry out an order with the container's own builder, unless its result is remembered. -/
def build (toolkit : Toolkit κ) (resolve : Resolver κ χ) (order : Order) :
    Attempt (Container κ χ) BuildError (Instance κ) := do
  let key := order.key toolkit.digest
  match ← Attempt.reading fun container => container.memo.find? key with
  | some held => pure held
  | none => do
      let object ← assemble toolkit resolve order
      remember key object

/--
Carry out an order with a builder of its own memo.

The services it needs are still built and remembered by the container.
-/
def buildApart (toolkit : Toolkit κ) (resolve : Resolver κ χ) (order : Order) :
    Attempt (Memo κ × Container κ χ) BuildError (Instance κ) := do
  let key := order.key toolkit.digest
  match ← Attempt.reading fun state => state.1.find? key with
  | some held => pure held
  | none => do
      let object ← (assemble toolkit resolve order).onSecond
      Attempt.changing fun state =>
        let (held, memo) := state.1.remember key object
        (held, (memo, state.2))

/-- Build what a definition says; the container resolves aliases and itself. -/
def buildDefinition (toolkit : Toolkit κ) (resolve : Resolver κ χ) :
    Definition κ → Attempt (Container κ χ) BuildError (Instance κ)
  | .ofClass className arguments => build toolkit resolve (.ofClass className arguments)
  | .ofFactory className method arguments =>
      build toolkit resolve (.ofFactory className method arguments)
  | .prebuilt object => pure object
  | .aliasOf target => service resolve target
  | .itself => .changing Container.asInstance

/-- Build what a definition says, with a builder of its own memo. -/
def buildDefinitionApart (toolkit : Toolkit κ) (resolve : Resolver κ χ) :
    Definition κ → Attempt (Memo κ × Container κ χ) BuildError (Instance κ)
  | .ofClass className arguments => buildApart toolkit resolve (.ofClass className arguments)
  | .ofFactory className method arguments =>
      buildApart toolkit resolve (.ofFactory className method arguments)
  | definition => (buildDefinition toolkit resolve definition).onSecond

end Switchboard.Builder
