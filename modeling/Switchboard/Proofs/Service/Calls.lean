import Mathlib.Logic.Relation
import Switchboard.Proofs.Service.Endings

namespace Switchboard

/-!
# Calls within calls

Resolving an id may resolve other ids and build objects, and building an object may resolve ids.
`Makes` says which calls a call makes directly, each with the container as it stands at that
moment, and `Within` which calls are made on the way, at any depth.

Every statement about what a call does to a container goes by one induction over these calls.  It
is carried out once, in `Walk.relates_of_ends`: whoever shows that a relation between containers
is kept by the few steps of `Walk` has shown it of every call.
-/

variable {κ χ : Type} [CacheStore χ (Instance κ)]

namespace Builder

/-- The service that supplies a parameter, if one does. -/
def asked?
    (toolkit : Toolkit κ)
    (container : Container κ χ)
    (parameter : Parameter) :
    Option Argument → Option String
  | some (.service id) => some id
  | some _ => none
  | none =>
      match Supply.choose toolkit container parameter with
      | .byService id => some id
      | _ => none

/-- Supplying parameters from a container on comes to resolving an id, in the container as it
stands by then. -/
inductive Asks
    (toolkit : Toolkit κ)
    (resolve : Resolver κ χ)
    (className : String) :
    List Parameter → List Argument → Container κ χ → String → Container κ χ → Prop
  /-- The first parameter is a service. -/
  | first
      {parameter : Parameter}
      {parameters : List Parameter}
      {arguments : List Argument}
      {container : Container κ χ}
      {id : String}
      (asked : asked? toolkit container parameter arguments.head? = some id) :
      Asks toolkit resolve className (parameter :: parameters) arguments container id container
  /-- The first parameter was supplied, and a later one is a service. -/
  | later
      {parameter : Parameter}
      {parameters : List Parameter}
      {arguments : List Argument}
      {container between moment : Container κ χ}
      {resolved : Resolved κ}
      {id : String}
      (supplied :
        supply toolkit resolve className parameter arguments.head? container =
          some (.ok resolved, between))
      (asks : Asks toolkit resolve className parameters arguments.tail between id moment) :
      Asks toolkit resolve className (parameter :: parameters) arguments container id moment

/-- A parameter is supplied by resolving the service it asks for, or without any service and
without a trace. -/
theorem supply_cases
    {toolkit : Toolkit κ}
    {resolve : Resolver κ χ}
    {className : String}
    {parameter : Parameter}
    {argument : Option Argument}
    {container after : Container κ χ}
    {outcome : Except BuildError (Resolved κ)}
    (supplied :
      supply toolkit resolve className parameter argument container = some (outcome, after)) :
    (∃ id answer,
      asked? toolkit container parameter argument = some id ∧
        resolve id container = some (answer, after) ∧
        outcome = (answer.map Resolved.service).mapError (.service id)) ∨
      asked? toolkit container parameter argument = none ∧ after = container := by
  have served
      {id : String}
      (asked : asked? toolkit container parameter argument = some id)
      (ended :
        (service resolve id >>= fun object => pure (.service object)) container =
          some (outcome, after)) :
      ∃ id answer,
        asked? toolkit container parameter argument = some id ∧
          resolve id container = some (answer, after) ∧
          outcome = (answer.map Resolved.service).mapError (.service id) := by
    rcases Attempt.bind_eq_some.mp ended with ⟨error, refused, rfl⟩ | ⟨object, between, found, kept⟩
    · obtain ⟨cause, unresolved, rfl⟩ := Attempt.mapError_eq_error.mp refused
      exact ⟨id, .error cause, asked, unresolved, rfl⟩
    · cases kept
      exact ⟨id, .ok object, asked, Attempt.mapError_eq_ok.mp found, rfl⟩
  cases argument with
  | some argument =>
      cases argument with
      | literal value =>
          cases supplied
          exact Or.inr ⟨rfl, rfl⟩
      | env name =>
          right
          simp only [supply, resolveArgument] at supplied
          cases setting : toolkit.environment name with
          | none =>
              rw [setting] at supplied
              cases supplied
              exact ⟨rfl, rfl⟩
          | some text =>
              rw [setting] at supplied
              cases supplied
              exact ⟨rfl, rfl⟩
      | service id =>
          exact Or.inl (served rfl supplied)
  | none =>
      simp only [supply, Attempt.reading_bind] at supplied
      cases choice : Supply.choose toolkit container parameter with
      | byService id =>
          rw [choice] at supplied
          have asked : asked? toolkit container parameter none = some id := by
            simp only [asked?, choice]
          exact Or.inl (served asked supplied)
      | byFallback value =>
          rw [choice] at supplied
          cases supplied
          exact Or.inr ⟨by simp only [asked?, choice], rfl⟩
      | byNothing =>
          rw [choice] at supplied
          cases supplied
          exact Or.inr ⟨by simp only [asked?, choice], rfl⟩

/-- What resolving the asked services does to a container, supplying parameters does to it. -/
theorem supplyAll_relates
    {toolkit : Toolkit κ}
    {resolve : Resolver κ χ}
    {className : String}
    {relates : Container κ χ → Container κ χ → Prop}
    (refl : ∀ container, relates container container)
    (trans : ∀ first second third,
      relates first second → relates second third → relates first third)
    {parameters : List Parameter}
    {arguments : List Argument}
    {container after : Container κ χ}
    {outcome : Except BuildError (Arguments κ)}
    (resolving : ∀ id moment answer afterwards,
      Asks toolkit resolve className parameters arguments container id moment →
        resolve id moment = some (answer, afterwards) →
        relates moment afterwards)
    (supplied :
      supplyAll toolkit resolve className parameters arguments container =
        some (outcome, after)) :
    relates container after := by
  induction parameters generalizing arguments container outcome with
  | nil =>
      cases supplied
      exact refl _
  | cons parameter parameters inductionHypothesis =>
      have supplyFirst
          {first : Except BuildError (Resolved κ)}
          {between : Container κ χ}
          (ended :
            supply toolkit resolve className parameter arguments.head? container =
              some (first, between)) :
          relates container between := by
        rcases supply_cases ended with ⟨id, answer, asked, resolved, _⟩ | ⟨_, rfl⟩
        · exact resolving id container answer between (.first asked) resolved
        · exact refl between
      rcases supplyAll_cons_eq_some_iff.mp supplied with
        ⟨error, refused, _⟩ | ⟨resolved, between, others, first, rest, _⟩
      · exact supplyFirst refused
      · have laterResolving : ∀ id moment answer afterwards,
            Asks toolkit resolve className parameters arguments.tail between id moment →
              resolve id moment = some (answer, afterwards) →
              relates moment afterwards :=
          fun id moment answer afterwards asks =>
            resolving id moment answer afterwards (.later first asks)
        exact trans _ _ _ (supplyFirst first) (inductionHypothesis laterResolving rest)

end Builder

/-- What a container can be called for while it works. -/
inductive Call where
  /-- Resolve an id. -/
  | get (id : String)
  /-- Carry out an order with the memo. -/
  | build (order : Order)
  deriving Repr

/-- A call at the moment when it is made. -/
structure Moment (κ χ : Type) where
  fuel : Nat
  call : Call
  container : Container κ χ

namespace Moment

/-- A call ends with an object, or with none because it failed, and leaves a container. -/
def Ends
    (toolkit : Toolkit κ)
    (moment : Moment κ χ)
    (result : Option (Instance κ))
    (after : Container κ χ) :
    Prop :=
  match moment.call with
  | .get id =>
      ∃ outcome : Except ServiceError (Instance κ),
        Container.get toolkit moment.fuel id moment.container = some (outcome, after) ∧
          outcome.toOption = result
  | .build order =>
      ∃ outcome : Except BuildError (Instance κ),
        Builder.build toolkit (Container.get toolkit moment.fuel) order moment.container =
            some (outcome, after) ∧
          outcome.toOption = result

/-- The calls that a call makes itself. -/
inductive Makes (toolkit : Toolkit κ) : Moment κ χ → Moment κ χ → Prop
  /-- An id that is not cached is resolved by the target of its alias. -/
  | follow
      {fuel : Nat}
      {id target : String}
      {container : Container κ χ}
      (defined : container.definitions.find? id = some (.aliasOf target))
      (miss : container.found? (Key.service toolkit.digest id) = none)
      (acyclic :
        Container.aliasCycle? container.definitions (container.definitions.size + 1)
          [id] target = none) :
      Makes toolkit
        { fuel := fuel + 1, call := .get id, container := container }
        { fuel := fuel, call := .get target
          container := container.lookedUp (Key.service toolkit.digest id) }
  /-- An id that is not cached is resolved by carrying out an order. -/
  | order
      {fuel : Nat}
      {id : String}
      {order : Order}
      {container : Container κ χ}
      (asked : Container.orderOf? id (container.definitions.find? id) = some order)
      (miss : container.found? (Key.service toolkit.digest id) = none) :
      Makes toolkit
        { fuel := fuel + 1, call := .get id, container := container }
        { fuel := fuel, call := .build order
          container := container.lookedUp (Key.service toolkit.digest id) }
  /-- An order that is not remembered needs a service for one of its parameters. -/
  | inject
      {fuel : Nat}
      {order : Order}
      {recipe : Recipe κ}
      {id : String}
      {container later : Container κ χ}
      (miss : container.memo.find? (order.key toolkit.digest) = none)
      (known : order.recipe toolkit.registry = .ok recipe)
      (asks :
        Builder.Asks toolkit (Container.get toolkit fuel) order.className recipe.parameters
          order.arguments container id later) :
      Makes toolkit
        { fuel := fuel, call := .build order, container := container }
        { fuel := fuel, call := .get id, container := later }

/-- The calls that are made in the course of a call, and the call itself. -/
def Within (toolkit : Toolkit κ) (root moment : Moment κ χ) : Prop :=
  Relation.ReflTransGen (Makes toolkit) root moment

/-- The calls that are made in the course of a call, without the call itself. -/
def Inside (toolkit : Toolkit κ) (root moment : Moment κ χ) : Prop :=
  Relation.TransGen (Makes toolkit) root moment

/-- A call can end in one way only. -/
theorem Ends.unique
    {toolkit : Toolkit κ}
    {moment : Moment κ χ}
    {first second : Option (Instance κ)}
    {afterFirst afterSecond : Container κ χ}
    (endsFirst : moment.Ends toolkit first afterFirst)
    (endsSecond : moment.Ends toolkit second afterSecond) :
    first = second ∧ afterFirst = afterSecond := by
  obtain ⟨fuel, call, container⟩ := moment
  cases call with
  | get id =>
      obtain ⟨outcome, ended, rfl⟩ := endsFirst
      obtain ⟨other, endedToo, rfl⟩ := endsSecond
      have same := ended.symm.trans endedToo
      cases same
      exact ⟨rfl, rfl⟩
  | build order =>
      obtain ⟨outcome, ended, rfl⟩ := endsFirst
      obtain ⟨other, endedToo, rfl⟩ := endsSecond
      have same := ended.symm.trans endedToo
      cases same
      exact ⟨rfl, rfl⟩

/-- What succeeded in the course of a call that failed was another call. -/
theorem Within.inside
    {toolkit : Toolkit κ}
    {root moment : Moment κ χ}
    {object : Instance κ}
    {after afterRoot : Container κ χ}
    (within : root.Within toolkit moment)
    (succeeds : moment.Ends toolkit (some object) after)
    (fails : root.Ends toolkit none afterRoot) :
    root.Inside toolkit moment := by
  rcases Relation.reflTransGen_iff_eq_or_transGen.mp within with same | inside
  · subst same
    have impossible := (fails.unique succeeds).1
    cases impossible
  · exact inside

end Moment

/-- A relation between containers that every step of the covered calls keeps. -/
structure Walk
    (toolkit : Toolkit κ)
    (covers : Moment κ χ → Prop)
    (relates : Container κ χ → Container κ χ → Prop) :
    Prop where
  /-- With a call, the calls that it makes are covered. -/
  closed : ∀ outer inner, covers outer → Moment.Makes toolkit outer inner → covers inner
  refl : ∀ container, relates container container
  trans : ∀ first second third,
    relates first second → relates second third → relates first third
  /-- The cache is asked for an id. -/
  lookUp : ∀ id container,
    relates container (container.lookedUp (Key.service toolkit.digest id))
  /-- The container answers with itself. -/
  own : ∀ container, relates container container.asInstance.2
  /-- A constructor or factory runs. -/
  make : ∀ origin title maker arguments container outcome after,
    Builder.make origin title maker arguments container = some (outcome, after) →
      relates container after
  /-- An object that was just made is remembered. -/
  remember : ∀ fuel order container object between,
    covers { fuel := fuel, call := .build order, container := container } →
      container.memo.find? (order.key toolkit.digest) = none →
      Builder.assemble toolkit (Container.get toolkit fuel) order container =
        some (.ok object, between) →
      Moment.Ends toolkit { fuel := fuel, call := .build order, container := container }
        (some (between.memo.remember (order.key toolkit.digest) object).1)
        (between.remembering (order.key toolkit.digest) object) →
      relates container between →
      relates container (between.remembering (order.key toolkit.digest) object)
  /-- An object that an id was just resolved to is put into the cache. -/
  keep : ∀ fuel id container object between,
    covers { fuel := fuel + 1, call := .get id, container := container } →
      container.definitions.find? id ≠ some .itself →
      container.found? (Key.service toolkit.digest id) = none →
      Container.DefinitionEnds toolkit (Container.get toolkit fuel) id
        (container.lookedUp (Key.service toolkit.digest id))
        (container.definitions.find? id) (.ok object) between →
      between.stops = false →
      Moment.Ends toolkit { fuel := fuel + 1, call := .get id, container := container }
        (some object) (between.keeping (Key.service toolkit.digest id) object) →
      relates container between →
      relates container (between.keeping (Key.service toolkit.digest id) object)

namespace Walk

variable
  {toolkit : Toolkit κ}
  {covers : Moment κ χ → Prop}
  {relates : Container κ χ → Container κ χ → Prop}

/-- Every covered resolution that has this much fuel keeps the relation. -/
def Gets
    (toolkit : Toolkit κ)
    (covers : Moment κ χ → Prop)
    (relates : Container κ χ → Container κ χ → Prop)
    (fuel : Nat) :
    Prop :=
  ∀ id container outcome after,
    covers { fuel := fuel, call := .get id, container := container } →
      Container.get toolkit fuel id container = some (outcome, after) →
      relates container after

/-- Every covered build that has this much fuel keeps the relation. -/
def Builds
    (toolkit : Toolkit κ)
    (covers : Moment κ χ → Prop)
    (relates : Container κ χ → Container κ χ → Prop)
    (fuel : Nat) :
    Prop :=
  ∀ order container outcome after,
    covers { fuel := fuel, call := .build order, container := container } →
      Builder.build toolkit (Container.get toolkit fuel) order container =
        some (outcome, after) →
      relates container after

/-- Carrying out an order keeps the relation if the resolutions that it needs do. -/
theorem assembles
    (walk : Walk toolkit covers relates)
    {fuel : Nat}
    (gets : Gets toolkit covers relates fuel)
    {order : Order}
    {container after : Container κ χ}
    {outcome : Except BuildError (Instance κ)}
    (injects : ∀ recipe id later,
      order.recipe toolkit.registry = .ok recipe →
        Builder.Asks toolkit (Container.get toolkit fuel) order.className recipe.parameters
          order.arguments container id later →
        covers { fuel := fuel, call := .get id, container := later })
    (assembled :
      Builder.assemble toolkit (Container.get toolkit fuel) order container =
        some (outcome, after)) :
    relates container after := by
  rw [Builder.assemble_eq] at assembled
  cases known : order.recipe toolkit.registry with
  | error refusal =>
      rw [known] at assembled
      cases assembled
      exact walk.refl _
  | ok recipe =>
      rw [known] at assembled
      have resolving : ∀ id moment answer afterwards,
          Builder.Asks toolkit (Container.get toolkit fuel) order.className
              recipe.parameters order.arguments container id moment →
            Container.get toolkit fuel id moment = some (answer, afterwards) →
            relates moment afterwards :=
        fun id moment answer afterwards asks =>
          gets id moment answer afterwards (injects recipe id moment known asks)
      rcases Attempt.bind_eq_some.mp assembled with
        ⟨error, refused, _⟩ | ⟨resolved, supplied, first, made⟩
      · exact Builder.supplyAll_relates walk.refl walk.trans resolving refused
      · exact walk.trans _ _ _
          (Builder.supplyAll_relates walk.refl walk.trans resolving first)
          (walk.make _ _ _ _ _ _ _ made)

/-- Builds keep the relation if the resolutions that they need do. -/
theorem builds_of_gets
    (walk : Walk toolkit covers relates)
    {fuel : Nat}
    (gets : Gets toolkit covers relates fuel) :
    Builds toolkit covers relates fuel := by
  intro order container outcome after covered ended
  have injects
      (miss : container.memo.find? (order.key toolkit.digest) = none) :
      ∀ recipe id later,
        order.recipe toolkit.registry = .ok recipe →
          Builder.Asks toolkit (Container.get toolkit fuel) order.className recipe.parameters
            order.arguments container id later →
          covers { fuel := fuel, call := .get id, container := later } :=
    fun recipe id later known asks => walk.closed _ _ covered (.inject miss known asks)
  cases Builder.build_ends ended with
  | remembered hit =>
      exact walk.refl _
  | failed miss assembling =>
      exact walk.assembles gets (injects miss) assembling
  | built miss assembling =>
      exact walk.remember fuel order container _ _ covered miss assembling ⟨_, ended, rfl⟩
        (walk.assembles gets (injects miss) assembling)

/-- What resolving a definition does after the cache was asked keeps the relation if resolutions
and builds do. -/
theorem relates_of_resolution
    (walk : Walk toolkit covers relates)
    {fuel : Nat}
    (gets : Gets toolkit covers relates fuel)
    (builds : Builds toolkit covers relates fuel)
    {id : String}
    {container between : Container κ χ}
    {outcome : Except AnyError (Instance κ)}
    (covered : covers { fuel := fuel + 1, call := .get id, container := container })
    (miss : container.found? (Key.service toolkit.digest id) = none)
    (resolution :
      Container.DefinitionEnds toolkit (Container.get toolkit fuel) id
        (container.lookedUp (Key.service toolkit.digest id))
        (container.definitions.find? id) outcome between) :
    relates (container.lookedUp (Key.service toolkit.digest id)) between := by
  generalize defined : container.definitions.find? id = definition at resolution
  cases resolution with
  | circle cyclic =>
      exact walk.refl _
  | followed acyclic resolved =>
      exact gets _ _ _ _ (walk.closed _ _ covered (.follow defined miss acyclic)) resolved
  | given object =>
      exact walk.refl _
  | own =>
      exact walk.own _
  | ordered asked built =>
      subst defined
      exact builds _ _ _ _ (walk.closed _ _ covered (.order asked miss)) built

/-- Resolutions keep the relation if those and the builds with one unit of fuel less do. -/
theorem gets_succ
    (walk : Walk toolkit covers relates)
    {fuel : Nat}
    (gets : Gets toolkit covers relates fuel)
    (builds : Builds toolkit covers relates fuel) :
    Gets toolkit covers relates (fuel + 1) := by
  intro id container outcome after covered ended
  have resolves
      {outcome : Except AnyError (Instance κ)}
      {between : Container κ χ}
      (miss : container.found? (Key.service toolkit.digest id) = none)
      (resolution :
        Container.DefinitionEnds toolkit (Container.get toolkit fuel) id
          (container.lookedUp (Key.service toolkit.digest id))
          (container.definitions.find? id) outcome between) :
      relates container between :=
    walk.trans _ _ _ (walk.lookUp id container)
      (walk.relates_of_resolution gets builds covered miss resolution)
  cases Container.get_ends ended with
  | own itself =>
      exact walk.own container
  | cached defined hit =>
      exact walk.lookUp id container
  | failed defined miss resolution =>
      exact resolves miss resolution
  | resolved defined miss resolution goes =>
      exact walk.keep fuel id container _ _ covered defined miss resolution goes ⟨_, ended, rfl⟩
        (resolves miss resolution)

/-- Every covered resolution keeps the relation. -/
theorem gets
    (walk : Walk toolkit covers relates)
    (fuel : Nat) :
    Gets toolkit covers relates fuel := by
  induction fuel with
  | zero =>
      intro id container outcome after covered ended
      cases ended
  | succ fuel inductionHypothesis =>
      exact walk.gets_succ inductionHypothesis (walk.builds_of_gets inductionHypothesis)

/-- Every covered call keeps the relation. -/
theorem relates_of_ends
    (walk : Walk toolkit covers relates)
    {moment : Moment κ χ}
    {result : Option (Instance κ)}
    {after : Container κ χ}
    (covered : covers moment)
    (ends : moment.Ends toolkit result after) :
    relates moment.container after := by
  obtain ⟨fuel, call, container⟩ := moment
  cases call with
  | get id =>
      obtain ⟨outcome, ended, _⟩ := ends
      exact walk.gets fuel id container outcome after covered ended
  | build order =>
      obtain ⟨outcome, ended, _⟩ := ends
      exact walk.builds_of_gets (walk.gets fuel) order container outcome after covered ended

end Walk

end Switchboard
