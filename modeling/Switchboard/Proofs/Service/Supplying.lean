import Switchboard.Cache.Memory
import Switchboard.Proofs.Service.Endings

namespace Switchboard

/-!
# How orders are supplied

The parameters of an order are provided one after another.  `Sourced` says what a parameter is to
be given in a container, rule by rule, and `Provides` what comes of it; `ProvidedUpTo` puts the
places together, each in the container that the one before it left.  `supplyLaws_of_recipe` says
that orders end in no other way: all entries reach the maker, or the first parameter that cannot
be provided decides.
-/

variable {κ χ : Type}

namespace Order

/-- The order for the same thing with other arguments. -/
def withArguments : Order → List Argument → Order
  | .ofClass className _, arguments => .ofClass className arguments
  | .ofFactory className method _, arguments => .ofFactory className method arguments

/-- Arguments that agree at the places of the parameters are enough for the same recipe. -/
theorem recipe_withArguments
    {registry : Registry κ}
    {order : Order}
    {recipe : Recipe κ}
    (known : order.recipe registry = .ok recipe)
    {others : List Argument}
    (agree :
      others.take recipe.parameters.length =
        order.arguments.take recipe.parameters.length) :
    (order.withArguments others).recipe registry = .ok recipe := by
  cases order with
  | ofClass className arguments => exact known
  | ofFactory className method arguments =>
      simp only [Order.recipe] at known
      simp only [withArguments, Order.recipe]
      cases found : registry.factory? className method with
      | none =>
          rw [found] at known
          cases known
      | some factory =>
          simp only [found] at known ⊢
          split at known
          · cases known
          · next static =>
              split at known
              · cases known
              · next enough =>
                  cases known
                  have atMost : factory.required ≤ factory.parameters.length :=
                    List.length_filter_le _ _
                  have sameLength := congrArg List.length agree
                  simp only [List.length_take, Order.arguments] at sameLength
                  rw [if_neg static, if_neg (by omega)]

end Order

namespace Builder

variable [CacheStore χ (Instance κ)]

/-- The declared type of a parameter is known, and the container has a service of its name. -/
structure HasOfType
    (toolkit : Toolkit κ)
    (container : Container κ χ)
    (parameter : Parameter)
    (typeName : String) :
    Prop where
  declared : parameter.typeName = some typeName
  known : toolkit.registry.contains typeName = true
  has : container.has toolkit typeName = true

/-- What a parameter is to be given. -/
inductive Source where
  /-- A document as it is. -/
  | value (document : Json.Value)
  /-- The service of an id. -/
  | service (id : String)
  /-- Nothing, for this reason. -/
  | missing (error : BuildError)

/-- The rules for what a parameter is to be given: an argument at its place goes before the service
of its name, which goes before the service of its type, which goes before its fallback. -/
inductive Sourced
    (toolkit : Toolkit κ)
    (container : Container κ χ)
    (className : String)
    (parameter : Parameter) :
    Option Argument → Source → Prop
  | literal (document : Json.Value) :
      Sourced toolkit container className parameter (some (.literal document)) (.value document)
  | environment
      {name text : String}
      (isSet : toolkit.environment name = some text) :
      Sourced toolkit container className parameter (some (.env name)) (.value (.string text))
  | unset
      {name : String}
      (isUnset : toolkit.environment name = none) :
      Sourced toolkit container className parameter (some (.env name))
        (.missing (.missingVariable name))
  | reference (id : String) :
      Sourced toolkit container className parameter (some (.service id)) (.service id)
  | byName
      (has : container.has toolkit parameter.name = true) :
      Sourced toolkit container className parameter none (.service parameter.name)
  | byType
      {typeName : String}
      (hasNot : container.has toolkit parameter.name = false)
      (ofType : HasOfType toolkit container parameter typeName) :
      Sourced toolkit container className parameter none (.service typeName)
  | byFallback
      {document : Json.Value}
      (hasNot : container.has toolkit parameter.name = false)
      (noneOfType : ∀ typeName, ¬HasOfType toolkit container parameter typeName)
      (fallback : parameter.fallback = some document) :
      Sourced toolkit container className parameter none (.value document)
  | byNothing
      (hasNot : container.has toolkit parameter.name = false)
      (noneOfType : ∀ typeName, ¬HasOfType toolkit container parameter typeName)
      (noFallback : parameter.fallback = none) :
      Sourced toolkit container className parameter none
        (.missing (.unresolvedDependency className parameter.name))

/-- What comes of providing a parameter, with the container that this leaves. -/
inductive Provides
    (toolkit : Toolkit κ)
    (resolve : Resolver κ χ)
    (className : String)
    (parameter : Parameter)
    (argument : Option Argument)
    (container : Container κ χ) :
    Except BuildError (Resolved κ) → Container κ χ → Prop
  | value
      {document : Json.Value}
      (sourced : Sourced toolkit container className parameter argument (.value document)) :
      Provides toolkit resolve className parameter argument container
        (.ok (.value document)) container
  | service
      {id : String}
      {object : Instance κ}
      {after : Container κ χ}
      (sourced : Sourced toolkit container className parameter argument (.service id))
      (resolved : resolve id container = some (.ok object, after)) :
      Provides toolkit resolve className parameter argument container
        (.ok (.service object)) after
  | unresolved
      {id : String}
      {cause : ServiceError}
      {after : Container κ χ}
      (sourced : Sourced toolkit container className parameter argument (.service id))
      (failed : resolve id container = some (.error cause, after)) :
      Provides toolkit resolve className parameter argument container
        (.error (.service id cause)) after
  | missing
      {error : BuildError}
      (sourced : Sourced toolkit container className parameter argument (.missing error)) :
      Provides toolkit resolve className parameter argument container (.error error) container

section OneParameter

variable
  {toolkit : Toolkit κ}
  {resolve : Resolver κ χ}
  {className : String}
  {parameter : Parameter}
  {argument : Option Argument}
  {container : Container κ χ}

theorem typeService?_eq_some_iff
    {typeName : String} :
    typeService? toolkit container parameter = some typeName ↔
      HasOfType toolkit container parameter typeName := by
  unfold typeService?
  constructor
  · intro found
    split at found
    · cases found
    · next declared =>
        split at found
        · next both =>
            cases found
            obtain ⟨known, has⟩ := Bool.and_eq_true_iff.mp both
            exact ⟨declared, known, has⟩
        · cases found
  · rintro ⟨declared, known, has⟩
    simp only [declared, known, has, Bool.and_self, if_true]

theorem typeService?_eq_none_iff :
    typeService? toolkit container parameter = none ↔
      ∀ typeName, ¬HasOfType toolkit container parameter typeName := by
  rw [Option.eq_none_iff_forall_ne_some]
  exact forall_congr' fun typeName => not_congr typeService?_eq_some_iff

/-- Some rule applies to every parameter. -/
theorem exists_sourced
    (toolkit : Toolkit κ)
    (container : Container κ χ)
    (className : String)
    (parameter : Parameter)
    (argument : Option Argument) :
    ∃ source, Sourced toolkit container className parameter argument source := by
  cases argument with
  | some argument =>
      cases argument with
      | literal document => exact ⟨_, .literal document⟩
      | env name =>
          cases setting : toolkit.environment name with
          | some text => exact ⟨_, .environment setting⟩
          | none => exact ⟨_, .unset setting⟩
      | service id => exact ⟨_, .reference id⟩
  | none =>
      cases named : container.has toolkit parameter.name with
      | true => exact ⟨_, .byName named⟩
      | false =>
          cases typed : typeService? toolkit container parameter with
          | some typeName => exact ⟨_, .byType named (typeService?_eq_some_iff.mp typed)⟩
          | none =>
              have noneOfType := typeService?_eq_none_iff.mp typed
              cases fallback : parameter.fallback with
              | some document => exact ⟨_, .byFallback named noneOfType fallback⟩
              | none => exact ⟨_, .byNothing named noneOfType fallback⟩

/-- Supplying a parameter gives it what a rule says. -/
theorem supply_of_sourced
    {source : Source}
    (sourced : Sourced toolkit container className parameter argument source) :
    supply toolkit resolve className parameter argument container =
      match source with
      | .value document => some (.ok (.value document), container)
      | .service id =>
          (service resolve id >>= fun object => pure (Resolved.service object)) container
      | .missing error => some (.error error, container) := by
  cases sourced with
  | literal document => rfl
  | environment isSet =>
      simp only [supply, resolveArgument, isSet]
      rfl
  | unset isUnset =>
      simp only [supply, resolveArgument, isUnset]
      rfl
  | reference id => rfl
  | byName has =>
      simp only [supply, Attempt.reading_bind, Supply.choose, has, if_true]
  | byType hasNot ofType =>
      simp only [supply, Attempt.reading_bind, Supply.choose, hasNot,
        typeService?_eq_some_iff.mpr ofType, Bool.false_eq_true, if_false]
  | byFallback hasNot noneOfType fallback =>
      simp only [supply, Attempt.reading_bind, Supply.choose, hasNot,
        typeService?_eq_none_iff.mpr noneOfType, fallback, Bool.false_eq_true, if_false]
      rfl
  | byNothing hasNot noneOfType noFallback =>
      simp only [supply, Attempt.reading_bind, Supply.choose, hasNot,
        typeService?_eq_none_iff.mpr noneOfType, noFallback, Bool.false_eq_true, if_false]
      rfl

/-- Supplying a parameter ends as providing it by the rules does, and in no other way. -/
theorem supply_eq_some_iff
    {outcome : Except BuildError (Resolved κ)}
    {after : Container κ χ} :
    supply toolkit resolve className parameter argument container = some (outcome, after) ↔
      Provides toolkit resolve className parameter argument container outcome after := by
  constructor
  · intro supplied
    obtain ⟨source, sourced⟩ :=
      exists_sourced toolkit container className parameter argument
    rw [supply_of_sourced sourced] at supplied
    cases source with
    | value document =>
        cases supplied
        exact .value sourced
    | service id =>
        rcases Attempt.bind_eq_some.mp supplied with
          ⟨error, refused, rfl⟩ | ⟨object, between, found, done⟩
        · obtain ⟨cause, failed, rfl⟩ := Attempt.mapError_eq_error.mp refused
          exact .unresolved sourced failed
        · cases done
          exact .service sourced (Attempt.mapError_eq_ok.mp found)
    | missing error =>
        cases supplied
        exact .missing sourced
  · intro provides
    cases provides with
    | value sourced => rw [supply_of_sourced sourced]
    | service sourced resolved =>
        rw [supply_of_sourced sourced]
        exact Attempt.bind_eq_some.mpr
          (.inr ⟨_, _, Attempt.mapError_eq_ok.mpr resolved, rfl⟩)
    | unresolved sourced failed =>
        rw [supply_of_sourced sourced]
        exact Attempt.bind_eq_some.mpr
          (.inl ⟨_, Attempt.mapError_eq_error.mpr ⟨_, failed, rfl⟩, rfl⟩)
    | missing sourced => rw [supply_of_sourced sourced]

end OneParameter

/--
The first parameters, as many as there are entries, were provided with these one after another.

At each place stands the container as the places before it left it.
-/
structure ProvidedUpTo
    (toolkit : Toolkit κ)
    (resolve : Resolver κ χ)
    (className : String)
    (parameters : List Parameter)
    (arguments : List Argument)
    (containers : Nat → Container κ χ)
    (entries : Arguments κ) :
    Prop where
  names : entries.map Prod.fst = (parameters.take entries.length).map Parameter.name
  provides : ∀ (place : Nat) parameter entry,
    parameters[place]? = some parameter → entries[place]? = some entry →
      Provides toolkit resolve className parameter arguments[place]? (containers place)
        (.ok entry.2) (containers (place + 1))

/-- Containers with one more before them. -/
def before (first : Container κ χ) (others : Nat → Container κ χ) : Nat → Container κ χ
  | 0 => first
  | place + 1 => others place

section AllParameters

variable
  {toolkit : Toolkit κ}
  {resolve : Resolver κ χ}
  {className : String}
  {parameter : Parameter}
  {parameters : List Parameter}
  {arguments : List Argument}
  {containers : Nat → Container κ χ}
  {entries : Arguments κ}
  {container after : Container κ χ}

theorem providedUpTo_nil :
    ProvidedUpTo toolkit resolve className parameters arguments containers [] where
  names := rfl
  provides := by
    intro place parameter entry _ found
    cases found

/-- A first parameter that is provided goes before those that are provided after it. -/
theorem ProvidedUpTo.cons
    {resolved : Resolved κ}
    (provides :
      Provides toolkit resolve className parameter arguments.head? container (.ok resolved)
        (containers 0))
    (others :
      ProvidedUpTo toolkit resolve className parameters arguments.tail containers entries) :
    ProvidedUpTo toolkit resolve className (parameter :: parameters) arguments
      (before container containers) ((parameter.name, resolved) :: entries) where
  names := by simp [others.names]
  provides := by
    intro place found entry atPlace entryThere
    cases place with
    | zero =>
        cases atPlace
        cases entryThere
        rw [← List.head?_eq_getElem?]
        exact provides
    | succ place =>
        rw [← List.getElem?_tail]
        exact others.provides place found entry atPlace entryThere

/-- The first parameter was provided, and the other ones after it. -/
theorem ProvidedUpTo.of_cons
    {entry : String × Resolved κ}
    (provided :
      ProvidedUpTo toolkit resolve className (parameter :: parameters) arguments containers
        (entry :: entries)) :
    entry.1 = parameter.name ∧
      Provides toolkit resolve className parameter arguments.head? (containers 0) (.ok entry.2)
        (containers 1) ∧
      ProvidedUpTo toolkit resolve className parameters arguments.tail
        (fun place => containers (place + 1)) entries := by
  obtain ⟨sameName, names⟩ := List.cons.inj provided.names
  refine ⟨sameName, ?_, names, ?_⟩
  · rw [List.head?_eq_getElem?]
    exact provided.provides 0 parameter entry rfl rfl
  · intro place found other atPlace entryThere
    rw [List.getElem?_tail]
    exact provided.provides (place + 1) found other atPlace entryThere

/-- All parameters are supplied if every one of them is provided, and in no other case. -/
theorem supplyAll_eq_ok_iff :
    supplyAll toolkit resolve className parameters arguments container =
        some (.ok entries, after) ↔
      ∃ containers,
        containers 0 = container ∧ containers parameters.length = after ∧
          entries.length = parameters.length ∧
          ProvidedUpTo toolkit resolve className parameters arguments containers entries := by
  induction parameters generalizing arguments container entries with
  | nil =>
      constructor
      · intro supplied
        cases supplied
        exact ⟨fun _ => after, rfl, rfl, rfl, providedUpTo_nil⟩
      · rintro ⟨containers, rfl, rfl, none, _⟩
        rw [List.eq_nil_of_length_eq_zero none]
        rfl
  | cons parameter parameters inductionHypothesis =>
      rw [supplyAll_cons_eq_some_iff]
      constructor
      · rintro (⟨error, _, done⟩ | ⟨resolved, between, rest, first, later, done⟩)
        · cases done
        · cases rest with
          | error error => cases done
          | ok others =>
              cases done
              obtain ⟨containers, rfl, rfl, sameLength, provided⟩ := inductionHypothesis.mp later
              exact ⟨before container containers, rfl, rfl, by simp [sameLength],
                .cons (supply_eq_some_iff.mp first) provided⟩
      · rintro ⟨containers, rfl, rfl, sameLength, provided⟩
        cases entries with
        | nil => cases sameLength
        | cons entry entries =>
            obtain ⟨sameName, provides, others⟩ := provided.of_cons
            have later := inductionHypothesis.mpr
              ⟨fun place => containers (place + 1), rfl, rfl, Nat.succ.inj sameLength, others⟩
            refine .inr ⟨entry.2, containers 1, .ok entries, supply_eq_some_iff.mpr provides,
              later, ?_⟩
            rw [← sameName]
            rfl

/-- Supplying parameters fails with the first one that cannot be provided, and in no other case. -/
theorem supplyAll_eq_error_iff
    {error : BuildError} :
    supplyAll toolkit resolve className parameters arguments container =
        some (.error error, after) ↔
      ∃ containers entries parameter,
        containers 0 = container ∧
          ProvidedUpTo toolkit resolve className parameters arguments containers entries ∧
          parameters[entries.length]? = some parameter ∧
          Provides toolkit resolve className parameter arguments[entries.length]?
            (containers entries.length) (.error error) after := by
  induction parameters generalizing arguments container with
  | nil =>
      constructor
      · intro supplied
        cases supplied
      · rintro ⟨containers, entries, parameter, _, _, found, _⟩
        cases found
  | cons first parameters inductionHypothesis =>
      rw [supplyAll_cons_eq_some_iff]
      constructor
      · rintro (⟨cause, refused, same⟩ | ⟨resolved, between, rest, supplied, later, done⟩)
        · cases same
          have provides := supply_eq_some_iff.mp refused
          rw [List.head?_eq_getElem?] at provides
          exact ⟨fun _ => container, [], first, rfl, providedUpTo_nil, rfl, provides⟩
        · cases rest with
          | ok others => cases done
          | error cause =>
              cases done
              obtain ⟨containers, entries, parameter, rfl, provided, found, provides⟩ :=
                inductionHypothesis.mp later
              rw [List.getElem?_tail] at provides
              exact ⟨before container containers, (first.name, resolved) :: entries, parameter,
                rfl, .cons (supply_eq_some_iff.mp supplied) provided, found, provides⟩
      · rintro ⟨containers, entries, parameter, rfl, provided, found, provides⟩
        cases entries with
        | nil =>
            cases found
            rw [List.length_nil, ← List.head?_eq_getElem?] at provides
            exact .inl ⟨error, supply_eq_some_iff.mpr provides, rfl⟩
        | cons entry entries =>
            obtain ⟨_, firstProvides, others⟩ := provided.of_cons
            rw [List.length_cons, ← List.getElem?_tail] at provides
            have later := inductionHypothesis.mpr
              ⟨fun place => containers (place + 1), entries, parameter, rfl, others, found,
                provides⟩
            exact .inr ⟨entry.2, containers 1, .error error,
              supply_eq_some_iff.mpr firstProvides, later, rfl⟩

/-- Arguments beyond the parameters are not looked at. -/
theorem supplyAll_take
    (toolkit : Toolkit κ)
    (resolve : Resolver κ χ)
    (className : String)
    (parameters : List Parameter)
    (arguments : List Argument) :
    supplyAll toolkit resolve className parameters (arguments.take parameters.length) =
      supplyAll toolkit resolve className parameters arguments := by
  induction parameters generalizing arguments with
  | nil => rfl
  | cons parameter parameters inductionHypothesis =>
      have sameHead :
          (arguments.take (parameters.length + 1)).head? = arguments.head? := by
        cases arguments <;> rfl
      have sameTail :
          (arguments.take (parameters.length + 1)).tail =
            arguments.tail.take parameters.length := by
        cases arguments <;> simp
      simp only [supplyAll, List.length_cons, sameHead, sameTail, inductionHypothesis]

end AllParameters

/-- How an order with a recipe is carried out. -/
inductive CarriedOut
    (toolkit : Toolkit κ)
    (resolve : Resolver κ χ)
    (order : Order)
    (recipe : Recipe κ)
    (container : Container κ χ) :
    Except BuildError (Instance κ) → Container κ χ → Prop
  /-- Every parameter is provided, and the maker runs on one entry for each of them. -/
  | handed
      {containers : Nat → Container κ χ}
      {entries : Arguments κ}
      {outcome : Except BuildError (Instance κ)}
      {after : Container κ χ}
      (starts : containers 0 = container)
      (complete : entries.length = recipe.parameters.length)
      (provided :
        ProvidedUpTo toolkit resolve order.className recipe.parameters order.arguments containers
          entries)
      (ran :
        make order.origin order.title recipe.maker entries
            (containers recipe.parameters.length) =
          some (outcome, after)) :
      CarriedOut toolkit resolve order recipe container outcome after
  /-- A parameter cannot be provided after those before it were, and that is the end of it. -/
  | refused
      {containers : Nat → Container κ χ}
      {entries : Arguments κ}
      {parameter : Parameter}
      {error : BuildError}
      {after : Container κ χ}
      (starts : containers 0 = container)
      (provided :
        ProvidedUpTo toolkit resolve order.className recipe.parameters order.arguments containers
          entries)
      (next : recipe.parameters[entries.length]? = some parameter)
      (provides :
        Provides toolkit resolve order.className parameter order.arguments[entries.length]?
          (containers entries.length) (.error error) after) :
      CarriedOut toolkit resolve order recipe container (.error error) after

/-- An order with a recipe is assembled by carrying it out so, and in no other way. -/
theorem assemble_eq_some_iff
    {toolkit : Toolkit κ}
    {resolve : Resolver κ χ}
    {order : Order}
    {recipe : Recipe κ}
    (known : order.recipe toolkit.registry = .ok recipe)
    {container after : Container κ χ}
    {outcome : Except BuildError (Instance κ)} :
    assemble toolkit resolve order container = some (outcome, after) ↔
      CarriedOut toolkit resolve order recipe container outcome after := by
  rw [assemble_eq, known]
  simp only [follow]
  rw [Attempt.bind_eq_some]
  constructor
  · rintro (⟨error, refused, rfl⟩ | ⟨entries, between, supplied, ran⟩)
    · obtain ⟨containers, entries, parameter, starts, provided, next, provides⟩ :=
        supplyAll_eq_error_iff.mp refused
      exact .refused starts provided next provides
    · obtain ⟨containers, starts, rfl, complete, provided⟩ := supplyAll_eq_ok_iff.mp supplied
      exact .handed starts complete provided ran
  · intro carriedOut
    cases carriedOut with
    | handed starts complete provided ran =>
        exact .inr ⟨_, _, supplyAll_eq_ok_iff.mpr ⟨_, starts, rfl, complete, provided⟩, ran⟩
    | refused starts provided next provides =>
        exact .inl ⟨_, supplyAll_eq_error_iff.mpr ⟨_, _, _, starts, provided, next, provides⟩,
          rfl⟩

/-- The rules by which an order with a recipe is supplied. -/
structure SupplyLaws
    (toolkit : Toolkit κ)
    (resolve : Resolver κ χ)
    (order : Order)
    (recipe : Recipe κ)
    (container : Container κ χ) :
    Prop where
  /-- The container's own builder carries out what it does not remember, and remembers it. -/
  build : container.memo.find? (order.key toolkit.digest) = none →
    ∀ outcome after,
      Builder.build toolkit resolve order container = some (outcome, after) ↔
        ∃ made between,
          CarriedOut toolkit resolve order recipe container made between ∧
            (outcome =
              made.map fun object =>
                (between.memo.remember (order.key toolkit.digest) object).1) ∧
            after =
              made.toOption.elim between (between.remembering (order.key toolkit.digest))
  /-- A builder with a memo of its own does the same. -/
  buildApart : ∀ memo : Memo κ, memo.find? (order.key toolkit.digest) = none →
    ∀ outcome memoAfter after,
      Builder.buildApart toolkit resolve order (memo, container) =
          some (outcome, (memoAfter, after)) ↔
        CarriedOut toolkit resolve order recipe container outcome after ∧
          memoAfter = outcome.toOption.elim memo (memo.insert (order.key toolkit.digest))
  /-- Arguments beyond the parameters make no difference to what is carried out. -/
  surplus : ∀ others : List Argument,
    others.take recipe.parameters.length = order.arguments.take recipe.parameters.length →
      assemble toolkit resolve (order.withArguments others) = assemble toolkit resolve order

/-- What a container's builder does not remember is assembled, and remembered if that succeeds. -/
theorem build_eq_some_iff
    {toolkit : Toolkit κ}
    {resolve : Resolver κ χ}
    {order : Order}
    {container after : Container κ χ}
    (miss : container.memo.find? (order.key toolkit.digest) = none)
    {outcome : Except BuildError (Instance κ)} :
    build toolkit resolve order container = some (outcome, after) ↔
      ∃ made between,
        assemble toolkit resolve order container = some (made, between) ∧
          (outcome =
            made.map fun object =>
              (between.memo.remember (order.key toolkit.digest) object).1) ∧
          after = made.toOption.elim between (between.remembering (order.key toolkit.digest)) := by
  rw [build_missing miss, Attempt.bind_eq_some]
  constructor
  · rintro (⟨error, refused, rfl⟩ | ⟨object, between, made, kept⟩)
    · exact ⟨.error error, after, refused, rfl, rfl⟩
    · cases kept
      exact ⟨.ok object, between, made, rfl, rfl⟩
  · rintro ⟨made, between, assembled, rfl, rfl⟩
    cases made with
    | error error => exact .inl ⟨error, assembled, rfl⟩
    | ok object => exact .inr ⟨object, between, assembled, rfl⟩

/-- What a builder of its own memo does not remember is assembled, and entered in that memo if it
succeeds. -/
theorem buildApart_eq_some_iff
    {toolkit : Toolkit κ}
    {resolve : Resolver κ χ}
    {order : Order}
    {memo memoAfter : Memo κ}
    {container after : Container κ χ}
    (miss : memo.find? (order.key toolkit.digest) = none)
    {outcome : Except BuildError (Instance κ)} :
    buildApart toolkit resolve order (memo, container) = some (outcome, (memoAfter, after)) ↔
      assemble toolkit resolve order container = some (outcome, after) ∧
        memoAfter = outcome.toOption.elim memo (memo.insert (order.key toolkit.digest)) := by
  simp only [Builder.buildApart, Attempt.reading_bind, miss]
  rw [Attempt.bind_eq_some]
  constructor
  · rintro (⟨error, refused, rfl⟩ | ⟨object, between, made, kept⟩)
    · obtain ⟨part, assembled, same⟩ := Attempt.focus_eq_some.mp refused
      cases same
      exact ⟨assembled, rfl⟩
    · obtain ⟨part, assembled, rfl⟩ := Attempt.focus_eq_some.mp made
      simp only [Attempt.changing_apply, Memo.remember, miss] at kept
      cases kept
      exact ⟨assembled, rfl⟩
  · rintro ⟨assembled, rfl⟩
    have ended :
        (assemble toolkit resolve order).onSecond (memo, container) =
          some (outcome, (memo, after)) :=
      Attempt.focus_eq_some.mpr ⟨after, assembled, rfl⟩
    cases outcome with
    | error error => exact .inl ⟨error, ended, rfl⟩
    | ok object =>
        refine .inr ⟨object, (memo, after), ended, ?_⟩
        simp only [Attempt.changing_apply, Memo.remember, miss]
        rfl

/-- Arguments beyond the parameters make no difference to what is assembled. -/
theorem assemble_withArguments
    {toolkit : Toolkit κ}
    (resolve : Resolver κ χ)
    {order : Order}
    {recipe : Recipe κ}
    (known : order.recipe toolkit.registry = .ok recipe)
    {others : List Argument}
    (agree :
      others.take recipe.parameters.length =
        order.arguments.take recipe.parameters.length) :
    assemble toolkit resolve (order.withArguments others) = assemble toolkit resolve order := by
  have sameSupply :
      supplyAll toolkit resolve order.className recipe.parameters others =
        supplyAll toolkit resolve order.className recipe.parameters order.arguments := by
    rw [← supplyAll_take, agree, supplyAll_take]
  rw [assemble_eq, assemble_eq, known, Order.recipe_withArguments known agree]
  cases order with
  | ofClass className arguments => exact congrArg (· >>= _) sameSupply
  | ofFactory className method arguments => exact congrArg (· >>= _) sameSupply

/-- An order that a builder does not remember is supplied by the rules, whether it is for a known
class or for a static factory with enough arguments. -/
theorem supplyLaws_of_recipe
    {toolkit : Toolkit κ}
    (resolve : Resolver κ χ)
    {order : Order}
    {recipe : Recipe κ}
    (known : order.recipe toolkit.registry = .ok recipe)
    (container : Container κ χ) :
    SupplyLaws toolkit resolve order recipe container where
  build miss outcome after := by
    simp only [build_eq_some_iff miss, assemble_eq_some_iff known]
  buildApart memo miss outcome memoAfter after := by
    simp only [buildApart_eq_some_iff miss, assemble_eq_some_iff known]
  surplus others agree := assemble_withArguments resolve known agree

namespace Mailing

/-- A class whose constructor takes anything. -/
def simple (name : String) (parameters : List Parameter) : Blueprint Unit :=
  { name := name, parameters := parameters, make := some fun _ => .ok (.plain name ()) }

/-- The class `Mailer`, whose four parameters are supplied in four ways, and what they need. -/
def registry : Registry Unit :=
  (((Registry.empty.register (simple "clock" [])).register (simple "Store" [])).register
    (simple "Mailer"
      [{ name := "host", typeName := none, fallback := none },
        { name := "clock", typeName := none, fallback := some .null },
        { name := "orders", typeName := some "Store", fallback := some .null },
        { name := "port", typeName := some "Port", fallback := some (.string "25") }]))

def toolkit : Toolkit Unit :=
  { registry := registry
    environment := fun name => if name = "HOST" then some "localhost" else none
    digest := id }

def start : Container Unit (MemoryCache (Instance Unit)) :=
  (Container.empty () (.empty none) none).withServices
    [("clock", .ofClass "clock" []), ("Store", .ofClass "Store" [])]

def order : Order := .ofClass "Mailer" [.env "HOST"]

end Mailing

/-- A mailer is supplied by an argument, by a name, by a type and by a fallback. -/
theorem supplyLaws_of_recipe_of_mailer :
    ∃ recipe made after,
      Mailing.order.recipe Mailing.toolkit.registry = .ok recipe ∧
        SupplyLaws Mailing.toolkit (Container.get Mailing.toolkit 2) Mailing.order recipe
          Mailing.start ∧
        CarriedOut Mailing.toolkit (Container.get Mailing.toolkit 2) Mailing.order recipe
          Mailing.start (.ok made) after ∧
        after.runs.length = 3 := by
  have passes :
      Attempt.endsSo
        (fun outcome after => outcome.toOption.isSome && decide (after.runs.length = 3))
        (build Mailing.toolkit (Container.get Mailing.toolkit 2) Mailing.order
          Mailing.start) = true := by
    decide +kernel
  obtain ⟨outcome, after, ends, tested⟩ := Attempt.exists_of_endsSo passes
  obtain ⟨succeeds, ran⟩ := Bool.and_eq_true_iff.mp tested
  have laws :
      SupplyLaws Mailing.toolkit (Container.get Mailing.toolkit 2) Mailing.order _
        Mailing.start :=
    supplyLaws_of_recipe _ rfl _
  obtain ⟨made, between, carriedOut, rfl, rfl⟩ := (laws.build rfl outcome after).mp ends
  cases made with
  | error error => cases succeeds
  | ok object => exact ⟨_, object, between, rfl, laws, carriedOut, of_decide_eq_true ran⟩

end Builder

end Switchboard
