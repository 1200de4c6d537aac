import Switchboard.Proofs.Service.Supplying

namespace Switchboard

/-!
# What calls of factories need

A static factory wants as many arguments as it has parameters without a fallback, and counts them
before it looks at any.  Arguments go to parameters by their places, though, so a parameter behind
one with a fallback can be left without: `callLaws_of_static` says when a call that passes the
count fails for that, and that it never does where parameters without a fallback come first.
-/

variable {κ χ : Type}

/-- Every parameter without a fallback stands at a place that has an argument. -/
def Parameter.Covered (parameters : List Parameter) (count : Nat) : Prop :=
  ∀ (place : Nat) (parameter : Parameter),
    parameters[place]? = some parameter → parameter.fallback = none → place < count

/-- No parameter with a fallback stands before one without. -/
def Parameter.NeededFirst (parameters : List Parameter) : Prop :=
  parameters.Pairwise fun left right => right.fallback = none → left.fallback = none

theorem Parameter.Covered.mono
    {parameters : List Parameter}
    {count more : Nat}
    (covered : Covered parameters count)
    (atMost : count ≤ more) :
    Covered parameters more :=
  fun place parameter found needed =>
    Nat.lt_of_lt_of_le (covered place parameter found needed) atMost

/-- Where the needed parameters come first, as many arguments as there are of them cover them. -/
theorem Parameter.NeededFirst.covered
    {parameters : List Parameter}
    (neededFirst : NeededFirst parameters) :
    Covered parameters (parameters.filter fun parameter => parameter.fallback.isNone).length := by
  induction parameters with
  | nil =>
      intro place parameter found
      cases found
  | cons first parameters inductionHypothesis =>
      obtain ⟨before, rest⟩ := List.pairwise_cons.mp neededFirst
      intro place parameter found needed
      have firstNeeded : first.fallback = none := by
        cases place with
        | zero =>
            cases found
            exact needed
        | succ place => exact before parameter (List.mem_of_getElem? found) needed
      rw [List.filter_cons_of_pos (by simp [firstNeeded]), List.length_cons]
      cases place with
      | zero => exact Nat.succ_pos _
      | succ place => exact Nat.succ_lt_succ (inductionHypothesis rest place parameter found needed)

namespace Builder

variable [CacheStore χ (Instance κ)]

/-- Nothing but an argument could supply a parameter. -/
structure Unsupplied
    (toolkit : Toolkit κ)
    (container : Container κ χ)
    (parameter : Parameter) :
    Prop where
  hasNot : container.has toolkit parameter.name = false
  noneOfType : ∀ typeName, ¬HasOfType toolkit container parameter typeName
  noFallback : parameter.fallback = none

/-- How calls of a static factory that are not remembered fail; `fails` says with which error and
which container behind it a call does. -/
structure CallLaws
    (toolkit : Toolkit κ)
    (resolve : Resolver κ χ)
    (className method : String)
    (factory : Factory κ)
    (arguments : List Argument)
    (container : Container κ χ)
    (fails : BuildError → Container κ χ → Prop) :
    Prop where
  /-- Too few arguments are refused before anything is resolved. -/
  tooFew : arguments.length < factory.required →
    fails (.missingArguments className method factory.required arguments.length) container
  /-- With enough arguments, this is not what a call fails for. -/
  enough : factory.required ≤ arguments.length →
    ∀ other otherMethod required given after,
      ¬fails (.missingArguments other otherMethod required given) after
  /-- A dependency is unresolved if a needed parameter has its place behind the arguments, and
  neither its name nor its type leads to a service when its turn comes. -/
  unresolved : factory.required ≤ arguments.length →
    ∀ other name after,
      fails (.unresolvedDependency other name) after ↔
        ∃ containers entries parameter,
          containers 0 = container ∧
            ProvidedUpTo toolkit resolve className factory.parameters arguments containers
              entries ∧
            factory.parameters[entries.length]? = some parameter ∧
            arguments.length ≤ entries.length ∧
            Unsupplied toolkit (containers entries.length) parameter ∧
            other = className ∧ name = parameter.name ∧ after = containers entries.length
  /-- So no dependency is, if there is an argument at every place that needs one. -/
  covered : Parameter.Covered factory.parameters arguments.length →
    ∀ other name after, ¬fails (.unresolvedDependency other name) after
  /-- It is enough to count where the parameters that need an argument come first. -/
  neededFirst : Parameter.NeededFirst factory.parameters →
    factory.required ≤ arguments.length →
    ∀ other name after, ¬fails (.unresolvedDependency other name) after

section

variable
  {toolkit : Toolkit κ}
  {resolve : Resolver κ χ}
  {className : String}

/-- A parameter is an unresolved dependency if it has no argument and nothing else supplies it. -/
theorem provides_unresolvedDependency_iff
    {parameter : Parameter}
    {argument : Option Argument}
    {container after : Container κ χ}
    {other name : String} :
    Provides toolkit resolve className parameter argument container
        (.error (.unresolvedDependency other name)) after ↔
      argument = none ∧ Unsupplied toolkit container parameter ∧
        other = className ∧ name = parameter.name ∧ after = container := by
  constructor
  · intro provides
    cases provides with
    | missing sourced =>
        cases sourced with
        | byNothing hasNot noneOfType noFallback =>
            exact ⟨rfl, ⟨hasNot, noneOfType, noFallback⟩, rfl, rfl, rfl⟩
  · rintro ⟨rfl, unsupplied, rfl, rfl, rfl⟩
    exact .missing (.byNothing unsupplied.hasNot unsupplied.noneOfType unsupplied.noFallback)

theorem not_provides_missingArguments
    {parameter : Parameter}
    {argument : Option Argument}
    {container after : Container κ χ}
    {other otherMethod : String}
    {required given : Nat} :
    ¬Provides toolkit resolve className parameter argument container
        (.error (.missingArguments other otherMethod required given)) after := by
  intro provides
  cases provides with
  | missing sourced => cases sourced

omit [CacheStore χ (Instance κ)] in
/-- A maker that fails is reported as such. -/
theorem make_eq_error
    {origin : Origin}
    {label : String}
    {maker : Maker κ}
    {entries : Arguments κ}
    {container after : Container κ χ}
    {error : BuildError}
    (failed : make origin label maker entries container = some (.error error, after)) :
    ∃ failure, error = .construct label failure := by
  unfold make at failed
  cases made : maker entries with
  | error failure =>
      rw [made] at failed
      cases failed
      exact ⟨failure, rfl⟩
  | ok product =>
      rw [made] at failed
      cases failed

/-- An order with a recipe fails for an unresolved dependency exactly when a parameter behind its
arguments is one. -/
theorem carriedOut_unresolvedDependency_iff
    {order : Order}
    {recipe : Recipe κ}
    {container after : Container κ χ}
    {other name : String} :
    CarriedOut toolkit resolve order recipe container
        (.error (.unresolvedDependency other name)) after ↔
      ∃ containers entries parameter,
        containers 0 = container ∧
          ProvidedUpTo toolkit resolve order.className recipe.parameters order.arguments
            containers entries ∧
          recipe.parameters[entries.length]? = some parameter ∧
          order.arguments.length ≤ entries.length ∧
          Unsupplied toolkit (containers entries.length) parameter ∧
          other = order.className ∧ name = parameter.name ∧
          after = containers entries.length := by
  constructor
  · intro carriedOut
    cases carriedOut with
    | handed starts complete provided ran =>
        obtain ⟨failure, same⟩ := make_eq_error ran
        cases same
    | refused starts provided next provides =>
        obtain ⟨noArgument, unsupplied, sameClass, sameName, unchanged⟩ :=
          provides_unresolvedDependency_iff.mp provides
        exact ⟨_, _, _, starts, provided, next, List.getElem?_eq_none_iff.mp noArgument,
          unsupplied, sameClass, sameName, unchanged⟩
  · rintro ⟨containers, entries, parameter, starts, provided, next, behind, unsupplied, sameClass,
      sameName, unchanged⟩
    exact .refused starts provided next (provides_unresolvedDependency_iff.mpr
      ⟨List.getElem?_eq_none_iff.mpr behind, unsupplied, sameClass, sameName, unchanged⟩)

/-- Carrying out an order with a recipe never fails for missing arguments. -/
theorem not_carriedOut_missingArguments
    {order : Order}
    {recipe : Recipe κ}
    {container after : Container κ χ}
    {other otherMethod : String}
    {required given : Nat} :
    ¬CarriedOut toolkit resolve order recipe container
        (.error (.missingArguments other otherMethod required given)) after := by
  intro carriedOut
  cases carriedOut with
  | handed starts complete provided ran =>
      obtain ⟨failure, same⟩ := make_eq_error ran
      cases same
  | refused starts provided next provides => exact not_provides_missingArguments provides

end

section

variable
  {toolkit : Toolkit κ}
  {className method : String}
  {factory : Factory κ}
  {arguments : List Argument}

theorem recipe_of_few
    (known : toolkit.registry.factory? className method = some factory)
    (static : factory.isStatic = true)
    (few : arguments.length < factory.required) :
    (Order.ofFactory className method arguments).recipe toolkit.registry =
      .error (.missingArguments className method factory.required arguments.length) := by
  simp only [Order.recipe, known, static, few, Bool.not_true, Bool.false_eq_true, if_false,
    if_true]

theorem recipe_of_enough
    (known : toolkit.registry.factory? className method = some factory)
    (static : factory.isStatic = true)
    (enough : factory.required ≤ arguments.length) :
    (Order.ofFactory className method arguments).recipe toolkit.registry =
      .ok { parameters := factory.parameters, maker := factory.make } := by
  simp only [Order.recipe, known, static, Nat.not_lt.mpr enough, Bool.not_true,
    Bool.false_eq_true, if_false]

/-- A way to call the factory obeys the laws if it fails as assembling an object does. -/
theorem callLaws_of_assemble
    (resolve : Resolver κ χ)
    (known : toolkit.registry.factory? className method = some factory)
    (static : factory.isStatic = true)
    {container : Container κ χ}
    {fails : BuildError → Container κ χ → Prop}
    (same : ∀ error after,
      fails error after ↔
        assemble toolkit resolve (.ofFactory className method arguments) container =
          some (.error error, after)) :
    CallLaws toolkit resolve className method factory arguments container fails := by
  have tooFew (few : arguments.length < factory.required) :
      assemble toolkit resolve (.ofFactory className method arguments) container =
        some (.error (.missingArguments className method factory.required arguments.length),
          container) := by
    rw [assemble_eq, recipe_of_few known static few]
    rfl
  have carriedOut (enough : factory.required ≤ arguments.length) (error after) :
      fails error after ↔
        CarriedOut toolkit resolve (.ofFactory className method arguments)
          { parameters := factory.parameters, maker := factory.make } container (.error error)
          after :=
    (same error after).trans (assemble_eq_some_iff (recipe_of_enough known static enough))
  have unresolved (enough : factory.required ≤ arguments.length) (other name after) :=
    (carriedOut enough (.unresolvedDependency other name) after).trans
      carriedOut_unresolvedDependency_iff
  have covered (covered : Parameter.Covered factory.parameters arguments.length)
      (other name after) :
      ¬fails (.unresolvedDependency other name) after := by
    intro failed
    -- the arguments may still be too few: that is refused, but not for a dependency
    rcases Nat.lt_or_ge arguments.length factory.required with few | enough
    · cases (tooFew few).symm.trans ((same _ _).mp failed)
    · obtain ⟨_, entries, parameter, _, _, next, behind, unsupplied, _⟩ :=
        (unresolved enough other name after).mp failed
      exact absurd (covered _ _ next unsupplied.noFallback) (Nat.not_lt.mpr behind)
  exact
    { tooFew := fun few => (same _ _).mpr (tooFew few)
      enough := fun enough other otherMethod required given after failed =>
        not_carriedOut_missingArguments ((carriedOut enough _ after).mp failed)
      unresolved := unresolved
      covered := covered
      neededFirst := fun neededFirst enough => covered (neededFirst.covered.mono enough) }

end

/-- A call of a static factory fails for its count of arguments before anything is resolved, and
after that for a dependency only where a needed parameter has its place behind the arguments. -/
theorem callLaws_of_static
    {toolkit : Toolkit κ}
    (resolve : Resolver κ χ)
    {className method : String}
    {factory : Factory κ}
    (known : toolkit.registry.factory? className method = some factory)
    (static : factory.isStatic = true)
    (arguments : List Argument)
    (container : Container κ χ) :
    (container.memo.find? (Key.build toolkit.digest className method arguments) = none →
      CallLaws toolkit resolve className method factory arguments container fun error after =>
        build toolkit resolve (.ofFactory className method arguments) container =
          some (.error error, after)) ∧
      ∀ memo : Memo κ,
        memo.find? (Key.build toolkit.digest className method arguments) = none →
          CallLaws toolkit resolve className method factory arguments container
            fun error after =>
              buildApart toolkit resolve (.ofFactory className method arguments)
                  (memo, container) =
                some (.error error, (memo, after)) := by
  constructor
  · intro miss
    refine callLaws_of_assemble resolve known static fun error after => ?_
    rw [build_eq_some_iff miss]
    constructor
    · rintro ⟨made, between, assembled, failed, rfl⟩
      cases made with
      | error cause =>
          cases failed
          exact assembled
      | ok object => cases failed
    · intro assembled
      exact ⟨.error error, after, assembled, rfl, rfl⟩
  · intro memo miss
    refine callLaws_of_assemble resolve known static fun error after => ?_
    rw [buildApart_eq_some_iff miss]
    exact and_iff_left rfl

namespace Reporting

/-- A factory with a needed parameter behind one that has a fallback. -/
def factory : Factory Unit :=
  { parameters :=
      [{ name := "format", typeName := none, fallback := some (.string "plain") },
        { name := "title", typeName := none, fallback := none }]
    isStatic := true
    make := fun _ => .ok (.plain "Report" ()) }

def toolkit : Toolkit Unit :=
  { registry := Registry.empty.registerFactory "Report" "make" factory
    environment := fun _ => none
    digest := id }

def start : Container Unit (MemoryCache (Instance Unit)) :=
  .empty () (.empty none) none

end Reporting

/-- A call with as many arguments as parameters are needed can lack the needed one. -/
theorem callLaws_of_static_of_report :
    Reporting.factory.required = 1 ∧
      CallLaws Reporting.toolkit (Container.get Reporting.toolkit 1) "Report" "make"
        Reporting.factory [.literal (.string "wide")] Reporting.start (fun error after =>
          build Reporting.toolkit (Container.get Reporting.toolkit 1)
              (.ofFactory "Report" "make" [.literal (.string "wide")]) Reporting.start =
            some (.error error, after)) ∧
      build Reporting.toolkit (Container.get Reporting.toolkit 1)
          (.ofFactory "Report" "make" [.literal (.string "wide")]) Reporting.start =
        some (.error (.unresolvedDependency "Report" "title"), Reporting.start) :=
  ⟨rfl, (callLaws_of_static _ rfl rfl _ _).1 rfl, rfl⟩

end Builder

end Switchboard
