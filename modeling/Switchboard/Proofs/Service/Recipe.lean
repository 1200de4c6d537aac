import Switchboard.Proofs.Attempt.Endings
import Switchboard.Service.Builder

namespace Switchboard

/-!
# What an order runs

Orders for classes and for factories are checked differently and then carried out alike: the
parameters are supplied and a maker is run on them.  The recipe of an order is what its checks
let through, and `Builder.assemble_eq` says that carrying out an order is carrying out its recipe.
-/

namespace Order

def className : Order → String
  | .ofClass className _ => className
  | .ofFactory className _ _ => className

/-- The method of an order; constructors have one that no factory should be called by. -/
def method : Order → String
  | .ofClass _ _ => Key.constructor
  | .ofFactory _ method _ => method

def arguments : Order → List Argument
  | .ofClass _ arguments => arguments
  | .ofFactory _ _ arguments => arguments

/-- What runs to make an object of an order. -/
def origin : Order → Origin
  | .ofClass className _ => .constructor className
  | .ofFactory className method _ => .factory className method

def title : Order → String
  | .ofClass className _ => className
  | .ofFactory className method _ => className ++ "::" ++ method

theorem key_eq (digest : Key.Digest) (order : Order) :
    order.key digest = Key.build digest order.className order.method order.arguments := by
  cases order <;> rfl

end Order

/-- The parameters to supply and what to run on them. -/
structure Recipe (κ : Type) where
  parameters : List Parameter
  maker : Maker κ

variable {κ χ : Type}

/-- The recipe of an order, or why the order is refused before anything is supplied. -/
def Order.recipe (registry : Registry κ) : Order → Except BuildError (Recipe κ)
  | .ofClass className _ =>
      match registry.blueprint? className with
      | none => .error (.unknownType className)
      | some blueprint =>
          match blueprint.make with
          | none => .error (.notInstantiable className)
          | some maker => .ok { parameters := blueprint.parameters, maker := maker }
  | .ofFactory className method arguments =>
      match registry.factory? className method with
      | none => .error (.unknownFactory className method)
      | some factory =>
          if !factory.isStatic then
            .error (.notStatic className method)
          else if arguments.length < factory.required then
            .error (.missingArguments className method factory.required arguments.length)
          else
            .ok { parameters := factory.parameters, maker := factory.make }

namespace Builder

variable [CacheStore χ (Instance κ)]

/-- The first parameter is refused, or the other ones are supplied after it. -/
theorem supplyAll_cons_eq_some_iff
    {toolkit : Toolkit κ}
    {resolve : Resolver κ χ}
    {className : String}
    {parameter : Parameter}
    {parameters : List Parameter}
    {arguments : List Argument}
    {container after : Container κ χ}
    {outcome : Except BuildError (Arguments κ)} :
    supplyAll toolkit resolve className (parameter :: parameters) arguments container =
        some (outcome, after) ↔
      (∃ error,
          supply toolkit resolve className parameter arguments.head? container =
              some (.error error, after) ∧
            outcome = .error error) ∨
        ∃ resolved between others,
          supply toolkit resolve className parameter arguments.head? container =
              some (.ok resolved, between) ∧
            supplyAll toolkit resolve className parameters arguments.tail between =
                some (others, after) ∧
              outcome = others.map (List.cons (parameter.name, resolved)) := by
  simp only [supplyAll]
  rw [Attempt.bind_eq_some]
  simp only [Attempt.bind_pure_eq_some, exists_and_left]

/-- Supply the parameters of a recipe and run its maker. -/
def follow
    (toolkit : Toolkit κ)
    (resolve : Resolver κ χ)
    (order : Order)
    (recipe : Recipe κ) :
    Attempt (Container κ χ) BuildError (Instance κ) := do
  let resolved ←
    supplyAll toolkit resolve order.className recipe.parameters order.arguments
  make order.origin order.title recipe.maker resolved

/-- Carrying out an order is following its recipe, if it has one. -/
theorem assemble_eq
    (toolkit : Toolkit κ)
    (resolve : Resolver κ χ)
    (order : Order) :
    assemble toolkit resolve order =
      match order.recipe toolkit.registry with
      | .error refusal => .fail refusal
      | .ok recipe => follow toolkit resolve order recipe := by
  cases order with
  | ofClass className arguments =>
      simp only [assemble, assembleClass, Order.recipe]
      cases toolkit.registry.blueprint? className with
      | none => rfl
      | some blueprint =>
          cases made : blueprint.make with
          | none => simp only [made]
          | some maker =>
              simp only [made]
              rfl
  | ofFactory className method arguments =>
      simp only [assemble, assembleFactory, Order.recipe]
      cases toolkit.registry.factory? className method with
      | none => rfl
      | some factory =>
          by_cases static : (!factory.isStatic) = true
          · simp only [static, if_true]
          · by_cases few : arguments.length < factory.required
            · simp only [static, few, if_false, if_true, Bool.false_eq_true]
            · simp only [static, few, if_false, Bool.false_eq_true]
              rfl

/-- An order that was carried out had a recipe. -/
theorem recipe_of_assemble_ok
    {toolkit : Toolkit κ}
    {resolve : Resolver κ χ}
    {order : Order}
    {container after : Container κ χ}
    {object : Instance κ}
    (assembled : assemble toolkit resolve order container = some (.ok object, after)) :
    ∃ recipe,
      order.recipe toolkit.registry = .ok recipe ∧
        follow toolkit resolve order recipe container = some (.ok object, after) := by
  rw [assemble_eq] at assembled
  cases found : order.recipe toolkit.registry with
  | error refusal =>
      rw [found] at assembled
      cases assembled
  | ok recipe =>
      rw [found] at assembled
      exact ⟨recipe, rfl, assembled⟩

end Builder

end Switchboard
