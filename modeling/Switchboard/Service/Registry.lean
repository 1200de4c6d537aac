import Switchboard.Service.Instance

namespace Switchboard

/-!
# What can be built

A registry knows classes by blueprints and factory methods by class and method.  A blueprint
declares the parameters of a constructor, in order; a class without a constructor is known but
cannot be instantiated.
-/

/-- A declared parameter of a constructor or factory. -/
structure Parameter where
  name : String
  /-- The declared type, under which a service may be found. -/
  typeName : Option String
  /-- What is used when nothing else supplies the parameter. -/
  fallback : Option Json.Value
  deriving Repr

/-- What builds an object from resolved arguments: constructors and factories are functions of their
arguments, and do not act on a container, not even on one that they are given. -/
abbrev Maker (κ : Type) := Arguments κ → Except Failure (Product κ)

/-- A known class. -/
structure Blueprint (κ : Type) where
  name : String
  parameters : List Parameter
  make : Option (Maker κ)

/-- A factory method. -/
structure Factory (κ : Type) where
  parameters : List Parameter
  isStatic : Bool
  make : Maker κ

/-- All known classes and factory methods. -/
structure Registry (κ : Type) where
  blueprints : Dict (Blueprint κ)
  factories : Dict (Dict (Factory κ))

namespace Blueprint

variable {κ : Type}

/-- Whether objects of the class can be built. -/
def isInstantiable (blueprint : Blueprint κ) : Bool :=
  blueprint.make.isSome

end Blueprint

namespace Factory

variable {κ : Type}

/-- How many parameters have nothing to fall back on. -/
def required (factory : Factory κ) : Nat :=
  (factory.parameters.filter fun parameter => parameter.fallback.isNone).length

end Factory

namespace Registry

variable {κ : Type}

/-- The registry that knows nothing. -/
def empty : Registry κ := { blueprints := Dict.empty, factories := Dict.empty }

/-- Make a class known, in the stead of one of the same name. -/
def register (registry : Registry κ) (blueprint : Blueprint κ) : Registry κ :=
  { registry with blueprints := registry.blueprints.insert blueprint.name blueprint }

/-- Make a factory method known, in the stead of one of the same names. -/
def registerFactory
    (registry : Registry κ)
    (className method : String)
    (factory : Factory κ) :
    Registry κ :=
  let methods := (registry.factories.find? className).getD Dict.empty
  { registry with
    factories := registry.factories.insert className (methods.insert method factory) }

/-- The class of a name. -/
def blueprint? (registry : Registry κ) (className : String) : Option (Blueprint κ) :=
  registry.blueprints.find? className

/-- The factory of a class and a method. -/
def factory? (registry : Registry κ) (className method : String) : Option (Factory κ) := do
  let methods ← registry.factories.find? className
  methods.find? method

/-- Whether a class is known, with or without a constructor. -/
def contains (registry : Registry κ) (className : String) : Bool :=
  registry.blueprints.contains className

/-- How many classes are known. -/
def size (registry : Registry κ) : Nat :=
  registry.blueprints.size

end Registry

mutual

/-- How descriptions show a document. -/
def Json.Value.detailed : Json.Value → String
  | .null => "Null"
  | .bool value => "Bool(" ++ Text.shownBool value ++ ")"
  | .number value => "Number(" ++ String.ofList value.chars ++ ")"
  | .string text => "String(" ++ Text.shown text ++ ")"
  | .array items => "Array " ++ Text.shownList (itemsDetailed items)
  | .object members =>
      "Object \x7b" ++ String.intercalate ", " (membersDetailed members) ++ "\x7d"

/-- How descriptions show the items of an array. -/
def itemsDetailed : List Json.Value → List String
  | [] => []
  | item :: items => item.detailed :: itemsDetailed items

/-- How descriptions show the members of an object. -/
def membersDetailed : List (String × Json.Value) → List String
  | [] => []
  | (name, value) :: members =>
      (Text.shown name ++ ": " ++ value.detailed) :: membersDetailed members

end

/-- How a parameter describes itself. -/
def Parameter.described (parameter : Parameter) : String :=
  "Parameter \x7b name: " ++ Text.shown parameter.name ++
    ", type_name: " ++ Text.shownOption (parameter.typeName.map Text.shown) ++
    ", default: " ++ Text.shownOption (parameter.fallback.map Json.Value.detailed) ++ " \x7d"

/-- How parameters describe themselves. -/
def Parameter.describedAll (parameters : List Parameter) : String :=
  Text.shownList (parameters.map Parameter.described)

/-- How a blueprint describes itself. -/
def Blueprint.described {κ : Type} (blueprint : Blueprint κ) : String :=
  "Blueprint \x7b name: " ++ Text.shown blueprint.name ++
    ", parameters: " ++ Parameter.describedAll blueprint.parameters ++
    ", instantiable: " ++ Text.shownBool blueprint.isInstantiable ++ " \x7d"

/-- How a factory describes itself. -/
def Factory.described {κ : Type} (factory : Factory κ) : String :=
  "FactoryMethod \x7b parameters: " ++ Parameter.describedAll factory.parameters ++
    ", is_static: " ++ Text.shownBool factory.isStatic ++ " \x7d"

end Switchboard
