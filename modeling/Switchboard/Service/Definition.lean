import Switchboard.Service.Argument
import Switchboard.Service.Instance

namespace Switchboard

/-!
# Service definitions

A definition says how an id becomes an object.  Three kinds can be written down: an alias for
another id, a class with arguments, and a factory method with arguments.  The other two exist
only inside a container: an object that is already there, and the container itself.
-/

/-- How an id becomes an object. -/
inductive Definition (κ : Type) where
  /-- Build an object of a class. -/
  | ofClass (className : String) (arguments : List Argument)
  /-- Call a factory method. -/
  | ofFactory (className : String) (method : String) (arguments : List Argument)
  /-- Resolve another id instead. -/
  | aliasOf (target : String)
  /-- An object that was built before. -/
  | prebuilt (object : Instance κ)
  /-- The container itself. -/
  | itself
  deriving Repr

namespace Definition

variable {κ : Type}

/-- The arguments among members: none if missing or null, a refusal if not a list. -/
def readArguments? (members : Json.Object) : Option (List Argument) :=
  match members.find? "arguments" with
  | none | some .null => some []
  | some (.array raw) => some (raw.map Argument.parse)
  | some _ => none

/-- The text of a member. -/
def readText? (members : Json.Object) (name : String) : Option String :=
  (members.find? name).bind Json.Value.asString?

/-- Read a factory definition from the members under `factory`. -/
def ofFactoryMembers (members : Json.Object) : Except String (Definition κ) :=
  match readText? members "class" with
  | none => .error "factory without `class`"
  | some className =>
      match readText? members "method" with
      | none => .error "factory without `method`"
      | some method =>
          match readArguments? members with
          | none => .error "`arguments` must be a list"
          | some arguments => .ok (.ofFactory className method arguments)

/-- Read a definition from the members of an object: an alias goes before a factory, and a
factory before a class. -/
def ofMembers (members : Json.Object) : Except String (Definition κ) :=
  match members.find? "alias" with
  | some (.string target) => .ok (.aliasOf target)
  | some _ => .error "`alias` must be a string"
  | none =>
      match members.find? "factory" with
      | some (.object factory) => ofFactoryMembers factory
      | some _ => .error "`factory` must be an object"
      | none =>
          match members.find? "class" with
          | some (.string className) =>
              match readArguments? members with
              | none => .error "`arguments` must be a list"
              | some arguments => .ok (.ofClass className arguments)
          | some (.object details) =>
              match readText? details "name" with
              | none => .error "class without `name`"
              | some className =>
                  match readArguments? details with
                  | none => .error "`arguments` must be a list"
                  | some arguments => .ok (.ofClass className arguments)
          | some _ => .error "`class` must be a string or an object"
          | none => .error "expected one of `class`, `factory` or `alias`"

/-- Read a definition, or say why it is none. -/
def read (value : Json.Value) : Except String (Definition κ) :=
  match value with
  | .string target => .ok (.aliasOf target)
  | .object members => ofMembers members
  | _ => .error "expected an object definition or a string alias"

/-- Read the definition of an id. -/
def ofJson (id : String) (value : Json.Value) : Except ServiceError (Definition κ) :=
  (read value).mapError (.invalidDefinition id)

end Definition

end Switchboard
