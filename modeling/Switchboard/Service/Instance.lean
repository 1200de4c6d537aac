import Switchboard.Error

namespace Switchboard

/-!
# Built objects

An instance is an object with an identity: two instances are the same object exactly when their
numbers agree.  What the object holds is up to whoever uses the library and is called `κ`
throughout.
-/

/-- The number that tells an object from all others. -/
abbrev ObjectId := Nat

/-- A built object. -/
structure Instance (κ : Type) where
  /-- Which object this is. -/
  id : ObjectId
  /-- The name of the type it was built under. -/
  typeName : String
  /-- What it holds. -/
  content : κ
  /-- Whether it can handle messages. -/
  isHandler : Bool
  /-- Whether it can listen to events. -/
  isListener : Bool
  deriving Repr, DecidableEq

/-- What a constructor makes; it becomes an object when it is given an identity. -/
structure Product (κ : Type) where
  typeName : String
  content : κ
  isHandler : Bool
  isListener : Bool
  deriving Repr, DecidableEq

namespace Product

variable {κ : Type}

/-- A plain object, which neither handles nor listens. -/
def plain (typeName : String) (content : κ) : Product κ :=
  { typeName := typeName, content := content, isHandler := false, isListener := false }

/-- An object that handles messages. -/
def handler (typeName : String) (content : κ) : Product κ :=
  { typeName := typeName, content := content, isHandler := true, isListener := false }

/-- An object that listens to events. -/
def listener (typeName : String) (content : κ) : Product κ :=
  { typeName := typeName, content := content, isHandler := false, isListener := true }

/-- The object of a given identity. -/
def toInstance (product : Product κ) (id : ObjectId) : Instance κ :=
  { id := id, typeName := product.typeName, content := product.content
    isHandler := product.isHandler, isListener := product.isListener }

end Product

/-- Whether two instances are the same object. -/
def Instance.sameObject {κ : Type} (left right : Instance κ) : Bool :=
  left.id = right.id

/-- How an instance describes itself. -/
def Instance.described {κ : Type} (object : Instance κ) : String :=
  "Instance \x7b type_name: " ++ Text.shown object.typeName ++
    ", handler: " ++ Text.shownBool object.isHandler ++
    ", listener: " ++ Text.shownBool object.isListener ++ " \x7d"

/-- An argument after it was resolved. -/
inductive Resolved (κ : Type) where
  | value (value : Json.Value)
  | service (object : Instance κ)
  deriving Repr

/-- Resolved arguments with the names of their parameters, in declaration order. -/
abbrev Arguments (κ : Type) := List (String × Resolved κ)

namespace Arguments

variable {κ α : Type}

/-- The failure of asking for an argument that is not there. -/
def missing (name : String) : Failure :=
  .text ("argument `" ++ name ++ "` was not resolved")

/-- The service behind a name. -/
def service (arguments : Arguments κ) (name : String) : Except Failure (Instance κ) :=
  match arguments.lookup name with
  | some (.service object) => .ok object
  | some (.value _) => .error (.text ("argument `" ++ name ++ "` is not a service"))
  | none => .error (missing name)

/-- The service behind a name, as a type that is called `expected` in messages. -/
def serviceAs
    (arguments : Arguments κ)
    (name expected : String)
    (view : Instance κ → Option α) :
    Except Failure α := do
  let object ← arguments.service name
  match view object with
  | some found => .ok found
  | none =>
      .error (.text
        ("argument `" ++ name ++ "` is a `" ++ object.typeName ++ "`, not a `" ++ expected ++
          "`"))

/-- The plain value behind a name, read by a decoder. -/
def value (arguments : Arguments κ) (name : String) (decoder : Json.Decoder α) :
    Except Failure α :=
  match arguments.lookup name with
  | some (.value found) => (decoder found).mapError .data
  | some (.service _) => .error (.text ("argument `" ++ name ++ "` is a service"))
  | none => .error (missing name)

end Arguments

end Switchboard
