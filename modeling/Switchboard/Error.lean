import Switchboard.Files.Tree
import Switchboard.Json.Decode

namespace Switchboard

/-!
# Errors

Each part of the library has its own kind of error, and an error wraps the one it comes from:
resolving a service fails because a build failed, a build because a constructor did, and so on.
The wording of every error is in one `message` function for its kind.
-/

mutual

/-- What a constructor, a handler or a listener of the user fails with. -/
inductive Failure where
  /-- A failure in words. -/
  | text (message : String)
  /-- Data that could not be read as what was asked for. -/
  | data (error : Json.DataError)
  /-- A service that could not be had. -/
  | service (error : ServiceError)
  /-- A failure of a bus. -/
  | bus (error : BusError)

/-- Why the container did not do what it was asked for. -/
inductive ServiceError where
  /-- The service could not be resolved, for whatever reason. -/
  | notFound (id : String) (source : AnyError)
  /-- A definition was refused, or leads nowhere. -/
  | invalidDefinition (id : String) (reason : String)
  /-- The service is of another type. -/
  | typeMismatch (id : String) (expected : String) (actual : String)

/-- Why an object could not be built. -/
inductive BuildError where
  /-- No class of this name is known. -/
  | unknownType (className : String)
  /-- The class is known, but has no constructor. -/
  | notInstantiable (className : String)
  /-- Nothing supplies a parameter. -/
  | unresolvedDependency (className : String) (parameter : String)
  /-- No factory of this name is known. -/
  | unknownFactory (className : String) (method : String)
  /-- The factory needs an object to be called on. -/
  | notStatic (className : String) (method : String)
  /-- There are fewer arguments than parameters that need one. -/
  | missingArguments (className : String) (method : String) (required : Nat) (given : Nat)
  /-- An argument names a variable that is not set. -/
  | missingVariable (name : String)
  /-- A service to inject could not be resolved. -/
  | service (id : String) (source : ServiceError)
  /-- The constructor or factory itself failed. -/
  | construct (className : String) (source : Failure)

/-- Why a bus did not do what it was asked for. -/
inductive BusError where
  /-- No handler is registered under the identifier. -/
  | handlerNotFound (identifier : String)
  /-- There is no such kind of bus. -/
  | invalidBusType (kind : String)
  /-- The class registered as a handler is none. -/
  | notAHandler (className : String)
  /-- The class registered as a listener is none. -/
  | notAListener (className : String)
  /-- A handler was given a message of another type. -/
  | messageMismatch (expected : String) (actual : String)
  /-- The handler failed. -/
  | handler (identifier : String) (source : Failure)
  /-- A listener failed, and those after it were not called. -/
  | listener (event : String) (className : String) (source : Failure)
  /-- A handler or listener could not be built. -/
  | build (className : String) (source : BuildError)
  /-- The background worker took no work. -/
  | workerUnavailable (reason : String)

/-- Why a manifest could not be read. -/
inductive ManifestError where
  /-- The file could not be read. -/
  | io (path : Path) (source : ReadFailure)
  /-- The file is no document. -/
  | parse (path : Path)
  /-- The document is not shaped like a manifest. -/
  | shape (path : Path) (reason : String)
  /-- A pattern is blank. -/
  | invalidGlob (pattern : String)
  /-- A service in the manifest was refused. -/
  | definition (source : ServiceError)

/-- Any of these, or a failure of the user's own. -/
inductive AnyError where
  | container (error : ServiceError)
  | build (error : BuildError)
  | bus (error : BusError)
  | manifest (error : ManifestError)
  | custom (failure : Failure)

end

/-- The text of a service error. -/
def ServiceError.message : ServiceError → String
  | .notFound id _ => "service `" ++ id ++ "` not found"
  | .invalidDefinition id reason => "invalid service definition for `" ++ id ++ "`: " ++ reason
  | .typeMismatch id expected actual =>
      "service `" ++ id ++ "` is a `" ++ actual ++ "`, not a `" ++ expected ++ "`"

/-- The text of a build error. -/
def BuildError.message : BuildError → String
  | .unknownType className => "type `" ++ className ++ "` is not registered"
  | .notInstantiable className => "type `" ++ className ++ "` cannot be instantiated"
  | .unresolvedDependency className parameter =>
      "unresolved dependency `" ++ parameter ++ "` of `" ++ className ++ "`"
  | .unknownFactory className method =>
      "no factory `" ++ className ++ "::" ++ method ++ "` is registered"
  | .notStatic className method =>
      "`" ++ className ++ "::" ++ method ++ "` is not callable statically"
  | .missingArguments className method required given =>
      "`" ++ className ++ "::" ++ method ++ "` requires " ++ toString required ++
        " arguments, " ++ toString given ++ " given"
  | .missingVariable name => "environment variable `" ++ name ++ "` is not set"
  | .service id _ => "service argument `" ++ id ++ "` could not be resolved"
  | .construct className _ => "constructing `" ++ className ++ "` failed"

/-- The text of a bus error. -/
def BusError.message : BusError → String
  | .handlerNotFound identifier => "no handler registered for `" ++ identifier ++ "`"
  | .invalidBusType kind => "unknown bus type `" ++ kind ++ "`"
  | .notAHandler className => "`" ++ className ++ "` is not a message handler"
  | .notAListener className => "`" ++ className ++ "` is not an event listener"
  | .messageMismatch expected actual =>
      "handler expected `" ++ expected ++ "`, received `" ++ actual ++ "`"
  | .handler identifier _ => "handler for `" ++ identifier ++ "` failed"
  | .listener event className _ => "listener `" ++ className ++ "` failed on `" ++ event ++ "`"
  | .build className _ => "failed to build `" ++ className ++ "`"
  | .workerUnavailable reason => "dispatch worker unavailable: " ++ reason

/-- The text of a manifest error. -/
def ManifestError.message : ManifestError → String
  | .io path _ => "failed to read manifest " ++ path.text
  | .parse path => "failed to parse manifest " ++ path.text
  | .shape path reason => "malformed manifest " ++ path.text ++ ": " ++ reason
  | .invalidGlob pattern => "invalid glob pattern `" ++ pattern ++ "`"
  | .definition source => source.message

/-- The text of a user's failure. -/
def Failure.message : Failure → String
  | .text message => message
  | .data error => error.message
  | .service error => error.message
  | .bus error => error.message

/-- The text of any error. -/
def AnyError.message : AnyError → String
  | .container error => "container error: " ++ error.message
  | .build error => "build error: " ++ error.message
  | .bus error => "bus error: " ++ error.message
  | .manifest error => "manifest error: " ++ error.message
  | .custom failure => failure.message

end Switchboard
