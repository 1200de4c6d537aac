import Switchboard.Bench.Naming
import Switchboard.Service.Instance

namespace Switchboard.Bench

/-!
# Components

Objects to try containers and buses out with.  Some do what a script says; the others are a small
application of orders and mail, a log, and listeners that write into the log.
-/

/-- What a scripted handler does with a message. -/
inductive HandlerScript where
  /-- Reply with the name and the content. -/
  | echo
  /-- Reply with the message itself. -/
  | same
  /-- Fail with a text. -/
  | fail (text : String)
  /-- Reply with how often it was called. -/
  | count
  /-- Reply with nothing. -/
  | ack
  /-- Take events only, and reply with the identifier. -/
  | event
  deriving Repr, DecidableEq

/-- What a scripted listener does with an event. -/
inductive ListenerScript where
  /-- Put its class at the end of the trail in the data. -/
  | trail
  /-- Set an entry of the data. -/
  | set (key : String) (value : Json.Value)
  /-- Stop the event. -/
  | stop
  /-- Fail with a text. -/
  | fail (text : String)
  /-- Empty the data. -/
  | clear
  /-- Resolve a service of its container, and put the name of its type into the data. -/
  | resolve (id : String)
  deriving Repr

/-- What a spy does with an event, apart from writing it into the log. -/
inductive SpyScript where
  | record
  | stop
  | fail
  deriving Repr, DecidableEq

/-- The content of a field: a value, or a service with the container that it is, if it is one. -/
inductive FieldContent where
  | value (value : Json.Value)
  | service (id : ObjectId) (typeName : String) (container : Option Nat)
  deriving Repr

/-- What a scripted object was made of. -/
structure Record where
  className : String
  fields : List (String × FieldContent)
  deriving Repr

/-- What an object holds. -/
inductive Component where
  /-- A container, by its place among all containers. -/
  | container (place : Nat)
  /-- A log of events. -/
  | log
  | text (text : String)
  | number (number : Int)
  /-- A scripted object that does nothing. -/
  | plain (record : Record)
  | handler (record : Record) (script : HandlerScript)
  | listener (record : Record) (script : ListenerScript)
  /-- A listener that writes into a log. -/
  | spy (label : String) (log : ObjectId) (script : SpyScript)
  /-- A store of orders. -/
  | orderStore
  | mailer (host : String) (number : Int)
  /-- A handler that puts orders into a store. -/
  | orderHandler (store : ObjectId)
  /-- A handler that counts the orders in a store. -/
  | countHandler (store : ObjectId)
  /-- A handler that deletes users. -/
  | deleteHandler
  /-- A listener that stamps events. -/
  | stampListener
  /-- A listener that writes who reported what into a log. -/
  | auditListener (log : ObjectId)
  deriving Repr

namespace Component

/-- The container that an object is, if it is one. -/
def container? : Component → Option Nat
  | .container place => some place
  | _ => none

/-- What a scripted object was made of. -/
def record? : Component → Option Record
  | .plain record | .handler record _ | .listener record _ => some record
  | _ => none

end Component

/-- Types that objects can be asked for, with their names in messages. -/
inductive Wanted where
  | object
  | log
  | container
  | text
  | number
  | mailer
  | store
  deriving Repr, DecidableEq

namespace Wanted

/-- The name of a type in messages. -/
def name : Wanted → String
  | .object => applicationType "Obj"
  | .log => libraryType "testing" "EventLog"
  | .container => libraryType "container" "Container"
  | .text => textType
  | .number => numberType
  | .mailer => applicationType "Mailer"
  | .store => applicationType "OrderStore"

/-- Whether an object is of a type. -/
def isMet : Wanted → Component → Bool
  | .object, .plain _ => true
  | .log, .log => true
  | .container, .container _ => true
  | .text, .text _ => true
  | .number, .number _ => true
  | .mailer, .mailer _ _ => true
  | .store, .orderStore => true
  | _, _ => false

/-- The object itself, if it is of a type. -/
def view (wanted : Wanted) (object : Instance Component) : Option (Instance Component) :=
  if wanted.isMet object.content then some object else none

end Wanted

/-- How an argument is read into a field. -/
inductive ReadMode where
  | string
  | optionalString
  | strings
  | bool
  | u8
  | u32
  | i64
  | f64
  | value
  /-- Any service. -/
  | anyService
  /-- A service of a type. -/
  | wanted (type : Wanted)
  /-- Whatever is there. -/
  | raw
  deriving Repr, DecidableEq

namespace ReadMode

/-- Read a value as a mode says, and write it down again. -/
def decode : ReadMode → Json.Decoder Json.Value
  | .string => fun value => (Json.Decode.string value).map .string
  | .optionalString => fun value =>
      (Json.Decode.optional Json.Decode.string value).map fun text =>
        .ofOption (text.map .string)
  | .strings => fun value => (Json.Decode.list Json.Decode.string value).map .ofStrings
  | .bool => fun value => (Json.Decode.bool value).map .bool
  | .u8 => fun value => (Json.Decode.u8 value).map .ofInt
  | .u32 => fun value => (Json.Decode.u32 value).map .ofInt
  | .i64 => fun value => (Json.Decode.i64 value).map .ofInt
  | .f64 => fun value => (Json.Decode.f64 value).map fun bits => .number (.float bits)
  | _ => .ok

/-- What a read of an argument gives. -/
inductive Outcome where
  | value (value : Json.Value)
  | service (object : Instance Component)

/-- Read an argument. -/
def read (mode : ReadMode) (arguments : Arguments Component) (name : String) :
    Except Failure Outcome :=
  match mode with
  | .anyService => (arguments.service name).map .service
  | .wanted type => (arguments.serviceAs name type.name type.view).map .service
  | .raw =>
      match arguments.lookup name with
      | some (.value found) => .ok (.value found)
      | some (.service object) => .ok (.service object)
      | none => .error (Arguments.missing name)
  | mode => (arguments.value name mode.decode).map .value

/-- What a field keeps of a read. -/
def Outcome.toField : Outcome → FieldContent
  | .value found => .value found
  | .service object => .service object.id object.typeName object.content.container?

/-- Read arguments into fields, in order, up to the first failure. -/
def readFields (arguments : Arguments Component) :
    List (String × ReadMode) → Except Failure (List (String × FieldContent))
  | [] => .ok []
  | (name, mode) :: reads => do
      let outcome ← mode.read arguments name
      let others ← readFields arguments reads
      .ok ((name, outcome.toField) :: others)

end ReadMode

end Switchboard.Bench
