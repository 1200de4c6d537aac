import Switchboard.Bench.Component
import Switchboard.Service.Container

namespace Switchboard.Bench

/-!
# Catalogs

A catalog lists classes and factory methods as scripts describe them, and makes the registry that
builders work with.  It also says which runs are worth noting: those of scripted classes and
factories, under the names the scripts give them.
-/

/-- A parameter, and how its argument is read into a field. -/
structure FieldSpec where
  parameter : Parameter
  mode : ReadMode
  deriving Repr

/-- What a class is. -/
inductive ClassKind where
  /-- Known, but without a constructor. -/
  | interface
  /-- A listener that writes into the log. -/
  | spy (script : SpyScript)
  /-- One of the ready-made classes, by its name. -/
  | builtin
  | plain
  | handler (script : HandlerScript)
  | listener (script : ListenerScript)
  deriving Repr

/-- A class. -/
structure ClassSpec where
  name : String
  kind : ClassKind
  fields : List FieldSpec
  /-- Further arguments that are read into fields. -/
  reads : List (String × ReadMode)
  /-- What the constructor fails with, if it is to fail. -/
  failure : Option String
  deriving Repr

/-- What a factory gives. -/
inductive FactoryResult where
  | number
  | text
  /-- A scripted object under the name of its type. -/
  | object
  /-- A scripted object under its own name. -/
  | scripted (kind : ClassKind)
  deriving Repr

/-- A factory method. -/
structure FactorySpec where
  className : String
  method : String
  fields : List FieldSpec
  reads : List (String × ReadMode)
  isStatic : Bool
  result : FactoryResult
  /-- The name of what it makes, if not the name of the method. -/
  label : Option String
  failure : Option String
  deriving Repr

/-- Classes and factory methods; later ones replace earlier ones of the same name. -/
structure Catalog where
  classes : List ClassSpec
  factories : List FactorySpec
  deriving Repr

/-- The reads that fields and further reads ask for, in order. -/
def allReads (fields : List FieldSpec) (reads : List (String × ReadMode)) :
    List (String × ReadMode) :=
  fields.map (fun field => (field.parameter.name, field.mode)) ++ reads

/-- The product of a scripted class. -/
def productOf (typeName : String) (record : Record) : ClassKind → Product Component
  | .handler script => .handler typeName (.handler record script)
  | .listener script => .listener typeName (.listener record script)
  | _ => .plain typeName (.plain record)

/-- Read the fields of a scripted object, and fail if it is to fail. -/
def scripted
    (typeName className : String)
    (kind : ClassKind)
    (reads : List (String × ReadMode))
    (failure : Option String) :
    Maker Component := fun arguments => do
  let fields ← ReadMode.readFields arguments reads
  match failure with
  | some text => .error (.text text)
  | none => .ok (productOf typeName { className := className, fields := fields } kind)

/-- The type name of logs. -/
def logType : String := "conduit::testing::EventLog"

/-- The id under which a container has its log. -/
def logId : String := "event_log"

/-- The parameter of those who write into the log. -/
def logParameter : Parameter :=
  { name := logId, typeName := some logType, fallback := none }

/-- The parameter of those who use the store of orders. -/
def storeParameter : Parameter :=
  { name := "store", typeName := some "OrderStore", fallback := none }

/-- A class with a constructor. -/
def concrete (name : String) (parameters : List Parameter) (maker : Maker Component) :
    Blueprint Component :=
  { name := name, parameters := parameters, make := some maker }

/-- The class of a spy. -/
def spyBlueprint (label : String) (script : SpyScript) : Blueprint Component :=
  concrete label [logParameter] fun arguments => do
    let log ← arguments.serviceAs logId Wanted.log.name Wanted.log.view
    .ok (.listener label (.spy label log.id script))

/-- The class of a handler that works on the store of orders. -/
def storeHandler (name : String) (make : ObjectId → Component) : Blueprint Component :=
  concrete name [storeParameter] fun arguments => do
    let store ← arguments.serviceAs "store" Wanted.store.name Wanted.store.view
    .ok (.handler name (make store.id))

/-- The class of mailers. -/
def mailerBlueprint : Blueprint Component :=
  concrete "Mailer"
    [{ name := "host", typeName := none, fallback := none },
      { name := "port", typeName := none, fallback := some (.ofNat 25) }]
    fun arguments => do
      let host ← arguments.value "host" Json.Decode.string
      let number ← arguments.value "port" Json.Decode.u16
      .ok (.plain "Mailer" (.mailer host number))

/-- The class of listeners that write who reported what into the log. -/
def auditBlueprint : Blueprint Component :=
  concrete "AuditListener" [logParameter] fun arguments => do
    let log ← arguments.serviceAs logId Wanted.log.name Wanted.log.view
    .ok (.listener "AuditListener" (.auditListener log.id))

/-- A ready-made class by its name; any other name is that of logs. -/
def builtinBlueprint (name : String) : Blueprint Component :=
  match name with
  | "OrderStore" => concrete name [] fun _ => .ok (.plain name .orderStore)
  | "Mailer" => mailerBlueprint
  | "OrderHandler" => storeHandler name .orderHandler
  | "CountOrdersHandler" => storeHandler name .countHandler
  | "DeleteUserHandler" => concrete name [] fun _ => .ok (.handler name .deleteHandler)
  | "StampListener" => concrete name [] fun _ => .ok (.listener name .stampListener)
  | "AuditListener" => auditBlueprint
  | _ => concrete logType [] fun _ => .ok (.plain logType .log)

namespace ClassSpec

/-- The blueprint of a class. -/
def blueprint (spec : ClassSpec) : Blueprint Component :=
  match spec.kind with
  | .interface => { name := spec.name, parameters := [], make := none }
  | .spy script => spyBlueprint spec.name script
  | .builtin => builtinBlueprint spec.name
  | kind =>
      concrete spec.name (spec.fields.map FieldSpec.parameter)
        (scripted spec.name spec.name kind (allReads spec.fields spec.reads) spec.failure)

/-- Whether runs of the constructor are noted. -/
def isNoted (spec : ClassSpec) : Bool :=
  match spec.kind with
  | .plain | .handler _ | .listener _ => true
  | _ => false

end ClassSpec

namespace FactorySpec

/-- The name of what a factory makes. -/
def made (spec : FactorySpec) : String :=
  spec.label.getD (spec.className ++ "::" ++ spec.method)

/-- The value of the first argument, or another one if there are no parameters. -/
def firstValue {α : Type}
    (spec : FactorySpec)
    (arguments : Arguments Component)
    (decoder : Json.Decoder α)
    (fallback : α) :
    Except Failure α :=
  match spec.fields with
  | [] => .ok fallback
  | field :: _ => arguments.value field.parameter.name decoder

/-- What a factory runs. -/
def maker (spec : FactorySpec) : Maker Component :=
  let reads := allReads spec.fields spec.reads
  match spec.result with
  | .number => fun arguments => do
      let number ← spec.firstValue arguments Json.Decode.u64 7
      .ok (.plain Wanted.number.name (.number number))
  | .text => fun arguments => do
      let text ← spec.firstValue arguments Json.Decode.string "made"
      .ok (.plain Wanted.text.name (.text text))
  | .object => scripted Wanted.object.name spec.made .plain reads spec.failure
  | .scripted kind => scripted spec.made spec.made kind reads spec.failure

/-- The factory of a spec. -/
def factory (spec : FactorySpec) : Factory Component :=
  { parameters := spec.fields.map FieldSpec.parameter, isStatic := spec.isStatic
    make := spec.maker }

/-- Whether runs of the factory are noted. -/
def isNoted (spec : FactorySpec) : Bool :=
  match spec.result with
  | .object | .scripted _ => true
  | _ => false

end FactorySpec

namespace Catalog

/-- The registry of everything in a catalog. -/
def registry (catalog : Catalog) : Registry Component :=
  let classes :=
    catalog.classes.foldl (fun registry spec => registry.register spec.blueprint) Registry.empty
  catalog.factories.foldl
    (fun registry spec => registry.registerFactory spec.className spec.method spec.factory)
    classes

/-- The name under which a run is noted, if it is. -/
def noted? (catalog : Catalog) : Origin → Option String
  | .constructor className => do
      let spec ← catalog.classes.reverse.find? fun spec => spec.blueprint.name = className
      if spec.isNoted then some spec.name else none
  | .factory className method => do
      let spec ← catalog.factories.reverse.find? fun spec =>
        spec.className = className && spec.method = method
      if spec.isNoted then some spec.made else none

/-- The classes that every registry of the sample application collects. -/
def collected : Catalog :=
  { classes :=
      ["OrderStore", "Mailer", "OrderHandler", "StampListener"].map fun name =>
        { name := name, kind := .builtin, fields := [], reads := [], failure := none }
    factories := [] }

end Catalog

end Switchboard.Bench
