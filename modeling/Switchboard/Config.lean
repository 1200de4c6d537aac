import Switchboard.Cache.Ttl
import Switchboard.Error
import Switchboard.Json.Syntax

namespace Switchboard

/-!
# Configuration

A configuration says how the process runs, whether events are dispatched in the background, how
long services stay cached and which modules are active.  It is read from environment variables,
where what cannot be understood keeps its default, or from a document, where it is an error.
-/

/-- The value of a variable, if it is set. -/
abbrev Environment := String → Option String

/-- How the process runs. -/
inductive RunContext where
  | commandLine
  | request
  deriving Repr, DecidableEq, Inhabited

namespace RunContext

/-- The name of a context in documents. -/
def name : RunContext → String
  | .commandLine => "command_line"
  | .request => "request"

/-- The names of the contexts in documents. -/
def names : List String := [name .commandLine, name .request]

/-- Another spelling of a context in the environment. -/
def nickname : RunContext → String
  | .commandLine => "cli"
  | .request => "web"

/-- The context that a text means: by either spelling, in any case and between blanks. -/
def ofText? (text : String) : Option RunContext :=
  let word := Text.lowerAscii (Text.trim text)
  [RunContext.commandLine, .request].find? fun context =>
    word = context.name || word = context.nickname

/-- Read a context from a document. -/
def decode : Json.Decoder RunContext := fun value => do
  let found ← Json.Decode.variant names value
  .ok (if found = name .commandLine then .commandLine else .request)

end RunContext

/-- What can be configured. -/
structure Config where
  /-- How the process runs. -/
  context : RunContext
  /-- Dispatch events in the background; honoured on the command line only. -/
  asyncEvents : Bool
  /-- How many seconds services stay cached; nothing, like zero, means for ever. -/
  cacheSeconds : Option UInt64
  /-- The modules whose manifests are loaded; nothing means all. -/
  activeModules : Option (List String)
  deriving Repr, DecidableEq, Inhabited

namespace Config

/-- The configuration where nothing was said. -/
def initial : Config :=
  { context := .request, asyncEvents := false, cacheSeconds := none, activeModules := none }

/-- The variable of the context. -/
def contextVariable : String := "CONDUIT_CONTEXT"

/-- The variable of background dispatch. -/
def asyncVariable : String := "CONDUIT_ASYNC_EVENTS"

/-- The variable of the cache lifetime. -/
def cacheVariable : String := "CONDUIT_CACHE_TTL"

/-- The variable of the active modules. -/
def modulesVariable : String := "CONDUIT_ACTIVE_MODULES"

/-- The words for yes. -/
def yesWords : List String := ["1", "true", "yes", "on"]

/-- Whether a text means yes. -/
def isYes (text : String) : Bool :=
  Text.lowerAscii (Text.trim text) ∈ yesWords

/-- The number that decimal digits spell; no digits spell none. -/
def ofDigits? (digits : List Char) : Option Nat :=
  if digits ≠ [] ∧ digits.all Char.isDigit then
    some (digits.foldl (fun value digit => 10 * value + (digit.toNat - 48)) 0)
  else
    none

/-- A number of seconds that 64 bits hold: decimal digits between blanks, a plus before them. -/
def seconds? (text : String) : Option UInt64 := do
  let value ← match Text.trimChars text.toList with
    | '+' :: digits => ofDigits? digits
    | digits => ofDigits? digits
  if value ≤ Json.largestInteger then some value.toUInt64 else none

/-- The names between commas, without the blanks around them and without empty ones. -/
def moduleNames (text : String) : List String :=
  ((Text.cut ',' text).map Text.trim).filter (· ≠ "")

/-- Read a configuration from the environment. -/
def ofEnvironment (environment : Environment) : Config :=
  { context :=
      ((environment contextVariable).bind RunContext.ofText?).getD initial.context
    asyncEvents :=
      ((environment asyncVariable).map isYes).getD initial.asyncEvents
    cacheSeconds := (environment cacheVariable).bind seconds?
    activeModules := (environment modulesVariable).map moduleNames }

/-- The document of a configuration. -/
def toJson (config : Config) : Json.Value :=
  .ofMembers
    [("context", .string config.context.name),
      ("async_events", .bool config.asyncEvents),
      ("cache_ttl_secs", .ofOption (config.cacheSeconds.map fun count => .ofNat count.toNat)),
      ("active_modules", .ofOption (config.activeModules.map .ofStrings))]

/-- Read a number of seconds from a document. -/
def decodeSeconds : Json.Decoder (Option UInt64) :=
  fun value =>
    (Json.Decode.optional Json.Decode.u64 value).map (Option.map fun count => count.toNat.toUInt64)

/-- Read the active modules from a document. -/
def decodeModules : Json.Decoder (Option (List String)) :=
  Json.Decode.optional (Json.Decode.list Json.Decode.string)

/-- What is checked of each member of a configuration. -/
def readers : List (String × Json.Decoder Unit) :=
  [("context", Json.Decode.check RunContext.decode),
    ("async_events", Json.Decode.check Json.Decode.bool),
    ("cache_ttl_secs", Json.Decode.check decodeSeconds),
    ("active_modules", Json.Decode.check decodeModules)]

/-- Read a configuration from the members of an object; a missing one keeps its default. -/
def decodeMembers (members : Json.Object) : Except Json.DataError Config := do
  Json.Decode.known readers members
  let context ←
    Json.Decode.fieldOr members "context" RunContext.decode initial.context
  let asyncEvents ←
    Json.Decode.fieldOr members "async_events" Json.Decode.bool initial.asyncEvents
  let cacheSeconds ←
    Json.Decode.fieldOr members "cache_ttl_secs" decodeSeconds initial.cacheSeconds
  let activeModules ←
    Json.Decode.fieldOr members "active_modules" decodeModules initial.activeModules
  .ok
    { context := context, asyncEvents := asyncEvents, cacheSeconds := cacheSeconds
      activeModules := activeModules }

/-- Read an item of a list, which may be too short. -/
def decodeItem {α : Type} (items : List Json.Value) (place : Nat) (decoder : Json.Decoder α)
    (fallback : α) : Except Json.DataError α :=
  match items[place]? with
  | some item => decoder item
  | none => .ok fallback

/-- Read a configuration from its values in order; those that are missing keep their default. -/
def decodeItems (items : List Json.Value) : Except Json.DataError Config := do
  let context ← decodeItem items 0 RunContext.decode initial.context
  let asyncEvents ← decodeItem items 1 Json.Decode.bool initial.asyncEvents
  let cacheSeconds ← decodeItem items 2 decodeSeconds initial.cacheSeconds
  let activeModules ← decodeItem items 3 decodeModules initial.activeModules
  if items.length ≤ 4 then
    .ok
      { context := context, asyncEvents := asyncEvents, cacheSeconds := cacheSeconds
        activeModules := activeModules }
  else
    .error (.invalidLength items.length "fewer elements in array")

/-- Read a configuration from a document. -/
def decode : Json.Decoder Config
  | .object members => decodeMembers members
  | .array items => decodeItems items
  | other => .error (.invalidType other "struct ConduitConfig")

/-- Whether a context is written as a text or as an object of one name. -/
def isPlainContext : Json.Syntax → Bool
  | .object [_] => true
  | .object _ => false
  | _ => true

/-- The value of a known member as written. -/
def memberValue? (name : String) (value : Json.Syntax) : Option Json.Value :=
  if name = "context" ∧ !isPlainContext value then none else value.toValue? Json.depthLimit

/-- The known members as written: each at most once, the others passed over unread. -/
def knownMembers? (seen : List String) :
    List (Option String × Json.Syntax) → Option (List (String × Json.Value))
  | [] => some []
  | (name, value) :: members => do
      let name ← name
      if name ∈ readers.map Prod.fst then
        if name ∈ seen then
          none
        else
          let value ← memberValue? name value
          let others ← knownMembers? (name :: seen) members
          some ((name, value) :: others)
      else
        knownMembers? seen members

/-- The document with what a configuration is read from, if the text has the right shape. -/
def relevant? : Json.Syntax → Option Json.Value
  | .object members => (knownMembers? [] members).map Json.Value.ofMembers
  | .array (context :: items) => do
      let context ← memberValue? "context" context
      let items ← Json.itemValues? Json.depthLimit items
      some (.array (context :: items))
  | other => other.toValue? Json.depthLimit

/-- Read a configuration from text; nothing if the text is no configuration. -/
def parse? (text : String) : Option Config := do
  let document ← Json.Syntax.read? text
  let relevant ← relevant? document
  (decode relevant).toOption

/-- Whether events are dispatched in the background. -/
def isAsync (config : Config) : Bool :=
  config.context = .commandLine && config.asyncEvents

/-- How long services stay cached. -/
def cacheTtl (config : Config) : Option Ttl :=
  config.cacheSeconds.map fun count => .seconds count.toNat

end Config

/-- Why a configuration file gave no configuration. -/
inductive ConfigError where
  /-- The file could not be read. -/
  | io (path : Path) (source : ReadFailure)
  /-- The text is no configuration. -/
  | parse (path : Path)

/-- The text of a configuration error. -/
def ConfigError.message : ConfigError → String
  | .io path _ => "failed to read config `" ++ path.text ++ "`"
  | .parse path => "failed to parse config `" ++ path.text ++ "`"

/-- Read a configuration file. -/
def Config.ofFile (tree : FileTree) (path : Path) : Except ConfigError Config :=
  match tree.readText path with
  | .error failure => .error (.io path failure)
  | .ok text =>
      match Config.parse? text with
      | some config => .ok config
      | none => .error (.parse path)

end Switchboard
