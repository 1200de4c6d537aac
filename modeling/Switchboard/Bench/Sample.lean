import Switchboard.Message

namespace Switchboard.Bench

/-!
# Sample messages

Messages to try buses out with: some with fields and rules of their own, one that holds anything,
and events.  The fields of a message are read from an object in name order, the first wrong one
is reported, and missing ones are reported after that in the order they are declared.
-/

/-- How much somebody may do. -/
inductive Level where
  | guest
  | powerUser
  deriving Repr, DecidableEq

/-- The name of a level in documents. -/
def Level.name : Level → String
  | .guest => "guest"
  | .powerUser => "power_user"

/-- Somebody as others see them. -/
structure Profile where
  name : String
  nick : Option String
  tags : List String
  level : Level
  scores : Dict Int
  deriving Repr

/-- The sample messages. -/
inductive Sample where
  /-- A message of any name and content. -/
  | raw (name : String) (content : Json.Object)
  /-- Order a quantity of something. -/
  | createOrder (sku : String) (quantity : Int)
  /-- An order was created. -/
  | orderCreated (id : String)
  /-- Ask how many orders there are. -/
  | countOrders
  /-- How many orders there are. -/
  | orderCount (count : Int)
  /-- Delete a user. -/
  | deleteUser (id : Int)
  /-- Delete a user, under another name and without a check. -/
  | wrapped (id : Int)
  /-- A profile. -/
  | profile (profile : Profile)
  /-- The reply of those with nothing to say. -/
  | ack
  /-- An event. -/
  | event (event : Event)
  deriving Repr

namespace Sample

/-- The name of the type of a sample. -/
def typeName : Sample → String
  | .raw _ _ => "RawMessage"
  | .createOrder _ _ => "CreateOrder"
  | .orderCreated _ => "OrderCreated"
  | .countOrders => "CountOrders"
  | .orderCount _ => "OrderCount"
  | .deleteUser _ => "DeleteUser"
  | .wrapped _ => "Wrapped"
  | .profile _ => "Profile"
  | .ack => "Ack"
  | .event _ => "Event"

/-- The message name of a sample: the name of its type, unless it has one of its own. -/
def messageName : Sample → String
  | .raw name _ => name
  | .deleteUser _ => "user.delete"
  | other => other.typeName

/-- The object of a sample; what is no object has an empty one. -/
def toMap : Sample → Json.Object
  | .raw _ content => content
  | .createOrder sku quantity =>
      Dict.ofList [("sku", .string sku), ("quantity", .ofInt quantity)]
  | .orderCreated id => Dict.ofList [("id", .string id)]
  | .countOrders | .orderCount _ | .ack => Dict.empty
  | .deleteUser id | .wrapped id => Dict.ofList [("id", .ofInt id)]
  | .profile held =>
      Dict.ofList
        [("name", .string held.name),
          ("nick", .ofOption (held.nick.map .string)),
          ("tags", .ofStrings held.tags),
          ("level", .string held.level.name),
          ("scores", .object (held.scores.map fun entry => (entry.1, .ofInt entry.2)))]
  | .event held => held.toMap

/-- What is wrong with the content of a sample, if something is. -/
def validate : Sample → Except Failure Unit
  | .createOrder _ quantity =>
      if quantity = 0 then .error (.text "quantity must be positive") else .ok ()
  | .deleteUser id =>
      if id = 0 then .error (.text "id must not be zero") else .ok ()
  | _ => .ok ()

instance : Message Sample where
  name := messageName
  toMap := toMap
  validate := validate
  event?
    | .event held => some held
    | _ => none

/-- Read a level from a document. -/
def decodeLevel : Json.Decoder Level := fun value => do
  let found ← Json.Decode.variant [Level.guest.name, Level.powerUser.name] value
  .ok (if found = Level.guest.name then .guest else .powerUser)

/-- Read an order from its object. -/
def readOrder (members : Json.Object) : Except Json.DataError Sample := do
  Json.Decode.known
    [("sku", Json.Decode.check Json.Decode.string),
      ("quantity", Json.Decode.check Json.Decode.u32)] members
  let sku ← Json.Decode.field members "sku" Json.Decode.string
  let quantity ← Json.Decode.field members "quantity" Json.Decode.u32
  .ok (.createOrder sku quantity)

/-- Read a profile from its object. -/
def readProfile (members : Json.Object) : Except Json.DataError Sample := do
  Json.Decode.known
    [("name", Json.Decode.check Json.Decode.string),
      ("nick", Json.Decode.check (Json.Decode.optional Json.Decode.string)),
      ("tags", Json.Decode.check (Json.Decode.list Json.Decode.string)),
      ("level", Json.Decode.check decodeLevel),
      ("scores", Json.Decode.check (Json.Decode.map Json.Decode.i64))] members
  let name ← Json.Decode.field members "name" Json.Decode.string
  let nick ← Json.Decode.fieldOr members "nick" (Json.Decode.optional Json.Decode.string) none
  let tags ← Json.Decode.fieldOr members "tags" (Json.Decode.list Json.Decode.string) []
  let level ← Json.Decode.field members "level" decodeLevel
  let scores ← Json.Decode.fieldOr members "scores" (Json.Decode.map Json.Decode.i64) Dict.empty
  .ok (.profile { name := name, nick := nick, tags := tags, level := level, scores := scores })

/-- Read a count of orders: it stands under `n`, because a count alone is no object. -/
def readCount (members : Json.Object) : Except Json.DataError Sample :=
  match members.find? "n" with
  | some count => (Json.Decode.usize count).map .orderCount
  | none => .error (.invalidType (.object members) "usize")

/-- Read a sample of a type from its object; nothing if there is no such type. -/
def read? (typeName : String) (members : Json.Object) : Option (Except Json.DataError Sample) :=
  match typeName with
  | "CreateOrder" => some (readOrder members)
  | "OrderCreated" =>
      some ((Json.Decode.field members "id" Json.Decode.string).map .orderCreated)
  | "CountOrders" =>
      some (if members.size = 0 then .ok .countOrders
        else .error (.invalidType (.object members) "unit struct CountOrders"))
  | "OrderCount" => some (readCount members)
  | "DeleteUser" => some ((Json.Decode.field members "id" Json.Decode.u64).map .deleteUser)
  | "Wrapped" => some ((Json.Decode.field members "id" Json.Decode.u64).map .wrapped)
  | "Profile" => some (readProfile members)
  | "Ack" => some (.ok .ack)
  | _ => none

end Sample

end Switchboard.Bench
