import Switchboard.Decimal.Shortest
import Switchboard.Dict

namespace Switchboard.Json

/-!
# Documents

A document is a tree of null, booleans, numbers, texts, arrays and objects.  A number is an
integer or a binary floating point number, and the two are never confused: `1` is an integer and
`1.0` is not.  The members of an object are a dictionary, so they are in name order and each name
is there once.
-/

/-- An integer, or a finite floating point number by its bits. -/
inductive Number where
  | integer (value : Int)
  | float (bits : UInt64)
  deriving Repr, DecidableEq

/-- A document. -/
inductive Value where
  | null
  | bool (value : Bool)
  | number (value : Number)
  | string (value : String)
  | array (items : List Value)
  | object (members : List (String × Value))
  deriving Repr, Inhabited

/-- The members of an object. -/
abbrev Object := Dict Value

namespace Value

/-- An integer as a document. -/
def ofInt (value : Int) : Value := .number (.integer value)

/-- A natural number as a document. -/
def ofNat (value : Nat) : Value := ofInt value

/-- An object with the given members, the last of a repeated name staying. -/
def ofMembers (members : List (String × Value)) : Value :=
  .object (Dict.ofList members)

/-- A list of texts as a document. -/
def ofStrings (texts : List String) : Value :=
  .array (texts.map .string)

/-- An optional document, null standing for nothing. -/
def ofOption : Option Value → Value
  | none => .null
  | some value => value

/-- The text, if the document is one. -/
def asString? : Value → Option String
  | .string value => some value
  | _ => none

/-- The members, if the document is an object. -/
def asObject? : Value → Option Object
  | .object members => some members
  | _ => none

/-- The items, if the document is an array. -/
def asArray? : Value → Option (List Value)
  | .array items => some items
  | _ => none

/-- The member of a name; a document that is no object has none. -/
def member? (value : Value) (name : String) : Option Value :=
  match value with
  | .object members => Dict.find? members name
  | _ => none

end Value

end Switchboard.Json
