import Switchboard.Json.Writer
import Switchboard.Text.Quoted

namespace Switchboard.Json

/-!
# Reading typed values out of documents

A decoder takes a document and gives a typed value or says what is wrong: a document of another
kind, a number out of range, a member that is missing, a name that is no variant.  Numbers are
never converted from floating point to integer; the other direction is allowed.
-/

/-- Why a document is not what was asked for. -/
inductive DataError where
  | invalidType (found : Value) (expected : String)
  | invalidValue (found : Value) (expected : String)
  | missingField (name : String)
  | unknownVariant (name : String) (expected : List String)
  | invalidLength (length : Nat) (expected : String)
  deriving Repr

/-- What a document of another kind is called in messages. -/
def Value.described : Value → String
  | .null => "null"
  | .bool value => "boolean `" ++ Text.shownBool value ++ "`"
  | .number (.integer value) => "integer `" ++ String.ofList (integerChars value) ++ "`"
  | .number (.float bits) => "floating point `" ++ String.ofList (floatChars bits) ++ "`"
  | .string text => "string " ++ Text.shown text
  | .array _ => "sequence"
  | .object _ => "map"

/-- The names that would have been accepted. -/
def describeVariants : List String → String
  | [] => "there are no variants"
  | [only] => "expected `" ++ only ++ "`"
  | [first, second] => "expected `" ++ first ++ "` or `" ++ second ++ "`"
  | names =>
      "expected one of " ++ String.intercalate ", " (names.map fun name => "`" ++ name ++ "`")

/-- The text of a data error. -/
def DataError.message : DataError → String
  | .invalidType found expected =>
      "invalid type: " ++ found.described ++ ", expected " ++ expected
  | .invalidValue found expected =>
      "invalid value: " ++ found.described ++ ", expected " ++ expected
  | .missingField name => "missing field `" ++ name ++ "`"
  | .unknownVariant name expected =>
      "unknown variant `" ++ name ++ "`, " ++ describeVariants expected
  | .invalidLength length expected =>
      "invalid length " ++ toString length ++ ", expected " ++ expected

/-- A way to read a typed value out of a document. -/
abbrev Decoder (α : Type) := Value → Except DataError α

namespace Decode

variable {α : Type}

/-- A text. -/
def string : Decoder String
  | .string text => .ok text
  | other => .error (.invalidType other "a string")

/-- A truth value. -/
def bool : Decoder Bool
  | .bool value => .ok value
  | other => .error (.invalidType other "a boolean")

/-- An integer between two bounds, called by the name of its range. -/
def integer (least largest : Int) (range : String) : Decoder Int
  | .number (.integer value) =>
      if least ≤ value ∧ value ≤ largest then
        .ok value
      else
        .error (.invalidValue (.ofInt value) range)
  | other => .error (.invalidType other range)

/-- An unsigned integer of eight bits. -/
def u8 : Decoder Int := integer 0 0xFF "u8"

/-- An unsigned integer of 16 bits. -/
def u16 : Decoder Int := integer 0 0xFFFF "u16"

/-- An unsigned integer of 32 bits. -/
def u32 : Decoder Int := integer 0 0xFFFFFFFF "u32"

/-- An unsigned integer of 64 bits. -/
def u64 : Decoder Int := integer 0 0xFFFFFFFFFFFFFFFF "u64"

/-- A count, unsigned of 64 bits. -/
def usize : Decoder Int := integer 0 0xFFFFFFFFFFFFFFFF "usize"

/-- A signed integer of 64 bits. -/
def i64 : Decoder Int := integer (-0x8000000000000000) 0x7FFFFFFFFFFFFFFF "i64"

/-- A floating point number by its bits; an integer becomes the nearest one. -/
def f64 : Decoder UInt64
  | .number (.float bits) => .ok bits
  | .number (.integer value) => .ok ((Decimal.ofInt? value).getD 0)
  | other => .error (.invalidType other "f64")

/-- Null, or what another decoder reads. -/
def optional (decoder : Decoder α) : Decoder (Option α)
  | .null => .ok none
  | other => (decoder other).map some

/-- Read items in order, up to the first wrong one. -/
def items (decoder : Decoder α) : List Value → Except DataError (List α)
  | [] => .ok []
  | value :: rest => do
      let head ← decoder value
      let tail ← items decoder rest
      .ok (head :: tail)

/-- An array of what another decoder reads. -/
def list (decoder : Decoder α) : Decoder (List α)
  | .array values => items decoder values
  | other => .error (.invalidType other "a sequence")

/-- Read members in name order, up to the first wrong one. -/
def members (decoder : Decoder α) :
    List (String × Value) → Except DataError (List (String × α))
  | [] => .ok []
  | (name, value) :: rest => do
      let head ← decoder value
      let tail ← members decoder rest
      .ok ((name, head) :: tail)

/-- An object whose members another decoder reads. -/
def map (decoder : Decoder α) : Decoder (Dict α)
  | .object values => members decoder values
  | other => .error (.invalidType other "a map")

/-- Nothing, written as null. -/
def unit : Decoder Unit
  | .null => .ok ()
  | other => .error (.invalidType other "unit")

/-- The place of a name among variants without content; an object of one such name, with null
under it, means the same. -/
def variant (names : List String) : Decoder String
  | .string name =>
      if name ∈ names then .ok name else .error (.unknownVariant name names)
  | .object [(name, content)] =>
      if name ∈ names then do
        let _ ← unit content
        .ok name
      else
        .error (.unknownVariant name names)
  | .object members =>
      .error (.invalidValue (.object members) "map with a single key")
  | other => .error (.invalidType other "string or map")

/-- Check the members of an object that have a reader, in name order, up to the first wrong one;
members without one are passed over. -/
def known (readers : List (String × Decoder Unit)) :
    List (String × Value) → Except DataError Unit
  | [] => .ok ()
  | (name, value) :: rest => do
      match readers.lookup name with
      | some reader => reader value
      | none => .ok ()
      known readers rest

/-- Any decoder as a check. -/
def check (decoder : Decoder α) : Decoder Unit :=
  fun value => (decoder value).map fun _ => ()

/-- A member that must be there. -/
def field (members : Object) (name : String) (decoder : Decoder α) : Except DataError α :=
  match Dict.find? members name with
  | some value => decoder value
  | none => .error (.missingField name)

/-- A member that may be missing. -/
def fieldOr (members : Object) (name : String) (decoder : Decoder α) (fallback : α) :
    Except DataError α :=
  match Dict.find? members name with
  | some value => decoder value
  | none => .ok fallback

end Decode

end Switchboard.Json
