import Switchboard.Json.Value

namespace Switchboard.Json

/-!
# Compact text of documents

A document is written without blanks, its members in name order.  A quote, a backslash and the
characters below the space are escaped, everything else stands for itself.
-/

/-- The escape of a character below the space that has no short one: two digits after `\u00`. -/
def escapeControl (code : Nat) : List Char :=
  ['\\', 'u', '0', '0', Nat.digitChar (code / 16), Nat.digitChar (code % 16)]

/-- How a character stands inside a quoted text. -/
def escapeChar (char : Char) : List Char :=
  if char = '"' then ['\\', '"']
  else if char = '\\' then ['\\', '\\']
  else if char.toNat = 8 then ['\\', 'b']
  else if char.toNat = 12 then ['\\', 'f']
  else if char = '\n' then ['\\', 'n']
  else if char = '\r' then ['\\', 'r']
  else if char = '\t' then ['\\', 't']
  else if char.toNat < 32 then escapeControl char.toNat
  else [char]

/-- A text in quotes. -/
def quote (text : String) : List Char :=
  '"' :: (text.toList.flatMap escapeChar ++ ['"'])

/--
Numbers with a point are written out while their leading digit stands between the fifth place
after the point and the sixteenth before it; other exponents carry their sign.
-/
def numberLayout : Decimal.Layout :=
  { leastPositional := -5, largestPositional := 15, exponentMark := "e+", negativeMark := "e-" }

/-- The text of a floating point number. -/
def floatChars (bits : UInt64) : List Char :=
  let size := Decimal.magnitude bits
  let digits :=
    if size = 0 then ['0', '.', '0'] else numberLayout.write (Decimal.shortest size)
  if Decimal.isNegative bits then '-' :: digits else digits

/-- The text of an integer. -/
def integerChars (value : Int) : List Char :=
  if value < 0 then
    '-' :: Nat.toDigits 10 value.natAbs
  else
    Nat.toDigits 10 value.natAbs

/-- The text of a number. -/
def Number.chars : Number → List Char
  | .integer value => integerChars value
  | .float bits => floatChars bits

mutual

/-- The text of a document. -/
def Value.chars : Value → List Char
  | .null => ['n', 'u', 'l', 'l']
  | .bool true => ['t', 'r', 'u', 'e']
  | .bool false => ['f', 'a', 'l', 's', 'e']
  | .number value => value.chars
  | .string text => quote text
  | .array [] => ['[', ']']
  | .array (item :: items) => '[' :: (item.chars ++ itemsChars items)
  | .object [] => ['{', '}']
  | .object ((name, value) :: members) =>
      '{' :: (quote name ++ ':' :: (value.chars ++ membersChars members))

/-- The text of the items after the first, with the closing bracket. -/
def itemsChars : List Value → List Char
  | [] => [']']
  | item :: items => ',' :: (item.chars ++ itemsChars items)

/-- The text of the members after the first, with the closing brace. -/
def membersChars : List (String × Value) → List Char
  | [] => ['}']
  | (name, value) :: members =>
      ',' :: (quote name ++ ':' :: (value.chars ++ membersChars members))

end

/-- The compact text of a document. -/
def Value.render (value : Value) : String :=
  String.ofList value.chars

end Switchboard.Json
