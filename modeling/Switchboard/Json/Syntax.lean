import Switchboard.Digest.Hex
import Switchboard.Json.Value

namespace Switchboard.Json

/-!
# Document text as written

Reading has two stages.  `Syntax.read?` takes text apart by the grammar and keeps everything it
was told: repeated names, the digits of numbers, and escapes that are half of a pair.  What these
mean is settled afterwards, by `Syntax.toValue?` for a whole document or by whoever reads only
parts of it.
-/

/-- A number as written. -/
structure Literal where
  negative : Bool
  whole : List Char
  fraction : List Char
  power : Option Int
  deriving Repr, DecidableEq

/-- A document as written; a text is missing when an escape in it is half of a pair. -/
inductive Syntax where
  | null
  | bool (value : Bool)
  | number (literal : Literal)
  | string (text : Option String)
  | array (items : List Syntax)
  | object (members : List (Option String × Syntax))
  deriving Repr, Inhabited

namespace Syntax

/-- The four characters that may stand between tokens. -/
def isSpace (char : Char) : Bool :=
  char = ' ' || char = '\n' || char = '\t' || char = '\r'

/-- Characters from the next token on. -/
def skip (chars : List Char) : List Char :=
  chars.dropWhile isSpace

/-- The value of four hexadecimal digits. -/
def hexValues? (first second third fourth : Char) : Option Nat := do
  let first ← Digest.hexValue? first
  let second ← Digest.hexValue? second
  let third ← Digest.hexValue? third
  let fourth ← Digest.hexValue? fourth
  some (((first * 16 + second) * 16 + third) * 16 + fourth)

/-- One piece of a quoted text: a character, or a code unit that an escape spells out. -/
inductive Piece where
  | char (value : Char)
  | unit (value : Nat)
  deriving Repr, DecidableEq

/-- The character of an escape of one letter. -/
def shortEscape? (letter : Char) : Option Char :=
  if letter = '"' then some '"'
  else if letter = '\\' then some '\\'
  else if letter = '/' then some '/'
  else if letter = 'b' then some (Char.ofNat 8)
  else if letter = 'f' then some (Char.ofNat 12)
  else if letter = 'n' then some '\n'
  else if letter = 'r' then some '\r'
  else if letter = 't' then some '\t'
  else none

/-- The pieces of a quoted text up to its closing quote, and what follows it. -/
def readPieces? : List Char → Option (List Piece × List Char)
  | [] => none
  | '"' :: rest => some ([], rest)
  | '\\' :: 'u' :: first :: second :: third :: fourth :: rest => do
      let unit ← hexValues? first second third fourth
      let (pieces, rest) ← readPieces? rest
      some (.unit unit :: pieces, rest)
  | '\\' :: letter :: rest => do
      let char ← shortEscape? letter
      let (pieces, rest) ← readPieces? rest
      some (.char char :: pieces, rest)
  | char :: rest =>
      if char.toNat < 32 ∨ char = '\\' then
        none
      else do
        let (pieces, rest) ← readPieces? rest
        some (.char char :: pieces, rest)

/-- Whether a code unit is the first half of a pair. -/
def isHigh (unit : Nat) : Bool := 0xD800 ≤ unit && unit < 0xDC00

/-- Whether a code unit is the second half of a pair. -/
def isLow (unit : Nat) : Bool := 0xDC00 ≤ unit && unit < 0xE000

/-- The characters that pieces stand for; two halves make one character. -/
def decodePieces? : List Piece → Option (List Char)
  | [] => some []
  | .char char :: rest => (decodePieces? rest).map (char :: ·)
  | .unit high :: rest =>
      if isHigh high then
        match rest with
        | .unit low :: rest =>
            if isLow low then
              (decodePieces? rest).map
                (Char.ofNat (0x10000 + (high - 0xD800) * 1024 + (low - 0xDC00)) :: ·)
            else
              none
        | _ => none
      else if isLow high then
        none
      else
        (decodePieces? rest).map (Char.ofNat high :: ·)

/-- A quoted text after its opening quote, and what follows it. -/
def readString? (chars : List Char) : Option (Option String × List Char) := do
  let (pieces, rest) ← readPieces? chars
  some ((decodePieces? pieces).map String.ofList, rest)

/-- The value of a run of decimal digits. -/
def digitsValue (digits : List Char) : Nat :=
  digits.foldl (fun value digit => 10 * value + (digit.toNat - 48)) 0

/-- The digits after a point, if there is one; a point needs at least one. -/
def readFraction? : List Char → Option (List Char × List Char)
  | '.' :: rest =>
      match rest.takeWhile Char.isDigit with
      | [] => none
      | digits => some (digits, rest.dropWhile Char.isDigit)
  | chars => some ([], chars)

/-- The sign before the digits of a power. -/
def readSign : List Char → Bool × List Char
  | '-' :: rest => (true, rest)
  | '+' :: rest => (false, rest)
  | chars => (false, chars)

/-- The power after an exponent mark, if there is one; a mark needs at least one digit. -/
def readPower? (chars : List Char) : Option (Option Int × List Char) :=
  match chars with
  | [] => some (none, [])
  | mark :: rest =>
      if mark = 'e' ∨ mark = 'E' then
        let (negative, rest) := readSign rest
        match rest.takeWhile Char.isDigit with
        | [] => none
        | digits =>
            let power : Int := digitsValue digits
            some (some (if negative then -power else power), rest.dropWhile Char.isDigit)
      else
        some (none, chars)

/-- The digits before the point; only zero itself may start with a zero. -/
def readWhole? : List Char → Option (List Char × List Char)
  | '0' :: rest =>
      match rest with
      | next :: _ => if next.isDigit then none else some (['0'], rest)
      | [] => some (['0'], [])
  | chars =>
      match chars.takeWhile Char.isDigit with
      | [] => none
      | digits => some (digits, chars.dropWhile Char.isDigit)

/-- A number, and what follows it. -/
def readNumber? (chars : List Char) : Option (Literal × List Char) := do
  let (negative, chars) :=
    match chars with
    | '-' :: rest => (true, rest)
    | chars => (false, chars)
  let (whole, chars) ← readWhole? chars
  let (fraction, chars) ← readFraction? chars
  let (power, chars) ← readPower? chars
  some ({ negative := negative, whole := whole, fraction := fraction, power := power }, chars)

mutual

/-- A document at the start of the characters, and what follows it. -/
def readValue? (fuel : Nat) (chars : List Char) : Option (Syntax × List Char) :=
  match fuel with
  | 0 => none
  | fuel + 1 =>
      match skip chars with
      | 'n' :: 'u' :: 'l' :: 'l' :: rest => some (.null, rest)
      | 't' :: 'r' :: 'u' :: 'e' :: rest => some (.bool true, rest)
      | 'f' :: 'a' :: 'l' :: 's' :: 'e' :: rest => some (.bool false, rest)
      | '"' :: rest => do
          let (text, rest) ← readString? rest
          some (.string text, rest)
      | '[' :: rest =>
          match skip rest with
          | ']' :: rest => some (.array [], rest)
          | rest => do
              let (items, rest) ← readItems? fuel rest
              some (.array items, rest)
      | '{' :: rest =>
          match skip rest with
          | '}' :: rest => some (.object [], rest)
          | rest => do
              let (members, rest) ← readMembers? fuel rest
              some (.object members, rest)
      | rest => do
          let (literal, rest) ← readNumber? rest
          some (.number literal, rest)

/-- The items of an array up to its closing bracket, and what follows it. -/
def readItems? (fuel : Nat) (chars : List Char) : Option (List Syntax × List Char) :=
  match fuel with
  | 0 => none
  | fuel + 1 => do
      let (item, rest) ← readValue? fuel chars
      match skip rest with
      | ']' :: rest => some ([item], rest)
      | ',' :: rest => do
          let (items, rest) ← readItems? fuel rest
          some (item :: items, rest)
      | _ => none

/-- The members of an object up to its closing brace, and what follows it. -/
def readMembers? (fuel : Nat) (chars : List Char) :
    Option (List (Option String × Syntax) × List Char) :=
  match fuel with
  | 0 => none
  | fuel + 1 =>
      match skip chars with
      | '"' :: rest => do
          let (name, rest) ← readString? rest
          match skip rest with
          | ':' :: rest => do
              let (value, rest) ← readValue? fuel rest
              match skip rest with
              | '}' :: rest => some ([(name, value)], rest)
              | ',' :: rest => do
                  let (members, rest) ← readMembers? fuel rest
                  some ((name, value) :: members, rest)
              | _ => none
          | _ => none
      | _ => none

end

/-- The document that a text is, from its first to its last character. -/
def read? (text : String) : Option Syntax := do
  let chars := text.toList
  let (document, rest) ← readValue? (chars.length + 1) chars
  if skip rest = [] then some document else none

end Syntax

/-- The largest integer that is read as one. -/
def largestInteger : Nat := 0xFFFFFFFFFFFFFFFF

/-- Digits taken into a significand while it stays in range, and how many were left over. -/
def takeDigits (significand : Nat) : List Char → Nat × Nat
  | [] => (significand, 0)
  | digit :: rest =>
      let longer := 10 * significand + (digit.toNat - 48)
      if largestInteger < longer then
        (significand, rest.length + 1)
      else
        takeDigits longer rest

/--
The floating point number of a literal, or nothing when it is too large.

The leading digits that fit an integer of 64 bits are rounded to a floating point number first,
which is then multiplied or divided by a power of ten; digits that do not fit count as zeros.
-/
def Literal.float? (literal : Literal) : Option UInt64 := do
  let (whole, skipped) := takeDigits 0 literal.whole
  let (significand, ignored) := takeDigits whole literal.fraction
  let taken := literal.fraction.length - ignored
  let power : Int := skipped - taken + literal.power.getD 0
  let start ← Decimal.ofInt? significand
  let bits ← Decimal.scaleByTen? start power
  some (if literal.negative then Decimal.negate bits else bits)

/--
The number of a literal, or nothing when it is too large.

Without a point and a power it is an integer where 64 bits hold it, signed below zero and
unsigned above; minus zero is a floating point number.
-/
def Literal.toNumber? (literal : Literal) : Option Number :=
  let value := Syntax.digitsValue literal.whole
  if literal.fraction = [] ∧ literal.power = none then
    if literal.negative then
      if 0 < value ∧ value ≤ 0x8000000000000000 then
        some (.integer (-(value : Int)))
      else
        literal.float?.map .float
    else if value ≤ largestInteger then
      some (.integer value)
    else
      literal.float?.map .float
  else
    literal.float?.map .float

/-- The least depth of arrays and objects in each other that is refused. -/
def depthLimit : Nat := 128

mutual

/-- The document that was written, unless it is `depth` deep or more. -/
def Syntax.toValue? (depth : Nat) : Syntax → Option Value
  | .null => some .null
  | .bool value => some (.bool value)
  | .number literal => literal.toNumber?.map .number
  | .string text => text.map .string
  | .array items =>
      match depth with
      | 0 | 1 => none
      | depth + 1 => (itemValues? depth items).map .array
  | .object members =>
      match depth with
      | 0 | 1 => none
      | depth + 1 => (memberValues? depth members).map Value.ofMembers

/-- The documents of items as written. -/
def itemValues? (depth : Nat) : List Syntax → Option (List Value)
  | [] => some []
  | item :: items => do
      let value ← item.toValue? depth
      let values ← itemValues? depth items
      some (value :: values)

/-- The members as written, in their order and with repetitions. -/
def memberValues? (depth : Nat) :
    List (Option String × Syntax) → Option (List (String × Value))
  | [] => some []
  | (name, member) :: members => do
      let name ← name
      let value ← member.toValue? depth
      let values ← memberValues? depth members
      some ((name, value) :: values)

end

/-- The document that a text stands for. -/
def Value.parse? (text : String) : Option Value := do
  let document ← Syntax.read? text
  document.toValue? depthLimit

end Switchboard.Json
