import Switchboard.Text.Unprintable

namespace Switchboard.Text

/-!
# Texts shown in quotes

In messages and descriptions a text is shown in double quotes.  The quote, the backslash and the
usual control characters have short escapes, other characters without a picture are spelled out
by their number in braces.
-/

/-- A character by its number. -/
def spellOut (code : Nat) : List Char :=
  ['\\', 'u', '\x7b'] ++ Nat.toDigits 16 code ++ ['\x7d']

/-- How a character stands in a shown text. -/
def showChar (char : Char) : List Char :=
  if char = '"' then ['\\', '"']
  else if char = '\\' then ['\\', '\\']
  else if char = '\n' then ['\\', 'n']
  else if char = '\r' then ['\\', 'r']
  else if char = '\t' then ['\\', 't']
  else if char.toNat = 0 then ['\\', '0']
  else if isUnprintable char then spellOut char.toNat
  else [char]

/-- A text in quotes, as messages show it. -/
def shown (text : String) : String :=
  String.ofList ('"' :: (text.toList.flatMap showChar ++ ['"']))

/-- A list of shown things in brackets. -/
def shownList (items : List String) : String :=
  "[" ++ String.intercalate ", " items ++ "]"

/-- An optional shown thing. -/
def shownOption : Option String → String
  | none => "None"
  | some item => "Some(" ++ item ++ ")"

/-- A truth value in words. -/
def shownBool (value : Bool) : String :=
  if value then "true" else "false"

end Switchboard.Text
