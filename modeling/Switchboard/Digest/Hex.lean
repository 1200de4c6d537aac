namespace Switchboard.Digest

/-!
# Hexadecimal bytes

Two lower-case digits a byte, the high half first; reading accepts capitals as well.
-/

/-- The lower-case digit of a number below sixteen. -/
def hexDigit (value : Nat) : Char :=
  if value < 10 then Char.ofNat (48 + value) else Char.ofNat (87 + value)

/-- The number a hexadecimal digit stands for. -/
def hexValue? (char : Char) : Option Nat :=
  if '0' ≤ char ∧ char ≤ '9' then
    some (char.toNat - 48)
  else if 'a' ≤ char ∧ char ≤ 'f' then
    some (char.toNat - 87)
  else if 'A' ≤ char ∧ char ≤ 'F' then
    some (char.toNat - 55)
  else
    none

/-- Bytes as hexadecimal text. -/
def hex (bytes : List UInt8) : String :=
  String.ofList <|
    bytes.flatMap fun byte => [hexDigit (byte.toNat / 16), hexDigit (byte.toNat % 16)]

/-- The bytes that hexadecimal characters stand for. -/
def unhexChars? : List Char → Option (List UInt8)
  | [] => some []
  | [_] => none
  | high :: low :: rest => do
      let high ← hexValue? high
      let low ← hexValue? low
      let bytes ← unhexChars? rest
      some (UInt8.ofNat (16 * high + low) :: bytes)

/-- The bytes that hexadecimal text stands for. -/
def unhex? (text : String) : Option (List UInt8) :=
  unhexChars? text.toList

end Switchboard.Digest
