namespace Switchboard.Decimal

/-!
# Binary floating point numbers by their bits

A finite number of 64 bits stands for `± mantissa · 2 ^ exponent`.  Everything here is exact
arithmetic on natural numbers: a number is taken apart into mantissa and exponent, and a quotient
of natural numbers is rounded to the nearest number that has bits, a tie going to the even
mantissa.
-/

/-- The value `mantissa · 2 ^ exponent`. -/
structure Dyadic where
  mantissa : Nat
  exponent : Int
  deriving Repr, DecidableEq

/-- The bits in which only the sign is set. -/
def signUnit : Nat := 0x8000000000000000

/-- What the exponent counts in the bits; everything below is the fraction. -/
def exponentUnit : Nat := 0x10000000000000

/-- Whether the sign bit is set. -/
def isNegative (bits : UInt64) : Bool :=
  signUnit ≤ bits.toNat

/-- The bits without the sign. -/
def magnitude (bits : UInt64) : UInt64 :=
  UInt64.ofNat (bits.toNat % signUnit)

/-- The bits with the sign turned round. -/
def negate (bits : UInt64) : UInt64 :=
  UInt64.ofNat ((bits.toNat + signUnit) % (2 * signUnit))

/-- The absolute value that finite bits stand for. -/
def Dyadic.ofBits (bits : UInt64) : Dyadic :=
  let fraction : Nat := bits.toNat % exponentUnit
  let biased : Nat := bits.toNat / exponentUnit % 0x800
  if biased = 0 then
    { mantissa := fraction, exponent := -1074 }
  else
    { mantissa := exponentUnit + fraction, exponent := (biased : Int) - 1075 }

/-- A quotient of natural numbers. -/
structure Ratio where
  numerator : Nat
  denominator : Nat
  deriving Repr, DecidableEq

/-- A ratio times a power of a base; a negative power divides. -/
def Ratio.scale (ratio : Ratio) (base : Nat) (power : Int) : Ratio :=
  if 0 ≤ power then
    { ratio with numerator := ratio.numerator * base.pow power.toNat }
  else
    { ratio with denominator := ratio.denominator * base.pow (-power).toNat }

/-- The absolute value of a number as a ratio. -/
def Dyadic.toRatio (number : Dyadic) : Ratio :=
  Ratio.scale { numerator := number.mantissa, denominator := 1 } 2 number.exponent

/-- The integer nearest to a ratio, a tie going to the even one. -/
def Ratio.round (ratio : Ratio) : Nat :=
  let quotient := ratio.numerator / ratio.denominator
  let remainder := ratio.numerator % ratio.denominator
  if ratio.denominator < 2 * remainder ∨
      (2 * remainder = ratio.denominator ∧ quotient % 2 = 1) then
    quotient + 1
  else
    quotient

/-- The bits of infinity; smaller bits are finite. -/
def infinityBits : Nat := 0x7FF0000000000000

/--
The bits of the finite number nearest to a ratio, or nothing when that number is too large.

The exponent is chosen so that the mantissa has 53 binary digits, unless the number is so small
that the least exponent leaves fewer.
-/
def nearest? (ratio : Ratio) : Option UInt64 :=
  if ratio.numerator = 0 then
    some 0
  else
    let guess : Int := (ratio.numerator.log2 : Int) - ratio.denominator.log2 - 53
    let least : Int := max guess (-1074)
    let scaled := ratio.scale 2 (-least)
    let exponent := if 2 * exponentUnit ≤ scaled.numerator / scaled.denominator then least + 1 else least
    let mantissa := (ratio.scale 2 (-exponent)).round
    let bits := (exponent + 1074).toNat * exponentUnit + mantissa
    if bits < infinityBits then some (UInt64.ofNat bits) else none

/-- The bits of the finite number nearest to a power of ten. -/
def powerOfTen? (power : Nat) : Option UInt64 :=
  nearest? { numerator := Nat.pow 10 power, denominator := 1 }

/-- The product of two magnitudes, rounded to the nearest number. -/
def times? (left right : UInt64) : Option UInt64 :=
  let first := (Dyadic.ofBits left).toRatio
  let second := (Dyadic.ofBits right).toRatio
  nearest?
    { numerator := first.numerator * second.numerator
      denominator := first.denominator * second.denominator }

/-- The quotient of two magnitudes, rounded to the nearest number. -/
def divide? (left right : UInt64) : Option UInt64 :=
  let first := (Dyadic.ofBits left).toRatio
  let second := (Dyadic.ofBits right).toRatio
  nearest?
    { numerator := first.numerator * second.denominator
      denominator := first.denominator * second.numerator }

/-- The largest power of ten below infinity. -/
def largestPower : Nat := 308

/--
A magnitude times a power of ten, by one rounded product or quotient.

A power below the least representable one is taken off in steps of `largestPower`; a power above
the largest one makes any number but zero too large.
-/
def scaleByTen? (bits : UInt64) (power : Int) : Option UInt64 :=
  if bits = 0 then
    some 0
  else if power < -(largestPower : Int) then do
    let step ← powerOfTen? largestPower
    let smaller ← divide? bits step
    scaleByTen? smaller (power + largestPower)
  else if power < 0 then do
    let step ← powerOfTen? (-power).toNat
    divide? bits step
  else if power ≤ largestPower then do
    let step ← powerOfTen? power.toNat
    times? bits step
  else
    none
termination_by (-power).toNat
decreasing_by
  simp only [largestPower] at *
  omega

/-- The bits of the number nearest to an integer. -/
def ofInt? (value : Int) : Option UInt64 :=
  (nearest? { numerator := value.natAbs, denominator := 1 }).map fun bits =>
    if value < 0 then negate bits else bits

end Switchboard.Decimal
