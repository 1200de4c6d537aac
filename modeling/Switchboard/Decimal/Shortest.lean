import Switchboard.Decimal.Binary64

namespace Switchboard.Decimal

/-!
# The fewest digits that read back

Among the decimals that are nearer to a number than to its neighbours, the one with the fewest
digits is written, of several the nearest to the number, of two equally near the even one.  How
the digits are laid out is a matter of a `Layout`.
-/

/-- The value `digits · 10 ^ exponent`. -/
structure Figure where
  digits : Nat
  exponent : Int
  deriving Repr, DecidableEq

/-- Where the decimals that round to a number begin and end, and whether the ends belong. -/
structure Interval where
  low : Ratio
  high : Ratio
  closed : Bool
  deriving Repr, DecidableEq

/-- The interval of decimals that round to a positive number. -/
def Dyadic.interval (number : Dyadic) : Interval :=
  let quarter := number.exponent - 2
  let below :=
    if number.mantissa = exponentUnit ∧ -1074 < number.exponent then 1 else 2
  { low := Ratio.scale { numerator := 4 * number.mantissa - below, denominator := 1 } 2 quarter
    high := Ratio.scale { numerator := 4 * number.mantissa + 2, denominator := 1 } 2 quarter
    closed := number.mantissa % 2 = 0 }

/-- Whether a ratio is at most another. -/
def Ratio.le (left right : Ratio) : Bool :=
  left.numerator * right.denominator ≤ right.numerator * left.denominator

/-- Whether a ratio lies in an interval. -/
def Interval.holds (interval : Interval) (ratio : Ratio) : Bool :=
  if interval.closed then
    interval.low.le ratio && ratio.le interval.high
  else
    !ratio.le interval.low && !interval.high.le ratio

/-- A figure as a ratio. -/
def Figure.toRatio (figure : Figure) : Ratio :=
  Ratio.scale { numerator := figure.digits, denominator := 1 } 10 figure.exponent

/-- The least power of ten that lifts a ratio to one or more, looked for up to `fuel`. -/
def leadingZeros : Nat → Ratio → Nat
  | 0, _ => 0
  | fuel + 1, ratio =>
      if ratio.denominator ≤ ratio.numerator then
        0
      else
        leadingZeros fuel { ratio with numerator := 10 * ratio.numerator } + 1

/-- How many decimal digits a natural number has. -/
def digitCount (value : Nat) : Nat :=
  (Nat.toDigits 10 value).length

/-- The exponent of the leading decimal digit of a positive ratio. -/
def Ratio.leading (ratio : Ratio) : Int :=
  if ratio.denominator ≤ ratio.numerator then
    (digitCount (ratio.numerator / ratio.denominator) : Int) - 1
  else
    -(leadingZeros 400 ratio : Int)

/-- Of the two figures beside a number on the grid of an exponent, the one to write, if any. -/
def onGrid? (number : Ratio) (interval : Interval) (exponent : Int) : Option Figure :=
  let scaled := number.scale 10 (-exponent)
  let floor := scaled.numerator / scaled.denominator
  let remainder := scaled.numerator % scaled.denominator
  let below : Figure := { digits := floor, exponent := exponent }
  let above : Figure := { digits := floor + 1, exponent := exponent }
  match interval.holds below.toRatio, interval.holds above.toRatio with
  | false, false => none
  | true, false => some below
  | false, true => some above
  | true, true =>
      if 2 * remainder < scaled.denominator ∨
          (2 * remainder = scaled.denominator ∧ floor % 2 = 0) then
        some below
      else
        some above

/-- The first grid, from coarse to fine, that has a figure to write. -/
def firstFigure (number : Ratio) (interval : Interval) : Nat → Int → Figure
  | 0, exponent => { digits := number.round, exponent := exponent }
  | grids + 1, exponent =>
      match onGrid? number interval exponent with
      | some figure => figure
      | none => firstFigure number interval grids (exponent - 1)

/-- A figure without zeros at its end. -/
def Figure.stripZeros : Nat → Figure → Figure
  | 0, figure => figure
  | fuel + 1, figure =>
      if figure.digits % 10 = 0 ∧ figure.digits ≠ 0 then
        stripZeros fuel { digits := figure.digits / 10, exponent := figure.exponent + 1 }
      else
        figure

/-- The fewest digits that stand for a positive finite number and for no other. -/
def shortest (bits : UInt64) : Figure :=
  let number := Dyadic.ofBits bits
  let ratio := number.toRatio
  (firstFigure ratio number.interval 17 ratio.leading).stripZeros 20

/-- How a figure is laid out as text. -/
structure Layout where
  /-- The least exponent of the leading digit that is written without an exponent. -/
  leastPositional : Int
  /-- The largest exponent of the leading digit that is written without an exponent. -/
  largestPositional : Int
  /-- What an exponent starts with when it is not negative. -/
  exponentMark : String
  /-- What an exponent starts with when it is negative; its absolute value follows. -/
  negativeMark : String
  deriving Repr, DecidableEq

/-- Digits with a point after the first `before` of them. -/
def pointed (digits : List Char) (before : Nat) : List Char :=
  match digits.drop before with
  | [] => digits ++ List.replicate (before - digits.length) '0' ++ ['.', '0']
  | rest => digits.take before ++ '.' :: rest

/-- The text of a positive figure. -/
def Layout.write (layout : Layout) (figure : Figure) : List Char :=
  let digits := Nat.toDigits 10 figure.digits
  let leading := figure.exponent + digits.length - 1
  if leading < layout.leastPositional ∨ layout.largestPositional < leading then
    let mark := if leading < 0 then layout.negativeMark else layout.exponentMark
    let mantissa :=
      match digits with
      | [digit] => [digit]
      | digits => pointed digits 1
    mantissa ++ mark.toList ++ Nat.toDigits 10 leading.natAbs
  else if leading < 0 then
    '0' :: '.' :: List.replicate (-leading - 1).toNat '0' ++ digits
  else
    pointed digits (leading + 1).toNat

end Switchboard.Decimal
