namespace Switchboard

/-!
# Lifetimes

A lifetime of zero means that an entry never expires, just as none at all does.  Clocks count their
seconds with signed numbers of 64 bits, so there is a last instant, and a lifetime may go beyond it.
-/

/-- A point in time, counted in nanoseconds. -/
abbrev Instant := Nat

/-- How many nanoseconds a second has. -/
def nanosPerSecond : Nat := 1000000000

/-- How many nanoseconds a millisecond has. -/
def nanosPerMilli : Nat := 1000000

/-- The last instant that a clock can tell. -/
def lastInstant : Instant := 9223372036854775808 * nanosPerSecond - 1

/-- How long a cache entry stays, in whole seconds or as a duration. -/
inductive Ttl where
  | seconds (count : Nat)
  | duration (nanos : Nat)
  deriving Repr, DecidableEq

namespace Ttl

/-- The length in nanoseconds. -/
def nanos : Ttl → Nat
  | .seconds count => count * nanosPerSecond
  | .duration nanos => nanos

/-- The effective lifetime in nanoseconds; nothing if it is unlimited. -/
def lifetime? (ttl : Ttl) : Option Nat :=
  if ttl.nanos = 0 then none else some ttl.nanos

/-- The digits after the point of a fraction with `places` places, without zeros at the end. -/
def fractionDigits (places value : Nat) : String :=
  let digits := Nat.toDigits 10 value
  let padded := List.replicate (places - digits.length) '0' ++ digits
  let kept := (padded.reverse.dropWhile (· = '0')).reverse
  if value = 0 then "" else "." ++ String.ofList kept

/-- A duration in the largest unit it has at least one of. -/
def showDuration (nanos : Nat) : String :=
  if nanosPerSecond ≤ nanos then
    toString (nanos / nanosPerSecond) ++ fractionDigits 9 (nanos % nanosPerSecond) ++ "s"
  else if nanosPerMilli ≤ nanos then
    toString (nanos / nanosPerMilli) ++ fractionDigits 6 (nanos % nanosPerMilli) ++ "ms"
  else if 1000 ≤ nanos then
    toString (nanos / 1000) ++ fractionDigits 3 (nanos % 1000) ++ "µs"
  else
    toString nanos ++ "ns"

/-- A lifetime as descriptions show it. -/
def described : Ttl → String
  | .seconds count => "Seconds(" ++ toString count ++ ")"
  | .duration nanos => "Duration(" ++ showDuration nanos ++ ")"

end Ttl

end Switchboard
