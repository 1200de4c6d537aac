import Switchboard.Files.Path
import Switchboard.Glob.Scan
import Switchboard.Glob.Sign

namespace Switchboard.Glob

/-!
# Patterns for paths

A pattern is cut at the separators.  A segment `**` stands for any number of names, also none;
every other segment is a pattern for one name.  The segments before the first one with a wildcard
are a path of their own, the stem, and need no searching.
-/

/-- One segment of a pattern. -/
inductive Step where
  | anyDepth
  | name (pattern : String)
  deriving Repr, DecidableEq

/-- The step that a segment is. -/
def Step.ofSegment (segment : String) : Step :=
  if segment = "**" then .anyDepth else .name segment

/-- A pattern, taken apart. -/
structure Pattern where
  absolute : Bool
  stem : List String
  steps : List Step
  deriving Repr, DecidableEq

/-- The segments of a pattern, without idle ones. -/
def segments (pattern : String) : List String :=
  (Text.cut Path.separator pattern).filter fun segment => !Path.isIdle segment

/-- Take a pattern apart; blanks around it do not count, and a blank pattern is none. -/
def Pattern.parse? (text : String) : Option Pattern :=
  let trimmed := Text.trim text
  if trimmed = "" then
    none
  else
    let parts := segments trimmed
    some
      { absolute := trimmed.toList.head? = some Path.separator
        stem := parts.takeWhile fun segment => !hasWildcard segment
        steps := (parts.dropWhile fun segment => !hasWildcard segment).map Step.ofSegment }

/-- What a step stands for in a list of names. -/
def Step.sign : Step → Sign String
  | .anyDepth => .run
  | .name pattern => .one (fits pattern)

/-- Whether names fit the steps of a pattern. -/
def fitsPath (steps : List Step) (names : List String) : Bool :=
  fitsSigns (steps.map Step.sign) names

/-- How many names below the stem can fit; no bound if a step takes any number. -/
def depthBound (steps : List Step) : Option Nat :=
  if .anyDepth ∈ steps then none else some steps.length

end Switchboard.Glob
