import Switchboard.Files.Tree
import Switchboard.Glob.Pattern

namespace Switchboard.Glob

/-!
# Expanding a pattern to files

A pattern without wildcards names one file, which need not be there.  Otherwise the directory at
the stem is searched, no deeper than the pattern can reach, and the files that fit are listed in
the order of their components.
-/

/-- The path of the stem: from the top for an absolute pattern, else from the base. -/
def Pattern.root (pattern : Pattern) (base : Path) : Path :=
  (if pattern.absolute then { absolute := true, segments := [] } else base).joinAll pattern.stem

/-- Whether names are few enough for a bound. -/
def withinBound (bound : Option Nat) (names : List String) : Bool :=
  match bound with
  | none => true
  | some limit => names.length ≤ limit

/-- The names below the stem that fit, in component order. -/
def Pattern.search (pattern : Pattern) (tree : FileTree) (place : Place) : List (List String) :=
  let bound := depthBound pattern.steps
  let found := (tree.filesBelow place).filter fun names =>
    withinBound bound names && fitsPath pattern.steps names
  found.mergeSort fun left right => (compare left right).isLE

/-- The files a pattern stands for. -/
def Pattern.expand (pattern : Pattern) (tree : FileTree) (base : Path) : List Path :=
  let root := pattern.root base
  if pattern.steps.isEmpty then
    if tree.isFile root then [root] else []
  else
    match tree.directory? root with
    | none => []
    | some place => (pattern.search tree place).map root.joinAll

/-- The files a pattern's text stands for; nothing if it is blank. -/
def expand? (tree : FileTree) (base : Path) (text : String) : Option (List Path) :=
  (Pattern.parse? text).map fun pattern => pattern.expand tree base

end Switchboard.Glob
