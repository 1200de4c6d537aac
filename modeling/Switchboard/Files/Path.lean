import Switchboard.Text.Blank

namespace Switchboard

/-!
# Paths as they are spelled

A path keeps its spelling: doubled separators, single dots and `..` stay until somebody asks for
the components.  Components are what comparisons look at: doubled separators and single dots are
gone, `..` remains, and an absolute path starts with the separator itself.  Only a single dot that
a relative path begins with is a component, so `./m` and `m` are told apart, and the parent of the
one is `.`, but that of the other is the empty path.
-/

/-- A path by what stands between its separators. -/
structure Path where
  absolute : Bool
  segments : List String
  deriving Repr, DecidableEq, Inhabited

namespace Path

/-- The separator. -/
def separator : Char := '/'

/-- Read a path from its text. -/
def ofText (text : String) : Path :=
  match text.toList with
  | [] => { absolute := false, segments := [] }
  | '/' :: [] => { absolute := true, segments := [] }
  | '/' :: rest => { absolute := true, segments := Text.cut separator (String.ofList rest) }
  | _ => { absolute := false, segments := Text.cut separator text }

/-- The text of a path. -/
def text (path : Path) : String :=
  (if path.absolute then "/" else "") ++ String.intercalate "/" path.segments

/-- Whether a segment says nothing about where a path leads. -/
def isIdle (segment : String) : Bool :=
  segment = "" || segment = "."

/-- Whether the text of a path is empty. -/
def isEmpty (path : Path) : Bool :=
  !path.absolute && path.segments.isEmpty

/-- The component in front of all names: the separator from which an absolute path starts, or the
single dot that a relative one begins with. -/
def front (path : Path) : List String :=
  if path.absolute then ["/"]
  else if path.segments.head? = some "." then ["."]
  else []

/-- The parts of a path that comparisons look at. -/
def components (path : Path) : List String :=
  path.front ++ path.segments.filter fun segment => !isIdle segment

/-- Put a name behind a path. -/
def join (path : Path) (name : String) : Path :=
  match path.segments.getLast? with
  | some "" => { path with segments := path.segments.dropLast ++ [name] }
  | _ => { path with segments := path.segments ++ [name] }

/-- Put several names behind a path, one after another. -/
def joinAll (path : Path) (names : List String) : Path :=
  names.foldl join path

/-- Segments without idle ones at their end. -/
def dropIdleEnd : List String → List String
  | [] => []
  | segment :: rest =>
      match dropIdleEnd rest with
      | [] => if isIdle segment then [] else [segment]
      | kept => segment :: kept

/-- The segments up to the last component, unless that is the separator. -/
def kept (path : Path) : List String :=
  match dropIdleEnd path.segments with
  | [] => if path.absolute then [] else path.front
  | segments => segments

/-- The path that ends with its last component. -/
def trimmed (path : Path) : Path :=
  { path with segments := path.kept }

/-- The path without its last component; there is none above the top and the empty path. -/
def parent? (path : Path) : Option Path :=
  match path.kept with
  | [] => none
  | segments => some (trimmed { path with segments := segments.dropLast })

/-- What follows a list in another one that starts with it. -/
def dropComponents? : List String → List String → Option (List String)
  | [], rest => some rest
  | _ :: _, [] => none
  | first :: lead, other :: rest =>
      if first = other then dropComponents? lead rest else none

/-- The components of a path after those of `base`, when it starts with them. -/
def relativeTo? (path base : Path) : Option (List String) :=
  dropComponents? base.components path.components

end Path

end Switchboard
