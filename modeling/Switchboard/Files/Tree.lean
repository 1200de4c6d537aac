import Switchboard.Files.Path

namespace Switchboard

/-!
# File trees

A file tree maps places to files and directories; a place is the list of names from the top.
There are no links, so every place has one spelling, but a path may reach it in many: `..` leads
up, and idle segments stay where they are.  `FileTree.resolve` follows a spelled path the way a
file system does, asking of every place it passes through that it is a directory.  The empty path
leads nowhere, although names that are put behind it lead on from the current directory.
-/

/-- What is at a place. -/
inductive Node where
  | file (content : ByteArray)
  | directory

/-- The names that lead to a node from the top. -/
abbrev Place := List String

/-- Files and directories by their places; the top is always a directory. -/
structure FileTree where
  nodes : List (Place × Node)
  /-- The current directory, from which relative paths start. -/
  current : Place := []

/-- Why a file could not be read. -/
inductive ReadFailure where
  | notFound
  | notADirectory
  | isADirectory
  | invalidData
  deriving Repr, DecidableEq

namespace FileTree

/-- The tree with nothing but its top. -/
def empty : FileTree := { nodes := [] }

/-- What is at a place. -/
def node? (tree : FileTree) (place : Place) : Option Node :=
  match place with
  | [] => some .directory
  | _ => tree.nodes.lookup place

/-- Put a node at a place, in the stead of what was there. -/
def put (tree : FileTree) (place : Place) (node : Node) : FileTree :=
  { tree with nodes := tree.nodes.filter (fun entry => entry.1 ≠ place) ++ [(place, node)] }

/-- Make every place from the top down to `place` a directory where nothing is yet. -/
def makeDirectories (tree : FileTree) (place : Place) : FileTree :=
  (List.range (place.length + 1)).foldl
    (fun tree depth =>
      match tree.node? (place.take depth) with
      | some _ => tree
      | none => tree.put (place.take depth) .directory)
    tree

/-- Write a file, with the directories above it. -/
def write (tree : FileTree) (place : Place) (content : ByteArray) : FileTree :=
  (tree.makeDirectories place.dropLast).put place (.file content)

/-- Remove a file, and say whether there was one. -/
def remove (tree : FileTree) (place : Place) : Bool × FileTree :=
  match tree.node? place with
  | some (.file _) =>
      (true, { tree with nodes := tree.nodes.filter fun entry => entry.1 ≠ place })
  | _ => (false, tree)

/-- Follow segments from a place. -/
def follow (tree : FileTree) (place : Place) : List String → Except ReadFailure Place
  | [] => .ok place
  | segment :: rest =>
      match tree.node? place with
      | none => .error .notFound
      | some (.file _) => .error .notADirectory
      | some .directory =>
          if Path.isIdle segment then
            tree.follow place rest
          else if segment = ".." then
            tree.follow place.dropLast rest
          else if (tree.node? (place ++ [segment])).isSome then
            tree.follow (place ++ [segment]) rest
          else
            .error .notFound

/-- The place that a path starts from. -/
def origin (tree : FileTree) (path : Path) : Place :=
  if path.absolute then [] else tree.current

/-- The place from which names lead on that are put behind a path. -/
def behind (tree : FileTree) (path : Path) : Except ReadFailure Place :=
  tree.follow (tree.origin path) path.segments

/-- The place a path leads to; there is none for the empty path. -/
def resolve (tree : FileTree) (path : Path) : Except ReadFailure Place :=
  if path.isEmpty then .error .notFound else tree.behind path

/-- The bytes of the file a path leads to. -/
def read (tree : FileTree) (path : Path) : Except ReadFailure ByteArray := do
  let place ← tree.resolve path
  match tree.node? place with
  | some (.file content) => .ok content
  | some .directory => .error .isADirectory
  | none => .error .notFound

/-- The text of the file a path leads to. -/
def readText (tree : FileTree) (path : Path) : Except ReadFailure String := do
  let content ← tree.read path
  match String.fromUTF8? content with
  | some text => .ok text
  | none => .error .invalidData

/-- Whether a path leads to a file. -/
def isFile (tree : FileTree) (path : Path) : Bool :=
  match tree.read path with
  | .ok _ => true
  | .error _ => false

/-- The place of the directory a path leads to. -/
def directory? (tree : FileTree) (path : Path) : Option Place :=
  match tree.resolve path with
  | .error _ => none
  | .ok place =>
      match tree.node? place with
      | some .directory => some place
      | _ => none

/-- The places of all files. -/
def files (tree : FileTree) : List Place :=
  tree.nodes.filterMap fun entry =>
    match entry.2 with
    | .file _ => some entry.1
    | .directory => none

/-- The files below a directory, by the names that lead to them from there. -/
def filesBelow (tree : FileTree) (place : Place) : List (List String) :=
  tree.files.filterMap (Path.dropComponents? place)

end FileTree

end Switchboard
