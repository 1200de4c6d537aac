import Switchboard.Attempt
import Switchboard.Cache.Store
import Switchboard.Glob.Expansion
import Switchboard.Json.Syntax
import Switchboard.Manifest.Entry
import Switchboard.Manifest.Filter
import Switchboard.Service.Key

namespace Switchboard.Manifest

/-!
# Reading manifests

A manifest is a document with lists of entries by section.  `Reader.entries` goes through a
section depth first: a pattern is replaced, in place, by the entries of the files it matches, in
their order.  Every file is read at most once in one call, however many patterns and spellings
lead to it, so patterns may lead back to where they came from.
-/

/-- What a reader reads from, and which files it lets through. -/
structure Reader where
  tree : FileTree
  digest : Key.Digest
  /-- The text of a path as it is shown.  Names of files are bytes, and what is no text in them is
  replaced, so that paths to different files may be shown alike. -/
  shown : Path → String := Path.text
  /-- The time at which cached documents are asked for. -/
  now : Instant
  /-- How long documents stay in the cache. -/
  ttl : Option Ttl
  modules : ModuleFilter

namespace Reader

variable {χ α : Type} [CacheStore χ Json.Value]

/-- Read the document in a file. -/
def readFile (reader : Reader) (path : Path) : Except ManifestError Json.Value :=
  match reader.tree.readText path with
  | .error failure => .error (.io path failure)
  | .ok text =>
      match Json.Value.parse? text with
      | some document => .ok document
      | none => .error (.parse path)

/-- The key under which the document at a path is cached. -/
def keyOf (reader : Reader) (path : Path) : String :=
  Key.manifest reader.digest (reader.shown path)

/-- Put a document into a cache. -/
def store (reader : Reader) (key : String) (document : Json.Value) :
    Attempt χ ManifestError Unit := do
  if ← Attempt.reading fun cache => CacheStore.stops cache reader.now reader.ttl then
    .stopped
  else
    .changing fun cache => ((), (CacheStore.set cache reader.now key document reader.ttl).2)

/-- Read a document through a cache, which knows it by the spelling of its path. -/
def read (reader : Reader) (path : Path) : Attempt χ ManifestError Json.Value := do
  let key := reader.keyOf path
  match ← Attempt.changing fun cache => CacheStore.get cache reader.now key with
  | some document => pure document
  | none => do
      let document ← .ofExcept (reader.readFile path)
      reader.store key document
      pure document

/-- What tells a file from others: its place, or its spelling when there is no such file. -/
def identity (reader : Reader) (path : Path) : List String :=
  match reader.tree.resolve path with
  | .ok place => "/" :: place
  | .error _ => path.components

/-- The entries of a section as written; a missing section has none. -/
def sectionItems (path : Path) (heading : String) (document : Json.Value) :
    Except ManifestError (List Json.Value) :=
  match document.member? heading with
  | none | some .null => .ok []
  | some (.array items) => .ok items
  | some _ => .error (.shape path ("`" ++ heading ++ "` must be a list"))

/-- What is wrong with an entry that is neither a pattern nor an item. -/
def badEntry (heading : String) : String :=
  "invalid `" ++ heading ++ "` entry: data did not match any variant of untagged enum Entry"

/-- How far a walk through manifests has come. -/
structure Walk (χ α : Type) where
  /-- The files that were visited, by what tells them apart. -/
  visited : List (List String)
  /-- The items found so far. -/
  found : List α
  cache : χ

/-- The files a pattern in a manifest leads to: those it matches and the filter lets through. -/
def matched (reader : Reader) (path : Path) (pattern : String) :
    Except ManifestError (List Path) :=
  let base := path.parent?.getD (Path.ofText ".")
  match Glob.expand? reader.tree base pattern with
  | none => .error (.invalidGlob "")
  | some files =>
      .ok (files.filter fun file => reader.modules.accepts (filteredComponents base file))

/-- Go on with one entry of a manifest. -/
def enter
    (reader : Reader)
    (heading : String)
    (readItem : Json.Value → Option α)
    (visit : Path → Attempt (Walk χ α) ManifestError Unit)
    (path : Path)
    (value : Json.Value) :
    Attempt (Walk χ α) ManifestError Unit :=
  match Entry.read? readItem value with
  | none => .fail (.shape path (badEntry heading))
  | some (.item content) =>
      .changing fun walk => ((), { walk with found := walk.found ++ [content] })
  | some (.glob pattern) => do
      let files ← .ofExcept (reader.matched path pattern)
      Attempt.each files visit

/-- Visit a file and everything its patterns lead to. -/
def visit
    (reader : Reader)
    (heading : String)
    (readItem : Json.Value → Option α) :
    Nat → Path → Attempt (Walk χ α) ManifestError Unit
  | 0, _ => .exhausted
  | fuel + 1, path => do
      let identity := reader.identity path
      let isVisited ← Attempt.reading fun walk => decide (identity ∈ walk.visited)
      if isVisited then
        pure ()
      else do
        .changing fun walk => ((), { walk with visited := identity :: walk.visited })
        let document ←
          Attempt.focus Walk.cache (fun cache walk => { walk with cache := cache })
            (reader.read path)
        let items ← .ofExcept (sectionItems path heading document)
        Attempt.each items (reader.enter heading readItem (visit reader heading readItem fuel) path)

/-- How deep a walk can go: every step down visits another file. -/
def depth (reader : Reader) : Nat :=
  reader.tree.files.length + 2

/-- The items of a section, from a file and all it leads to. -/
def entries
    (reader : Reader)
    (heading : String)
    (readItem : Json.Value → Option α)
    (path : Path) :
    Attempt χ ManifestError (List α) :=
  fun cache =>
    match reader.visit heading readItem reader.depth path
        { visited := [], found := [], cache := cache } with
    | none => none
    | some (.error error, walk) => some (.error error, walk.cache)
    | some (.ok (), walk) => some (.ok walk.found, walk.cache)

end Reader

end Switchboard.Manifest
