import Switchboard.Config
import Switchboard.Files.Path

namespace Switchboard.Manifest

/-!
# Active modules

When a pattern of a manifest matches a file, the module filter decides whether it is loaded.  It
looks at the path of the file from the directory of that manifest, so names above it never count.
-/

/-- Which matched manifests are loaded. -/
inductive ModuleFilter where
  /-- All of them. -/
  | all
  /-- Those with a path on which one of the names stands. -/
  | active (names : List String)
  /-- Those whose path passes a test. -/
  | custom (test : List String → Bool)

/-- The filter that a configuration asks for. -/
def ModuleFilter.ofConfig (config : Config) : ModuleFilter :=
  match config.activeModules with
  | none => .all
  | some names => .active names

/-- Whether a filter lets a path through, by its components. -/
def ModuleFilter.accepts (filter : ModuleFilter) (components : List String) : Bool :=
  match filter with
  | .all => true
  | .active names => components.any fun component => component ∈ names
  | .custom test => test components

/-- The components by which a file is filtered: from `base` on, or all if it is not below. -/
def filteredComponents (base file : Path) : List String :=
  (file.relativeTo? base).getD file.components

end Switchboard.Manifest
