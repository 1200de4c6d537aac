import Switchboard.Config

namespace Switchboard

/-!
# Telemetry settings

What is logged, and in which layout; only the filter can be set from outside.
-/

/-- Which records are logged, and how. -/
structure Telemetry where
  filter : String
  isCompact : Bool
  deriving Repr, DecidableEq

namespace Telemetry

/-- The variable of the filter. -/
def filterVariable : String := "CONDUIT_LOG"

/-- The settings where nothing was said. -/
def initial : Telemetry := { filter := "info", isCompact := false }

/-- Read the settings from the environment. -/
def ofEnvironment (environment : Environment) : Telemetry :=
  { initial with filter := (environment filterVariable).getD initial.filter }

end Telemetry

end Switchboard
