import Switchboard.Bench.Script
import Switchboard.Bench.Session
import Switchboard.Proofs.Bus.Round
import Switchboard.Proofs.Bus.Site
import Switchboard.Proofs.Service.Failure
import Switchboard.Proofs.Service.FirstDefinition
import Switchboard.Proofs.Service.Provenance
import Switchboard.Telemetry
import Switchboard.Proofs.Bus.Dispatch
import Switchboard.Proofs.Bus.Attendance
import Switchboard.Proofs.Attempt.Watching
import Switchboard.Proofs.Bus.Execution
import Switchboard.Proofs.Files.Places
import Switchboard.Proofs.Glob.Matches
import Switchboard.Proofs.Manifest.Traversal
import Switchboard.Proofs.Manifest.Visit
import Switchboard.Proofs.Manifest.Entries
import Switchboard.Proofs.Cache.Latest
import Switchboard.Proofs.Manifest.Loading
import Switchboard.Proofs.Bus.Sequence
import Switchboard.Proofs.Bus.Background
import Switchboard.Proofs.Bus.Schedule
import Switchboard.Proofs.Service.Fuel
import Switchboard.Proofs.Service.Likeness
import Switchboard.Proofs.Service.Forecast
import Switchboard.Proofs.Service.Coherence
import Switchboard.Proofs.Service.Fulfilment
import Switchboard.Proofs.Service.Foresight
import Switchboard.Proofs.Service.AnyOrder
import Switchboard.Proofs.Service.OwnIds
import Switchboard.Proofs.Service.Runs
import Switchboard.Proofs.Service.Lifetime
import Switchboard.Proofs.Bus.Slots
import Switchboard.Proofs.Bus.HandingOut
import Switchboard.Proofs.Attempt.Agreement
import Switchboard.Proofs.Cache.Recalls
import Switchboard.Proofs.Files.Spelling
import Switchboard.Proofs.Manifest.Uncached
import Switchboard.Proofs.Glob.Scanning
import Switchboard.Proofs.Glob.Listing
import Switchboard.Proofs.Service.Aliases
import Switchboard.Proofs.Bus.Registrations
import Switchboard.Proofs.Bus.Nicknames
import Switchboard.Proofs.Service.FactoryCalls
import Switchboard.Proofs.Glob.AnyDepth
import Switchboard.Proofs.Manifest.ActiveModules
import Switchboard.Proofs.Service.WrittenDefinitions
import Switchboard.Proofs.Json.Reading
import Switchboard.Proofs.Config.Documents
import Switchboard.Proofs.Config.Sources
import Switchboard.Proofs.Cache.Batches
