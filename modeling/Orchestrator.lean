import Orchestrator.Main
import Orchestrator.Proofs.Journal
import Orchestrator.Proofs.Resolution.Descent
import Orchestrator.Proofs.Execution.Watch
import Orchestrator.Proofs.Resolution.Leaves
import Orchestrator.Proofs.Resolution.Forwarding
import Orchestrator.Proofs.Resolution.Independence
import Orchestrator.Proofs.Resolution.Depth
import Orchestrator.Proofs.Task.Overlay
import Orchestrator.Proofs.Plugin.Overlay
import Orchestrator.Proofs.Resolution.Overlay
import Orchestrator.Proofs.Settings.Precedence
import Orchestrator.Proofs.CommandLine.Scan
import Orchestrator.Proofs.CommandLine.Accepted
import Orchestrator.Proofs.CommandLine.Agreement
import Orchestrator.Proofs.Resolution.Calls
import Orchestrator.Proofs.Resolution.Silence
import Orchestrator.Proofs.Run.Attempts
import Orchestrator.Proofs.Run.Law
import Orchestrator.Proofs.Execution.Processes
import Orchestrator.Proofs.Resolution.Keeping
import Orchestrator.Proofs.Run.KeepGoing
import Orchestrator.Proofs.Resolution.Visits
import Orchestrator.Proofs.Resolution.Scope
import Orchestrator.Proofs.Plugin.Plans
import Orchestrator.Proofs.Resolution.Cycles
import Orchestrator.Proofs.Settings.Shadowing
import Orchestrator.Proofs.Settings.Construction
import Orchestrator.Proofs.Plugin.Anchored
import Orchestrator.Proofs.Run.WellFormed
import Orchestrator.Proofs.CommandLine.Names
import Orchestrator.Proofs.Resolution.Projection
import Orchestrator.Proofs.Resolution.Lookups
import Orchestrator.Proofs.Resolution.Relevance
import Orchestrator.Proofs.Resolution.Strictness
import Orchestrator.Proofs.Plugin.Productive
import Orchestrator.Proofs.Resolution.Productive
import Orchestrator.Proofs.Pattern.Product
import Orchestrator.Proofs.Pattern.Walk
import Orchestrator.Proofs.Task.Layers
import Orchestrator.Proofs.Settings.Contributions
import Orchestrator.Proofs.Settings.Conversion
import Orchestrator.Proofs.Settings.Writes
import Orchestrator.Proofs.Settings.Replacement
import Orchestrator.Proofs.Settings.Equality
import Orchestrator.Proofs.Task.Substitutable
import Orchestrator.Proofs.Settings.Reordering
import Orchestrator.Proofs.Settings.Readings
import Orchestrator.Proofs.Pattern.Extraction
import Orchestrator.Proofs.Plugin.Applying
import Orchestrator.Proofs.Plugin.Wrapping
import Orchestrator.Proofs.Plugin.CommandLines
import Orchestrator.Proofs.Pattern.Definition
import Orchestrator.Proofs.Pattern.Registry
import Orchestrator.Proofs.CommandLine.Positions
import Orchestrator.Proofs.Text.Numeral
import Orchestrator.Proofs.Plugin.BuildSystems
import Orchestrator.Proofs.Shell.Quoting
import Orchestrator.Proofs.Settings.Rendering
