import BackendPolicy.Main
import BackendPolicy.Files.Tree
import BackendPolicy.Proofs.Body.Selection
import BackendPolicy.Proofs.Body.Attributes
import BackendPolicy.Proofs.Body.Exactness
import BackendPolicy.Proofs.Body.Conformity
import BackendPolicy.Proofs.Rule.Program
import BackendPolicy.Proofs.Rule.Requirements
import BackendPolicy.Proofs.Module.Content
import BackendPolicy.Proofs.Module.Variables
import BackendPolicy.Proofs.Module.Backends
import BackendPolicy.Proofs.Module.Verdict
import BackendPolicy.Proofs.Body.Spans
import BackendPolicy.Proofs.Module.Pruning
import BackendPolicy.Proofs.Hcl.Parser
import BackendPolicy.Proofs.Hcl.Structure
import BackendPolicy.Proofs.Module.Parsed
import BackendPolicy.Proofs.Body.Traversal
import BackendPolicy.Proofs.Module.Failure
import BackendPolicy.Proofs.Body.Erasure
import BackendPolicy.Proofs.Module.Splitting
import BackendPolicy.Proofs.Rule.Calls
import BackendPolicy.Proofs.Data.Bytes
import BackendPolicy.Proofs.Module.Priority
import BackendPolicy.Proofs.Data.Bisect
import BackendPolicy.Proofs.Source.LineIndex
import BackendPolicy.Proofs.Text.Path
import BackendPolicy.Proofs.Text.Filename
import BackendPolicy.Proofs.Data.Sorting
import BackendPolicy.Proofs.Module.Sources
import BackendPolicy.Proofs.Module.Conformity
import BackendPolicy.Proofs.Files.Tree
import BackendPolicy.Proofs.Module.Loading
import BackendPolicy.Proofs.Module.Phases
import BackendPolicy.Proofs.Command.Config
import BackendPolicy.Proofs.Command.Failure
import BackendPolicy.Proofs.Rule.Configuration
import BackendPolicy.Proofs.Rule.Reports
import BackendPolicy.Proofs.Rule.Ruleset
import BackendPolicy.Proofs.Rule.History
import BackendPolicy.Proofs.Data.Json
import BackendPolicy.Proofs.Command.Listing
import BackendPolicy.Proofs.Command.Outcome
import BackendPolicy.Proofs.Text.Boundary
import BackendPolicy.Proofs.Text.Lines
import BackendPolicy.Proofs.Source.Position
import BackendPolicy.Proofs.Source.Points
import BackendPolicy.Proofs.Source.Order
import BackendPolicy.Proofs.Body.Parts
import BackendPolicy.Proofs.Hcl.Advance
import BackendPolicy.Proofs.Hcl.Grammar
import BackendPolicy.Proofs.Hcl.Placement
import BackendPolicy.Proofs.Body.Ranges
import BackendPolicy.Proofs.Command.Arguments
import BackendPolicy.Proofs.Command.Override
import BackendPolicy.Proofs.Command.Table
import BackendPolicy.Proofs.Command.Quiet
import BackendPolicy.Proofs.Toml.Keys
import BackendPolicy.Proofs.Toml.Order
import BackendPolicy.Proofs.Config.Acceptance
import BackendPolicy.Proofs.Config.Exactness
