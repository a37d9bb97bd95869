import CausalOps.Library.Rows
import CausalOps.Library.Selection
import CausalOps.Library.Machine
import CausalOps.Library.Program
import CausalOps.Library.Text
import CausalOps.ControlPlane.Types
import CausalOps.ControlPlane.Ledger
import CausalOps.ControlPlane.Sqlite
import CausalOps.ControlPlane.Sqlite.Moves
import CausalOps.ControlPlane.Sqlite.Methods
import CausalOps.ControlPlane.Sqlite.Transactions
import CausalOps.ControlPlane.Sqlite.Decisions
import CausalOps.ControlPlane.Sqlite.ClaimNext
import CausalOps.ControlPlane.Sqlite.Fencing
import CausalOps.ControlPlane.Sqlite.Alone
import CausalOps.ControlPlane.Firestore
import CausalOps.ControlPlane.Sqlite.Records
import CausalOps.ControlPlane.Mirror.Documents
import CausalOps.ControlPlane.Mirror.Methods
import CausalOps.ControlPlane.Mirror.Claims
import CausalOps.ControlPlane.Mirror
import CausalOps.ControlPlane.Sqlite.Kept
import CausalOps.ControlPlane.Approvals
import CausalOps.ControlPlane.Approvals.Safe
import CausalOps.ControlPlane.Approvals.Requests
import CausalOps.ControlPlane.Approvals.FirstDecision
import CausalOps.ControlPlane.Firestore.Processes
import CausalOps.Library.Rewriting
import CausalOps.Library.Json
import CausalOps.Library.Compact
import CausalOps.Investigation.Domain
import CausalOps.Investigation.Evidence
import CausalOps.Investigation.Prompts
import CausalOps.Investigation.Prompts.Fence
import CausalOps.Investigation.ToolCalls
import CausalOps.Investigation.Models
import CausalOps.Investigation.ToolCalls.RoundTrip
import CausalOps.Investigation.Policy
import CausalOps.Investigation.Wrappers
import CausalOps.Investigation.Wrappers.Leaves
import CausalOps.Investigation.Report
import CausalOps.Investigation.Graph
import CausalOps.Investigation.Graph.Calls
import CausalOps.Investigation.Graph.Steps
import CausalOps.Investigation.Graph.Bounded
import CausalOps.Investigation.Graph.Growth
import CausalOps.Investigation.Graph.Sound
import CausalOps.Investigation.Graph.Settled
import CausalOps.Investigation.Graph.Signals
import CausalOps.Investigation.Graph.Contained
import CausalOps.Investigation.Graph.Gathered
import CausalOps.Investigation.Graph.Visible
import CausalOps.Investigation.Graph.Resumed
import CausalOps.Investigation.Graph.Validators
import CausalOps.Investigation.Graph.Duplicates
import CausalOps.Investigation.Wrappers.Stored
import CausalOps.Investigation.Graph.Monitored
import CausalOps.Investigation.Graph.Rebuilt
import CausalOps.Cost.Ledger
import CausalOps.Cost.Ceiling
import CausalOps.Cost.Send
import CausalOps.Cost.SentOnce
import CausalOps.Library.Loaded
import CausalOps.Investigation.Telemetry
import CausalOps.Investigation.Telemetry.Trimmed
import CausalOps.Investigation.Telemetry.Reports
import CausalOps.Investigation.Telemetry.Matched
import CausalOps.Investigation.Telemetry.Converges
import CausalOps.Investigation.Telemetry.Kept
import CausalOps.Investigation.Telemetry.Weighed
import CausalOps.Investigation.Telemetry.Readable
import CausalOps.Investigation.Telemetry.Bounded
import CausalOps.Investigation.Telemetry.Agreeing
import CausalOps.Investigation.Telemetry.Shown
import CausalOps.Investigation.Telemetry.Survives
import CausalOps.ControlPlane.Threads
import CausalOps.ControlPlane.Sqlite.Threads
import CausalOps.ControlPlane.Sqlite.Retries
import CausalOps.ControlPlane.Scheduling
import CausalOps.ControlPlane.Sqlite.Scheduling
import CausalOps.ControlPlane.Firestore.Stages
import CausalOps.ControlPlane.Firestore.Courses
import CausalOps.ControlPlane.Firestore.Claims
import CausalOps.ControlPlane.Firestore.Deliveries
import CausalOps.ControlPlane.Firestore.Atomic
import CausalOps.ControlPlane.Runs
import CausalOps.ControlPlane.Sqlite.Connections
import CausalOps.ControlPlane.Outbox
import CausalOps.Lab.Scenario
import CausalOps.Lab.Exclusive
import CausalOps.Lab.Failed
import CausalOps.Results.Finalize
import CausalOps.Investigation.Mcp
import CausalOps.Investigation.Mcp.Settlements
import CausalOps.Investigation.Mcp.Behind
import CausalOps.Investigation.Mcp.Forwarding
import CausalOps.Investigation.Mcp.Equivalent
import CausalOps.Library.Canonical
import CausalOps.Investigation.Mcp.Manifest
import CausalOps.Investigation.Mcp.Stdio
import CausalOps.Investigation.Mcp.Safety
import CausalOps.Investigation.Mcp.Sessions
import CausalOps.Investigation.Mcp.Lines
import CausalOps.Cost.Distinct
import CausalOps.Investigation.ToolCalls.Explained
import CausalOps.Investigation.Graph.Keys
import CausalOps.Cost.Floor
import CausalOps.Cost.Batch
import CausalOps.Cost.Preflight
import CausalOps.Investigation.Prompts.Replay
import CausalOps.Library.Documents
import CausalOps.Checkpoints.Saver
import CausalOps.Checkpoints.Stored
import CausalOps.Checkpoints.Writes
import CausalOps.Checkpoints.Listing
import CausalOps.Investigation.Graph.Audited
import CausalOps.ControlPlane.Worker
import CausalOps.ControlPlane.Worker.Once
import CausalOps.Library.Grouping
import CausalOps.Evaluation.Scoring
import CausalOps.Evaluation.Summary
import CausalOps.ControlPlane.Accounting
import CausalOps.Library.Noninterference
import CausalOps.ControlPlane.Api
import CausalOps.ControlPlane.Api.Isolation
import CausalOps.ControlPlane.Api.Requests
import CausalOps.ControlPlane.Api.Calls
import CausalOps.ControlPlane.Api.Owners
import CausalOps.ControlPlane.Sqlite.Progress
import CausalOps.Investigation.Mcp.Duplex
import CausalOps.ControlPlane.Sqlite.Reports
import CausalOps.ControlPlane.Hosted
import CausalOps.ControlPlane.Hosted.Copies
import CausalOps.Library.Replacing
import CausalOps.Cost.Totals
import CausalOps.Evaluation.Batch
import CausalOps.Evaluation.Batch.Durable
import CausalOps.Checkpoints.Memory
import CausalOps.ControlPlane.Sqlite.Incidents
import CausalOps.ControlPlane.Scenarios
import CausalOps.Lab.Calls
import CausalOps.ControlPlane.Scenarios.Kept
import CausalOps.ControlPlane.Scenarios.Recovery
