import SimPilot.Effect.RelyGuarantee
import SimPilot.Runtime.NoLostUpdate
import SimPilot.Runtime.Reconstruction
import SimPilot.IntentCompiler.Enforcement
import SimPilot.Runtime.EngineSupport
import SimPilot.Runtime.Evaluator
import SimPilot.Runtime.Verification
import SimPilot.Runtime.DecisionContext
import SimPilot.Runtime.Signature
import SimPilot.Runtime.ActionExecution
import SimPilot.Runtime.Iteration
import SimPilot.Runtime.Execution
import SimPilot.Runtime.Engine
import SimPilot.Runtime.CommittedView
import SimPilot.Runtime.Machine
import SimPilot.Runtime.AttemptJournal
import SimPilot.Runtime.StatusInvariant
import SimPilot.Runtime.ApprovalInvariant
import SimPilot.Runtime.CheckpointInvariant
import SimPilot.Runtime.SystemInvariant
import SimPilot.Runtime.CommitProgress
import SimPilot.Runtime.Walk
import SimPilot.Runtime.WalkAction
import SimPilot.Runtime.WalkIteration
import SimPilot.Runtime.WalkSession
import SimPilot.Runtime.WalkCalls
import SimPilot.Runtime.Replay
import SimPilot.Runtime.History
import SimPilot.Effect.Play
import SimPilot.Runtime.Scenario
import SimPilot.Runtime.AttemptHistory
import SimPilot.Runtime.Consistency
import SimPilot.Effect.Locals
import SimPilot.Runtime.IterationBound
import SimPilot.Runtime.ApprovalAuthority
import SimPilot.Runtime.Spending
import SimPilot.IntentCompiler.Evaluability
import SimPilot.ReferenceSimulation.State
import SimPilot.ReferenceSimulation.Tick
import SimPilot.ReferenceSimulation.Simulation
import SimPilot.ReferenceSimulation.Invariants
import SimPilot.Persistence.Indistinguishable
import SimPilot.Data.Window
import SimPilot.GameScript.Messages
import SimPilot.GameScript.Script
import SimPilot.GameScript.Idempotence
import SimPilot.GameScript.Client
import SimPilot.GameScript.Link
import SimPilot.GameScript.Loop
import SimPilot.GameScript.Freshness
import SimPilot.GameScript.Rename
import SimPilot.GameScript.RenameOutcome
import SimPilot.Data.TextOrder
import SimPilot.GameBridge.Json
import SimPilot.GameBridge.Protocol
import SimPilot.GameBridge.Models
import SimPilot.GameBridge.Emission
import SimPilot.GameBridge.Acceptance
import SimPilot.SoftwareInc.Observation
import SimPilot.SoftwareInc.Staffing
import SimPilot.Effect.Run
import SimPilot.SoftwareInc.Operator
import SimPilot.SoftwareInc.OperatorRules
import SimPilot.SoftwareInc.Products.Workflow
import SimPilot.SoftwareInc.Products.Operator
import SimPilot.SoftwareInc.Products.Reserve
import SimPilot.SoftwareInc.Training.Workflow
import SimPilot.SoftwareInc.Training.Operator
import SimPilot.SoftwareInc.Training.Accounting
import SimPilot.Installer.FileSystem
import SimPilot.Installer.RailRoute
import SimPilot.Installer.SoftwareInc
import SimPilot.Installer.Ownership
import SimPilot.Installer.RailRouteOwnership
import SimPilot.Installer.SoftwareIncOwnership
import SimPilot.Installer.Exclusive
import SimPilot.AdminNetwork.Protocol
import SimPilot.AdminNetwork.Client
import SimPilot.AdminNetwork.Answers
import SimPilot.SoftwareInc.Store
import SimPilot.SoftwareInc.Contracts.Workflow
import SimPilot.SoftwareInc.Contracts.Operator
import SimPilot.SoftwareInc.Contracts.Ownership
import SimPilot.SoftwareInc.Training.Ownership
import SimPilot.SoftwareInc.Ownership
import SimPilot.SoftwareInc.Contracts.Progress
import SimPilot.SoftwareInc.Pausing
import SimPilot.SoftwareInc.Stopping
import SimPilot.Data.Suffix
import SimPilot.Runtime.Projection
import SimPilot.ReferenceSimulation.Composition
import SimPilot.Data.FixedWidth
import SimPilot.Persistence.Chronology
import SimPilot.Runtime.RecoveredSuccess
import SimPilot.GameScript.Reassembly
import SimPilot.ReferenceSimulation.Adapter
import SimPilot.ReferenceSimulation.Verified
import SimPilot.ReferenceSimulation.Restore
import SimPilot.ReferenceSimulation.Journal
import SimPilot.Analysis.Contracts
import SimPilot.Analysis.Catalog
import SimPilot.Analysis.Compiler
import SimPilot.Analysis.ProviderGate
import SimPilot.Analysis.World
import SimPilot.Analysis.Findings
import SimPilot.Analysis.Interaction
import SimPilot.Analysis.Composition
import SimPilot.Analysis.Service
import SimPilot.Analysis.Vehicles
import SimPilot.Analysis.Truncation
import SimPilot.Analysis.PriorityReview
import SimPilot.Analysis.Network
import SimPilot.Analysis.Coverage
import SimPilot.Analysis.Fleet
import SimPilot.Analysis.EntitySummary
import SimPilot.Analysis.Population
import SimPilot.Analysis.Filters
import SimPilot.SoftwareInc.Workstation.Plan
import SimPilot.SoftwareInc.Workstation.Readiness
import SimPilot.Analysis.Reference
import SimPilot.GameScript.Sending
import SimPilot.SoftwareInc.Ui.Tracing
import SimPilot.GameBridge.Server
import SimPilot.SoftwareInc.Contracts.Spelling
import SimPilot.Analysis.Explanation
import SimPilot.Analysis.Totality
import SimPilot.AdminNetwork.GameDate
import SimPilot.OpenTTD.WorldPatch
import SimPilot.OpenTTD.RouteGroups
import SimPilot.GameBridge.Timeline
import SimPilot.GameBridge.StrictJsonRoundTrip
import SimPilot.ProviderSupport.CodexEvents
import SimPilot.SoftwareInc.Guidance.Availability
import SimPilot.SoftwareInc.Guidance.Coverage
import SimPilot.SoftwareInc.Guidance.Delegation
import SimPilot.Runtime.Growth
import SimPilot.Reconciliation.Dispatcher
import SimPilot.Analysis.Freshness
import SimPilot.Analysis.FreshnessProtocol
import SimPilot.OpenTTD.Coherence
import SimPilot.AdminNetwork.Layout
import SimPilot.ReferenceSimulation.DecisionGate
