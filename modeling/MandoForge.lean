import MandoForge.AgentRelease.PackIsolation
import MandoForge.AgentRelease.ReleaseBackends
import MandoForge.AgentRelease.ReleaseRuns
import MandoForge.Approval.CommitTokens
import MandoForge.Approval.Decisions
import MandoForge.Approval.EscalationRuns
import MandoForge.Execution.BackendAgreement
import MandoForge.Execution.Cancellation
import MandoForge.Execution.ClaimFencing
import MandoForge.Execution.Commitments
import MandoForge.Execution.FencedLog
import MandoForge.Execution.Publication
import MandoForge.Foundation.BudgetForest
import MandoForge.Foundation.BudgetLedger
import MandoForge.Foundation.Runs
import MandoForge.Foundation.StoreProgram
import MandoForge.Foundation.Table
import MandoForge.Ontology.AdapterClosure
import MandoForge.Ontology.CandidateReadback
import MandoForge.Ontology.CanonicalDigest
import MandoForge.Ontology.ExecutionLevels
import MandoForge.Ontology.PublishedActions
import MandoForge.Ontology.RollbackAvailability
import MandoForge.Ontology.SdkNames
import MandoForge.Ontology.TriggerRuns
import MandoForge.Policy.ReadOnlySql
import MandoForge.Policy.Tightening
import MandoForge.RemoteComputer.AssignmentRuns
import MandoForge.RemoteComputer.LeaseRuns
import MandoForge.Sandbox.RequestFraming
import MandoForge.Semantic.ExecutionContext
import MandoForge.Semantic.GovernanceView
import MandoForge.Semantic.KernelRuns
import MandoForge.Semantic.ListingAgreement
import MandoForge.Semantic.MemoryPartitions
import MandoForge.Semantic.ToolInvocation
import MandoForge.SessionLoop.Coverage
import MandoForge.SessionLoop.Exclusivity
import MandoForge.SessionLoop.JobBackends
import MandoForge.SessionLoop.RangeCoverage
import MandoForge.Store.ExactlyOnce
import MandoForge.Store.SessionTransitions
import MandoForge.TaskGrant.AtomicCharge
import MandoForge.TaskGrant.Revocation
import MandoForge.TaskGrant.Authority
import MandoForge.TaskGrant.Budget
import MandoForge.TaskGrant.ConnectorNarrowing
import MandoForge.TaskGrant.MemoryScope
import MandoForge.TaskGrant.ScopeOrder
import MandoForge.TaskGrant.Store
import MandoForge.Worker.SchedulerRuns
import MandoForge.Workflow.Absorption
import MandoForge.Workflow.Aliases
import MandoForge.Workflow.Compensation
import MandoForge.Workflow.FanIn
import MandoForge.Workflow.Interleaving
import MandoForge.Workflow.Plan
import MandoForge.Workflow.Progress
import MandoForge.Workflow.StepClaimRuns
import MandoForge.Workflow.Termination
import MandoForge.Workflow.Verdict
