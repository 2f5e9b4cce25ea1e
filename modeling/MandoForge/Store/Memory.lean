/-
Module: MandoForge.Store.Memory
Purpose: The in-memory store: the tables that workflow runs, step runs, task
  grants, sessions, their jobs, events, threads, tool calls, approvals and agents
  are kept in.
Trusted boundary: tables that no modelled operation reads (transitions) are left
  out.  Of an environment only its existence is read.  The event logs of the
  sessions are one list, oldest first.
Main exports: MemoryStore
-/
import MandoForge.Core.Records
import MandoForge.Foundation.Table

namespace MandoForge

open Foundation

structure MemoryStore where
  sessions : Table Session.id
  workflowRuns : Table WorkflowRun.id
  workflowStepRuns : Table WorkflowStepRun.id
  taskGrants : Table TaskGrant.id
  agents : Table Agent.id := Table.empty
  agentVersions : Table AgentVersion.id := Table.empty
  environmentIds : List Uuid := []
  sessionLoopJobs : Table SessionLoopJob.id := Table.empty
  events : List SessionEvent := []
  toolCalls : Table ToolCall.id := Table.empty
  approvals : Table Approval.id := Table.empty
  approvalCommitTokens : Table ApprovalCommitToken.id := Table.empty
  sessionThreads : Table SessionThread.id := Table.empty
  auditLogs : Table AuditLog.id := Table.empty
  artifacts : Table Artifact.id := Table.empty
  ontologyReleases : Table OntologyRelease.id := Table.empty
  remoteComputerJobAssignments : Table RemoteComputerJobAssignment.id := Table.empty
deriving DecidableEq

end MandoForge
