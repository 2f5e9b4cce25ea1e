/-
Module: MandoForge.Core.Records
Purpose: The records of the control plane that the workflow engine and the task
  grants read and write, with the status vocabulary shared by workflow runs and
  workflow step runs.
Trusted boundary: identifiers are natural numbers; instants are whole
  nanoseconds.  Fields that no modelled function reads (texts of an objective,
  audit references, creation stamps of runs and steps) are left out.
Main exports: AppError, TaskGrantStatus
-/
import MandoForge.Data.Json

namespace MandoForge

abbrev Uuid := Nat

/-- `json!` of an identifier: its text. -/
def Json.ofUuid (id : Uuid) : Json := .string (Nat.repr id)

theorem Json.ofUuid_inj {first second : Uuid} :
    Json.ofUuid first = Json.ofUuid second ↔ first = second := by
  refine ⟨fun same => ?_, congrArg Json.ofUuid⟩
  have sameDigits := congrArg String.toList (Json.string.inj same)
  rw [Nat.toList_repr, Nat.toList_repr] at sameDigits
  rw [← Nat.ofDigitChars_ten_toDigits (n := first), sameDigits, Nat.ofDigitChars_ten_toDigits]

/-- An instant of the UTC clock, in nanoseconds. -/
abbrev Timestamp := Int

/-- The response class of an error. -/
inductive ErrorStatus where
  | badRequest
  | forbidden
  | notFound
  | conflict
  | internal
deriving DecidableEq, Repr

structure AppError where
  status : ErrorStatus
  message : String
deriving DecidableEq, Repr

namespace AppError

def badRequest (message : String) : AppError := ⟨.badRequest, message⟩
def forbidden (message : String) : AppError := ⟨.forbidden, message⟩
def notFound (message : String) : AppError := ⟨.notFound, message⟩
def conflict (message : String) : AppError := ⟨.conflict, message⟩
def internal (message : String) : AppError := ⟨.internal, message⟩

end AppError

/-- The statuses of workflow runs and of workflow step runs.  The source keeps
both as strings of one vocabulary and copies a step's status onto its run;
`initializing` occurs on runs only. -/
inductive WorkflowStatus where
  | initializing
  | queued
  | scheduled
  | running
  | requiresAction
  | completed
  | failed
  | canceled
  | skipped
deriving DecidableEq, Repr

/-- The status as the store and the events spell it. -/
def WorkflowStatus.text : WorkflowStatus → String
  | .initializing => "initializing"
  | .queued => "queued"
  | .scheduled => "scheduled"
  | .running => "running"
  | .requiresAction => "requires_action"
  | .completed => "completed"
  | .failed => "failed"
  | .canceled => "canceled"
  | .skipped => "skipped"

def workflowStepStatusTerminal : WorkflowStatus → Bool
  | .completed | .failed | .canceled | .skipped => true
  | _ => false

def workflowStepStatusSuccessful : WorkflowStatus → Bool
  | .completed | .skipped => true
  | _ => false

def workflowRunStatusAllowsExecution : WorkflowStatus → Bool
  | .queued | .running | .requiresAction => true
  | _ => false

def workflowRunStatusAllowsStepCreation (status : WorkflowStatus) : Bool :=
  status == .initializing || workflowRunStatusAllowsExecution status

def workflowRunExecutionDenial (status : WorkflowStatus) : Option String :=
  if workflowRunStatusAllowsExecution status then none
  else if workflowStepStatusTerminal status then some "workflow run is not active"
  else some "workflow run is not executable"

theorem terminal_of_successful {status : WorkflowStatus}
    (successful : workflowStepStatusSuccessful status = true) :
    workflowStepStatusTerminal status = true := by
  cases status <;> simp_all [workflowStepStatusSuccessful, workflowStepStatusTerminal]

theorem not_allowsStepCreation_of_terminal {status : WorkflowStatus}
    (terminal : workflowStepStatusTerminal status = true) :
    workflowRunStatusAllowsStepCreation status = false := by
  cases status <;> simp_all [workflowStepStatusTerminal,
    workflowRunStatusAllowsStepCreation, workflowRunStatusAllowsExecution]

theorem terminal_iff {status : WorkflowStatus} :
    workflowStepStatusTerminal status = true ↔
      status = .completed ∨ status = .failed ∨ status = .canceled ∨
        status = .skipped := by
  cases status <;> simp [workflowStepStatusTerminal]

/-- The lifecycle of a task grant: it is issued active, and every other status
is final. -/
inductive TaskGrantStatus where
  | active
  | revoked
  | expired
  | completed
  | cancelled
deriving DecidableEq, Repr

structure WorkflowRun where
  id : Uuid
  status : WorkflowStatus
  primarySessionId : Uuid
  rootTaskGrantId : Option Uuid
  inputPayload : Json
  /-- `execution_strategy` to `runtime_envelope`, as one object: the engine only
  copies them into the input of a step run. -/
  runtimeDelegation : Json
deriving DecidableEq, Repr

structure WorkflowStepRun where
  id : Uuid
  workflowRunId : Uuid
  stepKey : String
  stepType : String
  agentId : Option Uuid
  agentVersionId : Option Uuid
  sessionId : Option Uuid
  threadId : Option Uuid
  taskGrantId : Option Uuid
  environmentId : Option Uuid
  status : WorkflowStatus
  inputPayload : Json
  outputPayload : Json
  claimedByWorker : Option String
  claimOwnerVersion : Int
  leaseExpiresAt : Option Timestamp
  scheduledAt : Option Timestamp
deriving DecidableEq, Repr

structure TaskGrant where
  id : Uuid
  workflowRunId : Uuid
  workflowStepRunId : Option Uuid
  sessionId : Option Uuid
  parentGrantId : Option Uuid
  granteeSessionId : Option Uuid
  status : TaskGrantStatus
  expiresAt : Option Timestamp
  maxTurns : Option Int
  maxToolCalls : Option Int
  maxRuntimeSeconds : Option Int
  maxCostUsdMicros : Option Int
  turnsUsed : Int
  toolCallsUsed : Int
  costUsdMicrosUsed : Int
  semanticScopes : Json
  memoryScope : Json
  toolScope : Json
  connectorScope : Json
  approvalPolicy : Json
  externalEffects : Json
  createdAt : Timestamp
  granteeAgentId : Option Uuid := none
  agentClass : Option String := none
  contextPacketId : Option Uuid := none
deriving DecidableEq, Repr

inductive SessionStatus where
  | idle
  | running
  | requiresAction
  | rescheduling
  | terminated
  | failed
deriving DecidableEq, Repr

/-- A session, as far as the workflow engine and the task grants read it. -/
structure Session where
  id : Uuid
  status : SessionStatus
  agentId : Uuid
  agentVersionId : Option Uuid
  environmentId : Option Uuid
deriving DecidableEq, Repr

inductive SessionLoopJobStatus where
  | queued
  | running
  | completed
  | failed
deriving DecidableEq, Repr

/-- A job of the session loop: a window of the event log that a worker is to take
the session through. -/
structure SessionLoopJob where
  id : Uuid
  sessionId : Uuid
  environmentId : Option Uuid
  status : SessionLoopJobStatus
  triggerEventId : Option Uuid
  pendingEventSeqStart : Option Int
  pendingEventSeqEnd : Option Int
  processedEventSeq : Option Int
  reason : String
  enqueuedAt : Timestamp
  startedAt : Option Timestamp
  completedAt : Option Timestamp
  workerId : Option String
  leaseExpiresAt : Option Timestamp
  attemptCount : Int
  maxAttempts : Int
  lastError : Option String
deriving DecidableEq, Repr

/-- An event of the log of a session. -/
structure SessionEvent where
  id : Uuid
  sessionId : Uuid
  seq : Int
  actorType : String
  actorId : Option Uuid
  eventType : String
  payload : Json
deriving DecidableEq, Repr

structure WorkflowDefinition where
  defaultAgentId : Uuid
  stepGraph : Json
deriving DecidableEq, Repr

structure Agent where
  id : Uuid
  /-- `release_state == "disabled"`. -/
  disabled : Bool
  kind : String := ""
  agentRole : String := ""
  semanticScopes : Json := .null
deriving DecidableEq, Repr

structure AgentVersion where
  id : Uuid
  agentId : Uuid
  version : Int
  tools : List String
  toolNames : List String
  approvalPolicy : Json
deriving DecidableEq, Repr

/-- The statuses of a tool call; the source keeps them as strings. -/
inductive ToolCallStatus where
  | running
  | waitingApproval
  | completed
  | failed
  | denied
deriving DecidableEq, Repr

structure ToolCall where
  id : Uuid
  sessionId : Uuid
  eventId : Option Uuid
  toolName : String
  args : Json
  taskGrantId : Option Uuid
  normalizedArgsHash : Option String
  targetBinding : Json
  status : ToolCallStatus
  riskLevel : String
  result : Option Json
  error : Option Json
deriving DecidableEq, Repr

/-- The statuses of an approval; the source keeps them as strings. -/
inductive ApprovalStatus where
  | pending
  | approved
  | rejected
  | expired
deriving DecidableEq, Repr

/-- The status as the store and the events spell it. -/
def ApprovalStatus.text : ApprovalStatus → String
  | .pending => "pending"
  | .approved => "approved"
  | .rejected => "rejected"
  | .expired => "expired"

structure Approval where
  id : Uuid
  sessionId : Uuid
  toolCallId : Option Uuid
  reason : String
  decisionPayload : Json
  status : ApprovalStatus
  expiresAt : Option Timestamp
  decidedAt : Option Timestamp
deriving DecidableEq, Repr

inductive CommitTokenStatus where
  | issued
  | consumed
deriving DecidableEq, Repr

/-- The token that lets an approved call commit once. -/
structure ApprovalCommitToken where
  id : Uuid
  approvalId : Uuid
  toolCallId : Uuid
  taskGrantId : Uuid
  sessionId : Uuid
  toolName : String
  normalizedArgsHash : String
  targetBinding : Json
  status : CommitTokenStatus
  expiresAt : Timestamp
  consumedAt : Option Timestamp
deriving DecidableEq, Repr

structure Artifact where
  id : Uuid
  sessionId : Uuid
  artifactType : String
  name : String
  content : Json
deriving DecidableEq, Repr

structure OntologyRelease where
  id : Uuid
  status : String
deriving DecidableEq, Repr

/-- A thread of a session, as far as a change of the session status reads it. -/
structure SessionThread where
  id : Uuid
  sessionId : Uuid
  threadKind : String
  status : String
deriving DecidableEq, Repr

structure AuditLog where
  id : Uuid
  sessionId : Option Uuid
  actorType : String
  actorId : Option Uuid
  action : String
  resourceType : String
  resourceId : Option Uuid
  details : Json
deriving DecidableEq, Repr

/-- The statuses of the assignment of a remote computer; the source keeps them as
strings. -/
inductive AssignmentStatus where
  | assigned
  | completed
  | released
  | failed
  | canceled
deriving DecidableEq, Repr

structure RemoteComputerJobAssignment where
  id : Uuid
  executionJobId : Uuid
  remoteComputerId : Uuid
  leaseId : Uuid
  sessionId : Uuid
  status : AssignmentStatus
  assignedBy : Option String
  metadata : Json
  updatedAt : Timestamp
deriving DecidableEq, Repr

def emptyJsonObject : Json := .object []

end MandoForge
