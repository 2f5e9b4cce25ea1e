/-
Module: MandoForge.Execution.Jobs
Purpose: Execution jobs: one approved tool call that a worker is to run, with the
  claim of the worker that has it and the attempts it took.
Trusted boundary: generation and attempt counters are integers without overflow;
  the default number of attempts is read from the environment, so it is an
  argument.
Main exports: ExecutionJobStatus, newExecutionJob
-/
import MandoForge.Core.Records

namespace MandoForge

inductive ExecutionJobStatus where
  | queued
  | running
  | executing
  | finalizing
  | cancelRequested
  | completed
  | failed
  | outcomeUnknown
  | canceled
deriving DecidableEq, Repr

namespace ExecutionJobStatus

/-- `ExecutionJobStatus::as_str`. -/
def asStr : ExecutionJobStatus → String
  | queued => "queued"
  | running => "running"
  | executing => "executing"
  | finalizing => "finalizing"
  | cancelRequested => "cancel_requested"
  | completed => "completed"
  | failed => "failed"
  | outcomeUnknown => "outcome_unknown"
  | canceled => "canceled"

/-- `ExecutionJobStatus::from_str`. -/
def fromStr : String → Option ExecutionJobStatus
  | "queued" => some queued
  | "running" => some running
  | "executing" => some executing
  | "finalizing" => some finalizing
  | "cancel_requested" => some cancelRequested
  | "completed" => some completed
  | "failed" => some failed
  | "outcome_unknown" => some outcomeUnknown
  | "canceled" | "cancelled" => some canceled
  | _ => none

@[simp] theorem fromStr_asStr (status : ExecutionJobStatus) :
    fromStr status.asStr = some status := by
  cases status <;> rfl

theorem asStr_inj {first second : ExecutionJobStatus} :
    first.asStr = second.asStr ↔ first = second := by
  refine ⟨fun same => ?_, congrArg asStr⟩
  have read := fromStr_asStr second
  rw [← same, fromStr_asStr] at read
  exact Option.some.inj read

/-- The statuses that a job ends in. -/
def isFinal : ExecutionJobStatus → Bool
  | completed | failed | outcomeUnknown | canceled => true
  | _ => false

end ExecutionJobStatus

structure ExecutionJob where
  id : Uuid
  sessionId : Uuid
  environmentId : Option Uuid
  approvalId : Uuid
  toolCallId : Uuid
  toolName : String
  status : ExecutionJobStatus
  enqueuedAt : Timestamp
  startedAt : Option Timestamp
  completedAt : Option Timestamp
  workerId : Option String
  leaseExpiresAt : Option Timestamp
  claimGeneration : Int
  finalizationDetails : Json
  attemptCount : Int
  maxAttempts : Int
  lastError : Option String
deriving DecidableEq, Repr

structure ExecutionJobRequest where
  sessionId : Uuid
  environmentId : Option Uuid
  approvalId : Uuid
  toolCallId : Uuid
  toolName : String
  maxAttempts : Option Int
deriving DecidableEq, Repr

/-- `Ord::clamp`. -/
def clamp (low high value : Int) : Int := max low (min high value)

def newExecutionJob (now : Timestamp) (id : Uuid) (defaultMaxAttempts : Int)
    (request : ExecutionJobRequest) : ExecutionJob where
  id := id
  sessionId := request.sessionId
  environmentId := request.environmentId
  approvalId := request.approvalId
  toolCallId := request.toolCallId
  toolName := request.toolName
  status := .queued
  enqueuedAt := now
  startedAt := none
  completedAt := none
  workerId := none
  leaseExpiresAt := none
  claimGeneration := 0
  finalizationDetails := emptyJsonObject
  attemptCount := 0
  maxAttempts := clamp 1 10 (request.maxAttempts.getD defaultMaxAttempts)
  lastError := none

theorem newExecutionJob_maxAttempts_pos (now : Timestamp) (id : Uuid) (defaultMaxAttempts : Int)
    (request : ExecutionJobRequest) :
    1 ≤ (newExecutionJob now id defaultMaxAttempts request).maxAttempts := by
  simp only [newExecutionJob, clamp]
  exact Int.le_max_left 1 _

def validateExecutionLeaseSeconds (leaseSeconds : Int) : Except AppError Unit :=
  if 1 ≤ leaseSeconds ∧ leaseSeconds ≤ 86400 then .ok ()
  else .error (.badRequest "execution job lease_seconds must be between 1 and 86400")

/-- A span of seconds on the clock. -/
def seconds (count : Int) : Int := count * 1000000000

/-- `chrono::Duration::minutes(5)`. -/
def claimLease : Int := seconds 300

namespace ExecutionJob

/-- `finalization_details["stage"]`; what is not there reads as null. -/
def stage (job : ExecutionJob) : Option Json := job.finalizationDetails.get "stage"

/-- The claim is not over. -/
def leaseLive (now : Timestamp) (job : ExecutionJob) : Bool :=
  job.leaseExpiresAt.any fun leaseExpiresAt => decide (now < leaseExpiresAt)

/-- The claim is over, or there is none. -/
def leaseExpired (now : Timestamp) (job : ExecutionJob) : Bool :=
  job.leaseExpiresAt.all fun leaseExpiresAt => decide (leaseExpiresAt ≤ now)

theorem leaseExpired_eq (now : Timestamp) (job : ExecutionJob) :
    job.leaseExpired now = !job.leaseLive now := by
  unfold leaseExpired leaseLive
  cases job.leaseExpiresAt with
  | none => rfl
  | some leaseExpiresAt =>
      change decide (leaseExpiresAt ≤ now) = !decide (now < leaseExpiresAt)
      rw [← decide_not, decide_eq_decide, Int.not_lt]

/-- The fence: the worker has the job under this generation, and in time. -/
def ownedBy (now : Timestamp) (workerId : String) (claimGeneration : Int)
    (job : ExecutionJob) : Bool :=
  decide (job.workerId = some workerId) && decide (job.claimGeneration = claimGeneration) &&
    job.leaseLive now

theorem ownedBy_iff {now : Timestamp} {workerId : String} {claimGeneration : Int}
    {job : ExecutionJob} : job.ownedBy now workerId claimGeneration = true ↔
      job.workerId = some workerId ∧ job.claimGeneration = claimGeneration ∧
        job.leaseLive now = true := by
  simp [ownedBy, and_assoc]

end ExecutionJob

/-- `json!({"stage": stage})`. -/
def stageDetails (stage : String) : Json := .ofFields [("stage", .string stage)]

end MandoForge
