/-
Module: MandoForge.Execution.PostgresQueue
Purpose: The execution queue in the database: every operation is one conditional
  update of the row of a job, with the columns, the CASE expressions and the
  comparisons with NULL of its statement.
Trusted boundary: a statement is atomic, sees the row that the last one left, and
  reads one time.  The rows are those of one tenant; the primary key is the
  identifier.  A JSON column keeps what is written to it.  Triggers and
  notifications are left out.  The text of a JSON value that is no string is none
  of the stages that the statements name.
Main exports: ExecutionJobRow, QueueOperation.performPostgres
-/
import MandoForge.Execution.MemoryQueue
import MandoForge.Foundation.Truth

namespace MandoForge

open Foundation

/-- A row of `execution_jobs`. -/
structure ExecutionJobRow where
  id : Uuid
  sessionId : Uuid
  environmentId : Option Uuid
  approvalId : Uuid
  toolCallId : Uuid
  toolName : String
  status : String
  enqueuedAt : Timestamp
  startedAt : Option Timestamp
  completedAt : Option Timestamp
  workerId : Option String
  leaseExpiresAt : Option Timestamp
  claimGeneration : Int
  finalizationDetails : Json
  attemptCount : Int
  maxAttempts : Int
  lastError : Option String
deriving DecidableEq, Repr

def executionJobFromRow (row : ExecutionJobRow) : Except AppError ExecutionJob :=
  match ExecutionJobStatus.fromStr row.status with
  | some status => .ok {
      id := row.id
      sessionId := row.sessionId
      environmentId := row.environmentId
      approvalId := row.approvalId
      toolCallId := row.toolCallId
      toolName := row.toolName
      status := status
      enqueuedAt := row.enqueuedAt
      startedAt := row.startedAt
      completedAt := row.completedAt
      workerId := row.workerId
      leaseExpiresAt := row.leaseExpiresAt
      claimGeneration := row.claimGeneration
      finalizationDetails := row.finalizationDetails
      attemptCount := row.attemptCount
      maxAttempts := row.maxAttempts
      lastError := row.lastError }
  | none => .error (.internal s!"unknown execution job status in database: {row.status}")

structure ExecutionJobsTable where
  rows : Table ExecutionJobRow.id
deriving DecidableEq

/-! ### Expressions over a row -/

/-- `COALESCE(value, otherwise)`. -/
def coalesce {Value : Type} (value : Option Value) (otherwise : Value) : Option Value :=
  some (value.getD otherwise)

/-- `CASE WHEN condition THEN yes ELSE no END`. -/
def caseWhen {Value : Type} (condition : Truth) (yes no : Value) : Value :=
  if condition.holds then yes else no

/-- The `||` of JSON columns: two objects are merged, everything else is put into
one array. -/
def Json.concat : Json → Json → Json
  | .object first, .object second =>
      .object (second.foldl (fun fields (key, value) => insertField key value fields) first)
  | .array first, .array second => .array (first ++ second)
  | .array first, second => .array (first ++ [second])
  | first, .array second => .array (first :: second)
  | first, second => .array [first, second]

namespace ExecutionJobRow

/-- `status = 'status'`. -/
def statusIs (status : String) (row : ExecutionJobRow) : Truth :=
  Truth.equal (some row.status) (some status)

/-- `worker_id = $ AND claim_generation = $ AND lease_expires_at > now()`. -/
def ownedBy (now : Timestamp) (workerId : String) (claimGeneration : Int)
    (row : ExecutionJobRow) : Truth :=
  (Truth.equal row.workerId (some workerId)).and
    ((Truth.equal (some row.claimGeneration) (some claimGeneration)).and
      (Truth.compare (fun lease time => decide (time < lease)) row.leaseExpiresAt (some now)))

/-- `(lease_expires_at IS NULL OR lease_expires_at <= now())`. -/
def leaseExpired (now : Timestamp) (row : ExecutionJobRow) : Truth :=
  (Truth.isNull row.leaseExpiresAt).or
    (Truth.compare (fun lease time => decide (lease ≤ time)) row.leaseExpiresAt (some now))

/-- `finalization_details ->> 'stage' = 'stage'`. -/
def stageIs (stage : String) (row : ExecutionJobRow) : Truth :=
  match row.finalizationDetails.get "stage" with
  | none | some .null => .unknown
  | some (.string text) => Truth.equal (some text) (some stage)
  | some _ => .no

/-- `attempt_count < max_attempts`. -/
def attemptsLeft (row : ExecutionJobRow) : Truth :=
  Truth.compare (fun count bound => decide (count < bound)) (some row.attemptCount)
    (some row.maxAttempts)

/-- `attempt_count >= max_attempts`. -/
def attemptsSpent (row : ExecutionJobRow) : Truth :=
  Truth.compare (fun count bound => decide (bound ≤ count)) (some row.attemptCount)
    (some row.maxAttempts)

end ExecutionJobRow

namespace PostgresExecutionQueue

def empty : ExecutionJobsTable := ⟨.empty⟩

/-- `UPDATE execution_jobs SET assignments WHERE id = $ AND condition RETURNING ..`:
the row as it was written, if there was one to write. -/
def updateReturning (jobId : Uuid) (condition : ExecutionJobRow → Truth)
    (assign : ExecutionJobRow → ExecutionJobRow) (table : ExecutionJobsTable)
    (keeps : ∀ row, (assign row).id = row.id := by intro _; rfl) :
    Option ExecutionJobRow × ExecutionJobsTable :=
  match table.rows.find? jobId with
  | some row =>
      if (condition row).holds then
        (some (assign row), { table with rows := table.rows.modify jobId assign keeps })
      else (none, table)
  | none => (none, table)

/-- An update, where a row that is not there is an error. -/
def updateRow (jobId : Uuid) (condition : ExecutionJobRow → Truth)
    (assign : ExecutionJobRow → ExecutionJobRow) (table : ExecutionJobsTable)
    (keeps : ∀ row, (assign row).id = row.id := by intro _; rfl) :
    Except AppError ExecutionJob × ExecutionJobsTable :=
  match updateReturning jobId condition assign table keeps with
  | (some row, table) => (executionJobFromRow row, table)
  | (none, table) => (.error executionJobNotFound, table)

def get (jobId : Uuid) (table : ExecutionJobsTable) : Except AppError ExecutionJob :=
  match table.rows.find? jobId with
  | some row => executionJobFromRow row
  | none => .error executionJobNotFound

/-- The columns that `enqueue` inserts. -/
def insertedRow (job : ExecutionJob) : ExecutionJobRow where
  id := job.id
  sessionId := job.sessionId
  environmentId := job.environmentId
  approvalId := job.approvalId
  toolCallId := job.toolCallId
  toolName := job.toolName
  status := job.status.asStr
  enqueuedAt := job.enqueuedAt
  startedAt := job.startedAt
  completedAt := job.completedAt
  workerId := job.workerId
  leaseExpiresAt := job.leaseExpiresAt
  claimGeneration := job.claimGeneration
  finalizationDetails := job.finalizationDetails
  attemptCount := job.attemptCount
  maxAttempts := job.maxAttempts
  lastError := job.lastError

/-- `enqueue`; the identifier is a new one. -/
def enqueue (now : Timestamp) (id : Uuid) (defaultMaxAttempts : Int)
    (request : ExecutionJobRequest) (table : ExecutionJobsTable) :
    Except AppError ExecutionJob × ExecutionJobsTable :=
  let job := newExecutionJob now id defaultMaxAttempts request
  (.ok job, { table with rows := table.rows.insert (insertedRow job) })

/-- `start`: `update` to Running. -/
def start (now : Timestamp) (jobId : Uuid) (workerId : String) :
    ExecutionJobsTable → Except AppError ExecutionJob × ExecutionJobsTable :=
  updateRow jobId
    (fun row => (row.statusIs "queued").or ((row.statusIs "running").and (row.leaseExpired now)))
    fun row => { row with
      status := "running"
      startedAt := coalesce row.startedAt now
      completedAt := none
      workerId := some workerId
      leaseExpiresAt := some (now + claimLease)
      claimGeneration := row.claimGeneration + 1
      finalizationDetails := emptyJsonObject
      attemptCount := row.attemptCount + 1
      lastError := none }

def beginExecutingStarted (now : Timestamp) (jobId : Uuid) (workerId : String)
    (claimGeneration : Int) :
    ExecutionJobsTable → Except AppError ExecutionJob × ExecutionJobsTable :=
  updateRow jobId
    (fun row => (row.statusIs "running").and (row.ownedBy now workerId claimGeneration))
    fun row => { row with status := "executing" }

def markOutcomeUnknownStarted (now : Timestamp) (jobId : Uuid) (workerId : String)
    (claimGeneration : Int) (error : String) :
    ExecutionJobsTable → Except AppError ExecutionJob × ExecutionJobsTable :=
  updateRow jobId
    (fun row => (row.statusIs "executing").and (row.ownedBy now workerId claimGeneration))
    fun row => { row with
      status := "outcome_unknown"
      completedAt := coalesce row.completedAt now
      leaseExpiresAt := none
      lastError := some error }

def beginFinalizingStarted (now : Timestamp) (jobId : Uuid) (workerId : String)
    (claimGeneration : Int) (error : Option String) (finalizationDetails : Json) :
    ExecutionJobsTable → Except AppError ExecutionJob × ExecutionJobsTable :=
  updateRow jobId
    (fun row =>
      ((row.statusIs "executing").or ((Truth.isNotNull error).and (row.statusIs "running"))).and
        (row.ownedBy now workerId claimGeneration))
    fun row => { row with status := "finalizing", lastError := error, finalizationDetails }

def resumeFinalizing (now : Timestamp) (jobId : Uuid) (workerId : String) :
    ExecutionJobsTable → Except AppError ExecutionJob × ExecutionJobsTable :=
  updateRow jobId (fun row => (row.statusIs "finalizing").and (row.leaseExpired now))
    fun row => { row with
      workerId := some workerId
      leaseExpiresAt := some (now + claimLease)
      claimGeneration := row.claimGeneration + 1 }

def recoverExpiredExecuting (now : Timestamp) (jobId : Uuid) (workerId : String)
    (error : Option String) (finalizationDetails : Json) :
    ExecutionJobsTable → Except AppError ExecutionJob × ExecutionJobsTable :=
  updateRow jobId (fun row => (row.statusIs "executing").and (row.leaseExpired now))
    fun row => { row with
      status := "finalizing"
      workerId := some workerId
      leaseExpiresAt := some (now + claimLease)
      claimGeneration := row.claimGeneration + 1
      lastError := error
      finalizationDetails }

/-- The assignments of `finish_finalizing_started`; all of them read the row as it
was. -/
def finished (now : Timestamp) (retryableFailure : Bool) (row : ExecutionJobRow) :
    ExecutionJobRow :=
  let retryable := Truth.ofBool retryableFailure
  let requeued := ((Truth.isNotNull row.lastError).and retryable).and row.attemptsLeft
  { row with
    status :=
      caseWhen (Truth.isNull row.lastError) "completed"
        (caseWhen (retryable.and row.attemptsLeft) "queued" "failed")
    startedAt := caseWhen requeued none row.startedAt
    completedAt :=
      caseWhen (((Truth.isNull row.lastError).or retryable.not).or row.attemptsSpent)
        (coalesce row.completedAt now) none
    workerId := caseWhen requeued none row.workerId
    leaseExpiresAt := none }

def finishFinalizingStarted (now : Timestamp) (jobId : Uuid) (workerId : String)
    (claimGeneration : Int) (retryableFailure : Bool) :
    ExecutionJobsTable → Except AppError ExecutionJob × ExecutionJobsTable :=
  updateRow jobId
    (fun row => (row.statusIs "finalizing").and (row.ownedBy now workerId claimGeneration))
    (finished now retryableFailure)

def renewStarted (now : Timestamp) (jobId : Uuid) (workerId : String) (claimGeneration : Int)
    (leaseSeconds : Int) (table : ExecutionJobsTable) :
    Except AppError ExecutionJob × ExecutionJobsTable :=
  match validateExecutionLeaseSeconds leaseSeconds with
  | .error error => (.error error, table)
  | .ok () =>
      updateRow jobId
        (fun row => (((row.statusIs "running").or (row.statusIs "executing")).or
          ((row.statusIs "finalizing").or (row.statusIs "cancel_requested"))).and
            (row.ownedBy now workerId claimGeneration))
        (fun row => { row with leaseExpiresAt := some (now + seconds leaseSeconds) }) table

def setFinalizingFailure (now : Timestamp) (jobId : Uuid) (workerId : String)
    (claimGeneration : Int) (error : String) (finalizationDetails : Json) :
    ExecutionJobsTable → Except AppError ExecutionJob × ExecutionJobsTable :=
  updateRow jobId
    (fun row => (row.statusIs "finalizing").and (row.ownedBy now workerId claimGeneration))
    fun row => { row with lastError := some error, finalizationDetails }

def markOutcomeUnknownFinalizing (now : Timestamp) (jobId : Uuid) (workerId : String)
    (claimGeneration : Int) (error : String) :
    ExecutionJobsTable → Except AppError ExecutionJob × ExecutionJobsTable :=
  updateRow jobId
    (fun row => ((row.statusIs "finalizing").and (row.stageIs "outcome_reconciliation")).and
      (row.ownedBy now workerId claimGeneration))
    fun row => { row with
      status := "outcome_unknown"
      completedAt := coalesce row.completedAt now
      leaseExpiresAt := none
      lastError := some error }

/-- `cancel`: a job that the update does not write is only read. -/
def cancel (jobId : Uuid) (table : ExecutionJobsTable) :
    Except AppError ExecutionJob × ExecutionJobsTable :=
  match updateReturning jobId (fun row => (row.statusIs "queued").or (row.statusIs "running"))
      (fun row => { row with
        status := "cancel_requested"
        finalizationDetails :=
          row.finalizationDetails.concat (stageDetails "cancellation_pending") }) table with
  | (some row, table) => (executionJobFromRow row, table)
  | (none, table) => (get jobId table, table)

def acknowledgeCanceled (now : Timestamp) (jobId : Uuid) (workerId : String)
    (claimGeneration : Int) :
    ExecutionJobsTable → Except AppError ExecutionJob × ExecutionJobsTable :=
  updateRow jobId
    (fun row => ((row.statusIs "cancel_requested").and (row.stageIs "cancellation_cleanup")).and
      (row.ownedBy now workerId claimGeneration))
    fun row => { row with
      status := "canceled"
      completedAt := coalesce row.completedAt now
      leaseExpiresAt := none }

def beginCancellationCleanup (now : Timestamp) (jobId : Uuid) (workerId : String)
    (claimGeneration : Int) :
    ExecutionJobsTable → Except AppError ExecutionJob × ExecutionJobsTable :=
  updateRow jobId
    (fun row => ((row.statusIs "cancel_requested").and (row.stageIs "cancellation_pending")).and
      (row.ownedBy now workerId claimGeneration))
    fun row => { row with
      claimGeneration := row.claimGeneration + 1
      finalizationDetails := row.finalizationDetails.concat (stageDetails "cancellation_cleanup")
      leaseExpiresAt := some (now + claimLease) }

def claimCancellation (now : Timestamp) (jobId : Uuid) (workerId : String) :
    ExecutionJobsTable → Except AppError ExecutionJob × ExecutionJobsTable :=
  updateRow jobId (fun row => (row.statusIs "cancel_requested").and (row.leaseExpired now))
    fun row => { row with
      workerId := some workerId
      leaseExpiresAt := some (now + claimLease)
      claimGeneration := row.claimGeneration + 1
      finalizationDetails :=
        row.finalizationDetails.concat (stageDetails "cancellation_pending") }

/-- The publication of outcomes is left to the trait, which refuses it. -/
def outcomePublication : AppError :=
  .badRequest "execution queue backend does not support outcome publication"

end PostgresExecutionQueue

/-- What the queue in the database does on a call. -/
def QueueOperation.performPostgres (now : Timestamp) : QueueOperation → ExecutionJobsTable →
    Except AppError ExecutionJob × ExecutionJobsTable
  | enqueue id defaultMaxAttempts request =>
      PostgresExecutionQueue.enqueue now id defaultMaxAttempts request
  | start jobId workerId => PostgresExecutionQueue.start now jobId workerId
  | beginExecutingStarted jobId workerId claimGeneration =>
      PostgresExecutionQueue.beginExecutingStarted now jobId workerId claimGeneration
  | markOutcomeUnknownStarted jobId workerId claimGeneration error =>
      PostgresExecutionQueue.markOutcomeUnknownStarted now jobId workerId claimGeneration error
  | beginFinalizingStarted jobId workerId claimGeneration error finalizationDetails =>
      PostgresExecutionQueue.beginFinalizingStarted now jobId workerId claimGeneration error
        finalizationDetails
  | resumeFinalizing jobId workerId => PostgresExecutionQueue.resumeFinalizing now jobId workerId
  | recoverExpiredExecuting jobId workerId error finalizationDetails =>
      PostgresExecutionQueue.recoverExpiredExecuting now jobId workerId error
        finalizationDetails
  | finishFinalizingStarted jobId workerId claimGeneration retryableFailure =>
      PostgresExecutionQueue.finishFinalizingStarted now jobId workerId claimGeneration
        retryableFailure
  | setFinalizingFailure jobId workerId claimGeneration error finalizationDetails =>
      PostgresExecutionQueue.setFinalizingFailure now jobId workerId claimGeneration error
        finalizationDetails
  | markOutcomeUnknownFinalizing jobId workerId claimGeneration error =>
      PostgresExecutionQueue.markOutcomeUnknownFinalizing now jobId workerId claimGeneration
        error
  | prepareOutcomeTail _ _ _ | markOutcomePublished _ =>
      fun table => (.error PostgresExecutionQueue.outcomePublication, table)
  | renewStarted jobId workerId claimGeneration leaseSeconds =>
      PostgresExecutionQueue.renewStarted now jobId workerId claimGeneration leaseSeconds
  | cancel jobId => PostgresExecutionQueue.cancel jobId
  | acknowledgeCanceled jobId workerId claimGeneration =>
      PostgresExecutionQueue.acknowledgeCanceled now jobId workerId claimGeneration
  | beginCancellationCleanup jobId workerId claimGeneration =>
      PostgresExecutionQueue.beginCancellationCleanup now jobId workerId claimGeneration
  | claimCancellation jobId workerId =>
      PostgresExecutionQueue.claimCancellation now jobId workerId

end MandoForge
