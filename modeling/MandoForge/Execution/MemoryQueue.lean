/-
Module: MandoForge.Execution.MemoryQueue
Purpose: The in-memory execution queue: every operation finds a job by its
  identifier, checks what it asks of the job, and changes it, all under one lock.
  What the operations can do to a job is said once, as a relation.
Trusted boundary: an operation reads the clock once, before or after it has the
  lock, so clock values need not grow with the order of the operations.  The
  operations that the source marks as dead code (complete, fail, retry_or_fail)
  are left out.
Main exports: ExecutionQueueState, QueueOperation.perform
-/
import MandoForge.Execution.Jobs
import MandoForge.Foundation.Table

namespace MandoForge

open Foundation

structure ExecutionQueueState where
  jobs : Table ExecutionJob.id
deriving DecidableEq

def executionJobNotFound : AppError := .notFound "execution job not found"

namespace MemoryExecutionQueue

def empty : ExecutionQueueState := ⟨.empty⟩

/-- Find a job that is accepted, and change it. -/
def changeJob (jobId : Uuid) (accepts : ExecutionJob → Bool)
    (change : ExecutionJob → ExecutionJob) (queue : ExecutionQueueState)
    (keeps : ∀ job, (change job).id = job.id := by intro _; rfl) :
    Except AppError ExecutionJob × ExecutionQueueState :=
  match queue.jobs.find? jobId with
  | some job =>
      if accepts job then
        (.ok (change job), { queue with jobs := queue.jobs.modify jobId change keeps })
      else (.error executionJobNotFound, queue)
  | none => (.error executionJobNotFound, queue)

def get (jobId : Uuid) (queue : ExecutionQueueState) : Except AppError ExecutionJob :=
  match queue.jobs.find? jobId with
  | some job => .ok job
  | none => .error executionJobNotFound

/-- `enqueue`; the identifier is a new one. -/
def enqueue (now : Timestamp) (id : Uuid) (defaultMaxAttempts : Int)
    (request : ExecutionJobRequest) (queue : ExecutionQueueState) :
    Except AppError ExecutionJob × ExecutionQueueState :=
  let job := newExecutionJob now id defaultMaxAttempts request
  (.ok job, { queue with jobs := queue.jobs.insert job })

/-- `start`: `update` to Running. -/
def start (now : Timestamp) (jobId : Uuid) (workerId : String) :
    ExecutionQueueState → Except AppError ExecutionJob × ExecutionQueueState :=
  changeJob jobId
    (fun job => decide (job.status = .queued) ||
      (decide (job.status = .running) && job.leaseExpired now))
    fun job => { job with
      status := .running
      startedAt := some now
      workerId := some workerId
      leaseExpiresAt := some (now + claimLease)
      claimGeneration := job.claimGeneration + 1
      attemptCount := job.attemptCount + 1
      lastError := none
      finalizationDetails := emptyJsonObject }

def beginExecutingStarted (now : Timestamp) (jobId : Uuid) (workerId : String)
    (claimGeneration : Int) :
    ExecutionQueueState → Except AppError ExecutionJob × ExecutionQueueState :=
  changeJob jobId
    (fun job => decide (job.status = .running) && job.ownedBy now workerId claimGeneration)
    fun job => { job with status := .executing }

def markOutcomeUnknownStarted (now : Timestamp) (jobId : Uuid) (workerId : String)
    (claimGeneration : Int) (error : String) :
    ExecutionQueueState → Except AppError ExecutionJob × ExecutionQueueState :=
  changeJob jobId
    (fun job => decide (job.status = .executing) && job.ownedBy now workerId claimGeneration)
    fun job => { job with
      status := .outcomeUnknown
      completedAt := some now
      leaseExpiresAt := none
      lastError := some error }

/-- `begin_finalizing_started`: only an error ends a job that did not execute. -/
def beginFinalizingStarted (now : Timestamp) (jobId : Uuid) (workerId : String)
    (claimGeneration : Int) (error : Option String) (finalizationDetails : Json) :
    ExecutionQueueState → Except AppError ExecutionJob × ExecutionQueueState :=
  changeJob jobId
    (fun job => (decide (job.status = .executing) ||
      (error.isSome && decide (job.status = .running))) &&
        job.ownedBy now workerId claimGeneration)
    fun job => { job with status := .finalizing, lastError := error, finalizationDetails }

def resumeFinalizing (now : Timestamp) (jobId : Uuid) (workerId : String) :
    ExecutionQueueState → Except AppError ExecutionJob × ExecutionQueueState :=
  changeJob jobId (fun job => decide (job.status = .finalizing) && job.leaseExpired now)
    fun job => { job with
      workerId := some workerId
      leaseExpiresAt := some (now + claimLease)
      claimGeneration := job.claimGeneration + 1 }

def recoverExpiredExecuting (now : Timestamp) (jobId : Uuid) (workerId : String)
    (error : Option String) (finalizationDetails : Json) :
    ExecutionQueueState → Except AppError ExecutionJob × ExecutionQueueState :=
  changeJob jobId (fun job => decide (job.status = .executing) && job.leaseExpired now)
    fun job => { job with
      status := .finalizing
      workerId := some workerId
      leaseExpiresAt := some (now + claimLease)
      claimGeneration := job.claimGeneration + 1
      lastError := error
      finalizationDetails }

/-- What `finish_finalizing_started` makes of a job. -/
def finished (now : Timestamp) (retryableFailure : Bool) (job : ExecutionJob) : ExecutionJob :=
  if job.lastError = none then
    { job with status := .completed, completedAt := some now, leaseExpiresAt := none }
  else if retryableFailure ∧ job.attemptCount < job.maxAttempts then
    { job with
      status := .queued
      startedAt := none
      completedAt := none
      workerId := none
      leaseExpiresAt := none }
  else { job with status := .failed, completedAt := some now, leaseExpiresAt := none }

theorem finished_id (now : Timestamp) (retryableFailure : Bool) (job : ExecutionJob) :
    (finished now retryableFailure job).id = job.id := by
  unfold finished
  split
  · rfl
  · split <;> rfl

def finishFinalizingStarted (now : Timestamp) (jobId : Uuid) (workerId : String)
    (claimGeneration : Int) (retryableFailure : Bool) (queue : ExecutionQueueState) :
    Except AppError ExecutionJob × ExecutionQueueState :=
  changeJob jobId
    (fun job => decide (job.status = .finalizing) && job.ownedBy now workerId claimGeneration)
    (finished now retryableFailure) queue (finished_id now retryableFailure)

def setFinalizingFailure (now : Timestamp) (jobId : Uuid) (workerId : String)
    (claimGeneration : Int) (error : String) (finalizationDetails : Json) :
    ExecutionQueueState → Except AppError ExecutionJob × ExecutionQueueState :=
  changeJob jobId
    (fun job => decide (job.status = .finalizing) && job.ownedBy now workerId claimGeneration)
    fun job => { job with lastError := some error, finalizationDetails }

def markOutcomeUnknownFinalizing (now : Timestamp) (jobId : Uuid) (workerId : String)
    (claimGeneration : Int) (error : String) :
    ExecutionQueueState → Except AppError ExecutionJob × ExecutionQueueState :=
  changeJob jobId
    (fun job => decide (job.status = .finalizing) &&
      decide (job.stage = some (.string "outcome_reconciliation")) &&
        job.ownedBy now workerId claimGeneration)
    fun job => { job with
      status := .outcomeUnknown
      completedAt := some now
      leaseExpiresAt := none
      lastError := some error }

def prepareOutcomeTail (now : Timestamp) (jobId : Uuid) (workerId : String)
    (claimGeneration : Int) :
    ExecutionQueueState → Except AppError ExecutionJob × ExecutionQueueState :=
  changeJob jobId
    (fun job => decide (job.status = .finalizing) && job.ownedBy now workerId claimGeneration)
    fun job => { job with
      finalizationDetails :=
        stageDetails (if job.lastError.isSome then "failure_pending" else "completion_pending") }

/-- The jobs whose outcome can be published, again or for the first time. -/
def hasPublishableOutcome (job : ExecutionJob) : Bool :=
  match job.status, job.stage with
  | .completed, some (.string stage) =>
      stage = "completion_pending" ∨ stage = "completion_published"
  | .failed, some (.string stage) => stage = "failure_pending" ∨ stage = "failure_published"
  | _, _ => false

theorem completed_or_failed_of_publishable {job : ExecutionJob}
    (publishable : hasPublishableOutcome job = true) :
    job.status = .completed ∨ job.status = .failed := by
  unfold hasPublishableOutcome at publishable
  split at publishable
  · next completed _ => exact .inl completed
  · next failed _ => exact .inr failed
  · exact absurd publishable Bool.false_ne_true

def markOutcomePublished (jobId : Uuid) :
    ExecutionQueueState → Except AppError ExecutionJob × ExecutionQueueState :=
  changeJob jobId hasPublishableOutcome
    fun job => { job with
      finalizationDetails :=
        stageDetails
          (if job.status = .completed then "completion_published" else "failure_published") }

/-- `renew_started` behind the check of the lease. -/
def renewStarted (now : Timestamp) (jobId : Uuid) (workerId : String) (claimGeneration : Int)
    (leaseSeconds : Int) (queue : ExecutionQueueState) :
    Except AppError ExecutionJob × ExecutionQueueState :=
  match validateExecutionLeaseSeconds leaseSeconds with
  | .error error => (.error error, queue)
  | .ok () =>
      changeJob jobId
        (fun job => (decide (job.status = .running) || decide (job.status = .executing) ||
            decide (job.status = .finalizing) || decide (job.status = .cancelRequested)) &&
          job.ownedBy now workerId claimGeneration)
        (fun job => { job with leaseExpiresAt := some (now + seconds leaseSeconds) }) queue

/-- What `cancel` makes of a job. -/
def cancelled (job : ExecutionJob) : ExecutionJob :=
  match job.status with
  | .queued | .running =>
      { job with
        status := .cancelRequested
        finalizationDetails := stageDetails "cancellation_pending" }
  | _ => job

theorem cancelled_id (job : ExecutionJob) : (cancelled job).id = job.id := by
  unfold cancelled
  split <;> rfl

def cancel (jobId : Uuid) (queue : ExecutionQueueState) :
    Except AppError ExecutionJob × ExecutionQueueState :=
  changeJob jobId (fun _ => true) cancelled queue cancelled_id

def acknowledgeCanceled (now : Timestamp) (jobId : Uuid) (workerId : String)
    (claimGeneration : Int) :
    ExecutionQueueState → Except AppError ExecutionJob × ExecutionQueueState :=
  changeJob jobId
    (fun job => decide (job.status = .cancelRequested) &&
      decide (job.stage = some (.string "cancellation_cleanup")) &&
        job.ownedBy now workerId claimGeneration)
    fun job => { job with
      status := .canceled
      completedAt := some now
      leaseExpiresAt := none }

def beginCancellationCleanup (now : Timestamp) (jobId : Uuid) (workerId : String)
    (claimGeneration : Int) :
    ExecutionQueueState → Except AppError ExecutionJob × ExecutionQueueState :=
  changeJob jobId
    (fun job => decide (job.status = .cancelRequested) &&
      decide (job.stage = some (.string "cancellation_pending")) &&
        job.ownedBy now workerId claimGeneration)
    fun job => { job with
      claimGeneration := job.claimGeneration + 1
      finalizationDetails := stageDetails "cancellation_cleanup"
      leaseExpiresAt := some (now + claimLease) }

def claimCancellation (now : Timestamp) (jobId : Uuid) (workerId : String) :
    ExecutionQueueState → Except AppError ExecutionJob × ExecutionQueueState :=
  changeJob jobId (fun job => decide (job.status = .cancelRequested) && job.leaseExpired now)
    fun job => { job with
      workerId := some workerId
      leaseExpiresAt := some (now + claimLease)
      claimGeneration := job.claimGeneration + 1
      finalizationDetails := stageDetails "cancellation_pending" }

/-- A change that succeeds found a job that it accepts. -/
theorem changeJob_ok {jobId : Uuid} {accepts : ExecutionJob → Bool}
    {change : ExecutionJob → ExecutionJob} {keeps : ∀ job, (change job).id = job.id}
    {queue after : ExecutionQueueState} {job : ExecutionJob}
    (changed : changeJob jobId accepts change queue keeps = (.ok job, after)) :
    ∃ before, queue.jobs.find? jobId = some before ∧ accepts before = true ∧
      job = change before ∧ Table.Replaces jobId job queue.jobs after.jobs := by
  unfold changeJob at changed
  cases found : queue.jobs.find? jobId with
  | none => simp [found] at changed
  | some before =>
      simp only [found] at changed
      split at changed
      · next accepted =>
          simp only [Prod.mk.injEq, Except.ok.injEq] at changed
          obtain ⟨rfl, rfl⟩ := changed
          exact ⟨before, rfl, accepted, rfl, Table.replaces_modify keeps found⟩
      · simp at changed

theorem cancelled_of_cancellable {job : ExecutionJob}
    (cancellable : job.status = .queued ∨ job.status = .running) :
    cancelled job = { job with
      status := .cancelRequested
      finalizationDetails := stageDetails "cancellation_pending" } := by
  unfold cancelled
  rcases cancellable with queued | running
  · rw [queued]
  · rw [running]

theorem cancelled_of_not {job : ExecutionJob} (notQueued : job.status ≠ .queued)
    (notRunning : job.status ≠ .running) : cancelled job = job := by
  unfold cancelled
  split
  · next queued => exact absurd queued notQueued
  · next running => exact absurd running notRunning
  · rfl

theorem cancel_ignored {queue : ExecutionQueueState} {jobId : Uuid} {job : ExecutionJob}
    (found : queue.jobs.find? jobId = some job) (notQueued : job.status ≠ .queued)
    (notRunning : job.status ≠ .running) : cancel jobId queue = (.ok job, queue) := by
  have unchanged := cancelled_of_not notQueued notRunning
  have sameTable : queue.jobs.modify jobId cancelled cancelled_id = queue.jobs := by
    refine Table.modify_of_unchanged fun row member isJob => ?_
    have isRow : row = job := by
      have foundRow := Table.find?_key member
      rw [isJob, found] at foundRow
      exact (Option.some.inj foundRow).symm
    rw [isRow, unchanged]
  simp only [cancel, changeJob, found, sameTable, unchanged, if_true]

theorem changeJob_error {jobId : Uuid} {accepts : ExecutionJob → Bool}
    {change : ExecutionJob → ExecutionJob} {keeps : ∀ job, (change job).id = job.id}
    {queue after : ExecutionQueueState} {error : AppError}
    (refused : changeJob jobId accepts change queue keeps = (.error error, after)) :
    after = queue := by
  unfold changeJob at refused
  split at refused
  · split at refused
    · simp at refused
    · exact (congrArg Prod.snd refused).symm
  · exact (congrArg Prod.snd refused).symm

end MemoryExecutionQueue

/-! ### The operations as data -/

/-- A call of the queue, with its arguments. -/
inductive QueueOperation where
  | enqueue (id : Uuid) (defaultMaxAttempts : Int) (request : ExecutionJobRequest)
  | start (jobId : Uuid) (workerId : String)
  | beginExecutingStarted (jobId : Uuid) (workerId : String) (claimGeneration : Int)
  | markOutcomeUnknownStarted (jobId : Uuid) (workerId : String) (claimGeneration : Int)
      (error : String)
  | beginFinalizingStarted (jobId : Uuid) (workerId : String) (claimGeneration : Int)
      (error : Option String) (finalizationDetails : Json)
  | resumeFinalizing (jobId : Uuid) (workerId : String)
  | recoverExpiredExecuting (jobId : Uuid) (workerId : String) (error : Option String)
      (finalizationDetails : Json)
  | finishFinalizingStarted (jobId : Uuid) (workerId : String) (claimGeneration : Int)
      (retryableFailure : Bool)
  | setFinalizingFailure (jobId : Uuid) (workerId : String) (claimGeneration : Int)
      (error : String) (finalizationDetails : Json)
  | markOutcomeUnknownFinalizing (jobId : Uuid) (workerId : String) (claimGeneration : Int)
      (error : String)
  | prepareOutcomeTail (jobId : Uuid) (workerId : String) (claimGeneration : Int)
  | markOutcomePublished (jobId : Uuid)
  | renewStarted (jobId : Uuid) (workerId : String) (claimGeneration : Int)
      (leaseSeconds : Int)
  | cancel (jobId : Uuid)
  | acknowledgeCanceled (jobId : Uuid) (workerId : String) (claimGeneration : Int)
  | beginCancellationCleanup (jobId : Uuid) (workerId : String) (claimGeneration : Int)
  | claimCancellation (jobId : Uuid) (workerId : String)
deriving DecidableEq, Repr

namespace QueueOperation

/-- The job that the call is about. -/
def jobId : QueueOperation → Uuid
  | enqueue id _ _ => id
  | start jobId _ | beginExecutingStarted jobId _ _ | markOutcomeUnknownStarted jobId _ _ _
  | beginFinalizingStarted jobId _ _ _ _ | resumeFinalizing jobId _
  | recoverExpiredExecuting jobId _ _ _ | finishFinalizingStarted jobId _ _ _
  | setFinalizingFailure jobId _ _ _ _ | markOutcomeUnknownFinalizing jobId _ _ _
  | prepareOutcomeTail jobId _ _ | markOutcomePublished jobId | renewStarted jobId _ _ _
  | cancel jobId | acknowledgeCanceled jobId _ _ | beginCancellationCleanup jobId _ _
  | claimCancellation jobId _ => jobId

/-- The claim that a fenced call presents. -/
def presented : QueueOperation → Option (String × Int)
  | beginExecutingStarted _ workerId claimGeneration
  | markOutcomeUnknownStarted _ workerId claimGeneration _
  | beginFinalizingStarted _ workerId claimGeneration _ _
  | finishFinalizingStarted _ workerId claimGeneration _
  | setFinalizingFailure _ workerId claimGeneration _ _
  | markOutcomeUnknownFinalizing _ workerId claimGeneration _
  | prepareOutcomeTail _ workerId claimGeneration
  | renewStarted _ workerId claimGeneration _
  | acknowledgeCanceled _ workerId claimGeneration
  | beginCancellationCleanup _ workerId claimGeneration => some (workerId, claimGeneration)
  | _ => none

/-- The worker that the call hands a new claim to. -/
def claims : QueueOperation → Option String
  | start _ workerId | resumeFinalizing _ workerId | recoverExpiredExecuting _ workerId _ _
  | claimCancellation _ workerId | beginCancellationCleanup _ workerId _ => some workerId
  | _ => none

/-- The call draws an identifier that a job already has. -/
def drawsUsedId (inUse : Uuid → Bool) : QueueOperation → Bool
  | enqueue id _ _ => inUse id
  | _ => false

open MemoryExecutionQueue in
/-- What the in-memory queue does on a call. -/
def perform (now : Timestamp) : QueueOperation → ExecutionQueueState →
    Except AppError ExecutionJob × ExecutionQueueState
  | enqueue id defaultMaxAttempts request =>
      MemoryExecutionQueue.enqueue now id defaultMaxAttempts request
  | start jobId workerId => MemoryExecutionQueue.start now jobId workerId
  | beginExecutingStarted jobId workerId claimGeneration =>
      MemoryExecutionQueue.beginExecutingStarted now jobId workerId claimGeneration
  | markOutcomeUnknownStarted jobId workerId claimGeneration error =>
      MemoryExecutionQueue.markOutcomeUnknownStarted now jobId workerId claimGeneration error
  | beginFinalizingStarted jobId workerId claimGeneration error finalizationDetails =>
      MemoryExecutionQueue.beginFinalizingStarted now jobId workerId claimGeneration error
        finalizationDetails
  | resumeFinalizing jobId workerId => MemoryExecutionQueue.resumeFinalizing now jobId workerId
  | recoverExpiredExecuting jobId workerId error finalizationDetails =>
      MemoryExecutionQueue.recoverExpiredExecuting now jobId workerId error finalizationDetails
  | finishFinalizingStarted jobId workerId claimGeneration retryableFailure =>
      MemoryExecutionQueue.finishFinalizingStarted now jobId workerId claimGeneration
        retryableFailure
  | setFinalizingFailure jobId workerId claimGeneration error finalizationDetails =>
      MemoryExecutionQueue.setFinalizingFailure now jobId workerId claimGeneration error
        finalizationDetails
  | markOutcomeUnknownFinalizing jobId workerId claimGeneration error =>
      MemoryExecutionQueue.markOutcomeUnknownFinalizing now jobId workerId claimGeneration error
  | prepareOutcomeTail jobId workerId claimGeneration =>
      MemoryExecutionQueue.prepareOutcomeTail now jobId workerId claimGeneration
  | markOutcomePublished jobId => MemoryExecutionQueue.markOutcomePublished jobId
  | renewStarted jobId workerId claimGeneration leaseSeconds =>
      MemoryExecutionQueue.renewStarted now jobId workerId claimGeneration leaseSeconds
  | cancel jobId => MemoryExecutionQueue.cancel jobId
  | acknowledgeCanceled jobId workerId claimGeneration =>
      MemoryExecutionQueue.acknowledgeCanceled now jobId workerId claimGeneration
  | beginCancellationCleanup jobId workerId claimGeneration =>
      MemoryExecutionQueue.beginCancellationCleanup now jobId workerId claimGeneration
  | claimCancellation jobId workerId =>
      MemoryExecutionQueue.claimCancellation now jobId workerId

end QueueOperation

/-! ### What a call does to the job it finds -/

/-- The worker holds the job at the time of the call, under this generation. -/
def Owned (now : Timestamp) (workerId : String) (claimGeneration : Int)
    (job : ExecutionJob) : Prop :=
  job.ownedBy now workerId claimGeneration = true

theorem Owned.not_expired {now : Timestamp} {workerId : String} {claimGeneration : Int}
    {job : ExecutionJob} (owned : Owned now workerId claimGeneration job) :
    job.leaseExpired now ≠ true := by
  rw [ExecutionJob.leaseExpired_eq, (ExecutionJob.ownedBy_iff.mp owned).2.2]
  exact Bool.false_ne_true

/-- A call that is accepted on the job `before` leaves it as `after`: what the
call asks of the job, and what it makes of it. -/
inductive Transition (now : Timestamp) :
    QueueOperation → ExecutionJob → ExecutionJob → Prop where
  | start {job : ExecutionJob} {workerId : String}
      (startable : job.status = .queued ∨
        (job.status = .running ∧ job.leaseExpired now = true)) :
      Transition now (.start job.id workerId) job
        { job with
          status := .running
          startedAt := some now
          workerId := some workerId
          leaseExpiresAt := some (now + claimLease)
          claimGeneration := job.claimGeneration + 1
          attemptCount := job.attemptCount + 1
          lastError := none
          finalizationDetails := emptyJsonObject }
  | beginExecuting {job : ExecutionJob} {workerId : String} {claimGeneration : Int}
      (running : job.status = .running) (owned : Owned now workerId claimGeneration job) :
      Transition now (.beginExecutingStarted job.id workerId claimGeneration) job
        { job with status := .executing }
  | outcomeUnknownStarted {job : ExecutionJob} {workerId : String} {claimGeneration : Int}
      {error : String}
      (executing : job.status = .executing) (owned : Owned now workerId claimGeneration job) :
      Transition now (.markOutcomeUnknownStarted job.id workerId claimGeneration error) job
        { job with
          status := .outcomeUnknown
          completedAt := some now
          leaseExpiresAt := none
          lastError := some error }
  | beginFinalizing {job : ExecutionJob} {workerId : String} {claimGeneration : Int}
      {error : Option String} {finalizationDetails : Json}
      (executed : job.status = .executing ∨ (error.isSome = true ∧ job.status = .running))
      (owned : Owned now workerId claimGeneration job) :
      Transition now
        (.beginFinalizingStarted job.id workerId claimGeneration error finalizationDetails) job
        { job with status := .finalizing, lastError := error, finalizationDetails }
  | resumeFinalizing {job : ExecutionJob} {workerId : String}
      (finalizing : job.status = .finalizing) (expired : job.leaseExpired now = true) :
      Transition now (.resumeFinalizing job.id workerId) job
        { job with
          workerId := some workerId
          leaseExpiresAt := some (now + claimLease)
          claimGeneration := job.claimGeneration + 1 }
  | recoverExecuting {job : ExecutionJob} {workerId : String} {error : Option String}
      {finalizationDetails : Json}
      (executing : job.status = .executing) (expired : job.leaseExpired now = true) :
      Transition now (.recoverExpiredExecuting job.id workerId error finalizationDetails) job
        { job with
          status := .finalizing
          workerId := some workerId
          leaseExpiresAt := some (now + claimLease)
          claimGeneration := job.claimGeneration + 1
          lastError := error
          finalizationDetails }
  | complete {job : ExecutionJob} {workerId : String} {claimGeneration : Int}
      {retryableFailure : Bool}
      (finalizing : job.status = .finalizing) (owned : Owned now workerId claimGeneration job)
      (succeeded : job.lastError = none) :
      Transition now
        (.finishFinalizingStarted job.id workerId claimGeneration retryableFailure) job
        { job with status := .completed, completedAt := some now, leaseExpiresAt := none }
  | requeue {job : ExecutionJob} {workerId : String} {claimGeneration : Int}
      (finalizing : job.status = .finalizing) (owned : Owned now workerId claimGeneration job)
      (erred : job.lastError ≠ none) (attemptsLeft : job.attemptCount < job.maxAttempts) :
      Transition now (.finishFinalizingStarted job.id workerId claimGeneration true) job
        { job with
          status := .queued
          startedAt := none
          completedAt := none
          workerId := none
          leaseExpiresAt := none }
  | failed {job : ExecutionJob} {workerId : String} {claimGeneration : Int}
      {retryableFailure : Bool}
      (finalizing : job.status = .finalizing) (owned : Owned now workerId claimGeneration job)
      (erred : job.lastError ≠ none)
      (final : ¬(retryableFailure = true ∧ job.attemptCount < job.maxAttempts)) :
      Transition now
        (.finishFinalizingStarted job.id workerId claimGeneration retryableFailure) job
        { job with status := .failed, completedAt := some now, leaseExpiresAt := none }
  | setFailure {job : ExecutionJob} {workerId : String} {claimGeneration : Int}
      {error : String} {finalizationDetails : Json}
      (finalizing : job.status = .finalizing) (owned : Owned now workerId claimGeneration job) :
      Transition now
        (.setFinalizingFailure job.id workerId claimGeneration error finalizationDetails) job
        { job with lastError := some error, finalizationDetails }
  | outcomeUnknownFinalizing {job : ExecutionJob} {workerId : String} {claimGeneration : Int}
      {error : String}
      (finalizing : job.status = .finalizing) (owned : Owned now workerId claimGeneration job)
      (reconciling : job.stage = some (.string "outcome_reconciliation")) :
      Transition now (.markOutcomeUnknownFinalizing job.id workerId claimGeneration error) job
        { job with
          status := .outcomeUnknown
          completedAt := some now
          leaseExpiresAt := none
          lastError := some error }
  | prepareTail {job : ExecutionJob} {workerId : String} {claimGeneration : Int}
      (finalizing : job.status = .finalizing) (owned : Owned now workerId claimGeneration job) :
      Transition now (.prepareOutcomeTail job.id workerId claimGeneration) job
        { job with
          finalizationDetails :=
            stageDetails
              (if job.lastError.isSome then "failure_pending" else "completion_pending") }
  | publish {job : ExecutionJob}
      (publishable : MemoryExecutionQueue.hasPublishableOutcome job = true) :
      Transition now (.markOutcomePublished job.id) job
        { job with
          finalizationDetails :=
            stageDetails
              (if job.status = .completed then "completion_published"
                else "failure_published") }
  | renew {job : ExecutionJob} {workerId : String} {claimGeneration leaseSeconds : Int}
      (claimed : job.status = .running ∨ job.status = .executing ∨ job.status = .finalizing ∨
        job.status = .cancelRequested)
      (owned : Owned now workerId claimGeneration job) :
      Transition now (.renewStarted job.id workerId claimGeneration leaseSeconds) job
        { job with leaseExpiresAt := some (now + seconds leaseSeconds) }
  | requestCancel {job : ExecutionJob}
      (cancellable : job.status = .queued ∨ job.status = .running) :
      Transition now (.cancel job.id) job
        { job with
          status := .cancelRequested
          finalizationDetails := stageDetails "cancellation_pending" }
  | ignoreCancel {job : ExecutionJob} (notQueued : job.status ≠ .queued)
      (notRunning : job.status ≠ .running) : Transition now (.cancel job.id) job job
  | acknowledge {job : ExecutionJob} {workerId : String} {claimGeneration : Int}
      (requested : job.status = .cancelRequested)
      (owned : Owned now workerId claimGeneration job)
      (cleaned : job.stage = some (.string "cancellation_cleanup")) :
      Transition now (.acknowledgeCanceled job.id workerId claimGeneration) job
        { job with status := .canceled, completedAt := some now, leaseExpiresAt := none }
  | beginCleanup {job : ExecutionJob} {workerId : String} {claimGeneration : Int}
      (requested : job.status = .cancelRequested)
      (owned : Owned now workerId claimGeneration job)
      (pending : job.stage = some (.string "cancellation_pending")) :
      Transition now (.beginCancellationCleanup job.id workerId claimGeneration) job
        { job with
          claimGeneration := job.claimGeneration + 1
          finalizationDetails := stageDetails "cancellation_cleanup"
          leaseExpiresAt := some (now + claimLease) }
  | claimCancellation {job : ExecutionJob} {workerId : String}
      (requested : job.status = .cancelRequested) (expired : job.leaseExpired now = true) :
      Transition now (.claimCancellation job.id workerId) job
        { job with
          workerId := some workerId
          leaseExpiresAt := some (now + claimLease)
          claimGeneration := job.claimGeneration + 1
          finalizationDetails := stageDetails "cancellation_pending" }

open MemoryExecutionQueue

/-- What finishing makes of a job in finalization is a completion, another
attempt, or a failure. -/
theorem Transition.finish {now : Timestamp} {job : ExecutionJob} {workerId : String}
    {claimGeneration : Int} (retryableFailure : Bool) (finalizing : job.status = .finalizing)
    (owned : Owned now workerId claimGeneration job) :
    Transition now (.finishFinalizingStarted job.id workerId claimGeneration retryableFailure)
      job (finished now retryableFailure job) := by
  unfold finished
  split
  · next succeeded => exact .complete finalizing owned succeeded
  · next erred =>
      split
      · next again =>
          obtain ⟨retryable, attemptsLeft⟩ := again
          rw [retryable]
          exact .requeue finalizing owned erred attemptsLeft
      · next final => exact .failed finalizing owned erred final

theorem Transition.cancelled {now : Timestamp} (job : ExecutionJob) :
    Transition now (.cancel job.id) job (cancelled job) := by
  by_cases cancellable : job.status = .queued ∨ job.status = .running
  · rw [cancelled_of_cancellable cancellable]
    exact .requestCancel cancellable
  · obtain ⟨notQueued, notRunning⟩ := not_or.mp cancellable
    rw [cancelled_of_not notQueued notRunning]
    exact .ignoreCancel notQueued notRunning

theorem changeJob_transition {now : Timestamp} {operation : QueueOperation}
    {accepts : ExecutionJob → Bool} {change : ExecutionJob → ExecutionJob}
    {keeps : ∀ job, (change job).id = job.id} {queue after : ExecutionQueueState}
    {job : ExecutionJob}
    (changed : changeJob operation.jobId accepts change queue keeps = (.ok job, after))
    (transition : ∀ before, before.id = operation.jobId → accepts before = true →
      Transition now operation before (change before)) :
    ∃ before, queue.jobs.find? operation.jobId = some before ∧
      Transition now operation before job ∧
        Table.Replaces operation.jobId job queue.jobs after.jobs := by
  obtain ⟨before, found, accepted, rfl, replaces⟩ := changeJob_ok changed
  have sameId := (Table.find?_eq_some.mp found).2
  exact ⟨before, found, transition before sameId accepted, replaces⟩

/-- What a call asks and does, as a relation: every accepted call but an enqueue
found its job, and left a job that the relation allows. -/
theorem perform_ok {now : Timestamp} {operation : QueueOperation}
    {queue after : ExecutionQueueState} {job : ExecutionJob}
    (performed : operation.perform now queue = (.ok job, after)) :
    (∃ id defaultMaxAttempts request, operation = .enqueue id defaultMaxAttempts request ∧
      job = newExecutionJob now id defaultMaxAttempts request ∧
      after.jobs = queue.jobs.insert job) ∨
    ∃ before, queue.jobs.find? operation.jobId = some before ∧
      Transition now operation before job ∧
        Table.Replaces operation.jobId job queue.jobs after.jobs := by
  cases operation with
  | enqueue id defaultMaxAttempts request =>
      left
      simp only [QueueOperation.perform, enqueue, Prod.mk.injEq, Except.ok.injEq] at performed
      obtain ⟨rfl, rfl⟩ := performed
      exact ⟨id, defaultMaxAttempts, request, rfl, rfl, rfl⟩
  | start jobId workerId =>
      refine .inr (changeJob_transition performed fun before sameId accepted => ?_)
      obtain rfl : before.id = jobId := sameId
      simp only [Bool.or_eq_true, Bool.and_eq_true, decide_eq_true_eq] at accepted
      exact .start accepted
  | beginExecutingStarted jobId workerId claimGeneration =>
      refine .inr (changeJob_transition performed fun before sameId accepted => ?_)
      obtain rfl : before.id = jobId := sameId
      simp only [Bool.and_eq_true, decide_eq_true_eq] at accepted
      exact .beginExecuting accepted.1 accepted.2
  | markOutcomeUnknownStarted jobId workerId claimGeneration error =>
      refine .inr (changeJob_transition performed fun before sameId accepted => ?_)
      obtain rfl : before.id = jobId := sameId
      simp only [Bool.and_eq_true, decide_eq_true_eq] at accepted
      exact .outcomeUnknownStarted accepted.1 accepted.2
  | beginFinalizingStarted jobId workerId claimGeneration error finalizationDetails =>
      refine .inr (changeJob_transition performed fun before sameId accepted => ?_)
      obtain rfl : before.id = jobId := sameId
      simp only [Bool.and_eq_true, Bool.or_eq_true, decide_eq_true_eq] at accepted
      exact .beginFinalizing accepted.1 accepted.2
  | resumeFinalizing jobId workerId =>
      refine .inr (changeJob_transition performed fun before sameId accepted => ?_)
      obtain rfl : before.id = jobId := sameId
      simp only [Bool.and_eq_true, decide_eq_true_eq] at accepted
      exact .resumeFinalizing accepted.1 accepted.2
  | recoverExpiredExecuting jobId workerId error finalizationDetails =>
      refine .inr (changeJob_transition performed fun before sameId accepted => ?_)
      obtain rfl : before.id = jobId := sameId
      simp only [Bool.and_eq_true, decide_eq_true_eq] at accepted
      exact .recoverExecuting accepted.1 accepted.2
  | finishFinalizingStarted jobId workerId claimGeneration retryableFailure =>
      refine .inr (changeJob_transition performed fun before sameId accepted => ?_)
      obtain rfl : before.id = jobId := sameId
      simp only [Bool.and_eq_true, decide_eq_true_eq] at accepted
      exact .finish retryableFailure accepted.1 accepted.2
  | setFinalizingFailure jobId workerId claimGeneration error finalizationDetails =>
      refine .inr (changeJob_transition performed fun before sameId accepted => ?_)
      obtain rfl : before.id = jobId := sameId
      simp only [Bool.and_eq_true, decide_eq_true_eq] at accepted
      exact .setFailure accepted.1 accepted.2
  | markOutcomeUnknownFinalizing jobId workerId claimGeneration error =>
      refine .inr (changeJob_transition performed fun before sameId accepted => ?_)
      obtain rfl : before.id = jobId := sameId
      simp only [Bool.and_eq_true, decide_eq_true_eq] at accepted
      exact .outcomeUnknownFinalizing accepted.1.1 accepted.2 accepted.1.2
  | prepareOutcomeTail jobId workerId claimGeneration =>
      refine .inr (changeJob_transition performed fun before sameId accepted => ?_)
      obtain rfl : before.id = jobId := sameId
      simp only [Bool.and_eq_true, decide_eq_true_eq] at accepted
      exact .prepareTail accepted.1 accepted.2
  | markOutcomePublished jobId =>
      refine .inr (changeJob_transition performed fun before sameId accepted => ?_)
      obtain rfl : before.id = jobId := sameId
      exact .publish accepted
  | renewStarted jobId workerId claimGeneration leaseSeconds =>
      simp only [QueueOperation.perform, MemoryExecutionQueue.renewStarted] at performed
      split at performed
      · exact absurd (congrArg Prod.fst performed) (by simp)
      · refine .inr (changeJob_transition performed fun before sameId accepted => ?_)
        obtain rfl : before.id = jobId := sameId
        simp only [Bool.and_eq_true, Bool.or_eq_true, decide_eq_true_eq, or_assoc] at accepted
        exact .renew accepted.1 accepted.2
  | cancel jobId =>
      refine .inr (changeJob_transition performed fun before sameId _ => ?_)
      obtain rfl : before.id = jobId := sameId
      exact .cancelled before
  | acknowledgeCanceled jobId workerId claimGeneration =>
      refine .inr (changeJob_transition performed fun before sameId accepted => ?_)
      obtain rfl : before.id = jobId := sameId
      simp only [Bool.and_eq_true, decide_eq_true_eq] at accepted
      exact .acknowledge accepted.1.1 accepted.2 accepted.1.2
  | beginCancellationCleanup jobId workerId claimGeneration =>
      refine .inr (changeJob_transition performed fun before sameId accepted => ?_)
      obtain rfl : before.id = jobId := sameId
      simp only [Bool.and_eq_true, decide_eq_true_eq] at accepted
      exact .beginCleanup accepted.1.1 accepted.2 accepted.1.2
  | claimCancellation jobId workerId =>
      refine .inr (changeJob_transition performed fun before sameId accepted => ?_)
      obtain rfl : before.id = jobId := sameId
      simp only [Bool.and_eq_true, decide_eq_true_eq] at accepted
      exact .claimCancellation accepted.1 accepted.2

theorem perform_error {now : Timestamp} {operation : QueueOperation}
    {queue after : ExecutionQueueState} {error : AppError}
    (refused : operation.perform now queue = (.error error, after)) : after = queue := by
  cases operation with
  | enqueue id defaultMaxAttempts request => exact absurd (congrArg Prod.fst refused) nofun
  | renewStarted jobId workerId claimGeneration leaseSeconds =>
      simp only [QueueOperation.perform, MemoryExecutionQueue.renewStarted] at refused
      split at refused
      · exact (congrArg Prod.snd refused).symm
      · exact changeJob_error refused
  | _ => exact changeJob_error refused

end MandoForge
