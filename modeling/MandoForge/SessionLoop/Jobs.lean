/-
Module: MandoForge.SessionLoop.Jobs
Purpose: The jobs of the session loop in the in-memory store: an enqueue computes
  the next window of the event log and puts it in the one queued job of the
  session; a worker starts, renews, completes or fails a job.
Trusted boundary: an operation reads the clock once.  Sequence numbers do not
  overflow.
Main exports: LoopWindow, commitSessionLoopJob
-/
import MandoForge.Execution.MemoryQueue
import MandoForge.Foundation.Outcome
import MandoForge.Store.Memory

namespace MandoForge

open Foundation

def sessionLoopJobNotFound : AppError := .notFound "session loop job not found"

/-- `max_optional_i64`. -/
def maxOptional : Option Int → Option Int → Option Int
  | some left, some right => some (max left right)
  | some value, none | none, some value => some value
  | none, none => none

theorem maxOptional_cases {left right : Option Int} {seq : Int}
    (isMax : maxOptional left right = some seq) : left = some seq ∨ right = some seq := by
  cases left <;> cases right <;> simp_all [maxOptional]
  omega

theorem le_maxOptional {left right : Option Int} {seq : Int}
    (within : left = some seq ∨ right = some seq) :
    ∃ last, maxOptional left right = some last ∧ seq ≤ last := by
  cases left <;> cases right <;> simp_all [maxOptional]
  omega

def getSession (sessionId : Uuid) (store : MemoryStore) : Except AppError Session :=
  okOr (store.sessions.find? sessionId) (.notFound "session not found")

/-! ### The event log -/

/-- The log of a session, oldest first. -/
def eventsOf (sessionId : Uuid) (store : MemoryStore) : List SessionEvent :=
  store.events.filter fun event => decide (event.sessionId = sessionId)

def sessionEventSeq (sessionId eventId : Uuid) (store : MemoryStore) : Option Int :=
  ((eventsOf sessionId store).find? fun event => decide (event.id = eventId)).map SessionEvent.seq

def latestSessionEventSeq (sessionId : Uuid) (store : MemoryStore) : Option Int :=
  ((eventsOf sessionId store).map SessionEvent.seq).max?

def sessionEventSeqBefore (sessionId : Uuid) (seq : Int) (store : MemoryStore) : Option Int :=
  (((eventsOf sessionId store).map SessionEvent.seq).filter fun earlier =>
    decide (earlier < seq)).max?

def sessionLoopTriggerEventSeq (sessionId : Uuid) (triggerEventId : Option Uuid)
    (store : MemoryStore) : Option Int :=
  (triggerEventId.bind fun eventId => sessionEventSeq sessionId eventId store).or
    (latestSessionEventSeq sessionId store)

/-! ### The cursor of a session -/

namespace SessionLoopJob

def isLive (job : SessionLoopJob) : Bool :=
  match job.status with
  | .queued | .running => true
  | .completed | .failed => false

/-- How far the job brings the cursor: what it processed, and while it is live what
it is to process. -/
def reach (job : SessionLoopJob) : Option Int :=
  maxOptional job.processedEventSeq (if job.isLive then job.pendingEventSeqEnd else none)

theorem reach_cases {job : SessionLoopJob} {seq : Int} (reaches : job.reach = some seq) :
    job.processedEventSeq = some seq ∨
      (job.isLive = true ∧ job.pendingEventSeqEnd = some seq) := by
  rcases maxOptional_cases reaches with processed | pending
  · exact .inl processed
  · split at pending
    · next isLive => exact .inr ⟨isLive, pending⟩
    · cases pending

theorem le_reach {job : SessionLoopJob} {seq : Int}
    (within : job.processedEventSeq = some seq ∨
      (job.isLive = true ∧ job.pendingEventSeqEnd = some seq)) :
    ∃ last, job.reach = some last ∧ seq ≤ last := by
  refine le_maxOptional ?_
  rcases within with processed | ⟨isLive, pending⟩
  · exact .inl processed
  · right
    rw [if_pos isLive, pending]

end SessionLoopJob

/-- The jobs of a session. -/
def sessionLoopJobsOf (sessionId : Uuid) (store : MemoryStore) : List SessionLoopJob :=
  store.sessionLoopJobs.rows.filter fun job => decide (job.sessionId = sessionId)

def sessionLoopCursorHighWatermark (sessionId : Uuid) (store : MemoryStore) : Option Int :=
  ((sessionLoopJobsOf sessionId store).filterMap SessionLoopJob.reach).max?

/-! ### Enqueue -/

/-- What an enqueue reads before it has the lock: the next window, and the cursor
before it. -/
structure LoopWindow where
  environmentId : Option Uuid
  pendingEventSeqStart : Option Int
  pendingEventSeqEnd : Option Int
  cursorHighWatermark : Option Int
deriving DecidableEq, Repr

/-- The cursor that the window is to follow: the high watermark, or the last event
before the trigger; a floor below it moves it back. -/
def sessionLoopCursor (watermark : Option Int) (before : Int → Option Int)
    (floor pendingEventSeqEnd : Option Int) : Option Int :=
  let cursor := watermark.or
    (match floor, pendingEventSeqEnd with
      | some start, _ => some (start - 1)
      | none, some seqEnd => before seqEnd
      | none, none => none)
  match floor with
  | some start => if cursor.any fun seq => decide (start ≤ seq) then some (start - 1) else cursor
  | none => cursor

/-- The reads of `enqueue_session_loop_job_from`. -/
def planSessionLoopWindow (sessionId : Uuid) (triggerEventId : Option Uuid)
    (floor : Option Int) (store : MemoryStore) : Except AppError LoopWindow := do
  let session ← getSession sessionId store
  let pendingEventSeqEnd := sessionLoopTriggerEventSeq sessionId triggerEventId store
  let cursor := sessionLoopCursor (sessionLoopCursorHighWatermark sessionId store)
    (fun seq => sessionEventSeqBefore sessionId seq store) floor pendingEventSeqEnd
  let pendingEventSeqStart := pendingEventSeqEnd.bind fun seqEnd =>
    let seqStart := floor.getD (cursor.getD 0 + 1)
    if seqStart ≤ seqEnd then some seqStart else none
  pure {
    environmentId := session.environmentId
    pendingEventSeqStart
    pendingEventSeqEnd
    cursorHighWatermark := cursor }

/-- The job that an enqueue adds. -/
def newSessionLoopJob (now : Timestamp) (id sessionId : Uuid) (triggerEventId : Option Uuid)
    (reason : String) (window : LoopWindow) : SessionLoopJob where
  id := id
  sessionId := sessionId
  environmentId := window.environmentId
  status := .queued
  triggerEventId := triggerEventId
  pendingEventSeqStart := window.pendingEventSeqStart
  pendingEventSeqEnd := window.pendingEventSeqEnd
  processedEventSeq := window.cursorHighWatermark
  reason := reason
  enqueuedAt := now
  startedAt := none
  completedAt := none
  workerId := none
  leaseExpiresAt := none
  attemptCount := 0
  maxAttempts := 3
  lastError := none

/-- A start that the queued job is to be moved back to. -/
def earlierStart (window : LoopWindow) (existing : SessionLoopJob) : Option Int :=
  window.pendingEventSeqStart.filter fun seqStart =>
    existing.pendingEventSeqStart.all fun existingStart => decide (seqStart < existingStart)

theorem earlierStart_some {window : LoopWindow} {existing : SessionLoopJob} {first : Int}
    (isEarlier : earlierStart window existing = some first) :
    window.pendingEventSeqStart = some first ∧
      ∀ seq, existing.pendingEventSeqStart = some seq → first < seq := by
  obtain ⟨isStart, before⟩ := Option.filter_eq_some_iff.mp isEarlier
  refine ⟨isStart, fun seq isOld => ?_⟩
  simpa [isOld] using before

theorem earlierStart_none {window : LoopWindow} {existing : SessionLoopJob} {first : Int}
    (notEarlier : earlierStart window existing = none)
    (isStart : window.pendingEventSeqStart = some first) :
    ∃ seq, existing.pendingEventSeqStart = some seq ∧ seq ≤ first := by
  have notBefore := Option.filter_eq_none_iff.mp notEarlier first isStart
  cases isOld : existing.pendingEventSeqStart with
  | none => simp [isOld] at notBefore
  | some seq => exact ⟨seq, rfl, by simpa [isOld] using notBefore⟩

/-- What an enqueue makes of the queued job of the session. -/
def coalescedJob (triggerEventId : Option Uuid) (reason : String) (window : LoopWindow)
    (existing : SessionLoopJob) : SessionLoopJob :=
  { existing with
    triggerEventId
    pendingEventSeqStart := (earlierStart window existing).or existing.pendingEventSeqStart
    processedEventSeq :=
      ((earlierStart window existing).map (· - 1)).or existing.processedEventSeq
    pendingEventSeqEnd := maxOptional existing.pendingEventSeqEnd window.pendingEventSeqEnd
    reason }

/-- The queued job of the session. -/
def queuedJobOf (sessionId : Uuid) (store : MemoryStore) : Option SessionLoopJob :=
  store.sessionLoopJobs.rows.find? fun existing =>
    decide (existing.sessionId = sessionId) && decide (existing.status = .queued)

/-- What `enqueue_session_loop_job_from` does under the lock: it coalesces with the
queued job of the session, or adds a job under a new identifier. -/
def commitSessionLoopJob (now : Timestamp) (id sessionId : Uuid) (triggerEventId : Option Uuid)
    (reason : String) (window : LoopWindow) (store : MemoryStore) :
    SessionLoopJob × MemoryStore :=
  match queuedJobOf sessionId store with
  | some existing =>
      (coalescedJob triggerEventId reason window existing,
        { store with sessionLoopJobs :=
            store.sessionLoopJobs.modify existing.id (coalescedJob triggerEventId reason window) })
  | none =>
      let job := newSessionLoopJob now id sessionId triggerEventId reason window
      (job, { store with sessionLoopJobs := store.sessionLoopJobs.insert job })

/-- `enqueue_session_loop_job_from`, as one step. -/
def enqueueSessionLoopJobFrom (now : Timestamp) (id sessionId : Uuid)
    (triggerEventId : Option Uuid) (reason : String) (floor : Option Int)
    (store : MemoryStore) : Except AppError SessionLoopJob × MemoryStore :=
  match planSessionLoopWindow sessionId triggerEventId floor store with
  | .error error => (.error error, store)
  | .ok window =>
      let (job, store) := commitSessionLoopJob now id sessionId triggerEventId reason window store
      (.ok job, store)

def enqueueSessionLoopJob (now : Timestamp) (id sessionId : Uuid)
    (triggerEventId : Option Uuid) (reason : String) (store : MemoryStore) :
    Except AppError SessionLoopJob × MemoryStore :=
  enqueueSessionLoopJobFrom now id sessionId triggerEventId reason none store

/-! ### Start, renew, complete, fail -/

def memorySessionHasPendingActions (store : MemoryStore) (sessionId : Uuid) : Bool :=
  (store.approvals.rows.any fun approval =>
    decide (approval.sessionId = sessionId) && decide (approval.status = .pending)) ||
  store.toolCalls.rows.any fun call =>
    decide (call.sessionId = sessionId) &&
      (decide (call.status = .running) || decide (call.status = .waitingApproval))

def executionPendingForModel (job : ExecutionJob) : Bool :=
  !(decide (job.status = .completed) || decide (job.status = .failed) ||
      decide (job.status = .canceled)) ||
    decide (job.stage = some (.string "completion_pending")) ||
    decide (job.stage = some (.string "failure_pending"))

namespace SessionLoopJob

/-- The claim is over, or there is none. -/
def leaseExpired (now : Timestamp) (job : SessionLoopJob) : Bool :=
  job.leaseExpiresAt.all fun expiresAt => decide (expiresAt ≤ now)

end SessionLoopJob

/-- Another job of the session runs. -/
def hasOtherRunningJob (store : MemoryStore) (job : SessionLoopJob) : Bool :=
  store.sessionLoopJobs.rows.any fun existing =>
    decide (existing.id ≠ job.id) && decide (existing.sessionId = job.sessionId) &&
      decide (existing.status = .running)

/-- A step run of the session is claimed by another worker. -/
def hasForeignStep (now : Timestamp) (store : MemoryStore) (sessionId : Uuid)
    (workerId : String) : Bool :=
  store.workflowStepRuns.rows.any fun step =>
    decide (step.sessionId.or
      ((store.workflowRuns.find? step.workflowRunId).map WorkflowRun.primarySessionId) =
        some sessionId) &&
      decide (step.status = .running) && decide (step.claimedByWorker ≠ some workerId) &&
      step.leaseExpiresAt.any fun deadline => decide (now < deadline)

/-- A queued job can be claimed while no other one runs, a running one when the
claim on it is over. -/
def claimable (now : Timestamp) (store : MemoryStore) (job : SessionLoopJob) : Bool :=
  match job.status with
  | .queued => !hasOtherRunningJob store job
  | .running => job.leaseExpired now
  | .completed | .failed => false

/-- `apply_session_loop_job_status` to Running. -/
def applyRunning (now : Timestamp) (workerId : String) (job : SessionLoopJob) :
    SessionLoopJob :=
  { job with
    status := .running
    startedAt := some now
    completedAt := none
    workerId := some workerId
    leaseExpiresAt := some (now + claimLease)
    attemptCount := job.attemptCount + 1 }

/-- `apply_session_loop_job_status` to Completed. -/
def applyCompleted (now : Timestamp) (job : SessionLoopJob) : SessionLoopJob :=
  { job with
    status := .completed
    completedAt := some now
    leaseExpiresAt := none
    processedEventSeq := job.pendingEventSeqEnd.or job.processedEventSeq }

/-- `apply_session_loop_job_status` to Failed. -/
def applyFailed (now : Timestamp) (error : String) (job : SessionLoopJob) : SessionLoopJob :=
  { job with
    status := .failed
    completedAt := some now
    leaseExpiresAt := none
    lastError := some error }

/-- The session of the job has ended. -/
def sessionTerminal (store : MemoryStore) (sessionId : Uuid) : Bool :=
  (store.sessions.find? sessionId).any fun session =>
    decide (session.status = .terminated) || decide (session.status = .failed)

/-- `start_session_loop_job`; the execution jobs are read before the store is
locked. -/
def startSessionLoopJob (now : Timestamp) (id : Uuid) (workerId : String)
    (executions : ExecutionQueueState) (store : MemoryStore) :
    Except AppError SessionLoopJob × MemoryStore :=
  match store.sessionLoopJobs.find? id with
  | none => (.error sessionLoopJobNotFound, store)
  | some job =>
      let pendingExecution := executions.jobs.rows.any fun execution =>
        decide (execution.sessionId = job.sessionId) && executionPendingForModel execution
      if !sessionTerminal store job.sessionId &&
          (pendingExecution || memorySessionHasPendingActions store job.sessionId) then
        (.error (.notFound "session is waiting for a tool action or approval"), store)
      else if hasForeignStep now store job.sessionId workerId then
        (.error (.notFound "session has a live workflow step owner"), store)
      else if claimable now store job then
        (.ok (applyRunning now workerId job),
          { store with sessionLoopJobs :=
              store.sessionLoopJobs.modify id (applyRunning now workerId) })
      else (.error sessionLoopJobNotFound, store)

/-- Change a job that the worker runs. -/
def changeRunningJob (id : Uuid) (workerId : String)
    (change : SessionLoopJob → SessionLoopJob) (store : MemoryStore)
    (keeps : ∀ job, (change job).id = job.id := by intro _; rfl) :
    Except AppError SessionLoopJob × MemoryStore :=
  match store.sessionLoopJobs.find? id with
  | some job =>
      if job.status = .running ∧ job.workerId = some workerId then
        (.ok (change job),
          { store with sessionLoopJobs := store.sessionLoopJobs.modify id change keeps })
      else (.error sessionLoopJobNotFound, store)
  | none => (.error sessionLoopJobNotFound, store)

def renewSessionLoopJobLease (now : Timestamp) (id : Uuid) (workerId : String)
    (leaseSeconds : Int) (store : MemoryStore) :
    Except AppError SessionLoopJob × MemoryStore :=
  if 1 ≤ leaseSeconds ∧ leaseSeconds ≤ 86400 then
    changeRunningJob id workerId
      (fun job => { job with leaseExpiresAt := some (now + seconds leaseSeconds) }) store
  else
    (.error (.badRequest "session loop lease_seconds must be between 1 and 86400"), store)

def completeSessionLoopJob (now : Timestamp) (id : Uuid) (workerId : String) :
    MemoryStore → Except AppError SessionLoopJob × MemoryStore :=
  changeRunningJob id workerId (applyCompleted now)

def failSessionLoopJob (now : Timestamp) (id : Uuid) (workerId : String) (error : String) :
    MemoryStore → Except AppError SessionLoopJob × MemoryStore :=
  changeRunningJob id workerId (applyFailed now error)

end MandoForge
