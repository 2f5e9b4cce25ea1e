/-
Module: MandoForge.SessionLoop.PostgresJobs
Purpose: The jobs of the session loop in the database: an enqueue is one insert that
  turns into an update of the queued job on a conflict, and a start, a completion and a
  failure are one conditional update each, with the columns, the CASE expressions and the
  comparisons with NULL of its statement.
Trusted boundary: a statement is atomic and reads one time.  The tables hold the rows of
  one tenant and keep the foreign keys and the check of the status column that the schema
  declares, so a status is one of four.  Triggers are left out.  Sequence numbers do not
  overflow.
Main exports: PostgresLoop.cursorHighWatermark, PostgresLoop.startSessionLoopJob
-/
import MandoForge.Execution.PostgresQueue
import MandoForge.SessionLoop.Jobs

namespace MandoForge

open Foundation

/-- `NULLIF(value, null)`. -/
def nullIf (value null : Int) : Option Int :=
  if value = null then none else some value

namespace SessionLoopJob

/-- `status = 'status'`. -/
def statusIs (status : SessionLoopJobStatus) (row : SessionLoopJob) : Truth :=
  Truth.equal (some row.status) (some status)

/-- What the statement of `session_loop_cursor_high_watermark` computes from a row: the
`GREATEST` of two columns in which NULL counts as 0. -/
def cursorColumn (row : SessionLoopJob) : Int :=
  max (row.processedEventSeq.getD 0)
    (caseWhen ((row.statusIs .queued).or (row.statusIs .running))
      (row.pendingEventSeqEnd.getD 0) 0)

end SessionLoopJob

/-! ### What an enqueue computes before its statement -/

/-- The reads of `enqueue_session_loop_job_from` with the watermark of one backend. -/
def planLoopWindow (watermark : Option Int) (sessionId : Uuid) (triggerEventId : Option Uuid)
    (floor : Option Int) (tables : MemoryStore) : Except AppError LoopWindow := do
  let session ← getSession sessionId tables
  let pendingEventSeqEnd := sessionLoopTriggerEventSeq sessionId triggerEventId tables
  let cursor := sessionLoopCursor watermark
    (fun seq => sessionEventSeqBefore sessionId seq tables) floor pendingEventSeqEnd
  let pendingEventSeqStart := pendingEventSeqEnd.bind fun seqEnd =>
    let seqStart := floor.getD (cursor.getD 0 + 1)
    if seqStart ≤ seqEnd then some seqStart else none
  pure {
    environmentId := session.environmentId
    pendingEventSeqStart
    pendingEventSeqEnd
    cursorHighWatermark := cursor }

namespace PostgresLoop

/-! ### The statements -/

/-- `SELECT MAX(GREATEST(..))`, kept when it is above 0. -/
def cursorHighWatermark (sessionId : Uuid) (tables : MemoryStore) : Option Int :=
  ((sessionLoopJobsOf sessionId tables).map SessionLoopJob.cursorColumn).max?.filter
    fun seq => decide (0 < seq)

/-- The assignments of `ON CONFLICT .. DO UPDATE`. -/
def upserted (excluded existing : SessionLoopJob) : SessionLoopJob :=
  { existing with
    triggerEventId := excluded.triggerEventId
    pendingEventSeqStart :=
      match existing.pendingEventSeqStart, excluded.pendingEventSeqStart with
      | none, start => start
      | start, none => start
      | some existingStart, some excludedStart => some (min existingStart excludedStart)
    pendingEventSeqEnd := nullIf (max (existing.pendingEventSeqEnd.getD 0)
      (excluded.pendingEventSeqEnd.getD 0)) 0
    processedEventSeq :=
      caseWhen ((Truth.isNotNull excluded.pendingEventSeqStart).and
          ((Truth.isNull existing.pendingEventSeqStart).or
            (Truth.compare (fun earlier later => decide (earlier < later))
              excluded.pendingEventSeqStart existing.pendingEventSeqStart)))
        excluded.processedEventSeq existing.processedEventSeq
    reason := excluded.reason }

/-- The foreign key of `trigger_event_id`. -/
def triggerIsStored (triggerEventId : Option Uuid) (tables : MemoryStore) : Bool :=
  triggerEventId.all fun eventId => tables.events.any fun event => decide (event.id = eventId)

/-- What a statement that breaks a foreign key is refused with. -/
def foreignKeyViolation : AppError :=
  .internal "violates foreign key constraint session_loop_jobs_trigger_event_id_fkey"

/-- `INSERT .. ON CONFLICT (tenant_id, session_id) WHERE status = 'queued' DO UPDATE ..`. -/
def upsertReturning (job : SessionLoopJob) (tables : MemoryStore) :
    Except AppError SessionLoopJob × MemoryStore :=
  if !triggerIsStored job.triggerEventId tables then (.error foreignKeyViolation, tables)
  else
    match queuedJobOf job.sessionId tables with
    | some existing =>
        (.ok (upserted job existing), { tables with
          sessionLoopJobs := tables.sessionLoopJobs.modify existing.id (upserted job) })
    | none => (.ok job, { tables with sessionLoopJobs := tables.sessionLoopJobs.insert job })

/-- `UPDATE session_loop_jobs SET assignments WHERE id = $ AND condition RETURNING ..`. -/
def updateReturning (id : Uuid) (condition : SessionLoopJob → Truth)
    (assign : SessionLoopJob → SessionLoopJob) (tables : MemoryStore)
    (keeps : ∀ row, (assign row).id = row.id := by intro _; rfl) :
    Except AppError SessionLoopJob × MemoryStore :=
  match tables.sessionLoopJobs.find? id with
  | some row =>
      if (condition row).holds then
        (.ok (assign row),
          { tables with sessionLoopJobs := tables.sessionLoopJobs.modify id assign keeps })
      else (.error sessionLoopJobNotFound, tables)
  | none => (.error sessionLoopJobNotFound, tables)

/-- `SESSION_PENDING_ACTIONS_SQL`. -/
def sessionHasPendingActions (sessionId : Uuid) (executions : ExecutionQueueState)
    (tables : MemoryStore) : Bool :=
  (tables.sessions.rows.any fun session => decide (session.id = sessionId) &&
      !(decide (session.status = .terminated) || decide (session.status = .failed))) &&
    ((tables.approvals.rows.any fun approval =>
        decide (approval.sessionId = sessionId) && decide (approval.status = .pending)) ||
      (tables.toolCalls.rows.any fun call =>
        decide (call.sessionId = sessionId) &&
          (decide (call.status = .running) || decide (call.status = .waitingApproval))) ||
      executions.jobs.rows.any fun execution =>
        decide (execution.sessionId = sessionId) &&
          (!(decide (execution.status = .completed) || decide (execution.status = .failed) ||
              decide (execution.status = .canceled)) ||
            (decide (execution.stage = some (.string "completion_pending")) ||
              decide (execution.stage = some (.string "failure_pending")))))

/-- The step run of the session that another worker has claimed, with its workflow run. -/
def foreignStep (now : Timestamp) (sessionId : Uuid) (workerId : String) (tables : MemoryStore) :
    Bool :=
  tables.workflowStepRuns.rows.any fun step =>
    (tables.workflowRuns.find? step.workflowRunId).any fun run =>
      ((Truth.equal (coalesce step.sessionId run.primarySessionId) (some sessionId)).and
        ((Truth.equal (some step.status) (some .running)).and
          ((Truth.ofBool (decide (step.claimedByWorker ≠ some workerId))).and
            (Truth.compare (fun deadline time => decide (time < deadline))
              step.leaseExpiresAt (some now))))).holds

/-- The condition of the update of a start. -/
def claimable (now : Timestamp) (tables : MemoryStore) (row : SessionLoopJob) : Truth :=
  ((row.statusIs .queued).and (Truth.ofBool (tables.sessionLoopJobs.rows.any fun running =>
      decide (running.sessionId = row.sessionId) && decide (running.id ≠ row.id) &&
        (running.statusIs .running).holds)).not).or
    ((row.statusIs .running).and ((Truth.isNull row.leaseExpiresAt).or
      (Truth.compare (fun lease time => decide (lease ≤ time)) row.leaseExpiresAt (some now))))

/-- The assignments of a start. -/
def started (now : Timestamp) (workerId : String) (row : SessionLoopJob) : SessionLoopJob :=
  { row with
    status := .running
    startedAt := coalesce row.startedAt now
    completedAt := none
    workerId := some workerId
    leaseExpiresAt := some (now + claimLease)
    attemptCount := row.attemptCount + 1 }

/-- The assignments of a completion or a failure. -/
def ended (now : Timestamp) (status : SessionLoopJobStatus) (lastError : Option String)
    (row : SessionLoopJob) : SessionLoopJob :=
  { row with
    status
    completedAt := coalesce row.completedAt now
    leaseExpiresAt := none
    processedEventSeq :=
      caseWhen (Truth.equal (some status) (some .completed))
        (row.pendingEventSeqEnd.or row.processedEventSeq) row.processedEventSeq
    lastError := lastError.or row.lastError }

/-! ### The operations -/

def enqueueSessionLoopJobFrom (now : Timestamp) (id sessionId : Uuid)
    (triggerEventId : Option Uuid) (reason : String) (floor : Option Int)
    (tables : MemoryStore) : Except AppError SessionLoopJob × MemoryStore :=
  match planLoopWindow (cursorHighWatermark sessionId tables) sessionId triggerEventId floor
      tables with
  | .error error => (.error error, tables)
  | .ok window =>
      upsertReturning (newSessionLoopJob now id sessionId triggerEventId reason window) tables

def startSessionLoopJob (now : Timestamp) (id : Uuid) (workerId : String)
    (executions : ExecutionQueueState) (tables : MemoryStore) :
    Except AppError SessionLoopJob × MemoryStore :=
  match tables.sessionLoopJobs.find? id with
  | none => (.error sessionLoopJobNotFound, tables)
  | some job =>
      if sessionHasPendingActions job.sessionId executions tables then
        (.error (.notFound "session is waiting for a tool action or approval"), tables)
      else if foreignStep now job.sessionId workerId tables then
        (.error (.notFound "session has a live workflow step owner"), tables)
      else updateReturning id (claimable now tables) (started now workerId) tables

/-- The worker runs the job. -/
def runsJob (workerId : String) (row : SessionLoopJob) : Truth :=
  (row.statusIs .running).and (Truth.equal row.workerId (some workerId))

def completeSessionLoopJob (now : Timestamp) (id : Uuid) (workerId : String) :
    MemoryStore → Except AppError SessionLoopJob × MemoryStore :=
  updateReturning id (runsJob workerId) (ended now .completed none)

def failSessionLoopJob (now : Timestamp) (id : Uuid) (workerId : String) (error : String) :
    MemoryStore → Except AppError SessionLoopJob × MemoryStore :=
  updateReturning id (runsJob workerId) (ended now .failed (some error))

end PostgresLoop

end MandoForge
