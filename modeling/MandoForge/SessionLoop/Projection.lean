/-
Module: MandoForge.SessionLoop.Projection
Purpose: How an event of a session becomes work for its loop: which sequence numbers
  the jobs of the session are in charge of, what holds an event back, and the
  enqueue.
Trusted boundary: the payload of an event about a thread keeps the fields that a
  thread has here.  A primary thread is not the thread of a specialist.
Main exports: effectiveRange, sessionLoopProjectionCoversRange
-/
import MandoForge.Execution.Outcome

namespace MandoForge

open Foundation

/-! ### The ranges of the jobs -/

/-- The range of sequence numbers that a job is in charge of, if it has one. -/
def effectiveRange (job : SessionLoopJob) : Option (Int × Int) :=
  match job.pendingEventSeqStart, job.reach with
  | some rangeStart, some rangeEnd =>
      if rangeStart ≤ rangeEnd then some (rangeStart, rangeEnd) else none
  | _, _ => none

/-- The loop of `session_loop_projection_covers_range` over the sorted ranges. -/
def rangesCover (seqEnd : Int) : List (Int × Int) → Int → Bool
  | [], _ => false
  | (rangeStart, rangeEnd) :: rest, nextSeq =>
      if rangeEnd < nextSeq then rangesCover seqEnd rest nextSeq
      else if nextSeq < rangeStart then false
      else if seqEnd ≤ rangeEnd then true
      else rangesCover seqEnd rest (rangeEnd + 1)

/-- `sort_unstable` on pairs. -/
def rangeLe (first second : Int × Int) : Bool :=
  decide (first.1 < second.1 ∨ (first.1 = second.1 ∧ first.2 ≤ second.2))

/-- What `session_loop_projection_covers_range` makes of the listed jobs. -/
def jobsCoverRange (sessionId : Uuid) (seqStart seqEnd : Int) (jobs : List SessionLoopJob) :
    Bool :=
  rangesCover seqEnd (((jobs.filter fun job => decide (job.sessionId = sessionId)).filterMap
    effectiveRange).mergeSort rangeLe) seqStart

def sessionLoopProjectionCoversRange (sessionId : Uuid) (seqStart seqEnd : Int) :
    ExecutionProgram Bool :=
  if seqEnd < seqStart then pure true
  else do
    let jobs ← ExecutionState.listSessionLoopJobs
    pure (jobsCoverRange sessionId seqStart seqEnd jobs)

/-- A job of the session is in charge of the sequence number. -/
def InEffectiveRange (sessionId : Uuid) (store : MemoryStore) (seq : Int) : Prop :=
  ∃ job ∈ store.sessionLoopJobs, job.sessionId = sessionId ∧
    ∃ range, effectiveRange job = some range ∧ range.1 ≤ seq ∧ seq ≤ range.2

/-! ### What holds an event back -/

/-- `session_accepts_worker_execution`, of the status. -/
def SessionStatus.acceptsWorkerExecution : SessionStatus → Bool
  | .idle | .running | .requiresAction | .rescheduling => true
  | .terminated | .failed => false

def sessionAcceptsWorkerExecution (sessionId : Uuid) : ExecutionProgram Bool := do
  let session ← ExecutionState.getSession sessionId
  pure session.status.acceptsWorkerExecution

/-- The jobs of the session whose completion is still to be published. -/
def completionIsPending (sessionId : Uuid) (job : ExecutionJob) : Bool :=
  decide (job.sessionId = sessionId) && decide (job.status = .completed) &&
    decide (job.finalizationDetails.index "stage" = .string "completion_pending")

/-- The loop of `earliest_uncovered_pending_tool_result_seq`. -/
def earliestUncovered (sessionId : Uuid) :
    List ExecutionJob → Option Int → ExecutionProgram (Option Int)
  | [], earliest => pure earliest
  | job :: rest, earliest => do
      let event ← latestDurableToolOutcomeEvent job
      match event.filter fun event => decide (event.eventType = "tool.result") with
      | none => throw (.internal "completed execution is missing its durable tool result")
      | some result =>
          let covered ← sessionLoopProjectionCoversRange sessionId result.seq result.seq
          earliestUncovered sessionId rest (if covered then earliest
            else some (earliest.elim result.seq fun seq => min seq result.seq))

def earliestUncoveredPendingToolResultSeq (sessionId : Uuid) :
    ExecutionProgram (Option Int) := do
  let jobs ← ExecutionState.listExecutionJobs
  earliestUncovered sessionId (jobs.filter (completionIsPending sessionId)) none

/-- The tool calls of the session whose job has no completion event. -/
def hiddenToolCallIds (sessionId : Uuid) (jobs : List ExecutionJob)
    (events : List SessionEvent) : List Uuid :=
  (jobs.filter fun job => decide (job.sessionId = sessionId) &&
    !events.any fun event => executionCompletionEventMatchesJob event job).map
      ExecutionJob.toolCallId

def hasUnresolvedExecutionResultAtOrBefore (sessionId : Uuid) (eventSeq : Int) :
    ExecutionProgram Bool := do
  let jobs ← ExecutionState.listExecutionJobs
  let events ← ExecutionState.listEvents sessionId
  pure (events.any fun event => decide (event.seq ≤ eventSeq) &&
    decide (event.eventType = "tool.result") &&
    event.actorId.any fun actorId => decide (actorId ∈ hiddenToolCallIds sessionId jobs events))

/-! ### The status of a session -/

def sessionThreadEventPayload (thread : SessionThread) : Json := .ofFields [
  ("thread_id", .ofUuid thread.id),
  ("session_id", .ofUuid thread.sessionId),
  ("thread_kind", .string thread.threadKind),
  ("status", .string thread.status)]

/-- An event of the system. -/
def systemEntry (actorId : Option Uuid) (sessionId : Uuid) (eventType : String)
    (payload : Json) : NewEvent :=
  ⟨"system", actorId, sessionId, eventType, payload⟩

def ensurePrimarySessionThread (sessionId : Uuid) : ExecutionProgram SessionThread := do
  let existing ← ExecutionState.primarySessionThread sessionId
  match existing with
  | some thread => pure thread
  | none => do
      let session ← ExecutionState.getSession sessionId
      let id ← ExecutionState.newUuid
      let thread ← ExecutionState.createSessionThread
        ⟨id, sessionId, "primary", managedThreadStatusForSession session.status⟩
      let _ ← ExecutionState.appendEvent (systemEntry (some thread.id) sessionId "thread.created"
        (sessionThreadEventPayload thread))
      pure thread

/-- `set_managed_session_status`, to a status that does not end the session. -/
def setManagedSessionStatus (sessionId : Uuid) (status : SessionStatus) (reason : String) :
    ExecutionProgram Session := do
  let thread ← ensurePrimarySessionThread sessionId
  let (session, updatedThread) ← ExecutionState.setSessionAndPrimaryThreadStatus sessionId
    thread.id status (managedThreadStatusForSession status)
  if let some updatedThread := updatedThread then
    let _ ← ExecutionState.appendEvent (systemEntry (some updatedThread.id) sessionId
      "thread.status_changed" (sessionThreadEventPayload updatedThread))
  let _ ← ExecutionState.appendEvent (systemEntry none sessionId
    (managedSessionStatusEvent session.status) (.ofFields [
      ("status", .string (managedThreadStatusForSession session.status)),
      ("reason", .string reason),
      ("environment_id", .ofOption .ofUuid session.environmentId)]))
  pure session

/-! ### Projection -/

/-- The status of a job of the session loop as the events spell it. -/
def SessionLoopJobStatus.asStr : SessionLoopJobStatus → String
  | .queued => "queued"
  | .running => "running"
  | .completed => "completed"
  | .failed => "failed"

def enqueueSessionLoopFrom (sessionId : Uuid) (triggerEventId : Option Uuid) (reason : String)
    (floor : Option Int) : ExecutionProgram SessionLoopJob := do
  let accepts ← sessionAcceptsWorkerExecution sessionId
  if !accepts then
    throw (.badRequest "session is terminal and cannot enqueue session loop work")
  else do
    let window ← ExecutionState.planSessionLoopWindow sessionId triggerEventId floor
    let job ← ExecutionState.commitSessionLoopJob sessionId triggerEventId reason window
    let _ ← ExecutionState.appendEvent (systemEntry (some job.id) sessionId
      "session.loop.queued" (.ofFields [
        ("session_loop_job_id", .ofUuid job.id),
        ("environment_id", .ofOption .ofUuid job.environmentId),
        ("reason", .string job.reason),
        ("status", .string job.status.asStr)]))
    pure job

def sessionLoopReasonForEvent (eventType : String) : Option String :=
  match eventType with
  | "session.goal.created" | "session.goal.updated" | "session.goal.completed"
  | "session.goal.blocked" | "user.message" | "user.custom_tool_result" | "tool.result" =>
      some eventType
  | "approval.approved" => some "approval approved"
  | "approval.rejected" => some "approval rejected"
  | "execution.completed" => some "approved execution completed"
  | "execution.failed" => some "approved execution failed"
  | _ => none

/-- `trusted_execution_completion_event` and `trusted_execution_failure_event`: a job
stands behind the event. -/
def trustedOutcomeEvent (matchesJob : SessionEvent → ExecutionJob → Bool)
    (event : SessionEvent) : ExecutionProgram Bool :=
  match event.actorId with
  | none => pure false
  | some jobId => do
      let jobs ← ExecutionState.listExecutionJobs
      pure (jobs.any fun job => decide (job.id = jobId) && matchesJob event job)

/-- What `project_session_event_to_loop_from` asks of an event about an outcome. -/
def eventIsTrusted (event : SessionEvent) : ExecutionProgram Bool :=
  if event.eventType = "execution.completed" then
    trustedOutcomeEvent executionCompletionEventMatchesJob event
  else if event.eventType = "execution.failed" then
    trustedOutcomeEvent executionFailureEventMatchesJob event
  else pure true

/-- The events that wake a session up. -/
def wakesSession (eventType : String) : Bool :=
  decide (eventType = "approval.approved") || decide (eventType = "approval.rejected") ||
    decide (eventType = "execution.completed") || decide (eventType = "execution.failed")

/-- The session is set to idle, if the event wakes it up; false if it ended. -/
def wakeSession (event : SessionEvent) : ExecutionProgram Bool :=
  if wakesSession event.eventType then do
    let accepts ← sessionAcceptsWorkerExecution event.sessionId
    if accepts then do
      let _ ← setManagedSessionStatus event.sessionId .idle
        "durable event projected to session loop"
      pure true
    else pure false
  else pure true

/-- The smaller of the requested floor and the pending one. -/
def floorOf : Option Int → Option Int → Option Int
  | some requested, some pending => some (min requested pending)
  | some seq, none | none, some seq => some seq
  | none, none => none

def sessionLoopProjectionCovers (sessionId : Uuid) (eventSeq : Int) (jobs : List SessionLoopJob) :
    Bool :=
  ((jobs.filter fun job => decide (job.sessionId = sessionId)).filterMap
    SessionLoopJob.reach).max?.any fun watermark => decide (eventSeq ≤ watermark)

/-- The event is in the charge of a job already. -/
def projectionCoversEvent (event : SessionEvent) : Option Int → ExecutionProgram Bool
  | some seqStart => sessionLoopProjectionCoversRange event.sessionId seqStart event.seq
  | none => do
      let jobs ← ExecutionState.listSessionLoopJobs
      pure (sessionLoopProjectionCovers event.sessionId event.seq jobs)

def projectSessionEventToLoopFrom (event : SessionEvent) (requestedFloor : Option Int) :
    ExecutionProgram (Option SessionLoopJob) :=
  match sessionLoopReasonForEvent event.eventType with
  | none => pure none
  | some reason => do
      let trusted ← eventIsTrusted event
      if !trusted then pure none
      else do
        let awake ← wakeSession event
        if !awake then pure none
        else do
          let unresolved ← hasUnresolvedExecutionResultAtOrBefore event.sessionId event.seq
          if unresolved then pure none
          else do
            let pending ← earliestUncoveredPendingToolResultSeq event.sessionId
            let floor := floorOf requestedFloor pending
            let covered ← projectionCoversEvent event floor
            if covered then pure none
            else do
              let job ← enqueueSessionLoopFrom event.sessionId (some event.id) reason floor
              pure (some job)

/-! ### What the ranges cover -/

theorem rangeLe_trans (first second third : Int × Int) (before : rangeLe first second = true)
    (after : rangeLe second third = true) : rangeLe first third = true := by
  simp only [rangeLe, decide_eq_true_eq] at before after ⊢
  omega

theorem rangeLe_total (first second : Int × Int) :
    (rangeLe first second || rangeLe second first) = true := by
  simp only [rangeLe, Bool.or_eq_true, decide_eq_true_eq]
  omega

/-- Sorted ranges cover what each sequence number is in one of them. -/
theorem rangesCover_iff {seqEnd : Int} {ranges : List (Int × Int)}
    (sorted : ranges.Pairwise fun first second => rangeLe first second = true) {nextSeq : Int}
    (within : nextSeq ≤ seqEnd) :
    rangesCover seqEnd ranges nextSeq = true ↔
      ∀ seq, nextSeq ≤ seq → seq ≤ seqEnd → ∃ range ∈ ranges, range.1 ≤ seq ∧ seq ≤ range.2 := by
  induction ranges generalizing nextSeq with
  | nil =>
      refine ⟨fun covers => (nomatch covers), fun all => ?_⟩
      obtain ⟨range, member, -⟩ := all nextSeq (Int.le_refl _) within
      cases member
  | cons range rest inductionHypothesis =>
      obtain ⟨rangeStart, rangeEnd⟩ := range
      obtain ⟨first, restSorted⟩ := List.pairwise_cons.mp sorted
      rw [rangesCover]
      split
      · next short =>
          rw [inductionHypothesis restSorted within]
          refine forall_congr' fun seq => imp_congr_right fun after => imp_congr_right fun _ => ?_
          rw [List.exists_mem_cons_iff]
          refine Iff.intro .inr fun either => either.resolve_left fun inside => ?_
          have : seq ≤ rangeEnd := inside.2
          omega
      · next long =>
          split
          · next behind =>
              refine ⟨fun covers => (nomatch covers), fun all => ?_⟩
              obtain ⟨range, member, starts, -⟩ := all nextSeq (Int.le_refl _) within
              rcases List.mem_cons.mp member with rfl | member
              · exact absurd starts (Int.not_le.mpr behind)
              · have order := first range member
                simp only [rangeLe, decide_eq_true_eq] at order
                omega
          · next starts =>
              split
              · next reaches =>
                  refine Iff.intro (fun _ seq after before => ⟨_, List.mem_cons_self, ?_, ?_⟩)
                    fun _ => rfl
                  · exact Int.le_trans (Int.not_lt.mp starts) after
                  · exact Int.le_trans before reaches
              · next ends =>
                  rw [inductionHypothesis restSorted (by omega)]
                  constructor
                  · intro all seq after before
                    by_cases inside : seq ≤ rangeEnd
                    · exact ⟨_, List.mem_cons_self, by dsimp only; omega, inside⟩
                    · obtain ⟨range, member, holds⟩ := all seq (by omega) before
                      exact ⟨range, List.mem_cons_of_mem _ member, holds⟩
                  · intro all seq after before
                    obtain ⟨range, member, holds⟩ := all seq (by omega) before
                    rcases List.mem_cons.mp member with rfl | member
                    · have : seq ≤ rangeEnd := holds.2
                      omega
                    · exact ⟨range, member, holds⟩

/-- Each sequence number of the span is in the charge of a job. -/
def SpanCovered (sessionId : Uuid) (store : MemoryStore) (seqStart seqEnd : Int) : Prop :=
  ∀ seq, seqStart ≤ seq → seq ≤ seqEnd → InEffectiveRange sessionId store seq

theorem jobsCoverRange_iff {sessionId : Uuid} {seqStart seqEnd : Int} {store : MemoryStore}
    (within : seqStart ≤ seqEnd) :
    jobsCoverRange sessionId seqStart seqEnd store.sessionLoopJobs.rows = true ↔
      SpanCovered sessionId store seqStart seqEnd := by
  rw [jobsCoverRange, rangesCover_iff (List.pairwise_mergeSort rangeLe_trans rangeLe_total _) within]
  refine forall_congr' fun seq => imp_congr_right fun _ => imp_congr_right fun _ => ?_
  simp only [List.mem_mergeSort, List.mem_filterMap, List.mem_filter, decide_eq_true_eq,
    InEffectiveRange, Table.mem_iff]
  constructor
  · rintro ⟨range, ⟨job, ⟨member, ofSession⟩, isRange⟩, holds⟩
    exact ⟨job, member, ofSession, range, isRange, holds⟩
  · rintro ⟨job, member, ofSession, range, isRange, holds⟩
    exact ⟨range, ⟨job, ⟨member, ofSession⟩, isRange⟩, holds⟩

theorem run_sessionLoopProjectionCoversRange (sessionId : Uuid) (seqStart seqEnd : Int)
    (world : ExecutionWorld) :
    ∃ covered, (sessionLoopProjectionCoversRange sessionId seqStart seqEnd).run world =
        (.ok covered, world) ∧
      (covered = true ↔ SpanCovered sessionId world.store seqStart seqEnd) := by
  unfold sessionLoopProjectionCoversRange
  split
  · next empty =>
      refine ⟨true, rfl, iff_of_true rfl fun seq after before => ?_⟩
      omega
  · next within => exact ⟨_, rfl, jobsCoverRange_iff (Int.not_lt.mp within)⟩

end MandoForge
