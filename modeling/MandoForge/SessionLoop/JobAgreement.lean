/-
Module: MandoForge.SessionLoop.JobAgreement
Purpose: Enqueues, starts, completions and failures of session loop jobs, made alike in
  memory and in the database.  A call keeps the tables of the two mirrored and is answered
  alike as long as no cursor falls to 0 or below, no floor skips events before a job
  without a window, and every trigger is stored.
Trusted boundary: both backends read the same clock, draw the same identifiers and see
  the same other tables.
Main exports: LoopCall, startSessionLoopJob_agrees
-/
import MandoForge.SessionLoop.JobMirrors

namespace MandoForge

open Foundation

/-! ### The calls -/

inductive LoopCall where
  | enqueue (id sessionId : Uuid) (triggerEventId : Option Uuid) (reason : String)
      (floor : Option Int)
  | start (id : Uuid) (workerId : String) (executions : ExecutionQueueState)
  | complete (id : Uuid) (workerId : String)
  | fails (id : Uuid) (workerId : String) (error : String)

namespace LoopCall

/-- The in-memory branch. -/
def performMemory (now : Timestamp) : LoopCall → MemoryStore →
    Except AppError SessionLoopJob × MemoryStore
  | enqueue id sessionId triggerEventId reason floor =>
      enqueueSessionLoopJobFrom now id sessionId triggerEventId reason floor
  | start id workerId executions => startSessionLoopJob now id workerId executions
  | complete id workerId => completeSessionLoopJob now id workerId
  | fails id workerId error => failSessionLoopJob now id workerId error

/-- The Postgres branch. -/
def performPostgres (now : Timestamp) : LoopCall → MemoryStore →
    Except AppError SessionLoopJob × MemoryStore
  | enqueue id sessionId triggerEventId reason floor =>
      PostgresLoop.enqueueSessionLoopJobFrom now id sessionId triggerEventId reason floor
  | start id workerId executions => PostgresLoop.startSessionLoopJob now id workerId executions
  | complete id workerId => PostgresLoop.completeSessionLoopJob now id workerId
  | fails id workerId error => PostgresLoop.failSessionLoopJob now id workerId error

/-- The call draws an identifier that a job already has. -/
def drawsUsedId (tables : MemoryStore) : LoopCall → Bool
  | enqueue id _ _ _ _ => (tables.sessionLoopJobs.find? id).isSome
  | _ => false

end LoopCall

/-! ### When a call keeps the backends together -/

/-- The cursor of the session of a job once the window of the job no longer counts. -/
def cursorWithoutWindow (job : SessionLoopJob) (store : MemoryStore) : Option Int :=
  ((sessionLoopJobsOf job.sessionId store).filterMap fun other =>
    if other.id = job.id then other.processedEventSeq else other.reach).max?

/-- A floor is above 1 for the first job of a session without events, and it skips no event
behind the cursor while the queued job of the session has no window. -/
def FloorFits (sessionId : Uuid) (triggerEventId : Option Uuid) (floor : Option Int)
    (store : MemoryStore) : Prop :=
  ∀ start ∈ floor,
    (sessionLoopCursorHighWatermark sessionId store = none → queuedJobOf sessionId store = none →
      sessionLoopTriggerEventSeq sessionId triggerEventId store = none → 1 < start) ∧
    ∀ mark ∈ sessionLoopCursorHighWatermark sessionId store,
      ∀ existing ∈ queuedJobOf sessionId store, existing.pendingEventSeqStart = none →
        ∀ last ∈ sessionLoopTriggerEventSeq sessionId triggerEventId store,
          start ≤ last → start ≤ mark + 1

instance (sessionId : Uuid) (triggerEventId : Option Uuid) (floor : Option Int)
    (store : MemoryStore) : Decidable (FloorFits sessionId triggerEventId floor store) :=
  inferInstanceAs (Decidable (∀ start ∈ floor, _ ∧ _))

/-- What a call needs of the jobs in memory. -/
def LoopCall.Fits (store : MemoryStore) : LoopCall → Prop
  | enqueue _ sessionId triggerEventId _ floor =>
      (store.sessions.find? sessionId).isSome = true →
        PostgresLoop.triggerIsStored triggerEventId store = true ∧
          FloorFits sessionId triggerEventId floor store
  | fails id workerId _ => ∀ job ∈ store.sessionLoopJobs.find? id,
      job.status = .running → job.workerId = some workerId →
        ∀ seq ∈ cursorWithoutWindow job store, 0 < seq
  | _ => True

instance (store : MemoryStore) (call : LoopCall) : Decidable (call.Fits store) := by
  cases call with
  | enqueue id sessionId triggerEventId reason floor =>
      exact inferInstanceAs (Decidable (_ → _ ∧ _))
  | start id workerId executions => exact isTrue trivial
  | complete id workerId => exact isTrue trivial
  | fails id workerId error =>
      exact inferInstanceAs (Decidable (∀ job ∈ store.sessionLoopJobs.find? id, _))

/-! ### A change of both tables -/

/-- What is seen of a job. -/
def SessionLoopJob.seen (job : SessionLoopJob) :
    SessionLoopJobStatus × Option Int × Option Int :=
  (job.status, job.pendingEventSeqStart, job.pendingEventSeqEnd)

/-- Both accept with jobs that look the same, or both refuse, and the tables still mirror
each other. -/
structure LoopAnswersAgree (memory postgres : Except AppError SessionLoopJob × MemoryStore) :
    Prop where
  answers : memory.1.toOption.map SessionLoopJob.seen =
    postgres.1.toOption.map SessionLoopJob.seen
  tables : LoopMirrors memory.2 postgres.2

theorem LoopJobMirrors.seen {job row : SessionLoopJob} (mirrors : LoopJobMirrors job row) :
    job.seen = row.seen := by
  unfold SessionLoopJob.seen
  rw [mirrors.status, mirrors.pendingEventSeqStart, mirrors.pendingEventSeqEnd]

namespace LoopMirrors

variable {store tables : MemoryStore}

theorem modify {id : Uuid} {job row : SessionLoopJob}
    {change assign : SessionLoopJob → SessionLoopJob}
    {keeps : ∀ job, (change job).id = job.id} {rowKeeps : ∀ row, (assign row).id = row.id}
    (mirrors : LoopMirrors store tables) (found : store.sessionLoopJobs.find? id = some job)
    (rowFound : tables.sessionLoopJobs.find? id = some row)
    (changed : LoopJobMirrors (change job) (assign row))
    (sameSession : (change job).sessionId = job.sessionId)
    (cursors : ∀ sessionId, CursorsPositive sessionId
      { store with sessionLoopJobs := store.sessionLoopJobs.modify id change keeps }) :
    LoopMirrors { store with sessionLoopJobs := store.sessionLoopJobs.modify id change keeps }
      { tables with sessionLoopJobs := tables.sessionLoopJobs.modify id assign rowKeeps } where
  others := congrArg (fun others : MemoryStore => { others with
    sessionLoopJobs := tables.sessionLoopJobs.modify id assign rowKeeps }) mirrors.others
  rows := Table.paired_modify keeps rowKeeps mirrors.rows (fun _ _ isMirror => isMirror.id.symm)
    found rowFound changed
  sound := ⟨mirrors.sound.numbered, mirrors.sound.ofRun⟩
  sessions other member := by
    rcases (Table.replaces_modify keeps found).mem member with rfl | ⟨-, wasThere⟩
    · rw [sameSession]
      exact mirrors.sessions job (Table.find?_eq_some.mp found).1
    · exact mirrors.sessions other wasThere
  cursors := cursors

theorem insert {job : SessionLoopJob} (mirrors : LoopMirrors store tables)
    (fresh : store.sessionLoopJobs.find? job.id = none) (added : LoopJobMirrors job job)
    (hasSession : (store.sessions.find? job.sessionId).isSome = true)
    (cursors : ∀ sessionId, CursorsPositive sessionId
      { store with sessionLoopJobs := store.sessionLoopJobs.insert job }) :
    LoopMirrors { store with sessionLoopJobs := store.sessionLoopJobs.insert job }
      { tables with sessionLoopJobs := tables.sessionLoopJobs.insert job } where
  others := congrArg (fun others : MemoryStore => { others with
    sessionLoopJobs := tables.sessionLoopJobs.insert job }) mirrors.others
  rows := Table.paired_insert mirrors.rows (fun _ _ isMirror => isMirror.id.symm) fresh added
  sound := ⟨mirrors.sound.numbered, mirrors.sound.ofRun⟩
  sessions other member := by
    rcases Table.mem_insert member with wasThere | rfl
    · exact mirrors.sessions other wasThere
    · exact hasSession
  cursors := cursors

end LoopMirrors

/-! ### Start -/

/-- The statement sees what the in-memory branch sees. -/
theorem sessionHasPendingActions_eq {store : MemoryStore} {sessionId : Uuid}
    (executions : ExecutionQueueState)
    (hasSession : (store.sessions.find? sessionId).isSome = true) :
    PostgresLoop.sessionHasPendingActions sessionId executions store =
      (!sessionTerminal store sessionId && ((executions.jobs.rows.any fun execution =>
        decide (execution.sessionId = sessionId) && executionPendingForModel execution) ||
          memorySessionHasPendingActions store sessionId)) := by
  obtain ⟨session, found⟩ := Option.isSome_iff_exists.mp hasSession
  unfold PostgresLoop.sessionHasPendingActions sessionTerminal memorySessionHasPendingActions
    executionPendingForModel
  rw [Table.any_key_eq store.sessions sessionId fun session =>
    !(decide (session.status = .terminated) || decide (session.status = .failed)), found]
  simp only [Option.any_some, Bool.or_assoc]
  congr 1
  rw [Bool.or_comm, Bool.or_assoc, Bool.or_comm, Bool.or_assoc]

theorem foreignStep_eq {store : MemoryStore} (sound : SoundTables store) (now : Timestamp)
    (sessionId : Uuid) (workerId : String) :
    PostgresLoop.foreignStep now sessionId workerId store =
      hasForeignStep now store sessionId workerId := by
  unfold PostgresLoop.foreignStep hasForeignStep
  rw [Bool.eq_iff_iff, List.any_eq_true, List.any_eq_true]
  refine exists_congr fun step => and_congr_right fun member => ?_
  obtain ⟨run, found⟩ := Option.isSome_iff_exists.mp (sound.ofRun step member)
  rw [found]
  have sameSession : coalesce step.sessionId run.primarySessionId = some sessionId ↔
      step.sessionId.or ((some run).map WorkflowRun.primarySessionId) = some sessionId := by
    cases step.sessionId <;> rfl
  simp only [Option.any_some, Truth.holds_and, Truth.holds_equal, Truth.holds_ofBool,
    Truth.holds_compare, Option.some.injEq, sameSession, Bool.and_assoc]

theorem LoopMirrors.claimable {store tables : MemoryStore} {job row : SessionLoopJob}
    (mirrors : LoopMirrors store tables) (isMirror : LoopJobMirrors job row) (now : Timestamp) :
    (PostgresLoop.claimable now tables row).holds = claimable now store job := by
  have sameOther : (tables.sessionLoopJobs.rows.any fun running =>
      decide (running.sessionId = row.sessionId) && decide (running.id ≠ row.id) &&
        (running.statusIs .running).holds) = hasOtherRunningJob store job := by
    symm
    apply any_paired mirrors.rows
    intro other otherRow isOther
    rw [isOther.holds_statusIs, isOther.sessionId, isOther.id, isMirror.sessionId, isMirror.id,
      Bool.and_comm (decide (other.id ≠ job.id))]
  have sameLease : ((Truth.isNull row.leaseExpiresAt).or
      (Truth.compare (fun lease time => decide (lease ≤ time)) row.leaseExpiresAt
        (some now))).holds = job.leaseExpired now := by
    rw [Truth.holds_or, Truth.holds_isNull, Truth.holds_compare, isMirror.leaseExpiresAt]
    unfold SessionLoopJob.leaseExpired
    cases job.leaseExpiresAt <;> rfl
  unfold PostgresLoop.claimable MandoForge.claimable
  rw [Truth.holds_or, Truth.holds_and, Truth.holds_and, isMirror.holds_statusIs,
    isMirror.holds_statusIs, Truth.holds_not_ofBool, sameOther, sameLease]
  cases job.status <;> simp

theorem started_mirrors {job row : SessionLoopJob} (mirrors : LoopJobMirrors job row)
    (now : Timestamp) (workerId : String) :
    LoopJobMirrors (applyRunning now workerId job) (PostgresLoop.started now workerId row) :=
  { mirrors with
    status := rfl
    workerId := rfl
    leaseExpiresAt := rfl
    processedEventSeq := mirrors.processedEventSeq.imp id fun zero =>
      ⟨zero.zero, zero.null, zero.start⟩ }

theorem reach_applyRunning {now : Timestamp} {workerId : String} {job : SessionLoopJob}
    (live : job.isLive = true) : (applyRunning now workerId job).reach = job.reach := by
  unfold SessionLoopJob.reach
  rw [if_pos live]
  rfl

theorem LoopMirrors.refused {store tables : MemoryStore} (mirrors : LoopMirrors store tables)
    (memoryError postgresError : AppError) :
    LoopAnswersAgree (.error memoryError, store) (.error postgresError, tables) :=
  ⟨rfl, mirrors⟩

theorem startSessionLoopJob_agrees {store tables : MemoryStore} (mirrors : LoopMirrors store tables)
    (now : Timestamp) (id : Uuid) (workerId : String) (executions : ExecutionQueueState) :
    LoopAnswersAgree (startSessionLoopJob now id workerId executions store)
      (PostgresLoop.startSessionLoopJob now id workerId executions tables) := by
  unfold startSessionLoopJob PostgresLoop.startSessionLoopJob PostgresLoop.updateReturning
  rcases mirrors.at_job id with ⟨found, rowFound⟩ | ⟨job, row, found, rowFound, isMirror⟩
  · rw [found, rowFound]
    exact mirrors.refused _ _
  · obtain ⟨member, rfl⟩ := Table.find?_eq_some.mp found
    have samePending : PostgresLoop.sessionHasPendingActions row.sessionId executions tables =
        PostgresLoop.sessionHasPendingActions job.sessionId executions store := by
      rw [isMirror.sessionId, ← mirrors.others]
      rfl
    have sameForeign : PostgresLoop.foreignStep now row.sessionId workerId tables =
        PostgresLoop.foreignStep now job.sessionId workerId store := by
      rw [isMirror.sessionId, ← mirrors.others]
      rfl
    rw [found, rowFound]
    dsimp only
    rw [samePending, sessionHasPendingActions_eq executions (mirrors.sessions job member),
      sameForeign, foreignStep_eq mirrors.sound, mirrors.claimable isMirror]
    split
    · exact mirrors.refused _ _
    · split
      · exact mirrors.refused _ _
      · split
        · rename_i isClaimable
          have live := claimable_isLive isClaimable
          have keeps : ∀ job, (applyRunning now workerId job).id = job.id := fun _ => rfl
          refine ⟨congrArg some (started_mirrors isMirror now workerId).seen, ?_⟩
          apply mirrors.modify found rowFound (started_mirrors isMirror now workerId) rfl
          intro sessionId
          exact cursorsPositive_of_replaces member (Table.replaces_modify keeps found) rfl
            (fun _ => .inl (reach_applyRunning live)) (mirrors.cursors sessionId)
        · exact mirrors.refused _ _

/-! ### Completion and failure -/

/-- Both end the job that the worker runs, or neither does. -/
theorem ended_agrees {store tables : MemoryStore} {id : Uuid} {workerId : String}
    {change assign : SessionLoopJob → SessionLoopJob} {keeps : ∀ job, (change job).id = job.id}
    {rowKeeps : ∀ row, (assign row).id = row.id} (mirrors : LoopMirrors store tables)
    (changed : ∀ job row, LoopJobMirrors job row → LoopJobMirrors (change job) (assign row))
    (sameSession : ∀ job, (change job).sessionId = job.sessionId)
    (cursors : ∀ job row, LoopJobMirrors job row → store.sessionLoopJobs.find? id = some job →
      job.status = .running → job.workerId = some workerId → ∀ sessionId, CursorsPositive sessionId
        { store with sessionLoopJobs := store.sessionLoopJobs.modify id change keeps }) :
    LoopAnswersAgree (changeRunningJob id workerId change store keeps)
      (PostgresLoop.updateReturning id (PostgresLoop.runsJob workerId) assign tables rowKeeps) := by
  unfold changeRunningJob PostgresLoop.updateReturning
  rcases mirrors.at_job id with ⟨found, rowFound⟩ | ⟨job, row, found, rowFound, isMirror⟩
  · rw [found, rowFound]
    exact mirrors.refused _ _
  · have sameOwner : (PostgresLoop.runsJob workerId row).holds = true ↔
        job.status = .running ∧ job.workerId = some workerId := by
      unfold PostgresLoop.runsJob
      rw [Truth.holds_and, isMirror.holds_statusIs, Truth.holds_equal, isMirror.workerId,
        Bool.and_eq_true, decide_eq_true_eq, decide_eq_true_eq]
    rw [found, rowFound]
    dsimp only
    by_cases owned : job.status = .running ∧ job.workerId = some workerId
    · rw [if_pos owned, if_pos (sameOwner.mpr owned)]
      refine ⟨congrArg some (changed job row isMirror).seen, ?_⟩
      exact mirrors.modify found rowFound (changed job row isMirror) (sameSession job)
        (cursors job row isMirror found owned.1 owned.2)
    · rw [if_neg owned, if_neg fun holds => owned (sameOwner.mp holds)]
      exact mirrors.refused _ _

theorem completed_mirrors {job row : SessionLoopJob} (mirrors : LoopJobMirrors job row)
    (now : Timestamp) :
    LoopJobMirrors (applyCompleted now job) (PostgresLoop.ended now .completed none row) :=
  { mirrors with
    status := rfl
    leaseExpiresAt := rfl
    processedEventSeq := by
      change row.pendingEventSeqEnd.or row.processedEventSeq =
        job.pendingEventSeqEnd.or job.processedEventSeq ∨ _
      rw [mirrors.pendingEventSeqEnd]
      rcases mirrors.processedEventSeq with same | zero
      · rw [same]
        exact .inl rfl
      · obtain ⟨last, isLast, -⟩ := mirrors.inOrder 1 zero.start
        rw [isLast]
        exact .inl rfl }

theorem failed_mirrors {job row : SessionLoopJob} (mirrors : LoopJobMirrors job row)
    (now : Timestamp) (error : String) :
    LoopJobMirrors (applyFailed now error job)
      (PostgresLoop.ended now .failed (some error) row) :=
  { mirrors with
    status := rfl
    leaseExpiresAt := rfl
    processedEventSeq := mirrors.processedEventSeq.imp id fun zero =>
      ⟨zero.zero, zero.null, zero.start⟩ }

/-- A completed job reaches the end of its window, or what it reached without one. -/
theorem reach_applyCompleted {now : Timestamp} {job : SessionLoopJob}
    (numbered : ∀ last, job.pendingEventSeqEnd = some last → 1 ≤ last) :
    (applyCompleted now job).reach = job.reach ∨
      ∃ last, (applyCompleted now job).reach = some last ∧ 0 < last := by
  have reaches : (applyCompleted now job).reach =
      job.pendingEventSeqEnd.or job.processedEventSeq := by
    change maxOptional (job.pendingEventSeqEnd.or job.processedEventSeq) none = _
    cases job.pendingEventSeqEnd.or job.processedEventSeq <;> rfl
  cases last : job.pendingEventSeqEnd with
  | none =>
      left
      rw [reaches, last, SessionLoopJob.reach, last, ite_self, Option.none_or]
      cases job.processedEventSeq <;> rfl
  | some seq =>
      right
      rw [reaches, last]
      exact ⟨seq, rfl, numbered seq last⟩

theorem completeSessionLoopJob_agrees {store tables : MemoryStore}
    (mirrors : LoopMirrors store tables) (now : Timestamp) (id : Uuid) (workerId : String) :
    LoopAnswersAgree (completeSessionLoopJob now id workerId store)
      (PostgresLoop.completeSessionLoopJob now id workerId tables) := by
  apply ended_agrees mirrors (fun job row isMirror => completed_mirrors isMirror now)
    (fun _ => rfl)
  intro job row isMirror found running owned sessionId
  obtain ⟨member, rfl⟩ := Table.find?_eq_some.mp found
  have keeps : ∀ job, (applyCompleted now job).id = job.id := fun _ => rfl
  exact cursorsPositive_of_replaces member (Table.replaces_modify keeps found) rfl
    (fun _ => reach_applyCompleted isMirror.numbered) (mirrors.cursors sessionId)

/-- The watermark after a failure is the one without the window of the failed job. -/
theorem watermark_failed {store : MemoryStore} (now : Timestamp) (error : String)
    (job : SessionLoopJob) :
    sessionLoopCursorHighWatermark job.sessionId { store with
        sessionLoopJobs := store.sessionLoopJobs.modify job.id (applyFailed now error) } =
      cursorWithoutWindow job store := by
  change (((store.sessionLoopJobs.rows.map fun other =>
    if other.id = job.id then applyFailed now error other else other).filter fun other =>
      decide (other.sessionId = job.sessionId)).filterMap SessionLoopJob.reach).max? = _
  rw [List.filter_map, List.filterMap_map]
  have sameSession : (fun other : SessionLoopJob => decide (other.sessionId = job.sessionId)) ∘
      (fun other => if other.id = job.id then applyFailed now error other else other) =
      fun other => decide (other.sessionId = job.sessionId) := by
    funext other
    rw [Function.comp_apply]
    split <;> rfl
  have sameReach : SessionLoopJob.reach ∘
      (fun other => if other.id = job.id then applyFailed now error other else other) =
      fun other => if other.id = job.id then other.processedEventSeq else other.reach := by
    funext other
    rw [Function.comp_apply]
    split
    · change maxOptional other.processedEventSeq none = _
      cases other.processedEventSeq <;> rfl
    · rfl
  rw [sameSession, sameReach]
  rfl

theorem failSessionLoopJob_agrees {store tables : MemoryStore} (mirrors : LoopMirrors store tables)
    (now : Timestamp) (id : Uuid) (workerId error : String)
    (fits : LoopCall.Fits store (.fails id workerId error)) :
    LoopAnswersAgree (failSessionLoopJob now id workerId error store)
      (PostgresLoop.failSessionLoopJob now id workerId error tables) := by
  apply ended_agrees mirrors (fun job row isMirror => failed_mirrors isMirror now error)
    (fun _ => rfl)
  intro job row isMirror found running owned sessionId
  obtain ⟨member, rfl⟩ := Table.find?_eq_some.mp found
  by_cases ofSession : job.sessionId = sessionId
  · subst ofSession
    intro seq isMark
    rw [watermark_failed] at isMark
    exact fits job found running owned seq isMark
  · have keeps : ∀ job, (applyFailed now error job).id = job.id := fun _ => rfl
    exact cursorsPositive_of_replaces member (Table.replaces_modify keeps found) rfl
      (fun isOf => absurd isOf ofSession) (mirrors.cursors sessionId)

/-! ### Enqueue -/

/-- What a window is, for the watermark it was computed with. -/
structure PlannedWindow (watermark : Option Int) (sessionId : Uuid)
    (triggerEventId : Option Uuid) (floor : Option Int) (store : MemoryStore)
    (window : LoopWindow) : Prop where
  hasSession : (store.sessions.find? sessionId).isSome = true
  seqEnd : window.pendingEventSeqEnd = sessionLoopTriggerEventSeq sessionId triggerEventId store
  cursor : window.cursorHighWatermark = sessionLoopCursor watermark
    (fun seq => sessionEventSeqBefore sessionId seq store) floor window.pendingEventSeqEnd
  seqStart : window.pendingEventSeqStart = window.pendingEventSeqEnd.bind fun last =>
    if floor.getD (window.cursorHighWatermark.getD 0 + 1) ≤ last then
      some (floor.getD (window.cursorHighWatermark.getD 0 + 1)) else none

theorem planLoopWindow_ok {watermark : Option Int} {sessionId : Uuid}
    {triggerEventId : Option Uuid} {floor : Option Int} {store : MemoryStore}
    {window : LoopWindow}
    (planned : planLoopWindow watermark sessionId triggerEventId floor store = .ok window) :
    PlannedWindow watermark sessionId triggerEventId floor store window := by
  unfold planLoopWindow at planned
  rw [bind_eq_ok] at planned
  obtain ⟨session, isSession, planned⟩ := planned
  have found := okOr_eq_ok.mp isSession
  obtain rfl := Except.ok.inj planned
  exact ⟨by rw [found]; rfl, rfl, rfl, rfl⟩

theorem trigger_numbered {sessionId : Uuid} {triggerEventId : Option Uuid} {store : MemoryStore}
    (sound : SoundTables store) {last : Int}
    (isTrigger : sessionLoopTriggerEventSeq sessionId triggerEventId store = some last) :
    1 ≤ last := by
  have ofEvent : ∀ event ∈ eventsOf sessionId store, event.seq = last → 1 ≤ last := by
    rintro event member rfl
    exact sound.numbered event (List.mem_filter.mp member).1
  rcases Option.or_eq_some_iff.mp isTrigger with named | ⟨-, latest⟩
  · obtain ⟨eventId, -, isSeq⟩ := Option.bind_eq_some_iff.mp named
    obtain ⟨event, found, sameSeq⟩ := Option.map_eq_some_iff.mp isSeq
    exact ofEvent event (List.mem_of_find?_eq_some found) sameSeq
  · obtain ⟨member, -⟩ := List.max?_eq_some_iff.mp latest
    obtain ⟨event, isEvent, sameSeq⟩ := List.mem_map.mp member
    exact ofEvent event isEvent sameSeq

namespace PlannedWindow

variable {watermark floor : Option Int} {sessionId : Uuid} {trigger : Option Uuid}
  {store : MemoryStore} {window : LoopWindow}

theorem numbered (planned : PlannedWindow watermark sessionId trigger floor store window)
    (sound : SoundTables store) {last : Int} (isEnd : window.pendingEventSeqEnd = some last) :
    1 ≤ last :=
  trigger_numbered sound (planned.seqEnd.symm.trans isEnd)

theorem start_eq (planned : PlannedWindow watermark sessionId trigger floor store window)
    {first : Int} (isStart : window.pendingEventSeqStart = some first) :
    first = floor.getD (window.cursorHighWatermark.getD 0 + 1) ∧
      ∃ last, window.pendingEventSeqEnd = some last ∧ first ≤ last := by
  rw [planned.seqStart] at isStart
  obtain ⟨last, isEnd, isStart⟩ := Option.bind_eq_some_iff.mp isStart
  by_cases inOrder : floor.getD (window.cursorHighWatermark.getD 0 + 1) ≤ last
  · rw [if_pos inOrder] at isStart
    obtain rfl := Option.some.inj isStart
    exact ⟨rfl, last, isEnd, inOrder⟩
  · rw [if_neg inOrder] at isStart
    cases isStart

theorem start_none (planned : PlannedWindow watermark sessionId trigger floor store window)
    (noEnd : window.pendingEventSeqEnd = none) : window.pendingEventSeqStart = none := by
  rw [planned.seqStart, noEnd]
  rfl

/-- The cursor of a window stands right before its start, unless the floor lies further on
than the watermark; a window from 1 may have none. -/
theorem cursor_before (planned : PlannedWindow watermark sessionId trigger floor store window)
    {first : Int} (isStart : window.pendingEventSeqStart = some first)
    (noGap : ∀ start mark, floor = some start → watermark = some mark → start ≤ mark + 1) :
    window.cursorHighWatermark = some (first - 1) ∨
      (window.cursorHighWatermark = none ∧ first = 1) := by
  obtain ⟨isFirst, -⟩ := planned.start_eq isStart
  cases floorIs : floor with
  | none =>
      rw [floorIs] at isFirst
      cases cursorIs : window.cursorHighWatermark with
      | none =>
          rw [cursorIs] at isFirst
          exact .inr ⟨rfl, isFirst⟩
      | some cursor =>
          rw [cursorIs] at isFirst
          have same : first - 1 = cursor := by
            rw [isFirst]
            exact Int.add_sub_cancel cursor 1
          rw [same]
          exact .inl rfl
  | some start =>
      left
      have isStart : first = start := by
        rw [isFirst, floorIs]
        rfl
      rw [planned.cursor, floorIs, isStart]
      cases markIs : watermark with
      | none =>
          have notBelow : ¬ start ≤ start - 1 := by omega
          simp [sessionLoopCursor, notBelow]
      | some mark =>
          have gap := noGap start mark floorIs markIs
          by_cases below : start ≤ mark
          · simp [sessionLoopCursor, below]
          · have same : mark = start - 1 := by omega
            simp [sessionLoopCursor, same]

end PlannedWindow

section enqueue

variable {watermark floor : Option Int} {sessionId : Uuid} {triggerEventId : Option Uuid}
  {store : MemoryStore} {window : LoopWindow} {reason : String} {existing row : SessionLoopJob}

theorem newSessionLoopJob_mirrors (now : Timestamp) (id : Uuid)
    (planned : PlannedWindow watermark sessionId triggerEventId floor store window)
    (sound : SoundTables store) :
    LoopJobMirrors (newSessionLoopJob now id sessionId triggerEventId reason window)
      (newSessionLoopJob now id sessionId triggerEventId reason window) where
  id := rfl
  sessionId := rfl
  status := rfl
  pendingEventSeqStart := rfl
  pendingEventSeqEnd := rfl
  workerId := rfl
  leaseExpiresAt := rfl
  processedEventSeq := .inl rfl
  numbered _ isEnd := planned.numbered sound isEnd
  inOrder _ isStart := (planned.start_eq isStart).2

/-- The window start of the upsert is that of the coalesced job. -/
theorem upserted_start (excluded : SessionLoopJob)
    (sameStart : excluded.pendingEventSeqStart = window.pendingEventSeqStart)
    (rowStart : row.pendingEventSeqStart = existing.pendingEventSeqStart) :
    (PostgresLoop.upserted excluded row).pendingEventSeqStart =
      (coalescedJob triggerEventId reason window existing).pendingEventSeqStart := by
  unfold PostgresLoop.upserted coalescedJob earlierStart
  dsimp only
  rw [sameStart, rowStart]
  cases existing.pendingEventSeqStart with
  | none => cases window.pendingEventSeqStart <;> rfl
  | some existingStart =>
      cases window.pendingEventSeqStart with
      | none => rfl
      | some seqStart =>
          by_cases earlier : seqStart < existingStart
          · have isMin : min existingStart seqStart = seqStart := by omega
            simp [Option.filter, earlier, isMin]
          · have isMin : min existingStart seqStart = existingStart := by omega
            simp [Option.filter, earlier, isMin]

/-- With ends that are at least 1 the `GREATEST` with 0 for NULL is the maximum. -/
theorem nullIf_max {left right : Option Int} (leftNumbered : ∀ last, left = some last → 1 ≤ last)
    (rightNumbered : ∀ last, right = some last → 1 ≤ last) :
    nullIf (max (left.getD 0) (right.getD 0)) 0 = maxOptional left right := by
  unfold nullIf
  cases left with
  | none =>
      cases right with
      | none => rfl
      | some last =>
          have positive := rightNumbered last rfl
          have isMax : max 0 last = last := by omega
          have notZero : last ≠ 0 := by omega
          simp [maxOptional, isMax, notZero]
  | some first =>
      have positive := leftNumbered first rfl
      cases right with
      | none =>
          have isMax : max first 0 = first := by omega
          have notZero : first ≠ 0 := by omega
          simp [maxOptional, isMax, notZero]
      | some last =>
          have notZero : max first last ≠ 0 := by omega
          simp [maxOptional, notZero]

/-- The upsert takes the new cursor when the coalesced job is moved back. -/
theorem upserted_moves (excluded : SessionLoopJob)
    (sameStart : excluded.pendingEventSeqStart = window.pendingEventSeqStart)
    (rowStart : row.pendingEventSeqStart = existing.pendingEventSeqStart) :
    (PostgresLoop.upserted excluded row).processedEventSeq =
      if (earlierStart window existing).isSome then excluded.processedEventSeq
      else row.processedEventSeq := by
  unfold PostgresLoop.upserted caseWhen earlierStart
  rw [sameStart, rowStart, Truth.holds_and, Truth.holds_isNotNull, Truth.holds_or,
    Truth.holds_isNull]
  cases window.pendingEventSeqStart with
  | none => rfl
  | some seqStart =>
      cases existing.pendingEventSeqStart with
      | none => rfl
      | some existingStart =>
          rw [Truth.holds_compare]
          by_cases earlier : seqStart < existingStart <;> simp [earlier]

/-- The upsert mirrors the coalesced job when the floor leaves no gap. -/
theorem upserted_mirrors (now : Timestamp) (id : Uuid)
    (planned : PlannedWindow watermark sessionId triggerEventId floor store window)
    (sound : SoundTables store) (mirrors : LoopJobMirrors existing row)
    (noGap : ∀ first, earlierStart window existing = some first → ∀ start mark,
      floor = some start → watermark = some mark → start ≤ mark + 1) :
    LoopJobMirrors (coalescedJob triggerEventId reason window existing)
      (PostgresLoop.upserted (newSessionLoopJob now id sessionId triggerEventId reason window)
        row) := by
  have endNumbered : ∀ last, window.pendingEventSeqEnd = some last → 1 ≤ last :=
    fun last => planned.numbered sound
  have endCases : ∀ last, maxOptional existing.pendingEventSeqEnd window.pendingEventSeqEnd =
      some last → 1 ≤ last := by
    intro last isMax
    rcases maxOptional_cases isMax with old | new
    · exact mirrors.numbered last old
    · exact endNumbered last new
  have within : ∀ first last, (existing.pendingEventSeqEnd = some last ∨
      window.pendingEventSeqEnd = some last) → first ≤ last →
      ∃ furthest, maxOptional existing.pendingEventSeqEnd window.pendingEventSeqEnd =
        some furthest ∧ first ≤ furthest := by
    intro first last isEnd inOrder
    obtain ⟨furthest, isMax, reaches⟩ := le_maxOptional isEnd
    exact ⟨furthest, isMax, Int.le_trans inOrder reaches⟩
  constructor
  case id => exact mirrors.id
  case sessionId => exact mirrors.sessionId
  case status => exact mirrors.status
  case pendingEventSeqStart =>
    exact upserted_start _ rfl mirrors.pendingEventSeqStart
  case pendingEventSeqEnd =>
    change nullIf (max (row.pendingEventSeqEnd.getD 0) (window.pendingEventSeqEnd.getD 0)) 0 =
      maxOptional existing.pendingEventSeqEnd window.pendingEventSeqEnd
    rw [mirrors.pendingEventSeqEnd]
    exact nullIf_max mirrors.numbered endNumbered
  case workerId => exact mirrors.workerId
  case leaseExpiresAt => exact mirrors.leaseExpiresAt
  case processedEventSeq =>
    have coalesced : (coalescedJob triggerEventId reason window existing).processedEventSeq =
        ((earlierStart window existing).map (· - 1)).or existing.processedEventSeq := rfl
    have started : (coalescedJob triggerEventId reason window existing).pendingEventSeqStart =
        (earlierStart window existing).or existing.pendingEventSeqStart := rfl
    have sameStart : (newSessionLoopJob now id sessionId triggerEventId reason
        window).pendingEventSeqStart = window.pendingEventSeqStart := rfl
    have upserted := upserted_moves _ sameStart mirrors.pendingEventSeqStart
    cases moves : earlierStart window existing with
    | none =>
        rw [moves] at coalesced started upserted
        rcases mirrors.processedEventSeq with same | zero
        · left
          exact upserted.trans (same.trans coalesced.symm)
        · right
          exact ⟨coalesced.trans zero.zero, upserted.trans zero.null, started.trans zero.start⟩
    | some first =>
        rw [moves] at coalesced started upserted
        have isStart := (earlierStart_some moves).1
        rcases planned.cursor_before isStart (noGap first moves) with before | ⟨noCursor, rfl⟩
        · left
          exact upserted.trans (before.trans coalesced.symm)
        · right
          exact ⟨coalesced, upserted.trans noCursor, started⟩
  case numbered => exact endCases
  case inOrder =>
    intro first isStart
    change (earlierStart window existing).or existing.pendingEventSeqStart = some first at isStart
    rcases Option.or_eq_some_iff.mp isStart with moved | ⟨-, stays⟩
    · obtain ⟨last, isEnd, inOrder⟩ := (planned.start_eq (earlierStart_some moved).1).2
      exact within first last (.inr isEnd) inOrder
    · obtain ⟨last, isEnd, inOrder⟩ := mirrors.inOrder first stays
      exact within first last (.inl isEnd) inOrder

/-- A coalesced job reaches an event when its enqueue has one, and else what it reached. -/
theorem reach_coalescedJob
    (planned : PlannedWindow watermark sessionId triggerEventId floor store window)
    (sound : SoundTables store) (queued : existing.status = .queued) :
    (coalescedJob triggerEventId reason window existing).reach = existing.reach ∨
      ∃ last, (coalescedJob triggerEventId reason window existing).reach = some last ∧
        0 < last := by
  cases isEnd : window.pendingEventSeqEnd with
  | none =>
      left
      have noStart := planned.start_none isEnd
      have stays : earlierStart window existing = none := by
        unfold earlierStart
        rw [noStart]
        rfl
      have sameEnd : maxOptional existing.pendingEventSeqEnd none =
          existing.pendingEventSeqEnd := by
        cases existing.pendingEventSeqEnd <;> rfl
      unfold SessionLoopJob.reach SessionLoopJob.isLive coalescedJob
      rw [stays, isEnd, sameEnd]
      rfl
  | some last =>
      right
      have live : (coalescedJob triggerEventId reason window existing).isLive = true := by
        unfold SessionLoopJob.isLive coalescedJob
        rw [queued]
      have given : existing.pendingEventSeqEnd = some last ∨
          window.pendingEventSeqEnd = some last := .inr isEnd
      obtain ⟨furthest, isMax, reaches⟩ := le_maxOptional given
      have pending : (coalescedJob triggerEventId reason window existing).pendingEventSeqEnd =
          some furthest := isMax
      obtain ⟨seq, isReach, further⟩ := SessionLoopJob.le_reach (.inr ⟨live, pending⟩)
      have numbered := planned.numbered sound isEnd
      exact ⟨seq, isReach, by omega⟩

/-- A floor that moves the queued job back leaves no gap behind the watermark. -/
theorem noGap_of_floorFits {first : Int}
    (planned : PlannedWindow (sessionLoopCursorHighWatermark sessionId store) sessionId
      triggerEventId floor store window)
    (floorFits : FloorFits sessionId triggerEventId floor store)
    (mirrors : LoopJobMirrors existing row) (queued : queuedJobOf sessionId store = some existing)
    (moves : earlierStart window existing = some first) (start mark : Int)
    (isFloor : floor = some start)
    (isMark : sessionLoopCursorHighWatermark sessionId store = some mark) : start ≤ mark + 1 := by
  obtain ⟨isStart, earlier⟩ := earlierStart_some moves
  obtain ⟨isFirst, last, isEnd, inOrder⟩ := planned.start_eq isStart
  obtain rfl : first = start := by
    rw [isFirst, isFloor]
    rfl
  cases existingStart : existing.pendingEventSeqStart with
  | none =>
      exact (floorFits first isFloor).2 mark isMark existing queued existingStart last
        (planned.seqEnd.symm.trans isEnd) inOrder
  | some existingFirst =>
      have isEarlier := earlier existingFirst existingStart
      obtain ⟨furthest, isFurthest, before⟩ := mirrors.inOrder existingFirst existingStart
      obtain ⟨member, ofSession, isQueued⟩ := queuedJobOf_some queued
      have live : existing.isLive = true := by
        unfold SessionLoopJob.isLive
        rw [isQueued]
      obtain ⟨seq, isReach, reaches⟩ := SessionLoopJob.le_reach (.inr ⟨live, isFurthest⟩)
      have within := (watermark_eq_some isMark).2 existing member ofSession seq isReach
      omega

/-- A new job leaves the cursors of every session behind an event. -/
theorem cursorsPositive_insert {id : Uuid} (now : Timestamp)
    (planned : PlannedWindow (sessionLoopCursorHighWatermark sessionId store) sessionId
      triggerEventId floor store window)
    (sound : SoundTables store) (floorFits : FloorFits sessionId triggerEventId floor store)
    (noneQueued : queuedJobOf sessionId store = none)
    (fresh : store.sessionLoopJobs.find? id = none) (otherId : Uuid)
    (positive : CursorsPositive otherId store) :
    CursorsPositive otherId { store with
      sessionLoopJobs := store.sessionLoopJobs.insert
        (newSessionLoopJob now id sessionId triggerEventId reason window) } := by
  generalize isNew : newSessionLoopJob now id sessionId triggerEventId reason window = job
  have jobId : job.id = id := by rw [← isNew]; rfl
  have ofSession : job.sessionId = sessionId := by rw [← isNew]; rfl
  have freshJob : store.sessionLoopJobs.find? job.id = none := by rw [jobId]; exact fresh
  rw [cursorsPositive_iff] at positive ⊢
  simp only [Table.mem_insert_of_fresh freshJob]
  rcases positive with ⟨old, member, isOf, isPositive⟩ | noReach
  · exact .inl ⟨old, .inl member, isOf, isPositive⟩
  · by_cases same : sessionId = otherId
    · subst same
      cases isEnd : window.pendingEventSeqEnd with
      | some last =>
          have pending : job.isLive = true ∧ job.pendingEventSeqEnd = some last := by
            rw [← isNew]
            exact ⟨rfl, isEnd⟩
          obtain ⟨seq, isReach, reaches⟩ := SessionLoopJob.le_reach (.inr pending)
          have numbered := planned.numbered sound isEnd
          exact .inl ⟨job, .inr rfl, ofSession, seq, isReach, by omega⟩
      | none =>
          have noMark : sessionLoopCursorHighWatermark sessionId store = none := by
            cases isMark : sessionLoopCursorHighWatermark sessionId store with
            | none => rfl
            | some mark =>
                obtain ⟨⟨old, member, isOf, reaches⟩, -⟩ := watermark_eq_some isMark
                rw [noReach old member isOf] at reaches
                cases reaches
          have reach : job.reach = window.cursorHighWatermark := by
            rw [← isNew]
            change maxOptional window.cursorHighWatermark window.pendingEventSeqEnd = _
            rw [isEnd]
            cases window.cursorHighWatermark <;> rfl
          have cursor := planned.cursor
          rw [noMark, isEnd] at cursor
          cases floorIs : floor with
          | none =>
              right
              rw [floorIs] at cursor
              rintro other (member | rfl) isOf
              · exact noReach other member isOf
              · exact reach.trans cursor
          | some start =>
              left
              rw [floorIs] at cursor
              have aboveOne := (floorFits start floorIs).1 noMark noneQueued
                (planned.seqEnd.symm.trans isEnd)
              have notBelow : ¬ start ≤ start - 1 := by omega
              refine ⟨job, .inr rfl, ofSession, start - 1, ?_, by omega⟩
              rw [reach, cursor]
              simp [sessionLoopCursor, notBelow]
    · right
      rintro other (member | rfl) isOf
      · exact noReach other member isOf
      · exact absurd (ofSession.symm.trans isOf) same

end enqueue

theorem upsertReturning_of_none {job : SessionLoopJob} {tables : MemoryStore}
    (stored : PostgresLoop.triggerIsStored job.triggerEventId tables = true)
    (noneQueued : queuedJobOf job.sessionId tables = none) :
    PostgresLoop.upsertReturning job tables =
      (.ok job, { tables with sessionLoopJobs := tables.sessionLoopJobs.insert job }) := by
  unfold PostgresLoop.upsertReturning
  rw [stored, noneQueued]
  rfl

theorem upsertReturning_of_some {job row : SessionLoopJob} {tables : MemoryStore}
    (stored : PostgresLoop.triggerIsStored job.triggerEventId tables = true)
    (queued : queuedJobOf job.sessionId tables = some row) :
    PostgresLoop.upsertReturning job tables =
      (.ok (PostgresLoop.upserted job row), { tables with
        sessionLoopJobs :=
          tables.sessionLoopJobs.modify row.id (PostgresLoop.upserted job) }) := by
  unfold PostgresLoop.upsertReturning
  rw [stored, queued]
  rfl

theorem enqueueSessionLoopJob_agrees {store tables : MemoryStore}
    (mirrors : LoopMirrors store tables) (now : Timestamp) {id : Uuid} (sessionId : Uuid) (triggerEventId : Option Uuid)
    (reason : String) (floor : Option Int) (fresh : store.sessionLoopJobs.find? id = none)
    (fits : LoopCall.Fits store (.enqueue id sessionId triggerEventId reason floor)) :
    LoopAnswersAgree
      (enqueueSessionLoopJobFrom now id sessionId triggerEventId reason floor store)
      (PostgresLoop.enqueueSessionLoopJobFrom now id sessionId triggerEventId reason floor
        tables) := by
  have samePlan : planLoopWindow (PostgresLoop.cursorHighWatermark sessionId tables) sessionId
      triggerEventId floor tables =
        planSessionLoopWindow sessionId triggerEventId floor store := by
    rw [mirrors.watermark, ← mirrors.others]
    rfl
  unfold enqueueSessionLoopJobFrom PostgresLoop.enqueueSessionLoopJobFrom
  rw [samePlan]
  cases isPlan : planSessionLoopWindow sessionId triggerEventId floor store with
  | error error => exact mirrors.refused _ _
  | ok window =>
      have planned := planLoopWindow_ok isPlan
      obtain ⟨stored, floorFits⟩ := fits planned.hasSession
      have storedThere : PostgresLoop.triggerIsStored triggerEventId tables = true := by
        rw [← mirrors.others]
        exact stored
      dsimp only
      unfold commitSessionLoopJob
      rcases mirrors.at_queued sessionId with
        ⟨noneQueued, noRow⟩ | ⟨existing, row, queued, rowQueued, isMirror⟩
      · rw [noneQueued, upsertReturning_of_none storedThere noRow]
        refine ⟨rfl, ?_⟩
        apply mirrors.insert fresh (newSessionLoopJob_mirrors now id planned mirrors.sound)
          planned.hasSession
        intro otherId
        exact cursorsPositive_insert now planned mirrors.sound floorFits noneQueued fresh otherId
          (mirrors.cursors otherId)
      · rw [queued, upsertReturning_of_some storedThere rowQueued]
        obtain ⟨member, ofSession, isQueued⟩ := queuedJobOf_some queued
        have found := Table.find?_key member
        have rowFound : tables.sessionLoopJobs.find? existing.id = some row := by
          rw [← isMirror.id]
          exact Table.find?_key (queuedJobOf_some rowQueued).1
        have upserted := @upserted_mirrors _ _ _ _ _ _ reason _ _ now id planned mirrors.sound
          isMirror fun first moves => noGap_of_floorFits planned floorFits isMirror queued moves
        refine ⟨congrArg some upserted.seen, ?_⟩
        rw [isMirror.id]
        apply mirrors.modify found rowFound upserted rfl
        intro otherId
        have keeps : ∀ job, (coalescedJob triggerEventId reason window job).id = job.id :=
          fun _ => rfl
        exact cursorsPositive_of_replaces member (Table.replaces_modify keeps found) rfl
          (fun _ => reach_coalescedJob planned mirrors.sound isQueued) (mirrors.cursors otherId)

end MandoForge
