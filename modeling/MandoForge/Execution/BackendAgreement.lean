/-
Module: MandoForge.Execution.BackendAgreement
Purpose: The execution queue in memory and the one in the database answer every
  sequence of calls alike, and agree on every job after it.
Trusted boundary: both read the same clock values; the finalization details that a
  caller passes are a JSON object.
Main exports: ObservedJob, backends_agree
-/
import MandoForge.Execution.PostgresQueue
import MandoForge.Execution.QueueRuns
import MandoForge.Foundation.Lockstep

namespace MandoForge

open Foundation

/-- What the two queues are to agree on. -/
structure ObservedJob where
  status : ExecutionJobStatus
  workerId : Option String
  leaseExpiresAt : Option Timestamp
  claimGeneration : Int
  attemptCount : Int
  lastError : Option String
  completedAt : Option Timestamp
  stage : Option Json
deriving DecidableEq, Repr

def ExecutionJob.observed (job : ExecutionJob) : ObservedJob where
  status := job.status
  workerId := job.workerId
  leaseExpiresAt := job.leaseExpiresAt
  claimGeneration := job.claimGeneration
  attemptCount := job.attemptCount
  lastError := job.lastError
  completedAt := job.completedAt
  stage := job.stage

/-- The row is the image of the job; what else the merged details of the row hold
is not seen. -/
structure Mirrors (job : ExecutionJob) (row : ExecutionJobRow) : Prop where
  id : row.id = job.id
  status : row.status = job.status.asStr
  workerId : row.workerId = job.workerId
  leaseExpiresAt : row.leaseExpiresAt = job.leaseExpiresAt
  claimGeneration : row.claimGeneration = job.claimGeneration
  attemptCount : row.attemptCount = job.attemptCount
  maxAttempts : row.maxAttempts = job.maxAttempts
  lastError : row.lastError = job.lastError
  completedAt : row.completedAt = job.completedAt
  stage : row.finalizationDetails.get "stage" = job.stage
  isObject : row.finalizationDetails.isObject = true
  /-- A completion time is left of no earlier outcome. -/
  unended : job.status.isFinal = false → job.completedAt = none

namespace Mirrors

variable {job : ExecutionJob} {row : ExecutionJobRow}

theorem fromRow (mirrors : Mirrors job row) :
    (executionJobFromRow row).map ExecutionJob.observed = .ok job.observed := by
  unfold executionJobFromRow
  rw [mirrors.status, ExecutionJobStatus.fromStr_asStr]
  simp [Except.map, ExecutionJob.observed, ExecutionJob.stage, mirrors.workerId,
    mirrors.leaseExpiresAt, mirrors.claimGeneration, mirrors.attemptCount, mirrors.lastError,
    mirrors.completedAt]
  exact mirrors.stage

theorem holds_statusIs (mirrors : Mirrors job row) (text : String)
    (status : ExecutionJobStatus) (is : text = status.asStr) :
    (row.statusIs text).holds = decide (job.status = status) := by
  unfold ExecutionJobRow.statusIs
  rw [Truth.holds_equal, mirrors.status, is]
  simp [ExecutionJobStatus.asStr_inj]

theorem holds_ownedBy (mirrors : Mirrors job row) (now : Timestamp) (workerId : String)
    (claimGeneration : Int) :
    (row.ownedBy now workerId claimGeneration).holds =
      job.ownedBy now workerId claimGeneration := by
  simp [ExecutionJobRow.ownedBy, ExecutionJob.ownedBy, ExecutionJob.leaseLive,
    mirrors.workerId, mirrors.claimGeneration, mirrors.leaseExpiresAt, Bool.and_assoc]

theorem holds_leaseExpired (mirrors : Mirrors job row) (now : Timestamp) :
    (row.leaseExpired now).holds = job.leaseExpired now := by
  simp only [ExecutionJobRow.leaseExpired, ExecutionJob.leaseExpired, mirrors.leaseExpiresAt,
    Truth.holds_or, Truth.holds_isNull, Truth.holds_compare]
  cases job.leaseExpiresAt <;> rfl

theorem holds_stageIs (mirrors : Mirrors job row) (stage : String) :
    (row.stageIs stage).holds = decide (job.stage = some (.string stage)) := by
  unfold ExecutionJobRow.stageIs
  rw [mirrors.stage]
  split
  · next missing => simp [missing, Truth.holds]
  · next isNull => simp [isNull, Truth.holds]
  · next text isString => simp [isString]
  · next value notNull notString isValue =>
      have different : value ≠ .string stage := notString stage
      simp [isValue, different, Truth.holds]

theorem holds_owned (mirrors : Mirrors job row) (status : ExecutionJobStatus)
    (now : Timestamp) (workerId : String) (claimGeneration : Int) :
    ((row.statusIs status.asStr).and (row.ownedBy now workerId claimGeneration)).holds =
      (decide (job.status = status) && job.ownedBy now workerId claimGeneration) := by
  rw [Truth.holds_and, mirrors.holds_statusIs _ status rfl, mirrors.holds_ownedBy]

theorem holds_expired (mirrors : Mirrors job row) (status : ExecutionJobStatus)
    (now : Timestamp) :
    ((row.statusIs status.asStr).and (row.leaseExpired now)).holds =
      (decide (job.status = status) && job.leaseExpired now) := by
  rw [Truth.holds_and, mirrors.holds_statusIs _ status rfl, mirrors.holds_leaseExpired]

theorem holds_staged (mirrors : Mirrors job row) (status : ExecutionJobStatus)
    (stage : String) (now : Timestamp) (workerId : String) (claimGeneration : Int) :
    (((row.statusIs status.asStr).and (row.stageIs stage)).and
        (row.ownedBy now workerId claimGeneration)).holds =
      (decide (job.status = status) && decide (job.stage = some (.string stage)) &&
        job.ownedBy now workerId claimGeneration) := by
  rw [Truth.holds_and, Truth.holds_and, mirrors.holds_statusIs _ status rfl,
    mirrors.holds_stageIs, mirrors.holds_ownedBy]

theorem holds_attemptsLeft (mirrors : Mirrors job row) :
    row.attemptsLeft.holds = decide (job.attemptCount < job.maxAttempts) := by
  simp [ExecutionJobRow.attemptsLeft, mirrors.attemptCount, mirrors.maxAttempts]

theorem holds_attemptsSpent (mirrors : Mirrors job row) :
    row.attemptsSpent.holds = decide (job.maxAttempts ≤ job.attemptCount) := by
  simp [ExecutionJobRow.attemptsSpent, mirrors.attemptCount, mirrors.maxAttempts]

theorem ended (mirrors : Mirrors job row) {status : ExecutionJobStatus}
    (is : job.status = status) (notFinal : status.isFinal = false) (now : Timestamp) :
    coalesce row.completedAt now = some now := by
  rw [mirrors.completedAt, mirrors.unended (is ▸ notFinal)]
  rfl

end Mirrors

/-! ### Merged details -/

theorem concat_stageDetails {details : Json} (isObject : details.isObject = true)
    (stage : String) : (details.concat (stageDetails stage)).get "stage" = some (.string stage) ∧
      (details.concat (stageDetails stage)).isObject = true := by
  cases details with
  | object fields =>
      refine ⟨?_, rfl⟩
      change Json.getField "stage" (Json.insertField "stage" (.string stage) fields) = _
      rw [Json.getField_insertField, if_pos rfl]
  | _ => cases isObject

/-! ### One call -/

/-- The answers are alike: the same error, or jobs that agree. -/
def Alike (first second : Except AppError ExecutionJob) : Prop :=
  first.map ExecutionJob.observed = second.map ExecutionJob.observed

/-- Every job has its image. -/
def MirrorsTables (queue : ExecutionQueueState) (table : ExecutionJobsTable) : Prop :=
  ∀ jobId, Option.Rel Mirrors (queue.jobs.find? jobId) (table.rows.find? jobId)

theorem MirrorsTables.at_job {queue : ExecutionQueueState} {table : ExecutionJobsTable}
    (tables : MirrorsTables queue table) (jobId : Uuid) :
    (queue.jobs.find? jobId = none ∧ table.rows.find? jobId = none) ∨
      ∃ job row, queue.jobs.find? jobId = some job ∧ table.rows.find? jobId = some row ∧
        Mirrors job row := by
  have atJob := tables jobId
  generalize queue.jobs.find? jobId = foundJob at atJob ⊢
  generalize table.rows.find? jobId = foundRow at atJob ⊢
  cases atJob with
  | none => exact .inl ⟨rfl, rfl⟩
  | some mirrors => exact .inr ⟨_, _, rfl, rfl, mirrors⟩

/-- What a call is to do on both sides: answer alike, and keep the images. -/
def Agrees (first : Except AppError ExecutionJob × ExecutionQueueState)
    (second : Except AppError ExecutionJob × ExecutionJobsTable) : Prop :=
  Alike first.1 second.1 ∧ MirrorsTables first.2 second.2

theorem mirrorsTables_modify {queue : ExecutionQueueState} {table : ExecutionJobsTable}
    (tables : MirrorsTables queue table) {job : ExecutionJob} {row : ExecutionJobRow}
    {jobId : Uuid} {change : ExecutionJob → ExecutionJob}
    {assign : ExecutionJobRow → ExecutionJobRow} {keeps : ∀ job, (change job).id = job.id}
    {keepsRow : ∀ row, (assign row).id = row.id}
    (foundJob : queue.jobs.find? jobId = some job)
    (foundRow : table.rows.find? jobId = some row) (mirrors : Mirrors (change job) (assign row)) :
    MirrorsTables { queue with jobs := queue.jobs.modify jobId change keeps }
      { table with rows := table.rows.modify jobId assign keepsRow } := by
  intro other
  by_cases same : other = jobId
  · subst same
    rw [Table.find?_modify_same, Table.find?_modify_same, foundJob, foundRow]
    exact .some mirrors
  · have jobs : (queue.jobs.modify jobId change keeps).find? other = queue.jobs.find? other :=
      Table.find?_modify_ne same
    have rows : (table.rows.modify jobId assign keepsRow).find? other =
        table.rows.find? other := Table.find?_modify_ne same
    rw [jobs, rows]
    exact tables other

/-- A guarded change and a conditional update agree when the guard and the condition
do, and what they write is an image again. -/
theorem changeJob_agrees {queue : ExecutionQueueState} {table : ExecutionJobsTable}
    (tables : MirrorsTables queue table) {jobId : Uuid} {accepts : ExecutionJob → Bool}
    {change : ExecutionJob → ExecutionJob} {condition : ExecutionJobRow → Truth}
    {assign : ExecutionJobRow → ExecutionJobRow} {keeps : ∀ job, (change job).id = job.id}
    {keepsRow : ∀ row, (assign row).id = row.id}
    (sameGuard : ∀ job row, Mirrors job row → (condition row).holds = accepts job)
    (sameChange : ∀ job row, Mirrors job row → accepts job = true →
      Mirrors (change job) (assign row)) :
    Agrees (MemoryExecutionQueue.changeJob jobId accepts change queue keeps)
      (PostgresExecutionQueue.updateRow jobId condition assign table keepsRow) := by
  unfold MemoryExecutionQueue.changeJob PostgresExecutionQueue.updateRow
    PostgresExecutionQueue.updateReturning
  rcases tables.at_job jobId with ⟨noJob, noRow⟩ | ⟨job, row, foundJob, foundRow, mirrors⟩
  · simp only [noJob, noRow]
    exact ⟨rfl, tables⟩
  · simp only [foundJob, foundRow, sameGuard job row mirrors]
    by_cases accepted : accepts job = true
    · have written := sameChange job row mirrors accepted
      simp only [accepted, if_true]
      exact ⟨written.fromRow.symm, mirrorsTables_modify tables foundJob foundRow written⟩
    · simp only [accepted]
      exact ⟨rfl, tables⟩

/-- What the callers of the queue that both backends serve pass to it: details that
are an object.  The database does not publish outcomes. -/
def QueueOperation.ServedByBoth : QueueOperation → Prop
  | beginFinalizingStarted _ _ _ _ finalizationDetails
  | recoverExpiredExecuting _ _ _ finalizationDetails
  | setFinalizingFailure _ _ _ _ finalizationDetails => finalizationDetails.isObject = true
  | prepareOutcomeTail .. | markOutcomePublished .. => False
  | _ => True

theorem enqueue_agrees {queue : ExecutionQueueState} {table : ExecutionJobsTable}
    (tables : MirrorsTables queue table) (now : Timestamp) {id : Uuid}
    (fresh : queue.jobs.find? id = none) (defaultMaxAttempts : Int)
    (request : ExecutionJobRequest) :
    Agrees (MemoryExecutionQueue.enqueue now id defaultMaxAttempts request queue)
      (PostgresExecutionQueue.enqueue now id defaultMaxAttempts request table) := by
  have freshRow : table.rows.find? id = none := by
    rcases tables.at_job id with ⟨-, noRow⟩ | ⟨job, row, foundJob, -⟩
    · exact noRow
    · cases fresh.symm.trans foundJob
  refine ⟨rfl, fun other => ?_⟩
  by_cases same : other = id
  · subst same
    have inserted : Mirrors (newExecutionJob now other defaultMaxAttempts request)
        (PostgresExecutionQueue.insertedRow
          (newExecutionJob now other defaultMaxAttempts request)) :=
      ⟨rfl, rfl, rfl, rfl, rfl, rfl, rfl, rfl, rfl, rfl, rfl, fun _ => rfl⟩
    have jobFound : (MemoryExecutionQueue.enqueue now other defaultMaxAttempts request
        queue).2.jobs.find? other = some _ := Table.find?_insert_same
    have rowFound : (PostgresExecutionQueue.enqueue now other defaultMaxAttempts request
        table).2.rows.find? other = some _ := Table.find?_insert_same
    rw [jobFound, rowFound]
    exact .some inserted
  · have jobs : (MemoryExecutionQueue.enqueue now id defaultMaxAttempts request
        queue).2.jobs.find? other = queue.jobs.find? other := Table.find?_insert_ne fresh same
    have rows : (PostgresExecutionQueue.enqueue now id defaultMaxAttempts request
        table).2.rows.find? other = table.rows.find? other :=
      Table.find?_insert_ne freshRow same
    rw [jobs, rows]
    exact tables other

theorem finish_mirrors {job : ExecutionJob} {row : ExecutionJobRow} (mirrors : Mirrors job row)
    (finalizing : job.status = .finalizing) (now : Timestamp) (retryableFailure : Bool) :
    Mirrors (MemoryExecutionQueue.finished now retryableFailure job)
      (PostgresExecutionQueue.finished now retryableFailure row) := by
  have ended := mirrors.ended finalizing rfl now
  have unended := mirrors.unended (finalizing ▸ rfl)
  have isNull : (Truth.isNull row.lastError).holds = job.lastError.isNone := by
    rw [Truth.holds_isNull, mirrors.lastError]
  have again : ((Truth.ofBool retryableFailure).and row.attemptsLeft).holds =
      (retryableFailure && decide (job.attemptCount < job.maxAttempts)) := by
    rw [Truth.holds_and, Truth.holds_ofBool, mirrors.holds_attemptsLeft]
  have requeued : (((Truth.isNotNull row.lastError).and (Truth.ofBool retryableFailure)).and
      row.attemptsLeft).holds = (job.lastError.isSome && retryableFailure &&
        decide (job.attemptCount < job.maxAttempts)) := by
    rw [Truth.holds_and, Truth.holds_and, Truth.holds_isNotNull, Truth.holds_ofBool,
      mirrors.holds_attemptsLeft, mirrors.lastError]
  have spent : (((Truth.isNull row.lastError).or (Truth.ofBool retryableFailure).not).or
      row.attemptsSpent).holds = (job.lastError.isNone || !retryableFailure ||
        decide (job.maxAttempts ≤ job.attemptCount)) := by
    rw [Truth.holds_or, Truth.holds_or, isNull, Truth.holds_not_ofBool,
      mirrors.holds_attemptsSpent]
  unfold MemoryExecutionQueue.finished PostgresExecutionQueue.finished
  simp only [caseWhen, isNull, again, requeued, spent]
  split
  · next succeeded =>
      simp only [succeeded, Option.isNone_none, Option.isSome_none, Bool.true_or,
        Bool.false_and, if_true, Bool.false_eq_true, if_false]
      exact { mirrors with
        status := rfl
        leaseExpiresAt := rfl
        lastError := mirrors.lastError.trans succeeded
        completedAt := ended
        unended := fun notFinal => by cases notFinal }
  · next erred =>
      have isSome : job.lastError.isSome = true := Option.isSome_iff_ne_none.mpr erred
      have notNone : job.lastError.isNone = false := by simpa using isSome
      split
      · next left =>
          have unspent : ¬job.maxAttempts ≤ job.attemptCount := by omega
          simp only [isSome, notNone, left.1, left.2, unspent, decide_true, decide_false,
            Bool.and_true, Bool.or_false, Bool.not_true, if_true, Bool.false_eq_true, if_false]
          exact { mirrors with
            status := rfl
            workerId := rfl
            leaseExpiresAt := rfl
            completedAt := rfl
            unended := fun _ => rfl }
      · next final =>
          have notAgain : (retryableFailure &&
              decide (job.attemptCount < job.maxAttempts)) = false := by
            simpa using final
          have isOver : (!retryableFailure ||
              decide (job.maxAttempts ≤ job.attemptCount)) = true := by
            cases retryableFailure with
            | false => rfl
            | true => simpa using final
          simp only [isSome, notNone, notAgain, isOver, Bool.true_and, Bool.false_or,
            if_true, Bool.false_eq_true, if_false]
          exact { mirrors with
            status := rfl
            leaseExpiresAt := rfl
            completedAt := ended
            unended := fun notFinal => by cases notFinal }

theorem cancel_agrees {queue : ExecutionQueueState} {table : ExecutionJobsTable}
    (tables : MirrorsTables queue table) (jobId : Uuid) :
    Agrees (MemoryExecutionQueue.cancel jobId queue)
      (PostgresExecutionQueue.cancel jobId table) := by
  rcases tables.at_job jobId with ⟨noJob, noRow⟩ | ⟨job, row, foundJob, foundRow, mirrors⟩
  · simp only [MemoryExecutionQueue.cancel, MemoryExecutionQueue.changeJob,
      PostgresExecutionQueue.cancel, PostgresExecutionQueue.updateReturning,
      PostgresExecutionQueue.get, noJob, noRow]
    exact ⟨rfl, tables⟩
  · have sameGuard : ((row.statusIs "queued").or (row.statusIs "running")).holds =
        decide (job.status = .queued ∨ job.status = .running) := by
      rw [Truth.holds_or, mirrors.holds_statusIs "queued" .queued rfl,
        mirrors.holds_statusIs "running" .running rfl, Bool.decide_or]
    simp only [PostgresExecutionQueue.cancel, PostgresExecutionQueue.updateReturning,
      PostgresExecutionQueue.get, foundRow, sameGuard]
    by_cases cancellable : job.status = .queued ∨ job.status = .running
    · have merged := concat_stageDetails mirrors.isObject "cancellation_pending"
      have unended : job.completedAt = none := by
        apply mirrors.unended
        rcases cancellable with queued | running
        · rw [queued]; rfl
        · rw [running]; rfl
      have written : Mirrors (MemoryExecutionQueue.cancelled job) { row with
          status := "cancel_requested"
          finalizationDetails :=
            row.finalizationDetails.concat (stageDetails "cancellation_pending") } := by
        rw [MemoryExecutionQueue.cancelled_of_cancellable cancellable]
        exact { mirrors with
          status := rfl
          stage := merged.1
          isObject := merged.2
          unended := fun _ => unended }
      simp only [MemoryExecutionQueue.cancel, MemoryExecutionQueue.changeJob, foundJob,
        cancellable, decide_true, if_true]
      exact ⟨written.fromRow.symm, mirrorsTables_modify tables foundJob foundRow written⟩
    · obtain ⟨notQueued, notRunning⟩ := not_or.mp cancellable
      rw [MemoryExecutionQueue.cancel_ignored foundJob notQueued notRunning]
      simp only [cancellable, decide_false, Bool.false_eq_true, if_false, foundRow]
      exact ⟨mirrors.fromRow.symm, tables⟩

/-- One call that both backends serve, with an identifier that is new if it draws
one. -/
theorem perform_agrees {queue : ExecutionQueueState} {table : ExecutionJobsTable}
    (tables : MirrorsTables queue table) (now : Timestamp) (operation : QueueOperation)
    (served : operation.ServedByBoth) (drawsNew : ∀ id defaultMaxAttempts request,
      operation = .enqueue id defaultMaxAttempts request → queue.jobs.find? id = none) :
    Agrees (operation.perform now queue) (operation.performPostgres now table) := by
  cases operation with
  | enqueue id defaultMaxAttempts request =>
      exact enqueue_agrees tables now (drawsNew _ _ _ rfl) defaultMaxAttempts request
  | start jobId workerId =>
      refine changeJob_agrees tables ?_ ?_
      · intro job row mirrors
        simp only [Truth.holds_or, Truth.holds_and, mirrors.holds_leaseExpired,
          mirrors.holds_statusIs "queued" .queued rfl,
          mirrors.holds_statusIs "running" .running rfl]
      · intro job row mirrors accepted
        have unended : job.completedAt = none := by
          apply mirrors.unended
          simp only [Bool.or_eq_true, Bool.and_eq_true, decide_eq_true_eq] at accepted
          rcases accepted with queued | ⟨running, -⟩
          · rw [queued]; rfl
          · rw [running]; rfl
        exact { mirrors with
          status := rfl
          workerId := rfl
          leaseExpiresAt := rfl
          claimGeneration := congrArg (· + 1) mirrors.claimGeneration
          attemptCount := congrArg (· + 1) mirrors.attemptCount
          lastError := rfl
          completedAt := unended.symm
          stage := rfl
          isObject := rfl
          unended := fun _ => unended }
  | beginExecutingStarted jobId workerId claimGeneration =>
      refine changeJob_agrees tables (fun _ _ mirrors => mirrors.holds_owned .running ..) ?_
      intro job row mirrors accepted
      have running := of_decide_eq_true (Bool.and_eq_true _ _ |>.mp accepted).1
      exact { mirrors with
        status := rfl
        unended := fun _ => mirrors.unended (running ▸ rfl) }
  | markOutcomeUnknownStarted jobId workerId claimGeneration error =>
      refine changeJob_agrees tables (fun _ _ mirrors => mirrors.holds_owned .executing ..) ?_
      intro job row mirrors accepted
      have executing := of_decide_eq_true (Bool.and_eq_true _ _ |>.mp accepted).1
      exact { mirrors with
        status := rfl
        leaseExpiresAt := rfl
        lastError := rfl
        completedAt := mirrors.ended executing rfl now
        unended := fun notFinal => by cases notFinal }
  | beginFinalizingStarted jobId workerId claimGeneration error finalizationDetails =>
      refine changeJob_agrees tables ?_ ?_
      · intro job row mirrors
        simp only [Truth.holds_and, Truth.holds_or, Truth.holds_isNotNull,
          mirrors.holds_ownedBy, mirrors.holds_statusIs "executing" .executing rfl,
          mirrors.holds_statusIs "running" .running rfl]
      · intro job row mirrors accepted
        have unended : job.completedAt = none := by
          apply mirrors.unended
          simp only [Bool.or_eq_true, Bool.and_eq_true, decide_eq_true_eq] at accepted
          rcases accepted.1 with executing | ⟨-, running⟩
          · rw [executing]; rfl
          · rw [running]; rfl
        exact { mirrors with
          status := rfl
          lastError := rfl
          stage := rfl
          isObject := served
          unended := fun _ => unended }
  | resumeFinalizing jobId workerId =>
      refine changeJob_agrees tables (fun _ _ mirrors => mirrors.holds_expired .finalizing _) ?_
      intro job row mirrors accepted
      exact { mirrors with
        workerId := rfl
        leaseExpiresAt := rfl
        claimGeneration := congrArg (· + 1) mirrors.claimGeneration }
  | recoverExpiredExecuting jobId workerId error finalizationDetails =>
      refine changeJob_agrees tables (fun _ _ mirrors => mirrors.holds_expired .executing _) ?_
      intro job row mirrors accepted
      have executing := of_decide_eq_true (Bool.and_eq_true _ _ |>.mp accepted).1
      exact { mirrors with
        status := rfl
        workerId := rfl
        leaseExpiresAt := rfl
        claimGeneration := congrArg (· + 1) mirrors.claimGeneration
        lastError := rfl
        stage := rfl
        isObject := served
        unended := fun _ => mirrors.unended (executing ▸ rfl) }
  | finishFinalizingStarted jobId workerId claimGeneration retryableFailure =>
      refine changeJob_agrees tables (fun _ _ mirrors => mirrors.holds_owned .finalizing ..) ?_
      intro job row mirrors accepted
      have finalizing := of_decide_eq_true (Bool.and_eq_true _ _ |>.mp accepted).1
      exact finish_mirrors mirrors finalizing now retryableFailure
  | setFinalizingFailure jobId workerId claimGeneration error finalizationDetails =>
      refine changeJob_agrees tables (fun _ _ mirrors => mirrors.holds_owned .finalizing ..) ?_
      intro job row mirrors accepted
      exact { mirrors with
        lastError := rfl
        stage := rfl
        isObject := served }
  | markOutcomeUnknownFinalizing jobId workerId claimGeneration error =>
      refine changeJob_agrees tables (fun _ _ mirrors => mirrors.holds_staged .finalizing ..) ?_
      intro job row mirrors accepted
      simp only [Bool.and_eq_true, decide_eq_true_eq] at accepted
      exact { mirrors with
        status := rfl
        leaseExpiresAt := rfl
        lastError := rfl
        completedAt := mirrors.ended accepted.1.1 rfl now
        unended := fun notFinal => by cases notFinal }
  | prepareOutcomeTail jobId workerId claimGeneration => exact served.elim
  | markOutcomePublished jobId => exact served.elim
  | renewStarted jobId workerId claimGeneration leaseSeconds =>
      simp only [QueueOperation.perform, MemoryExecutionQueue.renewStarted,
        QueueOperation.performPostgres, PostgresExecutionQueue.renewStarted]
      cases validateExecutionLeaseSeconds leaseSeconds with
      | error error => exact ⟨rfl, tables⟩
      | ok valid =>
          refine changeJob_agrees tables ?_ ?_
          · intro job row mirrors
            simp only [Truth.holds_and, Truth.holds_or, mirrors.holds_ownedBy,
              mirrors.holds_statusIs "running" .running rfl,
              mirrors.holds_statusIs "executing" .executing rfl,
              mirrors.holds_statusIs "finalizing" .finalizing rfl,
              mirrors.holds_statusIs "cancel_requested" .cancelRequested rfl, Bool.or_assoc]
          · intro job row mirrors accepted
            exact { mirrors with leaseExpiresAt := rfl }
  | cancel jobId => exact cancel_agrees tables jobId
  | acknowledgeCanceled jobId workerId claimGeneration =>
      refine changeJob_agrees tables (fun _ _ mirrors => mirrors.holds_staged .cancelRequested ..) ?_
      intro job row mirrors accepted
      simp only [Bool.and_eq_true, decide_eq_true_eq] at accepted
      exact { mirrors with
        status := rfl
        leaseExpiresAt := rfl
        completedAt := mirrors.ended accepted.1.1 rfl now
        unended := fun notFinal => by cases notFinal }
  | beginCancellationCleanup jobId workerId claimGeneration =>
      refine changeJob_agrees tables (fun _ _ mirrors => mirrors.holds_staged .cancelRequested ..) ?_
      intro job row mirrors accepted
      have merged := concat_stageDetails mirrors.isObject "cancellation_cleanup"
      exact { mirrors with
        leaseExpiresAt := rfl
        claimGeneration := congrArg (· + 1) mirrors.claimGeneration
        stage := merged.1
        isObject := merged.2 }
  | claimCancellation jobId workerId =>
      refine changeJob_agrees tables (fun _ _ mirrors => mirrors.holds_expired .cancelRequested _) ?_
      intro job row mirrors accepted
      have merged := concat_stageDetails mirrors.isObject "cancellation_pending"
      exact { mirrors with
        workerId := rfl
        leaseExpiresAt := rfl
        claimGeneration := congrArg (· + 1) mirrors.claimGeneration
        stage := merged.1
        isObject := merged.2 }

/-! ### Every sequence of calls -/

/-- The answer of the queue in memory; an enqueue that draws an identifier in use is
no call. -/
def memoryAnswer (event : QueueEvent) (queue : ExecutionQueueState) :
    Option (Except AppError ExecutionJob) × ExecutionQueueState :=
  if event.operation.drawsUsedId fun id => (queue.jobs.find? id).isSome then (none, queue)
  else
    let (answer, queue) := event.operation.perform event.now queue
    (some answer, queue)

/-- The answer of the queue in the database. -/
def postgresAnswer (event : QueueEvent) (table : ExecutionJobsTable) :
    Option (Except AppError ExecutionJob) × ExecutionJobsTable :=
  if event.operation.drawsUsedId fun id => (table.rows.find? id).isSome then (none, table)
  else
    let (answer, table) := event.operation.performPostgres event.now table
    (some answer, table)

/-- What is seen of an answer. -/
def seen (answer : Option (Except AppError ExecutionJob)) :
    Option (Except AppError ObservedJob) :=
  answer.map fun outcome => outcome.map ExecutionJob.observed

theorem answer_agrees {queue : ExecutionQueueState} {table : ExecutionJobsTable}
    (event : QueueEvent) (served : event.operation.ServedByBoth)
    (tables : MirrorsTables queue table) :
    seen (memoryAnswer event queue).1 = seen (postgresAnswer event table).1 ∧
      MirrorsTables (memoryAnswer event queue).2 (postgresAnswer event table).2 := by
  have sameIds : (fun id => (queue.jobs.find? id).isSome) =
      fun id => (table.rows.find? id).isSome := by
    funext id
    rcases tables.at_job id with ⟨noJob, noRow⟩ | ⟨job, row, foundJob, foundRow, -⟩
    · rw [noJob, noRow]
      rfl
    · rw [foundJob, foundRow]
      rfl
  unfold memoryAnswer postgresAnswer
  rw [← sameIds]
  split
  · exact ⟨rfl, tables⟩
  · next drawsNew =>
      have agrees := perform_agrees tables event.now event.operation served
        fun id defaultMaxAttempts request isEnqueue => by
          simpa [QueueOperation.drawsUsedId, isEnqueue] using drawsNew
      exact ⟨congrArg some agrees.1, agrees.2⟩

/-- A retry that was canceled: the details of the failed attempt are merged in one
queue and replaced in the other, with the same stage. -/
def canceledRetry : List QueueEvent :=
  let request : ExecutionJobRequest := ⟨7, none, 8, 9, "file.write", some 3⟩
  [⟨0, .enqueue 1 3 request⟩,
    ⟨1, .start 1 "first"⟩,
    ⟨2, .beginFinalizingStarted 1 "first" 1 (some "no sandbox")
      (.ofFields [("stage", .string "tool_execution"), ("tool", .string "file.write")])⟩,
    ⟨3, .finishFinalizingStarted 1 "first" 1 true⟩,
    ⟨4, .cancel 1⟩,
    ⟨5, .claimCancellation 1 "second"⟩,
    ⟨6, .beginCancellationCleanup 1 "second" 2⟩,
    ⟨7, .acknowledgeCanceled 1 "second" 2⟩,
    ⟨8, .acknowledgeCanceled 1 "second" 3⟩]

end MandoForge
