/-
Module: MandoForge.SessionLoop.JobMirrors
Purpose: When the jobs of the session loop in memory and in the database mirror each
  other: the rows agree on everything but the start time and a cursor that is 0 in the one
  and NULL in the other.  Mirrored tables give the same watermark and the same cover.
Trusted boundary: none
Main exports: LoopJobMirrors, CursorsPositive
-/
import MandoForge.Foundation.PairedTables
import MandoForge.SessionLoop.Coverage
import MandoForge.SessionLoop.PostgresJobs
import MandoForge.SessionLoop.Projection

namespace MandoForge

open Foundation

/-! ### What the two backends say of an event -/

/-- `session_loop_projection_covers`, for the watermark of one backend. -/
def projectionCovers (watermark : Option Int) (eventSeq : Int) : Bool :=
  watermark.any fun highWatermark => decide (eventSeq ≤ highWatermark)

/-- `session_loop_projection_covers_range`, for the jobs that one backend lists. -/
def projectionCoversRange (sessionId : Uuid) (seqStart seqEnd : Int)
    (jobs : List SessionLoopJob) : Bool :=
  if seqEnd < seqStart then true else jobsCoverRange sessionId seqStart seqEnd jobs

/-! ### A job and its row -/

/-- The job stands right before the first event, and its row has no cursor. -/
structure ZeroAsNull (job row : SessionLoopJob) : Prop where
  zero : job.processedEventSeq = some 0
  null : row.processedEventSeq = none
  start : job.pendingEventSeqStart = some 1

/-- The row is the image of the job. -/
structure LoopJobMirrors (job row : SessionLoopJob) : Prop where
  id : row.id = job.id
  sessionId : row.sessionId = job.sessionId
  status : row.status = job.status
  pendingEventSeqStart : row.pendingEventSeqStart = job.pendingEventSeqStart
  pendingEventSeqEnd : row.pendingEventSeqEnd = job.pendingEventSeqEnd
  workerId : row.workerId = job.workerId
  leaseExpiresAt : row.leaseExpiresAt = job.leaseExpiresAt
  processedEventSeq : row.processedEventSeq = job.processedEventSeq ∨ ZeroAsNull job row
  numbered : ∀ last, job.pendingEventSeqEnd = some last → 1 ≤ last
  inOrder : ∀ first, job.pendingEventSeqStart = some first →
    ∃ last, job.pendingEventSeqEnd = some last ∧ first ≤ last

namespace LoopJobMirrors

variable {job row : SessionLoopJob}

theorem holds_statusIs (mirrors : LoopJobMirrors job row) (status : SessionLoopJobStatus) :
    (row.statusIs status).holds = decide (job.status = status) := by
  rw [SessionLoopJob.statusIs, Truth.holds_equal, mirrors.status]
  simp

theorem isLive (mirrors : LoopJobMirrors job row) : row.isLive = job.isLive := by
  rw [SessionLoopJob.isLive, mirrors.status, SessionLoopJob.isLive]

theorem cursorColumn_eq (mirrors : LoopJobMirrors job row) :
    row.cursorColumn = max (row.processedEventSeq.getD 0)
      (if job.isLive then job.pendingEventSeqEnd.getD 0 else 0) := by
  unfold SessionLoopJob.cursorColumn caseWhen
  rw [Truth.holds_or, mirrors.holds_statusIs, mirrors.holds_statusIs, mirrors.pendingEventSeqEnd]
  unfold SessionLoopJob.isLive
  cases job.status <;> rfl

/-- The column of the row is what the job reaches, with nothing below 0. -/
theorem cursorColumn (mirrors : LoopJobMirrors job row) :
    row.cursorColumn = max (job.reach.getD 0) 0 := by
  have sameCursor : row.processedEventSeq.getD 0 = job.processedEventSeq.getD 0 := by
    rcases mirrors.processedEventSeq with same | zero
    · rw [same]
    · rw [zero.null, zero.zero]
      rfl
  rw [mirrors.cursorColumn_eq, sameCursor, SessionLoopJob.reach]
  by_cases live : job.isLive = true
  · rw [if_pos live, if_pos live]
    cases last : job.pendingEventSeqEnd with
    | none => cases job.processedEventSeq <;> simp [maxOptional]
    | some last' =>
        have positive := mirrors.numbered last' last
        cases job.processedEventSeq with
        | none =>
            simp only [maxOptional, Option.getD_none, Option.getD_some]
            omega
        | some processed =>
            simp only [maxOptional, Option.getD_some]
            omega
  · rw [if_neg live, if_neg live]
    cases job.processedEventSeq <;> simp [maxOptional]

/-- The range of a job does not depend on whether a cursor of 0 is stored. -/
theorem effectiveRange (mirrors : LoopJobMirrors job row) :
    effectiveRange row = effectiveRange job := by
  rcases mirrors.processedEventSeq with same | zero
  · unfold MandoForge.effectiveRange SessionLoopJob.reach
    rw [mirrors.pendingEventSeqStart, same, mirrors.isLive, mirrors.pendingEventSeqEnd]
  · obtain ⟨last, isLast, inOrder⟩ := mirrors.inOrder 1 zero.start
    unfold MandoForge.effectiveRange SessionLoopJob.reach
    rw [mirrors.pendingEventSeqStart, zero.start, zero.null, zero.zero, mirrors.isLive,
      mirrors.pendingEventSeqEnd, isLast]
    by_cases live : job.isLive = true
    · have sameReach : max 0 last = last := by omega
      rw [if_pos live]
      simp only [maxOptional, sameReach]
    · rw [if_neg live]
      simp [maxOptional]

end LoopJobMirrors

/-! ### The cursors of a session -/

/-- The session has no cursor in memory, or one behind an event. -/
def CursorsPositive (sessionId : Uuid) (store : MemoryStore) : Prop :=
  ∀ seq, sessionLoopCursorHighWatermark sessionId store = some seq → 0 < seq

theorem cursorsPositive_iff {sessionId : Uuid} {store : MemoryStore} :
    CursorsPositive sessionId store ↔
      (∃ job ∈ store.sessionLoopJobs, job.sessionId = sessionId ∧
        ∃ last, job.reach = some last ∧ 0 < last) ∨
      ∀ job ∈ store.sessionLoopJobs, job.sessionId = sessionId → job.reach = none := by
  constructor
  · intro positive
    cases isMark : sessionLoopCursorHighWatermark sessionId store with
    | none => exact .inr (watermark_eq_none isMark)
    | some mark =>
        obtain ⟨⟨job, member, ofSession, reaches⟩, -⟩ := watermark_eq_some isMark
        exact .inl ⟨job, member, ofSession, mark, reaches, positive mark isMark⟩
  · rintro (⟨job, member, ofSession, last, reaches, positive⟩ | noReach) mark isMark
    · have within := (watermark_eq_some isMark).2 job member ofSession last reaches
      omega
    · obtain ⟨⟨job, member, ofSession, reaches⟩, -⟩ := watermark_eq_some isMark
      rw [noReach job member ofSession] at reaches
      cases reaches

/-- A job in place of another: the cursors stay behind an event when its own is, or is what
it was. -/
theorem cursorsPositive_of_replaces {sessionId : Uuid} {before after : MemoryStore}
    {old new : SessionLoopJob} (found : old ∈ before.sessionLoopJobs)
    (replaces : Table.Replaces old.id new before.sessionLoopJobs after.sessionLoopJobs)
    (sameSession : new.sessionId = old.sessionId)
    (reaches : old.sessionId = sessionId →
      new.reach = old.reach ∨ ∃ last, new.reach = some last ∧ 0 < last)
    (positive : CursorsPositive sessionId before) : CursorsPositive sessionId after := by
  rw [cursorsPositive_iff] at positive ⊢
  have kept : ∀ job ∈ after.sessionLoopJobs, job = new ∨ job ∈ before.sessionLoopJobs :=
    fun job member => (replaces.mem member).imp_right And.right
  by_cases ofSession : old.sessionId = sessionId
  · rcases reaches ofSession with sameReach | isPositive
    · rcases positive with ⟨job, member, isOf, last, isReach, isPositive⟩ | noReach
      · left
        by_cases isOld : job.id = old.id
        · obtain rfl := Table.eq_of_key_eq member found isOld
          exact ⟨new, replaces.mem_new, sameSession.trans isOf, last, sameReach.trans isReach,
            isPositive⟩
        · exact ⟨job, replaces.mem_old member isOld, isOf, last, isReach, isPositive⟩
      · right
        intro job member isOf
        rcases kept job member with rfl | wasThere
        · rw [sameReach]
          exact noReach old found ofSession
        · exact noReach job wasThere isOf
    · exact .inl ⟨new, replaces.mem_new, sameSession.trans ofSession, isPositive⟩
  · rcases positive with ⟨job, member, isOf, last, isReach, isPositive⟩ | noReach
    · left
      have isOther : job.id ≠ old.id := by
        intro isOld
        rw [Table.eq_of_key_eq member found isOld] at isOf
        exact ofSession isOf
      exact ⟨job, replaces.mem_old member isOther, isOf, last, isReach, isPositive⟩
    · right
      intro job member isOf
      rcases kept job member with rfl | wasThere
      · exact absurd (sameSession.symm.trans isOf) ofSession
      · exact noReach job wasThere isOf

/-! ### The tables of the two backends -/

/-- What the schema promises of the other tables: the events of a session are numbered
from 1, and a step run has its workflow run. -/
structure SoundTables (tables : MemoryStore) : Prop where
  numbered : ∀ event ∈ tables.events, 1 ≤ event.seq
  ofRun : ∀ step ∈ tables.workflowStepRuns.rows,
    (tables.workflowRuns.find? step.workflowRunId).isSome = true

/-- The jobs in the database mirror those in memory; the other tables are the same. -/
structure LoopMirrors (store tables : MemoryStore) : Prop where
  others : { store with sessionLoopJobs := tables.sessionLoopJobs } = tables
  rows : List.Forall₂ LoopJobMirrors store.sessionLoopJobs.rows tables.sessionLoopJobs.rows
  sound : SoundTables store
  sessions : ∀ job ∈ store.sessionLoopJobs, (store.sessions.find? job.sessionId).isSome = true
  cursors : ∀ sessionId, CursorsPositive sessionId store

/-- The maximum of columns in which NULL counts as 0, kept when it is above 0. -/
theorem filter_max?_coalesced (cursors : List (Option Int)) :
    ((cursors.map fun cursor => max (cursor.getD 0) 0).max?.filter fun seq => decide (0 < seq)) =
      (cursors.filterMap id).max?.filter fun seq => decide (0 < seq) := by
  ext seq
  rw [Option.filter_eq_some_iff, Option.filter_eq_some_iff, List.max?_eq_some_iff,
    List.max?_eq_some_iff]
  simp only [List.mem_map, List.mem_filterMap, id_eq, decide_eq_true_eq,
    exists_eq_right]
  constructor
  · rintro ⟨⟨⟨cursor, member, isMax⟩, isBound⟩, positive⟩
    refine ⟨⟨?_, ?_⟩, positive⟩
    · cases cursor with
      | none =>
          simp only [Option.getD_none] at isMax
          omega
      | some last =>
          simp only [Option.getD_some] at isMax
          have same : last = seq := by omega
          rw [← same]
          exact member
    · intro other otherMember
      have within := isBound (max other 0) ⟨some other, otherMember, rfl⟩
      omega
  · rintro ⟨⟨member, isBound⟩, positive⟩
    refine ⟨⟨⟨some seq, member, ?_⟩, ?_⟩, positive⟩
    · simp only [Option.getD_some]
      omega
    · rintro other ⟨cursor, cursorMember, rfl⟩
      cases cursor with
      | none =>
          simp only [Option.getD_none]
          omega
      | some last =>
          have within := isBound last cursorMember
          simp only [Option.getD_some]
          omega

namespace LoopMirrors

variable {store tables : MemoryStore}

theorem jobsOf (mirrors : LoopMirrors store tables) (sessionId : Uuid) :
    List.Forall₂ LoopJobMirrors (sessionLoopJobsOf sessionId store)
      (sessionLoopJobsOf sessionId tables) := by
  apply filter_paired mirrors.rows
  intro job row isMirror
  rw [isMirror.sessionId]

/-- The two watermarks are one. -/
theorem watermark (mirrors : LoopMirrors store tables) (sessionId : Uuid) :
    PostgresLoop.cursorHighWatermark sessionId tables =
      sessionLoopCursorHighWatermark sessionId store := by
  have sameColumns : (sessionLoopJobsOf sessionId tables).map SessionLoopJob.cursorColumn =
      ((sessionLoopJobsOf sessionId store).map SessionLoopJob.reach).map
        fun cursor => max (cursor.getD 0) 0 := by
    rw [List.map_map]
    symm
    apply map_paired (mirrors.jobsOf sessionId)
    intro job row isMirror
    exact isMirror.cursorColumn.symm
  have sameReaches : ((sessionLoopJobsOf sessionId store).map SessionLoopJob.reach).filterMap id =
      (sessionLoopJobsOf sessionId store).filterMap SessionLoopJob.reach := by
    rw [List.filterMap_map]
    rfl
  unfold PostgresLoop.cursorHighWatermark
  rw [sameColumns, filter_max?_coalesced, sameReaches]
  change (sessionLoopCursorHighWatermark sessionId store).filter _ = _
  cases isMark : sessionLoopCursorHighWatermark sessionId store with
  | none => rfl
  | some mark =>
      have positive := mirrors.cursors sessionId mark isMark
      simp [positive]

theorem covers (mirrors : LoopMirrors store tables) (sessionId : Uuid) (eventSeq : Int) :
    projectionCovers (PostgresLoop.cursorHighWatermark sessionId tables) eventSeq =
      projectionCovers (sessionLoopCursorHighWatermark sessionId store) eventSeq := by
  rw [mirrors.watermark]

theorem coversRange (mirrors : LoopMirrors store tables) (sessionId : Uuid)
    (seqStart seqEnd : Int) :
    projectionCoversRange sessionId seqStart seqEnd tables.sessionLoopJobs.rows =
      projectionCoversRange sessionId seqStart seqEnd store.sessionLoopJobs.rows := by
  have sameRanges : (sessionLoopJobsOf sessionId store).filterMap effectiveRange =
      (sessionLoopJobsOf sessionId tables).filterMap effectiveRange := by
    apply filterMap_paired (mirrors.jobsOf sessionId)
    intro job row isMirror
    exact isMirror.effectiveRange.symm
  unfold projectionCoversRange jobsCoverRange
  unfold sessionLoopJobsOf at sameRanges
  rw [sameRanges]

/-- Under an identifier there is neither a job nor a row, or the one mirrors the other. -/
theorem at_job (mirrors : LoopMirrors store tables) (id : Uuid) :
    (store.sessionLoopJobs.find? id = none ∧ tables.sessionLoopJobs.find? id = none) ∨
      ∃ job row, store.sessionLoopJobs.find? id = some job ∧
        tables.sessionLoopJobs.find? id = some row ∧ LoopJobMirrors job row := by
  have both := Table.paired_find? mirrors.rows (fun _ _ isMirror => isMirror.id.symm) id
  revert both
  cases store.sessionLoopJobs.find? id with
  | none =>
      cases tables.sessionLoopJobs.find? id with
      | none => exact fun _ => .inl ⟨rfl, rfl⟩
      | some row => exact fun both => nomatch both
  | some job =>
      cases tables.sessionLoopJobs.find? id with
      | none => exact fun both => nomatch both
      | some row => exact fun both => .inr ⟨job, row, rfl, rfl, Option.rel_some_some.mp both⟩

theorem at_queued (mirrors : LoopMirrors store tables) (sessionId : Uuid) :
    (queuedJobOf sessionId store = none ∧ queuedJobOf sessionId tables = none) ∨
      ∃ job row, queuedJobOf sessionId store = some job ∧
        queuedJobOf sessionId tables = some row ∧ LoopJobMirrors job row := by
  have both : Option.Rel LoopJobMirrors (queuedJobOf sessionId store)
      (queuedJobOf sessionId tables) := by
    apply find?_paired mirrors.rows
    intro job row isMirror
    rw [isMirror.sessionId, isMirror.status]
  revert both
  cases queuedJobOf sessionId store with
  | none =>
      cases queuedJobOf sessionId tables with
      | none => exact fun _ => .inl ⟨rfl, rfl⟩
      | some row => exact fun both => nomatch both
  | some job =>
      cases queuedJobOf sessionId tables with
      | none => exact fun both => nomatch both
      | some row => exact fun both => .inr ⟨job, row, rfl, rfl, Option.rel_some_some.mp both⟩

end LoopMirrors

end MandoForge
