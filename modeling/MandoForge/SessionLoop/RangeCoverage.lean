/-
Module: MandoForge.SessionLoop.RangeCoverage
Purpose: The cover of a range of events, with the `i64` counter of the source.  The
  counter never saturates, so the sweep says exactly whether each sequence number of the
  range is in the charge of a job.
Trusted boundary: none
Main exports: SessionLoopJob.effectiveEnd, coversRange_iff
-/
import MandoForge.SessionLoop.Projection

namespace MandoForge

open Foundation

/-! ### The effective range of a job -/

namespace SessionLoopJob

/-- The end of the effective range: a job that has ended keeps what it processed, a live
one is to process its window as well. -/
def effectiveEnd (job : SessionLoopJob) : Option Int :=
  match job.status with
  | .queued | .running => maxOptional job.processedEventSeq job.pendingEventSeqEnd
  | .completed | .failed => job.processedEventSeq

/-- The sequence number is in the effective range of the job. -/
def InCharge (job : SessionLoopJob) (seq : Int) : Prop :=
  ∃ first last, job.pendingEventSeqStart = some first ∧ job.effectiveEnd = some last ∧
    first ≤ seq ∧ seq ≤ last

theorem reach_eq_effectiveEnd (job : SessionLoopJob) : job.reach = job.effectiveEnd := by
  have alone : maxOptional job.processedEventSeq none = job.processedEventSeq := by
    cases job.processedEventSeq <;> rfl
  unfold reach effectiveEnd isLive
  cases job.status with
  | queued | running => rfl
  | completed | failed => exact alone

end SessionLoopJob

/-- A job is in charge of the numbers of the range that the sweep makes of it. -/
theorem inCharge_iff {job : SessionLoopJob} {seq : Int} :
    job.InCharge seq ↔ ∃ range, effectiveRange job = some range ∧ range.1 ≤ seq ∧ seq ≤ range.2 := by
  unfold SessionLoopJob.InCharge effectiveRange
  rw [← job.reach_eq_effectiveEnd]
  constructor
  · rintro ⟨first, last, starts, ends, after, before⟩
    rw [starts, ends]
    exact ⟨(first, last), if_pos (Int.le_trans after before), after, before⟩
  · rintro ⟨range, isRange, after, before⟩
    split at isRange
    · next first last starts ends =>
        split at isRange
        · cases isRange
          exact ⟨first, last, starts, ends, after, before⟩
        · cases isRange
    · cases isRange

/-! ### The sweep -/

/-- `i64::saturating_add`. -/
def saturatingAdd (left right : Int) : Int :=
  max Int64.minValue.toInt (min Int64.maxValue.toInt (left + right))

/-- The loop over the sorted ranges; the counter is an `i64`. -/
def sweepRanges (seqEnd : Int) : List (Int × Int) → Int → Bool
  | [], _ => false
  | (rangeStart, rangeEnd) :: rest, nextSeq =>
      if rangeEnd < nextSeq then sweepRanges seqEnd rest nextSeq
      else if nextSeq < rangeStart then false
      else if seqEnd ≤ rangeEnd then true
      else sweepRanges seqEnd rest (saturatingAdd rangeEnd 1)

/-- `session_loop_projection_covers_range`, of the listed jobs. -/
def coversRange (sessionId : Uuid) (seqStart seqEnd : Int64) (jobs : List SessionLoopJob) :
    Bool :=
  if seqEnd < seqStart then true
  else
    sweepRanges seqEnd.toInt (((jobs.filter fun job => decide (job.sessionId = sessionId)).filterMap
      effectiveRange).mergeSort rangeLe) seqStart.toInt

theorem saturatingAdd_eq {left right : Int} (above : Int64.minValue.toInt ≤ left + right)
    (below : left + right ≤ Int64.maxValue.toInt) : saturatingAdd left right = left + right := by
  rw [saturatingAdd, Int.min_eq_right below, Int.max_eq_right above]

/-- The counter moves only behind a range that ends before `seqEnd`, so it does not
saturate. -/
theorem sweepRanges_eq_rangesCover (seqEnd : Int64) (ranges : List (Int × Int)) {nextSeq : Int}
    (above : Int64.minValue.toInt ≤ nextSeq) :
    sweepRanges seqEnd.toInt ranges nextSeq = rangesCover seqEnd.toInt ranges nextSeq := by
  induction ranges generalizing nextSeq with
  | nil => rfl
  | cons range rest inductionHypothesis =>
      obtain ⟨rangeStart, rangeEnd⟩ := range
      have skipped := inductionHypothesis above
      have moved (reached : nextSeq ≤ rangeEnd) (short : rangeEnd < seqEnd.toInt) :
          sweepRanges seqEnd.toInt rest (saturatingAdd rangeEnd 1) =
            rangesCover seqEnd.toInt rest (rangeEnd + 1) := by
        have bound : seqEnd.toInt ≤ Int64.maxValue.toInt := Int64.toInt_le seqEnd
        have stays : saturatingAdd rangeEnd 1 = rangeEnd + 1 :=
          saturatingAdd_eq (by omega) (by omega)
        rw [stays]
        exact inductionHypothesis (by omega)
      rw [sweepRanges, rangesCover, skipped]
      split
      · rfl
      · next reached =>
          split
          · rfl
          · split
            · rfl
            · next short => exact moved (Int.not_lt.mp reached) (Int.not_le.mp short)

/-! ### The cover is exact -/

theorem coversRange_eq {sessionId : Uuid} {seqStart seqEnd : Int64} {jobs : List SessionLoopJob}
    (within : ¬ seqEnd < seqStart) :
    coversRange sessionId seqStart seqEnd jobs =
      jobsCoverRange sessionId seqStart.toInt seqEnd.toInt jobs := by
  rw [coversRange, if_neg within, jobsCoverRange]
  exact sweepRanges_eq_rangesCover seqEnd _ (Int64.minValue_le_toInt seqStart)

theorem coversRange_iff (sessionId : Uuid) (seqStart seqEnd : Int64)
    (jobs : List SessionLoopJob) :
    coversRange sessionId seqStart seqEnd jobs = true ↔
      ∀ seq, seqStart.toInt ≤ seq → seq ≤ seqEnd.toInt →
        ∃ job ∈ jobs, job.sessionId = sessionId ∧ job.InCharge seq := by
  by_cases empty : seqEnd < seqStart
  · have below := Int64.lt_iff_toInt_lt.mp empty
    rw [coversRange, if_pos empty]
    refine iff_of_true rfl fun seq after before => ?_
    omega
  · have within : seqStart.toInt ≤ seqEnd.toInt :=
      Int.not_lt.mp fun less => empty (Int64.lt_iff_toInt_lt.mpr less)
    rw [coversRange_eq empty, jobsCoverRange,
      rangesCover_iff (List.pairwise_mergeSort rangeLe_trans rangeLe_total _) within]
    refine forall_congr' fun seq => imp_congr_right fun _ => imp_congr_right fun _ => ?_
    simp only [List.mem_mergeSort, List.mem_filterMap, List.mem_filter, decide_eq_true_eq,
      inCharge_iff]
    constructor
    · rintro ⟨range, ⟨job, ⟨listed, ofSession⟩, isRange⟩, holds⟩
      exact ⟨job, listed, ofSession, range, isRange, holds⟩
    · rintro ⟨job, listed, ofSession, range, isRange, holds⟩
      exact ⟨range, ⟨job, ⟨listed, ofSession⟩, isRange⟩, holds⟩

end MandoForge
