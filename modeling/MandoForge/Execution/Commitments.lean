/-
Module: MandoForge.Execution.Commitments
Purpose: A job executes at most as often as it has attempts, once an attempt, and
  never again unless a failure that may be retried put it back in the queue.
Trusted boundary: none
Main exports: Commitments, executions_are_bounded
-/
import MandoForge.Execution.QueueRuns
import MandoForge.Foundation.History

namespace MandoForge

open Foundation

namespace QueueCall

/-- The call committed an attempt to execute. -/
def Commits (call : QueueCall) : Prop :=
  match call.operation with
  | .beginExecutingStarted .. => True
  | _ => False

instance (call : QueueCall) : Decidable call.Commits := by
  unfold Commits
  split <;> infer_instance

/-- The call started an attempt. -/
def Starts (call : QueueCall) : Prop :=
  match call.operation with
  | .start .. => True
  | _ => False

/-- The call put a job with a recorded failure back in the queue, for a retry. -/
def Requeues (call : QueueCall) : Prop :=
  (match call.operation with
    | .finishFinalizingStarted _ _ _ retryableFailure => retryableFailure = true
    | _ => False) ∧
  call.job.status = .queued ∧ call.job.lastError ≠ none

end QueueCall

/-- How often the job was committed to execute. -/
def commits (calls : List QueueCall) : Nat :=
  calls.countP fun call => decide call.Commits

/-- The job was put back in the queue for a retry, and started again after that. -/
def Reopened (between : List QueueCall) : Prop :=
  ∃ requeue start, requeue.Requeues ∧ start.Starts ∧ [start, requeue].Sublist between

/-- The job was put back in the queue for a retry. -/
def Returned (between : List QueueCall) : Prop :=
  ∃ requeue ∈ between, requeue.Requeues

theorem Reopened.cons {between : List QueueCall} (reopened : Reopened between)
    (call : QueueCall) : Reopened (call :: between) := by
  obtain ⟨requeue, start, requeues, starts, inOrder⟩ := reopened
  exact ⟨requeue, start, requeues, starts, inOrder.cons call⟩

theorem Returned.cons {between : List QueueCall} (returned : Returned between)
    (call : QueueCall) : Returned (call :: between) := by
  obtain ⟨requeue, member, requeues⟩ := returned
  exact ⟨requeue, List.mem_cons_of_mem _ member, requeues⟩

theorem Returned.reopened {between : List QueueCall} (returned : Returned between)
    {start : QueueCall} (starts : start.Starts) : Reopened (start :: between) := by
  obtain ⟨requeue, member, requeues⟩ := returned
  exact ⟨requeue, start, requeues, starts,
    (List.singleton_sublist.mpr member).cons_cons start⟩

/-! ### What a call does to the attempts -/

/-- A call commits an attempt, starts one, allows another one, or leaves the
attempts; what leaves them brings no job to the queue or to a worker. -/
inductive AttemptStep (call : QueueCall) (before : ExecutionJob) : Prop where
  | commits (isCommit : call.Commits) (running : before.status = .running)
      (executing : call.job.status = .executing)
      (sameCount : call.job.attemptCount = before.attemptCount)
      (sameBound : call.job.maxAttempts = before.maxAttempts)
  | starts (isStart : call.Starts) (startable : before.status = .queued ∨
        before.status = .running)
      (running : call.job.status = .running)
      (counted : call.job.attemptCount = before.attemptCount + 1)
      (sameBound : call.job.maxAttempts = before.maxAttempts)
  | requeues (isRequeue : call.Requeues)
      (attemptsLeft : before.attemptCount < before.maxAttempts)
      (sameCount : call.job.attemptCount = before.attemptCount)
      (sameBound : call.job.maxAttempts = before.maxAttempts)
  | leaves (noCommit : ¬call.Commits)
      (waited : call.job.status = .queued → before.status = .queued)
      (ran : call.job.status = .running → before.status = .running)
      (sameCount : call.job.attemptCount = before.attemptCount)
      (sameBound : call.job.maxAttempts = before.maxAttempts)

theorem Transition.attemptStep {now : Timestamp} {operation : QueueOperation}
    {before after : ExecutionJob} (transition : Transition now operation before after) :
    AttemptStep ⟨now, operation, after⟩ before := by
  cases transition with
  | start startable => exact .starts trivial (startable.imp_right And.left) rfl rfl rfl
  | beginExecuting running owned => exact .commits trivial running rfl rfl rfl
  | requeue finalizing owned erred attemptsLeft =>
      exact .requeues ⟨rfl, rfl, erred⟩ attemptsLeft rfl rfl
  | resumeFinalizing | setFailure | prepareTail | publish | renew | ignoreCancel |
      beginCleanup | claimCancellation =>
      exact .leaves (fun isCommit => isCommit) id id rfl rfl
  | _ => exact .leaves (fun isCommit => isCommit) nofun nofun rfl rfl

theorem QueueCall.Starts.not_commits {call : QueueCall} (starts : call.Starts) :
    ¬call.Commits := by
  unfold Starts at starts
  split at starts
  · next isStart => simp [Commits, isStart]
  · exact starts.elim

theorem QueueCall.Requeues.not_commits {call : QueueCall} (requeues : call.Requeues) :
    ¬call.Commits := by
  obtain ⟨finishes, -⟩ := requeues
  split at finishes
  · next isFinish => simp [Commits, isFinish]
  · exact finishes.elim

theorem commits_cons_of_commits {call : QueueCall} (isCommit : call.Commits)
    (calls : List QueueCall) : commits (call :: calls) = commits calls + 1 :=
  List.countP_cons_of_pos (decide_eq_true isCommit)

theorem commits_cons_of_not {call : QueueCall} (noCommit : ¬call.Commits)
    (calls : List QueueCall) : commits (call :: calls) = commits calls :=
  List.countP_cons_of_neg (by simpa using noCommit)

/-! ### What the calls about a job say about its attempts -/

structure Commitments (calls : List QueueCall) (job : ExecutionJob) : Prop where
  /-- Every execution spent an attempt. -/
  spent : (commits calls : Int) ≤ job.attemptCount
  bounded : (commits calls : Int) ≤ job.maxAttempts
  /-- A job that may come to execute has an execution left. -/
  spared : job.status = .queued ∨ job.status = .running →
    (commits calls : Int) < job.maxAttempts
  /-- The attempt of a running job is not committed yet. -/
  uncommitted : job.status = .running → (commits calls : Int) < job.attemptCount
  returned : job.status = .queued → Since QueueCall.Commits Returned calls
  reopened : job.status = .running → Since QueueCall.Commits Reopened calls
  spaced : Spaced QueueCall.Commits Reopened calls

theorem Commitments.step {call : QueueCall} {calls : List QueueCall} {before : ExecutionJob}
    (commitments : Commitments calls before) (stepped : AttemptStep call before) :
    Commitments (call :: calls) call.job := by
  have spent := commitments.spent
  cases stepped with
  | commits isCommit running executing sameCount sameBound =>
      have spared := commitments.spared (.inr running)
      have uncommitted := commitments.uncommitted running
      have counted := commits_cons_of_commits isCommit calls
      refine ⟨by omega, by omega, ?_, ?_, ?_, ?_, ?_⟩
      · rintro (queued | running)
        · cases executing.symm.trans queued
        · cases executing.symm.trans running
      · exact fun running => nomatch executing.symm.trans running
      · exact fun queued => nomatch executing.symm.trans queued
      · exact fun running => nomatch executing.symm.trans running
      · exact commitments.spaced.cons_mark (commitments.reopened running)
  | starts isStart startable running counted sameBound =>
      have same := commits_cons_of_not isStart.not_commits calls
      have spared := commitments.spared startable
      refine ⟨by omega, by omega, fun _ => by omega, fun _ => by omega, ?_, ?_, ?_⟩
      · exact fun queued => nomatch running.symm.trans queued
      · intro _
        rcases startable with waited | ran
        · exact (commitments.returned waited).cons isStart.not_commits
            fun newer returned => returned.reopened isStart
        · exact (commitments.reopened ran).cons isStart.not_commits
            fun newer reopened => reopened.cons call
      · exact commitments.spaced.cons_other isStart.not_commits
  | requeues isRequeue attemptsLeft sameCount sameBound =>
      have same := commits_cons_of_not isRequeue.not_commits calls
      have bounded := commitments.bounded
      refine ⟨by omega, by omega, fun _ => by omega, ?_, ?_, ?_, ?_⟩
      · exact fun running => nomatch isRequeue.2.1.symm.trans running
      · intro _ newer marked older split isCommit
        cases newer with
        | nil =>
            obtain ⟨rfl, -⟩ := List.cons.inj split
            exact absurd isCommit isRequeue.not_commits
        | cons first newer =>
            obtain ⟨rfl, -⟩ := List.cons.inj split
            exact ⟨call, List.mem_cons_self .., isRequeue⟩
      · exact fun running => nomatch isRequeue.2.1.symm.trans running
      · exact commitments.spaced.cons_other isRequeue.not_commits
  | leaves noCommit waited ran sameCount sameBound =>
      have same := commits_cons_of_not noCommit calls
      have bounded := commitments.bounded
      refine ⟨by omega, by omega, fun open' => ?_, fun running => ?_, fun queued => ?_,
        fun running => ?_, ?_⟩
      · have spared := commitments.spared (open'.imp waited ran)
        omega
      · have uncommitted := commitments.uncommitted (ran running)
        omega
      · exact (commitments.returned (waited queued)).cons noCommit
          fun newer returned => returned.cons call
      · exact (commitments.reopened (ran running)).cons noCommit
          fun newer reopened => reopened.cons call
      · exact commitments.spaced.cons_other noCommit

theorem run_commitments (events : List QueueEvent) {jobId : Uuid} {job : ExecutionJob}
    (found : (QueueWorld.run events).queue.jobs.find? jobId = some job) :
    Commitments ((QueueWorld.run events).callsOf jobId) job := by
  refine QueueWorld.story_of_transition Commitments ?_ ?_ events found
  · intro now job defaultMaxAttempts request isNew
    have noCommit : ¬QueueCall.Commits
        ⟨now, .enqueue job.id defaultMaxAttempts request, job⟩ := fun isCommit => isCommit
    have none : commits [⟨now, .enqueue job.id defaultMaxAttempts request, job⟩] = 0 :=
      commits_cons_of_not noCommit []
    have positive := newExecutionJob_maxAttempts_pos now job.id defaultMaxAttempts request
    have attempts : job.attemptCount = 0 := by rw [isNew]; rfl
    have queued : job.status = .queued := by rw [isNew]; rfl
    rw [← isNew] at positive
    refine ⟨by omega, by omega, fun _ => by omega, ?_, ?_, ?_, ?_⟩
    · exact fun running => nomatch queued.symm.trans running
    · exact fun _ => Since.of_unmarked (by simpa using noCommit)
    · exact fun running => nomatch queued.symm.trans running
    · exact Spaced.nil.cons_other noCommit
  · exact fun now operation calls before after commitments transition =>
      commitments.step transition.attemptStep

/-- A job that executes under a claim that is over is only moved on to its
finalization, by recovery. -/
theorem Transition.of_expired_execution {now : Timestamp} {operation : QueueOperation}
    {before after : ExecutionJob} (transition : Transition now operation before after)
    (executing : before.status = .executing) (expired : before.leaseExpired now = true) :
    after = before ∨ (after.status = .finalizing ∧ ∃ workerId error finalizationDetails,
      operation = .recoverExpiredExecuting before.id workerId error finalizationDetails) := by
  cases transition with
  | recoverExecuting => exact .inr ⟨rfl, _, _, _, rfl⟩
  | ignoreCancel => exact .inl rfl
  | start startable =>
      rcases startable with queued | ⟨running, -⟩
      · cases executing.symm.trans queued
      · cases executing.symm.trans running
  | publish publishable =>
      rcases MemoryExecutionQueue.completed_or_failed_of_publishable publishable with
        completed | failed
      · cases executing.symm.trans completed
      · cases executing.symm.trans failed
  | requestCancel cancellable =>
      rcases cancellable with queued | running
      · cases executing.symm.trans queued
      · cases executing.symm.trans running
  | resumeFinalizing finalizing => cases executing.symm.trans finalizing
  | claimCancellation requested => cases executing.symm.trans requested
  | _ => exact absurd expired (Owned.not_expired ‹_›)

/-- How the executions of a job are bounded over a run of the queue. -/
structure ExecutionsBounded (events : List QueueEvent) : Prop where
  /-- A job is committed to execute at most as often as it may be attempted. -/
  bounded : ∀ jobId job, (QueueWorld.run events).queue.jobs.find? jobId = some job →
    (commits ((QueueWorld.run events).callsOf jobId) : Int) ≤ job.maxAttempts
  /-- Between two commitments of a job a failure that may be retried put it back in
  the queue, and it was started again after that. -/
  spaced : ∀ jobId newer second between first older,
    (QueueWorld.run events).callsOf jobId = newer ++ second :: (between ++ first :: older) →
    second.Commits → first.Commits → Reopened between
  /-- A job that executes under a claim that is over is not started again. -/
  recovered : ∀ jobId job, (QueueWorld.run events).queue.jobs.find? jobId = some job →
    job.status = .executing → ∀ event : QueueEvent, job.leaseExpired event.now = true →
      ∃ after, (QueueWorld.run (events ++ [event])).queue.jobs.find? jobId = some after ∧
        (after = job ∨ (after.status = .finalizing ∧ ∃ workerId error finalizationDetails,
          event.operation = .recoverExpiredExecuting jobId workerId error
            finalizationDetails))

theorem executions_are_bounded (events : List QueueEvent) : ExecutionsBounded events where
  bounded := fun _ _ found => (run_commitments events found).bounded
  spaced := by
    intro jobId newer second between first older split secondCommits firstCommits
    have member : second ∈ (QueueWorld.run events).callsOf jobId := by simp [split]
    obtain ⟨job, found⟩ := QueueWorld.found_of_call member
    exact (run_commitments events found).spaced newer second _ split secondCommits
      between first older rfl firstCommits
  recovered := by
    intro jobId job found executing event expired
    rw [QueueWorld.run_concat]
    obtain ⟨after, present, same | ⟨-, transition⟩⟩ :=
      QueueWorld.step_job (QueueWorld.step_cases event _) found
    · exact ⟨after, present, .inl same⟩
    · have sameId := (Table.find?_eq_some.mp found).2
      have moved := transition.of_expired_execution executing expired
      rw [sameId] at moved
      exact ⟨after, present, moved⟩

end MandoForge
