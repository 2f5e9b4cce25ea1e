/-
Module: MandoForge.Execution.QueueRuns
Purpose: Runs of the execution queue: calls of any workers, one after the other as
  the lock lets them through, with a record of the calls that were accepted.  A
  claim about the jobs of every run is a claim about one transition of one job.
Trusted boundary: a job gets a new random identifier, so an enqueue under an
  identifier in use is no call that can occur.
Main exports: QueueEvent, QueueWorld
-/
import MandoForge.Execution.MemoryQueue
import MandoForge.Foundation.Runs
import Mathlib.Data.List.Induction

namespace MandoForge

open Foundation

/-- A call, at the time that it reads. -/
structure QueueEvent where
  now : Timestamp
  operation : QueueOperation
deriving DecidableEq, Repr

/-- A call that was accepted, and the job that it returned. -/
structure QueueCall where
  now : Timestamp
  operation : QueueOperation
  job : ExecutionJob
deriving DecidableEq, Repr

/-- The queue, and the accepted calls, newest first. -/
structure QueueWorld where
  queue : ExecutionQueueState
  calls : List QueueCall
deriving DecidableEq

namespace QueueWorld

def empty : QueueWorld := ⟨MemoryExecutionQueue.empty, []⟩

/-- One call. -/
def step (event : QueueEvent) (world : QueueWorld) : QueueWorld :=
  if event.operation.drawsUsedId fun id => (world.queue.jobs.find? id).isSome then world
  else
    match event.operation.perform event.now world.queue with
    | (.ok job, queue) => ⟨queue, ⟨event.now, event.operation, job⟩ :: world.calls⟩
    | (.error _, queue) => { world with queue }

/-- The queue after a list of calls, from an empty one. -/
def run (events : List QueueEvent) : QueueWorld := runEvents step events empty

/-- The accepted calls about one job, newest first. -/
def callsOf (jobId : Uuid) (world : QueueWorld) : List QueueCall :=
  world.calls.filter fun call => decide (call.operation.jobId = jobId)

theorem run_concat (events : List QueueEvent) (event : QueueEvent) :
    run (events ++ [event]) = step event (run events) := by
  simp [run]

/-- One call is refused, or adds a job, or takes one transition of one job. -/
inductive Step (event : QueueEvent) (before : QueueWorld) : QueueWorld → Prop where
  | refused : Step event before before
  | added {after : QueueWorld} {job : ExecutionJob} {defaultMaxAttempts : Int}
      {request : ExecutionJobRequest}
      (enqueued : event.operation = .enqueue job.id defaultMaxAttempts request)
      (isNew : job = newExecutionJob event.now job.id defaultMaxAttempts request)
      (fresh : before.queue.jobs.find? job.id = none)
      (replaces : Table.Replaces job.id job before.queue.jobs after.queue.jobs)
      (recorded : after.calls = ⟨event.now, event.operation, job⟩ :: before.calls) :
      Step event before after
  | moved {after : QueueWorld} {old job : ExecutionJob}
      (found : before.queue.jobs.find? event.operation.jobId = some old)
      (transition : Transition event.now event.operation old job)
      (replaces : Table.Replaces event.operation.jobId job before.queue.jobs
        after.queue.jobs)
      (recorded : after.calls = ⟨event.now, event.operation, job⟩ :: before.calls) :
      Step event before after

theorem step_cases (event : QueueEvent) (world : QueueWorld) :
    Step event world (world.step event) := by
  unfold step
  split
  · exact .refused
  · next drawsNew =>
      generalize performed : event.operation.perform event.now world.queue = answer
      obtain ⟨outcome, after⟩ := answer
      cases outcome with
      | error error =>
          rw [perform_error performed]
          exact .refused
      | ok job =>
          rcases perform_ok performed with
            ⟨id, defaultMaxAttempts, request, enqueued, rfl, inserted⟩ |
            ⟨old, found, transition, replaces⟩
          · have fresh : world.queue.jobs.find? id = none := by
              simpa [QueueOperation.drawsUsedId, enqueued] using drawsNew
            refine .added enqueued rfl fresh ?_ rfl
            rw [inserted]
            exact Table.replaces_insert
          · exact .moved found transition replaces rfl

theorem callsOf_same {call : QueueCall} {before after : QueueWorld} {jobId : Uuid}
    (recorded : after.calls = call :: before.calls) (same : call.operation.jobId = jobId) :
    after.callsOf jobId = call :: before.callsOf jobId := by
  simp [callsOf, recorded, same]

theorem callsOf_other {call : QueueCall} {before after : QueueWorld} {jobId : Uuid}
    (recorded : after.calls = call :: before.calls) (other : call.operation.jobId ≠ jobId) :
    after.callsOf jobId = before.callsOf jobId := by
  simp [callsOf, recorded, other]

/-! ### What holds of every job in every run -/

/-- A property of a job and the accepted calls about it. -/
structure Stories (good : List QueueCall → ExecutionJob → Prop) (world : QueueWorld) :
    Prop where
  known : ∀ jobId, world.queue.jobs.find? jobId = none → world.callsOf jobId = []
  told : ∀ jobId job, world.queue.jobs.find? jobId = some job →
    good (world.callsOf jobId) job

theorem Stories.step {good : List QueueCall → ExecutionJob → Prop}
    (enqueued : ∀ now job defaultMaxAttempts request,
      job = newExecutionJob now job.id defaultMaxAttempts request →
      good [⟨now, .enqueue job.id defaultMaxAttempts request, job⟩] job)
    (keeps : ∀ now operation calls before after, good calls before →
      Transition now operation before after → good (⟨now, operation, after⟩ :: calls) after)
    {event : QueueEvent} {world after : QueueWorld} (stories : Stories good world)
    (stepped : Step event world after) : Stories good after := by
  cases stepped with
  | refused => exact stories
  | added enqueue isNew fresh replaces recorded =>
      rename_i job defaultMaxAttempts request
      have sameId : event.operation.jobId = job.id := by rw [enqueue]; rfl
      constructor
      · intro jobId absent
        by_cases same : jobId = job.id
        · rw [same, replaces.1] at absent
          cases absent
        · rw [replaces.2 jobId same] at absent
          rw [callsOf_other recorded (fun isJob => same (isJob.symm.trans sameId))]
          exact stories.known jobId absent
      · intro jobId found present
        by_cases same : jobId = job.id
        · subst same
          rw [replaces.1] at present
          cases present
          rw [callsOf_same recorded sameId, stories.known _ fresh, enqueue]
          exact enqueued _ _ _ _ isNew
        · rw [replaces.2 jobId same] at present
          rw [callsOf_other recorded (fun isJob => same (isJob.symm.trans sameId))]
          exact stories.told jobId found present
  | moved found transition replaces recorded =>
      rename_i old job
      constructor
      · intro jobId absent
        by_cases same : jobId = event.operation.jobId
        · rw [same, replaces.1] at absent
          cases absent
        · rw [replaces.2 jobId same] at absent
          rw [callsOf_other recorded (Ne.symm same)]
          exact stories.known jobId absent
      · intro jobId late present
        by_cases same : jobId = event.operation.jobId
        · subst same
          rw [replaces.1] at present
          cases present
          rw [callsOf_same recorded rfl]
          exact keeps _ _ _ _ _ (stories.told _ _ found) transition
        · rw [replaces.2 jobId same] at present
          rw [callsOf_other recorded (Ne.symm same)]
          exact stories.told jobId late present

theorem stories_run (good : List QueueCall → ExecutionJob → Prop)
    (enqueued : ∀ now job defaultMaxAttempts request,
      job = newExecutionJob now job.id defaultMaxAttempts request →
      good [⟨now, .enqueue job.id defaultMaxAttempts request, job⟩] job)
    (keeps : ∀ now operation calls before after, good calls before →
      Transition now operation before after → good (⟨now, operation, after⟩ :: calls) after)
    (events : List QueueEvent) : Stories good (run events) := by
  induction events using List.reverseRecOn with
  | nil => exact ⟨fun _ _ => rfl, fun _ _ absent => nomatch absent⟩
  | append_singleton events event inductionHypothesis =>
      rw [run_concat]
      exact inductionHypothesis.step enqueued keeps (step_cases event _)

theorem story_of_transition (good : List QueueCall → ExecutionJob → Prop)
    (enqueued : ∀ now job defaultMaxAttempts request,
      job = newExecutionJob now job.id defaultMaxAttempts request →
      good [⟨now, .enqueue job.id defaultMaxAttempts request, job⟩] job)
    (keeps : ∀ now operation calls before after, good calls before →
      Transition now operation before after → good (⟨now, operation, after⟩ :: calls) after)
    (events : List QueueEvent) {jobId : Uuid} {job : ExecutionJob}
    (found : (run events).queue.jobs.find? jobId = some job) :
    good ((run events).callsOf jobId) job :=
  (stories_run good enqueued keeps events).told jobId job found

theorem found_of_call {events : List QueueEvent} {jobId : Uuid} {call : QueueCall}
    (member : call ∈ (run events).callsOf jobId) :
    ∃ job, (run events).queue.jobs.find? jobId = some job := by
  have stories := stories_run (fun _ _ => True) (fun _ _ _ _ _ => trivial)
    (fun _ _ _ _ _ _ _ => trivial) events
  cases found : (run events).queue.jobs.find? jobId with
  | some job => exact ⟨job, rfl⟩
  | none =>
      rw [stories.known jobId found] at member
      exact absurd member List.not_mem_nil

/-- What one call does to a job of the queue: nothing, or one transition. -/
theorem step_job {event : QueueEvent} {world after : QueueWorld} {jobId : Uuid}
    {job : ExecutionJob} (stepped : Step event world after)
    (found : world.queue.jobs.find? jobId = some job) :
    ∃ late, after.queue.jobs.find? jobId = some late ∧
      (late = job ∨
        (event.operation.jobId = jobId ∧ Transition event.now event.operation job late)) := by
  cases stepped with
  | refused => exact ⟨job, found, .inl rfl⟩
  | added enqueue isNew fresh replaces recorded =>
      rename_i added defaultMaxAttempts request
      have other : jobId ≠ added.id := by
        rintro rfl
        rw [fresh] at found
        cases found
      exact ⟨job, (replaces.2 jobId other).trans found, .inl rfl⟩
  | moved old transition replaces recorded =>
      rename_i before moved
      by_cases same : event.operation.jobId = jobId
      · rw [same] at old replaces
        rw [old] at found
        cases found
        exact ⟨moved, replaces.1, .inr ⟨same, transition⟩⟩
      · exact ⟨job, (replaces.2 jobId (Ne.symm same)).trans found, .inl rfl⟩

/-- From a state of a run that has the job, the job stays, and what its transitions
keep holds of it in every later state; the property may speak about the calls
since. -/
theorem evolves_along (good : List QueueEvent → ExecutionJob → Prop)
    {front : List QueueEvent} {jobId : Uuid} {early : ExecutionJob}
    (found : (run front).queue.jobs.find? jobId = some early) (startGood : good [] early)
    (skips : ∀ rest event job, good rest job → good (rest ++ [event]) job)
    (moves : ∀ rest event before after,
      (run (front ++ rest)).queue.jobs.find? jobId = some before → good rest before →
      event.operation.jobId = jobId → Transition event.now event.operation before after →
      good (rest ++ [event]) after)
    (rest : List QueueEvent) :
    ∃ late, (run (front ++ rest)).queue.jobs.find? jobId = some late ∧ good rest late := by
  induction rest using List.reverseRecOn with
  | nil => exact ⟨early, by simpa using found, startGood⟩
  | append_singleton rest event inductionHypothesis =>
      obtain ⟨middle, present, middleGood⟩ := inductionHypothesis
      rw [← List.append_assoc, run_concat]
      obtain ⟨late, lateFound, rfl | ⟨about, transition⟩⟩ :=
        step_job (step_cases event (run (front ++ rest))) present
      · exact ⟨late, lateFound, skips _ _ _ middleGood⟩
      · exact ⟨late, lateFound, moves _ _ _ _ present middleGood about transition⟩

theorem evolves_of_transition (relation : ExecutionJob → ExecutionJob → Prop)
    (refl : ∀ job, relation job job)
    (trans : ∀ first second third, relation first second → relation second third →
      relation first third)
    (moves : ∀ now operation before after, Transition now operation before after →
      relation before after)
    {front : List QueueEvent} {jobId : Uuid} {early : ExecutionJob}
    (found : (run front).queue.jobs.find? jobId = some early) (rest : List QueueEvent) :
    ∃ late, (run (front ++ rest)).queue.jobs.find? jobId = some late ∧ relation early late :=
  evolves_along (fun _ late => relation early late) found (refl early)
    (fun _ _ _ related => related)
    (fun _ _ _ _ _ related _ transition =>
      trans _ _ _ related (moves _ _ _ _ transition)) rest

end QueueWorld

end MandoForge
