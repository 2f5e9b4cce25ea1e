/-
Module: MandoForge.Execution.Cancellation
Purpose: A cancellation that was requested is not overtaken: the job is cleaned up
  by who claims it and is canceled, and nothing else.  The statuses a job ends in
  absorb it.
Trusted boundary: none
Main exports: Canceled, cancellation_is_safe
-/
import MandoForge.Execution.ClaimFencing

namespace MandoForge

open Foundation

theorem pending_is_not_cleanup : (stageDetails "cancellation_pending").get "stage" ≠
    some (.string "cancellation_cleanup") := by decide

theorem cleanup_is_not_pending : (stageDetails "cancellation_cleanup").get "stage" ≠
    some (.string "cancellation_pending") := by decide

namespace QueueCall

/-- The call gave the worker the claim: a start, or a claim of the cancellation. -/
def TakesUp (workerId : String) (claimGeneration : Int) (call : QueueCall) : Prop :=
  (call.operation = .start call.job.id workerId ∨
    call.operation = .claimCancellation call.job.id workerId) ∧
  call.job.claimGeneration = claimGeneration

/-- The holder of the claim began to clean up, and got the generation `next`. -/
def CleansUp (workerId : String) (claimGeneration next : Int) (call : QueueCall) : Prop :=
  call.operation = .beginCancellationCleanup call.job.id workerId claimGeneration ∧
    call.job.claimGeneration = next

def Acknowledges (workerId : String) (claimGeneration : Int) (call : QueueCall) : Prop :=
  call.operation = .acknowledgeCanceled call.job.id workerId claimGeneration

end QueueCall

/-- A worker got the claim, began to clean up under it, and acknowledged under the
generation that it cleaned up with. -/
def Canceled (calls : List QueueCall) : Prop :=
  ∃ workerId claimGeneration next claim cleanup acknowledgment,
    QueueCall.TakesUp workerId claimGeneration claim ∧
    QueueCall.CleansUp workerId claimGeneration next cleanup ∧
    QueueCall.Acknowledges workerId next acknowledgment ∧
    [acknowledgment, cleanup, claim].Sublist calls

/-- How far the cancellation of a job is, and which calls brought it there. -/
structure CancellationStory (calls : List QueueCall) (job : ExecutionJob) : Prop where
  running : job.status = .running → ∃ workerId, job.workerId = some workerId ∧
    ∃ claim ∈ calls, claim.TakesUp workerId job.claimGeneration
  pending : job.status = .cancelRequested →
    job.stage = some (.string "cancellation_pending") →
    ∀ workerId, job.workerId = some workerId →
      ∃ claim ∈ calls, claim.TakesUp workerId job.claimGeneration
  cleaning : job.status = .cancelRequested →
    job.stage = some (.string "cancellation_cleanup") →
    ∃ workerId claimGeneration claim cleanup, job.workerId = some workerId ∧
      QueueCall.TakesUp workerId claimGeneration claim ∧
      QueueCall.CleansUp workerId claimGeneration job.claimGeneration cleanup ∧
      [cleanup, claim].Sublist calls
  canceled : job.status = .canceled → Canceled calls
  unclaimed : Unclaimed job

namespace CancellationStory

variable {calls : List QueueCall} {before after : ExecutionJob}

theorem untold {status : ExecutionJobStatus} (is : after.status = status)
    (quiet : status ≠ .running ∧ status ≠ .cancelRequested ∧ status ≠ .canceled)
    (unclaimed : Unclaimed after) : CancellationStory calls after where
  running := fun running => absurd (is.symm.trans running) quiet.1
  pending := fun requested => absurd (is.symm.trans requested) quiet.2.1
  cleaning := fun requested => absurd (is.symm.trans requested) quiet.2.1
  canceled := fun canceled => absurd (is.symm.trans canceled) quiet.2.2
  unclaimed := unclaimed

/-- A call that leaves the status, the stage and the claim leaves the story. -/
theorem cons (story : CancellationStory calls before) (call : QueueCall)
    (sameStatus : after.status = before.status) (sameStage : after.stage = before.stage)
    (sameClaim : after.claim = before.claim) (unclaimed : Unclaimed after) :
    CancellationStory (call :: calls) after := by
  have sameWorker : after.workerId = before.workerId := congrArg Claim.holder sameClaim
  have sameGeneration : after.claimGeneration = before.claimGeneration :=
    congrArg Claim.generation sameClaim
  constructor
  · rw [sameStatus, sameWorker, sameGeneration]
    intro running
    obtain ⟨workerId, held, claim, member, takes⟩ := story.running running
    exact ⟨workerId, held, claim, List.mem_cons_of_mem _ member, takes⟩
  · rw [sameStatus, sameStage, sameWorker, sameGeneration]
    intro requested isPending workerId held
    obtain ⟨claim, member, takes⟩ := story.pending requested isPending workerId held
    exact ⟨claim, List.mem_cons_of_mem _ member, takes⟩
  · rw [sameStatus, sameStage, sameWorker, sameGeneration]
    intro requested isCleaning
    obtain ⟨workerId, claimGeneration, claim, cleanup, held, takes, cleans, inOrder⟩ :=
      story.cleaning requested isCleaning
    exact ⟨workerId, claimGeneration, claim, cleanup, held, takes, cleans, inOrder.cons call⟩
  · rw [sameStatus]
    intro isCanceled
    obtain ⟨workerId, claimGeneration, next, claim, cleanup, acknowledgment, takes, cleans,
      acknowledges, inOrder⟩ := story.canceled isCanceled
    exact ⟨workerId, claimGeneration, next, claim, cleanup, acknowledgment, takes, cleans,
      acknowledges, inOrder.cons call⟩
  · exact unclaimed

theorem step {now : Timestamp} {operation : QueueOperation}
    (story : CancellationStory calls before)
    (transition : Transition now operation before after) :
    CancellationStory (⟨now, operation, after⟩ :: calls) after := by
  have unclaimed := transition.unclaimed story.unclaimed
  cases transition with
  | start startable =>
      refine ⟨fun _ => ?_, nofun, nofun, nofun, unclaimed⟩
      exact ⟨_, rfl, _, List.mem_cons_self .., .inl rfl, rfl⟩
  | requestCancel cancellable =>
      refine ⟨nofun, fun _ _ workerId held => ?_, fun _ cleaning => ?_, nofun, unclaimed⟩
      · rcases cancellable with queued | running
        · cases (story.unclaimed queued).1.symm.trans held
        · obtain ⟨owner, owned, claim, member, takes⟩ := story.running running
          obtain rfl : owner = workerId := Option.some.inj (owned.symm.trans held)
          exact ⟨claim, List.mem_cons_of_mem _ member, takes⟩
      · exact absurd cleaning pending_is_not_cleanup
  | claimCancellation requested expired =>
      refine ⟨?_, fun _ _ workerId held => ?_, fun _ cleaning => ?_, ?_, unclaimed⟩
      · exact fun running => nomatch requested.symm.trans running
      · obtain rfl := Option.some.inj held
        exact ⟨_, List.mem_cons_self .., .inr rfl, rfl⟩
      · exact absurd cleaning pending_is_not_cleanup
      · exact fun canceled => nomatch requested.symm.trans canceled
  | beginCleanup requested owned pending =>
      obtain ⟨held, sameGeneration, -⟩ := ExecutionJob.ownedBy_iff.mp owned
      refine ⟨?_, fun _ isPending => ?_, fun _ _ => ?_, ?_, unclaimed⟩
      · exact fun running => nomatch requested.symm.trans running
      · exact absurd isPending cleanup_is_not_pending
      · obtain ⟨claim, member, takes⟩ := story.pending requested pending _ held
        rw [sameGeneration] at takes
        exact ⟨_, _, claim, _, held, takes, ⟨rfl, rfl⟩,
          (List.singleton_sublist.mpr member).cons_cons _⟩
      · exact fun canceled => nomatch requested.symm.trans canceled
  | acknowledge requested owned cleaned =>
      obtain ⟨held, sameGeneration, -⟩ := ExecutionJob.ownedBy_iff.mp owned
      refine ⟨nofun, nofun, nofun, fun _ => ?_, unclaimed⟩
      obtain ⟨cleaner, claimGeneration, claim, cleanup, holds, takes, cleans, inOrder⟩ :=
        story.cleaning requested cleaned
      obtain rfl : cleaner = _ := Option.some.inj (holds.symm.trans held)
      rw [sameGeneration] at cleans
      refine ⟨_, _, _, claim, cleanup, _, takes, cleans, ?_, inOrder.cons_cons _⟩
      rfl
  | renew | ignoreCancel => exact story.cons _ rfl rfl rfl unclaimed
  | resumeFinalizing finalizing => exact untold finalizing (by decide) unclaimed
  | setFailure finalizing => exact untold finalizing (by decide) unclaimed
  | prepareTail finalizing => exact untold finalizing (by decide) unclaimed
  | publish publishable =>
      rcases MemoryExecutionQueue.completed_or_failed_of_publishable publishable with
        completed | failed
      · exact untold completed (by decide) unclaimed
      · exact untold failed (by decide) unclaimed
  | _ => exact untold rfl ⟨nofun, nofun, nofun⟩ unclaimed

end CancellationStory

theorem run_cancellationStory (events : List QueueEvent) {jobId : Uuid} {job : ExecutionJob}
    (found : (QueueWorld.run events).queue.jobs.find? jobId = some job) :
    CancellationStory ((QueueWorld.run events).callsOf jobId) job := by
  refine QueueWorld.story_of_transition CancellationStory ?_ ?_ events found
  · intro now job defaultMaxAttempts request isNew
    have queued : job.status = .queued := by rw [isNew]; rfl
    refine CancellationStory.untold queued (by decide) fun _ => ?_
    rw [isNew]
    exact ⟨rfl, rfl⟩
  · exact fun now operation calls before after story transition => story.step transition

/-! ### What a cancellation and an outcome exclude -/

/-- A job that is to be canceled stays so, or is canceled. -/
theorem Transition.stays_requested {now : Timestamp} {operation : QueueOperation}
    {before after : ExecutionJob} (transition : Transition now operation before after)
    (requested : before.status = .cancelRequested) :
    after.status = .cancelRequested ∨ after.status = .canceled := by
  cases transition with
  | acknowledge => exact .inr rfl
  | renew | ignoreCancel | beginCleanup | claimCancellation => exact .inl requested
  | start startable =>
      rcases startable with queued | ⟨running, -⟩
      · cases requested.symm.trans queued
      · cases requested.symm.trans running
  | beginExecuting running => cases requested.symm.trans running
  | beginFinalizing executed =>
      rcases executed with executing | ⟨-, running⟩
      · cases requested.symm.trans executing
      · cases requested.symm.trans running
  | outcomeUnknownStarted executing | recoverExecuting executing =>
      cases requested.symm.trans executing
  | resumeFinalizing finalizing | complete finalizing | requeue finalizing
  | failed finalizing | setFailure finalizing | outcomeUnknownFinalizing finalizing
  | prepareTail finalizing => cases requested.symm.trans finalizing
  | publish publishable =>
      rcases MemoryExecutionQueue.completed_or_failed_of_publishable publishable with
        completed | failed
      · cases requested.symm.trans completed
      · cases requested.symm.trans failed
  | requestCancel cancellable =>
      rcases cancellable with queued | running
      · cases requested.symm.trans queued
      · cases requested.symm.trans running

/-- What an outcome fixes. -/
def ExecutionJob.verdict (job : ExecutionJob) :
    ExecutionJobStatus × Option String × Int × Int × Option String :=
  (job.status, job.workerId, job.claimGeneration, job.attemptCount, job.lastError)

theorem Transition.keeps_verdict {now : Timestamp} {operation : QueueOperation}
    {before after : ExecutionJob} (transition : Transition now operation before after)
    (final : before.status.isFinal = true) : after.verdict = before.verdict := by
  have notFinal : ∀ {status : ExecutionJobStatus}, before.status = status →
      status.isFinal = true := fun is => is ▸ final
  cases transition with
  | publish | ignoreCancel => rfl
  | start startable =>
      rcases startable with queued | ⟨running, -⟩
      · cases notFinal queued
      · cases notFinal running
  | beginExecuting running => cases notFinal running
  | beginFinalizing executed =>
      rcases executed with executing | ⟨-, running⟩
      · cases notFinal executing
      · cases notFinal running
  | outcomeUnknownStarted executing | recoverExecuting executing =>
      cases notFinal executing
  | resumeFinalizing finalizing | complete finalizing | requeue finalizing
  | failed finalizing | setFailure finalizing | outcomeUnknownFinalizing finalizing
  | prepareTail finalizing => cases notFinal finalizing
  | renew claimed =>
      rcases claimed with running | executing | finalizing | requested
      · cases notFinal running
      · cases notFinal executing
      · cases notFinal finalizing
      · cases notFinal requested
  | requestCancel cancellable =>
      rcases cancellable with queued | running
      · cases notFinal queued
      · cases notFinal running
  | acknowledge requested | beginCleanup requested | claimCancellation requested =>
      cases notFinal requested

/-- What a cancellation comes to over a run of the queue. -/
structure CancellationSafe (events : List QueueEvent) : Prop where
  /-- A requested cancellation is not overtaken. -/
  requested : ∀ front, front <+: events → ∀ jobId early,
    (QueueWorld.run front).queue.jobs.find? jobId = some early →
    early.status = .cancelRequested →
      ∃ late, (QueueWorld.run events).queue.jobs.find? jobId = some late ∧
        (late.status = .cancelRequested ∨ late.status = .canceled)
  /-- A job is canceled by who claimed it, cleaned it up and acknowledged that. -/
  canceled : ∀ jobId job, (QueueWorld.run events).queue.jobs.find? jobId = some job →
    job.status = .canceled → Canceled ((QueueWorld.run events).callsOf jobId)
  /-- A cancellation of a job that neither waits nor runs changes nothing. -/
  ignored : ∀ jobId job, (QueueWorld.run events).queue.jobs.find? jobId = some job →
    job.status ≠ .queued → job.status ≠ .running → ∀ now,
      (QueueOperation.cancel jobId).perform now (QueueWorld.run events).queue =
        (.ok job, (QueueWorld.run events).queue)
  /-- The status, the worker, the generation, the attempts and the error of a job
  that has ended stay. -/
  absorbing : ∀ front, front <+: events → ∀ jobId early,
    (QueueWorld.run front).queue.jobs.find? jobId = some early →
    early.status.isFinal = true →
      ∃ late, (QueueWorld.run events).queue.jobs.find? jobId = some late ∧
        late.verdict = early.verdict

theorem cancellation_is_safe (events : List QueueEvent) : CancellationSafe events where
  requested := by
    rintro front ⟨rest, rfl⟩ jobId early found requested
    refine QueueWorld.evolves_along
      (fun _ late => late.status = .cancelRequested ∨ late.status = .canceled)
      found (.inl requested) (fun _ _ _ stays => stays) ?_ rest
    intro rest event before after present stays about transition
    rcases stays with requested | canceled
    · exact transition.stays_requested requested
    · have final : before.status.isFinal = true := canceled ▸ rfl
      have kept : after.status = before.status :=
        congrArg Prod.fst (transition.keeps_verdict final)
      exact .inr (kept.trans canceled)
  canceled := fun _ _ found isCanceled => (run_cancellationStory events found).canceled isCanceled
  ignored := fun _ _ found notQueued notRunning _ =>
    MemoryExecutionQueue.cancel_ignored found notQueued notRunning
  absorbing := by
    rintro front ⟨rest, rfl⟩ jobId early found final
    refine (QueueWorld.evolves_along (fun _ late => late.verdict = early.verdict) found rfl
      (fun _ _ _ stays => stays) ?_ rest)
    intro rest event before after present same about transition
    have sameStatus : before.status = early.status := congrArg Prod.fst same
    exact (transition.keeps_verdict (sameStatus ▸ final)).trans same

end MandoForge
