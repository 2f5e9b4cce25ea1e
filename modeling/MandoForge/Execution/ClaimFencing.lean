/-
Module: MandoForge.Execution.ClaimFencing
Purpose: The claims of an execution job are fenced by their generations: over any
  run of the queue a generation belongs to one worker, a claim that is not over
  stays with its worker, and a worker that was superseded changes nothing.
Trusted boundary: none
Main exports: ClaimsFenced, claims_are_fenced
-/
import MandoForge.Execution.QueueRuns
import MandoForge.Foundation.Fencing
import Mathlib.Data.Int.Order.Basic

namespace MandoForge

open Foundation

/-- The claim on a job. -/
def ExecutionJob.claim (job : ExecutionJob) : Claim Int String :=
  ⟨job.claimGeneration, job.workerId⟩

/-- The claim that an accepted call handed out. -/
def QueueCall.grant (call : QueueCall) : Option (Grant Int String) :=
  call.operation.claims.map fun workerId => ⟨call.job.claimGeneration, workerId⟩

/-- The claims that were handed out, newest first. -/
def grantsOf (calls : List QueueCall) : List (Grant Int String) :=
  calls.filterMap QueueCall.grant

theorem grantsOf_cons (call : QueueCall) (calls : List QueueCall) :
    grantsOf (call :: calls) = call.grant.toList ++ grantsOf calls := by
  unfold grantsOf
  rw [List.filterMap_cons]
  cases call.grant <;> rfl

/-! ### One transition -/

/-- A transition leaves the claim, gives it up, or hands out the next generation. -/
theorem Transition.claimStep {now : Timestamp} {operation : QueueOperation}
    {before after : ExecutionJob} (transition : Transition now operation before after) :
    ClaimStep before.claim (QueueCall.grant ⟨now, operation, after⟩) after.claim := by
  have next : before.claim.generation < before.claimGeneration + 1 := Int.lt_succ _
  cases transition with
  | start startable => exact .granted ⟨_, _⟩ next
  | resumeFinalizing finalizing expired => exact .granted ⟨_, _⟩ next
  | recoverExecuting executing expired => exact .granted ⟨_, _⟩ next
  | claimCancellation requested expired => exact .granted ⟨_, _⟩ next
  | beginCleanup requested owned pending =>
      rename_i workerId claimGeneration
      have held := (ExecutionJob.ownedBy_iff.mp owned).1
      change ClaimStep before.claim (some ⟨before.claimGeneration + 1, workerId⟩)
        ⟨before.claimGeneration + 1, before.workerId⟩
      rw [held]
      exact .granted ⟨_, _⟩ next
  | requeue finalizing owned erred attemptsLeft => exact .released
  | _ => exact .kept

theorem Transition.generation_le {now : Timestamp} {operation : QueueOperation}
    {before after : ExecutionJob} (transition : Transition now operation before after) :
    before.claimGeneration ≤ after.claimGeneration := by
  have next : before.claimGeneration ≤ before.claimGeneration + 1 := Int.le.intro 1 rfl
  cases transition <;> first | exact Int.le_refl _ | exact next

theorem Transition.owned_of_presented {now : Timestamp} {operation : QueueOperation}
    {before after : ExecutionJob} (transition : Transition now operation before after)
    {workerId : String} {claimGeneration : Int}
    (presented : operation.presented = some (workerId, claimGeneration)) :
    Owned now workerId claimGeneration before := by
  cases transition <;> cases presented <;> assumption

/-- Nobody has a claim on a job that waits. -/
def Unclaimed (job : ExecutionJob) : Prop :=
  job.status = .queued → job.workerId = none ∧ job.leaseExpiresAt = none

theorem Transition.unclaimed {now : Timestamp} {operation : QueueOperation}
    {before after : ExecutionJob} (transition : Transition now operation before after)
    (unclaimed : Unclaimed before) : Unclaimed after := by
  cases transition with
  | requeue finalizing owned erred attemptsLeft => exact fun _ => ⟨rfl, rfl⟩
  | ignoreCancel notQueued notRunning => exact unclaimed
  | resumeFinalizing finalizing expired =>
      exact fun queued => nomatch finalizing.symm.trans queued
  | setFailure finalizing owned => exact fun queued => nomatch finalizing.symm.trans queued
  | prepareTail finalizing owned => exact fun queued => nomatch finalizing.symm.trans queued
  | publish publishable =>
      intro queued
      rcases MemoryExecutionQueue.completed_or_failed_of_publishable publishable with
        completed | failed
      · cases completed.symm.trans queued
      · cases failed.symm.trans queued
  | renew claimed owned =>
      intro queued
      rcases claimed with running | executing | finalizing | requested
      · cases running.symm.trans queued
      · cases executing.symm.trans queued
      · cases finalizing.symm.trans queued
      · cases requested.symm.trans queued
  | beginCleanup requested owned pending =>
      exact fun queued => nomatch requested.symm.trans queued
  | claimCancellation requested expired =>
      exact fun queued => nomatch requested.symm.trans queued
  | _ => exact fun queued => nomatch queued

/-- A claim that is not over stays as it is, unless the call presents it. -/
theorem Transition.keeps_live_claim {now : Timestamp} {operation : QueueOperation}
    {before after : ExecutionJob} (transition : Transition now operation before after)
    (unclaimed : Unclaimed before) (live : before.leaseLive now = true)
    (unpresented : operation.presented = none) :
    after.claim = before.claim ∧ after.leaseExpiresAt = before.leaseExpiresAt := by
  have notExpired : before.leaseExpired now ≠ true := by
    rw [ExecutionJob.leaseExpired_eq, live]
    exact Bool.false_ne_true
  cases transition with
  | start startable =>
      -- Nobody has a claim on a job that waits, so the old claim would be over.
      rcases startable with queued | ⟨-, expired⟩
      · have noLease := (unclaimed queued).2
        simp [ExecutionJob.leaseLive, noLease] at live
      · exact absurd expired notExpired
  | resumeFinalizing finalizing expired => exact absurd expired notExpired
  | recoverExecuting executing expired => exact absurd expired notExpired
  | claimCancellation requested expired => exact absurd expired notExpired
  | publish publishable => exact ⟨rfl, rfl⟩
  | requestCancel cancellable => exact ⟨rfl, rfl⟩
  | ignoreCancel notQueued notRunning => exact ⟨rfl, rfl⟩
  | _ => cases unpresented

/-! ### Every run -/

theorem run_fenced (events : List QueueEvent) {jobId : Uuid} {job : ExecutionJob}
    (found : (QueueWorld.run events).queue.jobs.find? jobId = some job) :
    Fenced (grantsOf ((QueueWorld.run events).callsOf jobId)) job.claim := by
  refine QueueWorld.story_of_transition
    (fun calls job => Fenced (grantsOf calls) job.claim) ?_ ?_ events found
  · intro now job defaultMaxAttempts request isNew
    rw [isNew]
    exact Fenced.start 0
  · intro now operation calls before after fenced transition
    rw [grantsOf_cons]
    exact fenced.step transition.claimStep

theorem run_unclaimed (events : List QueueEvent) {jobId : Uuid} {job : ExecutionJob}
    (found : (QueueWorld.run events).queue.jobs.find? jobId = some job) : Unclaimed job := by
  refine QueueWorld.story_of_transition (fun _ job => Unclaimed job) ?_ ?_ events found
  · intro now job defaultMaxAttempts request isNew
    rw [isNew]
    exact fun _ => ⟨rfl, rfl⟩
  · exact fun now operation calls before after unclaimed transition =>
      transition.unclaimed unclaimed

/-- A claim stays with its worker while it is not over, unless the worker presents
it. -/
theorem live_claim_stays {front : List QueueEvent} {jobId : Uuid} {early : ExecutionJob}
    {workerId : String} {expiresAt : Timestamp}
    (found : (QueueWorld.run front).queue.jobs.find? jobId = some early)
    (held : early.workerId = some workerId) (leased : early.leaseExpiresAt = some expiresAt)
    (rest : List QueueEvent) (inTime : ∀ event ∈ rest, event.now < expiresAt) :
    ∃ late, (QueueWorld.run (front ++ rest)).queue.jobs.find? jobId = some late ∧
      ((∃ event ∈ rest, event.operation.jobId = jobId ∧
          event.operation.presented = some (workerId, early.claimGeneration)) ∨
        (late.claim = early.claim ∧ late.leaseExpiresAt = early.leaseExpiresAt)) := by
  refine (QueueWorld.evolves_along (fun rest late => (∀ event ∈ rest, event.now < expiresAt) →
      (∃ event ∈ rest, event.operation.jobId = jobId ∧
          event.operation.presented = some (workerId, early.claimGeneration)) ∨
        (late.claim = early.claim ∧ late.leaseExpiresAt = early.leaseExpiresAt))
    found (fun _ => .inr ⟨rfl, rfl⟩) ?_ ?_ rest).imp
      fun late along => ⟨along.1, along.2 inTime⟩
  · intro rest event job stays inTime
    rw [List.forall_mem_append] at inTime
    refine (stays inTime.1).imp_left fun ⟨given, member, about⟩ => ?_
    exact ⟨given, List.mem_append_left _ member, about⟩
  · intro rest event before after present stays about transition inTime
    rw [List.forall_mem_append, List.forall_mem_singleton] at inTime
    rcases stays inTime.1 with ⟨given, member, gave⟩ | ⟨sameClaim, sameLease⟩
    · exact .inl ⟨given, List.mem_append_left _ member, gave⟩
    · have sameGeneration : before.claimGeneration = early.claimGeneration :=
        congrArg Claim.generation sameClaim
      have sameWorker : before.workerId = early.workerId := congrArg Claim.holder sameClaim
      cases presented : event.operation.presented with
      | some claim =>
          obtain ⟨presenter, generation⟩ := claim
          have owned := ExecutionJob.ownedBy_iff.mp (transition.owned_of_presented presented)
          have isHolder : presenter = workerId :=
            Option.some.inj ((owned.1.symm.trans sameWorker).trans held)
          refine .inl ⟨event, List.mem_append_right _ (List.mem_singleton_self _), about, ?_⟩
          rw [presented, isHolder, ← owned.2.1, sameGeneration]
      | none =>
          have live : before.leaseLive event.now = true := by
            simp [ExecutionJob.leaseLive, sameLease, leased, inTime.2]
          have kept := transition.keeps_live_claim (run_unclaimed _ present) live presented
          exact .inr ⟨kept.1.trans sameClaim, kept.2.trans sameLease⟩

/-- The fencing of the claims over a run of the queue. -/
structure ClaimsFenced (events : List QueueEvent) : Prop where
  /-- The generation of a job never decreases. -/
  grows : ∀ front, front <+: events → ∀ jobId early,
    (QueueWorld.run front).queue.jobs.find? jobId = some early →
      ∃ late, (QueueWorld.run events).queue.jobs.find? jobId = some late ∧
        early.claimGeneration ≤ late.claimGeneration
  /-- A generation is held by one worker. -/
  oneWorker : ∀ jobId, ∀ first ∈ grantsOf ((QueueWorld.run events).callsOf jobId),
    ∀ second ∈ grantsOf ((QueueWorld.run events).callsOf jobId),
      first.generation = second.generation → first.holder = second.holder
  /-- The current holder was handed the current generation. -/
  handedOut : ∀ jobId job, (QueueWorld.run events).queue.jobs.find? jobId = some job →
    ∀ workerId, job.workerId = some workerId →
      ⟨job.claimGeneration, workerId⟩ ∈ grantsOf ((QueueWorld.run events).callsOf jobId)
  /-- At one time, one worker holds a claim that is not over. -/
  exclusive : ∀ jobId job, (QueueWorld.run events).queue.jobs.find? jobId = some job →
    ∀ now first second firstGeneration secondGeneration,
      Owned now first firstGeneration job → Owned now second secondGeneration job →
        first = second ∧ firstGeneration = secondGeneration
  /-- Nobody else gets the job before the claim on it is over, unless the holder
  gave it up. -/
  kept : ∀ front rest, front ++ rest = events → ∀ jobId early workerId expiresAt,
    (QueueWorld.run front).queue.jobs.find? jobId = some early →
    early.workerId = some workerId → early.leaseExpiresAt = some expiresAt →
    (∀ event ∈ rest, event.now < expiresAt) →
      ∃ late, (QueueWorld.run events).queue.jobs.find? jobId = some late ∧
        ((∃ event ∈ rest, event.operation.jobId = jobId ∧
            event.operation.presented = some (workerId, early.claimGeneration)) ∨
          (late.claim = early.claim ∧ late.leaseExpiresAt = early.leaseExpiresAt))
  /-- Who presents an older generation gets an error, and the queue stays. -/
  superseded : ∀ jobId, ∀ newer ∈ grantsOf ((QueueWorld.run events).callsOf jobId),
    ∀ now (operation : QueueOperation) workerId claimGeneration, operation.jobId = jobId →
      operation.presented = some (workerId, claimGeneration) →
      claimGeneration < newer.generation →
        ∃ error, operation.perform now (QueueWorld.run events).queue =
          (.error error, (QueueWorld.run events).queue)

theorem superseded_refused (events : List QueueEvent) {jobId : Uuid}
    {newer : Grant Int String}
    (granted : newer ∈ grantsOf ((QueueWorld.run events).callsOf jobId)) (now : Timestamp)
    {operation : QueueOperation} {workerId : String} {claimGeneration : Int}
    (about : operation.jobId = jobId)
    (presented : operation.presented = some (workerId, claimGeneration))
    (older : claimGeneration < newer.generation) :
    ∃ error, operation.perform now (QueueWorld.run events).queue =
      (.error error, (QueueWorld.run events).queue) := by
  generalize performed : operation.perform now (QueueWorld.run events).queue = answer
  obtain ⟨outcome, after⟩ := answer
  cases outcome with
  | error error => exact ⟨error, by rw [perform_error performed]⟩
  | ok job =>
      exfalso
      rcases perform_ok performed with
        ⟨id, defaultMaxAttempts, request, rfl, -, -⟩ | ⟨before, found, transition, -⟩
      · cases presented
      · rw [about] at found
        have owned := ExecutionJob.ownedBy_iff.mp (transition.owned_of_presented presented)
        exact (run_fenced events found).superseded granted older owned.2.1

/-- Over every run of the queue, whatever the workers call and whatever the clocks
show, the claims are fenced. -/
theorem claims_are_fenced (events : List QueueEvent) : ClaimsFenced events where
  grows := by
    rintro front ⟨rest, rfl⟩ jobId early found
    exact QueueWorld.evolves_of_transition
      (fun early late => early.claimGeneration ≤ late.claimGeneration)
      (fun _ => Int.le_refl _) (fun _ _ _ => Int.le_trans)
      (fun _ _ _ _ transition => transition.generation_le) found rest
  oneWorker := by
    intro jobId first firstGranted second secondGranted same
    obtain ⟨call, member, -⟩ := List.mem_filterMap.mp firstGranted
    obtain ⟨job, found⟩ := QueueWorld.found_of_call member
    have fenced := run_fenced events found
    exact congrArg Grant.holder (fenced.one_holder firstGranted secondGranted same)
  handedOut := by
    intro jobId job found workerId held
    exact (run_fenced events found).current workerId held
  exclusive := by
    intro jobId job found now first second firstGeneration secondGeneration firstOwns secondOwns
    have firstClaim := ExecutionJob.ownedBy_iff.mp firstOwns
    have secondClaim := ExecutionJob.ownedBy_iff.mp secondOwns
    exact ⟨Option.some.inj (firstClaim.1.symm.trans secondClaim.1),
      firstClaim.2.1.symm.trans secondClaim.2.1⟩
  kept := by
    rintro front rest rfl jobId early workerId expiresAt found held leased inTime
    exact live_claim_stays found held leased rest inTime
  superseded := by
    intro jobId newer granted now operation workerId claimGeneration about presented older
    exact superseded_refused events granted now about presented older

end MandoForge
