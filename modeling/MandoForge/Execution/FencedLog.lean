/-
Module: MandoForge.Execution.FencedLog
Purpose: The log under the claims.  Whatever the workers call and in whatever order,
  what was appended under the claims on a job stands in the log in the order of the
  claims, and a worker that was superseded writes nothing behind its successor.
Trusted boundary: as in `Store.Execution`; an enqueue draws a new identifier.
Main exports: FencedEvent, fenced_log_in_claim_order
-/
import MandoForge.Execution.ClaimFencing
import MandoForge.Store.LogRuns

namespace MandoForge

open Foundation

/-! ### Runs -/

/-- The clock is set, or a worker performs an operation. -/
inductive FencedEvent where
  | clock (now : Timestamp)
  | perform (operation : ExecutionOperation)

/-- The operation draws an identifier that a job already has. -/
def ExecutionOperation.drawsUsedId (world : ExecutionWorld) : ExecutionOperation → Bool
  | .queue operation => operation.drawsUsedId fun id => (world.queue.jobs.find? id).isSome
  | _ => false

/-- The claim that the operation writes under. -/
def ExecutionOperation.fence : ExecutionOperation → Option ClaimFence
  | .appendEventOnceForExecutionClaim fence _ _ => some fence
  | .appendAuditLogForExecutionClaim fence _ => some fence
  | .finalizeAssignmentForAttempt _ fence _ _ _ => some fence
  | _ => none

def FencedEvent.happen (event : FencedEvent) (world : ExecutionWorld) : ExecutionWorld :=
  match event with
  | .clock now => { world with clock := now }
  | .perform operation =>
      if operation.drawsUsedId world then world else (operation.perform world).2

/-- The log is in the order of the claims. -/
structure InClaimOrder (world : ExecutionWorld) : Prop where
  /-- What was appended under claims stands in the log in the order it was appended in. -/
  logged : (world.fencedAppends.map Prod.fst).reverse.Sublist world.store.events
  /-- Every such event was appended for a worker. -/
  held : ∀ record ∈ world.fencedAppends, record.2.workerId ≠ none
  /-- Of two events of one job the later one belongs to a newer claim or to the same one. -/
  ordered : world.fencedAppends.Pairwise fun newer older =>
    newer.2.id = older.2.id → older.2.claim.Precedes newer.2.claim
  /-- The claim that stands in the queue follows them all. -/
  followed : ∀ record ∈ world.fencedAppends, ∃ job,
    world.queue.jobs.find? record.2.id = some job ∧ record.2.claim.Precedes job.claim

/-- A worker whose claim is older than one that has written writes nothing any more. -/
def SupersededSilent (world : ExecutionWorld) : Prop :=
  ∀ record ∈ world.fencedAppends, ∀ (operation : ExecutionOperation) fence,
    operation.fence = some fence → fence.jobId = record.2.id →
      fence.claimGeneration < record.2.claimGeneration → (operation.perform world).2 = world

/-! ### What an operation keeps -/

theorem lockOwnedClaim_ok {now : Timestamp} {fence : ClaimFence} {queue : ExecutionQueueState}
    {job : ExecutionJob} (locked : lockOwnedClaim now fence queue = .ok job) :
    queue.jobs.find? fence.jobId = some job ∧
      job.claim = ⟨fence.claimGeneration, some fence.workerId⟩ := by
  unfold lockOwnedClaim at locked
  cases found : queue.jobs.find? fence.jobId with
  | none => simp [found] at locked
  | some stored =>
      simp only [found] at locked
      split at locked
      · rename_i owns
        cases locked
        obtain ⟨holder, generation, -⟩ := ExecutionJob.ownedBy_iff.mp owns.2
        exact ⟨rfl, by rw [ExecutionJob.claim, holder, generation]⟩
      · cases locked

theorem appendEventWithId_extends (eventId : Uuid) (idempotent : Bool) (entry : NewEvent)
    (store : MemoryStore) :
    store.events <+: (appendEventWithId eventId idempotent entry store).2.events := by
  rcases appendEventWithId_cases eventId idempotent entry store with
    ⟨-, stays⟩ | ⟨existing, -, -, -, found⟩ | ⟨-, -, isNew⟩
  · simp only [stays, List.prefix_rfl]
  · simp only [found, List.prefix_rfl]
  · simp only [isNew, List.prefix_append]

namespace InClaimOrder

variable {world after : ExecutionWorld}

theorem onStore {Answer : Type} {operation : MemoryStore → Answer × MemoryStore}
    (order : InClaimOrder world)
    (events : world.store.events <+: (operation world.store).2.events) :
    InClaimOrder (world.onStore operation).2 :=
  ⟨order.logged.trans events.sublist, order.held, order.ordered, order.followed⟩

theorem onStoreFenced {Value : Type} {fence : ClaimFence}
    {operation : MemoryStore → Except AppError Value × MemoryStore} (order : InClaimOrder world)
    (events : (operation world.store).2.events = world.store.events) :
    InClaimOrder (world.onStoreFenced fence operation).2 := by
  unfold ExecutionWorld.onStoreFenced
  split
  · exact order
  · exact order.onStore (events ▸ List.prefix_rfl)

theorem appendFenced (order : InClaimOrder world) (eventId : Uuid) (fence : ClaimFence)
    (entry : NewEvent) : InClaimOrder (world.appendFenced eventId fence entry).2 := by
  unfold ExecutionWorld.appendFenced
  split
  · exact order
  rename_i job locked
  obtain ⟨found, claim⟩ := lockOwnedClaim_ok locked
  have isJob : job.id = fence.jobId := (Table.find?_eq_some.mp found).2
  rcases appendEventWithId_cases eventId true entry world.store with
    ⟨⟨error, refused⟩, stays⟩ | ⟨existing, -, -, -, isFound⟩ | ⟨-, -, isNew⟩
  · dsimp only
    rw [refused, stays]
    exact order
  · rw [isFound]
    dsimp only
    rw [if_pos rfl]
    exact order
  · rw [isNew]
    dsimp only
    rw [if_neg (by simp)]
    refine ⟨?_, List.forall_mem_cons.mpr ⟨?_, order.held⟩,
      List.pairwise_cons.mpr ⟨fun older member same => ?_, order.ordered⟩,
      List.forall_mem_cons.mpr ⟨⟨job, by rw [isJob, found], .inr ⟨rfl, .inl rfl⟩⟩,
        order.followed⟩⟩
    · rw [List.map_cons, List.reverse_cons]
      exact order.logged.append (List.Sublist.refl _)
    · rw [show job.workerId = some fence.workerId from congrArg Claim.holder claim]
      exact Option.some_ne_none _
    · obtain ⟨now, isNow, precedes⟩ := order.followed older member
      rw [← same, isJob, found] at isNow
      cases isNow
      exact precedes

/-- A call to the queue leaves every job that was there, with a claim that follows. -/
theorem onQueue {operation : QueueOperation} (order : InClaimOrder world)
    (fresh : ¬operation.drawsUsedId fun id => (world.queue.jobs.find? id).isSome) :
    InClaimOrder (world.onQueue operation).2 := by
  refine ⟨order.logged, order.held, order.ordered, fun record member => ?_⟩
  obtain ⟨job, found, precedes⟩ := order.followed record member
  change ∃ job, (operation.perform world.clock world.queue).2.jobs.find? record.2.id = some job ∧ _
  generalize performed : operation.perform world.clock world.queue = answer
  obtain ⟨outcome, after⟩ := answer
  cases outcome with
  | error error =>
      rw [perform_error performed]
      exact ⟨job, found, precedes⟩
  | ok changed =>
      rcases perform_ok performed with
        ⟨id, defaultMaxAttempts, request, rfl, rfl, inserted⟩ |
        ⟨before, isBefore, transition, replaces⟩
      · have other : record.2.id ≠ id := by
          rintro rfl
          simp [QueueOperation.drawsUsedId, found] at fresh
        rw [inserted]
        exact ⟨job, (Table.replaces_insert.2 _ other).trans found, precedes⟩
      · by_cases same : record.2.id = operation.jobId
        · rw [same] at found ⊢
          obtain rfl : before = job := Option.some.inj (isBefore.symm.trans found)
          exact ⟨changed, replaces.1, transition.claimStep.precedes precedes⟩
        · exact ⟨job, (replaces.2 _ same).trans found, precedes⟩

theorem perform (order : InClaimOrder world) (operation : ExecutionOperation)
    (fresh : ¬operation.drawsUsedId world) : InClaimOrder (operation.perform world).2 := by
  have drawn : InClaimOrder { world with issuedUuid := world.freshUuid } :=
    ⟨order.logged, order.held, order.ordered, order.followed⟩
  cases operation with
  | queue operation => exact order.onQueue fresh
  | appendEvent entry => exact drawn.onStore (appendEventWithId_extends ..)
  | appendEventOnce eventId entry => exact order.onStore (appendEventWithId_extends ..)
  | appendEventOnceForExecutionClaim fence eventId entry =>
      exact order.appendFenced eventId fence entry
  | appendAuditLogForExecutionClaim fence audit =>
      refine order.onStoreFenced ?_
      unfold appendAuditLog
      split
      · split <;> rfl
      · rfl
  | finalizeAssignmentForAttempt assignmentId fence attemptCount status metadata =>
      refine order.onStoreFenced ?_
      unfold finalizeAssignmentForAttempt
      split
      · dsimp only
        split <;> rfl
      · rfl
  | updateToolCallStatus toolCallId status result error =>
      refine order.onStore ?_
      unfold updateToolCallStatus
      split <;> exact List.prefix_rfl
  | createSessionThread thread =>
      refine order.onStore ?_
      unfold createSessionThread
      split <;> exact List.prefix_rfl
  | setSessionAndPrimaryThreadStatus sessionId threadId status threadStatus =>
      refine order.onStore ?_
      unfold setSessionAndPrimaryThreadStatus
      dsimp only
      repeat' split
      all_goals exact List.prefix_rfl
  | commitSessionLoopJob sessionId triggerEventId reason window =>
      refine drawn.onStore ?_
      unfold commitSessionLoopJob
      dsimp only
      split <;> exact List.prefix_rfl
  | newUuid => exact drawn
  | _ => exact order

theorem happen (order : InClaimOrder world) (event : FencedEvent) :
    InClaimOrder (event.happen world) := by
  cases event with
  | clock now => exact ⟨order.logged, order.held, order.ordered, order.followed⟩
  | perform operation =>
      unfold FencedEvent.happen
      dsimp only
      split
      · exact order
      · rename_i fresh
        exact order.perform operation fresh

theorem supersededSilent (order : InClaimOrder world) : SupersededSilent world := by
  intro record member operation fence writes sameJob older
  obtain ⟨job, found, precedes⟩ := order.followed record member
  cases locked : lockOwnedClaim world.clock fence world.queue with
  | error error =>
      cases operation <;> cases writes <;>
        simp only [ExecutionOperation.perform, ExecutionWorld.appendFenced,
          ExecutionWorld.onStoreFenced, locked]
  | ok held =>
      obtain ⟨isHeld, claim⟩ := lockOwnedClaim_ok locked
      rw [sameJob, found] at isHeld
      cases isHeld
      rw [claim] at precedes
      exact absurd precedes.generation_le (Int.not_le.mpr older)

end InClaimOrder

/-- In every state of every run of the workers, whatever stood in the store and the queue to
begin with, the log is in the order of the claims, and no superseded worker writes. -/
theorem fenced_log_in_claim_order (store : MemoryStore) (queue : ExecutionQueueState)
    (clock : Timestamp) (issuedUuid : Uuid) (events : List FencedEvent) :
    HeldAlong FencedEvent.happen (fun world => InClaimOrder world ∧ SupersededSilent world)
      events { store, queue, clock, issuedUuid } := by
  have start : InClaimOrder { store, queue, clock, issuedUuid } :=
    ⟨List.nil_sublist _, by simp, List.Pairwise.nil, by simp⟩
  have along : HeldAlong FencedEvent.happen InClaimOrder events
      { store, queue, clock, issuedUuid } := by
    refine heldAlong_of_step ?_ start metAlong_trivial
    intro event world _ order
    exact order.happen event
  exact along.mono fun _ order => ⟨order, order.supersededSilent⟩

end MandoForge
