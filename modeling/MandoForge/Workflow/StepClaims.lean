/-
Module: MandoForge.Workflow.StepClaims
Purpose: The writers of a step run that work beside each other: the update handler,
  which reads the step, computes the new one and writes it, the claim of a worker, and
  the update under a claim.  What each single operation does to the stored rows.
Trusted boundary: an operation is one critical section of the in-memory store.  Who may
  call the handler, and as which owner, is decided outside; both answers are parameters
  of a request.  Of a step run the record keeps no lists of artifacts, approvals and
  tool calls and no stamps of its start and end: the handler copies them, and no
  operation here reads them.  What follows a write (the task grant of an ended step, the
  log and the graph) is not part of it.
Main exports: updateWorkflowStepRun, StepRunStore
-/
import MandoForge.Foundation.Interleaving
import MandoForge.SessionLoop.Jobs
import MandoForge.Store.Workflow
import MandoForge.Workflow.Graph

namespace MandoForge

open Foundation

/-! ### Operations on the store -/

/-- The write of `update_workflow_step_run`: the row is replaced whatever it was. -/
def updateWorkflowStepRun (step : WorkflowStepRun) (store : MemoryStore) :
    Except AppError WorkflowStepRun × MemoryStore :=
  if (store.workflowStepRuns.find? step.id).isNone then
    (.error (.notFound "workflow step run not found"), store)
  else (.ok step, { store with workflowStepRuns := store.workflowStepRuns.insert step })

/-- The session that a step run works in: its own, or the one of its workflow run. -/
def stepSessionId (step : WorkflowStepRun) (store : MemoryStore) : Option Uuid :=
  step.sessionId.or
    ((store.workflowRuns.find? step.workflowRunId).map WorkflowRun.primarySessionId)

/-- The session of the step run is in use, or there is none. -/
def stepSessionOccupied (step : WorkflowStepRun) (store : MemoryStore) : Bool :=
  let sessionId := stepSessionId step store
  sessionId.isNone || sessionId.any (memorySessionHasPendingActions store) ||
    (store.workflowStepRuns.rows.any fun other =>
      decide (other.id ≠ step.id) &&
        (decide (other.status = .running) || decide (other.status = .requiresAction)) &&
        decide (stepSessionId other store = sessionId)) ||
    store.sessionLoopJobs.rows.any fun job =>
      decide (some job.sessionId = sessionId) && decide (job.status = .running)

/-- The stored step run can be claimed: nobody has claimed it, or the claim is over. -/
def stepClaimable (now : Timestamp) (current : WorkflowStepRun) : Bool :=
  (decide (current.status = .queued) && decide (current.claimedByWorker = none) &&
      decide (current.claimOwnerVersion = 0)) ||
    (decide (current.status = .running) &&
      decide (current.claimOwnerVersion = workflowStepClaimOwnerVersion) &&
      current.leaseExpiresAt.any fun expiresAt => decide (expiresAt ≤ now))

def claimWorkflowStepRunIfAvailable (step : WorkflowStepRun) (now : Timestamp)
    (store : MemoryStore) : Except AppError WorkflowStepRun × MemoryStore :=
  if step.claimedByWorker = none ∨ step.claimOwnerVersion ≠ workflowStepClaimOwnerVersion then
    (.error (.notFound "workflow step run not found"), store)
  else if stepSessionOccupied step store then
    (.error (.notFound "workflow step session is already in use"), store)
  else if !(store.workflowStepRuns.find? step.id).any (stepClaimable now) then
    (.error (.notFound "workflow step run not found"), store)
  else (.ok step, { store with workflowStepRuns := store.workflowStepRuns.insert step })

/-! ### The operations as an interface -/

inductive StepRunOperation where
  | readClock
  | getWorkflowStepRun (stepId : Uuid)
  | getWorkflowRun (workflowRunId : Uuid)
  | updateWorkflowStepRun (step : WorkflowStepRun)
  | claimWorkflowStepRunIfAvailable (step : WorkflowStepRun) (now : Timestamp)
  | updateClaimedWorkflowStepRun (step : WorkflowStepRun) (workerId : String)
deriving DecidableEq

def StepRunOperation.Answer : StepRunOperation → Type
  | readClock => Timestamp
  | getWorkflowStepRun _ => Except AppError WorkflowStepRun
  | getWorkflowRun _ => Except AppError WorkflowRun
  | updateWorkflowStepRun _ => Except AppError WorkflowStepRun
  | claimWorkflowStepRunIfAvailable _ _ => Except AppError WorkflowStepRun
  | updateClaimedWorkflowStepRun _ _ => Except AppError WorkflowStepRun

def StepRunOperation.perform :
    (operation : StepRunOperation) → World → operation.Answer × World
  | readClock, world => (world.clock, world)
  | getWorkflowStepRun stepId, world =>
      (okOr (world.store.workflowStepRuns.find? stepId)
        (.notFound "workflow step run not found"), world)
  | getWorkflowRun workflowRunId, world =>
      (okOr (world.store.workflowRuns.find? workflowRunId)
        (.notFound "workflow run not found"), world)
  | updateWorkflowStepRun step, world =>
      world.onStore (MandoForge.updateWorkflowStepRun step)
  | claimWorkflowStepRunIfAvailable step now, world =>
      world.onStore (MandoForge.claimWorkflowStepRunIfAvailable step now)
  | updateClaimedWorkflowStepRun step workerId, world =>
      world.onStore (MandoForge.updateClaimedWorkflowStepRun world.clock step workerId)

def StepRunStore : StoreInterface World where
  Operation := StepRunOperation
  Answer := StepRunOperation.Answer
  perform := StepRunOperation.perform

abbrev StepRunProgram := Program StepRunStore AppError

/-! ### The update handler -/

def normalizeWorkflowRunStatus (value : String) : Except AppError WorkflowStatus :=
  match toAsciiLowercase (trim value) with
  | "queued" => .ok .queued
  | "scheduled" => .ok .scheduled
  | "running" => .ok .running
  | "requires_action" => .ok .requiresAction
  | "completed" => .ok .completed
  | "failed" => .ok .failed
  | "canceled" => .ok .canceled
  | "skipped" => .ok .skipped
  | _ => .error (.badRequest ("workflow status must be queued, scheduled, running, " ++
      "requires_action, completed, failed, canceled, or skipped"))

/-- What a request asks to change. -/
structure UpdateWorkflowStepRun where
  status : Option String := none
  outputPayload : Option Json := none
deriving DecidableEq

/-- A request to the handler, with what the authorization says to it and the owner that
the principal and the headers name. -/
structure StepUpdateRequest where
  stepId : Uuid
  input : UpdateWorkflowStepRun
  authorization : Except AppError Unit
  executionOwner : Except AppError String

/-- The status the step is to get: the requested one, or the one it was read with. -/
def requestedStepStatus (input : UpdateWorkflowStepRun) (current : WorkflowStepRun) :
    Except AppError WorkflowStatus :=
  match input.status with
  | some value => normalizeWorkflowRunStatus value
  | none => .ok current.status

/-- The output the step is to get. -/
def requestedStepOutput (input : UpdateWorkflowStepRun) (current : WorkflowStepRun) :
    Except AppError Json :=
  match input.outputPayload with
  | some outputPayload =>
      if outputPayload.isObject then .ok outputPayload
      else .error (.badRequest "workflow step output_payload must be a JSON object")
  | none => .ok current.outputPayload

/-- The new step of a request, from the one that was read. -/
def updatedStep (input : UpdateWorkflowStepRun) (current : WorkflowStepRun) :
    Except AppError WorkflowStepRun := do
  if workflowStepRunIsHandoffApprovalBlocked current then
    throw (.forbidden
      "approval-gated workflow handoffs cannot be updated through the workflow step API")
  let status ← requestedStepStatus input current
  if workflowStepStatusTerminal current.status ∧ current.status ≠ status then
    throw (.badRequest "terminal workflow step runs cannot be transitioned")
  let outputPayload ← requestedStepOutput input current
  return { current with status, outputPayload }

/-- The write of the handler: under the claim the step was read with, or unconditional. -/
def writeUpdatedStep (executionOwner : Except AppError String) (current next : WorkflowStepRun) :
    StepRunProgram WorkflowStepRun :=
  match if current.status = .running then current.claimedByWorker else none with
  | some claimedByWorker => do
      let owner ← Program.ofExcept executionOwner
      if claimedByWorker ≠ owner then
        throw (.forbidden "workflow step update requires the current claim owner")
      else Program.attempt (I := StepRunStore) (.updateClaimedWorkflowStepRun next owner) id
  | none => Program.attempt (I := StepRunStore) (.updateWorkflowStepRun next) id

/-- The handler `update_workflow_step_run`. -/
def handleUpdateWorkflowStepRun (request : StepUpdateRequest) :
    StepRunProgram WorkflowStepRun := do
  let current : WorkflowStepRun ←
    Program.attempt (I := StepRunStore) (.getWorkflowStepRun request.stepId) id
  let _run : WorkflowRun ←
    Program.attempt (I := StepRunStore) (.getWorkflowRun current.workflowRunId) id
  Program.ofExcept request.authorization
  let next ← Program.ofExcept (updatedStep request.input current)
  writeUpdatedStep request.executionOwner current next

/-- A claim: its caller reads the clock and stores the step it made for that instant. -/
def claimStep (step : Timestamp → WorkflowStepRun) : StepRunProgram WorkflowStepRun := do
  let now : Timestamp ← Program.perform (I := StepRunStore) .readClock
  Program.attempt (I := StepRunStore) (.claimWorkflowStepRunIfAvailable (step now) now) id

/-- An update under a claim. -/
def updateClaimedStep (step : WorkflowStepRun) (workerId : String) :
    StepRunProgram WorkflowStepRun :=
  Program.attempt (I := StepRunStore) (.updateClaimedWorkflowStepRun step workerId) id

/-! ### What an operation does to the stored rows -/

namespace World

/-- The stored step run of an id. -/
def stepRun (world : World) (stepId : Uuid) : Option WorkflowStepRun :=
  world.store.workflowStepRuns.find? stepId

end World

/-- The operation writes this step over the stored one. -/
def StepRunOperation.Writes (world : World) (stored next : WorkflowStepRun) :
    StepRunOperation → Prop
  | updateWorkflowStepRun step => step = next
  | claimWorkflowStepRunIfAvailable step now => step = next ∧ stepClaimable now stored = true
  | updateClaimedWorkflowStepRun step workerId =>
      step = next ∧ acceptsClaimedUpdate world.clock workerId stored = true ∧
        (MandoForge.updateClaimedWorkflowStepRun world.clock step workerId world.store).1 = .ok next
  | _ => False

theorem updateWorkflowStepRun_cases (step : WorkflowStepRun) (store : MemoryStore) :
    (store.workflowStepRuns.find? step.id = none ∧ (updateWorkflowStepRun step store).2 = store) ∨
      ∃ stored, store.workflowStepRuns.find? step.id = some stored ∧
        (updateWorkflowStepRun step store).2 =
          { store with workflowStepRuns := store.workflowStepRuns.insert step } := by
  unfold updateWorkflowStepRun
  cases found : store.workflowStepRuns.find? step.id with
  | none => exact .inl ⟨rfl, rfl⟩
  | some stored => exact .inr ⟨stored, rfl, rfl⟩

theorem claimWorkflowStepRunIfAvailable_cases (step : WorkflowStepRun) (now : Timestamp)
    (store : MemoryStore) :
    (claimWorkflowStepRunIfAvailable step now store).2 = store ∨
      ∃ stored, store.workflowStepRuns.find? step.id = some stored ∧
        stepClaimable now stored = true ∧
        (claimWorkflowStepRunIfAvailable step now store).2 =
          { store with workflowStepRuns := store.workflowStepRuns.insert step } := by
  unfold claimWorkflowStepRunIfAvailable
  split
  · exact .inl rfl
  · split
    · exact .inl rfl
    · split
      · exact .inl rfl
      · rename_i available
        rw [Bool.not_eq_true, Bool.not_eq_false', Option.any_eq_true] at available
        obtain ⟨stored, found, isClaimable⟩ := available
        exact .inr ⟨stored, found, isClaimable, rfl⟩

theorem updateClaimedWorkflowStepRun_cases (now : Timestamp) (step : WorkflowStepRun)
    (workerId : String) (store : MemoryStore) :
    (updateClaimedWorkflowStepRun now step workerId store).2 = store ∨
      ∃ stored, store.workflowStepRuns.find? step.id = some stored ∧
        acceptsClaimedUpdate now workerId stored = true ∧
        updateClaimedWorkflowStepRun now step workerId store =
          (.ok step, { store with workflowStepRuns := store.workflowStepRuns.insert step }) := by
  unfold updateClaimedWorkflowStepRun
  split
  · exact .inl rfl
  · split
    · exact .inl rfl
    · rename_i available
      rw [Bool.not_eq_true, Bool.not_eq_false', Option.any_eq_true] at available
      obtain ⟨stored, found, accepts⟩ := available
      exact .inr ⟨stored, found, accepts, rfl⟩

namespace World

variable {Answer : Type} {operation : MemoryStore → Answer × MemoryStore} {world : World}

theorem stepRun_onStore_of_same (same : (operation world.store).2 = world.store) :
    (world.onStore operation).2.stepRun = world.stepRun := by
  funext stepId
  change (operation world.store).2.workflowStepRuns.find? stepId = _
  rw [same]
  rfl

theorem stepRun_onStore_of_insert {next : WorkflowStepRun}
    (written : (operation world.store).2 = { world.store with
      workflowStepRuns := world.store.workflowStepRuns.insert next }) :
    (world.onStore operation).2.stepRun =
      Function.update world.stepRun next.id (some next) := by
  funext stepId
  change (operation world.store).2.workflowStepRuns.find? stepId = _
  rw [written]
  by_cases same : stepId = next.id
  · subst same
    rw [Function.update_self, Table.find?_insert_same]
  · rw [Function.update_of_ne same, Table.find?_insert_of_ne same]
    rfl

end World

/-- An operation leaves the step runs, or writes one over the stored one of its id. -/
theorem perform_stepRuns (operation : StepRunOperation) (world : World) :
    (operation.perform world).2.stepRun = world.stepRun ∨
      ∃ stored next, world.stepRun next.id = some stored ∧
        operation.Writes world stored next ∧
        (operation.perform world).2.stepRun =
          Function.update world.stepRun next.id (some next) := by
  cases operation with
  | readClock => exact .inl rfl
  | getWorkflowStepRun stepId => exact .inl rfl
  | getWorkflowRun workflowRunId => exact .inl rfl
  | updateWorkflowStepRun step =>
      obtain ⟨-, same⟩ | ⟨stored, found, written⟩ :=
        updateWorkflowStepRun_cases step world.store
      · exact .inl (World.stepRun_onStore_of_same same)
      · exact .inr ⟨stored, step, found, rfl, World.stepRun_onStore_of_insert written⟩
  | claimWorkflowStepRunIfAvailable step now =>
      obtain same | ⟨stored, found, isClaimable, written⟩ :=
        claimWorkflowStepRunIfAvailable_cases step now world.store
      · exact .inl (World.stepRun_onStore_of_same same)
      · exact .inr ⟨stored, step, found, ⟨rfl, isClaimable⟩,
          World.stepRun_onStore_of_insert written⟩
  | updateClaimedWorkflowStepRun step workerId =>
      obtain same | ⟨stored, found, accepts, written⟩ :=
        updateClaimedWorkflowStepRun_cases world.clock step workerId world.store
      · exact .inl (World.stepRun_onStore_of_same same)
      · exact .inr ⟨stored, step, found, ⟨rfl, accepts, congrArg Prod.fst written⟩,
          World.stepRun_onStore_of_insert (congrArg Prod.snd written)⟩

theorem perform_clock (operation : StepRunOperation) (world : World) :
    (operation.perform world).2.clock = world.clock := by
  cases operation <;> rfl

end MandoForge
