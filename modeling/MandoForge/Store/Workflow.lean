/-
Module: MandoForge.Store.Workflow
Purpose: The store operations of the workflow engine, as the interface its
  programs run against, with what each of them leaves of the step runs and of the
  run rows.
Trusted boundary: an operation is one critical section of the store's lock.  The
  clock and the issued identifiers belong to the world beside the store; a new
  identifier is one that nothing carries yet.
Main exports: World, WorkflowStore
-/
import MandoForge.Foundation.StoreProgram
import MandoForge.TaskGrant.Store

namespace MandoForge

open Foundation

/-- The store, the clock, and the last identifier that was handed out. -/
structure World where
  store : MemoryStore
  clock : Timestamp
  issuedUuid : Uuid
deriving DecidableEq

namespace World

/-- The identifiers that are taken. -/
def usedUuids (world : World) : List Uuid :=
  world.issuedUuid :: (world.store.sessions.rows.map Session.id ++
    world.store.workflowStepRuns.rows.map WorkflowStepRun.id ++
    world.store.taskGrants.rows.map TaskGrant.id)

/-- `Uuid::new_v4`. -/
def freshUuid (world : World) : Uuid :=
  world.usedUuids.foldr max 0 + 1

/-- The step runs of a workflow run, oldest first. -/
def stepRunsOf (world : World) (workflowRunId : Uuid) : List WorkflowStepRun :=
  world.store.workflowStepRuns.rows.filter fun step =>
    decide (step.workflowRunId = workflowRunId)

/-- The task grants of a workflow run. -/
def taskGrantsOf (world : World) (workflowRunId : Uuid) : List TaskGrant :=
  world.store.taskGrants.rows.filter fun grant =>
    decide (grant.workflowRunId = workflowRunId)

/-- The stored status of a workflow run. -/
def runStatus (world : World) (workflowRunId : Uuid) : Option WorkflowStatus :=
  (world.store.workflowRuns.find? workflowRunId).map WorkflowRun.status

end World

namespace World

theorem lt_freshUuid {world : World} {id : Uuid} (used : id ∈ world.usedUuids) :
    id < world.freshUuid :=
  Nat.lt_succ_of_le (le_foldr_max used)

theorem find?_freshUuid (world : World) :
    world.store.workflowStepRuns.find? world.freshUuid = none := by
  rw [Table.find?_eq_none]
  intro step member same
  have used : step.id ∈ world.usedUuids := by
    simp only [usedUuids, List.mem_cons, List.mem_append, List.mem_map]
    exact .inr (.inl (.inr ⟨step, member, rfl⟩))
  exact absurd same (Nat.ne_of_lt (lt_freshUuid used))

/-- Step runs and runs stayed, and no grant became active. -/
structure Unchanged (before after : World) : Prop where
  stepRuns : after.store.workflowStepRuns = before.store.workflowStepRuns
  runs : after.store.workflowRuns = before.store.workflowRuns
  activeGrants : ∀ grant ∈ after.store.taskGrants, grant.status = .active →
    grant ∈ before.store.taskGrants

/-- One step run was added to a run that accepts new ones; a grant that became
active belongs to the same run. -/
structure StepAdded (before after : World) (step : WorkflowStepRun) : Prop where
  stepRuns : after.store.workflowStepRuns.rows =
    before.store.workflowStepRuns.rows ++ [step]
  runs : after.store.workflowRuns = before.store.workflowRuns
  accepts : (before.runStatus step.workflowRunId).any workflowRunStatusAllowsStepCreation
  activeGrants : ∀ grant ∈ after.store.taskGrants, grant.status = .active →
    grant ∈ before.store.taskGrants ∨ grant.workflowRunId = step.workflowRunId

theorem Unchanged.refl (world : World) : world.Unchanged world :=
  ⟨rfl, rfl, fun _ member _ => member⟩

theorem Unchanged.trans {first second third : World} (before : first.Unchanged second)
    (after : second.Unchanged third) : first.Unchanged third where
  stepRuns := after.stepRuns.trans before.stepRuns
  runs := after.runs.trans before.runs
  activeGrants grant member active :=
    before.activeGrants grant (after.activeGrants grant member active) active

theorem Unchanged.stepRunsOf {before after : World} (unchanged : before.Unchanged after)
    (workflowRunId : Uuid) :
    after.stepRunsOf workflowRunId = before.stepRunsOf workflowRunId := by
  rw [World.stepRunsOf, unchanged.stepRuns, World.stepRunsOf]

theorem Unchanged.runStatus {before after : World} (unchanged : before.Unchanged after)
    (workflowRunId : Uuid) :
    after.runStatus workflowRunId = before.runStatus workflowRunId := by
  rw [World.runStatus, unchanged.runs, World.runStatus]

theorem Unchanged.stepAdded {first second third : World} {step : WorkflowStepRun}
    (before : first.Unchanged second) (added : second.StepAdded third step) :
    first.StepAdded third step where
  stepRuns := by rw [added.stepRuns, before.stepRuns]
  runs := added.runs.trans before.runs
  accepts := by rw [← before.runStatus]; exact added.accepts
  activeGrants grant member active :=
    (added.activeGrants grant member active).imp_left fun member =>
      before.activeGrants grant member active

theorem StepAdded.stepRunsOf {before after : World} {step : WorkflowStepRun}
    (added : before.StepAdded after step) (workflowRunId : Uuid) :
    after.stepRunsOf workflowRunId = before.stepRunsOf workflowRunId ++
      if step.workflowRunId = workflowRunId then [step] else [] := by
  rw [World.stepRunsOf, added.stepRuns, List.filter_append, World.stepRunsOf]
  by_cases ofRun : step.workflowRunId = workflowRunId <;> simp [ofRun]

theorem StepAdded.runStatus {before after : World} {step : WorkflowStepRun}
    (added : before.StepAdded after step) (workflowRunId : Uuid) :
    after.runStatus workflowRunId = before.runStatus workflowRunId := by
  rw [World.runStatus, added.runs, World.runStatus]

end World

/-! ### Operations on the store -/

def createWorkflowStepRun (step : WorkflowStepRun) (store : MemoryStore) :
    Except AppError WorkflowStepRun × MemoryStore :=
  match store.workflowRuns.find? step.workflowRunId with
  | none => (.error (.notFound "workflow run not found"), store)
  | some run =>
      if !workflowRunStatusAllowsStepCreation run.status then
        (.error (.forbidden "workflow run is not executable"), store)
      else
        (.ok step, { store with workflowStepRuns := store.workflowStepRuns.insert step })

/-- `update_workflow_run_status`: the status is written whatever it was. -/
def updateWorkflowRunStatus (workflowRunId : Uuid) (status : WorkflowStatus)
    (store : MemoryStore) : Except AppError WorkflowRun × MemoryStore :=
  match store.workflowRuns.find? workflowRunId with
  | none => (.error (.notFound "workflow run not found"), store)
  | some run =>
      (.ok { run with status }, { store with
        workflowRuns := store.workflowRuns.modify workflowRunId fun stored =>
          { stored with status } })

theorem session_id_of_status (status : SessionStatus) :
    ∀ session : Session, { session with status }.id = session.id := fun _ => rfl

/-- The write of `set_managed_session_status` to the session. -/
def setSessionStatus (sessionId : Uuid) (status : SessionStatus) (store : MemoryStore) :
    MemoryStore :=
  { store with
    sessions := store.sessions.modify sessionId (fun session => { session with status })
      (session_id_of_status status) }

/-- `WORKFLOW_STEP_CLAIM_OWNER_VERSION`. -/
def workflowStepClaimOwnerVersion : Int := 1

/-- `WORKER_JOB_LEASE_SECONDS`, in nanoseconds. -/
def workerJobLease : Int := 300 * 1000000000

/-- The worker owns the claim of the job, for this attempt and still in time. -/
def ownsSessionLoopJob (now : Timestamp) (job : SessionLoopJob) (workerId : String)
    (store : MemoryStore) : Bool :=
  (store.sessionLoopJobs.find? job.id).any fun current =>
    decide (current.status = .running) && decide (current.workerId = some workerId) &&
      decide (current.sessionId = job.sessionId) &&
        decide (current.attemptCount = job.attemptCount) &&
          current.leaseExpiresAt.any fun deadline => decide (now < deadline)

def adoptWorkflowStepForLoop (now : Timestamp) (stepId : Uuid) (job : SessionLoopJob)
    (workerId : String) (store : MemoryStore) : Except AppError WorkflowStepRun × MemoryStore :=
  match store.workflowStepRuns.find? stepId with
  | none => (.error (.notFound "workflow step run not found"), store)
  | some step =>
      let sessionId := step.sessionId.or
        ((store.workflowRuns.find? step.workflowRunId).map WorkflowRun.primarySessionId)
      if !ownsSessionLoopJob now job workerId store ∨ sessionId ≠ some job.sessionId ∨
          step.status ≠ .running ∨ step.claimOwnerVersion ≠ workflowStepClaimOwnerVersion ∨
          step.leaseExpiresAt.any (fun deadline => decide (now < deadline)) then
        (.error (.notFound "workflow step claim is not recoverable"), store)
      else
        let adopted := { step with
          claimedByWorker := some workerId
          claimOwnerVersion := workflowStepClaimOwnerVersion
          leaseExpiresAt := some (now + workerJobLease) }
        (.ok adopted, { store with workflowStepRuns := store.workflowStepRuns.insert adopted })

/-- The stored step run accepts the update of its claimant. -/
def acceptsClaimedUpdate (now : Timestamp) (workerId : String) (current : WorkflowStepRun) :
    Bool :=
  (decide (current.status = .running) && decide (current.claimedByWorker = some workerId) &&
      decide (current.claimOwnerVersion = workflowStepClaimOwnerVersion)) ||
    (decide (current.status = .requiresAction) &&
      current.leaseExpiresAt.all fun expiresAt => decide (expiresAt ≤ now))

/-- The write of `update_claimed_workflow_step_run`. -/
def updateClaimedWorkflowStepRun (now : Timestamp) (step : WorkflowStepRun) (workerId : String)
    (store : MemoryStore) : Except AppError WorkflowStepRun × MemoryStore :=
  if step.claimedByWorker ≠ some workerId ∨
      step.claimOwnerVersion ≠ workflowStepClaimOwnerVersion then
    (.error (.notFound "workflow step run not found"), store)
  else if !(store.workflowStepRuns.find? step.id).any (acceptsClaimedUpdate now workerId) then
    (.error (.notFound "workflow step run not found"), store)
  else (.ok step, { store with workflowStepRuns := store.workflowStepRuns.insert step })

def activateScheduledWorkflowStepRun (stepId : Uuid) (checkedAt : Timestamp)
    (store : MemoryStore) : Except AppError (Option WorkflowStepRun) × MemoryStore :=
  match store.workflowStepRuns.find? stepId with
  | none => (.error (.notFound "workflow step run not found"), store)
  | some step =>
      if step.status ≠ .scheduled ∨
          step.scheduledAt.all (fun scheduledAt => decide (checkedAt < scheduledAt)) then
        (.ok none, store)
      else
        let activated := { step with status := .queued }
        (.ok (some activated),
          { store with workflowStepRuns := store.workflowStepRuns.insert activated })

inductive WorkflowOperation where
  | newUuid
  | readClock
  | listWorkflowStepRuns (workflowRunId : Uuid)
  | getWorkflowRun (workflowRunId : Uuid)
  | getTaskGrant (grantId : Uuid)
  | getSession (sessionId : Uuid)
  | getAgent (agentId : Uuid)
  | getEnvironment (environmentId : Uuid)
  | listAgentVersions (agentId : Uuid)
  | createSession (session : Session)
  | setSessionStatus (sessionId : Uuid) (status : SessionStatus)
  | createWorkflowStepRun (step : WorkflowStepRun)
  | createWorkflowStepRunWithTaskGrant (step : WorkflowStepRun) (grant : TaskGrant)
  | updateWorkflowRunStatus (workflowRunId : Uuid) (status : WorkflowStatus)
  | listTaskGrantsForWorkflowRun (workflowRunId : Uuid)
  | updateTaskGrantStatus (grantId : Uuid) (status : TaskGrantStatus)
  | adoptWorkflowStepForLoop (stepId : Uuid) (job : SessionLoopJob) (workerId : String)
  | updateClaimedWorkflowStepRun (step : WorkflowStepRun) (workerId : String)
  | activateScheduledWorkflowStepRun (stepId : Uuid) (checkedAt : Timestamp)
deriving DecidableEq

def WorkflowOperation.Answer : WorkflowOperation → Type
  | newUuid => Uuid
  | readClock => Timestamp
  | listWorkflowStepRuns _ => List WorkflowStepRun
  | getWorkflowRun _ => Except AppError WorkflowRun
  | getTaskGrant _ => Except AppError TaskGrant
  | getSession _ => Except AppError Session
  | getAgent _ => Except AppError Agent
  | getEnvironment _ => Except AppError Unit
  | listAgentVersions _ => List AgentVersion
  | createSession _ => Session
  | setSessionStatus _ _ => Unit
  | createWorkflowStepRun _ => Except AppError WorkflowStepRun
  | createWorkflowStepRunWithTaskGrant _ _ => Except AppError (WorkflowStepRun × TaskGrant)
  | updateWorkflowRunStatus _ _ => Except AppError WorkflowRun
  | listTaskGrantsForWorkflowRun _ => List TaskGrant
  | updateTaskGrantStatus _ _ => Except AppError TaskGrant
  | adoptWorkflowStepForLoop _ _ _ => Except AppError WorkflowStepRun
  | updateClaimedWorkflowStepRun _ _ => Except AppError WorkflowStepRun
  | activateScheduledWorkflowStepRun _ _ => Except AppError (Option WorkflowStepRun)

/-- An operation of the store inside a world. -/
def World.onStore {Answer : Type} (world : World)
    (operation : MemoryStore → Answer × MemoryStore) : Answer × World :=
  ((operation world.store).1, { world with store := (operation world.store).2 })

def WorkflowOperation.perform :
    (operation : WorkflowOperation) → World → operation.Answer × World
  | newUuid, world => (world.freshUuid, { world with issuedUuid := world.freshUuid })
  | readClock, world => (world.clock, world)
  | listWorkflowStepRuns workflowRunId, world => (world.stepRunsOf workflowRunId, world)
  | getWorkflowRun workflowRunId, world =>
      (okOr (world.store.workflowRuns.find? workflowRunId)
        (.notFound "workflow run not found"), world)
  | getTaskGrant grantId, world =>
      (okOr (world.store.taskGrants.find? grantId) (.notFound "task grant not found"), world)
  | getSession sessionId, world =>
      (okOr (world.store.sessions.find? sessionId) (.notFound "session not found"), world)
  | getAgent agentId, world =>
      (okOr (world.store.agents.find? agentId) (.notFound "agent not found"), world)
  | getEnvironment environmentId, world =>
      (if environmentId ∈ world.store.environmentIds then .ok ()
        else .error (.notFound "environment not found"), world)
  | listAgentVersions agentId, world =>
      (world.store.agentVersions.rows.filter fun version =>
        decide (version.agentId = agentId), world)
  | createSession session, world =>
      (session, { world with store := { world.store with
        sessions := world.store.sessions.insert session } })
  | setSessionStatus sessionId status, world =>
      ((), { world with store := MandoForge.setSessionStatus sessionId status world.store })
  | createWorkflowStepRun step, world => world.onStore (MandoForge.createWorkflowStepRun step)
  | createWorkflowStepRunWithTaskGrant step grant, world =>
      world.onStore (MandoForge.createWorkflowStepRunWithTaskGrant world.clock step grant)
  | updateWorkflowRunStatus workflowRunId status, world =>
      world.onStore (MandoForge.updateWorkflowRunStatus workflowRunId status)
  | listTaskGrantsForWorkflowRun workflowRunId, world =>
      (world.taskGrantsOf workflowRunId, world)
  | updateTaskGrantStatus grantId status, world =>
      world.onStore (MandoForge.updateTaskGrantStatus grantId status)
  | adoptWorkflowStepForLoop stepId job workerId, world =>
      world.onStore (MandoForge.adoptWorkflowStepForLoop world.clock stepId job workerId)
  | updateClaimedWorkflowStepRun step workerId, world =>
      world.onStore (MandoForge.updateClaimedWorkflowStepRun world.clock step workerId)
  | activateScheduledWorkflowStepRun stepId checkedAt, world =>
      world.onStore (MandoForge.activateScheduledWorkflowStepRun stepId checkedAt)

def WorkflowStore : StoreInterface World where
  Operation := WorkflowOperation
  Answer := WorkflowOperation.Answer
  perform := WorkflowOperation.perform

/-- A program of the workflow engine. -/
abbrev WorkflowProgram := Program WorkflowStore AppError

/-! ### The calls of a program -/

namespace AppState

variable (world : World)

def newUuid : WorkflowProgram Uuid :=
  Program.perform (I := WorkflowStore) .newUuid

def readClock : WorkflowProgram Timestamp :=
  Program.perform (I := WorkflowStore) .readClock

def listWorkflowStepRuns (workflowRunId : Uuid) : WorkflowProgram (List WorkflowStepRun) :=
  Program.perform (I := WorkflowStore) (.listWorkflowStepRuns workflowRunId)

def getWorkflowRun (workflowRunId : Uuid) : WorkflowProgram WorkflowRun :=
  Program.attempt (I := WorkflowStore) (.getWorkflowRun workflowRunId) id

def getTaskGrant (grantId : Uuid) : WorkflowProgram TaskGrant :=
  Program.attempt (I := WorkflowStore) (.getTaskGrant grantId) id

def getSession (sessionId : Uuid) : WorkflowProgram Session :=
  Program.attempt (I := WorkflowStore) (.getSession sessionId) id

def getAgent (agentId : Uuid) : WorkflowProgram Agent :=
  Program.attempt (I := WorkflowStore) (.getAgent agentId) id

def getEnvironment (environmentId : Uuid) : WorkflowProgram Unit :=
  Program.attempt (I := WorkflowStore) (.getEnvironment environmentId) id

def listAgentVersions (agentId : Uuid) : WorkflowProgram (List AgentVersion) :=
  Program.perform (I := WorkflowStore) (.listAgentVersions agentId)

/-- The write of `persist_session`. -/
def createSession (session : Session) : WorkflowProgram Session :=
  Program.perform (I := WorkflowStore) (.createSession session)

def setSessionStatus (sessionId : Uuid) (status : SessionStatus) : WorkflowProgram Unit :=
  Program.perform (I := WorkflowStore) (.setSessionStatus sessionId status)

def createWorkflowStepRun (step : WorkflowStepRun) : WorkflowProgram WorkflowStepRun :=
  Program.attempt (I := WorkflowStore) (.createWorkflowStepRun step) id

/-- The call with its result as a value, for a caller that handles the error. -/
def createWorkflowStepRunWithTaskGrant (step : WorkflowStepRun) (grant : TaskGrant) :
    WorkflowProgram (Except AppError (WorkflowStepRun × TaskGrant)) :=
  Program.perform (I := WorkflowStore) (.createWorkflowStepRunWithTaskGrant step grant)

def updateWorkflowRunStatus (workflowRunId : Uuid) (status : WorkflowStatus) :
    WorkflowProgram WorkflowRun :=
  Program.attempt (I := WorkflowStore) (.updateWorkflowRunStatus workflowRunId status) id

def listTaskGrantsForWorkflowRun (workflowRunId : Uuid) : WorkflowProgram (List TaskGrant) :=
  Program.perform (I := WorkflowStore) (.listTaskGrantsForWorkflowRun workflowRunId)

def updateTaskGrantStatus (grantId : Uuid) (status : TaskGrantStatus) :
    WorkflowProgram TaskGrant :=
  Program.attempt (I := WorkflowStore) (.updateTaskGrantStatus grantId status) id

def adoptWorkflowStepForLoop (stepId : Uuid) (job : SessionLoopJob) (workerId : String) :
    WorkflowProgram WorkflowStepRun :=
  Program.attempt (I := WorkflowStore) (.adoptWorkflowStepForLoop stepId job workerId) id

def updateClaimedWorkflowStepRun (step : WorkflowStepRun) (workerId : String) :
    WorkflowProgram WorkflowStepRun :=
  Program.attempt (I := WorkflowStore) (.updateClaimedWorkflowStepRun step workerId) id

def activateScheduledWorkflowStepRun (stepId : Uuid) (checkedAt : Timestamp) :
    WorkflowProgram (Option WorkflowStepRun) :=
  Program.attempt (I := WorkflowStore) (.activateScheduledWorkflowStepRun stepId checkedAt) id

@[simp] theorem run_newUuid : newUuid.run world =
    (.ok world.freshUuid, { world with issuedUuid := world.freshUuid }) := rfl

@[simp] theorem run_readClock : readClock.run world = (.ok world.clock, world) := rfl

@[simp] theorem run_listWorkflowStepRuns (workflowRunId : Uuid) :
    (listWorkflowStepRuns workflowRunId).run world =
      (.ok (world.stepRunsOf workflowRunId), world) := rfl

@[simp] theorem run_getWorkflowRun (workflowRunId : Uuid) :
    (getWorkflowRun workflowRunId).run world =
      (okOr (world.store.workflowRuns.find? workflowRunId)
        (.notFound "workflow run not found"), world) :=
  Program.run_attempt ..

@[simp] theorem run_getTaskGrant (grantId : Uuid) :
    (getTaskGrant grantId).run world =
      (okOr (world.store.taskGrants.find? grantId) (.notFound "task grant not found"), world) :=
  Program.run_attempt ..

@[simp] theorem run_getSession (sessionId : Uuid) :
    (getSession sessionId).run world =
      (okOr (world.store.sessions.find? sessionId) (.notFound "session not found"), world) :=
  Program.run_attempt ..

@[simp] theorem run_getAgent (agentId : Uuid) :
    (getAgent agentId).run world =
      (okOr (world.store.agents.find? agentId) (.notFound "agent not found"), world) :=
  Program.run_attempt ..

@[simp] theorem run_getEnvironment (environmentId : Uuid) :
    (getEnvironment environmentId).run world =
      (if environmentId ∈ world.store.environmentIds then .ok ()
        else .error (.notFound "environment not found"), world) :=
  Program.run_attempt ..

@[simp] theorem run_createWorkflowStepRun (step : WorkflowStepRun) :
    (createWorkflowStepRun step).run world =
      world.onStore (MandoForge.createWorkflowStepRun step) :=
  Program.run_attempt ..

@[simp] theorem run_createWorkflowStepRunWithTaskGrant (step : WorkflowStepRun)
    (grant : TaskGrant) : (createWorkflowStepRunWithTaskGrant step grant).run world =
      ((.ok (world.onStore
          (MandoForge.createWorkflowStepRunWithTaskGrant world.clock step grant)).1),
        (world.onStore
          (MandoForge.createWorkflowStepRunWithTaskGrant world.clock step grant)).2) := rfl

@[simp] theorem run_updateWorkflowRunStatus (workflowRunId : Uuid) (status : WorkflowStatus) :
    (updateWorkflowRunStatus workflowRunId status).run world =
      world.onStore (MandoForge.updateWorkflowRunStatus workflowRunId status) :=
  Program.run_attempt ..

@[simp] theorem run_listTaskGrantsForWorkflowRun (workflowRunId : Uuid) :
    (listTaskGrantsForWorkflowRun workflowRunId).run world =
      (.ok (world.taskGrantsOf workflowRunId), world) := rfl

@[simp] theorem run_updateTaskGrantStatus (grantId : Uuid) (status : TaskGrantStatus) :
    (updateTaskGrantStatus grantId status).run world =
      world.onStore (MandoForge.updateTaskGrantStatus grantId status) :=
  Program.run_attempt ..

@[simp] theorem run_adoptWorkflowStepForLoop (stepId : Uuid) (job : SessionLoopJob)
    (workerId : String) : (adoptWorkflowStepForLoop stepId job workerId).run world =
      world.onStore (MandoForge.adoptWorkflowStepForLoop world.clock stepId job workerId) :=
  Program.run_attempt ..

@[simp] theorem run_updateClaimedWorkflowStepRun (step : WorkflowStepRun) (workerId : String) :
    (updateClaimedWorkflowStepRun step workerId).run world =
      world.onStore (MandoForge.updateClaimedWorkflowStepRun world.clock step workerId) :=
  Program.run_attempt ..

@[simp] theorem run_activateScheduledWorkflowStepRun (stepId : Uuid) (checkedAt : Timestamp) :
    (activateScheduledWorkflowStepRun stepId checkedAt).run world =
      world.onStore (MandoForge.activateScheduledWorkflowStepRun stepId checkedAt) :=
  Program.run_attempt ..

end AppState

/-- The loop of `close_active_task_grants_for_workflow_run`. -/
def closeTaskGrants (nextStatus : TaskGrantStatus) : List TaskGrant → WorkflowProgram Unit
  | [] => pure ()
  | grant :: rest => do
      if grant.status = .active then
        let _ ← AppState.updateTaskGrantStatus grant.id nextStatus
      closeTaskGrants nextStatus rest

/-- `close_active_task_grants_for_workflow_run`: the grants are listed once and
closed one by one. -/
def closeActiveTaskGrantsForWorkflowRun (workflowRunId : Uuid)
    (nextStatus : TaskGrantStatus) : WorkflowProgram Unit := do
  let grants ← AppState.listTaskGrantsForWorkflowRun workflowRunId
  closeTaskGrants nextStatus grants

/-! ### Programs that leave step runs and runs alone -/

def LeavesSteps {Value : Type} (program : WorkflowProgram Value) : Prop :=
  program.Moves World.Unchanged

namespace LeavesSteps

variable {Value Next : Type}

theorem pure (value : Value) : LeavesSteps (Pure.pure value) :=
  Program.Moves.pure World.Unchanged.refl value

theorem ofExcept (outcome : Except AppError Value) : LeavesSteps (Program.ofExcept outcome) :=
  Program.Moves.ofExcept World.Unchanged.refl outcome

theorem bind {first : WorkflowProgram Value} {next : Value → WorkflowProgram Next}
    (leaves : LeavesSteps first) (rest : ∀ value, LeavesSteps (next value)) :
    LeavesSteps (first >>= next) :=
  Program.Moves.bind World.Unchanged.trans leaves rest

theorem newUuid : LeavesSteps AppState.newUuid :=
  fun _ => ⟨rfl, rfl, fun _ member _ => member⟩

theorem readClock : LeavesSteps AppState.readClock := World.Unchanged.refl

theorem listAgentVersions (agentId : Uuid) :
    LeavesSteps (AppState.listAgentVersions agentId) := World.Unchanged.refl

theorem listWorkflowStepRuns (workflowRunId : Uuid) :
    LeavesSteps (AppState.listWorkflowStepRuns workflowRunId) := World.Unchanged.refl

theorem getTaskGrant (grantId : Uuid) : LeavesSteps (AppState.getTaskGrant grantId) := by
  intro world
  rw [AppState.run_getTaskGrant]
  exact World.Unchanged.refl world

theorem getSession (sessionId : Uuid) : LeavesSteps (AppState.getSession sessionId) := by
  intro world
  rw [AppState.run_getSession]
  exact World.Unchanged.refl world

theorem getWorkflowRun (workflowRunId : Uuid) :
    LeavesSteps (AppState.getWorkflowRun workflowRunId) := by
  intro world
  rw [AppState.run_getWorkflowRun]
  exact World.Unchanged.refl world

theorem getAgent (agentId : Uuid) : LeavesSteps (AppState.getAgent agentId) := by
  intro world
  rw [AppState.run_getAgent]
  exact World.Unchanged.refl world

theorem getEnvironment (environmentId : Uuid) :
    LeavesSteps (AppState.getEnvironment environmentId) := by
  intro world
  rw [AppState.run_getEnvironment]
  exact World.Unchanged.refl world

theorem createSession (session : Session) : LeavesSteps (AppState.createSession session) :=
  fun _ => ⟨rfl, rfl, fun _ member _ => member⟩

theorem setSessionStatus (sessionId : Uuid) (status : SessionStatus) :
    LeavesSteps (AppState.setSessionStatus sessionId status) :=
  fun _ => ⟨rfl, rfl, fun _ member _ => member⟩

end LeavesSteps

/-! ### Programs that leave step runs alone -/

/-- The step runs and the runs. -/
def World.records (world : World) : Table WorkflowStepRun.id × Table WorkflowRun.id :=
  (world.store.workflowStepRuns, world.store.workflowRuns)

abbrev KeepsStepRuns {Value : Type} (program : WorkflowProgram Value) : Prop :=
  program.Keeps fun world : World => world.store.workflowStepRuns

theorem LeavesSteps.keepsRecords {Value : Type} {program : WorkflowProgram Value}
    (leaves : LeavesSteps program) : program.Keeps World.records :=
  fun world => congrArg₂ Prod.mk (leaves world).stepRuns (leaves world).runs

theorem LeavesSteps.keepsStepRuns {Value : Type} {program : WorkflowProgram Value}
    (leaves : LeavesSteps program) : KeepsStepRuns program :=
  leaves.keepsRecords.part Prod.fst

theorem stepRunsOf_of_keeps {Value : Type} {program : WorkflowProgram Value}
    (keeps : KeepsStepRuns program) (world : World) (workflowRunId : Uuid) :
    (program.run world).2.stepRunsOf workflowRunId = world.stepRunsOf workflowRunId := by
  have kept : (program.run world).2.store.workflowStepRuns = world.store.workflowStepRuns :=
    keeps world
  rw [World.stepRunsOf, kept, World.stepRunsOf]

theorem updateWorkflowRunStatus_keepsStepRuns (workflowRunId : Uuid) (status : WorkflowStatus) :
    KeepsStepRuns (AppState.updateWorkflowRunStatus workflowRunId status) := by
  intro world
  rw [AppState.run_updateWorkflowRunStatus]
  unfold World.onStore updateWorkflowRunStatus
  dsimp only
  split <;> rfl

theorem updateTaskGrantStatus_keepsRecords (grantId : Uuid) (status : TaskGrantStatus) :
    (AppState.updateTaskGrantStatus grantId status).Keeps World.records := by
  intro world
  rw [AppState.run_updateTaskGrantStatus]
  unfold World.onStore updateTaskGrantStatus
  dsimp only
  split
  · rfl
  · split
    · rfl
    · split
      · rfl
      · split <;> rfl

theorem closeTaskGrants_keepsRecords (nextStatus : TaskGrantStatus) (grants : List TaskGrant) :
    (closeTaskGrants nextStatus grants).Keeps World.records := by
  induction grants with
  | nil => exact .pure ()
  | cons grant rest inductionHypothesis =>
      unfold closeTaskGrants
      split
      · exact .bind (updateTaskGrantStatus_keepsRecords _ _) fun _ => inductionHypothesis
      · exact inductionHypothesis

theorem closeActiveTaskGrantsForWorkflowRun_keepsRecords (workflowRunId : Uuid)
    (nextStatus : TaskGrantStatus) :
    (closeActiveTaskGrantsForWorkflowRun workflowRunId nextStatus).Keeps World.records :=
  .bind (fun _ => rfl) fun grants => closeTaskGrants_keepsRecords nextStatus grants

/-! ### What the creating operations leave -/

/-- A program that creates a step run either adds one as described or leaves
step runs and runs alone. -/
def AddsStep (before : World) (described : WorkflowStepRun → Prop) :
    Except AppError WorkflowStepRun → World → Prop
  | .ok step, after => described step ∧ before.StepAdded after step
  | .error _, after => before.Unchanged after

theorem AddsStep.of_unchanged {first second : World} {described : WorkflowStepRun → Prop}
    (unchanged : first.Unchanged second) {outcome : Except AppError WorkflowStepRun}
    {after : World} (adds : AddsStep second described outcome after) :
    AddsStep first described outcome after := by
  cases outcome with
  | ok step => exact ⟨adds.1, unchanged.stepAdded adds.2⟩
  | error error => exact unchanged.trans adds

theorem AddsStep.bind {Value : Type} {world : World} {first : WorkflowProgram Value}
    {next : Value → WorkflowProgram WorkflowStepRun} {described : WorkflowStepRun → Prop}
    (leaves : LeavesSteps first)
    (rest : ∀ value after, (next value).Ensures after (AddsStep after described)) :
    (first >>= next).Ensures world (AddsStep world described) := by
  have unchanged := leaves world
  unfold Program.Ensures
  rw [Program.run_bind]
  generalize first.run world = ran at unchanged ⊢
  obtain ⟨outcome, after⟩ := ran
  cases outcome with
  | error error => exact unchanged
  | ok value => exact AddsStep.of_unchanged unchanged (rest value after)

theorem AddsStep.ofExcept_bind {Value : Type} {world : World} {first : Except AppError Value}
    {next : Value → WorkflowProgram WorkflowStepRun} {described : WorkflowStepRun → Prop}
    (rest : ∀ value, first = .ok value → (next value).Ensures world (AddsStep world described)) :
    (Program.ofExcept first >>= next).Ensures world (AddsStep world described) := by
  cases first with
  | error error => exact World.Unchanged.refl world
  | ok value => exact rest value rfl

theorem createWorkflowStepRun_adds {step : WorkflowStepRun} {world : World}
    (fresh : world.store.workflowStepRuns.find? step.id = none) :
    (AppState.createWorkflowStepRun step).Ensures world
      (AddsStep world fun created => created = step) := by
  unfold Program.Ensures
  rw [AppState.run_createWorkflowStepRun]
  unfold World.onStore createWorkflowStepRun
  dsimp only
  split
  · exact World.Unchanged.refl world
  · rename_i run found
    split
    · exact World.Unchanged.refl world
    · rename_i accepts
      rw [Bool.not_eq_true'] at accepts
      refine ⟨rfl, Table.rows_insert_of_fresh fresh, rfl, ?_, fun _ member _ => .inl member⟩
      simpa [World.runStatus, found] using accepts

theorem expireActiveGrant_active {grantId : Uuid} {store : MemoryStore} {grant : TaskGrant}
    (member : grant ∈ (expireActiveGrant grantId store).taskGrants)
    (active : grant.status = .active) : grant ∈ store.taskGrants := by
  change grant ∈ store.taskGrants.modify grantId TaskGrant.expireIfActive
    TaskGrant.expireIfActive_id at member
  rw [Table.mem_modify] at member
  obtain ⟨old, oldMember, rfl⟩ := member
  split at active
  · unfold TaskGrant.expireIfActive at active
    split at active
    · cases active
    · contradiction
  · rename_i other
    rw [if_neg other]
    exact oldMember

/-- A grant that is checked against its parent changes no step run and no run,
and makes no grant active. -/
theorem admitUnderParent_unchanged (now : Timestamp) (grant : TaskGrant) (world : World) :
    world.Unchanged { world with store := (admitUnderParent now grant world.store).2 } := by
  unfold admitUnderParent
  split
  · exact World.Unchanged.refl world
  · split
    · exact World.Unchanged.refl world
    · split
      · rename_i denial _
        unfold refuseGrant
        dsimp only
        split
        · exact ⟨rfl, rfl, fun _ member active => expireActiveGrant_active member active⟩
        · exact World.Unchanged.refl world
      · exact World.Unchanged.refl world

theorem createWorkflowStepRunWithTaskGrant_adds (step : WorkflowStepRun) (grant : TaskGrant)
    (world : World) :
    AddsStep world (fun created => created = { step with taskGrantId := some grant.id })
      ((world.onStore
        (createWorkflowStepRunWithTaskGrant world.clock step grant)).1.map Prod.fst)
      (world.onStore
        (createWorkflowStepRunWithTaskGrant world.clock step grant)).2 := by
  unfold World.onStore createWorkflowStepRunWithTaskGrant
  dsimp only
  split
  · exact World.Unchanged.refl world
  · rename_i checked
    obtain ⟨⟨⟩, grantChecked, storeChecked⟩ := bind_eq_ok.mp checked
    have admitted := admitUnderParent_unchanged world.clock grant world
    split
    · rename_i refused
      rw [refused] at admitted
      exact admitted
    · rename_i store accepted
      rw [accepted] at admitted
      obtain ⟨⟨run, found, accepts⟩, freshStep, freshGrant⟩ :=
        stepGrantStoreChecks_ok storeChecked
      have sameRun := (stepGrantChecks_ok grantChecked).2
      have stepRuns : store.workflowStepRuns = world.store.workflowStepRuns :=
        admitted.stepRuns
      refine ⟨rfl, ?_, admitted.runs, ?_, ?_⟩
      · rw [← stepRuns] at freshStep ⊢
        exact Table.rows_insert_of_fresh freshStep
      · simpa [World.runStatus, found] using accepts
      · intro created member active
        rcases Table.mem_insert member with old | rfl
        · exact .inl (admitted.activeGrants created old active)
        · exact .inr sameRun

end MandoForge
