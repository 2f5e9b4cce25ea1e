/-
Module: MandoForge.TaskGrant.Store
Purpose: The operations of the in-memory store that issue, charge and close task
  grants.
Trusted boundary: an operation is one critical section of the store's lock; the
  instant it reads from the clock is a parameter.  Updates of `updated_at` are
  left out: nothing reads them.  The records written beside a tool call are in
  `MandoForge.Store.ToolCalls`.
Main exports: createTaskGrant, reserveTaskGrantUsage
-/
import MandoForge.Foundation.Outcome
import MandoForge.Store.Memory
import MandoForge.TaskGrant.Scope

namespace MandoForge

open Foundation

/-! ### Reservations -/

inductive TaskGrantReservation where
  | turn
  | toolCall
deriving DecidableEq, Repr

namespace TaskGrantReservation

/-- The counter a reservation charges. -/
def used : TaskGrantReservation → TaskGrant → Int
  | .turn, grant => grant.turnsUsed
  | .toolCall, grant => grant.toolCallsUsed

def limit : TaskGrantReservation → TaskGrant → Option Int
  | .turn, grant => grant.maxTurns
  | .toolCall, grant => grant.maxToolCalls

def setUsed : TaskGrantReservation → Int → TaskGrant → TaskGrant
  | .turn, value, grant => { grant with turnsUsed := value }
  | .toolCall, value, grant => { grant with toolCallsUsed := value }

def exhausted : TaskGrantReservation → String
  | .turn => "task grant turn budget exhausted"
  | .toolCall => "task grant tool call budget exhausted"

def overflow : TaskGrantReservation → String
  | .turn => "task grant turn counter overflow"
  | .toolCall => "task grant tool call counter overflow"

@[simp] theorem setUsed_id (reservation : TaskGrantReservation) (value : Int)
    (grant : TaskGrant) : (reservation.setUsed value grant).id = grant.id := by
  cases reservation <;> rfl

end TaskGrantReservation

/-- `task_grant_runtime_denial`: the message, and whether the grant expires. -/
def taskGrantRuntimeDenial (grant : TaskGrant) (now : Timestamp) : Option (String × Bool) :=
  if grant.status ≠ .active then some ("task grant is not active", false)
  else if grant.expiresAt.any (· ≤ now) then some ("task grant is expired", true)
  else if grant.maxRuntimeSeconds.any (· ≤ secondsSince now grant.createdAt) then
    some ("task grant runtime budget expired", true)
  else if grant.maxCostUsdMicros.any (· ≤ grant.costUsdMicrosUsed) then
    some ("task grant cost budget exhausted", false)
  else none

def taskGrantReservationDenial (grant : TaskGrant) (reservation : TaskGrantReservation)
    (now : Timestamp) : Option (String × Bool) :=
  match taskGrantRuntimeDenial grant now with
  | some denial => some denial
  | none =>
      if (reservation.limit grant).any (· ≤ reservation.used grant) then
        some (reservation.exhausted, false)
      else none

/-- An active grant becomes expired. -/
def TaskGrant.expireIfActive (grant : TaskGrant) : TaskGrant :=
  if grant.status = .active then { grant with status := .expired } else grant

@[simp] theorem TaskGrant.expireIfActive_id (grant : TaskGrant) :
    grant.expireIfActive.id = grant.id := by
  unfold TaskGrant.expireIfActive
  split <;> rfl

def expireActiveGrant (grantId : Uuid) (store : MemoryStore) : MemoryStore :=
  { store with
    taskGrants := store.taskGrants.modify grantId TaskGrant.expireIfActive
      TaskGrant.expireIfActive_id }

/-- The answer to a denied grant, which is marked expired when the denial says
so. -/
def refuseGrant {Result : Type} (grantId : Uuid) (denial : String × Bool)
    (store : MemoryStore) : Except AppError Result × MemoryStore :=
  (.error (.forbidden denial.1),
    if denial.2 then expireActiveGrant grantId store else store)

/-! ### Issuing grants -/

/-- The checks of both creation operations on the parent of a new grant. -/
def admitUnderParent (now : Timestamp) (grant : TaskGrant) (store : MemoryStore) :
    Except AppError Unit × MemoryStore :=
  match grant.parentGrantId with
  | none => (.ok (), store)
  | some parentGrantId =>
      match store.taskGrants.find? parentGrantId with
      | none => (.error (.notFound "task grant parent not found"), store)
      | some parent =>
          match taskGrantRuntimeDenial parent now with
          | some denial => refuseGrant parentGrantId denial store
          | none => (ensureChildTaskGrantWithinParent parent grant, store)

/-- The checks of `create_task_grant` before it reads the store. -/
def newTaskGrantChecks (grant : TaskGrant) : Except AppError Unit := do
  validateTaskGrantScopeObjects grant
  validateTaskGrantBudgets grant
  if grant.status ≠ .active then
    throw (.badRequest "new task grant must be active")
  if grant.turnsUsed ≠ 0 ∨ grant.toolCallsUsed ≠ 0 ∨ grant.costUsdMicrosUsed ≠ 0 then
    throw (.badRequest "new task grant usage counters must be zero")

/-- Whether the workflow run lets a grant be issued: a child under a run that
executes, the only root before the run has one. -/
def taskGrantRunCheck (run : WorkflowRun) (grant : TaskGrant) (store : MemoryStore) :
    Except AppError Unit :=
  if grant.parentGrantId.isSome then
    if !workflowRunStatusAllowsExecution run.status then
      throw (.forbidden "workflow run is not executable")
    else pure ()
  else if (run.status ≠ .initializing ∧ !workflowRunStatusAllowsExecution run.status) ∨
      run.rootTaskGrantId.isSome then
    throw (.forbidden "workflow run does not allow root task grant issuance")
  else if store.taskGrants.rows.any fun candidate =>
      candidate.workflowRunId = grant.workflowRunId ∧ candidate.parentGrantId = none then
    throw (.badRequest "workflow run already has a root task grant")
  else pure ()

/-- The checks of `create_task_grant` on the workflow run, the other root grants
and the grant's id. -/
def taskGrantIssuanceChecks (grant : TaskGrant) (store : MemoryStore) :
    Except AppError Unit := do
  let run ← okOr (store.workflowRuns.find? grant.workflowRunId)
    (.notFound "workflow run not found")
  taskGrantRunCheck run grant store
  if (store.taskGrants.find? grant.id).isSome then
    throw (.badRequest "task grant already exists")

def createTaskGrant (now : Timestamp) (grant : TaskGrant) (store : MemoryStore) :
    Except AppError TaskGrant × MemoryStore :=
  match newTaskGrantChecks grant >>= fun _ => taskGrantIssuanceChecks grant store with
  | .error error => (.error error, store)
  | .ok () =>
      match admitUnderParent now grant store with
      | (.error error, store) => (.error error, store)
      | (.ok (), store) =>
          (.ok grant, { store with taskGrants := store.taskGrants.insert grant })

/-- The checks of `create_workflow_step_run_with_task_grant` before it reads the
store. -/
def stepGrantChecks (step : WorkflowStepRun) (grant : TaskGrant) : Except AppError Unit := do
  validateTaskGrantScopeObjects grant
  validateTaskGrantBudgets grant
  if grant.status ≠ .active then
    throw (.badRequest "workflow step task grant must be active")
  if grant.workflowRunId ≠ step.workflowRunId ∨ grant.workflowStepRunId ≠ some step.id then
    throw (.badRequest
      "workflow step and task grant must reference each other in the same workflow run")
  if step.taskGrantId.any (· ≠ grant.id) then
    throw (.badRequest "workflow step task grant id does not match task grant")
  if step.sessionId.any fun sessionId =>
      grant.sessionId ≠ some sessionId ∧ grant.granteeSessionId ≠ some sessionId then
    throw (.badRequest "workflow step and task grant must reference the same session")

/-- Its checks on the workflow run and on the ids of the step run and the
grant. -/
def stepGrantStoreChecks (step : WorkflowStepRun) (grant : TaskGrant) (store : MemoryStore) :
    Except AppError Unit := do
  let run ← okOr (store.workflowRuns.find? step.workflowRunId)
    (.notFound "workflow run not found")
  if !workflowRunStatusAllowsStepCreation run.status then
    throw (.forbidden "workflow run is not executable")
  if (store.workflowStepRuns.find? step.id).isSome then
    throw (.badRequest "workflow step run already exists")
  if (store.taskGrants.find? grant.id).isSome then
    throw (.badRequest "task grant already exists")

theorem stepGrantChecks_ok {step : WorkflowStepRun} {grant : TaskGrant}
    (checked : stepGrantChecks step grant = .ok ()) :
    validateTaskGrantBudgets grant = .ok () ∧ grant.workflowRunId = step.workflowRunId := by
  obtain ⟨_, -, checked⟩ := bind_eq_ok.mp checked
  obtain ⟨⟨⟩, valid, checked⟩ := bind_eq_ok.mp checked
  obtain ⟨-, checked⟩ := guardThen_eq_ok.mp checked
  obtain ⟨referenced, -⟩ := guardThen_eq_ok.mp checked
  simp only [not_or, not_not] at referenced
  exact ⟨valid, referenced.1⟩

theorem stepGrantStoreChecks_ok {step : WorkflowStepRun} {grant : TaskGrant}
    {store : MemoryStore} (checked : stepGrantStoreChecks step grant store = .ok ()) :
    (∃ run, store.workflowRuns.find? step.workflowRunId = some run ∧
        workflowRunStatusAllowsStepCreation run.status = true) ∧
      store.workflowStepRuns.find? step.id = none ∧
      store.taskGrants.find? grant.id = none := by
  obtain ⟨run, found, checked⟩ := bind_eq_ok.mp checked
  obtain ⟨accepts, checked⟩ := guardThen_eq_ok.mp checked
  obtain ⟨freshStep, checked⟩ := guardThen_eq_ok.mp checked
  have freshGrant := guard_eq_ok.mp checked
  exact ⟨⟨run, okOr_eq_ok.mp found, by simpa using accepts⟩, by simpa using freshStep,
    by simpa using freshGrant⟩

def createWorkflowStepRunWithTaskGrant (now : Timestamp) (step : WorkflowStepRun)
    (grant : TaskGrant) (store : MemoryStore) :
    Except AppError (WorkflowStepRun × TaskGrant) × MemoryStore :=
  match stepGrantChecks step grant >>= fun _ => stepGrantStoreChecks step grant store with
  | .error error => (.error error, store)
  | .ok () =>
      match admitUnderParent now grant store with
      | (.error error, store) => (.error error, store)
      | (.ok (), store) =>
          let step := { step with taskGrantId := some grant.id }
          (.ok (step, grant), { store with
            taskGrants := store.taskGrants.insert grant
            workflowStepRuns := store.workflowStepRuns.insert step })

/-! ### Charging a lineage -/

/-- The loop over a grant and its ancestors.  Every step of the loop sees a new
id, so with more fuel than there are grants it ends before the fuel does. -/
def lineageLoop (grants : Table TaskGrant.id) :
    (fuel : Nat) → (seen : List Uuid) → (current : Option Uuid) →
      Except AppError (List TaskGrant)
  | _, _, none => .ok []
  | 0, _, some _ => .error (.badRequest "task grant parent cycle detected")
  | fuel + 1, seen, some id =>
      if id ∈ seen then .error (.badRequest "task grant parent cycle detected")
      else
        match grants.find? id with
        | none => .error (.notFound "task grant not found")
        | some grant =>
            (lineageLoop grants fuel (id :: seen) grant.parentGrantId).map (grant :: ·)

/-- The lineage of a grant, itself first and the root last. -/
def taskGrantLineage (grants : Table TaskGrant.id) (grantId : Uuid) :
    Except AppError (List TaskGrant) :=
  lineageLoop grants (grants.rows.length + 1) [] (some grantId)

/-- The checks on a lineage, from the grant up to the root; the first denial
ends them. -/
def admitLineage (reservation : TaskGrantReservation) (now : Timestamp)
    (check : TaskGrant → Except AppError Unit) (store : MemoryStore) :
    List TaskGrant → Except AppError Unit × MemoryStore
  | [] => (.ok (), store)
  | grant :: rest =>
      match taskGrantReservationDenial grant reservation now with
      | some denial => refuseGrant grant.id denial store
      | none =>
          match check grant with
          | .error error => (.error error, store)
          | .ok () => admitLineage reservation now check store rest

def setGrantUsed (reservation : TaskGrantReservation) (grantId : Uuid) (value : Int)
    (store : MemoryStore) : MemoryStore :=
  { store with
    taskGrants := store.taskGrants.modify grantId (reservation.setUsed value)
      (by intro grant; simp) }

/-- The charging loop of `reserve_task_grant_usage`.  An overflow ends it with
the grants before already charged. -/
def chargeLineage (reservation : TaskGrantReservation) :
    List TaskGrant → MemoryStore → Except AppError Unit × MemoryStore
  | [], store => (.ok (), store)
  | grant :: rest, store =>
      match store.taskGrants.find? grant.id with
      | none => (.error (.notFound "task grant not found"), store)
      | some stored =>
          match checkedAdd 31 (reservation.used stored) 1 with
          | none => (.error (.badRequest reservation.overflow), store)
          | some value =>
              chargeLineage reservation rest (setGrantUsed reservation grant.id value store)

def reserveTaskGrantUsage (now : Timestamp) (grantId : Uuid)
    (reservation : TaskGrantReservation) (store : MemoryStore) :
    Except AppError TaskGrant × MemoryStore :=
  match taskGrantLineage store.taskGrants grantId with
  | .error error => (.error error, store)
  | .ok lineage =>
      match admitLineage reservation now (fun _ => .ok ()) store lineage with
      | (.error error, store) => (.error error, store)
      | (.ok (), store) =>
          match chargeLineage reservation lineage store with
          | (.error error, store) => (.error error, store)
          | (.ok (), store) =>
              match store.taskGrants.find? grantId with
              | none => (.error (.notFound "task grant not found"), store)
              | some grant => (.ok grant, store)

def reserveTaskGrantTurn (now : Timestamp) (grantId : Uuid) (store : MemoryStore) :
    Except AppError TaskGrant × MemoryStore :=
  reserveTaskGrantUsage now grantId .turn store

def reserveTaskGrantToolCall (now : Timestamp) (grantId : Uuid) (store : MemoryStore) :
    Except AppError TaskGrant × MemoryStore :=
  reserveTaskGrantUsage now grantId .toolCall store

/-! ### Tool calls -/

def validateMemoryTaskGrantWorkflow (store : MemoryStore) (grant : TaskGrant) :
    Except AppError Unit := do
  let run ← okOr (store.workflowRuns.find? grant.workflowRunId)
    (.notFound "workflow run not found")
  if let some message := workflowRunExecutionDenial run.status then
    throw (.forbidden message)
  if let some stepId := grant.workflowStepRunId then
    let step ← okOr (store.workflowStepRuns.find? stepId)
      (.notFound "workflow step run not found")
    if step.workflowRunId ≠ grant.workflowRunId then
      throw (.badRequest "task grant workflow step does not belong to its workflow run")
    if workflowStepStatusTerminal step.status then
      throw (.forbidden "workflow step run is terminal")

/-- The checks of `commit_tool_invocation_start` on one grant of the lineage,
the counter included. -/
def toolCallGrantCheck (store : MemoryStore) (grant : TaskGrant) : Except AppError Unit := do
  validateMemoryTaskGrantWorkflow store grant
  if (checkedAdd 31 grant.toolCallsUsed 1).isNone then
    throw (.badRequest TaskGrantReservation.toolCall.overflow)

def TaskGrant.addToolCall (grant : TaskGrant) : TaskGrant :=
  { grant with toolCallsUsed := grant.toolCallsUsed + 1 }

/-- The charging loop of `commit_tool_invocation_start`: no counter of the
lineage overflows any more. -/
def chargeToolCalls (lineage : List TaskGrant) (store : MemoryStore) : MemoryStore :=
  lineage.foldl (fun store grant =>
    { store with taskGrants := store.taskGrants.modify grant.id TaskGrant.addToolCall }) store

/-- `commit_tool_invocation_start`: the reservation of the call's grant, if it
has one.  A call without an event id is refused after it was charged. -/
def commitToolInvocationStart (now : Timestamp) (toolCall : ToolCall) (store : MemoryStore) :
    Except AppError (ToolCall × Option TaskGrant) × MemoryStore :=
  match store.sessions.find? toolCall.sessionId with
  | none => (.error (.notFound "session not found"), store)
  | some session =>
      if session.status = .terminated ∨ session.status = .failed then
        (.error (.badRequest "terminal session cannot accept new tool calls"), store)
      else
        match toolCall.taskGrantId with
        | none =>
            match toolCall.eventId with
            | none => (.error (.badRequest "tool call requires a call event id"), store)
            | some _ => (.ok (toolCall, none), store)
        | some grantId =>
            match taskGrantLineage store.taskGrants grantId with
            | .error error => (.error error, store)
            | .ok lineage =>
                match admitLineage .toolCall now (toolCallGrantCheck store) store lineage with
                | (.error error, store) => (.error error, store)
                | (.ok (), store) =>
                    let store := chargeToolCalls lineage store
                    match toolCall.eventId with
                    | none =>
                        (.error (.badRequest "tool call requires a call event id"), store)
                    | some _ => (.ok (toolCall, store.taskGrants.find? grantId), store)

/-! ### Closing grants -/

def updateTaskGrantStatus (grantId : Uuid) (nextStatus : TaskGrantStatus)
    (store : MemoryStore) : Except AppError TaskGrant × MemoryStore :=
  if nextStatus = .active then
    (.error (.badRequest "unsupported task grant terminal status"), store)
  else
    match store.taskGrants.find? grantId with
    | none => (.error (.notFound "task grant not found"), store)
    | some grant =>
        if grant.status = nextStatus then (.ok grant, store)
        else if grant.status ≠ .active then
          (.error (.badRequest "terminal task grant status cannot be changed"), store)
        else
          (.ok { grant with status := nextStatus }, { store with
            taskGrants := store.taskGrants.modify grantId fun stored =>
              { stored with status := nextStatus } })

end MandoForge
