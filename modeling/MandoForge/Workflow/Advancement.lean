/-
Module: MandoForge.Workflow.Advancement
Purpose: One call of the graph engine after a step update, as the source runs it:
  the ready loop after a success, the retry and the failure loop after a failure,
  and the finalization of the run.  A call is a control state and, for each of
  them, the program up to the next one, so that a state of the engine can be
  looked at between any two turns of a loop.
Trusted boundary: events, audit entries and transition records are left out; so
  is the cleanup of remote computers.
Main exports: Phase, updateWorkflowRunStatusAndRecord
-/
import MandoForge.Workflow.Materialize

namespace MandoForge

open Foundation

/-! ### The status of the run -/

def finishCompletedWorkflowSession (run : WorkflowRun) : WorkflowProgram Unit :=
  if run.status ≠ .completed then pure ()
  else do
    let session ← AppState.getSession run.primarySessionId
    if session.status = .terminated ∨ session.status = .failed then pure ()
    else AppState.setSessionStatus session.id .terminated

/-- `update_workflow_run_status_and_record`: nothing is written when the run that
the caller holds has the status already. -/
def updateWorkflowRunStatusAndRecord (run : WorkflowRun) (status : WorkflowStatus) :
    WorkflowProgram WorkflowRun :=
  if run.status = status then do
    finishCompletedWorkflowSession run
    return run
  else do
    let updated ← AppState.updateWorkflowRunStatus run.id status
    closeGrantsOf run.id status
    finishCompletedWorkflowSession updated
    return updated
where
  /-- A terminal run keeps no active grant. -/
  closeGrantsOf (workflowRunId : Uuid) (status : WorkflowStatus) : WorkflowProgram Unit :=
    if workflowStepStatusTerminal status then
      closeActiveTaskGrantsForWorkflowRun workflowRunId
        (if workflowStepStatusSuccessful status then .completed else .cancelled)
    else pure ()

theorem finishCompletedWorkflowSession_leavesSteps (run : WorkflowRun) :
    LeavesSteps (finishCompletedWorkflowSession run) := by
  unfold finishCompletedWorkflowSession
  split
  · exact .pure ()
  · apply LeavesSteps.bind (.getSession _)
    intro session
    split
    · exact .pure ()
    · exact .setSessionStatus _ _

theorem closeGrantsOf_keepsRecords (workflowRunId : Uuid) (status : WorkflowStatus) :
    (updateWorkflowRunStatusAndRecord.closeGrantsOf workflowRunId status).Keeps
      World.records := by
  unfold updateWorkflowRunStatusAndRecord.closeGrantsOf
  split
  · exact closeActiveTaskGrantsForWorkflowRun_keepsRecords _ _
  · exact .pure ()

theorem afterStatusWrite_keepsRecords (run updated : WorkflowRun) (status : WorkflowStatus) :
    Program.Keeps World.records (do
      updateWorkflowRunStatusAndRecord.closeGrantsOf run.id status
      finishCompletedWorkflowSession updated
      return updated : WorkflowProgram WorkflowRun) := by
  apply Program.Keeps.bind (closeGrantsOf_keepsRecords _ _)
  intro _
  exact .bind (finishCompletedWorkflowSession_leavesSteps updated).keepsRecords fun _ =>
    .pure updated

theorem updateWorkflowRunStatusAndRecord_keepsStepRuns (run : WorkflowRun)
    (status : WorkflowStatus) :
    KeepsStepRuns (updateWorkflowRunStatusAndRecord run status) := by
  unfold updateWorkflowRunStatusAndRecord
  split
  · exact .bind (finishCompletedWorkflowSession_leavesSteps run).keepsStepRuns fun _ =>
      .pure run
  · apply Program.Keeps.bind (updateWorkflowRunStatus_keepsStepRuns _ _)
    intro updated
    exact (afterStatusWrite_keepsRecords run updated status).part Prod.fst

theorem workflowRun_id_of_status (status : WorkflowStatus) :
    ∀ run : WorkflowRun, { run with status }.id = run.id := fun _ => rfl

/-- What the write of a status leaves of the runs, whatever follows it. -/
def statusWritten (runs : Table WorkflowRun.id) (run : WorkflowRun) (status : WorkflowStatus) :
    Table WorkflowRun.id :=
  if run.status = status then runs
  else runs.modify run.id (fun stored => { stored with status }) (workflowRun_id_of_status status)

theorem updateWorkflowRunStatusAndRecord_runs (run : WorkflowRun) (status : WorkflowStatus)
    (world : World) :
    ((updateWorkflowRunStatusAndRecord run status).run world).2.store.workflowRuns =
      statusWritten world.store.workflowRuns run status := by
  unfold updateWorkflowRunStatusAndRecord statusWritten
  split
  · exact (Program.Keeps.bind (finishCompletedWorkflowSession_leavesSteps run).keepsRecords
      fun _ => .pure run).part Prod.snd world
  · rw [Program.run_bind, AppState.run_updateWorkflowRunStatus]
    unfold World.onStore updateWorkflowRunStatus
    cases found : world.store.workflowRuns.find? run.id with
    | none => exact (Table.modify_of_absent found).symm
    | some stored =>
        exact (afterStatusWrite_keepsRecords run { stored with status } status).part Prod.snd _

/-! ### Finalization -/

/-- The test of `workflow_graph_run_completed` on the step runs. -/
def graphRunCompleted (graphKeys : List String) (existingSteps : List WorkflowStepRun) : Bool :=
  !graphKeys.isEmpty &&
    !(existingSteps.any fun step => decide (step.stepKey ∈ graphKeys) &&
      workflowStepRunIsHandoffApprovalBlocked step) &&
    graphKeys.all fun key => (statusByKey existingSteps key).any workflowStepStatusSuccessful

/-- The test of `workflow_graph_terminal_failure_status` on the step runs. -/
def terminalFailureStatus (steps : List WorkflowStepRun) : Option WorkflowStatus :=
  if steps.any fun step => !workflowStepStatusTerminal step.status then none
  else if steps.any fun step => decide (step.status = .failed) then some .failed
  else if steps.any fun step => decide (step.status = .canceled) then some .canceled
  else none

def graphRequiresAction (graphKeys : List String) (steps : List WorkflowStepRun) : Bool :=
  steps.any fun step =>
    decide (step.stepKey ∈ graphKeys) && decide (step.status = .requiresAction)

/-- The status that finalization gives a run with these step runs. -/
def finalVerdict (graphKeys : List String) (steps : List WorkflowStepRun) : WorkflowStatus :=
  if graphRunCompleted graphKeys steps then .completed
  else match terminalFailureStatus steps with
    | some status => status
    | none => if graphRequiresAction graphKeys steps then .requiresAction else .running

def workflowGraphRunCompleted (graphKeys : List String) (run : WorkflowRun) :
    WorkflowProgram Bool :=
  if graphKeys.isEmpty then pure false
  else do
    let existingSteps ← AppState.listWorkflowStepRuns run.id
    return graphRunCompleted graphKeys existingSteps

def finalizeWorkflowGraphAfterTransitionPolicy (context : EngineContext) (run : WorkflowRun) :
    WorkflowProgram Unit := do
  let currentRun ← AppState.getWorkflowRun run.id
  let graphKeys ← Program.ofExcept (workflowGraphStepKeys context.definition.stepGraph)
  let completed ← workflowGraphRunCompleted graphKeys currentRun
  if completed then
    let _ ← updateWorkflowRunStatusAndRecord currentRun .completed
  else
    let steps ← AppState.listWorkflowStepRuns currentRun.id
    match terminalFailureStatus steps with
    | some failureStatus =>
        let _ ← updateWorkflowRunStatusAndRecord currentRun failureStatus
    | none =>
        let steps ← AppState.listWorkflowStepRuns run.id
        let status := if graphRequiresAction graphKeys steps then WorkflowStatus.requiresAction
          else .running
        let _ ← updateWorkflowRunStatusAndRecord currentRun status

theorem workflowGraphRunCompleted_run (graphKeys : List String) (run : WorkflowRun)
    (world : World) : (workflowGraphRunCompleted graphKeys run).run world =
      (.ok (graphRunCompleted graphKeys (world.stepRunsOf run.id)), world) := by
  unfold workflowGraphRunCompleted
  split
  · rename_i noKeys
    simp [graphRunCompleted, noKeys]
  · rfl

theorem runStatus_of_recorded (status : WorkflowStatus) {run : WorkflowRun} {world : World}
    (stored : world.store.workflowRuns.find? run.id = some run) :
    ((updateWorkflowRunStatusAndRecord run status).run world).2.runStatus run.id =
      some status := by
  unfold World.runStatus
  rw [updateWorkflowRunStatusAndRecord_runs]
  unfold statusWritten
  split
  · rename_i same
    rw [stored, Option.map_some, same]
  · rw [Table.find?_modify_same, stored]
    rfl

/-- A finalization reads and then records the verdict on the step runs. -/
theorem finalize_run {context : EngineContext} {graphKeys : List String}
    (keys_read : workflowGraphStepKeys context.definition.stepGraph = .ok graphKeys)
    {run currentRun : WorkflowRun} {world : World}
    (found : world.store.workflowRuns.find? run.id = some currentRun) :
    (finalizeWorkflowGraphAfterTransitionPolicy context run).run world =
      (updateWorkflowRunStatusAndRecord currentRun
        (finalVerdict graphKeys (world.stepRunsOf run.id)) >>= fun _ =>
          (pure () : WorkflowProgram Unit)).run world := by
  have sameId : currentRun.id = run.id := (Table.find?_eq_some.mp found).2
  unfold finalizeWorkflowGraphAfterTransitionPolicy
  rw [Program.run_bind, AppState.run_getWorkflowRun, found]
  simp only [okOr, Program.run_bind, Program.run_ofExcept, keys_read,
    workflowGraphRunCompleted_run, sameId]
  split
  · rename_i completed
    rw [finalVerdict, if_pos completed, Program.run_bind]
  · rename_i notCompleted
    rw [Program.run_bind, AppState.run_listWorkflowStepRuns]
    dsimp only
    split
    · rename_i failureStatus failed
      rw [finalVerdict, if_neg notCompleted, failed, Program.run_bind]
    · rename_i unfailed
      rw [Program.run_bind, AppState.run_listWorkflowStepRuns]
      dsimp only
      rw [finalVerdict, if_neg notCompleted, unfailed, Program.run_bind]

/-- A finalization that succeeds leaves the verdict on the step runs. -/
theorem finalize_verdict {context : EngineContext} {graphKeys : List String}
    (keys_read : workflowGraphStepKeys context.definition.stepGraph = .ok graphKeys)
    (run : WorkflowRun) (world : World) :
    (finalizeWorkflowGraphAfterTransitionPolicy context run).Ensures world
      fun outcome after => outcome = .ok () → after.runStatus run.id =
        some (finalVerdict graphKeys (world.stepRunsOf run.id)) := by
  unfold Program.Ensures
  cases found : world.store.workflowRuns.find? run.id with
  | none =>
      unfold finalizeWorkflowGraphAfterTransitionPolicy
      rw [Program.run_bind, AppState.run_getWorkflowRun, found]
      exact nofun
  | some currentRun =>
      have sameId : currentRun.id = run.id := (Table.find?_eq_some.mp found).2
      rw [finalize_run keys_read found, Program.run_bind]
      rw [← sameId] at found ⊢
      have written := runStatus_of_recorded
        (finalVerdict graphKeys (world.stepRunsOf currentRun.id)) found
      generalize (updateWorkflowRunStatusAndRecord currentRun _).run world = ran at written ⊢
      obtain ⟨outcome, after⟩ := ran
      cases outcome with
      | error error => exact nofun
      | ok updated => exact fun _ => written

/-! ### Control states of a call -/

/-- What a call holds while it runs: the run and the step run as its caller passed
them, and the root grant as it was read at the start. -/
structure AdvanceCall where
  run : WorkflowRun
  step : WorkflowStepRun
  rootGrant : TaskGrant
deriving DecidableEq

/-- A pass of the ready loop: the step runs it started from, the ready steps not
looked at yet, and its counters. -/
structure ReadyPass where
  existingSteps : List WorkflowStepRun
  todo : List WorkflowGraphReadyStep
  fanOutMaxParallel : Option Nat
  activeParallelCount : Nat
  materializedAny : Bool
deriving DecidableEq

/-- A pass of the failure loop, over all graph steps. -/
structure FailurePass where
  existingSteps : List WorkflowStepRun
  todo : List Json
  materializedAny : Bool
deriving DecidableEq

inductive Phase where
  /-- `advance_workflow_graph_after_step_update` is called. -/
  | entering (run : WorkflowRun) (step : WorkflowStepRun)
  /-- At the head of the ready loop. -/
  | readying (call : AdvanceCall)
  | readyPass (call : AdvanceCall) (pass : ReadyPass)
  /-- At the head of the loop of `materialize_workflow_graph_failure_policy_steps`. -/
  | failing (call : AdvanceCall)
  | failurePass (call : AdvanceCall) (pass : FailurePass)
  /-- Before `finalize_workflow_graph_after_transition_policy`. -/
  | finalizing (run : WorkflowRun)
  /-- Returned without finalization. -/
  | returned
  /-- Returned after finalization. -/
  | finalized
deriving DecidableEq

/-! ### After a success -/

/-- The root grant of the run that the caller holds. -/
def rootGrantOf (run : WorkflowRun) : WorkflowProgram TaskGrant := do
  let rootTaskGrantId ← Program.ofExcept (okOr run.rootTaskGrantId
    (.forbidden "workflow run requires root task grant"))
  AppState.getTaskGrant rootTaskGrantId

/-- The head of the ready loop. -/
def beginReadyPass (context : EngineContext) (call : AdvanceCall) : WorkflowProgram Phase := do
  let existingSteps ← AppState.listWorkflowStepRuns call.run.id
  let readySteps ← Program.ofExcept
    (workflowGraphReadySteps context.definition.stepGraph existingSteps)
  if readySteps.isEmpty then return .finalizing call.run
  let fanOutMaxParallel ← Program.ofExcept
    (workflowGraphFanOutMaxParallel context.definition.stepGraph)
  return .readyPass call {
    existingSteps, todo := readySteps, fanOutMaxParallel
    activeParallelCount := workflowGraphActiveParallelCount existingSteps
    materializedAny := false }

/-- The join and the throttle, as they stand in the input of a step run. -/
def readyContext (pass : ReadyPass) (readyStep : WorkflowGraphReadyStep) :
    List (String × Json) :=
  [("fan_in", workflowGraphFanInPayload readyStep.fanIn),
    ("fan_out", workflowGraphFanOutPayload pass.fanOutMaxParallel pass.activeParallelCount)]

/-- The decision of a branch condition, as it stands in the input of a step run. -/
def branchPayload (evaluation : WorkflowGraphConditionEvaluation)
    (verdict : String × Json) : Json :=
  .ofFields [("condition", evaluation.condition),
    ("path", (evaluation.path.map Json.string).getD .null), ("actual", evaluation.actual),
    ("expected", evaluation.expected), verdict]

/-- The request for a ready step whose condition is false. -/
def branchSkipRequest (call : AdvanceCall) (pass : ReadyPass)
    (readyStep : WorkflowGraphReadyStep) (evaluation : WorkflowGraphConditionEvaluation) :
    MaterializeRequest where
  run := call.run
  rootGrant := call.rootGrant
  graphStep := readyStep.graphStep
  status := .skipped
  scheduledAt := none
  inputContext := .ofFields (readyContext pass readyStep ++
    [("branch", branchPayload evaluation ("reason", .string "branch_condition_false"))])
  outputPayload := .ofFields [("skip_reason", .string "branch_condition_false"),
    ("condition", evaluation.condition), ("actual", evaluation.actual),
    ("expected", evaluation.expected)]

/-- The request for a ready step that is to run. -/
def readyRequest (call : AdvanceCall) (pass : ReadyPass) (readyStep : WorkflowGraphReadyStep)
    (evaluation : Option WorkflowGraphConditionEvaluation) : MaterializeRequest where
  run := call.run
  rootGrant := call.rootGrant
  graphStep := readyStep.graphStep
  status := .queued
  scheduledAt := none
  inputContext := .ofFields (readyContext pass readyStep ++
    (evaluation.map fun evaluation =>
      ("branch", branchPayload evaluation ("matched", .bool true))).toList)
  outputPayload := emptyJsonObject

/-- One turn of the loop over the ready steps. -/
def readyTurn (context : EngineContext) (call : AdvanceCall) (pass : ReadyPass)
    (readyStep : WorkflowGraphReadyStep) (rest : List WorkflowGraphReadyStep) :
    WorkflowProgram Phase := do
  if pass.fanOutMaxParallel.any (· ≤ pass.activeParallelCount) then
    return .readyPass call { pass with todo := rest }
  let evaluation ← Program.ofExcept (workflowGraphStepConditionEvaluation context.host
    readyStep.graphStep pass.existingSteps)
  match evaluation with
  | some ⟨condition, sourceStep, path, actual, expected, false⟩ =>
      let _ ← materializeWorkflowGraphStepWithPolicyContext context
        (branchSkipRequest call pass readyStep
          ⟨condition, sourceStep, path, actual, expected, false⟩)
      return .readyPass call { pass with todo := rest, materializedAny := true }
  | evaluation =>
      let _ ← materializeWorkflowGraphStepWithPolicyContext context
        (readyRequest call pass readyStep evaluation)
      return .readyPass call { pass with
        todo := rest
        activeParallelCount := pass.activeParallelCount + 1
        materializedAny := true }

/-! ### After a failure -/

/-- The request for the next attempt of a failed step. -/
def retryRequest (context : EngineContext) (call : AdvanceCall) (graphStep : Json)
    (attempts : Nat) (retryPolicy : WorkflowGraphRetryPolicy) (scheduledAt : Option Timestamp) :
    MaterializeRequest where
  run := call.run
  rootGrant := call.rootGrant
  graphStep := graphStep
  status := if scheduledAt.isSome then .scheduled else .queued
  scheduledAt := scheduledAt
  inputContext := .ofFields [("retry", .ofFields [("attempt", .ofNat (attempts + 1)),
    ("max_attempts", .ofNat retryPolicy.maxAttempts),
    ("delay_seconds", .ofNat retryPolicy.delaySeconds.toNat),
    ("scheduled_at", (scheduledAt.map fun time =>
      Json.string (context.host.printTimestamp time)).getD .null),
    ("previous_step_run_id", .string (context.host.printUuid call.step.id)),
    ("previous_status", .string call.step.status.text),
    ("previous_output", call.step.outputPayload)])]
  outputPayload := emptyJsonObject

/-- When the next attempt is due; the clock is read only for a delay. -/
def retryTime (retryPolicy : WorkflowGraphRetryPolicy) : WorkflowProgram (Option Timestamp) :=
  if 0 < retryPolicy.delaySeconds then do
    let now ← AppState.readClock
    return some (now + retryPolicy.delaySeconds * 1000000000)
  else pure none

/-- The retry branch of `advance_workflow_graph_after_step_failure`. -/
def retryStep (context : EngineContext) (call : AdvanceCall) (graphStep : Json)
    (attempts : Nat) (retryPolicy : WorkflowGraphRetryPolicy) : WorkflowProgram Phase := do
  let scheduledAt ← retryTime retryPolicy
  let _ ← materializeWorkflowGraphStepWithPolicyContext context
    (retryRequest context call graphStep attempts retryPolicy scheduledAt)
  let _ ← updateWorkflowRunStatusAndRecord call.run .running
  return .returned

/-- `advance_workflow_graph_after_step_failure` up to its failure loop. -/
def advanceWorkflowGraphAfterStepFailure (context : EngineContext) (run : WorkflowRun)
    (step : WorkflowStepRun) : WorkflowProgram Phase := do
  let rootGrant ← rootGrantOf run
  let existingSteps ← AppState.listWorkflowStepRuns run.id
  let found ← Program.ofExcept
    (workflowGraphStepByKey step.stepKey (workflowGraphSteps context.definition.stepGraph))
  match found with
  | none =>
      let _ ← updateWorkflowRunStatusAndRecord run step.status
      return .returned
  | some graphStep =>
      if step.status = .failed then
        let attempts := workflowGraphStepAttemptCount existingSteps step.stepKey
        let retryPolicy ← Program.ofExcept (workflowGraphStepRetryPolicy graphStep)
        if attempts < retryPolicy.maxAttempts then
          retryStep context { run, step, rootGrant } graphStep attempts retryPolicy
        else return .failing { run, step, rootGrant }
      else return .failing { run, step, rootGrant }

/-- The head of the failure loop; without a step array there is no loop. -/
def beginFailurePass (context : EngineContext) (call : AdvanceCall) : WorkflowProgram Phase :=
  match (context.definition.stepGraph.get "steps").bind Json.asArray with
  | none => pure (.finalizing call.run)
  | some steps => do
      let existingSteps ← AppState.listWorkflowStepRuns call.run.id
      return .failurePass call { existingSteps, todo := steps, materializedAny := false }

/-- The request for a compensation of the failed step. -/
def compensationRequest (context : EngineContext) (call : AdvanceCall) (graphStep : Json) :
    MaterializeRequest where
  run := call.run
  rootGrant := call.rootGrant
  graphStep := graphStep
  status := .queued
  scheduledAt := none
  inputContext := .ofFields [("failure_trigger", .ofFields
    [("failed_step_run_id", .string (context.host.printUuid call.step.id)),
      ("failed_step_key", .string call.step.stepKey),
      ("failed_status", .string call.step.status.text),
      ("failed_output", call.step.outputPayload)])]
  outputPayload := emptyJsonObject

/-- The request for a step that is skipped because dependencies of it failed. -/
def dependencySkipRequest (context : EngineContext) (call : AdvanceCall) (graphStep : Json)
    (failedDependencies : List String) : MaterializeRequest where
  run := call.run
  rootGrant := call.rootGrant
  graphStep := graphStep
  status := .skipped
  scheduledAt := none
  inputContext := .ofFields [("skip", .ofFields [("reason", .string "dependency_failed"),
    ("failed_dependencies", .ofStrings failedDependencies),
    ("source_step_run_id", .string (context.host.printUuid call.step.id)),
    ("source_step_key", .string call.step.stepKey)])]
  outputPayload := .ofFields [("skip_reason", .string "dependency_failed"),
    ("failed_dependencies", .ofStrings failedDependencies)]

/-- What the failure policy does with one graph step. -/
def failurePolicyRequest (context : EngineContext) (call : AdvanceCall)
    (existingSteps : List WorkflowStepRun) (graphStep : Json) :
    Except AppError (Option MaterializeRequest) := do
  let key ← workflowGraphStepKey graphStep
  if (workflowGraphLatestStep existingSteps key).isSome then return none
  let failureSources ← workflowGraphStepFailureSources graphStep
  if call.step.stepKey ∈ failureSources then
    return some (compensationRequest context call graphStep)
  if !failureSources.isEmpty then return none
  let dependencies ← workflowGraphStepDependencies graphStep
  let failedDependencies := dependencies.filter (workflowGraphBlockingFailure existingSteps)
  if failedDependencies.isEmpty then return none
  return some (dependencySkipRequest context call graphStep failedDependencies)

/-- One turn of the loop over the graph steps. -/
def failureTurn (context : EngineContext) (call : AdvanceCall) (pass : FailurePass)
    (graphStep : Json) (rest : List Json) : WorkflowProgram Phase := do
  let request ← Program.ofExcept
    (failurePolicyRequest context call pass.existingSteps graphStep)
  match request with
  | none => return .failurePass call { pass with todo := rest }
  | some request =>
      let _ ← materializeWorkflowGraphStepWithPolicyContext context request
      return .failurePass call { pass with todo := rest, materializedAny := true }

/-! ### The call -/

/-- The head of `advance_workflow_graph_after_step_update`. -/
def enterAdvance (context : EngineContext) (run : WorkflowRun) (step : WorkflowStepRun) :
    WorkflowProgram Phase :=
  match step.status with
  | .failed | .canceled => advanceWorkflowGraphAfterStepFailure context run step
  | .completed | .skipped => do
      let rootGrant ← rootGrantOf run
      return .readying { run, step, rootGrant }
  | .running => do
      let _ ← updateWorkflowRunStatusAndRecord run .running
      return .returned
  | .requiresAction => do
      let _ ← updateWorkflowRunStatusAndRecord run .requiresAction
      return .returned
  | _ => pure .returned

/-- The program of a call from one control state to the next. -/
def Phase.advance (context : EngineContext) : Phase → WorkflowProgram Phase
  | .entering run step => enterAdvance context run step
  | .readying call => beginReadyPass context call
  | .readyPass call pass =>
      match pass.todo with
      | readyStep :: rest => readyTurn context call pass readyStep rest
      | [] => pure (if pass.materializedAny then .readying call else .finalizing call.run)
  | .failing call => beginFailurePass context call
  | .failurePass call pass =>
      match pass.todo with
      | graphStep :: rest => failureTurn context call pass graphStep rest
      | [] => pure (if pass.materializedAny then .failing call else .finalizing call.run)
  | .finalizing run => do
      finalizeWorkflowGraphAfterTransitionPolicy context run
      return .finalized
  | .returned => pure .returned
  | .finalized => pure .finalized

end MandoForge
