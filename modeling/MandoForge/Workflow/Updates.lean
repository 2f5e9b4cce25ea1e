/-
Module: MandoForge.Workflow.Updates
Purpose: The two other ways into the engine: a worker's session settles the step
  run it had claimed, and scheduled step runs that are due are queued.
Trusted boundary: whether the session's job completed its task is read from
  events and tool calls, and what the worker used from its artifacts; the first
  is an argument here, the second stands in the output as one value.
Main exports: updateWorkflowStepAfterWorkerSession, activateDueWorkflowStepsForRun
-/
import MandoForge.Workflow.Advancement

namespace MandoForge

open Foundation

/-! ### The outcome of a worker's session -/

/-- What a worker brings back: its session and job, and what went wrong. -/
structure WorkerReport where
  session : Session
  sessionLoopJob : SessionLoopJob
  workerId : String
  errorMessage : Option String
  /-- `successful_provider_completion_for_job`. -/
  providerCompletion : Option ToolCall
  workerExecution : Json
deriving DecidableEq

def managedWorkflowStepOutcome (report : WorkerReport) : WorkflowStatus :=
  if report.session.status = .terminated ∧
      report.errorMessage = some "session is terminal and cannot run session loop work" then
    .canceled
  else if report.errorMessage.isSome ∨ report.sessionLoopJob.status = .failed then .failed
  else match report.session.status with
    | .failed => .failed
    | .terminated => .canceled
    | .running => .running
    | _ => .requiresAction

/-- The status that the step run gets: completed when the job completed its
task for the grant of the step. -/
def nextStepStatus (report : WorkerReport) (step : WorkflowStepRun) : WorkflowStatus :=
  if (report.session.status = .idle ∨ report.session.status = .terminated) ∧
      report.sessionLoopJob.status = .completed ∧ report.errorMessage = none ∧
      report.providerCompletion.any (fun call => decide (call.taskGrantId = step.taskGrantId)) then
    .completed
  else managedWorkflowStepOutcome report

/-! ### The programs -/

/-- `finalize_workflow_step_task_grant`: a step run that ended closes its own
grant, not the root grant. -/
def finalizeWorkflowStepTaskGrant (updated : WorkflowStepRun) : WorkflowProgram Unit :=
  match workflowStepStatusTerminal updated.status, updated.taskGrantId with
  | true, some taskGrantId => do
      let run ← AppState.getWorkflowRun updated.workflowRunId
      if run.rootTaskGrantId = some taskGrantId then return
      let grant ← AppState.getTaskGrant taskGrantId
      if grant.status ≠ .active then return
      let _ ← AppState.updateTaskGrantStatus taskGrantId
        (if workflowStepStatusSuccessful updated.status then .completed else .cancelled)
  | _, _ => pure ()

/-- The step run that the worker settles; an expired claim is taken over first. -/
def adoptedStep (step : WorkflowStepRun) (report : WorkerReport) :
    WorkflowProgram WorkflowStepRun :=
  if step.status = .running ∧ step.claimedByWorker ≠ some report.workerId then
    AppState.adoptWorkflowStepForLoop step.id report.sessionLoopJob report.workerId
  else pure step

/-- `update_workflow_step_after_worker_session` up to its call of the engine. -/
def updateWorkflowStepAfterWorkerSession (run : WorkflowRun) (step : WorkflowStepRun)
    (report : WorkerReport) : WorkflowProgram Phase := do
  let step ← adoptedStep step report
  let updated ← AppState.updateClaimedWorkflowStepRun { step with
    status := nextStepStatus report step
    outputPayload := .ofFields [("worker_execution", report.workerExecution)]
    claimedByWorker := some report.workerId
    claimOwnerVersion := workflowStepClaimOwnerVersion
    leaseExpiresAt := none } report.workerId
  finalizeWorkflowStepTaskGrant updated
  return if step.status ≠ updated.status then .entering run updated else .returned

/-- A scheduled step run that the caller sees. -/
def isVisibleScheduled (run : WorkflowRun) (visibleSessionIds : Option (List Uuid))
    (step : WorkflowStepRun) : Bool :=
  decide (step.status = .scheduled) && visibleSessionIds.all fun visible =>
    visible.contains (step.sessionId.getD run.primarySessionId)

/-- The order of `sort_by_key`: no time comes before any. -/
def scheduledNoLater (first second : WorkflowStepRun) : Bool :=
  match first.scheduledAt, second.scheduledAt with
  | none, _ => true
  | some _, none => false
  | some firstTime, some secondTime => decide (firstTime ≤ secondTime)

/-- The loop of `activate_due_workflow_steps_for_run`. -/
def activateDueSteps (checkedAt : Timestamp) :
    List WorkflowStepRun → WorkflowProgram (List Uuid)
  | [] => pure []
  | step :: rest => do
      if step.scheduledAt.any fun scheduledAt => decide (scheduledAt ≤ checkedAt) then
        match ← AppState.activateScheduledWorkflowStepRun step.id checkedAt with
        | some updated => do
            let activated ← activateDueSteps checkedAt rest
            return updated.id :: activated
        | none => activateDueSteps checkedAt rest
      else activateDueSteps checkedAt rest

/-- `activate_due_workflow_steps_for_run`: the steps that were queued, and how
many stay scheduled. -/
def activateDueWorkflowStepsForRun (run : WorkflowRun) (checkedAt : Timestamp)
    (visibleSessionIds : Option (List Uuid)) : WorkflowProgram (List Uuid × Nat) := do
  let existingSteps ← AppState.listWorkflowStepRuns run.id
  let scheduledSteps :=
    (existingSteps.filter (isVisibleScheduled run visibleSessionIds)).mergeSort scheduledNoLater
  let activated ← activateDueSteps checkedAt scheduledSteps
  if !activated.isEmpty then
    let _ ← updateWorkflowRunStatusAndRecord run .running
  let remaining ← AppState.listWorkflowStepRuns run.id
  return (activated, remaining.countP (isVisibleScheduled run visibleSessionIds))

end MandoForge
