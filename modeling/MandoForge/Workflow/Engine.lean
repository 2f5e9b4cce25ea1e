/-
Module: MandoForge.Workflow.Engine
Purpose: The graph engine as a machine: step runs report statuses, each report is
  followed by a call of the engine, and a call goes from one control state to the
  next.  What one turn can do is said once, as a relation on the step runs of the
  run.
Trusted boundary: calls for one run follow each other; between two turns the rest
  of the world may change in any way that leaves this run's rows.
Main exports: EngineState, EngineEvent.perform
-/
import MandoForge.Foundation.Runs
import MandoForge.Workflow.Advancement
import MandoForge.Workflow.StepRuns

namespace MandoForge

open Foundation

/-! ### The machine -/

/-- The world, and where the current call stands; an error has ended its call. -/
structure EngineState where
  world : World
  control : Except AppError Phase

/-- No call is under way. -/
def EngineState.isIdle (state : EngineState) : Bool :=
  match state.control with
  | .error _ | .ok .returned | .ok .finalized => true
  | _ => false

/-- The statuses that a step run can report. -/
def reportable : WorkflowStatus → Bool
  | .queued | .scheduled | .running | .requiresAction | .completed | .failed | .canceled => true
  | .initializing | .skipped => false

inductive EngineEvent where
  /-- A step run that is not terminal gets a status and an output, and the engine
  is called with it and with some value of the run. -/
  | report (run : WorkflowRun) (stepId : Uuid) (status : WorkflowStatus) (outputPayload : Json)
  /-- The call that is under way takes its next turn. -/
  | tick
  /-- The world changes outside this run. -/
  | elsewhere (world : World)

namespace EngineEvent

/-- The world after a step run's report. -/
def reportIn (world : World) (stepId : Uuid) (status : WorkflowStatus) (outputPayload : Json) :
    World :=
  { world with store := { world.store with
    workflowStepRuns := world.store.workflowStepRuns.modify stepId
      (fun step => { step with status, outputPayload }) } }

/-- Whether the step run can report the status in a call for the run. -/
def reports (workflowRunId : Uuid) (run : WorkflowRun) (step : WorkflowStepRun)
    (status : WorkflowStatus) : Bool :=
  decide (run.id = workflowRunId) && decide (step.workflowRunId = workflowRunId) &&
    !workflowStepStatusTerminal step.status && reportable status

/-- Whether two worlds have the same rows of a run. -/
def sameRun (workflowRunId : Uuid) (before after : World) : Bool :=
  decide (after.stepRunsOf workflowRunId = before.stepRunsOf workflowRunId) &&
    decide (after.store.workflowRuns.find? workflowRunId =
      before.store.workflowRuns.find? workflowRunId)

/-- An event that cannot happen changes nothing. -/
def perform (context : EngineContext) (workflowRunId : Uuid) (event : EngineEvent)
    (state : EngineState) : EngineState :=
  match event with
  | .report run stepId status outputPayload =>
      match state.world.store.workflowStepRuns.find? stepId with
      | some step =>
          if state.isIdle && reports workflowRunId run step status then
            { world := reportIn state.world stepId status outputPayload
              control := .ok (.entering run { step with status, outputPayload }) }
          else state
      | none => state
  | .tick =>
      match state.control with
      | .ok phase =>
          let (outcome, world) := (phase.advance context).run state.world
          { world, control := outcome }
      | .error _ => state
  | .elsewhere world =>
      if sameRun workflowRunId state.world world then { state with world } else state

end EngineEvent

/-- The machine after the start steps were materialized for a run without step
runs. -/
structure StartedAs (context : EngineContext) (workflowRunId : Uuid) (state : EngineState) :
    Prop where
  idle : state.control = .ok .returned
  started : ∃ (before : World) (run updated : WorkflowRun) (rootGrant : TaskGrant),
    run.id = workflowRunId ∧ before.stepRunsOf workflowRunId = [] ∧
      (materializeWorkflowGraphStartSteps context run rootGrant).run before =
        (.ok updated, state.world)

/-! ### What one turn can do -/

/-- What the failure policy does with a step. -/
inductive FailureAction where
  | compensate
  | skip
deriving DecidableEq, Repr

namespace PlanStep

/-- The dependencies of the step whose failure blocks it. -/
def blockedDependencies (step : PlanStep) (existingSteps : List WorkflowStepRun) :
    List String :=
  step.dependencies.filter (workflowGraphBlockingFailure existingSteps)

/-- What the failure of a step run asks for this step. -/
def failureAction (step : PlanStep) (failedKey : String)
    (existingSteps : List WorkflowStepRun) : Option FailureAction :=
  if (workflowGraphLatestStep existingSteps step.key).isSome then none
  else if failedKey ∈ step.failureSources then some .compensate
  else if !step.failureSources.isEmpty then none
  else if (step.blockedDependencies existingSteps).isEmpty then none
  else some .skip

end PlanStep

/-- The first state of a pass of the ready loop. -/
def ReadyPass.start (plan : Plan) (rows : List WorkflowStepRun) : ReadyPass where
  existingSteps := rows
  todo := (plan.ready rows).map (PlanStep.readyStep rows)
  fanOutMaxParallel := plan.maxParallel
  activeParallelCount := workflowGraphActiveParallelCount rows
  materializedAny := false

/-- A ready step is put off because enough step runs are active. -/
def ReadyPass.defers (pass : ReadyPass) : Bool :=
  pass.fanOutMaxParallel.any (· ≤ pass.activeParallelCount)

/-- One turn: from a control state and the step runs of the run to the outcome of
the turn and the step runs after it. -/
inductive Advances (context : EngineContext) (plan : Plan) (rows : List WorkflowStepRun) :
    Phase → Except AppError Phase → List WorkflowStepRun → Prop
  | refused {phase : Phase} (error : AppError) :
      Advances context plan rows phase (.error error) rows
  | succeeded {run : WorkflowRun} {step : WorkflowStepRun} (rootGrant : TaskGrant)
      (successful : workflowStepStatusSuccessful step.status = true) :
      Advances context plan rows (.entering run step) (.ok (.readying ⟨run, step, rootGrant⟩)) rows
  | recorded {run : WorkflowRun} {step : WorkflowStepRun}
      (isOpen : workflowStepStatusTerminal step.status = false) :
      Advances context plan rows (.entering run step) (.ok .returned) rows
  | unknown {run : WorkflowRun} {step : WorkflowStepRun}
      (outside : plan.stepOf step.stepKey = none) :
      Advances context plan rows (.entering run step) (.ok .returned) rows
  | retried {run : WorkflowRun} {step new : WorkflowStepRun} {rootGrant : TaskGrant}
      {planStep : PlanStep} {scheduledAt : Option Timestamp} {outcome : Except AppError Phase}
      (known : plan.stepOf step.stepKey = some planStep) (failed : step.status = .failed)
      (remaining : workflowGraphStepAttemptCount rows step.stepKey <
        planStep.retryPolicy.maxAttempts)
      (made : MaterializedAs (retryRequest context ⟨run, step, rootGrant⟩ planStep.graphStep
        (workflowGraphStepAttemptCount rows step.stepKey) planStep.retryPolicy scheduledAt) new)
      (ended : outcome = .ok .returned ∨ ∃ error, outcome = .error error) :
      Advances context plan rows (.entering run step) outcome (rows ++ [new])
  | failed {run : WorkflowRun} {step : WorkflowStepRun} (rootGrant : TaskGrant)
      {planStep : PlanStep} (known : plan.stepOf step.stepKey = some planStep)
      (unsuccessful : step.status = .failed ∨ step.status = .canceled)
      (exhausted : step.status = .failed → planStep.retryPolicy.maxAttempts ≤
        workflowGraphStepAttemptCount rows step.stepKey) :
      Advances context plan rows (.entering run step) (.ok (.failing ⟨run, step, rootGrant⟩)) rows
  | noneReady {call : AdvanceCall} (none_ready : plan.ready rows = []) :
      Advances context plan rows (.readying call) (.ok (.finalizing call.run)) rows
  | someReady {call : AdvanceCall} (some_ready : plan.ready rows ≠ []) :
      Advances context plan rows (.readying call)
        (.ok (.readyPass call (.start plan rows))) rows
  | deferred {call : AdvanceCall} {pass : ReadyPass} {readyStep : WorkflowGraphReadyStep}
      {rest : List WorkflowGraphReadyStep} (todo : pass.todo = readyStep :: rest)
      (defers : pass.defers = true) :
      Advances context plan rows (.readyPass call pass)
        (.ok (.readyPass call { pass with todo := rest })) rows
  | branchSkipped {call : AdvanceCall} {pass : ReadyPass} {readyStep : WorkflowGraphReadyStep}
      {rest : List WorkflowGraphReadyStep} {evaluation : WorkflowGraphConditionEvaluation}
      {new : WorkflowStepRun} (todo : pass.todo = readyStep :: rest)
      (admits : pass.defers = false)
      (evaluated : workflowGraphStepConditionEvaluation context.host readyStep.graphStep
        pass.existingSteps = .ok (some evaluation))
      (unmatched : evaluation.isMatched = false)
      (made : MaterializedAs (branchSkipRequest call pass readyStep evaluation) new) :
      Advances context plan rows (.readyPass call pass)
        (.ok (.readyPass call { pass with todo := rest, materializedAny := true }))
        (rows ++ [new])
  | readied {call : AdvanceCall} {pass : ReadyPass} {readyStep : WorkflowGraphReadyStep}
      {rest : List WorkflowGraphReadyStep}
      {evaluation : Option WorkflowGraphConditionEvaluation} {new : WorkflowStepRun}
      (todo : pass.todo = readyStep :: rest) (admits : pass.defers = false)
      (evaluated : workflowGraphStepConditionEvaluation context.host readyStep.graphStep
        pass.existingSteps = .ok evaluation)
      (isMatched : ∀ found, evaluation = some found → found.isMatched = true)
      (made : MaterializedAs (readyRequest call pass readyStep evaluation) new) :
      Advances context plan rows (.readyPass call pass)
        (.ok (.readyPass call { pass with
          todo := rest
          activeParallelCount := pass.activeParallelCount + 1
          materializedAny := true })) (rows ++ [new])
  | readyPassEnded {call : AdvanceCall} {pass : ReadyPass} (todo : pass.todo = []) :
      Advances context plan rows (.readyPass call pass)
        (.ok (if pass.materializedAny then .readying call else .finalizing call.run)) rows
  | noSteps {call : AdvanceCall} (noSteps : plan.steps = []) :
      Advances context plan rows (.failing call) (.ok (.finalizing call.run)) rows
  | failureBegun {call : AdvanceCall} :
      Advances context plan rows (.failing call)
        (.ok (.failurePass call ⟨rows, plan.steps.map PlanStep.graphStep, false⟩)) rows
  | passedOver {call : AdvanceCall} {pass : FailurePass} {planStep : PlanStep}
      {rest : List Json} (todo : pass.todo = planStep.graphStep :: rest)
      (noAction : planStep.failureAction call.step.stepKey pass.existingSteps = none) :
      Advances context plan rows (.failurePass call pass)
        (.ok (.failurePass call { pass with todo := rest })) rows
  | compensated {call : AdvanceCall} {pass : FailurePass} {planStep : PlanStep}
      {rest : List Json} {new : WorkflowStepRun} (todo : pass.todo = planStep.graphStep :: rest)
      (action : planStep.failureAction call.step.stepKey pass.existingSteps = some .compensate)
      (made : MaterializedAs (compensationRequest context call planStep.graphStep) new) :
      Advances context plan rows (.failurePass call pass)
        (.ok (.failurePass call { pass with todo := rest, materializedAny := true }))
        (rows ++ [new])
  | skipped {call : AdvanceCall} {pass : FailurePass} {planStep : PlanStep}
      {rest : List Json} {new : WorkflowStepRun} (todo : pass.todo = planStep.graphStep :: rest)
      (action : planStep.failureAction call.step.stepKey pass.existingSteps = some .skip)
      (made : MaterializedAs (dependencySkipRequest context call planStep.graphStep
        (planStep.blockedDependencies pass.existingSteps)) new) :
      Advances context plan rows (.failurePass call pass)
        (.ok (.failurePass call { pass with todo := rest, materializedAny := true }))
        (rows ++ [new])
  | failurePassEnded {call : AdvanceCall} {pass : FailurePass} (todo : pass.todo = []) :
      Advances context plan rows (.failurePass call pass)
        (.ok (if pass.materializedAny then .failing call else .finalizing call.run)) rows
  | finalized {run : WorkflowRun} :
      Advances context plan rows (.finalizing run) (.ok .finalized) rows
  | ended {phase : Phase} (isEnd : phase = .returned ∨ phase = .finalized) :
      Advances context plan rows phase (.ok phase) rows

/-! ### The turns of the engine do no more -/

/-- The run that a control state works on. -/
def Phase.run? : Phase → Option WorkflowRun
  | .entering run _ | .finalizing run => some run
  | .readying call | .readyPass call _ | .failing call | .failurePass call _ => some call.run
  | .returned | .finalized => none

/-- The graph steps a pass of the failure loop has before it are steps of the
plan. -/
def Phase.todoRead (plan : Plan) : Phase → Prop
  | .failurePass _ pass => ∀ graphStep ∈ pass.todo,
      ∃ planStep ∈ plan.steps, planStep.graphStep = graphStep
  | _ => True

section turns

variable {context : EngineContext} {plan : Plan} {workflowRunId : Uuid}
  {rows : List WorkflowStepRun} {phase : Phase} {world : World}

/-- What a program for one turn ensures. -/
def Turn (context : EngineContext) (plan : Plan) (workflowRunId : Uuid)
    (rows : List WorkflowStepRun) (phase : Phase) (outcome : Except AppError Phase)
    (after : World) : Prop :=
  Advances context plan rows phase outcome (after.stepRunsOf workflowRunId)

theorem turn_bind {Value : Type} {first : WorkflowProgram Value}
    {next : Value → WorkflowProgram Phase} (keeps : KeepsStepRuns first)
    (same : world.stepRunsOf workflowRunId = rows)
    (rest : ∀ value after, after.stepRunsOf workflowRunId = rows →
      (next value).Ensures after (Turn context plan workflowRunId rows phase)) :
    (first >>= next).Ensures world (Turn context plan workflowRunId rows phase) := by
  have sameAfter := (stepRunsOf_of_keeps keeps world workflowRunId).trans same
  unfold Program.Ensures
  rw [Program.run_bind]
  generalize first.run world = ran at sameAfter ⊢
  obtain ⟨outcome, after⟩ := ran
  cases outcome with
  | error error =>
      unfold Turn
      rw [sameAfter]
      exact .refused error
  | ok value => exact rest value after sameAfter

theorem turn_ofExcept {Value : Type} {first : Except AppError Value}
    {next : Value → WorkflowProgram Phase} (same : world.stepRunsOf workflowRunId = rows)
    (rest : ∀ value, first = .ok value →
      (next value).Ensures world (Turn context plan workflowRunId rows phase)) :
    (Program.ofExcept first >>= next).Ensures world
      (Turn context plan workflowRunId rows phase) := by
  cases first with
  | error error =>
      change Advances context plan rows phase (.error error) (world.stepRunsOf workflowRunId)
      rw [same]
      exact .refused error
  | ok value => exact rest value rfl

theorem turn_list {next : List WorkflowStepRun → WorkflowProgram Phase}
    (same : world.stepRunsOf workflowRunId = rows)
    (rest : (next rows).Ensures world (Turn context plan workflowRunId rows phase)) :
    (AppState.listWorkflowStepRuns workflowRunId >>= next).Ensures world
      (Turn context plan workflowRunId rows phase) := by
  unfold Program.Ensures
  rw [Program.run_bind, AppState.run_listWorkflowStepRuns, same]
  exact rest

theorem turn_pure {next : Phase} {after : List WorkflowStepRun}
    (same : world.stepRunsOf workflowRunId = after)
    (advances : Advances context plan rows phase (.ok next) after) :
    (pure next : WorkflowProgram Phase).Ensures world
      (Turn context plan workflowRunId rows phase) := by
  change Advances context plan rows phase (.ok next) (world.stepRunsOf workflowRunId)
  rw [same]
  exact advances

theorem turn_materialize {request : MaterializeRequest}
    {next : WorkflowStepRun → WorkflowProgram Phase} (ofRun : request.run.id = workflowRunId)
    (same : world.stepRunsOf workflowRunId = rows)
    (rest : ∀ new after, MaterializedAs request new →
      after.stepRunsOf workflowRunId = rows ++ [new] →
      (next new).Ensures after (Turn context plan workflowRunId rows phase)) :
    (materializeWorkflowGraphStepWithPolicyContext context request >>= next).Ensures world
      (Turn context plan workflowRunId rows phase) := by
  have adds := materialize_adds context request world
  unfold Program.Ensures at adds ⊢
  rw [Program.run_bind]
  generalize (materializeWorkflowGraphStepWithPolicyContext context request).run world = ran
    at adds ⊢
  obtain ⟨outcome, after⟩ := ran
  cases outcome with
  | error error =>
      unfold Turn
      rw [show after.stepRunsOf workflowRunId = rows from (adds.stepRunsOf _).trans same]
      exact .refused error
  | ok new =>
      obtain ⟨made, added⟩ := adds
      apply rest new after made
      rw [added.stepRunsOf, if_pos (made.workflowRunId.trans ofRun), same]

theorem rootGrantOf_keepsStepRuns (run : WorkflowRun) : KeepsStepRuns (rootGrantOf run) :=
  (LeavesSteps.bind (.ofExcept _) fun _ => .getTaskGrant _).keepsStepRuns

theorem retryTime_keepsStepRuns (retryPolicy : WorkflowGraphRetryPolicy) :
    KeepsStepRuns (retryTime retryPolicy) := by
  unfold retryTime
  split
  · exact .bind (LeavesSteps.readClock.keepsStepRuns) fun _ => .pure _
  · exact .pure _

/-- A status write and the return behind it, after the step runs have changed. -/
theorem turn_record {run : WorkflowRun} {status : WorkflowStatus}
    {after : List WorkflowStepRun} (same : world.stepRunsOf workflowRunId = after)
    (advances : ∀ outcome, (outcome = .ok .returned ∨ ∃ error, outcome = .error error) →
      Advances context plan rows phase outcome after) :
    (updateWorkflowRunStatusAndRecord run status >>= fun _ =>
      (pure .returned : WorkflowProgram Phase)).Ensures world
      (Turn context plan workflowRunId rows phase) := by
  have sameNext := (stepRunsOf_of_keeps
    (updateWorkflowRunStatusAndRecord_keepsStepRuns run status) world workflowRunId).trans same
  unfold Program.Ensures
  rw [Program.run_bind]
  generalize (updateWorkflowRunStatusAndRecord run status).run world = ran at sameNext ⊢
  obtain ⟨outcome, next⟩ := ran
  cases outcome with
  | error error =>
      change Advances context plan rows phase (.error error) (next.stepRunsOf workflowRunId)
      rw [sameNext]
      exact advances _ (.inr ⟨error, rfl⟩)
  | ok updated =>
      change Advances context plan rows phase (.ok .returned) (next.stepRunsOf workflowRunId)
      rw [sameNext]
      exact advances _ (.inl rfl)

theorem readyTurn_turn {call : AdvanceCall} {pass : ReadyPass}
    {readyStep : WorkflowGraphReadyStep} {rest : List WorkflowGraphReadyStep}
    (todo : pass.todo = readyStep :: rest) (ofRun : call.run.id = workflowRunId)
    (same : world.stepRunsOf workflowRunId = rows) :
    (readyTurn context call pass readyStep rest).Ensures world
      (Turn context plan workflowRunId rows (.readyPass call pass)) := by
  unfold readyTurn
  split
  · rename_i defers
    exact turn_pure same (.deferred todo defers)
  · rename_i admits
    have admits : pass.defers = false := by simpa [ReadyPass.defers] using admits
    apply turn_ofExcept same
    intro evaluation evaluated
    split
    · apply turn_materialize (by exact ofRun) same
      intro new world made grown
      exact turn_pure grown (.branchSkipped todo admits evaluated rfl made)
    · rename_i notUnmatched
      apply turn_materialize (by exact ofRun) same
      intro new world made grown
      apply turn_pure grown
      apply Advances.readied todo admits evaluated ?_ made
      rintro ⟨condition, sourceStep, path, actual, expected, isMatched⟩ found
      cases isMatched with
      | true => rfl
      | false => exact absurd found (notUnmatched _ _ _ _ _)

/-- What the failure policy asks for a step of the plan. -/
theorem failurePolicyRequest_eq (call : AdvanceCall) (planStep : PlanStep)
    (existingSteps : List WorkflowStepRun) :
    failurePolicyRequest context call existingSteps planStep.graphStep =
      .ok ((planStep.failureAction call.step.stepKey existingSteps).map fun
        | .compensate => compensationRequest context call planStep.graphStep
        | .skip => dependencySkipRequest context call planStep.graphStep
            (planStep.blockedDependencies existingSteps)) := by
  unfold failurePolicyRequest PlanStep.failureAction
  rw [planStep.key_read, planStep.failureSources_read, planStep.dependencies_read]
  simp only [bind, Except.bind, pure, Except.pure]
  split
  · rfl
  · split
    · rfl
    · split
      · rfl
      · change (if (planStep.blockedDependencies existingSteps).isEmpty = true then _ else _) = _
        split <;> rfl

theorem failureTurn_turn {call : AdvanceCall} {pass : FailurePass} {planStep : PlanStep}
    {rest : List Json} (todo : pass.todo = planStep.graphStep :: rest)
    (ofRun : call.run.id = workflowRunId) (same : world.stepRunsOf workflowRunId = rows) :
    (failureTurn context call pass planStep.graphStep rest).Ensures world
      (Turn context plan workflowRunId rows (.failurePass call pass)) := by
  unfold failureTurn
  apply turn_ofExcept same
  intro request read
  rw [failurePolicyRequest_eq] at read
  cases action : planStep.failureAction call.step.stepKey pass.existingSteps with
  | none =>
      rw [action] at read
      cases read
      exact turn_pure same (.passedOver todo action)
  | some action' =>
      rw [action] at read
      cases read
      cases action' with
      | compensate =>
          apply turn_materialize (by exact ofRun) same
          intro new world made grown
          exact turn_pure grown (.compensated todo action made)
      | skip =>
          apply turn_materialize (by exact ofRun) same
          intro new world made grown
          exact turn_pure grown (.skipped todo action made)

variable (graph : context.definition.stepGraph = plan.stepGraph)

include graph

theorem enterAdvance_turn {run : WorkflowRun} {step : WorkflowStepRun}
    (ofRun : run.id = workflowRunId) (same : world.stepRunsOf workflowRunId = rows) :
    (enterAdvance context run step).Ensures world
      (Turn context plan workflowRunId rows (.entering run step)) := by
  have onFailure (unsuccessful : step.status = .failed ∨ step.status = .canceled) :
      (advanceWorkflowGraphAfterStepFailure context run step).Ensures world
        (Turn context plan workflowRunId rows (.entering run step)) := by
    unfold advanceWorkflowGraphAfterStepFailure
    apply turn_bind (rootGrantOf_keepsStepRuns run) same
    intro rootGrant world same
    rw [ofRun]
    apply turn_list same
    apply turn_ofExcept same
    intro found read
    rw [graph, plan.workflowGraphStepByKey_eq] at read
    cases known : plan.stepOf step.stepKey with
    | none =>
        rw [known] at read
        cases read
        apply turn_record same
        rintro outcome (rfl | ⟨error, rfl⟩)
        · exact .unknown known
        · exact .refused error
    | some planStep =>
        rw [known] at read
        cases read
        dsimp only [Option.map_some]
        split
        · rename_i failed
          apply turn_ofExcept same
          intro retryPolicy policy
          cases policy.symm.trans planStep.retryPolicy_read
          split
          · rename_i remaining
            unfold retryStep
            apply turn_bind (retryTime_keepsStepRuns _) same
            intro scheduledAt world same
            apply turn_materialize ofRun same
            intro new world made grown
            apply turn_record grown
            intro outcome ended
            exact .retried known failed remaining made ended
          · rename_i exhausted
            exact turn_pure same
              (.failed rootGrant known unsuccessful fun _ => Nat.le_of_not_lt exhausted)
        · rename_i notFailed
          exact turn_pure same
            (.failed rootGrant known unsuccessful fun failed => absurd failed notFailed)
  have onSuccess (successful : workflowStepStatusSuccessful step.status = true) :
      (rootGrantOf run >>= fun rootGrant =>
        (pure (.readying ⟨run, step, rootGrant⟩) : WorkflowProgram Phase)).Ensures world
        (Turn context plan workflowRunId rows (.entering run step)) := by
    apply turn_bind (rootGrantOf_keepsStepRuns run) same
    intro rootGrant world same
    exact turn_pure same (.succeeded rootGrant successful)
  have onOpen (isOpen : workflowStepStatusTerminal step.status = false) :
      ∀ outcome : Except AppError Phase,
        (outcome = .ok .returned ∨ ∃ error, outcome = .error error) →
          Advances context plan rows (.entering run step) outcome rows := by
    rintro outcome (rfl | ⟨error, rfl⟩)
    · exact .recorded isOpen
    · exact .refused error
  unfold enterAdvance
  split
  · rename_i status
    exact onFailure (.inl status)
  · rename_i status
    exact onFailure (.inr status)
  · rename_i status
    exact onSuccess (by rw [status]; rfl)
  · rename_i status
    exact onSuccess (by rw [status]; rfl)
  · rename_i status
    exact turn_record same (onOpen (by rw [status]; rfl))
  · rename_i status
    exact turn_record same (onOpen (by rw [status]; rfl))
  · rename_i notFailed notCanceled notCompleted notSkipped _ _
    apply turn_pure same
    apply Advances.recorded
    rw [← Bool.not_eq_true, terminal_iff]
    simp only [not_or]
    exact ⟨notCompleted, notFailed, notCanceled, notSkipped⟩

theorem beginReadyPass_turn {call : AdvanceCall} (ofRun : call.run.id = workflowRunId)
    (same : world.stepRunsOf workflowRunId = rows) :
    (beginReadyPass context call).Ensures world
      (Turn context plan workflowRunId rows (.readying call)) := by
  unfold beginReadyPass
  rw [ofRun]
  apply turn_list same
  apply turn_ofExcept same
  intro readySteps read
  rw [graph, plan.workflowGraphReadySteps_eq] at read
  cases read
  split
  · rename_i none_ready
    apply turn_pure same
    exact .noneReady (by simpa using none_ready)
  · rename_i some_ready
    apply turn_ofExcept same
    intro maxParallel read
    rw [graph, plan.maxParallel_read] at read
    cases read
    apply turn_pure same
    exact .someReady (by simpa using some_ready)

theorem beginFailurePass_turn {call : AdvanceCall} (ofRun : call.run.id = workflowRunId)
    (same : world.stepRunsOf workflowRunId = rows) :
    (beginFailurePass context call).Ensures world
      (Turn context plan workflowRunId rows (.failing call)) := by
  have steps_read := plan.steps_read
  unfold workflowGraphSteps at steps_read
  unfold beginFailurePass
  rw [graph]
  split
  · rename_i noArray
    apply turn_pure same
    apply Advances.noSteps
    rw [noArray] at steps_read
    exact List.map_eq_nil_iff.mp steps_read.symm
  · rename_i steps isArray
    rw [isArray] at steps_read
    cases (show steps = plan.steps.map PlanStep.graphStep from steps_read)
    rw [ofRun]
    apply turn_list same
    exact turn_pure same .failureBegun

omit graph in
theorem finalize_keepsStepRuns (run : WorkflowRun) :
    KeepsStepRuns (finalizeWorkflowGraphAfterTransitionPolicy context run) := by
  have record := updateWorkflowRunStatusAndRecord_keepsStepRuns
  have list := fun id => (LeavesSteps.listWorkflowStepRuns id).keepsStepRuns
  unfold finalizeWorkflowGraphAfterTransitionPolicy
  apply Program.Keeps.bind (LeavesSteps.getWorkflowRun _).keepsStepRuns
  intro currentRun
  apply Program.Keeps.bind (LeavesSteps.ofExcept _).keepsStepRuns
  intro graphKeys
  apply Program.Keeps.bind
  · unfold workflowGraphRunCompleted
    split
    · exact .pure _
    · exact .bind (list _) fun _ => .pure _
  · intro completed
    split
    · exact .bind (record _ _) fun _ => .pure _
    · apply Program.Keeps.bind (list _)
      intro steps
      split
      · exact .bind (record _ _) fun _ => .pure _
      · exact .bind (list _) fun _ => .bind (record _ _) fun _ => .pure _

/-- Every turn of the engine is one of the turns listed in `Advances`. -/
theorem advance_advances (ofRun : ∀ run, phase.run? = some run → run.id = workflowRunId)
    (todoRead : phase.todoRead plan) (world : World) :
    (phase.advance context).Ensures world
      (Turn context plan workflowRunId (world.stepRunsOf workflowRunId) phase) := by
  cases phase with
  | entering run step => exact enterAdvance_turn graph (ofRun run rfl) rfl
  | readying call => exact beginReadyPass_turn graph (ofRun _ rfl) rfl
  | readyPass call pass =>
      simp only [Phase.advance]
      split
      · rename_i readyStep rest todo
        exact readyTurn_turn todo (ofRun _ rfl) rfl
      · rename_i todo
        exact turn_pure rfl (.readyPassEnded todo)
  | failing call => exact beginFailurePass_turn graph (ofRun _ rfl) rfl
  | failurePass call pass =>
      simp only [Phase.advance]
      split
      · rename_i graphStep rest todo
        obtain ⟨planStep, -, rfl⟩ := todoRead graphStep (by simp [todo])
        exact failureTurn_turn todo (ofRun _ rfl) rfl
      · rename_i todo
        exact turn_pure rfl (.failurePassEnded todo)
  | finalizing run =>
      apply turn_bind (finalize_keepsStepRuns run) rfl
      intro _ world same
      exact turn_pure same .finalized
  | returned => exact turn_pure rfl (.ended (.inl rfl))
  | finalized => exact turn_pure rfl (.ended (.inr rfl))

end turns

end MandoForge
