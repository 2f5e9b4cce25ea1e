/-
Module: MandoForge.Workflow.ValidatedGraphs
Purpose: Reading an accepted step graph never fails, whatever step runs there are:
  validation runs the same readers, and what they read of step runs decides no error.
Trusted boundary: none beyond the graph readers
Main exports: workflowGraphStartStepsResult, validated_graph_never_fails
-/
import MandoForge.Workflow.Plan

namespace MandoForge

open Foundation

/-- `workflow_graph_start_steps`, with its error. -/
def workflowGraphStartStepsResult (stepGraph : Json) : Except AppError (List Json) :=
  match (stepGraph.get "steps").bind Json.asArray with
  | none => .ok []
  | some [] => .ok []
  | some steps =>
      let explicitStarts := steps.filter fun step =>
        ((step.getFirst ["start", "entrypoint"]).bind Json.asBool).getD false
      if !explicitStarts.isEmpty then .ok explicitStarts
      else do
        let first ← okOr steps.head? (.badRequest "workflow graph steps cannot be empty")
        return [first]

/-- Steps that are not empty have a first one. -/
theorem workflowGraphStartStepsResult_eq (stepGraph : Json) :
    workflowGraphStartStepsResult stepGraph = .ok (workflowGraphStartSteps stepGraph) := by
  unfold workflowGraphStartStepsResult workflowGraphStartSteps workflowGraphSteps
  cases (stepGraph.get "steps").bind Json.asArray with
  | none => rfl
  | some steps =>
      cases steps with
      | nil => rfl
      | cons step rest =>
          simp only [Option.getD_some]
          split
          next some_start => rw [if_neg (by simpa using some_start)]
          next no_start =>
            rw [if_pos (by simpa using no_start)]
            rfl

/-! ### Conditions -/

section

variable {host : Host} {condition : Json}

/-- What a comparison expects, and whether it fails, does not depend on the actual value. -/
theorem comparisonResult_expected {Value : Type} {read : Json → String → Except AppError Value}
    (comparators : List (String × (Value → Value → Bool))) (actual other : Json) :
    (comparisonResult read condition actual comparators).map (Option.map Prod.fst) =
      (comparisonResult read condition other comparators).map (Option.map Prod.fst) := by
  induction comparators with
  | nil => rfl
  | cons comparator rest inductionHypothesis =>
      obtain ⟨key, compare⟩ := comparator
      unfold comparisonResult
      cases condition.get key with
      | none => exact inductionHypothesis
      | some expected =>
          dsimp only
          cases read expected key with
          | error error => rfl
          | ok expectedValue => rfl

theorem firstResult_expected {first first' : Except AppError (Option (Json × Bool))}
    {rest rest' : Except AppError (Json × Bool)}
    (same : first.map (Option.map Prod.fst) = first'.map (Option.map Prod.fst))
    (sameRest : rest.map Prod.fst = rest'.map Prod.fst) :
    (do if let some result ← first then return result
        rest).map Prod.fst =
      (do if let some result ← first' then return result
          rest').map Prod.fst := by
  rcases first with error | (_ | result) <;> rcases first' with error' | (_ | result') <;>
    simp only [Except.map, Option.map, Except.error.injEq, Except.ok.injEq, reduceCtorEq,
      Option.some.injEq] at same
  · subst same
    rfl
  · exact sameRest
  · simp [bind, Except.bind, pure, Except.pure, Except.map, same]

/-- Nor does it at a leaf. -/
theorem leafConditionResult_expected (actual other : Json) :
    (workflowGraphLeafConditionResult host condition actual).map Prod.fst =
      (workflowGraphLeafConditionResult host condition other).map Prod.fst := by
  have numbers := @comparisonResult_expected condition _ workflowGraphConditionNumber
    numericComparators actual other
  have times := @comparisonResult_expected condition _ (workflowGraphConditionDatetime host)
    timeComparators actual other
  unfold workflowGraphLeafConditionResult
  cases condition.get "equals" with
  | some expected => rfl
  | none =>
  cases condition.get "not_equals" with
  | some expected => rfl
  | none =>
  cases condition.get "in" with
  | some expected =>
      dsimp only
      cases expected.asArray <;> rfl
  | none =>
  cases condition.get "not_in" with
  | some expected =>
      dsimp only
      cases expected.asArray <;> rfl
  | none =>
  cases condition.get "exists" with
  | some expected =>
      dsimp only
      cases expected.asBool <;> rfl
  | none =>
  exact firstResult_expected numbers (firstResult_expected times rfl)

/-- A leaf that passes validation is evaluated on any step runs. -/
theorem leafConditionEvaluation_ok_of_valid {stepKeys : List String}
    (valid : validateLeafCondition host stepKeys condition = .ok ())
    (existingSteps : List WorkflowStepRun) :
    ∃ evaluation,
      workflowGraphLeafConditionEvaluation host condition existingSteps = .ok evaluation := by
  obtain ⟨sourceStep, sourceRead, valid⟩ := bind_eq_ok.mp valid
  obtain ⟨-, valid⟩ := guardThen_eq_ok.mp valid
  obtain ⟨path, pathRead, valid⟩ := bind_eq_ok.mp valid
  obtain ⟨expected, leafRead, -⟩ := bind_eq_ok.mp valid
  have independent := fun actual =>
    @leafConditionResult_expected host condition actual .null
  unfold workflowGraphLeafConditionEvaluation
  rw [sourceRead, pathRead]
  dsimp only [bind, Except.bind]
  generalize ((workflowGraphLatestStep existingSteps sourceStep).bind fun step =>
    workflowGraphJsonPath step.outputPayload path).getD .null = actual
  specialize independent actual
  rw [leafRead] at independent
  cases result : workflowGraphLeafConditionResult host condition actual with
  | error error =>
      rw [result] at independent
      cases independent
  | ok found => exact ⟨_, rfl⟩

/-- A condition that passes validation is evaluated on any step runs. -/
theorem conditionEvaluation_ok_of_valid {stepKeys : List String}
    (valid : validateWorkflowGraphCondition host stepKeys condition = .ok ())
    (existingSteps : List WorkflowStepRun) :
    ∃ evaluation,
      workflowGraphConditionEvaluation host existingSteps condition = .ok evaluation := by
  induction condition using workflowGraphConditionEvaluation.induct with
  | case1 condition value isAll inductionHypothesis =>
      rw [validateWorkflowGraphCondition, isAll] at valid
      obtain ⟨items, itemsRead, valid⟩ := bind_eq_ok.mp valid
      obtain ⟨_, _, itemsValid⟩ := bind_eq_ok.mp valid
      obtain ⟨children, evaluated⟩ := exists_mapM_of_forall fun item isItem =>
        inductionHypothesis item (forM_eq_ok.mp itemsValid item isItem)
      rw [workflowGraphConditionEvaluation, isAll]
      dsimp only
      rw [itemsRead]
      dsimp only [bind, Except.bind]
      rw [evaluated]
      exact ⟨_, rfl⟩
  | case2 condition noAll value isAny inductionHypothesis =>
      rw [validateWorkflowGraphCondition, noAll, isAny] at valid
      obtain ⟨items, itemsRead, valid⟩ := bind_eq_ok.mp valid
      obtain ⟨_, _, itemsValid⟩ := bind_eq_ok.mp valid
      obtain ⟨children, evaluated⟩ := exists_mapM_of_forall fun item isItem =>
        inductionHypothesis item (forM_eq_ok.mp itemsValid item isItem)
      rw [workflowGraphConditionEvaluation, noAll, isAny]
      dsimp only
      rw [itemsRead]
      dsimp only [bind, Except.bind]
      rw [evaluated]
      exact ⟨_, rfl⟩
  | case3 condition noAll noAny value isNot inductionHypothesis =>
      rw [validateWorkflowGraphCondition, noAll, noAny, isNot] at valid
      obtain ⟨child, evaluated⟩ := inductionHypothesis valid
      rw [workflowGraphConditionEvaluation, noAll, noAny, isNot]
      dsimp only
      rw [evaluated]
      exact ⟨_, rfl⟩
  | case4 condition noAll noAny noNot =>
      rw [validateWorkflowGraphCondition, noAll, noAny, noNot] at valid
      rw [workflowGraphConditionEvaluation, noAll, noAny, noNot]
      exact leafConditionEvaluation_ok_of_valid valid existingSteps

/-! ### Accepted graphs -/

/-- The readers of a step that do not look at the whole graph succeed. -/
structure StepReads (host : Host) (existingSteps : List WorkflowStepRun) (step : Json) : Prop where
  dependencies : (workflowGraphStepDependencies step).isOk
  failureSources : (workflowGraphStepFailureSources step).isOk
  retryPolicy : (workflowGraphStepRetryPolicy step).isOk
  condition : (workflowGraphStepConditionEvaluation host step existingSteps).isOk

/-- The readers of a graph succeed on the step runs so far. -/
structure GraphReads (host : Host) (stepGraph : Json) (existingSteps : List WorkflowStepRun) :
    Prop where
  starts : (workflowGraphStartStepsResult stepGraph).isOk
  ready : (workflowGraphReadySteps stepGraph existingSteps).isOk
  maxParallel : (workflowGraphFanOutMaxParallel stepGraph).isOk
  steps : ∀ step ∈ workflowGraphSteps stepGraph, StepReads host existingSteps step

theorem isOk_of_eq_ok {Error Value : Type} {result : Except Error Value} {value : Value}
    (isValue : result = .ok value) : result.isOk := by
  rw [isValue]
  rfl

theorem stepConditionEvaluation_ok_of_valid {stepKeys : List String} {step : Json}
    (valid : validateStep host stepKeys step = .ok ()) (existingSteps : List WorkflowStepRun) :
    (workflowGraphStepConditionEvaluation host step existingSteps).isOk := by
  obtain ⟨_, _, valid⟩ := bind_eq_ok.mp valid
  obtain ⟨_, _, valid⟩ := bind_eq_ok.mp valid
  obtain ⟨_, valid⟩ := guardThen_eq_ok.mp valid
  obtain ⟨_, _, valid⟩ := bind_eq_ok.mp valid
  obtain ⟨_, _, valid⟩ := bind_eq_ok.mp valid
  obtain ⟨_, _, valid⟩ := bind_eq_ok.mp valid
  obtain ⟨_, _, valid⟩ := bind_eq_ok.mp valid
  obtain ⟨_, _, valid⟩ := bind_eq_ok.mp valid
  unfold workflowGraphStepConditionEvaluation
  split at valid
  next condition isCondition =>
    obtain ⟨evaluation, evaluated⟩ := conditionEvaluation_ok_of_valid valid existingSteps
    rw [isCondition]
    dsimp only
    rw [evaluated]
    rfl
  next noCondition =>
    rw [noCondition]
    rfl

theorem stepReads_of_valid {stepKeys : List String} {step : Json}
    (valid : validateStep host stepKeys step = .ok ()) (existingSteps : List WorkflowStepRun) :
    StepReads host existingSteps step := by
  obtain ⟨planStep, rfl, -, -⟩ := exists_planStep_of_validateStep valid
  constructor
  case dependencies => exact isOk_of_eq_ok planStep.dependencies_read
  case failureSources => exact isOk_of_eq_ok planStep.failureSources_read
  case retryPolicy => exact isOk_of_eq_ok planStep.retryPolicy_read
  case condition => exact stepConditionEvaluation_ok_of_valid valid existingSteps

/-- Every step of an accepted graph passes the validation of steps. -/
theorem validateStep_of_accepted {stepGraph : Json}
    (accepted : validateWorkflowGraphDefinition host stepGraph = .ok ()) :
    ∃ keys, ∀ step ∈ workflowGraphSteps stepGraph, validateStep host keys step = .ok () := by
  unfold validateWorkflowGraphDefinition at accepted
  split at accepted
  · rename_i noSteps
    exact ⟨[], by simp [workflowGraphSteps, noSteps]⟩
  · rename_i stepsValue hasSteps
    obtain ⟨steps, isArray, accepted⟩ := bind_eq_ok.mp accepted
    obtain ⟨-, accepted⟩ := guardThen_eq_ok.mp accepted
    obtain ⟨keys, -, accepted⟩ := bind_eq_ok.mp accepted
    obtain ⟨⟨⟩, stepsValid, -⟩ := bind_eq_ok.mp accepted
    have listed : workflowGraphSteps stepGraph = steps := by
      simp [workflowGraphSteps, hasSteps, okOr_eq_ok.mp isArray]
    exact ⟨keys, listed ▸ forM_eq_ok.mp stepsValid⟩

/-- The readers of an accepted graph succeed, whatever step runs there are. -/
theorem validated_graph_never_fails (host : Host) (stepGraph : Json)
    (accepted : validateWorkflowGraphDefinition host stepGraph = .ok ())
    (existingSteps : List WorkflowStepRun) : GraphReads host stepGraph existingSteps := by
  obtain ⟨keys, stepsValid⟩ := validateStep_of_accepted accepted
  obtain ⟨plan, rfl⟩ := exists_plan_of_accepted accepted
  constructor
  case starts => exact isOk_of_eq_ok (workflowGraphStartStepsResult_eq plan.stepGraph)
  case ready => exact isOk_of_eq_ok (plan.workflowGraphReadySteps_eq existingSteps)
  case maxParallel => exact isOk_of_eq_ok plan.maxParallel_read
  case steps => exact fun step inside => stepReads_of_valid (stepsValid step inside) existingSteps

end

def gatedReview : Json :=
  .ofFields [("steps", .array [
    .ofFields [("key", .string "draft")],
    .ofFields [("key", .string "review"), ("needs", .string "draft"),
      ("when", .ofFields [("not", .ofFields [("any", .array [
        .ofFields [("step", .string "draft"), ("path", .string "score"),
          ("lt", .ofNat 3)]])])])]])]

def noClock : Host where
  parseUuid _ := none
  parseRfc3339 _ := none
  printUuid _ := ""
  printTimestamp _ := ""

def scoredInWords : WorkflowStepRun where
  id := 1
  workflowRunId := 2
  stepKey := "draft"
  stepType := "agent"
  agentId := none
  agentVersionId := none
  sessionId := none
  threadId := none
  taskGrantId := none
  environmentId := none
  status := .completed
  inputPayload := .null
  outputPayload := .ofFields [("score", .string "low")]
  claimedByWorker := none
  claimOwnerVersion := 0
  leaseExpiresAt := none
  scheduledAt := none

theorem gatedReview_reads :
    validateWorkflowGraphDefinition noClock gatedReview = .ok () ∧
      GraphReads noClock gatedReview [scoredInWords] := by
  have accepted : validateWorkflowGraphDefinition noClock gatedReview = .ok () := by
    decide +kernel
  exact ⟨accepted, validated_graph_never_fails noClock gatedReview accepted [scoredInWords]⟩

end MandoForge
