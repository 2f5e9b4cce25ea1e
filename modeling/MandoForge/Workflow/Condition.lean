/-
Module: MandoForge.Workflow.Condition
Purpose: The branch conditions of graph steps: their evaluation on the outputs of
  earlier step runs, and their validation.
Trusted boundary: comparisons of floats are comparisons of the rational numbers
  they denote.
Main exports: workflowGraphStepConditionEvaluation, validateWorkflowGraphCondition
-/
import MandoForge.Workflow.Graph

namespace MandoForge

open Foundation

structure WorkflowGraphConditionEvaluation where
  condition : Json
  sourceStep : Option WorkflowStepRun
  path : Option String
  actual : Json
  expected : Json
  isMatched : Bool
deriving DecidableEq, Repr

def workflowGraphConditionEvaluationPayload (evaluation : WorkflowGraphConditionEvaluation) :
    Json :=
  .ofFields [("condition", evaluation.condition),
    ("path", (evaluation.path.map Json.string).getD .null), ("actual", evaluation.actual),
    ("expected", evaluation.expected), ("matched", .bool evaluation.isMatched)]

/-! ### Leaves -/

def workflowGraphConditionNumber (value : Json) (key : String) : Except AppError Rat :=
  okOr value.asF64
    (.badRequest ("workflow graph step condition " ++ key ++ " must be a number"))

def workflowGraphConditionDatetime (host : Host) (value : Json) (key : String) :
    Except AppError Timestamp :=
  okOr ((trimmedText (some value)).bind host.parseRfc3339)
    (.badRequest ("workflow graph step condition " ++ key ++
      " must be an RFC3339 timestamp string"))

/-- `WorkflowGraphNumericComparator`, with the condition keys in the order they
are tried. -/
def numericComparators : List (String × (Rat → Rat → Bool)) :=
  [("greater_than", fun actual expected => decide (expected < actual)),
    ("gt", fun actual expected => decide (expected < actual)),
    ("greater_than_or_equals", fun actual expected => decide (expected ≤ actual)),
    ("gte", fun actual expected => decide (expected ≤ actual)),
    ("less_than", fun actual expected => decide (actual < expected)),
    ("lt", fun actual expected => decide (actual < expected)),
    ("less_than_or_equals", fun actual expected => decide (actual ≤ expected)),
    ("lte", fun actual expected => decide (actual ≤ expected))]

/-- `WorkflowGraphTimeComparator`, likewise. -/
def timeComparators : List (String × (Timestamp → Timestamp → Bool)) :=
  [("after", fun actual expected => decide (expected < actual)),
    ("on_or_after", fun actual expected => decide (expected ≤ actual)),
    ("before", fun actual expected => decide (actual < expected)),
    ("on_or_before", fun actual expected => decide (actual ≤ expected))]

/-- The first comparison key that the condition has decides; an actual value of
another kind does not match. -/
def comparisonResult {Value : Type} (read : Json → String → Except AppError Value)
    (condition actual : Json) :
    List (String × (Value → Value → Bool)) → Except AppError (Option (Json × Bool))
  | [] => .ok none
  | (key, compare) :: rest =>
      match condition.get key with
      | none => comparisonResult read condition actual rest
      | some expected => do
          let expectedValue ← read expected key
          let isMatched := match read actual key with
            | .ok actualValue => compare actualValue expectedValue
            | .error _ => false
          return some (expected, isMatched)

def workflowGraphLeafConditionResult (host : Host) (condition actual : Json) :
    Except AppError (Json × Bool) := do
  if let some expected := condition.get "equals" then
    return (expected, decide (actual = expected))
  if let some expected := condition.get "not_equals" then
    return (expected, decide (actual ≠ expected))
  if let some expected := condition.get "in" then
    let items ← okOr expected.asArray
      (.badRequest "workflow graph step condition in must be an array")
    return (expected, items.any fun item => decide (item = actual))
  if let some expected := condition.get "not_in" then
    let items ← okOr expected.asArray
      (.badRequest "workflow graph step condition not_in must be an array")
    return (expected, !items.any fun item => decide (item = actual))
  if let some expected := condition.get "exists" then
    let flag ← okOr expected.asBool
      (.badRequest "workflow graph step condition exists must be a boolean")
    return (.bool flag, decide (actual ≠ .null) == flag)
  if let some result ← comparisonResult workflowGraphConditionNumber condition actual
      numericComparators then
    return result
  if let some result ← comparisonResult (workflowGraphConditionDatetime host) condition actual
      timeComparators then
    return result
  return (.bool true, decide (actual = .bool true))

def workflowGraphJsonPath (value : Json) (path : String) : Option Json :=
  ((splitOnDot path).filterMap nonEmptyTrimmed).foldlM Json.get value

/-- The key of the step a leaf condition reads. -/
def conditionSourceStep (condition : Json) : Except AppError String :=
  okOr (trimmedText (condition.getFirst ["source_step", "step"]))
    (.badRequest "workflow graph step condition requires source_step")

def conditionPath (condition : Json) : Except AppError String :=
  okOr (trimmedText (condition.get "path"))
    (.badRequest "workflow graph step condition requires path")

/-- The leaf case of `workflow_graph_condition_evaluation`. -/
def workflowGraphLeafConditionEvaluation (host : Host) (condition : Json)
    (existingSteps : List WorkflowStepRun) :
    Except AppError WorkflowGraphConditionEvaluation := do
  let sourceStepKey ← conditionSourceStep condition
  let path ← conditionPath condition
  let sourceStep := workflowGraphLatestStep existingSteps sourceStepKey
  let actual := (sourceStep.bind fun step =>
    workflowGraphJsonPath step.outputPayload path).getD .null
  let (expected, isMatched) ← workflowGraphLeafConditionResult host condition actual
  return { condition, sourceStep, path := some path, actual, expected, isMatched }

/-! ### Compound conditions -/

theorem sizeOf_getField_lt {key : String} {fields : List (String × Json)} {value : Json}
    (found : Json.getField key fields = some value) : sizeOf value < sizeOf fields := by
  induction fields with
  | nil => simp [Json.getField] at found
  | cons field rest inductionHypothesis =>
      obtain ⟨name, first⟩ := field
      simp only [Json.getField] at found
      split at found
      · cases found
        simp
        omega
      · have := inductionHypothesis found
        simp
        omega

theorem sizeOf_get_lt {condition value : Json} {key : String}
    (found : condition.get key = some value) : sizeOf value < sizeOf condition := by
  cases condition with
  | object fields =>
      have := sizeOf_getField_lt found
      simp
      omega
  | _ => simp [Json.get] at found

theorem sizeOf_item_lt (items : List Json) (item : { item // item ∈ items }) :
    sizeOf item.1 < sizeOf (Json.array items) := by
  have := List.sizeOf_lt_of_mem item.2
  simp
  omega

/-- The items of an operator, each a smaller condition. -/
def conditionItems (operator : String) (value : Json) :
    Except AppError (List { item : Json // sizeOf item < sizeOf value }) :=
  match value with
  | .array items =>
      if items.isEmpty then
        .error (.badRequest ("workflow graph step condition " ++ operator ++
          " must not be empty"))
      else
        .ok (items.attach.map fun item => ⟨item.1, sizeOf_item_lt items item⟩)
  | _ => .error (.badRequest ("workflow graph step condition " ++ operator ++
      " must be an array"))

/-- The result of an operator over the evaluations of its items. -/
def compoundEvaluation (condition : Json) (operator : String) (isMatched : Bool)
    (children : List WorkflowGraphConditionEvaluation) (payload : Json) :
    WorkflowGraphConditionEvaluation where
  condition := condition
  sourceStep := children.findSome? WorkflowGraphConditionEvaluation.sourceStep
  path := none
  actual := .ofFields [("operator", .string operator), ("matched", .bool isMatched),
    (operator, payload)]
  expected := .bool true
  isMatched := isMatched

/-- `workflow_graph_condition_evaluation`, with its array case
(`workflow_graph_condition_array`) inlined twice. -/
def workflowGraphConditionEvaluation (host : Host) (existingSteps : List WorkflowStepRun)
    (condition : Json) : Except AppError WorkflowGraphConditionEvaluation :=
  match _isAll : condition.get "all" with
  | some value => do
      let items ← conditionItems "all" value
      let children ← items.mapM fun item =>
        workflowGraphConditionEvaluation host existingSteps item.1
      return compoundEvaluation condition "all" (children.all (·.isMatched)) children
        (.array (children.map workflowGraphConditionEvaluationPayload))
  | none =>
      match _isAny : condition.get "any" with
      | some value => do
          let items ← conditionItems "any" value
          let children ← items.mapM fun item =>
            workflowGraphConditionEvaluation host existingSteps item.1
          return compoundEvaluation condition "any" (children.any (·.isMatched)) children
            (.array (children.map workflowGraphConditionEvaluationPayload))
      | none =>
          match _isNot : condition.get "not" with
          | some value => do
              let child ← workflowGraphConditionEvaluation host existingSteps value
              return compoundEvaluation condition "not" (!child.isMatched) [child]
                (workflowGraphConditionEvaluationPayload child)
          | none => workflowGraphLeafConditionEvaluation host condition existingSteps
termination_by sizeOf condition
decreasing_by
  · exact item.2.trans (sizeOf_get_lt _isAll)
  · exact item.2.trans (sizeOf_get_lt _isAny)
  · exact sizeOf_get_lt _isNot

/-- The condition of a step, if it has one. -/
def workflowGraphStepCondition (step : Json) : Option Json :=
  step.getFirst ["condition", "when"]

def workflowGraphStepConditionEvaluation (host : Host) (step : Json)
    (existingSteps : List WorkflowStepRun) :
    Except AppError (Option WorkflowGraphConditionEvaluation) :=
  match workflowGraphStepCondition step with
  | none => .ok none
  | some condition =>
      (workflowGraphConditionEvaluation host existingSteps condition).map some

/-- The leaf case of `validate_workflow_graph_condition`. -/
def validateLeafCondition (host : Host) (stepKeys : List String) (condition : Json) :
    Except AppError Unit := do
  let sourceStep ← conditionSourceStep condition
  if ¬sourceStep ∈ stepKeys then
    throw (.badRequest ("workflow graph step condition references unknown source_step " ++
      sourceStep))
  let _ ← conditionPath condition
  let _ ← workflowGraphLeafConditionResult host condition .null

/-- `validate_workflow_graph_condition`.  The items of an operator are evaluated
without step runs before they are validated. -/
def validateWorkflowGraphCondition (host : Host) (stepKeys : List String) (condition : Json) :
    Except AppError Unit :=
  match _isAll : condition.get "all" with
  | some value => do
      let items ← conditionItems "all" value
      let _ ← items.mapM fun item => workflowGraphConditionEvaluation host [] item.1
      items.forM fun item => validateWorkflowGraphCondition host stepKeys item.1
  | none =>
      match _isAny : condition.get "any" with
      | some value => do
          let items ← conditionItems "any" value
          let _ ← items.mapM fun item => workflowGraphConditionEvaluation host [] item.1
          items.forM fun item => validateWorkflowGraphCondition host stepKeys item.1
      | none =>
          match _isNot : condition.get "not" with
          | some value => validateWorkflowGraphCondition host stepKeys value
          | none => validateLeafCondition host stepKeys condition
termination_by sizeOf condition
decreasing_by
  · exact item.2.trans (sizeOf_get_lt _isAll)
  · exact item.2.trans (sizeOf_get_lt _isAny)
  · exact sizeOf_get_lt _isNot

end MandoForge
