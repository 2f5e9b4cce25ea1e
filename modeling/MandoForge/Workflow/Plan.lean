/-
Module: MandoForge.Workflow.Plan
Purpose: Validation of step graphs, and plans: step graphs whose readers succeed,
  with what they read.  Every accepted graph is one, so the engine can be studied
  on plans.
Trusted boundary: none beyond the graph readers
Main exports: validateWorkflowGraphDefinition, Plan
-/
import MandoForge.Workflow.Condition
import Mathlib.Data.List.Nodup

namespace MandoForge

open Foundation

/-! ### Validation -/

/-- The first loop of `validate_workflow_graph_definition`: objects with
pairwise different keys. -/
def validateStepKeys : (seen : List String) → List Json → Except AppError (List String)
  | seen, [] => .ok seen
  | seen, step :: rest => do
      if !step.isObject then
        throw (.badRequest "workflow graph steps must be JSON objects")
      let key ← workflowGraphStepKey step
      if key ∈ seen then
        throw (.badRequest ("workflow graph step key " ++ key ++ " is duplicated"))
      validateStepKeys (seen ++ [key]) rest

/-- The second loop, for one step. -/
def validateStep (host : Host) (keys : List String) (step : Json) : Except AppError Unit := do
  let key ← workflowGraphStepKey step
  let dependencies ← workflowGraphStepDependencies step
  if key ∈ dependencies then
    throw (.badRequest ("workflow graph step " ++ key ++ " cannot depend on itself"))
  dependencies.forM fun dependency =>
    if ¬dependency ∈ keys then
      throw (.badRequest ("workflow graph step " ++ key ++ " depends on unknown step " ++
        dependency))
    else pure ()
  let failureSources ← workflowGraphStepFailureSources step
  failureSources.forM fun source =>
    if ¬source ∈ keys then
      throw (.badRequest ("workflow graph step " ++ key ++
        " references unknown failure source " ++ source))
    else pure ()
  let _ ← workflowGraphStepRetryPolicy step
  let _ ← workflowGraphFanInReadiness step dependencies fun _ => none
  match workflowGraphStepCondition step with
  | some condition => validateWorkflowGraphCondition host keys condition
  | none => pure ()

def validateWorkflowGraphDefinition (host : Host) (stepGraph : Json) : Except AppError Unit := do
  match stepGraph.get "steps" with
  | none =>
      let _ ← workflowGraphFanOutMaxParallel stepGraph
  | some stepsValue =>
      let steps ← okOr stepsValue.asArray
        (.badRequest "workflow graph steps must be an array")
      if steps.isEmpty then
        throw (.badRequest "workflow graph steps must not be empty when provided")
      let keys ← validateStepKeys [] steps
      steps.forM (validateStep host keys)
      (workflowGraphStartSteps stepGraph).forM fun start => do
        let _ ← workflowGraphStepKey start
      let _ ← workflowGraphFanOutMaxParallel stepGraph

/-! ### What a graph step declares -/

/-- The declared failure sources of a graph step. -/
def declaredFailureSources (graphStep : Json) : List String :=
  (workflowGraphStepFailureSources graphStep).toOption.getD []

/-- The dependencies of a step, and how many of them have to succeed. -/
structure DeclaredJoin where
  dependencies : List String
  minSuccess : Nat
deriving DecidableEq, Repr

def declaredJoin (graphStep : Json) : Except AppError DeclaredJoin := do
  let dependencies ← workflowGraphStepDependencies graphStep
  let mode ← workflowGraphFanInMode graphStep
  let minSuccess ← workflowGraphFanInMinSuccess graphStep mode dependencies.length
  return { dependencies, minSuccess }

/-! ### Plans -/

/-- A graph step with what the readers read of it. -/
structure PlanStep where
  graphStep : Json
  key : String
  dependencies : List String
  failureSources : List String
  fanInMode : WorkflowGraphFanInMode
  minSuccess : Nat
  retryPolicy : WorkflowGraphRetryPolicy
  key_read : workflowGraphStepKey graphStep = .ok key
  dependencies_read : workflowGraphStepDependencies graphStep = .ok dependencies
  failureSources_read : workflowGraphStepFailureSources graphStep = .ok failureSources
  fanInMode_read : workflowGraphFanInMode graphStep = .ok fanInMode
  minSuccess_read : workflowGraphFanInMinSuccess graphStep fanInMode dependencies.length =
    .ok minSuccess
  retryPolicy_read : workflowGraphStepRetryPolicy graphStep = .ok retryPolicy
deriving DecidableEq

/-- A step graph with what the readers read of it: distinct keys, and references
that stay inside. -/
structure Plan where
  stepGraph : Json
  steps : List PlanStep
  starts : List PlanStep
  maxParallel : Option Nat
  steps_read : workflowGraphSteps stepGraph = steps.map PlanStep.graphStep
  starts_read : workflowGraphStartSteps stepGraph = starts.map PlanStep.graphStep
  maxParallel_read : workflowGraphFanOutMaxParallel stepGraph = .ok maxParallel
  distinctKeys : (steps.map PlanStep.key).Nodup
  dependencies_known : ∀ step ∈ steps, ∀ dependency ∈ step.dependencies,
    dependency ∈ steps.map PlanStep.key
  sources_known : ∀ step ∈ steps, ∀ source ∈ step.failureSources,
    source ∈ steps.map PlanStep.key

namespace PlanStep

theorem eq_of_graphStep {first second : PlanStep}
    (same : first.graphStep = second.graphStep) : first = second := by
  obtain ⟨_, _, _, _, _, _, _, key, dependencies, sources, mode, minSuccess, retry⟩ := first
  obtain ⟨_, _, _, _, _, _, _, key', dependencies', sources', mode', minSuccess', retry'⟩ :=
    second
  cases same
  cases key.symm.trans key'
  cases dependencies.symm.trans dependencies'
  cases sources.symm.trans sources'
  cases mode.symm.trans mode'
  cases minSuccess.symm.trans minSuccess'
  cases retry.symm.trans retry'
  rfl

theorem declaredFailureSources_eq (step : PlanStep) :
    declaredFailureSources step.graphStep = step.failureSources := by
  unfold declaredFailureSources
  rw [step.failureSources_read]
  rfl

theorem declaredJoin_eq (step : PlanStep) :
    declaredJoin step.graphStep = .ok ⟨step.dependencies, step.minSuccess⟩ := by
  unfold declaredJoin
  rw [step.dependencies_read, step.fanInMode_read]
  simp only [bind, Except.bind, step.minSuccess_read]
  rfl

theorem maxAttempts_pos (step : PlanStep) : 1 ≤ step.retryPolicy.maxAttempts := by
  have read := step.retryPolicy_read
  unfold workflowGraphStepRetryPolicy at read
  split at read
  · rw [← Except.ok.inj read]
  · obtain ⟨attempts, -, checked⟩ := bind_eq_ok.mp read
    obtain ⟨positive, rest⟩ := guardThen_eq_ok.mp checked
    obtain ⟨delay, -, result⟩ := bind_eq_ok.mp rest
    rw [← Except.ok.inj result]
    exact Nat.pos_of_ne_zero positive

end PlanStep

namespace Plan

theorem maxParallel_pos (plan : Plan) {limit : Nat} (limited : plan.maxParallel = some limit) :
    1 ≤ limit := by
  have read := plan.maxParallel_read
  rw [limited] at read
  unfold workflowGraphFanOutMaxParallel at read
  split at read
  · cases read
  · dsimp only at read
    split at read
    all_goals
      obtain ⟨_, -, read⟩ := bind_eq_ok.mp read
      obtain ⟨found, -, checked⟩ := bind_eq_ok.mp read
      obtain ⟨positive, result⟩ := guardThen_eq_ok.mp checked
      cases result
      exact Nat.pos_of_ne_zero positive

theorem exists_step (plan : Plan) {graphStep : Json}
    (inside : graphStep ∈ workflowGraphSteps plan.stepGraph) :
    ∃ step ∈ plan.steps, step.graphStep = graphStep := by
  rw [plan.steps_read] at inside
  exact List.mem_map.mp inside

theorem mem_of_graphStep (plan : Plan) {step : PlanStep}
    (inside : step.graphStep ∈ workflowGraphSteps plan.stepGraph) : step ∈ plan.steps := by
  obtain ⟨found, member, same⟩ := plan.exists_step inside
  rw [← PlanStep.eq_of_graphStep same]
  exact member

theorem eq_of_key (plan : Plan) {first second : PlanStep} (firstIn : first ∈ plan.steps)
    (secondIn : second ∈ plan.steps) (same : first.key = second.key) : first = second :=
  List.inj_on_of_nodup_map plan.distinctKeys firstIn secondIn same

theorem startSteps_sublist (stepGraph : Json) :
    (workflowGraphStartSteps stepGraph).Sublist (workflowGraphSteps stepGraph) := by
  unfold workflowGraphStartSteps
  dsimp only
  split
  · cases workflowGraphSteps stepGraph with
    | nil => exact List.Sublist.refl []
    | cons first rest => simp
  · exact List.filter_sublist

theorem starts_subset (plan : Plan) : ∀ start ∈ plan.starts, start ∈ plan.steps := by
  intro start isStart
  apply plan.mem_of_graphStep
  apply (startSteps_sublist plan.stepGraph).subset
  rw [plan.starts_read]
  exact List.mem_map_of_mem isStart

theorem distinctSteps (plan : Plan) : plan.steps.Nodup :=
  List.Nodup.of_map _ plan.distinctKeys

theorem starts_nodup (plan : Plan) : plan.starts.Nodup := by
  have graphSteps : (plan.steps.map PlanStep.graphStep).Nodup :=
    plan.distinctSteps.map fun _ _ => PlanStep.eq_of_graphStep
  have starts := startSteps_sublist plan.stepGraph
  rw [plan.starts_read, plan.steps_read] at starts
  exact List.Nodup.of_map _ (starts.nodup graphSteps)

end Plan

/-! ### Accepted graphs -/

/-- A step that passes validation is a step of a plan. -/
theorem exists_planStep_of_validateStep {host : Host} {keys : List String} {graphStep : Json}
    (valid : validateStep host keys graphStep = .ok ()) :
    ∃ step : PlanStep, step.graphStep = graphStep ∧
      (∀ dependency ∈ step.dependencies, dependency ∈ keys) ∧
      ∀ source ∈ step.failureSources, source ∈ keys := by
  unfold validateStep at valid
  obtain ⟨key, key_read, valid⟩ := bind_eq_ok.mp valid
  obtain ⟨dependencies, dependencies_read, valid⟩ := bind_eq_ok.mp valid
  obtain ⟨-, valid⟩ := guardThen_eq_ok.mp valid
  obtain ⟨⟨⟩, dependencies_known, valid⟩ := bind_eq_ok.mp valid
  obtain ⟨failureSources, failureSources_read, valid⟩ := bind_eq_ok.mp valid
  obtain ⟨⟨⟩, sources_known, valid⟩ := bind_eq_ok.mp valid
  obtain ⟨retryPolicy, retryPolicy_read, valid⟩ := bind_eq_ok.mp valid
  obtain ⟨fanIn, fanIn_read, -⟩ := bind_eq_ok.mp valid
  obtain ⟨fanInMode, fanInMode_read, fanIn_read⟩ := bind_eq_ok.mp fanIn_read
  obtain ⟨minSuccess, minSuccess_read, -⟩ := bind_eq_ok.mp fanIn_read
  refine ⟨⟨graphStep, key, dependencies, failureSources, fanInMode, minSuccess, retryPolicy,
    key_read, dependencies_read, failureSources_read, fanInMode_read, minSuccess_read,
    retryPolicy_read⟩, rfl, ?_, ?_⟩
  · intro dependency isDependency
    have known := guard_eq_ok.mp (forM_eq_ok.mp dependencies_known dependency isDependency)
    exact not_not.mp known
  · intro source isSource
    have known := guard_eq_ok.mp (forM_eq_ok.mp sources_known source isSource)
    exact not_not.mp known

/-- The key check collects the keys, new ones only. -/
theorem validateStepKeys_eq_ok {steps : List Json} {seen keys : List String}
    (valid : validateStepKeys seen steps = .ok keys) (distinct : seen.Nodup) :
    ∃ read, keys = seen ++ read ∧ keys.Nodup ∧
      List.Forall₂ (fun step key => workflowGraphStepKey step = .ok key) steps read := by
  induction steps generalizing seen with
  | nil =>
      cases valid
      exact ⟨[], by simp, distinct, .nil⟩
  | cons step rest inductionHypothesis =>
      unfold validateStepKeys at valid
      obtain ⟨-, valid⟩ := guardThen_eq_ok.mp valid
      obtain ⟨key, key_read, valid⟩ := bind_eq_ok.mp valid
      obtain ⟨new, valid⟩ := guardThen_eq_ok.mp valid
      have extended : (seen ++ [key]).Nodup := by
        apply List.Nodup.append distinct (List.nodup_singleton key)
        rw [List.disjoint_singleton]
        exact new
      obtain ⟨read, rfl, allDistinct, reads⟩ := inductionHypothesis valid extended
      exact ⟨key :: read, by simp, allDistinct, .cons key_read reads⟩

theorem exists_map_eq {Source Item : Type} {read : Source → Item} {good : Source → Prop}
    {items : List Item} (each : ∀ item ∈ items, ∃ source, read source = item ∧ good source) :
    ∃ sources : List Source, sources.map read = items ∧ ∀ source ∈ sources, good source := by
  induction items with
  | nil => exact ⟨[], rfl, by simp⟩
  | cons item items inductionHypothesis =>
      rw [List.forall_mem_cons] at each
      obtain ⟨source, rfl, isGood⟩ := each.1
      obtain ⟨sources, rfl, areGood⟩ := inductionHypothesis each.2
      exact ⟨source :: sources, rfl, List.forall_mem_cons.mpr ⟨isGood, areGood⟩⟩

theorem keys_eq_map {steps : List PlanStep} {keys : List String}
    (reads : List.Forall₂ (fun step key => workflowGraphStepKey step = .ok key)
      (steps.map PlanStep.graphStep) keys) : keys = steps.map PlanStep.key := by
  rw [List.forall₂_map_left_iff] at reads
  induction reads with
  | nil => rfl
  | cons read _ inductionHypothesis =>
      rename_i step key _ _ _
      rw [List.map_cons, ← inductionHypothesis,
        Except.ok.inj (step.key_read.symm.trans read)]

/-- The keys and the steps of a valid graph fit together in a plan. -/
theorem exists_plan_of_valid {host : Host} {stepGraph : Json} {steps : List Json}
    {keys : List String} {maxParallel : Option Nat}
    (listed : workflowGraphSteps stepGraph = steps)
    (keys_read : validateStepKeys [] steps = .ok keys)
    (stepsValid : ∀ graphStep ∈ steps, validateStep host keys graphStep = .ok ())
    (maxParallel_read : workflowGraphFanOutMaxParallel stepGraph = .ok maxParallel) :
    ∃ plan : Plan, plan.stepGraph = stepGraph := by
  obtain ⟨read, rfl, distinctKeys, keyReads⟩ :=
    validateStepKeys_eq_ok keys_read List.nodup_nil
  obtain ⟨planSteps, rfl, known⟩ := exists_map_eq fun graphStep inside =>
    exists_planStep_of_validateStep (stepsValid graphStep inside)
  cases keys_eq_map keyReads
  have isStep : ∀ start ∈ workflowGraphStartSteps stepGraph,
      ∃ step : PlanStep, step.graphStep = start ∧ True := by
    intro start isStart
    have inside := (Plan.startSteps_sublist stepGraph).subset isStart
    rw [listed] at inside
    obtain ⟨step, -, same⟩ := List.mem_map.mp inside
    exact ⟨step, same, trivial⟩
  obtain ⟨starts, starts_read, -⟩ := exists_map_eq isStep
  exact ⟨⟨stepGraph, planSteps, starts, maxParallel, listed, starts_read.symm,
    maxParallel_read, distinctKeys, fun step inside => (known step inside).1,
    fun step inside => (known step inside).2⟩, rfl⟩

theorem exists_plan_of_accepted {host : Host} {stepGraph : Json}
    (accepted : validateWorkflowGraphDefinition host stepGraph = .ok ()) :
    ∃ plan : Plan, plan.stepGraph = stepGraph := by
  unfold validateWorkflowGraphDefinition at accepted
  split at accepted
  · rename_i noSteps
    obtain ⟨maxParallel, maxParallel_read, -⟩ := bind_eq_ok.mp accepted
    have steps_read : workflowGraphSteps stepGraph = [] := by simp [workflowGraphSteps, noSteps]
    have starts_read : workflowGraphStartSteps stepGraph = [] := by
      simp [workflowGraphStartSteps, steps_read]
    exact ⟨⟨stepGraph, [], [], maxParallel, steps_read, starts_read, maxParallel_read,
      List.nodup_nil, by simp, by simp⟩, rfl⟩
  · rename_i stepsValue hasSteps
    obtain ⟨steps, isArray, accepted⟩ := bind_eq_ok.mp accepted
    obtain ⟨-, accepted⟩ := guardThen_eq_ok.mp accepted
    obtain ⟨keys, keys_read, accepted⟩ := bind_eq_ok.mp accepted
    obtain ⟨⟨⟩, stepsValid, accepted⟩ := bind_eq_ok.mp accepted
    obtain ⟨⟨⟩, -, accepted⟩ := bind_eq_ok.mp accepted
    obtain ⟨maxParallel, maxParallel_read, -⟩ := bind_eq_ok.mp accepted
    have listed : workflowGraphSteps stepGraph = steps := by
      simp [workflowGraphSteps, hasSteps, okOr_eq_ok.mp isArray]
    exact exists_plan_of_valid listed keys_read (forM_eq_ok.mp stepsValid) maxParallel_read

/-! ### Ready steps -/

namespace PlanStep

/-- The dependencies of the step whose latest step run succeeded. -/
def successfulDependencies (step : PlanStep) (existingSteps : List WorkflowStepRun) :
    List String :=
  step.dependencies.filter fun dependency =>
    (statusByKey existingSteps dependency).any workflowStepStatusSuccessful

/-- The step has no step run, it has dependencies, and enough of them succeeded. -/
def isReady (existingSteps : List WorkflowStepRun) (step : PlanStep) : Bool :=
  (workflowGraphLatestStep existingSteps step.key).isNone && !step.dependencies.isEmpty &&
    decide (step.minSuccess ≤ (step.successfulDependencies existingSteps).length)

/-- The ready step with what its join saw. -/
def readyStep (existingSteps : List WorkflowStepRun) (step : PlanStep) :
    WorkflowGraphReadyStep where
  graphStep := step.graphStep
  fanIn := {
    mode := step.fanInMode
    minSuccess := step.minSuccess
    dependencies := step.dependencies
    successfulDependencies := step.successfulDependencies existingSteps
    failedDependencies := step.dependencies.filter fun dependency =>
      !(statusByKey existingSteps dependency).any workflowStepStatusSuccessful &&
        (statusByKey existingSteps dependency).any fun status =>
          status == .failed || status == .canceled
    pendingDependencies := step.dependencies.filter fun dependency =>
      !(statusByKey existingSteps dependency).any workflowStepStatusSuccessful &&
        !(statusByKey existingSteps dependency).any fun status =>
          status == .failed || status == .canceled }

theorem workflowGraphReadyStep_eq (step : PlanStep) (existingSteps : List WorkflowStepRun) :
    workflowGraphReadyStep existingSteps step.graphStep =
      .ok (if step.isReady existingSteps then some (step.readyStep existingSteps)
        else none) := by
  unfold workflowGraphReadyStep
  rw [step.key_read]
  simp only [bind, Except.bind, pure, Except.pure]
  split
  · rename_i present
    simp [isReady, Option.isSome_iff_ne_none.mp present]
  · rename_i absent
    rw [step.dependencies_read]
    dsimp only
    split
    · rename_i noDependencies
      simp [isReady, noDependencies]
    · rename_i someDependency
      simp only [workflowGraphFanInReadiness, bind, Except.bind, step.fanInMode_read,
        step.minSuccess_read, pure, Except.pure, workflowGraphFanInReady]
      simp only [isReady, Option.not_isSome_iff_eq_none.mp absent, someDependency,
        Option.isNone_none, Bool.not_false, Bool.and_self, Bool.true_and]
      rfl

end PlanStep

namespace Plan

/-- The ready steps of the plan. -/
def ready (plan : Plan) (existingSteps : List WorkflowStepRun) : List PlanStep :=
  plan.steps.filter (PlanStep.isReady existingSteps)

theorem workflowGraphReadySteps_eq (plan : Plan) (existingSteps : List WorkflowStepRun) :
    workflowGraphReadySteps plan.stepGraph existingSteps =
      .ok ((plan.ready existingSteps).map (PlanStep.readyStep existingSteps)) := by
  have turns : ∀ steps : List PlanStep,
      (steps.map PlanStep.graphStep).mapM (workflowGraphReadyStep existingSteps) =
        .ok (steps.map fun step => if step.isReady existingSteps then
          some (step.readyStep existingSteps) else none) := by
    intro steps
    induction steps with
    | nil => rfl
    | cons step steps inductionHypothesis =>
        rw [List.map_cons, List.mapM_cons, step.workflowGraphReadyStep_eq,
          inductionHypothesis]
        rfl
  unfold workflowGraphReadySteps
  rw [plan.steps_read, turns]
  simp only [bind, Except.bind, pure, Except.pure, ready, Except.ok.injEq, List.filterMap_map]
  rw [← List.filterMap_eq_map, List.filterMap_filter]
  congr 1

def keys (plan : Plan) : List String := plan.steps.map PlanStep.key

def stepOf (plan : Plan) (key : String) : Option PlanStep :=
  plan.steps.find? fun step => decide (step.key = key)

theorem workflowGraphStepKeys_eq (plan : Plan) :
    workflowGraphStepKeys plan.stepGraph = .ok plan.keys := by
  have reads : ∀ steps : List PlanStep,
      (steps.map PlanStep.graphStep).mapM workflowGraphStepKey =
        .ok (steps.map PlanStep.key) := by
    intro steps
    induction steps with
    | nil => rfl
    | cons step steps inductionHypothesis =>
        rw [List.map_cons, List.mapM_cons, step.key_read, inductionHypothesis]
        rfl
  unfold workflowGraphStepKeys keys
  rw [plan.steps_read, reads]

theorem workflowGraphStepByKey_eq (plan : Plan) (key : String) :
    workflowGraphStepByKey key (workflowGraphSteps plan.stepGraph) =
      .ok ((plan.stepOf key).map PlanStep.graphStep) := by
  rw [plan.steps_read]
  unfold stepOf
  generalize plan.steps = steps
  induction steps with
  | nil => rfl
  | cons step steps inductionHypothesis =>
      rw [List.map_cons, workflowGraphStepByKey, step.key_read, List.find?_cons]
      by_cases same : step.key = key
      · simp [bind, Except.bind, pure, Except.pure, same]
      · simp [bind, Except.bind, same, inductionHypothesis]

theorem stepOf_eq_some {plan : Plan} {key : String} {step : PlanStep} :
    plan.stepOf key = some step ↔ step ∈ plan.steps ∧ step.key = key := by
  constructor
  · intro found
    exact ⟨List.mem_of_find?_eq_some found, by simpa using List.find?_some found⟩
  · rintro ⟨member, rfl⟩
    cases found : plan.stepOf step.key with
    | none => simpa using List.find?_eq_none.mp found step member
    | some other =>
        have otherMember := List.mem_of_find?_eq_some found
        have same : other.key = step.key := by simpa using List.find?_some found
        rw [plan.eq_of_key otherMember member same]

theorem mem_ready {plan : Plan} {existingSteps : List WorkflowStepRun} {step : PlanStep} :
    step ∈ plan.ready existingSteps ↔
      step ∈ plan.steps ∧ step.isReady existingSteps = true :=
  List.mem_filter

end Plan

end MandoForge
