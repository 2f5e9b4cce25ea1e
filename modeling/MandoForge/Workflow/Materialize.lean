/-
Module: MandoForge.Workflow.Materialize
Purpose: How the engine turns a graph step into a step run: a plain step run in
  the primary session, a step run for another agent with a session and a task
  grant of its own, or a governed handoff that waits for approval.
Trusted boundary: whether release governance lets a pinned version run is a
  parameter; the thread of a new session is its identifier only.
Main exports: EngineContext, materializeWorkflowGraphStep
-/
import MandoForge.Store.Workflow
import MandoForge.TaskGrant.Handoff
import MandoForge.Workflow.Plan

namespace MandoForge

open Foundation

/-- What a call of the engine reads and never writes: the definition and the
primary session of the run, and what lies outside the repository. -/
structure EngineContext where
  host : Host
  /-- The refusal of `runnable_pinned_agent_version` by release enforcement. -/
  releaseDenial : AgentVersion → Option Uuid → Option AppError
  definition : WorkflowDefinition
  session : Session

/-- The arguments of `materialize_workflow_graph_step_with_policy_context`. -/
structure MaterializeRequest where
  run : WorkflowRun
  rootGrant : TaskGrant
  graphStep : Json
  status : WorkflowStatus
  scheduledAt : Option Timestamp
  inputContext : Json
  outputPayload : Json

/-! ### What a graph step says about its step run -/

def normalizeTaskGrantRiskLevel (value : String) : Except AppError String :=
  let normalized := toAsciiLowercase (trim value)
  if normalized ∈ ["low", "medium", "high", "critical"] then .ok normalized
  else .error (.badRequest "task grant risk_level must be low, medium, high, or critical")

def workflowGraphStepRequiresIsolatedHandoffContext (graphStep : Json)
    (targetAgentId : Option Uuid) (primaryAgentId : Uuid) : Except AppError Bool := do
  let governedHandoff ← match graphStep.get "handoff_source_agent_ref" with
    | none => pure false
    | some value => do
        let _ ← okOr (trimmedText (some value)) (.badRequest
          "workflow graph step handoff_source_agent_ref must be a non-empty string")
        pure true
  return targetAgentId.any fun target => decide (target ≠ primaryAgentId) || governedHandoff

/-- The reading of `approval_required`. -/
def workflowGraphStepApprovalRequired (graphStep : Json) : Except AppError Bool :=
  match graphStep.get "approval_required" with
  | none => .ok false
  | some value => okOr value.asBool
      (.badRequest "workflow graph step approval_required must be boolean")

structure StepDraft where
  stepKey : String
  stepType : String
  agentId : Option Uuid
  graphAgentVersionId : Option Uuid
  environmentId : Option Uuid
  riskLevel : String
  approvalRequired : Bool
  isolatedHandoffContext : Bool
deriving DecidableEq, Repr

/-- What `materialize_workflow_graph_step_with_policy_context` reads before it
asks the store for anything. -/
def readStepDraft (context : EngineContext) (graphStep : Json) : Except AppError StepDraft := do
  let stepKey ← workflowGraphStepKey graphStep
  let agentId ← workflowGraphStepAgentId context.host context.definition graphStep
  let graphAgentVersionId ← workflowGraphStepAgentVersionId context.host graphStep
  let environmentId ← workflowGraphStepUuid context.host graphStep "environment_id"
  let riskLevel ← normalizeTaskGrantRiskLevel
    (((graphStep.get "risk_level").bind Json.asStr).getD "low")
  let approvalRequired ← workflowGraphStepApprovalRequired graphStep
  let isolatedHandoffContext ← workflowGraphStepRequiresIsolatedHandoffContext graphStep agentId
    context.session.agentId
  if isolatedHandoffContext ∧ riskLevel = "high" ∧ !approvalRequired then
    throw (.badRequest "high-risk workflow handoffs must require approval")
  return {
    stepKey, agentId, graphAgentVersionId, riskLevel, approvalRequired, isolatedHandoffContext
    stepType := workflowGraphStepType graphStep
    environmentId := environmentId.or context.session.environmentId }

/-- `workflow_graph_step_input_payload`: the context's fields over the common
ones. -/
def workflowGraphStepInputPayload (run : WorkflowRun) (graphStep inputContext : Json) : Json :=
  let context := match inputContext with
    | .object fields => fields
    | _ => []
  .ofFields ([("source", .string "step_graph"), ("graph_step", graphStep),
    ("workflow_input", run.inputPayload), ("runtime_delegation", run.runtimeDelegation)] ++
    context)

/-- A field of a graph step as it stands in the governance record. -/
def fieldOrNull (graphStep : Json) (key : String) : Json :=
  (graphStep.get key).getD .null

def handoffGovernance (graphStep : Json) (riskLevel : String) : Json :=
  .ofFields [("source_agent_ref", fieldOrNull graphStep "handoff_source_agent_ref"),
    ("intent", fieldOrNull graphStep "handoff_intent"), ("risk_level", .string riskLevel),
    ("approval_required", .bool true),
    ("schema_ref", fieldOrNull graphStep "handoff_schema_ref")]

/-- The output of a step run that waits for the approval of its handoff. -/
def handoffApprovalRequired : Json :=
  .ofFields [("block_reason", .string "handoff_approval_required")]

/-- The fields of a step run that every route sets the same way. -/
def StepDraft.stepRun (draft : StepDraft) (request : MaterializeRequest) (id : Uuid) :
    WorkflowStepRun where
  id := id
  workflowRunId := request.run.id
  stepKey := draft.stepKey
  stepType := draft.stepType
  agentId := draft.agentId
  agentVersionId := none
  sessionId := none
  threadId := none
  taskGrantId := none
  environmentId := draft.environmentId
  status := request.status
  inputPayload :=
    workflowGraphStepInputPayload request.run request.graphStep request.inputContext
  outputPayload := request.outputPayload
  claimedByWorker := none
  claimOwnerVersion := 0
  leaseExpiresAt := none
  scheduledAt := request.scheduledAt

/-! ### The three routes -/

/-- The version that a step for another agent pins. -/
def pinnedVersionId (draft : StepDraft) : Except AppError Uuid :=
  okOr draft.graphAgentVersionId (.badRequest
    "workflow graph steps assigned to another agent must pin agent_version_id")

/-- `list_agent_versions(..).find(..)`. -/
def findAgentVersion (agentId versionId : Uuid) (missing : String) :
    WorkflowProgram AgentVersion := do
  let versions ← AppState.listAgentVersions agentId
  Program.ofExcept (okOr (versions.find? fun version => decide (version.id = versionId))
    (.notFound missing))

/-- The step run of a handoff that does not start: it is terminal, or it waits
for an approval. -/
def materializeUnstarted (draft : StepDraft) (request : MaterializeRequest) (agentId : Uuid)
    (approvalBlocked : Bool) : WorkflowProgram WorkflowStepRun := do
  let agentVersionId ← Program.ofExcept (pinnedVersionId draft)
  let _ ← findAgentVersion agentId agentVersionId "workflow step agent version not found"
  let id ← AppState.newUuid
  let step := { draft.stepRun request id with
    agentId := some agentId, agentVersionId := some agentVersionId }
  let step := if approvalBlocked then { step with
      status := .requiresAction
      inputPayload := step.inputPayload.setField "handoff_governance"
        (handoffGovernance request.graphStep draft.riskLevel)
      outputPayload := handoffApprovalRequired }
    else step
  AppState.createWorkflowStepRun step

/-- The grant of a handoff: what is left of the root grant's budgets, and the
scopes cut down to the version. -/
def childTaskGrant (request : MaterializeRequest) (version : AgentVersion) (now : Timestamp)
    (stepId grantId : Uuid) : Except AppError TaskGrant := do
  let root := request.rootGrant
  let remaining ← taskGrantRemainingBudgets root now
  let (connectorScope, externalEffects) ← childConnectorScopesForAgentVersion
    root.connectorScope root.externalEffects version
  let grant := {
    id := grantId
    workflowRunId := request.run.id
    workflowStepRunId := some stepId
    sessionId := none
    parentGrantId := some root.id
    granteeSessionId := none
    status := .active
    expiresAt := root.expiresAt
    maxTurns := remaining.maxTurns
    maxToolCalls := remaining.maxToolCalls
    maxRuntimeSeconds := remaining.maxRuntimeSeconds
    maxCostUsdMicros := remaining.maxCostUsdMicros
    turnsUsed := 0
    toolCallsUsed := 0
    costUsdMicrosUsed := 0
    semanticScopes := root.semanticScopes
    memoryScope := childHandoffMemoryScope root.memoryScope
    toolScope := childToolScopeForTools root.toolScope version.tools
    connectorScope
    approvalPolicy := root.approvalPolicy
    externalEffects
    createdAt := now }
  validateTaskGrantScopeObjects grant
  validateTaskGrantBudgets grant
  ensureChildTaskGrantWithinParent root grant
  return grant

/-- A step that names an environment needs an existing one. -/
def ensureEnvironment : Option Uuid → WorkflowProgram Unit
  | none => pure ()
  | some environmentId => AppState.getEnvironment environmentId

def createSessionForAgentVersion (context : EngineContext) (agentId versionId : Uuid)
    (environmentId : Option Uuid) : WorkflowProgram Session := do
  let agent ← AppState.getAgent agentId
  Program.ofExcept (if agent.disabled then .error (.forbidden "agent is disabled") else .ok ())
  ensureEnvironment environmentId
  let version ← findAgentVersion agentId versionId "pinned agent version not found"
  Program.ofExcept (((context.releaseDenial version environmentId).map Except.error).getD (.ok ()))
  let id ← AppState.newUuid
  AppState.createSession
    { id, status := .idle, agentId, agentVersionId := some version.id, environmentId }

/-- The step run of a handoff, with its session and its grant. -/
def materializeHandoff (context : EngineContext) (draft : StepDraft)
    (request : MaterializeRequest) (agentId : Uuid) (now : Timestamp) :
    WorkflowProgram WorkflowStepRun := do
  let agentVersionId ← Program.ofExcept (pinnedVersionId draft)
  let _ ← AppState.getAgent agentId
  let version ← findAgentVersion agentId agentVersionId "workflow step agent version not found"
  let stepId ← AppState.newUuid
  let grantId ← AppState.newUuid
  let grant ← Program.ofExcept (childTaskGrant request version now stepId grantId)
  let session ← createSessionForAgentVersion context agentId agentVersionId draft.environmentId
  let threadId ← AppState.newUuid
  let grant := { grant with sessionId := some session.id, granteeSessionId := some session.id }
  let step := { draft.stepRun request stepId with
    agentId := some agentId, agentVersionId := some agentVersionId
    sessionId := some session.id, threadId := some threadId, taskGrantId := some grant.id }
  match ← AppState.createWorkflowStepRunWithTaskGrant step grant with
  | .ok (step, _) => return step
  | .error error => do
      AppState.setSessionStatus session.id .failed
      throw error

/-- A version that the graph step names is the version of the session. -/
def boundVersionCheck (context : EngineContext) (draft : StepDraft) : Except AppError Unit :=
  if draft.graphAgentVersionId.any fun versionId =>
      decide (context.session.agentVersionId ≠ some versionId) then
    .error (.badRequest
      "workflow graph step agent version must match its bound session version")
  else .ok ()

/-- The step run that works in the primary session under the root grant. -/
def materializeBound (context : EngineContext) (draft : StepDraft)
    (request : MaterializeRequest) : WorkflowProgram WorkflowStepRun := do
  Program.ofExcept (boundVersionCheck context draft)
  let id ← AppState.newUuid
  AppState.createWorkflowStepRun { draft.stepRun request id with
    agentVersionId := draft.agentId.bind fun _ => context.session.agentVersionId
    sessionId := some context.session.id
    taskGrantId := some request.rootGrant.id }

def materializeWorkflowGraphStepWithPolicyContext (context : EngineContext)
    (request : MaterializeRequest) : WorkflowProgram WorkflowStepRun := do
  let now ← AppState.readClock
  let draft ← Program.ofExcept (readStepDraft context request.graphStep)
  let terminal := workflowStepStatusTerminal request.status
  let approvalBlocked := draft.approvalRequired && !terminal
  match draft.isolatedHandoffContext, draft.agentId with
  | true, some agentId =>
      if terminal || approvalBlocked then
        materializeUnstarted draft request agentId approvalBlocked
      else materializeHandoff context draft request agentId now
  | _, _ => materializeBound context draft request

def materializeWorkflowGraphStep (context : EngineContext) (run : WorkflowRun)
    (rootGrant : TaskGrant) (graphStep : Json) : WorkflowProgram WorkflowStepRun :=
  materializeWorkflowGraphStepWithPolicyContext context
    { run, rootGrant, graphStep, status := .queued, scheduledAt := none
      inputContext := emptyJsonObject, outputPayload := emptyJsonObject }

/-- The loop of `materialize_workflow_graph_start_steps`. -/
def materializeAll (context : EngineContext) (run : WorkflowRun) (rootGrant : TaskGrant) :
    List Json → WorkflowProgram (List WorkflowStepRun)
  | [] => pure []
  | graphStep :: rest => do
      let step ← materializeWorkflowGraphStep context run rootGrant graphStep
      let steps ← materializeAll context run rootGrant rest
      return step :: steps

def materializeWorkflowGraphStartSteps (context : EngineContext) (run : WorkflowRun)
    (rootGrant : TaskGrant) : WorkflowProgram WorkflowRun := do
  let materialized ← materializeAll context run rootGrant
    (workflowGraphStartSteps context.definition.stepGraph)
  let status := if materialized.any fun step => decide (step.status = .requiresAction) then
      WorkflowStatus.requiresAction
    else .queued
  AppState.updateWorkflowRunStatus run.id status

/-! ### What a materialization leaves -/

/-- The input fields that do not come from the context of the request. -/
def commonInputFields : List String :=
  ["source", "graph_step", "workflow_input", "runtime_delegation", "handoff_governance"]

/-- What the step run of a request looks like: it has the status and the output
asked for, or it waits for the approval of its handoff. -/
structure MaterializedAs (request : MaterializeRequest) (step : WorkflowStepRun) : Prop where
  workflowRunId : step.workflowRunId = request.run.id
  stepKey : workflowGraphStepKey request.graphStep = .ok step.stepKey
  started : (step.status = request.status ∧ step.outputPayload = request.outputPayload) ∨
    (workflowStepStatusTerminal request.status = false ∧ step.status = .requiresAction ∧
      step.outputPayload = handoffApprovalRequired)
  context : ∀ name, name ∉ commonInputFields →
    (step.inputPayload.get name).isSome = (request.inputContext.get name).isSome

theorem isSome_getField_foldl_insertField (name : String) (added fields : List (String × Json)) :
    (Json.getField name (added.foldl (fun object (key, value) =>
      Json.insertField key value object) fields)).isSome =
      ((Json.getField name fields).isSome || (Json.getField name added).isSome) := by
  induction added generalizing fields with
  | nil => simp [Json.getField]
  | cons field added inductionHypothesis =>
      obtain ⟨key, value⟩ := field
      rw [List.foldl_cons, inductionHypothesis, Json.getField_insertField, Json.getField]
      by_cases same : key = name <;> simp [same]

theorem isSome_get_inputPayload (run : WorkflowRun) (graphStep inputContext : Json)
    {name : String} (uncommon : name ∉ commonInputFields) :
    ((workflowGraphStepInputPayload run graphStep inputContext).get name).isSome =
      (inputContext.get name).isSome := by
  simp only [commonInputFields, List.mem_cons, not_or] at uncommon
  obtain ⟨source, graph, input, delegation, -⟩ := uncommon
  unfold workflowGraphStepInputPayload Json.ofFields
  simp only [Json.get, isSome_getField_foldl_insertField]
  cases inputContext <;> simp [Json.getField, Ne.symm source, Ne.symm graph, Ne.symm input,
    Ne.symm delegation]

theorem isSome_get_setField (value field : Json) {key name : String} (other : key ≠ name) :
    ((value.setField key field).get name).isSome = (value.get name).isSome := by
  cases value with
  | object fields => simp [Json.setField, Json.get, Json.getField_insertField, other]
  | _ => rfl

theorem readStepDraft_stepKey {context : EngineContext} {graphStep : Json} {draft : StepDraft}
    (read : readStepDraft context graphStep = .ok draft) :
    workflowGraphStepKey graphStep = .ok draft.stepKey := by
  unfold readStepDraft at read
  obtain ⟨stepKey, key_read, read⟩ := bind_eq_ok.mp read
  obtain ⟨_, -, read⟩ := bind_eq_ok.mp read
  obtain ⟨_, -, read⟩ := bind_eq_ok.mp read
  obtain ⟨_, -, read⟩ := bind_eq_ok.mp read
  obtain ⟨_, -, read⟩ := bind_eq_ok.mp read
  obtain ⟨_, -, read⟩ := bind_eq_ok.mp read
  obtain ⟨_, -, read⟩ := bind_eq_ok.mp read
  obtain ⟨-, read⟩ := guardThen_eq_ok.mp read
  cases read
  exact key_read

section routes

variable {context : EngineContext} {request : MaterializeRequest} {draft : StepDraft}

theorem findAgentVersion_leavesSteps (agentId versionId : Uuid) (missing : String) :
    LeavesSteps (findAgentVersion agentId versionId missing) :=
  .bind (.listAgentVersions agentId) fun _ => .ofExcept _

theorem createSessionForAgentVersion_leavesSteps (agentId versionId : Uuid)
    (environmentId : Option Uuid) :
    LeavesSteps (createSessionForAgentVersion context agentId versionId environmentId) := by
  have environment : LeavesSteps (ensureEnvironment environmentId) := by
    cases environmentId with
    | none => exact .pure ()
    | some environmentId => exact .getEnvironment environmentId
  unfold createSessionForAgentVersion
  apply LeavesSteps.bind (.getAgent agentId)
  intro agent
  apply LeavesSteps.bind (.ofExcept _)
  intro _
  apply LeavesSteps.bind environment
  intro _
  apply LeavesSteps.bind (findAgentVersion_leavesSteps _ _ _)
  intro version
  apply LeavesSteps.bind (.ofExcept _)
  intro _
  exact .bind .newUuid fun _ => .createSession _

theorem stepRun_materializedAs (key_read : workflowGraphStepKey request.graphStep =
    .ok draft.stepKey) (id : Uuid) : MaterializedAs request (draft.stepRun request id) where
  workflowRunId := rfl
  stepKey := key_read
  started := .inl ⟨rfl, rfl⟩
  context _ uncommon := isSome_get_inputPayload _ _ _ uncommon

/-- A new identifier is fresh where it is used. -/
theorem createNew_adds {world : World} {described : WorkflowStepRun → Prop}
    {step : Uuid → WorkflowStepRun} (carries : ∀ id, (step id).id = id)
    (good : ∀ id, described (step id)) :
    (AppState.newUuid >>= fun id => AppState.createWorkflowStepRun (step id)).Ensures world
      (AddsStep world described) := by
  have issued : world.Unchanged { world with issuedUuid := world.freshUuid } :=
    ⟨rfl, rfl, fun _ member _ => member⟩
  have fresh : ({ world with issuedUuid := world.freshUuid } : World).store.workflowStepRuns.find?
      (step world.freshUuid).id = none := by
    rw [carries]
    exact world.find?_freshUuid
  have created := createWorkflowStepRun_adds fresh
  apply Program.Ensures.mono created
  intro outcome after adds
  apply AddsStep.of_unchanged issued
  cases outcome with
  | error error => exact adds
  | ok created => exact ⟨adds.1 ▸ good _, adds.2⟩

theorem materializeUnstarted_adds (key_read : workflowGraphStepKey request.graphStep =
    .ok draft.stepKey) {approvalBlocked : Bool}
    (blocked : approvalBlocked = true → workflowStepStatusTerminal request.status = false)
    (agentId : Uuid) (world : World) :
    (materializeUnstarted draft request agentId approvalBlocked).Ensures world
      (AddsStep world (MaterializedAs request)) := by
  unfold materializeUnstarted
  apply AddsStep.bind (.ofExcept _)
  intro agentVersionId world
  apply AddsStep.bind (findAgentVersion_leavesSteps _ _ _)
  intro version world
  apply createNew_adds
  · intro id
    cases approvalBlocked <;> rfl
  · intro id
    have plain := stepRun_materializedAs key_read id
    cases approvalBlocked with
    | false => exact ⟨rfl, key_read, plain.started, plain.context⟩
    | true =>
        refine ⟨rfl, key_read, .inr ⟨blocked rfl, rfl, rfl⟩, fun name uncommon => ?_⟩
        have different : "handoff_governance" ≠ name := by
          rintro rfl
          exact uncommon (by simp [commonInputFields])
        rw [← plain.context name uncommon]
        exact isSome_get_setField (draft.stepRun request id).inputPayload _ different

theorem materializeBound_adds (key_read : workflowGraphStepKey request.graphStep =
    .ok draft.stepKey) (world : World) : (materializeBound context draft request).Ensures world
      (AddsStep world (MaterializedAs request)) := by
  unfold materializeBound
  apply AddsStep.bind (.ofExcept _)
  intro _ world
  apply createNew_adds
  · intro id
    rfl
  · intro id
    have plain := stepRun_materializedAs key_read id
    exact ⟨rfl, key_read, plain.started, plain.context⟩

theorem materializeHandoff_adds (key_read : workflowGraphStepKey request.graphStep =
    .ok draft.stepKey) (agentId : Uuid) (now : Timestamp) (world : World) :
    (materializeHandoff context draft request agentId now).Ensures world
      (AddsStep world (MaterializedAs request)) := by
  unfold materializeHandoff
  apply AddsStep.bind (.ofExcept _)
  intro agentVersionId world
  apply AddsStep.bind (.getAgent agentId)
  intro _ world
  apply AddsStep.bind (findAgentVersion_leavesSteps _ _ _)
  intro version world
  apply AddsStep.bind .newUuid
  intro stepId world
  apply AddsStep.bind .newUuid
  intro grantId world
  apply AddsStep.bind (.ofExcept _)
  intro grant world
  apply AddsStep.bind (createSessionForAgentVersion_leavesSteps _ _ _)
  intro session world
  apply AddsStep.bind .newUuid
  intro threadId world
  unfold Program.Ensures
  rw [Program.run_bind, AppState.run_createWorkflowStepRunWithTaskGrant]
  have adds := createWorkflowStepRunWithTaskGrant_adds
    { draft.stepRun request stepId with
      agentId := some agentId, agentVersionId := some agentVersionId
      sessionId := some session.id, threadId := some threadId, taskGrantId := some grant.id }
    { grant with sessionId := some session.id, granteeSessionId := some session.id } world
  dsimp only at adds ⊢
  generalize world.onStore _ = answered at adds ⊢
  obtain ⟨outcome, after⟩ := answered
  cases outcome with
  | error error => exact adds.trans (LeavesSteps.setSessionStatus _ _ after)
  | ok created =>
      refine ⟨?_, adds.2⟩
      have plain := stepRun_materializedAs key_read stepId
      rw [adds.1]
      exact ⟨rfl, key_read, plain.started, plain.context⟩

/-- A materialization adds one step run for the graph step, or it fails and adds
none. -/
theorem materialize_adds (context : EngineContext) (request : MaterializeRequest)
    (world : World) :
    (materializeWorkflowGraphStepWithPolicyContext context request).Ensures world
      (AddsStep world (MaterializedAs request)) := by
  unfold materializeWorkflowGraphStepWithPolicyContext
  apply AddsStep.bind .readClock
  intro now world
  apply AddsStep.ofExcept_bind
  intro draft read
  have key_read := readStepDraft_stepKey read
  dsimp only
  split
  · rename_i agentId _ _
    split
    · apply materializeUnstarted_adds key_read
      simp
    · exact materializeHandoff_adds key_read agentId now world
  · exact materializeBound_adds key_read world

end routes

end MandoForge
