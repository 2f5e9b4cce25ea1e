/-
Module: MandoForge.Semantic.ToolInvocation
Purpose: The start of a tool call: the task grant it runs under, the policy that
  judges it, the semantic context gate, and the record it is committed with; and when
  a call of high risk acts on vetted semantics only.
Trusted boundary: one invocation runs on one state of the store.  Workflow runs are
  listed in the order of their table.  The records that a denial leaves, and what
  follows the commit of the call, are left out.
Main exports: PolicyRuntime, commit_write_skips_gate
-/
import MandoForge.Approval.CommitBinding
import MandoForge.Semantic.ContextGate
import MandoForge.Store.LogRuns

namespace MandoForge

open Foundation

structure ExecuteTool where
  sessionId : Uuid
  taskGrantId : Option Uuid
  args : Json
deriving DecidableEq, Repr

/-! ### The policy of a session -/

structure StagedPolicyRuntime where
  rolloutPercent : Nat
  policy : PolicyConfig
deriving DecidableEq, Repr

structure PolicyRuntime where
  active : PolicyConfig
  staged : Option StagedPolicyRuntime := none
deriving DecidableEq, Repr

def sessionRolloutBucket (sessionId : Uuid) : Nat := sessionId % 100

def policyForSession (runtime : PolicyRuntime) (sessionId : Uuid) : PolicyConfig :=
  match runtime.staged with
  | some staged =>
      if sessionRolloutBucket sessionId < staged.rolloutPercent then staged.policy
      else runtime.active
  | none => runtime.active

/-- The state that a tool invocation reads. -/
structure ToolRuntime where
  store : MemoryStore
  semantics : SemanticStore
  policy : PolicyRuntime

/-- The last of the versions with the highest number. -/
def latestVersion (versions : List AgentVersion) : Option AgentVersion :=
  versions.foldl (fun latest version =>
    if latest.all fun latest => latest.version ≤ version.version then some version
    else latest) none

def agentVersionForSession (store : MemoryStore) (sessionId : Uuid) :
    Except AppError AgentVersion := do
  let session ← okOr (store.sessions.find? sessionId) (.notFound "session not found")
  match session.agentVersionId with
  | some agentVersionId =>
      okOr (store.agentVersions.find? agentVersionId) (.notFound "agent version not found")
  | none =>
      okOr (latestVersion (store.agentVersions.rows.filter fun version =>
        decide (version.agentId = session.agentId))) (.notFound "agent version not found")

/-! ### The task grant of an invocation -/

def workflowRunOwnsSession (store : MemoryStore) (run : WorkflowRun) (sessionId : Uuid) : Bool :=
  decide (run.primarySessionId = sessionId) ||
    store.workflowStepRuns.rows.any fun step =>
      decide (step.workflowRunId = run.id) && decide (step.sessionId = some sessionId)

/-- `workflow_run_for_session`: the run with this primary session, else one that owns
the session. -/
def workflowRunForSession (store : MemoryStore) (sessionId : Uuid) : Option WorkflowRun :=
  (store.workflowRuns.rows.find? fun run => decide (run.primarySessionId = sessionId)) <|>
    store.workflowRuns.rows.find? fun run => workflowRunOwnsSession store run sessionId

def taskGrantSessionMatches (grant : TaskGrant) (run : WorkflowRun) (sessionId : Uuid) : Bool :=
  decide (run.primarySessionId = sessionId) || decide (grant.sessionId = some sessionId) ||
    decide (grant.granteeSessionId = some sessionId)

def taskGrantAgentClassMatches (agent : Agent) (agentClass : String) : Bool :=
  let expected := trim agentClass
  decide (expected = "") || decide (agent.kind = expected) || decide (agent.agentRole = expected)

def getAgent (store : MemoryStore) (agentId : Uuid) : Except AppError Agent :=
  okOr (store.agents.find? agentId) (.notFound "agent not found")

/-- The denial of a grant whose step has ended. -/
def terminalStepDenial (store : MemoryStore) (grant : TaskGrant) :
    Except AppError (Option String) :=
  match grant.workflowStepRunId with
  | none => .ok none
  | some stepId =>
      (okOr (store.workflowStepRuns.find? stepId) (.notFound "workflow step run not found")).map
        fun step =>
          if workflowStepStatusTerminal step.status then
            some "task grant workflow step is terminal"
          else none

/-- The loop of `task_grant_lineage_denial`; a grant past its time expires on the way. -/
def denyLineage (now : Timestamp) (store : MemoryStore) :
    List TaskGrant → Except AppError (Option String) × MemoryStore
  | [] => (.ok none, store)
  | candidate :: rest =>
      match terminalStepDenial store candidate with
      | .error error => (.error error, store)
      | .ok (some reason) => (.ok (some reason), store)
      | .ok none =>
          match taskGrantRuntimeDenial candidate now with
          | none => denyLineage now store rest
          | some (reason, expire) =>
              if expire && decide (candidate.status = .active) then
                match updateTaskGrantStatus candidate.id .expired store with
                | (.error error, store) => (.error error, store)
                | (.ok _, store) => (.ok (some reason), store)
              else (.ok (some reason), store)

def taskGrantLineageDenial (now : Timestamp) (grant : TaskGrant) (store : MemoryStore) :
    Except AppError (Option String) × MemoryStore :=
  match taskGrantLineage store.taskGrants grant.id with
  | .error error => (.error error, store)
  | .ok lineage => denyLineage now store lineage

/-- The checks of `validate_task_grant_for_tool_invocation` before the lineage. -/
def taskGrantHolderChecks (input : ExecuteTool) (grant : TaskGrant) (store : MemoryStore) :
    Except AppError Unit := do
  let run ← okOr (store.workflowRuns.find? grant.workflowRunId)
    (.notFound "workflow run not found")
  if let some reason := workflowRunExecutionDenial run.status then
    throw (.forbidden reason)
  if ((workflowRunForSession store input.sessionId).any fun owner => decide (owner.id ≠ run.id)) ||
      !taskGrantSessionMatches grant run input.sessionId then
    throw (.forbidden "task grant is not valid for this session")
  let session ← okOr (store.sessions.find? input.sessionId) (.notFound "session not found")
  if grant.granteeAgentId.any fun agentId => decide (agentId ≠ session.agentId) then
    throw (.forbidden "task grant grantee agent does not match this session")
  if let some agentClass := grant.agentClass then
    let agent ← getAgent store session.agentId
    if !taskGrantAgentClassMatches agent agentClass then
      throw (.forbidden "task grant agent class does not match this session")

/-- The checks of `validate_task_grant_for_tool_invocation` after the lineage. -/
def taskGrantToolChecks (toolName : String) (input : ExecuteTool) (grant : TaskGrant) :
    Except AppError Unit := do
  if !taskGrantAllowsTool grant toolName then
    throw (.forbidden "task grant tool scope does not allow tool")
  if let some reason ← taskGrantConnectorInvocationDenial grant toolName input.args then
    throw (.forbidden reason)

/-- `preview_task_grant_for_tool_invocation`: nothing is reserved yet. -/
def previewTaskGrantForToolInvocation (now : Timestamp) (toolName : String) (input : ExecuteTool)
    (store : MemoryStore) : Except AppError (Option TaskGrant) × MemoryStore :=
  match input.taskGrantId with
  | none =>
      if (workflowRunForSession store input.sessionId).isSome then
        (.error (.forbidden "task grant is required for workflow tool execution"), store)
      else (.ok none, store)
  | some taskGrantId =>
      match store.taskGrants.find? taskGrantId with
      | none => (.error (.notFound "task grant not found"), store)
      | some grant =>
          match taskGrantHolderChecks input grant store with
          | .error error => (.error error, store)
          | .ok () =>
              match taskGrantLineageDenial now grant store with
              | (.error error, store) => (.error error, store)
              | (.ok (some reason), store) => (.error (.forbidden reason), store)
              | (.ok none, store) =>
                  ((taskGrantToolChecks toolName input grant).map fun _ => some grant, store)

/-! ### The start of the call -/

def approvalCommitBindingForInvocation (jsonSha256 : Json → String) (toolName : String)
    (args : Json) (grant : Option TaskGrant) :
    Except AppError (Option ApprovalCommitBinding) :=
  match grant with
  | none => .ok none
  | some grant =>
      if !taskGrantRequiresApprovalCommitToken grant toolName then .ok none
      else (approvalCommitBindingForArgs jsonSha256 toolName args).map some

/-- What the policy decides, once a commit binding has raised it. -/
def invocationPolicyDecision (evaluated : ToolPolicyDecision)
    (commitBinding : Option ApprovalCommitBinding) : ToolPolicyDecision :=
  if commitBinding.isSome ∧ evaluated.decision ≠ .denied then
    { decision := .requiresApproval
      riskLevel := "critical"
      reason := "commit_write connector calls require ApprovalCommitToken exact digest binding" }
  else evaluated

/-- The status that a call starts in. -/
def startStatus (decision : PolicyDecision) (gateBlocked : Bool) : ToolCallStatus :=
  if gateBlocked then .denied
  else
    match decision with
    | .allowed => .running
    | .requiresApproval => .waitingApproval
    | .denied => .denied

/-- The identifiers that an invocation draws. -/
structure InvocationIds where
  toolCall : Uuid
  callEvent : Uuid
  records : StartIds
deriving DecidableEq, Repr

section invocation

variable (codec : RecordCodec) (parseUuid : String → Option Uuid) (ids : InvocationIds)

/-- The call that `execute_tool_invocation` commits, with the version of the agent it
is made by. -/
def invocationToolCall (runtime : ToolRuntime) (session : Session) (name : String)
    (input : ExecuteTool) (taskGrant : Option TaskGrant) :
    Except AppError (ToolCall × AgentVersion) := do
  let agentVersion ← agentVersionForSession runtime.store input.sessionId
  let evaluated := (policyForSession runtime.policy input.sessionId)
    |>.evaluateToolForAgentVersionWithArgs name input.args agentVersion
  let commitBinding ←
    approvalCommitBindingForInvocation codec.jsonSha256 name input.args taskGrant
  let policyDecision := invocationPolicyDecision evaluated commitBinding
  let agent ← getAgent runtime.store session.agentId
  let gate ← evaluateSemanticContextGate parseUuid runtime.semantics agent taskGrant input.args
    policyDecision.riskLevel policyDecision.decision
  let toolCall : ToolCall :=
    { id := ids.toolCall
      sessionId := input.sessionId
      eventId := some ids.callEvent
      toolName := name
      args := input.args
      taskGrantId := taskGrant.map TaskGrant.id
      normalizedArgsHash := commitBinding.map ApprovalCommitBinding.normalizedArgsHash
      targetBinding := (commitBinding.map ApprovalCommitBinding.targetBinding).getD (.object [])
      status := startStatus policyDecision.decision (semanticContextGateBlocked gate)
      riskLevel := policyDecision.riskLevel
      result := none
      error := none }
  return (toolCall, agentVersion)

/-- `execute_tool_invocation`, to the commit of the call it creates. -/
def executeToolInvocationStart (now : Timestamp) (name : String) (input : ExecuteTool)
    (runtime : ToolRuntime) : Except AppError (ToolCall × Option TaskGrant) × MemoryStore :=
  match runtime.store.sessions.find? input.sessionId with
  | none => (.error (.notFound "session not found"), runtime.store)
  | some session =>
      if session.status = .terminated ∨ session.status = .failed then
        (.error (.badRequest "terminal session cannot accept new tool calls"), runtime.store)
      else
        match previewTaskGrantForToolInvocation now name input runtime.store with
        | (.error error, store) => (.error error, store)
        | (.ok taskGrant, store) =>
            match invocationToolCall codec parseUuid ids { runtime with store } session name input
                taskGrant with
            | .error error => (.error error, store)
            | .ok (toolCall, agentVersion) =>
                commitToolInvocationStartWithRecords now ids.records toolCall agentVersion.id
                  agentVersion.version store

end invocation

/-! ### What a started call has gone through -/

/-- The lineage denies nothing without leaving the store as it was. -/
theorem denyLineage_none {now : Timestamp} {store after : MemoryStore}
    {lineage : List TaskGrant} (admits : denyLineage now store lineage = (.ok none, after)) :
    after = store := by
  induction lineage with
  | nil => exact (congrArg Prod.snd admits).symm
  | cons candidate rest inductionHypothesis =>
      unfold denyLineage at admits
      split at admits
      · cases congrArg Prod.fst admits
      · cases congrArg Prod.fst admits
      · split at admits
        · exact inductionHypothesis admits
        · split at admits
          · split at admits
            · cases congrArg Prod.fst admits
            · cases congrArg Prod.fst admits
          · cases congrArg Prod.fst admits

/-- An accepted preview leaves the store as it was, and answers with the stored grant
that the invocation names. -/
theorem preview_ok {now : Timestamp} {toolName : String} {input : ExecuteTool}
    {store after : MemoryStore} {taskGrant : Option TaskGrant}
    (accepted : previewTaskGrantForToolInvocation now toolName input store =
      (.ok taskGrant, after)) :
    after = store ∧ taskGrant = input.taskGrantId.bind store.taskGrants.find? := by
  unfold previewTaskGrantForToolInvocation at accepted
  split at accepted
  · rename_i noGrant
    split at accepted
    · cases congrArg Prod.fst accepted
    · cases accepted
      rw [noGrant]
      exact ⟨rfl, rfl⟩
  · rename_i taskGrantId named
    split at accepted
    · cases congrArg Prod.fst accepted
    · rename_i grant found
      split at accepted
      · cases congrArg Prod.fst accepted
      · split at accepted
        · cases congrArg Prod.fst accepted
        · cases congrArg Prod.fst accepted
        · rename_i unchanged denies
          obtain ⟨checks, rfl⟩ := Prod.mk.inj accepted
          have sameStore : unchanged = store := by
            unfold taskGrantLineageDenial at denies
            split at denies
            · cases congrArg Prod.fst denies
            · exact denyLineage_none denies
          refine ⟨sameStore, ?_⟩
          rw [named, Option.bind_some, found]
          cases checked : taskGrantToolChecks toolName input grant with
          | error error => rw [checked] at checks; cases checks
          | ok _ => rw [checked] at checks; exact (Except.ok.inj checks).symm

section spec

variable {codec : RecordCodec} {parseUuid : String → Option Uuid} {ids : InvocationIds}
  {now : Timestamp} {name : String} {input : ExecuteTool} {runtime : ToolRuntime}

/-- How a call was judged before it was committed: the version of its agent, the policy's
word on the tool, the commit binding of its arguments and the verdict of the gate. -/
def Judged (parseUuid : String → Option Uuid) (runtime : ToolRuntime) (name : String)
    (input : ExecuteTool) (taskGrant : Option TaskGrant) (toolCall : ToolCall) : Prop :=
  ∃ agentVersion agent commitBinding gate jsonSha256,
    agentVersionForSession runtime.store input.sessionId = .ok agentVersion ∧
    approvalCommitBindingForInvocation jsonSha256 name input.args taskGrant =
      .ok commitBinding ∧
    let decision := invocationPolicyDecision ((policyForSession runtime.policy input.sessionId)
      |>.evaluateToolForAgentVersionWithArgs name input.args agentVersion) commitBinding
    evaluateSemanticContextGate parseUuid runtime.semantics agent taskGrant input.args
      decision.riskLevel decision.decision = .ok gate ∧
    toolCall.riskLevel = decision.riskLevel ∧
    toolCall.status = startStatus decision.decision (semanticContextGateBlocked gate)

theorem invocationToolCall_judged {session : Session} {taskGrant : Option TaskGrant}
    {toolCall : ToolCall} {agentVersion : AgentVersion}
    (built : invocationToolCall codec parseUuid ids runtime session name input taskGrant =
      .ok (toolCall, agentVersion)) :
    Judged parseUuid runtime name input taskGrant toolCall := by
  unfold invocationToolCall at built
  obtain ⟨version, versionFound, built⟩ := bind_eq_ok.mp built
  obtain ⟨commitBinding, binding, built⟩ := bind_eq_ok.mp built
  obtain ⟨agent, -, built⟩ := bind_eq_ok.mp built
  obtain ⟨gate, evaluates, returned⟩ := bind_eq_ok.mp built
  cases returned
  exact ⟨_, agent, commitBinding, gate, codec.jsonSha256, versionFound, binding, evaluates,
    rfl, rfl⟩

/-- A call that an invocation starts was judged under the stored grant that the
invocation names. -/
theorem executeToolInvocationStart_judged {toolCall : ToolCall} {committed : Option TaskGrant}
    (created : (executeToolInvocationStart codec parseUuid ids now name input runtime).1 =
      .ok (toolCall, committed)) :
    Judged parseUuid runtime name input
      (input.taskGrantId.bind runtime.store.taskGrants.find?) toolCall := by
  unfold executeToolInvocationStart at created
  split at created
  · cases created
  · split at created
    · cases created
    · split at created
      · cases created
      · rename_i taskGrant store accepted
        obtain ⟨rfl, rfl⟩ := preview_ok accepted
        split at created
        · cases created
        · rename_i built _ judged
          have sameCall : toolCall = built := by
            unfold commitToolInvocationStartWithRecords at created
            split at created
            · cases created
            · rename_i _ answered
              have isBuilt := (commitToolInvocationStart_spec now built _).2 _ _
                (congrArg Prod.fst answered)
              split at created
              · cases created
              · exact (congrArg Prod.fst (Except.ok.inj created)).symm.trans isBuilt
          exact sameCall ▸ invocationToolCall_judged judged

/-! ### High risk and vetted semantics -/

/-- The recorded risk is high or above. -/
def HighOrAbove (riskLevel : String) : Prop := riskLevel = "high" ∨ riskLevel = "critical"

/-- A layer puts the call at critical risk: the commit binding of the grant, or the
policy with a risk of its own. -/
def PutAtCriticalRisk (runtime : ToolRuntime) (name : String) (input : ExecuteTool)
    (grant : TaskGrant) : Prop :=
  taskGrantRequiresApprovalCommitToken grant name = true ∨
    ∃ agentVersion, agentVersionForSession runtime.store input.sessionId = .ok agentVersion ∧
      ((policyForSession runtime.policy input.sessionId).evaluateToolForAgentVersionWithArgs name
        input.args agentVersion).riskLevel = "critical"

/-- The gate, asked about the call as one of high risk, has no blocker. -/
def GateFindsNoBlocker (parseUuid : String → Option Uuid) (semantics : SemanticStore)
    (grant : TaskGrant) (args : Json) : Prop :=
  ∃ gate, evaluateGrantGate parseUuid semantics grant args "high" = .ok gate ∧
    semanticContextGateBlocked (some gate) = false

theorem approvalCommitBinding_isSome {jsonSha256 : Json → String} {args : Json}
    {grant : TaskGrant} {commitBinding : Option ApprovalCommitBinding}
    (bound : approvalCommitBindingForInvocation jsonSha256 name args (some grant) =
      .ok commitBinding) :
    commitBinding.isSome = taskGrantRequiresApprovalCommitToken grant name := by
  unfold approvalCommitBindingForInvocation at bound
  cases requires : taskGrantRequiresApprovalCommitToken grant name with
  | false =>
      simp only [requires, Bool.not_false, if_true, Except.ok.injEq] at bound
      rw [← bound]
      rfl
  | true =>
      simp only [requires, Bool.not_true, Bool.false_eq_true, if_false] at bound
      cases made : approvalCommitBindingForArgs jsonSha256 name args with
      | error error => rw [made] at bound; cases bound
      | ok binding => rw [made] at bound; cases bound; rfl

theorem startStatus_denied (gateBlocked : Bool) : startStatus .denied gateBlocked = .denied := by
  cases gateBlocked <;> rfl

/-- An open call of high risk is one that the gate let pass. -/
theorem Judged.gate_passed {grant : TaskGrant} {toolCall : ToolCall}
    (judged : Judged parseUuid runtime name input (some grant) toolCall)
    (isOpen : toolCall.status = .running ∨ toolCall.status = .waitingApproval)
    (isHigh : toolCall.riskLevel = "high") :
    GateFindsNoBlocker parseUuid runtime.semantics grant input.args := by
  obtain ⟨agentVersion, agent, commitBinding, gate, jsonSha256, -, -, evaluates, risk, status⟩ :=
    judged
  rw [← risk, isHigh, evaluateSemanticContextGate] at evaluates
  have notBlocked : semanticContextGateBlocked gate = false := by
    cases blocked : semanticContextGateBlocked gate with
    | false => rfl
    | true => rw [status, blocked] at isOpen; rcases isOpen with ends | ends <;> cases ends
  split at evaluates
  · rename_i skipped
    have isDenied := skipped.resolve_left (fun differs => differs rfl)
    rw [status, isDenied, startStatus_denied] at isOpen
    rcases isOpen with ends | ends <;> cases ends
  · cases found : evaluateGrantGate parseUuid runtime.semantics grant input.args "high" with
    | error error => rw [found] at evaluates; cases evaluates
    | ok verdict =>
        rw [found] at evaluates
        cases evaluates
        exact ⟨verdict, found, notBlocked⟩

/-- An open call is recorded at critical risk exactly when a layer puts it there. -/
theorem Judged.critical_iff {grant : TaskGrant} {toolCall : ToolCall}
    (judged : Judged parseUuid runtime name input (some grant) toolCall)
    (isOpen : toolCall.status = .running ∨ toolCall.status = .waitingApproval) :
    toolCall.riskLevel = "critical" ↔ PutAtCriticalRisk runtime name input grant := by
  obtain ⟨agentVersion, agent, commitBinding, gate, jsonSha256, version, binding, -, risk,
    status⟩ := judged
  have sameVersion : ∀ other, agentVersionForSession runtime.store input.sessionId = .ok other →
      other = agentVersion := fun other found => Except.ok.inj (found.symm.trans version)
  have isBound := approvalCommitBinding_isSome binding
  rw [risk, PutAtCriticalRisk, ← isBound]
  by_cases raises : commitBinding.isSome = true
  · -- the policy's own word is no denial, for then the call would not be open
    have notDenied : ((policyForSession runtime.policy input.sessionId)
        |>.evaluateToolForAgentVersionWithArgs name input.args agentVersion).decision ≠
          .denied := by
      intro isDenied
      rw [status, invocationPolicyDecision, if_neg (fun both => both.2 isDenied), isDenied,
        startStatus_denied] at isOpen
      rcases isOpen with ends | ends <;> cases ends
    rw [invocationPolicyDecision, if_pos ⟨raises, notDenied⟩]
    exact iff_of_true rfl (.inl raises)
  · rw [invocationPolicyDecision, if_neg (fun both => raises both.1)]
    constructor
    · exact fun isCritical => .inr ⟨agentVersion, version, isCritical⟩
    · rintro (isRaised | ⟨other, found, isCritical⟩)
      · exact absurd isRaised raises
      · exact sameVersion other found ▸ isCritical

/-- An open call under a grant that is recorded at high risk or above acts on vetted
semantics exactly when no layer puts it at critical risk, at which the gate is not asked,
or the gate would have found no blocker all the same. -/
theorem highRisk_references_vetted_iff {grant : TaskGrant} {toolCall : ToolCall}
    {committed : Option TaskGrant}
    (underGrant : input.taskGrantId.bind runtime.store.taskGrants.find? = some grant)
    (created : (executeToolInvocationStart codec parseUuid ids now name input runtime).1 =
      .ok (toolCall, committed))
    (isOpen : toolCall.status = .running ∨ toolCall.status = .waitingApproval) :
    (HighOrAbove toolCall.riskLevel →
        ∃ packet, ReferencesVetted parseUuid runtime.semantics grant input.args packet) ↔
      (PutAtCriticalRisk runtime name input grant →
        GateFindsNoBlocker parseUuid runtime.semantics grant input.args) := by
  have judged := executeToolInvocationStart_judged created
  rw [underGrant] at judged
  rw [← judged.critical_iff isOpen]
  constructor
  · exact fun vetted isCritical => grantGate_passes_iff.mpr (vetted (.inr isCritical))
  · rintro passes (isHigh | isCritical)
    · exact grantGate_passes_iff.mp (judged.gate_passed isOpen isHigh)
    · exact grantGate_passes_iff.mp (passes isCritical)

end spec

/-! ### A committing call on an unverified object -/

/-- The text of the one identifier that the arguments below mention. -/
def audienceText : String := "00000000-0000-0000-0000-000000000007"

def parseAudience (text : String) : Option Uuid :=
  if text = audienceText then some 7 else none

def plainCodec : RecordCodec where
  recordId := fun namespaceId kind parts => namespaceId + kind.length + parts.length
  jsonSha256 := fun _ => "sha256:00"
  printTimestamp := fun timestamp => toString timestamp

def campaignGrant : TaskGrant where
  id := 5
  workflowRunId := 4
  workflowStepRunId := none
  sessionId := none
  parentGrantId := none
  granteeSessionId := none
  status := .active
  expiresAt := none
  maxTurns := none
  maxToolCalls := none
  maxRuntimeSeconds := none
  maxCostUsdMicros := none
  turnsUsed := 0
  toolCallsUsed := 0
  costUsdMicrosUsed := 0
  semanticScopes := .object []
  memoryScope := .object []
  toolScope := .ofFields [("external_write", .ofStrings ["mcp.call"])]
  connectorScope := .ofFields [
    ("allowed_connector_ids", .ofStrings ["campaigns"]),
    ("allowed_tool_names", .ofStrings ["publish"]),
    ("mode", .string "commit_write")]
  approvalPolicy := .object []
  externalEffects := .object []
  createdAt := 0
  contextPacketId := some 6

def campaignStore : MemoryStore where
  sessions := Table.empty.insert ⟨1, .running, 2, some 3, none⟩
  workflowRuns := Table.empty.insert {
    id := 4
    status := .running
    primarySessionId := 1
    rootTaskGrantId := some 5
    inputPayload := .object []
    runtimeDelegation := .object [] }
  workflowStepRuns := Table.empty
  taskGrants := Table.empty.insert campaignGrant
  agents := Table.empty.insert { id := 2, disabled := false }
  agentVersions := Table.empty.insert {
    id := 3
    agentId := 2
    version := 1
    tools := ["mcp.call"]
    toolNames := []
    approvalPolicy := .object [] }

/-- The packet of the grant has one object, which nobody verified. -/
def campaignRuntime : ToolRuntime where
  store := campaignStore
  semantics := {
    contextPackets := Table.empty.insert {
      id := 6
      version := 1
      retrievedObjects := Table.empty.insert {
        id := 7
        objectType := "audience"
        trustLevel := "unverified"
        freshness := "stale" } } }
  policy := { active := .default }

def publishCampaign : ExecuteTool where
  sessionId := 1
  taskGrantId := some 5
  args := .ofFields [
    ("args", .ofFields [("object_id", .string audienceText)]),
    ("server", .string "campaigns"),
    ("tool", .string "publish")]

def publishIds : InvocationIds := ⟨20, 21, ⟨22, 23, 24⟩⟩

/-- The call as it is committed: it waits for an approval, at critical risk. -/
def publishCall : ToolCall where
  id := 20
  sessionId := 1
  eventId := some 21
  toolName := "mcp.call"
  args := publishCampaign.args
  taskGrantId := some 5
  normalizedArgsHash := some "sha256:00"
  targetBinding := .ofFields [
    ("payload_digest", .string "sha256:00"),
    ("server", .string "campaigns"),
    ("tool", .string "publish")]
  status := .waitingApproval
  riskLevel := "critical"
  result := none
  error := none

theorem publishCall_created :
    (executeToolInvocationStart plainCodec parseAudience publishIds 0 "mcp.call"
      publishCampaign campaignRuntime).1 = .ok (publishCall, some campaignGrant.addToolCall) := by
  rfl

theorem publishCampaign_mentions :
    MentionsSemanticObject parseAudience publishCampaign.args 7 := by
  refine ⟨[.field "args", .field "object_id"], audienceText, "object_id", ?_, rfl, by decide,
    by decide⟩
  have inner : Json.Holds (.ofFields [("object_id", .string audienceText)])
      [.field "object_id"] (.string audienceText) :=
    .field List.mem_cons_self (.here _)
  exact .field List.mem_cons_self inner

theorem publishCampaign_not_vetted :
    ¬ ∃ packet, ReferencesVetted parseAudience campaignRuntime.semantics campaignGrant
      publishCampaign.args packet := by
  rintro ⟨packet, vetted⟩
  obtain ⟨object, member, -, isCurrent, -⟩ := vetted.mentioned 7 publishCampaign_mentions
  rcases List.mem_singleton.mp vetted.stored with rfl
  rcases List.mem_singleton.mp member with rfl
  exact absurd isCurrent (by decide)

/-- A commit-bound call at the grant of an unverified packet waits for its approval at
critical risk, and the gate was never asked. -/
theorem commit_write_skips_gate :
    (executeToolInvocationStart plainCodec parseAudience publishIds 0 "mcp.call"
        publishCampaign campaignRuntime).1 = .ok (publishCall, some campaignGrant.addToolCall) ∧
      publishCampaign.taskGrantId.bind campaignRuntime.store.taskGrants.find? =
        some campaignGrant ∧
      publishCall.status = .waitingApproval ∧ HighOrAbove publishCall.riskLevel ∧
      MentionsSemanticObject parseAudience publishCampaign.args 7 ∧
      ¬ ∃ packet, ReferencesVetted parseAudience campaignRuntime.semantics campaignGrant
        publishCampaign.args packet :=
  ⟨publishCall_created, rfl, rfl, .inr rfl, publishCampaign_mentions,
    publishCampaign_not_vetted⟩

theorem publishCall_vetted_iff :
    (HighOrAbove "critical" → ∃ packet, ReferencesVetted parseAudience campaignRuntime.semantics
        campaignGrant publishCampaign.args packet) ↔
      (PutAtCriticalRisk campaignRuntime "mcp.call" publishCampaign campaignGrant →
        GateFindsNoBlocker parseAudience campaignRuntime.semantics campaignGrant
          publishCampaign.args) :=
  highRisk_references_vetted_iff rfl publishCall_created (.inr rfl)

end MandoForge
