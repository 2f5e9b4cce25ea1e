/-
Module: MandoForge.AgentRelease.PackLifecycle
Purpose: The lifecycle of workflow pack installations in the in-memory store: one
  transition moves the installation with its definitions, bindings and runtime objects,
  promotes agent releases for it or takes its promotions back, and disables agents.
Trusted boundary: a transition is one critical section of the store's lock.  Whether
  releases have to be promoted independently is read from the environment, a parameter.
  Identifiers are printed as numbers and read back by a parser of another crate.  Of the
  stamps only those are kept that a transition writes or reads.
Main exports: PackStore, workflowPackReleaseReferences
-/
import MandoForge.AgentRelease.Releases
import MandoForge.Foundation.Outcome
import Mathlib.Data.List.Dedup
import Mathlib.Data.List.Sort

namespace MandoForge

open Foundation

/-! ### Records -/

/-- The statuses of an installation and of what belongs to it; the source keeps them as
strings. -/
inductive PackStatus where
  | draft
  | installed
  | staged
  | released
  | rolledBack
  | archived
  | superseded
deriving DecidableEq, Repr

def PackStatus.text : PackStatus → String
  | draft => "draft"
  | installed => "installed"
  | staged => "staged"
  | released => "released"
  | rolledBack => "rolled_back"
  | archived => "archived"
  | superseded => "superseded"

structure WorkflowPackInstallation where
  id : Uuid
  packId : String
  kind : String
  version : String
  status : PackStatus
  evalGateStatus : String
  releaseGateStatus : String
  gateEvidence : Json
  stagedAt : Option Timestamp
  releasedAt : Option Timestamp
  archivedAt : Option Timestamp
  updatedAt : Timestamp
deriving DecidableEq, Repr

/-- A workflow definition, as far as the lifecycle of its pack goes. -/
structure PackDefinition where
  id : Uuid
  packInstallationId : Option Uuid
  releaseState : PackStatus
  archivedAt : Option Timestamp
  updatedAt : Timestamp
deriving DecidableEq, Repr

structure WorkflowPackBinding where
  id : Uuid
  installationId : Uuid
  bindingType : String
  bindingKey : String
  targetId : Option Uuid
  status : PackStatus
  updatedAt : Timestamp
deriving DecidableEq, Repr

structure WorkflowPackRuntimeObject where
  id : Uuid
  installationId : Uuid
  objectType : String
  objectKey : String
  status : PackStatus
  updatedAt : Timestamp
deriving DecidableEq, Repr

/-- The part of the store that releases and pack lifecycles read and write. -/
structure PackStore where
  agents : Table Agent.id
  agentVersions : Table AgentVersion.id
  evalRuns : Table EvalRun.id
  agentReleases : AgentReleaseTable
  workflowPackInstallations : Table WorkflowPackInstallation.id
  workflowDefinitions : Table PackDefinition.id
  workflowPackBindings : Table WorkflowPackBinding.id
  workflowPackRuntimeObjects : Table WorkflowPackRuntimeObject.id
  auditLogs : Table AuditLog.id
deriving DecidableEq

/-- An agent and one of its versions. -/
abbrev ReleaseTarget := Uuid × Uuid

inductive WorkflowPackAgentReleaseTransition where
  | requirePromoted (targets : List ReleaseTarget) (environment : String)
  | promoteFromPack (targets : List ReleaseTarget) (environment promotedBy : String)
      (gateEvidence : Json)
  | rollbackPackPromotions
deriving DecidableEq

structure WorkflowPackLifecycleTransitionRequest where
  installationId : Uuid
  expectedStatus : PackStatus
  nextStatus : PackStatus
  evalGateStatus : String
  releaseGateStatus : String
  gateEvidence : Json
  stagedAt : Option Timestamp
  releasedAt : Option Timestamp
  occurredAt : Timestamp
  auditAction : String
  auditDetails : Json
  agentReleaseTransition : WorkflowPackAgentReleaseTransition
deriving DecidableEq

/-! ### References of a release to installations -/

/-- A `BTreeSet` of the items, in order. -/
def sortedSet (items : List Uuid) : List Uuid := items.dedup.insertionSort (· ≤ ·)

@[simp] theorem mem_sortedSet {items : List Uuid} {item : Uuid} :
    item ∈ sortedSet items ↔ item ∈ items := by
  rw [sortedSet, List.mem_insertionSort, List.mem_dedup]

/-- The release that `new_workflow_pack_agent_release` makes. -/
def newWorkflowPackAgentRelease (id installationId agentId agentVersionId : Uuid)
    (environment promotedBy : String) (gateEvidence : Json) (promotedAt : Timestamp) :
    AgentRelease where
  id := id
  agentId := agentId
  agentVersionId := agentVersionId
  environment := environment
  status := .promoted
  evalRunId := none
  evalScore := none
  minScore := 1
  requestedBy := some promotedBy
  requestedAt := some promotedAt
  requestReason := some "workflow pack release"
  approverSubject := some promotedBy
  decisionBy := some promotedBy
  decidedAt := some promotedAt
  decisionReason := some "workflow pack eval and release gates passed"
  promotedBy := some promotedBy
  promotedAt := some promotedAt
  automationPolicy := .ofFields [
    ("source", .string "workflow_pack_release"),
    ("workflow_pack_installation_id", .ofUuid installationId),
    ("workflow_pack_installation_ids", .array [.ofUuid installationId]),
    ("gate_evidence", gateEvidence)]
  createdAt := promotedAt

section references

variable (parseUuid : String → Option Uuid)

def workflowPackReleaseReferences (release : AgentRelease) : List Uuid :=
  if agentReleaseIsIndependent release then []
  else
    match (release.automationPolicy.get "workflow_pack_installation_ids").bind Json.asArray with
    | some values => sortedSet ((values.filterMap Json.asStr).filterMap parseUuid)
    | none =>
        (((release.automationPolicy.get "workflow_pack_installation_id").bind Json.asStr).bind
          parseUuid).toList

def setWorkflowPackReleaseReferences (references : List Uuid) (release : AgentRelease) :
    AgentRelease :=
  match release.automationPolicy with
  | .object fields =>
      { release with
        automationPolicy := .object (Json.insertField "workflow_pack_installation_ids"
          (.array (references.map Json.ofUuid)) fields) }
  | _ => release

def addWorkflowPackReleaseReference (installationId : Uuid) (release : AgentRelease) :
    AgentRelease :=
  if agentReleaseIsIndependent release then release
  else
    setWorkflowPackReleaseReferences
      (sortedSet (installationId :: workflowPackReleaseReferences parseUuid release)) release

/-- The release without the reference, and how many references remain. -/
def removeWorkflowPackReleaseReference (installationId : Uuid) (release : AgentRelease) :
    AgentRelease × Nat :=
  let references := (workflowPackReleaseReferences parseUuid release).filter fun reference =>
    decide (reference ≠ installationId)
  (setWorkflowPackReleaseReferences references release, references.length)

@[simp] theorem setWorkflowPackReleaseReferences_id (references : List Uuid)
    (release : AgentRelease) :
    (setWorkflowPackReleaseReferences references release).id = release.id := by
  unfold setWorkflowPackReleaseReferences
  split <;> rfl

@[simp] theorem addWorkflowPackReleaseReference_id (installationId : Uuid)
    (release : AgentRelease) :
    (addWorkflowPackReleaseReference parseUuid installationId release).id = release.id := by
  unfold addWorkflowPackReleaseReference
  split
  · rfl
  · exact setWorkflowPackReleaseReferences_id _ _

/-- The release after the installation gave up its promotions: without the reference,
and rolled back when that was the last one. -/
def AgentRelease.givenUpBy (installationId : Uuid) (release : AgentRelease) : AgentRelease :=
  if release.status = .promoted ∧
      installationId ∈ workflowPackReleaseReferences parseUuid release then
    let removed := removeWorkflowPackReleaseReference parseUuid installationId release
    if removed.2 = 0 then removed.1.withStatus .rolledBack else removed.1
  else release

@[simp] theorem AgentRelease.givenUpBy_id (installationId : Uuid) (release : AgentRelease) :
    (release.givenUpBy parseUuid installationId).id = release.id := by
  unfold givenUpBy
  split
  · dsimp only
    split
    · exact setWorkflowPackReleaseReferences_id _ _
    · exact setWorkflowPackReleaseReferences_id _ _
  · rfl

end references

/-! ### The parts of a transition -/

def validateWorkflowPackLifecycleTransition : PackStatus → PackStatus → Except AppError Unit
  | .staged, .released | .released, .rolledBack => .ok ()
  | .installed, .archived | .staged, .archived | .released, .archived
  | .rolledBack, .archived => .ok ()
  | _, _ => .error (.badRequest "invalid workflow pack lifecycle transition")

/-- `normalize_agent_release_targets`: the targets in order, each once. -/
def normalizeAgentReleaseTargets (targets : List ReleaseTarget) :
    Except AppError (List ReleaseTarget) :=
  let targets := targets.dedup.insertionSort fun left right =>
    left.1 < right.1 ∨ (left.1 = right.1 ∧ left.2 ≤ right.2)
  if targets.isEmpty then
    .error (.badRequest "workflow pack release requires materialized agent versions")
  else .ok targets

def normalizeAgentReleaseEnvironment (environment : String) : Except AppError String :=
  let environment := toAsciiLowercase (trim environment)
  if environment = "" then .error (.badRequest "workflow pack release environment is required")
  else .ok environment

def prepareAgentReleaseTransition :
    WorkflowPackAgentReleaseTransition → Except AppError WorkflowPackAgentReleaseTransition
  | .requirePromoted targets environment => do
      let targets ← normalizeAgentReleaseTargets targets
      let environment ← normalizeAgentReleaseEnvironment environment
      return .requirePromoted targets environment
  | .promoteFromPack targets environment promotedBy gateEvidence => do
      let targets ← normalizeAgentReleaseTargets targets
      let environment ← normalizeAgentReleaseEnvironment environment
      return .promoteFromPack targets environment promotedBy gateEvidence
  | .rollbackPackPromotions => .ok .rollbackPackPromotions

/-- The independently promoted releases that a release needs. -/
def requiredReleases (targets : List ReleaseTarget) (environment : String) (store : PackStore) :
    Except AppError (List AgentRelease) :=
  targets.mapM fun target =>
    okOr (store.agentReleases.rows.find? fun release =>
        release.isPromotedFor target.1 target.2 environment && agentReleaseIsIndependent release)
      (.badRequest ("workflow pack production release requires independently promoted agent " ++
        "version " ++ Nat.repr target.2 ++ " for environment " ++ environment))

/-- The targets of a promotion are versions of their agents. -/
def knownTargets (targets : List ReleaseTarget) (store : PackStore) : Except AppError Unit :=
  if targets.all fun target => store.agentVersions.rows.any fun version =>
      decide (version.agentId = target.1) && decide (version.id = target.2) then .ok ()
  else .error (.badRequest "workflow pack agent binding targets an unknown agent version")

namespace WorkflowPackLifecycleTransitionRequest

variable (request : WorkflowPackLifecycleTransitionRequest)

def moveInstallation (installation : WorkflowPackInstallation) : WorkflowPackInstallation :=
  { installation with
    status := request.nextStatus
    evalGateStatus := request.evalGateStatus
    releaseGateStatus := request.releaseGateStatus
    gateEvidence := request.gateEvidence
    stagedAt := request.stagedAt
    releasedAt := request.releasedAt
    archivedAt :=
      if request.nextStatus = .archived then some request.occurredAt else installation.archivedAt
    updatedAt := request.occurredAt }

def movesDefinition (definition : PackDefinition) : Bool :=
  decide (definition.packInstallationId = some request.installationId) &&
    definition.archivedAt.isNone

def moveDefinition (definition : PackDefinition) : PackDefinition :=
  if request.movesDefinition definition then
    { definition with
      releaseState := request.nextStatus
      updatedAt := request.occurredAt
      archivedAt := if request.nextStatus = .archived then some request.occurredAt else none }
  else definition

def movesBinding (binding : WorkflowPackBinding) : Bool :=
  decide (binding.installationId = request.installationId) &&
    decide (binding.status ≠ .superseded)

def moveBinding (binding : WorkflowPackBinding) : WorkflowPackBinding :=
  if request.movesBinding binding then
    { binding with status := request.nextStatus, updatedAt := request.occurredAt }
  else binding

def movesRuntimeObject (object : WorkflowPackRuntimeObject) : Bool :=
  decide (object.installationId = request.installationId) && decide (object.status ≠ .superseded)

def moveRuntimeObject (object : WorkflowPackRuntimeObject) : WorkflowPackRuntimeObject :=
  if request.movesRuntimeObject object then
    { object with status := request.nextStatus, updatedAt := request.occurredAt }
  else object

@[simp] theorem moveInstallation_id (installation : WorkflowPackInstallation) :
    (request.moveInstallation installation).id = installation.id := rfl

@[simp] theorem moveDefinition_id (definition : PackDefinition) :
    (request.moveDefinition definition).id = definition.id := by
  unfold moveDefinition
  split <;> rfl

@[simp] theorem moveBinding_id (binding : WorkflowPackBinding) :
    (request.moveBinding binding).id = binding.id := by
  unfold moveBinding
  split <;> rfl

@[simp] theorem moveRuntimeObject_id (object : WorkflowPackRuntimeObject) :
    (request.moveRuntimeObject object).id = object.id := by
  unfold moveRuntimeObject
  split <;> rfl

end WorkflowPackLifecycleTransitionRequest

/-- The agent has a version that a binding of the installation targets as an agent.  The
status of the binding does not matter. -/
def ownedByInstallation (installationId : Uuid) (store : PackStore) (agentId : Uuid) : Bool :=
  store.agentVersions.rows.any fun version =>
    decide (version.agentId = agentId) &&
      store.workflowPackBindings.rows.any fun binding =>
        decide (binding.installationId = installationId) &&
          decide (binding.bindingType = "agent") && decide (binding.targetId = some version.id)

/-- Disable the agents that the installation owns. -/
def disableOwned (installationId : Uuid) (store : PackStore) (agent : Agent) : Agent :=
  if ownedByInstallation installationId store agent.id then { agent with disabled := true }
  else agent

@[simp] theorem disableOwned_id (installationId : Uuid) (store : PackStore) (agent : Agent) :
    (disableOwned installationId store agent).id = agent.id := by
  unfold disableOwned
  split <;> rfl

section transition

variable (parseUuid : String → Option Uuid)

/-- A promotion: a promoted release of the target gets the reference, or a new one is
stored. -/
def promoteTarget (draw : ReleaseTarget → Uuid) (installationId : Uuid)
    (environment promotedBy : String) (gateEvidence : Json) (occurredAt : Timestamp)
    (releases : AgentReleaseTable) (target : ReleaseTarget) : AgentRelease × AgentReleaseTable :=
  match releases.rows.find? (AgentRelease.isPromotedFor target.1 target.2 environment) with
  | some existing =>
      (addWorkflowPackReleaseReference parseUuid installationId existing,
        releases.modify existing.id (addWorkflowPackReleaseReference parseUuid installationId)
          (addWorkflowPackReleaseReference_id parseUuid installationId))
  | none =>
      let release := newWorkflowPackAgentRelease (releases.drawKey (draw target)) installationId
        target.1 target.2 environment promotedBy gateEvidence occurredAt
      (release, releases.insert release)

/-- The promotions of a release, one target after the other. -/
def promoteTargets (draw : ReleaseTarget → Uuid) (installationId : Uuid)
    (environment promotedBy : String) (gateEvidence : Json) (occurredAt : Timestamp) :
    List ReleaseTarget → AgentReleaseTable → List AgentRelease × AgentReleaseTable
  | [], releases => ([], releases)
  | target :: rest, releases =>
      let (release, releases) := promoteTarget parseUuid draw installationId environment
        promotedBy gateEvidence occurredAt releases target
      let (others, releases) := promoteTargets draw installationId environment promotedBy
        gateEvidence occurredAt rest releases
      (release :: others, releases)

/-- What a transition does to the agent releases, with those it reports. -/
def moveAgentReleases (draw : ReleaseTarget → Uuid) (installationId : Uuid)
    (occurredAt : Timestamp) (required : List AgentRelease)
    (transition : WorkflowPackAgentReleaseTransition) (releases : AgentReleaseTable) :
    List AgentRelease × AgentReleaseTable :=
  match transition with
  | .requirePromoted _ _ => (required, releases)
  | .promoteFromPack targets environment promotedBy gateEvidence =>
      promoteTargets parseUuid draw installationId environment promotedBy gateEvidence occurredAt
        targets releases
  | .rollbackPackPromotions =>
      ((releases.rows.filter fun release => decide (release.status = .promoted) &&
          decide (installationId ∈ workflowPackReleaseReferences parseUuid release)).map
          (AgentRelease.givenUpBy parseUuid installationId),
        releases.mapRows (AgentRelease.givenUpBy parseUuid installationId)
          (AgentRelease.givenUpBy_id parseUuid installationId))

def workflowPackLifecycleAudit (id : Uuid) (installation : WorkflowPackInstallation)
    (action : String) (details : Json) (definitionCount bindingCount runtimeObjectCount : Nat)
    (agentReleases : List AgentRelease) : AuditLog where
  id := id
  sessionId := none
  actorType := "user"
  actorId := none
  action := action
  resourceType := "workflow_pack_installation"
  resourceId := some installation.id
  details := .ofFields [
    ("pack_id", .string installation.packId),
    ("kind", .string installation.kind),
    ("version", .string installation.version),
    ("status", .string installation.status.text),
    ("eval_gate_status", .string installation.evalGateStatus),
    ("release_gate_status", .string installation.releaseGateStatus),
    ("details", Json.mergeObject details (.ofFields [
      ("workflow_definition_count", .ofNat definitionCount),
      ("binding_count", .ofNat bindingCount),
      ("runtime_object_count", .ofNat runtimeObjectCount),
      ("agent_release_count", .ofNat agentReleases.length),
      ("agent_release_ids", .array ((agentReleases.map AgentRelease.id).insertionSort
        (· ≤ ·) |>.map Json.ofUuid))]))]

/-- The identifiers that a transition draws. -/
structure TransitionDraws where
  release : ReleaseTarget → Uuid
  audit : Uuid

/-- What a transition reads of the agent releases before it writes anything. -/
def checkAgentReleases (transition : WorkflowPackAgentReleaseTransition) (store : PackStore) :
    Except AppError (List AgentRelease) :=
  match transition with
  | .requirePromoted targets environment => requiredReleases targets environment store
  | .promoteFromPack targets _ _ _ => do
      knownTargets targets store
      return []
  | .rollbackPackPromotions => .ok []

/-- The writes of a transition whose checks passed. -/
def writeTransition (draws : TransitionDraws) (request : WorkflowPackLifecycleTransitionRequest)
    (transition : WorkflowPackAgentReleaseTransition) (required : List AgentRelease)
    (current : WorkflowPackInstallation) (store : PackStore) : PackStore :=
  let released := moveAgentReleases parseUuid draws.release request.installationId
    request.occurredAt required transition store.agentReleases
  { store with
    workflowPackInstallations :=
      store.workflowPackInstallations.insert (request.moveInstallation current)
    workflowDefinitions :=
      store.workflowDefinitions.mapRows request.moveDefinition request.moveDefinition_id
    workflowPackBindings :=
      store.workflowPackBindings.mapRows request.moveBinding request.moveBinding_id
    workflowPackRuntimeObjects :=
      store.workflowPackRuntimeObjects.mapRows request.moveRuntimeObject
        request.moveRuntimeObject_id
    agents :=
      if request.nextStatus = .rolledBack ∨ request.nextStatus = .archived then
        store.agents.mapRows (disableOwned request.installationId store)
          (disableOwned_id request.installationId store)
      else store.agents
    agentReleases := released.2
    auditLogs := store.auditLogs.insert (workflowPackLifecycleAudit
      (store.auditLogs.drawKey draws.audit) (request.moveInstallation current)
      request.auditAction request.auditDetails
      (store.workflowDefinitions.rows.countP request.movesDefinition)
      (store.workflowPackBindings.rows.countP request.movesBinding)
      (store.workflowPackRuntimeObjects.rows.countP request.movesRuntimeObject) released.1) }

/-- The checks of a transition, up to its first write. -/
def checkTransition (enforcementRequired : Bool)
    (request : WorkflowPackLifecycleTransitionRequest) (store : PackStore) :
    Except AppError
      (WorkflowPackAgentReleaseTransition × WorkflowPackInstallation × List AgentRelease) := do
  validateWorkflowPackLifecycleTransition request.expectedStatus request.nextStatus
  if !request.auditDetails.isObject then
    throw (.badRequest "workflow pack lifecycle audit details must be a JSON object")
  let transition ← prepareAgentReleaseTransition request.agentReleaseTransition
  if enforcementRequired && (transition matches .promoteFromPack ..) then
    throw (.forbidden
      "production workflow pack releases require independently promoted AgentRelease records")
  let current ← okOr
    ((store.workflowPackInstallations.find? request.installationId).filter fun installation =>
      installation.archivedAt.isNone) (.notFound "workflow pack installation not found")
  if current.status ≠ request.expectedStatus then
    throw (.badRequest
      "workflow pack installation status conflict: concurrent update detected")
  let required ← checkAgentReleases transition store
  return (transition, current, required)

def transitionWorkflowPackLifecycle (enforcementRequired : Bool) (draws : TransitionDraws)
    (request : WorkflowPackLifecycleTransitionRequest) (store : PackStore) :
    Except AppError WorkflowPackInstallation × PackStore :=
  match checkTransition enforcementRequired request store with
  | .error error => (.error error, store)
  | .ok (transition, current, required) =>
      (.ok (request.moveInstallation current),
        writeTransition parseUuid draws request transition required current store)

end transition

end MandoForge
