/-
Module: MandoForge.Semantic.Scopes
Purpose: The scope of a semantic source, object or link endpoint: the records that owners,
  scope fields and endpoints name, and the team and project behind them.
Trusted boundary: reading an identifier from its text belongs to another crate;
  `parseUuid` stands for it.
Main exports: ScopeDirectory, semanticScopesScope
-/
import MandoForge.Semantic.Kernel

namespace MandoForge

open Foundation

/-! ### The records behind a scope -/

namespace ScopeDirectory

structure Organization where
  id : Uuid
  createdAt : Timestamp
deriving DecidableEq, Repr

structure Team where
  id : Uuid
  organizationId : Uuid
  name : String
  slug : String
  createdAt : Timestamp
deriving DecidableEq, Repr

structure Project where
  id : Uuid
  teamId : Uuid
  name : String
  slug : String
  createdAt : Timestamp
deriving DecidableEq, Repr

structure Agent where
  id : Uuid
  teamId : Option Uuid
  projectId : Option Uuid
deriving DecidableEq, Repr

structure Session where
  id : Uuid
  agentId : Uuid
deriving DecidableEq, Repr

structure WorkItem where
  id : Uuid
  teamId : Option Uuid
  projectId : Option Uuid
  archivedAt : Option Timestamp
deriving DecidableEq, Repr

structure WorkflowRun where
  id : Uuid
  primarySessionId : Uuid
deriving DecidableEq, Repr

structure WorkflowPackInstallation where
  id : Uuid
  archivedAt : Option Timestamp
deriving DecidableEq, Repr

end ScopeDirectory

/-- The part of the store that a scope is resolved in, besides the semantic records. -/
structure ScopeDirectory where
  organizations : Table ScopeDirectory.Organization.id := Table.empty
  teams : Table ScopeDirectory.Team.id := Table.empty
  projects : Table ScopeDirectory.Project.id := Table.empty
  agents : Table ScopeDirectory.Agent.id := Table.empty
  sessions : Table ScopeDirectory.Session.id := Table.empty
  workItems : Table ScopeDirectory.WorkItem.id := Table.empty
  workflowRuns : Table ScopeDirectory.WorkflowRun.id := Table.empty
  workflowPackInstallations : Table ScopeDirectory.WorkflowPackInstallation.id := Table.empty

/-- `sort_by_key(created_at)`, then `reverse`. -/
def newestFirst {Row : Type} (createdAt : Row → Timestamp) (rows : List Row) : List Row :=
  (rows.mergeSort fun earlier later => decide (createdAt earlier ≤ createdAt later)).reverse

namespace ScopeDirectory

variable (directory : ScopeDirectory)

def listOrganizations : List Organization :=
  newestFirst Organization.createdAt directory.organizations.rows

def listTeams (organizationId : Uuid) : List Team :=
  newestFirst Team.createdAt
    (directory.teams.rows.filter fun team => decide (team.organizationId = organizationId))

def listProjects (teamId : Uuid) : List Project :=
  newestFirst Project.createdAt
    (directory.projects.rows.filter fun project => decide (project.teamId = teamId))

def getTeam (id : Uuid) : Except AppError Team :=
  okOr (directory.teams.find? id) (.notFound "team not found")

def getProject (id : Uuid) : Except AppError Project :=
  okOr (directory.projects.find? id) (.notFound "project not found")

def getAgent (id : Uuid) : Except AppError Agent :=
  okOr (directory.agents.find? id) (.notFound "agent not found")

def getSession (id : Uuid) : Except AppError Session :=
  okOr (directory.sessions.find? id) (.notFound "session not found")

def getWorkItem (id : Uuid) : Except AppError WorkItem :=
  getUnarchived WorkItem.archivedAt "active work item not found" directory.workItems id

def getWorkflowRun (id : Uuid) : Except AppError WorkflowRun :=
  okOr (directory.workflowRuns.find? id) (.notFound "workflow run not found")

def getWorkflowPackInstallation (id : Uuid) : Except AppError WorkflowPackInstallation :=
  getUnarchived WorkflowPackInstallation.archivedAt "workflow pack installation not found"
    directory.workflowPackInstallations id

def activeWorkflowPackInstallationIds : List Uuid :=
  (directory.workflowPackInstallations.rows.filter
    fun installation => installation.archivedAt.isNone).map WorkflowPackInstallation.id

end ScopeDirectory

/-! ### Scopes -/

inductive ResourceScope where
  | tenant
  | scopedUnknown
  | teamProject (teamId projectId : Option Uuid)
  | session (sessionId : Uuid)
deriving DecidableEq, Repr

section scopes

variable (parseUuid : String → Option Uuid) (directory : ScopeDirectory)

def agentScope (agentId : Uuid) : Except AppError ResourceScope := do
  let agent ← directory.getAgent agentId
  .ok (.teamProject agent.teamId agent.projectId)

def sessionScope (sessionId : Uuid) : Except AppError ResourceScope := do
  let session ← directory.getSession sessionId
  agentScope directory session.agentId

def teamScope (teamId : Uuid) : Except AppError ResourceScope := do
  let _ ← directory.getTeam teamId
  .ok (.teamProject (some teamId) none)

def projectScope (projectId : Uuid) : Except AppError ResourceScope := do
  let project ← directory.getProject projectId
  .ok (.teamProject (some project.teamId) (some project.id))

def workItemScope (workItemId : Uuid) : Except AppError ResourceScope := do
  let workItem ← directory.getWorkItem workItemId
  .ok (.teamProject workItem.teamId workItem.projectId)

def workflowRunScope (workflowRunId : Uuid) : Except AppError ResourceScope := do
  let run ← directory.getWorkflowRun workflowRunId
  .ok (.session run.primarySessionId)

/-- `(matches.len() == 1).then(|| matches.remove(0))`. -/
def onlyMatch {Row : Type} : List Row → Option Row
  | [row] => some row
  | _ => none

def findProjectByScopeLabel (label : String) : Option ScopeDirectory.Project :=
  let normalized := trim label
  if normalized = "" then none
  else
    onlyMatch <| directory.listOrganizations.flatMap fun organization =>
      (directory.listTeams organization.id).flatMap fun team =>
        (directory.listProjects team.id).filter fun project =>
          eqIgnoreAsciiCase project.slug normalized || eqIgnoreAsciiCase project.name normalized

def findTeamByScopeLabel (label : String) : Option ScopeDirectory.Team :=
  let normalized := trim label
  if normalized = "" then none
  else
    onlyMatch <| directory.listOrganizations.flatMap fun organization =>
      (directory.listTeams organization.id).filter fun team =>
        eqIgnoreAsciiCase team.slug normalized || eqIgnoreAsciiCase team.name normalized

def uuidFromSemanticScope (scopes : Json) (key : String) : Option Uuid :=
  ((scopes.get key).bind Json.asStr).bind parseUuid

def textFromSemanticScope (scopes : Json) (key : String) : Option String :=
  ((scopes.get key).bind Json.asStr).bind nonEmptyTrimmed

def projectLabelScope (label : String) : ResourceScope :=
  match findProjectByScopeLabel directory label with
  | some project => .teamProject (some project.teamId) (some project.id)
  | none => .scopedUnknown

def teamLabelScope (label : String) : ResourceScope :=
  match findTeamByScopeLabel directory label with
  | some team => .teamProject (some team.id) none
  | none => .scopedUnknown

/-- `semantic_scopes_scope`: the first field that is set decides. -/
def semanticScopesScope (scopes : Json) : Except AppError ResourceScope :=
  match uuidFromSemanticScope parseUuid scopes "project_id" with
  | some projectId => projectScope directory projectId
  | none =>
  match uuidFromSemanticScope parseUuid scopes "team_id" with
  | some teamId => teamScope directory teamId
  | none =>
  match uuidFromSemanticScope parseUuid scopes "session_id" with
  | some sessionId => sessionScope directory sessionId
  | none =>
  match uuidFromSemanticScope parseUuid scopes "agent_id" with
  | some agentId => agentScope directory agentId
  | none =>
  match uuidFromSemanticScope parseUuid scopes "work_item_id" with
  | some workItemId => workItemScope directory workItemId
  | none =>
  match ["project_scope", "project_slug"].findSome? (textFromSemanticScope scopes) with
  | some label => .ok (projectLabelScope directory label)
  | none =>
  match ["team_scope", "team_slug"].findSome? (textFromSemanticScope scopes) with
  | some label => .ok (teamLabelScope directory label)
  | none =>
  if ["session_scope", "agent_scope", "work_item_scope"].any fun key =>
      (textFromSemanticScope scopes key).isSome then
    .ok .scopedUnknown
  else .ok .tenant

/-- The scope of what a pack owns.  A list of the active packs stands in for the lookup. -/
def packScope (activeWorkflowPackIds : Option (List Uuid)) (ownerId : Uuid) :
    Except AppError ResourceScope :=
  match activeWorkflowPackIds with
  | some active => .ok (if ownerId ∈ active then .tenant else .scopedUnknown)
  | none =>
      match directory.getWorkflowPackInstallation ownerId with
      | .ok _ => .ok .tenant
      | .error error => if error.status = .notFound then .ok .scopedUnknown else .error error

def semanticSourceScope (activeWorkflowPackIds : Option (List Uuid)) (source : SemanticSource) :
    Except AppError ResourceScope :=
  match source.ownerType, source.ownerId with
  | none, none => .ok .tenant
  | none, some _ | some _, none => .ok .scopedUnknown
  | some ownerType, some ownerId =>
      let kind := toAsciiLowercase (trim ownerType)
      if kind = "project" then projectScope directory ownerId
      else if kind = "team" then teamScope directory ownerId
      else if kind = "agent" then agentScope directory ownerId
      else if kind = "session" then sessionScope directory ownerId
      else if kind = "work_item" then workItemScope directory ownerId
      else if kind = "workflow_pack_installation" then
        packScope directory activeWorkflowPackIds ownerId
      else .ok .scopedUnknown

/-- The scope of an object, from the one of its source. -/
def objectScopeBehind (sourceScope : Uuid → Except AppError ResourceScope)
    (object : StoredSemanticObject) : Except AppError ResourceScope :=
  match object.sourceId with
  | none => semanticScopesScope parseUuid directory object.semanticScopes
  | some sourceId => do
      let scope ← sourceScope sourceId
      if scope ≠ .tenant then .ok scope
      else semanticScopesScope parseUuid directory object.semanticScopes

variable (kernel : SemanticKernel)

/-- `get_semantic_source`, then `semantic_source_scope`. -/
def storedSourceScope (sourceId : Uuid) : Except AppError ResourceScope := do
  let source ← kernel.getSemanticSource sourceId
  semanticSourceScope directory none source

def semanticObjectScope (object : StoredSemanticObject) : Except AppError ResourceScope :=
  objectScopeBehind parseUuid directory (storedSourceScope directory kernel) object

/-- A cache of scopes, by the id of a record. -/
abbrev ScopeCache := Uuid → Option ResourceScope

/-- The cached scope, or else what a lookup gives. -/
def ScopeCache.getOr (cache : ScopeCache) (lookup : Uuid → Except AppError ResourceScope)
    (id : Uuid) : Except AppError ResourceScope :=
  match cache id with
  | some scope => .ok scope
  | none => lookup id

def semanticObjectScopeWithSourceScopes (sourceScopes : ScopeCache)
    (object : StoredSemanticObject) : Except AppError ResourceScope :=
  objectScopeBehind parseUuid directory
    (sourceScopes.getOr (storedSourceScope directory kernel)) object

/-! ### Endpoints of links -/

def semanticLinkEndpointResourceType (entityType : String) : Option String :=
  let kind := toAsciiLowercase (trim entityType)
  if kind ∈ ["agent", "project", "session", "work_item", "workflow_run"] then some kind else none

def semanticLinkEndpointResourceScope (resourceType : String) (resourceId : Uuid) :
    Except AppError ResourceScope :=
  if resourceType = "agent" then agentScope directory resourceId
  else if resourceType = "project" then projectScope directory resourceId
  else if resourceType = "session" then sessionScope directory resourceId
  else if resourceType = "work_item" then workItemScope directory resourceId
  else if resourceType = "workflow_run" then workflowRunScope directory resourceId
  else .ok .scopedUnknown

/-- `get_semantic_object`, then `semantic_object_scope`. -/
def storedObjectScope (objectId : Uuid) : Except AppError ResourceScope := do
  let object ← kernel.getSemanticObject objectId
  semanticObjectScope parseUuid directory kernel object

def notAnObjectId : AppError := .forbidden "semantic link endpoint is not a valid object id"

def semanticLinkEndpointScope (entityType entityId : String) : Except AppError ResourceScope :=
  if entityType = "semantic_object" then do
    let objectId ← okOr (parseUuid entityId) notAnObjectId
    storedObjectScope parseUuid directory kernel objectId
  else
    match semanticLinkEndpointResourceType entityType with
    | none => .ok .scopedUnknown
    | some resourceType => do
        let resourceId ← okOr (parseUuid entityId)
          (.forbidden "semantic link endpoint is not a valid resource id")
        semanticLinkEndpointResourceScope directory resourceType resourceId

def semanticLinkEndpointScopeWithObjectScopes (objectScopes : ScopeCache)
    (entityType entityId : String) : Except AppError ResourceScope :=
  if entityType ≠ "semantic_object" then
    semanticLinkEndpointScope parseUuid directory kernel entityType entityId
  else do
    let objectId ← okOr (parseUuid entityId) notAnObjectId
    objectScopes.getOr (storedObjectScope parseUuid directory kernel) objectId

end scopes

end MandoForge
