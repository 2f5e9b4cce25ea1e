/-
Module: MandoForge.Semantic.LiveReferences
Purpose: When the scope of a semantic record resolves: the records that its owner, its
  scope fields or its endpoints name are there.
Trusted boundary: as in `Scopes`.
Main exports: ScopeReference, ScopesLive
-/
import MandoForge.Semantic.Scopes

namespace MandoForge

open Foundation

/-- A value comes out. -/
def Resolves {Value : Type} (outcome : Except AppError Value) : Prop :=
  ∃ value, outcome = .ok value

theorem resolves_ok {Value : Type} (value : Value) : Resolves (.ok value) := ⟨value, rfl⟩

theorem resolves_bind {Value Next : Type} {first : Except AppError Value}
    {next : Value → Except AppError Next} :
    Resolves (first >>= next) ↔ ∃ value, first = .ok value ∧ Resolves (next value) := by
  constructor
  · rintro ⟨result, succeeded⟩
    obtain ⟨value, isFirst, isNext⟩ := bind_eq_ok.mp succeeded
    exact ⟨value, isFirst, result, isNext⟩
  · rintro ⟨value, isFirst, result, isNext⟩
    exact ⟨result, bind_eq_ok.mpr ⟨value, isFirst, isNext⟩⟩

theorem resolves_lookup {Row Value : Type} {key : Row → Uuid} {table : Table key} {id : Uuid}
    {missing : AppError} {value : Row → Value} :
    Resolves (okOr (table.find? id) missing >>= fun row => .ok (value row)) ↔
      ∃ row ∈ table, key row = id := by
  rw [resolves_bind]
  constructor
  · rintro ⟨row, found, -⟩
    exact ⟨row, Table.find?_eq_some.mp (okOr_eq_ok.mp found)⟩
  · rintro ⟨row, member, isKey⟩
    exact ⟨row, okOr_eq_ok.mpr (Table.find?_eq_some.mpr ⟨member, isKey⟩), resolves_ok _⟩

/-! ### References -/

/-- A record that something is scoped to. -/
inductive ScopeReference where
  | project (id : Uuid)
  | team (id : Uuid)
  | agent (id : Uuid)
  | session (id : Uuid)
  | workItem (id : Uuid)
  | workflowRun (id : Uuid)
deriving DecidableEq, Repr

namespace ScopeReference

variable (directory : ScopeDirectory)

/-- The record is there; a session has its agent, and a work item is not archived. -/
def Live : ScopeReference → Prop
  | project id => ∃ project ∈ directory.projects, project.id = id
  | team id => ∃ team ∈ directory.teams, team.id = id
  | agent id => ∃ agent ∈ directory.agents, agent.id = id
  | session id => ∃ session ∈ directory.sessions, session.id = id ∧
      ∃ agent ∈ directory.agents, agent.id = session.agentId
  | workItem id => ∃ workItem ∈ directory.workItems, workItem.id = id ∧ workItem.archivedAt = none
  | workflowRun id => ∃ run ∈ directory.workflowRuns, run.id = id

def scope : ScopeReference → Except AppError ResourceScope
  | project id => projectScope directory id
  | team id => teamScope directory id
  | agent id => agentScope directory id
  | session id => sessionScope directory id
  | workItem id => workItemScope directory id
  | workflowRun id => workflowRunScope directory id

theorem resolves_iff (reference : ScopeReference) :
    Resolves (reference.scope directory) ↔ reference.Live directory := by
  cases reference with
  | project id => exact resolves_lookup
  | team id => exact resolves_lookup
  | agent id => exact resolves_lookup
  | workflowRun id => exact resolves_lookup
  | session id =>
      unfold scope sessionScope
      rw [resolves_bind]
      constructor
      · rintro ⟨session, found, behind⟩
        obtain ⟨member, isSession⟩ := Table.find?_eq_some.mp (okOr_eq_ok.mp found)
        exact ⟨session, member, isSession, resolves_lookup.mp behind⟩
      · rintro ⟨session, member, isSession, behind⟩
        exact ⟨session, okOr_eq_ok.mpr (Table.find?_eq_some.mpr ⟨member, isSession⟩),
          resolves_lookup.mpr behind⟩
  | workItem id =>
      unfold scope workItemScope ScopeDirectory.getWorkItem
      rw [resolves_bind]
      constructor
      · rintro ⟨workItem, found, -⟩
        obtain ⟨⟨member, isLive⟩, isItem⟩ := getUnarchived_eq_ok.mp found
        exact ⟨workItem, member, isItem, isLive⟩
      · rintro ⟨workItem, member, isItem, isLive⟩
        exact ⟨workItem, getUnarchived_eq_ok.mpr ⟨⟨member, isLive⟩, isItem⟩, resolves_ok _⟩

end ScopeReference

/-- What is named, if anything is, is there. -/
def AllLive (directory : ScopeDirectory) (reference : Option ScopeReference) : Prop :=
  ∀ named, reference = some named → named.Live directory

theorem allLive_none (directory : ScopeDirectory) : AllLive directory none := nofun

theorem allLive_some {directory : ScopeDirectory} {named : ScopeReference} :
    AllLive directory (some named) ↔ named.Live directory :=
  ⟨fun all => all named rfl, fun live _ same => Option.some.inj same ▸ live⟩

theorem resolves_iff_allLive {directory : ScopeDirectory} {named : ScopeReference} :
    Resolves (named.scope directory) ↔ AllLive directory (some named) :=
  (named.resolves_iff directory).trans allLive_some.symm

theorem resolves_ok_iff_allLive {directory : ScopeDirectory} {scope : ResourceScope} :
    Resolves (.ok scope) ↔ AllLive directory none :=
  iff_of_true (resolves_ok scope) (allLive_none directory)

/-! ### Owners of sources -/

/-- The record that a kind of owner and an id name; packs are not looked up as the others
are. -/
def ownerReferenceOf (kind : String) (ownerId : Uuid) : Option ScopeReference :=
  if kind = "project" then some (.project ownerId)
  else if kind = "team" then some (.team ownerId)
  else if kind = "agent" then some (.agent ownerId)
  else if kind = "session" then some (.session ownerId)
  else if kind = "work_item" then some (.workItem ownerId)
  else none

def SemanticSource.ownerReference (source : SemanticSource) : Option ScopeReference :=
  match source.ownerType, source.ownerId with
  | some ownerType, some ownerId => ownerReferenceOf (toAsciiLowercase (trim ownerType)) ownerId
  | _, _ => none

def SemanticSource.OwnerLive (directory : ScopeDirectory) (source : SemanticSource) : Prop :=
  AllLive directory source.ownerReference

theorem getWorkflowPackInstallation_eq_error {directory : ScopeDirectory} {id : Uuid}
    {error : AppError} (failed : directory.getWorkflowPackInstallation id = .error error) :
    error.status = .notFound := by
  unfold ScopeDirectory.getWorkflowPackInstallation getUnarchived okOr at failed
  split at failed
  · cases failed
  · cases failed
    rfl

theorem packScope_cases (directory : ScopeDirectory) (activeWorkflowPackIds : Option (List Uuid))
    (ownerId : Uuid) :
    packScope directory activeWorkflowPackIds ownerId = .ok .tenant ∨
      packScope directory activeWorkflowPackIds ownerId = .ok .scopedUnknown := by
  unfold packScope
  cases activeWorkflowPackIds with
  | some active =>
      dsimp only
      split
      · exact .inl rfl
      · exact .inr rfl
  | none =>
      dsimp only
      cases found : directory.getWorkflowPackInstallation ownerId with
      | ok installation => exact .inl rfl
      | error error => exact .inr (if_pos (getWorkflowPackInstallation_eq_error found))

/-- The scope of a source is the one of its owner, or needs none to be looked up. -/
theorem semanticSourceScope_cases (directory : ScopeDirectory)
    (activeWorkflowPackIds : Option (List Uuid)) (source : SemanticSource) :
    (∃ named, source.ownerReference = some named ∧
      semanticSourceScope directory activeWorkflowPackIds source = named.scope directory) ∨
    (source.ownerReference = none ∧
      (semanticSourceScope directory activeWorkflowPackIds source = .ok .tenant ∨
        semanticSourceScope directory activeWorkflowPackIds source = .ok .scopedUnknown)) := by
  unfold semanticSourceScope SemanticSource.ownerReference
  cases source.ownerType with
  | none =>
      cases source.ownerId with
      | none => exact .inr ⟨rfl, .inl rfl⟩
      | some ownerId => exact .inr ⟨rfl, .inr rfl⟩
  | some ownerType =>
      cases source.ownerId with
      | none => exact .inr ⟨rfl, .inr rfl⟩
      | some ownerId =>
          dsimp only
          generalize toAsciiLowercase (trim ownerType) = kind
          unfold ownerReferenceOf
          split
          · exact .inl ⟨.project ownerId, rfl, rfl⟩
          split
          · exact .inl ⟨.team ownerId, rfl, rfl⟩
          split
          · exact .inl ⟨.agent ownerId, rfl, rfl⟩
          split
          · exact .inl ⟨.session ownerId, rfl, rfl⟩
          split
          · exact .inl ⟨.workItem ownerId, rfl, rfl⟩
          refine .inr ⟨rfl, ?_⟩
          split
          · exact packScope_cases directory activeWorkflowPackIds ownerId
          · exact .inr rfl

theorem semanticSourceScope_resolves_iff (directory : ScopeDirectory)
    (activeWorkflowPackIds : Option (List Uuid)) (source : SemanticSource) :
    Resolves (semanticSourceScope directory activeWorkflowPackIds source) ↔
      source.OwnerLive directory := by
  unfold SemanticSource.OwnerLive
  rcases semanticSourceScope_cases directory activeWorkflowPackIds source with
    ⟨named, isOwner, isScope⟩ | ⟨noOwner, isTenant | isUnknown⟩
  · rw [isOwner, isScope]
    exact resolves_iff_allLive
  · rw [noOwner, isTenant]
    exact resolves_ok_iff_allLive
  · rw [noOwner, isUnknown]
    exact resolves_ok_iff_allLive

/-- The whole tenant may see what comes from the source: nothing owns it, or a pack that is
installed does. -/
def SemanticSource.IsTenantWide (directory : ScopeDirectory) (source : SemanticSource) : Prop :=
  (source.ownerType = none ∧ source.ownerId = none) ∨
    ∃ ownerType ownerId, source.ownerType = some ownerType ∧ source.ownerId = some ownerId ∧
      toAsciiLowercase (trim ownerType) = "workflow_pack_installation" ∧
        ∃ installation ∈ directory.workflowPackInstallations,
          installation.id = ownerId ∧ installation.archivedAt = none

theorem ScopeReference.scope_ne_tenant {directory : ScopeDirectory} (named : ScopeReference) :
    named.scope directory ≠ .ok .tenant := by
  intro isTenant
  cases named with
  | session id =>
      obtain ⟨session, -, behind⟩ := bind_eq_ok.mp isTenant
      obtain ⟨agent, -, same⟩ := bind_eq_ok.mp behind
      cases same
  | project id => obtain ⟨_, -, same⟩ := bind_eq_ok.mp isTenant; cases same
  | team id => obtain ⟨_, -, same⟩ := bind_eq_ok.mp isTenant; cases same
  | agent id => obtain ⟨_, -, same⟩ := bind_eq_ok.mp isTenant; cases same
  | workItem id => obtain ⟨_, -, same⟩ := bind_eq_ok.mp isTenant; cases same
  | workflowRun id => obtain ⟨_, -, same⟩ := bind_eq_ok.mp isTenant; cases same

/-- The pack of an owner, looked up. -/
theorem packScope_eq_tenant_iff {directory : ScopeDirectory} {ownerId : Uuid} :
    packScope directory none ownerId = .ok .tenant ↔
      ∃ installation ∈ directory.workflowPackInstallations,
        installation.id = ownerId ∧ installation.archivedAt = none := by
  unfold packScope
  dsimp only
  cases found : directory.getWorkflowPackInstallation ownerId with
  | ok installation =>
      obtain ⟨⟨member, isLive⟩, isOwner⟩ := getUnarchived_eq_ok.mp found
      exact iff_of_true rfl ⟨installation, member, isOwner, isLive⟩
  | error error =>
      dsimp only
      rw [if_pos (getWorkflowPackInstallation_eq_error found)]
      refine iff_of_false (fun same => nomatch same) ?_
      rintro ⟨installation, member, isOwner, isLive⟩
      have isFound : directory.getWorkflowPackInstallation ownerId = .ok installation :=
        getUnarchived_eq_ok.mpr ⟨⟨member, isLive⟩, isOwner⟩
      rw [isFound] at found
      cases found

theorem semanticSourceScope_eq_tenant_iff {directory : ScopeDirectory} {source : SemanticSource} :
    semanticSourceScope directory none source = .ok .tenant ↔ source.IsTenantWide directory := by
  unfold semanticSourceScope SemanticSource.IsTenantWide
  cases source.ownerType with
  | none =>
      cases source.ownerId with
      | none => exact iff_of_true rfl (.inl ⟨rfl, rfl⟩)
      | some ownerId => exact iff_of_false (fun same => nomatch same) (by simp)
  | some ownerType =>
      cases source.ownerId with
      | none => exact iff_of_false (fun same => nomatch same) (by simp)
      | some ownerId =>
          have owned : ((some ownerType = none ∧ some ownerId = none) ∨
              ∃ otherType otherId, some ownerType = some otherType ∧ some ownerId = some otherId ∧
                toAsciiLowercase (trim otherType) = "workflow_pack_installation" ∧
                  ∃ installation ∈ directory.workflowPackInstallations,
                    installation.id = otherId ∧ installation.archivedAt = none) ↔
              toAsciiLowercase (trim ownerType) = "workflow_pack_installation" ∧
                ∃ installation ∈ directory.workflowPackInstallations,
                  installation.id = ownerId ∧ installation.archivedAt = none := by
            constructor
            · rintro (⟨isNone, -⟩ | ⟨otherType, otherId, sameType, sameId, isPack⟩)
              · cases isNone
              · cases sameType
                cases sameId
                exact isPack
            · exact fun isPack => .inr ⟨ownerType, ownerId, rfl, rfl, isPack⟩
          rw [owned]
          dsimp only
          generalize toAsciiLowercase (trim ownerType) = kind
          have lookedUp (named : ScopeReference) (isOther : kind ≠ "workflow_pack_installation") :
              named.scope directory = .ok .tenant ↔ kind = "workflow_pack_installation" ∧
                ∃ installation ∈ directory.workflowPackInstallations,
                  installation.id = ownerId ∧ installation.archivedAt = none :=
            iff_of_false named.scope_ne_tenant fun both => isOther both.1
          by_cases isPack : kind = "workflow_pack_installation"
          · rw [if_neg (by simp [isPack]), if_neg (by simp [isPack]), if_neg (by simp [isPack]),
              if_neg (by simp [isPack]), if_neg (by simp [isPack]), if_pos isPack,
              packScope_eq_tenant_iff]
            exact (and_iff_right isPack).symm
          · split
            · exact lookedUp (.project ownerId) isPack
            split
            · exact lookedUp (.team ownerId) isPack
            split
            · exact lookedUp (.agent ownerId) isPack
            split
            · exact lookedUp (.session ownerId) isPack
            split
            · exact lookedUp (.workItem ownerId) isPack
            exact iff_of_false (fun same => nomatch same) fun both => isPack both.1

/-! ### Scope fields and objects -/

section records

variable (parseUuid : String → Option Uuid) (directory : ScopeDirectory)

/-- The record that the first scope field with an id names; labels are searched, not looked
up. -/
def scopesReference (scopes : Json) : Option ScopeReference :=
  match uuidFromSemanticScope parseUuid scopes "project_id" with
  | some projectId => some (.project projectId)
  | none =>
  match uuidFromSemanticScope parseUuid scopes "team_id" with
  | some teamId => some (.team teamId)
  | none =>
  match uuidFromSemanticScope parseUuid scopes "session_id" with
  | some sessionId => some (.session sessionId)
  | none =>
  match uuidFromSemanticScope parseUuid scopes "agent_id" with
  | some agentId => some (.agent agentId)
  | none => (uuidFromSemanticScope parseUuid scopes "work_item_id").map .workItem

def ScopesLive (scopes : Json) : Prop := AllLive directory (scopesReference parseUuid scopes)

theorem semanticScopesScope_resolves_iff (scopes : Json) :
    Resolves (semanticScopesScope parseUuid directory scopes) ↔
      ScopesLive parseUuid directory scopes := by
  unfold semanticScopesScope ScopesLive scopesReference
  cases uuidFromSemanticScope parseUuid scopes "project_id" with
  | some projectId => exact @resolves_iff_allLive directory (.project projectId)
  | none =>
  cases uuidFromSemanticScope parseUuid scopes "team_id" with
  | some teamId => exact @resolves_iff_allLive directory (.team teamId)
  | none =>
  cases uuidFromSemanticScope parseUuid scopes "session_id" with
  | some sessionId => exact @resolves_iff_allLive directory (.session sessionId)
  | none =>
  cases uuidFromSemanticScope parseUuid scopes "agent_id" with
  | some agentId => exact @resolves_iff_allLive directory (.agent agentId)
  | none =>
  cases uuidFromSemanticScope parseUuid scopes "work_item_id" with
  | some workItemId => exact @resolves_iff_allLive directory (.workItem workItemId)
  | none =>
      dsimp only
      split
      · exact resolves_ok_iff_allLive
      split
      · exact resolves_ok_iff_allLive
      split
      · exact resolves_ok_iff_allLive
      · exact resolves_ok_iff_allLive

variable (kernel : SemanticKernel)

/-- The source of the object is there with its owner, and so is what the scope fields name
where they are read: under a source that the whole tenant may see, or none. -/
def ObjectLive (object : StoredSemanticObject) : Prop :=
  match object.sourceId with
  | none => ScopesLive parseUuid directory object.semanticScopes
  | some sourceId =>
      ∃ source ∈ kernel.sources, source.id = sourceId ∧ source.archivedAt = none ∧
        source.OwnerLive directory ∧
          (source.IsTenantWide directory → ScopesLive parseUuid directory object.semanticScopes)

theorem semanticObjectScope_resolves_iff (object : StoredSemanticObject) :
    Resolves (semanticObjectScope parseUuid directory kernel object) ↔
      ObjectLive parseUuid directory kernel object := by
  unfold semanticObjectScope objectScopeBehind ObjectLive
  cases object.sourceId with
  | none => exact semanticScopesScope_resolves_iff parseUuid directory object.semanticScopes
  | some sourceId =>
      dsimp only
      rw [resolves_bind]
      constructor
      · rintro ⟨scope, isSource, rest⟩
        obtain ⟨source, found, isScope⟩ := bind_eq_ok.mp isSource
        obtain ⟨⟨member, isLive⟩, isId⟩ := getUnarchived_eq_ok.mp found
        refine ⟨source, member, isId, isLive,
          (semanticSourceScope_resolves_iff directory none source).mp ⟨scope, isScope⟩,
          fun tenantWide => ?_⟩
        have isTenant := semanticSourceScope_eq_tenant_iff.mpr tenantWide
        rw [isScope] at isTenant
        rw [if_neg (not_not_intro (Except.ok.inj isTenant))] at rest
        exact (semanticScopesScope_resolves_iff parseUuid directory _).mp rest
      · rintro ⟨source, member, isId, isLive, ownerLive, scopesLive⟩
        obtain ⟨scope, isScope⟩ :=
          (semanticSourceScope_resolves_iff directory none source).mpr ownerLive
        have found : kernel.getSemanticSource sourceId = .ok source :=
          getUnarchived_eq_ok.mpr ⟨⟨member, isLive⟩, isId⟩
        refine ⟨scope, bind_eq_ok.mpr ⟨source, found, isScope⟩, ?_⟩
        by_cases isTenant : scope = .tenant
        · rw [if_neg (not_not_intro isTenant)]
          exact (semanticScopesScope_resolves_iff parseUuid directory _).mpr
            (scopesLive (semanticSourceScope_eq_tenant_iff.mp (isTenant ▸ isScope)))
        · rw [if_pos isTenant]
          exact resolves_ok scope

/-! ### Endpoints of links -/

/-- The record that an endpoint of the type names. -/
def endpointReference (resourceType : String) (resourceId : Uuid) : Option ScopeReference :=
  if resourceType = "agent" then some (.agent resourceId)
  else if resourceType = "project" then some (.project resourceId)
  else if resourceType = "session" then some (.session resourceId)
  else if resourceType = "work_item" then some (.workItem resourceId)
  else if resourceType = "workflow_run" then some (.workflowRun resourceId)
  else none

theorem endpointResource_resolves_iff (resourceType : String) (resourceId : Uuid) :
    Resolves (semanticLinkEndpointResourceScope directory resourceType resourceId) ↔
      AllLive directory (endpointReference resourceType resourceId) := by
  unfold semanticLinkEndpointResourceScope endpointReference
  split
  · exact @resolves_iff_allLive directory (.agent resourceId)
  split
  · exact @resolves_iff_allLive directory (.project resourceId)
  split
  · exact @resolves_iff_allLive directory (.session resourceId)
  split
  · exact @resolves_iff_allLive directory (.workItem resourceId)
  split
  · exact @resolves_iff_allLive directory (.workflowRun resourceId)
  · exact resolves_ok_iff_allLive

/-- An endpoint of a type that is looked up has an id, and what the id names is there. -/
def EndpointLive (entityType entityId : String) : Prop :=
  if entityType = "semantic_object" then
    ∃ objectId, parseUuid entityId = some objectId ∧ ∃ object ∈ kernel.objects,
      object.id = objectId ∧ object.archivedAt = none ∧ ObjectLive parseUuid directory kernel object
  else
    ∀ resourceType, semanticLinkEndpointResourceType entityType = some resourceType →
      ∃ resourceId, parseUuid entityId = some resourceId ∧
        AllLive directory (endpointReference resourceType resourceId)

theorem storedObjectScope_resolves_iff (objectId : Uuid) :
    Resolves (storedObjectScope parseUuid directory kernel objectId) ↔
      ∃ object ∈ kernel.objects, object.id = objectId ∧ object.archivedAt = none ∧
        ObjectLive parseUuid directory kernel object := by
  unfold storedObjectScope
  rw [resolves_bind]
  constructor
  · rintro ⟨object, found, rest⟩
    obtain ⟨⟨member, isLive⟩, isId⟩ := getUnarchived_eq_ok.mp found
    exact ⟨object, member, isId, isLive,
      (semanticObjectScope_resolves_iff parseUuid directory kernel object).mp rest⟩
  · rintro ⟨object, member, isId, isLive, objectLive⟩
    exact ⟨object, getUnarchived_eq_ok.mpr ⟨⟨member, isLive⟩, isId⟩,
      (semanticObjectScope_resolves_iff parseUuid directory kernel object).mpr objectLive⟩

theorem resolves_parsed {Value : Type} {raw : String} {missing : AppError}
    {rest : Uuid → Except AppError Value} :
    Resolves (okOr (parseUuid raw) missing >>= rest) ↔
      ∃ id, parseUuid raw = some id ∧ Resolves (rest id) := by
  rw [resolves_bind]
  simp only [okOr_eq_ok]

theorem semanticLinkEndpointScope_resolves_iff (entityType entityId : String) :
    Resolves (semanticLinkEndpointScope parseUuid directory kernel entityType entityId) ↔
      EndpointLive parseUuid directory kernel entityType entityId := by
  unfold semanticLinkEndpointScope EndpointLive
  by_cases isObject : entityType = "semantic_object"
  · rw [if_pos isObject, if_pos isObject, resolves_parsed]
    simp only [storedObjectScope_resolves_iff]
  · rw [if_neg isObject, if_neg isObject]
    cases semanticLinkEndpointResourceType entityType with
    | none => exact iff_of_true (resolves_ok _) nofun
    | some resourceType =>
        dsimp only
        rw [resolves_parsed]
        simp only [endpointResource_resolves_iff]
        exact ⟨fun live _ same => Option.some.inj same ▸ live, fun all => all resourceType rfl⟩

end records

end MandoForge
