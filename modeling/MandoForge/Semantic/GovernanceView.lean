/-
Module: MandoForge.Semantic.GovernanceView
Purpose: The semantic objects that the memory governance gives a principal: the ones that
  mention a session it can see.  They are all objects that it may see when what mentions
  such a session also belongs to something that it can access.
Trusted boundary: as in `Visibility`.
Main exports: collectSessionIdsFromJson, governance_within_view_iff
-/
import MandoForge.Semantic.LiveReferences
import MandoForge.Semantic.Visibility

namespace MandoForge

open Foundation

/-! ### The sessions that an object mentions -/

/-- `key == "session_id" || key.ends_with("_session_id")`. -/
def isSessionIdKey (key : String) : Bool :=
  decide (key = "session_id") || decide ("_session_id".toList <:+ key.toList)

section sessions

variable (parseUuid : String → Option Uuid)

def collectSessionIdsFromUri (uri : String) (sessionIds : Finset Uuid) : Finset Uuid :=
  if "session://".toList <+: uri.toList then
    match splitChars '/' (uri.toList.drop "session://".length) with
    | [] => sessionIds
    | candidate :: _ =>
        match parseUuid (String.ofList candidate) with
        | some sessionId => insert sessionId sessionIds
        | none => sessionIds
  else sessionIds

/-- The id that a field of an object holds. -/
def fieldSessionId (key : String) (value : Json) : Option Uuid :=
  if isSessionIdKey key then value.asStr.bind parseUuid else none

mutual

def collectSessionIdsFromJson : (value : Json) → (sessionIds : Finset Uuid) → Finset Uuid
  | .object fields, sessionIds => collectFieldSessionIds fields sessionIds
  | .array items, sessionIds => collectItemSessionIds items sessionIds
  | .null, sessionIds | .bool _, sessionIds | .number _, sessionIds | .string _, sessionIds =>
      sessionIds

/-- The loop over the fields of an object. -/
def collectFieldSessionIds :
    (fields : List (String × Json)) → (sessionIds : Finset Uuid) → Finset Uuid
  | [], sessionIds => sessionIds
  | (key, value) :: rest, sessionIds =>
      collectFieldSessionIds rest (collectSessionIdsFromJson value
        (match fieldSessionId parseUuid key value with
          | some sessionId => insert sessionId sessionIds
          | none => sessionIds))

/-- The loop over the items of an array. -/
def collectItemSessionIds : (items : List Json) → (sessionIds : Finset Uuid) → Finset Uuid
  | [], sessionIds => sessionIds
  | item :: rest, sessionIds =>
      collectItemSessionIds rest (collectSessionIdsFromJson item sessionIds)

end

def objectSessionIds (object : StoredSemanticObject) : Finset Uuid :=
  let fromUri := match object.sourceUri with
    | some sourceUri => collectSessionIdsFromUri parseUuid sourceUri ∅
    | none => ∅
  collectSessionIdsFromJson parseUuid object.provenance
    (collectSessionIdsFromJson parseUuid object.content fromUri)

def semanticObjectVisibleToSessions (object : StoredSemanticObject)
    (visibleSessionIds : Finset Uuid) : Bool :=
  if visibleSessionIds = ∅ then false
  else decide (∃ sessionId ∈ objectSessionIds parseUuid object, sessionId ∈ visibleSessionIds)

structure MemoryWritebackCandidate where
  id : Uuid
  sessionId : Uuid
  createdAt : Timestamp
deriving DecidableEq, Repr

def listMemoryWritebackCandidates (sessionId : Option Uuid)
    (candidates : Table MemoryWritebackCandidate.id) : List MemoryWritebackCandidate :=
  (candidates.rows.filter fun candidate =>
    sessionId.all fun sessionId => decide (candidate.sessionId = sessionId)).mergeSort
      fun earlier later => decide (earlier.createdAt ≤ later.createdAt)

def memoryGovernanceInputsForPrincipal (kernel : SemanticKernel)
    (candidates : Table MemoryWritebackCandidate.id) (access : PrincipalAccess) :
    List StoredSemanticObject × List MemoryWritebackCandidate :=
  let objects := kernel.listSemanticObjects
  let candidates := listMemoryWritebackCandidates none candidates
  if access.isAdmin then (objects, candidates)
  else
    (objects.filter fun object =>
      semanticObjectVisibleToSessions parseUuid object access.visibleSessionIds,
    candidates.filter fun candidate => decide (candidate.sessionId ∈ access.visibleSessionIds))

/-! ### What the collection finds -/

/-- Somewhere in the value an object has a session field with the id. -/
def NamesSession (value : Json) (sessionId : Uuid) : Prop :=
  ∃ place fields key text, Json.Holds value place (.object fields) ∧
    (key, .string text) ∈ fields ∧ isSessionIdKey key = true ∧ parseUuid text = some sessionId

/-- The URI starts with the session. -/
def UriNamesSession (uri : String) (sessionId : Uuid) : Prop :=
  "session://".toList <+: uri.toList ∧
    ∃ candidate rest, splitChars '/' (uri.toList.drop "session://".length) = candidate :: rest ∧
      parseUuid (String.ofList candidate) = some sessionId

/-- The object mentions the session in its URI, its content or its provenance. -/
def MentionsSession (object : StoredSemanticObject) (sessionId : Uuid) : Prop :=
  (∃ uri, object.sourceUri = some uri ∧ UriNamesSession parseUuid uri sessionId) ∨
    NamesSession parseUuid object.content sessionId ∨
      NamesSession parseUuid object.provenance sessionId

variable {parseUuid}

theorem fieldSessionId_eq_some {key : String} {value : Json} {sessionId : Uuid} :
    fieldSessionId parseUuid key value = some sessionId ↔
      ∃ text, value = .string text ∧ isSessionIdKey key = true ∧
        parseUuid text = some sessionId := by
  unfold fieldSessionId
  cases isKey : isSessionIdKey key with
  | false => exact iff_of_false (by simp) (by simp)
  | true =>
      rw [if_pos rfl, Option.bind_eq_some_iff]
      constructor
      · rintro ⟨text, isText, parses⟩
        cases value with
        | string raw => exact ⟨raw, rfl, rfl, Option.some.inj isText ▸ parses⟩
        | _ => cases isText
      · rintro ⟨text, rfl, -, parses⟩
        exact ⟨text, rfl, parses⟩

theorem namesSession_array {items : List Json} {sessionId : Uuid} :
    NamesSession parseUuid (.array items) sessionId ↔
      ∃ item ∈ items, NamesSession parseUuid item sessionId := by
  constructor
  · rintro ⟨place, fields, key, text, holds, found⟩
    cases holds with
    | item member inside => exact ⟨_, member, _, fields, key, text, inside, found⟩
  · rintro ⟨item, member, place, fields, key, text, inside, found⟩
    exact ⟨.item :: place, fields, key, text, .item member inside, found⟩

theorem namesSession_object {fields : List (String × Json)} {sessionId : Uuid} :
    NamesSession parseUuid (.object fields) sessionId ↔
      ∃ field ∈ fields, fieldSessionId parseUuid field.1 field.2 = some sessionId ∨
        NamesSession parseUuid field.2 sessionId := by
  constructor
  · rintro ⟨place, inner, key, text, holds, member, found⟩
    cases holds with
    | here => exact ⟨_, member, .inl (fieldSessionId_eq_some.mpr ⟨text, rfl, found⟩)⟩
    | field isField inside => exact ⟨_, isField, .inr ⟨_, inner, key, text, inside, member, found⟩⟩
  · rintro ⟨⟨name, value⟩, member, isHere | ⟨place, inner, key, text, inside, found⟩⟩
    · obtain ⟨text, isText, found⟩ := fieldSessionId_eq_some.mp isHere
      dsimp only at isText
      exact ⟨[], fields, name, text, .here _, isText ▸ member, found⟩
    · exact ⟨.field name :: place, inner, key, text, .field member inside, found⟩

theorem not_namesSession_atom {value : Json} {sessionId : Uuid}
    (noArray : ∀ items, value ≠ .array items) (noObject : ∀ fields, value ≠ .object fields) :
    ¬ NamesSession parseUuid value sessionId := by
  rintro ⟨place, fields, key, text, holds, -⟩
  cases holds with
  | here => exact noObject fields rfl
  | item => exact noArray _ rfl
  | field => exact noObject _ rfl

theorem mem_insertFound {found : Option Uuid} {ids : Finset Uuid} {sessionId : Uuid} :
    sessionId ∈ (match found with
      | some id => insert id ids
      | none => ids) ↔ sessionId ∈ ids ∨ found = some sessionId := by
  cases found with
  | none => simp
  | some id => simp [or_comm, eq_comm]

mutual

theorem mem_collectSessionIds : ∀ {value : Json} {ids : Finset Uuid} {sessionId : Uuid},
    sessionId ∈ collectSessionIdsFromJson parseUuid value ids ↔
      sessionId ∈ ids ∨ NamesSession parseUuid value sessionId
  | .object fields, ids, sessionId => by
      rw [collectSessionIdsFromJson, mem_collectFieldSessionIds, namesSession_object]
  | .array items, ids, sessionId => by
      rw [collectSessionIdsFromJson, mem_collectItemSessionIds, namesSession_array]
  | .null, _, _ | .bool _, _, _ | .number _, _, _ | .string _, _, _ => by
      rw [collectSessionIdsFromJson]
      exact (or_iff_left (not_namesSession_atom (by simp) (by simp))).symm

theorem mem_collectFieldSessionIds :
    ∀ {fields : List (String × Json)} {ids : Finset Uuid} {sessionId : Uuid},
      sessionId ∈ collectFieldSessionIds parseUuid fields ids ↔
        sessionId ∈ ids ∨ ∃ field ∈ fields,
          fieldSessionId parseUuid field.1 field.2 = some sessionId ∨
            NamesSession parseUuid field.2 sessionId
  | [], _, _ => by simp [collectFieldSessionIds]
  | (key, value) :: rest, ids, sessionId => by
      rw [collectFieldSessionIds, mem_collectFieldSessionIds, mem_collectSessionIds,
        mem_insertFound, List.exists_mem_cons_iff, or_assoc, or_assoc, or_assoc]

theorem mem_collectItemSessionIds :
    ∀ {items : List Json} {ids : Finset Uuid} {sessionId : Uuid},
      sessionId ∈ collectItemSessionIds parseUuid items ids ↔
        sessionId ∈ ids ∨ ∃ item ∈ items, NamesSession parseUuid item sessionId
  | [], _, _ => by simp [collectItemSessionIds]
  | item :: rest, ids, sessionId => by
      rw [collectItemSessionIds, mem_collectItemSessionIds, mem_collectSessionIds, or_assoc,
        List.exists_mem_cons_iff]

end

theorem mem_collectSessionIdsFromUri {uri : String} {ids : Finset Uuid} {sessionId : Uuid} :
    sessionId ∈ collectSessionIdsFromUri parseUuid uri ids ↔
      sessionId ∈ ids ∨ UriNamesSession parseUuid uri sessionId := by
  unfold collectSessionIdsFromUri UriNamesSession
  by_cases isSession : "session://".toList <+: uri.toList
  · rw [if_pos isSession, and_iff_right isSession]
    cases splitChars '/' (uri.toList.drop "session://".length) with
    | nil => simp
    | cons candidate rest =>
        dsimp only
        rw [mem_insertFound]
        simp
  · rw [if_neg isSession]
    exact (or_iff_left fun both => isSession both.1).symm

theorem mem_objectSessionIds {object : StoredSemanticObject} {sessionId : Uuid} :
    sessionId ∈ objectSessionIds parseUuid object ↔
      MentionsSession parseUuid object sessionId := by
  unfold objectSessionIds MentionsSession
  dsimp only
  rw [mem_collectSessionIds, mem_collectSessionIds, or_assoc]
  cases object.sourceUri with
  | none => simp
  | some uri =>
      dsimp only
      rw [mem_collectSessionIdsFromUri]
      simp

theorem visibleToSessions_iff {object : StoredSemanticObject} {visibleSessionIds : Finset Uuid} :
    semanticObjectVisibleToSessions parseUuid object visibleSessionIds = true ↔
      ∃ sessionId ∈ visibleSessionIds, MentionsSession parseUuid object sessionId := by
  unfold semanticObjectVisibleToSessions
  by_cases isEmpty : visibleSessionIds = ∅
  · simp [isEmpty]
  · rw [if_neg isEmpty, decide_eq_true_eq]
    simp only [mem_objectSessionIds, and_comm]

end sessions

/-! ### What a principal can access -/

/-- The principal can access a team or a project. -/
def PrincipalAccess.reaches (access : PrincipalAccess) : (teamId projectId : Option Uuid) → Bool
  | _, some projectId => access.canAccessProject projectId
  | some teamId, none => access.canAccessTeam teamId
  | none, none => true

section access

variable (directory : ScopeDirectory) (access : PrincipalAccess)

/-- The record is there, and the principal can access what it belongs to. -/
def ScopeReference.ReachableBy : ScopeReference → Prop
  | .project id => ∃ project ∈ directory.projects, project.id = id ∧ access.canAccessProject id = true
  | .team id => ∃ team ∈ directory.teams, team.id = id ∧ access.canAccessTeam id = true
  | .agent id => ∃ agent ∈ directory.agents, agent.id = id ∧
      access.reaches agent.teamId agent.projectId = true
  | .session id => ∃ session ∈ directory.sessions, session.id = id ∧
      ∃ agent ∈ directory.agents, agent.id = session.agentId ∧
        access.reaches agent.teamId agent.projectId = true
  | .workItem id => ∃ workItem ∈ directory.workItems, workItem.id = id ∧
      workItem.archivedAt = none ∧ access.reaches workItem.teamId workItem.projectId = true
  | .workflowRun id => ∃ run ∈ directory.workflowRuns, run.id = id ∧
      run.primarySessionId ∈ access.visibleSessionIds

/-- What the scope fields name is within reach; a label names the one record that has it, and
of a session, an agent or a work item nothing is found by a label. -/
def ScopesReachable (parseUuid : String → Option Uuid) (scopes : Json) : Prop :=
  match scopesReference parseUuid scopes with
  | some named => named.ReachableBy directory access
  | none =>
      match ["project_scope", "project_slug"].findSome? (textFromSemanticScope scopes) with
      | some label => ∃ project, findProjectByScopeLabel directory label = some project ∧
          access.canAccessProject project.id = true
      | none =>
          match ["team_scope", "team_slug"].findSome? (textFromSemanticScope scopes) with
          | some label => ∃ team, findTeamByScopeLabel directory label = some team ∧
              access.canAccessTeam team.id = true
          | none => ∀ key ∈ ["session_scope", "agent_scope", "work_item_scope"],
              textFromSemanticScope scopes key = none

/-- The object belongs to what the principal can access: the owner of its source, or its
scope fields where the whole tenant may see what comes from the source, or it has none. -/
def ObjectReachable (parseUuid : String → Option Uuid) (kernel : SemanticKernel)
    (object : StoredSemanticObject) : Prop :=
  match object.sourceId with
  | none => ScopesReachable directory access parseUuid object.semanticScopes
  | some sourceId =>
      ∃ source ∈ kernel.sources, source.id = sourceId ∧ source.archivedAt = none ∧
        ((source.IsTenantWide directory ∧
            ScopesReachable directory access parseUuid object.semanticScopes) ∨
          ∃ named, source.ownerReference = some named ∧ named.ReachableBy directory access)

/-- The scope that comes out is visible. -/
def IsVisible (outcome : Except AppError ResourceScope) : Prop :=
  ∃ scope, outcome = .ok scope ∧ scopeVisibleToPrincipal access scope = true

variable {directory access}

theorem isVisible_ok_iff {scope : ResourceScope} :
    IsVisible access (.ok scope) ↔ scopeVisibleToPrincipal access scope = true :=
  ⟨fun ⟨_, same, isVisible⟩ => Except.ok.inj same ▸ isVisible, fun isVisible => ⟨scope, rfl, isVisible⟩⟩

theorem isVisible_bind {Row : Type} {first : Except AppError Row}
    {next : Row → Except AppError ResourceScope} :
    IsVisible access (first >>= next) ↔ ∃ row, first = .ok row ∧ IsVisible access (next row) := by
  constructor
  · rintro ⟨scope, succeeded, isVisible⟩
    obtain ⟨row, isFirst, isNext⟩ := bind_eq_ok.mp succeeded
    exact ⟨row, isFirst, scope, isNext, isVisible⟩
  · rintro ⟨row, isFirst, scope, isNext, isVisible⟩
    exact ⟨scope, bind_eq_ok.mpr ⟨row, isFirst, isNext⟩, isVisible⟩

theorem isVisible_lookup {Row : Type} {key : Row → Uuid} {table : Table key} {id : Uuid}
    {missing : AppError} {next : Row → Except AppError ResourceScope} :
    IsVisible access (okOr (table.find? id) missing >>= next) ↔
      ∃ row ∈ table, key row = id ∧ IsVisible access (next row) := by
  rw [isVisible_bind]
  simp only [okOr_eq_ok, Table.find?_eq_some, and_assoc]

variable (nonAdmin : access.isAdmin = false)

include nonAdmin

theorem visible_teamProject_iff {teamId projectId : Option Uuid} :
    scopeVisibleToPrincipal access (.teamProject teamId projectId) = true ↔
      access.reaches teamId projectId = true := by
  unfold scopeVisibleToPrincipal scopeVisibleToPrincipalWithSessions PrincipalAccess.reaches
  rw [if_neg (by simp [nonAdmin])]
  cases teamId <;> cases projectId <;> rfl

theorem visible_session_iff {sessionId : Uuid} :
    scopeVisibleToPrincipal access (.session sessionId) = true ↔
      sessionId ∈ access.visibleSessionIds := by
  unfold scopeVisibleToPrincipal scopeVisibleToPrincipalWithSessions
  rw [if_neg (by simp [nonAdmin])]
  exact decide_eq_true_iff

theorem visible_tenant : scopeVisibleToPrincipal access .tenant = true := by
  unfold scopeVisibleToPrincipal scopeVisibleToPrincipalWithSessions
  rw [if_neg (by simp [nonAdmin])]

theorem not_visible_unknown : scopeVisibleToPrincipal access .scopedUnknown ≠ true := by
  unfold scopeVisibleToPrincipal scopeVisibleToPrincipalWithSessions
  rw [if_neg (by simp [nonAdmin])]
  simp

theorem ScopeReference.isVisible_iff (named : ScopeReference) :
    IsVisible access (named.scope directory) ↔ named.ReachableBy directory access := by
  cases named with
  | project id =>
      refine isVisible_lookup.trans (exists_congr fun project => and_congr_right fun _ =>
        and_congr_right fun isProject => ?_)
      rw [isVisible_ok_iff, visible_teamProject_iff nonAdmin, isProject]
      exact Iff.rfl
  | team id =>
      refine isVisible_lookup.trans (exists_congr fun team => and_congr_right fun _ =>
        and_congr_right fun _ => ?_)
      rw [isVisible_ok_iff, visible_teamProject_iff nonAdmin]
      exact Iff.rfl
  | agent id =>
      refine isVisible_lookup.trans (exists_congr fun agent => and_congr_right fun _ =>
        and_congr_right fun _ => ?_)
      rw [isVisible_ok_iff, visible_teamProject_iff nonAdmin]
  | session id =>
      refine isVisible_lookup.trans (exists_congr fun session => and_congr_right fun _ =>
        and_congr_right fun _ => isVisible_lookup.trans (exists_congr fun agent =>
          and_congr_right fun _ => and_congr_right fun _ => ?_))
      rw [isVisible_ok_iff, visible_teamProject_iff nonAdmin]
  | workItem id =>
      refine isVisible_bind.trans ?_
      unfold ScopeDirectory.getWorkItem
      simp only [getUnarchived_eq_ok, isVisible_ok_iff, visible_teamProject_iff nonAdmin]
      exact exists_congr fun workItem => by tauto
  | workflowRun id =>
      refine isVisible_lookup.trans (exists_congr fun run => and_congr_right fun _ =>
        and_congr_right fun _ => ?_)
      rw [isVisible_ok_iff, visible_session_iff nonAdmin]

/-! ### Objects within reach -/

theorem projectLabel_visible_iff {label : String} :
    IsVisible access (.ok (projectLabelScope directory label)) ↔
      ∃ project, findProjectByScopeLabel directory label = some project ∧
        access.canAccessProject project.id = true := by
  rw [isVisible_ok_iff, projectLabelScope]
  cases findProjectByScopeLabel directory label with
  | none => exact iff_of_false (not_visible_unknown nonAdmin) (by simp)
  | some project =>
      dsimp only
      rw [visible_teamProject_iff nonAdmin]
      simp [PrincipalAccess.reaches]

theorem teamLabel_visible_iff {label : String} :
    IsVisible access (.ok (teamLabelScope directory label)) ↔
      ∃ team, findTeamByScopeLabel directory label = some team ∧
        access.canAccessTeam team.id = true := by
  rw [isVisible_ok_iff, teamLabelScope]
  cases findTeamByScopeLabel directory label with
  | none => exact iff_of_false (not_visible_unknown nonAdmin) (by simp)
  | some team =>
      dsimp only
      rw [visible_teamProject_iff nonAdmin]
      simp [PrincipalAccess.reaches]

/-- The scope of what an id names is the one that is looked up. -/
theorem semanticScopesScope_visible_iff (parseUuid : String → Option Uuid) (scopes : Json) :
    IsVisible access (semanticScopesScope parseUuid directory scopes) ↔
      ScopesReachable directory access parseUuid scopes := by
  unfold semanticScopesScope ScopesReachable scopesReference
  cases uuidFromSemanticScope parseUuid scopes "project_id" with
  | some projectId => exact ScopeReference.isVisible_iff nonAdmin (.project projectId)
  | none =>
  cases uuidFromSemanticScope parseUuid scopes "team_id" with
  | some teamId => exact ScopeReference.isVisible_iff nonAdmin (.team teamId)
  | none =>
  cases uuidFromSemanticScope parseUuid scopes "session_id" with
  | some sessionId => exact ScopeReference.isVisible_iff nonAdmin (.session sessionId)
  | none =>
  cases uuidFromSemanticScope parseUuid scopes "agent_id" with
  | some agentId => exact ScopeReference.isVisible_iff nonAdmin (.agent agentId)
  | none =>
  cases uuidFromSemanticScope parseUuid scopes "work_item_id" with
  | some workItemId => exact ScopeReference.isVisible_iff nonAdmin (.workItem workItemId)
  | none =>
  dsimp only [Option.map_none]
  cases ["project_scope", "project_slug"].findSome? (textFromSemanticScope scopes) with
  | some label => exact projectLabel_visible_iff nonAdmin
  | none =>
  dsimp only
  cases ["team_scope", "team_slug"].findSome? (textFromSemanticScope scopes) with
  | some label => exact teamLabel_visible_iff nonAdmin
  | none =>
      dsimp only
      by_cases isLabelled : ["session_scope", "agent_scope", "work_item_scope"].any fun key =>
          (textFromSemanticScope scopes key).isSome
      · rw [if_pos isLabelled]
        obtain ⟨key, member, isSet⟩ := List.any_eq_true.mp isLabelled
        refine iff_of_false (fun isVisible => not_visible_unknown nonAdmin
          (isVisible_ok_iff.mp isVisible)) fun unset => ?_
        rw [unset key member] at isSet
        cases isSet
      · rw [if_neg isLabelled]
        refine iff_of_true (isVisible_ok_iff.mpr (visible_tenant nonAdmin)) fun key member => ?_
        by_contra isSet
        exact isLabelled (List.any_eq_true.mpr ⟨key, member, Option.isSome_iff_ne_none.mpr isSet⟩)

theorem sourceScope_visible_iff {source : SemanticSource}
    (owned : ¬ source.IsTenantWide directory) :
    IsVisible access (semanticSourceScope directory none source) ↔
      ∃ named, source.ownerReference = some named ∧ named.ReachableBy directory access := by
  rcases semanticSourceScope_cases directory none source with
    ⟨named, isOwner, isScope⟩ | ⟨noOwner, isTenant | isUnknown⟩
  · rw [isScope, isOwner, ScopeReference.isVisible_iff nonAdmin]
    simp
  · exact absurd (semanticSourceScope_eq_tenant_iff.mp isTenant) owned
  · rw [isUnknown, noOwner, isVisible_ok_iff]
    exact iff_of_false (not_visible_unknown nonAdmin) (by simp)

theorem semanticObjectScope_visible_iff (parseUuid : String → Option Uuid)
    (kernel : SemanticKernel) (object : StoredSemanticObject) :
    IsVisible access (semanticObjectScope parseUuid directory kernel object) ↔
      ObjectReachable directory access parseUuid kernel object := by
  unfold semanticObjectScope objectScopeBehind ObjectReachable
  cases object.sourceId with
  | none => exact semanticScopesScope_visible_iff nonAdmin parseUuid object.semanticScopes
  | some sourceId =>
      dsimp only
      unfold storedSourceScope SemanticKernel.getSemanticSource
      rw [bind_assoc, isVisible_bind]
      simp only [getUnarchived_eq_ok]
      refine exists_congr fun source => ?_
      rw [and_assoc, and_assoc]
      refine and_congr_right fun _ => ?_
      rw [and_left_comm]
      refine and_congr_right fun _ => and_congr_right fun _ => ?_
      rw [isVisible_bind]
      by_cases tenantWide : source.IsTenantWide directory
      · have isTenant := semanticSourceScope_eq_tenant_iff.mpr tenantWide
        have unowned : ¬ ∃ named, source.ownerReference = some named ∧
            named.ReachableBy directory access := by
          rintro ⟨named, isOwner, -⟩
          rcases semanticSourceScope_cases directory none source with
            ⟨other, -, isScope⟩ | ⟨noOwner, -⟩
          · exact other.scope_ne_tenant (isScope.symm.trans isTenant)
          · cases noOwner.symm.trans isOwner
        rw [isTenant, or_iff_left unowned, and_iff_right tenantWide,
          ← semanticScopesScope_visible_iff nonAdmin]
        constructor
        · rintro ⟨scope, same, isVisible⟩
          cases same
          exact isVisible
        · exact fun isVisible => ⟨.tenant, rfl, isVisible⟩
      · rw [or_iff_right fun both => tenantWide both.1,
          ← sourceScope_visible_iff nonAdmin tenantWide]
        constructor
        · rintro ⟨scope, isScope, isVisible⟩
          have notTenant : scope ≠ .tenant := fun isTenant =>
            tenantWide (semanticSourceScope_eq_tenant_iff.mp (isTenant ▸ isScope))
          rw [if_pos notTenant] at isVisible
          exact ⟨scope, isScope, isVisible_ok_iff.mp isVisible⟩
        · rintro ⟨scope, isScope, isVisible⟩
          have notTenant : scope ≠ .tenant := fun isTenant =>
            tenantWide (semanticSourceScope_eq_tenant_iff.mp (isTenant ▸ isScope))
          refine ⟨scope, isScope, ?_⟩
          rw [if_pos notTenant]
          exact isVisible_ok_iff.mpr isVisible

/-- A request on an object passes when the object is live and within reach. -/
theorem isAccepted_object_iff (parseUuid : String → Option Uuid) {kernel : SemanticKernel}
    {object : StoredSemanticObject} (listed : object ∈ kernel.listSemanticObjects) :
    isAccepted parseUuid directory kernel access .semanticObject object.id = true ↔
      ObjectReachable directory access parseUuid kernel object := by
  rw [← semanticObjectScope_visible_iff nonAdmin]
  unfold isAccepted enforceResourceScope resourceScope storedObjectScope
    SemanticKernel.getSemanticObject
  rw [if_neg (by simp [nonAdmin])]
  dsimp only
  rw [if_neg (by decide), getUnarchived_of_mem listed]
  dsimp only [bind, Except.bind]
  cases semanticObjectScope parseUuid directory kernel object with
  | error error => exact iff_of_false (by simp [Except.isOk, Except.toBool]) (fun ⟨_, same, _⟩ => nomatch same)
  | ok scope =>
      rw [isVisible_ok_iff]
      dsimp only
      by_cases isVisible : scopeVisibleToPrincipal access scope = true
      · rw [if_pos isVisible]
        exact iff_of_true rfl isVisible
      · rw [if_neg isVisible]
        exact iff_of_false (by simp [Except.isOk, Except.toBool]) isVisible

theorem governanceObjects_eq (parseUuid : String → Option Uuid) (kernel : SemanticKernel)
    (candidates : Table MemoryWritebackCandidate.id) :
    (memoryGovernanceInputsForPrincipal parseUuid kernel candidates access).1 =
      kernel.listSemanticObjects.filter fun object =>
        semanticObjectVisibleToSessions parseUuid object access.visibleSessionIds := by
  unfold memoryGovernanceInputsForPrincipal
  rw [if_neg (by simp [nonAdmin])]

/-- For a principal that is no admin, the governance gives only objects for which a request
is accepted, exactly when every live object that mentions a session it can see belongs to
what it can access. -/
theorem governance_within_view_iff (parseUuid : String → Option Uuid) (kernel : SemanticKernel)
    (candidates : Table MemoryWritebackCandidate.id) :
    (∀ object ∈ (memoryGovernanceInputsForPrincipal parseUuid kernel candidates access).1,
        isAccepted parseUuid directory kernel access .semanticObject object.id = true) ↔
      ∀ object ∈ kernel.objects, object.archivedAt = none →
        ∀ sessionId ∈ access.visibleSessionIds, MentionsSession parseUuid object sessionId →
          ObjectReachable directory access parseUuid kernel object := by
  rw [governanceObjects_eq nonAdmin]
  constructor
  · intro accepted object member isLive sessionId isSeen mentions
    have listed : object ∈ kernel.listSemanticObjects := mem_listUnarchived.mpr ⟨member, isLive⟩
    have isGiven : object ∈ kernel.listSemanticObjects.filter fun object =>
        semanticObjectVisibleToSessions parseUuid object access.visibleSessionIds :=
      List.mem_filter.mpr ⟨listed, visibleToSessions_iff.mpr ⟨sessionId, isSeen, mentions⟩⟩
    exact (isAccepted_object_iff nonAdmin parseUuid listed).mp (accepted object isGiven)
  · intro reachable object isGiven
    obtain ⟨listed, isSeen⟩ := List.mem_filter.mp isGiven
    obtain ⟨sessionId, isVisible, mentions⟩ := visibleToSessions_iff.mp isSeen
    obtain ⟨member, isLive⟩ := mem_listUnarchived.mp listed
    exact (isAccepted_object_iff nonAdmin parseUuid listed).mpr
      (reachable object member isLive sessionId isVisible mentions)

end access

section otherTeam

/-- An object of a team that mentions a session. -/
private def teamNote (teamId : String) : StoredSemanticObject :=
  ⟨⟨1, "memory", "memory:note", "Note", "human_verified", "current", "active",
      .object [("team_id", .string teamId)], 0, none⟩,
    none, "A note", .object [("session_id", .string "session-3")], some "memory://note",
    .object [], 0⟩

private def readId : String → Option Uuid
  | "session-3" => some 3
  | "team-7" => some 7
  | "team-8" => some 8
  | _ => none

private def twoTeams : ScopeDirectory where
  teams := (Table.empty.insert ⟨7, 1, "Seven", "seven", 0⟩).insert ⟨8, 1, "Eight", "eight", 0⟩

/-- Of the teams it can access the team 8, and it sees the session 3. -/
private def teamViewer : PrincipalAccess :=
  ⟨"viewer", false, fun _ => false, fun teamId => decide (teamId = 8), {3}⟩

/-- An object of a team that can be accessed is given, and a request on it is accepted. -/
theorem own_team_note_accepted :
    isAccepted readId twoTeams { objects := Table.empty.insert (teamNote "team-8") } teamViewer
      .semanticObject 1 = true := by
  have accepted := (@governance_within_view_iff twoTeams teamViewer rfl readId
    { objects := Table.empty.insert (teamNote "team-8") } Table.empty).mpr
    fun object member _ _ _ _ => by
      rw [List.mem_singleton.mp member]
      exact ⟨⟨8, 1, "Eight", "eight", 0⟩, List.mem_cons_of_mem _ List.mem_cons_self, rfl, rfl⟩
  refine accepted (teamNote "team-8") ?_
  rw [governanceObjects_eq rfl]
  exact List.mem_filter.mpr ⟨mem_listUnarchived.mpr ⟨List.mem_cons_self, rfl⟩, by decide +kernel⟩

/-- One of another team is given, and a request on it is refused. -/
theorem other_team_note_disclosed :
    teamViewer.isAdmin = false ∧
      teamNote "team-7" ∈ (memoryGovernanceInputsForPrincipal readId
        { objects := Table.empty.insert (teamNote "team-7") } Table.empty teamViewer).1 ∧
      isAccepted readId twoTeams { objects := Table.empty.insert (teamNote "team-7") } teamViewer
        .semanticObject 1 = false := by
  refine ⟨rfl, ?_, by decide +kernel⟩
  rw [governanceObjects_eq rfl]
  exact List.mem_filter.mpr ⟨mem_listUnarchived.mpr ⟨List.mem_cons_self, rfl⟩, by decide +kernel⟩

end otherTeam

end MandoForge
