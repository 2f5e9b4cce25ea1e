/-
Module: MandoForge.Semantic.Visibility
Purpose: The listings of semantic sources, objects and links that a principal gets, with
  their caches of scopes, and the check of a request on a single one.
Trusted boundary: what a principal can access is given, and so are the sessions that it
  can see.  Of the resource types of a request only the semantic ones.
Main exports: PrincipalAccess, visibleSemanticObjects
-/
import MandoForge.Semantic.Scopes
import Mathlib.Logic.Function.Basic

namespace MandoForge

open Foundation

/-- A principal, and what the store lets it access. -/
structure PrincipalAccess where
  subjectId : String
  isAdmin : Bool
  /-- `subject_can_access_project`. -/
  canAccessProject : Uuid → Bool
  /-- `subject_can_access_team`. -/
  canAccessTeam : Uuid → Bool
  /-- The ids of `list_sessions_visible_to`. -/
  visibleSessionIds : Finset Uuid

/-- `scope_visible_to_principal_with_sessions`.  Without a set of sessions it reads the
visible ones. -/
def scopeVisibleToPrincipalWithSessions (access : PrincipalAccess)
    (visibleSessionIds : Option (Finset Uuid)) (scope : ResourceScope) : Bool :=
  if access.isAdmin then true
  else match scope with
    | .tenant => true
    | .scopedUnknown => false
    | .session sessionId => decide (sessionId ∈ visibleSessionIds.getD access.visibleSessionIds)
    | .teamProject _ (some projectId) => access.canAccessProject projectId
    | .teamProject (some teamId) none => access.canAccessTeam teamId
    | .teamProject none none => true

def scopeVisibleToPrincipal (access : PrincipalAccess) (scope : ResourceScope) : Bool :=
  scopeVisibleToPrincipalWithSessions access none scope

/-- A loop that pushes what a check lets through. -/
def filterRows {Error Row : Type} (check : Row → Except Error Bool) :
    List Row → Except Error (List Row)
  | [] => .ok []
  | row :: rows => do
      let isVisible ← check row
      let visible ← filterRows check rows
      .ok (if isVisible then row :: visible else visible)

/-- How a listing fails: with an error, or in an `expect`. -/
inductive ListingFault where
  | refused (error : AppError)
  | panicked (message : String)
deriving DecidableEq, Repr

section listings

variable (parseUuid : String → Option Uuid) (directory : ScopeDirectory)
  (kernel : SemanticKernel) (access : PrincipalAccess)

/-! ### Caches -/

/-- A loop that inserts the scope of each row. -/
def cacheScopes {Row : Type} (key : Row → Uuid) (scopeOf : Row → Except AppError ResourceScope)
    (rows : List Row) (start : ScopeCache) : Except AppError ScopeCache :=
  rows.foldlM (fun cache row => do
    let scope ← scopeOf row
    .ok (Function.update cache (key row) (some scope))) start

/-- The packs that `semantic_source_scope_cache_for_sources` reads, if a source has one. -/
def cachedWorkflowPackIds (sources : List SemanticSource) : Option (List Uuid) :=
  if sources.any fun source => source.ownerType.any fun ownerType =>
      eqIgnoreAsciiCase (trim ownerType) "workflow_pack_installation" then
    some directory.activeWorkflowPackInstallationIds
  else none

def semanticSourceScopeCacheForSources (sources : List SemanticSource) :
    Except AppError ScopeCache :=
  cacheScopes SemanticSource.id
    (semanticSourceScope directory (cachedWorkflowPackIds directory sources)) sources fun _ => none

def semanticSourceScopeCache : Except AppError ScopeCache :=
  semanticSourceScopeCacheForSources directory kernel.listSemanticSources

def semanticObjectScopeCache (sourceScopes : ScopeCache) : Except AppError ScopeCache :=
  cacheScopes (fun object : StoredSemanticObject => object.id)
    (semanticObjectScopeWithSourceScopes parseUuid directory kernel sourceScopes)
    kernel.listSemanticObjects fun _ => none

/-! ### Listings -/

/-- `visible_semantic_sources_for_principal`. -/
def visibleSemanticSources : Except ListingFault (List SemanticSource) :=
  let sources := kernel.listSemanticSources
  if access.isAdmin then .ok sources
  else do
    let sourceScopes ← (semanticSourceScopeCacheForSources directory sources).mapError .refused
    filterRows (fun source =>
      match sourceScopes source.id with
      | none => .error (.panicked "scope cached for every semantic source")
      | some scope =>
          .ok (scopeVisibleToPrincipalWithSessions access (some access.visibleSessionIds) scope))
      sources

/-- `visible_semantic_objects_for_principal`. -/
def visibleSemanticObjects : Except AppError (List StoredSemanticObject) :=
  let objects := kernel.listSemanticObjects
  if access.isAdmin then .ok objects
  else do
    let sourceScopes ← semanticSourceScopeCache directory kernel
    filterRows (fun object => do
      let scope ← semanticObjectScopeWithSourceScopes parseUuid directory kernel sourceScopes object
      .ok (scopeVisibleToPrincipalWithSessions access (some access.visibleSessionIds) scope))
      objects

/-- `visible_semantic_links_for_principal`. -/
def visibleSemanticLinks : Except AppError (List SemanticLink) :=
  let links := kernel.listSemanticLinks
  if access.isAdmin then .ok links
  else do
    let sourceScopes ← semanticSourceScopeCache directory kernel
    let objectScopes ← semanticObjectScopeCache parseUuid directory kernel sourceScopes
    filterRows (fun link => do
      let fromScope ← semanticLinkEndpointScopeWithObjectScopes parseUuid directory kernel
        objectScopes link.fromEntityType link.fromEntityId
      if scopeVisibleToPrincipalWithSessions access (some access.visibleSessionIds) fromScope then do
        let toScope ← semanticLinkEndpointScopeWithObjectScopes parseUuid directory kernel
          objectScopes link.toEntityType link.toEntityId
        .ok (scopeVisibleToPrincipalWithSessions access (some access.visibleSessionIds) toScope)
      else .ok false)
      links

/-! ### Single requests -/

def semanticLinkVisibleToPrincipal (link : SemanticLink) : Except AppError Bool := do
  let fromScope ← semanticLinkEndpointScope parseUuid directory kernel link.fromEntityType
    link.fromEntityId
  if scopeVisibleToPrincipal access fromScope then do
    let toScope ← semanticLinkEndpointScope parseUuid directory kernel link.toEntityType
      link.toEntityId
    .ok (scopeVisibleToPrincipal access toScope)
  else .ok false

/-- The semantic values of `request.resource_type`. -/
inductive SemanticResourceType where
  | semanticSource
  | semanticObject
  | semanticLink
deriving DecidableEq, Repr

def SemanticResourceType.name : SemanticResourceType → String
  | semanticSource => "semantic_source"
  | semanticObject => "semantic_object"
  | semanticLink => "semantic_link"

/-- The scope that stands for both endpoints of a link. -/
def linkScope : ResourceScope → ResourceScope → ResourceScope
  | .scopedUnknown, _ | _, .scopedUnknown => .scopedUnknown
  | .tenant, scope | scope, .tenant => scope
  | .session sessionId, _ => .session sessionId
  | scope, .session _ => scope
  | .teamProject teamId projectId, _ => .teamProject teamId projectId

def resourceScope (resourceType : SemanticResourceType) (resourceId : Uuid) :
    Except AppError ResourceScope :=
  match resourceType with
  | .semanticSource => storedSourceScope directory kernel resourceId
  | .semanticObject => storedObjectScope parseUuid directory kernel resourceId
  | .semanticLink => do
      let link ← kernel.getSemanticLink resourceId
      let fromScope ← semanticLinkEndpointScope parseUuid directory kernel link.fromEntityType
        link.fromEntityId
      let toScope ← semanticLinkEndpointScope parseUuid directory kernel link.toEntityType
        link.toEntityId
      .ok (linkScope fromScope toScope)

def noMembership (resourceType : SemanticResourceType) : AppError :=
  .forbidden ("principal " ++ access.subjectId ++ " has no membership for scoped " ++
    resourceType.name)

def enforceResourceScope (resourceType : SemanticResourceType) (resourceId : Option Uuid) :
    Except AppError Unit :=
  if access.isAdmin then .ok ()
  else match resourceId with
    | none => .ok ()
    | some resourceId =>
        if resourceType = .semanticLink then do
          let link ← kernel.getSemanticLink resourceId
          let isVisible ← semanticLinkVisibleToPrincipal parseUuid directory kernel access link
          if isVisible then .ok () else .error (noMembership access resourceType)
        else do
          let scope ← resourceScope parseUuid directory kernel resourceType resourceId
          if scopeVisibleToPrincipal access scope then .ok ()
          else .error (noMembership access resourceType)

/-- A request on the resource passes. -/
def isAccepted (resourceType : SemanticResourceType) (resourceId : Uuid) : Bool :=
  (enforceResourceScope parseUuid directory kernel access resourceType (some resourceId)).isOk

end listings

end MandoForge
