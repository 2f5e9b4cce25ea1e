/-
Module: MandoForge.Semantic.ListingAgreement
Purpose: When a listing gives exactly the records that a request on a single one is
  accepted for: when every reference of a listed record leads to a record.
Trusted boundary: as in `Visibility`.
Main exports: ListingsAgree, listings_agree_iff
-/
import MandoForge.Semantic.LiveReferences
import MandoForge.Semantic.Visibility

namespace MandoForge

open Foundation

/-! ### Loops -/

section loops

variable {Row : Type}

/-- What a check says; one that fails says no. -/
def verdict : Except AppError Bool → Bool
  | .ok isVisible => isVisible
  | .error _ => false

theorem filterRows_eq_filter {Error : Type} {check : Row → Except Error Bool} {keep : Row → Bool}
    {rows : List Row} (checked : ∀ row ∈ rows, check row = .ok (keep row)) :
    filterRows check rows = .ok (rows.filter keep) := by
  induction rows with
  | nil => rfl
  | cons row rows inductionHypothesis =>
      rw [List.forall_mem_cons] at checked
      rw [filterRows, checked.1, inductionHypothesis checked.2]
      cases kept : keep row <;> simp [bind, Except.bind, kept]

theorem filterRows_resolves {check : Row → Except AppError Bool} {rows visible : List Row}
    (filtered : filterRows check rows = .ok visible) : ∀ row ∈ rows, Resolves (check row) := by
  induction rows generalizing visible with
  | nil => exact nofun
  | cons row rows inductionHypothesis =>
      obtain ⟨isVisible, checked, rest⟩ := bind_eq_ok.mp filtered
      obtain ⟨others, filtered, -⟩ := bind_eq_ok.mp rest
      exact List.forall_mem_cons.mpr ⟨⟨isVisible, checked⟩, inductionHypothesis filtered⟩

theorem filterRows_eq_verdicts_iff {check : Row → Except AppError Bool} {rows : List Row} :
    filterRows check rows = .ok (rows.filter fun row => verdict (check row)) ↔
      ∀ row ∈ rows, Resolves (check row) := by
  refine ⟨filterRows_resolves, fun resolves => filterRows_eq_filter fun row member => ?_⟩
  obtain ⟨isVisible, checked⟩ := resolves row member
  rw [checked]
  rfl

variable {key : Row → Uuid} {scopeOf : Row → Except AppError ResourceScope}

theorem cacheScopes_resolves {rows : List Row} {start cache : ScopeCache}
    (built : cacheScopes key scopeOf rows start = .ok cache) :
    ∀ row ∈ rows, Resolves (scopeOf row) := by
  induction rows generalizing start with
  | nil => exact nofun
  | cons row rows inductionHypothesis =>
      obtain ⟨next, stepped, built⟩ := bind_eq_ok.mp built
      obtain ⟨scope, isScope, -⟩ := bind_eq_ok.mp stepped
      exact List.forall_mem_cons.mpr ⟨⟨scope, isScope⟩, inductionHypothesis built⟩

theorem exists_cacheScopes {rows : List Row} (resolves : ∀ row ∈ rows, Resolves (scopeOf row))
    (start : ScopeCache) : ∃ cache, cacheScopes key scopeOf rows start = .ok cache := by
  induction rows generalizing start with
  | nil => exact ⟨start, rfl⟩
  | cons row rows inductionHypothesis =>
      obtain ⟨⟨scope, isScope⟩, rest⟩ := List.forall_mem_cons.mp resolves
      obtain ⟨cache, built⟩ :=
        inductionHypothesis rest (Function.update start (key row) (some scope))
      exact ⟨cache, bind_eq_ok.mpr ⟨_, bind_eq_ok.mpr ⟨scope, isScope, rfl⟩, built⟩⟩

/-- What a cache holds at the end was there at the start, or is the scope of a row. -/
theorem cacheScopes_from {rows : List Row} {start cache : ScopeCache}
    (built : cacheScopes key scopeOf rows start = .ok cache) {id : Uuid} {scope : ResourceScope}
    (cached : cache id = some scope) :
    start id = some scope ∨ ∃ row ∈ rows, key row = id ∧ scopeOf row = .ok scope := by
  induction rows generalizing start with
  | nil =>
      cases built
      exact .inl cached
  | cons row rows inductionHypothesis =>
      obtain ⟨next, stepped, built⟩ := bind_eq_ok.mp built
      obtain ⟨rowScope, isScope, isNext⟩ := bind_eq_ok.mp stepped
      cases isNext
      rcases inductionHypothesis built with before | ⟨other, member, isKey, isOther⟩
      · by_cases isRow : id = key row
        · subst isRow
          rw [Function.update_self] at before
          cases before
          exact .inr ⟨row, List.mem_cons_self, rfl, isScope⟩
        · rw [Function.update_of_ne isRow] at before
          exact .inl before
      · exact .inr ⟨other, List.mem_cons_of_mem _ member, isKey, isOther⟩

theorem cacheScopes_keeps {rows : List Row} {start cache : ScopeCache}
    (built : cacheScopes key scopeOf rows start = .ok cache) {id : Uuid}
    (cached : (start id).isSome) : (cache id).isSome := by
  induction rows generalizing start with
  | nil =>
      cases built
      exact cached
  | cons row rows inductionHypothesis =>
      obtain ⟨next, stepped, built⟩ := bind_eq_ok.mp built
      obtain ⟨rowScope, -, isNext⟩ := bind_eq_ok.mp stepped
      cases isNext
      refine inductionHypothesis built ?_
      by_cases isRow : id = key row
      · rw [isRow, Function.update_self]
        rfl
      · rw [Function.update_of_ne isRow]
        exact cached

theorem cacheScopes_holds {rows : List Row} {start cache : ScopeCache}
    (built : cacheScopes key scopeOf rows start = .ok cache) :
    ∀ row ∈ rows, (cache (key row)).isSome := by
  induction rows generalizing start with
  | nil => exact nofun
  | cons row rows inductionHypothesis =>
      obtain ⟨next, stepped, built⟩ := bind_eq_ok.mp built
      obtain ⟨scope, -, isNext⟩ := bind_eq_ok.mp stepped
      cases isNext
      refine List.forall_mem_cons.mpr ⟨?_, inductionHypothesis built⟩
      refine cacheScopes_keeps built ?_
      rw [Function.update_self]
      rfl

end loops

section agreement

variable {parseUuid : String → Option Uuid} {directory : ScopeDirectory}
  {kernel : SemanticKernel} {access : PrincipalAccess}

/-! ### Caches that answer as lookups do -/

/-- The list of active packs answers as the lookup does. -/
theorem packScope_active (ownerId : Uuid) :
    packScope directory (some directory.activeWorkflowPackInstallationIds) ownerId =
      packScope directory none ownerId := by
  by_cases isActive : ownerId ∈ directory.activeWorkflowPackInstallationIds
  · obtain ⟨installation, member, rfl⟩ := List.mem_map.mp isActive
    obtain ⟨member, isLive⟩ := List.mem_filter.mp member
    rw [packScope_eq_tenant_iff.mpr ⟨installation, member, rfl, Option.isNone_iff_eq_none.mp isLive⟩]
    exact congrArg Except.ok (if_pos isActive)
  · have notFound : packScope directory none ownerId = .ok .scopedUnknown := by
      unfold packScope
      dsimp only
      cases found : directory.getWorkflowPackInstallation ownerId with
      | error error => exact if_pos (getWorkflowPackInstallation_eq_error found)
      | ok installation =>
          obtain ⟨⟨member, isLive⟩, isOwner⟩ := getUnarchived_eq_ok.mp found
          exact absurd (List.mem_map.mpr ⟨installation,
            List.mem_filter.mpr ⟨member, Option.isNone_iff_eq_none.mpr isLive⟩, isOwner⟩) isActive
    rw [notFound]
    exact congrArg Except.ok (if_neg isActive)

theorem semanticSourceScope_cached (sources : List SemanticSource) (source : SemanticSource) :
    semanticSourceScope directory (cachedWorkflowPackIds directory sources) source =
      semanticSourceScope directory none source := by
  unfold cachedWorkflowPackIds
  split
  · unfold semanticSourceScope
    simp only [packScope_active]
  · rfl

theorem storedSourceScope_of_listed {source : SemanticSource}
    (listed : source ∈ kernel.listSemanticSources) :
    storedSourceScope directory kernel source.id = semanticSourceScope directory none source := by
  unfold storedSourceScope SemanticKernel.getSemanticSource
  rw [getUnarchived_of_mem listed]
  rfl

theorem storedObjectScope_of_listed {object : StoredSemanticObject}
    (listed : object ∈ kernel.listSemanticObjects) :
    storedObjectScope parseUuid directory kernel object.id =
      semanticObjectScope parseUuid directory kernel object := by
  unfold storedObjectScope SemanticKernel.getSemanticObject
  rw [getUnarchived_of_mem listed]
  rfl

/-- A cache holds only what a lookup gives. -/
def Faithful (lookup : Uuid → Except AppError ResourceScope) (cache : ScopeCache) : Prop :=
  ∀ id scope, cache id = some scope → lookup id = .ok scope

theorem getOr_of_faithful {lookup : Uuid → Except AppError ResourceScope} {cache : ScopeCache}
    (faithful : Faithful lookup cache) : cache.getOr lookup = lookup := by
  funext id
  unfold ScopeCache.getOr
  cases cached : cache id with
  | none => rfl
  | some scope => exact (faithful id scope cached).symm

theorem sourceScopeCache_faithful {cache : ScopeCache}
    (built : semanticSourceScopeCache directory kernel = .ok cache) :
    Faithful (storedSourceScope directory kernel) cache := by
  intro id scope cached
  rcases cacheScopes_from built cached with isNone | ⟨source, listed, rfl, isScope⟩
  · cases isNone
  · rw [storedSourceScope_of_listed listed, ← isScope, semanticSourceScope_cached]

theorem semanticObjectScope_cached {cache : ScopeCache}
    (faithful : Faithful (storedSourceScope directory kernel) cache) :
    semanticObjectScopeWithSourceScopes parseUuid directory kernel cache =
      semanticObjectScope parseUuid directory kernel := by
  funext object
  unfold semanticObjectScopeWithSourceScopes semanticObjectScope
  rw [getOr_of_faithful faithful]

theorem objectScopeCache_faithful {sourceScopes cache : ScopeCache}
    (faithful : Faithful (storedSourceScope directory kernel) sourceScopes)
    (built : semanticObjectScopeCache parseUuid directory kernel sourceScopes = .ok cache) :
    Faithful (storedObjectScope parseUuid directory kernel) cache := by
  intro id scope cached
  rcases cacheScopes_from built cached with isNone | ⟨object, listed, rfl, isScope⟩
  · cases isNone
  · rw [storedObjectScope_of_listed listed, ← isScope, semanticObjectScope_cached faithful]

theorem semanticLinkEndpointScope_cached {cache : ScopeCache}
    (faithful : Faithful (storedObjectScope parseUuid directory kernel) cache)
    (entityType entityId : String) :
    semanticLinkEndpointScopeWithObjectScopes parseUuid directory kernel cache entityType entityId =
      semanticLinkEndpointScope parseUuid directory kernel entityType entityId := by
  unfold semanticLinkEndpointScopeWithObjectScopes
  by_cases isObject : entityType = "semantic_object"
  · rw [if_neg (not_not_intro isObject)]
    unfold semanticLinkEndpointScope
    rw [if_pos isObject]
    rw [getOr_of_faithful faithful]
  · rw [if_pos isObject]

/-! ### Checks of single records -/

/-- A request on a source or an object passes when its scope resolves to a visible one. -/
theorem isAccepted_of_scope (nonAdmin : access.isAdmin = false)
    {resourceType : SemanticResourceType} (isRecord : resourceType ≠ .semanticLink) (id : Uuid) :
    isAccepted parseUuid directory kernel access resourceType id =
      verdict (do
        let scope ← resourceScope parseUuid directory kernel resourceType id
        .ok (scopeVisibleToPrincipal access scope)) := by
  unfold isAccepted enforceResourceScope
  rw [if_neg (by simp [nonAdmin])]
  dsimp only
  rw [if_neg isRecord]
  cases resourceScope parseUuid directory kernel resourceType id with
  | error error => rfl
  | ok scope =>
      dsimp only [bind, Except.bind]
      cases isVisible : scopeVisibleToPrincipal access scope <;> rfl

theorem isAccepted_link (nonAdmin : access.isAdmin = false) {link : SemanticLink}
    (listed : link ∈ kernel.listSemanticLinks) :
    isAccepted parseUuid directory kernel access .semanticLink link.id =
      verdict (semanticLinkVisibleToPrincipal parseUuid directory kernel access link) := by
  unfold isAccepted enforceResourceScope SemanticKernel.getSemanticLink
  rw [if_neg (by simp [nonAdmin])]
  dsimp only
  rw [if_pos rfl, getUnarchived_of_mem listed]
  dsimp only [bind, Except.bind]
  cases semanticLinkVisibleToPrincipal parseUuid directory kernel access link with
  | error error => rfl
  | ok isVisible => cases isVisible <;> rfl

theorem resolves_check {outcome : Except AppError ResourceScope} :
    Resolves (do
      let scope ← outcome
      .ok (scopeVisibleToPrincipal access scope)) ↔ Resolves outcome := by
  rw [resolves_bind]
  exact ⟨fun ⟨scope, isScope, _⟩ => ⟨scope, isScope⟩,
    fun ⟨scope, isScope⟩ => ⟨scope, isScope, resolves_ok _⟩⟩

/-! ### Listings -/

variable (parseUuid directory kernel access)

/-- Each listing gives exactly the listed records that a request is accepted for. -/
structure ListingsAgree : Prop where
  sources : visibleSemanticSources directory kernel access =
    .ok (kernel.listSemanticSources.filter fun source =>
      isAccepted parseUuid directory kernel access .semanticSource source.id)
  objects : visibleSemanticObjects parseUuid directory kernel access =
    .ok (kernel.listSemanticObjects.filter fun object =>
      isAccepted parseUuid directory kernel access .semanticObject object.id)
  links : visibleSemanticLinks parseUuid directory kernel access =
    .ok (kernel.listSemanticLinks.filter fun link =>
      isAccepted parseUuid directory kernel access .semanticLink link.id)

/-- The endpoint that a link starts at leads to a record, and so does the other one where
the first is visible. -/
def LinkLive (link : SemanticLink) : Prop :=
  EndpointLive parseUuid directory kernel link.fromEntityType link.fromEntityId ∧
    ∀ scope, semanticLinkEndpointScope parseUuid directory kernel link.fromEntityType
        link.fromEntityId = .ok scope → scopeVisibleToPrincipal access scope = true →
      EndpointLive parseUuid directory kernel link.toEntityType link.toEntityId

/-- Every reference of a listed record leads to a record. -/
structure EveryReferenceLive : Prop where
  sources : ∀ source ∈ kernel.listSemanticSources, source.OwnerLive directory
  objects : ∀ object ∈ kernel.listSemanticObjects, ObjectLive parseUuid directory kernel object
  links : ∀ link ∈ kernel.listSemanticLinks, LinkLive parseUuid directory kernel access link

theorem semanticLinkVisible_resolves_iff (link : SemanticLink) :
    Resolves (semanticLinkVisibleToPrincipal parseUuid directory kernel access link) ↔
      LinkLive parseUuid directory kernel access link := by
  unfold semanticLinkVisibleToPrincipal LinkLive
  rw [resolves_bind, ← semanticLinkEndpointScope_resolves_iff]
  constructor
  · rintro ⟨fromScope, isFrom, rest⟩
    refine ⟨⟨fromScope, isFrom⟩, fun scope isScope isVisible => ?_⟩
    rw [isScope] at isFrom
    cases isFrom
    rw [if_pos isVisible] at rest
    exact (semanticLinkEndpointScope_resolves_iff parseUuid directory kernel _ _).mp
      (resolves_check.mp rest)
  · rintro ⟨⟨fromScope, isFrom⟩, toLive⟩
    refine ⟨fromScope, isFrom, ?_⟩
    by_cases isVisible : scopeVisibleToPrincipal access fromScope = true
    · rw [if_pos isVisible]
      exact resolves_check.mpr ((semanticLinkEndpointScope_resolves_iff parseUuid directory kernel
        _ _).mpr (toLive fromScope isFrom isVisible))
    · rw [if_neg isVisible]
      exact resolves_ok false

theorem exists_sourceScopeCache_iff :
    (∃ cache, semanticSourceScopeCache directory kernel = .ok cache) ↔
      ∀ source ∈ kernel.listSemanticSources, source.OwnerLive directory := by
  constructor
  · rintro ⟨cache, built⟩ source listed
    exact (semanticSourceScope_resolves_iff directory _ source).mp
      (cacheScopes_resolves built source listed)
  · intro ownersLive
    exact exists_cacheScopes (fun source listed =>
      (semanticSourceScope_resolves_iff directory _ source).mpr (ownersLive source listed)) _

theorem exists_objectScopeCache_iff {sourceScopes : ScopeCache}
    (faithful : Faithful (storedSourceScope directory kernel) sourceScopes) :
    (∃ cache, semanticObjectScopeCache parseUuid directory kernel sourceScopes = .ok cache) ↔
      ∀ object ∈ kernel.listSemanticObjects, ObjectLive parseUuid directory kernel object := by
  unfold semanticObjectScopeCache
  rw [semanticObjectScope_cached faithful]
  constructor
  · rintro ⟨cache, built⟩ object listed
    exact (semanticObjectScope_resolves_iff parseUuid directory kernel object).mp
      (cacheScopes_resolves built object listed)
  · intro objectsLive
    exact exists_cacheScopes (fun object listed =>
      (semanticObjectScope_resolves_iff parseUuid directory kernel object).mpr
        (objectsLive object listed)) _

theorem sources_agree_iff (nonAdmin : access.isAdmin = false) :
    visibleSemanticSources directory kernel access =
        .ok (kernel.listSemanticSources.filter fun source =>
          isAccepted parseUuid directory kernel access .semanticSource source.id) ↔
      ∀ source ∈ kernel.listSemanticSources, source.OwnerLive directory := by
  unfold visibleSemanticSources
  dsimp only
  rw [if_neg (by simp [nonAdmin]), ← exists_sourceScopeCache_iff]
  cases built : semanticSourceScopeCache directory kernel with
  | error error =>
      unfold semanticSourceScopeCache at built
      rw [built]
      exact iff_of_false (fun same => nomatch same) (fun ⟨_, same⟩ => nomatch same)
  | ok cache =>
      have faithful := sourceScopeCache_faithful built
      unfold semanticSourceScopeCache at built
      refine iff_of_true ?_ ⟨cache, rfl⟩
      rw [built]
      refine filterRows_eq_filter fun source listed => ?_
      obtain ⟨scope, cached⟩ := Option.isSome_iff_exists.mp (cacheScopes_holds built source listed)
      rw [cached, isAccepted_of_scope nonAdmin (by decide), resourceScope,
        faithful source.id scope cached]
      rfl

theorem objects_agree_iff (nonAdmin : access.isAdmin = false) :
    visibleSemanticObjects parseUuid directory kernel access =
        .ok (kernel.listSemanticObjects.filter fun object =>
          isAccepted parseUuid directory kernel access .semanticObject object.id) ↔
      (∀ source ∈ kernel.listSemanticSources, source.OwnerLive directory) ∧
        ∀ object ∈ kernel.listSemanticObjects, ObjectLive parseUuid directory kernel object := by
  unfold visibleSemanticObjects
  dsimp only
  rw [if_neg (by simp [nonAdmin]), ← exists_sourceScopeCache_iff]
  cases built : semanticSourceScopeCache directory kernel with
  | error error =>
      exact iff_of_false (fun same => nomatch same) (fun ⟨⟨_, same⟩, _⟩ => nomatch same)
  | ok cache =>
      rw [and_iff_right ⟨cache, rfl⟩]
      dsimp only [bind, Except.bind]
      rw [semanticObjectScope_cached (sourceScopeCache_faithful built)]
      have accepted : (kernel.listSemanticObjects.filter fun object =>
          isAccepted parseUuid directory kernel access .semanticObject object.id) =
          kernel.listSemanticObjects.filter fun object => verdict (do
            let scope ← semanticObjectScope parseUuid directory kernel object
            .ok (scopeVisibleToPrincipal access scope)) := by
        refine List.filter_congr fun object listed => ?_
        rw [isAccepted_of_scope nonAdmin (by decide), resourceScope,
          storedObjectScope_of_listed listed]
      rw [accepted]
      refine filterRows_eq_verdicts_iff.trans (forall₂_congr fun object listed => ?_)
      exact resolves_check.trans (semanticObjectScope_resolves_iff parseUuid directory kernel object)

theorem links_agree_iff (nonAdmin : access.isAdmin = false) :
    visibleSemanticLinks parseUuid directory kernel access =
        .ok (kernel.listSemanticLinks.filter fun link =>
          isAccepted parseUuid directory kernel access .semanticLink link.id) ↔
      EveryReferenceLive parseUuid directory kernel access := by
  have split : EveryReferenceLive parseUuid directory kernel access ↔
      (∀ source ∈ kernel.listSemanticSources, source.OwnerLive directory) ∧
        (∀ object ∈ kernel.listSemanticObjects, ObjectLive parseUuid directory kernel object) ∧
          ∀ link ∈ kernel.listSemanticLinks, LinkLive parseUuid directory kernel access link :=
    ⟨fun ⟨sources, objects, links⟩ => ⟨sources, objects, links⟩,
      fun ⟨sources, objects, links⟩ => ⟨sources, objects, links⟩⟩
  rw [split]
  unfold visibleSemanticLinks
  dsimp only
  rw [if_neg (by simp [nonAdmin]), ← exists_sourceScopeCache_iff]
  cases built : semanticSourceScopeCache directory kernel with
  | error error =>
      exact iff_of_false (fun same => nomatch same) (fun ⟨⟨_, same⟩, _⟩ => nomatch same)
  | ok sourceScopes =>
      have sourcesFaithful := sourceScopeCache_faithful built
      rw [and_iff_right ⟨sourceScopes, rfl⟩,
        ← exists_objectScopeCache_iff parseUuid directory kernel sourcesFaithful]
      dsimp only [bind, Except.bind]
      cases objectsBuilt : semanticObjectScopeCache parseUuid directory kernel sourceScopes with
      | error error =>
          exact iff_of_false (fun same => nomatch same) (fun ⟨⟨_, same⟩, _⟩ => nomatch same)
      | ok objectScopes =>
          have faithful := objectScopeCache_faithful sourcesFaithful objectsBuilt
          rw [and_iff_right ⟨objectScopes, rfl⟩]
          dsimp only
          simp only [semanticLinkEndpointScope_cached faithful]
          have accepted : (kernel.listSemanticLinks.filter fun link =>
              isAccepted parseUuid directory kernel access .semanticLink link.id) =
              kernel.listSemanticLinks.filter fun link =>
                verdict (semanticLinkVisibleToPrincipal parseUuid directory kernel access link) :=
            List.filter_congr fun link listed => isAccepted_link nonAdmin listed
          rw [accepted]
          exact filterRows_eq_verdicts_iff.trans (forall₂_congr fun link _ =>
            semanticLinkVisible_resolves_iff parseUuid directory kernel access link)

/-- The listings of a principal that is no admin agree with the requests on single records
exactly when every reference of a listed record leads to a record. -/
theorem listings_agree_iff (nonAdmin : access.isAdmin = false) :
    ListingsAgree parseUuid directory kernel access ↔
      EveryReferenceLive parseUuid directory kernel access := by
  constructor
  · intro agree
    exact (links_agree_iff parseUuid directory kernel access nonAdmin).mp agree.links
  · intro live
    exact ⟨(sources_agree_iff parseUuid directory kernel access nonAdmin).mpr live.sources,
      (objects_agree_iff parseUuid directory kernel access nonAdmin).mpr
        ⟨live.sources, live.objects⟩,
      (links_agree_iff parseUuid directory kernel access nonAdmin).mpr live⟩

end agreement

section archivedOwner

/-- Of two sources one is owned by a work item. -/
private def plainSource (id : Uuid) (ownerType : Option String) (ownerId : Option Uuid) :
    SemanticSource :=
  ⟨id, "memory", "memory://notes", "Notes", ownerType, ownerId, .object [], .object [], .object [],
    "active", none, 0, 0, none⟩

private def openSource : SemanticSource := plainSource 1 none none

private def ownedSource : SemanticSource := plainSource 2 (some "work_item") (some 9)

private def archivedWorkItem : ScopeDirectory where
  workItems := Table.empty.insert ⟨9, none, none, some 5⟩

private def outsider : PrincipalAccess :=
  ⟨"viewer", false, fun _ => false, fun _ => false, ∅⟩

/-- A source without an owner is listed and accepted. -/
theorem open_source_listed :
    ListingsAgree (fun _ => none) archivedWorkItem { sources := Table.empty.insert openSource }
      outsider := by
  refine (listings_agree_iff (fun _ => none) archivedWorkItem
    { sources := Table.empty.insert openSource } outsider rfl).mpr
    ⟨?_, fun _ listed => absurd (mem_listUnarchived.mp listed).1 List.not_mem_nil,
      fun _ listed => absurd (mem_listUnarchived.mp listed).1 List.not_mem_nil⟩
  intro source listed
  have isOpen : source = openSource := by
    obtain ⟨member, -⟩ := mem_listUnarchived.mp listed
    exact List.mem_singleton.mp member
  rw [isOpen]
  exact allLive_none archivedWorkItem

/-- Where the owner of one source is archived, the other source is accepted, but no source is
listed. -/
theorem archived_owner_hides_every_source :
    outsider.isAdmin = false ∧
      isAccepted (fun _ => none) archivedWorkItem
        { sources := (Table.empty.insert openSource).insert ownedSource } outsider .semanticSource
        1 = true ∧
      ¬ ListingsAgree (fun _ => none) archivedWorkItem
        { sources := (Table.empty.insert openSource).insert ownedSource } outsider := by
  refine ⟨rfl, by decide +kernel, fun agree => ?_⟩
  have ownersLive := (sources_agree_iff _ _ _ _ rfl).mp agree.sources
  have listed : ownedSource ∈ SemanticKernel.listSemanticSources
      { sources := (Table.empty.insert openSource).insert ownedSource } :=
    mem_listUnarchived.mpr ⟨List.mem_cons_of_mem _ List.mem_cons_self, rfl⟩
  have owner : ownedSource.ownerReference = some (.workItem 9) := by decide +kernel
  obtain ⟨workItem, member, -, isLive⟩ := ownersLive ownedSource listed _ owner
  rw [List.mem_singleton.mp member] at isLive
  cases isLive

end archivedOwner

end MandoForge
