/-
Module: MandoForge.Ontology.CatalogBuild
Purpose: What a build of a catalog gives: the parts that the proposals describe, laid over
  the parts of the parent release under their stable keys.
Trusted boundary: none
Main exports: proposedObject, proposedAction
-/
import MandoForge.Ontology.CatalogChecks

namespace MandoForge

open Foundation

/-! ### What a proposal describes -/

section proposed

variable (parent : Option OntologyReleaseCatalogV1)

/-- The type of the object that a proposal is about. -/
def proposedObjectType (proposal : OntologyOnboardingProposalDraft) : String :=
  trim (((proposal.content.get "object_type").bind Json.asStr).getD proposal.name)

def proposedObject (proposal : OntologyOnboardingProposalDraft) :
    Except AppError OntologySdkCatalogObject := do
  let objectType := proposedObjectType proposal
  let stableKey := "object:" ++ objectType
  let inherited := parentObject parent stableKey
  let apiName ← chooseApiName proposal (explicitApiName proposal)
    (inherited.map OntologySdkCatalogObject.apiName) objectType .object
  let (properties, primaryKeyApiName) ← catalogObjectProperties proposal stableKey inherited
  return { stableKey, apiName, objectType, properties, primaryKeyApiName }

/-- What a relation is between, and its type. -/
structure RelationTriple where
  fromObject : String
  relationType : String
  toObject : String
deriving DecidableEq, Repr

namespace RelationTriple

def stableKey (triple : RelationTriple) : String :=
  "relation:" ++ triple.fromObject ++ ":" ++ triple.relationType ++ ":" ++ triple.toObject

/-- The triple that a proposal states. -/
def ofProposal (proposal : OntologyOnboardingProposalDraft) : Except AppError RelationTriple := do
  let fromObject ← requiredContentString proposal "from_object" "relation"
  let toObject ← requiredContentString proposal "to_object" "relation"
  let relationType ← requiredContentString proposal "relation" "relation"
  return { fromObject, relationType, toObject }

end RelationTriple

/-- The relation of a proposal, over the names that the objects have. -/
def proposedRelation (objectApiNames : List (String × String))
    (proposal : OntologyOnboardingProposalDraft) : Except AppError OntologySdkCatalogRelation := do
  let triple ← RelationTriple.ofProposal proposal
  let endpoint := fun objectType => okOr (objectApiNames.lookup objectType)
    (AppError.badRequest ("ontology relation endpoint object is not in the release catalog: " ++
      objectType))
  let fromObjectApiName ← endpoint triple.fromObject
  let toObjectApiName ← endpoint triple.toObject
  let fallback := ((proposal.content.get "link_type").bind Json.asStr).getD proposal.name
  let apiName ← chooseApiName proposal (explicitApiName proposal)
    ((parentRelation parent triple.stableKey).map OntologySdkCatalogRelation.apiName) fallback
    .relation
  return {
    stableKey := triple.stableKey
    apiName
    fromObjectApiName
    relationType := triple.relationType
    toObjectApiName }

/-- The action of a proposal, over the names that the objects have. -/
def proposedAction (codec : OntologyCodec) (objectApiNames : List (String × String))
    (proposal : OntologyOnboardingProposalDraft) : Except AppError OntologySdkCatalogAction := do
  let toolSpec ← ontologyToolSpecFromActionProposal proposal.runId proposal
  let stableKey := "action:" ++ toolSpec.name
  let apiName ← chooseApiName proposal (explicitApiName proposal)
    ((parentAction parent stableKey).map OntologySdkCatalogAction.apiName) proposal.name .action
  let targetObjectApiName ← okOr (objectApiNames.lookup toolSpec.targetObject)
    (.badRequest ("ontology action target object is not in the release catalog: " ++
      toolSpec.targetObject))
  return {
    stableKey
    apiName
    runtimeName := toolSpec.name
    contractDigest := codec.jsonSha256 toolSpec.write
    executionMode := toolSpec.executionMode
    targetObjectApiName
    inputSchema := toolSpec.inputSchema
    approvalRequired := toolSpec.approvalRequired }

end proposed

/-! ### One proposal after the other -/

namespace CatalogDraft

def putObject (draft : CatalogDraft) (object : OntologySdkCatalogObject) : CatalogDraft :=
  { draft with
    proposed := object.stableKey :: draft.proposed
    objectApiNames := (object.objectType, object.apiName) :: draft.objectApiNames
    objects := draft.objects.insert object }

def putRelation (draft : CatalogDraft) (relation : OntologySdkCatalogRelation) : CatalogDraft :=
  { draft with
    proposed := relation.stableKey :: draft.proposed
    relations := draft.relations.insert relation }

def putAction (draft : CatalogDraft) (action : OntologySdkCatalogAction) : CatalogDraft :=
  { draft with
    proposed := action.stableKey :: draft.proposed
    actions := draft.actions.insert action }

theorem take_eq_ok_iff {draft taken : CatalogDraft} {stableKey kind : String} :
    draft.take stableKey kind = .ok taken ↔
      stableKey ∉ draft.proposed ∧ taken = { draft with proposed := stableKey :: draft.proposed } := by
  unfold take
  split
  · rename_i isTaken
    exact ⟨fun same => (nomatch same), fun fresh => absurd isTaken fresh.1⟩
  · rename_i isFresh
    exact ⟨fun same => ⟨isFresh, (Except.ok.inj same).symm⟩, fun fresh => by rw [fresh.2]⟩

end CatalogDraft

section steps

variable {parent : Option OntologyReleaseCatalogV1} {codec : OntologyCodec}
  {draft after : CatalogDraft} {proposal : OntologyOnboardingProposalDraft}

theorem addObject_eq_ok (adds : addObject parent draft proposal = .ok after) :
    ∃ object, proposedObject parent proposal = .ok object ∧
      object.stableKey ∉ draft.proposed ∧ after = draft.putObject object := by
  obtain ⟨taken, takes, adds⟩ := bind_eq_ok.mp adds
  obtain ⟨apiName, chosen, adds⟩ := bind_eq_ok.mp adds
  obtain ⟨⟨properties, primaryKeyApiName⟩, read, returned⟩ := bind_eq_ok.mp adds
  cases returned
  obtain ⟨isFresh, rfl⟩ := CatalogDraft.take_eq_ok_iff.mp takes
  exact ⟨_, bind_eq_ok.mpr ⟨apiName, chosen, bind_eq_ok.mpr ⟨_, read, rfl⟩⟩, isFresh, rfl⟩

theorem addRelation_eq_ok (adds : addRelation parent draft proposal = .ok after) :
    ∃ relation, proposedRelation parent draft.objectApiNames proposal = .ok relation ∧
      relation.stableKey ∉ draft.proposed ∧ after = draft.putRelation relation := by
  obtain ⟨fromObject, isFrom, adds⟩ := bind_eq_ok.mp adds
  obtain ⟨toObject, isTo, adds⟩ := bind_eq_ok.mp adds
  obtain ⟨relationType, isType, adds⟩ := bind_eq_ok.mp adds
  obtain ⟨fromObjectApiName, fromNamed, adds⟩ := bind_eq_ok.mp adds
  obtain ⟨toObjectApiName, toNamed, adds⟩ := bind_eq_ok.mp adds
  obtain ⟨taken, takes, adds⟩ := bind_eq_ok.mp adds
  obtain ⟨apiName, chosen, returned⟩ := bind_eq_ok.mp adds
  cases returned
  obtain ⟨isFresh, rfl⟩ := CatalogDraft.take_eq_ok_iff.mp takes
  have isTriple : RelationTriple.ofProposal proposal =
      .ok { fromObject, relationType, toObject } :=
    bind_eq_ok.mpr ⟨fromObject, isFrom, bind_eq_ok.mpr ⟨toObject, isTo,
      bind_eq_ok.mpr ⟨relationType, isType, rfl⟩⟩⟩
  refine ⟨_, bind_eq_ok.mpr ⟨_, isTriple, bind_eq_ok.mpr ⟨fromObjectApiName, fromNamed,
    bind_eq_ok.mpr ⟨toObjectApiName, toNamed, bind_eq_ok.mpr ⟨apiName, chosen, rfl⟩⟩⟩⟩, isFresh,
    rfl⟩

theorem addAction_eq_ok (adds : addAction parent codec draft proposal = .ok after) :
    ∃ action, proposedAction parent codec draft.objectApiNames proposal = .ok action ∧
      action.stableKey ∉ draft.proposed ∧ after = draft.putAction action := by
  obtain ⟨toolSpec, compiled, adds⟩ := bind_eq_ok.mp adds
  obtain ⟨taken, takes, adds⟩ := bind_eq_ok.mp adds
  obtain ⟨apiName, chosen, adds⟩ := bind_eq_ok.mp adds
  obtain ⟨targetObjectApiName, isTarget, returned⟩ := bind_eq_ok.mp adds
  cases returned
  obtain ⟨isFresh, rfl⟩ := CatalogDraft.take_eq_ok_iff.mp takes
  exact ⟨_, bind_eq_ok.mpr ⟨toolSpec, compiled, bind_eq_ok.mpr ⟨apiName, chosen,
    bind_eq_ok.mpr ⟨targetObjectApiName, isTarget, rfl⟩⟩⟩, isFresh, rfl⟩

end steps

section folds

variable {Row : Type} {key : Row → String} {kept : CatalogDraft → Prop}
  {step : CatalogDraft → OntologyOnboardingProposalDraft → Except AppError CatalogDraft}
  {make : OntologyOnboardingProposalDraft → Except AppError Row}
  {put : CatalogDraft → Row → CatalogDraft}

/-- A fold that puts one new row for each proposal puts the rows of all of them. -/
theorem foldlM_puts
    (each : ∀ draft proposal after, kept draft → step draft proposal = .ok after →
      ∃ row, make proposal = .ok row ∧ key row ∉ draft.proposed ∧ after = put draft row)
    (puts : ∀ draft row, kept draft → kept (put draft row) ∧
      (put draft row).proposed = key row :: draft.proposed)
    {proposals : List OntologyOnboardingProposalDraft} {draft after : CatalogDraft}
    (start : kept draft) (folds : proposals.foldlM step draft = .ok after) :
    ∃ rows, proposals.mapM make = .ok rows ∧ after = rows.foldl put draft ∧
      (rows.map key).Nodup ∧ ∀ row ∈ rows, key row ∉ draft.proposed := by
  induction proposals generalizing draft with
  | nil => exact ⟨[], rfl, (Except.ok.inj folds).symm, List.nodup_nil, by simp⟩
  | cons proposal proposals inductionHypothesis =>
      rw [List.foldlM_cons] at folds
      obtain ⟨next, steps, folds⟩ := bind_eq_ok.mp folds
      obtain ⟨row, made, isFresh, rfl⟩ := each draft proposal next start steps
      obtain ⟨stillKept, proposed⟩ := puts draft row start
      obtain ⟨rows, allMade, isAfter, distinct, fresh⟩ := inductionHypothesis stillKept folds
      rw [proposed] at fresh
      refine ⟨row :: rows, ?_, isAfter, ?_, ?_⟩
      · rw [List.mapM_cons]
        exact bind_eq_ok.mpr ⟨row, made, bind_eq_ok.mpr ⟨rows, allMade, rfl⟩⟩
      · refine List.nodup_cons.mpr ⟨fun isLater => ?_, distinct⟩
        obtain ⟨later, member, sameKey⟩ := List.mem_map.mp isLater
        exact fresh later member (sameKey ▸ List.mem_cons_self)
      · intro other member
        rcases List.mem_cons.mp member with rfl | isLater
        · exact isFresh
        · exact fun seen => fresh other isLater (List.mem_cons_of_mem _ seen)

theorem foldl_putObject {objects : List OntologySdkCatalogObject} {draft : CatalogDraft} :
    (objects.foldl CatalogDraft.putObject draft).objects =
        objects.foldl Table.insert draft.objects ∧
      (objects.foldl CatalogDraft.putObject draft).relations = draft.relations ∧
      (objects.foldl CatalogDraft.putObject draft).actions = draft.actions ∧
      (objects.foldl CatalogDraft.putObject draft).objectApiNames =
        (objects.map fun object => (object.objectType, object.apiName)).reverse ++
          draft.objectApiNames := by
  induction objects generalizing draft with
  | nil => exact ⟨rfl, rfl, rfl, rfl⟩
  | cons object objects inductionHypothesis =>
      obtain ⟨sameObjects, sameRelations, sameActions, sameNames⟩ :=
        @inductionHypothesis (draft.putObject object)
      refine ⟨sameObjects, sameRelations, sameActions, sameNames.trans ?_⟩
      rw [List.map_cons, List.reverse_cons, List.append_assoc]
      rfl

theorem foldl_putRelation {relations : List OntologySdkCatalogRelation} {draft : CatalogDraft} :
    (relations.foldl CatalogDraft.putRelation draft).objects = draft.objects ∧
      (relations.foldl CatalogDraft.putRelation draft).relations =
        relations.foldl Table.insert draft.relations ∧
      (relations.foldl CatalogDraft.putRelation draft).actions = draft.actions ∧
      (relations.foldl CatalogDraft.putRelation draft).objectApiNames = draft.objectApiNames := by
  induction relations generalizing draft with
  | nil => exact ⟨rfl, rfl, rfl, rfl⟩
  | cons relation relations inductionHypothesis =>
      exact @inductionHypothesis (draft.putRelation relation)

theorem foldl_putAction {actions : List OntologySdkCatalogAction} {draft : CatalogDraft} :
    (actions.foldl CatalogDraft.putAction draft).objects = draft.objects ∧
      (actions.foldl CatalogDraft.putAction draft).relations = draft.relations ∧
      (actions.foldl CatalogDraft.putAction draft).actions =
        actions.foldl Table.insert draft.actions := by
  induction actions generalizing draft with
  | nil => exact ⟨rfl, rfl, rfl⟩
  | cons action actions inductionHypothesis =>
      exact @inductionHypothesis (draft.putAction action)

end folds

section passes

variable {parent : Option OntologyReleaseCatalogV1} {codec : OntologyCodec}
  {proposals : List OntologyOnboardingProposalDraft} {draft after : CatalogDraft}

theorem addObjects_eq_ok (adds : proposals.foldlM (addObject parent) draft = .ok after) :
    ∃ objects, proposals.mapM (proposedObject parent) = .ok objects ∧
      after = objects.foldl CatalogDraft.putObject draft ∧
      (objects.map OntologySdkCatalogObject.stableKey).Nodup := by
  obtain ⟨objects, made, isAfter, distinct, -⟩ :=
    @foldlM_puts _ OntologySdkCatalogObject.stableKey (fun _ => True) _ _ _
      (fun _ _ _ _ adds => addObject_eq_ok adds) (fun _ _ _ => ⟨trivial, rfl⟩) _ _ _ trivial adds
  exact ⟨objects, made, isAfter, distinct⟩

theorem addRelations_eq_ok (adds : proposals.foldlM (addRelation parent) draft = .ok after) :
    ∃ relations, proposals.mapM (proposedRelation parent draft.objectApiNames) = .ok relations ∧
      after = relations.foldl CatalogDraft.putRelation draft ∧
      (relations.map OntologySdkCatalogRelation.stableKey).Nodup := by
  obtain ⟨relations, made, isAfter, distinct, -⟩ :=
    @foldlM_puts _ OntologySdkCatalogRelation.stableKey
      (fun later => later.objectApiNames = draft.objectApiNames) _
      (proposedRelation parent draft.objectApiNames) CatalogDraft.putRelation
      (fun _ _ _ same adds => same ▸ addRelation_eq_ok adds) (fun _ _ same => ⟨same, rfl⟩)
      _ _ _ rfl adds
  exact ⟨relations, made, isAfter, distinct⟩

theorem addActions_eq_ok (adds : proposals.foldlM (addAction parent codec) draft = .ok after) :
    ∃ actions, proposals.mapM (proposedAction parent codec draft.objectApiNames) = .ok actions ∧
      after = actions.foldl CatalogDraft.putAction draft ∧
      (actions.map OntologySdkCatalogAction.stableKey).Nodup := by
  obtain ⟨actions, made, isAfter, distinct, -⟩ :=
    @foldlM_puts _ OntologySdkCatalogAction.stableKey
      (fun later => later.objectApiNames = draft.objectApiNames) _
      (proposedAction parent codec draft.objectApiNames) CatalogDraft.putAction
      (fun _ _ _ same adds => same ▸ addAction_eq_ok adds) (fun _ _ same => ⟨same, rfl⟩)
      _ _ _ rfl adds
  exact ⟨actions, made, isAfter, distinct⟩

end passes

/-! ### The whole build -/

/-- The parts of a parent, if there is one. -/
def partsOf {Part : Type} (parts : OntologyReleaseCatalogV1 → List Part)
    (parent : Option OntologyReleaseCatalogV1) : List Part :=
  (parent.map parts).getD []

/-- A catalog has what the proposals describe, and what the parent has under other keys. -/
structure CatalogBuilt (codec : OntologyCodec) (domainScope : String)
    (proposals : List OntologyOnboardingProposalDraft)
    (parent : Option OntologyReleaseCatalogV1) (catalog : OntologyReleaseCatalogV1)
    (objects : List OntologySdkCatalogObject) (relations : List OntologySdkCatalogRelation)
    (actions : List OntologySdkCatalogAction) (names : List (String × String)) : Prop where
  objectsMade : (proposalsOf "object" proposals).mapM (proposedObject parent) = .ok objects
  relationsMade : (proposalsOf "relation" proposals).mapM (proposedRelation parent names) =
    .ok relations
  actionsMade : (proposalsOf "action" proposals).mapM (proposedAction parent codec names) =
    .ok actions
  objectsDistinct : (objects.map OntologySdkCatalogObject.stableKey).Nodup
  relationsDistinct : (relations.map OntologySdkCatalogRelation.stableKey).Nodup
  actionsDistinct : (actions.map OntologySdkCatalogAction.stableKey).Nodup
  names : names = (objects.map fun object => (object.objectType, object.apiName)).reverse ++
    ((partsOf OntologyReleaseCatalogV1.objects parent).map fun object =>
      (object.objectType, object.apiName)).reverse
  memObjects : ∀ object, object ∈ catalog.objects ↔ object ∈ objects ∨
    (object.stableKey ∉ objects.map OntologySdkCatalogObject.stableKey ∧
      object ∈ partsOf OntologyReleaseCatalogV1.objects parent)
  memRelations : ∀ relation, relation ∈ catalog.relations ↔ relation ∈ relations ∨
    (relation.stableKey ∉ relations.map OntologySdkCatalogRelation.stableKey ∧
      relation ∈ partsOf OntologyReleaseCatalogV1.relations parent)
  memActions : ∀ action, action ∈ catalog.actions ↔ action ∈ actions ∨
    (action.stableKey ∉ actions.map OntologySdkCatalogAction.stableKey ∧
      action ∈ partsOf OntologyReleaseCatalogV1.actions parent)
  domainScope : catalog.domainScope = domainScope
  valid : validateCatalog codec.formats catalog = .ok ()

theorem mem_foldl_insert_empty {Row : Type} {key : Row → String} {rows : List Row}
    (distinct : (rows.map key).Nodup) {row : Row} :
    row ∈ rows.foldl Table.insert (Table.empty : Table key) ↔ row ∈ rows := by
  rw [Table.mem_foldl_insert distinct]
  exact or_iff_left fun old => absurd old.2 List.not_mem_nil

theorem CatalogDraft.ofParent_mem {parent : Option OntologyReleaseCatalogV1}
    (distinct : ∀ catalog, parent = some catalog → DistinctKeys catalog) :
    (∀ object, object ∈ (CatalogDraft.ofParent parent).objects ↔
        object ∈ partsOf OntologyReleaseCatalogV1.objects parent) ∧
      (∀ relation, relation ∈ (CatalogDraft.ofParent parent).relations ↔
        relation ∈ partsOf OntologyReleaseCatalogV1.relations parent) ∧
      (∀ action, action ∈ (CatalogDraft.ofParent parent).actions ↔
        action ∈ partsOf OntologyReleaseCatalogV1.actions parent) ∧
      (CatalogDraft.ofParent parent).objectApiNames =
        ((partsOf OntologyReleaseCatalogV1.objects parent).map fun object =>
          (object.objectType, object.apiName)).reverse := by
  cases parent with
  | none => exact ⟨fun _ => Iff.rfl, fun _ => Iff.rfl, fun _ => Iff.rfl, rfl⟩
  | some catalog =>
      have keys := distinct catalog rfl
      exact ⟨fun _ => mem_foldl_insert_empty keys.objects,
        fun _ => mem_foldl_insert_empty keys.relations,
        fun _ => mem_foldl_insert_empty keys.actions, rfl⟩

/-- What a build that succeeds gives. -/
theorem buildReleaseCatalog_eq_ok {codec : OntologyCodec} {domainScope : String}
    {proposals : List OntologyOnboardingProposalDraft} {parent : Option OntologyReleaseCatalogV1}
    {catalog : OntologyReleaseCatalogV1}
    (distinct : ∀ catalog, parent = some catalog → DistinctKeys catalog)
    (built : buildReleaseCatalog codec domainScope proposals parent = .ok catalog) :
    ∃ objects relations actions names, CatalogBuilt codec domainScope proposals parent catalog
      objects relations actions names := by
  obtain ⟨withObjects, addsObjects, built⟩ := bind_eq_ok.mp built
  obtain ⟨withRelations, addsRelations, built⟩ := bind_eq_ok.mp built
  obtain ⟨withActions, addsActions, built⟩ := bind_eq_ok.mp built
  obtain ⟨⟨⟩, valid, returned⟩ := bind_eq_ok.mp built
  cases returned
  obtain ⟨objects, objectsMade, rfl, objectsDistinct⟩ := addObjects_eq_ok addsObjects
  obtain ⟨relations, relationsMade, rfl, relationsDistinct⟩ := addRelations_eq_ok addsRelations
  obtain ⟨actions, actionsMade, rfl, actionsDistinct⟩ := addActions_eq_ok addsActions
  obtain ⟨parentObjects, parentRelations, parentActions, parentNames⟩ :=
    CatalogDraft.ofParent_mem distinct
  obtain ⟨afterObjects, keptRelations, keptActions, names⟩ :=
    @foldl_putObject objects (CatalogDraft.ofParent parent)
  obtain ⟨keptObjects, afterRelations, stillActions, sameNames⟩ :=
    @foldl_putRelation relations (objects.foldl CatalogDraft.putObject
      (CatalogDraft.ofParent parent))
  obtain ⟨stillObjects, stillRelations, afterActions⟩ :=
    @foldl_putAction actions (relations.foldl CatalogDraft.putRelation
      (objects.foldl CatalogDraft.putObject (CatalogDraft.ofParent parent)))
  rw [sameNames] at actionsMade
  refine ⟨objects, relations, actions,
    (objects.foldl CatalogDraft.putObject (CatalogDraft.ofParent parent)).objectApiNames, ?_⟩
  constructor
  case objectsMade => exact objectsMade
  case relationsMade => exact relationsMade
  case actionsMade => exact actionsMade
  case objectsDistinct => exact objectsDistinct
  case relationsDistinct => exact relationsDistinct
  case actionsDistinct => exact actionsDistinct
  case names => rw [names, parentNames]
  case memObjects =>
    intro object
    rw [← parentObjects, ← Table.mem_foldl_insert objectsDistinct, ← afterObjects, ← keptObjects,
      ← stillObjects]
    exact mem_inNameOrder
  case memRelations =>
    intro relation
    rw [← parentRelations, ← keptRelations, ← Table.mem_foldl_insert relationsDistinct,
      ← afterRelations, ← stillRelations]
    exact mem_inNameOrder
  case memActions =>
    intro action
    rw [← parentActions, ← keptActions, ← stillActions, ← Table.mem_foldl_insert actionsDistinct,
      ← afterActions]
    exact mem_inNameOrder
  case domainScope => rfl
  case valid => exact valid

end MandoForge
