/-
Module: MandoForge.Ontology.CatalogChecks
Purpose: What the checks of a catalog establish, one after the other: the identity of
  every action, and that the actions of a catalog and the contracts of its evidence are
  the same, each with its digest.
Trusted boundary: none
Main exports: validateAction_eq_ok, validateActionContractDigest_eq_ok
-/
import MandoForge.Ontology.CatalogInheritance
import Mathlib.Data.List.Dedup

namespace MandoForge

open Foundation

/-! ### Actions of a catalog -/

/-- What the checks of an action establish. -/
theorem validateAction_eq_ok {formats : SchemaFormats} {catalog : OntologyReleaseCatalogV1}
    {action : OntologySdkCatalogAction} :
    validateAction formats catalog action = .ok () ↔
      validateApiName action.apiName .action = .ok action.apiName ∧
        (action.contractDigest ≠ "" ∧ action.executionMode ≠ "") ∧
        (action.runtimeName ≠ "" ∧ action.stableKey = "action:" ++ action.runtimeName) ∧
        (∃ object ∈ catalog.objects, object.apiName = action.targetObjectApiName) ∧
        action.inputSchema.isObject = true ∧
        validateActionSchema formats action.inputSchema = .ok () := by
  unfold validateAction
  rw [bind_eq_ok]
  constructor
  · rintro ⟨valid, named, checks⟩
    obtain ⟨complete, checks⟩ := guardThen_eq_ok.mp checks
    obtain ⟨identified, checks⟩ := guardThen_eq_ok.mp checks
    obtain ⟨targeted, checks⟩ := guardThen_eq_ok.mp checks
    obtain ⟨shaped, checks⟩ := guardThen_eq_ok.mp checks
    rw [not_or] at complete identified
    simp only [Bool.not_eq_true', Bool.not_eq_false] at targeted shaped
    obtain ⟨object, member, isTarget⟩ := List.any_eq_true.mp targeted
    obtain rfl := validateApiName_eq_ok named
    exact ⟨named, complete, ⟨identified.1, not_not.mp identified.2⟩,
      ⟨object, member, of_decide_eq_true isTarget⟩, shaped, checks⟩
  · rintro ⟨named, complete, identified, ⟨object, member, isTarget⟩, shaped, checks⟩
    refine ⟨action.apiName, named, guardThen_eq_ok.mpr ⟨?_, guardThen_eq_ok.mpr ⟨?_,
      guardThen_eq_ok.mpr ⟨?_, guardThen_eq_ok.mpr ⟨?_, checks⟩⟩⟩⟩⟩
    · exact not_or.mpr complete
    · exact not_or.mpr ⟨identified.1, not_not.mpr identified.2⟩
    · rw [List.any_eq_true.mpr ⟨object, member, decide_eq_true isTarget⟩]
      exact Bool.false_ne_true
    · rw [shaped]
      exact Bool.false_ne_true

theorem validateCatalog_eq_ok {formats : SchemaFormats} {catalog : OntologyReleaseCatalogV1} :
    validateCatalog formats catalog = .ok () ↔
      catalog.schema = ontologyReleaseCatalogSchema ∧
        validateEntries catalog [] [] (catalogEntries catalog) = .ok () ∧
        (∀ relation ∈ catalog.relations, validateRelation catalog relation = .ok ()) ∧
        (∀ action ∈ catalog.actions, validateAction formats catalog action = .ok ()) ∧
        ∀ object ∈ catalog.objects, validateObject object = .ok () := by
  unfold validateCatalog
  rw [guardThen_eq_ok, not_not]
  constructor
  · rintro ⟨schema, checks⟩
    obtain ⟨⟨⟩, entries, checks⟩ := bind_eq_ok.mp checks
    obtain ⟨⟨⟩, relations, checks⟩ := bind_eq_ok.mp checks
    obtain ⟨⟨⟩, actions, objects⟩ := bind_eq_ok.mp checks
    exact ⟨schema, entries, forM_eq_ok.mp relations, forM_eq_ok.mp actions, forM_eq_ok.mp objects⟩
  · rintro ⟨schema, entries, relations, actions, objects⟩
    exact ⟨schema, bind_eq_ok.mpr ⟨(), entries, bind_eq_ok.mpr ⟨(), forM_eq_ok.mpr relations,
      bind_eq_ok.mpr ⟨(), forM_eq_ok.mpr actions, forM_eq_ok.mpr objects⟩⟩⟩⟩

/-! ### Contracts in the evidence -/

@[simp] theorem actionToolName_append (name : String) :
    actionToolName ("action:" ++ name) = some name := by
  unfold actionToolName
  rw [String.toList_append, List.drop_left]
  simp

section contracts

variable {codec : OntologyCodec} {entries : List Json} {catalog : OntologyReleaseCatalogV1}

/-- The evidence has the contract of the action, and the catalog says the same of it. -/
structure ContractMatches (codec : OntologyCodec) (entries : List Json)
    (catalog : OntologyReleaseCatalogV1) (action : OntologySdkCatalogAction) (toolName : String)
    (entry written : Json) (toolSpec : OntologyOnboardingToolSpec) : Prop where
  named : actionToolName action.stableKey = some toolName
  found : contractEntry entries toolName = some entry
  snapshot : entry.get "tool_spec" = some written
  stated : (entry.get "contract_digest").bind Json.asStr = some action.contractDigest
  digest : codec.jsonSha256 written = action.contractDigest
  reads : OntologyOnboardingToolSpec.read codec.parseUuid written = some toolSpec
  target : ∃ object, catalog.objects.find? (fun object =>
      decide (object.stableKey = "object:" ++ toolSpec.targetObject)) = some object ∧
    action.targetObjectApiName = object.apiName
  executionMode : toolSpec.executionMode = action.executionMode
  inputSchema : toolSpec.inputSchema = action.inputSchema
  approvalRequired : toolSpec.approvalRequired = action.approvalRequired

theorem validateActionContractDigest_eq_ok {action : OntologySdkCatalogAction} :
    validateActionContractDigest codec entries catalog action = .ok () ↔
      ∃ toolName entry written toolSpec,
        ContractMatches codec entries catalog action toolName entry written toolSpec := by
  unfold validateActionContractDigest
  constructor
  · intro checks
    obtain ⟨toolName, named, checks⟩ := bind_eq_ok.mp checks
    obtain ⟨entry, found, checks⟩ := bind_eq_ok.mp checks
    obtain ⟨written, isWritten, checks⟩ := bind_eq_ok.mp checks
    obtain ⟨digest, stated, checks⟩ := bind_eq_ok.mp checks
    obtain ⟨sameDigest, checks⟩ := guardThen_eq_ok.mp checks
    obtain ⟨toolSpec, reads, checks⟩ := bind_eq_ok.mp checks
    obtain ⟨object, isTarget, checks⟩ := bind_eq_ok.mp checks
    obtain ⟨target, checks⟩ := guardThen_eq_ok.mp checks
    obtain ⟨executionMode, checks⟩ := guardThen_eq_ok.mp checks
    have metadata := guard_eq_ok.mp checks
    rw [not_or, not_not, not_not] at sameDigest metadata
    obtain ⟨written_digest, rfl⟩ := sameDigest
    exact ⟨toolName, entry, written, toolSpec, okOr_eq_ok.mp named, okOr_eq_ok.mp found,
      okOr_eq_ok.mp isWritten, okOr_eq_ok.mp stated, written_digest, okOr_eq_ok.mp reads,
      ⟨object, okOr_eq_ok.mp isTarget, not_not.mp target⟩, not_not.mp executionMode, metadata.1,
      metadata.2⟩
  · rintro ⟨toolName, entry, written, toolSpec, holds⟩
    obtain ⟨object, isTarget, target⟩ := holds.target
    refine bind_eq_ok.mpr ⟨toolName, okOr_eq_ok.mpr holds.named, bind_eq_ok.mpr ⟨entry,
      okOr_eq_ok.mpr holds.found, bind_eq_ok.mpr ⟨written, okOr_eq_ok.mpr holds.snapshot,
      bind_eq_ok.mpr ⟨action.contractDigest, okOr_eq_ok.mpr holds.stated,
      guardThen_eq_ok.mpr ⟨?digest, bind_eq_ok.mpr ⟨toolSpec, okOr_eq_ok.mpr holds.reads,
      bind_eq_ok.mpr ⟨object, okOr_eq_ok.mpr isTarget, guardThen_eq_ok.mpr ⟨not_not.mpr target,
      guardThen_eq_ok.mpr ⟨not_not.mpr holds.executionMode, guard_eq_ok.mpr ?metadata⟩⟩⟩⟩⟩⟩⟩⟩⟩
    case digest => exact not_or.mpr ⟨not_not.mpr holds.digest, not_not.mpr rfl⟩
    case metadata =>
      exact not_or.mpr ⟨not_not.mpr holds.inputSchema, not_not.mpr holds.approvalRequired⟩

/-- The actions of the catalog and the contracts of the evidence are the same. -/
theorem validateActionContractDigests_eq_ok :
    validateActionContractDigests codec entries catalog = .ok () ↔
      (entries.filterMap contractName).length = catalog.actions.length ∧
        (contractNames entries).length = catalog.actions.length ∧
        (∀ action ∈ catalog.actions,
          validateActionContractDigest codec entries catalog action = .ok ()) ∧
        ∀ action ∈ catalog.actions, ∃ toolName ∈ contractNames entries,
          actionToolName action.stableKey = some toolName := by
  unfold validateActionContractDigests contractNames
  have covered : (¬(catalog.actions.any fun action =>
        (actionToolName action.stableKey).all fun toolName =>
          decide (toolName ∉ entries.filterMap contractName)) = true) ↔
      ∀ action ∈ catalog.actions, ∃ toolName ∈ (entries.filterMap contractName).dedup,
        actionToolName action.stableKey = some toolName := by
    simp only [List.any_eq_true, not_exists, not_and, Option.all_eq_true, decide_eq_true_eq,
      not_forall, not_not, List.mem_dedup, exists_prop]
    exact forall₂_congr fun _ _ => exists_congr fun _ => and_comm
  rw [guardThen_eq_ok, not_or, not_not, not_not, and_assoc, ← covered]
  refine and_congr_right fun _ => and_congr_right fun _ => ?_
  rw [bind_eq_ok]
  constructor
  · rintro ⟨⟨⟩, matched, named⟩
    exact ⟨forM_eq_ok.mp matched, guard_eq_ok.mp named⟩
  · rintro ⟨matched, named⟩
    exact ⟨(), forM_eq_ok.mpr matched, guard_eq_ok.mpr named⟩

theorem ContractMatches.readContract {action : OntologySdkCatalogAction} {toolName : String}
    {entry written : Json} {toolSpec : OntologyOnboardingToolSpec}
    (holds : ContractMatches codec entries catalog action toolName entry written toolSpec) :
    readContract codec entry = .ok (toolSpec, action.contractDigest) := by
  unfold MandoForge.readContract
  refine bind_eq_ok.mpr ⟨written, okOr_eq_ok.mpr holds.snapshot, bind_eq_ok.mpr
    ⟨action.contractDigest, okOr_eq_ok.mpr holds.stated, guardThen_eq_ok.mpr
      ⟨not_not.mpr holds.digest, bind_eq_ok.mpr ⟨toolSpec, okOr_eq_ok.mpr holds.reads, rfl⟩⟩⟩⟩

/-- What the checks of a release's catalog establish of an action. -/
theorem contractMatches_of_accepted {release : OntologyReleaseRecord} {digest : String}
    (accepted : releaseCatalogFromEvidence codec release = .ok (catalog, digest))
    (isArray : release.evidenceRefs.asArray = some entries) {action : OntologySdkCatalogAction}
    (member : action ∈ catalog.actions) :
    ∃ entry written toolSpec,
      ContractMatches codec entries catalog action action.runtimeName entry written toolSpec := by
  obtain ⟨same, isSame, -, validates, digests⟩ := releaseCatalogFromEvidence_eq_ok accepted
  obtain rfl := Option.some.inj (isArray.symm.trans isSame)
  obtain ⟨-, -, -, actions, -⟩ := validateCatalog_eq_ok.mp validates
  obtain ⟨-, -, ⟨-, identified⟩, -⟩ := validateAction_eq_ok.mp (actions action member)
  obtain ⟨-, -, matched, -⟩ := validateActionContractDigests_eq_ok.mp digests
  obtain ⟨toolName, entry, written, toolSpec, holds⟩ :=
    validateActionContractDigest_eq_ok.mp (matched action member)
  have named := holds.named
  rw [identified, actionToolName_append] at named
  obtain rfl := Option.some.inj named
  exact ⟨entry, written, toolSpec, holds⟩

/-- The contracts of the evidence are those of the catalog's actions. -/
theorem mem_contractNames_iff {release : OntologyReleaseRecord} {digest : String}
    (accepted : releaseCatalogFromEvidence codec release = .ok (catalog, digest))
    (isArray : release.evidenceRefs.asArray = some entries) {toolName : String} :
    toolName ∈ contractNames entries ↔
      ∃ action ∈ catalog.actions, action.runtimeName = toolName := by
  obtain ⟨same, isSame, -, validates, digests⟩ := releaseCatalogFromEvidence_eq_ok accepted
  obtain rfl := Option.some.inj (isArray.symm.trans isSame)
  obtain ⟨-, -, -, actions, -⟩ := validateCatalog_eq_ok.mp validates
  obtain ⟨-, sameLength, -, covered⟩ := validateActionContractDigests_eq_ok.mp digests
  have identified : ∀ action ∈ catalog.actions,
      action.stableKey = "action:" ++ action.runtimeName := by
    intro action member
    obtain ⟨-, -, ⟨-, isIdentified⟩, -⟩ := validateAction_eq_ok.mp (actions action member)
    exact isIdentified
  have distinct : (catalog.actions.map OntologySdkCatalogAction.runtimeName).Nodup := by
    have keys := (validateCatalog_distinct validates).actions
    rw [List.map_congr_left identified] at keys
    exact List.Nodup.of_map ("action:" ++ ·) (by rwa [List.map_map])
  have within : catalog.actions.map OntologySdkCatalogAction.runtimeName ⊆
      contractNames entries := by
    intro runtimeName isName
    obtain ⟨action, member, rfl⟩ := List.mem_map.mp isName
    obtain ⟨covering, isCovered, named⟩ := covered action member
    rw [identified action member, actionToolName_append] at named
    exact Option.some.inj named ▸ isCovered
  -- As many names as actions, and every action has one.
  have same : (catalog.actions.map OntologySdkCatalogAction.runtimeName).Perm
      (contractNames entries) :=
    (List.subperm_of_subset distinct within).perm_of_length_le
      (by rw [List.length_map, sameLength])
  rw [← same.mem_iff, List.mem_map]

end contracts

end MandoForge
