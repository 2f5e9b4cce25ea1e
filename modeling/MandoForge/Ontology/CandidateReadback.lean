/-
Module: MandoForge.Ontology.CandidateReadback
Purpose: The evidence of a candidate gives back the catalog that was built, with its digest,
  whatever part of the actions it inherits: the contracts in the evidence are those of the
  catalog's actions, made by the run or copied from the parent.
Trusted boundary: the reader of identifiers reads back what is printed of one.
Main exports: InheritedContracts, candidate_catalog_reads_back
-/
import MandoForge.Ontology.FaithfulInheritance

namespace MandoForge

open Foundation

/-! ### Entries of the evidence -/

theorem get_markInherited {parentReleaseId : Uuid} {entry : Json} {key : String}
    (differs : key ≠ "inherited_from_release_id") :
    (markInherited parentReleaseId entry).get key = entry.get key := by
  cases entry with
  | object fields => exact (Json.getField_insertField ..).trans (if_neg differs.symm)
  | null => rfl
  | bool value => rfl
  | number value => rfl
  | string value => rfl
  | array values => rfl

@[simp] theorem contractName_markInherited {parentReleaseId : Uuid} {entry : Json} :
    contractName (markInherited parentReleaseId entry) = contractName entry := by
  unfold contractName Json.index
  rw [get_markInherited (by decide)]

@[simp] theorem isCatalogEntry_markInherited {parentReleaseId : Uuid} {entry : Json} :
    isCatalogEntry (markInherited parentReleaseId entry) = isCatalogEntry entry := by
  unfold isCatalogEntry
  rw [get_markInherited (by decide)]

theorem contractEntry_eq_some {entries : List Json} {toolName : String} {entry : Json}
    (found : contractEntry entries toolName = some entry) :
    entry ∈ entries ∧ contractName entry = some toolName :=
  ⟨List.mem_of_find?_eq_some found, by simpa using List.find?_some found⟩

theorem contractEntry_eq_none {entries : List Json} {toolName : String} :
    contractEntry entries toolName = none ↔ toolName ∉ entries.filterMap contractName := by
  unfold contractEntry
  rw [List.find?_eq_none]
  simp only [decide_eq_true_eq, List.mem_filterMap, not_exists, not_and]

theorem contractEntry_append {entries more : List Json} {toolName : String} :
    contractEntry (entries ++ more) toolName =
      (contractEntry entries toolName).or (contractEntry more toolName) :=
  List.find?_append

/-- Of entries with distinct names the one with a name is found under it. -/
theorem contractEntry_of_mem {entries : List Json}
    (distinct : (entries.filterMap contractName).Nodup) {entry : Json} (member : entry ∈ entries)
    {toolName : String} (named : contractName entry = some toolName) :
    contractEntry entries toolName = some entry := by
  induction entries with
  | nil => exact absurd member List.not_mem_nil
  | cons first entries inductionHypothesis =>
      by_cases isFirst : contractName first = some toolName
      · have same : entry = first := by
          rcases List.mem_cons.mp member with same | isLater
          · exact same
          · rw [List.filterMap_cons, isFirst] at distinct
            exact absurd (List.mem_filterMap.mpr ⟨entry, isLater, named⟩)
              (List.nodup_cons.mp distinct).1
        rw [same]
        exact List.find?_cons_of_pos (decide_eq_true isFirst)
      · have isLater : entry ∈ entries := by
          rcases List.mem_cons.mp member with rfl | isLater
          · exact absurd named isFirst
          · exact isLater
        have rest : (entries.filterMap contractName).Nodup := by
          rw [List.filterMap_cons] at distinct
          split at distinct
          · exact distinct
          · exact (List.nodup_cons.mp distinct).2
        exact (List.find?_cons_of_neg (by simpa using isFirst)).trans
          (inductionHypothesis rest isLater)

/-! ### The loop over the actions -/

/-- The entries are the own ones, and copies of the parent's where there is no own one. -/
structure InheritedContracts (parentReleaseId : Uuid) (parentEvidence own entries : List Json)
    (names : String → Prop) : Prop where
  keepsOwn : ∀ toolName entry, contractEntry own toolName = some entry →
    contractEntry entries toolName = some entry
  came : ∀ toolName entry, contractEntry entries toolName = some entry →
    contractEntry own toolName = some entry ∨
      (contractEntry own toolName = none ∧ names toolName ∧
        ∃ inherited, contractEntry parentEvidence toolName = some inherited ∧
          entry = markInherited parentReleaseId inherited)
  distinct : (entries.filterMap contractName).Nodup
  entries : ∀ entry ∈ entries, entry ∈ own ∨ ∃ toolName inherited, names toolName ∧
    contractEntry own toolName = none ∧ contractEntry parentEvidence toolName = some inherited ∧
      entry = markInherited parentReleaseId inherited

section inherits

variable {parentReleaseId : Uuid} {parentEvidence own entries : List Json} {names : String → Prop}

theorem InheritedContracts.start (distinct : (own.filterMap contractName).Nodup) :
    InheritedContracts parentReleaseId parentEvidence own own names where
  keepsOwn _ _ found := found
  came _ _ found := .inl found
  distinct := distinct
  entries _ member := .inl member

theorem InheritedContracts.step
    (inherits : InheritedContracts parentReleaseId parentEvidence own entries names)
    {action : OntologySdkCatalogAction} (named : names action.runtimeName) {after : List Json}
    (steps : inheritContract parentReleaseId parentEvidence entries action = .ok after) :
    InheritedContracts parentReleaseId parentEvidence own after names := by
  unfold inheritContract at steps
  split at steps
  · exact Except.ok.inj steps ▸ inherits
  · rename_i missing
    have isMissing : contractEntry entries action.runtimeName = none := by simpa using missing
    obtain ⟨inherited, found, returned⟩ := bind_eq_ok.mp steps
    cases returned
    have isInherited := okOr_eq_ok.mp found
    have isNamed := (contractEntry_eq_some isInherited).2
    have notOwn : contractEntry own action.runtimeName = none := by
      cases isOwn : contractEntry own action.runtimeName with
      | none => rfl
      | some other =>
          rw [inherits.keepsOwn action.runtimeName other isOwn] at isMissing
          cases isMissing
    have newName : contractName (markInherited parentReleaseId inherited) =
        some action.runtimeName := contractName_markInherited.trans isNamed
    have newEntry : ∀ toolName, contractEntry [markInherited parentReleaseId inherited] toolName =
        if action.runtimeName = toolName then some (markInherited parentReleaseId inherited)
        else none := by
      intro toolName
      unfold contractEntry
      rw [List.find?_singleton, newName]
      simp only [Option.some.injEq, decide_eq_true_eq]
    refine ⟨?keepsOwn, ?came, ?distinct, ?entries⟩
    case keepsOwn =>
      intro toolName entry isOwn
      rw [contractEntry_append, inherits.keepsOwn toolName entry isOwn]
      rfl
    case came =>
      intro toolName entry isEntry
      rw [contractEntry_append] at isEntry
      cases earlier : contractEntry entries toolName with
      | some old =>
          rw [earlier, Option.some_or] at isEntry
          exact inherits.came toolName entry (earlier.trans isEntry)
      | none =>
          rw [earlier, Option.none_or, newEntry] at isEntry
          split at isEntry
          · rename_i sameName
            subst sameName
            exact .inr ⟨notOwn, named, inherited, isInherited, (Option.some.inj isEntry).symm⟩
          · cases isEntry
    case distinct =>
      rw [List.filterMap_append, List.filterMap_cons, newName, List.filterMap_nil]
      exact List.nodup_append'.mpr ⟨inherits.distinct, List.nodup_singleton _,
        List.disjoint_singleton.mpr (contractEntry_eq_none.mp isMissing)⟩
    case entries =>
      intro entry member
      rcases List.mem_append.mp member with isOld | isNew
      · exact inherits.entries entry isOld
      · exact .inr ⟨action.runtimeName, inherited, named, notOwn, isInherited,
          List.mem_singleton.mp isNew⟩

theorem InheritedContracts.fold {actions : List OntologySdkCatalogAction} {after : List Json}
    (inherits : InheritedContracts parentReleaseId parentEvidence own entries names)
    (named : ∀ action ∈ actions, names action.runtimeName)
    (folds : actions.foldlM (inheritContract parentReleaseId parentEvidence) entries = .ok after) :
    InheritedContracts parentReleaseId parentEvidence own after names := by
  induction actions generalizing entries with
  | nil => exact Except.ok.inj folds ▸ inherits
  | cons action actions inductionHypothesis =>
      rw [List.foldlM_cons] at folds
      obtain ⟨next, steps, folds⟩ := bind_eq_ok.mp folds
      exact inductionHypothesis (inherits.step (named action List.mem_cons_self) steps)
        (fun other member => named other (List.mem_cons_of_mem _ member)) folds

/-- After the loop every action of the catalog has its contract. -/
theorem inheritContract_covers {actions : List OntologySdkCatalogAction} {after : List Json}
    (folds : actions.foldlM (inheritContract parentReleaseId parentEvidence) entries = .ok after) :
    (∀ toolName, (contractEntry entries toolName).isSome = true →
        (contractEntry after toolName).isSome = true) ∧
      ∀ action ∈ actions, (contractEntry after action.runtimeName).isSome = true := by
  induction actions generalizing entries with
  | nil =>
      cases folds
      exact ⟨fun _ isSome => isSome, fun _ member => absurd member List.not_mem_nil⟩
  | cons action actions inductionHypothesis =>
      rw [List.foldlM_cons] at folds
      obtain ⟨next, steps, folds⟩ := bind_eq_ok.mp folds
      obtain ⟨keeps, covers⟩ := inductionHypothesis folds
      unfold inheritContract at steps
      split at steps
      · rename_i present
        cases steps
        refine ⟨keeps, fun other member => ?_⟩
        rcases List.mem_cons.mp member with rfl | isLater
        · exact keeps _ present
        · exact covers other isLater
      · obtain ⟨inherited, found, returned⟩ := bind_eq_ok.mp steps
        cases returned
        refine ⟨fun toolName isSome => keeps toolName ?_, fun other member => ?_⟩
        · rw [contractEntry_append, Option.isSome_or, isSome, Bool.true_or]
        · rcases List.mem_cons.mp member with rfl | isLater
          · apply keeps
            have isNamed := (contractEntry_eq_some (okOr_eq_ok.mp found)).2
            have isFound : contractEntry [markInherited parentReleaseId inherited]
                other.runtimeName = some (markInherited parentReleaseId inherited) :=
              List.find?_cons_of_pos (decide_eq_true (contractName_markInherited.trans isNamed))
            rw [contractEntry_append, isFound, Option.isSome_or, Option.isSome_some, Bool.or_true]
          · exact covers other isLater

end inherits

/-! ### The entries of the run's own proposals -/

section own

variable {codec : OntologyCodec} {runId : Uuid}

/-- What the entry of a proposal holds. -/
theorem proposalEvidence_eq_ok {proposal : OntologyOnboardingProposalDraft} {entry : Json}
    (made : proposalEvidence codec runId proposal = .ok entry) :
    isCatalogEntry entry = false ∧
      (proposal.proposalType ≠ "action" → contractName entry = none) ∧
      (proposal.proposalType = "action" → ∃ toolSpec,
        ontologyToolSpecFromActionProposal runId proposal = .ok toolSpec ∧
          contractName entry = some toolSpec.name ∧
          entry.get "tool_spec" = some toolSpec.write ∧
          (entry.get "contract_digest").bind Json.asStr =
            some (codec.jsonSha256 toolSpec.write)) := by
  have isCatalog : ∀ fields : List (String × Json), "schema" ∉ fields.map Prod.fst →
      isCatalogEntry (.ofFields fields) = false := by
    intro fields notNamed
    rw [isCatalogEntry, Json.get_ofFields_of_notMem notNamed]
    rfl
  unfold proposalEvidence at made
  split at made
  · rename_i isAction
    obtain ⟨toolSpec, compiled, returned⟩ := bind_eq_ok.mp made
    cases returned
    refine ⟨isCatalog _ (by simp), fun differs => absurd isAction differs, fun _ => ?_⟩
    have written : (Json.ofFields ([("proposal_id", Json.ofUuid proposal.id),
        ("proposal_type", .string proposal.proposalType),
        ("review_status", .string proposal.reviewStatus)] ++
        [("contract_digest", .string (codec.jsonSha256 toolSpec.write)),
          ("tool_spec", toolSpec.write)])).get "tool_spec" = some toolSpec.write :=
      Json.get_ofFields (by simp) (by simp)
    have digest : (Json.ofFields ([("proposal_id", Json.ofUuid proposal.id),
        ("proposal_type", .string proposal.proposalType),
        ("review_status", .string proposal.reviewStatus)] ++
        [("contract_digest", .string (codec.jsonSha256 toolSpec.write)),
          ("tool_spec", toolSpec.write)])).get "contract_digest" =
        some (.string (codec.jsonSha256 toolSpec.write)) :=
      Json.get_ofFields (by simp) (by simp)
    have isName : toolSpec.write.get "name" = some (.string toolSpec.name) :=
      @OntologyOnboardingToolSpec.get_write toolSpec
        { name := "name", value := .string toolSpec.name }
        (by simp [OntologyOnboardingToolSpec.recordFields])
    refine ⟨toolSpec, compiled, ?_, written, by rw [digest]; rfl⟩
    rw [contractName, Json.index, Json.index, written, Option.getD_some, isName]
    rfl
  · rename_i notAction
    cases made
    refine ⟨isCatalog _ (by simp), fun _ => ?_, fun isAction => absurd isAction notAction⟩
    rw [contractName, Json.index, Json.index, Json.get_ofFields_of_notMem (by simp)]
    rfl

/-- The action of a proposal has the name and the digest of its contract. -/
theorem proposedAction_eq_ok {parent : Option OntologyReleaseCatalogV1}
    {names : List (String × String)} {proposal : OntologyOnboardingProposalDraft}
    {action : OntologySdkCatalogAction}
    (made : proposedAction parent codec names proposal = .ok action) :
    ∃ toolSpec, ontologyToolSpecFromActionProposal proposal.runId proposal = .ok toolSpec ∧
      action.stableKey = "action:" ++ toolSpec.name ∧ action.runtimeName = toolSpec.name ∧
      action.contractDigest = codec.jsonSha256 toolSpec.write ∧
      action.executionMode = toolSpec.executionMode ∧
      action.inputSchema = toolSpec.inputSchema ∧
      action.approvalRequired = toolSpec.approvalRequired ∧
      names.lookup toolSpec.targetObject = some action.targetObjectApiName := by
  obtain ⟨toolSpec, compiled, made⟩ := bind_eq_ok.mp made
  obtain ⟨apiName, _, made⟩ := bind_eq_ok.mp made
  obtain ⟨targetObjectApiName, isTarget, returned⟩ := bind_eq_ok.mp made
  cases returned
  exact ⟨toolSpec, compiled, rfl, rfl, rfl, rfl, rfl, rfl, okOr_eq_ok.mp isTarget⟩

/-- The contracts among the entries of the proposals are those of their actions. -/
theorem ownContractNames {parent : Option OntologyReleaseCatalogV1}
    {names : List (String × String)} {proposals : List OntologyOnboardingProposalDraft}
    (ownRun : ∀ proposal ∈ proposals, proposal.runId = runId) {own : List Json}
    {actions : List OntologySdkCatalogAction}
    (entriesMade : proposals.mapM (proposalEvidence codec runId) = .ok own)
    (actionsMade : (proposalsOf "action" proposals).mapM (proposedAction parent codec names) =
      .ok actions) :
    own.filterMap contractName = actions.map OntologySdkCatalogAction.runtimeName := by
  induction proposals generalizing own actions with
  | nil =>
      cases entriesMade
      cases actionsMade
      rfl
  | cons proposal proposals inductionHypothesis =>
      rw [List.mapM_cons] at entriesMade
      obtain ⟨entry, isEntry, entriesMade⟩ := bind_eq_ok.mp entriesMade
      obtain ⟨entries, restMade, returned⟩ := bind_eq_ok.mp entriesMade
      cases returned
      have restOwn : ∀ other ∈ proposals, other.runId = runId :=
        fun other member => ownRun other (List.mem_cons_of_mem _ member)
      obtain ⟨-, unnamed, named⟩ := proposalEvidence_eq_ok isEntry
      unfold proposalsOf at actionsMade
      rw [List.filter_cons] at actionsMade
      split at actionsMade
      · rename_i isAction
        rw [List.mapM_cons] at actionsMade
        obtain ⟨action, isMade, actionsMade⟩ := bind_eq_ok.mp actionsMade
        obtain ⟨rest, laterMade, returned⟩ := bind_eq_ok.mp actionsMade
        cases returned
        obtain ⟨toolSpec, compiled, isName, -, -⟩ := named (of_decide_eq_true isAction)
        obtain ⟨same, isCompiled, -, runtimeName, -⟩ := proposedAction_eq_ok isMade
        rw [ownRun proposal List.mem_cons_self, compiled] at isCompiled
        cases isCompiled
        rw [List.filterMap_cons, isName, List.map_cons, runtimeName,
          inductionHypothesis restOwn restMade laterMade]
      · rename_i notAction
        have isUnnamed := unnamed fun isAction => notAction (decide_eq_true isAction)
        rw [List.filterMap_cons, isUnnamed]
        exact inductionHypothesis restOwn restMade actionsMade

end own

/-! ### The evidence as a whole -/

/-- The only snapshot of the evidence comes last, and is read back. -/
theorem catalogSnapshot_append {entries : List Json}
    (noCatalog : ∀ entry ∈ entries, isCatalogEntry entry = false)
    (catalog : OntologyReleaseCatalogV1) (digest : String) :
    catalogSnapshot (entries ++ [catalogEvidence catalog digest]) = .ok (catalog, some digest) := by
  have isEntry : isCatalogEntry (catalogEvidence catalog digest) = true := by
    rw [isCatalogEntry, catalogEvidence,
      @Json.get_ofFields _ _ (.string ontologyReleaseCatalogSchema) (by simp) (by simp)]
    exact decide_eq_true rfl
  have filtered : (entries ++ [catalogEvidence catalog digest]).filter isCatalogEntry =
      [catalogEvidence catalog digest] := by
    rw [List.filter_append, List.filter_singleton, isEntry, cond_true,
      List.filter_eq_nil_iff.mpr fun entry member => by simp [noCatalog entry member],
      List.nil_append]
  have snapshot : (catalogEvidence catalog digest).get "snapshot" = some catalog.write :=
    Json.get_ofFields (by simp) (by simp)
  have stated : (catalogEvidence catalog digest).get "digest" = some (.string digest) :=
    Json.get_ofFields (by simp) (by simp)
  unfold catalogSnapshot
  rw [filtered]
  refine bind_eq_ok.mpr ⟨catalog.write, okOr_eq_ok.mpr snapshot, bind_eq_ok.mpr ⟨catalog,
    okOr_eq_ok.mpr catalog.read_write, ?_⟩⟩
  rw [stated]
  rfl

/-- What the reader asks for is enough. -/
theorem releaseCatalogFromEvidence_of_checks {codec : OntologyCodec}
    {release : OntologyReleaseRecord} {entries : List Json} {catalog : OntologyReleaseCatalogV1}
    (isArray : release.evidenceRefs.asArray = some entries)
    (snapshot : catalogSnapshot entries =
      .ok (catalog, some (canonicalJsonSha256 codec catalog.write)))
    (domainScope : catalog.domainScope = release.domainScope)
    (objects : catalog.objects.length = release.objectCount)
    (relations : catalog.relations.length = release.relationCount)
    (actions : catalog.actions.length = release.actionCount)
    (valid : validateCatalog codec.formats catalog = .ok ())
    (digests : validateActionContractDigests codec entries catalog = .ok ()) :
    releaseCatalogFromEvidence codec release =
      .ok (catalog, canonicalJsonSha256 codec catalog.write) := by
  refine bind_eq_ok.mpr ⟨entries, okOr_eq_ok.mpr isArray, bind_eq_ok.mpr ⟨_, snapshot,
    guardThen_eq_ok.mpr ⟨not_not.mpr domainScope, guardThen_eq_ok.mpr ⟨?_, bind_eq_ok.mpr
      ⟨_, okOr_eq_ok.mpr rfl, guardThen_eq_ok.mpr ⟨not_not.mpr rfl, bind_eq_ok.mpr
        ⟨(), valid, bind_eq_ok.mpr ⟨(), digests, rfl⟩⟩⟩⟩⟩⟩⟩⟩
  exact not_or.mpr ⟨not_not.mpr objects, not_or.mpr ⟨not_not.mpr relations, not_not.mpr actions⟩⟩

/-- The release has a snapshot of a catalog. -/
def hasCatalog (release : OntologyReleaseRecord) : Bool :=
  release.evidenceRefs.asArray.any fun entries => entries.any isCatalogEntry

/-- The release has a catalog that is accepted, and no contract is taken for a snapshot. -/
structure ReadsBack (codec : OntologyCodec) (release : OntologyReleaseRecord) : Prop where
  accepted : ∃ found, releaseCatalogFromEvidence codec release = .ok found
  contracts : ∀ entries, release.evidenceRefs.asArray = some entries →
    ∀ entry ∈ entries, contractName entry ≠ none → isCatalogEntry entry = false

section candidate

variable {codec : OntologyCodec} {request : CandidateRequest}
  {parent : Option OntologyReleaseRecord} {inherited : Option OntologyReleaseCatalogV1}
  {domainScope : String} {catalog : OntologyReleaseCatalogV1}
  {objects : List OntologySdkCatalogObject} {relations : List OntologySdkCatalogRelation}
  {actions : List OntologySdkCatalogAction} {names : List (String × String)}
  {own entries : List Json}

/-- The names of a catalog's actions. -/
def ActionNamed (catalog : OntologyReleaseCatalogV1) (toolName : String) : Prop :=
  ∃ action ∈ catalog.actions, action.runtimeName = toolName

/-- What the evidence of a candidate has besides the snapshot. -/
theorem inheritParentActionContractEvidence_eq_ok
    (distinct : (own.filterMap contractName).Nodup)
    (inherits : inheritParentActionContractEvidence parent catalog own = .ok entries) :
    (parent = none ∧ entries = own) ∨ ∃ parentRelease parentEvidence,
      parent = some parentRelease ∧ parentRelease.evidenceRefs.asArray = some parentEvidence ∧
        InheritedContracts parentRelease.id parentEvidence own entries (ActionNamed catalog) ∧
        ∀ action ∈ catalog.actions, (contractEntry entries action.runtimeName).isSome = true := by
  cases parent with
  | none => exact .inl ⟨rfl, (Except.ok.inj inherits).symm⟩
  | some parentRelease =>
      obtain ⟨parentEvidence, isArray, folds⟩ := bind_eq_ok.mp inherits
      refine .inr ⟨parentRelease, parentEvidence, rfl, okOr_eq_ok.mp isArray, ?_,
        (inheritContract_covers folds).2⟩
      exact (InheritedContracts.start distinct).fold
        (fun action member => ⟨action, member, rfl⟩) folds

/-- An own action matches the contract of its proposal. -/
theorem CatalogBuilt.own_matches
    (readsUuids : ∀ id : Uuid, codec.parseUuid (Nat.repr id) = some id)
    (ownRun : ∀ proposal ∈ request.proposals, proposal.runId = request.runId)
    (built : CatalogBuilt codec domainScope request.proposals inherited catalog objects relations
      actions names)
    (fromParent : ∀ parent, inherited = some parent →
      validateCatalog codec.formats parent = .ok () ∧ CatalogExtends parent catalog)
    (ownMade : request.proposals.mapM (proposalEvidence codec request.runId) = .ok own)
    (keepsOwn : ∀ toolName entry, contractEntry own toolName = some entry →
      contractEntry entries toolName = some entry)
    {action : OntologySdkCatalogAction} (isOwn : action ∈ actions) :
    ∃ entry written toolSpec, ContractMatches codec entries catalog action action.runtimeName entry
      written toolSpec := by
  obtain ⟨proposal, isProposal, made⟩ := mapM_item_of_mem built.actionsMade isOwn
  obtain ⟨member, isAction⟩ := List.mem_filter.mp isProposal
  obtain ⟨toolSpec, compiled, stableKey, runtimeName, digest, executionMode, inputSchema,
    approvalRequired, isTarget⟩ := proposedAction_eq_ok made
  obtain ⟨entry, isEntry, entryMade⟩ := mapM_result_of_mem ownMade member
  obtain ⟨same, isCompiled, isName, written, stated⟩ :=
    (proposalEvidence_eq_ok entryMade).2.2 (of_decide_eq_true isAction)
  rw [ownRun proposal member] at compiled
  obtain rfl := Except.ok.inj (compiled.symm.trans isCompiled)
  have ownNames := ownContractNames ownRun ownMade built.actionsMade
  have distinct : (own.filterMap contractName).Nodup := by
    rw [ownNames]
    have keys := built.actionsDistinct
    have identified : ∀ other ∈ actions, other.stableKey = "action:" ++ other.runtimeName := by
      intro other isOther
      obtain ⟨_, _, otherMade⟩ := mapM_item_of_mem built.actionsMade isOther
      obtain ⟨_, _, key, name, -⟩ := proposedAction_eq_ok otherMade
      rw [key, name]
    rw [List.map_congr_left identified] at keys
    exact List.Nodup.of_map ("action:" ++ ·) (by rwa [List.map_map])
  have found := keepsOwn toolSpec.name entry (contractEntry_of_mem distinct isEntry isName)
  obtain ⟨target, isObject, targetType, targetName⟩ := built.object_of_name fromParent isTarget
  refine ⟨entry, toolSpec.write, toolSpec, ?_⟩
  constructor
  case named => rw [stableKey, runtimeName, actionToolName_append]
  case found => rw [runtimeName, found]
  case snapshot => exact written
  case stated => rw [stated, digest]
  case digest => exact digest.symm
  case reads => exact toolSpec.read_write readsUuids
  case target =>
    refine ⟨target, find?_row_of_distinct (validateCatalog_distinct built.valid).objects isObject ?_,
      targetName.symm⟩
    rw [(object_identified built.valid isObject).stableKey, targetType]
  case executionMode => exact executionMode.symm
  case inputSchema => exact inputSchema.symm
  case approvalRequired => exact approvalRequired.symm

/-- An inherited action matches the copy of the parent's contract. -/
theorem ContractMatches.copied {parentRelease : OntologyReleaseRecord}
    {parentCatalog : OntologyReleaseCatalogV1} {parentEvidence : List Json}
    {action : OntologySdkCatalogAction} {entry written : Json}
    {toolSpec : OntologyOnboardingToolSpec}
    (holds : ContractMatches codec parentEvidence parentCatalog action action.runtimeName entry
      written toolSpec)
    (valid : validateCatalog codec.formats catalog = .ok ())
    (extended : CatalogExtends parentCatalog catalog)
    (found : contractEntry entries action.runtimeName =
      some (markInherited parentRelease.id entry)) :
    ContractMatches codec entries catalog action action.runtimeName
      (markInherited parentRelease.id entry) written toolSpec where
  named := holds.named
  found := found
  snapshot := (get_markInherited (by decide)).trans holds.snapshot
  stated := by
    rw [get_markInherited (by decide)]
    exact holds.stated
  digest := holds.digest
  reads := holds.reads
  target := by
    obtain ⟨object, isTarget, targetName⟩ := holds.target
    have key : object.stableKey = "object:" ++ toolSpec.targetObject := by
      simpa using List.find?_some isTarget
    obtain ⟨kept, isKept, sameKey, sameName⟩ :=
      extended.object (List.mem_of_find?_eq_some isTarget)
    exact ⟨kept, find?_row_of_distinct (validateCatalog_distinct valid).objects isKept
      (sameKey.trans key), targetName.trans sameName.symm⟩
  executionMode := holds.executionMode
  inputSchema := holds.inputSchema
  approvalRequired := holds.approvalRequired

/-- When the names of the contracts are those of the actions, and each action matches, the
checks of the contracts pass. -/
theorem validateActionContractDigests_of_matches
    (valid : validateCatalog codec.formats catalog = .ok ())
    (distinct : (entries.filterMap contractName).Nodup)
    (sameNames : ∀ toolName, toolName ∈ entries.filterMap contractName ↔
      ActionNamed catalog toolName)
    (matched : ∀ action ∈ catalog.actions, ∃ entry written toolSpec,
      ContractMatches codec entries catalog action action.runtimeName entry written toolSpec) :
    validateActionContractDigests codec entries catalog = .ok () := by
  obtain ⟨-, -, -, actions, -⟩ := validateCatalog_eq_ok.mp valid
  have identified : ∀ action ∈ catalog.actions,
      action.stableKey = "action:" ++ action.runtimeName := by
    intro action member
    obtain ⟨-, -, ⟨-, isIdentified⟩, -⟩ := validateAction_eq_ok.mp (actions action member)
    exact isIdentified
  have namesDistinct : (catalog.actions.map OntologySdkCatalogAction.runtimeName).Nodup := by
    have keys := (validateCatalog_distinct valid).actions
    rw [List.map_congr_left identified] at keys
    exact List.Nodup.of_map ("action:" ++ ·) (by rwa [List.map_map])
  have same : (entries.filterMap contractName).Perm
      (catalog.actions.map OntologySdkCatalogAction.runtimeName) := by
    rw [List.perm_ext_iff_of_nodup distinct namesDistinct]
    intro toolName
    rw [sameNames, List.mem_map]
    rfl
  have sameLength : (entries.filterMap contractName).length = catalog.actions.length := by
    rw [same.length_eq, List.length_map]
  refine validateActionContractDigests_eq_ok.mpr ⟨sameLength, ?_, ?_, ?_⟩
  · rw [contractNames, distinct.dedup, sameLength]
  · intro action member
    obtain ⟨entry, written, toolSpec, holds⟩ := matched action member
    exact validateActionContractDigest_eq_ok.mpr ⟨_, entry, written, toolSpec, holds⟩
  · intro action member
    refine ⟨action.runtimeName, ?_, ?_⟩
    · rw [contractNames, List.mem_dedup, sameNames]
      exact ⟨action, member, rfl⟩
    · rw [identified action member, actionToolName_append]

/-- An inherited catalog is that of a parent whose catalog is accepted. -/
theorem parentCatalog_eq_ok {found : OntologyReleaseCatalogV1}
    (isInherited : parentCatalog codec parent = .ok (some found)) :
    ∃ parentRelease digest, parent = some parentRelease ∧ hasCatalog parentRelease = true ∧
      releaseCatalogFromEvidence codec parentRelease = .ok (found, digest) := by
  unfold parentCatalog at isInherited
  cases parent with
  | none => cases isInherited
  | some parentRelease =>
      dsimp only at isInherited
      split at isInherited
      · rename_i has
        cases accepted : releaseCatalogFromEvidence codec parentRelease with
        | error error =>
            rw [accepted] at isInherited
            cases isInherited
        | ok pair =>
            obtain ⟨catalog, digest⟩ := pair
            rw [accepted] at isInherited
            cases isInherited
            exact ⟨parentRelease, digest, rfl, has, accepted⟩
      · cases isInherited

/-- The contracts of a candidate are those of the catalog's actions. -/
structure ContractsComplete (codec : OntologyCodec) (catalog : OntologyReleaseCatalogV1)
    (entries : List Json) : Prop where
  distinct : (entries.filterMap contractName).Nodup
  named : ∀ toolName, toolName ∈ entries.filterMap contractName ↔ ActionNamed catalog toolName
  matched : ∀ action ∈ catalog.actions, ∃ entry written toolSpec,
    ContractMatches codec entries catalog action action.runtimeName entry written toolSpec
  noCatalog : ∀ entry ∈ entries, isCatalogEntry entry = false

/-- The evidence that a candidate collects is complete: own actions have the contracts of
their proposals, and the others copies of the parent's. -/
theorem CatalogBuilt.contractsComplete
    (readsUuids : ∀ id : Uuid, codec.parseUuid (Nat.repr id) = some id)
    (ownRun : ∀ proposal ∈ request.proposals, proposal.runId = request.runId)
    (parentReads : ∀ parentRelease, parent = some parentRelease →
      hasCatalog parentRelease = true → ReadsBack codec parentRelease)
    (isInherited : parentCatalog codec parent = .ok inherited)
    (built : CatalogBuilt codec domainScope request.proposals inherited catalog objects relations
      actions names)
    (fromParent : ∀ parent, inherited = some parent →
      validateCatalog codec.formats parent = .ok () ∧ CatalogExtends parent catalog)
    (ownMade : request.proposals.mapM (proposalEvidence codec request.runId) = .ok own)
    (inherits : inheritParentActionContractEvidence parent catalog own = .ok entries) :
    ContractsComplete codec catalog entries := by
  have ownNames := ownContractNames ownRun ownMade built.actionsMade
  have identified : ∀ action ∈ actions, action.stableKey = "action:" ++ action.runtimeName := by
    intro action isOwn
    obtain ⟨_, _, made⟩ := mapM_item_of_mem built.actionsMade isOwn
    obtain ⟨_, _, key, name, -⟩ := proposedAction_eq_ok made
    rw [key, name]
  have distinct : (own.filterMap contractName).Nodup := by
    rw [ownNames]
    have keys := built.actionsDistinct
    rw [List.map_congr_left identified] at keys
    exact List.Nodup.of_map ("action:" ++ ·) (by rwa [List.map_map])
  have ownNamed : ∀ toolName entry, contractEntry own toolName = some entry →
      ∃ action ∈ actions, action.runtimeName = toolName := by
    intro toolName entry found
    obtain ⟨member, isName⟩ := contractEntry_eq_some found
    have isOwnName := List.mem_filterMap.mpr ⟨entry, member, isName⟩
    rw [ownNames] at isOwnName
    exact List.mem_map.mp isOwnName
  have ownFound : ∀ action ∈ actions, (contractEntry own action.runtimeName).isSome = true := by
    intro action isOwn
    rw [Option.isSome_iff_ne_none, Ne, contractEntry_eq_none, not_not, ownNames]
    exact List.mem_map_of_mem isOwn
  have noOwnCatalog : ∀ entry ∈ own, isCatalogEntry entry = false := by
    intro entry isOwn
    obtain ⟨proposal, _, made⟩ := mapM_item_of_mem ownMade isOwn
    exact (proposalEvidence_eq_ok made).1
  -- An action that the run did not propose is one of the parent's.
  have notOwn : ∀ action ∈ catalog.actions, contractEntry own action.runtimeName = none →
      ∃ found, inherited = some found ∧ action ∈ found.actions := by
    intro action member missing
    rcases (built.memActions action).mp member with isOwn | ⟨-, isOld⟩
    · have found := ownFound action isOwn
      rw [missing] at found
      cases found
    · cases inherited with
      | none => exact absurd isOld List.not_mem_nil
      | some found => exact ⟨found, rfl, isOld⟩
  have summary : ∃ parentReleaseId parentEvidence,
      InheritedContracts parentReleaseId parentEvidence own entries (ActionNamed catalog) ∧
        (∀ action ∈ catalog.actions, (contractEntry entries action.runtimeName).isSome = true) ∧
        ∀ found, inherited = some found → ∃ parentRelease digest, parent = some parentRelease ∧
          parentRelease.evidenceRefs.asArray = some parentEvidence ∧
          hasCatalog parentRelease = true ∧ parentReleaseId = parentRelease.id ∧
          releaseCatalogFromEvidence codec parentRelease = .ok (found, digest) := by
    rcases inheritParentActionContractEvidence_eq_ok distinct inherits with
      ⟨rfl, rfl⟩ | ⟨parentRelease, parentEvidence, rfl, isArray, contracts, covers⟩
    · obtain rfl : none = inherited := Except.ok.inj isInherited
      refine ⟨0, [], InheritedContracts.start distinct, fun action member => ?_,
        fun found isFound => (nomatch isFound)⟩
      rcases (built.memActions action).mp member with isOwn | ⟨-, isOld⟩
      · exact ownFound action isOwn
      · exact absurd isOld List.not_mem_nil
    · refine ⟨parentRelease.id, parentEvidence, contracts, covers, fun found isFound => ?_⟩
      rw [isFound] at isInherited
      obtain ⟨same, digest, isSame, has, accepted⟩ := parentCatalog_eq_ok isInherited
      obtain rfl := Option.some.inj isSame
      exact ⟨parentRelease, digest, rfl, isArray, has, rfl, accepted⟩
  obtain ⟨parentReleaseId, parentEvidence, contracts, covers, ofInherited⟩ := summary
  refine ⟨contracts.distinct, fun toolName => ⟨fun isName => ?_, ?_⟩, ?matched, ?noCatalog⟩
  · cases found : contractEntry entries toolName with
    | none => exact absurd isName (contractEntry_eq_none.mp found)
    | some entry =>
        rcases contracts.came toolName entry found with isOwn | ⟨-, named, -⟩
        · obtain ⟨action, member, same⟩ := ownNamed toolName entry isOwn
          exact ⟨action, (built.memActions action).mpr (.inl member), same⟩
        · exact named
  · rintro ⟨action, member, rfl⟩
    obtain ⟨entry, found⟩ := Option.isSome_iff_exists.mp (covers action member)
    obtain ⟨isEntry, isName⟩ := contractEntry_eq_some found
    exact List.mem_filterMap.mpr ⟨entry, isEntry, isName⟩
  case matched =>
    intro action member
    rcases (built.memActions action).mp member with isOwn | ⟨notProposed, -⟩
    · exact built.own_matches readsUuids ownRun fromParent ownMade contracts.keepsOwn isOwn
    · obtain ⟨entry, found⟩ := Option.isSome_iff_exists.mp (covers action member)
      rcases contracts.came action.runtimeName entry found with isOwn |
        ⟨missing, -, copied, isCopied, rfl⟩
      · -- An own contract under this name would be that of an own action with this key.
        obtain ⟨other, isOther, sameName⟩ := ownNamed action.runtimeName entry isOwn
        obtain ⟨-, -, -, valid, -⟩ := validateCatalog_eq_ok.mp built.valid
        obtain ⟨-, -, ⟨-, key⟩, -⟩ := validateAction_eq_ok.mp (valid action member)
        refine absurd (List.mem_map.mpr ⟨other, isOther, ?_⟩) notProposed
        rw [identified other isOther, sameName, key]
      · obtain ⟨parentCatalog, isParent, isOld⟩ := notOwn action member missing
        obtain ⟨parentRelease, digest, -, isArray, -, rfl, accepted⟩ :=
          ofInherited parentCatalog isParent
        obtain ⟨original, written, toolSpec, holds⟩ :=
          contractMatches_of_accepted accepted isArray isOld
        obtain rfl := Option.some.inj (isCopied.symm.trans holds.found)
        exact ⟨_, written, toolSpec,
          holds.copied built.valid (fromParent parentCatalog isParent).2 found⟩
  case noCatalog =>
    intro entry member
    rcases contracts.entries entry member with isOwn |
      ⟨toolName, copied, ⟨action, isAction, rfl⟩, missing, isCopied, rfl⟩
    · exact noOwnCatalog entry isOwn
    · obtain ⟨parentCatalog, isParent, -⟩ := notOwn action isAction missing
      obtain ⟨parentRelease, digest, isRelease, isArray, has, -, -⟩ :=
        ofInherited parentCatalog isParent
      obtain ⟨inParent, isName⟩ := contractEntry_eq_some isCopied
      rw [isCatalogEntry_markInherited]
      refine (parentReads parentRelease isRelease has).contracts parentEvidence isArray copied
        inParent ?_
      rw [isName]
      exact Option.some_ne_none _

/-- A candidate on a parent that reads back reads back itself. -/
theorem candidate_readsBack
    (readsUuids : ∀ id : Uuid, codec.parseUuid (Nat.repr id) = some id)
    (ownRun : ∀ proposal ∈ request.proposals, proposal.runId = request.runId)
    (parentReads : ∀ parentRelease, parent = some parentRelease →
      hasCatalog parentRelease = true → ReadsBack codec parentRelease)
    {candidate : OntologyCandidate} (built : ontologyReleaseCandidate codec request parent =
      .ok candidate) {now : Timestamp} {release : OntologyReleaseRecord}
    (content : ReleaseContent (newOntologyRelease now request.domainScope parent candidate)
      release) :
    ReadsBack codec release ∧ ∃ catalog digest,
      buildOntologyReleaseCatalog codec request.domainScope request.proposals parent =
        .ok (catalog, digest) ∧
      releaseCatalogFromEvidence codec release = .ok (catalog, digest) := by
  unfold ontologyReleaseCandidate at built
  obtain ⟨_, built⟩ := guardThen_eq_ok.mp built
  obtain ⟨own, ownMade, built⟩ := bind_eq_ok.mp built
  obtain ⟨⟨catalog, digest⟩, catalogBuilt, built⟩ := bind_eq_ok.mp built
  obtain ⟨entries, inherits, built⟩ := bind_eq_ok.mp built
  obtain ⟨releaseClass, _, returned⟩ := bind_eq_ok.mp built
  cases returned
  have wholeBuild := catalogBuilt
  obtain ⟨inherited, isInherited, catalogBuilt⟩ := bind_eq_ok.mp catalogBuilt
  obtain ⟨_, extended, returned⟩ := bind_eq_ok.mp catalogBuilt
  cases returned
  have validParent : ∀ found, inherited = some found →
      validateCatalog codec.formats found = .ok () := by
    rintro found rfl
    obtain ⟨parentRelease, _, _, _, accepted⟩ := parentCatalog_eq_ok isInherited
    obtain ⟨_, _, _, valid, -⟩ := releaseCatalogFromEvidence_eq_ok accepted
    exact valid
  obtain ⟨objects, relations, actions, names, parts⟩ := buildReleaseCatalog_eq_ok
    (fun found same => validateCatalog_distinct (validParent found same)) extended
  have fromParent : ∀ found, inherited = some found →
      validateCatalog codec.formats found = .ok () ∧ CatalogExtends found catalog := by
    rintro found rfl
    exact ⟨validParent found rfl,
      buildReleaseCatalog_extends (validateCatalog_distinct (validParent found rfl)) extended⟩
  have complete := parts.contractsComplete readsUuids ownRun parentReads isInherited fromParent
    ownMade inherits
  have isArray : release.evidenceRefs.asArray =
      some (entries ++ [catalogEvidence catalog (canonicalJsonSha256 codec catalog.write)]) := by
    rw [content.evidenceRefs]
    rfl
  have unnamed : contractName (catalogEvidence catalog (canonicalJsonSha256 codec catalog.write)) =
      none := by
    rw [contractName, Json.index, Json.index, catalogEvidence,
      Json.get_ofFields_of_notMem (by simp)]
    rfl
  have allNames : (entries ++
      [catalogEvidence catalog (canonicalJsonSha256 codec catalog.write)]).filterMap contractName =
      entries.filterMap contractName := by
    rw [List.filterMap_append, List.filterMap_cons, unnamed, List.filterMap_nil, List.append_nil]
  have digests : validateActionContractDigests codec
      (entries ++ [catalogEvidence catalog (canonicalJsonSha256 codec catalog.write)]) catalog =
        .ok () := by
    refine validateActionContractDigests_of_matches parts.valid (allNames ▸ complete.distinct)
      (fun toolName => allNames ▸ complete.named toolName) fun action member => ?_
    obtain ⟨entry, written, toolSpec, holds⟩ := complete.matched action member
    refine ⟨entry, written, toolSpec, { holds with found := ?_ }⟩
    rw [contractEntry_append, holds.found]
    rfl
  have accepted := releaseCatalogFromEvidence_of_checks isArray
    (catalogSnapshot_append complete.noCatalog catalog _)
    (parts.domainScope.trans content.domainScope.symm) content.objectCount.symm
    content.relationCount.symm content.actionCount.symm parts.valid digests
  refine ⟨⟨⟨_, accepted⟩, ?contracts⟩, catalog, _, wholeBuild, accepted⟩
  case contracts =>
    intro all isAll entry member isContract
    obtain rfl := Option.some.inj (isArray.symm.trans isAll)
    rcases List.mem_append.mp member with isContractEntry | isLast
    · exact complete.noCatalog entry isContractEntry
    · rw [List.mem_singleton.mp isLast] at isContract
      exact absurd unnamed isContract

end candidate

/-! ### What is claimed -/

/-- The release was stored as a candidate of one run, on a parent that was stored in this
way when it has a catalog.  What happened to its status and links since does not matter. -/
inductive StoredCandidate (codec : OntologyCodec) : OntologyReleaseRecord → Prop where
  | stored (request : CandidateRequest) (parent : Option OntologyReleaseRecord)
      (candidate : OntologyCandidate) (now : Timestamp) (release : OntologyReleaseRecord)
      (ownRun : ∀ proposal ∈ request.proposals, proposal.runId = request.runId)
      (parentStored : ∀ parentRelease, parent = some parentRelease →
        hasCatalog parentRelease = true → StoredCandidate codec parentRelease)
      (built : ontologyReleaseCandidate codec request parent = .ok candidate)
      (content : ReleaseContent (newOntologyRelease now request.domainScope parent candidate)
        release) : StoredCandidate codec release

theorem StoredCandidate.readsBack {codec : OntologyCodec}
    (readsUuids : ∀ id : Uuid, codec.parseUuid (Nat.repr id) = some id)
    {release : OntologyReleaseRecord} (stored : StoredCandidate codec release) :
    ReadsBack codec release := by
  induction stored with
  | stored request parent candidate now release ownRun _ built content parentReads =>
      exact (candidate_readsBack readsUuids ownRun parentReads built content).1

/-- Whatever chain of releases a candidate stands on, its evidence gives back the catalog
and the digest that were built. -/
theorem candidate_catalog_reads_back {codec : OntologyCodec}
    (readsUuids : ∀ id : Uuid, codec.parseUuid (Nat.repr id) = some id)
    {request : CandidateRequest} {parent : Option OntologyReleaseRecord}
    {candidate : OntologyCandidate} {now : Timestamp} {release : OntologyReleaseRecord}
    (ownRun : ∀ proposal ∈ request.proposals, proposal.runId = request.runId)
    (parentStored : ∀ parentRelease, parent = some parentRelease →
      hasCatalog parentRelease = true → StoredCandidate codec parentRelease)
    (built : ontologyReleaseCandidate codec request parent = .ok candidate)
    (content : ReleaseContent (newOntologyRelease now request.domainScope parent candidate)
      release) :
    ∃ catalog digest,
      buildOntologyReleaseCatalog codec request.domainScope request.proposals parent =
        .ok (catalog, digest) ∧
      releaseCatalogFromEvidence codec release = .ok (catalog, digest) :=
  (candidate_readsBack readsUuids ownRun
    (fun parentRelease isParent has => (parentStored parentRelease isParent has).readsBack readsUuids)
    built content).2

/-! ### An action that the second release inherits -/

namespace InheritedAction

def readDigits (text : String) : Uuid := Nat.ofDigitChars 10 text.toList 0

theorem readDigits_repr (id : Uuid) : readDigits (Nat.repr id) = id := by
  rw [readDigits, Nat.toList_repr, Nat.ofDigitChars_toDigits (by decide) (by decide)]

def codec : OntologyCodec where
  parseUuid text := some (readDigits text)
  formats := ⟨fun _ => true, fun _ => true, fun _ => true⟩
  jsonSha256 _ := "digest"
  textSha256 _ := "digest"
  printString := id
  printNumber _ := "0"

def proposal (id runId : Uuid) (proposalType name : String) (content : List (String × Json)) :
    OntologyOnboardingProposalDraft where
  id
  runId
  proposalType
  name
  sourceMapping := "orders"
  evidence := .object []
  reviewStatus := "approved"
  content := .ofFields content

def first : CandidateRequest where
  runId := 1
  proposals := [
    proposal 11 1 "object" "Order" [("api_name", .string "Order")],
    proposal 12 1 "action" "cancel"
      [("api_name", .string "cancel"), ("target_object", .string "Order")]]
  version := "v1"

def second : CandidateRequest where
  runId := 2
  proposals := [proposal 21 2 "object" "Invoice" [("api_name", .string "Invoice")]]
  version := "v2"

/-- The candidate of a request that succeeds. -/
def made (request : CandidateRequest) (parent : Option OntologyReleaseRecord) :
    OntologyCandidate :=
  match ontologyReleaseCandidate codec request parent with
  | .ok candidate => candidate
  | .error _ => ⟨"", none, "", 0, 0, 0, .null, .null, .null, .null⟩

def firstRelease : OntologyReleaseRecord :=
  newOntologyRelease 0 first.domainScope none (made first none)

end InheritedAction

open InheritedAction in
/-- The second release has the action of the first, and reads back. -/
theorem inherited_action_reads_back :
    ∃ catalog digest,
      buildOntologyReleaseCatalog codec second.domainScope second.proposals (some firstRelease) =
        .ok (catalog, digest) ∧
      releaseCatalogFromEvidence codec (newOntologyRelease 0 second.domainScope
        (some firstRelease) (made second (some firstRelease))) = .ok (catalog, digest) := by
  have readsUuids : ∀ id : Uuid, codec.parseUuid (Nat.repr id) = some id :=
    fun id => congrArg some (readDigits_repr id)
  have firstStored : StoredCandidate codec firstRelease :=
    .stored first none (made first none) 0 firstRelease (by decide +kernel)
      (fun _ isParent => nomatch isParent) (by decide +kernel) (ReleaseContent.refl _)
  refine candidate_catalog_reads_back readsUuids (by decide +kernel) ?_ (by decide +kernel)
    (ReleaseContent.refl _)
  rintro _ ⟨rfl⟩ _
  exact firstStored

end MandoForge
