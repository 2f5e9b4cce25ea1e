/-
Module: MandoForge.Ontology.CatalogInheritance
Purpose: A candidate that is built on a parent release publishes everything that the
  parent publishes, under the names that the parent gave, and its evidence gives back
  the catalog that was built.
Trusted boundary: none
Main exports: CatalogExtends, ReleaseContent
-/
import MandoForge.Ontology.Candidates

namespace MandoForge

open Foundation

/-! ### Names under stable keys -/

/-- Every row of the one list has a row of the other with its stable key and name. -/
def NamesKept {Row : Type} (stableKey apiName : Row → String) (older newer : List Row) : Prop :=
  ∀ row ∈ older, ∃ kept ∈ newer, stableKey kept = stableKey row ∧ apiName kept = apiName row

/-- The newer catalog has every object, relation and action of the older one, under the
same name. -/
structure CatalogExtends (older newer : OntologyReleaseCatalogV1) : Prop where
  objects : NamesKept OntologySdkCatalogObject.stableKey OntologySdkCatalogObject.apiName
    older.objects newer.objects
  relations : NamesKept OntologySdkCatalogRelation.stableKey OntologySdkCatalogRelation.apiName
    older.relations newer.relations
  actions : NamesKept OntologySdkCatalogAction.stableKey OntologySdkCatalogAction.apiName
    older.actions newer.actions

instance {Row : Type} (stableKey apiName : Row → String) (older newer : List Row) :
    Decidable (NamesKept stableKey apiName older newer) :=
  inferInstanceAs (Decidable (∀ row ∈ older, ∃ kept ∈ newer,
    stableKey kept = stableKey row ∧ apiName kept = apiName row))

instance (older newer : OntologyReleaseCatalogV1) : Decidable (CatalogExtends older newer) :=
  decidable_of_iff
    (NamesKept OntologySdkCatalogObject.stableKey OntologySdkCatalogObject.apiName
        older.objects newer.objects ∧
      NamesKept OntologySdkCatalogRelation.stableKey OntologySdkCatalogRelation.apiName
        older.relations newer.relations ∧
      NamesKept OntologySdkCatalogAction.stableKey OntologySdkCatalogAction.apiName
        older.actions newer.actions)
    ⟨fun kept => ⟨kept.1, kept.2.1, kept.2.2⟩,
      fun extended => ⟨extended.objects, extended.relations, extended.actions⟩⟩

section rows

variable {Row : Type} {stableKey apiName : Row → String}

theorem mem_inNameOrder {rows : List Row} {row : Row} :
    row ∈ inNameOrder rows stableKey apiName ↔ row ∈ rows := by
  unfold inNameOrder
  rw [(List.perm_insertionSort _ _).mem_iff, (List.perm_insertionSort _ _).mem_iff]

theorem find?_foldl_insert {rows : List Row} {table : Table stableKey}
    (distinct : (rows.map stableKey).Nodup) {row : Row} (member : row ∈ rows) :
    (rows.foldl Table.insert table).find? (stableKey row) = some row :=
  Table.find?_key ((Table.mem_foldl_insert distinct).mpr (.inl member))

/-- The table has a row for each of the given ones, with its key and name. -/
def TableKeeps (apiName : Row → String) (rows : List Row) (table : Table stableKey) : Prop :=
  ∀ row ∈ rows, ∃ kept, table.find? (stableKey row) = some kept ∧ apiName kept = apiName row

theorem TableKeeps.of_rows {rows : List Row} (distinct : (rows.map stableKey).Nodup) :
    TableKeeps apiName rows (rows.foldl Table.insert (Table.empty : Table stableKey)) :=
  fun row member => ⟨row, find?_foldl_insert distinct member, rfl⟩

theorem TableKeeps.insert {rows : List Row} {table : Table stableKey} {added : Row}
    (keeps : TableKeeps apiName rows table)
    (named : ∀ row ∈ rows, stableKey row = stableKey added → apiName added = apiName row) :
    TableKeeps apiName rows (table.insert added) := by
  intro row member
  by_cases same : stableKey row = stableKey added
  · exact ⟨added, same ▸ Table.find?_insert_same, named row member same⟩
  · obtain ⟨kept, found, sameName⟩ := keeps row member
    exact ⟨kept, (Table.find?_insert_of_ne same).trans found, sameName⟩

theorem TableKeeps.namesKept {rows : List Row} {table : Table stableKey}
    (keeps : TableKeeps apiName rows table) :
    NamesKept stableKey apiName rows (inNameOrder table.rows stableKey apiName) := by
  intro row member
  obtain ⟨kept, found, sameName⟩ := keeps row member
  obtain ⟨isRow, sameKey⟩ := Table.find?_eq_some.mp found
  exact ⟨kept, mem_inNameOrder.mpr isRow, sameKey, sameName⟩

theorem find?_row_of_distinct {rows : List Row} (distinct : (rows.map stableKey).Nodup) {row : Row}
    (member : row ∈ rows) {key : String} (sameKey : stableKey row = key) :
    rows.find? (fun other => decide (stableKey other = key)) = some row := by
  subst sameKey
  have isRow : row ∈ (⟨rows, distinct⟩ : Table stableKey) := member
  exact Table.find?_key isRow

end rows

/-! ### The steps of the build -/

/-- No two parts of a catalog have one stable key. -/
structure DistinctKeys (catalog : OntologyReleaseCatalogV1) : Prop where
  objects : (catalog.objects.map OntologySdkCatalogObject.stableKey).Nodup
  relations : (catalog.relations.map OntologySdkCatalogRelation.stableKey).Nodup
  actions : (catalog.actions.map OntologySdkCatalogAction.stableKey).Nodup

/-- Checked entries have distinct keys, none of which was seen before. -/
theorem validateEntries_eq_ok {catalog : OntologyReleaseCatalogV1}
    {apiNames stableKeys : List String} {entries : List (String × String)}
    (validates : validateEntries catalog apiNames stableKeys entries = .ok ()) :
    (entries.map Prod.fst).Nodup ∧ ∀ entry ∈ entries, entry.1 ∉ stableKeys := by
  induction entries generalizing apiNames stableKeys with
  | nil => simp
  | cons entry entries inductionHypothesis =>
      obtain ⟨stableKey, apiName⟩ := entry
      obtain ⟨_, _, validates⟩ := bind_eq_ok.mp validates
      obtain ⟨_, validates⟩ := guardThen_eq_ok.mp validates
      obtain ⟨isNew, validates⟩ := guardThen_eq_ok.mp validates
      obtain ⟨distinct, unseen⟩ := inductionHypothesis validates
      refine ⟨List.nodup_cons.mpr ⟨?_, distinct⟩, ?_⟩
      · intro isLater
        obtain ⟨later, member, sameKey⟩ := List.mem_map.mp isLater
        exact unseen later member (sameKey ▸ List.mem_cons_self)
      · intro other member
        rcases List.mem_cons.mp member with rfl | inRest
        · exact isNew
        · exact fun seen => unseen other inRest (List.mem_cons_of_mem _ seen)

theorem validateCatalog_distinct {formats : SchemaFormats} {catalog : OntologyReleaseCatalogV1}
    (validates : validateCatalog formats catalog = .ok ()) : DistinctKeys catalog := by
  unfold validateCatalog at validates
  obtain ⟨_, validates⟩ := guardThen_eq_ok.mp validates
  obtain ⟨⟨⟩, entries, _⟩ := bind_eq_ok.mp validates
  have distinct := (validateEntries_eq_ok entries).1
  simp only [catalogEntries, List.map_append, List.map_map, List.nodup_append'] at distinct
  exact ⟨distinct.1.1, distinct.1.2.1, distinct.2.1⟩

section build

variable {parent : OntologyReleaseCatalogV1} {codec : OntologyCodec}

/-- The draft has what the parent publishes. -/
structure DraftKeeps (parent : OntologyReleaseCatalogV1) (draft : CatalogDraft) : Prop where
  objects : TableKeeps OntologySdkCatalogObject.apiName parent.objects draft.objects
  relations : TableKeeps OntologySdkCatalogRelation.apiName parent.relations draft.relations
  actions : TableKeeps OntologySdkCatalogAction.apiName parent.actions draft.actions

theorem CatalogDraft.ofParent_keeps (distinct : DistinctKeys parent) :
    DraftKeeps parent (CatalogDraft.ofParent (some parent)) where
  objects := TableKeeps.of_rows distinct.objects
  relations := TableKeeps.of_rows distinct.relations
  actions := TableKeeps.of_rows distinct.actions

theorem CatalogDraft.take_eq_ok {draft taken : CatalogDraft} {stableKey kind : String}
    (takes : draft.take stableKey kind = .ok taken) :
    taken = { draft with proposed := stableKey :: draft.proposed } := by
  unfold CatalogDraft.take at takes
  split at takes
  · cases takes
  · exact (Except.ok.inj takes).symm

theorem addObject_keeps (distinct : DistinctKeys parent) {draft after : CatalogDraft}
    {proposal : OntologyOnboardingProposalDraft}
    (adds : addObject (some parent) draft proposal = .ok after)
    (keeps : DraftKeeps parent draft) : DraftKeeps parent after := by
  obtain ⟨taken, takes, adds⟩ := bind_eq_ok.mp adds
  obtain ⟨apiName, chosen, adds⟩ := bind_eq_ok.mp adds
  obtain ⟨⟨properties, primaryKeyApiName⟩, _, returned⟩ := bind_eq_ok.mp adds
  cases returned
  obtain rfl := CatalogDraft.take_eq_ok takes
  refine ⟨keeps.objects.insert fun object member sameKey => ?_, keeps.relations, keeps.actions⟩
  rw [parentObject, Option.bind_some, find?_row_of_distinct distinct.objects member sameKey] at chosen
  exact chooseApiName_inherited chosen

theorem addRelation_keeps (distinct : DistinctKeys parent) {draft after : CatalogDraft}
    {proposal : OntologyOnboardingProposalDraft}
    (adds : addRelation (some parent) draft proposal = .ok after)
    (keeps : DraftKeeps parent draft) : DraftKeeps parent after := by
  obtain ⟨fromObject, _, adds⟩ := bind_eq_ok.mp adds
  obtain ⟨toObject, _, adds⟩ := bind_eq_ok.mp adds
  obtain ⟨relationType, _, adds⟩ := bind_eq_ok.mp adds
  obtain ⟨fromObjectApiName, _, adds⟩ := bind_eq_ok.mp adds
  obtain ⟨toObjectApiName, _, adds⟩ := bind_eq_ok.mp adds
  obtain ⟨taken, takes, adds⟩ := bind_eq_ok.mp adds
  obtain ⟨apiName, chosen, returned⟩ := bind_eq_ok.mp adds
  cases returned
  obtain rfl := CatalogDraft.take_eq_ok takes
  refine ⟨keeps.objects, keeps.relations.insert fun relation member sameKey => ?_, keeps.actions⟩
  rw [parentRelation, Option.bind_some,
    find?_row_of_distinct distinct.relations member sameKey] at chosen
  exact chooseApiName_inherited chosen

theorem addAction_keeps (distinct : DistinctKeys parent) {draft after : CatalogDraft}
    {proposal : OntologyOnboardingProposalDraft}
    (adds : addAction (some parent) codec draft proposal = .ok after)
    (keeps : DraftKeeps parent draft) : DraftKeeps parent after := by
  obtain ⟨toolSpec, _, adds⟩ := bind_eq_ok.mp adds
  obtain ⟨taken, takes, adds⟩ := bind_eq_ok.mp adds
  obtain ⟨apiName, chosen, adds⟩ := bind_eq_ok.mp adds
  obtain ⟨targetObjectApiName, _, returned⟩ := bind_eq_ok.mp adds
  cases returned
  obtain rfl := CatalogDraft.take_eq_ok takes
  refine ⟨keeps.objects, keeps.relations, keeps.actions.insert fun action member sameKey => ?_⟩
  rw [parentAction, Option.bind_some, find?_row_of_distinct distinct.actions member sameKey] at chosen
  exact chooseApiName_inherited chosen

/-- What is built on a catalog extends it. -/
theorem buildReleaseCatalog_extends {domainScope : String}
    {proposals : List OntologyOnboardingProposalDraft} {catalog : OntologyReleaseCatalogV1}
    (distinct : DistinctKeys parent)
    (built : buildReleaseCatalog codec domainScope proposals (some parent) = .ok catalog) :
    CatalogExtends parent catalog := by
  obtain ⟨withObjects, addsObjects, built⟩ := bind_eq_ok.mp built
  obtain ⟨withRelations, addsRelations, built⟩ := bind_eq_ok.mp built
  obtain ⟨withActions, addsActions, built⟩ := bind_eq_ok.mp built
  obtain ⟨⟨⟩, _, returned⟩ := bind_eq_ok.mp built
  cases returned
  have afterObjects := foldlM_keeps (fun _ _ _ => addObject_keeps distinct) addsObjects
    (CatalogDraft.ofParent_keeps distinct)
  have afterRelations := foldlM_keeps (fun _ _ _ => addRelation_keeps distinct) addsRelations
    afterObjects
  have keeps := foldlM_keeps (fun _ _ _ => addAction_keeps distinct) addsActions afterRelations
  exact ⟨keeps.objects.namesKept, keeps.relations.namesKept, keeps.actions.namesKept⟩

end build

/-! ### Releases -/

/-- The two releases hold the same. -/
structure ReleaseContent (one two : OntologyReleaseRecord) : Prop where
  domainScope : two.domainScope = one.domainScope
  sourceRunId : two.sourceRunId = one.sourceRunId
  objectCount : two.objectCount = one.objectCount
  relationCount : two.relationCount = one.relationCount
  actionCount : two.actionCount = one.actionCount
  evidenceRefs : two.evidenceRefs = one.evidenceRefs

theorem ReleaseContent.refl (release : OntologyReleaseRecord) : ReleaseContent release release :=
  ⟨rfl, rfl, rfl, rfl, rfl, rfl⟩

theorem ReleaseContent.symm {one two : OntologyReleaseRecord} (content : ReleaseContent one two) :
    ReleaseContent two one :=
  ⟨content.domainScope.symm, content.sourceRunId.symm, content.objectCount.symm,
    content.relationCount.symm, content.actionCount.symm, content.evidenceRefs.symm⟩

theorem ReleaseContent.trans {one two three : OntologyReleaseRecord}
    (first : ReleaseContent one two) (second : ReleaseContent two three) :
    ReleaseContent one three :=
  ⟨second.domainScope.trans first.domainScope, second.sourceRunId.trans first.sourceRunId,
    second.objectCount.trans first.objectCount, second.relationCount.trans first.relationCount,
    second.actionCount.trans first.actionCount, second.evidenceRefs.trans first.evidenceRefs⟩

section releases

variable {codec : OntologyCodec}

theorem releaseCatalogFromEvidence_congr {one two : OntologyReleaseRecord}
    (content : ReleaseContent one two) :
    releaseCatalogFromEvidence codec two = releaseCatalogFromEvidence codec one := by
  simp only [releaseCatalogFromEvidence, content.domainScope, content.objectCount,
    content.relationCount, content.actionCount, content.evidenceRefs]

/-- What the checks of a release's catalog establish. -/
theorem releaseCatalogFromEvidence_eq_ok {release : OntologyReleaseRecord}
    {catalog : OntologyReleaseCatalogV1} {digest : String}
    (accepted : releaseCatalogFromEvidence codec release = .ok (catalog, digest)) :
    ∃ entries, release.evidenceRefs.asArray = some entries ∧
      catalogSnapshot entries = .ok (catalog, some digest) ∧
      validateCatalog codec.formats catalog = .ok () ∧
      validateActionContractDigests codec entries catalog = .ok () := by
  obtain ⟨entries, isArray, accepted⟩ := bind_eq_ok.mp accepted
  obtain ⟨⟨found, stated⟩, snapshot, accepted⟩ := bind_eq_ok.mp accepted
  obtain ⟨_, accepted⟩ := guardThen_eq_ok.mp accepted
  obtain ⟨_, accepted⟩ := guardThen_eq_ok.mp accepted
  obtain ⟨given, isStated, accepted⟩ := bind_eq_ok.mp accepted
  obtain ⟨_, accepted⟩ := guardThen_eq_ok.mp accepted
  obtain ⟨⟨⟩, validates, accepted⟩ := bind_eq_ok.mp accepted
  obtain ⟨⟨⟩, digests, returned⟩ := bind_eq_ok.mp accepted
  cases returned
  obtain rfl := okOr_eq_ok.mp isStated
  exact ⟨entries, okOr_eq_ok.mp isArray, snapshot, validates, digests⟩

/-- A catalog whose snapshot comes last is what the evidence gives back. -/
theorem catalogSnapshot_last {entries : List Json} {written catalog : OntologyReleaseCatalogV1}
    {digest : String} {stated : Option String}
    (snapshot : catalogSnapshot (entries ++ [catalogEvidence written digest]) =
      .ok (catalog, stated)) : catalog = written := by
  have isEntry : isCatalogEntry (catalogEvidence written digest) = true := by
    rw [isCatalogEntry, catalogEvidence,
      @Json.get_ofFields _ _ (.string ontologyReleaseCatalogSchema) (by simp) (by simp)]
    exact decide_eq_true rfl
  have filtered : (entries ++ [catalogEvidence written digest]).filter isCatalogEntry =
      entries.filter isCatalogEntry ++ [catalogEvidence written digest] := by
    rw [List.filter_append, List.filter_singleton, isEntry, cond_true]
  unfold catalogSnapshot at snapshot
  rw [filtered] at snapshot
  split at snapshot
  · rename_i entry isOnly
    have isLast : entry = catalogEvidence written digest := by
      rcases List.append_eq_singleton_iff.mp isOnly with ⟨_, single⟩ | ⟨_, isNil⟩
      · exact (List.singleton_inj.mp single).symm
      · exact absurd isNil (List.cons_ne_nil _ _)
    obtain ⟨value, found, snapshot⟩ := bind_eq_ok.mp snapshot
    obtain ⟨read, reads, returned⟩ := bind_eq_ok.mp snapshot
    cases returned
    rw [isLast, catalogEvidence,
      @Json.get_ofFields _ _ written.write (by simp) (by simp)] at found
    obtain rfl := Option.some.inj (okOr_eq_ok.mp found)
    exact Option.some.inj ((okOr_eq_ok.mp reads).symm.trans written.read_write)
  · cases snapshot

/-- The catalog of the newer release extends the catalog of the older one. -/
def ReleaseExtends (codec : OntologyCodec) (older newer : OntologyReleaseRecord) : Prop :=
  ∀ olderCatalog olderDigest newerCatalog newerDigest,
    releaseCatalogFromEvidence codec older = .ok (olderCatalog, olderDigest) →
    releaseCatalogFromEvidence codec newer = .ok (newerCatalog, newerDigest) →
      CatalogExtends olderCatalog newerCatalog

instance (older newer : OntologyReleaseRecord) : Decidable (ReleaseExtends codec older newer) :=
  match isOlder : releaseCatalogFromEvidence codec older,
    isNewer : releaseCatalogFromEvidence codec newer with
  | .ok (olderCatalog, _), .ok (newerCatalog, _) =>
      decidable_of_iff (CatalogExtends olderCatalog newerCatalog) (by
        unfold ReleaseExtends
        rw [isOlder, isNewer]
        constructor
        · rintro extended _ _ _ _ ⟨rfl⟩ ⟨rfl⟩
          exact extended
        · exact fun extended => extended _ _ _ _ rfl rfl)
  | .error _, _ => isTrue (by
      intro _ _ _ _ accepted
      rw [isOlder] at accepted
      cases accepted)
  | _, .error _ => isTrue (by
      intro _ _ _ _ _ accepted
      rw [isNewer] at accepted
      cases accepted)

theorem ReleaseExtends.congr {older newer olderNow newerNow : OntologyReleaseRecord}
    (extends' : ReleaseExtends codec older newer) (sameOlder : ReleaseContent older olderNow)
    (sameNewer : ReleaseContent newer newerNow) : ReleaseExtends codec olderNow newerNow := by
  unfold ReleaseExtends
  rw [releaseCatalogFromEvidence_congr sameOlder, releaseCatalogFromEvidence_congr sameNewer]
  exact extends'

/-- A catalog that a release has is the one that a candidate on it inherits. -/
theorem parentCatalog_of_accepted {release : OntologyReleaseRecord}
    {catalog : OntologyReleaseCatalogV1} {digest : String}
    (accepted : releaseCatalogFromEvidence codec release = .ok (catalog, digest)) :
    parentCatalog codec (some release) = .ok (some catalog) := by
  obtain ⟨entries, isArray, snapshot, -, -⟩ := releaseCatalogFromEvidence_eq_ok accepted
  have hasEntry : entries.any isCatalogEntry = true := by
    unfold catalogSnapshot at snapshot
    split at snapshot
    · rename_i entry isOnly
      have member : entry ∈ entries.filter isCatalogEntry := isOnly ▸ List.mem_singleton_self _
      obtain ⟨inEntries, isEntry⟩ := List.mem_filter.mp member
      exact List.any_eq_true.mpr ⟨entry, inEntries, isEntry⟩
    · cases snapshot
  rw [parentCatalog, isArray, Option.any_some, if_pos hasEntry, accepted]
  rfl

/-- A stored candidate extends the release that it was built on. -/
theorem candidate_extends_parent {request : CandidateRequest}
    {parentRelease : OntologyReleaseRecord} {candidate : OntologyCandidate} {now : Timestamp}
    (built : ontologyReleaseCandidate codec request (some parentRelease) = .ok candidate) :
    ReleaseExtends codec parentRelease
      (newOntologyRelease now request.domainScope (some parentRelease) candidate) := by
  intro olderCatalog olderDigest newerCatalog newerDigest older newer
  unfold ontologyReleaseCandidate at built
  obtain ⟨_, built⟩ := guardThen_eq_ok.mp built
  obtain ⟨own, _, built⟩ := bind_eq_ok.mp built
  obtain ⟨⟨catalog, digest⟩, catalogBuilt, built⟩ := bind_eq_ok.mp built
  obtain ⟨entries, _, built⟩ := bind_eq_ok.mp built
  obtain ⟨releaseClass, _, returned⟩ := bind_eq_ok.mp built
  cases returned
  obtain ⟨parent, isParent, catalogBuilt⟩ := bind_eq_ok.mp catalogBuilt
  obtain ⟨_, extended, returned⟩ := bind_eq_ok.mp catalogBuilt
  cases returned
  rw [parentCatalog_of_accepted older] at isParent
  cases isParent
  obtain ⟨_, isArray, snapshot, -, -⟩ := releaseCatalogFromEvidence_eq_ok newer
  obtain rfl := Option.some.inj isArray
  obtain rfl := catalogSnapshot_last snapshot
  obtain ⟨_, _, _, validates, -⟩ := releaseCatalogFromEvidence_eq_ok older
  exact buildReleaseCatalog_extends (validateCatalog_distinct validates) extended

end releases

end MandoForge
