/-
Module: MandoForge.Ontology.AdapterClosure
Purpose: Which sources an adapter turns into a closed output, one whose seed speaks only
  of objects, tables and fields that the output has, and what the proposals of a closed
  output are about.
Trusted boundary: as for the file adapters
Main exports: ClosedOutput, adaptPayload_closed_iff
-/
import MandoForge.Foundation.Outcome
import MandoForge.Ontology.SourceAdapters

namespace MandoForge

open Foundation

/-! ### Closed outputs -/

/-- The names of the objects that the parts of a seed speak of. -/
def mentionedObjects (relations : List OntologySeedRelationMapping)
    (metrics : List OntologySeedMetricMapping) (actions : List OntologySeedActionMapping) :
    List String :=
  (relations.flatMap fun relation => [relation.fromObject, relation.toObject]) ++
    metrics.map OntologySeedMetricMapping.targetObject ++
      actions.map OntologySeedActionMapping.targetObject

def OntologySeedPack.mentions (seed : OntologySeedPack) : List String :=
  mentionedObjects seed.relations seed.metrics seed.actions

structure ClosedOutput (output : OntologySourceAdapterOutput) : Prop where
  objects : ∀ object ∈ output.seed.objects,
    ∃ dataset ∈ output.bundle.datasets, dataset.tableName = object.tableName
  mentions : ∀ name ∈ output.seed.mentions,
    ∃ object ∈ output.seed.objects, object.objectName = name
  sources : ∀ relation ∈ output.seed.relations, ∃ dataset ∈ output.bundle.datasets,
    dataset.tableName = relation.sourceTable ∧
      ∃ field ∈ dataset.fields, field.name = relation.sourceField
  references : ∀ relation ∈ output.seed.relations,
    ∃ dataset ∈ output.bundle.datasets, dataset.tableName = relation.referenceTable

theorem not_closed_of_unmet {output : OntologySourceAdapterOutput} {name : String}
    (mentioned : name ∈ output.seed.mentions)
    (unmet : ∀ object ∈ output.seed.objects, object.objectName ≠ name) :
    ¬ ClosedOutput output := by
  intro closed
  obtain ⟨object, member, named⟩ := closed.mentions name mentioned
  exact unmet object member named

/-! ### Closed proposals -/

/-- The texts under the keys of the content. -/
def OntologyOnboardingProposalDraft.contentTexts (proposal : OntologyOnboardingProposalDraft)
    (keys : List String) : List String :=
  keys.filterMap fun key => (proposal.content.get key).bind Json.asStr

/-- The names of the objects that a relation, a metric or an action is about. -/
def OntologyOnboardingProposalDraft.aboutObjects (proposal : OntologyOnboardingProposalDraft) :
    List String :=
  if proposal.proposalType = "relation" then proposal.contentTexts ["from_object", "to_object"]
  else if proposal.proposalType ∈ ["metric", "action"] then
    proposal.contentTexts ["target_object"]
  else []

def HasObjectProposal (proposals : List OntologyOnboardingProposalDraft) (name : String) : Prop :=
  ∃ proposal ∈ proposals, proposal.proposalType = "object" ∧
    proposal.content.get "object_type" = some (.string name)

def ProposalsClosed (proposals : List OntologyOnboardingProposalDraft) : Prop :=
  ∀ proposal ∈ proposals, ∀ name ∈ proposal.aboutObjects, HasObjectProposal proposals name

section proposals

variable {runId : Uuid} {seed : OntologySeedPack} {datasets : List OntologyOnboardingDataset}
  {profiles : List OntologyDatasetProfile}

theorem get_asStr_of_mem {fields : List (String × Json)} {key text : String}
    (distinct : (fields.map Prod.fst).Nodup) (member : (key, .string text) ∈ fields) :
    ((Json.ofFields fields).get key).bind Json.asStr = some text := by
  rw [Json.get_ofFields distinct member]
  rfl

theorem aboutObjects_ontologyRelationProposal (id : Uuid) (joinSuccessRate : Rat)
    (mapping : OntologySeedRelationMapping) :
    (ontologyRelationProposal id runId seed joinSuccessRate mapping).aboutObjects =
      [mapping.fromObject, mapping.toObject] := by
  have fromObject : ((ontologyRelationProposal id runId seed joinSuccessRate
      mapping).content.get "from_object").bind Json.asStr = some mapping.fromObject :=
    get_asStr_of_mem (by simp [seedFields]) (by simp [seedFields])
  have toObject : ((ontologyRelationProposal id runId seed joinSuccessRate
      mapping).content.get "to_object").bind Json.asStr = some mapping.toObject :=
    get_asStr_of_mem (by simp [seedFields]) (by simp [seedFields])
  have isRelation : (ontologyRelationProposal id runId seed joinSuccessRate
      mapping).proposalType = "relation" := rfl
  rw [OntologyOnboardingProposalDraft.aboutObjects, if_pos isRelation,
    OntologyOnboardingProposalDraft.contentTexts]
  simp only [List.filterMap_cons, List.filterMap_nil, fromObject, toObject]

theorem aboutObjects_of_target {proposal : OntologyOnboardingProposalDraft} {name : String}
    (hasTarget : proposal.proposalType = "metric" ∨ proposal.proposalType = "action")
    (target : (proposal.content.get "target_object").bind Json.asStr = some name) :
    proposal.aboutObjects = [name] := by
  have notRelation : proposal.proposalType ≠ "relation" := by
    rcases hasTarget with isType | isType <;> rw [isType] <;> decide
  rw [OntologyOnboardingProposalDraft.aboutObjects, if_neg notRelation,
    if_pos (by simpa using hasTarget), OntologyOnboardingProposalDraft.contentTexts]
  simp only [List.filterMap_cons, List.filterMap_nil, target]

theorem aboutObjects_ontologyMetricProposal (id : Uuid) (mapping : OntologySeedMetricMapping) :
    (ontologyMetricProposal id runId seed mapping).aboutObjects = [mapping.targetObject] :=
  aboutObjects_of_target (.inl rfl)
    (get_asStr_of_mem (by simp [seedFields]) (by simp [seedFields]))

theorem aboutObjects_ontologyActionProposal (id : Uuid) (mapping : OntologySeedActionMapping) :
    (ontologyActionProposal id runId seed mapping).aboutObjects = [mapping.targetObject] :=
  aboutObjects_of_target (.inr rfl)
    (get_asStr_of_mem (by simp [seedFields]) (by simp [seedFields]))

/-- What a proposal is about, the seed mentions. -/
theorem aboutObjects_subset_mentions {newId : Nat → Uuid}
    {proposal : OntologyOnboardingProposalDraft}
    (member : proposal ∈ ontologyGenerateSeedProposalsForRun runId seed datasets profiles newId) :
    proposal.aboutObjects ⊆ seed.mentions := by
  obtain ⟨place, inside, rfl⟩ := List.mem_mapIdx.mp member
  have isProposal := List.getElem_mem inside
  generalize (seedProposals runId seed datasets profiles)[place] = propose at isProposal ⊢
  intro name isAbout
  simp only [seedProposals, List.mem_append, List.mem_flatMap, List.mem_filterMap,
    List.mem_map] at isProposal
  rcases isProposal with ((⟨mapping, -, isProposal⟩ | ⟨mapping, isMapping, isProposal⟩) |
    ⟨mapping, isMapping, rfl⟩) | ⟨mapping, isMapping, rfl⟩
  · split at isProposal
    · simp only [List.mem_cons, List.not_mem_nil, or_false] at isProposal
      rcases isProposal with rfl | rfl <;> exact absurd isAbout List.not_mem_nil
    · exact absurd isProposal List.not_mem_nil
  · obtain ⟨candidate, -, rfl⟩ := Option.map_eq_some_iff.mp isProposal
    rw [aboutObjects_ontologyRelationProposal] at isAbout
    exact List.mem_append_left _ (List.mem_append_left _
      (List.mem_flatMap.mpr ⟨mapping, isMapping, isAbout⟩))
  · rw [aboutObjects_ontologyMetricProposal, List.mem_singleton] at isAbout
    exact List.mem_append_left _ (List.mem_append_right _
      (List.mem_map.mpr ⟨mapping, isMapping, isAbout.symm⟩))
  · rw [aboutObjects_ontologyActionProposal, List.mem_singleton] at isAbout
    exact List.mem_append_right _ (List.mem_map.mpr ⟨mapping, isMapping, isAbout.symm⟩)

/-- An object of the seed with a dataset and a profile is proposed. -/
theorem hasObjectProposal_of_source {newId : Nat → Uuid} {mapping : OntologySeedObjectMapping}
    (member : mapping ∈ seed.objects)
    {source : OntologyOnboardingDataset × OntologyDatasetProfile}
    (found : seedObjectSource datasets profiles mapping = some source) :
    HasObjectProposal (ontologyGenerateSeedProposalsForRun runId seed datasets profiles newId)
      mapping.objectName := by
  have isProposed : (fun id => ontologyObjectProposal id runId seed source.1 source.2
      mapping.objectName) ∈ seedProposals runId seed datasets profiles := by
    simp only [seedProposals, List.mem_append, List.mem_flatMap]
    refine .inl (.inl (.inl ⟨mapping, member, ?_⟩))
    rw [found]
    exact List.mem_cons_self
  obtain ⟨place, inside, isPlace⟩ := List.getElem_of_mem isProposed
  refine ⟨ontologyObjectProposal (newId place) runId seed source.1 source.2 mapping.objectName,
    List.mem_mapIdx.mpr ⟨place, inside, by rw [isPlace]⟩, rfl, ?_⟩
  exact Json.get_ofFields (by simp [seedFields]) (by simp [seedFields])

end proposals

/-- The profiler has a profile for every dataset. -/
theorem seedObjectSource_profiled {printJson : Json → String}
    {datasets : List OntologyOnboardingDataset} {mapping : OntologySeedObjectMapping}
    (found : ∃ dataset ∈ datasets, dataset.tableName = mapping.tableName) :
    ∃ source, seedObjectSource datasets (ontologyProfileDemoDatasets printJson datasets) mapping =
      some source := by
  obtain ⟨dataset, member, isTable⟩ := found
  have isDataset : (datasets.find? fun dataset =>
      decide (dataset.tableName = mapping.tableName)).isSome := by
    rw [List.find?_isSome]
    exact ⟨dataset, member, by simpa using isTable⟩
  have isProfile : (ontologyProfileByTable (ontologyProfileDemoDatasets printJson datasets)
      mapping.tableName).isSome := by
    rw [ontologyProfileByTable, List.find?_isSome]
    exact ⟨_, List.mem_map_of_mem member, decide_eq_true isTable⟩
  obtain ⟨first, isFirst⟩ := Option.isSome_iff_exists.mp isDataset
  obtain ⟨profile, isFound⟩ := Option.isSome_iff_exists.mp isProfile
  refine ⟨(first, profile), ?_⟩
  rw [seedObjectSource, isFirst, isFound]
  rfl

theorem proposalsClosed_of_closed {output : OntologySourceAdapterOutput}
    (closed : ClosedOutput output) (printJson : Json → String) (runId : Uuid)
    (newId : Nat → Uuid) :
    ProposalsClosed (ontologyGenerateSeedProposalsForRun runId output.seed output.bundle.datasets
      (ontologyProfileDemoDatasets printJson output.bundle.datasets) newId) := by
  intro proposal member name isAbout
  obtain ⟨object, isObject, rfl⟩ :=
    closed.mentions name (aboutObjects_subset_mentions member isAbout)
  obtain ⟨source, found⟩ := seedObjectSource_profiled (closed.objects object isObject)
  exact hasObjectProposal_of_source isObject found

/-! ### Files -/

section files

variable {characters : CharacterTables} {decoders : SourceDecoders} {bytes : SourceBytes}
  {output : OntologySourceAdapterOutput}

/-- The output of the adapter of some file type. -/
def IsFileOutput (characters : CharacterTables) (output : OntologySourceAdapterOutput) : Prop :=
  ∃ adapterType filename dataset schemaOnly warnings,
    output = fileOutput characters adapterType filename dataset schemaOnly warnings

theorem isFileOutput_adaptCsv {input : CsvAdapterInput}
    (adapts : adaptCsv characters decoders input bytes = .ok output) :
    IsFileOutput characters output := by
  simp only [adaptCsv, bind_eq_ok] at adapts
  obtain ⟨headers, -, rows, -, isOutput⟩ := adapts
  exact ⟨_, _, _, _, _, (Except.ok.inj isOutput).symm⟩

theorem isFileOutput_adaptJson {input : JsonAdapterInput}
    (adapts : adaptJson characters decoders input bytes = .ok output) :
    IsFileOutput characters output := by
  simp only [adaptJson, bind_eq_ok] at adapts
  obtain ⟨root, -, rows, -, isOutput⟩ := adapts
  exact ⟨_, _, _, _, _, (Except.ok.inj isOutput).symm⟩

theorem isFileOutput_adaptParquet {input : ParquetAdapterInput}
    (adapts : adaptParquet characters decoders input bytes = .ok output) :
    IsFileOutput characters output := by
  simp only [adaptParquet, bind_eq_ok] at adapts
  obtain ⟨parsed, -, isOutput⟩ := adapts
  exact ⟨_, _, _, _, _, (Except.ok.inj isOutput).symm⟩

theorem isFileOutput_adaptPdf {input : PdfAdapterInput}
    (adapts : adaptPdf characters decoders input bytes = .ok output) :
    IsFileOutput characters output := by
  simp only [adaptPdf, bind_eq_ok] at adapts
  obtain ⟨text, -, isOutput⟩ := adapts
  exact ⟨_, _, _, _, _, (Except.ok.inj isOutput).symm⟩

theorem isFileOutput_adaptExcel {input : ExcelAdapterInput}
    (adapts : adaptExcel characters decoders input bytes = .ok output) :
    IsFileOutput characters output := by
  simp only [adaptExcel, bind_eq_ok] at adapts
  obtain ⟨workbook, -, range, -, headerRow, -, isOutput⟩ := adapts
  exact ⟨_, _, _, _, _, (Except.ok.inj isOutput).symm⟩

theorem closed_of_isFileOutput (isFile : IsFileOutput characters output) :
    ClosedOutput output := by
  obtain ⟨adapterType, filename, dataset, schemaOnly, warnings, rfl⟩ := isFile
  constructor
  · intro object member
    obtain rfl := List.mem_singleton.mp member
    exact ⟨dataset, List.mem_singleton_self dataset, rfl⟩
  · exact fun name mentioned => absurd mentioned List.not_mem_nil
  · exact fun relation member => absurd member List.not_mem_nil
  · exact fun relation member => absurd member List.not_mem_nil

end files

/-! ### Templates -/

theorem mem_of_mem_splitChars {separator c : Char} {chars piece : List Char}
    (isPiece : piece ∈ splitChars separator chars) (member : c ∈ piece) : c ∈ chars := by
  induction chars generalizing piece with
  | nil =>
      obtain rfl := List.mem_singleton.mp isPiece
      exact member
  | cons first rest inductionHypothesis =>
      rw [splitChars] at isPiece
      split at isPiece
      · rcases List.mem_cons.mp isPiece with rfl | later
        · exact absurd member List.not_mem_nil
        · exact List.mem_cons_of_mem _ (inductionHypothesis later member)
      · split at isPiece
        · obtain rfl := List.mem_singleton.mp isPiece
          obtain rfl := List.mem_singleton.mp member
          exact List.mem_cons_self
        · next piece' pieces isSplit =>
            rw [isSplit] at inductionHypothesis
            rcases List.mem_cons.mp isPiece with rfl | later
            · rcases List.mem_cons.mp member with rfl | inPiece
              · exact List.mem_cons_self
              · exact List.mem_cons_of_mem _ (inductionHypothesis List.mem_cons_self inPiece)
            · exact List.mem_cons_of_mem _
                (inductionHypothesis (List.mem_cons_of_mem _ later) member)

/-- `pascalCase` of an ASCII name. -/
def asciiPascalCase (text : String) : String :=
  String.ofList ((splitChars '_' text.toList).flatMap capitalized)

theorem pascalCase_of_ascii (characters : CharacterTables) {text : String}
    (ascii : isAsciiText text = true) : pascalCase characters text = asciiPascalCase text := by
  rw [isAsciiText, List.all_eq_true] at ascii
  rw [pascalCase, asciiPascalCase, List.flatMap_congr]
  intro word isWord
  cases word with
  | nil => rfl
  | cons first rest =>
      have below := ascii first (mem_of_mem_splitChars isWord List.mem_cons_self)
      rw [pascalWord, characters.toUppercase_ascii first (of_decide_eq_true below), capitalized]
      rfl

/-- What a template speaks of is among the tables, by their names in ASCII. -/
def ClosedTemplate (template : PlatformTemplate) (tables : List TableSpec) : Prop :=
  (∀ name ∈ mentionedObjects template.relations template.metrics template.actions,
    ∃ table ∈ tables, asciiPascalCase table.1 = name) ∧
  (∀ relation ∈ template.relations, ∃ table ∈ tables,
    table.1 = relation.sourceTable ∧ relation.sourceField ∈ table.2.map Prod.fst) ∧
  ∀ relation ∈ template.relations, ∃ table ∈ tables, table.1 = relation.referenceTable

instance (template : PlatformTemplate) (tables : List TableSpec) :
    Decidable (ClosedTemplate template tables) := by
  unfold ClosedTemplate
  infer_instance

theorem closedTemplate_mono {template : PlatformTemplate} {fewer more : List TableSpec}
    (subset : fewer ⊆ more) (closed : ClosedTemplate template fewer) :
    ClosedTemplate template more := by
  obtain ⟨mentions, sources, references⟩ := closed
  refine ⟨fun name mentioned => ?_, fun relation member => ?_, fun relation member => ?_⟩
  · obtain ⟨table, isTable, named⟩ := mentions name mentioned
    exact ⟨table, subset isTable, named⟩
  · obtain ⟨table, isTable, holds⟩ := sources relation member
    exact ⟨table, subset isTable, holds⟩
  · obtain ⟨table, isTable, holds⟩ := references relation member
    exact ⟨table, subset isTable, holds⟩

theorem closed_buildPlatformOutput_iff {characters : CharacterTables}
    {template : PlatformTemplate} {instanceLabel : Option String} {tables : List TableSpec}
    (ascii : ∀ table ∈ tables, isAsciiText table.1 = true) :
    ClosedOutput (buildPlatformOutput characters template instanceLabel tables) ↔
      ClosedTemplate template tables := by
  constructor
  · intro closed
    refine ⟨fun name mentioned => ?_, fun relation member => ?_, fun relation member => ?_⟩
    · obtain ⟨object, isObject, named⟩ := closed.mentions name mentioned
      obtain ⟨table, isTable, rfl⟩ := List.mem_map.mp isObject
      exact ⟨table, isTable, by rw [← named, pascalCase_of_ascii characters (ascii table isTable)]⟩
    · obtain ⟨dataset, isDataset, named, field, isField, isSource⟩ :=
        closed.sources relation member
      obtain ⟨table, isTable, rfl⟩ := List.mem_map.mp isDataset
      obtain ⟨spec, isSpec, rfl⟩ := List.mem_map.mp isField
      exact ⟨table, isTable, named, List.mem_map.mpr ⟨spec, isSpec, isSource⟩⟩
    · obtain ⟨dataset, isDataset, named⟩ := closed.references relation member
      obtain ⟨table, isTable, rfl⟩ := List.mem_map.mp isDataset
      exact ⟨table, isTable, named⟩
  · rintro ⟨mentions, sources, references⟩
    constructor
    · intro object isObject
      obtain ⟨table, isTable, rfl⟩ := List.mem_map.mp isObject
      exact ⟨_, List.mem_map_of_mem isTable, rfl⟩
    · intro name mentioned
      obtain ⟨table, isTable, named⟩ := mentions name mentioned
      exact ⟨_, List.mem_map_of_mem isTable,
        (pascalCase_of_ascii characters (ascii table isTable)).trans named⟩
    · intro relation member
      obtain ⟨table, isTable, named, isSource⟩ := sources relation member
      obtain ⟨spec, isSpec, isField⟩ := List.mem_map.mp isSource
      exact ⟨_, List.mem_map_of_mem isTable, named, _, List.mem_map_of_mem isSpec, isField⟩
    · intro relation member
      obtain ⟨table, isTable, named⟩ := references relation member
      exact ⟨_, List.mem_map_of_mem isTable, named⟩

/-! ### Platforms -/

section parts

variable {Part : Type} {template : PlatformTemplate} {tablesFor : Part → List TableSpec}

theorem mem_of_closedTemplate {part : Part} (name : String)
    (mentioned : name ∈ mentionedObjects template.relations template.metrics template.actions)
    (only : ∀ other, (∃ table ∈ tablesFor other, asciiPascalCase table.1 = name) → other = part)
    {parts : List Part} (closed : ClosedTemplate template (parts.flatMap tablesFor)) :
    part ∈ parts := by
  obtain ⟨table, isTable, named⟩ := closed.1 name mentioned
  obtain ⟨other, isPart, hasTable⟩ := List.mem_flatMap.mp isTable
  obtain rfl := only other ⟨table, hasTable, named⟩
  exact isPart

theorem closedTemplate_of_parts {needed parts : List Part}
    (closed : ClosedTemplate template (needed.flatMap tablesFor)) (has : needed ⊆ parts) :
    ClosedTemplate template (parts.flatMap tablesFor) := by
  refine closedTemplate_mono (fun table isTable => ?_) closed
  obtain ⟨part, isPart, hasTable⟩ := List.mem_flatMap.mp isTable
  exact List.mem_flatMap.mpr ⟨part, has isPart, hasTable⟩

end parts

theorem closedTemplate_sap_iff {modules : List SapModule} :
    ClosedTemplate sapS4HanaTemplate (modules.flatMap sapTablesFor) ↔
      .finance ∈ modules ∧ .sales ∈ modules ∧ .materials ∈ modules := by
  constructor
  · intro closed
    refine ⟨?_, ?_, ?_⟩
    · refine mem_of_closedTemplate "Bkpf" (by decide) (fun other => ?_) closed
      cases other <;> decide
    · refine mem_of_closedTemplate "Vbak" (by decide) (fun other => ?_) closed
      cases other <;> decide
    · refine mem_of_closedTemplate "Mara" (by decide) (fun other => ?_) closed
      cases other <;> decide
  · rintro ⟨finance, sales, materials⟩
    have needed : ClosedTemplate sapS4HanaTemplate
        ([SapModule.finance, .sales, .materials].flatMap sapTablesFor) := by decide
    refine closedTemplate_of_parts needed ?_
    simp [finance, sales, materials]

theorem isAsciiText_sapTable (part : SapModule) :
    ∀ table ∈ sapTablesFor part, isAsciiText table.1 = true := by
  cases part <;> decide

theorem closedTemplate_netsuite_iff {objects : List NetsuiteObject} :
    ClosedTemplate oracleNetsuiteTemplate (objects.map nsTableFor) ↔
      .customer ∈ objects ∧ .salesOrder ∈ objects ∧ .invoice ∈ objects := by
  rw [← List.flatMap_pure_eq_map]
  constructor
  · intro closed
    refine ⟨?_, ?_, ?_⟩
    · refine mem_of_closedTemplate "Customer" (by decide) (fun other => ?_) closed
      cases other <;> decide
    · refine mem_of_closedTemplate "SalesOrder" (by decide) (fun other => ?_) closed
      cases other <;> decide
    · refine mem_of_closedTemplate "Invoice" (by decide) (fun other => ?_) closed
      cases other <;> decide
  · rintro ⟨customer, salesOrder, invoice⟩
    have needed : ClosedTemplate oracleNetsuiteTemplate
        ([NetsuiteObject.customer, .salesOrder, .invoice].flatMap (pure ∘ nsTableFor)) := by decide
    refine closedTemplate_of_parts needed ?_
    simp [customer, salesOrder, invoice]

/-! ### Platforms that are never closed -/

section unmet

variable {characters : CharacterTables} {decoders : SourceDecoders} {template : PlatformTemplate}

/-- The template speaks of an object by a name that no table gives. -/
theorem not_closed_of_template {output : OntologySourceAdapterOutput} {tables : List TableSpec}
    (name : String)
    (mentioned : name ∈ mentionedObjects template.relations template.metrics template.actions)
    (unmet : ∀ table ∈ tables, isAsciiText table.1 = true ∧ asciiPascalCase table.1 ≠ name)
    {instanceLabel : Option String}
    (sameSeed : output.seed =
      (buildPlatformOutput characters template instanceLabel tables).seed) :
    ¬ ClosedOutput output := by
  refine @not_closed_of_unmet output name ?_ ?_
  · rw [sameSeed]
    exact mentioned
  · rw [sameSeed]
    intro object isObject
    obtain ⟨table, isTable, rfl⟩ := List.mem_map.mp isObject
    obtain ⟨ascii, differs⟩ := unmet table isTable
    rw [pascalCase_of_ascii characters ascii]
    exact differs

theorem seed_overlayExportCsv {output : OntologySourceAdapterOutput}
    {exportFile : Option RawFilePayload} {bytes : Option SourceBytes}
    {tableName sourceSystem : String} :
    (overlayExportCsv characters decoders output exportFile bytes tableName sourceSystem).seed =
      output.seed := by
  unfold overlayExportCsv
  dsimp only
  split
  · rfl
  · split
    · rfl
    · split <;> rfl

theorem not_closed_adaptCommerce {Table : Type} {allTables : List Table}
    {tableFor : Table → TableSpec} {primaryTable : String} {input : CommerceAdapterInput Table}
    {bytes : Option SourceBytes} (name : String)
    (mentioned : name ∈ mentionedObjects template.relations template.metrics template.actions)
    (unmet : ∀ table, isAsciiText (tableFor table).1 = true ∧
      asciiPascalCase (tableFor table).1 ≠ name) :
    ¬ ClosedOutput (adaptCommerce characters decoders template allTables tableFor primaryTable
      input bytes) := by
  refine not_closed_of_template name mentioned ?_ seed_overlayExportCsv
  intro spec isSpec
  obtain ⟨table, -, rfl⟩ := List.mem_map.mp isSpec
  exact unmet table

theorem not_closed_platform {Part : Type} {parts : List Part} {tableFor : Part → TableSpec}
    {instanceLabel : Option String} (name : String)
    (mentioned : name ∈ mentionedObjects template.relations template.metrics template.actions)
    (unmet : ∀ part, isAsciiText (tableFor part).1 = true ∧
      asciiPascalCase (tableFor part).1 ≠ name) :
    ¬ ClosedOutput (buildPlatformOutput characters template instanceLabel
      (parts.map tableFor)) := by
  refine not_closed_of_template name mentioned ?_ rfl
  intro spec isSpec
  obtain ⟨part, -, rfl⟩ := List.mem_map.mp isSpec
  exact unmet part

theorem not_closed_adaptSalesforce {input : SalesforceAdapterInput} :
    ¬ ClosedOutput (adaptSalesforce characters input) :=
  not_closed_platform "Pricebook2Entry" (by decide) fun part => by cases part <;> decide

theorem not_closed_adaptHubspot {input : HubspotAdapterInput} :
    ¬ ClosedOutput (adaptHubspot characters input) :=
  not_closed_platform "Contact" (by decide) fun part => by cases part <;> decide

theorem not_closed_adaptAmazonSellerCentral {input : AmazonSellerCentralAdapterInput}
    {bytes : Option SourceBytes} :
    ¬ ClosedOutput (adaptAmazonSellerCentral characters decoders input bytes) :=
  not_closed_adaptCommerce "Order" (by decide) fun table => by cases table <;> decide

theorem not_closed_adaptTaobao {input : TaobaoAdapterInput} {bytes : Option SourceBytes} :
    ¬ ClosedOutput (adaptTaobao characters decoders input bytes) :=
  not_closed_adaptCommerce "Trade" (by decide) fun table => by cases table <;> decide

theorem not_closed_adaptTiktokShop {input : TiktokShopAdapterInput}
    {bytes : Option SourceBytes} :
    ¬ ClosedOutput (adaptTiktokShop characters decoders input bytes) :=
  not_closed_adaptCommerce "Order" (by decide) fun table => by cases table <;> decide

theorem not_closed_adaptTemu {input : TemuAdapterInput} {bytes : Option SourceBytes} :
    ¬ ClosedOutput (adaptTemu characters decoders input bytes) :=
  not_closed_adaptCommerce "Order" (by decide) fun table => by cases table <;> decide

theorem not_closed_adaptShopify {input : ShopifyAdapterInput} {bytes : Option SourceBytes} :
    ¬ ClosedOutput (adaptShopify characters decoders input bytes) :=
  not_closed_adaptCommerce "Order" (by decide) fun table => by cases table <;> decide

theorem not_closed_adaptWoocommerce {input : WoocommerceAdapterInput}
    {bytes : Option SourceBytes} :
    ¬ ClosedOutput (adaptWoocommerce characters decoders input bytes) :=
  not_closed_adaptCommerce "Order" (by decide) fun table => by cases table <;> decide

end unmet

/-! ### All sources -/

/-- A file, or a platform whose selection has every object that its template speaks of. -/
def ClosedSource : OntologySourcePayload → Prop
  | .csv _ | .json _ | .parquet _ | .pdf _ | .excel _ => True
  | .sapS4Hana input =>
      let modules := input.parts.getD allSapModules
      .finance ∈ modules ∧ .sales ∈ modules ∧ .materials ∈ modules
  | .oracleNetsuite input =>
      let objects := input.parts.getD allNetsuiteObjects
      .customer ∈ objects ∧ .salesOrder ∈ objects ∧ .invoice ∈ objects
  | _ => False

section sources

variable {characters : CharacterTables} {decoders : SourceDecoders}
  {payload : OntologySourcePayload} {bytes : Option SourceBytes}
  {output : OntologySourceAdapterOutput}

theorem closedOutput_iff (adapts : adaptPayload characters decoders payload bytes = .ok output) :
    ClosedOutput output ↔ ClosedSource payload := by
  unfold adaptPayload at adapts
  cases payload with
  | csv input =>
      obtain ⟨raw, -, adapts⟩ := bind_eq_ok.mp adapts
      exact iff_of_true (closed_of_isFileOutput (isFileOutput_adaptCsv adapts)) trivial
  | json input =>
      obtain ⟨raw, -, adapts⟩ := bind_eq_ok.mp adapts
      exact iff_of_true (closed_of_isFileOutput (isFileOutput_adaptJson adapts)) trivial
  | parquet input =>
      obtain ⟨raw, -, adapts⟩ := bind_eq_ok.mp adapts
      exact iff_of_true (closed_of_isFileOutput (isFileOutput_adaptParquet adapts)) trivial
  | pdf input =>
      obtain ⟨raw, -, adapts⟩ := bind_eq_ok.mp adapts
      exact iff_of_true (closed_of_isFileOutput (isFileOutput_adaptPdf adapts)) trivial
  | excel input =>
      obtain ⟨raw, -, adapts⟩ := bind_eq_ok.mp adapts
      exact iff_of_true (closed_of_isFileOutput (isFileOutput_adaptExcel adapts)) trivial
  | sapS4Hana input =>
      obtain rfl := Except.ok.inj adapts
      rw [adaptSapS4Hana, closed_buildPlatformOutput_iff, closedTemplate_sap_iff]
      · rfl
      · intro table isTable
        obtain ⟨part, -, hasTable⟩ := List.mem_flatMap.mp isTable
        exact isAsciiText_sapTable part table hasTable
  | oracleNetsuite input =>
      obtain rfl := Except.ok.inj adapts
      rw [adaptOracleNetsuite, closed_buildPlatformOutput_iff, closedTemplate_netsuite_iff]
      · rfl
      · intro table isTable
        obtain ⟨part, -, rfl⟩ := List.mem_map.mp isTable
        cases part <;> decide
  | salesforce input =>
      obtain rfl := Except.ok.inj adapts
      exact iff_of_false not_closed_adaptSalesforce not_false
  | hubspot input =>
      obtain rfl := Except.ok.inj adapts
      exact iff_of_false not_closed_adaptHubspot not_false
  | amazonSellerCentral input =>
      obtain rfl := Except.ok.inj adapts
      exact iff_of_false not_closed_adaptAmazonSellerCentral not_false
  | taobao input =>
      obtain rfl := Except.ok.inj adapts
      exact iff_of_false not_closed_adaptTaobao not_false
  | tiktokShop input =>
      obtain rfl := Except.ok.inj adapts
      exact iff_of_false not_closed_adaptTiktokShop not_false
  | temu input =>
      obtain rfl := Except.ok.inj adapts
      exact iff_of_false not_closed_adaptTemu not_false
  | shopify input =>
      obtain rfl := Except.ok.inj adapts
      exact iff_of_false not_closed_adaptShopify not_false
  | woocommerce input =>
      obtain rfl := Except.ok.inj adapts
      exact iff_of_false not_closed_adaptWoocommerce not_false

/-- The output is closed, and so is every list of proposals that is made of it. -/
def ClosedAdaptation (output : OntologySourceAdapterOutput) : Prop :=
  ClosedOutput output ∧ ∀ printJson runId newId,
    ProposalsClosed (ontologyGenerateSeedProposalsForRun runId output.seed output.bundle.datasets
      (ontologyProfileDemoDatasets printJson output.bundle.datasets) newId)

/-- An adapter's output is closed exactly when its source is. -/
theorem adaptPayload_closed_iff
    (adapts : adaptPayload characters decoders payload bytes = .ok output) :
    ClosedAdaptation output ↔ ClosedSource payload := by
  rw [← closedOutput_iff adapts]
  exact ⟨fun adaptation => adaptation.1, fun closed =>
    ⟨closed, fun printJson runId newId => proposalsClosed_of_closed closed printJson runId newId⟩⟩

end sources

def refusingDecoders : SourceDecoders where
  base64 _ := none
  csvHeaders _ _ := .error ""
  csvRecords _ _ := []
  json _ := .error ""
  printNumber _ := ""
  parquet _ := .error ""
  pdfText _ := .error ""
  workbook _ := .error ""
  displayCell _ := ""

theorem sap_default_closed :
    ClosedAdaptation (adaptSapS4Hana asciiCharacters { parts := none, instanceLabel := none }) :=
  (@adaptPayload_closed_iff asciiCharacters refusingDecoders
    (.sapS4Hana { parts := none, instanceLabel := none }) none _ rfl).mpr
    ⟨by decide, by decide, by decide⟩

/-- The seed of a shop speaks of an order, and its tables give an object named for orders. -/
theorem shopify_default_not_closed :
    ¬∀ payload bytes output,
      adaptPayload asciiCharacters refusingDecoders payload bytes = .ok output →
        ClosedAdaptation output := by
  intro always
  have closed := always
    (.shopify { exportFile := none, tables := none, instanceLabel := none }) none _ rfl
  exact not_closed_adaptShopify closed.1

end MandoForge
