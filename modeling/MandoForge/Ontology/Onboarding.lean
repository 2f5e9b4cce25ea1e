/-
Module: MandoForge.Ontology.Onboarding
Purpose: An onboarding run up to its review: the datasets of a source, what the
  profiler finds in them, and the proposals that a seed pack makes of the two.
Trusted boundary: the text of a JSON value belongs to another crate; `printJson` stands
  for it. A rate is the exact quotient of its counts.
Main exports: OntologySourceBundle, ontologyProfileDemoDatasets
-/
import MandoForge.Ontology.ActionContracts
import MandoForge.Semantic.References

namespace MandoForge

/-! ### Sources and seeds -/

structure OntologyOnboardingField where
  name : String
  fieldType : String
  sampleValues : List Json
deriving DecidableEq

structure OntologyOnboardingDataset where
  tableName : String
  sourceSystem : String
  sourceObject : String
  fields : List OntologyOnboardingField
  rows : List Json
deriving DecidableEq

structure OntologySourceBundle where
  industry : String
  sourceMode : String
  toolNamespace : String
  datasets : List OntologyOnboardingDataset
deriving DecidableEq

structure OntologySeedObjectMapping where
  tableName : String
  objectName : String
deriving DecidableEq, Repr

structure OntologySeedRelationMapping where
  name : String
  fromObject : String
  relation : String
  toObject : String
  sourceTable : String
  sourceField : String
  referenceTable : String
deriving DecidableEq, Repr

structure OntologySeedMetricMapping where
  name : String
  targetObject : String
  expression : String
  evidence : Json
deriving DecidableEq

structure OntologySeedActionMapping where
  name : String
  targetObject : String
  approvalRequired : Bool
  inputs : Json
  reads : Json
  effects : Json
  executor : Json
  transactionProfile : OntologyActionTransactionProfile
deriving DecidableEq

structure OntologySeedPack where
  industry : String
  domainScope : String
  sourceMode : String
  toolNamespace : String
  objects : List OntologySeedObjectMapping
  relations : List OntologySeedRelationMapping
  metrics : List OntologySeedMetricMapping
  actions : List OntologySeedActionMapping
deriving DecidableEq

structure OntologyForeignKeyCandidate where
  field : String
  referencesTable : String
  referencesField : String
  joinSuccessRate : Rat
deriving DecidableEq

structure OntologyDatasetProfile where
  tableName : String
  rowCount : Nat
  primaryKeyCandidates : List String
  foreignKeyCandidates : List OntologyForeignKeyCandidate
  enumCandidates : List String
  timeDimensions : List String
  currencyFields : List String
  piiCandidates : List String
  fieldNullRates : Json
  fieldUniqueness : Json
deriving DecidableEq

/-! ### Texts -/

/-- `str::ends_with`. -/
def endsWithText (text suffix : String) : Bool := suffix.toList.isSuffixOf text.toList

/-- `str::strip_suffix`. -/
def stripTextSuffix (text suffix : String) : Option String :=
  (text.toList.dropSuffix? suffix.toList).map String.ofList

/-- The reversed text without the `_id`s at its end. -/
def dropIdEndings : List Char → List Char
  | 'd' :: 'i' :: '_' :: rest => dropIdEndings rest
  | chars => chars

/-- `trim_end_matches("_id")`. -/
def trimIdEndings (text : String) : String :=
  String.ofList (dropIdEndings text.toList.reverse).reverse

/-! ### The profiler -/

def ontologyIsCurrencyField (fieldName : String) : Bool :=
  let lower := toAsciiLowercase fieldName
  containsText lower "price" || containsText lower "amount" || containsText lower "total"

def ontologyIsPiiField (fieldName : String) : Bool :=
  let lower := toAsciiLowercase fieldName
  containsText lower "email" || containsText lower "phone" || containsText lower "address"

def ontologyFieldValues (dataset : OntologyOnboardingDataset) (fieldName : String) : List Json :=
  dataset.rows.map fun row => row.index fieldName

/-- The tables that the profiler expects under another name than the field's. -/
def referenceTableNames : List (String × String) := [
  ("customer", "customers"), ("order", "orders"), ("product", "products"), ("sku", "skus"),
  ("refund", "refunds"), ("ticket", "tickets"), ("inventory", "inventory"),
  ("insured", "insureds"), ("policy", "policies"), ("claim", "claims"), ("broker", "brokers")]

def ontologyExpectedReferenceTable (fieldName : String) : Option String :=
  (stripTextSuffix fieldName "_id").map fun base =>
    (referenceTableNames.lookup base).getD base

/-- What the profiler counts of a field. -/
structure FieldCounts where
  nonNullCount : Nat
  distinctCount : Nat

section profiler

variable (printJson : Json → String)

def ontologyNormalizedValueKey : Json → String
  | .string value => value
  | value => printJson value

def ontologyDistinctValueCount (values : List Json) : Nat :=
  ((values.filter fun value => decide (value ≠ .null)).map
    (ontologyNormalizedValueKey printJson)).dedup.length

def ontologyJoinSuccessRate (dataset : OntologyOnboardingDataset) (fieldName : String)
    (referenceDataset : OntologyOnboardingDataset) (referenceField : String) : Rat :=
  let referenceValues := ((referenceDataset.rows.filterMap fun row => row.get referenceField).filter
    fun value => decide (value ≠ .null)).map (ontologyNormalizedValueKey printJson)
  let values := (dataset.rows.filterMap fun row => row.get fieldName).filter
    fun value => decide (value ≠ .null)
  if values = [] then 0
  else
    ((values.filter fun value =>
      decide (ontologyNormalizedValueKey printJson value ∈ referenceValues)).length : Rat) /
        values.length

def ontologyForeignKeyCandidates (dataset : OntologyOnboardingDataset) (fieldName : String)
    (datasets : List OntologyOnboardingDataset) : List OntologyForeignKeyCandidate :=
  let expected := (ontologyExpectedReferenceTable fieldName).getD (trimIdEndings fieldName)
  let candidates := datasets.filter fun candidate =>
    decide (candidate.tableName ≠ dataset.tableName) && decide (candidate.tableName = expected) &&
      candidate.fields.any fun field => decide (field.name = "id")
  candidates.filterMap fun candidate =>
    let joinSuccessRate := ontologyJoinSuccessRate printJson dataset fieldName candidate "id"
    if 0 < joinSuccessRate then
      some {
        field := fieldName
        referencesTable := candidate.tableName
        referencesField := "id"
        joinSuccessRate }
    else none

def fieldCounts (dataset : OntologyOnboardingDataset) (field : OntologyOnboardingField) :
    FieldCounts :=
  let values := ontologyFieldValues dataset field.name
  { nonNullCount := (values.filter fun value => decide (value ≠ .null)).length
    distinctCount := ontologyDistinctValueCount printJson values }

/-- `null_rate`, over the rows of the dataset. -/
def FieldCounts.nullRate (counts : FieldCounts) (rowCount : Nat) : Rat :=
  if rowCount = 0 then 0 else ((rowCount - counts.nonNullCount : Nat) : Rat) / rowCount

def FieldCounts.uniqueness (counts : FieldCounts) : Rat :=
  if counts.nonNullCount = 0 then 0 else (counts.distinctCount : Rat) / counts.nonNullCount

def ontologyProfileDataset (datasets : List OntologyOnboardingDataset)
    (dataset : OntologyOnboardingDataset) : OntologyDatasetProfile :=
  let rowCount := dataset.rows.length
  let counts := fieldCounts printJson dataset
  -- the loop over the fields adds the names of some of them to each list
  let namesWhere := fun (passes : OntologyOnboardingField → Bool) =>
    (dataset.fields.filter passes).map OntologyOnboardingField.name
  let rates := fun (rate : OntologyOnboardingField → Rat) =>
    Json.ofFields (dataset.fields.map fun field => (field.name, .number (.float (rate field))))
  { tableName := dataset.tableName
    rowCount
    primaryKeyCandidates := namesWhere fun field =>
      decide (0 < rowCount ∧ (counts field).nonNullCount = rowCount ∧
        (counts field).distinctCount = rowCount)
    foreignKeyCandidates :=
      (dataset.fields.filter fun field => endsWithText field.name "_id").flatMap fun field =>
        ontologyForeignKeyCandidates printJson dataset field.name datasets
    enumCandidates := namesWhere fun field =>
      decide (0 < (counts field).distinctCount ∧ (counts field).distinctCount ≤ 8 ∧
        (counts field).uniqueness < 1)
    timeDimensions := namesWhere fun field => endsWithText field.name "_at"
    currencyFields := namesWhere fun field => ontologyIsCurrencyField field.name
    piiCandidates := namesWhere fun field => ontologyIsPiiField field.name
    fieldNullRates := rates fun field => (counts field).nullRate rowCount
    fieldUniqueness := rates fun field => (counts field).uniqueness }

def ontologyProfileDemoDatasets (datasets : List OntologyOnboardingDataset) :
    List OntologyDatasetProfile :=
  datasets.map (ontologyProfileDataset printJson datasets)

end profiler

/-! ### Proposals -/

def ontologyActionExecutorIsCrossSystem (executor : Json) : Bool :=
  ((executor.get "type").bind Json.asStr).any fun kind =>
    decide (kind ∈ ["http_api", "external_api", "webhook", "mcp_connector"])

/-- The first of the candidates, or `id`. -/
def OntologyDatasetProfile.primaryKey (profile : OntologyDatasetProfile) : String :=
  profile.primaryKeyCandidates.head?.getD "id"

section proposals

variable (id runId : Uuid) (seed : OntologySeedPack)

/-- `ontology_proposal`, without the confidence and the recommendation. -/
def ontologyProposal (proposalType name sourceMapping : String) (evidence content : Json) :
    OntologyOnboardingProposalDraft where
  id := id
  runId := runId
  proposalType := proposalType
  name := name
  sourceMapping := sourceMapping
  evidence := evidence
  reviewStatus := "pending"
  content := content

/-- The fields that say which seed made a proposal. -/
def seedFields : List (String × Json) := [
  ("industry", .string seed.industry),
  ("source_mode", .string seed.sourceMode),
  ("domain_scope", .string seed.domainScope),
  ("tool_namespace", .string seed.toolNamespace)]

def ontologyObjectProposal (dataset : OntologyOnboardingDataset)
    (profile : OntologyDatasetProfile) (objectName : String) : OntologyOnboardingProposalDraft :=
  ontologyProposal id runId "object" objectName
    (dataset.sourceSystem ++ "." ++ dataset.tableName ++ " -> " ++ objectName)
    (.ofFields (seedFields seed ++ [
      ("table", .string dataset.tableName),
      ("row_count", .ofNat profile.rowCount),
      ("primary_key_candidates", .ofStrings profile.primaryKeyCandidates),
      ("time_dimensions", .ofStrings profile.timeDimensions),
      ("currency_fields", .ofStrings profile.currencyFields),
      ("pii_candidates", .ofStrings profile.piiCandidates),
      ("seed_ontology_match", .string objectName)]))
    (.ofFields (seedFields seed ++ [
      ("object_type", .string objectName),
      ("source_table", .string dataset.tableName),
      ("source_system", .string dataset.sourceSystem),
      ("primary_key", .string profile.primaryKey),
      ("properties", .array (dataset.fields.map fun field => .ofFields [
        ("name", .string field.name),
        ("type", .string field.fieldType),
        ("sample_values", .array field.sampleValues)]))]))

def ontologyLogicRuleProposal (dataset : OntologyOnboardingDataset)
    (profile : OntologyDatasetProfile) (objectName : String) : OntologyOnboardingProposalDraft :=
  let ruleName := objectName ++ " identity rule"
  ontologyProposal id runId "logic" ruleName
    ("validate " ++ objectName ++ "." ++ profile.primaryKey ++ " from " ++ dataset.tableName)
    (.ofFields (seedFields seed ++ [
      ("source_table", .string dataset.tableName),
      ("target_object", .string objectName),
      ("primary_key", .string profile.primaryKey),
      ("primary_key_candidates", .ofStrings profile.primaryKeyCandidates),
      ("enum_candidates", .ofStrings profile.enumCandidates),
      ("pii_candidates", .ofStrings profile.piiCandidates),
      ("field_null_rates", profile.fieldNullRates)]))
    (.ofFields (seedFields seed ++ [
      ("logic_rule", .string ruleName),
      ("target_object", .string objectName),
      ("source_table", .string dataset.tableName),
      ("rule_kind", .string "validation"),
      ("enabled", .bool false),
      ("expression", .ofFields [
        ("type", .string "primary_key_unique"),
        ("field", .string profile.primaryKey),
        ("requires_non_null", .bool true)]),
      ("policy", .ofFields [
        ("requires_owner_review", .bool true),
        ("disabled_until_publish_policy", .bool true)])]))

def ontologyRelationProposal (joinSuccessRate : Rat) (mapping : OntologySeedRelationMapping) :
    OntologyOnboardingProposalDraft :=
  let sourceMapping :=
    mapping.sourceTable ++ "." ++ mapping.sourceField ++ " = " ++ mapping.referenceTable ++ ".id"
  ontologyProposal id runId "relation" mapping.name sourceMapping
    (.ofFields (seedFields seed ++ [
      ("source_table", .string mapping.sourceTable),
      ("source_field", .string mapping.sourceField),
      ("references_table", .string mapping.referenceTable),
      ("references_field", .string "id"),
      ("join_success_rate", .number (.float joinSuccessRate)),
      ("seed_relation_match", .string mapping.name)]))
    (.ofFields (seedFields seed ++ [
      ("from_object", .string mapping.fromObject),
      ("relation", .string mapping.relation),
      ("to_object", .string mapping.toObject),
      ("link_type", .string mapping.name),
      ("source_mapping", .string sourceMapping)]))

def ontologyMetricProposal (mapping : OntologySeedMetricMapping) :
    OntologyOnboardingProposalDraft :=
  ontologyProposal id runId "metric" mapping.name mapping.expression
    (.ofFields (seedFields seed ++ [
      ("semantic_model", .string seed.domainScope),
      ("target_object", .string mapping.targetObject),
      ("expression", .string mapping.expression),
      ("definition_evidence", mapping.evidence)]))
    (.ofFields (seedFields seed ++ [
      ("metric_name", .string mapping.name),
      ("target_object", .string mapping.targetObject),
      ("expression", .string mapping.expression),
      ("governance", .ofFields [
        ("requires_owner_review", .bool true),
        ("downstream_tools_use_canonical_definition", .bool true)])]))

/-- The action changes another system. -/
def OntologySeedActionMapping.crossSystemWrite (mapping : OntologySeedActionMapping) : Bool :=
  ontologyActionHasEffects mapping.effects && ontologyActionExecutorIsCrossSystem mapping.executor

def OntologySeedActionMapping.needsApproval (mapping : OntologySeedActionMapping) : Bool :=
  mapping.approvalRequired ||
    (mapping.crossSystemWrite && decide (mapping.transactionProfile = .proposalOnly))

def ontologyActionProposal (mapping : OntologySeedActionMapping) :
    OntologyOnboardingProposalDraft :=
  let transactionProfile := Json.string mapping.transactionProfile.text
  let executionMode := Json.string (ontologyActionExecutionMode mapping.transactionProfile
    (!ontologyActionHasEffects mapping.effects))
  let approvalRequired := Json.bool mapping.needsApproval
  let crossSystemWrite := Json.bool mapping.crossSystemWrite
  ontologyProposal id runId "action" mapping.name (mapping.name ++ " -> " ++ mapping.targetObject)
    (.ofFields (seedFields seed ++ [
      ("target_object", .string mapping.targetObject),
      ("contract_source", .string "demo_openapi_and_sop_seed"),
      ("approval_required", approvalRequired),
      ("effect_count", .ofNat ((mapping.effects.asArray.map List.length).getD 0)),
      ("transaction_profile", transactionProfile),
      ("execution_mode", executionMode),
      ("cross_system_write", crossSystemWrite)]))
    (.ofFields (seedFields seed ++ [
      ("action", .string mapping.name),
      ("target_object", .string mapping.targetObject),
      ("inputs", mapping.inputs),
      ("reads", mapping.reads),
      ("effects", mapping.effects),
      ("policy", .ofFields [
        ("approval_required", approvalRequired),
        ("approval_required_if",
          if mapping.needsApproval then .string "external_write_or_financial_impact" else .null),
        ("transaction_profile", transactionProfile),
        ("cross_system_write", crossSystemWrite)]),
      ("transaction_profile", transactionProfile),
      ("transaction_policy", .ofFields [
        ("profile", transactionProfile),
        ("execution_mode", executionMode),
        ("requires_human_approval", approvalRequired),
        ("compensation_required", .bool (decide (mapping.transactionProfile = .saga))),
        ("cross_system_write", crossSystemWrite)]),
      ("executor", mapping.executor),
      ("audit_event", .string (seed.toolNamespace ++ "." ++ mapping.name))]))

end proposals

/-! ### The proposals of a seed -/

def ontologyProfileByTable (profiles : List OntologyDatasetProfile) (tableName : String) :
    Option OntologyDatasetProfile :=
  profiles.find? fun profile => decide (profile.tableName = tableName)

def ontologyProfileFk (profile : OntologyDatasetProfile)
    (field referencesTable referencesField : String) : Option OntologyForeignKeyCandidate :=
  profile.foreignKeyCandidates.find? fun candidate =>
    decide (candidate.field = field ∧ candidate.referencesTable = referencesTable ∧
      candidate.referencesField = referencesField)

section generator

variable (runId : Uuid) (seed : OntologySeedPack) (datasets : List OntologyOnboardingDataset)
  (profiles : List OntologyDatasetProfile)

/-- The dataset and the profile that an object of the seed needs. -/
def seedObjectSource (mapping : OntologySeedObjectMapping) :
    Option (OntologyOnboardingDataset × OntologyDatasetProfile) := do
  let dataset ← datasets.find? fun dataset => decide (dataset.tableName = mapping.tableName)
  let profile ← ontologyProfileByTable profiles mapping.tableName
  return (dataset, profile)

/-- The foreign key that a relation of the seed needs. -/
def seedRelationKey (mapping : OntologySeedRelationMapping) : Option OntologyForeignKeyCandidate :=
  (ontologyProfileByTable profiles mapping.sourceTable).bind fun profile =>
    ontologyProfileFk profile mapping.sourceField mapping.referenceTable "id"

/-- The proposals in their order, each still without its identifier. -/
def seedProposals : List (Uuid → OntologyOnboardingProposalDraft) :=
  (seed.objects.flatMap fun mapping =>
    match seedObjectSource datasets profiles mapping with
    | some (dataset, profile) => [
        fun id => ontologyObjectProposal id runId seed dataset profile mapping.objectName,
        fun id => ontologyLogicRuleProposal id runId seed dataset profile mapping.objectName]
    | none => []) ++
  (seed.relations.filterMap fun mapping =>
    (seedRelationKey profiles mapping).map fun candidate id =>
      ontologyRelationProposal id runId seed candidate.joinSuccessRate mapping) ++
  (seed.metrics.map fun mapping id => ontologyMetricProposal id runId seed mapping) ++
  seed.actions.map fun mapping id => ontologyActionProposal id runId seed mapping

/-- `ontology_generate_seed_proposals_for_run`; `newId` gives the identifier of the
proposal at a place. -/
def ontologyGenerateSeedProposalsForRun (newId : Nat → Uuid) :
    List OntologyOnboardingProposalDraft :=
  (seedProposals runId seed datasets profiles).mapIdx fun place proposal => proposal (newId place)

end generator

end MandoForge
