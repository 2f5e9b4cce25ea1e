/-
Module: MandoForge.Ontology.CatalogRecords
Purpose: The catalog of a release and the contract of an action, as they are kept in the
  evidence of the release: written as JSON, and read back.
Trusted boundary: what the JSON library says about a value that it cannot read is left
  out of the errors.
Main exports: OntologySdkCatalogObject, OntologySdkCatalogAction
-/
import MandoForge.Core.Records
import MandoForge.Data.JsonRecord

namespace MandoForge

/-! ### Records -/

structure OntologySdkCatalogProperty where
  stableKey : String
  sourceName : String
  apiName : String
  valueType : String
  nullable : Bool
deriving DecidableEq, Repr

structure OntologySdkCatalogObject where
  stableKey : String
  apiName : String
  objectType : String
  properties : List OntologySdkCatalogProperty
  primaryKeyApiName : Option String
deriving DecidableEq, Repr

structure OntologySdkCatalogRelation where
  stableKey : String
  apiName : String
  fromObjectApiName : String
  relationType : String
  toObjectApiName : String
deriving DecidableEq, Repr

structure OntologySdkCatalogAction where
  stableKey : String
  apiName : String
  runtimeName : String
  contractDigest : String
  executionMode : String
  targetObjectApiName : String
  inputSchema : Json
  approvalRequired : Bool
deriving DecidableEq, Repr

structure OntologyReleaseCatalogV1 where
  schema : String
  domainScope : String
  objects : List OntologySdkCatalogObject
  relations : List OntologySdkCatalogRelation
  actions : List OntologySdkCatalogAction
deriving DecidableEq, Repr

/-- `ONTOLOGY_RELEASE_CATALOG_SCHEMA`. -/
def ontologyReleaseCatalogSchema : String := "mandoforge.ontology.release_catalog.v1"

inductive OntologyActionTransactionProfile where
  | proposalOnly
  | localSerializable
  | eventSourced
  | saga
deriving DecidableEq, Repr

def OntologyActionTransactionProfile.text : OntologyActionTransactionProfile → String
  | proposalOnly => "proposal_only"
  | localSerializable => "local_serializable"
  | eventSourced => "event_sourced"
  | saga => "saga"

def OntologyActionTransactionProfile.ofText : String → Option OntologyActionTransactionProfile
  | "proposal_only" => some proposalOnly
  | "local_serializable" => some localSerializable
  | "event_sourced" => some eventSourced
  | "saga" => some saga
  | _ => none

/-- The contract of an action. -/
structure OntologyOnboardingToolSpec where
  id : Uuid
  runId : Uuid
  name : String
  description : String
  toolKind : String
  targetObject : String
  readOnly : Bool
  approvalRequired : Bool
  inputSchema : Json
  effects : Json
  executor : Json
  policy : Json
  transactionProfile : OntologyActionTransactionProfile
  executionMode : String
  readWriteRisk : String
  sourceRefs : Json
  auditEvent : String
  sourceProposalId : Uuid
deriving DecidableEq, Repr

/-! ### Catalogs as JSON -/

namespace OntologySdkCatalogProperty

def recordFields (property : OntologySdkCatalogProperty) : List Json.RecordField := [
  { name := "stable_key", value := .string property.stableKey },
  { name := "source_name", value := .string property.sourceName },
  { name := "api_name", value := .string property.apiName },
  { name := "value_type", value := .string property.valueType },
  { name := "nullable", value := .bool property.nullable }]

def write (property : OntologySdkCatalogProperty) : Json :=
  .ofFields (property.recordFields.map Json.RecordField.entry)

def read (value : Json) : Option OntologySdkCatalogProperty := do
  match ← value.recordFields
      [["stable_key"], ["source_name"], ["api_name"], ["value_type"], ["nullable"]] with
  | [stableKey, sourceName, apiName, valueType, nullable] =>
      return {
        stableKey := ← Json.readString stableKey
        sourceName := ← Json.readString sourceName
        apiName := ← Json.readString apiName
        valueType := ← Json.readString valueType
        nullable := ← Json.readBool nullable }
  | _ => none

theorem read_write (property : OntologySdkCatalogProperty) :
    read property.write = some property := by
  have fields := @Json.recordFields_ofFields property.recordFields
    (by simp [recordFields]) (by simp [recordFields])
  have layout : property.recordFields.map Json.RecordField.names =
      [["stable_key"], ["source_name"], ["api_name"], ["value_type"], ["nullable"]] := rfl
  rw [read, write, ← layout, fields]
  rfl

end OntologySdkCatalogProperty

namespace OntologySdkCatalogObject

def recordFields (object : OntologySdkCatalogObject) : List Json.RecordField := [
  { name := "stable_key", value := .string object.stableKey },
  { name := "api_name", value := .string object.apiName },
  { name := "object_type", value := .string object.objectType },
  { name := "properties",
    value := .array (object.properties.map OntologySdkCatalogProperty.write) },
  { name := "primary_key_api_name",
    value := .ofOption .string object.primaryKeyApiName }]

def write (object : OntologySdkCatalogObject) : Json :=
  .ofFields (object.recordFields.map Json.RecordField.entry)

def read (value : Json) : Option OntologySdkCatalogObject := do
  match ← value.recordFields
      [["stable_key"], ["api_name"], ["object_type"], ["properties"], ["primary_key_api_name"]]
    with
  | [stableKey, apiName, objectType, properties, primaryKeyApiName] =>
      return {
        stableKey := ← Json.readString stableKey
        apiName := ← Json.readString apiName
        objectType := ← Json.readString objectType
        properties := ← Json.readList OntologySdkCatalogProperty.read
          (properties <|> some (.array []))
        primaryKeyApiName := ← Json.readNullable Json.readString primaryKeyApiName }
  | _ => none

theorem read_write (object : OntologySdkCatalogObject) : read object.write = some object := by
  have fields := @Json.recordFields_ofFields object.recordFields
    (by simp [recordFields]) (by simp [recordFields])
  have layout : object.recordFields.map Json.RecordField.names =
      [["stable_key"], ["api_name"], ["object_type"], ["properties"],
        ["primary_key_api_name"]] := rfl
  have properties := Json.readList_map OntologySdkCatalogProperty.read_write object.properties
  rw [read, write, ← layout, fields]
  cases object with
  | mk stableKey apiName objectType written primaryKeyApiName =>
      simp only [recordFields, List.map_cons, List.map_nil] at properties ⊢
      cases primaryKeyApiName <;>
        simp [bind, Option.bind, Json.readString, Json.asStr, properties, Json.readNullable,
          Json.ofOption]

end OntologySdkCatalogObject

namespace OntologySdkCatalogRelation

def recordFields (relation : OntologySdkCatalogRelation) : List Json.RecordField := [
  { name := "stable_key", value := .string relation.stableKey },
  { name := "api_name", value := .string relation.apiName },
  { name := "from_object_api_name", value := .string relation.fromObjectApiName },
  { name := "relation_type", value := .string relation.relationType },
  { name := "to_object_api_name", value := .string relation.toObjectApiName }]

def write (relation : OntologySdkCatalogRelation) : Json :=
  .ofFields (relation.recordFields.map Json.RecordField.entry)

def read (value : Json) : Option OntologySdkCatalogRelation := do
  match ← value.recordFields
      [["stable_key"], ["api_name"], ["from_object_api_name"], ["relation_type"],
        ["to_object_api_name"]] with
  | [stableKey, apiName, fromObjectApiName, relationType, toObjectApiName] =>
      return {
        stableKey := ← Json.readString stableKey
        apiName := ← Json.readString apiName
        fromObjectApiName := ← Json.readString fromObjectApiName
        relationType := ← Json.readString relationType
        toObjectApiName := ← Json.readString toObjectApiName }
  | _ => none

theorem read_write (relation : OntologySdkCatalogRelation) :
    read relation.write = some relation := by
  have fields := @Json.recordFields_ofFields relation.recordFields
    (by simp [recordFields]) (by simp [recordFields])
  have layout : relation.recordFields.map Json.RecordField.names =
      [["stable_key"], ["api_name"], ["from_object_api_name"], ["relation_type"],
        ["to_object_api_name"]] := rfl
  rw [read, write, ← layout, fields]
  rfl

end OntologySdkCatalogRelation

namespace OntologySdkCatalogAction

def recordFields (action : OntologySdkCatalogAction) : List Json.RecordField := [
  { name := "stable_key", value := .string action.stableKey },
  { name := "api_name", value := .string action.apiName },
  { name := "runtime_name", value := .string action.runtimeName },
  { name := "contract_digest", value := .string action.contractDigest },
  { name := "execution_mode", value := .string action.executionMode },
  { name := "target_object_api_name", value := .string action.targetObjectApiName },
  { name := "input_schema", value := action.inputSchema },
  { name := "approval_required", value := .bool action.approvalRequired }]

def write (action : OntologySdkCatalogAction) : Json :=
  .ofFields (action.recordFields.map Json.RecordField.entry)

def read (value : Json) : Option OntologySdkCatalogAction := do
  match ← value.recordFields
      [["stable_key"], ["api_name"], ["runtime_name"], ["contract_digest"], ["execution_mode"],
        ["target_object_api_name"], ["input_schema"], ["approval_required"]] with
  | [stableKey, apiName, runtimeName, contractDigest, executionMode, targetObjectApiName,
      inputSchema, approvalRequired] =>
      return {
        stableKey := ← Json.readString stableKey
        apiName := ← Json.readString apiName
        runtimeName := ← Json.readString (runtimeName <|> some (.string ""))
        contractDigest := ← Json.readString contractDigest
        executionMode := ← Json.readString executionMode
        targetObjectApiName := ← Json.readString targetObjectApiName
        inputSchema := ← inputSchema
        approvalRequired := ← Json.readBool approvalRequired }
  | _ => none

theorem read_write (action : OntologySdkCatalogAction) : read action.write = some action := by
  have fields := @Json.recordFields_ofFields action.recordFields
    (by simp [recordFields]) (by simp [recordFields])
  have layout : action.recordFields.map Json.RecordField.names =
      [["stable_key"], ["api_name"], ["runtime_name"], ["contract_digest"],
        ["execution_mode"], ["target_object_api_name"], ["input_schema"],
        ["approval_required"]] := rfl
  rw [read, write, ← layout, fields]
  rfl

end OntologySdkCatalogAction

namespace OntologyReleaseCatalogV1

def recordFields (catalog : OntologyReleaseCatalogV1) : List Json.RecordField := [
  { name := "schema", value := .string catalog.schema },
  { name := "domain_scope", value := .string catalog.domainScope },
  { name := "objects", aliases := ["object_types"],
    value := .array (catalog.objects.map OntologySdkCatalogObject.write) },
  { name := "relations", aliases := ["relation_types"],
    value := .array (catalog.relations.map OntologySdkCatalogRelation.write) },
  { name := "actions",
    value := .array (catalog.actions.map OntologySdkCatalogAction.write) }]

def write (catalog : OntologyReleaseCatalogV1) : Json :=
  .ofFields (catalog.recordFields.map Json.RecordField.entry)

def read (value : Json) : Option OntologyReleaseCatalogV1 := do
  match ← value.recordFields
      [["schema"], ["domain_scope"], ["objects", "object_types"],
        ["relations", "relation_types"], ["actions"]] with
  | [schema, domainScope, objects, relations, actions] =>
      return {
        schema := ← Json.readString schema
        domainScope := ← Json.readString domainScope
        objects := ← Json.readList OntologySdkCatalogObject.read objects
        relations := ← Json.readList OntologySdkCatalogRelation.read relations
        actions := ← Json.readList OntologySdkCatalogAction.read actions }
  | _ => none

theorem read_write (catalog : OntologyReleaseCatalogV1) :
    read catalog.write = some catalog := by
  have fields := @Json.recordFields_ofFields catalog.recordFields
    (by simp [recordFields]) (by simp [recordFields])
  have layout : catalog.recordFields.map Json.RecordField.names =
      [["schema"], ["domain_scope"], ["objects", "object_types"],
        ["relations", "relation_types"], ["actions"]] := rfl
  have objects := Json.readList_map OntologySdkCatalogObject.read_write catalog.objects
  have relations := Json.readList_map OntologySdkCatalogRelation.read_write catalog.relations
  have actions := Json.readList_map OntologySdkCatalogAction.read_write catalog.actions
  rw [read, write, ← layout, fields]
  simp only [recordFields, List.map_cons, List.map_nil]
  simp [bind, Option.bind, Json.readString, Json.asStr, objects, relations, actions]

end OntologyReleaseCatalogV1

/-! ### Contracts as JSON -/

namespace OntologyOnboardingToolSpec

def recordFields (toolSpec : OntologyOnboardingToolSpec) : List Json.RecordField := [
  { name := "id", value := .ofUuid toolSpec.id },
  { name := "run_id", value := .ofUuid toolSpec.runId },
  { name := "name", value := .string toolSpec.name },
  { name := "description", value := .string toolSpec.description },
  { name := "tool_kind", value := .string toolSpec.toolKind },
  { name := "target_object", value := .string toolSpec.targetObject },
  { name := "read_only", value := .bool toolSpec.readOnly },
  { name := "approval_required", value := .bool toolSpec.approvalRequired },
  { name := "input_schema", value := toolSpec.inputSchema },
  { name := "effects", value := toolSpec.effects },
  { name := "executor", value := toolSpec.executor },
  { name := "policy", value := toolSpec.policy },
  { name := "transaction_profile", value := .string toolSpec.transactionProfile.text },
  { name := "execution_mode", value := .string toolSpec.executionMode },
  { name := "read_write_risk", value := .string toolSpec.readWriteRisk },
  { name := "source_refs", value := toolSpec.sourceRefs },
  { name := "audit_event", value := .string toolSpec.auditEvent },
  { name := "source_proposal_id", value := .ofUuid toolSpec.sourceProposalId }]

def write (toolSpec : OntologyOnboardingToolSpec) : Json :=
  .ofFields (toolSpec.recordFields.map Json.RecordField.entry)

def read (parseUuid : String → Option Uuid) (value : Json) :
    Option OntologyOnboardingToolSpec := do
  let readUuid := fun field => (Json.readString field).bind parseUuid
  match ← value.recordFields
      [["id"], ["run_id"], ["name"], ["description"], ["tool_kind"], ["target_object"],
        ["read_only"], ["approval_required"], ["input_schema"], ["effects"], ["executor"],
        ["policy"], ["transaction_profile"], ["execution_mode"], ["read_write_risk"],
        ["source_refs"], ["audit_event"], ["source_proposal_id"]] with
  | [id, runId, name, description, toolKind, targetObject, readOnly, approvalRequired,
      inputSchema, effects, executor, policy, transactionProfile, executionMode, readWriteRisk,
      sourceRefs, auditEvent, sourceProposalId] =>
      return {
        id := ← readUuid id
        runId := ← readUuid runId
        name := ← Json.readString name
        description := ← Json.readString description
        toolKind := ← Json.readString toolKind
        targetObject := ← Json.readString targetObject
        readOnly := ← Json.readBool readOnly
        approvalRequired := ← Json.readBool approvalRequired
        inputSchema := ← inputSchema
        effects := ← effects
        executor := executor.getD (.object [])
        policy := ← policy
        transactionProfile := ← (Json.readString transactionProfile).bind
          OntologyActionTransactionProfile.ofText
        executionMode := ← Json.readString executionMode
        readWriteRisk := ← Json.readString readWriteRisk
        sourceRefs := ← sourceRefs
        auditEvent := ← Json.readString auditEvent
        sourceProposalId := ← readUuid sourceProposalId }
  | _ => none

/-- A contract is read back by a reader of identifiers that reads what is printed. -/
theorem read_write {parseUuid : String → Option Uuid}
    (readsUuids : ∀ id : Uuid, parseUuid (Nat.repr id) = some id)
    (toolSpec : OntologyOnboardingToolSpec) : read parseUuid toolSpec.write = some toolSpec := by
  have fields := @Json.recordFields_ofFields toolSpec.recordFields
    (by simp [recordFields]) (by simp [recordFields])
  have layout : toolSpec.recordFields.map Json.RecordField.names =
      [["id"], ["run_id"], ["name"], ["description"], ["tool_kind"], ["target_object"],
        ["read_only"], ["approval_required"], ["input_schema"], ["effects"], ["executor"],
        ["policy"], ["transaction_profile"], ["execution_mode"], ["read_write_risk"],
        ["source_refs"], ["audit_event"], ["source_proposal_id"]] := rfl
  have profile : OntologyActionTransactionProfile.ofText toolSpec.transactionProfile.text =
      some toolSpec.transactionProfile := by
    cases toolSpec.transactionProfile <;> rfl
  rw [read, write, ← layout, fields]
  simp only [recordFields, List.map_cons, List.map_nil]
  simp [bind, Option.bind, Json.readString, Json.readBool, Json.asStr, Json.asBool, Json.ofUuid,
    readsUuids, profile]

theorem get_write {toolSpec : OntologyOnboardingToolSpec} {field : Json.RecordField}
    (member : field ∈ toolSpec.recordFields) :
    toolSpec.write.get field.name = some field.value :=
  Json.get_ofFields (by simp [recordFields, Json.RecordField.entry])
    (List.mem_map.mpr ⟨field, member, rfl⟩)

end OntologyOnboardingToolSpec

end MandoForge
