/-
Module: MandoForge.Semantic.KernelWrites
Purpose: The calls that create, update and archive the semantic sources, objects and links
  of the in-memory store, each a program over the store's operations.
Trusted boundary: an operation is one critical section of the store.  The id of a new record
  is drawn at random; it is a new one, whichever was drawn.
Main exports: SemanticKind, KernelStore
-/
import MandoForge.Data.Text
import MandoForge.Foundation.Interleaving
import MandoForge.Semantic.Kernel

namespace MandoForge

open Foundation

/-! ### Requests -/

structure CreateSemanticSource where
  sourceType : String
  sourceUri : String
  displayName : String
  ownerType : Option String := none
  ownerId : Option Uuid := none
  metadata : Json := .object []
  provenance : Json := .object []
  freshness : Json := .object []
  status : String
  lastIngestedAt : Option Timestamp := none

/-- In a request for a change, what is absent stays; an owner or an ingestion time is
taken away by `null`. -/
structure UpdateSemanticSource where
  displayName : Option String := none
  ownerType : Option (Option String) := none
  ownerId : Option (Option Uuid) := none
  metadata : Option Json := none
  provenance : Option Json := none
  freshness : Option Json := none
  status : Option String := none
  lastIngestedAt : Option (Option Timestamp) := none

structure CreateSemanticObject where
  sourceId : Option Uuid := none
  objectType : String
  objectKey : String
  title : String
  summary : String
  content : Json := .object []
  semanticScopes : Json := .object []
  sourceUri : Option String := none
  provenance : Json := .object []
  trustLevel : String
  freshness : String
  status : String

structure UpdateSemanticObject where
  title : Option String := none
  summary : Option String := none
  content : Option Json := none
  semanticScopes : Option Json := none
  sourceUri : Option (Option String) := none
  provenance : Option Json := none
  trustLevel : Option String := none
  freshness : Option String := none
  status : Option String := none

structure CreateSemanticLink where
  fromEntityType : String
  fromEntityId : String
  relationType : String
  toEntityType : String
  toEntityId : String
  metadata : Json := .object []
  provenance : Json := .object []
  confidence : Rat
  status : String

structure UpdateSemanticLink where
  metadata : Option Json := none
  provenance : Option Json := none
  confidence : Option Rat := none
  status : Option String := none

/-! ### Normal forms of what a request says -/

def normalizeRequiredText (value label : String) : Except AppError String :=
  okOr (nonEmptyTrimmed value) (.badRequest (label ++ " cannot be empty"))

def normalizeOptionalText (value : String) : Option String := nonEmptyTrimmed value

/-- `to_ascii_lowercase().replace('-', "_")`. -/
def lowerUnderscored (value : String) : String :=
  String.ofList ((toAsciiLowercase value).toList.map fun c => if c = '-' then '_' else c)

/-- One of a list of words, whichever way it is written. -/
def normalizeWord (words : List String) (message value : String) : Except AppError String :=
  let normalized := lowerUnderscored (trim value)
  if normalized ∈ words then .ok normalized else .error (.badRequest message)

def validateJsonObject (value : Json) (label : String) : Except AppError Json :=
  if value.isObject then .ok value
  else .error (.badRequest (label ++ " must be a JSON object"))

def semanticSourceOwnerTypes : List String :=
  ["project", "team", "agent", "session", "work_item", "workflow_pack_installation"]

def normalizeSemanticSourceOwner (ownerType : Option String) (ownerId : Option Uuid) :
    Except AppError (Option String × Option Uuid) :=
  match (ownerType.bind normalizeOptionalText).map lowerUnderscored, ownerId with
  | none, none => .ok (none, none)
  | none, some _ | some _, none =>
      .error (.badRequest
        "semantic source owner_type and owner_id must be provided together")
  | some ownerType, some ownerId =>
      if ownerType ∈ semanticSourceOwnerTypes then .ok (some ownerType, some ownerId)
      else .error (.badRequest "semantic source owner_type is not supported")

def normalizeSemanticSourceType : String → Except AppError String :=
  normalizeWord
    ["repo_doc", "session_history", "artifact", "workflow_pack", "mcp_source", "feishu", "lark",
      "github", "upload", "external", "memory"]
    ("semantic source_type must be repo_doc, session_history, artifact, workflow_pack, " ++
      "mcp_source, feishu, lark, github, upload, external, or memory")

def normalizeSemanticSourceStatus : String → Except AppError String :=
  normalizeWord ["active", "discovered", "ingested", "stale", "archived"]
    "semantic source status must be active, discovered, ingested, stale, or archived"

def normalizeSemanticObjectType : String → Except AppError String :=
  normalizeWord
    ["action", "agent", "connector", "decision", "eval", "profile", "release_gate", "runbook",
      "schema", "skill", "code_module", "workflow", "policy", "memory", "artifact", "project",
      "repo", "service", "pack", "work_item", "business_object", "business_metric",
      "ontology_expansion", "ontology_onboarding_proposal", "ontology_object_type",
      "ontology_relation_type", "ontology_action_type", "ontology_logic_rule",
      "ontology_curated_dataset_review", "ontology_confidence_calibration"]
    ("semantic object_type must be action, agent, connector, decision, eval, profile, " ++
      "release_gate, runbook, schema, skill, code_module, workflow, policy, memory, artifact, " ++
      "project, repo, service, pack, work_item, business_object, business_metric, " ++
      "ontology_expansion, ontology_onboarding_proposal, ontology_object_type, " ++
      "ontology_relation_type, ontology_action_type, ontology_logic_rule, " ++
      "ontology_curated_dataset_review, or ontology_confidence_calibration")

def normalizeSemanticEntityType : String → Except AppError String :=
  normalizeWord
    ["action", "agent", "connector", "eval", "profile", "release_gate", "schema", "skill",
      "project", "repo", "service", "workflow", "policy", "pack", "memory", "artifact", "session",
      "manager_plan", "runtime_profile", "semantic_source", "semantic_object",
      "ontology_object_type", "ontology_relation_type", "ontology_action_type"]
    "semantic entity type is not supported by the minimal semantic kernel"

def normalizeSemanticRelationType (value : String) : Except AppError String :=
  let normalized := lowerUnderscored (trim value)
  if normalized = "" then .error (.badRequest "semantic relation_type cannot be empty")
  else .ok normalized

def normalizeSemanticTrustLevel : String → Except AppError String :=
  normalizeWord ["unverified", "source_attested", "human_verified", "system_verified"]
    ("semantic trust_level must be unverified, source_attested, human_verified, or " ++
      "system_verified")

def normalizeSemanticFreshness : String → Except AppError String :=
  normalizeWord ["unknown", "current", "stale", "expired"]
    "semantic freshness must be unknown, current, stale, or expired"

def normalizeSemanticRecordStatus : String → Except AppError String :=
  normalizeWord ["active", "archived"] "semantic record status must be active or archived"

def validateSemanticConfidence (value : Rat) : Except AppError Rat :=
  if 0 ≤ value ∧ value ≤ 1 then .ok value
  else .error (.badRequest "semantic link confidence must be between 0.0 and 1.0")

/-- `if let Some(value) = input.field`: a field that the request names. -/
def replaced {Value Given : Type} (normalize : Given → Except AppError Value)
    (given : Option Given) (current : Value) : Except AppError Value :=
  match given with
  | some given => normalize given
  | none => .ok current

/-! ### The three kinds of record -/

inductive SemanticKind where
  | source
  | object
  | link
deriving DecidableEq, Repr

namespace SemanticKind

def Row : SemanticKind → Type
  | source => SemanticSource
  | object => StoredSemanticObject
  | link => SemanticLink

def id : (kind : SemanticKind) → kind.Row → Uuid
  | source => SemanticSource.id
  | object => fun object : StoredSemanticObject => object.id
  | link => SemanticLink.id

def withId : (kind : SemanticKind) → Uuid → kind.Row → kind.Row
  | source, id, row => ({ row with id } : SemanticSource)
  | object, id, row => ({ row with id } : StoredSemanticObject)
  | link, id, row => ({ row with id } : SemanticLink)

def archivedAt : (kind : SemanticKind) → kind.Row → Option Timestamp
  | source => SemanticSource.archivedAt
  | object => fun object : StoredSemanticObject => object.archivedAt
  | link => SemanticLink.archivedAt

def table : (kind : SemanticKind) → SemanticKernel → Table kind.id
  | source => SemanticKernel.sources
  | object => SemanticKernel.objects
  | link => SemanticKernel.links

def withTable : (kind : SemanticKind) → Table kind.id → SemanticKernel → SemanticKernel
  | source, sources, kernel => { kernel with sources }
  | object, objects, kernel => { kernel with objects }
  | link, links, kernel => { kernel with links }

/-- What the store knows a record by. -/
def names : (kind : SemanticKind) → kind.Row → List String
  | source => fun source : SemanticSource => [source.sourceUri]
  | object => fun object : StoredSemanticObject => [object.objectKey]
  | link => fun link : SemanticLink =>
      [link.fromEntityType, link.fromEntityId, link.relationType, link.toEntityType,
        link.toEntityId]

/-- A record that is there has the name of a new one. -/
def clashes : (kind : SemanticKind) → (existing row : kind.Row) → Bool
  | source => fun existing source : SemanticSource =>
      eqIgnoreAsciiCase existing.sourceUri source.sourceUri
  | object => fun existing object : StoredSemanticObject =>
      eqIgnoreAsciiCase existing.objectKey object.objectKey
  | link => fun existing link : SemanticLink =>
      eqIgnoreAsciiCase existing.fromEntityType link.fromEntityType &&
        decide (existing.fromEntityId = link.fromEntityId) &&
        eqIgnoreAsciiCase existing.relationType link.relationType &&
        eqIgnoreAsciiCase existing.toEntityType link.toEntityType &&
        decide (existing.toEntityId = link.toEntityId)

def alreadyExists : (kind : SemanticKind) → kind.Row → String
  | source => fun source : SemanticSource =>
      "semantic source already exists: " ++ source.sourceUri
  | object => fun object : StoredSemanticObject =>
      "semantic object already exists: " ++ object.objectKey
  | link => fun _ => "semantic link already exists"

def missing : SemanticKind → String
  | source => "semantic source not found"
  | object => "semantic object not found"
  | link => "semantic link not found"

end SemanticKind

/-! ### Operations -/

/-- The operations of the store: a read of an unarchived record, an insertion after the
search for a record of its name, and a write of a whole record. -/
inductive SemanticOperation where
  | get (kind : SemanticKind) (id : Uuid)
  | create (kind : SemanticKind) (row : kind.Row)
  | put (kind : SemanticKind) (row : kind.Row)

namespace SemanticOperation

def Answer : SemanticOperation → Type
  | get kind _ => Except AppError kind.Row
  | create kind _ => Except AppError kind.Row
  | put _ _ => Unit

def perform : (operation : SemanticOperation) → SemanticKernel → operation.Answer × SemanticKernel
  | get kind id, kernel =>
      (getUnarchived kind.archivedAt kind.missing (kind.table kernel) id, kernel)
  | create kind row, kernel =>
      let table := kind.table kernel
      if table.rows.any fun existing =>
          (kind.archivedAt existing).isNone && kind.clashes existing row then
        (.error (.badRequest (kind.alreadyExists row)), kernel)
      else
        let row := kind.withId (table.drawKey (kind.id row)) row
        (.ok row, kind.withTable (table.insert row) kernel)
  | put kind row, kernel => ((), kind.withTable ((kind.table kernel).insert row) kernel)

end SemanticOperation

def KernelStore : StoreInterface SemanticKernel where
  Operation := SemanticOperation
  Answer := SemanticOperation.Answer
  perform := SemanticOperation.perform

abbrev KernelProgram (Result : Type) := Program KernelStore AppError Result

/-! ### Calls -/

def getRecord (kind : SemanticKind) (id : Uuid) : KernelProgram kind.Row :=
  Program.attempt (I := KernelStore) (.get kind id) fun answer => answer

def createRecord (kind : SemanticKind) (row : kind.Row) : KernelProgram kind.Row :=
  Program.attempt (I := KernelStore) (.create kind row) fun answer => answer

/-- A record is read, and written back as it was changed. -/
def changeRecord (kind : SemanticKind) (id : Uuid)
    (change : kind.Row → Except AppError kind.Row) : KernelProgram kind.Row := do
  let row ← getRecord kind id
  let row ← Program.ofExcept (change row)
  let _ ← Program.perform (I := KernelStore) (.put kind row)
  return row

def getSemanticSource (id : Uuid) : KernelProgram SemanticSource := getRecord .source id

def newSemanticSource (draw : Uuid) (now : Timestamp) (input : CreateSemanticSource) :
    Except AppError SemanticSource := do
  let (ownerType, ownerId) ← normalizeSemanticSourceOwner input.ownerType input.ownerId
  return {
    id := draw
    sourceType := ← normalizeSemanticSourceType input.sourceType
    sourceUri := ← normalizeRequiredText input.sourceUri "semantic source_uri"
    displayName := ← normalizeRequiredText input.displayName "semantic display_name"
    ownerType
    ownerId
    metadata := ← validateJsonObject input.metadata "semantic source metadata"
    provenance := ← validateJsonObject input.provenance "semantic source provenance"
    freshness := ← validateJsonObject input.freshness "semantic source freshness"
    status := ← normalizeSemanticSourceStatus input.status
    lastIngestedAt := input.lastIngestedAt
    createdAt := now
    updatedAt := now
    archivedAt := none }

def createSemanticSource (draw : Uuid) (now : Timestamp) (input : CreateSemanticSource) :
    KernelProgram SemanticSource := do
  let source ← Program.ofExcept (newSemanticSource draw now input)
  createRecord .source source

def updatedSemanticSource (now : Timestamp) (input : UpdateSemanticSource)
    (source : SemanticSource) : Except AppError SemanticSource := do
  let displayName ← replaced (normalizeRequiredText · "semantic display_name") input.displayName
    source.displayName
  let ownerType :=
    match input.ownerType with
    | some ownerType => ownerType.bind normalizeOptionalText
    | none => source.ownerType
  let ownerId := input.ownerId.getD source.ownerId
  let (ownerType, ownerId) ← normalizeSemanticSourceOwner ownerType ownerId
  let metadata ← replaced (validateJsonObject · "semantic source metadata") input.metadata
    source.metadata
  let provenance ← replaced (validateJsonObject · "semantic source provenance") input.provenance
    source.provenance
  let freshness ← replaced (validateJsonObject · "semantic source freshness") input.freshness
    source.freshness
  let status ← replaced normalizeSemanticSourceStatus input.status source.status
  let lastIngestedAt := input.lastIngestedAt.getD source.lastIngestedAt
  return { source with
    displayName, ownerType, ownerId, metadata, provenance, freshness, status, lastIngestedAt
    updatedAt := now }

def updateSemanticSource (id : Uuid) (now : Timestamp) (input : UpdateSemanticSource) :
    KernelProgram SemanticSource :=
  changeRecord .source id (updatedSemanticSource now input)

def archivedSemanticSource (now : Timestamp) (source : SemanticSource) : SemanticSource :=
  { source with status := "archived", updatedAt := now, archivedAt := some now }

def archiveSemanticSource (id : Uuid) (now : Timestamp) : KernelProgram SemanticSource :=
  changeRecord .source id fun source => .ok (archivedSemanticSource now source)

/-- The uri of a new object: its own one, or else that of its source. -/
def semanticObjectSourceUri (sourceId : Option Uuid) (sourceUri : Option String) :
    KernelProgram (Option String) :=
  match sourceId, sourceUri with
  | some sourceId, maybeUri => do
      let source ← getSemanticSource sourceId
      return some ((maybeUri.bind normalizeOptionalText).getD source.sourceUri)
  | none, some uri => do
      let uri ← Program.ofExcept (normalizeRequiredText uri "semantic object source_uri")
      return some uri
  | none, none => throw (.badRequest "semantic object requires source_id or source_uri")

def newSemanticObject (draw : Uuid) (now : Timestamp) (input : CreateSemanticObject)
    (sourceUri : Option String) : Except AppError StoredSemanticObject := do
  return {
    id := draw
    sourceId := input.sourceId
    objectType := ← normalizeSemanticObjectType input.objectType
    objectKey := ← normalizeRequiredText input.objectKey "semantic object_key"
    title := ← normalizeRequiredText input.title "semantic title"
    summary := ← normalizeRequiredText input.summary "semantic summary"
    content := ← validateJsonObject input.content "semantic object content"
    semanticScopes := ← validateJsonObject input.semanticScopes "semantic object semantic_scopes"
    sourceUri
    provenance := ← validateJsonObject input.provenance "semantic object provenance"
    trustLevel := ← normalizeSemanticTrustLevel input.trustLevel
    freshness := ← normalizeSemanticFreshness input.freshness
    status := ← normalizeSemanticRecordStatus input.status
    createdAt := now
    updatedAt := now
    archivedAt := none }

def prepareSemanticObject (draw : Uuid) (now : Timestamp) (input : CreateSemanticObject) :
    KernelProgram StoredSemanticObject := do
  let sourceUri ← semanticObjectSourceUri input.sourceId input.sourceUri
  Program.ofExcept (newSemanticObject draw now input sourceUri)

def createSemanticObject (draw : Uuid) (now : Timestamp) (input : CreateSemanticObject) :
    KernelProgram StoredSemanticObject := do
  let object ← prepareSemanticObject draw now input
  createRecord .object object

def updatedSemanticObject (now : Timestamp) (input : UpdateSemanticObject)
    (object : StoredSemanticObject) : Except AppError StoredSemanticObject := do
  let title ← replaced (normalizeRequiredText · "semantic title") input.title object.title
  let summary ← replaced (normalizeRequiredText · "semantic summary") input.summary object.summary
  let content ← replaced (validateJsonObject · "semantic object content") input.content
    object.content
  let semanticScopes ← replaced (validateJsonObject · "semantic object semantic_scopes")
    input.semanticScopes object.semanticScopes
  let sourceUri ← replaced
    (Option.mapM (normalizeRequiredText · "semantic object source_uri")) input.sourceUri
    object.sourceUri
  let provenance ← replaced (validateJsonObject · "semantic object provenance") input.provenance
    object.provenance
  let trustLevel ← replaced normalizeSemanticTrustLevel input.trustLevel object.trustLevel
  let freshness ← replaced normalizeSemanticFreshness input.freshness object.freshness
  let status ← replaced normalizeSemanticRecordStatus input.status object.status
  return { object with
    title, summary, content, semanticScopes, sourceUri, provenance, trustLevel, freshness, status
    updatedAt := now }

def updateSemanticObject (id : Uuid) (now : Timestamp) (input : UpdateSemanticObject) :
    KernelProgram StoredSemanticObject :=
  changeRecord .object id (updatedSemanticObject now input)

def archivedSemanticObject (now : Timestamp) (object : StoredSemanticObject) : StoredSemanticObject :=
  { object with status := "archived", updatedAt := now, archivedAt := some now }

def archiveSemanticObject (id : Uuid) (now : Timestamp) : KernelProgram StoredSemanticObject :=
  changeRecord .object id fun object => .ok (archivedSemanticObject now object)

def newSemanticLink (draw : Uuid) (now : Timestamp) (input : CreateSemanticLink) :
    Except AppError SemanticLink := do
  return {
    id := draw
    fromEntityType := ← normalizeSemanticEntityType input.fromEntityType
    fromEntityId := ← normalizeRequiredText input.fromEntityId "from_entity_id"
    relationType := ← normalizeSemanticRelationType input.relationType
    toEntityType := ← normalizeSemanticEntityType input.toEntityType
    toEntityId := ← normalizeRequiredText input.toEntityId "to_entity_id"
    metadata := ← validateJsonObject input.metadata "semantic link metadata"
    provenance := ← validateJsonObject input.provenance "semantic link provenance"
    confidence := ← validateSemanticConfidence input.confidence
    status := ← normalizeSemanticRecordStatus input.status
    createdAt := now
    updatedAt := now
    archivedAt := none }

def createSemanticLink (draw : Uuid) (now : Timestamp) (input : CreateSemanticLink) :
    KernelProgram SemanticLink := do
  let link ← Program.ofExcept (newSemanticLink draw now input)
  createRecord .link link

def updatedSemanticLink (now : Timestamp) (input : UpdateSemanticLink) (link : SemanticLink) :
    Except AppError SemanticLink := do
  let metadata ← replaced (validateJsonObject · "semantic link metadata") input.metadata
    link.metadata
  let provenance ← replaced (validateJsonObject · "semantic link provenance") input.provenance
    link.provenance
  let confidence ← replaced validateSemanticConfidence input.confidence link.confidence
  let status ← replaced normalizeSemanticRecordStatus input.status link.status
  return { link with metadata, provenance, confidence, status, updatedAt := now }

def updateSemanticLink (id : Uuid) (now : Timestamp) (input : UpdateSemanticLink) :
    KernelProgram SemanticLink :=
  changeRecord .link id (updatedSemanticLink now input)

def archivedSemanticLink (now : Timestamp) (link : SemanticLink) : SemanticLink :=
  { link with status := "archived", updatedAt := now, archivedAt := some now }

def archiveSemanticLink (id : Uuid) (now : Timestamp) : KernelProgram SemanticLink :=
  changeRecord .link id fun link => .ok (archivedSemanticLink now link)

/-- A call, with the id and the times that it draws. -/
inductive SemanticCall where
  | createSource (draw : Uuid) (now : Timestamp) (input : CreateSemanticSource)
  | updateSource (id : Uuid) (now : Timestamp) (input : UpdateSemanticSource)
  | archiveSource (id : Uuid) (now : Timestamp)
  | createObject (draw : Uuid) (now : Timestamp) (input : CreateSemanticObject)
  | updateObject (id : Uuid) (now : Timestamp) (input : UpdateSemanticObject)
  | archiveObject (id : Uuid) (now : Timestamp)
  | createLink (draw : Uuid) (now : Timestamp) (input : CreateSemanticLink)
  | updateLink (id : Uuid) (now : Timestamp) (input : UpdateSemanticLink)
  | archiveLink (id : Uuid) (now : Timestamp)

/-- What a call returns when it is `Ok`. -/
inductive SemanticResult where
  | created (kind : SemanticKind) (row : kind.Row)
  | updated (kind : SemanticKind) (row : kind.Row)
  | archived (kind : SemanticKind) (row : kind.Row)

def SemanticCall.program : SemanticCall → KernelProgram SemanticResult
  | createSource draw now input => do
      return .created .source (← createSemanticSource draw now input)
  | updateSource id now input => do
      return .updated .source (← updateSemanticSource id now input)
  | archiveSource id now => do
      return .archived .source (← archiveSemanticSource id now)
  | createObject draw now input => do
      return .created .object (← createSemanticObject draw now input)
  | updateObject id now input => do
      return .updated .object (← updateSemanticObject id now input)
  | archiveObject id now => do
      return .archived .object (← archiveSemanticObject id now)
  | createLink draw now input => do
      return .created .link (← createSemanticLink draw now input)
  | updateLink id now input => do
      return .updated .link (← updateSemanticLink id now input)
  | archiveLink id now => do
      return .archived .link (← archiveSemanticLink id now)

end MandoForge
