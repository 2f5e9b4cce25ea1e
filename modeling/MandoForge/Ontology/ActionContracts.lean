/-
Module: MandoForge.Ontology.ActionContracts
Purpose: The contract of an action: how it is compiled from an approved proposal, and
  how the evidence of a release gives it back.
Trusted boundary: hashing, the printing of numbers and strings, and the reading of
  identifiers belong to other crates; an `OntologyCodec` stands for them.
Main exports: OntologyCodec, ontologyToolSpecFromActionProposal
-/
import MandoForge.Data.JsonOrder
import MandoForge.Ontology.ActionSchema
import MandoForge.Ontology.ApiNames
import MandoForge.Ontology.CatalogRecords
import MandoForge.Ontology.Releases

namespace MandoForge

open Foundation

/-- What the releases take from other crates. -/
structure OntologyCodec where
  parseUuid : String → Option Uuid
  formats : SchemaFormats
  /-- `normalized_json_sha256`: the digest of the printed value. -/
  jsonSha256 : Json → String
  /-- The digest of a text, in hexadecimal digits. -/
  textSha256 : String → String
  /-- The text of a string, in quotes. -/
  printString : String → String
  printNumber : JsonNumber → String

/-! ### Digests -/

section canonical

variable (codec : OntologyCodec)

mutual

/-- `write_canonical_json`: an object is listed in the order of its keys. -/
def writeCanonicalJson : Json → String
  | .null => "null"
  | .bool value => if value then "true" else "false"
  | .number value => codec.printNumber value
  | .string value => codec.printString value
  | .array values => "[" ++ ",".intercalate (writeCanonicalItems values) ++ "]"
  | .object fields =>
      let sorted := inKeyOrder (writeCanonicalFields fields)
      let texts := sorted.map fun field => codec.printString field.1 ++ ":" ++ field.2
      "\x7b" ++ ",".intercalate texts ++ "\x7d"

def writeCanonicalItems : List Json → List String
  | [] => []
  | value :: rest => writeCanonicalJson value :: writeCanonicalItems rest

/-- The keys, each with the text of its value. -/
def writeCanonicalFields : List (String × Json) → List (String × String)
  | [] => []
  | (key, value) :: rest => (key, writeCanonicalJson value) :: writeCanonicalFields rest

end

def canonicalJsonSha256 (value : Json) : String :=
  "sha256:" ++ codec.textSha256 (writeCanonicalJson codec value)

end canonical

/-! ### From a proposal -/

def ontologyProposalDomainScope (proposal : OntologyOnboardingProposalDraft) : String :=
  ((proposal.content.get "domain_scope" <|> proposal.evidence.get "domain_scope").bind
    Json.asStr).getD "commerce"

def ontologyProposalToolNamespace (proposal : OntologyOnboardingProposalDraft) : String :=
  ((proposal.content.get "tool_namespace" <|> proposal.evidence.get "tool_namespace").bind
    Json.asStr).getD "commerce"

def ontologyActionHasEffects (effects : Json) : Bool :=
  effects.asArray.any fun values => !values.isEmpty

def ontologyActionTransactionProfileForProposal (proposal : OntologyOnboardingProposalDraft)
    (readOnly : Bool) : Except AppError OntologyActionTransactionProfile :=
  if readOnly then .ok .localSerializable
  else do
    let value ← okOr (proposal.content.get "transaction_profile")
      (.badRequest "action proposal missing transaction_profile")
    okOr (value.asStr.bind OntologyActionTransactionProfile.ofText)
      (.badRequest ("transaction_profile must be proposal_only, local_serializable, " ++
        "event_sourced, or saga"))

def ontologyActionExecutionMode (transactionProfile : OntologyActionTransactionProfile)
    (readOnly : Bool) : String :=
  if readOnly then "read_only"
  else if transactionProfile = .proposalOnly then "proposal_only"
  else "executable_after_approval"

def ontologyToolSpecFromActionProposal (runId : Uuid)
    (proposal : OntologyOnboardingProposalDraft) :
    Except AppError OntologyOnboardingToolSpec := do
  let targetObject ← okOr ((proposal.content.get "target_object").bind Json.asStr)
    (.badRequest "action proposal missing target_object")
  let statedPolicy := (proposal.content.get "policy").getD (.object [])
  let effects := (proposal.content.get "effects").getD (.array [])
  let readOnly := !ontologyActionHasEffects effects
  let transactionProfile ← ontologyActionTransactionProfileForProposal proposal readOnly
  let approvalRequired := ((statedPolicy.get "approval_required").bind Json.asBool).getD true ||
    (!readOnly && decide (transactionProfile = .proposalOnly))
  let executionMode := ontologyActionExecutionMode transactionProfile readOnly
  return {
    id := proposal.id
    runId
    name := ontologyProposalToolNamespace proposal ++ "." ++ proposal.name
    description :=
      "Compiled ontology action tool for " ++ targetObject ++ ": " ++ proposal.name ++ "."
    toolKind := "ontology_action"
    targetObject
    readOnly
    approvalRequired
    inputSchema := (proposal.content.get "inputs").getD (.object [])
    effects
    executor := (proposal.content.get "executor").getD (.object [])
    policy := statedPolicy.mergeObject (.object [
      ("approval_required", .bool approvalRequired),
      ("transaction_profile", .string transactionProfile.text),
      ("execution_mode", .string executionMode)])
    transactionProfile
    executionMode
    readWriteRisk :=
      if approvalRequired then "write_approval_required"
      else if readOnly then "read_only"
      else "write_low_risk_update"
    sourceRefs := .ofFields [
      ("proposal_id", .ofUuid proposal.id),
      ("proposal_type", .string proposal.proposalType),
      ("source_mapping", .string proposal.sourceMapping),
      ("target_object", .string targetObject),
      ("transaction_profile", .string transactionProfile.text),
      ("execution_mode", .string executionMode),
      ("evidence", proposal.evidence)]
    auditEvent := ((proposal.content.get "audit_event").bind Json.asStr).getD "commerce.action"
    sourceProposalId := proposal.id }

/-! ### From the evidence of a release -/

/-- The name of the contract that an entry of the evidence holds. -/
def contractName (entry : Json) : Option String :=
  ((entry.index "tool_spec").index "name").asStr

/-- The first entry with a contract of this name. -/
def contractEntry (entries : List Json) (actionName : String) : Option Json :=
  entries.find? fun entry => decide (contractName entry = some actionName)

section evidence

variable (codec : OntologyCodec)

/-- The contract of an entry was made by the run, or the entry is marked as inherited
from the parent. -/
def contractBelongs (sourceRunId parentReleaseId : Option Uuid) (entry : Json)
    (toolSpec : OntologyOnboardingToolSpec) : Bool :=
  decide (sourceRunId = some toolSpec.runId) ||
    parentReleaseId.any fun parentReleaseId =>
      decide (((entry.get "inherited_from_release_id").bind Json.asStr).bind codec.parseUuid =
        some parentReleaseId)

/-- The contract of an entry with its digest, read before its origin is looked at. -/
def readContract (entry : Json) : Except AppError (OntologyOnboardingToolSpec × String) := do
  let toolSpec ← okOr (entry.get "tool_spec")
    (.forbidden "ontology release action contract snapshot is missing")
  let contractDigest ← okOr ((entry.get "contract_digest").bind Json.asStr)
    (.forbidden "ontology release action contract digest is missing")
  if codec.jsonSha256 toolSpec ≠ contractDigest then
    throw (.forbidden "ontology release action contract digest does not match its snapshot")
  let toolSpec ← okOr (OntologyOnboardingToolSpec.read codec.parseUuid toolSpec)
    (.badRequest "ontology release action contract is invalid")
  return (toolSpec, contractDigest)

def ontologyActionToolSpecForRelease (release : OntologyReleaseRecord) (actionName : String) :
    Except AppError (OntologyOnboardingToolSpec × String) := do
  let entries ← okOr release.evidenceRefs.asArray
    (.forbidden "ontology release does not contain action contract snapshots")
  let entry ← okOr (contractEntry entries actionName)
    (.forbidden "ontology action is not published by the pinned release")
  let (toolSpec, contractDigest) ← readContract codec entry
  if !contractBelongs codec release.sourceRunId release.parentReleaseId entry toolSpec then
    throw (.forbidden
      "ontology action contract does not belong to the pinned release source run")
  return (toolSpec, contractDigest)

/-- The names of the contracts in the evidence, each once. -/
def contractNames (entries : List Json) : List String := (entries.filterMap contractName).dedup

def ontologyReleaseActionContractSnapshotsReady (release : OntologyReleaseRecord) : Bool :=
  match release.evidenceRefs.asArray with
  | none => decide (release.actionCount = 0)
  | some entries =>
      decide ((contractNames entries).length = release.actionCount) &&
        (contractNames entries).all fun actionName =>
          (ontologyActionToolSpecForRelease codec release actionName).isOk

end evidence

end MandoForge
