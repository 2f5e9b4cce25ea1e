/-
Module: MandoForge.Ontology.Candidates
Purpose: What a release candidate keeps as evidence: the contracts of its actions, its
  own and the inherited ones, and the snapshot of its catalog; how the snapshot is read
  back; and what the gate of a release finds.
Trusted boundary: which proposals of a run are approved and materialized, and the
  identifiers of what they became, are arguments of a request, and so are the semantic
  objects that a gate looks up.
Main exports: releaseCatalogFromEvidence, ontologyReleaseCandidate
-/
import MandoForge.Ontology.Catalog

namespace MandoForge

open Foundation

/-! ### The snapshot of a catalog -/

def catalogEvidence (catalog : OntologyReleaseCatalogV1) (digest : String) : Json := .ofFields [
  ("schema", .string ontologyReleaseCatalogSchema),
  ("snapshot", catalog.write),
  ("digest", .string digest)]

/-- The entry is a snapshot of a catalog. -/
def isCatalogEntry (entry : Json) : Bool :=
  decide ((entry.get "schema").bind Json.asStr = some ontologyReleaseCatalogSchema)

/-- The catalog in the only snapshot of the evidence, with the digest beside it. -/
def catalogSnapshot (entries : List Json) :
    Except AppError (OntologyReleaseCatalogV1 × Option String) :=
  match entries.filter isCatalogEntry with
  | [entry] => do
      let snapshot ← okOr (entry.get "snapshot")
        (.forbidden "ontology release catalog snapshot is missing")
      let catalog ← okOr (OntologyReleaseCatalogV1.read snapshot)
        (.forbidden "ontology release catalog is invalid")
      return (catalog, (entry.get "digest").bind Json.asStr)
  | _ => .error (.forbidden "ontology release catalog snapshot is missing or ambiguous")

section evidence

variable (codec : OntologyCodec)

/-- `strip_prefix("action:")`. -/
def actionToolName (stableKey : String) : Option String :=
  if "action:".toList.isPrefixOf stableKey.toList then
    some (String.ofList (stableKey.toList.drop "action:".toList.length))
  else none

/-- The checks of one action of the catalog against its contract. -/
def validateActionContractDigest (entries : List Json) (catalog : OntologyReleaseCatalogV1)
    (action : OntologySdkCatalogAction) : Except AppError Unit := do
  let toolName ← okOr (actionToolName action.stableKey)
    (.forbidden "ontology release action identity is invalid")
  let entry ← okOr (contractEntry entries toolName)
    (.forbidden "ontology release action contract is missing")
  let toolSpec ← okOr (entry.get "tool_spec")
    (.forbidden "ontology release action contract is missing")
  let digest ← okOr ((entry.get "contract_digest").bind Json.asStr)
    (.forbidden "ontology release action contract digest is missing")
  if codec.jsonSha256 toolSpec ≠ digest ∨ action.contractDigest ≠ digest then
    throw (.forbidden "ontology release action contract digest does not match the catalog")
  let toolSpec ← okOr (OntologyOnboardingToolSpec.read codec.parseUuid toolSpec)
    (.forbidden "ontology action contract is invalid")
  let targetObject ← okOr
    (catalog.objects.find? fun object =>
      decide (object.stableKey = "object:" ++ toolSpec.targetObject))
    (.forbidden "ontology release action target object is missing from the catalog")
  if action.targetObjectApiName ≠ targetObject.apiName then
    throw (.forbidden "ontology release action target does not match the catalog")
  if toolSpec.executionMode ≠ action.executionMode then
    throw (.forbidden "ontology release action execution mode does not match the catalog")
  if toolSpec.inputSchema ≠ action.inputSchema ∨
      toolSpec.approvalRequired ≠ action.approvalRequired then
    throw (.forbidden
      "ontology release action input or approval metadata does not match the catalog")

def validateActionContractDigests (entries : List Json) (catalog : OntologyReleaseCatalogV1) :
    Except AppError Unit := do
  let names := entries.filterMap contractName
  if names.length ≠ catalog.actions.length ∨ names.dedup.length ≠ catalog.actions.length then
    throw (.forbidden
      "ontology release catalog action set does not match its contract snapshots")
  catalog.actions.forM (validateActionContractDigest codec entries catalog)
  if catalog.actions.any fun action =>
      (actionToolName action.stableKey).all fun toolName => decide (toolName ∉ names) then
    throw (.forbidden
      "ontology release catalog action set does not match its contract snapshots")

def releaseCatalogFromEvidence (release : OntologyReleaseRecord) :
    Except AppError (OntologyReleaseCatalogV1 × String) := do
  let entries ← okOr release.evidenceRefs.asArray
    (.forbidden "ontology release catalog evidence is missing")
  let (catalog, digest) ← catalogSnapshot entries
  if catalog.domainScope ≠ release.domainScope then
    throw (.forbidden "ontology release catalog domain does not match the release")
  if catalog.objects.length ≠ release.objectCount ∨
      catalog.relations.length ≠ release.relationCount ∨
      catalog.actions.length ≠ release.actionCount then
    throw (.forbidden "ontology release catalog counts do not match the release")
  let digest ← okOr digest (.forbidden "ontology release catalog digest is missing")
  if digest ≠ canonicalJsonSha256 codec catalog.write then
    throw (.forbidden "ontology release catalog digest does not match its snapshot")
  validateCatalog codec.formats catalog
  validateActionContractDigests codec entries catalog
  return (catalog, digest)

/-! ### Candidates -/

/-- The catalog that a candidate inherits, from a parent release that has a snapshot. -/
def parentCatalog (parentRelease : Option OntologyReleaseRecord) :
    Except AppError (Option OntologyReleaseCatalogV1) :=
  match parentRelease with
  | none => .ok none
  | some release =>
      if release.evidenceRefs.asArray.any fun entries => entries.any isCatalogEntry then
        (releaseCatalogFromEvidence codec release).map fun found => some found.1
      else .ok none

def buildOntologyReleaseCatalog (domainScope : String)
    (proposals : List OntologyOnboardingProposalDraft)
    (parentRelease : Option OntologyReleaseRecord) :
    Except AppError (OntologyReleaseCatalogV1 × String) := do
  let parent ← parentCatalog codec parentRelease
  let catalog ← buildReleaseCatalog codec domainScope proposals parent
  return (catalog, canonicalJsonSha256 codec catalog.write)

/-- Mark an entry of the parent as inherited. -/
def markInherited (parentReleaseId : Uuid) : Json → Json
  | .object fields =>
      .object (Json.insertField "inherited_from_release_id" (.ofUuid parentReleaseId) fields)
  | entry => entry

/-- One step of the loop over the actions of the catalog. -/
def inheritContract (parentReleaseId : Uuid) (parentEvidence entries : List Json)
    (action : OntologySdkCatalogAction) : Except AppError (List Json) :=
  if (contractEntry entries action.runtimeName).isSome then .ok entries
  else do
    let inherited ← okOr (contractEntry parentEvidence action.runtimeName)
      (.forbidden "parent ontology release action contract is missing")
    return entries ++ [markInherited parentReleaseId inherited]

def inheritParentActionContractEvidence (parentRelease : Option OntologyReleaseRecord)
    (catalog : OntologyReleaseCatalogV1) (entries : List Json) : Except AppError (List Json) :=
  match parentRelease with
  | none => .ok entries
  | some parentRelease => do
      let parentEvidence ← okOr parentRelease.evidenceRefs.asArray
        (.forbidden "parent ontology release action contract evidence is missing")
      catalog.actions.foldlM (inheritContract parentRelease.id parentEvidence) entries

/-- The entry of a proposal, with the contract of an action. -/
def proposalEvidence (runId : Uuid) (proposal : OntologyOnboardingProposalDraft) :
    Except AppError Json := do
  let entry := [
    ("proposal_id", Json.ofUuid proposal.id),
    ("proposal_type", .string proposal.proposalType),
    ("review_status", .string proposal.reviewStatus)]
  if proposal.proposalType = "action" then
    let toolSpec ← ontologyToolSpecFromActionProposal runId proposal
    return .ofFields (entry ++ [
      ("contract_digest", .string (codec.jsonSha256 toolSpec.write)),
      ("tool_spec", toolSpec.write)])
  else return .ofFields entry

def ontologyReleaseClass (value : Option String) : Except AppError String :=
  let stated := value.getD "repo_controlled"
  if stated ∈ ["repo_controlled", "production_like_pilot", "customer_grade"] then .ok stated
  else .error (.badRequest ("unsupported ontology release_class: " ++ stated))

def defaultOntologyReleaseMigrationPolicy : Json := .ofFields [
  ("compatibility", .string "backward_compatible"),
  ("rollback", .string "previous_active_release"),
  ("requires_operator_review", .bool true)]

/-- A request for a candidate: the run, its approved and materialized proposals, and
what the caller states. -/
structure CandidateRequest where
  runId : Uuid
  proposals : List OntologyOnboardingProposalDraft
  version : String
  releaseClass : Option String := none
  migrationPolicy : Option Json := none
  materializedObjectIds : List Uuid := []
  materializedLinkIds : List Uuid := []
deriving DecidableEq, Repr

/-- The domain of the first proposal. -/
def CandidateRequest.domainScope (request : CandidateRequest) : String :=
  (request.proposals.head?.map ontologyProposalDomainScope).getD "commerce"

/-- `create_ontology_release_candidate_with_actor`, over the active release that it
read. -/
def ontologyReleaseCandidate (request : CandidateRequest) : BuildCandidate :=
  fun activeRelease => do
    if request.proposals.isEmpty then
      throw (.badRequest "ontology release candidate requires approved materialized proposals")
    let entries ← request.proposals.mapM (proposalEvidence codec request.runId)
    let (catalog, digest) ←
      buildOntologyReleaseCatalog codec request.domainScope request.proposals activeRelease
    let entries ← inheritParentActionContractEvidence activeRelease catalog entries
    let releaseClass ← ontologyReleaseClass request.releaseClass
    return {
      version := request.version
      sourceRunId := some request.runId
      releaseClass
      objectCount := catalog.objects.length
      relationCount := catalog.relations.length
      actionCount := catalog.actions.length
      migrationPolicy := request.migrationPolicy.getD defaultOntologyReleaseMigrationPolicy
      materializedObjectIds := .array (request.materializedObjectIds.map Json.ofUuid)
      materializedLinkIds := .array (request.materializedLinkIds.map Json.ofUuid)
      evidenceRefs := .array (entries ++ [catalogEvidence catalog digest]) }

/-! ### Gates -/

def ontologyReleaseMigrationPolicyReady (policy : Json) : Bool :=
  let stated := fun key => (((policy.get key).bind Json.asStr).bind nonEmptyTrimmed).isSome
  stated "compatibility" && stated "rollback"

/-- What a gate reads of a semantic object. -/
structure ProfiledObject where
  objectType : String
  content : Json
deriving DecidableEq, Repr

/-- The object is no action, or it has a transaction profile. -/
def ProfiledObject.ready (object : ProfiledObject) : Bool :=
  decide (object.objectType ≠ "ontology_action_type") ||
    (((object.content.get "transaction_profile").bind Json.asStr).bind nonEmptyTrimmed).isSome

/-- The loop over the identifiers: the first action without a profile ends it. -/
def profilesReady (getSemanticObject : Uuid → Except AppError ProfiledObject) :
    List Uuid → Except AppError Bool
  | [] => .ok true
  | id :: rest => do
      let object ← getSemanticObject id
      if !object.ready then return false
      profilesReady getSemanticObject rest

def ontologyReleaseActionProfilesReady
    (getSemanticObject : Uuid → Except AppError ProfiledObject)
    (release : OntologyReleaseRecord) : Except AppError Bool :=
  profilesReady getSemanticObject
    (((release.materializedObjectIds.asArray.getD []).filterMap Json.asStr).filterMap
      codec.parseUuid)

/-- The release names what it materialized. -/
def materializedSemantics (release : OntologyReleaseRecord) : Bool :=
  (release.materializedObjectIds.asArray.any fun ids => !ids.isEmpty) ||
    release.materializedLinkIds.asArray.any fun ids => !ids.isEmpty

def gateCheck (id : String) (passed : Bool) : Json := .ofFields [
  ("id", .string id),
  ("status", .string (if passed then "passed" else "failed"))]

/-- The blocker of a failed check. -/
def gateBlocker (passed : Bool) (blocker : String) : List String :=
  if passed then [] else [blocker]

/-- The checks of `gate_ontology_release_with_actor`. -/
def ontologyReleaseFindings (getSemanticObject : Uuid → Except AppError ProfiledObject) :
    JudgeRelease :=
  fun release activeRelease => do
    let migrationOk := ontologyReleaseMigrationPolicyReady release.migrationPolicy
    let materializedOk := materializedSemantics release
    let profilesOk ← ontologyReleaseActionProfilesReady codec getSemanticObject release
    let contractsOk := ontologyReleaseActionContractSnapshotsReady codec release
    let catalogResult := releaseCatalogFromEvidence codec release
    let rollbackOk := !(activeRelease.isSome && release.rollbackTargetReleaseId.isNone)
    return {
      checks := [
        gateCheck "migration_policy" migrationOk,
        gateCheck "materialized_semantics" materializedOk,
        gateCheck "action_transaction_profiles" profilesOk,
        gateCheck "action_contract_snapshots" contractsOk,
        gateCheck "release_catalog" catalogResult.isOk,
        gateCheck "rollback_target" rollbackOk]
      blockers :=
        gateBlocker migrationOk "migration policy must declare compatibility and rollback" ++
        gateBlocker materializedOk
          "release candidate must include materialized semantic object or link ids" ++
        gateBlocker profilesOk
          "write-like ontology actions must carry transaction profile evidence" ++
        gateBlocker contractsOk
          "ontology release actions must carry immutable tool contract snapshots" ++
        (match catalogResult with
          | .ok _ => []
          | .error error => ["ontology release catalog validation failed: " ++ error.message]) ++
        gateBlocker rollbackOk ("release candidate must declare rollback target when the " ++
          "domain already has an active release") }

end evidence

end MandoForge
