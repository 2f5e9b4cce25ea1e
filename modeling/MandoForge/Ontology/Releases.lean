/-
Module: MandoForge.Ontology.Releases
Purpose: Releases of a domain's ontology in the in-memory store: how a candidate is
  stored, gated, promoted over the current release, rolled back to the one before it,
  and archived.
Trusted boundary: an operation is one critical section of the store's lock; the
  identifier of a new release is drawn where it is stored.  What a candidate holds and
  what its gate finds are arguments.  The stamp of the last update is left out, nothing
  reads it; audit logs are recorded elsewhere.
Main exports: OntologyReleaseRecord, rollbackOntologyReleaseAtomically
-/
import MandoForge.Data.Text
import MandoForge.Foundation.Interleaving
import MandoForge.Foundation.Outcome
import MandoForge.Foundation.Table
import MandoForge.Workflow.Graph
import Mathlib.Data.List.Sort

namespace MandoForge

open Foundation

/-! ### Records -/

/-- The statuses of an ontology release; the source keeps them as strings. -/
inductive OntologyReleaseStatus where
  | candidate
  | failedGate
  | active
  | activeTriggerFailed
  | superseded
  | rolledBack
  | archived
deriving DecidableEq, Repr

namespace OntologyReleaseStatus

/-- `ontology_release_current_status`. -/
def isCurrent : OntologyReleaseStatus → Bool
  | active | activeTriggerFailed => true
  | _ => false

/-- `matches!(status, "candidate" | "failed_gate")`: the release can be gated. -/
def isOpen : OntologyReleaseStatus → Bool
  | candidate | failedGate => true
  | _ => false

end OntologyReleaseStatus

/-- `OntologyRelease`. -/
structure OntologyReleaseRecord where
  id : Uuid
  version : String
  domainScope : String
  sourceRunId : Option Uuid
  parentReleaseId : Option Uuid
  rollbackTargetReleaseId : Option Uuid
  status : OntologyReleaseStatus
  releaseClass : String
  objectCount : Nat
  relationCount : Nat
  actionCount : Nat
  migrationPolicy : Json
  gateResult : Json
  materializedObjectIds : Json
  materializedLinkIds : Json
  evidenceRefs : Json
  promotedBy : Option String
  promotedAt : Option Timestamp
  rolledBackBy : Option String
  rolledBackAt : Option Timestamp
  archivedAt : Option Timestamp
  createdAt : Timestamp
deriving DecidableEq, Repr

abbrev OntologyReleaseTable := Table OntologyReleaseRecord.id

namespace OntologyReleaseRecord

def isCurrent (release : OntologyReleaseRecord) : Bool := release.status.isCurrent

/-- The domains are the same, whatever the case of their names. -/
def sharesDomain (release other : OntologyReleaseRecord) : Bool :=
  eqIgnoreAsciiCase other.domainScope release.domainScope

end OntologyReleaseRecord

def ontologyReleaseNotFound : AppError := .notFound "ontology release not found"

/-! ### Operations -/

def listOntologyReleasesForDomain (domainScope : Option String)
    (releases : OntologyReleaseTable) : List OntologyReleaseRecord :=
  (releases.rows.filter fun release =>
    domainScope.all fun scope => eqIgnoreAsciiCase release.domainScope (trim scope)).insertionSort
      fun left right => left.createdAt ≤ right.createdAt

def createOntologyRelease (draw : Uuid) (release : OntologyReleaseRecord)
    (releases : OntologyReleaseTable) :
    Except AppError OntologyReleaseRecord × OntologyReleaseTable :=
  if releases.rows.any fun existing => eqIgnoreAsciiCase existing.version release.version &&
      eqIgnoreAsciiCase existing.domainScope release.domainScope then
    (.error (.badRequest ("ontology release version already exists for domain " ++
      release.domainScope ++ ": " ++ release.version)), releases)
  else
    let release := { release with id := releases.drawKey draw }
    (.ok release, releases.insert release)

/-- The whole row is written when the status is the expected one. -/
def updateOntologyRelease (release : OntologyReleaseRecord)
    (expectedStatus : Option OntologyReleaseStatus) (releases : OntologyReleaseTable) :
    Except AppError OntologyReleaseRecord × OntologyReleaseTable :=
  match releases.find? release.id with
  | none => (.error ontologyReleaseNotFound, releases)
  | some existing =>
      if expectedStatus.any fun expected => decide (existing.status ≠ expected) then
        (.error (.badRequest "ontology release status conflict: concurrent update detected"),
          releases)
      else (.ok release, releases.insert release)

def validateOntologyReleasePromotable (release : OntologyReleaseRecord) : Except AppError Unit :=
  if release.status ≠ .candidate then
    .error (.badRequest "only candidate ontology releases can be promoted")
  else if (release.gateResult.get "status").bind Json.asStr ≠ some "passed" then
    .error (.badRequest "ontology release promotion requires a passed gate")
  else .ok ()

/-- The current releases of a release's domain, the last promoted one last. -/
def currentReleases (release : OntologyReleaseRecord) (releases : OntologyReleaseTable) :
    List OntologyReleaseRecord :=
  (releases.rows.filter fun candidate =>
    candidate.isCurrent && release.sharesDomain candidate).insertionSort fun left right =>
      left.promotedAt.getD left.createdAt ≤ right.promotedAt.getD right.createdAt

/-- A current release of the domain makes room. -/
def OntologyReleaseRecord.superseded (promoted release : OntologyReleaseRecord) :
    OntologyReleaseRecord :=
  if release.isCurrent && promoted.sharesDomain release then
    { release with status := .superseded }
  else release

@[simp] theorem OntologyReleaseRecord.superseded_id (promoted release : OntologyReleaseRecord) :
    (promoted.superseded release).id = release.id := by
  unfold superseded
  split <;> rfl

/-- The release becomes the current one, over the one that was. -/
def OntologyReleaseRecord.promotedOver (now : Timestamp) (actorSubject : String)
    (previous : Option Uuid) (release : OntologyReleaseRecord) : OntologyReleaseRecord :=
  { release with
    rollbackTargetReleaseId := previous
    parentReleaseId := previous
    status := .active
    promotedBy := some actorSubject
    promotedAt := some now }

def promoteOntologyReleaseAtomically (now : Timestamp) (releaseId : Uuid) (actorSubject : String)
    (releases : OntologyReleaseTable) :
    Except AppError (OntologyReleaseRecord × Option OntologyReleaseRecord) ×
      OntologyReleaseTable :=
  match releases.find? releaseId with
  | none => (.error ontologyReleaseNotFound, releases)
  | some release =>
      match validateOntologyReleasePromotable release with
      | .error error => (.error error, releases)
      | .ok () =>
          let previous := (currentReleases release releases).getLast?
          let promoted := release.promotedOver now actorSubject
            (previous.map OntologyReleaseRecord.id)
          (.ok (promoted, previous),
            (releases.mapRows release.superseded release.superseded_id).insert promoted)

def validateOntologyReleaseRollbackSource (release : OntologyReleaseRecord) :
    Except AppError Uuid :=
  if !release.isCurrent then .error (.badRequest "only active ontology releases can be rolled back")
  else okOr release.rollbackTargetReleaseId
    (.badRequest "ontology release rollback target is missing")

def validateOntologyReleaseRollbackTarget (release target : OntologyReleaseRecord) :
    Except AppError Unit :=
  if !release.sharesDomain target then
    .error (.badRequest "ontology release rollback target must share domain_scope")
  else if target.archivedAt.isSome ∨ target.status = .archived then
    .error (.badRequest "ontology release rollback target is archived")
  else .ok ()

def ontologyReleaseRollbackTargetNotFound : AppError :=
  .notFound "ontology release rollback target not found"

namespace OntologyReleaseRecord

def takenBack (now : Timestamp) (actorSubject : String) (release : OntologyReleaseRecord) :
    OntologyReleaseRecord :=
  { release with
    status := .rolledBack
    rolledBackBy := some actorSubject
    rolledBackAt := some now }

def restored (release : OntologyReleaseRecord) : OntologyReleaseRecord :=
  { release with
    status := .active
    rolledBackBy := none
    rolledBackAt := none }

end OntologyReleaseRecord

/-- The checks of a rollback: the release and its target. -/
def checkRollback (releaseId : Uuid) (releases : OntologyReleaseTable) :
    Except AppError (OntologyReleaseRecord × OntologyReleaseRecord) := do
  let release ← okOr (releases.find? releaseId) ontologyReleaseNotFound
  let targetId ← validateOntologyReleaseRollbackSource release
  let target ← okOr (releases.find? targetId) ontologyReleaseRollbackTargetNotFound
  validateOntologyReleaseRollbackTarget release target
  return (release, target)

/-- The release is taken back before its target is looked up again. -/
def rollbackOntologyReleaseAtomically (now : Timestamp) (releaseId : Uuid) (actorSubject : String)
    (releases : OntologyReleaseTable) :
    Except AppError (OntologyReleaseRecord × OntologyReleaseRecord) × OntologyReleaseTable :=
  match checkRollback releaseId releases with
  | .error error => (.error error, releases)
  | .ok (release, target) =>
      let releases := releases.insert (release.takenBack now actorSubject)
      match releases.find? target.id with
      | none => (.error ontologyReleaseRollbackTargetNotFound, releases)
      | some target => (.ok (release, target.restored), releases.insert target.restored)

/-! ### The store as its operations show it -/

structure OntologyReleaseWorld where
  clock : Timestamp
  releases : OntologyReleaseTable
deriving DecidableEq

/-- An operation on the releases, at the time of the clock. -/
def OntologyReleaseWorld.onReleases {Answer : Type}
    (operation : Timestamp → OntologyReleaseTable → Answer × OntologyReleaseTable)
    (world : OntologyReleaseWorld) : Answer × OntologyReleaseWorld :=
  ((operation world.clock world.releases).1,
    { world with releases := (operation world.clock world.releases).2 })

inductive OntologyReleaseOperation where
  | utcNow
  | getRelease (releaseId : Uuid)
  | listReleases (domainScope : Option String)
  | createRelease (draw : Uuid) (release : OntologyReleaseRecord)
  | updateRelease (release : OntologyReleaseRecord)
      (expectedStatus : Option OntologyReleaseStatus)
  | promote (releaseId : Uuid) (actorSubject : String)
  | rollback (releaseId : Uuid) (actorSubject : String)

namespace OntologyReleaseOperation

def Answer : OntologyReleaseOperation → Type
  | utcNow => Timestamp
  | getRelease _ => Except AppError OntologyReleaseRecord
  | listReleases _ => List OntologyReleaseRecord
  | createRelease _ _ => Except AppError OntologyReleaseRecord
  | updateRelease _ _ => Except AppError OntologyReleaseRecord
  | promote _ _ => Except AppError (OntologyReleaseRecord × Option OntologyReleaseRecord)
  | rollback _ _ => Except AppError (OntologyReleaseRecord × OntologyReleaseRecord)

def perform : (operation : OntologyReleaseOperation) → OntologyReleaseWorld →
    operation.Answer × OntologyReleaseWorld
  | utcNow, world => (world.clock, world)
  | getRelease releaseId, world =>
      (okOr (world.releases.find? releaseId) ontologyReleaseNotFound, world)
  | listReleases domainScope, world =>
      (listOntologyReleasesForDomain domainScope world.releases, world)
  | createRelease draw release, world =>
      world.onReleases fun _ => createOntologyRelease draw release
  | updateRelease release expectedStatus, world =>
      world.onReleases fun _ => updateOntologyRelease release expectedStatus
  | promote releaseId actorSubject, world =>
      world.onReleases fun now => promoteOntologyReleaseAtomically now releaseId actorSubject
  | rollback releaseId actorSubject, world =>
      world.onReleases fun now => rollbackOntologyReleaseAtomically now releaseId actorSubject

end OntologyReleaseOperation

def OntologyReleaseStore : StoreInterface OntologyReleaseWorld where
  Operation := OntologyReleaseOperation
  Answer := OntologyReleaseOperation.Answer
  perform := OntologyReleaseOperation.perform

/-! ### Programs -/

abbrev OntologyReleaseProgram := Program OntologyReleaseStore AppError

namespace OntologyReleaseProgram

def utcNow : OntologyReleaseProgram Timestamp :=
  Program.perform (I := OntologyReleaseStore) .utcNow

def getOntologyRelease (releaseId : Uuid) : OntologyReleaseProgram OntologyReleaseRecord :=
  Program.attempt (I := OntologyReleaseStore) (.getRelease releaseId) id

def listOntologyReleases (domainScope : Option String) :
    OntologyReleaseProgram (List OntologyReleaseRecord) :=
  Program.perform (I := OntologyReleaseStore) (.listReleases domainScope)

def updateOntologyRelease (release : OntologyReleaseRecord)
    (expectedStatus : Option OntologyReleaseStatus) :
    OntologyReleaseProgram OntologyReleaseRecord :=
  Program.attempt (I := OntologyReleaseStore) (.updateRelease release expectedStatus) id

def activeOntologyReleaseForDomain (domainScope : String) :
    OntologyReleaseProgram (Option OntologyReleaseRecord) := do
  let releases ← listOntologyReleases (some domainScope)
  return releases.find? OntologyReleaseRecord.isCurrent

end OntologyReleaseProgram

open OntologyReleaseProgram

/-- What a candidate holds. -/
structure OntologyCandidate where
  version : String
  sourceRunId : Option Uuid
  releaseClass : String
  objectCount : Nat
  relationCount : Nat
  actionCount : Nat
  migrationPolicy : Json
  materializedObjectIds : Json
  materializedLinkIds : Json
  evidenceRefs : Json
deriving DecidableEq, Repr

/-- The release that `create_ontology_release_candidate_with_actor` stores; its
identifier is drawn by the store. -/
def newOntologyRelease (now : Timestamp) (domainScope : String)
    (activeRelease : Option OntologyReleaseRecord) (candidate : OntologyCandidate) :
    OntologyReleaseRecord where
  id := 0
  version := candidate.version
  domainScope := domainScope
  sourceRunId := candidate.sourceRunId
  parentReleaseId := activeRelease.map OntologyReleaseRecord.id
  rollbackTargetReleaseId := activeRelease.map OntologyReleaseRecord.id
  status := .candidate
  releaseClass := candidate.releaseClass
  objectCount := candidate.objectCount
  relationCount := candidate.relationCount
  actionCount := candidate.actionCount
  migrationPolicy := candidate.migrationPolicy
  gateResult := .object []
  materializedObjectIds := candidate.materializedObjectIds
  materializedLinkIds := candidate.materializedLinkIds
  evidenceRefs := candidate.evidenceRefs
  promotedBy := none
  promotedAt := none
  rolledBackBy := none
  rolledBackAt := none
  archivedAt := none
  createdAt := now

/-- How a candidate is built on the active release of its domain. -/
abbrev BuildCandidate := Option OntologyReleaseRecord → Except AppError OntologyCandidate

/-- `create_ontology_release_candidate_with_actor`, from the read of the active release. -/
def createOntologyReleaseCandidate (draw : Uuid) (domainScope : String) (build : BuildCandidate) :
    OntologyReleaseProgram OntologyReleaseRecord := do
  let activeRelease ← activeOntologyReleaseForDomain domainScope
  let candidate ← Program.ofExcept (build activeRelease)
  let now ← utcNow
  Program.attempt (I := OntologyReleaseStore)
    (.createRelease draw (newOntologyRelease now domainScope activeRelease candidate)) id

/-- What the checks of a gate found. -/
structure GateFindings where
  checks : List Json
  blockers : List String
deriving DecidableEq, Repr

def GateFindings.passed (findings : GateFindings) : Bool := findings.blockers.isEmpty

/-- How a gate judges a release beside the active one of its domain. -/
abbrev JudgeRelease := OntologyReleaseRecord → Option OntologyReleaseRecord →
  Except AppError GateFindings

section programs

variable (host : Host)

/-- The release after its gate. -/
def OntologyReleaseRecord.gated (now : Timestamp) (actorSubject : String)
    (findings : GateFindings) (release : OntologyReleaseRecord) : OntologyReleaseRecord :=
  { release with
    status := if findings.passed then .candidate else .failedGate
    gateResult := .ofFields [
      ("status", .string (if findings.passed then "passed" else "failed")),
      ("checked_at", .string (host.printTimestamp now)),
      ("checked_by", .string actorSubject),
      ("checks", .array findings.checks),
      ("blockers", .ofStrings findings.blockers)] }

def gateOntologyReleaseWithActor (releaseId : Uuid) (judge : JudgeRelease)
    (actorSubject : String) : OntologyReleaseProgram OntologyReleaseRecord := do
  let release ← getOntologyRelease releaseId
  if !release.status.isOpen then
    throw (.badRequest "only candidate or failed_gate ontology releases can be gated")
  else do
    let activeRelease ← activeOntologyReleaseForDomain release.domainScope
    let findings ← Program.ofExcept (judge release activeRelease)
    let now ← utcNow
    OntologyReleaseProgram.updateOntologyRelease
      (release.gated host now actorSubject findings) (some release.status)

/-- `ontology_release_gate_result_with_workflow_trigger_status`. -/
def gateResultWithWorkflowTriggerStatus (now : Timestamp) (gateResult : Json)
    (triggerStatus actorSubject : String) (errorMessage : Option String) : Json :=
  .object (Json.insertField "workflow_trigger" (.ofFields [
      ("status", .string triggerStatus),
      ("checked_at", .string (host.printTimestamp now)),
      ("checked_by", .string actorSubject),
      ("error", .ofOption .string errorMessage)])
    (match gateResult with
    | .object fields => fields
    | _ => []))

/-- The two statuses of a release after its workflows were triggered. -/
inductive TriggeredStatus where
  | active
  | activeTriggerFailed
deriving DecidableEq, Repr

def TriggeredStatus.status : TriggeredStatus → OntologyReleaseStatus
  | active => .active
  | activeTriggerFailed => .activeTriggerFailed

def updateOntologyReleaseWorkflowTriggerStatus (releaseId : Uuid)
    (releaseStatus : TriggeredStatus) (triggerStatus actorSubject : String)
    (errorMessage : Option String) : OntologyReleaseProgram OntologyReleaseRecord := do
  let current ← getOntologyRelease releaseId
  if !current.isCurrent then return current
  else do
    let now ← utcNow
    OntologyReleaseProgram.updateOntologyRelease
      { current with
        status := releaseStatus.status
        gateResult := gateResultWithWorkflowTriggerStatus host now current.gateResult
          triggerStatus actorSubject errorMessage }
      (some current.status)

/-- The release is the rollback target of the current one of its domain. -/
def isTargetOfCurrent (releases : List OntologyReleaseRecord) (release : OntologyReleaseRecord) :
    Bool :=
  releases.any fun candidate => candidate.isCurrent &&
    decide (candidate.rollbackTargetReleaseId = some release.id) && release.sharesDomain candidate

def archiveOntologyReleaseWithActor (releaseId : Uuid) :
    OntologyReleaseProgram OntologyReleaseRecord := do
  let release ← getOntologyRelease releaseId
  if release.isCurrent then throw (.badRequest "active ontology releases cannot be archived")
  else do
    let releases ← listOntologyReleases none
    if isTargetOfCurrent releases release then
      throw (.badRequest "ontology release is rollback target for the active release")
    else do
      let now ← utcNow
      OntologyReleaseProgram.updateOntologyRelease
        { release with status := .archived, archivedAt := some now }
        (some release.status)

/-! ### Calls -/

inductive OntologyReleaseCall where
  | create (draw : Uuid) (domainScope : String) (build : BuildCandidate)
  | gate (releaseId : Uuid) (judge : JudgeRelease) (actorSubject : String)
  | promote (releaseId : Uuid) (actorSubject : String)
  | rollback (releaseId : Uuid) (actorSubject : String)
  | archive (releaseId : Uuid)
  | updateTriggerStatus (releaseId : Uuid) (releaseStatus : TriggeredStatus)
      (triggerStatus actorSubject : String) (errorMessage : Option String)

/-- The program of a call.  What it returns nobody reads here. -/
def OntologyReleaseCall.program : OntologyReleaseCall → OntologyReleaseProgram Unit
  | create draw domainScope build => do
      let _release ← createOntologyReleaseCandidate draw domainScope build
  | gate releaseId judge actorSubject => do
      let _release ← gateOntologyReleaseWithActor host releaseId judge actorSubject
  | promote releaseId actorSubject => do
      let _promoted : OntologyReleaseRecord × Option OntologyReleaseRecord ←
        Program.attempt (I := OntologyReleaseStore) (.promote releaseId actorSubject) id
  | rollback releaseId actorSubject => do
      let _restored : OntologyReleaseRecord × OntologyReleaseRecord ←
        Program.attempt (I := OntologyReleaseStore) (.rollback releaseId actorSubject) id
  | archive releaseId => do
      let _release ← archiveOntologyReleaseWithActor releaseId
  | updateTriggerStatus releaseId releaseStatus triggerStatus actorSubject errorMessage => do
      let _release ← updateOntologyReleaseWorkflowTriggerStatus host releaseId releaseStatus
        triggerStatus actorSubject errorMessage

end programs

end MandoForge
