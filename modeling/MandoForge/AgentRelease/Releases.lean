/-
Module: MandoForge.AgentRelease.Releases
Purpose: The releases of agent versions in the in-memory store: the direct promotion,
  the requested one with its decision, and the end of both.
Trusted boundary: an operation is one critical section of the store's lock and reads
  the clock once; the identifier of a new release is drawn where it is stored.
  Scores are rational numbers.
Main exports: AgentRelease, createAgentRelease
-/
import MandoForge.Core.Records
import MandoForge.Data.Text
import MandoForge.Foundation.Outcome
import MandoForge.Foundation.Table
import Mathlib.Data.Rat.Floor

namespace MandoForge

open Foundation

/-! ### Records -/

/-- The statuses of an agent release; the source keeps them as strings. -/
inductive AgentReleaseStatus where
  | pendingApproval
  | promotionInProgress
  | promotionFailed
  | promoted
  | rejected
  | rolledBack
  | superseded
deriving DecidableEq, Repr

/-- Nothing is decided about the release any more. -/
def AgentReleaseStatus.isFinal : AgentReleaseStatus → Bool
  | rejected | rolledBack | superseded => true
  | _ => false

structure AgentRelease where
  id : Uuid
  agentId : Uuid
  agentVersionId : Uuid
  environment : String
  status : AgentReleaseStatus
  evalRunId : Option Uuid
  evalScore : Option Rat
  minScore : Rat
  requestedBy : Option String
  requestedAt : Option Timestamp
  requestReason : Option String
  approverSubject : Option String
  decisionBy : Option String
  decidedAt : Option Timestamp
  decisionReason : Option String
  promotedBy : Option String
  promotedAt : Option Timestamp
  automationPolicy : Json
  createdAt : Timestamp
deriving DecidableEq, Repr

abbrev AgentReleaseTable := Table AgentRelease.id

structure CreateAgentRelease where
  agentVersionId : Option Uuid
  evalRunId : Uuid
  environment : String
  minScore : Option Rat
deriving DecidableEq, Repr

/-- An eval run, as far as a release reads it. -/
structure EvalRun where
  id : Uuid
  agentId : Uuid
  agentVersionId : Uuid
  status : String
  score : Option Rat
deriving DecidableEq, Repr

/-- `agent_release_is_independent`: no workflow pack owns the release. -/
def agentReleaseIsIndependent (release : AgentRelease) : Bool :=
  decide (release.automationPolicy.index "source" ≠ .string "workflow_pack_release")

namespace AgentRelease

/-- The release is the promoted one of an agent version and an environment. -/
def isPromotedFor (agentId agentVersionId : Uuid) (environment : String)
    (release : AgentRelease) : Bool :=
  decide (release.agentId = agentId) && decide (release.agentVersionId = agentVersionId) &&
    eqIgnoreAsciiCase release.environment environment && decide (release.status = .promoted)

def withStatus (status : AgentReleaseStatus) (release : AgentRelease) : AgentRelease :=
  { release with status }

@[simp] theorem withStatus_id (status : AgentReleaseStatus) (release : AgentRelease) :
    (release.withStatus status).id = release.id := rfl

end AgentRelease

/-! ### The gate of a release -/

/-- `format!("{value:.4}")`. -/
def fixed4 (value : Rat) : String :=
  let scaled := |value| * 10000
  let whole := scaled.floor.toNat
  let rest := scaled - whole
  let rounded := if 1 / 2 < rest ∨ (rest = 1 / 2 ∧ whole % 2 = 1) then whole + 1 else whole
  let decimals := toString (rounded % 10000)
  (if value < 0 then "-" else "") ++ toString (rounded / 10000) ++ "." ++
    String.ofList (List.replicate (4 - decimals.length) '0') ++ decimals

/-- What a release takes from the eval run behind it. -/
structure AgentReleaseGate where
  agentVersionId : Uuid
  environment : String
  evalRunId : Uuid
  score : Rat
  minScore : Rat
deriving DecidableEq, Repr

/-- The checks of `validate_agent_release_input` on the eval run that was found. -/
def agentReleaseGate (agentId : Uuid) (input : CreateAgentRelease) (agentVersion : AgentVersion)
    (evalRun : EvalRun) : Except AppError AgentReleaseGate :=
  if evalRun.agentId ≠ agentId ∨ evalRun.agentVersionId ≠ agentVersion.id then
    .error (.badRequest "eval run must target the released agent version")
  else
    let minScore := input.minScore.getD 1
    let score := evalRun.score.getD 0
    if evalRun.status ≠ "completed" ∨ score < minScore then
      .error (.badRequest ("eval gate failed: status=" ++ evalRun.status ++ ", score=" ++
        fixed4 score ++ ", min_score=" ++ fixed4 minScore))
    else
      .ok {
        agentVersionId := agentVersion.id
        environment := input.environment
        evalRunId := evalRun.id
        score
        minScore }

/-! ### New releases -/

/-- The release that `create_agent_release` stores. -/
def directAgentRelease (id : Uuid) (now : Timestamp) (agentId : Uuid) (gate : AgentReleaseGate)
    (promotedBy : String) : AgentRelease where
  id := id
  agentId := agentId
  agentVersionId := gate.agentVersionId
  environment := gate.environment
  status := .promoted
  evalRunId := some gate.evalRunId
  evalScore := some gate.score
  minScore := gate.minScore
  requestedBy := some promotedBy
  requestedAt := some now
  requestReason := none
  approverSubject := none
  decisionBy := some promotedBy
  decidedAt := some now
  decisionReason := some "direct promotion"
  promotedBy := some promotedBy
  promotedAt := some now
  automationPolicy := emptyJsonObject
  createdAt := now

/-- The write of `create_agent_release`: an independent promoted release stays, one of
a workflow pack makes room. -/
def createAgentRelease (draw : Uuid) (now : Timestamp) (agentId : Uuid) (gate : AgentReleaseGate)
    (promotedBy : String) (releases : AgentReleaseTable) :
    Except AppError AgentRelease × AgentReleaseTable :=
  let release := directAgentRelease (releases.drawKey draw) now agentId gate promotedBy
  match releases.rows.find?
      (AgentRelease.isPromotedFor agentId gate.agentVersionId gate.environment) with
  | none => (.ok release, releases.insert release)
  | some existing =>
      if agentReleaseIsIndependent existing then (.ok existing, releases)
      else
        (.ok release, (releases.modify existing.id (AgentRelease.withStatus .superseded)
          (AgentRelease.withStatus_id .superseded)).insert release)

/-- What a requester says about a promotion. -/
structure PromotionRequest where
  requestedBy : String
  approverSubject : Option String
  requestReason : Option String
  automationPolicy : Json
deriving DecidableEq, Repr

/-- The release that `request_agent_release_promotion` stores. -/
def requestedAgentRelease (id : Uuid) (now : Timestamp) (agentId : Uuid)
    (gate : AgentReleaseGate) (request : PromotionRequest) : AgentRelease where
  id := id
  agentId := agentId
  agentVersionId := gate.agentVersionId
  environment := gate.environment
  status := .pendingApproval
  evalRunId := some gate.evalRunId
  evalScore := some gate.score
  minScore := gate.minScore
  requestedBy := some request.requestedBy
  requestedAt := some now
  requestReason := request.requestReason
  approverSubject := request.approverSubject
  decisionBy := none
  decidedAt := none
  decisionReason := none
  promotedBy := none
  promotedAt := none
  automationPolicy := request.automationPolicy
  createdAt := now

/-- The write of `request_agent_release_promotion`. -/
def requestAgentReleasePromotion (draw : Uuid) (now : Timestamp) (agentId : Uuid)
    (gate : AgentReleaseGate) (request : PromotionRequest) (releases : AgentReleaseTable) :
    AgentRelease × AgentReleaseTable :=
  let release := requestedAgentRelease (releases.drawKey draw) now agentId gate request
  (release, releases.insert release)

/-! ### Decisions -/

def validateAgentReleaseDecider (release : AgentRelease) (decidedBy : String) :
    Except AppError Unit :=
  if release.requestedBy = some decidedBy then
    .error (.forbidden "release requester cannot approve or reject the same release")
  else if release.approverSubject.any fun approver => decide (approver ≠ decidedBy) then
    .error (.forbidden "release decision requires the delegated approver subject")
  else .ok ()

def validateAgentReleaseDecision (release : AgentRelease) (decidedBy : String) :
    Except AppError Unit :=
  if release.status ≠ .pendingApproval ∧ release.status ≠ .promotionFailed then
    .error (.badRequest "agent release is not pending approval")
  else validateAgentReleaseDecider release decidedBy

def agentReleaseNotFound : AppError := .notFound "agent release not found"

/-- The release of the agent, or the error of every operation that looks one up. -/
def findAgentRelease (agentId releaseId : Uuid) (releases : AgentReleaseTable) :
    Except AppError AgentRelease :=
  match releases.find? releaseId with
  | none => .error agentReleaseNotFound
  | some release => if release.agentId ≠ agentId then .error agentReleaseNotFound else .ok release

/-- A decision that goes through replaces the release, and one that is refused leaves
the table. -/
def storeDecision (releases : AgentReleaseTable) :
    Except AppError AgentRelease → Except AppError AgentRelease × AgentReleaseTable
  | .error error => (.error error, releases)
  | .ok release => (.ok release, releases.insert release)

namespace AgentRelease

def begun (now : Timestamp) (decidedBy reason : String) (release : AgentRelease) :
    AgentRelease :=
  { release with
    status := .promotionInProgress
    decisionBy := some decidedBy
    decidedAt := some now
    decisionReason := some reason
    promotedBy := none
    promotedAt := none }

def completed (now : Timestamp) (promotedBy : String) (release : AgentRelease) :
    AgentRelease :=
  { release with
    status := .promoted
    promotedBy := some promotedBy
    promotedAt := some now }

def promotionFailed (reason : String) (release : AgentRelease) : AgentRelease :=
  { release with
    status := .promotionFailed
    decisionReason := some reason
    promotedBy := none
    promotedAt := none }

/-- The release after a decision that does not promote it. -/
def rejectedBy (now : Timestamp) (decidedBy : String) (reason : Option String)
    (release : AgentRelease) : AgentRelease :=
  { release with
    status := .rejected
    decisionBy := some decidedBy
    decidedAt := some now
    decisionReason := reason }

end AgentRelease

/-- The write of `begin_agent_release_promotion`.  Who began it may begin it again. -/
def beginAgentReleasePromotion (now : Timestamp) (agentId releaseId : Uuid)
    (decidedBy reason : String) (releases : AgentReleaseTable) :
    Except AppError AgentRelease × AgentReleaseTable :=
  storeDecision releases do
    let release ← findAgentRelease agentId releaseId releases
    if release.status = .promotionInProgress then
      validateAgentReleaseDecider release decidedBy
      if release.decisionBy ≠ some decidedBy then
        .error (.forbidden "agent release promotion is owned by another approver")
      else .ok release
    else
      validateAgentReleaseDecision release decidedBy
      .ok (release.begun now decidedBy reason)

/-- The release is in promotion by the subject. -/
def ownedPromotion (agentId releaseId : Uuid) (subject : String) (releases : AgentReleaseTable) :
    Except AppError AgentRelease := do
  let release ← findAgentRelease agentId releaseId releases
  if release.status ≠ .promotionInProgress ∨ release.decisionBy ≠ some subject then
    .error (.badRequest "agent release is not in promotion by this approver")
  else .ok release

/-- A promoted release of the same target makes room for the current one. -/
def AgentRelease.madeRoom (current sibling : AgentRelease) : AgentRelease :=
  if sibling.id ≠ current.id ∧ sibling.isPromotedFor current.agentId current.agentVersionId
      current.environment = true then sibling.withStatus .superseded
  else sibling

@[simp] theorem AgentRelease.madeRoom_id (current sibling : AgentRelease) :
    (current.madeRoom sibling).id = sibling.id := by
  unfold madeRoom
  split <;> rfl

/-- The write of `complete_agent_release_promotion`. -/
def completeAgentReleasePromotion (now : Timestamp) (agentId releaseId : Uuid)
    (promotedBy : String) (releases : AgentReleaseTable) :
    Except AppError AgentRelease × AgentReleaseTable :=
  match ownedPromotion agentId releaseId promotedBy releases with
  | .error error => (.error error, releases)
  | .ok current =>
      let completed := current.completed now promotedBy
      (.ok completed, (releases.mapRows current.madeRoom current.madeRoom_id).insert completed)

/-- The write of `fail_agent_release_promotion`. -/
def failAgentReleasePromotion (agentId releaseId : Uuid) (decidedBy reason : String)
    (releases : AgentReleaseTable) : Except AppError AgentRelease × AgentReleaseTable :=
  storeDecision releases do
    let release ← ownedPromotion agentId releaseId decidedBy releases
    .ok (release.promotionFailed reason)

/-- The write of `decide_agent_release_promotion` for a rejection, the only status it
is called with.  Whose release it is it does not check. -/
def rejectAgentReleasePromotion (now : Timestamp) (releaseId : Uuid) (rejectedBy : String)
    (reason : Option String) (releases : AgentReleaseTable) :
    Except AppError AgentRelease × AgentReleaseTable :=
  storeDecision releases do
    let release ← okOr (releases.find? releaseId) agentReleaseNotFound
    validateAgentReleaseDecision release rejectedBy
    .ok (release.rejectedBy now rejectedBy reason)

/-- The write of `automate_agent_release_decision` for a rejection: who decides it does
not check. -/
def automateAgentReleaseRejection (now : Timestamp) (agentId releaseId : Uuid)
    (decidedBy reason : String) (releases : AgentReleaseTable) :
    Except AppError AgentRelease × AgentReleaseTable :=
  storeDecision releases do
    let release ← findAgentRelease agentId releaseId releases
    if release.status ≠ .pendingApproval ∧ release.status ≠ .promotionFailed then
      .error (.badRequest "agent release is not pending approval")
    else .ok (release.rejectedBy now decidedBy (some reason))

/-- The write of `rollback_agent_release`. -/
def rollbackAgentRelease (agentId releaseId : Uuid) (releases : AgentReleaseTable) :
    Except AppError AgentRelease × AgentReleaseTable :=
  storeDecision releases do
    let release ← findAgentRelease agentId releaseId releases
    if release.status ≠ .promoted then
      .error (.badRequest "agent release is not promoted")
    else .ok (release.withStatus .rolledBack)

end MandoForge
