/-
Module: MandoForge.AgentRelease.PostgresReleases
Purpose: The operations on the releases of agents as the database performs them, beside
  the ones in memory: a read with its checks, then a conditional update.
Trusted boundary: a statement is atomic, and the calls come one after another; `lower` of
  the database is a parameter.  A time is one that the database can hold.
Main exports: AgentReleaseBackend, postgresReleases
-/
import MandoForge.AgentRelease.Releases

namespace MandoForge

open Foundation

/-! ### The statements -/

/-- `SELECT .. WHERE agent_id = $2 AND id = $3`. -/
def selectAgentRelease (agentId releaseId : Uuid) (releases : AgentReleaseTable) :
    Except AppError AgentRelease :=
  okOr (releases.rows.find? fun release =>
    decide (release.agentId = agentId) && decide (release.id = releaseId)) agentReleaseNotFound

/-- `UPDATE .. WHERE id = $3 AND ..  RETURNING ..`: the changed row, if the guard let one
through. -/
def updateReturning (releaseId : Uuid) (guard : AgentRelease → Bool)
    (set : AgentRelease → AgentRelease)
    (keeps : ∀ release, (set release).id = release.id)
    (releases : AgentReleaseTable) : Option AgentRelease × AgentReleaseTable :=
  (((releases.find? releaseId).filter guard).map set,
    releases.modify releaseId (fun release => if guard release then set release else release)
      fun release => by split <;> simp [keeps])

/-- `fetch_optional(..).ok_or_else(..)`. -/
def answerUpdate (refusal : AppError) (updated : Option AgentRelease × AgentReleaseTable) :
    Except AppError AgentRelease × AgentReleaseTable :=
  (okOr updated.1 refusal, updated.2)

/-- `check?` before the rest of an operation. -/
def afterCheck (check : Except AppError Unit) (releases : AgentReleaseTable)
    (rest : Except AppError AgentRelease × AgentReleaseTable) :
    Except AppError AgentRelease × AgentReleaseTable :=
  match check with
  | .error error => (.error error, releases)
  | .ok _ => rest

def ofAgent (agentId : Uuid) (release : AgentRelease) : Bool := decide (release.agentId = agentId)

/-- `status IN ('pending_approval', 'promotion_failed')`. -/
def AgentReleaseStatus.isOpenForDecision : AgentReleaseStatus → Bool
  | pendingApproval | promotionFailed => true
  | _ => false

/-- `status = 'promotion_in_progress' AND decision_by = $4`. -/
def AgentRelease.isInPromotionBy (subject : String) (release : AgentRelease) : Bool :=
  decide (release.status = .promotionInProgress) && decide (release.decisionBy = some subject)

namespace AgentRelease

@[simp] theorem begun_id (now : Timestamp) (decidedBy reason : String) (release : AgentRelease) :
    (release.begun now decidedBy reason).id = release.id := rfl

@[simp] theorem completed_id (now : Timestamp) (promotedBy : String) (release : AgentRelease) :
    (release.completed now promotedBy).id = release.id := rfl

@[simp] theorem promotionFailed_id (reason : String) (release : AgentRelease) :
    (release.promotionFailed reason).id = release.id := rfl

end AgentRelease

/-! ### The operations in the database -/

def beginPromotionSql (now : Timestamp) (agentId releaseId : Uuid) (decidedBy reason : String)
    (releases : AgentReleaseTable) : Except AppError AgentRelease × AgentReleaseTable :=
  match selectAgentRelease agentId releaseId releases with
  | .error error => (.error error, releases)
  | .ok existing =>
      if existing.status = .promotionInProgress then
        (do
          validateAgentReleaseDecider existing decidedBy
          if existing.decisionBy ≠ some decidedBy then
            .error (.forbidden "agent release promotion is owned by another approver")
          else .ok existing, releases)
      else
        afterCheck (validateAgentReleaseDecision existing decidedBy) releases
          (answerUpdate (.badRequest "agent release promotion state changed concurrently")
            (updateReturning releaseId
              (fun release => ofAgent agentId release && release.status.isOpenForDecision)
              (AgentRelease.begun now decidedBy reason)
              (AgentRelease.begun_id now decidedBy reason) releases))

/-- `UPDATE .. SET status = 'superseded'` for the promoted siblings of the release. -/
def AgentRelease.supersededBy (lower : String → String) (current sibling : AgentRelease) :
    AgentRelease :=
  if sibling.id ≠ current.id ∧ sibling.agentId = current.agentId ∧
      sibling.agentVersionId = current.agentVersionId ∧
      lower sibling.environment = lower current.environment ∧ sibling.status = .promoted then
    sibling.withStatus .superseded
  else sibling

theorem AgentRelease.supersededBy_id (lower : String → String) (current sibling : AgentRelease) :
    (current.supersededBy lower sibling).id = sibling.id := by
  unfold supersededBy
  split <;> rfl

/-- A transaction: when its last statement finds no row, it is rolled back. -/
def completePromotionSql (lower : String → String) (now : Timestamp) (agentId releaseId : Uuid)
    (promotedBy : String) (releases : AgentReleaseTable) :
    Except AppError AgentRelease × AgentReleaseTable :=
  let refusal := AppError.badRequest "agent release is not in promotion by this approver"
  match selectAgentRelease agentId releaseId releases with
  | .error error => (.error error, releases)
  | .ok current =>
      if current.status ≠ .promotionInProgress ∨ current.decisionBy ≠ some promotedBy then
        (.error refusal, releases)
      else
        match updateReturning releaseId
            (fun release => ofAgent agentId release && release.isInPromotionBy promotedBy)
            (AgentRelease.completed now promotedBy) (AgentRelease.completed_id now promotedBy)
            (releases.mapRows (current.supersededBy lower) (current.supersededBy_id lower)) with
        | (none, _) => (.error refusal, releases)
        | (some release, updated) => (.ok release, updated)

def failPromotionSql (agentId releaseId : Uuid) (decidedBy reason : String)
    (releases : AgentReleaseTable) : Except AppError AgentRelease × AgentReleaseTable :=
  answerUpdate (.badRequest "agent release is not in promotion by this approver")
    (updateReturning releaseId
      (fun release => ofAgent agentId release && release.isInPromotionBy decidedBy)
      (AgentRelease.promotionFailed reason) (AgentRelease.promotionFailed_id reason) releases)

/-- The row after a rejection: who promoted it is cleared. -/
def AgentRelease.rejectedRow (now : Timestamp) (decidedBy : String) (reason : Option String)
    (release : AgentRelease) : AgentRelease :=
  { release.rejectedBy now decidedBy reason with
    promotedBy := none
    promotedAt := none }

@[simp] theorem AgentRelease.rejectedRow_id (now : Timestamp) (decidedBy : String)
    (reason : Option String) (release : AgentRelease) :
    (release.rejectedRow now decidedBy reason).id = release.id := rfl

/-- The update of `decide_agent_release_promotion` and of `automate_agent_release_decision`
for a rejection. -/
def rejectRowSql (now : Timestamp) (agentId releaseId : Uuid) (decidedBy : String)
    (reason : Option String) (releases : AgentReleaseTable) :
    Except AppError AgentRelease × AgentReleaseTable :=
  answerUpdate (.badRequest "agent release is not pending approval")
    (updateReturning releaseId
      (fun release => ofAgent agentId release && release.status.isOpenForDecision)
      (AgentRelease.rejectedRow now decidedBy reason)
      (AgentRelease.rejectedRow_id now decidedBy reason) releases)

def rejectPromotionSql (now : Timestamp) (agentId releaseId : Uuid) (rejectedBy : String)
    (reason : Option String) (releases : AgentReleaseTable) :
    Except AppError AgentRelease × AgentReleaseTable :=
  match selectAgentRelease agentId releaseId releases with
  | .error error => (.error error, releases)
  | .ok existing =>
      afterCheck (validateAgentReleaseDecision existing rejectedBy) releases
        (rejectRowSql now agentId releaseId rejectedBy reason releases)

def automateRejectionSql (now : Timestamp) (agentId releaseId : Uuid) (decidedBy reason : String)
    (releases : AgentReleaseTable) : Except AppError AgentRelease × AgentReleaseTable :=
  match selectAgentRelease agentId releaseId releases with
  | .error error => (.error error, releases)
  | .ok existing =>
      if existing.status ≠ .pendingApproval ∧ existing.status ≠ .promotionFailed then
        (.error (.badRequest "agent release is not pending approval"), releases)
      else rejectRowSql now agentId releaseId decidedBy (some reason) releases

def rollbackSql (agentId releaseId : Uuid) (releases : AgentReleaseTable) :
    Except AppError AgentRelease × AgentReleaseTable :=
  match selectAgentRelease agentId releaseId releases with
  | .error error => (.error error, releases)
  | .ok existing =>
      if existing.status ≠ .promoted then
        (.error (.badRequest "agent release is not promoted"), releases)
      else answerUpdate (.badRequest "agent release is not promoted")
        (updateReturning releaseId
          (fun release => ofAgent agentId release && decide (release.status = .promoted))
          (AgentRelease.withStatus .rolledBack) (AgentRelease.withStatus_id .rolledBack) releases)

/-! ### Calls of one backend -/

/-- The operations that the calls are made of. -/
structure AgentReleaseBackend where
  begin : Timestamp → Uuid → Uuid → String → String → AgentReleaseTable →
    Except AppError AgentRelease × AgentReleaseTable
  complete : Timestamp → Uuid → Uuid → String → AgentReleaseTable →
    Except AppError AgentRelease × AgentReleaseTable
  fail : Uuid → Uuid → String → String → AgentReleaseTable →
    Except AppError AgentRelease × AgentReleaseTable
  reject : Timestamp → Uuid → Uuid → String → Option String → AgentReleaseTable →
    Except AppError AgentRelease × AgentReleaseTable
  automateRejection : Timestamp → Uuid → Uuid → String → String → AgentReleaseTable →
    Except AppError AgentRelease × AgentReleaseTable
  rollback : Uuid → Uuid → AgentReleaseTable → Except AppError AgentRelease × AgentReleaseTable

def memoryReleases : AgentReleaseBackend where
  begin := beginAgentReleasePromotion
  complete := completeAgentReleasePromotion
  fail := failAgentReleasePromotion
  reject now _ := rejectAgentReleasePromotion now
  automateRejection := automateAgentReleaseRejection
  rollback := rollbackAgentRelease

def postgresReleases (lower : String → String) : AgentReleaseBackend where
  begin := beginPromotionSql
  complete := completePromotionSql lower
  fail := failPromotionSql
  reject := rejectPromotionSql
  automateRejection := automateRejectionSql
  rollback := rollbackSql

/-- A call, of the agent and the release that it names. -/
inductive AgentReleaseMove where
  | begin (decidedBy reason : String)
  | complete (promotedBy : String)
  | fail (decidedBy reason : String)
  | reject (rejectedBy : String) (reason : Option String)
  | automate (nextStatus decidedBy reason : String)
  | rollback
deriving DecidableEq, Repr

/-- A call and the times at which it reads the clock; only an automated promotion reads
it twice. -/
structure AgentReleaseEvent where
  now : Timestamp
  later : Timestamp
  agentId : Uuid
  releaseId : Uuid
  move : AgentReleaseMove
deriving DecidableEq, Repr

namespace AgentReleaseBackend

variable (backend : AgentReleaseBackend) (agents : Uuid → Bool)

/-- `self.get_agent(agent_id).await?` before the rest of a call. -/
def withAgent (agentId : Uuid)
    (operation : AgentReleaseTable → Except AppError AgentRelease × AgentReleaseTable)
    (releases : AgentReleaseTable) : Except AppError AgentRelease × AgentReleaseTable :=
  if agents agentId then operation releases else (.error (.notFound "agent not found"), releases)

/-- `automate_agent_release_decision`. -/
def automate (now later : Timestamp) (agentId releaseId : Uuid)
    (nextStatus decidedBy reason : String) (releases : AgentReleaseTable) :
    Except AppError AgentRelease × AgentReleaseTable :=
  if nextStatus ≠ "promoted" ∧ nextStatus ≠ "rejected" then
    (.error (.badRequest "unsupported automated release decision"), releases)
  else if nextStatus = "promoted" then
    match withAgent agents agentId (backend.begin now agentId releaseId decidedBy reason)
        releases with
    | (.error error, begun) => (.error error, begun)
    | (.ok _, begun) =>
        withAgent agents agentId (backend.complete later agentId releaseId decidedBy) begun
  else backend.automateRejection now agentId releaseId decidedBy reason releases

def respond (event : AgentReleaseEvent) (releases : AgentReleaseTable) :
    Except AppError AgentRelease × AgentReleaseTable :=
  withAgent agents event.agentId
    (match event.move with
      | .begin decidedBy reason =>
          backend.begin event.now event.agentId event.releaseId decidedBy reason
      | .complete promotedBy =>
          backend.complete event.now event.agentId event.releaseId promotedBy
      | .fail decidedBy reason => backend.fail event.agentId event.releaseId decidedBy reason
      | .reject rejectedBy reason =>
          backend.reject event.now event.agentId event.releaseId rejectedBy reason
      | .automate nextStatus decidedBy reason =>
          backend.automate agents event.now event.later event.agentId event.releaseId nextStatus
            decidedBy reason
      | .rollback => backend.rollback event.agentId event.releaseId)
    releases

end AgentReleaseBackend

end MandoForge
