/-
Module: MandoForge.Approval.Escalation
Purpose: The escalation of approvals: which rule is due next for an approval, how an
  escalation is written into its evidence, the scheduled run over all due approvals and
  the manual escalation.  The escalations that were written are listed beside the
  store, which itself keeps only the last one of each approval.
Trusted boundary: the parsing of identifiers, the projection of events to the session
  loops and the delivery of a notification are parameters; they reach no evidence.
Main exports: ApprovalEscalationRule, nextDueEscalationRule
-/
import MandoForge.Store.Approvals
import MandoForge.TaskGrant.Scope
import Mathlib.Data.List.Sort

namespace MandoForge

open Foundation

/-! ### Rules and approvals -/

structure ApprovalGroup where
  id : Uuid
  name : String
  subjects : List String
  status : String
deriving DecidableEq, Repr

structure ApprovalEscalationRule where
  id : Uuid
  name : String
  riskLevel : String
  groupId : Uuid
  orderIndex : Int
  afterSeconds : Int
  status : String
  createdAt : Timestamp
deriving DecidableEq, Repr

/-- What an escalation reads of an approval next to the fields of `Approval`. -/
structure ApprovalColumns where
  riskLevel : String
  evidence : Json
  createdAt : Timestamp
deriving DecidableEq, Repr

/-- An approval as it is read, with all of its columns. -/
structure PresentedApproval where
  approval : Approval
  columns : ApprovalColumns
deriving DecidableEq, Repr

/-- The order of `sort_by_key` and `min_by_key` on rules. -/
def ApprovalEscalationRule.comesBefore (first second : ApprovalEscalationRule) : Prop :=
  first.orderIndex < second.orderIndex ∨
    (first.orderIndex = second.orderIndex ∧ first.createdAt ≤ second.createdAt)

instance : DecidableRel ApprovalEscalationRule.comesBefore :=
  fun _ _ => inferInstanceAs (Decidable (_ ∨ _))

def listApprovalEscalationRules (rules : Table ApprovalEscalationRule.id) :
    List ApprovalEscalationRule :=
  rules.rows.insertionSort ApprovalEscalationRule.comesBefore

def firstActiveEscalationRuleForRisk (rules : Table ApprovalEscalationRule.id)
    (riskLevel : String) : Option ApprovalEscalationRule :=
  (listApprovalEscalationRules rules).find? fun rule =>
    decide (rule.status = "active" ∧ rule.riskLevel = riskLevel)

/-! ### The rule that is due next -/

def approvalIsExpiredAt (approval : Approval) (now : Timestamp) : Bool :=
  decide (approval.status = .pending) && approval.expiresAt.any fun at_ => decide (at_ ≤ now)

section

variable (parseUuid : String → Option Uuid)

/-- The rule that the evidence names as the last one applied. -/
def previousRuleId (evidence : Json) : Option Uuid :=
  (((evidence.get "escalation").bind fun value => value.get "rule_id").bind Json.asStr).bind
    parseUuid

/-- The place of that rule, while it is listed. -/
def previousOrder (rules : List ApprovalEscalationRule) (evidence : Json) : Option Int :=
  (previousRuleId parseUuid evidence).bind fun ruleId =>
    (rules.find? fun rule => decide (rule.id = ruleId)).map ApprovalEscalationRule.orderIndex

/-- `as i32` on a 64-bit value: the low 32 bits, read with a sign. -/
def asI32 (value : Int) : Int := value.bmod (2 ^ 32)

/-- The age of the approval, as wide as a rule's `after_seconds`. -/
def ageSeconds (createdAt now : Timestamp) : Int :=
  asI32 (max (secondsSince now createdAt) 0)

/-- The rule applies to the approval now. -/
def ApprovalEscalationRule.isDue (rule : ApprovalEscalationRule) (columns : ApprovalColumns)
    (previous : Option Int) (now : Timestamp) : Bool :=
  decide (rule.status = "active" ∧ rule.riskLevel = columns.riskLevel) &&
    previous.all (fun order => decide (order < rule.orderIndex)) &&
    decide (rule.afterSeconds ≤ ageSeconds columns.createdAt now)

/-- `min_by_key`: the first of the least ones. -/
def firstLeast : List ApprovalEscalationRule → Option ApprovalEscalationRule
  | [] => none
  | rule :: rest =>
      match firstLeast rest with
      | none => some rule
      | some least => if rule.comesBefore least then some rule else some least

def nextDueEscalationRule (columns : ApprovalColumns) (rules : List ApprovalEscalationRule)
    (now : Timestamp) : Option ApprovalEscalationRule :=
  firstLeast (rules.filter fun rule =>
    rule.isDue columns (previousOrder parseUuid rules columns.evidence) now)

end

/-! ### The state -/

/-- An escalation that was written, by a rule or without one. -/
structure WrittenEscalation where
  approvalId : Uuid
  ruleId : Option Uuid
deriving DecidableEq, Repr

structure EscalationState where
  store : MemoryStore
  columns : Uuid → ApprovalColumns
  groups : Table ApprovalGroup.id
  /-- All escalations so far, the oldest first. -/
  written : List WrittenEscalation

def EscalationState.presented (state : EscalationState) (approval : Approval) :
    PresentedApproval :=
  ⟨approval, state.columns approval.id⟩

def listApprovalsForDueRun (state : EscalationState) : List PresentedApproval :=
  (state.store.approvals.rows.filter fun approval =>
    decide (approval.status = .pending) ||
      (decide (approval.status = .expired) &&
        approval.toolCallId.any fun toolCallId =>
          (state.store.toolCalls.find? toolCallId).any fun toolCall =>
            decide (toolCall.status = .waitingApproval))).map state.presented

def getApprovalGroup (groupId : Uuid) (state : EscalationState) :
    Except AppError ApprovalGroup :=
  match state.groups.find? groupId with
  | some group => .ok group
  | none => .error (.notFound "approval group not found")

/-! ### An escalation -/

def mergeApprovalEvidence (target patch : Json) : Json :=
  let fields := match target with
    | .object fields => fields
    | other => [("details", other)]
  match patch with
  | .object patchFields => .object (Json.insertFields patchFields fields)
  | _ => .object fields

/-- What is drawn and read from the clock for one escalation. -/
structure EscalationDraws where
  escalatedAt : Timestamp
  eventId : Uuid
  auditId : Uuid
deriving DecidableEq, Repr

section

variable (codec : RecordCodec)

/-- What an escalation writes into the evidence. -/
def escalationPatch (group : ApprovalGroup) (ruleId : Option Uuid) (reason escalatedBy : String)
    (escalatedAt : Timestamp) : Json :=
  .ofFields [("approver_group_id", .ofUuid group.id), ("approver_group_name", .string group.name),
    ("escalation", .ofFields [("rule_id", .ofOption .ofUuid ruleId),
      ("group_id", .ofUuid group.id), ("reason", .string reason),
      ("escalated_by", .string escalatedBy),
      ("escalated_at", .string (codec.printTimestamp escalatedAt))])]

def escalatedEvent (approval : Approval) (group : ApprovalGroup) (ruleId : Option Uuid)
    (actorType : String) (actorId : Option Uuid) (escalatedAt : Timestamp) : NewEvent where
  actorType := actorType
  actorId := actorId
  sessionId := approval.sessionId
  eventType := "approval.escalated"
  payload := .ofFields [("approval_id", .ofUuid approval.id), ("group_id", .ofUuid group.id),
    ("group_name", .string group.name), ("rule_id", .ofOption .ofUuid ruleId),
    ("escalated_at", .string (codec.printTimestamp escalatedAt))]

def escalatedAudit (auditId : Uuid) (approval : Approval) (group : ApprovalGroup)
    (ruleId : Option Uuid) (actorType : String) (actorId : Option Uuid) : AuditLog where
  id := auditId
  sessionId := some approval.sessionId
  actorType := actorType
  actorId := actorId
  action := "approval.escalated"
  resourceType := "approval"
  resourceId := some approval.id
  details := .ofFields [("group_id", .ofUuid group.id), ("group_name", .string group.name),
    ("rule_id", .ofOption .ofUuid ruleId), ("subject_count", .ofNat group.subjects.length)]

/-- `update_approval_evidence`, with the escalation that it writes. -/
def updateApprovalEvidence (approvalId : Uuid) (ruleId : Option Uuid) (evidence : Json)
    (state : EscalationState) : Except AppError PresentedApproval × EscalationState :=
  match state.store.approvals.find? approvalId with
  | none => (.error (.notFound "approval not found"), state)
  | some approval =>
      let columns := { state.columns approvalId with evidence }
      (.ok ⟨approval, columns⟩, { state with
        columns := Function.update state.columns approvalId columns
        written := state.written ++ [⟨approvalId, ruleId⟩] })

def escalateApprovalRecord (draws : EscalationDraws) (approval : PresentedApproval)
    (group : ApprovalGroup) (ruleId : Option Uuid) (reason escalatedBy actorType : String)
    (actorId : Option Uuid) (state : EscalationState) :
    Except AppError PresentedApproval × EscalationState :=
  let evidence := mergeApprovalEvidence approval.columns.evidence
    (escalationPatch codec group ruleId reason escalatedBy draws.escalatedAt)
  match updateApprovalEvidence approval.approval.id ruleId evidence state with
  | (.error error, state) => (.error error, state)
  | (.ok updated, state) =>
      match appendEventWithId draws.eventId false
          (escalatedEvent codec updated.approval group ruleId actorType actorId
            draws.escalatedAt) state.store with
      | (.error error, store) => (.error error, { state with store })
      | (.ok _, store) =>
          match appendAuditLog
              (escalatedAudit draws.auditId updated.approval group ruleId actorType actorId)
              store with
          | (.error error, store) => (.error error, { state with store })
          | (.ok _, store) => (.ok updated, { state with store })

/-! ### The scheduled run -/

/-- What an expiry meets: the clock, and how the events reach the session loops. -/
structure ExpiryServices where
  expiredAt : Uuid → Timestamp
  /-- `project_declined_approval_events`. -/
  project : List SessionEvent → MemoryStore → Except AppError Unit × MemoryStore

/-- What a run meets: the clock, the drawn identifiers, and the services it calls. -/
structure DueRun extends ExpiryServices where
  checkedAt : Timestamp
  draws : Uuid → EscalationDraws
  auditId : Uuid
  /-- `deliver_approval_notification`. -/
  deliver : PresentedApproval → MemoryStore → Except AppError Json × MemoryStore

/-- `expire_approval_record`; answers whether the approval is expired now. -/
def expireApprovalRecord (services : ExpiryServices) (approvalId : Uuid) (state : EscalationState) :
    Except AppError Bool × EscalationState :=
  match state.store.approvals.find? approvalId with
  | none => (.error (.notFound "approval not found"), state)
  | some approval =>
      if approval.status ≠ .pending ∧ approval.status ≠ .expired then (.ok false, state)
      else
        match declineApprovalAndToolCall codec (services.expiredAt approvalId) approvalId .expired
            "system" state.store with
        | (.error error, store) => (.error error, { state with store })
        | (.ok (updated, _, events), store) =>
            match services.project events store with
            | (.error error, store) => (.error error, { state with store })
            | (.ok _, store) => (.ok (decide (updated.status = .expired)), { state with store })

/-- `ApprovalEscalationDueRun`, as the run counts. -/
structure DueRunTally where
  expiredCount : Nat := 0
  escalatedCount : Nat := 0
  skippedCount : Nat := 0
  notificationDeliveries : List Json := []
deriving DecidableEq, Repr

def DueRunTally.expired (tally : DueRunTally) (isExpired : Bool) : DueRunTally :=
  if isExpired then { tally with expiredCount := tally.expiredCount + 1 }
  else { tally with skippedCount := tally.skippedCount + 1 }

def DueRunTally.skipped (tally : DueRunTally) : DueRunTally :=
  { tally with skippedCount := tally.skippedCount + 1 }

def DueRunTally.delivered (tally : DueRunTally) (delivery : Json) : DueRunTally :=
  { tally with
    escalatedCount := tally.escalatedCount + 1
    notificationDeliveries := tally.notificationDeliveries ++ [delivery] }

variable (parseUuid : String → Option Uuid) (rules : Table ApprovalEscalationRule.id)

/-- What a run does for one approval. -/
def escalateDueApproval (run : DueRun) (approval : PresentedApproval) (tally : DueRunTally)
    (state : EscalationState) : Except AppError DueRunTally × EscalationState :=
  if approval.approval.status = .expired ∨
      approvalIsExpiredAt approval.approval run.checkedAt = true then
    match expireApprovalRecord codec run.toExpiryServices approval.approval.id state with
    | (.error error, state) => (.error error, state)
    | (.ok isExpired, state) => (.ok (tally.expired isExpired), state)
  else
    match nextDueEscalationRule parseUuid approval.columns (listApprovalEscalationRules rules)
        run.checkedAt with
    | none => (.ok tally.skipped, state)
    | some rule =>
        match getApprovalGroup rule.groupId state with
        | .error error => (.error error, state)
        | .ok group =>
            if group.status ≠ "active" then (.ok tally.skipped, state)
            else
              match escalateApprovalRecord codec (run.draws approval.approval.id) approval group
                  (some rule.id)
                  ("Scheduled escalation after " ++ toString rule.afterSeconds ++ " seconds")
                  "system" "system" none state with
              | (.error error, state) => (.error error, state)
              | (.ok updated, state) =>
                  match run.deliver updated state.store with
                  | (.error error, store) => (.error error, { state with store })
                  | (.ok delivery, store) => (.ok (tally.delivered delivery), { state with store })

/-- The approvals of a run, one after the other, up to the first error. -/
def escalateDueApprovals (run : DueRun) : List PresentedApproval → DueRunTally →
    EscalationState → Except AppError DueRunTally × EscalationState
  | [], tally, state => (.ok tally, state)
  | approval :: rest, tally, state =>
      match escalateDueApproval codec parseUuid rules run approval tally state with
      | (.error error, state) => (.error error, state)
      | (.ok tally, state) => escalateDueApprovals run rest tally state

def dueRunAudit (run : DueRun) (tally : DueRunTally) : AuditLog where
  id := run.auditId
  sessionId := none
  actorType := "system"
  actorId := none
  action := "approval.escalation_due_run"
  resourceType := "approval_escalation_rules"
  resourceId := none
  details := .ofFields [("status", .string "completed"),
    ("checked_at", .string (codec.printTimestamp run.checkedAt)),
    ("expired_count", .ofNat tally.expiredCount),
    ("escalated_count", .ofNat tally.escalatedCount),
    ("skipped_count", .ofNat tally.skippedCount),
    ("notification_deliveries", .array tally.notificationDeliveries)]

def executeDueApprovalEscalations (run : DueRun) (state : EscalationState) :
    Except AppError DueRunTally × EscalationState :=
  match escalateDueApprovals codec parseUuid rules run (listApprovalsForDueRun state) {} state with
  | (.error error, state) => (.error error, state)
  | (.ok tally, state) =>
      match appendAuditLog (dueRunAudit codec run tally) state.store with
      | (.error error, store) => (.error error, { state with store })
      | (.ok _, store) => (.ok tally, { state with store })

/-! ### The manual escalation -/

/-- A request to escalate an approval, with what it meets. -/
structure ManualEscalation extends ExpiryServices where
  approvalId : Uuid
  reason : Option String
  subjectId : String
  now : Timestamp
  draws : EscalationDraws

/-- The group of a request, and the rule it stands for. -/
def manualTarget (groupId : Option Uuid) (riskLevel : String) (state : EscalationState) :
    Except AppError (ApprovalGroup × Option Uuid) :=
  match groupId with
  | some groupId => (getApprovalGroup groupId state).map fun group => (group, none)
  | none =>
      match firstActiveEscalationRuleForRisk rules riskLevel with
      | none => .error (.badRequest "no active escalation rule for approval risk")
      | some rule => (getApprovalGroup rule.groupId state).map fun group => (group, some rule.id)

/-- `escalate_approval`, for a caller who may. -/
def escalateApproval (groupId : Option Uuid) (request : ManualEscalation)
    (state : EscalationState) : Except AppError PresentedApproval × EscalationState :=
  match state.store.approvals.find? request.approvalId with
  | none => (.error (.notFound "approval not found"), state)
  | some approval =>
      if approval.status ≠ .pending then
        (.error (.badRequest "only pending approvals can be escalated"), state)
      else if approvalIsExpiredAt approval request.now then
        match expireApprovalRecord codec request.toExpiryServices request.approvalId state with
        | (.error error, state) => (.error error, state)
        | (.ok _, state) => (.error (.badRequest "approval expired"), state)
      else
        let columns := state.columns approval.id
        match manualTarget rules groupId columns.riskLevel state with
        | .error error => (.error error, state)
        | .ok (group, ruleId) =>
            if group.status ≠ "active" then
              (.error (.badRequest "approval group is not active"), state)
            else
              escalateApprovalRecord codec request.draws (state.presented approval) group ruleId
                (request.reason.getD "Manual escalation") request.subjectId "user"
                (some request.approvalId) state

end

end MandoForge
