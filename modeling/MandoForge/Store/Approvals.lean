/-
Module: MandoForge.Store.Approvals
Purpose: The operations of the in-memory store on approvals: a decision, a decline
  that also denies the tool call and logs it, a change of the arguments, and the
  reading and consuming of commit tokens.
Trusted boundary: an operation is one critical section of the store's lock and reads
  the clock once.
Main exports: decideApproval, declineApprovalAndToolCall
-/
import MandoForge.Approval.CommitBinding
import MandoForge.Store.EventLog

namespace MandoForge

open Foundation

/-! ### A decision -/

/-- The approval with a decision. -/
def Approval.decided (now : Timestamp) (decision : ApprovalStatus) (approval : Approval) :
    Approval :=
  { approval with status := decision, decidedAt := some now }

@[simp] theorem Approval.decided_id (now : Timestamp) (decision : ApprovalStatus)
    (approval : Approval) : (approval.decided now decision).id = approval.id := rfl

def decideApproval (now : Timestamp) (approvalId : Uuid) (status : ApprovalStatus)
    (store : MemoryStore) : Except AppError Approval × MemoryStore :=
  match store.approvals.find? approvalId with
  | none => (.error (.notFound "approval not found"), store)
  | some approval =>
      if approval.status ≠ .pending then
        (.error (.badRequest "only pending approvals can be decided"), store)
      else
        (.ok (approval.decided now status), { store with
          approvals := store.approvals.modify approvalId (Approval.decided now status)
            (Approval.decided_id now status) })

/-! ### A decline -/

def validateIdempotentAuditIdentity (existing requested : AuditLog) : Except AppError AuditLog :=
  if existing.sessionId = requested.sessionId ∧ existing.actorType = requested.actorType ∧
      existing.actorId = requested.actorId ∧ existing.action = requested.action ∧
      existing.resourceType = requested.resourceType ∧
      existing.resourceId = requested.resourceId ∧ existing.details = requested.details then
    .ok existing
  else .error (.badRequest "idempotent audit identity collision")

section

variable (codec : RecordCodec)

/-- What the tool call of a declined approval is denied with. -/
def declinedResult (approval : Approval) (decision : ApprovalStatus) : Json :=
  .ofFields [("status", .string "denied"), ("approval", .string decision.text),
    ("approval_id", .ofUuid approval.id), ("reason", .string approval.reason)]

/-- The tool call waits for the approval, or was denied with this result. -/
def ToolCall.takesDecline (result : Json) (toolCall : ToolCall) : Bool :=
  decide (toolCall.status = .waitingApproval) ||
    (decide (toolCall.status = .denied) && decide (toolCall.result = some result))

/-- The events that tell of the denied tool call. -/
def deniedToolCallEvents (approval : Approval) (decision : ApprovalStatus) (result : Json)
    (toolCall : ToolCall) : List RequestedEvent :=
  [{ id := codec.recordId approval.id "approval-tool-result-event" [decision.text, "tool.result"]
     entry := {
       actorType := "tool"
       actorId := some toolCall.id
       sessionId := approval.sessionId
       eventType := "tool.result"
       payload := .ofFields [("tool_call_id", .ofUuid toolCall.id),
         ("tool", .string toolCall.toolName), ("content", result)] } },
   { id := codec.recordId approval.id "approval-tool-result-event"
       [decision.text, "agent.tool_result"]
     entry := {
       actorType := "agent"
       actorId := some toolCall.id
       sessionId := approval.sessionId
       eventType := "agent.tool_result"
       payload := .ofFields [("tool_call_id", .ofUuid toolCall.id),
         ("tool", .string toolCall.toolName), ("status", .string "denied"),
         ("content", result)] } }]

def deniedToolCallAudit (approval : Approval) (decision : ApprovalStatus) (toolCall : ToolCall) :
    AuditLog where
  id := codec.recordId approval.id "approval-tool-result-audit" [decision.text, "tool.denied"]
  sessionId := some approval.sessionId
  actorType := "tool"
  actorId := some toolCall.id
  action := "tool.denied"
  resourceType := "tool_call"
  resourceId := some toolCall.id
  details := .ofFields [("tool", .string toolCall.toolName), ("approval_id", .ofUuid approval.id),
    ("decision", .string decision.text), ("status", .string "denied")]

def approvalEventId (approval : Approval) (decision : ApprovalStatus) : Uuid :=
  codec.recordId approval.id "approval-event" [decision.text]

/-- The event that tells of the declined approval. -/
def declinedApprovalEvent (approval : Approval) (decision : ApprovalStatus) (actorType : String) :
    RequestedEvent where
  id := approvalEventId codec approval decision
  entry := {
    actorType := actorType
    actorId := some approval.id
    sessionId := approval.sessionId
    eventType := "approval." ++ decision.text
    payload := .ofFields [("approval_id", .ofUuid approval.id),
      ("decision", .string decision.text),
      ("expires_at", .ofOption (fun at_ => .string (codec.printTimestamp at_))
        approval.expiresAt)] }

def declinedApprovalAudit (approval : Approval) (decision : ApprovalStatus) (actorType : String) :
    AuditLog where
  id := codec.recordId (approvalEventId codec approval decision) "audit"
    ["approval." ++ decision.text]
  sessionId := some approval.sessionId
  actorType := actorType
  actorId := some approval.id
  action := "approval." ++ decision.text
  resourceType := "approval"
  resourceId := some approval.id
  details := .ofFields [("tool_call_id", .ofOption .ofUuid approval.toolCallId),
    ("decision", .string decision.text),
    ("expires_at", .ofOption (fun at_ => .string (codec.printTimestamp at_)) approval.expiresAt)]

/-- `declined_approval_records`: the result of the tool call, the events and the audit
logs of a decline. -/
def declinedApprovalRecords (approval : Approval) (decision : ApprovalStatus)
    (actorType : String) (toolCall : Option ToolCall) :
    Json × List RequestedEvent × List AuditLog :=
  let result := declinedResult approval decision
  let denied := toolCall.filter (ToolCall.takesDecline result)
  (result,
    (denied.toList.flatMap (deniedToolCallEvents codec approval decision result)) ++
      [declinedApprovalEvent codec approval decision actorType],
    (denied.toList.map (deniedToolCallAudit codec approval decision)) ++
      [declinedApprovalAudit codec approval decision actorType])

/-- The event that was logged for the request: under its identifier, or, for an expiry
that an older version recorded, one of the same identity. -/
def keptEvent (repairingLegacyExpiry : Bool) (requested : RequestedEvent)
    (store : MemoryStore) : Option SessionEvent :=
  (store.events.find? fun event => decide (event.id = requested.id)).or
    (if repairingLegacyExpiry && decide (requested.entry.eventType = "approval.expired") then
      (eventsOf requested.entry.sessionId store).find? fun event =>
        (validateIdempotentEventIdentity event requested.entry).isOk
    else none)

/-- The audit log that was kept for the request. -/
def keptAudit (repairingLegacyExpiry : Bool) (requested : AuditLog) (store : MemoryStore) :
    Option AuditLog :=
  (store.auditLogs.find? requested.id).or
    (if repairingLegacyExpiry && decide (requested.action = "approval.expired") then
      store.auditLogs.rows.find? fun audit =>
        (validateIdempotentAuditIdentity audit requested).isOk
    else none)

/-- What was kept before has to be of the same identity. -/
def existingEvent (repairingLegacyExpiry : Bool) (requested : RequestedEvent)
    (store : MemoryStore) : Except AppError (Option SessionEvent) :=
  match keptEvent repairingLegacyExpiry requested store with
  | none => .ok none
  | some event => (validateIdempotentEventIdentity event requested.entry).map some

def existingAudit (repairingLegacyExpiry : Bool) (requested : AuditLog) (store : MemoryStore) :
    Except AppError (Option AuditLog) :=
  match keptAudit repairingLegacyExpiry requested store with
  | none => .ok none
  | some audit => (validateIdempotentAuditIdentity audit requested).map some

/-- Log what was not logged before; answer with what is logged now. -/
def commitEvents : List (RequestedEvent × Option SessionEvent) → MemoryStore →
    List SessionEvent × MemoryStore
  | [], store => ([], store)
  | (_, some existing) :: rest, store =>
      let (events, store) := commitEvents rest store
      (existing :: events, store)
  | (requested, none) :: rest, store =>
      let event := newSessionEvent requested.id requested.entry store
      let (events, store) := commitEvents rest { store with events := store.events ++ [event] }
      (event :: events, store)

def commitAudits : List (AuditLog × Option AuditLog) → MemoryStore → MemoryStore
  | [], store => store
  | (_, some _) :: rest, store => commitAudits rest store
  | (audit, none) :: rest, store =>
      commitAudits rest { store with auditLogs := store.auditLogs.insert audit }

/-- The tool call as a decline leaves it. -/
def ToolCall.denied (result : Json) (toolCall : ToolCall) : ToolCall :=
  { toolCall with status := .denied, result := some result, error := none }

@[simp] theorem ToolCall.denied_id (result : Json) (toolCall : ToolCall) :
    (toolCall.denied result).id = toolCall.id := rfl

/-- The tool call of the approval, if it has one. -/
def existingToolCall (approval : Approval) (store : MemoryStore) :
    Except AppError (Option ToolCall) :=
  match approval.toolCallId with
  | none => .ok none
  | some toolCallId =>
      (okOr (store.toolCalls.find? toolCallId) (.notFound "tool call not found")).map some

/-- The checks of a decline on the stored records: the tool call, and for each event
and each audit log the one that was kept before. -/
def declineChecks (current : Approval) (decision : ApprovalStatus) (actorType : String)
    (store : MemoryStore) :
    Except AppError (Option ToolCall × List (RequestedEvent × Option SessionEvent) ×
      List (AuditLog × Option AuditLog)) := do
  let repairingLegacyExpiry :=
    decide (current.status = .expired) && decide (decision = .expired)
  let toolCall ← existingToolCall current store
  let records := declinedApprovalRecords codec current decision actorType toolCall
  let events ← records.2.1.mapM fun requested =>
    (existingEvent repairingLegacyExpiry requested store).map fun existing => (requested, existing)
  let audits ← records.2.2.mapM fun requested =>
    (existingAudit repairingLegacyExpiry requested store).map fun existing => (requested, existing)
  return (toolCall, events, audits)

def declineApprovalAndToolCall (now : Timestamp) (approvalId : Uuid) (decision : ApprovalStatus)
    (actorType : String) (store : MemoryStore) :
    Except AppError (Approval × Option ToolCall × List SessionEvent) × MemoryStore :=
  if decision ≠ .rejected ∧ decision ≠ .expired then
    (.error (.badRequest "declined approval decision must be rejected or expired"), store)
  else
    match store.approvals.find? approvalId with
    | none => (.error (.notFound "approval not found"), store)
    | some current =>
        if current.status ≠ .pending ∧ current.status ≠ decision then
          if decision = .expired then (.ok (current, none, []), store)
          else (.error (.badRequest "only pending approvals can be declined"), store)
        else
          match declineChecks codec current decision actorType store with
          | .error error => (.error error, store)
          | .ok (toolCall, events, audits) =>
              let result := declinedResult current decision
              let answered := (toolCall.filter (ToolCall.takesDecline result)).map fun call =>
                if call.status = .waitingApproval then call.denied result else call
              let (approval, approvals) :=
                if current.status = .pending then
                  (current.decided now decision,
                    store.approvals.modify approvalId (Approval.decided now decision)
                      (Approval.decided_id now decision))
                else (current, store.approvals)
              let toolCalls := match toolCall with
                | none => store.toolCalls
                | some call =>
                    if call.status = .waitingApproval then
                      store.toolCalls.modify call.id (ToolCall.denied result)
                        (ToolCall.denied_id result)
                    else store.toolCalls
              let store := { store with approvals, toolCalls }
              let (committed, store) := commitEvents events store
              (.ok (approval, answered, committed), commitAudits audits store)

end

/-! ### A change of the arguments -/

def validateModifiedToolArgs (jsonSha256 : Json → String) (toolCall : ToolCall) (args : Json)
    (commitBindingRequired : Bool) : Except AppError (Option String × Json) := do
  if toolCall.status ≠ .waitingApproval then
    throw (.badRequest "only waiting approval tool calls can be modified")
  if toolCall.toolName = "ontology.action.execute" then
    let stored ← ontologyActionNameFromArgs toolCall.args
    let modified ← ontologyActionNameFromArgs args
    if stored ≠ modified then
      throw (.forbidden
        "ontology action identity cannot be changed after approval is requested")
  if commitBindingRequired then
    let binding ← approvalCommitBindingForArgs jsonSha256 toolCall.toolName args
    return (some binding.normalizedArgsHash, binding.targetBinding)
  else return (none, toolCall.targetBinding)

/-- Whether a changed call is bound to its arguments again. -/
def commitBindingRequired (toolCall : ToolCall) (store : MemoryStore) : Except AppError Bool :=
  match toolCall.taskGrantId with
  | some taskGrantId =>
      (okOr (store.taskGrants.find? taskGrantId) (.notFound "task grant not found")).map
        fun grant => taskGrantRequiresApprovalCommitToken grant toolCall.toolName
  | none => .ok toolCall.normalizedArgsHash.isSome

/-- What the call is bound to after the change. -/
def modifiedToolCall (jsonSha256 : Json → String) (toolCallId : Uuid) (modifiedArgs : Json)
    (store : MemoryStore) : Except AppError (Option String × Json) := do
  let toolCall ← okOr (store.toolCalls.find? toolCallId) (.notFound "tool call not found")
  let required ← commitBindingRequired toolCall store
  validateModifiedToolArgs jsonSha256 toolCall modifiedArgs required

/-- The tool call with other arguments. -/
def ToolCall.modified (args : Json) (normalizedArgsHash : Option String) (targetBinding : Json)
    (toolCall : ToolCall) : ToolCall :=
  { toolCall with args, normalizedArgsHash, targetBinding }

@[simp] theorem ToolCall.modified_id (args : Json) (normalizedArgsHash : Option String)
    (targetBinding : Json) (toolCall : ToolCall) :
    (toolCall.modified args normalizedArgsHash targetBinding).id = toolCall.id := rfl

def modifyApproval (jsonSha256 : Json → String) (now : Timestamp) (approvalId : Uuid)
    (modifiedArgs : Json) (comment : Option String) (store : MemoryStore) :
    Except AppError Approval × MemoryStore :=
  match store.approvals.find? approvalId with
  | none => (.error (.notFound "approval not found"), store)
  | some current =>
      if current.status ≠ .pending then
        (.error (.badRequest "only pending approvals can be modified"), store)
      else if current.expiresAt.any (· ≤ now) then
        (.error (.badRequest "approval expired"), store)
      else
        let decisionPayload := Json.ofFields [("modified_args", modifiedArgs),
          ("comment", .ofOption .string comment)]
        let change := fun approval : Approval => { approval with decisionPayload }
        let changed := { store with approvals := store.approvals.modify approvalId change }
        match current.toolCallId with
        | none => (.ok (change current), changed)
        | some toolCallId =>
            match modifiedToolCall jsonSha256 toolCallId modifiedArgs store with
            | .error error => (.error error, store)
            | .ok (normalizedArgsHash, targetBinding) =>
                (.ok (change current), { changed with
                  toolCalls := store.toolCalls.modify toolCallId
                    (ToolCall.modified modifiedArgs normalizedArgsHash targetBinding)
                    (ToolCall.modified_id modifiedArgs normalizedArgsHash targetBinding) })

/-! ### Commit tokens -/

def approvalCommitTokenForApproval (approvalId : Uuid) (store : MemoryStore) :
    Option ApprovalCommitToken :=
  store.approvalCommitTokens.rows.find? fun token => decide (token.approvalId = approvalId)

/-- The token after it was consumed. -/
def ApprovalCommitToken.consume (now : Timestamp) (token : ApprovalCommitToken) :
    ApprovalCommitToken :=
  { token with status := .consumed, consumedAt := some now }

@[simp] theorem ApprovalCommitToken.consume_id (now : Timestamp) (token : ApprovalCommitToken) :
    (token.consume now).id = token.id := rfl

/-- `consume_approval_commit_token`; it does not look at the status. -/
def consumeApprovalCommitToken (now : Timestamp) (tokenId : Uuid) (store : MemoryStore) :
    Except AppError ApprovalCommitToken × MemoryStore :=
  match store.approvalCommitTokens.find? tokenId with
  | none => (.error (.notFound "approval commit token not found"), store)
  | some token =>
      (.ok (token.consume now), { store with
        approvalCommitTokens :=
          store.approvalCommitTokens.modify tokenId (ApprovalCommitToken.consume now)
            (ApprovalCommitToken.consume_id now) })

end MandoForge
