/-
Module: MandoForge.Store.ToolCalls
Purpose: The writers of the in-memory store that log the life of a tool call: its
  start, its result, the completion of a task by the provider, and the proposal of
  an approved ontology action.
Trusted boundary: an operation is one critical section of the store's lock.  The
  identifiers it draws at random are parameters, and so is the execution queue,
  whose lock a write under a claim holds as well.  Times that nothing reads are left
  out.
Main exports: commitProviderCompletion, commitToolInvocationResult
-/
import MandoForge.Execution.Outcome
import MandoForge.SessionLoop.Projection
import MandoForge.Store.Approvals
import MandoForge.TaskGrant.Store

namespace MandoForge

open Foundation

/-- The status as the store and the events spell it. -/
def ToolCallStatus.text : ToolCallStatus → String
  | .running => "running"
  | .waitingApproval => "waiting_approval"
  | .completed => "completed"
  | .failed => "failed"
  | .denied => "denied"

def invocationEvent (id : Uuid) (toolCall : ToolCall) (actorType : String)
    (actorId : Option Uuid) (eventType : String) (payload : Json) : RequestedEvent where
  id := id
  entry := ⟨actorType, actorId, toolCall.sessionId, eventType, payload⟩

/-! ### The start of a tool call -/

/-- The identifiers that the records of a start draw. -/
structure StartIds where
  checked : Uuid
  toolUse : Uuid
  audit : Uuid
deriving DecidableEq, Repr

/-- The details of a `task_grant.checked` record. -/
def taskGrantCheckedDetails (toolCall : ToolCall) (grant : TaskGrant) : Json := .ofFields [
  ("task_grant_id", .ofUuid grant.id),
  ("workflow_run_id", .ofUuid grant.workflowRunId),
  ("tool", .string toolCall.toolName),
  ("status", .string "allowed"),
  ("turns_used", .ofInt grant.turnsUsed),
  ("tool_calls_used", .ofInt grant.toolCallsUsed),
  ("cost_usd_micros_used", .ofInt grant.costUsdMicrosUsed)]

/-- The events of `tool_invocation_records` for a call with an event id. -/
def toolInvocationEvents (ids : StartIds) (toolCall : ToolCall) (callEventId : Uuid)
    (taskGrant : Option TaskGrant) (agentVersionId : Uuid) (agentVersion : Int) :
    List RequestedEvent :=
  (taskGrant.map fun grant => invocationEvent ids.checked toolCall "system" (some grant.id)
    "task_grant.checked" (taskGrantCheckedDetails toolCall grant)).toList ++
  [invocationEvent callEventId toolCall "tool" none "tool.call" (.ofFields [
      ("tool", .string toolCall.toolName),
      ("args", toolCall.args),
      ("agent_version_id", .ofUuid agentVersionId),
      ("agent_version", .ofInt agentVersion)]),
    invocationEvent ids.toolUse toolCall "agent" (some callEventId) "agent.tool_use" (.ofFields [
      ("event_id", .ofUuid callEventId),
      ("tool", .string toolCall.toolName),
      ("args", toolCall.args),
      ("agent_version_id", .ofUuid agentVersionId),
      ("agent_version", .ofInt agentVersion)])]

def toolInvocationRecords (ids : StartIds) (toolCall : ToolCall) (taskGrant : Option TaskGrant)
    (agentVersionId : Uuid) (agentVersion : Int) :
    Except AppError (List RequestedEvent × Option AuditLog) :=
  match toolCall.eventId with
  | none => .error (.badRequest "tool call requires a call event id")
  | some callEventId =>
      .ok (toolInvocationEvents ids toolCall callEventId taskGrant agentVersionId agentVersion,
        taskGrant.map fun grant => {
          id := ids.audit
          sessionId := some toolCall.sessionId
          actorType := "system"
          actorId := some grant.id
          action := "task_grant.checked"
          resourceType := "task_grant"
          resourceId := some grant.id
          details := taskGrantCheckedDetails toolCall grant })

/-- Keep the tool call and the audit logs of a commit. -/
def insertRecords (toolCall : ToolCall) (audits : List AuditLog) (store : MemoryStore) :
    MemoryStore :=
  { store with
    toolCalls := store.toolCalls.insert toolCall
    auditLogs := audits.foldl (fun table audit => table.insert audit) store.auditLogs }

/-- `commit_tool_invocation_start`, with the records it writes. -/
def commitToolInvocationStartWithRecords (now : Timestamp) (ids : StartIds) (toolCall : ToolCall)
    (agentVersionId : Uuid) (agentVersion : Int) (store : MemoryStore) :
    Except AppError (ToolCall × Option TaskGrant) × MemoryStore :=
  match commitToolInvocationStart now toolCall store with
  | (.error error, store) => (.error error, store)
  | (.ok (toolCall, taskGrant), store) =>
      match toolInvocationRecords ids toolCall taskGrant agentVersionId agentVersion with
      | .error error => (.error error, store)
      | .ok (events, audit) =>
          (.ok (toolCall, taskGrant),
            insertRecords toolCall audit.toList (appendRequested events store))

/-! ### The result of a tool call -/

/-- The identifiers that the records of a result draw. -/
structure ResultIds where
  result : Uuid
  agentResult : Uuid
  audit : Uuid
deriving DecidableEq, Repr

/-- The first event of `tool_invocation_result_records`. -/
def toolInvocationResultEvent (ids : ResultIds) (toolCall : ToolCall) (status : ToolCallStatus)
    (result : Json) (origin : String) : RequestedEvent :=
  let waits := decide (status = .waitingApproval)
  invocationEvent ids.result toolCall (if waits then "system" else "tool") (some toolCall.id)
    (if waits then "policy.requires_approval" else "tool.result") (.ofFields [
      ("tool_call_id", .ofUuid toolCall.id),
      ("tool", .string toolCall.toolName),
      ("origin", .string origin),
      ("content", result)])

def toolInvocationResultRecords (ids : ResultIds) (toolCall : ToolCall) (status : ToolCallStatus)
    (result : Json) (origin : String) : List RequestedEvent × AuditLog :=
  ([toolInvocationResultEvent ids toolCall status result origin,
    invocationEvent ids.agentResult toolCall "agent" (some toolCall.id) "agent.tool_result"
      (.ofFields [
        ("tool_call_id", .ofUuid toolCall.id),
        ("tool", .string toolCall.toolName),
        ("status", .string status.text),
        ("content", result)])],
    { id := ids.audit
      sessionId := some toolCall.sessionId
      actorType := "tool"
      actorId := some toolCall.id
      action := if status = .waitingApproval then "tool.waiting_approval" else "tool.completed"
      resourceType := "tool_call"
      resourceId := some toolCall.id
      details := .ofFields [
        ("tool", .string toolCall.toolName),
        ("risk_level", .string toolCall.riskLevel),
        ("status", .string status.text)] })

/-- The tool call with its result. -/
def ToolCall.answered (status : ToolCallStatus) (result : Json) (toolCall : ToolCall) : ToolCall :=
  { toolCall with status, result := some result, error := none }

@[simp] theorem ToolCall.answered_id (status : ToolCallStatus) (result : Json)
    (toolCall : ToolCall) : (toolCall.answered status result).id = toolCall.id := rfl

/-- `commit_tool_invocation_result`; its answer is the first event. -/
def commitToolInvocationResult (ids : ResultIds) (id : Uuid) (status : ToolCallStatus)
    (result : Json) (origin : String) (store : MemoryStore) :
    Except AppError SessionEvent × MemoryStore :=
  if status ≠ .completed ∧ status ≠ .waitingApproval then
    (.error (.badRequest
      "tool invocation result status must be completed or waiting_approval"), store)
  else
    match store.toolCalls.find? id with
    | none => (.error (.notFound "tool call not found"), store)
    | some toolCall =>
        if toolCall.status ≠ .running then
          (.error (.badRequest "only running tool calls can commit an invocation result"), store)
        else
          let toolCall := toolCall.answered status result
          let (events, audit) := toolInvocationResultRecords ids toolCall status result origin
          let resultEvent := toolInvocationResultEvent ids toolCall status result origin
          (.ok (newSessionEvent resultEvent.id resultEvent.entry store),
            insertRecords toolCall [audit] (appendRequested events store))

/-! ### The completion of a task -/

/-- The identifiers that the records of a completion draw. -/
structure CompletionIds where
  toolUse : Uuid
  result : Uuid
  goal : Uuid
  thread : Uuid
  session : Uuid
  audit : Uuid
deriving DecidableEq, Repr

/-- The arguments of `commit_provider_completion`. -/
structure ProviderCompletion where
  toolCall : ToolCall
  threadId : Uuid
  sessionStatus : SessionStatus
  threadStatus : String
  completionStatus : String
  summary : String
deriving DecidableEq, Repr

/-- The type of the event that ends the goal. -/
def goalEventType : String → Option String
  | "completed" => some "session.goal.completed"
  | "blocked" => some "session.goal.blocked"
  | _ => none

/-- The events of `provider_completion_records`. -/
def providerCompletionEvents (ids : CompletionIds) (completion : ProviderCompletion)
    (callEventId : Uuid) (session : Session) (updatedThread : Option SessionThread)
    (goalEventType : String) : List RequestedEvent :=
  let args := completion.toolCall.args
  let summary := Json.string completion.summary
  [{ id := callEventId
     entry := ⟨"tool", none, session.id, "tool.call",
       .ofFields [("tool", .string "complete_task"), ("args", args)]⟩ },
   { id := ids.toolUse
     entry := ⟨"agent", some callEventId, session.id, "agent.tool_use",
       .ofFields [("event_id", .ofUuid callEventId),
         ("tool_call_id", .ofUuid completion.toolCall.id), ("tool", .string "complete_task"),
         ("args", args)]⟩ },
   { id := ids.result
     entry := ⟨"tool", some completion.toolCall.id, session.id, "tool.result",
       .ofFields [("tool_call_id", .ofUuid completion.toolCall.id),
         ("tool", .string "complete_task"), ("origin", .string "session_loop"),
         ("content", args)]⟩ },
   { id := ids.goal
     entry := ⟨"agent", none, session.id, goalEventType,
       .ofFields [("objective", summary), ("summary", summary), ("reason", summary)]⟩ }] ++
  (updatedThread.map fun thread => {
     id := ids.thread
     entry := ⟨"system", some thread.id, session.id, "thread.status_changed",
       sessionThreadEventPayload thread⟩ }).toList ++
  [{ id := ids.session
     entry := ⟨"system", none, session.id, managedSessionStatusEvent session.status,
       .ofFields [("status", .string (managedThreadStatusForSession session.status)),
         ("reason", summary), ("environment_id", .ofOption .ofUuid session.environmentId)]⟩ }]

/-- The audit log of `provider_completion_records`. -/
def providerCompletionAudit (ids : CompletionIds) (completion : ProviderCompletion)
    (session : Session) (goalEventType : String) : AuditLog where
  id := ids.audit
  sessionId := some session.id
  actorType := "agent"
  actorId := none
  action := goalEventType
  resourceType := "session"
  resourceId := some session.id
  details := .ofFields [("status", .string completion.completionStatus),
    ("summary", .string completion.summary)]

/-- Something of the session is still to be decided or to be run. -/
def hasUnresolvedActions (sessionId : Uuid) (store : MemoryStore) : Bool :=
  (store.approvals.rows.any fun approval =>
    decide (approval.sessionId = sessionId) && decide (approval.status = .pending)) ||
  store.toolCalls.rows.any fun call =>
    decide (call.sessionId = sessionId) &&
      (decide (call.status = .running) || decide (call.status = .waitingApproval))

/-- The checks of `commit_provider_completion`: the call's event id, the type of the
goal's event, the session and its thread. -/
def providerCompletionChecks (completion : ProviderCompletion) (store : MemoryStore) :
    Except AppError (Uuid × String × Session × SessionThread) := do
  let callEventId ← okOr completion.toolCall.eventId
    (.badRequest "complete_task requires a call event id")
  let goalType ← okOr (goalEventType completion.completionStatus)
    (.badRequest "complete_task status must be completed or blocked")
  let session ← okOr (store.sessions.find? completion.toolCall.sessionId)
    (.notFound "session not found")
  if session.status.isTerminal then
    throw (.badRequest "session is terminal and cannot complete again")
  if hasUnresolvedActions completion.toolCall.sessionId store then
    throw (.conflict "complete_task cannot finish while durable actions are unresolved")
  let thread ← okOr ((store.sessionThreads.find? completion.threadId).filter fun thread =>
      decide (thread.sessionId = completion.toolCall.sessionId))
    (.notFound "session thread not found")
  return (callEventId, goalType, session, thread)

def Session.withStatus (status : SessionStatus) (session : Session) : Session :=
  { session with status }

@[simp] theorem Session.withStatus_id (status : SessionStatus) (session : Session) :
    (session.withStatus status).id = session.id := rfl

def SessionThread.withStatus (status : String) (thread : SessionThread) : SessionThread :=
  { thread with status }

@[simp] theorem SessionThread.withStatus_id (status : String) (thread : SessionThread) :
    (thread.withStatus status).id = thread.id := rfl

def commitProviderCompletion (ids : CompletionIds) (completion : ProviderCompletion)
    (store : MemoryStore) : Except AppError (ToolCall × Session) × MemoryStore :=
  match providerCompletionChecks completion store with
  | .error error => (.error error, store)
  | .ok (callEventId, goalType, session, thread) =>
      let session := session.withStatus completion.sessionStatus
      let updatedThread :=
        if thread.status = completion.threadStatus then none
        else some (thread.withStatus completion.threadStatus)
      let events := providerCompletionEvents ids completion callEventId session updatedThread
        goalType
      let changed := { store with
        sessions := store.sessions.modify session.id
          (Session.withStatus completion.sessionStatus)
          (Session.withStatus_id completion.sessionStatus)
        sessionThreads := store.sessionThreads.modify thread.id
          (SessionThread.withStatus completion.threadStatus)
          (SessionThread.withStatus_id completion.threadStatus) }
      (.ok (completion.toolCall, session),
        insertRecords completion.toolCall
          [providerCompletionAudit ids completion session goalType]
          (appendRequested events changed))

/-! ### The proposal of an approved ontology action -/

def ontologyReleaseCurrentStatus (status : String) : Bool :=
  decide (status = "active") || decide (status = "active_trigger_failed")

/-- The walk up a grant's lineage: each grant is there, runs, and belongs to a
workflow that executes. -/
def runningLineageLoop (now : Timestamp) (store : MemoryStore) :
    (fuel : Nat) → (seen : List Uuid) → (current : Option Uuid) → Except AppError Unit
  | _, _, none => .ok ()
  | 0, _, some _ => .error (.badRequest "task grant parent cycle detected")
  | fuel + 1, seen, some id =>
      if id ∈ seen then .error (.badRequest "task grant parent cycle detected")
      else
        match store.taskGrants.find? id with
        | none => .error (.notFound "task grant not found")
        | some grant =>
            match taskGrantRuntimeDenial grant now with
            | some (message, _) => .error (.forbidden message)
            | none =>
                match validateMemoryTaskGrantWorkflow store grant with
                | .error error => .error error
                | .ok () => runningLineageLoop now store fuel (id :: seen) grant.parentGrantId

section

variable (codec : RecordCodec) (parseUuid : String → Option Uuid)

/-- `validate_approved_ontology_action_commit`: the id of the pinned release. -/
def validateApprovedOntologyActionCommit (job : ExecutionJob) (approvalId : Uuid)
    (toolCall : ToolCall) (artifact : Artifact) : Except AppError Uuid :=
  if job.approvalId ≠ approvalId ∨ job.toolCallId ≠ toolCall.id ∨
      job.sessionId ≠ toolCall.sessionId ∨ job.sessionId ≠ artifact.sessionId ∨
      job.toolName ≠ "ontology.action.execute" ∨
      toolCall.toolName ≠ "ontology.action.execute" then
    .error (.badRequest "ontology action proposal does not match the execution claim")
  else if toolCall.status ≠ .waitingApproval then
    .error (.badRequest "only waiting approval ontology actions can commit a proposal")
  else
    okOr (((artifact.content.get "ontology_release_id").bind Json.asStr).bind parseUuid)
      (.badRequest "ontology action proposal release id is invalid")

def ontologyArtifactEventId (artifact : Artifact) (part : String) : Uuid :=
  codec.recordId artifact.id "ontology-action-event" [part]

/-- The events of `approved_ontology_action_proposal_records`. -/
def ontologyProposalEvents (job : ExecutionJob) (toolCall : ToolCall) (artifact : Artifact)
    (proposalDetails result : Json) : List RequestedEvent :=
  [{ id := ontologyArtifactEventId codec artifact "artifact.created"
     entry := ⟨"system", some artifact.id, artifact.sessionId, "artifact.created", .ofFields [
       ("artifact_id", .ofUuid artifact.id), ("name", .string artifact.name),
       ("artifact_type", .string artifact.artifactType),
       ("tool_call_id", .ofUuid toolCall.id)]⟩ },
   { id := ontologyArtifactEventId codec artifact "proposal_created"
     entry := ⟨"system", some artifact.id, artifact.sessionId,
       "ontology_action.proposal_created", proposalDetails⟩ },
   invocationEvent (executionAttemptEventId codec.recordId job "tool.result") toolCall "tool"
     (some toolCall.id) "tool.result" (.ofFields [
       ("execution_job_id", .ofUuid job.id), ("tool_call_id", .ofUuid toolCall.id),
       ("tool", .string toolCall.toolName), ("content", result),
       ("execution_outcome_known", .bool true), ("attempt_count", .ofInt job.attemptCount),
       ("claim_generation", .ofInt job.claimGeneration)])]

/-- The audit logs of `approved_ontology_action_proposal_records`. -/
def ontologyProposalAudits (job : ExecutionJob) (approvalId : Uuid) (toolCall : ToolCall)
    (artifact : Artifact) (proposalDetails : Json) : List AuditLog :=
  [{ id := codec.recordId (ontologyArtifactEventId codec artifact "artifact.created") "audit"
       ["artifact.created"]
     sessionId := some artifact.sessionId
     actorType := "tool"
     actorId := some toolCall.id
     action := "artifact.created"
     resourceType := "artifact"
     resourceId := some artifact.id
     details := .ofFields [("name", .string artifact.name),
       ("artifact_type", .string artifact.artifactType),
       ("source", .string "ontology_action_proposal")] },
   { id := codec.recordId (ontologyArtifactEventId codec artifact "proposal_created") "audit"
       ["ontology_action.proposal_created"]
     sessionId := some artifact.sessionId
     actorType := "tool"
     actorId := some toolCall.id
     action := "ontology_action.proposal_created"
     resourceType := "artifact"
     resourceId := some artifact.id
     details := proposalDetails },
   { id := codec.recordId (executionAttemptEventId codec.recordId job "tool.result") "audit"
       ["tool.completed"]
     sessionId := some artifact.sessionId
     actorType := "worker"
     actorId := some toolCall.id
     action := "tool.completed"
     resourceType := "tool_call"
     resourceId := some toolCall.id
     details := .ofFields [("tool", .string toolCall.toolName),
       ("approval_id", .ofUuid approvalId), ("resumed_after_approval", .bool true)] }]

/-- The arguments of `commit_approved_ontology_action_proposal`. -/
structure OntologyProposal where
  job : ExecutionJob
  approvalId : Uuid
  artifact : Artifact
  proposalDetails : Json
  result : Json
deriving DecidableEq, Repr

namespace OntologyProposal

variable (proposal : OntologyProposal)

/-- The checks on the pinned release and on the grant of the call. -/
def releaseChecks (now : Timestamp) (toolCall : ToolCall) (store : MemoryStore) :
    Except AppError Unit := do
  let releaseId ← validateApprovedOntologyActionCommit parseUuid proposal.job
    proposal.approvalId toolCall proposal.artifact
  let release ← okOr (store.ontologyReleases.find? releaseId)
    (.notFound "ontology release not found")
  if !ontologyReleaseCurrentStatus release.status then
    throw (.forbidden "pinned ontology release has been revoked for new action proposals")
  let grantId ← okOr toolCall.taskGrantId
    (.forbidden "ontology action execution requires a workflow TaskGrant")
  runningLineageLoop now store (store.taskGrants.rows.length + 1) [] (some grantId)

/-- The checks that nothing of the proposal is there yet. -/
def newRecordChecks (toolCall : ToolCall) (store : MemoryStore) : Except AppError Unit := do
  if (store.sessions.find? proposal.artifact.sessionId).isNone then
    throw (.notFound "session not found")
  if (store.artifacts.find? proposal.artifact.id).isSome then
    throw (.conflict "artifact already exists")
  if (ontologyProposalEvents codec proposal.job toolCall proposal.artifact
        proposal.proposalDetails proposal.result).any
        (fun candidate => store.events.any fun existing => decide (existing.id = candidate.id)) ∨
      (ontologyProposalAudits codec proposal.job proposal.approvalId toolCall proposal.artifact
        proposal.proposalDetails).any
        (fun audit => (store.auditLogs.find? audit.id).isSome) then
    throw (.conflict "ontology proposal records already exist")

/-- What `commit_approved_ontology_action_proposal` checks under the lock of the
store: the waiting tool call of the job. -/
def checks (now : Timestamp) (store : MemoryStore) : Except AppError ToolCall := do
  let toolCall ← okOr (store.toolCalls.find? proposal.job.toolCallId)
    (.notFound "tool call not found")
  proposal.releaseChecks parseUuid now toolCall store
  proposal.newRecordChecks codec toolCall store
  return toolCall

/-- The store with the proposal. -/
def committedStore (toolCall : ToolCall) (store : MemoryStore) : MemoryStore :=
  let logged := appendRequested (ontologyProposalEvents codec proposal.job toolCall
    proposal.artifact proposal.proposalDetails proposal.result) store
  { logged with
    artifacts := store.artifacts.insert proposal.artifact
    toolCalls := store.toolCalls.modify toolCall.id
      (ToolCall.answered .completed proposal.result)
      (ToolCall.answered_id .completed proposal.result)
    auditLogs := (ontologyProposalAudits codec proposal.job proposal.approvalId toolCall
      proposal.artifact proposal.proposalDetails).foldl
        (fun table audit => table.insert audit) store.auditLogs }

end OntologyProposal

def commitApprovedOntologyActionProposal (now : Timestamp) (queue : ExecutionQueueState)
    (proposal : OntologyProposal) (store : MemoryStore) :
    Except ExecutionError Unit × MemoryStore :=
  if proposal.job.status ≠ .executing then
    (.error (ExecutionError.badRequest
      "ontology action proposal requires an executing claim").withKnownExecutionOutcome, store)
  else
    match proposal.job.workerId with
    | none => (.error (ExecutionError.badRequest
        "ontology action proposal claim has no worker").withKnownExecutionOutcome, store)
    | some workerId =>
        match lockOwnedClaim now
            ⟨proposal.job.id, workerId, proposal.job.claimGeneration, .executing⟩ queue with
        | .error error => (.error (ExecutionError.mk error false false).withRetrySafeExecution,
            store)
        | .ok _ =>
            match proposal.checks codec parseUuid now store with
            | .error error =>
                (.error (ExecutionError.mk error false false).withKnownExecutionOutcome, store)
            | .ok toolCall => (.ok (), proposal.committedStore codec toolCall store)

end

end MandoForge
