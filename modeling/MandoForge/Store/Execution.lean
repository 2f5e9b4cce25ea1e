/-
Module: MandoForge.Store.Execution
Purpose: The operations that a worker reaches the execution queue and the store
  with, as the interface its programs run against.
Trusted boundary: an operation is one critical section of the in-memory backend; a
  write under a claim holds the lock of the queue as well.  The clock and the issued
  identifiers belong to the world beside the store.  Audit logs and artifacts under
  random identifiers are left out, nothing here reads them.
Main exports: ExecutionWorld, ClaimFence
-/
import MandoForge.Foundation.StoreProgram
import MandoForge.SessionLoop.Jobs

namespace MandoForge

open Foundation

/-- The store, the execution queue, the clock, and the last identifier that was
handed out. -/
structure ExecutionWorld where
  store : MemoryStore
  queue : ExecutionQueueState
  clock : Timestamp
  issuedUuid : Uuid
  /-- A ghost record: the events that were appended under a claim, newest first, each
  with the job as it was then. -/
  fencedAppends : List (SessionEvent × ExecutionJob) := []
deriving DecidableEq

namespace ExecutionWorld

/-- The identifiers that are taken. -/
def usedUuids (world : ExecutionWorld) : List Uuid :=
  world.issuedUuid :: (world.store.sessionLoopJobs.rows.map SessionLoopJob.id ++
    world.store.sessionThreads.rows.map SessionThread.id ++
    world.store.events.map SessionEvent.id)

/-- `Uuid::new_v4`. -/
def freshUuid (world : ExecutionWorld) : Uuid :=
  world.usedUuids.foldr max 0 + 1

theorem lt_freshUuid {world : ExecutionWorld} {id : Uuid} (used : id ∈ world.usedUuids) :
    id < world.freshUuid :=
  Nat.lt_succ_of_le (le_foldr_max used)

theorem sessionLoopJobs_freshUuid (world : ExecutionWorld) :
    world.store.sessionLoopJobs.find? world.freshUuid = none := by
  rw [Table.find?_eq_none]
  intro job member same
  have used : job.id ∈ world.usedUuids := by
    simp only [usedUuids, List.mem_cons, List.mem_append, List.mem_map]
    exact .inr (.inl (.inl ⟨job, member, rfl⟩))
  exact absurd same (Nat.ne_of_lt (lt_freshUuid used))

end ExecutionWorld

/-! ### The event log -/

/-- The arguments of `append_event`. -/
structure NewEvent where
  actorType : String
  actorId : Option Uuid
  sessionId : Uuid
  eventType : String
  payload : Json
deriving DecidableEq, Repr

def validateIdempotentEventIdentity (existing : SessionEvent) (entry : NewEvent) :
    Except AppError SessionEvent :=
  if existing.actorType = entry.actorType ∧ existing.actorId = entry.actorId ∧
      existing.sessionId = entry.sessionId ∧ existing.eventType = entry.eventType ∧
      existing.payload = entry.payload then
    .ok existing
  else .error (.badRequest "idempotent session event identity collision")

/-- The event that is appended. -/
def newSessionEvent (eventId : Uuid) (entry : NewEvent) (store : MemoryStore) : SessionEvent where
  id := eventId
  sessionId := entry.sessionId
  seq := (eventsOf entry.sessionId store).length + 1
  actorType := entry.actorType
  actorId := entry.actorId
  eventType := entry.eventType
  payload := entry.payload

/-- `append_event_with_id` behind the claim. -/
def appendEventWithId (eventId : Uuid) (idempotent : Bool) (entry : NewEvent)
    (store : MemoryStore) : Except AppError SessionEvent × MemoryStore :=
  if store.sessions.find? entry.sessionId = none then
    (.error (.notFound "session not found"), store)
  else match if idempotent then store.events.find? (fun event => decide (event.id = eventId))
      else none with
    | some existing => (validateIdempotentEventIdentity existing entry, store)
    | none =>
        let event := newSessionEvent eventId entry store
        (.ok event, { store with events := store.events ++ [event] })

/-- `ExecutionClaimFence`: the claim under which something is written. -/
structure ClaimFence where
  jobId : Uuid
  workerId : String
  claimGeneration : Int
  status : ExecutionJobStatus
deriving DecidableEq, Repr

/-- `lock_owned_claim`: the job that is held under the claim. -/
def lockOwnedClaim (now : Timestamp) (fence : ClaimFence) (queue : ExecutionQueueState) :
    Except AppError ExecutionJob :=
  match queue.jobs.find? fence.jobId with
  | some job =>
      if job.status = fence.status ∧ job.ownedBy now fence.workerId fence.claimGeneration then
        .ok job
      else .error (.notFound "execution job claim is no longer owned")
  | none => .error (.notFound "execution job claim is no longer owned")

namespace ExecutionWorld

/-- An operation of the store inside a world. -/
def onStore {Answer : Type} (world : ExecutionWorld)
    (operation : MemoryStore → Answer × MemoryStore) : Answer × ExecutionWorld :=
  ((operation world.store).1, { world with store := (operation world.store).2 })

/-- An operation of the queue inside a world. -/
def onQueue (world : ExecutionWorld) (operation : QueueOperation) :
    Except AppError ExecutionJob × ExecutionWorld :=
  ((operation.perform world.clock world.queue).1,
    { world with queue := (operation.perform world.clock world.queue).2 })

/-- An operation of the store under a claim. -/
def onStoreFenced {Value : Type} (world : ExecutionWorld) (fence : ClaimFence)
    (operation : MemoryStore → Except AppError Value × MemoryStore) :
    Except AppError Value × ExecutionWorld :=
  match lockOwnedClaim world.clock fence world.queue with
  | .error error => (.error error, world)
  | .ok _ => world.onStore operation

/-- `append_event_once_for_execution_claim`: an event that is new is recorded with the
job that held the claim. -/
def appendFenced (eventId : Uuid) (fence : ClaimFence) (entry : NewEvent)
    (world : ExecutionWorld) : Except AppError SessionEvent × ExecutionWorld :=
  match lockOwnedClaim world.clock fence world.queue with
  | .error error => (.error error, world)
  | .ok job =>
      let (appended, store) := appendEventWithId eventId true entry world.store
      match appended with
      | .ok event =>
          if store.events = world.store.events then (appended, { world with store })
          else (appended,
            { world with store, fencedAppends := (event, job) :: world.fencedAppends })
      | .error _ => (appended, { world with store })

end ExecutionWorld

/-! ### Tool calls, audit logs, assignments -/

def updateToolCallStatus (id : Uuid) (status : ToolCallStatus) (result error : Option Json)
    (store : MemoryStore) : Except AppError ToolCall × MemoryStore :=
  match store.toolCalls.find? id with
  | none => (.error (.notFound "tool call not found"), store)
  | some toolCall =>
      (.ok { toolCall with status, result, error },
        { store with toolCalls :=
            store.toolCalls.modify id fun stored => { stored with status, result, error } })

/-- `append_audit_log` under a derived identifier. -/
def appendAuditLog (audit : AuditLog) (store : MemoryStore) : Except AppError Unit × MemoryStore :=
  match store.auditLogs.find? audit.id with
  | some existing =>
      if existing = audit then (.ok (), store)
      else (.error (.badRequest "idempotent audit identity collision"), store)
  | none => (.ok (), { store with auditLogs := store.auditLogs.insert audit })

/-- The assignment is one for the attempt of the job. -/
def RemoteComputerJobAssignment.matchesAttempt (executionJobId : Uuid) (attemptCount : Int)
    (assignment : RemoteComputerJobAssignment) : Bool :=
  decide (assignment.executionJobId = executionJobId) &&
    decide ((assignment.metadata.index "execution_attempt_count").asI64 = some attemptCount)

def mergeRemoteComputerMetadata : Json → Json → Json
  | .object existing, .object patch => .object (Json.insertFields patch existing)
  | _, patch => patch

/-- `finalize_remote_computer_job_assignment_for_attempt` behind the claim. -/
def finalizeAssignmentForAttempt (now : Timestamp) (assignmentId executionJobId : Uuid)
    (attemptCount : Int) (status : AssignmentStatus) (metadata : Json) (store : MemoryStore) :
    Except AppError RemoteComputerJobAssignment × MemoryStore :=
  match store.remoteComputerJobAssignments.find? assignmentId with
  | some assignment =>
      if assignment.matchesAttempt executionJobId attemptCount ∧
          (assignment.status = .assigned ∨ assignment.status = status) then
        let change := fun stored : RemoteComputerJobAssignment =>
          { stored with
            status := status
            metadata := mergeRemoteComputerMetadata stored.metadata metadata
            updatedAt := now }
        (.ok (change assignment), { store with remoteComputerJobAssignments :=
          store.remoteComputerJobAssignments.modify assignmentId change })
      else (.error (.notFound "Remote computer job assignment not found"), store)
  | none => (.error (.notFound "Remote computer job assignment not found"), store)

/-! ### The status of a session -/

def managedThreadStatusForSession : SessionStatus → String
  | .idle => "idle"
  | .running => "running"
  | .requiresAction => "requires_action"
  | .rescheduling => "rescheduling"
  | .terminated => "terminated"
  | .failed => "failed"

def managedSessionStatusEvent : SessionStatus → String
  | .idle => "session.status_idle"
  | .running => "session.status_running"
  | .requiresAction => "session.status_requires_action"
  | .rescheduling => "session.status_rescheduling"
  | .terminated => "session.status_terminated"
  | .failed => "session.status_failed"

/-- `matches!(status, Terminated | Failed)`. -/
def SessionStatus.isTerminal : SessionStatus → Bool
  | .terminated | .failed => true
  | _ => false

def primarySessionThread (sessionId : Uuid) (store : MemoryStore) : Option SessionThread :=
  store.sessionThreads.rows.find? fun thread =>
    decide (thread.sessionId = sessionId) && decide (thread.threadKind = "primary")

def createSessionThread (thread : SessionThread) (store : MemoryStore) :
    Except AppError SessionThread × MemoryStore :=
  if thread.threadKind = "primary" ∧ (primarySessionThread thread.sessionId store).isSome then
    (.error (.badRequest "session already has a primary thread"), store)
  else (.ok thread, { store with sessionThreads := store.sessionThreads.insert thread })

def setSessionAndPrimaryThreadStatus (sessionId threadId : Uuid) (status : SessionStatus)
    (threadStatus : String) (store : MemoryStore) :
    Except AppError (Session × Option SessionThread) × MemoryStore :=
  match store.sessions.find? sessionId with
  | none => (.error (.notFound "session not found"), store)
  | some session =>
      if session.status.isTerminal ∧ !status.isTerminal then
        (.error (.badRequest "session is terminal and cannot run session loop work"), store)
      else
        let changed := { session with status := status }
        let store := { store with
          sessions := store.sessions.modify sessionId fun stored =>
            { stored with status := status } }
        match store.sessionThreads.find? threadId with
        | none => (.error (.notFound "session thread not found"), store)
        | some thread =>
            if thread.sessionId ≠ sessionId then
              (.error (.notFound "session thread not found"), store)
            else if thread.status = threadStatus then (.ok (changed, none), store)
            else
              (.ok (changed, some { thread with status := threadStatus }),
                { store with sessionThreads :=
                    store.sessionThreads.modify threadId fun stored =>
                      { stored with status := threadStatus } })

/-! ### Operations and answers -/

/-- An error of an execution: `AppError` with what it says about the outcome. -/
structure ExecutionError where
  error : AppError
  executionOutcomeKnown : Bool := false
  executionRetrySafe : Bool := false
deriving DecidableEq, Repr

namespace ExecutionError

def withKnownExecutionOutcome (error : ExecutionError) : ExecutionError :=
  { error with executionOutcomeKnown := true, executionRetrySafe := false }

def withRetrySafeExecution (error : ExecutionError) : ExecutionError :=
  { error with executionOutcomeKnown := false, executionRetrySafe := true }

/-- `AppError::bad_request`. -/
def badRequest (message : String) : ExecutionError := ⟨.badRequest message, false, false⟩

/-- `AppError::internal`. -/
def internal (message : String) : ExecutionError := ⟨.internal message, false, false⟩

/-- `AppError::not_found`. -/
def notFound (message : String) : ExecutionError := ⟨.notFound message, false, false⟩

end ExecutionError

inductive ExecutionOperation where
  | newUuid
  | queue (operation : QueueOperation)
  | getExecutionJob (jobId : Uuid)
  | listExecutionJobs
  | getSession (sessionId : Uuid)
  | getApproval (approvalId : Uuid)
  | getToolCall (toolCallId : Uuid)
  | updateToolCallStatus (toolCallId : Uuid) (status : ToolCallStatus)
      (result error : Option Json)
  | listEvents (sessionId : Uuid)
  | appendEvent (entry : NewEvent)
  | appendEventOnce (eventId : Uuid) (entry : NewEvent)
  | appendEventOnceForExecutionClaim (fence : ClaimFence) (eventId : Uuid) (entry : NewEvent)
  | appendAuditLogForExecutionClaim (fence : ClaimFence) (audit : AuditLog)
  | listRemoteComputerJobAssignments
  | finalizeAssignmentForAttempt (assignmentId : Uuid) (fence : ClaimFence)
      (attemptCount : Int) (status : AssignmentStatus) (metadata : Json)
  | listSessionLoopJobs
  | planSessionLoopWindow (sessionId : Uuid) (triggerEventId : Option Uuid) (floor : Option Int)
  | commitSessionLoopJob (sessionId : Uuid) (triggerEventId : Option Uuid) (reason : String)
      (window : LoopWindow)
  | primarySessionThread (sessionId : Uuid)
  | createSessionThread (thread : SessionThread)
  | setSessionAndPrimaryThreadStatus (sessionId threadId : Uuid) (status : SessionStatus)
      (threadStatus : String)
deriving DecidableEq

def ExecutionOperation.Answer : ExecutionOperation → Type
  | newUuid => Uuid
  | queue _ => Except AppError ExecutionJob
  | getExecutionJob _ => Except AppError ExecutionJob
  | listExecutionJobs => List ExecutionJob
  | getSession _ => Except AppError Session
  | getApproval _ => Except AppError Approval
  | getToolCall _ => Except AppError ToolCall
  | updateToolCallStatus _ _ _ _ => Except AppError ToolCall
  | listEvents _ => List SessionEvent
  | appendEvent _ => Except AppError SessionEvent
  | appendEventOnce _ _ => Except AppError SessionEvent
  | appendEventOnceForExecutionClaim _ _ _ => Except AppError SessionEvent
  | appendAuditLogForExecutionClaim _ _ => Except AppError Unit
  | listRemoteComputerJobAssignments => List RemoteComputerJobAssignment
  | finalizeAssignmentForAttempt _ _ _ _ _ => Except AppError RemoteComputerJobAssignment
  | listSessionLoopJobs => List SessionLoopJob
  | planSessionLoopWindow _ _ _ => Except AppError LoopWindow
  | commitSessionLoopJob _ _ _ _ => SessionLoopJob
  | primarySessionThread _ => Option SessionThread
  | createSessionThread _ => Except AppError SessionThread
  | setSessionAndPrimaryThreadStatus _ _ _ _ =>
      Except AppError (Session × Option SessionThread)

def ExecutionOperation.perform :
    (operation : ExecutionOperation) → ExecutionWorld → operation.Answer × ExecutionWorld
  | newUuid, world => (world.freshUuid, { world with issuedUuid := world.freshUuid })
  | queue operation, world => world.onQueue operation
  | getExecutionJob jobId, world => (MemoryExecutionQueue.get jobId world.queue, world)
  | listExecutionJobs, world => (world.queue.jobs.rows, world)
  | getSession sessionId, world => (MandoForge.getSession sessionId world.store, world)
  | getApproval approvalId, world =>
      (okOr (world.store.approvals.find? approvalId) (.notFound "approval not found"), world)
  | getToolCall toolCallId, world =>
      (okOr (world.store.toolCalls.find? toolCallId) (.notFound "tool call not found"), world)
  | updateToolCallStatus toolCallId status result error, world =>
      world.onStore (MandoForge.updateToolCallStatus toolCallId status result error)
  | listEvents sessionId, world => (eventsOf sessionId world.store, world)
  | appendEvent entry, world =>
      { world with issuedUuid := world.freshUuid }.onStore
        (appendEventWithId world.freshUuid false entry)
  | appendEventOnce eventId entry, world =>
      world.onStore (appendEventWithId eventId true entry)
  | appendEventOnceForExecutionClaim fence eventId entry, world =>
      world.appendFenced eventId fence entry
  | appendAuditLogForExecutionClaim fence audit, world =>
      world.onStoreFenced fence (appendAuditLog audit)
  | listRemoteComputerJobAssignments, world =>
      (world.store.remoteComputerJobAssignments.rows.reverse, world)
  | finalizeAssignmentForAttempt assignmentId fence attemptCount status metadata, world =>
      world.onStoreFenced fence (MandoForge.finalizeAssignmentForAttempt world.clock assignmentId
        fence.jobId attemptCount status metadata)
  | listSessionLoopJobs, world => (world.store.sessionLoopJobs.rows, world)
  | planSessionLoopWindow sessionId triggerEventId floor, world =>
      (MandoForge.planSessionLoopWindow sessionId triggerEventId floor world.store, world)
  | commitSessionLoopJob sessionId triggerEventId reason window, world =>
      { world with issuedUuid := world.freshUuid }.onStore
        (MandoForge.commitSessionLoopJob world.clock world.freshUuid sessionId triggerEventId
          reason window)
  | primarySessionThread sessionId, world =>
      (MandoForge.primarySessionThread sessionId world.store, world)
  | createSessionThread thread, world => world.onStore (MandoForge.createSessionThread thread)
  | setSessionAndPrimaryThreadStatus sessionId threadId status threadStatus, world =>
      world.onStore
        (MandoForge.setSessionAndPrimaryThreadStatus sessionId threadId status threadStatus)

def ExecutionStore : StoreInterface ExecutionWorld where
  Operation := ExecutionOperation
  Answer := ExecutionOperation.Answer
  perform := ExecutionOperation.perform

/-- A program of a worker. -/
abbrev ExecutionProgram := Program ExecutionStore ExecutionError

/-- An error of the store is one without flags. -/
def liftAppError {Value : Type} (outcome : Except AppError Value) : Except ExecutionError Value :=
  outcome.mapError fun error => ⟨error, false, false⟩

@[simp] theorem liftAppError_ok {Value : Type} (value : Value) :
    liftAppError (.ok value) = .ok value := rfl

@[simp] theorem liftAppError_error {Value : Type} (error : AppError) :
    (liftAppError (.error error) : Except ExecutionError Value) =
      .error ⟨error, false, false⟩ := rfl

/-! ### The calls of a program -/

namespace ExecutionState

def newUuid : ExecutionProgram Uuid :=
  Program.perform (I := ExecutionStore) .newUuid

def queue (operation : QueueOperation) : ExecutionProgram ExecutionJob :=
  Program.attempt (I := ExecutionStore) (.queue operation) liftAppError

def listExecutionJobs : ExecutionProgram (List ExecutionJob) :=
  Program.perform (I := ExecutionStore) .listExecutionJobs

def getSession (sessionId : Uuid) : ExecutionProgram Session :=
  Program.attempt (I := ExecutionStore) (.getSession sessionId) liftAppError

def listEvents (sessionId : Uuid) : ExecutionProgram (List SessionEvent) :=
  Program.perform (I := ExecutionStore) (.listEvents sessionId)

def appendEvent (entry : NewEvent) : ExecutionProgram SessionEvent :=
  Program.attempt (I := ExecutionStore) (.appendEvent entry) liftAppError

def appendEventOnce (eventId : Uuid) (entry : NewEvent) : ExecutionProgram SessionEvent :=
  Program.attempt (I := ExecutionStore) (.appendEventOnce eventId entry) liftAppError

def listSessionLoopJobs : ExecutionProgram (List SessionLoopJob) :=
  Program.perform (I := ExecutionStore) .listSessionLoopJobs

def planSessionLoopWindow (sessionId : Uuid) (triggerEventId : Option Uuid)
    (floor : Option Int) : ExecutionProgram LoopWindow :=
  Program.attempt (I := ExecutionStore) (.planSessionLoopWindow sessionId triggerEventId floor)
    liftAppError

def commitSessionLoopJob (sessionId : Uuid) (triggerEventId : Option Uuid) (reason : String)
    (window : LoopWindow) : ExecutionProgram SessionLoopJob :=
  Program.perform (I := ExecutionStore)
    (.commitSessionLoopJob sessionId triggerEventId reason window)

def primarySessionThread (sessionId : Uuid) : ExecutionProgram (Option SessionThread) :=
  Program.perform (I := ExecutionStore) (.primarySessionThread sessionId)

def createSessionThread (thread : SessionThread) : ExecutionProgram SessionThread :=
  Program.attempt (I := ExecutionStore) (.createSessionThread thread) liftAppError

def setSessionAndPrimaryThreadStatus (sessionId threadId : Uuid) (status : SessionStatus)
    (threadStatus : String) : ExecutionProgram (Session × Option SessionThread) :=
  Program.attempt (I := ExecutionStore)
    (.setSessionAndPrimaryThreadStatus sessionId threadId status threadStatus) liftAppError

/-! What a call answers and leaves, when nobody interferes. -/

section run

variable (world : ExecutionWorld)

@[simp] theorem run_newUuid : newUuid.run world =
    (.ok world.freshUuid, { world with issuedUuid := world.freshUuid }) := rfl

@[simp] theorem run_queue (operation : QueueOperation) : (queue operation).run world =
    (liftAppError (world.onQueue operation).1, (world.onQueue operation).2) :=
  Program.run_attempt ..

@[simp] theorem run_listExecutionJobs : listExecutionJobs.run world =
    (.ok world.queue.jobs.rows, world) := rfl

@[simp] theorem run_getSession (sessionId : Uuid) : (getSession sessionId).run world =
    (liftAppError (MandoForge.getSession sessionId world.store), world) :=
  Program.run_attempt ..

@[simp] theorem run_listEvents (sessionId : Uuid) : (listEvents sessionId).run world =
    (.ok (eventsOf sessionId world.store), world) := rfl

@[simp] theorem run_appendEvent (entry : NewEvent) : (appendEvent entry).run world =
    (liftAppError (appendEventWithId world.freshUuid false entry world.store).1,
      { world with
        store := (appendEventWithId world.freshUuid false entry world.store).2
        issuedUuid := world.freshUuid }) :=
  Program.run_attempt ..

@[simp] theorem run_appendEventOnce (eventId : Uuid) (entry : NewEvent) :
    (appendEventOnce eventId entry).run world =
      (liftAppError (appendEventWithId eventId true entry world.store).1,
        { world with store := (appendEventWithId eventId true entry world.store).2 }) :=
  Program.run_attempt ..

@[simp] theorem run_listSessionLoopJobs : listSessionLoopJobs.run world =
    (.ok world.store.sessionLoopJobs.rows, world) := rfl

@[simp] theorem run_planSessionLoopWindow (sessionId : Uuid) (triggerEventId : Option Uuid)
    (floor : Option Int) : (planSessionLoopWindow sessionId triggerEventId floor).run world =
      (liftAppError (MandoForge.planSessionLoopWindow sessionId triggerEventId floor
        world.store), world) :=
  Program.run_attempt ..

@[simp] theorem run_commitSessionLoopJob (sessionId : Uuid) (triggerEventId : Option Uuid)
    (reason : String) (window : LoopWindow) :
    (commitSessionLoopJob sessionId triggerEventId reason window).run world =
      (.ok (MandoForge.commitSessionLoopJob world.clock world.freshUuid sessionId
          triggerEventId reason window world.store).1,
        { world with
          store := (MandoForge.commitSessionLoopJob world.clock world.freshUuid sessionId
            triggerEventId reason window world.store).2
          issuedUuid := world.freshUuid }) := rfl

@[simp] theorem run_primarySessionThread (sessionId : Uuid) :
    (primarySessionThread sessionId).run world =
      (.ok (MandoForge.primarySessionThread sessionId world.store), world) := rfl

@[simp] theorem run_createSessionThread (thread : SessionThread) :
    (createSessionThread thread).run world =
      (liftAppError (MandoForge.createSessionThread thread world.store).1,
        { world with store := (MandoForge.createSessionThread thread world.store).2 }) :=
  Program.run_attempt ..

@[simp] theorem run_setSessionAndPrimaryThreadStatus (sessionId threadId : Uuid)
    (status : SessionStatus) (threadStatus : String) :
    (setSessionAndPrimaryThreadStatus sessionId threadId status threadStatus).run world =
      (liftAppError (MandoForge.setSessionAndPrimaryThreadStatus sessionId threadId status
          threadStatus world.store).1,
        { world with store := (MandoForge.setSessionAndPrimaryThreadStatus sessionId threadId
            status threadStatus world.store).2 }) :=
  Program.run_attempt ..

end run

end ExecutionState

end MandoForge
