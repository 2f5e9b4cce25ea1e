/-
Module: MandoForge.RemoteComputer.Assignments
Purpose: Assignments of execution jobs to leased remote computers: how a worker finds a
  lease and takes it for its job, how the attempt is finalized under its claim, and how a
  runtime cleanup updates the assignment that it was given.
Trusted boundary: an operation is one critical section of the in-memory store.  What a
  Kubernetes runner does for a job that finds no lease is a program over computers and
  leases, a parameter.  Of the records the creation and update stamps are left out: when a
  computer was updated and a lease created are parameters.  Events and audit logs are
  recorded elsewhere.
Main exports: AssignmentWorld, createRemoteComputerJobAssignment
-/
import MandoForge.Foundation.Interleaving
import MandoForge.RemoteComputer.Leases
import Mathlib.Data.List.Sort

namespace MandoForge

open Foundation

abbrev AssignmentTable := Table RemoteComputerJobAssignment.id

/-! ### The contract of an environment -/

structure RemoteComputerEnvironmentContract where
  environmentId : Uuid
  environmentName : String
  pool : Option String
  profile : Option String
  namespaceName : Option String
  sandboxWarmPool : Option String
  cacheScope : Option String
  workspaceSeed : Option String
  remoteComputerId : Option Uuid
  metadataSelector : List (String × String)
deriving DecidableEq, Repr

/-- `metadata.get(key).and_then(Value::as_str) == Some(expected)`. -/
def Json.hasText (metadata : Json) (key expected : String) : Bool :=
  decide ((metadata.get key).bind asStr = some expected)

namespace RemoteComputerEnvironmentContract

variable (host : Host) (contract : RemoteComputerEnvironmentContract)

def matchesComputer (computer : RemoteComputer) : Bool :=
  contract.remoteComputerId.all (fun id => decide (computer.id = id)) &&
    contract.profile.all (fun profile => decide (computer.profile = profile)) &&
    contract.namespaceName.all (fun name => decide (computer.namespaceName = name)) &&
    contract.pool.all (computer.metadata.hasText "pool") &&
    contract.sandboxWarmPool.all (computer.metadata.hasText "sandbox_warm_pool") &&
    contract.cacheScope.all (computer.metadata.hasText "cache_scope") &&
    contract.workspaceSeed.all (computer.metadata.hasText "workspace_seed") &&
    contract.metadataSelector.all fun selector => computer.metadata.hasText selector.1 selector.2

def matchesLease (lease : RemoteComputerLease) : Bool :=
  let environmentId := (lease.metadata.get "environment_id").or
    ((lease.metadata.get "environment_contract").bind fun value => value.get "environment_id")
  match environmentId with
  | none => true
  | some (.string value) => decide (host.parseUuid value = some contract.environmentId)
  | some _ => false

def evidence : Json := .ofFields [
  ("environment_id", .string (host.printUuid contract.environmentId)),
  ("environment_name", .string contract.environmentName),
  ("environment_type", .string "remote_computer"),
  ("pool", .ofOption .string contract.pool),
  ("profile", .ofOption .string contract.profile),
  ("namespace", .ofOption .string contract.namespaceName),
  ("sandbox_warm_pool", .ofOption .string contract.sandboxWarmPool),
  ("cache_scope", .ofOption .string contract.cacheScope),
  ("workspace_seed", .ofOption .string contract.workspaceSeed),
  ("remote_computer_id", .ofOption (fun id => .string (host.printUuid id))
    contract.remoteComputerId),
  ("metadata_selector", .array (contract.metadataSelector.map fun selector =>
    .ofFields [("key", .string selector.1), ("value", .string selector.2)]))]

end RemoteComputerEnvironmentContract

/-! ### Operations on assignments -/

def validateRemoteComputerJobAssignmentLease (lease : RemoteComputerLease) (sessionId : Uuid) :
    Except AppError Unit :=
  if lease.status ≠ .leased then
    .error (.badRequest "only active remote computer leases can receive execution handoff")
  else if lease.sessionId.any fun leased => decide (leased ≠ sessionId) then
    .error (.badRequest "execution handoff session must match the lease session")
  else .ok ()

structure CreateRemoteComputerJobAssignment where
  leaseId : Uuid
  assignedBy : Option String
  metadata : Option Json
deriving DecidableEq, Repr

def newRemoteComputerJobAssignment (now : Timestamp) (id executionJobId sessionId : Uuid)
    (lease : RemoteComputerLease) (input : CreateRemoteComputerJobAssignment) :
    RemoteComputerJobAssignment where
  id := id
  executionJobId := executionJobId
  remoteComputerId := lease.remoteComputerId
  leaseId := lease.id
  sessionId := sessionId
  status := .assigned
  assignedBy := (input.assignedBy.map trim).filter fun value => decide (value ≠ "")
  metadata := input.metadata.getD emptyJsonObject
  updatedAt := now

/-- The checks of `create_remote_computer_job_assignment`. -/
def checkNewAssignment (executionJobId sessionId leaseId : Uuid)
    (leases : Table RemoteComputerLease.id) (assignments : AssignmentTable) :
    Except AppError RemoteComputerLease := do
  let lease ← okOr (leases.find? leaseId) (.notFound "Remote computer lease not found")
  validateRemoteComputerJobAssignmentLease lease sessionId
  if assignments.rows.any fun assignment =>
      decide (assignment.executionJobId = executionJobId) &&
        decide (assignment.status = .assigned) then
    .error (.badRequest "execution job already has an active remote computer assignment")
  else if assignments.rows.any fun assignment =>
      decide (assignment.sessionId = sessionId) && decide (assignment.status = .assigned) then
    .error (.badRequest "session already has an active remote computer assignment")
  else .ok lease

def createRemoteComputerJobAssignment (now : Timestamp) (draw executionJobId sessionId : Uuid)
    (input : CreateRemoteComputerJobAssignment) (leases : Table RemoteComputerLease.id)
    (assignments : AssignmentTable) :
    Except AppError RemoteComputerJobAssignment × AssignmentTable :=
  match checkNewAssignment executionJobId sessionId input.leaseId leases assignments with
  | .error error => (.error error, assignments)
  | .ok lease =>
      let assignment := newRemoteComputerJobAssignment now (assignments.drawKey draw)
        executionJobId sessionId lease input
      (.ok assignment, assignments.insert assignment)

/-- The assignment after an update of its status. -/
def RemoteComputerJobAssignment.updated (now : Timestamp) (status : AssignmentStatus)
    (metadata : Json) (assignment : RemoteComputerJobAssignment) : RemoteComputerJobAssignment :=
  { assignment with
    status
    metadata := mergeRemoteComputerMetadata assignment.metadata metadata
    updatedAt := now }

def updateRemoteComputerJobAssignmentStatus (now : Timestamp) (assignmentId : Uuid)
    (status : AssignmentStatus) (metadata : Json) (assignments : AssignmentTable) :
    Except AppError RemoteComputerJobAssignment × AssignmentTable :=
  match assignments.find? assignmentId with
  | none => (.error (.notFound "Remote computer job assignment not found"), assignments)
  | some assignment =>
      let assignment := assignment.updated now status metadata
      (.ok assignment, assignments.insert assignment)

/-! ### Operations of the store -/

/-- Jobs with their claims and assignments, computers and leases. -/
structure AssignmentWorld where
  execution : ExecutionWorld
  remote : RemoteComputerStore

namespace AssignmentWorld

def assignments (world : AssignmentWorld) : AssignmentTable :=
  world.execution.store.remoteComputerJobAssignments

def withAssignments (assignments : AssignmentTable) (world : AssignmentWorld) : AssignmentWorld :=
  { world with execution := { world.execution with
      store := { world.execution.store with remoteComputerJobAssignments := assignments } } }

def onAssignments {Answer : Type} (operation : AssignmentTable → Answer × AssignmentTable)
    (world : AssignmentWorld) : Answer × AssignmentWorld :=
  ((operation world.assignments).1, world.withAssignments (operation world.assignments).2)

end AssignmentWorld

section store

variable (Runner : StoreInterface RemoteComputerStore)

inductive AssignmentOperation where
  | utcNow
  | listAssignments
  | listComputers
  | listLeases
  | createLease (draw remoteComputerId : Uuid) (input : CreateRemoteComputerLease)
  /-- An operation of the runner on computers and leases. -/
  | provision (operation : Runner.Operation)
  | createAssignment (draw executionJobId sessionId : Uuid)
      (input : CreateRemoteComputerJobAssignment)
  | finalizeAssignment (assignmentId : Uuid) (fence : ClaimFence) (attemptCount : Int)
      (status : AssignmentStatus) (metadata : Json)
  | updateAssignmentStatus (assignmentId : Uuid) (status : AssignmentStatus) (metadata : Json)

namespace AssignmentOperation

variable {Runner}

def Answer : AssignmentOperation Runner → Type
  | utcNow => Timestamp
  | listAssignments => List RemoteComputerJobAssignment
  | listComputers => List RemoteComputer
  | listLeases => List RemoteComputerLease
  | createLease _ _ _ => Except AppError RemoteComputerLease
  | provision operation => Runner.Answer operation
  | _ => Except AppError RemoteComputerJobAssignment

def perform : (operation : AssignmentOperation Runner) → AssignmentWorld →
    operation.Answer × AssignmentWorld
  | utcNow, world => (world.execution.clock, world)
  | listAssignments, world => (world.assignments.rows.reverse, world)
  | listComputers, world => (world.remote.computers.rows.reverse, world)
  | listLeases, world => (world.remote.leases.rows.reverse, world)
  | createLease draw remoteComputerId input, world =>
      let created := createRemoteComputerLease world.execution.clock
        (world.remote.leases.drawKey draw) remoteComputerId input world.remote
      (created.1, { world with remote := created.2 })
  | provision operation, world =>
      let provisioned := Runner.perform operation world.remote
      (provisioned.1, { world with remote := provisioned.2 })
  | createAssignment draw executionJobId sessionId input, world =>
      world.onAssignments (createRemoteComputerJobAssignment world.execution.clock draw
        executionJobId sessionId input world.remote.leases)
  | finalizeAssignment assignmentId fence attemptCount status metadata, world =>
      let finalized := world.execution.onStoreFenced fence (finalizeAssignmentForAttempt
        world.execution.clock assignmentId fence.jobId attemptCount status metadata)
      (finalized.1, { world with execution := finalized.2 })
  | updateAssignmentStatus assignmentId status metadata, world =>
      world.onAssignments (updateRemoteComputerJobAssignmentStatus world.execution.clock
        assignmentId status metadata)

end AssignmentOperation

def AssignmentStore : StoreInterface AssignmentWorld where
  Operation := AssignmentOperation Runner
  Answer := AssignmentOperation.Answer
  perform := AssignmentOperation.perform

end store

/-! ### How a worker takes a lease for its job -/

/-- What the programs take from outside: the runner's program for a job that finds no
lease, and the stamps that computers and leases are ordered by. -/
structure AssignmentHost (Runner : StoreInterface RemoteComputerStore) where
  host : Host
  provision : ExecutionJob → String → RemoteComputerEnvironmentContract →
    Program Runner AppError (Option RemoteComputerLease)
  computerUpdatedAt : Uuid → Timestamp
  leaseCreatedAt : Uuid → Timestamp

section programs

variable {Runner : StoreInterface RemoteComputerStore} (outside : AssignmentHost Runner)

abbrev AssignmentProgram (Runner : StoreInterface RemoteComputerStore) (Result : Type) :=
  Program (AssignmentStore Runner) AppError Result

namespace AssignmentProgram

def utcNow : AssignmentProgram Runner Timestamp :=
  Program.perform (I := AssignmentStore Runner) .utcNow

def listAssignments : AssignmentProgram Runner (List RemoteComputerJobAssignment) :=
  Program.perform (I := AssignmentStore Runner) .listAssignments

def listComputers : AssignmentProgram Runner (List RemoteComputer) :=
  Program.perform (I := AssignmentStore Runner) .listComputers

def listLeases : AssignmentProgram Runner (List RemoteComputerLease) :=
  Program.perform (I := AssignmentStore Runner) .listLeases

/-- The runner's program as a program over the store. -/
def ofRunner {Result : Type} : Program Runner AppError Result → AssignmentProgram Runner Result
  | .done result => .done result
  | .failed error => .failed error
  | .call operation next => .call (.provision operation) fun answer => ofRunner (next answer)

end AssignmentProgram

open AssignmentProgram

def remoteSessionWorkspacePath (computer : RemoteComputer) (sessionId : Uuid) : String :=
  let trimmed := String.ofList
    ((trim computer.workspacePath).toList.reverse.dropWhile (fun c => decide (c = '/'))).reverse
  (if trimmed = "" then "/workspace" else trimmed) ++ "/sessions/" ++
    outside.host.printUuid sessionId

/-- `max_by_key` of an ordered key: the last of the greatest. -/
def maxByKey {Item : Type} (key : Item → Bool × Timestamp) (items : List Item) : Option Item :=
  items.foldl (fun greatest item =>
    match greatest with
    | none => some item
    | some best =>
        if (!(key best).1 && (key item).1) ||
            ((key best).1 == (key item).1 && decide ((key best).2 ≤ (key item).2)) then some item
        else some best) none

/-- A lease that the job can take, as the lists show it. -/
def leaseServes (now : Timestamp) (job : ExecutionJob)
    (contract : RemoteComputerEnvironmentContract) (computers : List RemoteComputer)
    (assigned : List Uuid) (lease : RemoteComputerLease) : Bool :=
  decide (lease.status = .leased) && !decide (lease.id ∈ assigned) &&
    lease.leaseExpiresAt.all (fun expires => decide (now < expires)) &&
    lease.sessionId.all (fun sessionId => decide (sessionId = job.sessionId)) &&
    (computers.find? fun computer => decide (computer.id = lease.remoteComputerId)).any
      contract.matchesComputer &&
    contract.matchesLease outside.host lease

/-- The listed lease that the job takes. -/
def chooseLease (now : Timestamp) (job : ExecutionJob)
    (contract : RemoteComputerEnvironmentContract) (computers : List RemoteComputer)
    (assigned : List Uuid) (leases : List RemoteComputerLease) : Option RemoteComputerLease :=
  maxByKey (fun lease => (decide (lease.sessionId = some job.sessionId),
      lease.heartbeatAt.getD (outside.leaseCreatedAt lease.id)))
    (leases.filter (leaseServes outside now job contract computers assigned))

def remoteComputerLeaseRaceError (error : AppError) : Bool :=
  decide (error = .badRequest "Remote computer is not available for lease") ||
    decide (error = .badRequest "Remote computer already has an active lease")

/-- The lease that a job asks a warm computer for. -/
def warmPoolLease (job : ExecutionJob) (workerId : String)
    (contract : RemoteComputerEnvironmentContract) (computer : RemoteComputer) :
    CreateRemoteComputerLease where
  sessionId := some job.sessionId
  workerId := some workerId
  leaseSeconds := some 900
  metadata := some (.ofFields [
    ("handoff_mode", .string "environment-warm-pool-lease"),
    ("source", .string "run_execution_job"),
    ("execution_job_id", .string (outside.host.printUuid job.id)),
    ("tool_call_id", .string (outside.host.printUuid job.toolCallId)),
    ("session_workspace_path", .string
      (remoteSessionWorkspacePath outside computer job.sessionId)),
    ("environment_id", .string (outside.host.printUuid contract.environmentId)),
    ("environment_contract", contract.evidence outside.host)])

/-- The loop of `claim_remote_computer_warm_pool_lease_for_job` over its candidates. -/
def claimFirst (draw : Uuid) (job : ExecutionJob) (workerId : String)
    (contract : RemoteComputerEnvironmentContract) :
    List RemoteComputer → AssignmentProgram Runner (Option RemoteComputerLease)
  | [] => pure none
  | computer :: rest => do
      let created : Except AppError RemoteComputerLease ←
        Program.perform (I := AssignmentStore Runner)
          (.createLease draw computer.id (warmPoolLease outside job workerId contract computer))
      match created with
      | .ok lease => pure (some lease)
      | .error error =>
          if remoteComputerLeaseRaceError error then claimFirst draw job workerId contract rest
          else throw error

/-- The candidates are taken from the end of the list, the latest update first in it. -/
def claimRemoteComputerWarmPoolLeaseForJob (draw : Uuid) (job : ExecutionJob) (workerId : String)
    (contract : RemoteComputerEnvironmentContract) :
    AssignmentProgram Runner (Option RemoteComputerLease) := do
  let computers ← listComputers
  let candidates := computers.filter fun computer => decide (computer.status = .available) &&
    contract.matchesComputer computer &&
    ((computer.metadata.get "warm_pool").bind Json.asBool).getD false
  claimFirst outside draw job workerId contract
    (candidates.insertionSort fun left right =>
      outside.computerUpdatedAt right.id ≤ outside.computerUpdatedAt left.id).reverse

/-- The identifiers that a run draws. -/
structure AutoAssignDraws where
  lease : Uuid
  assignment : Uuid

/-- A listed lease, one of the warm pool, or one that the runner provisions. -/
def findLease (draw : Uuid) (job : ExecutionJob) (workerId : String)
    (contract : RemoteComputerEnvironmentContract) (assigned : List Uuid) :
    AssignmentProgram Runner (Option RemoteComputerLease) := do
  let computers ← listComputers
  let leases ← listLeases
  let now ← utcNow
  match chooseLease outside now job contract computers assigned leases with
  | some lease => pure (some lease)
  | none => do
      let claimed ← claimRemoteComputerWarmPoolLeaseForJob outside draw job workerId contract
      match claimed with
      | some lease => pure (some lease)
      | none => ofRunner (outside.provision job workerId contract)

/-- The metadata of the assignment of a job. -/
def handoffMetadata (job : ExecutionJob) (contract : RemoteComputerEnvironmentContract)
    (computer : RemoteComputer) : Json := .ofFields [
  ("handoff_mode", .string "environment-worker-lease"),
  ("source", .string "run_execution_job"),
  ("execution_attempt_count", .ofInt job.attemptCount),
  ("execution_claim_generation", .ofInt job.claimGeneration),
  ("session_workspace_path", .string
    (remoteSessionWorkspacePath outside computer job.sessionId)),
  ("environment_contract", contract.evidence outside.host)]

def autoAssignRemoteComputerForJob (draws : AutoAssignDraws) (job : ExecutionJob)
    (workerId : String) (environmentContract : Option RemoteComputerEnvironmentContract) :
    AssignmentProgram Runner (Option RemoteComputerJobAssignment) :=
  match environmentContract with
  | none => pure none
  | some contract => do
      let assignments ← listAssignments
      let active := assignments.filter fun assignment => decide (assignment.status = .assigned)
      if active.any fun assignment => decide (assignment.sessionId = job.sessionId) then
        throw (.badRequest ("remote_computer session already has an active Remote Computer " ++
          "assignment; retry after the running job finishes"))
      else do
        let found ← findLease outside draws.lease job workerId contract
          (active.map RemoteComputerJobAssignment.leaseId)
        match found with
        | none => pure none
        | some lease => do
            let computers ← listComputers
            let computer ← Program.ofExcept (okOr
              (computers.find? fun computer => decide (computer.id = lease.remoteComputerId))
              (.notFound "Remote computer not found"))
            let assignment : RemoteComputerJobAssignment ←
              Program.attempt (I := AssignmentStore Runner)
                (.createAssignment draws.assignment job.id job.sessionId {
                  leaseId := lease.id
                  assignedBy := some workerId
                  metadata := some (handoffMetadata outside job contract computer) }) id
            pure (some assignment)

/-! ### The assignment update of a cleanup -/

/-- The status that a cleanup gives its assignment. -/
inductive CleanupStatus where
  | canceled
  | released
  | failed
deriving DecidableEq, Repr

def CleanupStatus.status : CleanupStatus → AssignmentStatus
  | canceled => .canceled
  | released => .released
  | failed => .failed

/-- The assignment update of `cleanup_remote_computer_lease_runtime`: it looks at the
assignment as its caller read it. -/
def cleanupAssignmentUpdate (assignment : Option RemoteComputerJobAssignment)
    (status : CleanupStatus) (metadata : Json) :
    AssignmentProgram Runner (Option RemoteComputerJobAssignment) :=
  match assignment with
  | none => pure none
  | some assignment =>
      if assignment.status = .assigned then do
        let updated : RemoteComputerJobAssignment ←
          Program.attempt (I := AssignmentStore Runner)
            (.updateAssignmentStatus assignment.id status.status metadata) id
        pure (some updated)
      else pure (some assignment)

/-- The callers of a cleanup take the assignment that is in force on the lease, or the
one that an earlier cleanup named. -/
inductive CleanupTarget where
  | ofLease (leaseId : Uuid)
  | named (assignmentId : Uuid)
deriving DecidableEq, Repr

def CleanupTarget.isMet : CleanupTarget → RemoteComputerJobAssignment → Bool
  | ofLease leaseId, assignment =>
      decide (assignment.leaseId = leaseId) && decide (assignment.status = .assigned)
  | named assignmentId, assignment => decide (assignment.id = assignmentId)

/-! ### Calls -/

inductive AssignmentCall where
  | autoAssign (draws : AutoAssignDraws) (job : ExecutionJob) (workerId : String)
      (environmentContract : Option RemoteComputerEnvironmentContract)
  | finalize (assignmentId : Uuid) (fence : ClaimFence) (attemptCount : Int)
      (status : AssignmentStatus) (metadata : Json)
  | cleanup (target : CleanupTarget) (status : CleanupStatus) (metadata : Json)

/-- The program of a call.  What it returns nobody reads here. -/
def AssignmentCall.program : AssignmentCall → AssignmentProgram Runner Unit
  | autoAssign draws job workerId environmentContract => do
      let _assignment ←
        autoAssignRemoteComputerForJob outside draws job workerId environmentContract
  | finalize assignmentId fence attemptCount status metadata => do
      let _assignment : RemoteComputerJobAssignment ←
        Program.attempt (I := AssignmentStore Runner)
          (.finalizeAssignment assignmentId fence attemptCount status metadata) id
  | cleanup target status metadata => do
      let assignments ← listAssignments
      let _assignment ← cleanupAssignmentUpdate (assignments.find? target.isMet) status metadata

end programs

end MandoForge
