/-
Module: MandoForge.RemoteComputer.Leases
Purpose: Remote computers and their leases in the in-memory store: how a computer is
  created, deleted, rebound and set aside, how it is leased, and how a lease ends,
  by its holder or after a cleanup of the runtime.
Trusted boundary: an operation is one critical section of the store's lock and reads
  the clock once; a panic unwinds and leaves what was written before it.  Creation and
  update stamps are left out, nothing here reads them.
Main exports: RemoteComputerStore, createRemoteComputerLease
-/
import MandoForge.Execution.Jobs
import MandoForge.Store.Execution
import MandoForge.Workflow.Graph

namespace MandoForge

open Foundation

/-! ### Records -/

/-- The statuses of a remote computer; the source keeps them as strings. -/
inductive RemoteComputerStatus where
  | available
  | leased
  | attention
deriving DecidableEq, Repr

structure RemoteComputer where
  id : Uuid
  name : String
  profile : String
  status : RemoteComputerStatus
  namespaceName : String
  podName : Option String
  workspacePath : String
  stateMountPath : String
  metadata : Json
deriving DecidableEq, Repr

/-- The statuses of a lease; the source keeps them as strings. -/
inductive LeaseStatus where
  | leased
  | released
  | failed
deriving DecidableEq, Repr

/-- `matches!(status, "released" | "failed")`. -/
def LeaseStatus.isTerminal : LeaseStatus → Bool
  | leased => false
  | released | failed => true

structure RemoteComputerLease where
  id : Uuid
  remoteComputerId : Uuid
  sessionId : Option Uuid
  status : LeaseStatus
  workerId : Option String
  leaseExpiresAt : Option Timestamp
  heartbeatAt : Option Timestamp
  metadata : Json
deriving DecidableEq, Repr

structure CreateRemoteComputer where
  id : Option Uuid
  name : String
  profile : Option String
  namespaceName : Option String
  podName : Option String
  workspacePath : Option String
  stateMountPath : Option String
  metadata : Option Json
deriving DecidableEq, Repr

inductive RemoteComputerSubstrate where
  | kubernetesPod
  | agentSandbox
deriving DecidableEq, Repr

structure RemoteComputerRuntimeIdentity where
  substrate : RemoteComputerSubstrate
  namespaceName : String
  resourceName : String
  podName : String
deriving DecidableEq, Repr

structure CreateRemoteComputerLease where
  sessionId : Option Uuid
  workerId : Option String
  leaseSeconds : Option Int
  metadata : Option Json
deriving DecidableEq, Repr

structure UpdateRemoteComputerLease where
  reason : Option String
  metadata : Option Json
deriving DecidableEq, Repr

/-- The part of the store that the operations read and write. -/
structure RemoteComputerStore where
  computers : Table RemoteComputer.id
  leases : Table RemoteComputerLease.id
deriving DecidableEq

/-- How an operation ends. -/
inductive CallResult (Value : Type) where
  | returned (outcome : Except AppError Value)
  | panicked

/-! ### Metadata -/

def runtimeCleanupMarker : String := "_mandoforge_runtime_cleanup_converged"

def runtimeCleanupRetryMarker : String := "_mandoforge_runtime_cleanup_retry_scheduled"

def runtimeCleanupClaimUntilMarker : String := "_mandoforge_runtime_cleanup_claim_until"

def retryGenerationKey : String := "runtime_cleanup_retry_generation"

/-- `value[key] = new`: null becomes an object, and what is neither panics. -/
def Json.assign (key : String) (new : Json) : Json → Option Json
  | .object fields => some (.object (insertField key new fields))
  | .null => some (.object (insertField key new []))
  | _ => none

/-- `value.get(key).and_then(Value::as_bool) == Some(true)`. -/
def Json.isMarked (key : String) (value : Json) : Bool :=
  decide ((value.get key).bind asBool = some true)

def rejectClientRuntimeCleanupMarkers (metadata : Option Json) : Except AppError Unit :=
  if metadata.any fun metadata => (metadata.get runtimeCleanupMarker).isSome ||
      (metadata.get runtimeCleanupRetryMarker).isSome ||
      (metadata.get runtimeCleanupClaimUntilMarker).isSome then
    .error (.badRequest "Remote Computer runtime cleanup metadata is managed internally")
  else .ok ()

/-! ### Computers -/

def RemoteComputer.withStatus (status : RemoteComputerStatus) (computer : RemoteComputer) :
    RemoteComputer :=
  { computer with status }

@[simp] theorem RemoteComputer.withStatus_id (status : RemoteComputerStatus)
    (computer : RemoteComputer) : (computer.withStatus status).id = computer.id := rfl

/-- The computer that is asked for, with the identifier that was drawn for it. -/
def newRemoteComputer (drawnId : Uuid) (input : CreateRemoteComputer) : RemoteComputer where
  id := input.id.getD drawnId
  name := trim input.name
  profile := trim (input.profile.getD "workspace-write")
  status := .available
  namespaceName := trim (input.namespaceName.getD "agent-os")
  podName := (input.podName.map trim).filter fun value => decide (value ≠ "")
  workspacePath := trim (input.workspacePath.getD "/workspace")
  stateMountPath := trim (input.stateMountPath.getD "/agent-state")
  metadata := input.metadata.getD emptyJsonObject

def createRemoteComputer (drawnId : Uuid) (input : CreateRemoteComputer)
    (store : RemoteComputerStore) : Except AppError RemoteComputer × RemoteComputerStore :=
  let record := newRemoteComputer drawnId input
  if record.name = "" then (.error (.badRequest "remote computer name is required"), store)
  else if (store.computers.find? record.id).isSome then
    (.error (.badRequest "remote computer already exists"), store)
  else (.ok record, { store with computers := store.computers.insert record })

def deleteRemoteComputerIfUnleased (remoteComputerId : Uuid) (store : RemoteComputerStore) :
    Bool × RemoteComputerStore :=
  if store.leases.rows.any fun lease => decide (lease.remoteComputerId = remoteComputerId) then
    (false, store)
  else
    ((store.computers.find? remoteComputerId).isSome,
      { store with computers := store.computers.remove remoteComputerId })

/-- A lease of the computer is in the status `leased`. -/
def hasActiveLease (remoteComputerId : Uuid) (store : RemoteComputerStore) : Bool :=
  store.leases.rows.any fun lease =>
    decide (lease.remoteComputerId = remoteComputerId) && decide (lease.status = .leased)

/-- The computer bound to another runtime. -/
def RemoteComputer.rebound (identity : RemoteComputerRuntimeIdentity) (metadata : Json)
    (computer : RemoteComputer) : RemoteComputer :=
  { computer with
    name := identity.resourceName
    profile := match identity.substrate with
      | .agentSandbox => "agent-sandbox"
      | .kubernetesPod => "workspace-write"
    status := .available
    namespaceName := identity.namespaceName
    podName := some identity.podName
    metadata }

@[simp] theorem RemoteComputer.rebound_id (identity : RemoteComputerRuntimeIdentity)
    (metadata : Json) (computer : RemoteComputer) :
    (computer.rebound identity metadata).id = computer.id := rfl

def rebindOnDemandRemoteComputer (remoteComputerId : Uuid)
    (identity : RemoteComputerRuntimeIdentity) (metadata : Json) (store : RemoteComputerStore) :
    Except AppError RemoteComputer × RemoteComputerStore :=
  if hasActiveLease remoteComputerId store then
    (.error (.badRequest "Remote computer cannot be rebound while it has an active lease"), store)
  else
    match store.computers.find? remoteComputerId with
    | none => (.error (.notFound "Remote computer not found"), store)
    | some computer =>
        if computer.status ≠ .attention ∨
            ((computer.metadata.get "on_demand").bind Json.asBool).getD false = false then
          (.error (.badRequest "Only an attention on-demand Remote Computer can be rebound"), store)
        else
          (.ok (computer.rebound identity metadata), { store with
            computers := store.computers.modify remoteComputerId
              (RemoteComputer.rebound identity metadata)
              (RemoteComputer.rebound_id identity metadata) })

/-- The status is written before the reason, so it stays when the latter panics. -/
def markRemoteComputerAttentionIfUnleased (remoteComputerId : Uuid) (reason : String)
    (store : RemoteComputerStore) : CallResult RemoteComputer × RemoteComputerStore :=
  if hasActiveLease remoteComputerId store then
    (.returned (.error (.badRequest "Remote computer still has an active lease")), store)
  else
    match store.computers.find? remoteComputerId with
    | none => (.returned (.error (.notFound "Remote computer not found")), store)
    | some computer =>
        let marked := computer.withStatus .attention
        match Json.assign "runtime_attention_reason" (.string reason) computer.metadata with
        | none => (.panicked, { store with computers := store.computers.insert marked })
        | some metadata =>
            let marked := { marked with metadata }
            (.returned (.ok marked), { store with computers := store.computers.insert marked })

/-! ### Leases -/

/-- The new lease, with the identifier that was drawn for it. -/
def newRemoteComputerLease (now : Timestamp) (drawnId remoteComputerId : Uuid)
    (leaseSeconds : Int) (input : CreateRemoteComputerLease) : RemoteComputerLease where
  id := drawnId
  remoteComputerId := remoteComputerId
  sessionId := input.sessionId
  status := .leased
  workerId := input.workerId
  leaseExpiresAt := some (now + seconds leaseSeconds)
  heartbeatAt := some now
  metadata := input.metadata.getD emptyJsonObject

def createRemoteComputerLease (now : Timestamp) (drawnId remoteComputerId : Uuid)
    (input : CreateRemoteComputerLease) (store : RemoteComputerStore) :
    Except AppError RemoteComputerLease × RemoteComputerStore :=
  match rejectClientRuntimeCleanupMarkers input.metadata with
  | .error error => (.error error, store)
  | .ok () =>
      let leaseSeconds := input.leaseSeconds.getD 900
      if leaseSeconds ≤ 0 then
        (.error (.badRequest "remote computer lease_seconds must be positive"), store)
      else
        let lease := newRemoteComputerLease now drawnId remoteComputerId
          (max 30 (min 86400 leaseSeconds)) input
        match store.computers.find? remoteComputerId with
        | none => (.error (.notFound "Remote computer not found"), store)
        | some computer =>
            if computer.status ≠ .available then
              (.error (.badRequest "Remote computer is not available for lease"), store)
            else if hasActiveLease remoteComputerId store then
              (.error (.badRequest "Remote computer already has an active lease"), store)
            else
              (.ok lease, {
                computers := store.computers.modify remoteComputerId
                  (RemoteComputer.withStatus .leased) (RemoteComputer.withStatus_id .leased)
                leases := store.leases.insert lease })

/-- The computer's status after its lease ended. -/
def LeaseStatus.leavesComputer : LeaseStatus → RemoteComputerStatus
  | released => .available
  | _ => .attention

/-- The lease is written; when it ended and no other lease of its computer is active,
the computer follows. -/
def storeUpdatedLease (lease : RemoteComputerLease) (store : RemoteComputerStore) :
    RemoteComputerStore :=
  let leases := store.leases.insert lease
  let hasOtherActiveLease := leases.rows.any fun other => decide (other.id ≠ lease.id) &&
    decide (other.remoteComputerId = lease.remoteComputerId) && decide (other.status = .leased)
  if !hasOtherActiveLease && lease.status.isTerminal then
    { leases
      computers := store.computers.modify lease.remoteComputerId
        (RemoteComputer.withStatus lease.status.leavesComputer)
        (RemoteComputer.withStatus_id lease.status.leavesComputer) }
  else { store with leases }

/-- The lease in its new status, before the reason is written. -/
def RemoteComputerLease.moved (now : Timestamp) (status : LeaseStatus) (merges : Bool)
    (metadata : Option Json) (lease : RemoteComputerLease) : RemoteComputerLease :=
  { lease with
    status
    heartbeatAt := if status = .leased then some now else lease.heartbeatAt
    metadata := match metadata with
      | none => lease.metadata
      | some metadata =>
          if merges then mergeRemoteComputerMetadata lease.metadata metadata else metadata }

/-- The lease is written in its new status, and then the reason into its metadata,
which panics when these are neither an object nor null. -/
def writeLeaseStatus (now : Timestamp) (status : LeaseStatus) (merges : Bool)
    (input : UpdateRemoteComputerLease) (existing : RemoteComputerLease)
    (store : RemoteComputerStore) : CallResult RemoteComputerLease × RemoteComputerStore :=
  let moved := existing.moved now status merges input.metadata
  match input.reason with
  | none => (.returned (.ok moved), storeUpdatedLease moved store)
  | some reason =>
      match Json.assign "reason" (.string reason) moved.metadata with
      | none => (.panicked, { store with leases := store.leases.insert moved })
      | some metadata =>
          let moved := { moved with metadata }
          (.returned (.ok moved), storeUpdatedLease moved store)

def updateRemoteComputerLeaseStatusInner (now : Timestamp) (leaseId : Uuid) (status : LeaseStatus)
    (input : UpdateRemoteComputerLease) (persistSameStatusMetadata : Bool)
    (store : RemoteComputerStore) : CallResult RemoteComputerLease × RemoteComputerStore :=
  match store.leases.find? leaseId with
  | none => (.returned (.error (.notFound "Remote computer lease not found")), store)
  | some existing =>
      let sameTerminalStatus := status.isTerminal && decide (existing.status = status)
      if !persistSameStatusMetadata && existing.metadata.isMarked runtimeCleanupRetryMarker then
        (.returned (.error (.badRequest "Remote Computer runtime cleanup is pending")), store)
      else if status = .leased ∧ existing.status ≠ .leased then
        (.returned (.error (.badRequest "Remote computer lease is not active for heartbeat")), store)
      else if sameTerminalStatus &&
          (!persistSameStatusMetadata || existing.metadata.isMarked runtimeCleanupMarker) then
        (.returned (.ok existing), store)
      else if status.isTerminal && decide (existing.status ≠ .leased) && !sameTerminalStatus then
        (.returned (.error
          (.badRequest "Remote computer lease is not active for status transition")), store)
      else
        writeLeaseStatus now status (sameTerminalStatus && persistSameStatusMetadata) input existing
          store

def updateRemoteComputerLeaseStatus (now : Timestamp) (leaseId : Uuid) (status : LeaseStatus)
    (input : UpdateRemoteComputerLease) (store : RemoteComputerStore) :
    CallResult RemoteComputerLease × RemoteComputerStore :=
  match rejectClientRuntimeCleanupMarkers input.metadata with
  | .error error => (.returned (.error error), store)
  | .ok () => updateRemoteComputerLeaseStatusInner now leaseId status input false store

def transitionRemoteComputerLeaseAfterRuntimeCleanup (now : Timestamp) (leaseId : Uuid)
    (status : LeaseStatus) (input : UpdateRemoteComputerLease) (store : RemoteComputerStore) :
    CallResult RemoteComputerLease × RemoteComputerStore :=
  if input.metadata.any (Json.isMarked runtimeCleanupMarker) = false then
    (.returned (.error (.internal
      "Remote Computer runtime cleanup transition is missing its internal marker")), store)
  else
    match updateRemoteComputerLeaseStatusInner now leaseId status input true store with
    | (.returned (.ok lease), store) =>
        if lease.metadata.isMarked runtimeCleanupMarker then (.returned (.ok lease), store)
        else
          (.returned (.error (.internal
            "Remote Computer runtime cleanup transition did not persist its internal marker")),
            store)
    | (result, store) => (result, store)

/-! ### Cleanup of the runtime -/

section

variable (host : Host)

/-- `remote_computer_runtime_cleanup_claim_is_active`. -/
def cleanupClaimIsActive (metadata : Json) (now : Timestamp) : Bool :=
  match metadata.get runtimeCleanupClaimUntilMarker with
  | none => false
  | some value =>
      match value.asStr.bind host.parseRfc3339 with
      | none => true
      | some claimUntil => decide (now < claimUntil)

/-- `remote_computer_runtime_cleanup_outcome_matches`. -/
def cleanupOutcomeMatches (metadata : Json) (assignmentStatus : String)
    (assignmentId : Option Uuid) : Bool :=
  metadata.isMarked runtimeCleanupRetryMarker &&
    decide ((metadata.get "runtime_cleanup_retry_assignment_status").bind Json.asStr =
      some assignmentStatus) &&
    match metadata.get "runtime_cleanup_assignment_id" with
    | some .null => assignmentId.isNone
    | some (.string value) => assignmentId.any fun id => decide (host.parseUuid value = some id)
    | _ => false

/-- `remote_computer_runtime_cleanup_retry_conflicts`. -/
def cleanupRetryConflicts (metadata : Json) (reason assignmentStatus : String)
    (assignmentId : Option Uuid) : Bool :=
  (metadata.get runtimeCleanupRetryMarker).any fun marker =>
    decide (marker.asBool ≠ some true) ||
      decide ((metadata.get "runtime_cleanup_retry_reason").bind Json.asStr ≠ some reason) ||
      !cleanupOutcomeMatches host metadata assignmentStatus assignmentId

/-- A field of an object. -/
def Json.withField (value : Json) (key : String) (new : Json) : Json :=
  match value with
  | .object fields => .object (insertField key new fields)
  | value => value

def ofAssignmentId (assignmentId : Option Uuid) : Json :=
  .ofOption (fun id => .string (host.printUuid id)) assignmentId

/-- `remote_computer_runtime_cleanup_claim_metadata`; what is merged is an object. -/
def cleanupClaimMetadata (existing : Json) (reason assignmentStatus : String)
    (assignmentId : Option Uuid) (claimUntil : Timestamp) : Json :=
  let merged := mergeRemoteComputerMetadata existing (.ofFields
    [("runtime_cleanup_retry_reason", .string reason),
      ("runtime_cleanup_retry_assignment_status", .string assignmentStatus),
      ("runtime_cleanup_assignment_id", ofAssignmentId host assignmentId)])
  (merged.withField runtimeCleanupRetryMarker (.bool true)).withField
    runtimeCleanupClaimUntilMarker (.string (host.printTimestamp claimUntil))

/-- The lease under a claim of its cleanup. -/
def RemoteComputerLease.cleanupScheduled (now : Timestamp) (metadata : Json)
    (lease : RemoteComputerLease) : RemoteComputerLease :=
  { lease with leaseExpiresAt := some now, metadata }

def claimRemoteComputerLeaseRuntimeCleanup (now : Timestamp) (leaseId : Uuid)
    (reason assignmentStatus : String) (assignmentId : Option Uuid) (store : RemoteComputerStore) :
    Except AppError (Option RemoteComputerLease) × RemoteComputerStore :=
  match store.leases.find? leaseId with
  | none => (.error (.notFound "Remote computer lease not found"), store)
  | some lease =>
      if lease.status ≠ .leased ∨ cleanupClaimIsActive host lease.metadata now = true ∨
          cleanupRetryConflicts host lease.metadata reason assignmentStatus assignmentId = true then
        (.ok none, store)
      else
        let claimed := lease.cleanupScheduled now (cleanupClaimMetadata host lease.metadata reason
          assignmentStatus assignmentId (now + seconds 300))
        (.ok (some claimed), { store with leases := store.leases.insert claimed })

def scheduleRemoteComputerLeaseCleanupRetry (now : Timestamp) (leaseId : Uuid) (metadata : Json)
    (store : RemoteComputerStore) : Except AppError RemoteComputerLease × RemoteComputerStore :=
  match (store.leases.find? leaseId).filter fun lease => decide (lease.status = .leased) with
  | none => (.error (.notFound "active Remote Computer lease not found"), store)
  | some lease =>
      let scheduled := lease.cleanupScheduled now metadata
      (.ok scheduled, { store with leases := store.leases.insert scheduled })

def mergeRuntimeCleanupMetadata (existing : Json) (patch : List (String × Json)) : Json :=
  .object (Json.insertFields patch (match existing with
    | .object fields => fields
    | _ => []))

/-- `Map::remove` on an object. -/
def Json.withoutField (value : Json) (key : String) : Json :=
  match value with
  | .object fields => .object (fields.filter fun field => decide (field.1 ≠ key))
  | value => value

/-- The metadata of a retry, derived from the claimed lease when the runtime could not
be deleted. -/
def cleanupRetryMetadata (now : Timestamp) (claimed : RemoteComputerLease) (reason : String)
    (evidence : Json) (assignmentStatus : String) (assignmentId : Option Uuid) :
    Except AppError Json :=
  let generation := ((claimed.metadata.get retryGenerationKey).bind Json.asU64).getD 0
  if 2 ^ 64 ≤ generation + 1 then
    .error (.internal "runtime cleanup retry generation overflow")
  else
    let merged := mergeRuntimeCleanupMetadata claimed.metadata
      [("runtime_cleanup_retry_reason", .string reason),
        ("runtime_cleanup_retry_at", .string (host.printTimestamp now)),
        ("runtime_cleanup_retry", evidence),
        ("runtime_cleanup_retry_assignment_status", .string assignmentStatus),
        ("runtime_cleanup_assignment_id", ofAssignmentId host assignmentId)]
    .ok (((merged.withField runtimeCleanupRetryMarker (.bool true)).withField retryGenerationKey
      (.ofNat (generation + 1))).withoutField runtimeCleanupClaimUntilMarker)

end

end MandoForge
