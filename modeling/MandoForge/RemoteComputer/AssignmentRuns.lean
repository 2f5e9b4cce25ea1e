/-
Module: MandoForge.RemoteComputer.AssignmentRuns
Purpose: Every interleaving of workers that take leases for their jobs, of finalizations
  and of cleanups.  A job and a session have one assignment in force; a lease has one,
  and an assignment that is out of force stays so, exactly when no stale list or stale
  snapshot is acted on.
Trusted boundary: beside the calls the world changes, but not the assignments.
Main exports: AssignmentEvent, two_jobs_share_a_lease
-/
import MandoForge.Foundation.Runs
import MandoForge.RemoteComputer.Assignments

namespace MandoForge

open Foundation

/-! ### Runs -/

section runs

variable {Runner : StoreInterface RemoteComputerStore}

abbrev AssignmentPool (Runner : StoreInterface RemoteComputerStore) :=
  Pool (AssignmentStore Runner) AppError Unit Unit Unit

def assignmentObserver : Observer (AssignmentStore Runner) Unit Unit where
  tells _ _ told := told
  acts _ _ heard := heard
  overhears _ _ heard := heard

inductive AssignmentEvent where
  | enter (call : AssignmentCall)
  /-- One of the calls performs its next store operation. -/
  | operate (index : Nat)
  /-- The world changes beside the calls. -/
  | elsewhere (world : AssignmentWorld)

def AssignmentEvent.perform (outside : AssignmentHost Runner) (event : AssignmentEvent)
    (pool : AssignmentPool Runner) : AssignmentPool Runner :=
  match event with
  | .enter call => pool.enter (call.program outside) () ()
  | .operate index => pool.operate assignmentObserver index
  | .elsewhere world => { pool with state := world.withAssignments pool.state.assignments }

/-- No call is under way. -/
def noCalls (world : AssignmentWorld) : AssignmentPool Runner where
  state := world
  calls := []

/-- The operation that an event performs. -/
def AssignmentEvent.operation (event : AssignmentEvent) (pool : AssignmentPool Runner) :
    Option (AssignmentOperation Runner) :=
  match event with
  | .operate index => (pool.next index).map Prod.snd
  | _ => none

end runs

/-! ### What is claimed -/

/-- A job, a session and a lease have at most one assignment in force. -/
def OneInForce (assignments : AssignmentTable) : Prop :=
  ∀ first ∈ assignments, ∀ second ∈ assignments,
    first.status = .assigned → second.status = .assigned →
      (first.executionJobId = second.executionJobId ∨ first.sessionId = second.sessionId ∨
        first.leaseId = second.leaseId) → first = second

/-- An assignment out of force stays as it is. -/
def KeepsFinal (before after : AssignmentTable) : Prop :=
  ∀ assignment ∈ before, assignment.status ≠ .assigned →
    ∃ later, after.find? assignment.id = some later ∧ later.status = assignment.status

section claims

variable {Runner : StoreInterface RemoteComputerStore} (outside : AssignmentHost Runner)

structure AssignmentsExclusive (events : List AssignmentEvent) (world : AssignmentWorld) :
    Prop where
  oneInForce : HeldAlong (AssignmentEvent.perform outside)
    (fun pool => OneInForce pool.state.assignments) events (noCalls world)
  final : MetAlong (AssignmentEvent.perform outside)
    (fun event pool => KeepsFinal pool.state.assignments
      (event.perform outside pool).state.assignments) events (noCalls world)

/-! ### What the calls have to see -/

/-- What is written was decided on what is stored now: the lease of a new assignment is
free, and the assignment that a cleanup updates is in force, or has that status. -/
def AssignmentOperation.ActsOnTheCurrent (operation : AssignmentOperation Runner)
    (world : AssignmentWorld) : Prop :=
  match operation with
  | .createAssignment _ executionJobId sessionId input =>
      (∃ lease, checkNewAssignment executionJobId sessionId input.leaseId world.remote.leases
        world.assignments = .ok lease) →
      ∀ assignment ∈ world.assignments, assignment.leaseId = input.leaseId →
        assignment.status ≠ .assigned
  | .updateAssignmentStatus assignmentId status _ =>
      ∀ assignment, world.assignments.find? assignmentId = some assignment →
        assignment.status = .assigned ∨ assignment.status = status
  | _ => True

def ActsOnTheCurrent (event : AssignmentEvent) (pool : AssignmentPool Runner) : Prop :=
  ∀ operation, event.operation pool = some operation → operation.ActsOnTheCurrent pool.state

end claims

/-! ### What one operation does to the assignments -/

/-- Nothing is broken by a step between the tables. -/
structure StepSound (before after : AssignmentTable) : Prop where
  oneInForce : OneInForce after
  final : KeepsFinal before after

theorem StepSound.refl {assignments : AssignmentTable} (one : OneInForce assignments) :
    StepSound assignments assignments :=
  ⟨one, fun assignment member _ => ⟨assignment, Table.find?_key member, rfl⟩⟩

/-- An assignment gets a status. -/
structure MovedTo (before after : AssignmentTable) (old new : RemoteComputerJobAssignment) :
    Prop where
  found : before.find? new.id = some old
  stored : after = before.insert new
  sameJob : new.executionJobId = old.executionJobId
  sameSession : new.sessionId = old.sessionId
  sameLease : new.leaseId = old.leaseId

/-- A status that an assignment gets breaks nothing when it was in force or has it. -/
theorem MovedTo.stepSound_iff {before after : AssignmentTable}
    {old new : RemoteComputerJobAssignment} (moved : MovedTo before after old new)
    (one : OneInForce before) :
    StepSound before after ↔ (old.status = .assigned ∨ old.status = new.status) := by
  obtain ⟨oldMember, sameId⟩ := Table.find?_eq_some.mp moved.found
  constructor
  · intro sound
    by_cases inForce : old.status = .assigned
    · exact .inl inForce
    · obtain ⟨later, found, sameStatus⟩ := sound.final old oldMember inForce
      rw [moved.stored, sameId, Table.find?_insert_same] at found
      cases found
      exact .inr sameStatus.symm
  · intro allowed
    have wasInForce : new.status = .assigned → old.status = .assigned := by
      intro inForce
      rcases allowed with wasIn | same
      · exact wasIn
      · exact same.trans inForce
    -- What is in force now was in force under the same job, session and lease.
    have source : ∀ assignment ∈ after, assignment.status = .assigned →
        ∃ was ∈ before, was.status = .assigned ∧ was.id = assignment.id ∧
          assignment.executionJobId = was.executionJobId ∧
          assignment.sessionId = was.sessionId ∧ assignment.leaseId = was.leaseId := by
      intro assignment member inForce
      rw [moved.stored] at member
      rcases Table.mem_insert_iff.mp member with rfl | ⟨-, isOld⟩
      · exact ⟨old, oldMember, wasInForce inForce, sameId, moved.sameJob, moved.sameSession,
          moved.sameLease⟩
      · exact ⟨assignment, isOld, inForce, rfl, rfl, rfl, rfl⟩
    constructor
    case oneInForce =>
      intro first firstMember second secondMember firstIn secondIn share
      obtain ⟨firstWas, firstBefore, firstWasIn, firstId, firstJob, firstSession, firstLease⟩ :=
        source first firstMember firstIn
      obtain ⟨secondWas, secondBefore, secondWasIn, secondId, secondJob, secondSession,
        secondLease⟩ := source second secondMember secondIn
      rw [firstJob, firstSession, firstLease, secondJob, secondSession, secondLease] at share
      have same := one firstWas firstBefore secondWas secondBefore firstWasIn secondWasIn share
      exact Table.eq_of_key_eq firstMember secondMember
        (firstId.symm.trans ((congrArg _ same).trans secondId))
    case final =>
      intro assignment member notIn
      by_cases same : assignment.id = new.id
      · have isOld := Table.find?_key member
        rw [same, moved.found] at isOld
        cases isOld
        refine ⟨new, by rw [moved.stored, same, Table.find?_insert_same], ?_⟩
        exact (allowed.resolve_left notIn).symm
      · exact ⟨assignment, by rw [moved.stored, Table.find?_insert_of_ne same,
          Table.find?_key member], rfl⟩

theorem checkNewAssignment_eq_ok {executionJobId sessionId leaseId : Uuid}
    {leases : Table RemoteComputerLease.id} {assignments : AssignmentTable}
    {lease : RemoteComputerLease}
    (checked : checkNewAssignment executionJobId sessionId leaseId leases assignments =
      .ok lease) :
    lease.id = leaseId ∧
      (∀ other ∈ assignments, other.status = .assigned →
        other.executionJobId ≠ executionJobId) ∧
      ∀ other ∈ assignments, other.status = .assigned → other.sessionId ≠ sessionId := by
  unfold checkNewAssignment at checked
  obtain ⟨stored, isStored, checked⟩ := bind_eq_ok.mp checked
  obtain ⟨_, -, checked⟩ := bind_eq_ok.mp checked
  split at checked
  · cases checked
  · rename_i freeJob
    split at checked
    · cases checked
    · rename_i freeSession
      cases checked
      refine ⟨(Table.find?_eq_some.mp (okOr_eq_ok.mp isStored)).2, ?_, ?_⟩
      · intro other member inForce sameJob
        apply freeJob
        rw [List.any_eq_true]
        exact ⟨other, member, by simp [sameJob, inForce]⟩
      · intro other member inForce sameSession
        apply freeSession
        rw [List.any_eq_true]
        exact ⟨other, member, by simp [sameSession, inForce]⟩

/-- A new assignment breaks nothing when its lease is free. -/
theorem createRemoteComputerJobAssignment_stepSound_iff {now : Timestamp}
    {draw executionJobId sessionId : Uuid} {input : CreateRemoteComputerJobAssignment}
    {leases : Table RemoteComputerLease.id} {assignments : AssignmentTable}
    (one : OneInForce assignments) :
    StepSound assignments (createRemoteComputerJobAssignment now draw executionJobId sessionId
        input leases assignments).2 ↔
      ((∃ lease, checkNewAssignment executionJobId sessionId input.leaseId leases assignments =
        .ok lease) →
        ∀ assignment ∈ assignments, assignment.leaseId = input.leaseId →
          assignment.status ≠ .assigned) := by
  unfold createRemoteComputerJobAssignment
  split
  · rename_i error refused
    refine ⟨fun _ ⟨lease, checked⟩ => ?_, fun _ => StepSound.refl one⟩
    rw [refused] at checked
    cases checked
  · rename_i lease checked
    obtain ⟨sameLease, freeJob, freeSession⟩ := checkNewAssignment_eq_ok checked
    have fresh : assignments.find? (assignments.drawKey draw) = none := Table.find?_drawKey
    generalize isNew : newRemoteComputerJobAssignment now (assignments.drawKey draw)
      executionJobId sessionId lease input = new
    have newId : new.id = assignments.drawKey draw := isNew ▸ rfl
    have newJob : new.executionJobId = executionJobId := isNew ▸ rfl
    have newSession : new.sessionId = sessionId := isNew ▸ rfl
    have newLease : new.leaseId = input.leaseId := isNew ▸ sameLease
    have newStatus : new.status = .assigned := isNew ▸ rfl
    rw [← newId] at fresh
    constructor
    · intro sound _ assignment member onLease inForce
      have same := sound.oneInForce assignment
        ((Table.mem_insert_of_fresh fresh).mpr (.inl member)) new
        ((Table.mem_insert_of_fresh fresh).mpr (.inr rfl)) inForce newStatus
        (.inr (.inr (onLease.trans newLease.symm)))
      rw [← same, Table.find?_key member] at fresh
      cases fresh
    · intro freeLease
      have excluded : ∀ other ∈ assignments, other.status = .assigned →
          ¬(other.executionJobId = new.executionJobId ∨ other.sessionId = new.sessionId ∨
            other.leaseId = new.leaseId) := by
        intro other member inForce share
        rw [newJob, newSession, newLease] at share
        rcases share with sameJob | sameSession | onLease
        · exact freeJob other member inForce sameJob
        · exact freeSession other member inForce sameSession
        · exact freeLease ⟨lease, checked⟩ other member onLease inForce
      constructor
      case oneInForce =>
        intro first firstMember second secondMember firstIn secondIn share
        rcases (Table.mem_insert_of_fresh fresh).mp firstMember with firstOld | rfl
        · rcases (Table.mem_insert_of_fresh fresh).mp secondMember with secondOld | rfl
          · exact one first firstOld second secondOld firstIn secondIn share
          · exact (excluded first firstOld firstIn share).elim
        · rcases (Table.mem_insert_of_fresh fresh).mp secondMember with secondOld | rfl
          · apply (excluded second secondOld secondIn ?_).elim
            exact share.imp Eq.symm (Or.imp Eq.symm Eq.symm)
          · rfl
      case final =>
        intro assignment member _
        have differs : assignment.id ≠ new.id := by
          intro same
          rw [← same, Table.find?_key member] at fresh
          cases fresh
        exact ⟨assignment, by rw [Table.find?_insert_of_ne differs, Table.find?_key member], rfl⟩

theorem updateRemoteComputerJobAssignmentStatus_stepSound_iff {now : Timestamp}
    {assignmentId : Uuid} {status : AssignmentStatus} {metadata : Json}
    {assignments : AssignmentTable} (one : OneInForce assignments) :
    StepSound assignments (updateRemoteComputerJobAssignmentStatus now assignmentId status
        metadata assignments).2 ↔
      ∀ assignment, assignments.find? assignmentId = some assignment →
        assignment.status = .assigned ∨ assignment.status = status := by
  unfold updateRemoteComputerJobAssignmentStatus
  split
  · rename_i missing
    rw [missing]
    exact ⟨fun _ _ found => (by cases found), fun _ => StepSound.refl one⟩
  · rename_i assignment found
    have sameId := (Table.find?_eq_some.mp found).2
    have moved : MovedTo assignments (assignments.insert (assignment.updated now status metadata))
        assignment (assignment.updated now status metadata) :=
      ⟨sameId.symm ▸ found, rfl, rfl, rfl, rfl⟩
    rw [moved.stepSound_iff one, found]
    constructor
    · intro allowed _ same
      cases same
      exact allowed
    · intro allowed
      exact allowed assignment rfl

/-- A finalization moves an assignment that is in force, or repeats itself. -/
theorem finalizeAssignmentForAttempt_stepSound {now : Timestamp}
    {assignmentId executionJobId : Uuid} {attemptCount : Int} {status : AssignmentStatus}
    {metadata : Json} {store : MemoryStore} (one : OneInForce store.remoteComputerJobAssignments) :
    StepSound store.remoteComputerJobAssignments (finalizeAssignmentForAttempt now assignmentId
      executionJobId attemptCount status metadata store).2.remoteComputerJobAssignments := by
  unfold finalizeAssignmentForAttempt
  split
  · rename_i assignment found
    split
    · rename_i allowed
      dsimp only
      rw [Table.modify_eq_insert found]
      have sameId := (Table.find?_eq_some.mp found).2
      have moved : MovedTo store.remoteComputerJobAssignments
          (store.remoteComputerJobAssignments.insert (assignment.updated now status metadata))
          assignment (assignment.updated now status metadata) :=
        ⟨sameId.symm ▸ found, rfl, rfl, rfl, rfl⟩
      exact (moved.stepSound_iff one).mpr allowed.2
    · exact StepSound.refl one
  · exact StepSound.refl one

/-! ### Every run -/

section everyRun

variable {Runner : StoreInterface RemoteComputerStore}

/-- An operation breaks nothing exactly when it acts on what is current. -/
theorem AssignmentOperation.stepSound_iff (operation : AssignmentOperation Runner)
    (world : AssignmentWorld) (one : OneInForce world.assignments) :
    StepSound world.assignments (operation.perform world).2.assignments ↔
      operation.ActsOnTheCurrent world := by
  cases operation with
  | utcNow => exact iff_of_true (StepSound.refl one) trivial
  | listAssignments => exact iff_of_true (StepSound.refl one) trivial
  | listComputers => exact iff_of_true (StepSound.refl one) trivial
  | listLeases => exact iff_of_true (StepSound.refl one) trivial
  | createLease draw remoteComputerId input => exact iff_of_true (StepSound.refl one) trivial
  | provision operation => exact iff_of_true (StepSound.refl one) trivial
  | createAssignment draw executionJobId sessionId input =>
      exact createRemoteComputerJobAssignment_stepSound_iff one
  | updateAssignmentStatus assignmentId status metadata =>
      exact updateRemoteComputerJobAssignmentStatus_stepSound_iff one
  | finalizeAssignment assignmentId fence attemptCount status metadata =>
      refine iff_of_true ?_ trivial
      unfold perform ExecutionWorld.onStoreFenced
      dsimp only
      split
      · exact StepSound.refl one
      · exact finalizeAssignmentForAttempt_stepSound one

theorem AssignmentEvent.stepSound_iff (outside : AssignmentHost Runner) (event : AssignmentEvent)
    (pool : AssignmentPool Runner) (one : OneInForce pool.state.assignments) :
    StepSound pool.state.assignments (event.perform outside pool).state.assignments ↔
      ActsOnTheCurrent event pool := by
  cases event with
  | enter call => exact iff_of_true (StepSound.refl one) nofun
  | elsewhere world => exact iff_of_true (StepSound.refl one) nofun
  | operate index =>
      unfold MandoForge.ActsOnTheCurrent
      cases pending : pool.next index with
      | none =>
          have noOperation : (AssignmentEvent.operate index).operation pool = none := by
            rw [operation, pending]
            rfl
          rw [noOperation, perform, Pool.operate_of_next_eq_none pending]
          exact iff_of_true (StepSound.refl one) nofun
      | some next =>
          obtain ⟨told, operation⟩ := next
          have isNext : (AssignmentEvent.operate index).operation pool = some operation := by
            rw [AssignmentEvent.operation, pending]
            rfl
          rw [isNext, perform, Pool.state_operate pending]
          refine (operation.stepSound_iff pool.state one).trans ?_
          exact ⟨fun acts _ same => Option.some.inj same ▸ acts, fun acts => acts _ rfl⟩

theorem oneInForce_iff_steps (outside : AssignmentHost Runner) (events : List AssignmentEvent)
    {world : AssignmentWorld} (startOne : OneInForce world.assignments) :
    HeldAlong (AssignmentEvent.perform outside)
        (fun pool => OneInForce pool.state.assignments) events (noCalls world) ↔
      MetAlong (AssignmentEvent.perform outside)
        (fun event pool => OneInForce (event.perform outside pool).state.assignments) events
        (noCalls world) :=
  heldAlong_iff_steps startOne

end everyRun

/-- However the calls interleave, assignments are exclusive and final exactly when every
new assignment finds its lease free and every cleanup finds its assignment in force, or
in the status that it writes. -/
theorem assignments_exclusive_iff {Runner : StoreInterface RemoteComputerStore}
    (outside : AssignmentHost Runner) (events : List AssignmentEvent) (world : AssignmentWorld)
    (startOne : OneInForce world.assignments) :
    AssignmentsExclusive outside events world ↔
      MetAlong (AssignmentEvent.perform outside) ActsOnTheCurrent events (noCalls world) := by
  have steps : AssignmentsExclusive outside events world ↔
      MetAlong (AssignmentEvent.perform outside) (fun event pool =>
        StepSound pool.state.assignments (event.perform outside pool).state.assignments) events
        (noCalls world) := by
    constructor
    · intro exclusive front event isPrefix
      have along := (oneInForce_iff_steps outside events startOne).mp exclusive.oneInForce
      exact ⟨along front event isPrefix, exclusive.final front event isPrefix⟩
    · intro along
      constructor
      · apply (oneInForce_iff_steps outside events startOne).mpr
        exact fun front event isPrefix => (along front event isPrefix).oneInForce
      · exact fun front event isPrefix => (along front event isPrefix).final
  rw [steps]
  exact metAlong_iff_of_keeps
    (fun event pool (one : OneInForce pool.state.assignments) =>
      event.stepSound_iff outside pool one)
    (fun event pool _ sound => sound.oneInForce) startOne

/-! ### Two jobs on one lease -/

namespace SharedLease

def noRunner : StoreInterface RemoteComputerStore where
  Operation := Empty
  Answer := nofun
  perform := nofun

def outside : AssignmentHost noRunner where
  host := {
    parseUuid := String.toNat?
    parseRfc3339 := fun _ => none
    printUuid := Nat.repr
    printTimestamp := fun time => toString time }
  provision _ _ _ := .done none
  computerUpdatedAt _ := 0
  leaseCreatedAt _ := 0

def contract : RemoteComputerEnvironmentContract where
  environmentId := 5
  environmentName := "remote"
  pool := none
  profile := none
  namespaceName := none
  sandboxWarmPool := none
  cacheScope := none
  workspaceSeed := none
  remoteComputerId := none
  metadataSelector := []

/-- The computer 1 is leased to no session in particular. -/
def world : AssignmentWorld where
  execution := {
    store := {
      sessions := Table.empty
      workflowRuns := Table.empty
      workflowStepRuns := Table.empty
      taskGrants := Table.empty }
    queue := { jobs := Table.empty }
    clock := 10
    issuedUuid := 1 }
  remote := {
    computers := Table.empty.insert {
      id := 1, name := "rc", profile := "workspace-write", status := .leased,
      namespaceName := "agent-os", podName := some "rc", workspacePath := "/workspace",
      stateMountPath := "/agent-state", metadata := .object [] }
    leases := Table.empty.insert {
      id := 2, remoteComputerId := 1, sessionId := none, status := .leased,
      workerId := none, leaseExpiresAt := some 1000, heartbeatAt := some 0,
      metadata := .object [] } }

def job (id : Uuid) : ExecutionJob :=
  { newExecutionJob 0 id 3 ⟨id + 10, some 5, id + 20, id + 30, "shell.exec", none⟩ with
    status := .running, attemptCount := 1, claimGeneration := 1 }

def autoAssign (id : Uuid) : AssignmentCall :=
  .autoAssign ⟨id + 40, id + 50⟩ (job id) "worker" (some contract)

/-- Both workers list the assignments before either creates its own. -/
def overlapping : List AssignmentEvent :=
  [.enter (autoAssign 100), .enter (autoAssign 200)] ++ List.replicate 5 (.operate 0) ++
    List.replicate 6 (.operate 1) ++ [.operate 0]

end SharedLease

/-- Two workers find the same lease free, and both take it. -/
theorem two_jobs_share_a_lease :
    ¬AssignmentsExclusive SharedLease.outside SharedLease.overlapping SharedLease.world := by
  intro exclusive
  have one := exclusive.oneInForce SharedLease.overlapping List.prefix_rfl
  have shared : ∃ first ∈ (runEvents (AssignmentEvent.perform SharedLease.outside)
      SharedLease.overlapping (noCalls SharedLease.world)).state.assignments.rows,
      ∃ second ∈ (runEvents (AssignmentEvent.perform SharedLease.outside)
        SharedLease.overlapping (noCalls SharedLease.world)).state.assignments.rows,
        first.status = .assigned ∧ second.status = .assigned ∧ first.leaseId = second.leaseId ∧
          first.id ≠ second.id := by
    decide +kernel
  obtain ⟨first, firstMember, second, secondMember, firstIn, secondIn, onLease, differ⟩ := shared
  exact differ (congrArg _ (one first firstMember second secondMember firstIn secondIn
    (.inr (.inr onLease))))

theorem assignments_exclusive_iff_shared_lease :
    OneInForce SharedLease.world.assignments ∧
      (AssignmentsExclusive SharedLease.outside SharedLease.overlapping SharedLease.world ↔
        MetAlong (AssignmentEvent.perform SharedLease.outside) ActsOnTheCurrent
          SharedLease.overlapping (noCalls SharedLease.world)) :=
  ⟨nofun, assignments_exclusive_iff SharedLease.outside SharedLease.overlapping SharedLease.world
    nofun⟩

end MandoForge
