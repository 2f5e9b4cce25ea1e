/-
Module: MandoForge.RemoteComputer.LeaseRuns
Purpose: Every order of the operations on remote computers and leases.  An ended lease
  stays ended, no update goes through while a cleanup is pending, and a computer is
  `leased` exactly while one lease of it is active, unless the release of a lease
  panics on the reason it writes.
Trusted boundary: a drawn identifier of a lease is a new one.
Main exports: LeaseEffect, leases_safe_iff
-/
import MandoForge.Foundation.Runs
import MandoForge.RemoteComputer.Leases

namespace MandoForge

open Foundation

/-! ### What an operation does to the store -/

/-- What an operation that does not panic can do to the store. -/
inductive LeaseEffect (before : RemoteComputerStore) : RemoteComputerStore → Prop
  | stayed : LeaseEffect before before
  | computerCreated {computer : RemoteComputer}
      (fresh : before.computers.find? computer.id = none) (notLeased : computer.status ≠ .leased) :
      LeaseEffect before { before with computers := before.computers.insert computer }
  | computerRemoved {computerId : Uuid}
      (unleased : ∀ lease ∈ before.leases, lease.remoteComputerId ≠ computerId) :
      LeaseEffect before { before with computers := before.computers.remove computerId }
  | computerSet {old computer : RemoteComputer}
      (found : before.computers.find? computer.id = some old)
      (idle : hasActiveLease computer.id before = false) (notLeased : computer.status ≠ .leased) :
      LeaseEffect before { before with computers := before.computers.insert computer }
  | leaseCreated {lease : RemoteComputerLease} {computer : RemoteComputer}
      (fresh : before.leases.find? lease.id = none)
      (found : before.computers.find? lease.remoteComputerId = some computer)
      (idle : hasActiveLease lease.remoteComputerId before = false)
      (isLeased : lease.status = .leased) :
      LeaseEffect before {
        computers := before.computers.insert (computer.withStatus .leased)
        leases := before.leases.insert lease }
  | leaseTouched {old lease : RemoteComputerLease}
      (found : before.leases.find? lease.id = some old)
      (sameComputer : lease.remoteComputerId = old.remoteComputerId)
      (sameStatus : lease.status = old.status) :
      LeaseEffect before { before with leases := before.leases.insert lease }
  | leaseEnded {old lease : RemoteComputerLease}
      (found : before.leases.find? lease.id = some old)
      (sameComputer : lease.remoteComputerId = old.remoteComputerId)
      (ends : lease.status.isTerminal = true)
      (was : old.status = .leased ∨ old.status = lease.status) :
      LeaseEffect before (storeUpdatedLease lease before)

/-- An active lease ended and its computer was not told. -/
def Strands (before after : RemoteComputerStore) : Prop :=
  ∃ old lease, before.leases.find? lease.id = some old ∧
    lease.remoteComputerId = old.remoteComputerId ∧ lease.status.isTerminal = true ∧
    old.status = .leased ∧ after = { before with leases := before.leases.insert lease }

section

variable {store : RemoteComputerStore}

theorem hasActiveLease_iff {computerId : Uuid} :
    hasActiveLease computerId store = true ↔
      ∃ lease ∈ store.leases, lease.remoteComputerId = computerId ∧ lease.status = .leased := by
  simp [hasActiveLease, Table.mem_iff]

theorem createRemoteComputer_effect (drawnId : Uuid) (input : CreateRemoteComputer) :
    LeaseEffect store (createRemoteComputer drawnId input store).2 := by
  unfold createRemoteComputer
  dsimp only
  split
  · exact .stayed
  · split
    · exact .stayed
    · rename_i absent
      exact .computerCreated (by simpa using absent) (by rintro ⟨⟩)

theorem deleteRemoteComputerIfUnleased_effect (computerId : Uuid) :
    LeaseEffect store (deleteRemoteComputerIfUnleased computerId store).2 := by
  unfold deleteRemoteComputerIfUnleased
  split
  · exact .stayed
  · rename_i unleased
    apply LeaseEffect.computerRemoved
    intro lease member sameComputer
    exact unleased (List.any_eq_true.mpr ⟨lease, member, by simpa using sameComputer⟩)

theorem rebindOnDemandRemoteComputer_effect (computerId : Uuid)
    (identity : RemoteComputerRuntimeIdentity) (metadata : Json) :
    LeaseEffect store (rebindOnDemandRemoteComputer computerId identity metadata store).2 := by
  unfold rebindOnDemandRemoteComputer
  split
  · exact .stayed
  · rename_i idle
    split
    · exact .stayed
    · rename_i computer found
      split
      · exact .stayed
      · obtain rfl : computer.id = computerId := (Table.find?_eq_some.mp found).2
        dsimp only
        rw [Table.modify_eq_insert found]
        exact .computerSet found (by simpa using idle) (by rintro ⟨⟩)

theorem markRemoteComputerAttentionIfUnleased_effect (computerId : Uuid) (reason : String) :
    LeaseEffect store (markRemoteComputerAttentionIfUnleased computerId reason store).2 := by
  unfold markRemoteComputerAttentionIfUnleased
  split
  · exact .stayed
  · rename_i idle
    split
    · exact .stayed
    · rename_i computer found
      obtain rfl : computer.id = computerId := (Table.find?_eq_some.mp found).2
      dsimp only
      split
      · exact @LeaseEffect.computerSet store computer (computer.withStatus .attention) found
          (by simpa using idle) nofun
      · exact .computerSet found (by simpa using idle) nofun

theorem createRemoteComputerLease_effect (now : Timestamp) {drawnId : Uuid} (computerId : Uuid)
    (input : CreateRemoteComputerLease) (fresh : store.leases.find? drawnId = none) :
    LeaseEffect store (createRemoteComputerLease now drawnId computerId input store).2 := by
  unfold createRemoteComputerLease
  split
  · exact .stayed
  · dsimp only
    split
    · exact .stayed
    · split
      · exact .stayed
      · rename_i computer found
        split
        · exact .stayed
        · split
          · exact .stayed
          · rename_i idle
            dsimp only
            rw [Table.modify_eq_insert found]
            exact .leaseCreated fresh found (eq_false_of_ne_true idle) rfl

/-! ### What an update does -/

/-- The update can write its reason: there is none, or the metadata it is written into
are an object or null. -/
def reasonFits (input : UpdateRemoteComputerLease) (lease : RemoteComputerLease) : Bool :=
  input.reason.isNone ||
    (Json.assign "reason" .null (input.metadata.getD lease.metadata)).isSome

theorem isSome_assign (key : String) (first second value : Json) :
    (Json.assign key first value).isSome = (Json.assign key second value).isSome := by
  cases value <;> rfl

theorem storeUpdatedLease_leased {lease : RemoteComputerLease} (isLeased : lease.status = .leased) :
    storeUpdatedLease lease store = { store with leases := store.leases.insert lease } := by
  unfold storeUpdatedLease
  dsimp only
  rw [if_neg]
  simp [isLeased, LeaseStatus.isTerminal]

/-- A written lease: an active one stays, or one ends. -/
theorem storeUpdatedLease_effect {existing lease : RemoteComputerLease}
    (found : store.leases.find? lease.id = some existing)
    (sameComputer : lease.remoteComputerId = existing.remoteComputerId)
    (was : existing.status = .leased ∨ existing.status = lease.status) :
    LeaseEffect store (storeUpdatedLease lease store) := by
  cases ends : lease.status.isTerminal with
  | true => exact .leaseEnded found sameComputer ends was
  | false =>
      have isLeased : lease.status = .leased := by
        cases status : lease.status with
        | leased => rfl
        | released => rw [status] at ends; cases ends
        | failed => rw [status] at ends; cases ends
      rw [storeUpdatedLease_leased isLeased]
      refine .leaseTouched found sameComputer ?_
      rw [isLeased] at was ⊢
      exact (or_self_iff.mp was).symm

/-- An update whose reason fits writes the lease. -/
theorem writeLeaseStatus_fits (now : Timestamp) {status : LeaseStatus} (merges : Bool)
    {input : UpdateRemoteComputerLease} {existing : RemoteComputerLease}
    (found : store.leases.find? existing.id = some existing)
    (was : existing.status = .leased ∨ existing.status = status)
    (fits : input.reason.isNone ∨
      (Json.assign "reason" .null
        (existing.moved now status merges input.metadata).metadata).isSome) :
    ∃ lease, lease.id = existing.id ∧ lease.status = status ∧
      (writeLeaseStatus now status merges input existing store).1 = .returned (.ok lease) ∧
      (writeLeaseStatus now status merges input existing store).2 =
        storeUpdatedLease lease store ∧
      LeaseEffect store (storeUpdatedLease lease store) := by
  unfold writeLeaseStatus
  cases isReason : input.reason with
  | none =>
      refine ⟨existing.moved now status merges input.metadata, rfl, rfl, rfl, rfl, ?_⟩
      exact storeUpdatedLease_effect found rfl was
  | some reason =>
      rw [isReason] at fits
      have isAssigned := fits.resolve_left nofun
      rw [isSome_assign "reason" .null (.string reason)] at isAssigned
      obtain ⟨metadata, assigned⟩ := Option.isSome_iff_exists.mp isAssigned
      dsimp only
      rw [assigned]
      refine ⟨{ existing.moved now status merges input.metadata with metadata }, rfl, rfl, rfl,
        rfl, ?_⟩
      exact storeUpdatedLease_effect found rfl was

/-- An update whose reason does not fit panics once the lease is written. -/
theorem writeLeaseStatus_panics (now : Timestamp) {status : LeaseStatus} (merges : Bool)
    {input : UpdateRemoteComputerLease} {existing : RemoteComputerLease}
    (misfits : ¬(input.reason.isNone ∨
      (Json.assign "reason" .null
        (existing.moved now status merges input.metadata).metadata).isSome)) :
    writeLeaseStatus now status merges input existing store =
      (.panicked, { store with
        leases := store.leases.insert (existing.moved now status merges input.metadata) }) := by
  unfold writeLeaseStatus
  cases isReason : input.reason with
  | none =>
      rw [isReason] at misfits
      exact absurd (.inl rfl) misfits
  | some reason =>
      rw [isReason, isSome_assign "reason" .null (.string reason)] at misfits
      dsimp only
      cases assigned : Json.assign "reason" (.string reason)
          (existing.moved now status merges input.metadata).metadata with
      | none => rfl
      | some metadata =>
          rw [assigned] at misfits
          exact absurd (.inr rfl) misfits

theorem status_leased_of_not_terminal {status : LeaseStatus}
    (notTerminal : status.isTerminal = false) : status = .leased := by
  cases status with
  | leased => rfl
  | released => cases notTerminal
  | failed => cases notTerminal

/-- The update of a lease by its holder reaches the write. -/
structure WritesLease (leaseId : Uuid) (status : LeaseStatus) (input : UpdateRemoteComputerLease)
    (existing : RemoteComputerLease) (store : RemoteComputerStore) : Prop where
  found : store.leases.find? leaseId = some existing
  accepted : rejectClientRuntimeCleanupMarkers input.metadata = .ok ()
  notPending : existing.metadata.isMarked runtimeCleanupRetryMarker = false
  active : existing.status = .leased

/-- The update by the holder of an active lease. -/
theorem inner_of_active (now : Timestamp) {leaseId : Uuid} {status : LeaseStatus}
    {input : UpdateRemoteComputerLease} {existing : RemoteComputerLease}
    (found : store.leases.find? leaseId = some existing)
    (notPending : existing.metadata.isMarked runtimeCleanupRetryMarker = false)
    (active : existing.status = .leased) :
    updateRemoteComputerLeaseStatusInner now leaseId status input false store =
      writeLeaseStatus now status false input existing store := by
  unfold updateRemoteComputerLeaseStatusInner
  rw [found]
  dsimp only
  rw [notPending, active]
  cases status with
  | leased => rfl
  | released => rfl
  | failed => rfl

/-- The update of a lease that has ended leaves it. -/
theorem inner_of_ended (now : Timestamp) {leaseId : Uuid} {status : LeaseStatus}
    {input : UpdateRemoteComputerLease} {existing : RemoteComputerLease}
    (found : store.leases.find? leaseId = some existing) (ended : existing.status ≠ .leased) :
    (updateRemoteComputerLeaseStatusInner now leaseId status input false store).2 = store := by
  unfold updateRemoteComputerLeaseStatusInner
  rw [found]
  dsimp only
  split
  · rfl
  · cases status with
    | leased =>
        rw [if_pos ⟨rfl, ended⟩]
    | released =>
        cases isReleased : existing.status with
        | leased => exact absurd isReleased ended
        | released => rfl
        | failed => rfl
    | failed =>
        cases isFailed : existing.status with
        | leased => exact absurd isFailed ended
        | released => rfl
        | failed => rfl

theorem inner_of_pending (now : Timestamp) {leaseId : Uuid} {status : LeaseStatus}
    {input : UpdateRemoteComputerLease} {existing : RemoteComputerLease}
    (found : store.leases.find? leaseId = some existing)
    (pending : existing.metadata.isMarked runtimeCleanupRetryMarker = true) :
    updateRemoteComputerLeaseStatusInner now leaseId status input false store =
      (.returned (.error (.badRequest "Remote Computer runtime cleanup is pending")), store) := by
  unfold updateRemoteComputerLeaseStatusInner
  rw [found]
  dsimp only
  rw [pending]
  rfl

/-- An update by the holder reaches the write, or it leaves the store. -/
theorem update_cases (now : Timestamp) (leaseId : Uuid) (status : LeaseStatus)
    (input : UpdateRemoteComputerLease) :
    (∃ existing, WritesLease leaseId status input existing store ∧
      updateRemoteComputerLeaseStatus now leaseId status input store =
        writeLeaseStatus now status false input existing store) ∨
    (∀ existing, ¬WritesLease leaseId status input existing store) ∧
      (updateRemoteComputerLeaseStatus now leaseId status input store).2 = store := by
  unfold updateRemoteComputerLeaseStatus
  cases accepted : rejectClientRuntimeCleanupMarkers input.metadata with
  | error error =>
      refine .inr ⟨fun existing writes => ?_, rfl⟩
      rw [writes.accepted] at accepted
      cases accepted
  | ok _ =>
      cases found : store.leases.find? leaseId with
      | none =>
          refine .inr ⟨fun existing writes => ?_, ?_⟩
          · rw [writes.found] at found
            cases found
          · dsimp only
            rw [updateRemoteComputerLeaseStatusInner, found]
      | some existing =>
          cases pending : existing.metadata.isMarked runtimeCleanupRetryMarker with
          | true =>
              refine .inr ⟨fun other writes => ?_, ?_⟩
              · obtain rfl := Option.some.inj (writes.found.symm.trans found)
                rw [writes.notPending] at pending
                cases pending
              · dsimp only
                rw [inner_of_pending now found pending]
          | false =>
              by_cases active : existing.status = .leased
              · exact .inl ⟨existing, ⟨found, accepted, pending, active⟩,
                  inner_of_active now found pending active⟩
              · refine .inr ⟨fun other writes => ?_, inner_of_ended now found active⟩
                obtain rfl := Option.some.inj (writes.found.symm.trans found)
                exact active writes.active

/-- Whatever a holder's update that ends a lease writes, its reason fits. -/
def UpdateFits (leaseId : Uuid) (status : LeaseStatus) (input : UpdateRemoteComputerLease)
    (store : RemoteComputerStore) : Prop :=
  status.isTerminal = true → ∀ existing, WritesLease leaseId status input existing store →
    reasonFits input existing = true

theorem moved_metadata (now : Timestamp) (status : LeaseStatus) (metadata : Option Json)
    (lease : RemoteComputerLease) :
    (lease.moved now status false metadata).metadata = metadata.getD lease.metadata := by
  cases metadata <;> rfl

/-- An update by the holder strands the computer exactly when it ends the lease and its
reason does not fit. -/
theorem update_effect (now : Timestamp) (leaseId : Uuid) (status : LeaseStatus)
    (input : UpdateRemoteComputerLease) :
    (UpdateFits leaseId status input store ∧
      LeaseEffect store (updateRemoteComputerLeaseStatus now leaseId status input store).2) ∨
    (¬UpdateFits leaseId status input store ∧
      Strands store (updateRemoteComputerLeaseStatus now leaseId status input store).2) := by
  rcases @update_cases store now leaseId status input with
    ⟨existing, writes, written⟩ | ⟨noWrite, same⟩
  · obtain rfl : existing.id = leaseId := (Table.find?_eq_some.mp writes.found).2
    rw [written]
    by_cases fits : input.reason.isNone ∨ (Json.assign "reason" .null
        (existing.moved now status false input.metadata).metadata).isSome
    · obtain ⟨lease, -, -, -, after, effect⟩ :=
        writeLeaseStatus_fits now false writes.found (.inl writes.active) fits
      rw [after]
      refine .inl ⟨fun _ other otherWrites => ?_, effect⟩
      obtain rfl := Option.some.inj (otherWrites.found.symm.trans writes.found)
      rw [moved_metadata] at fits
      simpa [reasonFits] using fits
    · rw [writeLeaseStatus_panics now false fits]
      cases ends : status.isTerminal with
      | true =>
          refine .inr ⟨fun allFit => fits ?_, ?_⟩
          · have fitting := allFit ends existing writes
            rw [moved_metadata]
            simpa [reasonFits] using fitting
          · exact ⟨existing, existing.moved now status false input.metadata, writes.found, rfl,
              ends, writes.active, rfl⟩
      | false =>
          refine .inl ⟨fun isTerminal => ?_, ?_⟩
          · rw [ends] at isTerminal
            cases isTerminal
          · refine .leaseTouched writes.found rfl ?_
            rw [writes.active]
            exact status_leased_of_not_terminal ends
  · rw [same]
    exact .inl ⟨fun _ existing writes => absurd writes (noWrite existing), .stayed⟩

theorem isObject_of_isMarked {key : String} {value : Json} (marked : value.isMarked key = true) :
    value.isObject = true := by
  cases value with
  | object fields => rfl
  | null => cases marked
  | bool value => cases marked
  | number value => cases marked
  | string value => cases marked
  | array items => cases marked

theorem isObject_merged {existing patch : Json} (isObject : patch.isObject = true) :
    (mergeRemoteComputerMetadata existing patch).isObject = true := by
  cases patch with
  | object fields => cases existing <;> rfl
  | null => cases isObject
  | bool value => cases isObject
  | number value => cases isObject
  | string value => cases isObject
  | array items => cases isObject

theorem isSome_assign_of_isObject {key : String} {new value : Json}
    (isObject : value.isObject = true) : (Json.assign key new value).isSome = true := by
  cases value with
  | object fields => rfl
  | null => rfl
  | bool value => cases isObject
  | number value => cases isObject
  | string value => cases isObject
  | array items => cases isObject

theorem isSome_assign_moved (now : Timestamp) (status : LeaseStatus) (merges : Bool)
    {metadata : Json} (marked : metadata.isMarked runtimeCleanupMarker = true)
    (lease : RemoteComputerLease) :
    (Json.assign "reason" .null
      (lease.moved now status merges (some metadata)).metadata).isSome = true := by
  apply isSome_assign_of_isObject
  have isObject := isObject_of_isMarked marked
  cases merges with
  | false => exact isObject
  | true => exact isObject_merged isObject

/-- A transition after a cleanup never panics. -/
theorem inner_transition_effect (now : Timestamp) (leaseId : Uuid) (status : LeaseStatus)
    {input : UpdateRemoteComputerLease} {metadata : Json} (given : input.metadata = some metadata)
    (marked : metadata.isMarked runtimeCleanupMarker = true) :
    LeaseEffect store
      (updateRemoteComputerLeaseStatusInner now leaseId status input true store).2 := by
  unfold updateRemoteComputerLeaseStatusInner
  split
  · exact .stayed
  · rename_i existing found
    obtain rfl : existing.id = leaseId := (Table.find?_eq_some.mp found).2
    dsimp only
    have written : ∀ merges, existing.status = .leased ∨ existing.status = status →
        LeaseEffect store (writeLeaseStatus now status merges input existing store).2 := by
      intro merges was
      obtain ⟨lease, -, -, -, after, effect⟩ := writeLeaseStatus_fits now merges found was
        (.inr (given ▸ isSome_assign_moved now status merges marked existing))
      rw [after]
      exact effect
    split
    · exact .stayed
    · split
      · exact .stayed
      · rename_i heartbeat
        split
        · exact .stayed
        · split
          · exact .stayed
          · rename_i transition
            apply written
            by_cases active : existing.status = .leased
            · exact .inl active
            · right
              by_contra different
              cases status with
              | leased => exact heartbeat ⟨rfl, active⟩
              | released => simp [LeaseStatus.isTerminal, active, different] at transition
              | failed => simp [LeaseStatus.isTerminal, active, different] at transition

theorem transition_effect (now : Timestamp) (leaseId : Uuid) (status : LeaseStatus)
    (input : UpdateRemoteComputerLease) :
    LeaseEffect store
      (transitionRemoteComputerLeaseAfterRuntimeCleanup now leaseId status input store).2 := by
  unfold transitionRemoteComputerLeaseAfterRuntimeCleanup
  split
  · exact .stayed
  · rename_i hasMarker
    cases given : input.metadata with
    | none =>
        rw [given] at hasMarker
        exact absurd rfl hasMarker
    | some metadata =>
        have marked : metadata.isMarked runtimeCleanupMarker = true := by
          rw [given] at hasMarker
          simpa using hasMarker
        have effect := @inner_transition_effect store now leaseId status input metadata given marked
        generalize updateRemoteComputerLeaseStatusInner now leaseId status input true store = ran
          at effect ⊢
        split
        · split
          · exact effect
          · exact effect
        · exact effect

/-! ### What the cleanup operations do -/

theorem claim_effect (host : Host) (now : Timestamp) (leaseId : Uuid)
    (reason assignmentStatus : String) (assignmentId : Option Uuid) :
    LeaseEffect store (claimRemoteComputerLeaseRuntimeCleanup host now leaseId reason
      assignmentStatus assignmentId store).2 := by
  unfold claimRemoteComputerLeaseRuntimeCleanup
  split
  · exact .stayed
  · rename_i lease found
    obtain rfl : lease.id = leaseId := (Table.find?_eq_some.mp found).2
    split
    · exact .stayed
    · exact .leaseTouched found rfl rfl

theorem schedule_effect (now : Timestamp) (leaseId : Uuid) (metadata : Json) :
    LeaseEffect store
      (scheduleRemoteComputerLeaseCleanupRetry now leaseId metadata store).2 := by
  unfold scheduleRemoteComputerLeaseCleanupRetry
  split
  · exact .stayed
  · rename_i lease found
    have stored := (Option.filter_eq_some_iff.mp found).1
    obtain rfl : lease.id = leaseId := (Table.find?_eq_some.mp stored).2
    exact .leaseTouched stored rfl rfl

end

/-! ### Computers and their leases -/

/-- The lease is active on the computer. -/
def ActiveOn (store : RemoteComputerStore) (computerId : Uuid) (lease : RemoteComputerLease) :
    Prop :=
  lease ∈ store.leases ∧ lease.remoteComputerId = computerId ∧ lease.status = .leased

/-- A computer has at most one active lease, and is `leased` exactly when it has one. -/
structure LeasesExclusive (store : RemoteComputerStore) : Prop where
  one : ∀ computerId first second, ActiveOn store computerId first →
    ActiveOn store computerId second → first = second
  status : ∀ computer ∈ store.computers,
    computer.status = .leased ↔ ∃ lease, ActiveOn store computer.id lease

/-- The computer of a lease is stored. -/
def LeasesHosted (store : RemoteComputerStore) : Prop :=
  ∀ lease ∈ store.leases, (store.computers.find? lease.remoteComputerId).isSome = true

section

variable {store after : RemoteComputerStore}

theorem not_activeOn_of_idle {computerId : Uuid} (idle : hasActiveLease computerId store = false)
    (lease : RemoteComputerLease) : ¬ActiveOn store computerId lease := by
  rintro ⟨member, onComputer, active⟩
  have isActive := hasActiveLease_iff.mpr ⟨lease, member, onComputer, active⟩
  rw [idle] at isActive
  cases isActive

theorem activeOn_insert {computers : Table RemoteComputer.id} {lease other : RemoteComputerLease}
    {computerId : Uuid} :
    ActiveOn ⟨computers, store.leases.insert lease⟩ computerId other ↔
      (other = lease ∧ lease.remoteComputerId = computerId ∧ lease.status = .leased) ∨
        (other.id ≠ lease.id ∧ ActiveOn store computerId other) := by
  unfold ActiveOn
  rw [Table.mem_insert_iff]
  constructor
  · rintro ⟨rfl | ⟨different, member⟩, onComputer, active⟩
    · exact .inl ⟨rfl, onComputer, active⟩
    · exact .inr ⟨different, member, onComputer, active⟩
  · rintro (⟨rfl, onComputer, active⟩ | ⟨different, member, onComputer, active⟩)
    · exact ⟨.inl rfl, onComputer, active⟩
    · exact ⟨.inr ⟨different, member⟩, onComputer, active⟩

theorem eq_of_activeOn {computerId : Uuid} {old other : RemoteComputerLease} {leaseId : Uuid}
    (found : store.leases.find? leaseId = some old) (active : ActiveOn store computerId other)
    (sameId : other.id = leaseId) : other = old := by
  have stored := Table.find?_key active.1
  rw [sameId, found] at stored
  exact (Option.some.inj stored).symm

/-- The active leases after a lease was written that keeps its computer and its status. -/
theorem activeOn_touched {computers : Table RemoteComputer.id} {old lease : RemoteComputerLease}
    {computerId : Uuid} (found : store.leases.find? lease.id = some old)
    (sameComputer : lease.remoteComputerId = old.remoteComputerId)
    (sameStatus : lease.status = old.status) :
    (∃ other, ActiveOn ⟨computers, store.leases.insert lease⟩ computerId other) ↔
      ∃ other, ActiveOn store computerId other := by
  simp only [activeOn_insert]
  constructor
  · rintro ⟨other, ⟨-, onComputer, active⟩ | ⟨-, isActive⟩⟩
    · refine ⟨old, (Table.find?_eq_some.mp found).1, ?_, ?_⟩
      · rw [← sameComputer, onComputer]
      · rw [← sameStatus, active]
    · exact ⟨other, isActive⟩
  · rintro ⟨other, isActive⟩
    by_cases sameId : other.id = lease.id
    · obtain rfl := eq_of_activeOn found isActive sameId
      refine ⟨lease, .inl ⟨rfl, ?_, ?_⟩⟩
      · rw [sameComputer, isActive.2.1]
      · rw [sameStatus, isActive.2.2]
    · exact ⟨other, .inr ⟨sameId, isActive⟩⟩

theorem LeasesExclusive.of_computers {computers : Table RemoteComputer.id}
    (exclusive : LeasesExclusive store)
    (agree : ∀ computer ∈ computers,
      computer.status = .leased ↔ ∃ lease, ActiveOn store computer.id lease) :
    LeasesExclusive { store with computers } where
  one := exclusive.one
  status := agree

theorem ne_leased_of_isTerminal {status : LeaseStatus} (ends : status.isTerminal = true) :
    status ≠ .leased := by
  rintro rfl
  cases ends

theorem activeOn_ended {computers : Table RemoteComputer.id} {lease other : RemoteComputerLease}
    {computerId : Uuid} (ends : lease.status.isTerminal = true) :
    ActiveOn ⟨computers, store.leases.insert lease⟩ computerId other ↔
      other.id ≠ lease.id ∧ ActiveOn store computerId other := by
  rw [activeOn_insert]
  constructor
  · rintro (⟨-, -, active⟩ | isOther)
    · exact absurd active (ne_leased_of_isTerminal ends)
    · exact isOther
  · exact .inr

/-- An ended lease frees its computer unless another one is active on it. -/
theorem storeUpdatedLease_ended {lease : RemoteComputerLease}
    (ends : lease.status.isTerminal = true) :
    ((∃ other, other.id ≠ lease.id ∧ ActiveOn store lease.remoteComputerId other) ∧
      storeUpdatedLease lease store = { store with leases := store.leases.insert lease }) ∨
    ((∀ other, other.id ≠ lease.id → ¬ActiveOn store lease.remoteComputerId other) ∧
      storeUpdatedLease lease store =
        { leases := store.leases.insert lease
          computers := store.computers.modify lease.remoteComputerId
            (RemoteComputer.withStatus lease.status.leavesComputer)
            (RemoteComputer.withStatus_id lease.status.leavesComputer) }) := by
  unfold storeUpdatedLease
  dsimp only
  split
  · rename_i free
    refine .inr ⟨fun other different active => ?_, rfl⟩
    simp only [ends, Bool.and_true, Bool.not_eq_true', List.any_eq_false] at free
    apply free other (Table.mem_insert_iff.mpr (.inr ⟨different, active.1⟩))
    simp [different, active.2.1, active.2.2]
  · rename_i occupied
    simp only [ends, Bool.and_true, Bool.not_eq_true', Bool.not_eq_false] at occupied
    obtain ⟨other, member, passes⟩ := List.any_eq_true.mp occupied
    simp only [Bool.and_eq_true, decide_eq_true_eq] at passes
    rcases Table.mem_insert_iff.mp member with rfl | ⟨different, old⟩
    · exact absurd rfl passes.1.1
    · exact .inl ⟨⟨other, different, old, passes.1.2, passes.2⟩, rfl⟩

theorem leavesComputer_ne_leased (status : LeaseStatus) :
    status.leavesComputer ≠ .leased := by
  cases status <;> exact nofun

theorem one_of_ended {computers : Table RemoteComputer.id} {lease : RemoteComputerLease}
    (exclusive : LeasesExclusive store) (ends : lease.status.isTerminal = true) (computerId : Uuid)
    (first second : RemoteComputerLease)
    (isFirst : ActiveOn ⟨computers, store.leases.insert lease⟩ computerId first)
    (isSecond : ActiveOn ⟨computers, store.leases.insert lease⟩ computerId second) :
    first = second :=
  exclusive.one computerId first second ((activeOn_ended ends).mp isFirst).2
    ((activeOn_ended ends).mp isSecond).2

/-- A computer without the ended lease has the active leases it had. -/
theorem activeOn_ended_elsewhere {computers : Table RemoteComputer.id}
    {old lease : RemoteComputerLease} {computerId : Uuid}
    (found : store.leases.find? lease.id = some old)
    (sameComputer : lease.remoteComputerId = old.remoteComputerId)
    (ends : lease.status.isTerminal = true) (elsewhere : computerId ≠ lease.remoteComputerId) :
    (∃ other, ActiveOn ⟨computers, store.leases.insert lease⟩ computerId other) ↔
      ∃ other, ActiveOn store computerId other := by
  simp only [activeOn_ended ends]
  constructor
  · rintro ⟨other, -, active⟩
    exact ⟨other, active⟩
  · rintro ⟨other, active⟩
    refine ⟨other, fun sameId => ?_, active⟩
    obtain rfl := eq_of_activeOn found active sameId
    exact elsewhere (active.2.1.symm.trans sameComputer.symm)

theorem exclusive_of_ended {old lease : RemoteComputerLease}
    (found : store.leases.find? lease.id = some old)
    (sameComputer : lease.remoteComputerId = old.remoteComputerId)
    (ends : lease.status.isTerminal = true) (exclusive : LeasesExclusive store) :
    LeasesExclusive (storeUpdatedLease lease store) := by
  rcases storeUpdatedLease_ended ends with ⟨⟨other, different, active⟩, after⟩ | ⟨free, after⟩
  · rw [after]
    refine ⟨one_of_ended exclusive ends, fun computer member => ?_⟩
    rw [exclusive.status computer member]
    by_cases onComputer : computer.id = lease.remoteComputerId
    · rw [onComputer]
      exact ⟨fun _ => ⟨other, (activeOn_ended ends).mpr ⟨different, active⟩⟩,
        fun _ => ⟨other, active⟩⟩
    · exact (activeOn_ended_elsewhere found sameComputer ends onComputer).symm
  · rw [after]
    refine ⟨one_of_ended exclusive ends, fun computer member => ?_⟩
    dsimp only at member
    obtain ⟨before, isBefore, rfl⟩ := Table.mem_modify.mp member
    split
    · rename_i onComputer
      rw [RemoteComputer.withStatus_id, onComputer]
      constructor
      · exact fun isLeased => absurd isLeased (leavesComputer_ne_leased lease.status)
      · rintro ⟨other, active⟩
        obtain ⟨different, active⟩ := (activeOn_ended ends).mp active
        exact absurd active (free other different)
    · rename_i elsewhere
      rw [exclusive.status before isBefore]
      exact (activeOn_ended_elsewhere found sameComputer ends elsewhere).symm

/-- A stranded computer is `leased` without an active lease. -/
theorem not_exclusive_of_strands (hosted : LeasesHosted store) (exclusive : LeasesExclusive store)
    (strands : Strands store after) : ¬LeasesExclusive after := by
  obtain ⟨old, lease, found, sameComputer, ends, was, rfl⟩ := strands
  intro still
  obtain ⟨oldMember, oldId⟩ := Table.find?_eq_some.mp found
  have oldActive : ActiveOn store old.remoteComputerId old := ⟨oldMember, rfl, was⟩
  obtain ⟨computer, isComputer⟩ := Option.isSome_iff_exists.mp (hosted old oldMember)
  obtain ⟨member, sameId⟩ := Table.find?_eq_some.mp isComputer
  have isLeased : computer.status = .leased := by
    rw [exclusive.status computer member, sameId]
    exact ⟨old, oldActive⟩
  obtain ⟨other, active⟩ := (still.status computer member).mp isLeased
  obtain ⟨different, active⟩ := (activeOn_ended ends).mp active
  rw [sameId] at active
  have same := exclusive.one _ other old active oldActive
  exact different (same ▸ oldId)

theorem exclusive_of_effect (effect : LeaseEffect store after) (hosted : LeasesHosted store)
    (exclusive : LeasesExclusive store) : LeasesExclusive after := by
  cases effect with
  | stayed => exact exclusive
  | @computerCreated computer fresh notLeased =>
      apply exclusive.of_computers
      intro other member
      rcases Table.mem_insert_iff.mp member with rfl | ⟨-, old⟩
      · refine ⟨fun isLeased => absurd isLeased notLeased, ?_⟩
        rintro ⟨lease, isMember, onComputer, -⟩
        have isHosted := hosted lease isMember
        rw [onComputer, fresh] at isHosted
        cases isHosted
      · exact exclusive.status other old
  | computerRemoved unleased =>
      apply exclusive.of_computers
      intro other member
      exact exclusive.status other (Table.mem_remove.mp member).1
  | @computerSet old computer found idle notLeased =>
      apply exclusive.of_computers
      intro other member
      rcases Table.mem_insert_iff.mp member with rfl | ⟨-, old⟩
      · refine ⟨fun isLeased => absurd isLeased notLeased, ?_⟩
        rintro ⟨lease, active⟩
        exact absurd active (not_activeOn_of_idle idle lease)
      · exact exclusive.status other old
  | @leaseCreated lease computer fresh found idle isLeased =>
      have isNew : ∀ computerId other, ActiveOn store computerId other → other.id ≠ lease.id :=
        fun _ other active same => Table.find?_eq_none.mp fresh other active.1 same
      obtain ⟨-, sameId⟩ := Table.find?_eq_some.mp found
      constructor
      case one =>
        intro computerId first second isFirst isSecond
        rcases activeOn_insert.mp isFirst with ⟨rfl, firstOn, -⟩ | ⟨-, firstOld⟩
        · rcases activeOn_insert.mp isSecond with ⟨rfl, -, -⟩ | ⟨-, secondOld⟩
          · rfl
          · exact absurd (firstOn ▸ secondOld) (not_activeOn_of_idle idle second)
        · rcases activeOn_insert.mp isSecond with ⟨rfl, secondOn, -⟩ | ⟨-, secondOld⟩
          · exact absurd (secondOn ▸ firstOld) (not_activeOn_of_idle idle first)
          · exact exclusive.one computerId first second firstOld secondOld
      case status =>
        intro other member
        simp only [activeOn_insert]
        rcases Table.mem_insert_iff.mp member with rfl | ⟨different, old⟩
        · exact ⟨fun _ => ⟨lease, .inl ⟨rfl, sameId.symm, isLeased⟩⟩, fun _ => rfl⟩
        · rw [exclusive.status other old]
          constructor
          · rintro ⟨known, active⟩
            exact ⟨known, .inr ⟨isNew _ known active, active⟩⟩
          · rintro ⟨known, ⟨-, onComputer, -⟩ | ⟨-, active⟩⟩
            · exact absurd (onComputer.symm.trans sameId.symm) different
            · exact ⟨known, active⟩
  | @leaseTouched old lease found sameComputer sameStatus =>
      constructor
      case one =>
        intro computerId first second isFirst isSecond
        have isOld : lease.remoteComputerId = computerId ∧ lease.status = .leased →
            ActiveOn store computerId old := by
          rintro ⟨onComputer, active⟩
          exact ⟨(Table.find?_eq_some.mp found).1, sameComputer ▸ onComputer, sameStatus ▸ active⟩
        have oldId := (Table.find?_eq_some.mp found).2
        rcases activeOn_insert.mp isFirst with ⟨rfl, firstOn⟩ | ⟨firstOther, firstOld⟩
        · rcases activeOn_insert.mp isSecond with ⟨rfl, -⟩ | ⟨secondOther, secondOld⟩
          · rfl
          · have same := exclusive.one computerId second old secondOld (isOld firstOn)
            exact absurd (same ▸ oldId) secondOther
        · rcases activeOn_insert.mp isSecond with ⟨rfl, secondOn⟩ | ⟨-, secondOld⟩
          · have same := exclusive.one computerId first old firstOld (isOld secondOn)
            exact absurd (same ▸ oldId) firstOther
          · exact exclusive.one computerId first second firstOld secondOld
      case status =>
        intro computer member
        rw [exclusive.status computer member]
        exact (activeOn_touched found sameComputer sameStatus).symm
  | leaseEnded found sameComputer ends was =>
      exact exclusive_of_ended found sameComputer ends exclusive

theorem hosted_of_insert {lease : RemoteComputerLease} (hosted : LeasesHosted store)
    (isHosted : (after.computers.find? lease.remoteComputerId).isSome = true)
    (leases : after.leases = store.leases.insert lease)
    (computers : ∀ computerId, (store.computers.find? computerId).isSome = true →
      (after.computers.find? computerId).isSome = true) : LeasesHosted after := by
  intro other member
  rw [leases] at member
  rcases Table.mem_insert_iff.mp member with rfl | ⟨-, old⟩
  · exact isHosted
  · exact computers _ (hosted other old)

theorem isSome_find?_insert {computers : Table RemoteComputer.id} {computer : RemoteComputer}
    {computerId : Uuid} (stored : (computers.find? computerId).isSome = true) :
    ((computers.insert computer).find? computerId).isSome = true := by
  by_cases same : computerId = computer.id
  · rw [same, Table.find?_insert_same]
    rfl
  · rw [Table.find?_insert_of_ne same]
    exact stored

theorem isSome_find?_modify {computers : Table RemoteComputer.id} {computerId wanted : Uuid}
    {status : RemoteComputerStatus} (stored : (computers.find? computerId).isSome = true) :
    ((computers.modify wanted (RemoteComputer.withStatus status)
      (RemoteComputer.withStatus_id status)).find? computerId).isSome = true := by
  by_cases same : computerId = wanted
  · rw [same] at stored ⊢
    rw [Table.find?_modify_same, Option.isSome_map]
    exact stored
  · rw [Table.find?_modify_ne same]
    exact stored

theorem hosted_of_effect (effect : LeaseEffect store after) (hosted : LeasesHosted store) :
    LeasesHosted after := by
  cases effect with
  | stayed => exact hosted
  | computerCreated fresh notLeased =>
      exact fun lease member => isSome_find?_insert (hosted lease member)
  | computerRemoved unleased =>
      intro lease member
      dsimp only
      rw [Table.find?_remove_ne (unleased lease member)]
      exact hosted lease member
  | computerSet found idle notLeased =>
      exact fun lease member => isSome_find?_insert (hosted lease member)
  | @leaseCreated lease computer fresh found idle isLeased =>
      apply hosted_of_insert hosted _ rfl
      · exact fun _ stored => isSome_find?_insert stored
      · exact isSome_find?_insert (found ▸ rfl)
  | @leaseTouched old lease found sameComputer sameStatus =>
      have isHosted := sameComputer ▸ hosted old (Table.find?_eq_some.mp found).1
      exact hosted_of_insert hosted isHosted rfl fun _ stored => stored
  | @leaseEnded old lease found sameComputer ends was =>
      have isHosted := sameComputer ▸ hosted old (Table.find?_eq_some.mp found).1
      rcases storeUpdatedLease_ended ends with ⟨-, same⟩ | ⟨-, same⟩
      · rw [same]
        exact hosted_of_insert hosted isHosted rfl fun _ stored => stored
      · rw [same]
        apply hosted_of_insert hosted _ rfl
        · exact fun _ stored => isSome_find?_modify stored
        · exact isSome_find?_modify isHosted

/-- A lease that has ended keeps its status. -/
def EndedStay (before after : RemoteComputerStore) : Prop :=
  ∀ leaseId lease, before.leases.find? leaseId = some lease → lease.status.isTerminal = true →
    ∃ later, after.leases.find? leaseId = some later ∧ later.status = lease.status

theorem EndedStay.refl (store : RemoteComputerStore) : EndedStay store store :=
  fun _ lease found _ => ⟨lease, found, rfl⟩

theorem EndedStay.trans {first second third : RemoteComputerStore}
    (front : EndedStay first second) (rest : EndedStay second third) : EndedStay first third := by
  intro leaseId lease found ended
  obtain ⟨later, isLater, sameStatus⟩ := front leaseId lease found ended
  obtain ⟨last, isLast, lastStatus⟩ := rest leaseId later isLater (sameStatus ▸ ended)
  exact ⟨last, isLast, lastStatus.trans sameStatus⟩

theorem endedStay_insert {old lease : RemoteComputerLease}
    (found : store.leases.find? lease.id = some old)
    (was : old.status = .leased ∨ old.status = lease.status)
    (leases : after.leases = store.leases.insert lease) : EndedStay store after := by
  intro leaseId other isOther ended
  rw [leases]
  by_cases same : leaseId = lease.id
  · rw [same] at isOther ⊢
    rw [found] at isOther
    obtain rfl := Option.some.inj isOther
    have notLeased : old.status ≠ .leased := ne_leased_of_isTerminal ended
    exact ⟨lease, Table.find?_insert_same, (was.resolve_left notLeased).symm⟩
  · rw [Table.find?_insert_of_ne same]
    exact ⟨other, isOther, rfl⟩

theorem endedStay_of_effect (effect : LeaseEffect store after) : EndedStay store after := by
  cases effect with
  | stayed | computerCreated _ _ | computerRemoved _ | computerSet _ _ _ => exact .refl store
  | @leaseCreated lease computer fresh found idle isLeased =>
      intro leaseId other isOther _
      have different : leaseId ≠ lease.id := by
        rintro rfl
        rw [fresh] at isOther
        cases isOther
      exact ⟨other, (Table.find?_insert_of_ne different).trans isOther, rfl⟩
  | @leaseTouched old lease found sameComputer sameStatus =>
      exact endedStay_insert found (.inr sameStatus.symm) rfl
  | @leaseEnded old lease found sameComputer ends was =>
      rcases storeUpdatedLease_ended ends with ⟨-, same⟩ | ⟨-, same⟩
      · rw [same]
        exact endedStay_insert found was rfl
      · rw [same]
        exact endedStay_insert found was rfl

theorem endedStay_of_strands (strands : Strands store after) : EndedStay store after := by
  obtain ⟨old, lease, found, -, -, was, rfl⟩ := strands
  exact endedStay_insert found (.inl was) rfl

theorem hosted_of_strands (strands : Strands store after) (hosted : LeasesHosted store) :
    LeasesHosted after := by
  obtain ⟨old, lease, found, sameComputer, -, -, rfl⟩ := strands
  have isHosted := sameComputer ▸ hosted old (Table.find?_eq_some.mp found).1
  exact hosted_of_insert hosted isHosted rfl fun _ stored => stored

end

/-! ### Runs -/

/-- A call, with the time it reads and the identifier it draws. -/
inductive LeaseEvent where
  | createComputer (drawnId : Uuid) (input : CreateRemoteComputer)
  | deleteComputerIfUnleased (computerId : Uuid)
  | rebindOnDemand (computerId : Uuid) (identity : RemoteComputerRuntimeIdentity) (metadata : Json)
  | markAttentionIfUnleased (computerId : Uuid) (reason : String)
  | createLease (now : Timestamp) (drawnId computerId : Uuid) (input : CreateRemoteComputerLease)
  | updateLeaseStatus (now : Timestamp) (leaseId : Uuid) (status : LeaseStatus)
      (input : UpdateRemoteComputerLease)
  | claimRuntimeCleanup (now : Timestamp) (leaseId : Uuid) (reason assignmentStatus : String)
      (assignmentId : Option Uuid)
  /-- The retry is scheduled with metadata derived from a lease that a claim returned. -/
  | scheduleCleanupRetry (now : Timestamp) (claimed : RemoteComputerLease) (reason : String)
      (evidence : Json) (assignmentStatus : String) (assignmentId : Option Uuid)
  | transitionAfterCleanup (now : Timestamp) (leaseId : Uuid) (status : LeaseStatus)
      (input : UpdateRemoteComputerLease)
deriving DecidableEq

/-- The store, with a record of the cleanups. -/
structure LeaseWorld where
  store : RemoteComputerStore
  /-- A ghost record: the leases that claims returned. -/
  claimed : List RemoteComputerLease
  /-- A ghost record: the leases whose cleanup is claimed or scheduled for retry. -/
  pending : List Uuid

namespace LeaseWorld

def start : LeaseWorld := ⟨⟨Table.empty, Table.empty⟩, [], []⟩

variable (host : Host)

def claimCleanup (now : Timestamp) (leaseId : Uuid) (reason assignmentStatus : String)
    (assignmentId : Option Uuid) (world : LeaseWorld) : LeaseWorld :=
  match claimRemoteComputerLeaseRuntimeCleanup host now leaseId reason assignmentStatus assignmentId
      world.store with
  | (.ok (some lease), store) =>
      { store, claimed := lease :: world.claimed, pending := leaseId :: world.pending }
  | (_, store) => { world with store }

def scheduleRetry (now : Timestamp) (claimed : RemoteComputerLease) (reason : String)
    (evidence : Json) (assignmentStatus : String) (assignmentId : Option Uuid)
    (world : LeaseWorld) : LeaseWorld :=
  match cleanupRetryMetadata host now claimed reason evidence assignmentStatus assignmentId with
  | .error _ => world
  | .ok metadata =>
      match scheduleRemoteComputerLeaseCleanupRetry now claimed.id metadata world.store with
      | (.ok _, store) => { world with store, pending := claimed.id :: world.pending }
      | (.error _, store) => { world with store }

/-- A transition that writes the lease ends the cleanup. -/
def transition (now : Timestamp) (leaseId : Uuid) (status : LeaseStatus)
    (input : UpdateRemoteComputerLease) (world : LeaseWorld) : LeaseWorld :=
  let store :=
    (transitionRemoteComputerLeaseAfterRuntimeCleanup now leaseId status input world.store).2
  if store = world.store then world
  else { world with store, pending := world.pending.filter fun id => decide (id ≠ leaseId) }

/-- An event that cannot happen changes nothing. -/
def perform (event : LeaseEvent) (world : LeaseWorld) : LeaseWorld :=
  match event with
  | .createComputer drawnId input =>
      { world with store := (createRemoteComputer drawnId input world.store).2 }
  | .deleteComputerIfUnleased computerId =>
      { world with store := (deleteRemoteComputerIfUnleased computerId world.store).2 }
  | .rebindOnDemand computerId identity metadata =>
      { world with
        store := (rebindOnDemandRemoteComputer computerId identity metadata world.store).2 }
  | .markAttentionIfUnleased computerId reason =>
      { world with
        store := (markRemoteComputerAttentionIfUnleased computerId reason world.store).2 }
  | .createLease now drawnId computerId input =>
      if (world.store.leases.find? drawnId).isSome then world
      else
        { world with
          store := (createRemoteComputerLease now drawnId computerId input world.store).2 }
  | .updateLeaseStatus now leaseId status input =>
      { world with
        store := (updateRemoteComputerLeaseStatus now leaseId status input world.store).2 }
  | .claimRuntimeCleanup now leaseId reason assignmentStatus assignmentId =>
      world.claimCleanup host now leaseId reason assignmentStatus assignmentId
  | .scheduleCleanupRetry now claimed reason evidence assignmentStatus assignmentId =>
      if claimed ∈ world.claimed then
        world.scheduleRetry host now claimed reason evidence assignmentStatus assignmentId
      else world
  | .transitionAfterCleanup now leaseId status input => world.transition now leaseId status input

end LeaseWorld

/-- An update that ends an active lease of which no cleanup is pending carries no reason,
or has metadata to write it into. -/
def ReasonFits (event : LeaseEvent) (world : LeaseWorld) : Prop :=
  match event with
  | .updateLeaseStatus _ leaseId status input => UpdateFits leaseId status input world.store
  | _ => True

section

variable {host : Host} {world : LeaseWorld}

theorem leaseEvent_effect (event : LeaseEvent) :
    (ReasonFits event world ∧ LeaseEffect world.store (world.perform host event).store) ∨
      (¬ReasonFits event world ∧ Strands world.store (world.perform host event).store) := by
  cases event with
  | createComputer drawnId input =>
      exact .inl ⟨trivial, createRemoteComputer_effect drawnId input⟩
  | deleteComputerIfUnleased computerId =>
      exact .inl ⟨trivial, deleteRemoteComputerIfUnleased_effect computerId⟩
  | rebindOnDemand computerId identity metadata =>
      exact .inl ⟨trivial, rebindOnDemandRemoteComputer_effect computerId identity metadata⟩
  | markAttentionIfUnleased computerId reason =>
      exact .inl ⟨trivial, markRemoteComputerAttentionIfUnleased_effect computerId reason⟩
  | createLease now drawnId computerId input =>
      refine .inl ⟨trivial, ?_⟩
      unfold LeaseWorld.perform
      dsimp only
      split
      · exact .stayed
      · rename_i fresh
        exact createRemoteComputerLease_effect now computerId input (by simpa using fresh)
  | updateLeaseStatus now leaseId status input => exact update_effect now leaseId status input
  | claimRuntimeCleanup now leaseId reason assignmentStatus assignmentId =>
      refine .inl ⟨trivial, ?_⟩
      have effect := @claim_effect world.store host now leaseId reason assignmentStatus assignmentId
      change LeaseEffect world.store (world.claimCleanup host now leaseId reason assignmentStatus
        assignmentId).store
      unfold LeaseWorld.claimCleanup
      generalize claimRemoteComputerLeaseRuntimeCleanup host now leaseId reason assignmentStatus
        assignmentId world.store = ran at effect ⊢
      split
      · exact effect
      · exact effect
  | scheduleCleanupRetry now claimed reason evidence assignmentStatus assignmentId =>
      refine .inl ⟨trivial, ?_⟩
      unfold LeaseWorld.perform LeaseWorld.scheduleRetry
      dsimp only
      split
      · split
        · exact .stayed
        · rename_i metadata _
          have effect := @schedule_effect world.store now claimed.id metadata
          generalize scheduleRemoteComputerLeaseCleanupRetry now claimed.id metadata world.store =
            ran at effect ⊢
          split
          · exact effect
          · exact effect
      · exact .stayed
  | transitionAfterCleanup now leaseId status input =>
      refine .inl ⟨trivial, ?_⟩
      have effect := @transition_effect world.store now leaseId status input
      unfold LeaseWorld.perform LeaseWorld.transition
      dsimp only
      split
      · exact .stayed
      · exact effect

/-! ### Pending cleanups -/

/-- A lease whose cleanup is pending is stored with the marker of a retry. -/
def PendingMarked (world : LeaseWorld) : Prop :=
  ∀ leaseId ∈ world.pending, ∃ lease, world.store.leases.find? leaseId = some lease ∧
    lease.metadata.isMarked runtimeCleanupRetryMarker = true

theorem PendingMarked.of_scheduled {claimed : List RemoteComputerLease}
    {lease : RemoteComputerLease} (marked : PendingMarked world)
    (isMarked : lease.metadata.isMarked runtimeCleanupRetryMarker = true) :
    PendingMarked {
      store := { world.store with leases := world.store.leases.insert lease }
      claimed
      pending := lease.id :: world.pending } := by
  intro leaseId isPending
  dsimp only at isPending ⊢
  by_cases same : leaseId = lease.id
  · rw [same]
    exact ⟨lease, Table.find?_insert_same, isMarked⟩
  · rw [Table.find?_insert_of_ne same]
    exact marked leaseId ((List.mem_cons.mp isPending).resolve_left same)

theorem writeLeaseStatus_others {store : RemoteComputerStore} (now : Timestamp)
    (status : LeaseStatus) (merges : Bool) (input : UpdateRemoteComputerLease)
    (existing : RemoteComputerLease) {other : Uuid} (different : other ≠ existing.id) :
    (writeLeaseStatus now status merges input existing store).2.leases.find? other =
      store.leases.find? other := by
  have written : ∀ lease : RemoteComputerLease, lease.id = existing.id →
      (storeUpdatedLease lease store).leases.find? other = store.leases.find? other := by
    intro lease sameId
    have leases : (storeUpdatedLease lease store).leases = store.leases.insert lease := by
      unfold storeUpdatedLease
      dsimp only
      split <;> rfl
    rw [leases, Table.find?_insert_of_ne (sameId ▸ different)]
  unfold writeLeaseStatus
  dsimp only
  split
  · exact written _ rfl
  · split
    · exact Table.find?_insert_of_ne different
    · exact written _ rfl

theorem inner_others {store : RemoteComputerStore} (now : Timestamp) (leaseId : Uuid)
    (status : LeaseStatus) (input : UpdateRemoteComputerLease) (persists : Bool) {other : Uuid}
    (different : other ≠ leaseId) :
    (updateRemoteComputerLeaseStatusInner now leaseId status input persists store).2.leases.find?
      other = store.leases.find? other := by
  unfold updateRemoteComputerLeaseStatusInner
  split
  · rfl
  · rename_i existing found
    obtain rfl : existing.id = leaseId := (Table.find?_eq_some.mp found).2
    dsimp only
    split
    · rfl
    · split
      · rfl
      · split
        · rfl
        · split
          · rfl
          · exact writeLeaseStatus_others now status _ input existing different

theorem transition_others {store : RemoteComputerStore} (now : Timestamp) (leaseId : Uuid)
    (status : LeaseStatus) (input : UpdateRemoteComputerLease) {other : Uuid}
    (different : other ≠ leaseId) :
    (transitionRemoteComputerLeaseAfterRuntimeCleanup now leaseId status input
      store).2.leases.find? other = store.leases.find? other := by
  unfold transitionRemoteComputerLeaseAfterRuntimeCleanup
  split
  · rfl
  · have others := @inner_others store now leaseId status input true other different
    generalize updateRemoteComputerLeaseStatusInner now leaseId status input true store = ran
      at others ⊢
    split
    · split
      · exact others
      · exact others
    · exact others

theorem update_of_marked {store : RemoteComputerStore} (now : Timestamp) {leaseId : Uuid}
    (status : LeaseStatus) (input : UpdateRemoteComputerLease) {existing : RemoteComputerLease}
    (found : store.leases.find? leaseId = some existing)
    (marked : existing.metadata.isMarked runtimeCleanupRetryMarker = true) :
    ∃ error, updateRemoteComputerLeaseStatus now leaseId status input store =
      (.returned (.error error), store) := by
  unfold updateRemoteComputerLeaseStatus
  split
  · exact ⟨_, rfl⟩
  · exact ⟨_, inner_of_pending now found marked⟩

theorem update_others {store : RemoteComputerStore} (now : Timestamp) (leaseId : Uuid)
    (status : LeaseStatus) (input : UpdateRemoteComputerLease) {other : Uuid}
    (different : other ≠ leaseId) :
    (updateRemoteComputerLeaseStatus now leaseId status input store).2.leases.find? other =
      store.leases.find? other := by
  unfold updateRemoteComputerLeaseStatus
  split
  · rfl
  · exact inner_others now leaseId status input false different

theorem isMarked_withField {key : String} {value : Json} (isObject : value.isObject = true) :
    (value.withField key (.bool true)).isMarked key = true := by
  cases value with
  | object fields =>
      simp only [Json.withField, Json.isMarked, Json.get, Json.getField_insertField]
      rfl
  | null => cases isObject
  | bool value => cases isObject
  | number value => cases isObject
  | string value => cases isObject
  | array items => cases isObject

theorem isMarked_withOtherField {key other : String} {new value : Json} (different : other ≠ key)
    (marked : value.isMarked key = true) : (value.withField other new).isMarked key = true := by
  cases value with
  | object fields =>
      simp only [Json.withField, Json.isMarked, Json.get, Json.getField_insertField,
        if_neg different]
      exact marked
  | null => cases marked
  | bool value => cases marked
  | number value => cases marked
  | string value => cases marked
  | array items => cases marked

theorem getField_filter_ne {key other : String} (different : other ≠ key)
    (fields : List (String × Json)) :
    Json.getField key (fields.filter fun field => decide (field.1 ≠ other)) =
      Json.getField key fields := by
  induction fields with
  | nil => rfl
  | cons field rest inductionHypothesis =>
      obtain ⟨name, value⟩ := field
      by_cases isOther : name = other
      · rw [List.filter_cons_of_neg (by simpa using isOther), inductionHypothesis, Json.getField,
          if_neg (isOther ▸ different)]
      · rw [List.filter_cons_of_pos (by simpa using isOther), Json.getField, Json.getField,
          inductionHypothesis]

theorem isMarked_withoutField {key other : String} {value : Json} (different : other ≠ key)
    (marked : value.isMarked key = true) : (value.withoutField other).isMarked key = true := by
  cases value with
  | object fields =>
      simp only [Json.withoutField, Json.isMarked, Json.get, getField_filter_ne different]
      exact marked
  | null => cases marked
  | bool value => cases marked
  | number value => cases marked
  | string value => cases marked
  | array items => cases marked

theorem cleanupClaimMetadata_marked (existing : Json) (reason assignmentStatus : String)
    (assignmentId : Option Uuid) (claimUntil : Timestamp) :
    (cleanupClaimMetadata host existing reason assignmentStatus assignmentId claimUntil).isMarked
      runtimeCleanupRetryMarker = true := by
  unfold cleanupClaimMetadata
  apply isMarked_withOtherField (by decide)
  apply isMarked_withField
  exact isObject_merged rfl

theorem cleanupRetryMetadata_marked {now : Timestamp} {claimed : RemoteComputerLease}
    {reason : String} {evidence : Json} {assignmentStatus : String} {assignmentId : Option Uuid}
    {metadata : Json}
    (derived : cleanupRetryMetadata host now claimed reason evidence assignmentStatus assignmentId =
      .ok metadata) : metadata.isMarked runtimeCleanupRetryMarker = true := by
  unfold cleanupRetryMetadata at derived
  dsimp only at derived
  split at derived
  · cases derived
  · rw [← Except.ok.inj derived]
    apply isMarked_withoutField (by decide)
    apply isMarked_withOtherField (by decide)
    apply isMarked_withField
    rfl

theorem createRemoteComputer_leases {store : RemoteComputerStore} (drawnId : Uuid)
    (input : CreateRemoteComputer) :
    (createRemoteComputer drawnId input store).2.leases = store.leases := by
  unfold createRemoteComputer
  dsimp only
  split
  · rfl
  · split <;> rfl

theorem deleteRemoteComputerIfUnleased_leases {store : RemoteComputerStore} (computerId : Uuid) :
    (deleteRemoteComputerIfUnleased computerId store).2.leases = store.leases := by
  unfold deleteRemoteComputerIfUnleased
  split <;> rfl

theorem rebindOnDemandRemoteComputer_leases {store : RemoteComputerStore} (computerId : Uuid)
    (identity : RemoteComputerRuntimeIdentity) (metadata : Json) :
    (rebindOnDemandRemoteComputer computerId identity metadata store).2.leases = store.leases := by
  unfold rebindOnDemandRemoteComputer
  split
  · rfl
  · split
    · rfl
    · split <;> rfl

theorem markRemoteComputerAttentionIfUnleased_leases {store : RemoteComputerStore}
    (computerId : Uuid) (reason : String) :
    (markRemoteComputerAttentionIfUnleased computerId reason store).2.leases = store.leases := by
  unfold markRemoteComputerAttentionIfUnleased
  split
  · rfl
  · split
    · rfl
    · dsimp only
      split <;> rfl

theorem createRemoteComputerLease_others {store : RemoteComputerStore} (now : Timestamp)
    {drawnId : Uuid} (computerId : Uuid) (input : CreateRemoteComputerLease) {other : Uuid}
    (different : other ≠ drawnId) :
    (createRemoteComputerLease now drawnId computerId input store).2.leases.find? other =
      store.leases.find? other := by
  unfold createRemoteComputerLease
  split
  · rfl
  · dsimp only
    split
    · rfl
    · split
      · rfl
      · split
        · rfl
        · split
          · rfl
          · exact Table.find?_insert_of_ne different

theorem PendingMarked.of_store {store : RemoteComputerStore} (marked : PendingMarked world)
    (kept : ∀ leaseId ∈ world.pending,
      store.leases.find? leaseId = world.store.leases.find? leaseId) :
    PendingMarked { world with store } := by
  intro leaseId isPending
  obtain ⟨lease, found, isMarked⟩ := marked leaseId isPending
  exact ⟨lease, (kept leaseId isPending).trans found, isMarked⟩

theorem pendingMarked_claim (now : Timestamp) (leaseId : Uuid) (reason assignmentStatus : String)
    (assignmentId : Option Uuid) (marked : PendingMarked world) :
    PendingMarked (world.claimCleanup host now leaseId reason assignmentStatus assignmentId) := by
  unfold LeaseWorld.claimCleanup claimRemoteComputerLeaseRuntimeCleanup
  cases found : world.store.leases.find? leaseId with
  | none => exact marked
  | some lease =>
      obtain rfl : lease.id = leaseId := (Table.find?_eq_some.mp found).2
      dsimp only
      by_cases refused : lease.status ≠ .leased ∨
          cleanupClaimIsActive host lease.metadata now = true ∨
          cleanupRetryConflicts host lease.metadata reason assignmentStatus assignmentId = true
      · rw [if_pos refused]
        exact marked
      · rw [if_neg refused]
        apply marked.of_scheduled
        exact cleanupClaimMetadata_marked _ _ _ _ _

theorem pendingMarked_schedule (now : Timestamp) (claimed : RemoteComputerLease) (reason : String)
    (evidence : Json) (assignmentStatus : String) (assignmentId : Option Uuid)
    (marked : PendingMarked world) :
    PendingMarked
      (world.scheduleRetry host now claimed reason evidence assignmentStatus assignmentId) := by
  unfold LeaseWorld.scheduleRetry
  split
  · exact marked
  · rename_i metadata derived
    unfold scheduleRemoteComputerLeaseCleanupRetry
    cases found : (world.store.leases.find? claimed.id).filter
        fun lease => decide (lease.status = .leased) with
    | none => exact marked
    | some lease =>
        have stored := (Option.filter_eq_some_iff.mp found).1
        have sameId : lease.id = claimed.id := (Table.find?_eq_some.mp stored).2
        dsimp only
        rw [← sameId]
        exact marked.of_scheduled (cleanupRetryMetadata_marked derived)

theorem pendingMarked_perform (event : LeaseEvent) (marked : PendingMarked world) :
    PendingMarked (world.perform host event) := by
  cases event with
  | createComputer drawnId input =>
      apply marked.of_store
      intro leaseId _
      rw [createRemoteComputer_leases]
  | deleteComputerIfUnleased computerId =>
      apply marked.of_store
      intro leaseId _
      rw [deleteRemoteComputerIfUnleased_leases]
  | rebindOnDemand computerId identity metadata =>
      apply marked.of_store
      intro leaseId _
      rw [rebindOnDemandRemoteComputer_leases]
  | markAttentionIfUnleased computerId reason =>
      apply marked.of_store
      intro leaseId _
      rw [markRemoteComputerAttentionIfUnleased_leases]
  | createLease now drawnId computerId input =>
      unfold LeaseWorld.perform
      dsimp only
      split
      · exact marked
      · rename_i fresh
        apply marked.of_store
        intro leaseId isPending
        obtain ⟨lease, found, -⟩ := marked leaseId isPending
        apply createRemoteComputerLease_others
        rintro rfl
        rw [found] at fresh
        exact fresh rfl
  | updateLeaseStatus now leaseId status input =>
      apply marked.of_store
      intro other isPending
      by_cases same : other = leaseId
      · obtain ⟨existing, isExisting, isMarked⟩ := marked other isPending
        obtain ⟨error, refused⟩ := update_of_marked now status input isExisting isMarked
        rw [← same, refused]
      · exact update_others now leaseId status input same
  | claimRuntimeCleanup now leaseId reason assignmentStatus assignmentId =>
      exact pendingMarked_claim now leaseId reason assignmentStatus assignmentId marked
  | scheduleCleanupRetry now claimed reason evidence assignmentStatus assignmentId =>
      unfold LeaseWorld.perform
      dsimp only
      split
      · exact pendingMarked_schedule now claimed reason evidence assignmentStatus assignmentId
          marked
      · exact marked
  | transitionAfterCleanup now leaseId status input =>
      unfold LeaseWorld.perform LeaseWorld.transition
      dsimp only
      split
      · exact marked
      · intro other isPending
        obtain ⟨stillPending, different⟩ := List.mem_filter.mp isPending
        obtain ⟨lease, found, isMarked⟩ := marked other stillPending
        refine ⟨lease, ?_, isMarked⟩
        rw [← found]
        exact transition_others now leaseId status input (by simpa using different)

/-! ### Every run -/

/-- What holds of every run: computers and leases agree, an ended lease stays ended,
and no update by the holder goes through while a cleanup is pending. -/
structure LeasesSafe (host : Host) (events : List LeaseEvent) : Prop where
  exclusive : HeldAlong (LeaseWorld.perform host) (fun world => LeasesExclusive world.store) events
    .start
  final : ∀ front later, front ++ later <+: events → ∀ leaseId lease,
    (runEvents (LeaseWorld.perform host) front .start).store.leases.find? leaseId = some lease →
    lease.status.isTerminal = true →
    ∃ last, (runEvents (LeaseWorld.perform host) (front ++ later) .start).store.leases.find?
      leaseId = some last ∧ last.status = lease.status
  blocked : ∀ front now leaseId status input,
    front ++ [.updateLeaseStatus now leaseId status input] <+: events →
    leaseId ∈ (runEvents (LeaseWorld.perform host) front .start).pending →
    ∃ error, updateRemoteComputerLeaseStatus now leaseId status input
        (runEvents (LeaseWorld.perform host) front .start).store =
      (.returned (.error error), (runEvents (LeaseWorld.perform host) front .start).store)

theorem endedStay_runEvents (events : List LeaseEvent) (world : LeaseWorld) :
    EndedStay world.store (runEvents (LeaseWorld.perform host) events world).store := by
  induction events generalizing world with
  | nil => exact .refl _
  | cons event events inductionHypothesis =>
      have first : EndedStay world.store (world.perform host event).store := by
        rcases leaseEvent_effect event with ⟨-, effect⟩ | ⟨-, strands⟩
        · exact endedStay_of_effect effect
        · exact endedStay_of_strands strands
      exact first.trans (inductionHypothesis _)

theorem pendingMarked_runEvents (events : List LeaseEvent) {world : LeaseWorld}
    (marked : PendingMarked world) :
    PendingMarked (runEvents (LeaseWorld.perform host) events world) := by
  induction events generalizing world with
  | nil => exact marked
  | cons event events inductionHypothesis =>
      exact inductionHypothesis (pendingMarked_perform event marked)

/-- Computers and leases agree along a run exactly when no update strands a computer. -/
theorem exclusive_along_iff (events : List LeaseEvent) :
    HeldAlong (LeaseWorld.perform host) (fun world => LeasesExclusive world.store) events .start ↔
      MetAlong (LeaseWorld.perform host) ReasonFits events .start := by
  apply @heldAlong_iff_metAlong _ _ _ _ (fun world => LeasesHosted world.store) _ (fun _ => True)
  · intro event world _ hosted _
    rcases @leaseEvent_effect host world event with ⟨-, effect⟩ | ⟨-, strands⟩
    · exact hosted_of_effect effect hosted
    · exact hosted_of_strands strands hosted
  · intro event world _ hosted exclusive
    rcases @leaseEvent_effect host world event with ⟨fits, effect⟩ | ⟨misfits, strands⟩
    · exact ⟨fun _ => fits, fun _ => exclusive_of_effect effect hosted exclusive⟩
    · exact ⟨fun still => absurd still (not_exclusive_of_strands hosted exclusive strands),
        fun fits => absurd fits misfits⟩
  · exact fun _ _ => trivial
  · exact fun lease member => nomatch member
  · constructor
    case one => exact fun _ _ _ active => nomatch active.1
    case status => exact fun computer member => nomatch member

theorem leases_safe_iff (host : Host) (events : List LeaseEvent) :
    LeasesSafe host events ↔ MetAlong (LeaseWorld.perform host) ReasonFits events .start := by
  rw [← exclusive_along_iff]
  refine ⟨fun safe => safe.exclusive, fun exclusive => ⟨exclusive, ?_, ?_⟩⟩
  · intro front later _ leaseId lease found ended
    rw [runEvents_append]
    exact endedStay_runEvents later _ leaseId lease found ended
  · intro front now leaseId status input _ isPending
    have marked : PendingMarked (runEvents (LeaseWorld.perform host) front .start) :=
      pendingMarked_runEvents front fun _ member => nomatch member
    obtain ⟨lease, found, isMarked⟩ := marked leaseId isPending
    exact update_of_marked now status input found isMarked

end

/-! ### A release that panics -/

/-- A computer is leased, and the release gives a reason and a text as metadata. -/
def strandingRun : List LeaseEvent :=
  [.createComputer 1 ⟨none, "worker", none, none, none, none, none, none⟩,
    .createLease 0 2 1 ⟨none, some "w1", none, none⟩,
    .updateLeaseStatus 1 2 .released ⟨some "done", some (.string "ended")⟩]

/-- The run claims no cleanup, so nothing is parsed or printed. -/
def silentHost : Host where
  parseUuid _ := none
  parseRfc3339 _ := none
  printUuid _ := ""
  printTimestamp _ := ""

/-- The computer is `leased` and its only lease is released. -/
theorem release_strands_computer : ¬LeasesSafe silentHost strandingRun := by
  intro safe
  have agree := (safe.exclusive strandingRun List.prefix_rfl).status
  have stranded : ∃ computer ∈ (runEvents (LeaseWorld.perform silentHost) strandingRun
      .start).store.computers.rows, computer.status = .leased ∧ hasActiveLease computer.id
        (runEvents (LeaseWorld.perform silentHost) strandingRun .start).store = false := by
    decide +kernel
  obtain ⟨computer, member, isLeased, idle⟩ := stranded
  obtain ⟨lease, active⟩ := (agree computer member).mp isLeased
  exact not_activeOn_of_idle idle lease active

end MandoForge
