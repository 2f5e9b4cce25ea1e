/-
Module: MandoForge.Ontology.ReleaseSteps
Purpose: What one store operation can do to the ontology releases, however the calls
  that perform it interleave: a release is stored, rewritten by a call that read it,
  promoted, or rolled back.
Trusted boundary: beside the calls only the clock moves.
Main exports: OntologyReleaseEvent, ReleaseStack
-/
import MandoForge.Foundation.Runs
import MandoForge.Foundation.Trails
import MandoForge.Ontology.Releases

namespace MandoForge

open Foundation

/-! ### Runs -/

/-- A call remembers the releases that it read. -/
abbrev OntologyReleasePool :=
  Pool OntologyReleaseStore AppError Unit (List OntologyReleaseRecord) Unit

def ontologyReleaseTells : (operation : OntologyReleaseOperation) → operation.Answer →
    List OntologyReleaseRecord → List OntologyReleaseRecord
  | .getRelease _, .ok release, told => release :: told
  | _, _, told => told

def ontologyReleaseObserver :
    Observer OntologyReleaseStore (List OntologyReleaseRecord) Unit where
  tells := ontologyReleaseTells
  acts _ _ heard := heard
  overhears _ _ heard := heard

inductive OntologyReleaseEvent where
  | enter (call : OntologyReleaseCall)
  /-- One of the calls performs its next store operation. -/
  | operate (index : Nat)
  | tick (clock : Timestamp)

def OntologyReleaseEvent.perform (host : Host) (event : OntologyReleaseEvent)
    (pool : OntologyReleasePool) : OntologyReleasePool :=
  match event with
  | .enter call => pool.enter (call.program host) [] ()
  | .operate index => pool.operate ontologyReleaseObserver index
  | .tick clock => { pool with state := { pool.state with clock } }

/-- The operation that an event performs. -/
def OntologyReleaseEvent.operation (event : OntologyReleaseEvent) (pool : OntologyReleasePool) :
    Option OntologyReleaseOperation :=
  match event with
  | .operate index => (pool.next index).map Prod.snd
  | _ => none

/-- No release is stored and no call is under way. -/
def noOntologyReleases (clock : Timestamp) : OntologyReleasePool where
  state := { clock, releases := Table.empty }
  calls := []

/-! ### The stack of a domain's releases -/

/-- The rollback target of a stored release. -/
def rollbackTargetOf (releases : OntologyReleaseTable) (releaseId : Uuid) : Option Uuid :=
  (releases.find? releaseId).bind OntologyReleaseRecord.rollbackTargetReleaseId

/-- The statuses of a release that was current and is no more, or never was and is put
away. -/
def OntologyReleaseStatus.isWithdrawn : OntologyReleaseStatus → Bool
  | superseded | archived => true
  | _ => false

/-- What following the rollback targets from a release visits. -/
structure RollbackTrail (releases : OntologyReleaseTable) (current : OntologyReleaseRecord)
    (trail : List Uuid) : Prop where
  along : Trail (rollbackTargetOf releases) current.id trail
  acyclic : (current.id :: trail).Nodup := along.nodup
  targets : ∀ targetId ∈ trail, ∃ target, releases.find? targetId = some target ∧
    current.sharesDomain target = true ∧ target.status.isWithdrawn = true

/-- A domain has at most one current release, and its rollback targets are a stack. -/
structure ReleaseStack (releases : OntologyReleaseTable) : Prop where
  oneCurrent : ∀ first ∈ releases, ∀ second ∈ releases,
    first.isCurrent = true → second.isCurrent = true → first.sharesDomain second = true →
      first = second
  trails : ∀ current ∈ releases, current.isCurrent = true →
    ∃ trail, RollbackTrail releases current trail

/-! ### What a release can become -/

/-- A release after some steps of a run. -/
structure ReleaseLater (old new : OntologyReleaseRecord) : Prop where
  id : new.id = old.id
  domainScope : new.domainScope = old.domainScope
  opened : new.status.isOpen = true → old.status.isOpen = true
  /-- The target is set by the promotion, which ends the gating. -/
  target : new.status.isOpen = old.status.isOpen →
    new.rollbackTargetReleaseId = old.rollbackTargetReleaseId
  archived : old.status = .archived → new.status = .archived
  rolledBack : old.status = .rolledBack → new.status = .rolledBack ∨ new.status = .archived

/-- A release after one step. -/
structure ReleaseStep (old new : OntologyReleaseRecord) : Prop extends ReleaseLater old new where
  failedGate : old.status = .failedGate →
    new.status = .failedGate ∨ new.status = .candidate ∨ new.status = .archived

theorem ReleaseStep.refl (release : OntologyReleaseRecord) : ReleaseStep release release :=
  ⟨⟨rfl, rfl, fun isOpen => isOpen, fun _ => rfl, fun isArchived => isArchived, .inl⟩, .inl⟩

theorem ReleaseLater.trans {old middle new : OntologyReleaseRecord} (one : ReleaseLater old middle)
    (two : ReleaseLater middle new) : ReleaseLater old new where
  id := two.id.trans one.id
  domainScope := two.domainScope.trans one.domainScope
  opened isOpen := one.opened (two.opened isOpen)
  target same := by
    -- The one between is open exactly when both are.
    have between : middle.status.isOpen = new.status.isOpen := by
      cases newOpen : new.status.isOpen with
      | true => exact two.opened newOpen
      | false =>
          rw [newOpen] at same
          apply Bool.eq_false_of_not_eq_true
          intro middleOpen
          rw [one.opened middleOpen] at same
          cases same
    exact (two.target between.symm).trans (one.target (between.trans same))
  archived isArchived := two.archived (one.archived isArchived)
  rolledBack wasRolledBack := by
    rcases one.rolledBack wasRolledBack with still | isArchived
    · exact two.rolledBack still
    · exact .inr (two.archived isArchived)

/-- What a call may write over a release that it read: a gate leaves it open, an archive
puts away what is not current, and a trigger leaves it current. -/
def OntologyReleaseStatus.Rewrites (old new : OntologyReleaseStatus) : Prop :=
  (old.isOpen = true ∧ new.isOpen = true) ∨ (old.isCurrent = false ∧ new = .archived) ∨
    (old.isCurrent = true ∧ new.isCurrent = true)

/-- The written release is the read one but for its status and what goes with it. -/
structure RewritesRead (read written : OntologyReleaseRecord) : Prop where
  id : written.id = read.id
  domainScope : written.domainScope = read.domainScope
  target : written.rollbackTargetReleaseId = read.rollbackTargetReleaseId
  status : read.status.Rewrites written.status
  archivedAt : written.status ≠ .archived → written.archivedAt = read.archivedAt

theorem OntologyReleaseStatus.Rewrites.step {old new : OntologyReleaseRecord}
    (rewrites : old.status.Rewrites new.status) (sameId : new.id = old.id)
    (sameDomain : new.domainScope = old.domainScope)
    (sameTarget : new.rollbackTargetReleaseId = old.rollbackTargetReleaseId) :
    ReleaseStep old new := by
  unfold Rewrites at rewrites
  refine ⟨⟨sameId, sameDomain, ?opened, fun _ => sameTarget, ?archived, ?rolledBack⟩, ?failedGate⟩
  all_goals
    cases isOld : old.status <;> cases isNew : new.status <;>
      simp [isOld, isNew, isOpen, isCurrent] at rewrites ⊢

/-! ### What one operation does to the releases -/

/-- The effects on the releases of an event that performs an operation, or none. -/
inductive OntologyReleaseEffect (pending : Option OntologyReleaseOperation)
    (before after : OntologyReleaseTable) : Prop where
  | quiet (same : after = before)
  | creates (release : OntologyReleaseRecord) (fresh : before.find? release.id = none)
      (stored : after = before.insert release) (candidate : release.status = .candidate)
      (unmarked : release.archivedAt = none)
  | writes (old new : OntologyReleaseRecord)
      (isUpdate : pending = some (.updateRelease new (some old.status)))
      (found : before.find? new.id = some old) (stored : after = before.insert new)
      (domainScope : new.domainScope = old.domainScope)
      (target : new.rollbackTargetReleaseId = old.rollbackTargetReleaseId)
      (rewrites : old.status.Rewrites new.status)
      (unmarked : new.status ≠ .archived → new.archivedAt = none)
  | promotes (release : OntologyReleaseRecord) (now : Timestamp) (actorSubject : String)
      (found : before.find? release.id = some release) (candidate : release.status = .candidate)
      (stored : after = (before.mapRows release.superseded release.superseded_id).insert
        (release.promotedOver now actorSubject
          ((currentReleases release before).getLast?.map OntologyReleaseRecord.id)))
  | rollsBack (release target : OntologyReleaseRecord) (now : Timestamp) (actorSubject : String)
      (found : before.find? release.id = some release) (current : release.isCurrent = true)
      (isTarget : release.rollbackTargetReleaseId = some target.id)
      (targetFound : before.find? target.id = some target) (differs : target.id ≠ release.id)
      (shares : release.sharesDomain target = true) (superseded : target.status = .superseded)
      (stored : after =
        (before.insert (release.takenBack now actorSubject)).insert target.restored)

/-- What holds of the stored releases: the stack, and that only an archived release bears
the mark of its archiving. -/
structure OntologyReleasesSound (releases : OntologyReleaseTable) : Prop
    extends ReleaseStack releases where
  unmarked : ∀ release ∈ releases, release.status ≠ .archived → release.archivedAt = none

/-- A release that was read is still stored, perhaps as it became later. -/
structure ReadEarlier (releases : OntologyReleaseTable) (read : OntologyReleaseRecord) : Prop where
  unmarked : read.status ≠ .archived → read.archivedAt = none
  stored : ∃ now, releases.find? read.id = some now ∧ ReleaseLater read now

def ReadsOwned (world : OntologyReleaseWorld) (told : List OntologyReleaseRecord) (_ : Unit) :
    Prop :=
  ∀ read ∈ told, ReadEarlier world.releases read

/-- What an operation stores is a candidate, or a release that its call read and
rewrote. -/
def ReleaseWriteAllowed (told : List OntologyReleaseRecord) : OntologyReleaseOperation → Prop
  | .createRelease _ release => release.status = .candidate ∧ release.archivedAt = none
  | .updateRelease release expectedStatus =>
      ∃ read ∈ told, expectedStatus = some read.status ∧ RewritesRead read release
  | _ => True

theorem OntologyReleaseStatus.Rewrites.ne_archived {old new : OntologyReleaseStatus}
    (rewrites : old.Rewrites new) (notArchived : new ≠ .archived) : old ≠ .archived := by
  rintro rfl
  rcases rewrites with ⟨wasOpen, -⟩ | ⟨-, isArchived⟩ | ⟨wasCurrent, -⟩
  · cases wasOpen
  · exact notArchived isArchived
  · cases wasCurrent

theorem createOntologyRelease_effect {draw : Uuid} {release : OntologyReleaseRecord}
    {releases : OntologyReleaseTable} (candidate : release.status = .candidate)
    (unmarked : release.archivedAt = none) {pending : Option OntologyReleaseOperation} :
    OntologyReleaseEffect pending releases (createOntologyRelease draw release releases).2 := by
  unfold createOntologyRelease
  split
  · exact .quiet rfl
  · exact .creates { release with id := releases.drawKey draw } Table.find?_drawKey rfl candidate
      unmarked

/-- A write over a release whose status is the one that was read. -/
theorem updateOntologyRelease_effect {read release : OntologyReleaseRecord}
    {releases : OntologyReleaseTable} (earlier : ReadEarlier releases read)
    (rewrites : RewritesRead read release) :
    OntologyReleaseEffect (some (.updateRelease release (some read.status))) releases
      (updateOntologyRelease release (some read.status) releases).2 := by
  unfold updateOntologyRelease
  split
  · exact .quiet rfl
  · rename_i existing found
    split
    · exact .quiet rfl
    · rename_i expected
      simp only [Option.any_some, decide_not, Bool.not_eq_true', decide_eq_false_iff_not,
        not_not] at expected
      obtain ⟨now, isNow, later⟩ := earlier.stored
      rw [← rewrites.id, found] at isNow
      obtain rfl := Option.some.inj isNow
      have sameTarget := later.target (congrArg OntologyReleaseStatus.isOpen expected)
      apply OntologyReleaseEffect.writes existing release (expected ▸ rfl) found rfl
      case domainScope => exact rewrites.domainScope.trans later.domainScope.symm
      case target => exact rewrites.target.trans sameTarget.symm
      case rewrites => exact expected ▸ rewrites.status
      case unmarked =>
        intro notArchived
        rw [rewrites.archivedAt notArchived]
        exact earlier.unmarked (rewrites.status.ne_archived notArchived)

theorem validateOntologyReleasePromotable_eq_ok {release : OntologyReleaseRecord}
    (promotable : validateOntologyReleasePromotable release = .ok ()) :
    release.status = .candidate := by
  unfold validateOntologyReleasePromotable at promotable
  split at promotable
  · cases promotable
  · rename_i isCandidate
    exact not_not.mp isCandidate

theorem promoteOntologyReleaseAtomically_effect {now : Timestamp} {releaseId : Uuid}
    {actorSubject : String} {releases : OntologyReleaseTable}
    {pending : Option OntologyReleaseOperation} :
    OntologyReleaseEffect pending releases
      (promoteOntologyReleaseAtomically now releaseId actorSubject releases).2 := by
  unfold promoteOntologyReleaseAtomically
  split
  · exact .quiet rfl
  · rename_i release found
    split
    · exact .quiet rfl
    · rename_i promotable
      obtain rfl := (Table.find?_eq_some.mp found).2
      exact .promotes release now actorSubject found
        (validateOntologyReleasePromotable_eq_ok promotable) rfl

/-- What the checks of a rollback establish. -/
theorem checkRollback_eq_ok {releaseId : Uuid} {releases : OntologyReleaseTable}
    {release target : OntologyReleaseRecord} :
    checkRollback releaseId releases = .ok (release, target) ↔
      releases.find? releaseId = some release ∧ release.isCurrent = true ∧
        release.rollbackTargetReleaseId = some target.id ∧
        releases.find? target.id = some target ∧ release.sharesDomain target = true ∧
        target.archivedAt = none ∧ target.status ≠ .archived := by
  unfold checkRollback validateOntologyReleaseRollbackSource validateOntologyReleaseRollbackTarget
  constructor
  · intro checked
    obtain ⟨stored, isStored, checked⟩ := bind_eq_ok.mp checked
    obtain ⟨targetId, isSource, checked⟩ := bind_eq_ok.mp checked
    obtain ⟨found, isFound, checked⟩ := bind_eq_ok.mp checked
    obtain ⟨_, isTarget, checked⟩ := bind_eq_ok.mp checked
    cases checked
    split at isSource
    · cases isSource
    · rename_i current
      split at isTarget
      · cases isTarget
      · rename_i shares
        split at isTarget
        · cases isTarget
        · rename_i kept
          rw [not_or] at kept
          have targetFound := okOr_eq_ok.mp isFound
          obtain rfl := (Table.find?_eq_some.mp targetFound).2
          exact ⟨okOr_eq_ok.mp isStored, by simpa using current, okOr_eq_ok.mp isSource,
            targetFound, by simpa using shares, by simpa using kept.1, kept.2⟩
  · rintro ⟨isStored, current, isTarget, targetFound, shares, unmarked, notArchived⟩
    refine bind_eq_ok.mpr ⟨release, okOr_eq_ok.mpr isStored, bind_eq_ok.mpr ⟨target.id, ?source,
      bind_eq_ok.mpr ⟨target, okOr_eq_ok.mpr targetFound, bind_eq_ok.mpr ⟨(), ?target, rfl⟩⟩⟩⟩
    case source => simp [current, isTarget, okOr]
    case target => simp [shares, unmarked, notArchived]

theorem ReleaseStack.target {releases : OntologyReleaseTable} (stack : ReleaseStack releases)
    {release : OntologyReleaseRecord} {targetId : Uuid}
    (found : releases.find? release.id = some release) (current : release.isCurrent = true)
    (isTarget : release.rollbackTargetReleaseId = some targetId) :
    ∃ rest, RollbackTrail releases release (targetId :: rest) := by
  obtain ⟨trail, visits⟩ := stack.trails release (Table.find?_eq_some.mp found).1 current
  have next : rollbackTargetOf releases release.id = some targetId := by
    rw [rollbackTargetOf, found, Option.bind_some, isTarget]
  cases trail with
  | nil => cases next.symm.trans visits.along
  | cons first rest =>
      obtain rfl := Option.some.inj (next.symm.trans visits.along.1)
      exact ⟨rest, visits⟩

theorem rollbackOntologyReleaseAtomically_effect {now : Timestamp} {releaseId : Uuid}
    {actorSubject : String} {releases : OntologyReleaseTable} (stack : ReleaseStack releases)
    {pending : Option OntologyReleaseOperation} :
    OntologyReleaseEffect pending releases
      (rollbackOntologyReleaseAtomically now releaseId actorSubject releases).2 := by
  unfold rollbackOntologyReleaseAtomically
  split
  · exact .quiet rfl
  · rename_i release target checked
    obtain ⟨found, current, isTarget, targetFound, shares, -, notArchived⟩ :=
      checkRollback_eq_ok.mp checked
    obtain rfl := (Table.find?_eq_some.mp found).2
    obtain ⟨rest, visits⟩ := stack.target found current isTarget
    have differs : target.id ≠ release.id := fun same =>
      (List.nodup_cons.mp visits.acyclic).1 (same ▸ List.mem_cons_self ..)
    obtain ⟨same, isSame, -, withdrawn⟩ := visits.targets target.id (List.mem_cons_self ..)
    obtain rfl := Option.some.inj (targetFound.symm.trans isSame)
    have superseded : target.status = .superseded := by
      cases isStatus : target.status <;> simp_all [OntologyReleaseStatus.isWithdrawn]
    have stillFound : (releases.insert (release.takenBack now actorSubject)).find? target.id =
        some target := by
      rw [Table.find?_insert_of_ne (show target.id ≠ (release.takenBack now actorSubject).id
        from differs), targetFound]
    dsimp only
    rw [stillFound]
    exact .rollsBack release target now actorSubject found current isTarget targetFound differs
      shares superseded rfl

/-- Every operation has one of the effects. -/
theorem OntologyReleaseOperation.releases_perform (operation : OntologyReleaseOperation)
    (world : OntologyReleaseWorld) {told : List OntologyReleaseRecord}
    (stack : ReleaseStack world.releases) (owned : ReadsOwned world told ())
    (allowed : ReleaseWriteAllowed told operation) :
    OntologyReleaseEffect (some operation) world.releases
      (operation.perform world).2.releases := by
  cases operation with
  | utcNow => exact .quiet rfl
  | getRelease releaseId => exact .quiet rfl
  | listReleases domainScope => exact .quiet rfl
  | createRelease draw release => exact createOntologyRelease_effect allowed.1 allowed.2
  | updateRelease release expectedStatus =>
      obtain ⟨read, member, rfl, rewrites⟩ := allowed
      exact updateOntologyRelease_effect (owned read member) rewrites
  | promote releaseId actorSubject => exact promoteOntologyReleaseAtomically_effect
  | rollback releaseId actorSubject => exact rollbackOntologyReleaseAtomically_effect stack

end MandoForge
