/-
Module: MandoForge.Ontology.RollbackAvailability
Purpose: A current release can be rolled back as long as nothing on its trail of rollback
  targets was put away.  The guard of an archive looks one target deep, so this holds in
  every state of a run exactly when no archive meets the trail of a current release.
Trusted boundary: beside the calls only the clock moves.
Main exports: OnTrail, archived_under_the_stack
-/
import MandoForge.Ontology.ReleaseRuns

namespace MandoForge

open Foundation

/-! ### What is claimed -/

/-- Following the rollback targets from some current release visits the release. -/
def OnTrail (releases : OntologyReleaseTable) (releaseId : Uuid) : Prop :=
  ∃ current ∈ releases, current.isCurrent = true ∧
    ∃ trail, Trail (rollbackTargetOf releases) current.id trail ∧ releaseId ∈ trail

/-- Every current release that has a rollback target can be rolled back. -/
def CanRollBack (releases : OntologyReleaseTable) : Prop :=
  ∀ current ∈ releases, current.isCurrent = true →
    current.rollbackTargetReleaseId.isSome = true → ∀ now actorSubject, ∃ answer,
      (rollbackOntologyReleaseAtomically now current.id actorSubject releases).1 = .ok answer

/-- No release is put away that a current one needs, now or after some rollbacks. -/
def SparesTrails (releases : OntologyReleaseTable) : Prop :=
  ∀ release ∈ releases, OnTrail releases release.id → release.status ≠ .archived

structure RollbackAvailable (host : Host) (events : List OntologyReleaseEvent)
    (clock : Timestamp) : Prop where
  available : HeldAlong (OntologyReleaseEvent.perform host)
    (fun pool => CanRollBack pool.state.releases) events (noOntologyReleases clock)
  spared : HeldAlong (OntologyReleaseEvent.perform host)
    (fun pool => SparesTrails pool.state.releases) events (noOntologyReleases clock)

/-- An archive that goes through puts away a release on no trail. -/
def ArchivesOffTrail (event : OntologyReleaseEvent) (pool : OntologyReleasePool) : Prop :=
  ∀ release stored, event.operation pool = some (.updateRelease release (some stored.status)) →
    pool.state.releases.find? release.id = some stored → release.status = .archived →
      ¬OnTrail pool.state.releases release.id

/-! ### Trails before and after an operation -/

section trails

variable {pending : Option OntologyReleaseOperation} {before after : OntologyReleaseTable}

theorem OntologyReleaseStatus.isOpen_of_isCurrent {status : OntologyReleaseStatus}
    (current : status.isCurrent = true) : status.isOpen = false := by
  cases status <;> first | rfl | exact absurd current (by decide)

theorem OntologyReleaseStatus.isOpen_of_isWithdrawn {status : OntologyReleaseStatus}
    (withdrawn : status.isWithdrawn = true) : status.isOpen = false := by
  cases status <;> first | rfl | exact absurd withdrawn (by decide)

theorem OntologyReleaseEffect.keepsTarget (effect : OntologyReleaseEffect pending before after)
    {releaseId : Uuid} {old : OntologyReleaseRecord} (found : before.find? releaseId = some old)
    (closed : old.status.isOpen = false) :
    rollbackTargetOf after releaseId = rollbackTargetOf before releaseId := by
  obtain ⟨new, isNew, step⟩ := effect.step found
  have stillClosed : new.status.isOpen = false := by
    apply Bool.eq_false_of_not_eq_true
    intro isOpen
    rw [step.opened isOpen] at closed
    cases closed
  rw [rollbackTargetOf, rollbackTargetOf, found, isNew, Option.bind_some,
    Option.bind_some, step.target (stillClosed.trans closed.symm)]

theorem ReleaseStack.onTrail {releases : OntologyReleaseTable} (stack : ReleaseStack releases)
    {releaseId : Uuid} (onTrail : OnTrail releases releaseId) :
    ∃ release, releases.find? releaseId = some release ∧ release.status.isWithdrawn = true := by
  obtain ⟨current, member, isCurrent, trail, along, isOn⟩ := onTrail
  obtain ⟨same, visits⟩ := stack.trails current member isCurrent
  rw [along.unique visits.along] at isOn
  obtain ⟨release, found, -, withdrawn⟩ := visits.targets releaseId isOn
  exact ⟨release, found, withdrawn⟩

theorem OntologyReleaseEffect.trail (effect : OntologyReleaseEffect pending before after)
    {releaseId : Uuid} {trail : List Uuid} (along : Trail (rollbackTargetOf before) releaseId trail)
    (closed : ∀ visited ∈ releaseId :: trail, ∃ release, before.find? visited = some release ∧
      release.status.isOpen = false) :
    Trail (rollbackTargetOf after) releaseId trail := by
  apply along.congr
  intro visited member
  obtain ⟨release, found, isClosed⟩ := closed visited member
  exact effect.keepsTarget found isClosed

theorem OntologyReleaseEffect.trail_of_current
    (effect : OntologyReleaseEffect pending before after) (stack : ReleaseStack before)
    {current : OntologyReleaseRecord} (member : current ∈ before)
    (isCurrent : current.isCurrent = true) {trail : List Uuid}
    (along : Trail (rollbackTargetOf before) current.id trail) :
    Trail (rollbackTargetOf after) current.id trail := by
  apply effect.trail along
  intro visited isVisited
  rcases List.mem_cons.mp isVisited with rfl | isOn
  · exact ⟨current, Table.find?_key member, OntologyReleaseStatus.isOpen_of_isCurrent isCurrent⟩
  · obtain ⟨release, found, withdrawn⟩ :=
      stack.onTrail ⟨current, member, isCurrent, trail, along, isOn⟩
    exact ⟨release, found, OntologyReleaseStatus.isOpen_of_isWithdrawn withdrawn⟩

/-- Where a current release comes from: it was current, or on a trail, or it was promoted
over the release that was current. -/
theorem OntologyReleaseEffect.source (effect : OntologyReleaseEffect pending before after)
    (stack : ReleaseStack before) {current : OntologyReleaseRecord} (member : current ∈ after)
    (isCurrent : current.isCurrent = true) :
    (∃ was, before.find? current.id = some was ∧ was.isCurrent = true) ∨
      OnTrail before current.id ∨
      ∀ targetId, rollbackTargetOf after current.id = some targetId →
        ∃ previous ∈ before, previous.id = targetId ∧ previous.isCurrent = true := by
  have isFound := Table.find?_key member
  cases effect with
  | quiet same => exact .inl ⟨current, same ▸ isFound, isCurrent⟩
  | creates release fresh stored candidate =>
      rw [stored] at member
      rcases (Table.mem_insert_of_fresh fresh).mp member with old | rfl
      · exact .inl ⟨current, Table.find?_key old, isCurrent⟩
      · rw [OntologyReleaseRecord.isCurrent, candidate] at isCurrent
        cases isCurrent
  | writes old new _ found stored domainScope target rewrites =>
      rw [stored] at member
      rcases Table.mem_insert_iff.mp member with rfl | ⟨-, isOld⟩
      · exact .inl ⟨old, found, rewrites.isCurrent isCurrent⟩
      · exact .inl ⟨current, Table.find?_key isOld, isCurrent⟩
  | promotes release now actorSubject found candidate stored =>
      rw [stored] at member
      rcases OntologyReleasesSound.mem_promoted.mp member with isNew | ⟨old, isOld, -, isSuperseded⟩
      · refine .inr (.inr fun targetId leads => ?_)
        rw [rollbackTargetOf, isFound, Option.bind_some, isNew] at leads
        obtain ⟨previous, isPrevious, sameId⟩ := Option.map_eq_some_iff.mp leads
        obtain ⟨previousIn, previousCurrent, -⟩ :=
          OntologyReleasesSound.mem_currentReleases.mp (List.mem_of_getLast? isPrevious)
        exact ⟨previous, previousIn, sameId, previousCurrent⟩
      · rw [← isSuperseded] at isCurrent
        have same := (OntologyReleaseRecord.superseded_of_isCurrent isCurrent).1
        rw [same] at isCurrent isSuperseded
        exact .inl ⟨old, isSuperseded ▸ Table.find?_key isOld, isCurrent⟩
  | rollsBack release target now actorSubject found wasCurrent isTarget targetFound differs shares
      superseded stored =>
      rw [stored] at member
      rcases Table.mem_insert_iff.mp member with rfl | ⟨-, member⟩
      · obtain ⟨rest, visits⟩ := stack.target found wasCurrent isTarget
        exact .inr (.inl ⟨release, (Table.find?_eq_some.mp found).1, wasCurrent, target.id :: rest,
          visits.along, List.mem_cons_self ..⟩)
      · rcases Table.mem_insert_iff.mp member with rfl | ⟨-, isOld⟩
        · cases isCurrent
        · exact .inl ⟨current, Table.find?_key isOld, isCurrent⟩

/-- What is on a trail was on one, or was current. -/
theorem OntologyReleaseEffect.onTrail (effect : OntologyReleaseEffect pending before after)
    (stack : ReleaseStack before) {releaseId : Uuid} (onTrail : OnTrail after releaseId) :
    OnTrail before releaseId ∨ ∃ was ∈ before, was.id = releaseId ∧ was.isCurrent = true := by
  obtain ⟨current, member, isCurrent, trail, along, isOn⟩ := onTrail
  -- A trail from a release that was current is the one that it had.
  have ofCurrent : ∀ was ∈ before, was.isCurrent = true → ∀ rest,
      Trail (rollbackTargetOf after) was.id rest → releaseId ∈ rest →
      OnTrail before releaseId := by
    intro was isIn wasCurrent rest restAlong isOnRest
    obtain ⟨earlier, visits⟩ := stack.trails was isIn wasCurrent
    have kept := effect.trail_of_current stack isIn wasCurrent visits.along
    rw [restAlong.unique kept] at isOnRest
    exact ⟨was, isIn, wasCurrent, earlier, visits.along, isOnRest⟩
  rcases effect.source stack member isCurrent with
    ⟨was, found, wasCurrent⟩ | ⟨was, isIn, wasCurrent, whole, wholeAlong, isOnWhole⟩ | leads
  · obtain ⟨isIn, sameId⟩ := Table.find?_eq_some.mp found
    exact .inl (ofCurrent was isIn wasCurrent trail (sameId ▸ along) isOn)
  · have kept := effect.trail_of_current stack isIn wasCurrent wholeAlong
    obtain ⟨front, rest, rfl, restAlong⟩ := kept.from_mem isOnWhole
    rw [along.unique restAlong] at isOn
    exact .inl ⟨was, isIn, wasCurrent, front ++ current.id :: rest, wholeAlong,
      List.mem_append_right front (List.mem_cons_of_mem _ isOn)⟩
  · cases trail with
    | nil => cases isOn
    | cons targetId rest =>
        obtain ⟨previous, isIn, rfl, wasCurrent⟩ := leads targetId along.1
        rcases List.mem_cons.mp isOn with rfl | isOnRest
        · exact .inr ⟨previous, isIn, rfl, wasCurrent⟩
        · exact .inl (ofCurrent previous isIn wasCurrent rest along.2 isOnRest)

/-- What is archived was archived, or is put away by the operation. -/
theorem OntologyReleaseEffect.archived (effect : OntologyReleaseEffect pending before after)
    {release : OntologyReleaseRecord} (member : release ∈ after)
    (archived : release.status = .archived) :
    (∃ was ∈ before, was.id = release.id ∧ was.status = .archived) ∨
      ∃ old, pending = some (.updateRelease release (some old.status)) ∧
        before.find? release.id = some old ∧ old.status.isCurrent = false := by
  cases effect with
  | quiet same => exact .inl ⟨release, same ▸ member, rfl, archived⟩
  | creates created fresh stored candidate =>
      rw [stored] at member
      rcases (Table.mem_insert_of_fresh fresh).mp member with old | rfl
      · exact .inl ⟨release, old, rfl, archived⟩
      · rw [candidate] at archived
        cases archived
  | writes old new isUpdate found stored domainScope target rewrites =>
      rw [stored] at member
      rcases Table.mem_insert_iff.mp member with rfl | ⟨-, isOld⟩
      · refine .inr ⟨old, isUpdate, found, ?_⟩
        apply Bool.eq_false_of_not_eq_true
        intro wasCurrent
        rcases rewrites with ⟨wasOpen, -⟩ | ⟨notCurrent, -⟩ | ⟨-, isCurrent⟩
        · rw [OntologyReleaseStatus.isOpen_of_isCurrent wasCurrent] at wasOpen
          cases wasOpen
        · rw [wasCurrent] at notCurrent
          cases notCurrent
        · rw [archived] at isCurrent
          cases isCurrent
      · exact .inl ⟨release, isOld, rfl, archived⟩
  | promotes promoted now actorSubject found candidate stored =>
      rw [stored] at member
      rcases OntologyReleasesSound.mem_promoted.mp member with rfl | ⟨old, isOld, -, rfl⟩
      · cases archived
      · refine .inl ⟨old, isOld, (promoted.superseded_id old).symm, ?_⟩
        unfold OntologyReleaseRecord.superseded at archived
        split at archived
        · cases archived
        · exact archived
  | rollsBack rolledBack target now actorSubject found wasCurrent isTarget targetFound differs shares
      superseded stored =>
      rw [stored] at member
      rcases Table.mem_insert_iff.mp member with rfl | ⟨-, member⟩
      · cases archived
      · rcases Table.mem_insert_iff.mp member with rfl | ⟨-, isOld⟩
        · cases archived
        · exact .inl ⟨release, isOld, rfl, archived⟩

end trails

/-! ### Every run -/

/-- A current release whose trail is spared can be rolled back. -/
theorem OntologyReleasesSound.canRollBack {releases : OntologyReleaseTable}
    (sound : OntologyReleasesSound releases) (spares : SparesTrails releases) :
    CanRollBack releases := by
  intro current member isCurrent hasTarget now actorSubject
  obtain ⟨targetId, isTarget⟩ := Option.isSome_iff_exists.mp hasTarget
  have found := Table.find?_key member
  obtain ⟨rest, visits⟩ := sound.toReleaseStack.target found isCurrent isTarget
  obtain ⟨target, targetFound, shares, -⟩ := visits.targets targetId (List.mem_cons_self ..)
  obtain ⟨targetIn, rfl⟩ := Table.find?_eq_some.mp targetFound
  have notArchived := spares target targetIn
    ⟨current, member, isCurrent, target.id :: rest, visits.along, List.mem_cons_self ..⟩
  have checked : checkRollback current.id releases = .ok (current, target) :=
    checkRollback_eq_ok.mpr ⟨found, isCurrent, isTarget, targetFound, shares,
      sound.unmarked target targetIn notArchived, notArchived⟩
  have differs : target.id ≠ (current.takenBack now actorSubject).id := fun same =>
    (List.nodup_cons.mp visits.acyclic).1 (same ▸ List.mem_cons_self ..)
  unfold rollbackOntologyReleaseAtomically
  rw [checked]
  dsimp only
  rw [Table.find?_insert_of_ne differs, targetFound]
  exact ⟨_, rfl⟩

section everyRun

variable (host : Host) {pool : OntologyReleasePool}

/-- An update whose expected status is the stored one writes the row. -/
theorem OntologyReleaseEvent.releases_of_update {event : OntologyReleaseEvent}
    {release stored : OntologyReleaseRecord}
    (isUpdate : event.operation pool = some (.updateRelease release (some stored.status)))
    (found : pool.state.releases.find? release.id = some stored) :
    (event.perform host pool).state.releases = pool.state.releases.insert release := by
  cases event with
  | enter call => cases isUpdate
  | tick clock => cases isUpdate
  | operate index =>
      obtain ⟨⟨told, operation⟩, pending, rfl⟩ := Option.map_eq_some_iff.mp isUpdate
      rw [perform, Pool.state_operate pending]
      change (updateOntologyRelease release (some stored.status) pool.state.releases).2 = _
      unfold updateOntologyRelease
      rw [found]
      simp

/-- An operation spares the trails exactly when it puts nothing on them away. -/
theorem OntologyReleaseEvent.sparesTrails_iff (event : OntologyReleaseEvent)
    (follows : OntologyReleasePool.Follows pool) (spares : SparesTrails pool.state.releases) :
    SparesTrails (event.perform host pool).state.releases ↔ ArchivesOffTrail event pool := by
  have effect := event.effect host follows
  have stack := follows.state.toReleaseStack
  constructor
  · intro spared release stored isUpdate found archived onTrail
    have after := event.releases_of_update host isUpdate found
    obtain ⟨current, member, isCurrent, trail, along, isOn⟩ := onTrail
    have kept := effect.trail_of_current stack member isCurrent along
    have isNew : release ∈ (event.perform host pool).state.releases := by
      rw [after]
      exact Table.mem_insert_iff.mpr (.inl rfl)
    have differs : current.id ≠ release.id := by
      intro same
      exact (List.nodup_cons.mp along.nodup).1 (same ▸ isOn)
    have stillIn : current ∈ (event.perform host pool).state.releases := by
      rw [after]
      exact Table.mem_insert_iff.mpr (.inr ⟨differs, member⟩)
    exact spared release isNew ⟨current, stillIn, isCurrent, trail, kept, isOn⟩ archived
  · intro offTrail release member onTrail archived
    rcases effect.archived member archived with
      ⟨was, isIn, sameId, wasArchived⟩ | ⟨old, isUpdate, found, notCurrent⟩
    · rw [← sameId] at onTrail
      rcases effect.onTrail stack onTrail with wasOn | ⟨same, isSame, sameKey, isCurrent⟩
      · exact spares was isIn wasOn wasArchived
      · rw [Table.eq_of_key_eq isSame isIn sameKey, OntologyReleaseRecord.isCurrent,
          wasArchived] at isCurrent
        cases isCurrent
    · rcases effect.onTrail stack onTrail with wasOn | ⟨was, isIn, sameId, isCurrent⟩
      · exact offTrail release old isUpdate found archived wasOn
      · have isOld := Table.find?_key isIn
        rw [sameId, found] at isOld
        obtain rfl := Option.some.inj isOld
        rw [OntologyReleaseRecord.isCurrent, notCurrent] at isCurrent
        cases isCurrent

end everyRun

/-- However the calls interleave, every current release can be rolled back down to the last
one of its trail exactly when no archive meets the trail of a current release. -/
theorem rollback_available_iff (host : Host) (events : List OntologyReleaseEvent)
    (clock : Timestamp) :
    RollbackAvailable host events clock ↔
      MetAlong (OntologyReleaseEvent.perform host) ArchivesOffTrail events
        (noOntologyReleases clock) := by
  have startSpared : SparesTrails (noOntologyReleases clock).state.releases :=
    fun _ isStored => absurd isStored List.not_mem_nil
  have spared := heldAlong_iff_metAlong
    (fun event _ (_ : True) follows _ => OntologyReleaseEvent.follows host event follows)
    (fun event _ _ follows spares => OntologyReleaseEvent.sparesTrails_iff host event follows spares)
    (fun event (_ : event ∈ events) => trivial) (noOntologyReleases_follows clock) startSpared
  constructor
  · exact fun available => spared.mp available.spared
  · intro offTrail
    have spares := spared.mpr offTrail
    refine ⟨fun front isPrefix => ?_, spares⟩
    have follows := runEvents_follows host front (noOntologyReleases_follows clock)
    exact follows.state.canRollBack (spares front isPrefix)

/-! ### Three releases, the first of them archived -/

namespace ArchivedTarget

def host : Host where
  parseUuid := String.toNat?
  parseRfc3339 := fun _ => none
  printUuid := Nat.repr
  printTimestamp := fun time => toString time

def build (version : String) : BuildCandidate := fun _ => .ok {
  version
  sourceRunId := none
  releaseClass := "additive"
  objectCount := 1
  relationCount := 0
  actionCount := 0
  migrationPolicy := .object []
  materializedObjectIds := .ofStrings [version]
  materializedLinkIds := .array []
  evidenceRefs := .array [] }

def passes : JudgeRelease := fun _ _ => .ok ⟨[], []⟩

/-- A release is created, gated and promoted. -/
def published (draw : Uuid) (version : String) : List OntologyReleaseCall :=
  [.create draw "commerce" (build version), .gate draw passes "reviewer",
    .promote draw "reviewer"]

/-- The first release is archived while the third is current; then the third is taken
back. -/
def calls : List OntologyReleaseCall :=
  published 1 "v1" ++ published 2 "v2" ++ published 3 "v3" ++
    [.archive 1, .rollback 3 "reviewer"]

/-- One call after the other; no call has more than four operations. -/
def inTurn (calls : List OntologyReleaseCall) : List OntologyReleaseEvent :=
  calls.zipIdx.flatMap fun entered => .enter entered.1 :: List.replicate 4 (.operate entered.2)

end ArchivedTarget

/-- The release that is current again has an archived target: it cannot be rolled back. -/
theorem archived_under_the_stack :
    ¬RollbackAvailable ArchivedTarget.host (ArchivedTarget.inTurn ArchivedTarget.calls) 0 := by
  intro available
  have can := available.available (ArchivedTarget.inTurn ArchivedTarget.calls) List.prefix_rfl
  have stuck : ∃ current ∈ (runEvents (OntologyReleaseEvent.perform ArchivedTarget.host)
      (ArchivedTarget.inTurn ArchivedTarget.calls) (noOntologyReleases 0)).state.releases.rows,
      current.isCurrent = true ∧ current.rollbackTargetReleaseId.isSome = true ∧
        (rollbackOntologyReleaseAtomically 0 current.id "reviewer"
          (runEvents (OntologyReleaseEvent.perform ArchivedTarget.host)
            (ArchivedTarget.inTurn ArchivedTarget.calls)
            (noOntologyReleases 0)).state.releases).1.isOk = false := by
    decide +kernel
  obtain ⟨current, member, isCurrent, hasTarget, refused⟩ := stuck
  obtain ⟨answer, answered⟩ := can current member isCurrent hasTarget 0 "reviewer"
  rw [answered] at refused
  cases refused

end MandoForge
