/-
Module: MandoForge.Ontology.ReleaseStack
Purpose: What one store operation keeps of the ontology releases.  A domain has at most
  one current release, its rollback targets are a stack of releases that were withdrawn,
  and what is stored stays stored, one step later.
Trusted boundary: none
Main exports: RollbackTrail.transfer, OntologyReleasesSound.promotes
-/
import MandoForge.Ontology.ReleaseSteps

namespace MandoForge

open Foundation

/-! ### Moving a trail to another table -/

theorem OntologyReleaseRecord.sharesDomain_congr {first second third fourth : OntologyReleaseRecord}
    (sameFirst : third.domainScope = first.domainScope)
    (sameSecond : fourth.domainScope = second.domainScope) :
    third.sharesDomain fourth = first.sharesDomain second := by
  unfold sharesDomain
  rw [sameFirst, sameSecond]

theorem OntologyReleaseRecord.sharesDomain_symm {first second : OntologyReleaseRecord}
    (shares : first.sharesDomain second = true) : second.sharesDomain first = true :=
  eqIgnoreAsciiCase_symm shares

theorem OntologyReleaseRecord.sharesDomain_trans {first second third : OntologyReleaseRecord}
    (one : first.sharesDomain second = true) (two : second.sharesDomain third = true) :
    first.sharesDomain third = true :=
  eqIgnoreAsciiCase_trans two one

theorem OntologyReleaseStatus.isCurrent_of_isWithdrawn {status : OntologyReleaseStatus}
    (withdrawn : status.isWithdrawn = true) : status.isCurrent = false := by
  cases status <;> first | rfl | cases withdrawn

/-- A trail stays when the release and what it visits keep their domains and targets, and
what it visits stays withdrawn. -/
theorem RollbackTrail.transfer {before after : OntologyReleaseTable}
    {current now : OntologyReleaseRecord} {trail : List Uuid}
    (visits : RollbackTrail before current trail)
    (found : before.find? current.id = some current) (isNow : after.find? current.id = some now)
    (domainScope : now.domainScope = current.domainScope)
    (target : now.rollbackTargetReleaseId = current.rollbackTargetReleaseId)
    (targets : ∀ targetId ∈ trail, ∀ old, before.find? targetId = some old →
      current.sharesDomain old = true → old.status.isWithdrawn = true →
      ∃ new, after.find? targetId = some new ∧ new.domainScope = old.domainScope ∧
        new.rollbackTargetReleaseId = old.rollbackTargetReleaseId ∧
        new.status.isWithdrawn = true) :
    RollbackTrail after now trail := by
  have sameId := (Table.find?_eq_some.mp isNow).2
  have along : Trail (rollbackTargetOf after) now.id trail := by
    rw [sameId]
    apply visits.along.congr
    intro visited member
    rcases List.mem_cons.mp member with rfl | onTrail
    · rw [rollbackTargetOf, rollbackTargetOf, isNow, found, Option.bind_some, Option.bind_some,
        target]
    · obtain ⟨old, isOld, shares, withdrawn⟩ := visits.targets visited onTrail
      obtain ⟨new, isNew, -, sameTarget, -⟩ := targets visited onTrail old isOld shares withdrawn
      rw [rollbackTargetOf, rollbackTargetOf, isNew, isOld, Option.bind_some, Option.bind_some,
        sameTarget]
  refine { along, targets := fun targetId onTrail => ?_ }
  obtain ⟨old, isOld, shares, withdrawn⟩ := visits.targets targetId onTrail
  obtain ⟨new, isNew, sameDomain, -, stillWithdrawn⟩ :=
    targets targetId onTrail old isOld shares withdrawn
  exact ⟨new, isNew, by rwa [OntologyReleaseRecord.sharesDomain_congr domainScope sameDomain],
    stillWithdrawn⟩

/-! ### What every operation keeps -/

namespace OntologyReleaseRecord

variable {release : OntologyReleaseRecord} {now : Timestamp} {actorSubject : String}

theorem promotedOver_step {previous : Option Uuid} (candidate : release.status = .candidate) :
    ReleaseStep release (release.promotedOver now actorSubject previous) := by
  refine ⟨⟨rfl, rfl, ?_, ?_, ?_, ?_⟩, ?_⟩ <;>
    simp [promotedOver, candidate, OntologyReleaseStatus.isOpen]

theorem superseded_step {promoted : OntologyReleaseRecord} :
    ReleaseStep release (promoted.superseded release) := by
  unfold superseded
  split
  · rename_i makesRoom
    have current := (Bool.and_eq_true_iff.mp makesRoom).1
    unfold isCurrent at current
    refine ⟨⟨rfl, rfl, ?_, fun _ => rfl, ?_, ?_⟩, ?_⟩ <;> cases isStatus : release.status <;>
      simp_all [OntologyReleaseStatus.isOpen, OntologyReleaseStatus.isCurrent]
  · exact ReleaseStep.refl release

theorem restored_step (superseded : release.status = .superseded) :
    ReleaseStep release release.restored := by
  refine ⟨⟨rfl, rfl, ?_, fun _ => rfl, ?_, ?_⟩, ?_⟩ <;>
    simp [restored, superseded, OntologyReleaseStatus.isOpen]

theorem takenBack_step (current : release.isCurrent = true) :
    ReleaseStep release (release.takenBack now actorSubject) := by
  unfold isCurrent at current
  refine ⟨⟨rfl, rfl, ?_, fun _ => rfl, ?_, ?_⟩, ?_⟩ <;> cases isStatus : release.status <;>
    simp_all [takenBack, OntologyReleaseStatus.isOpen, OntologyReleaseStatus.isCurrent]

end OntologyReleaseRecord

section effects

variable {pending : Option OntologyReleaseOperation} {before after : OntologyReleaseTable}

/-- Every stored release stays stored, one step later. -/
theorem OntologyReleaseEffect.step (effect : OntologyReleaseEffect pending before after)
    {releaseId : Uuid} {old : OntologyReleaseRecord} (found : before.find? releaseId = some old) :
    ∃ new, after.find? releaseId = some new ∧ ReleaseStep old new := by
  have sameId := (Table.find?_eq_some.mp found).2
  cases effect with
  | quiet same => exact ⟨old, same ▸ found, ReleaseStep.refl old⟩
  | creates release fresh stored =>
      have differs : releaseId ≠ release.id := by
        rintro rfl
        rw [fresh] at found
        cases found
      exact ⟨old, by rw [stored, Table.find?_insert_of_ne differs, found], ReleaseStep.refl old⟩
  | writes current new _ isFound stored sameDomain sameTarget rewrites =>
      by_cases same : releaseId = new.id
      · subst same
        obtain rfl := Option.some.inj (found.symm.trans isFound)
        exact ⟨new, by rw [stored, Table.find?_insert_same],
          rewrites.step sameId.symm sameDomain sameTarget⟩
      · exact ⟨old, by rw [stored, Table.find?_insert_of_ne same, found], ReleaseStep.refl old⟩
  | promotes release now actorSubject isFound candidate stored =>
      by_cases same : releaseId = release.id
      · subst same
        obtain rfl := Option.some.inj (found.symm.trans isFound)
        exact ⟨_, by rw [stored]; exact Table.find?_insert_same,
          OntologyReleaseRecord.promotedOver_step candidate⟩
      · refine ⟨release.superseded old, ?_, OntologyReleaseRecord.superseded_step⟩
        rw [stored, Table.find?_insert_of_ne (show releaseId ≠ (release.promotedOver now
          actorSubject _).id from same), Table.find?_mapRows, found, Option.map_some]
  | rollsBack release target now actorSubject isFound current isTarget targetFound differs shares
      superseded stored =>
      by_cases same : releaseId = target.id
      · subst same
        obtain rfl := Option.some.inj (found.symm.trans targetFound)
        exact ⟨old.restored, by rw [stored]; exact Table.find?_insert_same,
          OntologyReleaseRecord.restored_step superseded⟩
      · have notTarget : releaseId ≠ target.restored.id := same
        by_cases isRelease : releaseId = release.id
        · subst isRelease
          obtain rfl := Option.some.inj (found.symm.trans isFound)
          refine ⟨old.takenBack now actorSubject, ?_,
            OntologyReleaseRecord.takenBack_step current⟩
          rw [stored, Table.find?_insert_of_ne notTarget]
          exact Table.find?_insert_same
        · refine ⟨old, ?_, ReleaseStep.refl old⟩
          rw [stored, Table.find?_insert_of_ne notTarget, Table.find?_insert_of_ne
            (show releaseId ≠ (release.takenBack now actorSubject).id from isRelease), found]

theorem OntologyReleaseStatus.Rewrites.isWithdrawn {old new : OntologyReleaseStatus}
    (rewrites : old.Rewrites new) (withdrawn : old.isWithdrawn = true) : new = .archived := by
  rcases rewrites with ⟨wasOpen, -⟩ | ⟨-, isArchived⟩ | ⟨wasCurrent, -⟩
  · cases old <;> first | exact absurd withdrawn (by decide) | exact absurd wasOpen (by decide)
  · exact isArchived
  · cases old <;>
      first | exact absurd withdrawn (by decide) | exact absurd wasCurrent (by decide)

theorem OntologyReleaseStatus.Rewrites.isCurrent {old new : OntologyReleaseStatus}
    (rewrites : old.Rewrites new) (current : new.isCurrent = true) : old.isCurrent = true := by
  rcases rewrites with ⟨-, isOpen⟩ | ⟨-, rfl⟩ | ⟨wasCurrent, -⟩
  · cases new <;> first | exact absurd isOpen (by decide) | exact absurd current (by decide)
  · cases current
  · exact wasCurrent

namespace OntologyReleasesSound

theorem creates (sound : OntologyReleasesSound before) {release : OntologyReleaseRecord}
    (fresh : before.find? release.id = none) (candidate : release.status = .candidate)
    (unmarked : release.archivedAt = none) : OntologyReleasesSound (before.insert release) := by
  have notCurrent : release.isCurrent = false := by
    rw [OntologyReleaseRecord.isCurrent, candidate]
    rfl
  have isOld : ∀ current ∈ before.insert release, current.isCurrent = true → current ∈ before := by
    intro current member isCurrent
    rcases (Table.mem_insert_of_fresh fresh).mp member with old | rfl
    · exact old
    · rw [notCurrent] at isCurrent
      cases isCurrent
  have kept : ∀ stored : OntologyReleaseRecord, ∀ releaseId, before.find? releaseId = some stored →
      (before.insert release).find? releaseId = some stored := by
    intro stored releaseId found
    rw [Table.find?_insert_of_ne, found]
    rintro rfl
    rw [fresh] at found
    cases found
  refine ⟨⟨?oneCurrent, ?trails⟩, ?unmarked⟩
  case oneCurrent =>
    intro first firstMember second secondMember firstCurrent secondCurrent
    exact sound.oneCurrent first (isOld first firstMember firstCurrent) second
      (isOld second secondMember secondCurrent) firstCurrent secondCurrent
  case trails =>
    intro current member isCurrent
    have found := Table.find?_key (isOld current member isCurrent)
    obtain ⟨trail, visits⟩ := sound.trails current (isOld current member isCurrent) isCurrent
    refine ⟨trail, visits.transfer found (kept current _ found) rfl rfl ?_⟩
    intro targetId _ old isStored _ withdrawn
    exact ⟨old, kept old targetId isStored, rfl, rfl, withdrawn⟩
  case unmarked =>
    intro stored member
    rcases (Table.mem_insert_of_fresh fresh).mp member with old | rfl
    · exact sound.unmarked stored old
    · exact fun _ => unmarked

theorem writes (sound : OntologyReleasesSound before) {old new : OntologyReleaseRecord}
    (found : before.find? new.id = some old) (domainScope : new.domainScope = old.domainScope)
    (target : new.rollbackTargetReleaseId = old.rollbackTargetReleaseId)
    (rewrites : old.status.Rewrites new.status)
    (unmarked : new.status ≠ .archived → new.archivedAt = none) :
    OntologyReleasesSound (before.insert new) := by
  obtain ⟨oldMember, sameId⟩ := Table.find?_eq_some.mp found
  -- A current release was current, in its domain, with its target.
  have source : ∀ current ∈ before.insert new, current.isCurrent = true →
      ∃ was ∈ before, was.isCurrent = true ∧ was.id = current.id ∧
        current.domainScope = was.domainScope ∧
        current.rollbackTargetReleaseId = was.rollbackTargetReleaseId := by
    intro current member isCurrent
    rcases Table.mem_insert_iff.mp member with rfl | ⟨-, isOld⟩
    · exact ⟨old, oldMember, rewrites.isCurrent isCurrent, sameId, domainScope, target⟩
    · exact ⟨current, isOld, isCurrent, rfl, rfl, rfl⟩
  refine ⟨⟨?oneCurrent, ?trails⟩, ?unmarked⟩
  case oneCurrent =>
    intro first firstMember second secondMember firstCurrent secondCurrent shares
    obtain ⟨firstWas, firstIn, firstWasCurrent, firstId, firstDomain, -⟩ :=
      source first firstMember firstCurrent
    obtain ⟨secondWas, secondIn, secondWasCurrent, secondId, secondDomain, -⟩ :=
      source second secondMember secondCurrent
    rw [OntologyReleaseRecord.sharesDomain_congr firstDomain secondDomain] at shares
    have same := sound.oneCurrent firstWas firstIn secondWas secondIn firstWasCurrent
      secondWasCurrent shares
    exact Table.eq_of_key_eq firstMember secondMember
      (firstId.symm.trans ((congrArg _ same).trans secondId))
  case trails =>
    intro current member isCurrent
    obtain ⟨was, isIn, wasCurrent, isId, sameDomain, sameTarget⟩ := source current member isCurrent
    obtain ⟨trail, visits⟩ := sound.trails was isIn wasCurrent
    refine ⟨trail, visits.transfer (Table.find?_key isIn) (isId ▸ Table.find?_key member)
      sameDomain sameTarget ?_⟩
    intro targetId _ stored isStored _ withdrawn
    by_cases isNew : targetId = new.id
    · subst isNew
      obtain rfl := Option.some.inj (found.symm.trans isStored)
      refine ⟨new, Table.find?_insert_same, domainScope, target, ?_⟩
      rw [rewrites.isWithdrawn withdrawn]
      rfl
    · exact ⟨stored, by rw [Table.find?_insert_of_ne isNew, isStored], rfl, rfl, withdrawn⟩
  case unmarked =>
    intro stored member
    rcases Table.mem_insert_iff.mp member with rfl | ⟨-, isOld⟩
    · exact unmarked
    · exact sound.unmarked stored isOld

theorem mem_currentReleases {release current : OntologyReleaseRecord} :
    current ∈ currentReleases release before ↔
      current ∈ before ∧ current.isCurrent = true ∧ release.sharesDomain current = true := by
  simp [currentReleases, List.mem_insertionSort, Table.mem_iff]

/-- What a promotion leaves: the promoted release, and the others after they made room. -/
theorem mem_promoted {release other : OntologyReleaseRecord} {now : Timestamp}
    {actorSubject : String} {previous : Option Uuid} :
    other ∈ (before.mapRows release.superseded release.superseded_id).insert
        (release.promotedOver now actorSubject previous) ↔
      other = release.promotedOver now actorSubject previous ∨
        ∃ old ∈ before, old.id ≠ release.id ∧ release.superseded old = other := by
  have sameId : (release.promotedOver now actorSubject previous).id = release.id := rfl
  rw [Table.mem_insert_iff, Table.mem_mapRows, sameId]
  constructor
  · rintro (isNew | ⟨isOther, old, member, rfl⟩)
    · exact .inl isNew
    · rw [OntologyReleaseRecord.superseded_id] at isOther
      exact .inr ⟨old, member, isOther, rfl⟩
  · rintro (isNew | ⟨old, member, isOther, rfl⟩)
    · exact .inl isNew
    · exact .inr ⟨by rwa [OntologyReleaseRecord.superseded_id], old, member, rfl⟩

end OntologyReleasesSound

theorem OntologyReleaseRecord.superseded_of_isCurrent {promoted release : OntologyReleaseRecord}
    (current : (promoted.superseded release).isCurrent = true) :
    promoted.superseded release = release ∧ promoted.sharesDomain release = false := by
  unfold superseded at current ⊢
  split at current
  · cases current
  · rename_i noRoom
    rw [if_neg noRoom]
    rw [current, Bool.true_and] at noRoom
    exact ⟨rfl, Bool.eq_false_of_not_eq_true noRoom⟩

theorem OntologyReleaseRecord.superseded_of_isWithdrawn {promoted release : OntologyReleaseRecord}
    (withdrawn : release.status.isWithdrawn = true) : promoted.superseded release = release := by
  unfold superseded
  rw [isCurrent, OntologyReleaseStatus.isCurrent_of_isWithdrawn withdrawn, Bool.false_and]
  exact if_neg Bool.false_ne_true

namespace OntologyReleasesSound

theorem promotes (sound : OntologyReleasesSound before) {release : OntologyReleaseRecord}
    {now : Timestamp} {actorSubject : String} (found : before.find? release.id = some release)
    (candidate : release.status = .candidate) :
    OntologyReleasesSound ((before.mapRows release.superseded release.superseded_id).insert
      (release.promotedOver now actorSubject
        ((currentReleases release before).getLast?.map OntologyReleaseRecord.id))) := by
  generalize isPrevious : (currentReleases release before).getLast? = previous
  generalize isPromoted :
    release.promotedOver now actorSubject (previous.map OntologyReleaseRecord.id) = promoted
  generalize isAfter :
    (before.mapRows release.superseded release.superseded_id).insert promoted = after
  have sameId : promoted.id = release.id := isPromoted ▸ rfl
  have sameDomain : promoted.domainScope = release.domainScope := isPromoted ▸ rfl
  have isTarget : promoted.rollbackTargetReleaseId = previous.map OntologyReleaseRecord.id :=
    isPromoted ▸ rfl
  have promotedFound : after.find? promoted.id = some promoted :=
    isAfter ▸ Table.find?_insert_same
  have kept : ∀ stored : OntologyReleaseRecord, ∀ releaseId, releaseId ≠ release.id →
      before.find? releaseId = some stored →
      after.find? releaseId = some (release.superseded stored) := by
    intro stored releaseId differs isStored
    rw [← sameId] at differs
    rw [← isAfter, Table.find?_insert_of_ne differs, Table.find?_mapRows, isStored,
      Option.map_some]
  have withdrawnKept : ∀ stored : OntologyReleaseRecord, ∀ releaseId,
      before.find? releaseId = some stored → stored.status.isWithdrawn = true →
      after.find? releaseId = some stored := by
    intro stored releaseId isStored withdrawn
    have differs : releaseId ≠ release.id := by
      rintro rfl
      obtain rfl := Option.some.inj (found.symm.trans isStored)
      rw [candidate] at withdrawn
      cases withdrawn
    rw [kept stored releaseId differs isStored,
      OntologyReleaseRecord.superseded_of_isWithdrawn withdrawn]
  -- What is current is the promoted release, or was current in another domain.
  have source : ∀ current ∈ after, current.isCurrent = true → current = promoted ∨
      (current ∈ before ∧ release.sharesDomain current = false) := by
    intro current member isCurrent
    rw [← isAfter, ← isPromoted] at member
    rcases mem_promoted.mp member with isNew | ⟨old, isOld, -, rfl⟩
    · exact .inl (isNew.trans isPromoted)
    · obtain ⟨same, elsewhere⟩ := OntologyReleaseRecord.superseded_of_isCurrent isCurrent
      rw [same]
      exact .inr ⟨isOld, elsewhere⟩
  have excluded : ∀ other, promoted.sharesDomain other = true →
      release.sharesDomain other = false → False := by
    intro other shares elsewhere
    rw [OntologyReleaseRecord.sharesDomain_congr sameDomain rfl, elsewhere] at shares
    cases shares
  refine ⟨⟨?oneCurrent, ?trails⟩, ?unmarked⟩
  case oneCurrent =>
    intro first firstMember second secondMember firstCurrent secondCurrent shares
    rcases source first firstMember firstCurrent with rfl | ⟨firstIn, firstElsewhere⟩
    · rcases source second secondMember secondCurrent with rfl | ⟨-, elsewhere⟩
      · rfl
      · exact (excluded second shares elsewhere).elim
    · rcases source second secondMember secondCurrent with rfl | ⟨secondIn, -⟩
      · exact (excluded first (OntologyReleaseRecord.sharesDomain_symm shares)
          firstElsewhere).elim
      · exact sound.oneCurrent first firstIn second secondIn firstCurrent secondCurrent shares
  case trails =>
    intro current member isCurrent
    rcases source current member isCurrent with rfl | ⟨isIn, -⟩
    · cases previous with
      | none =>
          have ends : rollbackTargetOf after current.id = none := by
            rw [rollbackTargetOf, promotedFound, Option.bind_some, isTarget, Option.map_none]
          exact ⟨[], { along := ends, targets := by simp }⟩
      | some previous =>
          -- The release that was current heads the trail that it had.
          obtain ⟨previousIn, previousCurrent, previousShares⟩ :=
            mem_currentReleases.mp (List.mem_of_getLast? isPrevious)
          have previousFound := Table.find?_key previousIn
          have differs : previous.id ≠ release.id := by
            intro same
            rw [same] at previousFound
            obtain rfl := Option.some.inj (found.symm.trans previousFound)
            rw [OntologyReleaseRecord.isCurrent, candidate] at previousCurrent
            cases previousCurrent
          have isSuperseded : release.superseded previous =
              { previous with status := .superseded } :=
            if_pos (Bool.and_eq_true_iff.mpr ⟨previousCurrent, previousShares⟩)
          have isNow : after.find? previous.id =
              some { previous with status := .superseded } :=
            isSuperseded ▸ kept previous previous.id differs previousFound
          obtain ⟨trail, visits⟩ := sound.trails previous previousIn previousCurrent
          have moved : RollbackTrail after { previous with status := .superseded } trail := by
            apply visits.transfer previousFound isNow rfl rfl
            intro targetId _ old isOld _ withdrawn
            exact ⟨old, withdrawnKept old targetId isOld withdrawn, rfl, rfl, withdrawn⟩
          have leads : rollbackTargetOf after current.id = some previous.id := by
            rw [rollbackTargetOf, promotedFound, Option.bind_some, isTarget, Option.map_some]
          refine ⟨previous.id :: trail, { along := ⟨leads, moved.along⟩, targets := ?_ }⟩
          have shares : current.sharesDomain previous = true := by
            rwa [OntologyReleaseRecord.sharesDomain_congr sameDomain rfl]
          intro targetId onTrail
          rcases List.mem_cons.mp onTrail with rfl | onRest
          · exact ⟨_, isNow, shares, rfl⟩
          · obtain ⟨target, targetFound, targetShares, withdrawn⟩ := moved.targets targetId onRest
            exact ⟨target, targetFound,
              OntologyReleaseRecord.sharesDomain_trans shares targetShares, withdrawn⟩
    · have isFound := Table.find?_key isIn
      obtain ⟨trail, visits⟩ := sound.trails current isIn isCurrent
      refine ⟨trail, visits.transfer isFound (Table.find?_key member) rfl rfl ?_⟩
      intro targetId _ old isOld _ withdrawn
      exact ⟨old, withdrawnKept old targetId isOld withdrawn, rfl, rfl, withdrawn⟩
  case unmarked =>
    intro stored member notArchived
    rw [← isAfter, ← isPromoted] at member
    rcases mem_promoted.mp member with rfl | ⟨old, isOld, -, rfl⟩
    · have unmarked := sound.unmarked release (Table.find?_eq_some.mp found).1
      rw [candidate] at unmarked
      exact unmarked (by simp)
    · have unmarked := sound.unmarked old isOld
      unfold OntologyReleaseRecord.superseded at notArchived ⊢
      split at notArchived
      · rename_i makesRoom
        have current := (Bool.and_eq_true_iff.mp makesRoom).1
        rw [if_pos makesRoom]
        apply unmarked
        intro isArchived
        rw [OntologyReleaseRecord.isCurrent, isArchived] at current
        cases current
      · rename_i noRoom
        rw [if_neg noRoom]
        exact unmarked notArchived

theorem rollsBack (sound : OntologyReleasesSound before) {release target : OntologyReleaseRecord}
    {now : Timestamp} {actorSubject : String} (found : before.find? release.id = some release)
    (current : release.isCurrent = true)
    (isTarget : release.rollbackTargetReleaseId = some target.id)
    (targetFound : before.find? target.id = some target)
    (shares : release.sharesDomain target = true) (superseded : target.status = .superseded) :
    OntologyReleasesSound
      ((before.insert (release.takenBack now actorSubject)).insert target.restored) := by
  generalize isAfter :
    (before.insert (release.takenBack now actorSubject)).insert target.restored = after
  have member := (Table.find?_eq_some.mp found).1
  have targetMember := (Table.find?_eq_some.mp targetFound).1
  have restoredFound : after.find? target.id = some target.restored :=
    isAfter ▸ Table.find?_insert_same
  have kept : ∀ releaseId, releaseId ≠ target.id → releaseId ≠ release.id →
      after.find? releaseId = before.find? releaseId := by
    intro releaseId notTarget notRelease
    rw [← isAfter, Table.find?_insert_of_ne (show releaseId ≠ target.restored.id from notTarget),
      Table.find?_insert_of_ne
        (show releaseId ≠ (release.takenBack now actorSubject).id from notRelease)]
  have membership : ∀ stored ∈ after, stored = target.restored ∨
      stored = release.takenBack now actorSubject ∨
        (stored.id ≠ target.id ∧ stored.id ≠ release.id ∧ stored ∈ before) := by
    intro stored isStored
    rw [← isAfter] at isStored
    rcases Table.mem_insert_iff.mp isStored with isRestored | ⟨notTarget, isStored⟩
    · exact .inl isRestored
    · rcases Table.mem_insert_iff.mp isStored with isTaken | ⟨notRelease, isOld⟩
      · exact .inr (.inl isTaken)
      · exact .inr (.inr ⟨notTarget, notRelease, isOld⟩)
  -- What else is current was current, in another domain.
  have elsewhere : ∀ other ∈ before, other.isCurrent = true → other.id ≠ release.id →
      target.sharesDomain other = false := by
    intro other isOther otherCurrent notRelease
    apply Bool.eq_false_of_not_eq_true
    intro sharesTarget
    apply notRelease
    rw [sound.oneCurrent release member other isOther current otherCurrent
      (OntologyReleaseRecord.sharesDomain_trans shares sharesTarget)]
  have source : ∀ stored ∈ after, stored.isCurrent = true → stored = target.restored ∨
      (stored.id ≠ release.id ∧ stored ∈ before) := by
    intro stored isStored isCurrent
    rcases membership stored isStored with isRestored | rfl | ⟨-, notRelease, isOld⟩
    · exact .inl isRestored
    · cases isCurrent
    · exact .inr ⟨notRelease, isOld⟩
  have excluded : ∀ other ∈ before, other.isCurrent = true → other.id ≠ release.id →
      target.restored.sharesDomain other = true → False := by
    intro other isOther otherCurrent notRelease sharesTarget
    have apart : target.restored.sharesDomain other = false :=
      elsewhere other isOther otherCurrent notRelease
    rw [apart] at sharesTarget
    cases sharesTarget
  have notCurrent : release.status.isWithdrawn = false := by
    apply Bool.eq_false_of_not_eq_true
    intro withdrawn
    rw [OntologyReleaseRecord.isCurrent,
      OntologyReleaseStatus.isCurrent_of_isWithdrawn withdrawn] at current
    cases current
  have notReleaseOf : ∀ releaseId, ∀ stored : OntologyReleaseRecord,
      before.find? releaseId = some stored → stored.status.isWithdrawn = true →
      releaseId ≠ release.id := by
    rintro releaseId stored isStored withdrawn rfl
    obtain rfl := Option.some.inj (found.symm.trans isStored)
    rw [notCurrent] at withdrawn
    cases withdrawn
  refine ⟨⟨?oneCurrent, ?trails⟩, ?unmarked⟩
  case oneCurrent =>
    intro first firstMember second secondMember firstCurrent secondCurrent sharesDomain
    rcases source first firstMember firstCurrent with rfl | ⟨firstOther, firstIn⟩
    · rcases source second secondMember secondCurrent with rfl | ⟨secondOther, secondIn⟩
      · rfl
      · exact (excluded second secondIn secondCurrent secondOther sharesDomain).elim
    · rcases source second secondMember secondCurrent with rfl | ⟨-, secondIn⟩
      · exact (excluded first firstIn firstCurrent firstOther
          (OntologyReleaseRecord.sharesDomain_symm sharesDomain)).elim
      · exact sound.oneCurrent first firstIn second secondIn firstCurrent secondCurrent
          sharesDomain
  case trails =>
    intro stored isStored isCurrent
    rcases source stored isStored isCurrent with rfl | ⟨notRelease, isOld⟩
    · -- The rest of the trail is that of the restored release.
      obtain ⟨rest, visits⟩ := sound.toReleaseStack.target found current isTarget
      have restVisits : RollbackTrail before target rest := by
        refine { along := visits.along.2, targets := fun targetId onRest => ?_ }
        obtain ⟨old, isOld, oldShares, withdrawn⟩ :=
          visits.targets targetId (List.mem_cons_of_mem _ onRest)
        exact ⟨old, isOld, OntologyReleaseRecord.sharesDomain_trans
          (OntologyReleaseRecord.sharesDomain_symm shares) oldShares, withdrawn⟩
      refine ⟨rest, restVisits.transfer targetFound restoredFound rfl rfl ?_⟩
      intro targetId onRest old isOld _ withdrawn
      have notTarget : targetId ≠ target.id := by
        rintro rfl
        exact (List.nodup_cons.mp restVisits.acyclic).1 onRest
      exact ⟨old, by rw [kept targetId notTarget (notReleaseOf targetId old isOld withdrawn),
        isOld], rfl, rfl, withdrawn⟩
    · obtain ⟨trail, visits⟩ := sound.trails stored isOld isCurrent
      refine ⟨trail, visits.transfer (Table.find?_key isOld) (Table.find?_key isStored) rfl rfl ?_⟩
      intro targetId _ old isTargetOld oldShares withdrawn
      have notTarget : targetId ≠ target.id := by
        rintro rfl
        obtain rfl := Option.some.inj (targetFound.symm.trans isTargetOld)
        have apart := elsewhere stored isOld isCurrent notRelease
        rw [OntologyReleaseRecord.sharesDomain_symm oldShares] at apart
        cases apart
      exact ⟨old, by rw [kept targetId notTarget (notReleaseOf targetId old isTargetOld withdrawn),
        isTargetOld], rfl, rfl, withdrawn⟩
  case unmarked =>
    intro stored isStored notArchived
    rcases membership stored isStored with rfl | rfl | ⟨-, -, isOld⟩
    · apply sound.unmarked target targetMember
      rw [superseded]
      exact nofun
    · apply sound.unmarked release member
      intro isArchived
      rw [OntologyReleaseRecord.isCurrent, isArchived] at current
      cases current
    · exact sound.unmarked stored isOld notArchived

end OntologyReleasesSound

theorem OntologyReleaseEffect.sound (effect : OntologyReleaseEffect pending before after)
    (sound : OntologyReleasesSound before) : OntologyReleasesSound after := by
  cases effect with
  | quiet same => exact same ▸ sound
  | creates release fresh stored candidate unmarked =>
      exact stored ▸ sound.creates fresh candidate unmarked
  | writes old new _ found stored domainScope target rewrites unmarked =>
      exact stored ▸ sound.writes found domainScope target rewrites unmarked
  | promotes release now actorSubject found candidate stored =>
      exact stored ▸ sound.promotes found candidate
  | rollsBack release target now actorSubject found current isTarget targetFound differs shares
      superseded stored =>
      exact stored ▸ sound.rollsBack found current isTarget targetFound shares superseded

end effects

end MandoForge
