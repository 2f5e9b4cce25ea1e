/-
Module: MandoForge.Ontology.PublishSteps
Purpose: What one store operation can do to what the ontology releases hold, when the
  candidates are built from proposals and gated on their evidence: a release that can
  still be promoted extends the release that it was built on, and what passed its gate
  was judged by what it holds now.
Trusted boundary: beside the calls only the clock moves.
Main exports: PublishCall, CatalogsSound
-/
import MandoForge.Foundation.Runs
import MandoForge.Ontology.CatalogInheritance
import MandoForge.Ontology.ReleaseStack

namespace MandoForge

open Foundation

/-! ### Runs -/

/-- The calls on releases, with the candidates and the gates that the source has. -/
inductive PublishCall where
  | create (draw : Uuid) (request : CandidateRequest)
  | gate (releaseId : Uuid) (getSemanticObject : Uuid → Except AppError ProfiledObject)
      (actorSubject : String)
  | promote (releaseId : Uuid) (actorSubject : String)
  | rollback (releaseId : Uuid) (actorSubject : String)
  | archive (releaseId : Uuid)
  | updateTriggerStatus (releaseId : Uuid) (releaseStatus : TriggeredStatus)
      (triggerStatus actorSubject : String) (errorMessage : Option String)

def PublishCall.releaseCall (codec : OntologyCodec) : PublishCall → OntologyReleaseCall
  | create draw request =>
      .create draw request.domainScope (ontologyReleaseCandidate codec request)
  | gate releaseId getSemanticObject actorSubject =>
      .gate releaseId (ontologyReleaseFindings codec getSemanticObject) actorSubject
  | promote releaseId actorSubject => .promote releaseId actorSubject
  | rollback releaseId actorSubject => .rollback releaseId actorSubject
  | archive releaseId => .archive releaseId
  | updateTriggerStatus releaseId releaseStatus triggerStatus actorSubject errorMessage =>
      .updateTriggerStatus releaseId releaseStatus triggerStatus actorSubject errorMessage

/-- A call remembers the releases that it read, one by one or in a list. -/
def publishTells : (operation : OntologyReleaseOperation) → operation.Answer →
    List OntologyReleaseRecord → List OntologyReleaseRecord
  | .getRelease _, .ok release, told => release :: told
  | .listReleases _, (releases : List OntologyReleaseRecord), told => releases ++ told
  | _, _, told => told

def publishObserver : Observer OntologyReleaseStore (List OntologyReleaseRecord) Unit where
  tells := publishTells
  acts _ _ heard := heard
  overhears _ _ heard := heard

inductive PublishEvent where
  | enter (call : PublishCall)
  /-- One of the calls performs its next store operation. -/
  | operate (index : Nat)
  | tick (clock : Timestamp)

def PublishEvent.perform (host : Host) (codec : OntologyCodec) (event : PublishEvent)
    (pool : OntologyReleasePool) : OntologyReleasePool :=
  match event with
  | .enter call => pool.enter ((call.releaseCall codec).program host) [] ()
  | .operate index => pool.operate publishObserver index
  | .tick clock => { pool with state := { pool.state with clock } }

/-- The operation that an event performs. -/
def PublishEvent.operation (event : PublishEvent) (pool : OntologyReleasePool) :
    Option OntologyReleaseOperation :=
  match event with
  | .operate index => (pool.next index).map Prod.snd
  | _ => none

/-! ### What a release keeps -/

/-- The statuses of a release that is the current one of its domain, or was. -/
def OntologyReleaseStatus.isPublished : OntologyReleaseStatus → Bool
  | active | activeTriggerFailed | superseded | rolledBack => true
  | _ => false

/-- The release has what a gate asks of its evidence. -/
structure GateJudged (codec : OntologyCodec) (release : OntologyReleaseRecord) : Prop where
  contracts : ontologyReleaseActionContractSnapshotsReady codec release = true
  catalog : ∃ found, releaseCatalogFromEvidence codec release = .ok found

/-- A release after some steps of a run, in what it holds. -/
structure ContentLater (old new : OntologyReleaseRecord) : Prop where
  id : new.id = old.id
  content : ReleaseContent old new
  opened : new.status.isOpen = true → old.status.isOpen = true
  /-- A promotion alone changes the links, and ends the gating. -/
  links : new.status.isOpen = old.status.isOpen →
    new.parentReleaseId = old.parentReleaseId ∧
      new.rollbackTargetReleaseId = old.rollbackTargetReleaseId

/-- A release after a step that promotes nothing. -/
structure RowKept (codec : OntologyCodec) (old new : OntologyReleaseRecord) : Prop where
  id : new.id = old.id
  content : ReleaseContent old new
  parent : new.parentReleaseId = old.parentReleaseId
  target : new.rollbackTargetReleaseId = old.rollbackTargetReleaseId
  phase : new.status = .archived ∨ new.status.isOpen = old.status.isOpen ∧
    new.status.isPublished = old.status.isPublished
  judged : validateOntologyReleasePromotable new = .ok () →
    validateOntologyReleasePromotable old = .ok () ∨ GateJudged codec new

theorem ContentLater.refl (release : OntologyReleaseRecord) : ContentLater release release :=
  ⟨rfl, ReleaseContent.refl release, fun isOpen => isOpen, fun _ => ⟨rfl, rfl⟩⟩

theorem ContentLater.trans {old middle new : OntologyReleaseRecord}
    (one : ContentLater old middle) (two : ContentLater middle new) : ContentLater old new where
  id := two.id.trans one.id
  content := one.content.trans two.content
  opened isOpen := one.opened (two.opened isOpen)
  links same := by
    -- The one between is open exactly when both are.
    have between : middle.status.isOpen = new.status.isOpen := by
      cases newOpen : new.status.isOpen with
      | true => exact two.opened newOpen
      | false =>
          rw [newOpen] at same
          apply Bool.eq_false_of_not_eq_true
          intro middleOpen
          rw [one.opened middleOpen] at same
          cases same
    have early := one.links (between.trans same)
    have late := two.links between.symm
    exact ⟨late.1.trans early.1, late.2.trans early.2⟩

theorem ContentLater.superseded {promoted release : OntologyReleaseRecord} :
    ContentLater release (promoted.superseded release) := by
  have opened := (@OntologyReleaseRecord.superseded_step release promoted).opened
  unfold OntologyReleaseRecord.superseded at opened ⊢
  split
  · rename_i makesRoom
    rw [if_pos makesRoom] at opened
    exact ⟨rfl, ⟨rfl, rfl, rfl, rfl, rfl, rfl⟩, opened, fun _ => ⟨rfl, rfl⟩⟩
  · exact ContentLater.refl release

theorem ContentLater.promotedOver {release : OntologyReleaseRecord} {now : Timestamp}
    {actorSubject : String} {previous : Option Uuid} (candidate : release.status = .candidate) :
    ContentLater release (release.promotedOver now actorSubject previous) where
  id := rfl
  content := ⟨rfl, rfl, rfl, rfl, rfl, rfl⟩
  opened isOpen := nomatch isOpen
  links same := by
    rw [candidate] at same
    cases same

section rows

variable {codec : OntologyCodec} {old middle new : OntologyReleaseRecord}

theorem GateJudged.congr (judged : GateJudged codec old) (content : ReleaseContent old new)
    (parent : new.parentReleaseId = old.parentReleaseId) : GateJudged codec new where
  contracts := by
    have ready := judged.contracts
    unfold ontologyReleaseActionContractSnapshotsReady ontologyActionToolSpecForRelease at ready ⊢
    rwa [content.evidenceRefs, content.actionCount, content.sourceRunId, parent]
  catalog := by
    rw [releaseCatalogFromEvidence_congr content]
    exact judged.catalog

theorem RowKept.refl (release : OntologyReleaseRecord) : RowKept codec release release :=
  ⟨rfl, ReleaseContent.refl release, rfl, rfl, .inr ⟨rfl, rfl⟩, .inl⟩

theorem RowKept.trans (one : RowKept codec old middle) (two : RowKept codec middle new) :
    RowKept codec old new where
  id := two.id.trans one.id
  content := one.content.trans two.content
  parent := two.parent.trans one.parent
  target := two.target.trans one.target
  phase := by
    rcases two.phase with isArchived | ⟨sameOpen, samePublished⟩
    · exact .inl isArchived
    · rcases one.phase with wasArchived | ⟨wasOpen, wasPublished⟩
      · left
        rw [wasArchived] at sameOpen samePublished
        cases isStatus : new.status <;>
          simp_all [OntologyReleaseStatus.isOpen, OntologyReleaseStatus.isPublished]
      · exact .inr ⟨sameOpen.trans wasOpen, samePublished.trans wasPublished⟩
  judged promotable := by
    rcases two.judged promotable with wasPromotable | isJudged
    · rcases one.judged wasPromotable with earlier | wasJudged
      · exact .inl earlier
      · exact .inr (wasJudged.congr two.content two.parent)
    · exact .inr isJudged

theorem RowKept.opened (kept : RowKept codec old new) (isOpen : new.status.isOpen = true) :
    old.status.isOpen = true := by
  rcases kept.phase with isArchived | ⟨same, -⟩
  · rw [isArchived] at isOpen
    cases isOpen
  · exact same ▸ isOpen

theorem RowKept.published (kept : RowKept codec old new)
    (published : new.status.isPublished = true) : old.status.isPublished = true := by
  rcases kept.phase with isArchived | ⟨-, same⟩
  · rw [isArchived] at published
    cases published
  · exact same ▸ published

theorem RowKept.later (kept : RowKept codec old new) : ContentLater old new :=
  ⟨kept.id, kept.content, kept.opened, fun _ => ⟨kept.parent, kept.target⟩⟩

/-- What a call may write over a release that it read. -/
structure Rewritten (codec : OntologyCodec) (read written : OntologyReleaseRecord) : Prop where
  id : written.id = read.id
  content : ReleaseContent read written
  parent : written.parentReleaseId = read.parentReleaseId
  target : written.rollbackTargetReleaseId = read.rollbackTargetReleaseId
  status : read.status.Rewrites written.status
  judged : validateOntologyReleasePromotable written = .ok () → GateJudged codec written

theorem OntologyReleaseStatus.isPublished_of_isOpen {status : OntologyReleaseStatus}
    (isOpen : status.isOpen = true) : status.isPublished = false := by
  cases status <;> first | rfl | exact absurd isOpen (by decide)

theorem OntologyReleaseStatus.isPublished_of_isCurrent {status : OntologyReleaseStatus}
    (current : status.isCurrent = true) : status.isPublished = true := by
  cases status <;> first | rfl | exact absurd current (by decide)

theorem OntologyReleaseStatus.isOpen_of_isPublished {status : OntologyReleaseStatus}
    (published : status.isPublished = true) : status.isOpen = false := by
  cases status <;> first | rfl | exact absurd published (by decide)

theorem OntologyReleaseStatus.Rewrites.phase {old new : OntologyReleaseStatus}
    (rewrites : old.Rewrites new) :
    new = .archived ∨ new.isOpen = old.isOpen ∧ new.isPublished = old.isPublished := by
  rcases rewrites with ⟨wasOpen, isOpen⟩ | ⟨-, isArchived⟩ | ⟨wasCurrent, isCurrent⟩
  · exact .inr ⟨isOpen.trans wasOpen.symm,
      (isPublished_of_isOpen isOpen).trans (isPublished_of_isOpen wasOpen).symm⟩
  · exact .inl isArchived
  · have was := isPublished_of_isCurrent wasCurrent
    have is := isPublished_of_isCurrent isCurrent
    exact .inr ⟨(isOpen_of_isPublished is).trans (isOpen_of_isPublished was).symm,
      is.trans was.symm⟩

theorem OntologyReleaseRecord.takenBack_kept {now : Timestamp} {actorSubject : String}
    (current : old.isCurrent = true) : RowKept codec old (old.takenBack now actorSubject) where
  id := rfl
  content := ⟨rfl, rfl, rfl, rfl, rfl, rfl⟩
  parent := rfl
  target := rfl
  phase := by
    have published := OntologyReleaseStatus.isPublished_of_isCurrent current
    exact .inr ⟨(OntologyReleaseStatus.isOpen_of_isPublished published).symm, published.symm⟩
  judged promotable := by cases promotable

theorem OntologyReleaseRecord.restored_kept (published : old.status.isPublished = true) :
    RowKept codec old old.restored where
  id := rfl
  content := ⟨rfl, rfl, rfl, rfl, rfl, rfl⟩
  parent := rfl
  target := rfl
  phase := .inr ⟨(OntologyReleaseStatus.isOpen_of_isPublished published).symm, published.symm⟩
  judged promotable := by cases promotable

theorem OntologyReleaseRecord.superseded_kept {promoted : OntologyReleaseRecord} :
    RowKept codec old (promoted.superseded old) := by
  unfold superseded
  split
  · rename_i makesRoom
    have published :=
      OntologyReleaseStatus.isPublished_of_isCurrent (Bool.and_eq_true_iff.mp makesRoom).1
    refine ⟨rfl, ⟨rfl, rfl, rfl, rfl, rfl, rfl⟩, rfl, rfl, .inr ⟨?isOpen, published.symm⟩, ?judged⟩
    case isOpen => exact (OntologyReleaseStatus.isOpen_of_isPublished published).symm
    case judged => exact fun promotable => by cases promotable
  · exact RowKept.refl old

end rows

/-! ### What one operation does -/

section effects

variable (codec : OntologyCodec)

/-- No release is stored or promoted, and each keeps what it holds. -/
structure RowsKept (before after : OntologyReleaseTable) : Prop where
  came : ∀ new ∈ after, ∃ old, before.find? new.id = some old ∧ RowKept codec old new
  stays : ∀ old ∈ before, ∃ new, after.find? old.id = some new

/-- What an operation, if any, does to the releases, in what they hold. -/
inductive PublishEffect (pending : Option OntologyReleaseOperation)
    (before after : OntologyReleaseTable) : Prop where
  | kept (rows : RowsKept codec before after)
  | creates (release : OntologyReleaseRecord) (fresh : before.find? release.id = none)
      (stored : after = before.insert release) (candidate : release.status = .candidate)
      (ungated : validateOntologyReleasePromotable release ≠ .ok ())
      (base : ∀ parentId, release.parentReleaseId = some parentId →
        ∃ parent, before.find? parentId = some parent ∧ ReleaseExtends codec parent release)
  | promotes (release : OntologyReleaseRecord) (now : Timestamp) (actorSubject : String)
      (isPromotion : pending = some (.promote release.id actorSubject))
      (found : before.find? release.id = some release)
      (promotable : validateOntologyReleasePromotable release = .ok ())
      (stored : after = (before.mapRows release.superseded release.superseded_id).insert
        (release.promotedOver now actorSubject
          ((currentReleases release before).getLast?.map OntologyReleaseRecord.id)))

/-- What holds of the stored releases: what each was built on, what its gate found, and
that what was current before it is published, or put away. -/
structure CatalogsSound (releases : OntologyReleaseTable) : Prop where
  bases : ∀ release ∈ releases, release.status.isOpen = true →
    ∀ parentId, release.parentReleaseId = some parentId →
      ∃ parent, releases.find? parentId = some parent ∧ ReleaseExtends codec parent release
  judged : ∀ release ∈ releases, validateOntologyReleasePromotable release = .ok () →
    GateJudged codec release
  targets : ∀ release ∈ releases, release.status.isPublished = true →
    ∀ targetId, release.rollbackTargetReleaseId = some targetId →
      ∃ target, releases.find? targetId = some target ∧
        (target.status.isPublished = true ∨ target.status = .archived)

variable {codec} {pending : Option OntologyReleaseOperation}
  {before middle after : OntologyReleaseTable}

theorem RowsKept.refl (releases : OntologyReleaseTable) : RowsKept codec releases releases where
  came release member := ⟨release, Table.find?_key member, RowKept.refl release⟩
  stays release member := ⟨release, Table.find?_key member⟩

theorem RowsKept.trans (one : RowsKept codec before middle) (two : RowsKept codec middle after) :
    RowsKept codec before after where
  came new member := by
    obtain ⟨between, isBetween, late⟩ := two.came new member
    obtain ⟨isStored, sameId⟩ := Table.find?_eq_some.mp isBetween
    obtain ⟨old, isOld, early⟩ := one.came between isStored
    exact ⟨old, sameId ▸ isOld, early.trans late⟩
  stays old member := by
    obtain ⟨between, isBetween⟩ := one.stays old member
    obtain ⟨isStored, sameId⟩ := Table.find?_eq_some.mp isBetween
    obtain ⟨new, isNew⟩ := two.stays between isStored
    exact ⟨new, sameId ▸ isNew⟩

theorem RowsKept.insert {old new : OntologyReleaseRecord}
    (found : before.find? new.id = some old) (kept : RowKept codec old new) :
    RowsKept codec before (before.insert new) where
  came other member := by
    rcases Table.mem_insert_iff.mp member with rfl | ⟨-, isOld⟩
    · exact ⟨old, found, kept⟩
    · exact ⟨other, Table.find?_key isOld, RowKept.refl other⟩
  stays other member := by
    by_cases same : other.id = new.id
    · exact ⟨new, same ▸ Table.find?_insert_same⟩
    · exact ⟨other, (Table.find?_insert_of_ne same).trans (Table.find?_key member)⟩

/-- Every stored release stays stored, with what it holds. -/
theorem PublishEffect.later (effect : PublishEffect codec pending before after) {releaseId : Uuid}
    {old : OntologyReleaseRecord} (found : before.find? releaseId = some old) :
    ∃ new, after.find? releaseId = some new ∧ ContentLater old new := by
  obtain ⟨isStored, rfl⟩ := Table.find?_eq_some.mp found
  cases effect with
  | kept rows =>
      obtain ⟨new, isNew⟩ := rows.stays old isStored
      obtain ⟨member, sameId⟩ := Table.find?_eq_some.mp isNew
      obtain ⟨same, isSame, kept⟩ := rows.came new member
      rw [sameId, found] at isSame
      obtain rfl := Option.some.inj isSame
      exact ⟨new, isNew, kept.later⟩
  | creates release fresh stored =>
      have differs : old.id ≠ release.id := by
        intro same
        rw [same, fresh] at found
        cases found
      exact ⟨old, by rw [stored, Table.find?_insert_of_ne differs, found], ContentLater.refl old⟩
  | promotes release now actorSubject _ isFound promotable stored =>
      by_cases same : old.id = release.id
      · rw [same, isFound] at found
        obtain rfl := Option.some.inj found
        exact ⟨_, by rw [stored]; exact Table.find?_insert_same,
          ContentLater.promotedOver (validateOntologyReleasePromotable_eq_ok promotable)⟩
      · refine ⟨release.superseded old, ?_, ContentLater.superseded⟩
        rw [stored, Table.find?_insert_of_ne (show old.id ≠ (release.promotedOver now
          actorSubject _).id from same), Table.find?_mapRows, found, Option.map_some]

theorem PublishEffect.base (effect : PublishEffect codec pending before after) {parentId : Uuid}
    {release new : OntologyReleaseRecord}
    (base : ∃ parent, before.find? parentId = some parent ∧ ReleaseExtends codec parent release)
    (content : ReleaseContent release new) :
    ∃ parent, after.find? parentId = some parent ∧ ReleaseExtends codec parent new := by
  obtain ⟨parent, isParent, extends'⟩ := base
  obtain ⟨stored, isStored, later⟩ := effect.later isParent
  exact ⟨stored, isStored, extends'.congr later.content content⟩

/-- What is published or put away stays so. -/
theorem PublishEffect.closed (effect : PublishEffect codec pending before after) {targetId : Uuid}
    (closed : ∃ target, before.find? targetId = some target ∧
      (target.status.isPublished = true ∨ target.status = .archived)) :
    ∃ target, after.find? targetId = some target ∧
      (target.status.isPublished = true ∨ target.status = .archived) := by
  obtain ⟨target, found, wasClosed⟩ := closed
  obtain ⟨new, isNew, later⟩ := effect.later found
  refine ⟨new, isNew, ?_⟩
  have wasNotOpen : target.status.isOpen = false := by
    rcases wasClosed with published | isArchived
    · exact OntologyReleaseStatus.isOpen_of_isPublished published
    · rw [isArchived]
      rfl
  cases isStatus : new.status with
  | active => exact .inl rfl
  | activeTriggerFailed => exact .inl rfl
  | superseded => exact .inl rfl
  | rolledBack => exact .inl rfl
  | archived => exact .inr rfl
  | candidate =>
      rw [later.opened (by rw [isStatus]; rfl)] at wasNotOpen
      cases wasNotOpen
  | failedGate =>
      rw [later.opened (by rw [isStatus]; rfl)] at wasNotOpen
      cases wasNotOpen

namespace CatalogsSound

theorem kept (sound : CatalogsSound codec before) (rows : RowsKept codec before after) :
    CatalogsSound codec after := by
  have effect : PublishEffect codec none before after := .kept rows
  refine ⟨?bases, ?judged, ?targets⟩
  case bases =>
    intro new member isOpen parentId isParent
    obtain ⟨old, found, kept⟩ := rows.came new member
    have isStored := (Table.find?_eq_some.mp found).1
    rw [kept.parent] at isParent
    exact effect.base (sound.bases old isStored (kept.opened isOpen) parentId isParent) kept.content
  case judged =>
    intro new member promotable
    obtain ⟨old, found, kept⟩ := rows.came new member
    have isStored := (Table.find?_eq_some.mp found).1
    rcases kept.judged promotable with wasPromotable | judged
    · exact (sound.judged old isStored wasPromotable).congr kept.content kept.parent
    · exact judged
  case targets =>
    intro new member published targetId isTarget
    obtain ⟨old, found, kept⟩ := rows.came new member
    have isStored := (Table.find?_eq_some.mp found).1
    rw [kept.target] at isTarget
    exact effect.closed (sound.targets old isStored (kept.published published) targetId isTarget)

/-- A new candidate is the only release that changes. -/
theorem creates (sound : CatalogsSound codec before) {release : OntologyReleaseRecord}
    (fresh : before.find? release.id = none) (candidate : release.status = .candidate)
    (ungated : validateOntologyReleasePromotable release ≠ .ok ())
    (base : ∀ parentId, release.parentReleaseId = some parentId →
      ∃ parent, before.find? parentId = some parent ∧ ReleaseExtends codec parent release) :
    CatalogsSound codec (before.insert release) := by
  have effect : PublishEffect codec none before (before.insert release) :=
    .creates release fresh rfl candidate ungated base
  refine ⟨?bases, ?judged, ?targets⟩
  case bases =>
    intro stored member isOpen parentId isParent
    rcases (Table.mem_insert_of_fresh fresh).mp member with isOld | rfl
    · exact effect.base (sound.bases stored isOld isOpen parentId isParent)
        (ReleaseContent.refl stored)
    · exact effect.base (base parentId isParent) (ReleaseContent.refl stored)
  case judged =>
    intro stored member promotable
    rcases (Table.mem_insert_of_fresh fresh).mp member with isOld | rfl
    · exact sound.judged stored isOld promotable
    · exact absurd promotable ungated
  case targets =>
    intro stored member published targetId isTarget
    rcases (Table.mem_insert_of_fresh fresh).mp member with isOld | rfl
    · exact effect.closed (sound.targets stored isOld published targetId isTarget)
    · rw [candidate] at published
      cases published

/-- The promoted release is current, and what it replaced is published. -/
theorem promotes (sound : CatalogsSound codec before) {release : OntologyReleaseRecord}
    {now : Timestamp} {actorSubject : String} (found : before.find? release.id = some release)
    (promotable : validateOntologyReleasePromotable release = .ok ()) :
    CatalogsSound codec ((before.mapRows release.superseded release.superseded_id).insert
      (release.promotedOver now actorSubject
        ((currentReleases release before).getLast?.map OntologyReleaseRecord.id))) := by
  have effect : PublishEffect codec (some (.promote release.id actorSubject)) before _ :=
    .promotes release now actorSubject rfl found promotable rfl
  refine ⟨?bases, ?judged, ?targets⟩
  case bases =>
    intro stored member isOpen parentId isParent
    rcases OntologyReleasesSound.mem_promoted.mp member with rfl | ⟨old, isOld, -, rfl⟩
    · cases isOpen
    · have kept : RowKept codec old (release.superseded old) :=
        OntologyReleaseRecord.superseded_kept
      rw [kept.parent] at isParent
      exact effect.base (sound.bases old isOld (kept.opened isOpen) parentId isParent) kept.content
  case judged =>
    intro stored member isPromotable
    rcases OntologyReleasesSound.mem_promoted.mp member with rfl | ⟨old, isOld, -, rfl⟩
    · cases isPromotable
    · have kept : RowKept codec old (release.superseded old) :=
        OntologyReleaseRecord.superseded_kept
      rcases kept.judged isPromotable with wasPromotable | isJudged
      · exact (sound.judged old isOld wasPromotable).congr kept.content kept.parent
      · exact isJudged
  case targets =>
    intro stored member published targetId isTarget
    rcases OntologyReleasesSound.mem_promoted.mp member with rfl | ⟨old, isOld, -, rfl⟩
    · obtain ⟨previous, isPrevious, rfl⟩ := Option.map_eq_some_iff.mp isTarget
      obtain ⟨isStored, isCurrent, -⟩ :=
        OntologyReleasesSound.mem_currentReleases.mp (List.mem_of_getLast? isPrevious)
      exact effect.closed ⟨previous, Table.find?_key isStored,
        .inl (OntologyReleaseStatus.isPublished_of_isCurrent isCurrent)⟩
    · have kept : RowKept codec old (release.superseded old) :=
        OntologyReleaseRecord.superseded_kept
      rw [kept.target] at isTarget
      exact effect.closed
        (sound.targets old isOld (kept.published published) targetId isTarget)

theorem effect (sound : CatalogsSound codec before) (effect : PublishEffect codec pending before after) :
    CatalogsSound codec after := by
  cases effect with
  | kept rows => exact sound.kept rows
  | creates release fresh stored candidate ungated base =>
      rw [stored]
      exact sound.creates fresh candidate ungated base
  | promotes release now actorSubject _ found promotable stored =>
      rw [stored]
      exact sound.promotes found promotable

end CatalogsSound

/-! ### What the calls store -/

/-- A release that was read is still stored, with what it holds. -/
def ReadBefore (releases : OntologyReleaseTable) (read : OntologyReleaseRecord) : Prop :=
  ∃ now, releases.find? read.id = some now ∧ ContentLater read now

def ReadsKept (world : OntologyReleaseWorld) (told : List OntologyReleaseRecord) (_ : Unit) :
    Prop :=
  ∀ read ∈ told, ReadBefore world.releases read

variable (codec) in
/-- What an operation stores is a candidate on a release that its call read, or a release
that it read and rewrote. -/
def PublishWriteAllowed (told : List OntologyReleaseRecord) : OntologyReleaseOperation → Prop
  | .createRelease _ release => ∃ request active candidate now,
      (∀ parent, active = some parent → parent ∈ told) ∧
        ontologyReleaseCandidate codec request active = .ok candidate ∧
        release = newOntologyRelease now request.domainScope active candidate
  | .updateRelease release expectedStatus =>
      ∃ read ∈ told, expectedStatus = some read.status ∧ Rewritten codec read release
  | _ => True

theorem ReadBefore.step {read : OntologyReleaseRecord} (earlier : ReadBefore before read)
    (effect : PublishEffect codec pending before after) : ReadBefore after read := by
  obtain ⟨now, isNow, later⟩ := earlier
  obtain ⟨new, isNew, alsoLater⟩ := effect.later isNow
  exact ⟨new, isNew, later.trans alsoLater⟩

/-- A candidate is stored on the release that its call read. -/
theorem createOntologyRelease_published {draw : Uuid} {request : CandidateRequest}
    {active : Option OntologyReleaseRecord} {candidate : OntologyCandidate} {now : Timestamp}
    (read : ∀ parent, active = some parent → ReadBefore before parent)
    (built : ontologyReleaseCandidate codec request active = .ok candidate) :
    PublishEffect codec pending before (createOntologyRelease draw
      (newOntologyRelease now request.domainScope active candidate) before).2 := by
  unfold createOntologyRelease
  split
  · exact .kept (RowsKept.refl before)
  · refine .creates { newOntologyRelease now request.domainScope active candidate with
      id := before.drawKey draw } Table.find?_drawKey rfl rfl (fun promotable => nomatch promotable) ?_
    intro parentId isParent
    obtain ⟨parent, rfl, rfl⟩ := Option.map_eq_some_iff.mp isParent
    obtain ⟨stored, isStored, later⟩ := read parent rfl
    have extended : ReleaseExtends codec parent
        (newOntologyRelease now request.domainScope (some parent) candidate) :=
      candidate_extends_parent built
    exact ⟨stored, isStored, extended.congr later.content ⟨rfl, rfl, rfl, rfl, rfl, rfl⟩⟩

/-- A write over a release whose status is the one that was read. -/
theorem updateOntologyRelease_published {read release : OntologyReleaseRecord}
    (earlier : ReadBefore before read) (rewritten : Rewritten codec read release) :
    PublishEffect codec pending before
      (updateOntologyRelease release (some read.status) before).2 := by
  unfold updateOntologyRelease
  split
  · exact .kept (RowsKept.refl before)
  · rename_i existing found
    split
    · exact .kept (RowsKept.refl before)
    · rename_i expected
      simp only [Option.any_some, decide_not, Bool.not_eq_true', decide_eq_false_iff_not,
        not_not] at expected
      obtain ⟨now, isNow, later⟩ := earlier
      rw [← rewritten.id, found] at isNow
      obtain rfl := Option.some.inj isNow
      obtain ⟨sameParent, sameTarget⟩ :=
        later.links (congrArg OntologyReleaseStatus.isOpen expected)
      refine .kept (RowsKept.insert found ?_)
      constructor
      case id => exact rewritten.id.trans later.id.symm
      case content => exact later.content.symm.trans rewritten.content
      case parent => exact rewritten.parent.trans sameParent.symm
      case target => exact rewritten.target.trans sameTarget.symm
      case phase => exact expected ▸ rewritten.status.phase
      case judged => exact fun promotable => .inr (rewritten.judged promotable)

theorem promoteOntologyReleaseAtomically_published {now : Timestamp} {releaseId : Uuid}
    {actorSubject : String} :
    PublishEffect codec (some (.promote releaseId actorSubject)) before
      (promoteOntologyReleaseAtomically now releaseId actorSubject before).2 := by
  unfold promoteOntologyReleaseAtomically
  split
  · exact .kept (RowsKept.refl before)
  · rename_i release found
    split
    · exact .kept (RowsKept.refl before)
    · rename_i promotable
      obtain rfl := (Table.find?_eq_some.mp found).2
      exact .promotes release now actorSubject rfl found promotable rfl

/-- What is restored was published: it is the target of a current release, and is not
archived. -/
theorem rollbackOntologyReleaseAtomically_published {now : Timestamp} {releaseId : Uuid}
    {actorSubject : String} (sound : CatalogsSound codec before) :
    PublishEffect codec pending before
      (rollbackOntologyReleaseAtomically now releaseId actorSubject before).2 := by
  unfold rollbackOntologyReleaseAtomically
  split
  · exact .kept (RowsKept.refl before)
  · rename_i release target checked
    obtain ⟨found, current, isTarget, targetFound, -, -, notArchived⟩ :=
      checkRollback_eq_ok.mp checked
    obtain ⟨isStored, rfl⟩ := Table.find?_eq_some.mp found
    have takenBack : RowsKept codec before (before.insert (release.takenBack now actorSubject)) :=
      RowsKept.insert found (OntologyReleaseRecord.takenBack_kept current)
    dsimp only
    split
    · exact .kept takenBack
    · rename_i again isAgain
      refine .kept (takenBack.trans (RowsKept.insert ?_ (OntologyReleaseRecord.restored_kept ?_)))
      · exact (Table.find?_eq_some.mp isAgain).2 ▸ isAgain
      · obtain ⟨same, isSame, closed⟩ := sound.targets release isStored
          (OntologyReleaseStatus.isPublished_of_isCurrent current) target.id isTarget
        obtain rfl := Option.some.inj (targetFound.symm.trans isSame)
        have published := closed.resolve_right notArchived
        rcases Table.mem_insert_iff.mp (Table.find?_eq_some.mp isAgain).1 with rfl | ⟨-, isOld⟩
        · rfl
        · have sameKey := (Table.find?_eq_some.mp isAgain).2
          have isTargetRow := (Table.find?_eq_some.mp targetFound).1
          rw [Table.eq_of_key_eq isOld isTargetRow sameKey]
          exact published

/-- Every operation has one of the effects. -/
theorem OntologyReleaseOperation.published (operation : OntologyReleaseOperation)
    (world : OntologyReleaseWorld) {told : List OntologyReleaseRecord}
    (sound : CatalogsSound codec world.releases) (read : ReadsKept world told ())
    (allowed : PublishWriteAllowed codec told operation) :
    PublishEffect codec (some operation) world.releases
      (operation.perform world).2.releases := by
  cases operation with
  | utcNow => exact .kept (RowsKept.refl _)
  | getRelease releaseId => exact .kept (RowsKept.refl _)
  | listReleases domainScope => exact .kept (RowsKept.refl _)
  | createRelease draw release =>
      obtain ⟨request, active, candidate, now, isTold, built, rfl⟩ := allowed
      exact createOntologyRelease_published (fun parent is => read parent (isTold parent is)) built
  | updateRelease release expectedStatus =>
      obtain ⟨earlier, member, rfl, rewritten⟩ := allowed
      exact updateOntologyRelease_published (read earlier member) rewritten
  | promote releaseId actorSubject => exact promoteOntologyReleaseAtomically_published
  | rollback releaseId actorSubject => exact rollbackOntologyReleaseAtomically_published sound

end effects

end MandoForge
