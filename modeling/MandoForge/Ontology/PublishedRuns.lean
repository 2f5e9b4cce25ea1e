/-
Module: MandoForge.Ontology.PublishedRuns
Purpose: The calls that build, gate, promote, take back and put away releases store
  nothing but what their protocol allows, so what holds of the releases and of their
  catalogs holds in every state of every run.
Trusted boundary: beside the calls only the clock moves.
Main exports: PublishEvent.publishes, runEvents_publishes
-/
import MandoForge.Ontology.PublishSteps

namespace MandoForge

open Foundation

/-! ### The protocol -/

section protocol

variable {codec : OntologyCodec}

/-- What a call was told after an operation it was told before, or reads in the store. -/
theorem ReadsKept.of_tells {operation : OntologyReleaseOperation} {world : OntologyReleaseWorld}
    {told : List OntologyReleaseRecord}
    (effect : PublishEffect codec (some operation) world.releases
      (operation.perform world).2.releases)
    (read : ReadsKept world told ()) :
    ReadsKept (operation.perform world).2
      (publishTells operation (operation.perform world).1 told) () := by
  have kept : ReadsKept (operation.perform world).2 told () :=
    fun earlier member => (read earlier member).step effect
  have stored : ∀ release ∈ world.releases, ReadBefore world.releases release :=
    fun release member => ⟨release, Table.find?_key member, ContentLater.refl release⟩
  cases operation with
  | getRelease releaseId =>
      intro earlier member
      cases found : world.releases.find? releaseId with
      | none =>
          rw [OntologyReleaseOperation.perform, found] at member
          exact kept earlier member
      | some release =>
          rw [OntologyReleaseOperation.perform, found] at member
          rcases List.mem_cons.mp member with rfl | isOld
          · exact (stored earlier (Table.find?_eq_some.mp found).1).step effect
          · exact kept earlier isOld
  | listReleases domainScope =>
      intro earlier member
      rcases List.mem_append.mp member with isListed | isOld
      · have isStored := (List.mem_filter.mp ((List.mem_insertionSort _).mp isListed)).1
        exact (stored earlier isStored).step effect
      · exact kept earlier isOld
  | utcNow => exact kept
  | createRelease draw release => exact kept
  | updateRelease release expectedStatus => exact kept
  | promote releaseId actorSubject => exact kept
  | rollback releaseId actorSubject => exact kept

variable (codec) in
theorem publishProtocol :
    Protocol publishObserver (PublishWriteAllowed codec)
      (fun world => CatalogsSound codec world.releases) ReadsKept := by
  constructor
  case state =>
    intro operation world told _ sound read allowed
    exact sound.effect (operation.published world sound read allowed)
  case acting =>
    intro operation world told _ sound read allowed
    exact ReadsKept.of_tells (operation.published world sound read allowed) read
  case others =>
    intro operation world told _ otherTold _ sound read allowed otherRead earlier member
    exact (otherRead earlier member).step (operation.published world sound read allowed)

end protocol

/-! ### The programs -/

section programs

variable (host : Host) (codec : OntologyCodec)

theorem activeOntologyReleaseForDomain_tells {domainScope : String}
    {told : List OntologyReleaseRecord}
    {post : Option OntologyReleaseRecord → List OntologyReleaseRecord → Prop}
    (holds : ∀ active listed, (∀ release, active = some release → release ∈ listed ++ told) →
      post active (listed ++ told)) :
    (OntologyReleaseProgram.activeOntologyReleaseForDomain domainScope).Respects
      publishTells (PublishWriteAllowed codec) told post := by
  unfold OntologyReleaseProgram.activeOntologyReleaseForDomain
  apply Program.Respects.bind
  refine Program.respects_perform.mpr ⟨trivial, fun listed => holds _ listed ?_⟩
  intro release isActive
  exact List.mem_append_left _ (List.mem_of_find?_eq_some isActive)

theorem createOntologyReleaseCandidate_published {draw : Uuid} {request : CandidateRequest} :
    (createOntologyReleaseCandidate draw request.domainScope
      (ontologyReleaseCandidate codec request)).Respects publishTells
        (PublishWriteAllowed codec) [] fun _ _ => True := by
  unfold createOntologyReleaseCandidate
  apply Program.Respects.bind
  apply activeOntologyReleaseForDomain_tells codec
  intro active listed isTold
  apply Program.Respects.bind
  refine Program.respects_ofExcept.mpr fun candidate built => ?_
  apply Program.Respects.bind
  refine Program.respects_perform.mpr ⟨trivial, fun now => ?_⟩
  refine Program.respects_attempt.mpr ⟨?_, fun _ _ _ => trivial⟩
  exact ⟨request, active, candidate, now, isTold, built, rfl⟩

/-- Findings without a blocker are a judgement. -/
theorem gateJudged_of_findings {getSemanticObject : Uuid → Except AppError ProfiledObject}
    {release : OntologyReleaseRecord} {active : Option OntologyReleaseRecord}
    {findings : GateFindings}
    (found : ontologyReleaseFindings codec getSemanticObject release active = .ok findings)
    (passed : findings.passed = true) : GateJudged codec release := by
  unfold ontologyReleaseFindings at found
  obtain ⟨profilesOk, -, returned⟩ := bind_eq_ok.mp found
  cases returned
  simp only [GateFindings.passed, List.isEmpty_iff, List.append_eq_nil_iff] at passed
  obtain ⟨⟨⟨-, contracts⟩, catalog⟩, -⟩ := passed
  constructor
  case contracts =>
    unfold gateBlocker at contracts
    split at contracts
    · assumption
    · cases contracts
  case catalog =>
    split at catalog
    · rename_i found isOk
      exact ⟨found, isOk⟩
    · cases catalog

/-- A gate that lets a release through has judged it. -/
theorem gated_rewritten {getSemanticObject : Uuid → Except AppError ProfiledObject}
    {release : OntologyReleaseRecord} {active : Option OntologyReleaseRecord}
    {findings : GateFindings} {now : Timestamp} {actorSubject : String}
    (isOpen : release.status.isOpen = true)
    (found : ontologyReleaseFindings codec getSemanticObject release active = .ok findings) :
    Rewritten codec release (release.gated host now actorSubject findings) where
  id := rfl
  content := ⟨rfl, rfl, rfl, rfl, rfl, rfl⟩
  parent := rfl
  target := rfl
  status := by
    refine .inl ⟨isOpen, ?_⟩
    unfold OntologyReleaseRecord.gated
    dsimp only
    split <;> rfl
  judged promotable := by
    have candidate := validateOntologyReleasePromotable_eq_ok promotable
    unfold OntologyReleaseRecord.gated at candidate
    dsimp only at candidate
    split at candidate
    · rename_i passed
      exact (gateJudged_of_findings codec found passed).congr ⟨rfl, rfl, rfl, rfl, rfl, rfl⟩ rfl
    · cases candidate

theorem gateOntologyReleaseWithActor_published {releaseId : Uuid}
    {getSemanticObject : Uuid → Except AppError ProfiledObject} {actorSubject : String} :
    (gateOntologyReleaseWithActor host releaseId
      (ontologyReleaseFindings codec getSemanticObject) actorSubject).Respects
        publishTells (PublishWriteAllowed codec) [] fun _ _ => True := by
  unfold gateOntologyReleaseWithActor
  apply Program.Respects.bind
  refine Program.respects_attempt.mpr ⟨trivial, fun given release isRead => ?_⟩
  obtain rfl : given = .ok release := isRead
  split
  · trivial
  · rename_i isOpen
    apply Program.Respects.bind
    apply activeOntologyReleaseForDomain_tells codec
    intro active listed _
    apply Program.Respects.bind
    refine Program.respects_ofExcept.mpr fun findings found => ?_
    apply Program.Respects.bind
    refine Program.respects_perform.mpr ⟨trivial, fun now => ?_⟩
    refine Program.respects_attempt.mpr ⟨?_, fun _ _ _ => trivial⟩
    exact ⟨release, List.mem_append_right _ (List.mem_cons_self ..), rfl,
      gated_rewritten host codec (by simpa using isOpen) found⟩

theorem archiveOntologyReleaseWithActor_published {releaseId : Uuid} :
    (archiveOntologyReleaseWithActor releaseId).Respects publishTells
      (PublishWriteAllowed codec) [] fun _ _ => True := by
  unfold archiveOntologyReleaseWithActor
  apply Program.Respects.bind
  refine Program.respects_attempt.mpr ⟨trivial, fun given release isRead => ?_⟩
  obtain rfl : given = .ok release := isRead
  split
  · trivial
  · rename_i notCurrent
    apply Program.Respects.bind
    refine Program.respects_perform.mpr ⟨trivial, fun listed => ?_⟩
    split
    · trivial
    · apply Program.Respects.bind
      refine Program.respects_perform.mpr ⟨trivial, fun now => ?_⟩
      refine Program.respects_attempt.mpr ⟨?_, fun _ _ _ => trivial⟩
      refine ⟨release, List.mem_append_right _ (List.mem_cons_self ..), rfl, rfl,
        ⟨rfl, rfl, rfl, rfl, rfl, rfl⟩, rfl, rfl, ?_, fun promotable => nomatch promotable⟩
      exact .inr (.inl ⟨Bool.eq_false_of_not_eq_true notCurrent, rfl⟩)

theorem updateOntologyReleaseWorkflowTriggerStatus_published {releaseId : Uuid}
    {releaseStatus : TriggeredStatus} {triggerStatus actorSubject : String}
    {errorMessage : Option String} :
    (updateOntologyReleaseWorkflowTriggerStatus host releaseId releaseStatus triggerStatus
      actorSubject errorMessage).Respects publishTells (PublishWriteAllowed codec) []
        fun _ _ => True := by
  unfold updateOntologyReleaseWorkflowTriggerStatus
  apply Program.Respects.bind
  refine Program.respects_attempt.mpr ⟨trivial, fun given current isRead => ?_⟩
  obtain rfl : given = .ok current := isRead
  split
  · trivial
  · rename_i isCurrent
    apply Program.Respects.bind
    refine Program.respects_perform.mpr ⟨trivial, fun now => ?_⟩
    refine Program.respects_attempt.mpr ⟨?_, fun _ _ _ => trivial⟩
    refine ⟨current, List.mem_cons_self .., rfl, rfl, ⟨rfl, rfl, rfl, rfl, rfl, rfl⟩, rfl, rfl,
      ?_, fun promotable => ?_⟩
    · have stillCurrent : releaseStatus.status.isCurrent = true := by cases releaseStatus <;> rfl
      exact .inr (.inr ⟨(Bool.not_eq_false _).mp (mt (congrArg not) isCurrent), stillCurrent⟩)
    · cases releaseStatus <;> cases promotable

theorem PublishCall.program_published (call : PublishCall) :
    ((call.releaseCall codec).program host).Respects publishTells (PublishWriteAllowed codec) []
      fun _ _ => True := by
  cases call with
  | create draw request =>
      apply Program.Respects.bind
      exact (createOntologyReleaseCandidate_published codec).mono fun _ _ _ => trivial
  | gate releaseId getSemanticObject actorSubject =>
      apply Program.Respects.bind
      exact (gateOntologyReleaseWithActor_published host codec).mono fun _ _ _ => trivial
  | promote releaseId actorSubject =>
      apply Program.Respects.bind
      exact Program.respects_attempt.mpr ⟨trivial, fun _ _ _ => trivial⟩
  | rollback releaseId actorSubject =>
      apply Program.Respects.bind
      exact Program.respects_attempt.mpr ⟨trivial, fun _ _ _ => trivial⟩
  | archive releaseId =>
      apply Program.Respects.bind
      exact (archiveOntologyReleaseWithActor_published codec).mono fun _ _ _ => trivial
  | updateTriggerStatus releaseId releaseStatus triggerStatus actorSubject errorMessage =>
      apply Program.Respects.bind
      exact (updateOntologyReleaseWorkflowTriggerStatus_published host codec).mono
        fun _ _ _ => trivial

end programs

/-! ### What every run keeps -/

/-- Every call of the pool goes by the protocol. -/
abbrev OntologyReleasePool.Publishes (codec : OntologyCodec) (pool : OntologyReleasePool) : Prop :=
  Pool.Follows publishObserver (PublishWriteAllowed codec)
    (fun world => CatalogsSound codec world.releases) ReadsKept (fun _ _ => True) pool

theorem noOntologyReleases_publishes (codec : OntologyCodec) (clock : Timestamp) :
    (noOntologyReleases clock).Publishes codec where
  state := ⟨fun _ isStored => absurd isStored List.not_mem_nil,
    fun _ isStored => absurd isStored List.not_mem_nil,
    fun _ isStored => absurd isStored List.not_mem_nil⟩
  owned _ isCall := absurd isCall List.not_mem_nil
  programs _ isCall := absurd isCall List.not_mem_nil

section everyRun

variable (host : Host) (codec : OntologyCodec) {pool : OntologyReleasePool}

theorem PublishEvent.publishes (event : PublishEvent) (follows : pool.Publishes codec) :
    (event.perform host codec pool).Publishes codec := by
  cases event with
  | enter call =>
      exact follows.enter (fun _ isRead => absurd isRead List.not_mem_nil)
        (call.program_published host codec)
  | operate index => exact follows.operate (publishProtocol codec) index
  | tick clock => exact follows.elsewhere follows.state fun _ _ owned => owned

theorem runEvents_publishes (events : List PublishEvent) (follows : pool.Publishes codec) :
    (runEvents (PublishEvent.perform host codec) events pool).Publishes codec := by
  induction events generalizing pool with
  | nil => exact follows
  | cons event events inductionHypothesis =>
      exact inductionHypothesis (event.publishes host codec follows)

/-- What an event does to the releases is what one operation does. -/
theorem PublishEvent.effect (event : PublishEvent) (follows : pool.Publishes codec) :
    PublishEffect codec (event.operation pool) pool.state.releases
      (event.perform host codec pool).state.releases := by
  cases event with
  | enter call => exact .kept (RowsKept.refl _)
  | tick clock => exact .kept (RowsKept.refl _)
  | operate index =>
      cases pending : pool.next index with
      | none =>
          rw [perform, Pool.operate_of_next_eq_none pending]
          exact .kept (RowsKept.refl _)
      | some next =>
          obtain ⟨told, operation⟩ := next
          obtain ⟨⟨_, read⟩, allowed⟩ := follows.of_next pending
          have isNext : (PublishEvent.operate index).operation pool = some operation := by
            rw [PublishEvent.operation, pending]
            rfl
          rw [isNext, perform, Pool.state_operate pending]
          exact operation.published pool.state follows.state read allowed

end everyRun

end MandoForge
