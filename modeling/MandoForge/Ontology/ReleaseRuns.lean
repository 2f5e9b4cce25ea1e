/-
Module: MandoForge.Ontology.ReleaseRuns
Purpose: Every interleaving of the calls that create, gate, promote, roll back and archive
  ontology releases.  A domain has one current release over a stack of withdrawn ones,
  and what was taken back, put away or failed its gate is not current again unless it is
  a candidate again.
Trusted boundary: beside the calls only the clock moves.
Main exports: OntologyReleasePool.Follows, ontology_release_stack_kept
-/
import MandoForge.Ontology.ReleaseStack

namespace MandoForge

open Foundation

/-! ### The protocol of the calls -/

section protocol

variable {before after : OntologyReleaseTable} {world : OntologyReleaseWorld}
  {told : List OntologyReleaseRecord}

theorem ReadEarlier.step {read : OntologyReleaseRecord}
    {pending : Option OntologyReleaseOperation}
    (effect : OntologyReleaseEffect pending before after) (earlier : ReadEarlier before read) : ReadEarlier after read := by
  refine ⟨earlier.unmarked, ?_⟩
  obtain ⟨now, found, later⟩ := earlier.stored
  obtain ⟨new, isNew, step⟩ := effect.step found
  exact ⟨new, isNew, later.trans step.toReleaseLater⟩

theorem ReadEarlier.of_find {read : OntologyReleaseRecord} {releaseId : Uuid}
    (sound : OntologyReleasesSound before) (found : before.find? releaseId = some read) :
    ReadEarlier before read := by
  obtain ⟨member, rfl⟩ := Table.find?_eq_some.mp found
  exact ⟨sound.unmarked read member, read, found, (ReleaseStep.refl read).toReleaseLater⟩

theorem ReadsOwned.of_tells {operation : OntologyReleaseOperation} {answer : operation.Answer}
    (owned : ReadsOwned world told ())
    (answered : ∀ releaseId release, operation = .getRelease releaseId →
      HEq answer (Except.ok release : Except AppError OntologyReleaseRecord) →
      ReadEarlier world.releases release) :
    ReadsOwned world (ontologyReleaseTells operation answer told) () := by
  intro read member
  unfold ontologyReleaseTells at member
  split at member
  · rename_i releaseId release
    rcases List.mem_cons.mp member with rfl | old
    · exact answered releaseId read rfl HEq.rfl
    · exact owned read old
  · exact owned read member

end protocol

theorem ontologyReleaseProtocol :
    Protocol ontologyReleaseObserver ReleaseWriteAllowed
      (fun world => OntologyReleasesSound world.releases) ReadsOwned := by
  constructor
  case state =>
    intro operation world told _ sound owned allowed
    exact (operation.releases_perform world sound.toReleaseStack owned allowed).sound sound
  case acting =>
    intro operation world told _ sound owned allowed
    have effect := operation.releases_perform world sound.toReleaseStack owned allowed
    apply ReadsOwned.of_tells
    · exact fun read member => (owned read member).step effect
    · rintro releaseId release rfl answered
      have read : okOr (world.releases.find? releaseId) ontologyReleaseNotFound = .ok release :=
        eq_of_heq answered
      exact ReadEarlier.of_find sound (okOr_eq_ok.mp read)
  case others =>
    intro operation world told _ otherTold _ sound owned allowed otherOwned read member
    have effect := operation.releases_perform world sound.toReleaseStack owned allowed
    exact (otherOwned read member).step effect

section programs

variable (host : Host)

theorem activeOntologyReleaseForDomain_respects {domainScope : String}
    {told : List OntologyReleaseRecord}
    {post : Option OntologyReleaseRecord → List OntologyReleaseRecord → Prop}
    (holds : ∀ active, post active told) :
    (OntologyReleaseProgram.activeOntologyReleaseForDomain domainScope).Respects
      ontologyReleaseTells ReleaseWriteAllowed told post := by
  unfold OntologyReleaseProgram.activeOntologyReleaseForDomain
  apply Program.Respects.bind
  exact Program.respects_perform.mpr ⟨trivial, fun releases => holds _⟩

theorem createOntologyReleaseCandidate_respects {draw : Uuid} {domainScope : String}
    {build : BuildCandidate} :
    (createOntologyReleaseCandidate draw domainScope build).Respects ontologyReleaseTells
      ReleaseWriteAllowed [] fun _ _ => True := by
  unfold createOntologyReleaseCandidate
  apply Program.Respects.bind
  apply activeOntologyReleaseForDomain_respects
  intro active
  apply Program.Respects.bind
  refine Program.respects_ofExcept.mpr fun candidate _ => ?_
  apply Program.Respects.bind
  refine Program.respects_perform.mpr ⟨trivial, fun now => ?_⟩
  exact Program.respects_attempt.mpr ⟨⟨rfl, rfl⟩, fun _ _ _ => trivial⟩

theorem gateOntologyReleaseWithActor_respects {releaseId : Uuid} {judge : JudgeRelease}
    {actorSubject : String} :
    (gateOntologyReleaseWithActor host releaseId judge actorSubject).Respects
      ontologyReleaseTells ReleaseWriteAllowed [] fun _ _ => True := by
  unfold gateOntologyReleaseWithActor
  apply Program.Respects.bind
  refine Program.respects_attempt.mpr ⟨trivial, fun given release isRead => ?_⟩
  obtain rfl : given = .ok release := isRead
  split
  · trivial
  · rename_i isOpen
    apply Program.Respects.bind
    apply activeOntologyReleaseForDomain_respects
    intro active
    apply Program.Respects.bind
    refine Program.respects_ofExcept.mpr fun findings _ => ?_
    apply Program.Respects.bind
    refine Program.respects_perform.mpr ⟨trivial, fun now => ?_⟩
    refine Program.respects_attempt.mpr ⟨?_, fun _ _ _ => trivial⟩
    have stillOpen : (release.gated host now actorSubject findings).status.isOpen = true := by
      unfold OntologyReleaseRecord.gated
      dsimp only
      split <;> rfl
    exact ⟨release, List.mem_cons_self .., rfl, rfl, rfl, rfl,
      .inl ⟨by simpa using isOpen, stillOpen⟩, fun _ => rfl⟩

theorem archiveOntologyReleaseWithActor_respects {releaseId : Uuid} :
    (archiveOntologyReleaseWithActor releaseId).Respects ontologyReleaseTells
      ReleaseWriteAllowed [] fun _ _ => True := by
  unfold archiveOntologyReleaseWithActor
  apply Program.Respects.bind
  refine Program.respects_attempt.mpr ⟨trivial, fun given release isRead => ?_⟩
  obtain rfl : given = .ok release := isRead
  split
  · trivial
  · rename_i notCurrent
    apply Program.Respects.bind
    refine Program.respects_perform.mpr ⟨trivial, fun releases => ?_⟩
    split
    · trivial
    · apply Program.Respects.bind
      refine Program.respects_perform.mpr ⟨trivial, fun now => ?_⟩
      refine Program.respects_attempt.mpr ⟨?_, fun _ _ _ => trivial⟩
      exact ⟨release, List.mem_cons_self .., rfl, rfl, rfl, rfl,
        .inr (.inl ⟨Bool.eq_false_of_not_eq_true notCurrent, rfl⟩), fun differs => absurd rfl differs⟩

theorem updateOntologyReleaseWorkflowTriggerStatus_respects {releaseId : Uuid}
    {releaseStatus : TriggeredStatus} {triggerStatus actorSubject : String}
    {errorMessage : Option String} :
    (updateOntologyReleaseWorkflowTriggerStatus host releaseId releaseStatus triggerStatus
      actorSubject errorMessage).Respects ontologyReleaseTells ReleaseWriteAllowed []
        fun _ _ => True := by
  unfold updateOntologyReleaseWorkflowTriggerStatus
  apply Program.Respects.bind
  refine Program.respects_attempt.mpr ⟨trivial, fun given current isRead => ?_⟩
  obtain rfl : given = .ok current := isRead
  split
  · trivial
  · rename_i isCurrent
    apply Program.Respects.bind
    refine Program.respects_perform.mpr ⟨trivial, fun now => ?_⟩
    refine Program.respects_attempt.mpr ⟨?_, fun _ _ _ => trivial⟩
    have stillCurrent : releaseStatus.status.isCurrent = true := by cases releaseStatus <;> rfl
    exact ⟨current, List.mem_cons_self .., rfl, rfl, rfl, rfl,
      .inr (.inr ⟨(Bool.not_eq_false _).mp (mt (congrArg not) isCurrent), stillCurrent⟩),
      fun _ => rfl⟩

theorem OntologyReleaseCall.program_respects (call : OntologyReleaseCall) :
    (call.program host).Respects ontologyReleaseTells ReleaseWriteAllowed [] fun _ _ => True := by
  cases call with
  | create draw domainScope build =>
      apply Program.Respects.bind
      exact createOntologyReleaseCandidate_respects.mono fun _ _ _ => trivial
  | gate releaseId judge actorSubject =>
      apply Program.Respects.bind
      exact (gateOntologyReleaseWithActor_respects host).mono fun _ _ _ => trivial
  | promote releaseId actorSubject =>
      apply Program.Respects.bind
      exact Program.respects_attempt.mpr ⟨trivial, fun _ _ _ => trivial⟩
  | rollback releaseId actorSubject =>
      apply Program.Respects.bind
      exact Program.respects_attempt.mpr ⟨trivial, fun _ _ _ => trivial⟩
  | archive releaseId =>
      apply Program.Respects.bind
      exact archiveOntologyReleaseWithActor_respects.mono fun _ _ _ => trivial
  | updateTriggerStatus releaseId releaseStatus triggerStatus actorSubject errorMessage =>
      apply Program.Respects.bind
      exact (updateOntologyReleaseWorkflowTriggerStatus_respects host).mono fun _ _ _ => trivial

end programs

/-! ### What every run keeps -/

/-- Every call of the pool goes by the protocol. -/
abbrev OntologyReleasePool.Follows (pool : OntologyReleasePool) : Prop :=
  Pool.Follows ontologyReleaseObserver ReleaseWriteAllowed
    (fun world => OntologyReleasesSound world.releases) ReadsOwned (fun _ _ => True) pool

theorem OntologyReleasesSound.empty : OntologyReleasesSound Table.empty where
  oneCurrent _ isFirst := absurd isFirst List.not_mem_nil
  trails _ isCurrent := absurd isCurrent List.not_mem_nil
  unmarked _ isStored := absurd isStored List.not_mem_nil

theorem noOntologyReleases_follows (clock : Timestamp) :
    OntologyReleasePool.Follows (noOntologyReleases clock) where
  state := OntologyReleasesSound.empty
  owned _ isCall := absurd isCall List.not_mem_nil
  programs _ isCall := absurd isCall List.not_mem_nil

section everyRun

variable (host : Host) {pool : OntologyReleasePool}

theorem OntologyReleaseEvent.follows (event : OntologyReleaseEvent)
    (follows : OntologyReleasePool.Follows pool) :
    OntologyReleasePool.Follows (event.perform host pool) := by
  cases event with
  | enter call =>
      exact follows.enter (fun _ isRead => absurd isRead List.not_mem_nil)
        (call.program_respects host)
  | operate index => exact follows.operate ontologyReleaseProtocol index
  | tick clock => exact follows.elsewhere follows.state fun _ _ owned => owned

/-- What an event does to the releases is what one operation does. -/
theorem OntologyReleaseEvent.effect (event : OntologyReleaseEvent)
    (follows : OntologyReleasePool.Follows pool) :
    OntologyReleaseEffect (event.operation pool) pool.state.releases
      (event.perform host pool).state.releases := by
  cases event with
  | enter call => exact .quiet rfl
  | tick clock => exact .quiet rfl
  | operate index =>
      cases pending : pool.next index with
      | none =>
          rw [perform, Pool.operate_of_next_eq_none pending]
          exact .quiet rfl
      | some next =>
          obtain ⟨told, operation⟩ := next
          obtain ⟨⟨_, owned⟩, allowed⟩ := follows.of_next pending
          have isNext : (OntologyReleaseEvent.operate index).operation pool = some operation := by
            rw [OntologyReleaseEvent.operation, pending]
            rfl
          rw [isNext, perform, Pool.state_operate pending]
          exact operation.releases_perform pool.state follows.state.toReleaseStack owned allowed

theorem runEvents_follows (events : List OntologyReleaseEvent)
    (follows : OntologyReleasePool.Follows pool) :
    OntologyReleasePool.Follows (runEvents (OntologyReleaseEvent.perform host) events pool) := by
  induction events generalizing pool with
  | nil => exact follows
  | cons event events inductionHypothesis =>
      exact inductionHypothesis (event.follows host follows)

end everyRun

/-! ### What is claimed -/

/-- The statuses of a release that was taken back, put away, or failed its gate. -/
def OntologyReleaseStatus.isSetAside : OntologyReleaseStatus → Bool
  | rolledBack | archived | failedGate => true
  | _ => false

/-- The pool stores the release in a status that satisfies the test. -/
def StoredIn (releaseId : Uuid) (test : OntologyReleaseStatus → Bool)
    (pool : OntologyReleasePool) : Prop :=
  ∃ release, pool.state.releases.find? releaseId = some release ∧ test release.status = true

structure ReleaseStackKept (host : Host) (events : List OntologyReleaseEvent)
    (clock : Timestamp) : Prop where
  stack : HeldAlong (OntologyReleaseEvent.perform host)
    (fun pool => ReleaseStack pool.state.releases) events (noOntologyReleases clock)
  /-- What is set aside is current later only when it was a candidate in between. -/
  setAside : ∀ front middle, front ++ middle <+: events → ∀ releaseId,
    StoredIn releaseId OntologyReleaseStatus.isSetAside
      (runEvents (OntologyReleaseEvent.perform host) front (noOntologyReleases clock)) →
    StoredIn releaseId OntologyReleaseStatus.isCurrent
      (runEvents (OntologyReleaseEvent.perform host) (front ++ middle)
        (noOntologyReleases clock)) →
    ∃ between, between <+: middle ∧
      StoredIn releaseId (fun status => decide (status = .candidate))
        (runEvents (OntologyReleaseEvent.perform host) (front ++ between)
          (noOntologyReleases clock))
  rolledBack : ∀ front middle, front ++ middle <+: events → ∀ releaseId,
    StoredIn releaseId (fun status => decide (status = .rolledBack))
      (runEvents (OntologyReleaseEvent.perform host) front (noOntologyReleases clock)) →
    ¬StoredIn releaseId OntologyReleaseStatus.isCurrent
      (runEvents (OntologyReleaseEvent.perform host) (front ++ middle)
        (noOntologyReleases clock))

section settled

variable (host : Host) {pool : OntologyReleasePool} {releaseId : Uuid}
  {test other : OntologyReleaseStatus → Bool}

theorem StoredIn.not_both (one : StoredIn releaseId test pool) (two : StoredIn releaseId other pool)
    (exclusive : ∀ status, test status = true → other status = false) : False := by
  obtain ⟨release, found, passes⟩ := one
  obtain ⟨same, isSame, alsoPasses⟩ := two
  obtain rfl := Option.some.inj (found.symm.trans isSame)
  rw [exclusive _ passes] at alsoPasses
  cases alsoPasses

theorem StoredIn.step {moved : OntologyReleaseStatus → Bool} (event : OntologyReleaseEvent)
    (follows : OntologyReleasePool.Follows pool) (stored : StoredIn releaseId test pool)
    (moves : ∀ old new : OntologyReleaseRecord, ReleaseStep old new → test old.status = true →
      moved new.status = true) :
    StoredIn releaseId moved (event.perform host pool) := by
  obtain ⟨release, found, passes⟩ := stored
  obtain ⟨new, isNew, step⟩ := (event.effect host follows).step found
  exact ⟨new, isNew, moves release new step passes⟩

/-- A release that is set aside stays so, or is a candidate. -/
theorem StoredIn.setAside_step (event : OntologyReleaseEvent)
    (follows : OntologyReleasePool.Follows pool)
    (stored : StoredIn releaseId OntologyReleaseStatus.isSetAside pool) :
    StoredIn releaseId OntologyReleaseStatus.isSetAside (event.perform host pool) ∨
      StoredIn releaseId (fun status => decide (status = .candidate))
        (event.perform host pool) := by
  obtain ⟨release, found, aside⟩ := stored
  obtain ⟨new, isNew, step⟩ := (event.effect host follows).step found
  have becomes : new.status.isSetAside = true ∨ new.status = .candidate := by
    cases isStatus : release.status with
    | failedGate =>
        rcases step.failedGate isStatus with still | isCandidate | isArchived
        · exact .inl (still ▸ rfl)
        · exact .inr isCandidate
        · exact .inl (isArchived ▸ rfl)
    | rolledBack => rcases step.rolledBack isStatus with same | same <;> exact .inl (same ▸ rfl)
    | archived => exact .inl (step.archived isStatus ▸ rfl)
    | candidate => rw [isStatus] at aside; cases aside
    | active => rw [isStatus] at aside; cases aside
    | activeTriggerFailed => rw [isStatus] at aside; cases aside
    | superseded => rw [isStatus] at aside; cases aside
  rcases becomes with still | isCandidate
  · exact .inl ⟨new, isNew, still⟩
  · exact .inr ⟨new, isNew, decide_eq_true isCandidate⟩

theorem StoredIn.rolledBack_step (event : OntologyReleaseEvent)
    (follows : OntologyReleasePool.Follows pool)
    (stored : StoredIn releaseId (fun status => decide (status = .rolledBack ∨ status = .archived))
      pool) :
    StoredIn releaseId (fun status => decide (status = .rolledBack ∨ status = .archived))
      (event.perform host pool) := by
  apply stored.step host event follows
  intro old new step was
  rcases of_decide_eq_true was with wasRolledBack | wasArchived
  · exact decide_eq_true (step.rolledBack wasRolledBack)
  · exact decide_eq_true (.inr (step.archived wasArchived))

theorem runEvents_storedIn (events : List OntologyReleaseEvent)
    (follows : OntologyReleasePool.Follows pool) (stored : StoredIn releaseId test pool)
    (keeps : ∀ (event : OntologyReleaseEvent) (pool : OntologyReleasePool),
      OntologyReleasePool.Follows pool →
      StoredIn releaseId test pool → StoredIn releaseId test (event.perform host pool)) :
    StoredIn releaseId test (runEvents (OntologyReleaseEvent.perform host) events pool) := by
  induction events generalizing pool with
  | nil => exact stored
  | cons event events inductionHypothesis =>
      exact inductionHypothesis (event.follows host follows) (keeps event pool follows stored)

end settled

/-- However the calls interleave, the releases of a domain are a stack, and what is set
aside is not current again unless it was a candidate in between. -/
theorem ontology_release_stack_kept (host : Host) (events : List OntologyReleaseEvent)
    (clock : Timestamp) : ReleaseStackKept host events clock := by
  have start := noOntologyReleases_follows clock
  constructor
  case stack =>
    intro front _
    exact (runEvents_follows host front start).state.toReleaseStack
  case setAside =>
    intro front middle _ releaseId aside current
    rw [runEvents_append] at current
    have follows := runEvents_follows host front start
    rcases holds_or_passes (fun event _ kept => OntologyReleaseEvent.follows host event kept)
      (fun event _ along => StoredIn.setAside_step host event along) follows aside with
      still | ⟨between, isPrefix, passed⟩
    · exact (still.not_both current fun status => by cases status <;> decide).elim
    · exact ⟨between, isPrefix, by rwa [runEvents_append]⟩
  case rolledBack =>
    intro front middle _ releaseId takenBack current
    rw [runEvents_append] at current
    have follows := runEvents_follows host front start
    have wasTakenBack : StoredIn releaseId
        (fun status => decide (status = .rolledBack ∨ status = .archived))
        (runEvents (OntologyReleaseEvent.perform host) front (noOntologyReleases clock)) := by
      obtain ⟨release, found, isRolledBack⟩ := takenBack
      exact ⟨release, found, decide_eq_true (.inl (of_decide_eq_true isRolledBack))⟩
    have stays := runEvents_storedIn host middle follows wasTakenBack
      fun event pool along => StoredIn.rolledBack_step host event along
    exact stays.not_both current fun status => by cases status <;> decide

end MandoForge
