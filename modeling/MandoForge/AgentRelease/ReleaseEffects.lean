/-
Module: MandoForge.AgentRelease.ReleaseEffects
Purpose: What each operation on the agent releases does to them: it begins or completes
  a promotion, stores a request, or is quiet, it changes no status to promoted and
  begins no promotion.
Trusted boundary: none
Main exports: OnePromoted, QuietStep
-/
import MandoForge.AgentRelease.ReleaseCalls

namespace MandoForge

open Foundation

/-- An agent version has at most one promoted release for an environment, whatever the
case of its name. -/
def OnePromoted (releases : AgentReleaseTable) : Prop :=
  ∀ first ∈ releases, ∀ second ∈ releases, first.status = .promoted → second.status = .promoted →
    first.agentId = second.agentId → first.agentVersionId = second.agentVersionId →
    eqIgnoreAsciiCase first.environment second.environment = true → first = second

/-! ### What one operation does to the releases -/

/-- What an operation leaves of a release. -/
structure ReleaseKept (old new : AgentRelease) : Prop where
  agentId : new.agentId = old.agentId
  agentVersionId : new.agentVersionId = old.agentVersionId
  environment : new.environment = old.environment
  requestedBy : new.requestedBy = old.requestedBy
  approverSubject : new.approverSubject = old.approverSubject
  final : old.status.isFinal = true → new.status = old.status

/-- A change that neither promotes the release nor begins its promotion. -/
structure QuietChange (old new : AgentRelease) : Prop extends ReleaseKept old new where
  promoted : new.status = .promoted → old.status = .promoted
  inProgress : new.status = .promotionInProgress →
    old.status = .promotionInProgress ∧ new.decisionBy = old.decisionBy

theorem ReleaseKept.refl (release : AgentRelease) : ReleaseKept release release :=
  ⟨rfl, rfl, rfl, rfl, rfl, fun _ => rfl⟩

theorem ReleaseKept.trans {first second third : AgentRelease} (one : ReleaseKept first second)
    (two : ReleaseKept second third) : ReleaseKept first third where
  agentId := two.agentId.trans one.agentId
  agentVersionId := two.agentVersionId.trans one.agentVersionId
  environment := two.environment.trans one.environment
  requestedBy := two.requestedBy.trans one.requestedBy
  approverSubject := two.approverSubject.trans one.approverSubject
  final isFinal := by
    have stays := one.final isFinal
    exact (two.final (stays ▸ isFinal)).trans stays

theorem QuietChange.refl (release : AgentRelease) : QuietChange release release :=
  ⟨ReleaseKept.refl release, id, fun inProgress => ⟨inProgress, rfl⟩⟩

theorem QuietChange.trans {first second third : AgentRelease} (one : QuietChange first second)
    (two : QuietChange second third) : QuietChange first third where
  toReleaseKept := one.toReleaseKept.trans two.toReleaseKept
  promoted isPromoted := one.promoted (two.promoted isPromoted)
  inProgress isInProgress := by
    obtain ⟨middle, sameSubject⟩ := two.inProgress isInProgress
    obtain ⟨isOld, sameOld⟩ := one.inProgress middle
    exact ⟨isOld, sameSubject.trans sameOld⟩

/-- What an operation does that neither promotes a stored release nor begins a
promotion. -/
structure QuietStep (before after : AgentReleaseTable) : Prop where
  onePromoted : OnePromoted before → OnePromoted after
  kept : ∀ releaseId old, before.find? releaseId = some old →
    ∃ new, after.find? releaseId = some new ∧ QuietChange old new
  inProgress : ∀ new ∈ after, new.status = .promotionInProgress →
    ∃ old, before.find? new.id = some old

namespace QuietStep

variable {before after : AgentReleaseTable}

theorem refl (releases : AgentReleaseTable) : QuietStep releases releases where
  onePromoted one := one
  kept _ old found := ⟨old, found, QuietChange.refl old⟩
  inProgress new member _ := ⟨new, Table.find?_key member⟩

theorem trans {middle : AgentReleaseTable} (one : QuietStep before middle)
    (two : QuietStep middle after) : QuietStep before after where
  onePromoted unique := two.onePromoted (one.onePromoted unique)
  kept releaseId old found := by
    obtain ⟨new, isNew, change⟩ := one.kept releaseId old found
    obtain ⟨newest, isNewest, further⟩ := two.kept releaseId new isNew
    exact ⟨newest, isNewest, change.trans further⟩
  inProgress new member inProgress := by
    obtain ⟨old, found⟩ := two.inProgress new member inProgress
    obtain ⟨later, isLater, change⟩ := two.kept new.id old found
    obtain rfl := Option.some.inj (isLater.symm.trans (Table.find?_key member))
    have oldMember := (Table.find?_eq_some.mp found).1
    have sameId := (Table.find?_eq_some.mp found).2
    rw [← sameId]
    exact one.inProgress old oldMember (change.inProgress inProgress).1

/-- Every release is changed in place, quietly. -/
theorem of_map {change : AgentRelease → AgentRelease}
    (found : ∀ releaseId, after.find? releaseId = (before.find? releaseId).map change)
    (quiet : ∀ old ∈ before, QuietChange old (change old)) : QuietStep before after := by
  have source : ∀ new ∈ after, ∃ old ∈ before, before.find? new.id = some old ∧
      change old = new := by
    intro new member
    have isNew := Table.find?_key member
    rw [found] at isNew
    obtain ⟨old, isOld, rfl⟩ := Option.map_eq_some_iff.mp isNew
    exact ⟨old, (Table.find?_eq_some.mp isOld).1, isOld, rfl⟩
  constructor
  case onePromoted =>
    intro unique first firstMember second secondMember firstPromoted secondPromoted sameAgent
      sameVersion sameEnvironment
    obtain ⟨firstOld, firstIn, firstFound, rfl⟩ := source first firstMember
    obtain ⟨secondOld, secondIn, secondFound, rfl⟩ := source second secondMember
    have firstChange := quiet firstOld firstIn
    have secondChange := quiet secondOld secondIn
    rw [firstChange.agentId, secondChange.agentId] at sameAgent
    rw [firstChange.agentVersionId, secondChange.agentVersionId] at sameVersion
    rw [firstChange.environment, secondChange.environment] at sameEnvironment
    rw [unique firstOld firstIn secondOld secondIn (firstChange.promoted firstPromoted)
      (secondChange.promoted secondPromoted) sameAgent sameVersion sameEnvironment]
  case kept =>
    intro releaseId old isOld
    exact ⟨change old, by rw [found, isOld, Option.map_some],
      quiet old (Table.find?_eq_some.mp isOld).1⟩
  case inProgress =>
    intro new member _
    obtain ⟨old, -, isOld, -⟩ := source new member
    exact ⟨old, isOld⟩

/-- A stored release is replaced, quietly. -/
theorem of_insert {old new : AgentRelease} (found : before.find? new.id = some old)
    (quiet : QuietChange old new) : QuietStep before (before.insert new) := by
  have replaced : ∀ releaseId, (before.insert new).find? releaseId =
      (before.find? releaseId).map fun release => if release.id = new.id then new else release := by
    intro releaseId
    by_cases same : releaseId = new.id
    · subst same
      rw [Table.find?_insert_same, found, Option.map_some,
        if_pos (Table.find?_eq_some.mp found).2]
    · rw [Table.find?_insert_of_ne same]
      cases isOther : before.find? releaseId with
      | none => rfl
      | some other =>
          have differs : other.id ≠ new.id := by
            rw [(Table.find?_eq_some.mp isOther).2]
            exact same
          rw [Option.map_some, if_neg differs]
  apply of_map replaced
  · intro other member
    split
    · rename_i same
      have isOther := Table.find?_key member
      rw [same, found] at isOther
      obtain rfl := Option.some.inj isOther
      exact quiet
    · exact QuietChange.refl other

/-- A new release is stored; when it is promoted no other one of its target is. -/
theorem of_fresh {new : AgentRelease} (fresh : before.find? new.id = none)
    (notBegun : new.status ≠ .promotionInProgress)
    (room : new.status = .promoted → ∀ other ∈ before,
      other.isPromotedFor new.agentId new.agentVersionId new.environment = false) :
    QuietStep before (before.insert new) := by
  have excluded : ∀ other ∈ before, new.status = .promoted → other.status = .promoted →
      other.agentId = new.agentId → other.agentVersionId = new.agentVersionId →
      eqIgnoreAsciiCase other.environment new.environment = true → False := by
    intro other member newPromoted otherPromoted sameAgent sameVersion sameEnvironment
    have isFree := room newPromoted other member
    simp [AgentRelease.isPromotedFor, otherPromoted, sameAgent, sameVersion,
      sameEnvironment] at isFree
  constructor
  case onePromoted =>
    intro unique first firstMember second secondMember firstPromoted secondPromoted sameAgent
      sameVersion sameEnvironment
    rcases (Table.mem_insert_of_fresh fresh).mp firstMember with firstIn | rfl
    · rcases (Table.mem_insert_of_fresh fresh).mp secondMember with secondIn | rfl
      · exact unique first firstIn second secondIn firstPromoted secondPromoted sameAgent
          sameVersion sameEnvironment
      · exact (excluded first firstIn secondPromoted firstPromoted sameAgent sameVersion
          sameEnvironment).elim
    · rcases (Table.mem_insert_of_fresh fresh).mp secondMember with secondIn | rfl
      · refine (excluded second secondIn firstPromoted secondPromoted sameAgent.symm
          sameVersion.symm ?_).elim
        simpa [eqIgnoreAsciiCase, eq_comm] using sameEnvironment
      · rfl
  case kept =>
    intro releaseId old found
    have differs : releaseId ≠ new.id := by
      rintro rfl
      rw [fresh] at found
      cases found
    exact ⟨old, by rw [Table.find?_insert_of_ne differs, found], QuietChange.refl old⟩
  case inProgress =>
    intro other member inProgress
    rcases (Table.mem_insert_of_fresh fresh).mp member with old | rfl
    · exact ⟨other, Table.find?_key old⟩
    · exact absurd inProgress notBegun

end QuietStep

/-! ### The quiet operations -/

theorem QuietStep.supersede {releases : AgentReleaseTable} {existing : AgentRelease}
    (found : releases.find? existing.id = some existing) (isPromoted : existing.status = .promoted) :
    QuietStep releases (releases.modify existing.id (AgentRelease.withStatus .superseded)
      (AgentRelease.withStatus_id .superseded)) := by
  rw [Table.modify_eq_insert found]
  apply @QuietStep.of_insert releases existing
  · exact found
  · refine ⟨⟨rfl, rfl, rfl, rfl, rfl, fun isFinal => ?_⟩, nofun, nofun⟩
    rw [isPromoted] at isFinal
    cases isFinal

theorem AgentRelease.isPromotedFor_iff {agentId agentVersionId : Uuid} {environment : String}
    {release : AgentRelease} :
    release.isPromotedFor agentId agentVersionId environment = true ↔
      release.agentId = agentId ∧ release.agentVersionId = agentVersionId ∧
        eqIgnoreAsciiCase release.environment environment = true ∧ release.status = .promoted := by
  simp [isPromotedFor, and_assoc]

theorem createAgentRelease_quiet {draw agentId : Uuid} {now : Timestamp} {gate : AgentReleaseGate}
    {promotedBy : String} {releases : AgentReleaseTable} (unique : OnePromoted releases) :
    QuietStep releases (createAgentRelease draw now agentId gate promotedBy releases).2 := by
  unfold createAgentRelease
  dsimp only
  split
  · rename_i none
    apply QuietStep.of_fresh
    case fresh => exact Table.find?_drawKey
    case notBegun => exact nofun
    case room =>
      intro _ other member
      exact Bool.eq_false_of_not_eq_true (List.find?_eq_none.mp none other member)
  · rename_i existing found
    split
    · exact QuietStep.refl releases
    · have member : existing ∈ releases := List.mem_of_find?_eq_some found
      obtain ⟨sameAgent, sameVersion, sameEnvironment, isPromoted⟩ :=
        AgentRelease.isPromotedFor_iff.mp (List.find?_some found)
      have superseded := QuietStep.supersede (Table.find?_key member) isPromoted
      apply superseded.trans
      apply QuietStep.of_fresh
      case fresh =>
        apply Table.find?_eq_none.mpr
        intro other isOther
        obtain ⟨old, oldMember, rfl⟩ := Table.mem_modify.mp isOther
        have unused : releases.find? (releases.drawKey draw) = none := Table.find?_drawKey
        have fresh := Table.find?_eq_none.mp unused old oldMember
        split <;> exact fresh
      case notBegun => exact nofun
      case room =>
        -- The superseded release was the only promoted one of the target.
        intro _ other isOther
        obtain ⟨old, oldMember, rfl⟩ := Table.mem_modify.mp isOther
        split
        · simp [AgentRelease.isPromotedFor, AgentRelease.withStatus]
        · rename_i differs
          apply Bool.eq_false_of_not_eq_true
          intro alsoPromoted
          obtain ⟨otherAgent, otherVersion, otherEnvironment, otherPromoted⟩ :=
            AgentRelease.isPromotedFor_iff.mp alsoPromoted
          apply differs
          rw [unique old oldMember existing member otherPromoted isPromoted
            (otherAgent.trans sameAgent.symm) (otherVersion.trans sameVersion.symm)
            (eqIgnoreAsciiCase_trans otherEnvironment (eqIgnoreAsciiCase_symm sameEnvironment))]

theorem storeDecision_quiet {releases : AgentReleaseTable} {decision : Except AppError AgentRelease}
    (quiet : ∀ new, decision = .ok new →
      ∃ old, releases.find? new.id = some old ∧ QuietChange old new) :
    QuietStep releases (storeDecision releases decision).2 := by
  cases decision with
  | error error => exact QuietStep.refl releases
  | ok new =>
      obtain ⟨old, found, change⟩ := quiet new rfl
      exact QuietStep.of_insert found change

theorem findAgentRelease_eq_ok {agentId releaseId : Uuid} {releases : AgentReleaseTable}
    {release : AgentRelease} (found : findAgentRelease agentId releaseId releases = .ok release) :
    releases.find? releaseId = some release ∧ release.id = releaseId := by
  unfold findAgentRelease at found
  split at found
  · cases found
  · rename_i stored isStored
    split at found
    · cases found
    · cases found
      exact ⟨isStored, (Table.find?_eq_some.mp isStored).2⟩

theorem ownedPromotion_eq_ok {agentId releaseId : Uuid} {subject : String}
    {releases : AgentReleaseTable} {release : AgentRelease}
    (found : ownedPromotion agentId releaseId subject releases = .ok release) :
    releases.find? releaseId = some release ∧ release.id = releaseId ∧
      release.status = .promotionInProgress ∧ release.decisionBy = some subject := by
  unfold ownedPromotion at found
  obtain ⟨stored, isStored, owned⟩ := bind_eq_ok.mp found
  obtain ⟨isFound, sameId⟩ := findAgentRelease_eq_ok isStored
  split at owned
  · cases owned
  · rename_i accepted
    cases owned
    rw [not_or, not_not, not_not] at accepted
    exact ⟨isFound, sameId, accepted.1, accepted.2⟩

theorem failAgentReleasePromotion_quiet {agentId releaseId : Uuid} {decidedBy reason : String}
    {releases : AgentReleaseTable} :
    QuietStep releases
      (failAgentReleasePromotion agentId releaseId decidedBy reason releases).2 := by
  apply storeDecision_quiet
  intro new decided
  obtain ⟨old, isOwned, isNew⟩ := bind_eq_ok.mp decided
  obtain ⟨found, sameId, inProgress, -⟩ := ownedPromotion_eq_ok isOwned
  cases isNew
  refine ⟨old, sameId.symm ▸ found, ⟨rfl, rfl, rfl, rfl, rfl, fun isFinal => ?_⟩, nofun, nofun⟩
  rw [inProgress] at isFinal
  cases isFinal

theorem AgentRelease.rejectedBy_quiet {release : AgentRelease} {now : Timestamp}
    {decidedBy : String} {reason : Option String} (isOpen : release.status.isFinal = false) :
    QuietChange release (release.rejectedBy now decidedBy reason) := by
  refine ⟨⟨rfl, rfl, rfl, rfl, rfl, fun isFinal => ?_⟩, nofun, nofun⟩
  rw [isOpen] at isFinal
  cases isFinal

theorem AgentReleaseStatus.isFinal_of_awaits {status : AgentReleaseStatus}
    (awaits : ¬(status ≠ .pendingApproval ∧ status ≠ .promotionFailed)) :
    status.isFinal = false := by
  cases status <;> simp_all [isFinal]

theorem validateAgentReleaseDecision_eq_ok {release : AgentRelease} {decidedBy : String}
    (accepted : validateAgentReleaseDecision release decidedBy = .ok ()) :
    release.status.isFinal = false ∧ validateAgentReleaseDecider release decidedBy = .ok () := by
  unfold validateAgentReleaseDecision at accepted
  split at accepted
  · cases accepted
  · rename_i awaits
    exact ⟨AgentReleaseStatus.isFinal_of_awaits awaits, accepted⟩

theorem rejectAgentReleasePromotion_quiet {now : Timestamp} {releaseId : Uuid} {rejectedBy : String}
    {reason : Option String} {releases : AgentReleaseTable} :
    QuietStep releases
      (rejectAgentReleasePromotion now releaseId rejectedBy reason releases).2 := by
  apply storeDecision_quiet
  intro new decided
  obtain ⟨old, isFound, isNew⟩ := bind_eq_ok.mp decided
  obtain ⟨_, accepted, isNew⟩ := bind_eq_ok.mp isNew
  cases isNew
  have found := okOr_eq_ok.mp isFound
  exact ⟨old, Table.find?_key (Table.find?_eq_some.mp found).1,
    AgentRelease.rejectedBy_quiet (validateAgentReleaseDecision_eq_ok accepted).1⟩

theorem automateAgentReleaseRejection_quiet {now : Timestamp} {agentId releaseId : Uuid}
    {decidedBy reason : String} {releases : AgentReleaseTable} :
    QuietStep releases
      (automateAgentReleaseRejection now agentId releaseId decidedBy reason releases).2 := by
  apply storeDecision_quiet
  intro new decided
  obtain ⟨old, isFound, isNew⟩ := bind_eq_ok.mp decided
  obtain ⟨found, sameId⟩ := findAgentRelease_eq_ok isFound
  split at isNew
  · cases isNew
  · rename_i awaits
    cases isNew
    exact ⟨old, sameId.symm ▸ found,
      AgentRelease.rejectedBy_quiet (AgentReleaseStatus.isFinal_of_awaits awaits)⟩

theorem rollbackAgentRelease_quiet {agentId releaseId : Uuid} {releases : AgentReleaseTable} :
    QuietStep releases (rollbackAgentRelease agentId releaseId releases).2 := by
  apply storeDecision_quiet
  intro new decided
  obtain ⟨old, isFound, isNew⟩ := bind_eq_ok.mp decided
  obtain ⟨found, sameId⟩ := findAgentRelease_eq_ok isFound
  split at isNew
  · cases isNew
  · rename_i isPromoted
    cases isNew
    refine ⟨old, sameId.symm ▸ found, ⟨rfl, rfl, rfl, rfl, rfl, fun isFinal => ?_⟩, nofun, nofun⟩
    rw [not_not.mp isPromoted] at isFinal
    cases isFinal

/-! ### The promotions of a pack -/

section packs

variable {parseUuid : String → Option Uuid}

theorem setWorkflowPackReleaseReferences_quiet {references : List Uuid} {release : AgentRelease} :
    QuietChange release (setWorkflowPackReleaseReferences references release) := by
  unfold setWorkflowPackReleaseReferences
  split
  · exact ⟨⟨rfl, rfl, rfl, rfl, rfl, fun _ => rfl⟩, fun promoted => promoted,
      fun inProgress => ⟨inProgress, rfl⟩⟩
  · exact QuietChange.refl release

theorem addWorkflowPackReleaseReference_quiet {installationId : Uuid} {release : AgentRelease} :
    QuietChange release (addWorkflowPackReleaseReference parseUuid installationId release) := by
  unfold addWorkflowPackReleaseReference
  split
  · exact QuietChange.refl release
  · exact setWorkflowPackReleaseReferences_quiet

theorem AgentRelease.givenUpBy_quiet {installationId : Uuid} {release : AgentRelease} :
    QuietChange release (release.givenUpBy parseUuid installationId) := by
  unfold givenUpBy removeWorkflowPackReleaseReference
  split
  · rename_i isGivenUp
    dsimp only
    split
    · apply setWorkflowPackReleaseReferences_quiet.trans
      refine ⟨⟨rfl, rfl, rfl, rfl, rfl, fun isFinal => ?_⟩, nofun, nofun⟩
      unfold setWorkflowPackReleaseReferences at isFinal
      split at isFinal <;> (rw [isGivenUp.1] at isFinal; cases isFinal)
    · exact setWorkflowPackReleaseReferences_quiet
  · exact QuietChange.refl release

theorem promoteTarget_quiet {draw : ReleaseTarget → Uuid} {installationId : Uuid}
    {environment promotedBy : String} {gateEvidence : Json} {occurredAt : Timestamp}
    {releases : AgentReleaseTable} {target : ReleaseTarget} :
    QuietStep releases (promoteTarget parseUuid draw installationId environment promotedBy
      gateEvidence occurredAt releases target).2 := by
  unfold promoteTarget
  split
  · rename_i existing found
    have member : existing ∈ releases := List.mem_of_find?_eq_some found
    dsimp only
    rw [Table.modify_eq_insert (Table.find?_key member)]
    apply QuietStep.of_insert
    case found =>
      rw [addWorkflowPackReleaseReference_id]
      exact Table.find?_key member
    case quiet => exact addWorkflowPackReleaseReference_quiet
  · rename_i none
    apply QuietStep.of_fresh
    case fresh => exact Table.find?_drawKey
    case notBegun => exact nofun
    case room =>
      intro _ other member
      exact Bool.eq_false_of_not_eq_true (List.find?_eq_none.mp none other member)

theorem promoteTargets_quiet {draw : ReleaseTarget → Uuid} {installationId : Uuid}
    {environment promotedBy : String} {gateEvidence : Json} {occurredAt : Timestamp}
    {targets : List ReleaseTarget} {releases : AgentReleaseTable} :
    QuietStep releases (promoteTargets parseUuid draw installationId environment promotedBy
      gateEvidence occurredAt targets releases).2 := by
  induction targets generalizing releases with
  | nil => exact QuietStep.refl releases
  | cons target rest inductionHypothesis => exact promoteTarget_quiet.trans inductionHypothesis

theorem moveAgentReleases_quiet {draw : ReleaseTarget → Uuid} {installationId : Uuid}
    {occurredAt : Timestamp} {required : List AgentRelease}
    {transition : WorkflowPackAgentReleaseTransition} {releases : AgentReleaseTable} :
    QuietStep releases (moveAgentReleases parseUuid draw installationId occurredAt required
      transition releases).2 := by
  cases transition with
  | requirePromoted targets environment => exact QuietStep.refl releases
  | promoteFromPack targets environment promotedBy gateEvidence => exact promoteTargets_quiet
  | rollbackPackPromotions =>
      have replaced : ∀ releaseId, (releases.mapRows
          (AgentRelease.givenUpBy parseUuid installationId)
          (AgentRelease.givenUpBy_id parseUuid installationId)).find? releaseId =
            (releases.find? releaseId).map (AgentRelease.givenUpBy parseUuid installationId) :=
        fun _ => Table.find?_mapRows
      exact QuietStep.of_map replaced fun _ _ => AgentRelease.givenUpBy_quiet

theorem transitionWorkflowPackLifecycle_quiet {enforcementRequired : Bool} {draws : TransitionDraws}
    {request : WorkflowPackLifecycleTransitionRequest} {store : PackStore} :
    QuietStep store.agentReleases (transitionWorkflowPackLifecycle parseUuid enforcementRequired
      draws request store).2.agentReleases := by
  unfold transitionWorkflowPackLifecycle
  split
  · exact QuietStep.refl _
  · exact moveAgentReleases_quiet

end packs

end MandoForge
