/-
Module: MandoForge.AgentRelease.ReleaseRuns
Purpose: Every interleaving of the calls that move agent releases.  A target has one
  promoted release, what is final stays, and a requested release is promoted only by
  the subject that last began its promotion and may decide it.
Trusted boundary: beside the calls the world changes, but not the agent releases.
Main exports: ReleaseEvent, agent_releases_governed
-/
import MandoForge.AgentRelease.ReleaseEffects
import MandoForge.Foundation.Runs

namespace MandoForge

open Foundation

/-! ### Runs and what is remembered of them -/

section runs

variable (parseUuid : String → Option Uuid)

abbrev ReleasePool := Pool (ReleaseStore parseUuid) AppError Unit Unit Unit

def releaseObserver : Observer (ReleaseStore parseUuid) Unit Unit where
  tells _ _ told := told
  acts _ _ heard := heard
  overhears _ _ heard := heard

inductive ReleaseEvent where
  | enter (call : ReleaseCall)
  /-- One of the calls performs its next store operation. -/
  | operate (index : Nat)
  /-- The world changes beside the calls. -/
  | elsewhere (world : PackWorld)

/-- What was requested, and who last began the promotion of what. -/
structure ReleaseHistory where
  requested : Uuid → Option PromotionRequest
  began : Uuid → Option String

namespace ReleaseHistory

def empty : ReleaseHistory where
  requested _ := none
  began _ := none

/-- The history after an operation and its answer. -/
def note (history : ReleaseHistory) :
    (operation : ReleaseOperation) → operation.Answer → ReleaseHistory
  | .requestPromotion _ _ _ request, release =>
      { history with requested := Function.update history.requested release.id (some request) }
  | .beginPromotion _ releaseId decidedBy _, .ok _ =>
      { history with began := Function.update history.began releaseId (some decidedBy) }
  | _, _ => history

end ReleaseHistory

/-- A pool of calls with the history of its run. -/
structure ReleaseRun where
  pool : ReleasePool parseUuid
  history : ReleaseHistory

namespace ReleaseRun

variable {parseUuid}

def releases (run : ReleaseRun parseUuid) : AgentReleaseTable := run.pool.state.releases

/-- The next operation of a call. -/
def pending (index : Nat) (run : ReleaseRun parseUuid) : Option ReleaseOperation :=
  (run.pool.next index).map Prod.snd

end ReleaseRun

variable {parseUuid}

def ReleaseEvent.perform (event : ReleaseEvent) (run : ReleaseRun parseUuid) :
    ReleaseRun parseUuid :=
  match event with
  | .enter call => { run with pool := run.pool.enter call.program () () }
  | .operate index =>
      { pool := run.pool.operate (releaseObserver parseUuid) index
        history := match run.pending index with
          | none => run.history
          | some operation =>
              run.history.note operation (operation.perform parseUuid run.pool.state).1 }
  | .elsewhere world => { run with pool := { run.pool with state := world.withReleases run.releases } }

variable (parseUuid)

/-- No agent release is stored and no call is under way. -/
def noReleases (world : PackWorld) : ReleaseRun parseUuid where
  pool := { state := world.withReleases Table.empty, calls := [] }
  history := .empty

end runs

/-! ### What is claimed -/

/-- The event completes the promotion of the release, by the subject. -/
def Completes {parseUuid : String → Option Uuid} (releaseId : Uuid) (subject : String)
    (event : ReleaseEvent) (run : ReleaseRun parseUuid) : Prop :=
  ∃ index agentId, event = .operate index ∧
    run.pending index = some (.completePromotion agentId releaseId subject)

/-- What every step of a run does to the releases. -/
structure ReleaseStepGoverned {parseUuid : String → Option Uuid} (event : ReleaseEvent)
    (run : ReleaseRun parseUuid) : Prop where
  final : ∀ release ∈ run.releases, release.status.isFinal = true →
    ∃ later, (event.perform run).releases.find? release.id = some later ∧
      later.status = release.status
  promoted : ∀ releaseId request before after,
    run.history.requested releaseId = some request →
    run.releases.find? releaseId = some before → before.status ≠ .promoted →
    (event.perform run).releases.find? releaseId = some after → after.status = .promoted →
    ∃ subject, Completes releaseId subject event run ∧
      run.history.began releaseId = some subject ∧ subject ≠ request.requestedBy ∧
      ∀ approver ∈ request.approverSubject, subject = approver

structure ReleasesGoverned (parseUuid : String → Option Uuid) (events : List ReleaseEvent)
    (world : PackWorld) : Prop where
  onePromoted : HeldAlong ReleaseEvent.perform (fun run => OnePromoted run.releases) events
    (noReleases parseUuid world)
  /-- A request is stored as a release that waits for its approval. -/
  requested : HeldAlong ReleaseEvent.perform (fun run => ∀ releaseId request,
      run.history.requested releaseId = some request → ∃ release,
        run.releases.find? releaseId = some release ∧
          release.requestedBy = some request.requestedBy ∧
          release.approverSubject = request.approverSubject) events (noReleases parseUuid world)
  steps : MetAlong ReleaseEvent.perform ReleaseStepGoverned events (noReleases parseUuid world)

/-! ### What an operation does, and what is remembered of it -/

/-- The effect of an operation on the releases and on the history. -/
inductive ReleaseEffect (operation : ReleaseOperation) (before after : AgentReleaseTable)
    (history later : ReleaseHistory) : Prop where
  | quiet (step : QuietStep before after) (noted : later = history)
  | requests (release : AgentRelease) (request : PromotionRequest)
      (fresh : before.find? release.id = none) (stored : after = before.insert release)
      (waits : release.status = .pendingApproval)
      (requestedBy : release.requestedBy = some request.requestedBy)
      (approver : release.approverSubject = request.approverSubject)
      (noted : later = { history with
        requested := Function.update history.requested release.id (some request) })
  | begins (old new : AgentRelease) (subject : String) (found : before.find? new.id = some old)
      (stored : after = before.insert new) (kept : ReleaseKept old new)
      (begun : new.status = .promotionInProgress) (decisionBy : new.decisionBy = some subject)
      (decider : validateAgentReleaseDecider new subject = .ok ())
      (noted : later = { history with
        began := Function.update history.began new.id (some subject) })
  | completes (current : AgentRelease) (agentId : Uuid) (subject : String) (now : Timestamp)
      (isComplete : operation = .completePromotion agentId current.id subject)
      (found : before.find? current.id = some current)
      (begun : current.status = .promotionInProgress)
      (decisionBy : current.decisionBy = some subject)
      (stored : after = (before.mapRows current.madeRoom current.madeRoom_id).insert
        (current.completed now subject))
      (noted : later = history)

/-- Begun by who may decide the release, and begun again by who began it. -/
theorem beginAgentReleasePromotion_eq_ok {now : Timestamp} {agentId releaseId : Uuid}
    {decidedBy reason : String} {releases : AgentReleaseTable} {new : AgentRelease}
    (begun : (beginAgentReleasePromotion now agentId releaseId decidedBy reason releases).1 =
      .ok new) :
    ∃ old, releases.find? releaseId = some old ∧ new.id = releaseId ∧ ReleaseKept old new ∧
      new.status = .promotionInProgress ∧ new.decisionBy = some decidedBy ∧
      validateAgentReleaseDecider new decidedBy = .ok () ∧
      (beginAgentReleasePromotion now agentId releaseId decidedBy reason releases).2 =
        releases.insert new := by
  unfold beginAgentReleasePromotion at begun ⊢
  generalize decided : (do
    let release ← findAgentRelease agentId releaseId releases
    if release.status = .promotionInProgress then
      validateAgentReleaseDecider release decidedBy
      if release.decisionBy ≠ some decidedBy then
        .error (.forbidden "agent release promotion is owned by another approver")
      else .ok release
    else
      validateAgentReleaseDecision release decidedBy
      .ok (release.begun now decidedBy reason) : Except AppError AgentRelease) = decision at *
  cases decision with
  | error error => cases begun
  | ok stored =>
      cases begun
      obtain ⟨old, isFound, checked⟩ := bind_eq_ok.mp decided
      obtain ⟨found, sameId⟩ := findAgentRelease_eq_ok isFound
      split at checked
      · rename_i inProgress
        obtain ⟨_, accepted, owned⟩ := bind_eq_ok.mp checked
        split at owned
        · cases owned
        · rename_i isOwner
          cases owned
          exact ⟨new, found, sameId, ReleaseKept.refl new, inProgress, not_not.mp isOwner,
            accepted, rfl⟩
      · obtain ⟨_, accepted, isNew⟩ := bind_eq_ok.mp checked
        obtain ⟨isOpen, mayDecide⟩ := validateAgentReleaseDecision_eq_ok accepted
        cases isNew
        refine ⟨old, found, sameId, ⟨rfl, rfl, rfl, rfl, rfl, fun isFinal => ?_⟩, rfl, rfl,
          mayDecide, rfl⟩
        rw [isOpen] at isFinal
        cases isFinal

theorem beginAgentReleasePromotion_eq_error {now : Timestamp} {agentId releaseId : Uuid}
    {decidedBy reason : String} {releases : AgentReleaseTable} {error : AppError}
    (refused : (beginAgentReleasePromotion now agentId releaseId decidedBy reason releases).1 =
      .error error) :
    (beginAgentReleasePromotion now agentId releaseId decidedBy reason releases).2 = releases := by
  unfold beginAgentReleasePromotion storeDecision at refused ⊢
  split at refused
  · rfl
  · cases refused

section operations

variable {parseUuid : String → Option Uuid}

variable (parseUuid) in
/-- Every operation has one of the effects. -/
theorem ReleaseOperation.perform_effect (operation : ReleaseOperation) (world : PackWorld)
    (history : ReleaseHistory) (unique : OnePromoted world.releases) :
    ReleaseEffect operation world.releases (operation.perform parseUuid world).2.releases history
      (history.note operation (operation.perform parseUuid world).1) := by
  cases operation with
  | getAgent agentId => exact .quiet (QuietStep.refl _) rfl
  | listAgentVersions agentId => exact .quiet (QuietStep.refl _) rfl
  | currentAgentVersion agentId => exact .quiet (QuietStep.refl _) rfl
  | listEvalRuns => exact .quiet (QuietStep.refl _) rfl
  | createAgentRelease draw agentId gate promotedBy =>
      exact .quiet (createAgentRelease_quiet unique) rfl
  | requestPromotion draw agentId gate request =>
      exact .requests (requestedAgentRelease (world.releases.drawKey draw) world.clock agentId gate
        request) request Table.find?_drawKey rfl rfl rfl rfl rfl
  | beginPromotion agentId releaseId decidedBy reason =>
      cases answered : (beginAgentReleasePromotion world.clock agentId releaseId decidedBy reason
          world.releases).1 with
      | error error =>
          apply ReleaseEffect.quiet
          case step =>
            have same := beginAgentReleasePromotion_eq_error answered
            simp only [ReleaseOperation.perform, PackWorld.onReleases,
              PackWorld.releases_withReleases, same]
            exact QuietStep.refl _
          case noted =>
            simp only [ReleaseOperation.perform, PackWorld.onReleases, answered]
            rfl
      | ok new =>
          obtain ⟨old, found, rfl, kept, begun, decisionBy, decider, stored⟩ :=
            beginAgentReleasePromotion_eq_ok answered
          apply ReleaseEffect.begins old new decidedBy found stored kept begun decisionBy decider
          simp only [ReleaseOperation.perform, PackWorld.onReleases, answered]
          rfl
  | completePromotion agentId releaseId promotedBy =>
      cases owned : ownedPromotion agentId releaseId promotedBy world.releases with
      | error error =>
          have same : (completeAgentReleasePromotion world.clock agentId releaseId promotedBy
              world.releases).2 = world.releases := by
            rw [completeAgentReleasePromotion, owned]
          exact .quiet (same.symm ▸ QuietStep.refl world.releases) rfl
      | ok current =>
          obtain ⟨found, rfl, begun, decisionBy⟩ := ownedPromotion_eq_ok owned
          have stored : (completeAgentReleasePromotion world.clock agentId current.id promotedBy
              world.releases).2 = (world.releases.mapRows current.madeRoom
                current.madeRoom_id).insert (current.completed world.clock promotedBy) := by
            rw [completeAgentReleasePromotion, owned]
          exact .completes current agentId promotedBy world.clock rfl found begun decisionBy stored
            rfl
  | failPromotion agentId releaseId decidedBy reason =>
      exact .quiet failAgentReleasePromotion_quiet rfl
  | rejectPromotion releaseId rejectedBy reason =>
      exact .quiet rejectAgentReleasePromotion_quiet rfl
  | automateRejection agentId releaseId decidedBy reason =>
      exact .quiet automateAgentReleaseRejection_quiet rfl
  | rollback agentId releaseId => exact .quiet rollbackAgentRelease_quiet rfl
  | transitionPack enforcementRequired draws request =>
      exact .quiet transitionWorkflowPackLifecycle_quiet rfl

end operations

/-! ### What every run keeps -/

/-- What holds of the releases and of what is remembered. -/
structure ReleasesSound (releases : AgentReleaseTable) (history : ReleaseHistory) : Prop where
  onePromoted : OnePromoted releases
  requested : ∀ releaseId request, history.requested releaseId = some request → ∃ release,
    releases.find? releaseId = some release ∧
      release.requestedBy = some request.requestedBy ∧
      release.approverSubject = request.approverSubject
  /-- A promotion under way is that of the subject that last began it. -/
  inProgress : ∀ release ∈ releases, release.status = .promotionInProgress → ∃ subject,
    history.began release.id = some subject ∧ release.decisionBy = some subject ∧
      validateAgentReleaseDecider release subject = .ok ()

theorem ReleaseKept.decider {old new : AgentRelease} (kept : ReleaseKept old new)
    (subject : String) :
    validateAgentReleaseDecider new subject = validateAgentReleaseDecider old subject := by
  unfold validateAgentReleaseDecider
  rw [kept.requestedBy, kept.approverSubject]

theorem validateAgentReleaseDecider_eq_ok {release : AgentRelease} {subject : String}
    (accepted : validateAgentReleaseDecider release subject = .ok ()) :
    release.requestedBy ≠ some subject ∧
      ∀ approver ∈ release.approverSubject, subject = approver := by
  unfold validateAgentReleaseDecider at accepted
  split at accepted
  · cases accepted
  · rename_i isOther
    split at accepted
    · cases accepted
    · rename_i allowed
      refine ⟨isOther, fun approver isApprover => ?_⟩
      rw [Option.mem_def.mp isApprover, Option.any_some, decide_eq_true_eq, not_not] at allowed
      exact allowed.symm

theorem AgentRelease.madeRoom_quiet (current sibling : AgentRelease) :
    QuietChange sibling (current.madeRoom sibling) := by
  unfold madeRoom
  split
  · rename_i makesRoom
    refine ⟨⟨rfl, rfl, rfl, rfl, rfl, fun isFinal => ?_⟩, nofun, nofun⟩
    rw [(AgentRelease.isPromotedFor_iff.mp makesRoom.2).2.2.2] at isFinal
    cases isFinal
  · exact QuietChange.refl sibling

theorem AgentRelease.madeRoom_free {current sibling : AgentRelease}
    (isOther : sibling.id ≠ current.id) :
    (current.madeRoom sibling).isPromotedFor current.agentId current.agentVersionId
      current.environment = false := by
  unfold madeRoom
  split
  · simp [isPromotedFor, withStatus]
  · rename_i noRoom
    rw [not_and] at noRoom
    exact Bool.eq_false_of_not_eq_true (noRoom isOther)

namespace ReleaseEffect

variable {operation : ReleaseOperation} {before after : AgentReleaseTable}
  {history later : ReleaseHistory}

/-- What a completion leaves: the completed release, and the others after they made
room. -/
theorem mem_completed {current other : AgentRelease} {now : Timestamp} {subject : String} :
    other ∈ (before.mapRows current.madeRoom current.madeRoom_id).insert
        (current.completed now subject) ↔
      other = current.completed now subject ∨
        ∃ old ∈ before, old.id ≠ current.id ∧ current.madeRoom old = other := by
  have sameId : (current.completed now subject).id = current.id := rfl
  rw [Table.mem_insert_iff, Table.mem_mapRows, sameId]
  constructor
  · rintro (isNew | ⟨isOther, old, member, rfl⟩)
    · exact .inl isNew
    · rw [AgentRelease.madeRoom_id] at isOther
      exact .inr ⟨old, member, isOther, rfl⟩
  · rintro (isNew | ⟨old, member, isOther, rfl⟩)
    · exact .inl isNew
    · exact .inr ⟨by rwa [AgentRelease.madeRoom_id], old, member, rfl⟩

/-- A stored release stays stored, and what is final of it stays. -/
theorem kept (effect : ReleaseEffect operation before after history later) {releaseId : Uuid}
    {old : AgentRelease} (found : before.find? releaseId = some old) :
    ∃ new, after.find? releaseId = some new ∧ ReleaseKept old new := by
  have sameId := (Table.find?_eq_some.mp found).2
  cases effect with
  | quiet step =>
      obtain ⟨new, isNew, change⟩ := step.kept releaseId old found
      exact ⟨new, isNew, change.toReleaseKept⟩
  | requests release request fresh stored =>
      have differs : releaseId ≠ release.id := by
        rintro rfl
        rw [fresh] at found
        cases found
      exact ⟨old, by rw [stored, Table.find?_insert_of_ne differs, found], ReleaseKept.refl old⟩
  | begins current new subject isFound stored change =>
      by_cases same : releaseId = new.id
      · subst same
        obtain rfl := Option.some.inj (found.symm.trans isFound)
        exact ⟨new, by rw [stored, Table.find?_insert_same], change⟩
      · exact ⟨old, by rw [stored, Table.find?_insert_of_ne same, found], ReleaseKept.refl old⟩
  | completes current agentId subject now _ isFound begun _ stored =>
      by_cases same : releaseId = current.id
      · subst same
        obtain rfl := Option.some.inj (found.symm.trans isFound)
        refine ⟨old.completed now subject, by rw [stored]; exact Table.find?_insert_same,
          rfl, rfl, rfl, rfl, rfl, fun isFinal => ?_⟩
        rw [begun] at isFinal
        cases isFinal
      · refine ⟨current.madeRoom old, ?_, (current.madeRoom_quiet old).toReleaseKept⟩
        have differs : releaseId ≠ (current.completed now subject).id := same
        rw [stored, Table.find?_insert_of_ne differs, Table.find?_mapRows, found, Option.map_some]

theorem onePromoted (effect : ReleaseEffect operation before after history later)
    (unique : OnePromoted before) : OnePromoted after := by
  cases effect with
  | quiet step => exact step.onePromoted unique
  | requests release request fresh stored waits =>
      have step : QuietStep before (before.insert release) := by
        apply QuietStep.of_fresh fresh
        · rw [waits]
          exact nofun
        · intro promoted
          rw [waits] at promoted
          cases promoted
      exact stored ▸ step.onePromoted unique
  | begins old new subject isFound stored change begun =>
      subst stored
      intro first firstMember second secondMember firstPromoted secondPromoted
      rcases Table.mem_insert_iff.mp firstMember with rfl | ⟨-, firstIn⟩
      · rw [begun] at firstPromoted
        cases firstPromoted
      · rcases Table.mem_insert_iff.mp secondMember with rfl | ⟨-, secondIn⟩
        · rw [begun] at secondPromoted
          cases secondPromoted
        · exact unique first firstIn second secondIn firstPromoted secondPromoted
  | completes current agentId subject now _ isFound _ _ stored =>
      -- The others of the target made room for the completed release.
      have made := AgentRelease.madeRoom_quiet current
      have excluded : ∀ old : AgentRelease, old.id ≠ current.id →
          (current.madeRoom old).status = .promoted →
          (current.madeRoom old).agentId = current.agentId →
          (current.madeRoom old).agentVersionId = current.agentVersionId →
          eqIgnoreAsciiCase (current.madeRoom old).environment current.environment = true →
          False := by
        intro old isOther promoted sameAgent sameVersion sameEnvironment
        have isFree := AgentRelease.madeRoom_free isOther
        rw [AgentRelease.isPromotedFor_iff.mpr ⟨sameAgent, sameVersion, sameEnvironment, promoted⟩]
          at isFree
        cases isFree
      subst stored
      intro first firstMember second secondMember firstPromoted secondPromoted sameAgent
        sameVersion sameEnvironment
      rcases mem_completed.mp firstMember with rfl | ⟨firstOld, firstIn, firstOther, rfl⟩
      · rcases mem_completed.mp secondMember with rfl | ⟨secondOld, -, secondOther, rfl⟩
        · rfl
        · exact (excluded secondOld secondOther secondPromoted sameAgent.symm sameVersion.symm
            (eqIgnoreAsciiCase_symm sameEnvironment)).elim
      · rcases mem_completed.mp secondMember with rfl | ⟨secondOld, secondIn, -, rfl⟩
        · exact (excluded firstOld firstOther firstPromoted sameAgent sameVersion
            sameEnvironment).elim
        · have one := made firstOld
          have two := made secondOld
          rw [one.agentId, two.agentId] at sameAgent
          rw [one.agentVersionId, two.agentVersionId] at sameVersion
          rw [one.environment, two.environment] at sameEnvironment
          rw [unique firstOld firstIn secondOld secondIn (one.promoted firstPromoted)
            (two.promoted secondPromoted) sameAgent sameVersion sameEnvironment]

/-- A release that is in promotion after an operation was so before it, or was begun by
it. -/
theorem inProgress (effect : ReleaseEffect operation before after history later)
    (sound : ReleasesSound before history) {release : AgentRelease} (member : release ∈ after)
    (begun : release.status = .promotionInProgress) :
    ∃ subject, later.began release.id = some subject ∧ release.decisionBy = some subject ∧
      validateAgentReleaseDecider release subject = .ok () := by
  cases effect with
  | quiet step noted =>
      obtain ⟨old, found⟩ := step.inProgress release member begun
      obtain ⟨new, isNew, change⟩ := step.kept release.id old found
      obtain rfl := Option.some.inj (isNew.symm.trans (Table.find?_key member))
      obtain ⟨wasBegun, sameSubject⟩ := change.inProgress begun
      obtain ⟨oldMember, sameId⟩ := Table.find?_eq_some.mp found
      obtain ⟨subject, began, decisionBy, decider⟩ := sound.inProgress old oldMember wasBegun
      refine ⟨subject, ?_, sameSubject.trans decisionBy, (change.decider subject).trans decider⟩
      rw [noted, ← sameId, began]
  | requests new request fresh stored waits _ _ noted =>
      rw [stored] at member
      rcases (Table.mem_insert_of_fresh fresh).mp member with old | rfl
      · rw [noted]
        exact sound.inProgress release old begun
      · rw [waits] at begun
        cases begun
  | begins old new subject isFound stored change _ decisionBy decider noted =>
      rw [stored] at member
      subst noted
      dsimp only
      rcases Table.mem_insert_iff.mp member with rfl | ⟨differs, isOld⟩
      · exact ⟨subject, Function.update_self .., decisionBy, decider⟩
      · rw [Function.update_of_ne differs]
        exact sound.inProgress release isOld begun
  | completes current agentId subject now _ _ _ _ stored noted =>
      rw [stored] at member
      rcases mem_completed.mp member with rfl | ⟨old, isOld, -, rfl⟩
      · cases begun
      · have change := AgentRelease.madeRoom_quiet current old
        obtain ⟨wasBegun, sameSubject⟩ := change.inProgress begun
        obtain ⟨began, isBegan, decisionBy, decider⟩ := sound.inProgress old isOld wasBegun
        refine ⟨began, ?_, sameSubject.trans decisionBy, (change.decider began).trans decider⟩
        rw [noted, AgentRelease.madeRoom_id, isBegan]

theorem requested (effect : ReleaseEffect operation before after history later)
    (sound : ReleasesSound before history) {releaseId : Uuid} {request : PromotionRequest}
    (isRequested : later.requested releaseId = some request) :
    ∃ release, after.find? releaseId = some release ∧
      release.requestedBy = some request.requestedBy ∧
      release.approverSubject = request.approverSubject := by
  have remains : ∀ request, history.requested releaseId = some request →
      ∃ release, after.find? releaseId = some release ∧
        release.requestedBy = some request.requestedBy ∧
        release.approverSubject = request.approverSubject := by
    intro request wasRequested
    obtain ⟨old, found, requestedBy, approver⟩ := sound.requested releaseId request wasRequested
    obtain ⟨new, isNew, change⟩ := effect.kept found
    exact ⟨new, isNew, change.requestedBy.trans requestedBy,
      change.approverSubject.trans approver⟩
  cases effect with
  | quiet _ noted => exact remains request (noted ▸ isRequested)
  | requests release made fresh stored _ requestedBy approver noted =>
      subst noted
      dsimp only at isRequested
      by_cases same : releaseId = release.id
      · subst same
        simp only [Function.update_self, Option.some.injEq] at isRequested
        subst isRequested
        exact ⟨release, by rw [stored, Table.find?_insert_same], requestedBy, approver⟩
      · rw [Function.update_of_ne same] at isRequested
        exact remains request isRequested
  | begins _ _ _ _ _ _ _ _ _ noted =>
      rw [noted] at isRequested
      exact remains request isRequested
  | completes _ _ _ _ _ _ _ _ _ noted => exact remains request (noted ▸ isRequested)

theorem sound (effect : ReleaseEffect operation before after history later)
    (was : ReleasesSound before history) : ReleasesSound after later where
  onePromoted := effect.onePromoted was.onePromoted
  requested _ _ := effect.requested was
  inProgress _ := effect.inProgress was

/-- A requested release is promoted by nothing but its completion. -/
theorem promoted (effect : ReleaseEffect operation before after history later)
    (sound : ReleasesSound before history) {releaseId : Uuid} {request : PromotionRequest}
    (isRequested : history.requested releaseId = some request) {old new : AgentRelease}
    (found : before.find? releaseId = some old) (wasNot : old.status ≠ .promoted)
    (isNew : after.find? releaseId = some new) (isPromoted : new.status = .promoted) :
    ∃ agentId subject, operation = .completePromotion agentId releaseId subject ∧
      history.began releaseId = some subject ∧ subject ≠ request.requestedBy ∧
      ∀ approver ∈ request.approverSubject, subject = approver := by
  cases effect with
  | quiet step =>
      obtain ⟨later, isLater, change⟩ := step.kept releaseId old found
      obtain rfl := Option.some.inj (isNew.symm.trans isLater)
      exact (wasNot (change.promoted isPromoted)).elim
  | requests release made fresh stored =>
      have differs : releaseId ≠ release.id := by
        rintro rfl
        rw [fresh] at found
        cases found
      rw [stored, Table.find?_insert_of_ne differs, found] at isNew
      cases isNew
      exact (wasNot isPromoted).elim
  | begins current later subject isFound stored change begun =>
      by_cases same : releaseId = later.id
      · subst same
        rw [stored, Table.find?_insert_same] at isNew
        cases isNew
        rw [begun] at isPromoted
        cases isPromoted
      · rw [stored, Table.find?_insert_of_ne same, found] at isNew
        cases isNew
        exact (wasNot isPromoted).elim
  | completes current agentId subject now isComplete isFound begun decisionBy stored =>
      by_cases same : releaseId = current.id
      · subst same
        obtain rfl := Option.some.inj (found.symm.trans isFound)
        obtain ⟨owner, began, isOwner, decider⟩ :=
          sound.inProgress old (Table.find?_eq_some.mp found).1 begun
        obtain rfl := Option.some.inj (decisionBy.symm.trans isOwner)
        obtain ⟨release, isRelease, requestedBy, approver⟩ :=
          sound.requested old.id request isRequested
        obtain rfl := Option.some.inj (found.symm.trans isRelease)
        obtain ⟨notRequester, isApprover⟩ := validateAgentReleaseDecider_eq_ok decider
        rw [requestedBy] at notRequester
        rw [approver] at isApprover
        exact ⟨agentId, subject, isComplete, began,
          fun same => notRequester (congrArg some same.symm), isApprover⟩
      · have differs : releaseId ≠ (current.completed now subject).id := same
        rw [stored, Table.find?_insert_of_ne differs, Table.find?_mapRows, found,
          Option.map_some] at isNew
        cases isNew
        exact (wasNot ((current.madeRoom_quiet old).promoted isPromoted)).elim

end ReleaseEffect

/-! ### Every run -/

section everyRun

variable {parseUuid : String → Option Uuid}

def ReleaseRun.Sound (run : ReleaseRun parseUuid) : Prop :=
  ReleasesSound run.releases run.history

/-- What an event does: nothing to the releases, or what an operation does. -/
theorem ReleaseEvent.perform_cases (event : ReleaseEvent) (run : ReleaseRun parseUuid)
    (unique : OnePromoted run.releases) :
    ((event.perform run).releases = run.releases ∧ (event.perform run).history = run.history) ∨
      ∃ index operation, event = .operate index ∧ run.pending index = some operation ∧
        ReleaseEffect operation run.releases (event.perform run).releases run.history
          (event.perform run).history := by
  cases event with
  | enter call => exact .inl ⟨rfl, rfl⟩
  | elsewhere world => exact .inl ⟨rfl, rfl⟩
  | operate index =>
      cases pending : run.pool.next index with
      | none =>
          refine .inl ⟨?_, ?_⟩
          · simp only [perform, ReleaseRun.releases, Pool.operate_of_next_eq_none pending]
          · simp only [perform, ReleaseRun.pending, pending]
            rfl
      | some next =>
          obtain ⟨told, operation⟩ := next
          have isPending : run.pending index = some operation := by
            rw [ReleaseRun.pending, pending]
            rfl
          have effect := ReleaseOperation.perform_effect parseUuid operation
            run.pool.state run.history unique
          refine .inr ⟨index, operation, rfl, isPending, ?_⟩
          simp only [perform, ReleaseRun.releases, Pool.state_operate pending, isPending]
          exact effect

theorem ReleaseEvent.sound_perform (event : ReleaseEvent) (run : ReleaseRun parseUuid)
    (sound : run.Sound) : (event.perform run).Sound := by
  rcases event.perform_cases run sound.onePromoted with ⟨same, noted⟩ | ⟨_, _, _, _, effect⟩
  · rw [ReleaseRun.Sound, same, noted]
    exact sound
  · exact effect.sound sound

theorem ReleaseEvent.governed_perform (event : ReleaseEvent) (run : ReleaseRun parseUuid)
    (sound : run.Sound) : ReleaseStepGoverned event run := by
  rcases event.perform_cases run sound.onePromoted with
    ⟨same, -⟩ | ⟨index, operation, isOperate, pending, effect⟩
  · constructor
    case final =>
      intro release member _
      exact ⟨release, by rw [same]; exact Table.find?_key member, rfl⟩
    case promoted =>
      intro releaseId request before after _ found wasNot isAfter isPromoted
      rw [same, found] at isAfter
      cases isAfter
      exact (wasNot isPromoted).elim
  · constructor
    case final =>
      intro release member isFinal
      obtain ⟨later, isLater, kept⟩ := effect.kept (Table.find?_key member)
      exact ⟨later, isLater, kept.final isFinal⟩
    case promoted =>
      intro releaseId request before after isRequested found wasNot isAfter isPromoted
      obtain ⟨agentId, subject, isComplete, rest⟩ :=
        effect.promoted sound isRequested found wasNot isAfter isPromoted
      exact ⟨subject, ⟨index, agentId, isOperate, isComplete ▸ pending⟩, rest⟩

theorem noReleases_sound (world : PackWorld) : (noReleases parseUuid world).Sound where
  onePromoted _ member := nomatch member
  requested _ _ isRequested := nomatch isRequested
  inProgress _ member := nomatch member

theorem soundAlong (events : List ReleaseEvent) (world : PackWorld) :
    HeldAlong ReleaseEvent.perform ReleaseRun.Sound events (noReleases parseUuid world) :=
  heldAlong_of_step (fun event run (_ : True) => event.sound_perform run)
    (noReleases_sound world) metAlong_trivial

end everyRun

/-- However the calls interleave, an agent version has one promoted release for an
environment, what is final stays, and a requested release is promoted by who may decide
it and last began it. -/
theorem agent_releases_governed (parseUuid : String → Option Uuid) (world : PackWorld)
    (events : List ReleaseEvent) : ReleasesGoverned parseUuid events world where
  onePromoted := (soundAlong events world).mono fun _ sound => sound.onePromoted
  requested := (soundAlong events world).mono fun _ sound => sound.requested
  steps front event isPrefix :=
    event.governed_perform _
      (soundAlong events world front ((List.prefix_append front [event]).trans isPrefix))

end MandoForge
