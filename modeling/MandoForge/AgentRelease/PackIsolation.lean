/-
Module: MandoForge.AgentRelease.PackIsolation
Purpose: Every sequence of releases, rollbacks and archivals of workflow packs.  The
  references of an agent release are exact, and it is rolled back with the last of them;
  what another released installation relies on stays, except that an agent both use is
  disabled with the one that leaves.
Trusted boundary: a printed identifier is read back as itself.
Main exports: PacksSound, shared_agent_is_disabled
-/
import MandoForge.AgentRelease.PackRuns
import Mathlib.Data.List.Induction

namespace MandoForge

open Foundation

section step

variable {parseUuid : String → Option Uuid}

/-! ### Exact references -/

theorem storeAfter_snoc {calls : List PackCall} {call : PackCall} {start : PackStore} :
    storeAfter parseUuid (calls ++ [call]) start =
      call.perform parseUuid (storeAfter parseUuid calls start) := by
  rw [storeAfter, runEvents_append]
  rfl

variable (parseUuid) in
theorem PackCall.perform_quiet (call : PackCall) (store : PackStore) :
    QuietStep store.agentReleases (call.perform parseUuid store).agentReleases :=
  transitionWorkflowPackLifecycle_quiet

theorem stored_of_prefix {front calls : List PackCall} {start : PackStore} {releaseId : Uuid}
    (isPrefix : front <+: calls)
    (stored : (storeAfter parseUuid front start).agentReleases.find? releaseId ≠ none) :
    (storeAfter parseUuid calls start).agentReleases.find? releaseId ≠ none := by
  obtain ⟨rest, rfl⟩ := isPrefix
  induction rest using List.reverseRecOn with
  | nil => rwa [List.append_nil]
  | append_singleton rest call inductionHypothesis =>
      obtain ⟨old, found⟩ := Option.ne_none_iff_exists'.mp inductionHypothesis
      obtain ⟨new, isNew, -⟩ := (call.perform_quiet parseUuid
        (storeAfter parseUuid (front ++ rest) start)).kept releaseId old found
      rw [← List.append_assoc, storeAfter_snoc, isNew]
      exact Option.some_ne_none new

theorem releasedSince_snoc {release : AgentRelease} {installationId : Uuid}
    {calls : List PackCall} {call : PackCall} {start : PackStore} :
    ReleasedSince parseUuid release installationId (calls ++ [call]) start ↔
      ReleasedSince parseUuid release installationId calls start ∨
        (call.Releases parseUuid installationId release (storeAfter parseUuid calls start) ∧
          (storeAfter parseUuid (calls ++ [call]) start).agentReleases.find? release.id ≠
            none) := by
  constructor
  · rintro ⟨front, next, isPrefix, releases, stored⟩
    rcases List.prefix_concat_iff.mp isPrefix with same | isPrefix
    · obtain ⟨rfl, sameCall⟩ := List.append_inj' same rfl
      obtain rfl := List.singleton_inj.mp sameCall
      exact .inr ⟨releases, stored⟩
    · exact .inl ⟨front, next, isPrefix, releases, stored⟩
  · rintro (⟨front, next, isPrefix, releases, stored⟩ | ⟨releases, stored⟩)
    · exact ⟨front, next, isPrefix.trans (List.prefix_append calls [call]), releases, stored⟩
    · exact ⟨calls, call, List.prefix_rfl, releases, stored⟩

theorem releasedSince_kept {old new : AgentRelease} (kept : ReleaseKept old new)
    (sameId : new.id = old.id) {installationId : Uuid} {calls : List PackCall}
    {start : PackStore} :
    ReleasedSince parseUuid new installationId calls start ↔
      ReleasedSince parseUuid old installationId calls start := by
  simp only [ReleasedSince, PackCall.Releases, AgentRelease.targeted_kept kept, sameId]

theorem targeted_normalized {targets known : List ReleaseTarget} {environment : String}
    {release : AgentRelease} (sameTargets : ∀ target, target ∈ known ↔ target ∈ targets) :
    release.Targeted known (toAsciiLowercase environment) ↔
      release.Targeted targets environment := by
  simp only [AgentRelease.Targeted, sameTargets, eqIgnoreAsciiCase, toAsciiLowercase_idem]

/-- What holds of a store after calls. -/
structure PacksSound (parseUuid : String → Option Uuid) (calls : List PackCall)
    (start : PackStore) : Prop where
  unique : OnePromoted (storeAfter parseUuid calls start).agentReleases
  owned : AllPackOwned (storeAfter parseUuid calls start).agentReleases
  /-- An installation is released once. -/
  moved : ∀ release installationId, ReleasedSince parseUuid release installationId calls start →
    ∃ installation, (storeAfter parseUuid calls start).workflowPackInstallations.find?
      installationId = some installation ∧ installation.status ≠ .staged
  exact : ∀ release ∈ (storeAfter parseUuid calls start).agentReleases,
    release.status = .promoted → ∀ installationId,
      installationId ∈ workflowPackReleaseReferences parseUuid release ↔
        IsReleased installationId (storeAfter parseUuid calls start) ∧
          ReleasedSince parseUuid release installationId calls start

theorem AgentRelease.PackOwned.givenUpBy {release : AgentRelease} (owned : release.PackOwned)
    (installationId : Uuid) : (release.givenUpBy parseUuid installationId).PackOwned := by
  unfold AgentRelease.givenUpBy removeWorkflowPackReleaseReference
  split
  · dsimp only
    split
    · exact owned.set _
    · exact owned.set _
  · exact owned

theorem releases_takenOut {call : PackCall} {store : PackStore}
    {current : WorkflowPackInstallation} :
    (writeTransition parseUuid call.draws call.request .rollbackPackPromotions [] current
      store).agentReleases = store.agentReleases.mapRows
        (AgentRelease.givenUpBy parseUuid call.request.installationId)
        (AgentRelease.givenUpBy_id parseUuid call.request.installationId) := rfl

section sound

variable (readsBack : ∀ id, parseUuid (Nat.repr id) = some id) {calls : List PackCall}
  {start : PackStore} {call : PackCall}

/-- The installation that a call moves is not staged any more. -/
theorem moved_snoc (sound : PacksSound parseUuid calls start) {release : AgentRelease}
    {installationId : Uuid}
    (since : ReleasedSince parseUuid release installationId (calls ++ [call]) start) :
    ∃ installation, (storeAfter parseUuid (calls ++ [call]) start).workflowPackInstallations.find?
      installationId = some installation ∧ installation.status ≠ .staged := by
  rw [storeAfter_snoc]
  have written : ∀ transition required current,
      (storeAfter parseUuid calls start).workflowPackInstallations.find?
        call.request.installationId = some current →
      call.perform parseUuid (storeAfter parseUuid calls start) = writeTransition parseUuid
        call.draws call.request transition required current (storeAfter parseUuid calls start) →
      call.request.nextStatus ≠ .staged →
      (call.request.installationId = installationId ∨
        ReleasedSince parseUuid release installationId calls start) →
      ∃ installation, (call.perform parseUuid
        (storeAfter parseUuid calls start)).workflowPackInstallations.find? installationId =
          some installation ∧ installation.status ≠ .staged := by
    intro transition required current found written notStaged which
    rw [written]
    by_cases same : installationId = call.request.installationId
    · subst same
      refine ⟨call.request.moveInstallation current, ?_, notStaged⟩
      rw [installations_writeTransition, ← (Table.find?_eq_some.mp found).2]
      exact Table.find?_insert_same
    · rw [find?_written_of_ne found same]
      exact sound.moved release installationId (which.resolve_left (same ·.symm))
  rw [releasedSince_snoc] at since
  cases call.perform_cases parseUuid (storeAfter parseUuid calls start) with
  | refused isRefused same =>
      rw [same]
      rcases since with before | ⟨⟨-, isOk, -⟩, -⟩
      · exact sound.moved release installationId before
      · rw [isRefused] at isOk
        cases isOk
  | released current targets known environment promotedBy gateEvidence _ _ isReleased found _ _
      isWritten =>
      apply written _ _ current found isWritten
      · rw [isReleased]
        exact nofun
      · exact since.symm.imp (fun releases => releases.1.1) id
  | takenOut current takesOut _ found isWritten =>
      apply written _ _ current found isWritten
      · rcases takesOut.1 with isOut | isOut <;> (rw [isOut]; exact nofun)
      · exact since.symm.imp (fun releases => releases.1.1) id

include readsBack

theorem owned_perform (store : PackStore) (unique : OnePromoted store.agentReleases)
    (owned : AllPackOwned store.agentReleases) :
    AllPackOwned (call.perform parseUuid store).agentReleases := by
  cases call.perform_cases parseUuid store with
  | refused _ same => rwa [same]
  | released current targets known environment promotedBy gateEvidence _ _ _ _ _ _ written =>
      rw [written]
      exact (promoteTargets_promotes readsBack unique owned).owned
  | takenOut current _ _ _ written =>
      rw [written, releases_takenOut]
      intro release member
      obtain ⟨old, oldMember, rfl⟩ := Table.mem_mapRows.mp member
      exact (owned old oldMember).givenUpBy _

/-- An installation that is taken out loses its references and nothing else. -/
theorem exact_takenOut (sound : PacksSound parseUuid calls start)
    {current : WorkflowPackInstallation} (takesOut : call.TakesOut (storeAfter parseUuid calls start))
    (found : (storeAfter parseUuid calls start).workflowPackInstallations.find?
      call.request.installationId = some current)
    (written : call.perform parseUuid (storeAfter parseUuid calls start) =
      writeTransition parseUuid call.draws call.request .rollbackPackPromotions [] current
        (storeAfter parseUuid calls start)) {release : AgentRelease}
    (member : release ∈
      (call.perform parseUuid (storeAfter parseUuid calls start)).agentReleases)
    (promoted : release.status = .promoted) (installationId : Uuid) :
    installationId ∈ workflowPackReleaseReferences parseUuid release ↔
      IsReleased installationId (call.perform parseUuid (storeAfter parseUuid calls start)) ∧
        ReleasedSince parseUuid release installationId calls start := by
  rw [written, releases_takenOut] at member
  obtain ⟨old, oldMember, rfl⟩ := Table.mem_mapRows.mp member
  have change : QuietChange old (old.givenUpBy parseUuid call.request.installationId) :=
    AgentRelease.givenUpBy_quiet
  have wasPromoted := change.promoted promoted
  rw [mem_references_givenUpBy readsBack (sound.owned old oldMember) wasPromoted,
    sound.exact old oldMember wasPromoted,
    releasedSince_kept change.toReleaseKept (AgentRelease.givenUpBy_id parseUuid _ old), written]
  by_cases same : installationId = call.request.installationId
  · subst same
    rw [isReleased_written_same found]
    constructor
    · rintro ⟨-, differs⟩
      exact (differs rfl).elim
    · rintro ⟨isReleased, -⟩
      rcases takesOut.1 with isOut | isOut <;> (rw [isOut] at isReleased; cases isReleased)
  · rw [isReleased_written_of_ne found same, and_iff_left same]

/-- An installation that is released is referred to by the releases of its targets. -/
theorem exact_released (sound : PacksSound parseUuid calls start)
    {current : WorkflowPackInstallation} {targets known : List ReleaseTarget}
    {environment promotedBy : String} {gateEvidence : Json}
    (isOk : (call.answer parseUuid (storeAfter parseUuid calls start)).isOk = true)
    (transition : call.request.agentReleaseTransition =
      .promoteFromPack targets environment promotedBy gateEvidence)
    (isReleased : call.request.nextStatus = .released)
    (found : (storeAfter parseUuid calls start).workflowPackInstallations.find?
      call.request.installationId = some current) (wasStaged : current.status = .staged)
    (sameTargets : ∀ target, target ∈ known ↔ target ∈ targets)
    (written : call.perform parseUuid (storeAfter parseUuid calls start) =
      writeTransition parseUuid call.draws call.request
        (.promoteFromPack known (toAsciiLowercase (trim environment)) promotedBy gateEvidence) []
        current (storeAfter parseUuid calls start)) {release : AgentRelease}
    (member : release ∈
      (call.perform parseUuid (storeAfter parseUuid calls start)).agentReleases)
    (promoted : release.status = .promoted) (installationId : Uuid) :
    installationId ∈ workflowPackReleaseReferences parseUuid release ↔
      IsReleased installationId (call.perform parseUuid (storeAfter parseUuid calls start)) ∧
        (ReleasedSince parseUuid release installationId calls start ∨
          call.Releases parseUuid installationId release (storeAfter parseUuid calls start)) := by
  have promotes : Promotes parseUuid call.request.installationId known
      (toAsciiLowercase (trim environment)) (storeAfter parseUuid calls start).agentReleases
      (call.perform parseUuid (storeAfter parseUuid calls start)).agentReleases := by
    rw [written]
    exact promoteTargets_promotes readsBack sound.unique sound.owned
  have nowReleased : IsReleased call.request.installationId
      (call.perform parseUuid (storeAfter parseUuid calls start)) := by
    rw [written, isReleased_written_same found]
    exact isReleased
  have wasNot : ∀ {other : AgentRelease},
      ¬ReleasedSince parseUuid other call.request.installationId calls start := by
    intro other since
    obtain ⟨installation, isFound, notStaged⟩ := sound.moved other _ since
    rw [found] at isFound
    cases isFound
    exact notStaged wasStaged
  have releases : ∀ {other : AgentRelease},
      call.Releases parseUuid installationId other (storeAfter parseUuid calls start) ↔
        installationId = call.request.installationId ∧
          other.Targeted known (toAsciiLowercase (trim environment)) := by
    intro other
    rw [targeted_normalized sameTargets]
    constructor
    · rintro ⟨same, -, _, _, _, _, isPromotion, targeted⟩
      rw [transition] at isPromotion
      cases isPromotion
      exact ⟨same.symm, targeted⟩
    · rintro ⟨same, targeted⟩
      exact ⟨same.symm, isOk, _, _, _, _, transition, targeted⟩
  rw [releases]
  cases isOld : (storeAfter parseUuid calls start).agentReleases.find? release.id with
  | none =>
      obtain ⟨-, targeted, references⟩ := promotes.fresh release member isOld
      have notSince : ¬ReleasedSince parseUuid release installationId calls start := by
        rintro ⟨front, next, isPrefix, -, stored⟩
        exact stored_of_prefix isPrefix stored isOld
      rw [references, or_iff_right notSince, and_iff_left targeted]
      constructor
      · rintro rfl
        exact ⟨nowReleased, rfl⟩
      · exact And.right
  | some old =>
      obtain ⟨new, isNew, kept, sameStatus, references⟩ := promotes.stored release.id old isOld
      obtain rfl := Option.some.inj (isNew.symm.trans (Table.find?_key member))
      obtain ⟨oldMember, sameId⟩ := Table.find?_eq_some.mp isOld
      have wasPromoted := sameStatus.symm.trans promoted
      rw [references wasPromoted, sound.exact old oldMember wasPromoted,
        releasedSince_kept kept sameId.symm, AgentRelease.targeted_kept kept]
      by_cases same : installationId = call.request.installationId
      · subst same
        rw [or_iff_right fun refers => wasNot refers.2, or_iff_right wasNot,
          and_iff_right nowReleased]
      · rw [or_iff_left fun refers => same refers.1, or_iff_left fun refers => same refers.1,
          written, isReleased_written_of_ne found same]

/-- The references of a release after a call, from those before it. -/
theorem exact_snoc (sound : PacksSound parseUuid calls start) {release : AgentRelease}
    (member : release ∈ (storeAfter parseUuid (calls ++ [call]) start).agentReleases)
    (promoted : release.status = .promoted) (installationId : Uuid) :
    installationId ∈ workflowPackReleaseReferences parseUuid release ↔
      IsReleased installationId (storeAfter parseUuid (calls ++ [call]) start) ∧
        ReleasedSince parseUuid release installationId (calls ++ [call]) start := by
  have isStored : (storeAfter parseUuid (calls ++ [call]) start).agentReleases.find? release.id ≠
      none := by
    rw [Table.find?_key member]
    exact Option.some_ne_none release
  rw [releasedSince_snoc, and_iff_left isStored]
  rw [storeAfter_snoc] at member ⊢
  cases call.perform_cases parseUuid (storeAfter parseUuid calls start) with
  | refused isRefused same =>
      rw [same] at member ⊢
      have notReleased : ¬call.Releases parseUuid installationId release
          (storeAfter parseUuid calls start) := by
        rintro ⟨-, isOk, -⟩
        rw [isRefused] at isOk
        cases isOk
      rw [or_iff_left notReleased]
      exact sound.exact release member promoted installationId
  | takenOut current takesOut transition found written =>
      have notReleased : ¬call.Releases parseUuid installationId release
          (storeAfter parseUuid calls start) := by
        rintro ⟨-, -, targets, environment, promotedBy, gateEvidence, isPromotion, -⟩
        rw [transition] at isPromotion
        cases isPromotion
      rw [or_iff_left notReleased]
      exact exact_takenOut readsBack sound takesOut found written member promoted installationId
  | released current targets known environment promotedBy gateEvidence isOk transition isReleased
      found wasStaged sameTargets written =>
      exact exact_released readsBack sound isOk transition isReleased found wasStaged sameTargets
        written member promoted installationId

theorem packsSound (noReleases : start.agentReleases = Table.empty) (calls : List PackCall) :
    PacksSound parseUuid calls start := by
  induction calls using List.reverseRecOn with
  | nil =>
      have isEmpty : ∀ release, release ∉ (storeAfter parseUuid [] start).agentReleases := by
        intro release member
        rw [storeAfter, runEvents_nil, noReleases] at member
        cases member
      constructor
      case unique => exact fun release member => (isEmpty release member).elim
      case owned => exact fun release member => (isEmpty release member).elim
      case exact => exact fun release member => (isEmpty release member).elim
      case moved =>
        rintro release installationId ⟨front, call, isPrefix, -⟩
        cases List.append_ne_nil_of_right_ne_nil front (List.cons_ne_nil call [])
          (List.prefix_nil.mp isPrefix)
  | append_singleton calls call inductionHypothesis =>
      constructor
      case unique =>
        rw [storeAfter_snoc]
        exact (call.perform_quiet parseUuid _).onePromoted inductionHypothesis.unique
      case owned =>
        rw [storeAfter_snoc]
        exact owned_perform readsBack _ inductionHypothesis.unique inductionHypothesis.owned
      case moved => exact fun release installationId => moved_snoc inductionHypothesis
      case exact =>
        exact fun release member promoted => exact_snoc readsBack inductionHypothesis member promoted

/-- A release is rolled back by the call that takes its only installation out. -/
theorem rolledBackWithLast (sound : PacksSound parseUuid calls start) :
    RolledBackWithLast parseUuid call (storeAfter parseUuid calls start) := by
  intro release member promoted _
  have isStored := Table.find?_key member
  cases call.perform_cases parseUuid (storeAfter parseUuid calls start) with
  | refused _ same =>
      rw [same]
      refine ⟨release, isStored, ?_⟩
      rw [promoted]
      constructor
      · exact nofun
      · rintro ⟨installationId, -, isReleased, notReleased⟩
        exact (notReleased isReleased).elim
  | released current targets known environment promotedBy gateEvidence _ _ isReleased found _ _
      written =>
      rw [written]
      have promotes : Promotes parseUuid call.request.installationId known
          (toAsciiLowercase (trim environment)) (storeAfter parseUuid calls start).agentReleases
          (writeTransition parseUuid call.draws call.request (.promoteFromPack known
            (toAsciiLowercase (trim environment)) promotedBy gateEvidence) [] current
              (storeAfter parseUuid calls start)).agentReleases :=
        promoteTargets_promotes readsBack sound.unique sound.owned
      obtain ⟨new, isNew, -, sameStatus, -⟩ := promotes.stored release.id release isStored
      refine ⟨new, isNew, ?_⟩
      rw [sameStatus, promoted]
      constructor
      · exact nofun
      · rintro ⟨installationId, -, wasReleased, notReleased⟩
        by_cases same : installationId = call.request.installationId
        · subst same
          exact (notReleased ((isReleased_written_same found).mpr isReleased)).elim
        · exact (notReleased ((isReleased_written_of_ne found same).mpr wasReleased)).elim
  | takenOut current takesOut _ found written =>
      rw [written]
      refine ⟨release.givenUpBy parseUuid call.request.installationId, ?_, ?_⟩
      · rw [releases_takenOut, Table.find?_mapRows, isStored, Option.map_some]
      · have leaves : ¬IsReleased call.request.installationId (writeTransition parseUuid call.draws
            call.request .rollbackPackPromotions [] current
              (storeAfter parseUuid calls start)) := by
          rw [isReleased_written_same found]
          rcases takesOut.1 with isOut | isOut <;> (rw [isOut]; exact nofun)
        rw [givenUpBy_status promoted]
        constructor
        · intro isOnly
          have refers := (isOnly call.request.installationId).mpr rfl
          exact ⟨call.request.installationId, isOnly,
            ((sound.exact release member promoted _).mp refers).1, leaves⟩
        · rintro ⟨installationId, isOnly, wasReleased, notReleased⟩
          by_cases same : installationId = call.request.installationId
          · exact same ▸ isOnly
          · exact (notReleased ((isReleased_written_of_ne found same).mpr wasReleased)).elim

end sound

end step

/-- However packs are released, rolled back and archived, the references of agent
releases are exact, and a release is rolled back with its last one.  What other released
installations rely on stays exactly when no installation is taken out that has an agent
in use by another released one. -/
theorem packs_isolated_iff (parseUuid : String → Option Uuid)
    (readsBack : ∀ id, parseUuid (Nat.repr id) = some id) (calls : List PackCall)
    (start : PackStore) (noReleases : start.agentReleases = Table.empty) :
    PacksIsolated parseUuid calls start ↔
      MetAlong (PackCall.perform parseUuid) SparesOthers calls start := by
  constructor
  · intro isolated front call isPrefix
    exact (isolatesOthers_iff call _).mp (isolated.isolates front call isPrefix)
  · intro spares
    constructor
    case references =>
      intro front _ release member promoted _
      exact (packsSound readsBack noReleases front).exact release member promoted
    case rolledBack =>
      intro front call _
      exact rolledBackWithLast readsBack (packsSound readsBack noReleases front)
    case isolates =>
      intro front call isPrefix
      exact (isolatesOthers_iff call _).mpr (spares front call isPrefix)

/-! ### An agent that two installations use -/

/-- Read an identifier from its digits. -/
def parseDigits (text : String) : Option Uuid :=
  if text.toList.all Char.isDigit then some (Nat.ofDigitChars 10 text.toList 0) else none

theorem parseDigits_repr (id : Uuid) : parseDigits (Nat.repr id) = some id := by
  have allDigits : (Nat.toDigits 10 id).all Char.isDigit = true := by
    rw [List.all_eq_true]
    exact fun digit member => Nat.isDigit_of_mem_toDigits (by decide) (by decide) member
  rw [parseDigits, Nat.toList_repr, allDigits, if_pos rfl, Nat.ofDigitChars_toDigits]
  all_goals decide

namespace SharedAgent

def installation (id : Uuid) : WorkflowPackInstallation where
  id := id
  packId := "triage"
  kind := "workflow"
  version := "1.0.0"
  status := .staged
  evalGateStatus := "pending"
  releaseGateStatus := "pending"
  gateEvidence := .object []
  stagedAt := some 1
  releasedAt := none
  archivedAt := none
  updatedAt := 1

/-- The agent 1 with its version 2, which the installations 10 and 11 both bind. -/
def store : PackStore where
  agents := Table.empty.insert { id := 1, disabled := false }
  agentVersions := Table.empty.insert {
    id := 2, agentId := 1, version := 1, tools := [], toolNames := [],
    approvalPolicy := .object [] }
  evalRuns := Table.empty
  agentReleases := Table.empty
  workflowPackInstallations := (Table.empty.insert (installation 10)).insert (installation 11)
  workflowDefinitions := Table.empty
  workflowPackBindings := (Table.empty.insert {
      id := 20, installationId := 10, bindingType := "agent", bindingKey := "reader",
      targetId := some 2, status := .staged, updatedAt := 1 }).insert {
      id := 21, installationId := 11, bindingType := "agent", bindingKey := "reader",
      targetId := some 2, status := .staged, updatedAt := 1 }
  workflowPackRuntimeObjects := Table.empty
  auditLogs := Table.empty

def request (installationId : Uuid) (expectedStatus nextStatus : PackStatus)
    (transition : WorkflowPackAgentReleaseTransition) :
    WorkflowPackLifecycleTransitionRequest where
  installationId := installationId
  expectedStatus := expectedStatus
  nextStatus := nextStatus
  evalGateStatus := "passed"
  releaseGateStatus := "passed"
  gateEvidence := .object []
  stagedAt := some 1
  releasedAt := some 2
  occurredAt := 2
  auditAction := "workflow_pack"
  auditDetails := .object []
  agentReleaseTransition := transition

def release (installationId : Uuid) : PackCall where
  enforcementRequired := false
  draws := { release := fun _ => 30, audit := 40 }
  request := request installationId .staged .released
    (.promoteFromPack [(1, 2)] "production" "operator" (.object []))
  isLifecycleCall := rfl

def rollback (installationId : Uuid) : PackCall where
  enforcementRequired := false
  draws := { release := fun _ => 30, audit := 40 }
  request := request installationId .released .rolledBack .rollbackPackPromotions
  isLifecycleCall := .inl rfl

end SharedAgent

/-- Both installations are released and one of them is rolled back: the agent of the
other one is disabled. -/
theorem shared_agent_is_disabled :
    ¬PacksIsolated parseDigits
      [SharedAgent.release 10, SharedAgent.release 11, SharedAgent.rollback 10]
      SharedAgent.store := by
  intro isolated
  let before := storeAfter parseDigits [SharedAgent.release 10, SharedAgent.release 11]
    SharedAgent.store
  let agent : Agent := { id := 1, disabled := false }
  have isReleased : IsReleased 11 before := by
    have found : (before.workflowPackInstallations.find? 11).map WorkflowPackInstallation.status =
        some .released := by decide +kernel
    obtain ⟨installation, isInstallation, status⟩ := Option.map_eq_some_iff.mp found
    exact ⟨installation, isInstallation, status⟩
  have inUse : before.agents.find? 1 = some agent := by decide +kernel
  have relied : ReliesOn 11 before 1 := by
    have found : before.agentVersions.rows.any (fun version => decide (version.agentId = 1) &&
        before.workflowPackBindings.rows.any fun binding =>
          decide (binding.installationId = 11) && decide (binding.targetId = some version.id)) =
        true := by decide +kernel
    simpa [ReliesOn, Table.mem_iff, and_assoc] using found
  have isolates := isolated.isolates _ (SharedAgent.rollback 10) List.prefix_rfl 11 (by decide)
    isReleased
  have stays := isolates.agents agent (Table.find?_eq_some.mp inUse).1 relied
  have isDisabled : ((SharedAgent.rollback 10).perform parseDigits before).agents.find? agent.id =
      some { id := 1, disabled := true } := by decide +kernel
  exact absurd (stays.symm.trans isDisabled) (by decide)

theorem packs_isolated_iff_shared_agent :
    SharedAgent.store.agentReleases = Table.empty ∧
      (PacksIsolated parseDigits [SharedAgent.release 10] SharedAgent.store ↔
        MetAlong (PackCall.perform parseDigits) SparesOthers [SharedAgent.release 10]
          SharedAgent.store) :=
  ⟨rfl, packs_isolated_iff parseDigits parseDigits_repr _ _ rfl⟩

end MandoForge
