/-
Module: MandoForge.AgentRelease.ReleaseBackends
Purpose: When the releases of agents in memory and in the database answer every sequence
  of calls alike, hold the same releases after it, and leave those of other agents alone.
Trusted boundary: as in `PostgresReleases`.
Main exports: AnswersAgree, release_backends_agree_iff
-/
import MandoForge.AgentRelease.PostgresReleases
import MandoForge.Foundation.Runs

namespace MandoForge

open Foundation

/-! ### Statements and lookups -/

theorem insert_of_found {releases : AgentReleaseTable} {release : AgentRelease}
    (found : releases.find? release.id = some release) : releases.insert release = releases := by
  have stored : releases.modify release.id id (fun _ => rfl) = releases.insert release :=
    Table.modify_eq_insert found
  rw [← stored]
  exact Table.modify_of_unchanged fun _ _ _ => rfl

theorem findAgentRelease_ok_iff {agentId releaseId : Uuid} {releases : AgentReleaseTable}
    {release : AgentRelease} :
    findAgentRelease agentId releaseId releases = .ok release ↔
      releases.find? releaseId = some release ∧ release.agentId = agentId := by
  unfold findAgentRelease
  cases releases.find? releaseId with
  | none => simp
  | some found =>
      by_cases own : found.agentId = agentId
      · simp only [own, ne_eq, not_true, if_false, Except.ok.injEq, Option.some.injEq]
        exact ⟨fun same => ⟨same, same ▸ own⟩, fun both => both.1⟩
      · simp only [ne_eq, own, not_false_eq_true, if_true, Option.some.injEq]
        exact ⟨nofun, fun ⟨same, isOwn⟩ => absurd (same ▸ isOwn) own⟩

theorem findAgentRelease_eq_error {agentId releaseId : Uuid} {releases : AgentReleaseTable}
    (absent : ∀ release, findAgentRelease agentId releaseId releases ≠ .ok release) :
    findAgentRelease agentId releaseId releases = .error agentReleaseNotFound := by
  unfold findAgentRelease at *
  split
  · rfl
  · rename_i release found
    rw [found] at absent
    dsimp only at absent
    split
    · rfl
    · rename_i own
      rw [if_neg own] at absent
      exact absurd rfl (absent release)

/-- The row that a read selects is the one the store finds. -/
theorem selectAgentRelease_eq (agentId releaseId : Uuid) (releases : AgentReleaseTable) :
    selectAgentRelease agentId releaseId releases =
      findAgentRelease agentId releaseId releases := by
  have selected : ∀ release, selectAgentRelease agentId releaseId releases = .ok release ↔
      findAgentRelease agentId releaseId releases = .ok release := by
    intro release
    rw [selectAgentRelease, okOr_eq_ok, findAgentRelease_ok_iff, Table.find?_eq_some]
    constructor
    · intro found
      have fits := List.find?_some found
      rw [Bool.and_eq_true, decide_eq_true_eq, decide_eq_true_eq] at fits
      exact ⟨⟨List.mem_of_find?_eq_some found, fits.2⟩, fits.1⟩
    · rintro ⟨⟨member, isRelease⟩, own⟩
      cases found : releases.rows.find? fun release =>
          decide (release.agentId = agentId) && decide (release.id = releaseId) with
      | none =>
          have missed := List.find?_eq_none.mp found release member
          simp [own, isRelease] at missed
      | some other =>
          have fits := List.find?_some found
          rw [Bool.and_eq_true, decide_eq_true_eq, decide_eq_true_eq] at fits
          exact congrArg some (Table.eq_of_key_eq (List.mem_of_find?_eq_some found) member
            (fits.2.trans isRelease.symm))
  cases isFound : findAgentRelease agentId releaseId releases with
  | ok release => exact (selected release).mpr isFound
  | error error =>
      have absent : ∀ release, findAgentRelease agentId releaseId releases ≠ .ok release :=
        fun release isOk => nomatch isFound.symm.trans isOk
      have notFound := findAgentRelease_eq_error absent
      rw [← isFound, notFound]
      cases isSelected : selectAgentRelease agentId releaseId releases with
      | ok release => exact absurd ((selected release).mp isSelected) (absent release)
      | error error =>
          unfold selectAgentRelease okOr at isSelected
          split at isSelected
          · cases isSelected
          · exact isSelected.symm

section update

variable {releaseId : Uuid} {guard : AgentRelease → Bool} {set : AgentRelease → AgentRelease}
  {keeps : ∀ release, (set release).id = release.id} {releases : AgentReleaseTable}
  {release : AgentRelease}

theorem updateReturning_of_guard (found : releases.find? releaseId = some release)
    (guarded : guard release = true) :
    updateReturning releaseId guard set keeps releases =
      (some (set release), releases.insert (set release)) := by
  unfold updateReturning
  rw [found, Option.filter_some, if_pos guarded, Option.map_some,
    Table.modify_eq_insert found, if_pos guarded]

/-- One whose guard does not leaves the table. -/
theorem updateReturning_of_refused
    (refused : ∀ release, releases.find? releaseId = some release → guard release = false) :
    updateReturning releaseId guard set keeps releases = (none, releases) := by
  unfold updateReturning
  cases found : releases.find? releaseId with
  | none => rw [Table.modify_of_absent found]; rfl
  | some release =>
      have isRefused := refused release found
      rw [Option.filter_some, if_neg (by simp [isRefused])]
      refine Prod.ext rfl ?_
      refine @Table.modify_of_unchanged _ _ _ _ releases releaseId
        (fun release => if guard release then set release else release)
        (fun release => by split <;> simp [keeps]) fun row member isRow => ?_
      have isFound := Table.find?_key member
      rw [isRow, found] at isFound
      rw [← Option.some.inj isFound, if_neg (by simp [isRefused])]

end update

/-! ### Operations that agree -/

/-- Both accept, with the same release, or both refuse; and they leave the same releases. -/
structure AnswersAgree (memory postgres : Except AppError AgentRelease × AgentReleaseTable) :
    Prop where
  answers : memory.1.toOption = postgres.1.toOption
  releases : memory.2 = postgres.2

theorem AnswersAgree.refused {memory postgres : AppError} {releases : AgentReleaseTable} :
    AnswersAgree (.error memory, releases) (.error postgres, releases) := ⟨rfl, rfl⟩

theorem decided_agrees {releaseId agentId : Uuid} {guard : AgentRelease → Bool}
    {set : AgentRelease → AgentRelease} {keeps : ∀ release, (set release).id = release.id}
    {releases : AgentReleaseTable} {release : AgentRelease} {refusal : AppError}
    (found : releases.find? releaseId = some release) (own : release.agentId = agentId)
    (guarded : guard release = true) {decided : AgentRelease} (same : decided = set release) :
    AnswersAgree (storeDecision releases (.ok decided)) (answerUpdate refusal
      (updateReturning releaseId (fun release => ofAgent agentId release && guard release) set
        keeps releases)) := by
  rw [updateReturning_of_guard found (by simp [ofAgent, own, guarded]), same]
  exact ⟨rfl, rfl⟩

theorem validateAgentReleaseDecision_open {release : AgentRelease} {decidedBy : String}
    (valid : validateAgentReleaseDecision release decidedBy = .ok ()) :
    release.status.isOpenForDecision = true := by
  unfold validateAgentReleaseDecision at valid
  split at valid
  · cases valid
  · rename_i isOpen
    cases status : release.status <;> simp [status, AgentReleaseStatus.isOpenForDecision] at *

theorem checked_agrees {releaseId agentId : Uuid} {guard : AgentRelease → Bool}
    {set : AgentRelease → AgentRelease} {keeps : ∀ release, (set release).id = release.id}
    {releases : AgentReleaseTable} {release decided : AgentRelease} {refusal : AppError}
    {check : Except AppError Unit} (found : releases.find? releaseId = some release)
    (own : release.agentId = agentId)
    (guarded : check = .ok () → guard release = true ∧ decided = set release) :
    AnswersAgree (storeDecision releases (do check; .ok decided))
      (afterCheck check releases (answerUpdate refusal (updateReturning releaseId
        (fun release => ofAgent agentId release && guard release) set keeps releases))) := by
  cases check with
  | error error => exact AnswersAgree.refused
  | ok _ =>
      obtain ⟨isGuarded, same⟩ := guarded rfl
      exact decided_agrees found own isGuarded same

theorem begin_agrees (now : Timestamp) (agentId releaseId : Uuid) (decidedBy reason : String)
    (releases : AgentReleaseTable) :
    AnswersAgree (beginAgentReleasePromotion now agentId releaseId decidedBy reason releases)
      (beginPromotionSql now agentId releaseId decidedBy reason releases) := by
  unfold beginAgentReleasePromotion beginPromotionSql
  rw [selectAgentRelease_eq]
  cases isFound : findAgentRelease agentId releaseId releases with
  | error error => exact AnswersAgree.refused
  | ok release =>
      obtain ⟨found, own⟩ := findAgentRelease_ok_iff.mp isFound
      dsimp only [bind, Except.bind]
      by_cases inProgress : release.status = .promotionInProgress
      · rw [if_pos inProgress, if_pos inProgress]
        cases validateAgentReleaseDecider release decidedBy with
        | error error => exact AnswersAgree.refused
        | ok _ =>
            dsimp only
            by_cases isOwner : release.decisionBy = some decidedBy
            · rw [if_neg (by simp [isOwner])]
              have sameId := (Table.find?_eq_some.mp found).2
              exact ⟨rfl, insert_of_found (sameId ▸ found)⟩
            · rw [if_pos isOwner]
              exact AnswersAgree.refused
      · rw [if_neg inProgress, if_neg inProgress]
        exact @checked_agrees releaseId agentId (fun release => release.status.isOpenForDecision)
          (AgentRelease.begun now decidedBy reason) (AgentRelease.begun_id now decidedBy reason)
          releases release _ _ _ found own fun valid => ⟨validateAgentReleaseDecision_open valid, rfl⟩

theorem ownedPromotion_ok_iff {agentId releaseId : Uuid} {subject : String}
    {releases : AgentReleaseTable} {release : AgentRelease} :
    ownedPromotion agentId releaseId subject releases = .ok release ↔
      releases.find? releaseId = some release ∧ release.agentId = agentId ∧
        release.isInPromotionBy subject = true := by
  unfold ownedPromotion AgentRelease.isInPromotionBy
  rw [bind_eq_ok]
  constructor
  · rintro ⟨current, isFound, checked⟩
    obtain ⟨found, own⟩ := findAgentRelease_ok_iff.mp isFound
    split at checked
    · cases checked
    · rename_i owned
      cases checked
      rw [not_or, not_not, not_not] at owned
      exact ⟨found, own, by simp [owned.1, owned.2]⟩
  · rintro ⟨found, own, inPromotion⟩
    rw [Bool.and_eq_true, decide_eq_true_eq, decide_eq_true_eq] at inPromotion
    exact ⟨release, findAgentRelease_ok_iff.mpr ⟨found, own⟩,
      if_neg (by simp [inPromotion.1, inPromotion.2])⟩

theorem fail_agrees (agentId releaseId : Uuid) (decidedBy reason : String)
    (releases : AgentReleaseTable) :
    AnswersAgree (failAgentReleasePromotion agentId releaseId decidedBy reason releases)
      (failPromotionSql agentId releaseId decidedBy reason releases) := by
  unfold failAgentReleasePromotion failPromotionSql
  cases owned : ownedPromotion agentId releaseId decidedBy releases with
  | ok release =>
      obtain ⟨found, own, inPromotion⟩ := ownedPromotion_ok_iff.mp owned
      exact decided_agrees found own inPromotion rfl
  | error error =>
      rw [updateReturning_of_refused]
      · exact AnswersAgree.refused
      · intro release found
        rw [Bool.and_eq_false_iff]
        by_contra guarded
        rw [not_or, Bool.not_eq_false, Bool.not_eq_false, ofAgent, decide_eq_true_eq] at guarded
        cases owned.symm.trans (ownedPromotion_ok_iff.mpr ⟨found, guarded⟩)

/-! ### The promoted siblings -/

/-- The names of the promoted siblings compare with the release's own in the database as
they do in memory. -/
def SiblingsAlike (lower : String → String) (current : AgentRelease)
    (releases : AgentReleaseTable) : Prop :=
  ∀ sibling ∈ releases, sibling.id ≠ current.id → sibling.agentId = current.agentId →
    sibling.agentVersionId = current.agentVersionId → sibling.status = .promoted →
      (lower sibling.environment = lower current.environment ↔
        eqIgnoreAsciiCase sibling.environment current.environment = true)

theorem withStatus_superseded_ne {release : AgentRelease} (promoted : release.status = .promoted) :
    release.withStatus .superseded ≠ release := by
  intro same
  have status := congrArg AgentRelease.status same
  rw [promoted] at status
  cases status

section sibling

variable {current sibling : AgentRelease} (isOther : sibling.id ≠ current.id)
  (sameAgent : sibling.agentId = current.agentId)
  (sameVersion : sibling.agentVersionId = current.agentVersionId)
  (promoted : sibling.status = .promoted)

include isOther sameAgent sameVersion promoted

theorem supersededBy_of_candidate (lower : String → String) :
    current.supersededBy lower sibling =
      if lower sibling.environment = lower current.environment then
        sibling.withStatus .superseded
      else sibling := by
  unfold AgentRelease.supersededBy
  congr 1
  simp only [isOther, sameAgent, sameVersion, promoted, ne_eq, not_false_eq_true, true_and,
    and_true]

theorem madeRoom_of_candidate :
    current.madeRoom sibling =
      if eqIgnoreAsciiCase sibling.environment current.environment = true then
        sibling.withStatus .superseded
      else sibling := by
  unfold AgentRelease.madeRoom AgentRelease.isPromotedFor
  congr 1
  simp only [isOther, sameAgent, sameVersion, promoted, ne_eq, not_false_eq_true, true_and,
    Bool.and_eq_true, decide_true, and_true]

end sibling

/-- A sibling makes room in both when its name compares alike, and only then. -/
theorem supersededBy_eq_iff (lower : String → String) {current sibling : AgentRelease} :
    current.supersededBy lower sibling = current.madeRoom sibling ↔
      (sibling.id ≠ current.id → sibling.agentId = current.agentId →
        sibling.agentVersionId = current.agentVersionId → sibling.status = .promoted →
          (lower sibling.environment = lower current.environment ↔
            eqIgnoreAsciiCase sibling.environment current.environment = true)) := by
  constructor
  · intro same isOther sameAgent sameVersion promoted
    have moved := withStatus_superseded_ne promoted
    rw [supersededBy_of_candidate isOther sameAgent sameVersion promoted,
      madeRoom_of_candidate isOther sameAgent sameVersion promoted] at same
    split at same <;> rename_i sameName <;> split at same <;> rename_i sameAscii
    · exact iff_of_true sameName sameAscii
    · exact absurd same moved
    · exact absurd same.symm moved
    · exact iff_of_false sameName sameAscii
  · intro alike
    by_cases isCandidate : sibling.id ≠ current.id ∧ sibling.agentId = current.agentId ∧
        sibling.agentVersionId = current.agentVersionId ∧ sibling.status = .promoted
    · obtain ⟨isOther, sameAgent, sameVersion, promoted⟩ := isCandidate
      rw [supersededBy_of_candidate isOther sameAgent sameVersion promoted,
        madeRoom_of_candidate isOther sameAgent sameVersion promoted,
        if_congr (alike isOther sameAgent sameVersion promoted) rfl rfl]
    · unfold AgentRelease.supersededBy AgentRelease.madeRoom AgentRelease.isPromotedFor
      simp only [Bool.and_eq_true, decide_eq_true_eq]
      rw [if_neg (by tauto), if_neg (by tauto)]

theorem complete_agrees_iff (lower : String → String) (now : Timestamp)
    (agentId releaseId : Uuid) (promotedBy : String) (releases : AgentReleaseTable) :
    AnswersAgree (completeAgentReleasePromotion now agentId releaseId promotedBy releases)
        (completePromotionSql lower now agentId releaseId promotedBy releases) ↔
      ∀ current, releases.find? releaseId = some current → current.agentId = agentId →
        current.isInPromotionBy promotedBy = true → SiblingsAlike lower current releases := by
  unfold completeAgentReleasePromotion completePromotionSql
  rw [selectAgentRelease_eq]
  cases owned : ownedPromotion agentId releaseId promotedBy releases with
  | ok current =>
      obtain ⟨found, own, inPromotion⟩ := ownedPromotion_ok_iff.mp owned
      have inProgress := inPromotion
      rw [AgentRelease.isInPromotionBy, Bool.and_eq_true, decide_eq_true_eq,
        decide_eq_true_eq] at inProgress
      have isCurrent := (Table.find?_eq_some.mp found).2
      have stays : current.supersededBy lower current = current := by
        rw [AgentRelease.supersededBy, if_neg (by simp)]
      have foundAfter : (releases.mapRows (current.supersededBy lower)
          (current.supersededBy_id lower)).find? releaseId = some current := by
        rw [Table.find?_mapRows, found, Option.map_some, stays]
      rw [findAgentRelease_ok_iff.mpr ⟨found, own⟩]
      dsimp only
      rw [if_neg (by simp [inProgress.1, inProgress.2]),
        updateReturning_of_guard foundAfter (by simp [ofAgent, own, inPromotion])]
      constructor
      · rintro ⟨-, sameTable⟩ other isFound - - sibling member isOther
        cases found.symm.trans isFound
        have sameRow := congrArg (Table.find? · sibling.id) sameTable
        have notCompleted : sibling.id ≠ (current.completed now promotedBy).id := isOther
        dsimp only at sameRow
        rw [Table.find?_insert_of_ne notCompleted, Table.find?_insert_of_ne notCompleted,
          Table.find?_mapRows, Table.find?_mapRows, Table.find?_key member] at sameRow
        exact (supersededBy_eq_iff lower).mp (Option.some.inj sameRow).symm isOther
      · intro alike
        have isAlike := alike current found own inPromotion
        have siblings : releases.mapRows (current.supersededBy lower)
            (current.supersededBy_id lower) =
            releases.mapRows current.madeRoom current.madeRoom_id :=
          Table.ext_rows (List.map_congr_left fun sibling member =>
            (supersededBy_eq_iff lower).mpr (isAlike sibling member))
        rw [siblings]
        exact ⟨rfl, rfl⟩
  | error error =>
      have notOwned : ∀ current, releases.find? releaseId = some current →
          current.agentId = agentId → current.isInPromotionBy promotedBy ≠ true :=
        fun current found own inPromotion =>
          nomatch owned.symm.trans (ownedPromotion_ok_iff.mpr ⟨found, own, inPromotion⟩)
      refine iff_of_true ?_ fun current found own inPromotion =>
        absurd inPromotion (notOwned current found own)
      cases isFound : findAgentRelease agentId releaseId releases with
      | error other => exact AnswersAgree.refused
      | ok current =>
          obtain ⟨found, own⟩ := findAgentRelease_ok_iff.mp isFound
          have refused := notOwned current found own
          dsimp only
          rw [if_pos (by
            by_contra inProgress
            rw [not_or, not_not, not_not] at inProgress
            exact refused (by
              simp [AgentRelease.isInPromotionBy, inProgress.1, inProgress.2]))]
          exact AnswersAgree.refused

theorem rollback_agrees (agentId releaseId : Uuid) (releases : AgentReleaseTable) :
    AnswersAgree (rollbackAgentRelease agentId releaseId releases)
      (rollbackSql agentId releaseId releases) := by
  unfold rollbackAgentRelease rollbackSql
  rw [selectAgentRelease_eq]
  cases isFound : findAgentRelease agentId releaseId releases with
  | error error => exact AnswersAgree.refused
  | ok release =>
      obtain ⟨found, own⟩ := findAgentRelease_ok_iff.mp isFound
      dsimp only [bind, Except.bind]
      by_cases promoted : release.status = .promoted
      · rw [if_neg (by simp [promoted]), if_neg (by simp [promoted])]
        exact @decided_agrees releaseId agentId (fun release => decide (release.status = .promoted))
          _ _ releases release _ found own (by simp [promoted]) _ rfl
      · rw [if_pos promoted, if_pos promoted]
        exact AnswersAgree.refused

/-! ### Rejections -/

/-- Nobody has promoted the release. -/
def AgentRelease.Unpromoted (release : AgentRelease) : Prop :=
  release.promotedBy = none ∧ release.promotedAt = none

theorem AgentRelease.rejectedRow_eq_iff {release : AgentRelease} (now : Timestamp)
    (decidedBy : String) (reason : Option String) :
    release.rejectedBy now decidedBy reason = release.rejectedRow now decidedBy reason ↔
      release.Unpromoted := by
  constructor
  · intro same
    exact ⟨congrArg AgentRelease.promotedBy same, congrArg AgentRelease.promotedAt same⟩
  · rintro ⟨noPromoter, noTime⟩
    simp [AgentRelease.rejectedRow, AgentRelease.rejectedBy, noPromoter, noTime]

/-- A rejection that both stores accept. -/
theorem rejection_agrees_iff {agentId releaseId : Uuid} {releases : AgentReleaseTable}
    {release : AgentRelease} (found : releases.find? releaseId = some release)
    (own : release.agentId = agentId) (isOpen : release.status.isOpenForDecision = true)
    (now : Timestamp) (decidedBy : String) (reason : Option String) :
    AnswersAgree (storeDecision releases (.ok (release.rejectedBy now decidedBy reason)))
        (rejectRowSql now agentId releaseId decidedBy reason releases) ↔ release.Unpromoted := by
  unfold rejectRowSql
  constructor
  · rintro ⟨sameAnswer, -⟩
    rw [updateReturning_of_guard found (by simp [ofAgent, own, isOpen])] at sameAnswer
    exact (AgentRelease.rejectedRow_eq_iff now decidedBy reason).mp (Option.some.inj sameAnswer)
  · intro unpromoted
    exact @decided_agrees releaseId agentId (fun release => release.status.isOpenForDecision)
      (AgentRelease.rejectedRow now decidedBy reason)
      (AgentRelease.rejectedRow_id now decidedBy reason) releases release _ found own isOpen _
      ((AgentRelease.rejectedRow_eq_iff now decidedBy reason).mpr unpromoted)

theorem isOpenForDecision_iff {status : AgentReleaseStatus} :
    status.isOpenForDecision = true ↔ ¬ (status ≠ .pendingApproval ∧ status ≠ .promotionFailed) := by
  cases status <;> simp [AgentReleaseStatus.isOpenForDecision]

theorem automateRejection_agrees_iff (now : Timestamp) (agentId releaseId : Uuid)
    (decidedBy reason : String) (releases : AgentReleaseTable) :
    AnswersAgree (automateAgentReleaseRejection now agentId releaseId decidedBy reason releases)
        (automateRejectionSql now agentId releaseId decidedBy reason releases) ↔
      ∀ release, releases.find? releaseId = some release → release.agentId = agentId →
        release.status.isOpenForDecision = true → release.Unpromoted := by
  unfold automateAgentReleaseRejection automateRejectionSql
  rw [selectAgentRelease_eq]
  cases isFound : findAgentRelease agentId releaseId releases with
  | error error =>
      exact iff_of_true AnswersAgree.refused fun release found own =>
        nomatch isFound.symm.trans (findAgentRelease_ok_iff.mpr ⟨found, own⟩)
  | ok release =>
      obtain ⟨found, own⟩ := findAgentRelease_ok_iff.mp isFound
      dsimp only [bind, Except.bind]
      by_cases isOpen : release.status.isOpenForDecision = true
      · rw [if_neg (isOpenForDecision_iff.mp isOpen), if_neg (isOpenForDecision_iff.mp isOpen),
          rejection_agrees_iff found own isOpen]
        constructor
        · intro unpromoted other isOther _ _
          cases found.symm.trans isOther
          exact unpromoted
        · exact fun all => all release found own isOpen
      · have closed := isOpenForDecision_iff.not.mp isOpen
        rw [not_not] at closed
        rw [if_pos closed, if_pos closed]
        refine iff_of_true AnswersAgree.refused fun other isOther _ otherOpen => ?_
        cases found.symm.trans isOther
        exact absurd otherOpen isOpen

/-- A release that a rejection would be accepted for is one of the agent, and nobody has
promoted it. -/
theorem reject_agrees_iff (now : Timestamp) (agentId releaseId : Uuid) (rejectedBy : String)
    (reason : Option String) (releases : AgentReleaseTable) :
    AnswersAgree (rejectAgentReleasePromotion now releaseId rejectedBy reason releases)
        (rejectPromotionSql now agentId releaseId rejectedBy reason releases) ↔
      ∀ release, releases.find? releaseId = some release →
        validateAgentReleaseDecision release rejectedBy = .ok () →
          release.agentId = agentId ∧ release.Unpromoted := by
  unfold rejectAgentReleasePromotion rejectPromotionSql
  rw [selectAgentRelease_eq]
  cases found : releases.find? releaseId with
  | none =>
      have notFound : findAgentRelease agentId releaseId releases = .error agentReleaseNotFound := by
        rw [findAgentRelease, found]
      rw [notFound]
      exact iff_of_true AnswersAgree.refused fun release isFound => nomatch isFound
  | some release =>
      have aboutRelease : (∀ other, some release = some other →
          validateAgentReleaseDecision other rejectedBy = .ok () →
            other.agentId = agentId ∧ other.Unpromoted) ↔
          (validateAgentReleaseDecision release rejectedBy = .ok () →
            release.agentId = agentId ∧ release.Unpromoted) :=
        ⟨fun all => all release rfl, fun holds other same => Option.some.inj same ▸ holds⟩
      rw [aboutRelease]
      dsimp only [okOr, bind, Except.bind]
      by_cases own : release.agentId = agentId
      · rw [findAgentRelease_ok_iff.mpr ⟨found, own⟩]
        dsimp only
        cases valid : validateAgentReleaseDecision release rejectedBy with
        | error error =>
            exact iff_of_true AnswersAgree.refused fun accepted => nomatch accepted
        | ok _ =>
            dsimp only [afterCheck]
            rw [rejection_agrees_iff found own (validateAgentReleaseDecision_open valid)]
            exact ⟨fun unpromoted _ => ⟨own, unpromoted⟩, fun holds => (holds rfl).2⟩
      · have notFound : findAgentRelease agentId releaseId releases =
            .error agentReleaseNotFound := by
          rw [findAgentRelease, found]
          exact if_pos own
        rw [notFound]
        cases validateAgentReleaseDecision release rejectedBy with
        | error error =>
            exact iff_of_true AnswersAgree.refused fun accepted => nomatch accepted
        | ok _ =>
            exact iff_of_false (fun ⟨sameAnswer, _⟩ => nomatch sameAnswer)
              fun holds => own (holds rfl).1

/-! ### Automated decisions -/

/-- Whether `begin_agent_release_promotion` accepts the subject. -/
def AgentRelease.Begins (decidedBy : String) (release : AgentRelease) : Prop :=
  if release.status = .promotionInProgress then
    validateAgentReleaseDecider release decidedBy = .ok () ∧ release.decisionBy = some decidedBy
  else validateAgentReleaseDecision release decidedBy = .ok ()

instance (decidedBy : String) : DecidablePred (AgentRelease.Begins decidedBy) := fun release =>
  inferInstanceAs (Decidable (if release.status = .promotionInProgress then
    validateAgentReleaseDecider release decidedBy = .ok () ∧ release.decisionBy = some decidedBy
  else validateAgentReleaseDecision release decidedBy = .ok ()))

/-- A promotion that begins is in progress by the subject, for the same target. -/
structure BegunFrom (decidedBy : String) (old new : AgentRelease) : Prop where
  id : new.id = old.id
  agentId : new.agentId = old.agentId
  agentVersionId : new.agentVersionId = old.agentVersionId
  environment : new.environment = old.environment
  inPromotion : new.isInPromotionBy decidedBy = true

theorem begin_of_begins {agentId releaseId : Uuid} {decidedBy : String}
    {releases : AgentReleaseTable} {release : AgentRelease}
    (found : releases.find? releaseId = some release) (own : release.agentId = agentId)
    (begins : release.Begins decidedBy) (now : Timestamp) (reason : String) :
    ∃ new, BegunFrom decidedBy release new ∧
      beginAgentReleasePromotion now agentId releaseId decidedBy reason releases =
        (.ok new, releases.insert new) := by
  unfold beginAgentReleasePromotion
  rw [findAgentRelease_ok_iff.mpr ⟨found, own⟩]
  unfold AgentRelease.Begins at begins
  dsimp only [bind, Except.bind]
  by_cases inProgress : release.status = .promotionInProgress
  · rw [if_pos inProgress] at begins
    obtain ⟨valid, isOwner⟩ := begins
    rw [if_pos inProgress, valid]
    dsimp only
    rw [if_neg (not_not_intro isOwner)]
    exact ⟨release, ⟨rfl, rfl, rfl, rfl, by simp [AgentRelease.isInPromotionBy, inProgress,
      isOwner]⟩, rfl⟩
  · rw [if_neg inProgress] at begins
    rw [if_neg inProgress, begins]
    exact ⟨release.begun now decidedBy reason, ⟨rfl, rfl, rfl, rfl, by
      simp [AgentRelease.isInPromotionBy, AgentRelease.begun]⟩, rfl⟩

theorem begins_of_begin {now : Timestamp} {agentId releaseId : Uuid} {decidedBy reason : String}
    {releases : AgentReleaseTable} {new : AgentRelease}
    (begun : (beginAgentReleasePromotion now agentId releaseId decidedBy reason releases).1 =
      .ok new) :
    ∃ release, releases.find? releaseId = some release ∧ release.agentId = agentId ∧
      release.Begins decidedBy := by
  unfold beginAgentReleasePromotion storeDecision at begun
  split at begun
  · cases begun
  · rename_i decided isDecided
    obtain ⟨release, isFound, isDecided⟩ := bind_eq_ok.mp isDecided
    obtain ⟨found, own⟩ := findAgentRelease_ok_iff.mp isFound
    refine ⟨release, found, own, ?_⟩
    unfold AgentRelease.Begins
    by_cases inProgress : release.status = .promotionInProgress
    · rw [if_pos inProgress] at isDecided ⊢
      obtain ⟨_, valid, isDecided⟩ := bind_eq_ok.mp isDecided
      refine ⟨valid, ?_⟩
      by_contra isOther
      rw [if_pos isOther] at isDecided
      cases isDecided
    · rw [if_neg inProgress] at isDecided ⊢
      obtain ⟨_, valid, -⟩ := bind_eq_ok.mp isDecided
      exact valid

theorem siblingsAlike_insert_iff {lower : String → String} {releases : AgentReleaseTable}
    {old new : AgentRelease} {decidedBy : String} (begun : BegunFrom decidedBy old new) :
    SiblingsAlike lower new (releases.insert new) ↔ SiblingsAlike lower old releases := by
  unfold SiblingsAlike
  rw [begun.agentId, begun.agentVersionId, begun.environment]
  constructor
  · intro alike sibling member isOther
    have differs : sibling.id ≠ new.id := begun.id ▸ isOther
    exact alike sibling (Table.mem_insert_iff.mpr (.inr ⟨differs, member⟩)) differs
  · intro alike sibling member isOther
    rcases Table.mem_insert_iff.mp member with same | ⟨-, isOld⟩
    · exact absurd (congrArg AgentRelease.id same) isOther
    · exact alike sibling isOld (begun.id ▸ isOther)

/-- Answers that agree are refusals over the same releases, or the same. -/
theorem AnswersAgree.cases {memory postgres : Except AppError AgentRelease × AgentReleaseTable}
    (agree : AnswersAgree memory postgres) :
    (∃ error other releases, memory = (.error error, releases) ∧
      postgres = (.error other, releases)) ∨ postgres = memory := by
  obtain ⟨memoryAnswer, memoryReleases⟩ := memory
  obtain ⟨postgresAnswer, postgresReleases⟩ := postgres
  obtain ⟨sameAnswer, sameReleases⟩ := agree
  dsimp only at sameAnswer sameReleases
  subst sameReleases
  cases memoryAnswer with
  | error error =>
      cases postgresAnswer with
      | error other => exact .inl ⟨error, other, _, rfl, rfl⟩
      | ok release => cases sameAnswer
  | ok release =>
      cases postgresAnswer with
      | error other => cases sameAnswer
      | ok other => exact .inr (by rw [Option.some.inj sameAnswer])

section respond

variable (lower : String → String) {agents : Uuid → Bool} {agentId : Uuid}

theorem withAgent_of_known (known : agents agentId = true)
    (operation : AgentReleaseTable → Except AppError AgentRelease × AgentReleaseTable)
    (releases : AgentReleaseTable) :
    AgentReleaseBackend.withAgent agents agentId operation releases = operation releases :=
  if_pos known

theorem promote_agrees_iff (known : agents agentId = true) (now later : Timestamp)
    (releaseId : Uuid) (decidedBy reason : String) (releases : AgentReleaseTable) :
    AnswersAgree
        (memoryReleases.automate agents now later agentId releaseId "promoted" decidedBy reason
          releases)
        ((postgresReleases lower).automate agents now later agentId releaseId "promoted" decidedBy
          reason releases) ↔
      ∀ release, releases.find? releaseId = some release → release.agentId = agentId →
        release.Begins decidedBy → SiblingsAlike lower release releases := by
  unfold AgentReleaseBackend.automate
  simp only [ne_eq, not_true_eq_false, false_and, if_false, if_true, withAgent_of_known known]
  have agree := begin_agrees now agentId releaseId decidedBy reason releases
  dsimp only [memoryReleases, postgresReleases]
  by_cases begins : ∃ release, releases.find? releaseId = some release ∧
      release.agentId = agentId ∧ release.Begins decidedBy
  · obtain ⟨release, found, own, begins⟩ := begins
    obtain ⟨new, begun, isBegun⟩ := begin_of_begins found own begins now reason
    have sameBegin : beginPromotionSql now agentId releaseId decidedBy reason releases =
        (.ok new, releases.insert new) := by
      rcases agree.cases with ⟨error, other, after, refused, -⟩ | same
      · cases isBegun.symm.trans refused
      · exact same.trans isBegun
    have isNew : (releases.insert new).find? releaseId = some new := by
      rw [← (Table.find?_eq_some.mp found).2, ← begun.id]
      exact Table.find?_insert_same
    rw [isBegun, sameBegin]
    dsimp only
    rw [complete_agrees_iff]
    constructor
    · intro alike other isOther _ _
      cases found.symm.trans isOther
      exact (siblingsAlike_insert_iff begun).mp
        (alike new isNew (begun.agentId.trans own) begun.inPromotion)
    · intro alike current isCurrent _ _
      cases isNew.symm.trans isCurrent
      exact (siblingsAlike_insert_iff begun).mpr (alike release found own begins)
  · refine iff_of_true ?_ fun release found own isBegin =>
      absurd ⟨release, found, own, isBegin⟩ begins
    rcases agree.cases with ⟨error, other, after, refused, alsoRefused⟩ | same
    · rw [refused, alsoRefused]
      exact AnswersAgree.refused
    · rw [same]
      cases answer : beginAgentReleasePromotion now agentId releaseId decidedBy reason releases with
      | mk outcome after =>
          cases outcome with
          | error error => exact AnswersAgree.refused
          | ok new => exact absurd (begins_of_begin (congrArg Prod.fst answer)) begins

/-- The condition under which a call does the same in both stores, of the release that it
finds. -/
def AgentReleaseEvent.SameInBoth (agents : Uuid → Bool) (event : AgentReleaseEvent)
    (releases : AgentReleaseTable) : Prop :=
  agents event.agentId = true → ∀ release, releases.find? event.releaseId = some release →
    match event.move with
    | .reject rejectedBy _ =>
        validateAgentReleaseDecision release rejectedBy = .ok () →
          release.agentId = event.agentId ∧ release.Unpromoted
    | .complete promotedBy =>
        release.agentId = event.agentId → release.isInPromotionBy promotedBy = true →
          SiblingsAlike lower release releases
    | .automate nextStatus decidedBy _ =>
        release.agentId = event.agentId →
          (nextStatus = "rejected" → release.status.isOpenForDecision = true →
            release.Unpromoted) ∧
          (nextStatus = "promoted" → release.Begins decidedBy →
            SiblingsAlike lower release releases)
    | _ => True

theorem respond_agrees_iff (event : AgentReleaseEvent) (releases : AgentReleaseTable) :
    AnswersAgree (memoryReleases.respond agents event releases)
        ((postgresReleases lower).respond agents event releases) ↔
      event.SameInBoth lower agents releases := by
  unfold AgentReleaseBackend.respond AgentReleaseEvent.SameInBoth
  obtain ⟨now, later, agentId, releaseId, move⟩ := event
  dsimp only
  cases known : agents agentId with
  | false =>
      refine iff_of_true ?_ fun unknown => nomatch unknown
      unfold AgentReleaseBackend.withAgent
      rw [if_neg (by simp [known]), if_neg (by simp [known])]
      exact AnswersAgree.refused
  | true =>
      rw [withAgent_of_known known, withAgent_of_known known]
      simp only [forall_const]
      cases move with
      | begin decidedBy reason =>
          exact iff_of_true (begin_agrees now agentId releaseId decidedBy reason releases)
            fun _ _ => trivial
      | complete promotedBy =>
          exact complete_agrees_iff lower now agentId releaseId promotedBy releases
      | fail decidedBy reason =>
          exact iff_of_true (fail_agrees agentId releaseId decidedBy reason releases)
            fun _ _ => trivial
      | reject rejectedBy reason =>
          exact reject_agrees_iff now agentId releaseId rejectedBy reason releases
      | rollback =>
          exact iff_of_true (rollback_agrees agentId releaseId releases) fun _ _ => trivial
      | automate nextStatus decidedBy reason =>
          dsimp only
          by_cases promotes : nextStatus = "promoted"
          · subst promotes
            rw [promote_agrees_iff lower known]
            constructor
            · intro alike release found own
              exact ⟨fun rejects => absurd rejects (by decide), fun _ => alike release found own⟩
            · exact fun same release found own => (same release found own).2 rfl
          · unfold AgentReleaseBackend.automate
            by_cases rejects : nextStatus = "rejected"
            · rw [if_neg (by simp [rejects]), if_neg promotes, if_neg (by simp [rejects]),
                if_neg promotes]
              refine (automateRejection_agrees_iff now agentId releaseId decidedBy reason
                releases).trans ⟨fun unpromoted release found own => ?_,
                fun same release found own => (same release found own).1 rejects⟩
              exact ⟨fun _ => unpromoted release found own, fun isPromoted =>
                absurd isPromoted promotes⟩
            · rw [if_pos ⟨promotes, rejects⟩, if_pos ⟨promotes, rejects⟩]
              exact iff_of_true AnswersAgree.refused fun release found own =>
                ⟨fun isRejected => absurd isRejected rejects,
                  fun isPromoted => absurd isPromoted promotes⟩

end respond

/-! ### Other agents -/

/-- A call leaves the releases of other agents. -/
def LeavesOthers (agentId : Uuid) (before after : AgentReleaseTable) : Prop :=
  ∀ releaseId release, before.find? releaseId = some release → release.agentId ≠ agentId →
    after.find? releaseId = some release

theorem LeavesOthers.refl (agentId : Uuid) (releases : AgentReleaseTable) :
    LeavesOthers agentId releases releases := fun _ _ found _ => found

theorem LeavesOthers.trans {agentId : Uuid} {before between after : AgentReleaseTable}
    (first : LeavesOthers agentId before between) (second : LeavesOthers agentId between after) :
    LeavesOthers agentId before after :=
  fun releaseId release found other => second releaseId release (first releaseId release found other) other

theorem update_leavesOthers (agentId releaseId : Uuid) (guard : AgentRelease → Bool)
    (set : AgentRelease → AgentRelease) (keeps : ∀ release, (set release).id = release.id)
    (releases : AgentReleaseTable) :
    LeavesOthers agentId releases (updateReturning releaseId
      (fun release => ofAgent agentId release && guard release) set keeps releases).2 := by
  intro otherId other found isOther
  unfold updateReturning
  by_cases same : otherId = releaseId
  · subst same
    rw [Table.find?_modify_same, found, Option.map_some, if_neg (by simp [ofAgent, isOther])]
  · rw [Table.find?_modify_ne same]
    exact found

theorem afterCheck_leavesOthers {agentId : Uuid} {check : Except AppError Unit}
    {releases : AgentReleaseTable} {rest : Except AppError AgentRelease × AgentReleaseTable}
    (leaves : LeavesOthers agentId releases rest.2) :
    LeavesOthers agentId releases (afterCheck check releases rest).2 := by
  cases check with
  | error error => exact LeavesOthers.refl agentId releases
  | ok _ => exact leaves

theorem complete_leavesOthers (lower : String → String) (now : Timestamp)
    (agentId releaseId : Uuid) (promotedBy : String) (releases : AgentReleaseTable) :
    LeavesOthers agentId releases
      (completePromotionSql lower now agentId releaseId promotedBy releases).2 := by
  unfold completePromotionSql
  rw [selectAgentRelease_eq]
  cases isFound : findAgentRelease agentId releaseId releases with
  | error error => exact LeavesOthers.refl agentId releases
  | ok current =>
      obtain ⟨-, own⟩ := findAgentRelease_ok_iff.mp isFound
      dsimp only
      have superseded : LeavesOthers agentId releases
          (releases.mapRows (current.supersededBy lower) (current.supersededBy_id lower)) := by
        intro otherId other found isOther
        rw [Table.find?_mapRows, found, Option.map_some, AgentRelease.supersededBy,
          if_neg fun ⟨_, sameAgent, _⟩ => isOther (sameAgent.trans own)]
      have updated := superseded.trans (update_leavesOthers agentId releaseId
        (fun release => release.isInPromotionBy promotedBy)
        (AgentRelease.completed now promotedBy) (AgentRelease.completed_id now promotedBy) _)
      split
      · exact LeavesOthers.refl agentId releases
      · split
        · exact LeavesOthers.refl agentId releases
        · rename_i release after isUpdated
          rw [isUpdated] at updated
          exact updated

theorem begin_leavesOthers (now : Timestamp) (agentId releaseId : Uuid)
    (decidedBy reason : String) (releases : AgentReleaseTable) :
    LeavesOthers agentId releases
      (beginPromotionSql now agentId releaseId decidedBy reason releases).2 := by
  unfold beginPromotionSql
  split
  · exact LeavesOthers.refl agentId releases
  · split
    · exact LeavesOthers.refl agentId releases
    · exact afterCheck_leavesOthers (update_leavesOthers agentId releaseId _ _
        (AgentRelease.begun_id now decidedBy reason) releases)

theorem rejectRow_leavesOthers (now : Timestamp) (agentId releaseId : Uuid) (decidedBy : String)
    (reason : Option String) (releases : AgentReleaseTable) :
    LeavesOthers agentId releases
      (rejectRowSql now agentId releaseId decidedBy reason releases).2 :=
  update_leavesOthers agentId releaseId _ _ (AgentRelease.rejectedRow_id now decidedBy reason)
    releases

theorem withAgent_leavesOthers {agents : Uuid → Bool} {agentId : Uuid}
    {operation : AgentReleaseTable → Except AppError AgentRelease × AgentReleaseTable}
    {releases : AgentReleaseTable} (leaves : LeavesOthers agentId releases (operation releases).2) :
    LeavesOthers agentId releases
      (AgentReleaseBackend.withAgent agents agentId operation releases).2 := by
  unfold AgentReleaseBackend.withAgent
  split
  · exact leaves
  · exact LeavesOthers.refl agentId releases

/-- In the database no call changes a release of another agent. -/
theorem postgres_leavesOthers (lower : String → String) (agents : Uuid → Bool)
    (event : AgentReleaseEvent) (releases : AgentReleaseTable) :
    LeavesOthers event.agentId releases
      ((postgresReleases lower).respond agents event releases).2 := by
  obtain ⟨now, later, agentId, releaseId, move⟩ := event
  unfold AgentReleaseBackend.respond
  apply withAgent_leavesOthers
  dsimp only
  cases move with
  | begin decidedBy reason =>
      exact begin_leavesOthers now agentId releaseId decidedBy reason releases
  | complete promotedBy =>
      exact complete_leavesOthers lower now agentId releaseId promotedBy releases
  | fail decidedBy reason =>
      exact update_leavesOthers agentId releaseId _ _ (AgentRelease.promotionFailed_id reason)
        releases
  | reject rejectedBy reason =>
      change LeavesOthers agentId releases
        (rejectPromotionSql now agentId releaseId rejectedBy reason releases).2
      unfold rejectPromotionSql
      split
      · exact LeavesOthers.refl agentId releases
      · exact afterCheck_leavesOthers
          (rejectRow_leavesOthers now agentId releaseId rejectedBy reason releases)
  | automate nextStatus decidedBy reason =>
      dsimp only
      unfold AgentReleaseBackend.automate
      split
      · exact LeavesOthers.refl agentId releases
      · split
        · have begun : LeavesOthers agentId releases (AgentReleaseBackend.withAgent agents agentId
              ((postgresReleases lower).begin now agentId releaseId decidedBy reason) releases).2 :=
            withAgent_leavesOthers
              (begin_leavesOthers now agentId releaseId decidedBy reason releases)
          split
          · rename_i error after isBegun
            rw [isBegun] at begun
            exact begun
          · rename_i release after isBegun
            rw [isBegun] at begun
            exact begun.trans (withAgent_leavesOthers
              (complete_leavesOthers lower later agentId releaseId decidedBy after))
        · change LeavesOthers agentId releases
            (automateRejectionSql now agentId releaseId decidedBy reason releases).2
          unfold automateRejectionSql
          split
          · exact LeavesOthers.refl agentId releases
          · split
            · exact LeavesOthers.refl agentId releases
            · exact rejectRow_leavesOthers now agentId releaseId decidedBy (some reason) releases
  | rollback =>
      change LeavesOthers agentId releases (rollbackSql agentId releaseId releases).2
      unfold rollbackSql
      split
      · exact LeavesOthers.refl agentId releases
      · split
        · exact LeavesOthers.refl agentId releases
        · exact update_leavesOthers agentId releaseId _ _ (AgentRelease.withStatus_id .rolledBack)
            releases

/-! ### Sequences of calls -/

/-- Both stores take the next call. -/
def stepBoth (lower : String → String) (agents : Uuid → Bool) (event : AgentReleaseEvent)
    (stores : AgentReleaseTable × AgentReleaseTable) : AgentReleaseTable × AgentReleaseTable :=
  ((memoryReleases.respond agents event stores.1).2,
    ((postgresReleases lower).respond agents event stores.2).2)

/-- The stores accept or refuse the call alike, hold the same releases after it, and leave
those of other agents. -/
structure CallAgrees (lower : String → String) (agents : Uuid → Bool) (event : AgentReleaseEvent)
    (stores : AgentReleaseTable × AgentReleaseTable) : Prop where
  agrees : AnswersAgree (memoryReleases.respond agents event stores.1)
    ((postgresReleases lower).respond agents event stores.2)
  memoryLeaves : LeavesOthers event.agentId stores.1 (stepBoth lower agents event stores).1
  postgresLeaves : LeavesOthers event.agentId stores.2 (stepBoth lower agents event stores).2

theorem callAgrees_iff (lower : String → String) (agents : Uuid → Bool)
    (event : AgentReleaseEvent) (releases : AgentReleaseTable) :
    CallAgrees lower agents event (releases, releases) ↔
      event.SameInBoth lower agents releases := by
  rw [← respond_agrees_iff]
  constructor
  · exact CallAgrees.agrees
  · intro agrees
    have postgresLeaves := postgres_leavesOthers lower agents event releases
    refine ⟨agrees, ?_, postgresLeaves⟩
    unfold stepBoth
    dsimp only
    rw [agrees.releases]
    exact postgresLeaves

/-- In a sequence of calls the stores agree on each one exactly when each one is the same
in both. -/
theorem release_backends_agree_iff (lower : String → String) (agents : Uuid → Bool)
    (events : List AgentReleaseEvent) (releases : AgentReleaseTable) :
    MetAlong (stepBoth lower agents) (CallAgrees lower agents) events (releases, releases) ↔
      MetAlong (stepBoth lower agents)
        (fun event stores => event.SameInBoth lower agents stores.1) events
        (releases, releases) := by
  have sameCondition : ∀ event stores, stores.1 = stores.2 →
      (CallAgrees lower agents event stores ↔ event.SameInBoth lower agents stores.1) := by
    rintro event ⟨memory, postgres⟩ same
    cases same
    exact callAgrees_iff lower agents event memory
  have keeps : ∀ event stores, stores.1 = stores.2 → CallAgrees lower agents event stores →
      (stepBoth lower agents event stores).1 = (stepBoth lower agents event stores).2 :=
    fun event stores _ agree => agree.agrees.releases
  exact @metAlong_iff_of_keeps _ _ _ _ _ _ (fun stores => stores.1 = stores.2) sameCondition keeps
    _ rfl

section otherAgent

/-- A release of the agent 1 that waits for a decision. -/
private def waitingRelease : AgentRelease :=
  requestedAgentRelease 5 0 1
    { agentVersionId := 3, environment := "production", evalRunId := 4, score := 1, minScore := 1 }
    { requestedBy := "alice", approverSubject := none, requestReason := none,
      automationPolicy := emptyJsonObject }

/-- Its rejection, in a call that names the agent 2. -/
private def rejectElsewhere : AgentReleaseEvent :=
  ⟨10, 10, 2, 5, .reject "bob" none⟩

/-- A rejection in memory reaches the release of another agent. -/
theorem reject_reaches_other_agent :
    ¬ MetAlong (stepBoth toAsciiLowercase fun _ => true)
      (CallAgrees toAsciiLowercase fun _ => true) [rejectElsewhere]
      (Table.empty.insert waitingRelease, Table.empty.insert waitingRelease) := by
  intro along
  have agrees := (metAlong_cons.mp along).1
  have stays := agrees.memoryLeaves 5 waitingRelease (by decide +kernel) (by decide)
  revert stays
  decide +kernel

end otherAgent

end MandoForge
