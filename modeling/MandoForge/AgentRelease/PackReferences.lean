/-
Module: MandoForge.AgentRelease.PackReferences
Purpose: The references of a pack's agent release are a set kept in its policy: adding
  one, removing one and reading them back, and what the promotions and the give-ups of
  an installation make of the references of every release.
Trusted boundary: a printed identifier is read back as itself.
Main exports: PackOwned, mem_references_remove
-/
import MandoForge.AgentRelease.ReleaseEffects

namespace MandoForge

open Foundation

/-! ### Reading references back -/

/-- The policy of a release that a workflow pack made. -/
def AgentRelease.PackOwned (release : AgentRelease) : Prop :=
  ∃ fields, release.automationPolicy = .object fields ∧
    Json.getField "source" fields = some (.string "workflow_pack_release")

theorem AgentRelease.PackOwned.isIndependent {release : AgentRelease} (owned : release.PackOwned) :
    agentReleaseIsIndependent release = false := by
  obtain ⟨fields, isObject, isSource⟩ := owned
  simp [agentReleaseIsIndependent, isObject, Json.index, Json.get, isSource]

theorem AgentRelease.PackOwned.set {release : AgentRelease} (owned : release.PackOwned)
    (references : List Uuid) : (setWorkflowPackReleaseReferences references release).PackOwned := by
  obtain ⟨fields, isObject, isSource⟩ := owned
  rw [setWorkflowPackReleaseReferences, isObject]
  refine ⟨_, rfl, ?_⟩
  rw [Json.getField_insertField, if_neg (by decide), isSource]

theorem newWorkflowPackAgentRelease_packOwned {id installationId agentId agentVersionId : Uuid}
    {environment promotedBy : String} {gateEvidence : Json} {promotedAt : Timestamp} :
    (newWorkflowPackAgentRelease id installationId agentId agentVersionId environment promotedBy
      gateEvidence promotedAt).PackOwned :=
  ⟨_, rfl, by simp [Json.getField_insertField]⟩

section references

variable {parseUuid : String → Option Uuid} (readsBack : ∀ id, parseUuid (Nat.repr id) = some id)

include readsBack

theorem filterMap_ofUuid (references : List Uuid) :
    ((references.map Json.ofUuid).filterMap Json.asStr).filterMap parseUuid = references := by
  induction references with
  | nil => rfl
  | cons reference rest inductionHypothesis =>
      have isString : Json.asStr (Json.ofUuid reference) = some (Nat.repr reference) := rfl
      rw [List.map_cons, List.filterMap_cons_some isString,
        List.filterMap_cons_some (readsBack reference), inductionHypothesis]

theorem references_of_policy {release : AgentRelease} {fields : List (String × Json)}
    {references : List Uuid} (isObject : release.automationPolicy = .object fields)
    (isSource : Json.getField "source" fields = some (.string "workflow_pack_release"))
    (isStored : Json.getField "workflow_pack_installation_ids" fields =
      some (.array (references.map Json.ofUuid))) :
    workflowPackReleaseReferences parseUuid release = sortedSet references := by
  have owned : release.PackOwned := ⟨fields, isObject, isSource⟩
  have stored : (release.automationPolicy.get "workflow_pack_installation_ids").bind Json.asArray =
      some (references.map Json.ofUuid) := by
    rw [isObject, Json.get, isStored]
    rfl
  rw [workflowPackReleaseReferences, owned.isIndependent, if_neg Bool.false_ne_true, stored]
  dsimp only
  rw [filterMap_ofUuid readsBack]

theorem references_set {release : AgentRelease} (owned : release.PackOwned)
    (references : List Uuid) :
    workflowPackReleaseReferences parseUuid
      (setWorkflowPackReleaseReferences references release) = sortedSet references := by
  obtain ⟨fields, isObject, isSource⟩ := owned
  apply references_of_policy readsBack
  case isObject => rw [setWorkflowPackReleaseReferences, isObject]
  case isSource => rw [Json.getField_insertField, if_neg (by decide), isSource]
  case isStored => rw [Json.getField_insertField, if_pos rfl]

theorem mem_references_add {release : AgentRelease} (owned : release.PackOwned)
    {installationId reference : Uuid} :
    reference ∈ workflowPackReleaseReferences parseUuid
        (addWorkflowPackReleaseReference parseUuid installationId release) ↔
      reference ∈ workflowPackReleaseReferences parseUuid release ∨
        reference = installationId := by
  rw [addWorkflowPackReleaseReference, owned.isIndependent, if_neg Bool.false_ne_true,
    references_set readsBack owned, mem_sortedSet, mem_sortedSet, List.mem_cons, or_comm]

theorem mem_references_remove {release : AgentRelease} (owned : release.PackOwned)
    {installationId reference : Uuid} :
    reference ∈ workflowPackReleaseReferences parseUuid
        (removeWorkflowPackReleaseReference parseUuid installationId release).1 ↔
      reference ∈ workflowPackReleaseReferences parseUuid release ∧
        reference ≠ installationId := by
  rw [removeWorkflowPackReleaseReference, references_set readsBack owned, mem_sortedSet,
    List.mem_filter, decide_eq_true_eq]

theorem mem_references_new {id installationId agentId agentVersionId reference : Uuid}
    {environment promotedBy : String} {gateEvidence : Json} {promotedAt : Timestamp} :
    reference ∈ workflowPackReleaseReferences parseUuid
        (newWorkflowPackAgentRelease id installationId agentId agentVersionId environment
          promotedBy gateEvidence promotedAt) ↔ reference = installationId := by
  have same : workflowPackReleaseReferences parseUuid
      (newWorkflowPackAgentRelease id installationId agentId agentVersionId environment
        promotedBy gateEvidence promotedAt) = sortedSet [installationId] := by
    apply references_of_policy readsBack
    case isObject => rfl
    case isSource => simp [Json.getField_insertField]
    case isStored => simp [Json.getField_insertField]
  rw [same, mem_sortedSet, List.mem_singleton]

end references

/-! ### The promotions of an installation -/

/-- The release is one of the targets, in the environment. -/
def AgentRelease.Targeted (targets : List ReleaseTarget) (environment : String)
    (release : AgentRelease) : Prop :=
  (release.agentId, release.agentVersionId) ∈ targets ∧
    eqIgnoreAsciiCase release.environment environment = true

theorem AgentRelease.targeted_kept {targets : List ReleaseTarget} {environment : String}
    {old new : AgentRelease} (kept : ReleaseKept old new) :
    new.Targeted targets environment ↔ old.Targeted targets environment := by
  rw [Targeted, Targeted, kept.agentId, kept.agentVersionId, kept.environment]

theorem AgentRelease.targeted_cons {target : ReleaseTarget} {targets : List ReleaseTarget}
    {environment : String} {release : AgentRelease} :
    release.Targeted (target :: targets) environment ↔
      release.Targeted [target] environment ∨ release.Targeted targets environment := by
  simp only [Targeted, List.mem_cons, List.not_mem_nil, or_false, or_and_right]

def AllPackOwned (releases : AgentReleaseTable) : Prop := ∀ release ∈ releases, release.PackOwned

/-- The targets are promoted for the installation: their promoted releases refer to it,
and those that were missing are new. -/
structure Promotes (parseUuid : String → Option Uuid) (installationId : Uuid)
    (targets : List ReleaseTarget) (environment : String) (before after : AgentReleaseTable) :
    Prop where
  stored : ∀ releaseId old, before.find? releaseId = some old → ∃ new,
    after.find? releaseId = some new ∧ ReleaseKept old new ∧ new.status = old.status ∧
      (old.status = .promoted → ∀ reference,
        reference ∈ workflowPackReleaseReferences parseUuid new ↔
          reference ∈ workflowPackReleaseReferences parseUuid old ∨
            (reference = installationId ∧ old.Targeted targets environment))
  fresh : ∀ new ∈ after, before.find? new.id = none →
    new.status = .promoted ∧ new.Targeted targets environment ∧
      ∀ reference, reference ∈ workflowPackReleaseReferences parseUuid new ↔
        reference = installationId
  owned : AllPackOwned after

theorem mem_added (parseUuid : String → Option Uuid) {installationId wanted : Uuid}
    {releases : AgentReleaseTable} {release : AgentRelease} :
    release ∈ releases.modify wanted (addWorkflowPackReleaseReference parseUuid installationId)
        (addWorkflowPackReleaseReference_id parseUuid installationId) ↔
      ∃ old ∈ releases, release = if old.id = wanted then
        addWorkflowPackReleaseReference parseUuid installationId old else old :=
  Table.mem_modify

section promotions

variable {parseUuid : String → Option Uuid} {installationId : Uuid} {environment : String}

theorem Promotes.refl {releases : AgentReleaseTable} (owned : AllPackOwned releases) :
    Promotes parseUuid installationId [] environment releases releases where
  stored releaseId old found :=
    ⟨old, found, ReleaseKept.refl old, rfl, fun _ reference => by simp [AgentRelease.Targeted]⟩
  fresh new member missing := by
    rw [Table.find?_key member] at missing
    cases missing
  owned := owned

theorem Promotes.trans {target : ReleaseTarget} {targets : List ReleaseTarget}
    {before middle after : AgentReleaseTable}
    (one : Promotes parseUuid installationId [target] environment before middle)
    (rest : Promotes parseUuid installationId targets environment middle after) :
    Promotes parseUuid installationId (target :: targets) environment before after := by
  constructor
  case owned => exact rest.owned
  case stored =>
    intro releaseId old found
    obtain ⟨new, isNew, kept, sameStatus, references⟩ := one.stored releaseId old found
    obtain ⟨last, isLast, lastKept, lastStatus, lastReferences⟩ := rest.stored releaseId new isNew
    refine ⟨last, isLast, kept.trans lastKept, lastStatus.trans sameStatus, ?_⟩
    intro promoted reference
    rw [lastReferences (sameStatus.trans promoted), references promoted,
      AgentRelease.targeted_kept kept, @AgentRelease.targeted_cons target targets, or_assoc,
      ← and_or_left]
  case fresh =>
    intro last member missing
    cases isNew : middle.find? last.id with
    | none =>
        obtain ⟨promoted, targeted, references⟩ := rest.fresh last member isNew
        exact ⟨promoted, AgentRelease.targeted_cons.mpr (.inr targeted), references⟩
    | some new =>
        obtain ⟨newMember, sameId⟩ := Table.find?_eq_some.mp isNew
        rw [← sameId] at missing
        obtain ⟨promoted, targeted, references⟩ := one.fresh new newMember missing
        obtain ⟨found, isLast, kept, sameStatus, lastReferences⟩ :=
          rest.stored last.id new isNew
        obtain rfl := Option.some.inj (isLast.symm.trans (Table.find?_key member))
        refine ⟨sameStatus.trans promoted,
          AgentRelease.targeted_cons.mpr (.inl ((AgentRelease.targeted_kept kept).mpr targeted)),
          fun reference => ?_⟩
        rw [lastReferences promoted, references]
        exact ⟨fun isOne => isOne.elim id And.left, .inl⟩

variable (readsBack : ∀ id, parseUuid (Nat.repr id) = some id)

include readsBack

theorem promoteTarget_promotes {draw : ReleaseTarget → Uuid} {promotedBy : String}
    {gateEvidence : Json} {occurredAt : Timestamp} {releases : AgentReleaseTable}
    {target : ReleaseTarget} (unique : OnePromoted releases) (owned : AllPackOwned releases) :
    Promotes parseUuid installationId [target] environment releases
      (promoteTarget parseUuid draw installationId environment promotedBy gateEvidence occurredAt
        releases target).2 := by
  unfold promoteTarget
  split
  · rename_i existing isFound
    have member : existing ∈ releases := List.mem_of_find?_eq_some isFound
    obtain ⟨sameAgent, sameVersion, sameEnvironment, promoted⟩ :=
      AgentRelease.isPromotedFor_iff.mp (List.find?_some isFound)
    have isTargeted : existing.Targeted [target] environment :=
      ⟨by rw [List.mem_singleton, sameAgent, sameVersion], sameEnvironment⟩
    constructor
    case owned =>
      intro release isMember
      obtain ⟨old, oldMember, rfl⟩ := (mem_added parseUuid).mp isMember
      split
      · unfold addWorkflowPackReleaseReference
        split
        · exact owned old oldMember
        · exact (owned old oldMember).set _
      · exact owned old oldMember
    case fresh =>
      intro new isMember missing
      obtain ⟨old, oldMember, rfl⟩ := (mem_added parseUuid).mp isMember
      have sameId : (if old.id = existing.id then
          addWorkflowPackReleaseReference parseUuid installationId old else old).id = old.id := by
        split
        · exact addWorkflowPackReleaseReference_id parseUuid installationId old
        · rfl
      rw [sameId, Table.find?_key oldMember] at missing
      cases missing
    case stored =>
      intro releaseId old found
      by_cases same : releaseId = existing.id
      · subst same
        obtain rfl := Option.some.inj (found.symm.trans (Table.find?_key member))
        have change : QuietChange old
            (addWorkflowPackReleaseReference parseUuid installationId old) :=
          addWorkflowPackReleaseReference_quiet
        refine ⟨addWorkflowPackReleaseReference parseUuid installationId old,
          by rw [Table.find?_modify_same, found, Option.map_some], change.toReleaseKept, ?_, ?_⟩
        · unfold addWorkflowPackReleaseReference setWorkflowPackReleaseReferences
          split
          · rfl
          · split <;> rfl
        · intro _ reference
          rw [mem_references_add readsBack (owned old member), and_iff_left isTargeted]
      · refine ⟨old, by rw [Table.find?_modify_ne same, found], ReleaseKept.refl old, rfl, ?_⟩
        -- Another promoted release is not one of the target.
        intro oldPromoted reference
        have notTargeted : ¬old.Targeted [target] environment := by
          rintro ⟨isTarget, inEnvironment⟩
          obtain ⟨oldAgent, oldVersion⟩ := Prod.mk.inj (List.mem_singleton.mp isTarget)
          obtain ⟨oldMember, sameId⟩ := Table.find?_eq_some.mp found
          apply same
          rw [← sameId, unique old oldMember existing member oldPromoted promoted
            (oldAgent.trans sameAgent.symm) (oldVersion.trans sameVersion.symm)
            (eqIgnoreAsciiCase_trans inEnvironment (eqIgnoreAsciiCase_symm sameEnvironment))]
        rw [or_iff_left fun isTarget => notTargeted isTarget.2]
  · rename_i missing
    have isFresh : releases.find? (releases.drawKey (draw target)) = none := Table.find?_drawKey
    constructor
    case owned =>
      intro release isMember
      rcases (Table.mem_insert_of_fresh isFresh).mp isMember with old | rfl
      · exact owned release old
      · exact newWorkflowPackAgentRelease_packOwned
    case fresh =>
      intro new isMember absent
      rcases (Table.mem_insert_of_fresh isFresh).mp isMember with old | rfl
      · rw [Table.find?_key old] at absent
        cases absent
      · refine ⟨rfl, ⟨List.mem_singleton_self target, ?_⟩,
          fun reference => mem_references_new readsBack⟩
        simp [eqIgnoreAsciiCase, newWorkflowPackAgentRelease]
    case stored =>
      intro releaseId old found
      have differs : releaseId ≠ releases.drawKey (draw target) := by
        rintro rfl
        rw [isFresh] at found
        cases found
      refine ⟨old, ?_, ReleaseKept.refl old, rfl, ?_⟩
      · rw [← found]
        exact Table.find?_insert_of_ne differs
      · intro oldPromoted reference
        have notTargeted : ¬old.Targeted [target] environment := by
          rintro ⟨isTarget, inEnvironment⟩
          obtain ⟨oldAgent, oldVersion⟩ := Prod.mk.inj (List.mem_singleton.mp isTarget)
          apply List.find?_eq_none.mp missing old (Table.find?_eq_some.mp found).1
          exact AgentRelease.isPromotedFor_iff.mpr
            ⟨oldAgent, oldVersion, inEnvironment, oldPromoted⟩
        rw [or_iff_left fun isTarget => notTargeted isTarget.2]

theorem promoteTargets_promotes {draw : ReleaseTarget → Uuid} {promotedBy : String}
    {gateEvidence : Json} {occurredAt : Timestamp} {targets : List ReleaseTarget}
    {releases : AgentReleaseTable} (unique : OnePromoted releases)
    (owned : AllPackOwned releases) :
    Promotes parseUuid installationId targets environment releases
      (promoteTargets parseUuid draw installationId environment promotedBy gateEvidence occurredAt
        targets releases).2 := by
  induction targets generalizing releases with
  | nil => exact Promotes.refl owned
  | cons target rest inductionHypothesis =>
      have one : Promotes parseUuid installationId [target] environment releases
          (promoteTarget parseUuid draw installationId environment promotedBy gateEvidence
            occurredAt releases target).2 :=
        promoteTarget_promotes readsBack unique owned
      exact one.trans (inductionHypothesis (promoteTarget_quiet.onePromoted unique) one.owned)

/-! ### The promotions that an installation gives up -/

/-- A promoted release loses its reference to the installation. -/
theorem mem_references_givenUpBy {release : AgentRelease} (owned : release.PackOwned)
    (promoted : release.status = .promoted) {reference : Uuid} :
    reference ∈ workflowPackReleaseReferences parseUuid
        (release.givenUpBy parseUuid installationId) ↔
      reference ∈ workflowPackReleaseReferences parseUuid release ∧
        reference ≠ installationId := by
  unfold AgentRelease.givenUpBy
  split
  · have removed : reference ∈ workflowPackReleaseReferences parseUuid
        (removeWorkflowPackReleaseReference parseUuid installationId release).1 ↔
          reference ∈ workflowPackReleaseReferences parseUuid release ∧
            reference ≠ installationId :=
      mem_references_remove readsBack owned
    dsimp only
    split
    · exact removed
    · exact removed
  · rename_i stays
    have notReferring := fun refers => stays ⟨promoted, refers⟩
    constructor
    · intro refers
      exact ⟨refers, fun same => notReferring (same ▸ refers)⟩
    · exact And.left

omit readsBack in
/-- A promoted release is rolled back when the reference was its only one. -/
theorem givenUpBy_status {release : AgentRelease} (promoted : release.status = .promoted) :
    (release.givenUpBy parseUuid installationId).status = .rolledBack ↔
      ∀ reference, reference ∈ workflowPackReleaseReferences parseUuid release ↔
        reference = installationId := by
  have noneLeft : (removeWorkflowPackReleaseReference parseUuid installationId release).2 = 0 ↔
      ∀ reference ∈ workflowPackReleaseReferences parseUuid release,
        reference = installationId := by
    simp [removeWorkflowPackReleaseReference, List.length_eq_zero_iff]
  have setStatus : ∀ references, (setWorkflowPackReleaseReferences references release).status =
      .promoted := by
    intro references
    unfold setWorkflowPackReleaseReferences
    split <;> exact promoted
  unfold AgentRelease.givenUpBy
  split
  · rename_i isGivenUp
    dsimp only
    split
    · rename_i isLast
      refine ⟨fun _ reference => ⟨noneLeft.mp isLast reference, ?_⟩, fun _ => rfl⟩
      rintro rfl
      exact isGivenUp.2
    · rename_i isNotLast
      have stays := setStatus ((workflowPackReleaseReferences parseUuid release).filter
        fun reference => decide (reference ≠ installationId))
      constructor
      · intro isRolledBack
        rw [removeWorkflowPackReleaseReference] at isRolledBack
        rw [stays] at isRolledBack
        cases isRolledBack
      · intro isOnly
        exact (isNotLast (noneLeft.mpr fun reference => (isOnly reference).mp)).elim
  · rename_i stays
    constructor
    · intro isRolledBack
      rw [promoted] at isRolledBack
      cases isRolledBack
    · intro isOnly
      exact (stays ⟨promoted, (isOnly installationId).mpr rfl⟩).elim

end promotions

end MandoForge
