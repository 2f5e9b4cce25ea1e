/-
Module: MandoForge.Ontology.PublishedActions
Purpose: The actions of a current release can be invoked when their contracts belong to
  it: each was made by the run of the release, or is marked as inherited from its parent.
  A promotion rewrites the parent after the gate looked at it, so every current release is
  invocable exactly when the contracts of every promoted release belong to it beside the
  release that it replaces.
Trusted boundary: beside the calls only the clock moves.
Main exports: Invocable, orphaned_contract
-/
import MandoForge.Ontology.CatalogChecks
import MandoForge.Ontology.PublishedNames

namespace MandoForge

open Foundation

/-! ### What is claimed -/

section invocable

variable (codec : OntologyCodec)

/-- Every action of the release's catalog is resolved, with the digest of the catalog. -/
def Invocable (release : OntologyReleaseRecord) : Prop :=
  ∃ catalog digest, releaseCatalogFromEvidence codec release = .ok (catalog, digest) ∧
    ∀ action ∈ catalog.actions, ∃ toolSpec,
      ontologyActionToolSpecForRelease codec release action.runtimeName =
        .ok (toolSpec, action.contractDigest)

def CurrentInvocable (pool : OntologyReleasePool) : Prop :=
  ∀ release ∈ pool.state.releases, release.isCurrent = true → Invocable codec release

/-- Every contract in the evidence was made by the run, or is marked as inherited from the
parent. -/
def contractsBelong (sourceRunId parentReleaseId : Option Uuid) (entries : List Json) : Bool :=
  (contractNames entries).all fun actionName =>
    (contractEntry entries actionName).all fun entry =>
      match readContract codec entry with
      | .ok (toolSpec, _) => contractBelongs codec sourceRunId parentReleaseId entry toolSpec
      | .error _ => true

/-- The contracts of a promoted release belong to it beside the release that is current
when it is promoted. -/
def PromotesOwnContracts (event : PublishEvent) (pool : OntologyReleasePool) : Prop :=
  ∀ promoted ∈ event.promoted pool,
    contractsBelong codec promoted.sourceRunId
      ((currentReleases promoted pool.state.releases).getLast?.map OntologyReleaseRecord.id)
      (promoted.evidenceRefs.asArray.getD []) = true

instance (event : PublishEvent) (pool : OntologyReleasePool) :
    Decidable (PromotesOwnContracts codec event pool) :=
  inferInstanceAs (Decidable (∀ promoted ∈ event.promoted pool,
    contractsBelong codec promoted.sourceRunId
      ((currentReleases promoted pool.state.releases).getLast?.map OntologyReleaseRecord.id)
      (promoted.evidenceRefs.asArray.getD []) = true))

end invocable

/-! ### When a release is invocable -/

section resolves

variable {codec : OntologyCodec} {release : OntologyReleaseRecord}

/-- An action whose contract matches is resolved when its contract belongs to the release. -/
theorem ContractMatches.resolves_iff {entries : List Json} {catalog : OntologyReleaseCatalogV1}
    {action : OntologySdkCatalogAction} {entry written : Json}
    {toolSpec : OntologyOnboardingToolSpec}
    (holds : ContractMatches codec entries catalog action action.runtimeName entry written toolSpec)
    (isArray : release.evidenceRefs.asArray = some entries) :
    (∃ found, ontologyActionToolSpecForRelease codec release action.runtimeName =
        .ok (found, action.contractDigest)) ↔
      contractBelongs codec release.sourceRunId release.parentReleaseId entry toolSpec = true := by
  have resolves : ontologyActionToolSpecForRelease codec release action.runtimeName =
      if !contractBelongs codec release.sourceRunId release.parentReleaseId entry toolSpec then
        .error (.forbidden
          "ontology action contract does not belong to the pinned release source run")
      else .ok (toolSpec, action.contractDigest) := by
    unfold ontologyActionToolSpecForRelease
    rw [isArray]
    change (okOr (contractEntry entries action.runtimeName) _ >>= _) = _
    rw [holds.found]
    change (MandoForge.readContract codec entry >>= _) = _
    rw [holds.readContract]
    rfl
  rw [resolves]
  cases contractBelongs codec release.sourceRunId release.parentReleaseId entry toolSpec with
  | true => simp
  | false => simp

/-- A release with an accepted catalog is invocable when all its contracts belong to it. -/
theorem invocable_iff (accepted : ∃ found, releaseCatalogFromEvidence codec release = .ok found) :
    Invocable codec release ↔ contractsBelong codec release.sourceRunId release.parentReleaseId
      (release.evidenceRefs.asArray.getD []) = true := by
  obtain ⟨⟨catalog, digest⟩, accepted⟩ := accepted
  obtain ⟨entries, isArray, -⟩ := releaseCatalogFromEvidence_eq_ok accepted
  unfold Invocable contractsBelong
  rw [isArray, Option.getD_some, List.all_eq_true]
  constructor
  · rintro ⟨same, sameDigest, isSame, resolves⟩ toolName isName
    rw [accepted] at isSame
    cases isSame
    obtain ⟨action, member, rfl⟩ := (mem_contractNames_iff accepted isArray).mp isName
    obtain ⟨entry, written, toolSpec, holds⟩ := contractMatches_of_accepted accepted isArray member
    rw [holds.found, Option.all_some, holds.readContract]
    exact (holds.resolves_iff isArray).mp (resolves action member)
  · intro belong
    refine ⟨catalog, digest, accepted, fun action member => ?_⟩
    obtain ⟨entry, written, toolSpec, holds⟩ := contractMatches_of_accepted accepted isArray member
    have belongs := belong action.runtimeName
      ((mem_contractNames_iff accepted isArray).mpr ⟨action, member, rfl⟩)
    rw [holds.found, Option.all_some, holds.readContract] at belongs
    exact (holds.resolves_iff isArray).mpr belongs

theorem Invocable.congr {new : OntologyReleaseRecord} (invocable : Invocable codec release)
    (content : ReleaseContent release new) (parent : new.parentReleaseId = release.parentReleaseId) :
    Invocable codec new := by
  obtain ⟨catalog, digest, accepted, resolves⟩ := invocable
  refine ⟨catalog, digest, (releaseCatalogFromEvidence_congr content).trans accepted, ?_⟩
  intro action member
  obtain ⟨toolSpec, resolved⟩ := resolves action member
  refine ⟨toolSpec, resolved ▸ ?_⟩
  unfold ontologyActionToolSpecForRelease
  rw [content.evidenceRefs, content.sourceRunId, parent]

end resolves

/-! ### Every run -/

section everyRun

variable {host : Host} {codec : OntologyCodec} {event : PublishEvent} {pool : OntologyReleasePool}

/-- Every release that is current, or was, is invocable. -/
def PublishedInvocable (codec : OntologyCodec) (pool : OntologyReleasePool) : Prop :=
  ∀ release ∈ pool.state.releases, release.status.isPublished = true → Invocable codec release

theorem promotedOver_invocable_iff {promoted : OntologyReleaseRecord} {now : Timestamp}
    {actorSubject : String} {previous : Option Uuid} (judged : GateJudged codec promoted) :
    Invocable codec (promoted.promotedOver now actorSubject previous) ↔
      contractsBelong codec promoted.sourceRunId previous
        (promoted.evidenceRefs.asArray.getD []) = true := by
  have content : ReleaseContent promoted (promoted.promotedOver now actorSubject previous) :=
    ⟨rfl, rfl, rfl, rfl, rfl, rfl⟩
  have accepted : ∃ found, releaseCatalogFromEvidence codec
      (promoted.promotedOver now actorSubject previous) = .ok found := by
    rw [releaseCatalogFromEvidence_congr content]
    exact judged.catalog
  exact invocable_iff accepted

/-- What an event that promotes a release leaves. -/
theorem PublishEvent.releases_of_promoted (host : Host) (codec : OntologyCodec)
    {promoted : OntologyReleaseRecord}
    (isPromoted : event.promoted pool = some promoted) :
    ∃ actorSubject, (event.perform host codec pool).state.releases =
      (pool.state.releases.mapRows promoted.superseded promoted.superseded_id).insert
        (promoted.promotedOver pool.state.clock actorSubject
          ((currentReleases promoted pool.state.releases).getLast?.map
            OntologyReleaseRecord.id)) := by
  obtain ⟨found, promotable, actorSubject, isPromotion⟩ := promoted_eq_some.mp isPromoted
  refine ⟨actorSubject, ?_⟩
  cases event with
  | enter call => cases isPromotion
  | tick clock => cases isPromotion
  | operate index =>
      obtain ⟨⟨told, operation⟩, pending, rfl⟩ := Option.map_eq_some_iff.mp isPromotion
      rw [perform, Pool.state_operate pending]
      change (promoteOntologyReleaseAtomically pool.state.clock promoted.id actorSubject
        pool.state.releases).2 = _
      unfold promoteOntologyReleaseAtomically
      rw [found]
      dsimp only
      rw [promotable]

/-- A promotion after which every current release is invocable promotes one whose contracts
belong to it. -/
theorem PromotesOwnContracts.of_invocable (sound : CatalogsSound codec pool.state.releases)
    (invocable : CurrentInvocable codec (event.perform host codec pool)) :
    PromotesOwnContracts codec event pool := by
  intro promoted isPromoted
  obtain ⟨found, promotable, -⟩ := PublishEvent.promoted_eq_some.mp isPromoted
  obtain ⟨actorSubject, after⟩ := PublishEvent.releases_of_promoted host codec isPromoted
  have judged := sound.judged promoted (Table.find?_eq_some.mp found).1 promotable
  generalize isNew : promoted.promotedOver pool.state.clock actorSubject
    ((currentReleases promoted pool.state.releases).getLast?.map OntologyReleaseRecord.id) =
      current at after
  have isStored : current ∈ (event.perform host codec pool).state.releases := by
    rw [after]
    exact Table.mem_insert_iff.mpr (.inl rfl)
  have isInvocable := invocable current isStored (isNew ▸ rfl)
  rw [← isNew] at isInvocable
  exact (promotedOver_invocable_iff judged).mp isInvocable

/-- An event whose promotion meets the condition keeps the published releases invocable. -/
theorem PromotesOwnContracts.keeps (promotesOwn : PromotesOwnContracts codec event pool)
    (follows : pool.Publishes codec) (invocable : PublishedInvocable codec pool) :
    PublishedInvocable codec (event.perform host codec pool) := by
  have effect := event.effect host codec follows
  intro release member published
  cases effect with
  | kept rows =>
      obtain ⟨old, found, kept⟩ := rows.came release member
      exact (invocable old (Table.find?_eq_some.mp found).1 (kept.published published)).congr
        kept.content kept.parent
  | creates created fresh stored candidate ungated base =>
      rw [stored] at member
      rcases (Table.mem_insert_of_fresh fresh).mp member with isOld | rfl
      · exact invocable release isOld published
      · rw [candidate] at published
        cases published
  | promotes promoted now actorSubject isPromotion found promotable stored =>
      have isPromoted : event.promoted pool = some promoted :=
        PublishEvent.promoted_eq_some.mpr ⟨found, promotable, actorSubject, isPromotion⟩
      rw [stored] at member
      rcases OntologyReleasesSound.mem_promoted.mp member with rfl | ⟨old, isOld, -, rfl⟩
      · have judged := follows.state.judged promoted (Table.find?_eq_some.mp found).1 promotable
        exact (promotedOver_invocable_iff judged).mpr (promotesOwn promoted isPromoted)
      · have kept : RowKept codec old (promoted.superseded old) :=
          OntologyReleaseRecord.superseded_kept
        exact (invocable old isOld (kept.published published)).congr kept.content kept.parent

theorem promotesOwn_of_currentInvocable {events : List PublishEvent} {clock : Timestamp}
    (invocable : HeldAlong (PublishEvent.perform host codec) (CurrentInvocable codec) events
      (noOntologyReleases clock)) :
    MetAlong (PublishEvent.perform host codec) (PromotesOwnContracts codec) events
      (noOntologyReleases clock) := by
  intro front event isPrefix
  have follows := runEvents_publishes host codec front (noOntologyReleases_publishes codec clock)
  have after := invocable (front ++ [event]) isPrefix
  rw [runEvents_append] at after
  exact PromotesOwnContracts.of_invocable follows.state after

end everyRun

/-- However the calls interleave, every action of every current release can be invoked in
every state exactly when the contracts of each promoted release belong to it beside the
release that it replaces. -/
theorem published_actions_invocable_iff (host : Host) (codec : OntologyCodec)
    (events : List PublishEvent) (clock : Timestamp) :
    HeldAlong (PublishEvent.perform host codec) (CurrentInvocable codec) events
        (noOntologyReleases clock) ↔
      MetAlong (PublishEvent.perform host codec) (PromotesOwnContracts codec) events
        (noOntologyReleases clock) := by
  refine ⟨promotesOwn_of_currentInvocable, fun promotesOwn => ?_⟩
  have start : (noOntologyReleases clock).Publishes codec ∧
      PublishedInvocable codec (noOntologyReleases clock) :=
    ⟨noOntologyReleases_publishes codec clock,
      fun release isStored => absurd isStored List.not_mem_nil⟩
  have keeps : ∀ (event : PublishEvent) (pool : OntologyReleasePool),
      PromotesOwnContracts codec event pool →
      pool.Publishes codec ∧ PublishedInvocable codec pool →
      (event.perform host codec pool).Publishes codec ∧
        PublishedInvocable codec (event.perform host codec pool) :=
    fun event pool own kept => ⟨event.publishes host codec kept.1, own.keeps kept.1 kept.2⟩
  refine (heldAlong_of_step keeps start promotesOwn).mono fun pool kept release member current => ?_
  exact kept.2 release member (OntologyReleaseStatus.isPublished_of_isCurrent current)

open StaleCandidate in
/-- The third release inherited the action of the first, and is promoted over the second:
its action is published and cannot be invoked. -/
theorem orphaned_contract :
    ¬HeldAlong (PublishEvent.perform host codec) (CurrentInvocable codec) (inTurn (first ++ both))
      (noOntologyReleases 0) := by
  intro invocable
  have promotesOwn := promotesOwn_of_currentInvocable invocable
  revert promotesOwn
  decide +kernel

end MandoForge
