/-
Module: MandoForge.Ontology.PublishedNames
Purpose: A promotion keeps the names that the replaced release published when the
  promoted release was built on that release.  A candidate that was built on an earlier
  one passes its gate all the same, and its promotion takes names away.
Trusted boundary: beside the calls only the clock moves.
Main exports: PublishEvent.promoted, stale_candidate_drops_names
-/
import MandoForge.Ontology.PublishedRuns

namespace MandoForge

open Foundation

/-! ### What is claimed -/

/-- The release that the event promotes, as it was stored before. -/
def PublishEvent.promoted (event : PublishEvent) (pool : OntologyReleasePool) :
    Option OntologyReleaseRecord :=
  match event.operation pool with
  | some (.promote releaseId _) =>
      (pool.state.releases.find? releaseId).filter fun release =>
        (validateOntologyReleasePromotable release).isOk
  | _ => none

/-- Every release that a promotion replaces is extended by the promoted one. -/
def ReplacesExtended (codec : OntologyCodec) (event : PublishEvent)
    (pool : OntologyReleasePool) : Prop :=
  ∀ promoted ∈ event.promoted pool, ∀ replaced ∈ currentReleases promoted pool.state.releases,
    ReleaseExtends codec replaced promoted

instance (codec : OntologyCodec) (event : PublishEvent) (pool : OntologyReleasePool) :
    Decidable (ReplacesExtended codec event pool) :=
  inferInstanceAs (Decidable (∀ promoted ∈ event.promoted pool,
    ∀ replaced ∈ currentReleases promoted pool.state.releases,
      ReleaseExtends codec replaced promoted))

/-- Every release that a promotion replaces is the one that the promoted release was
built on. -/
def BuiltOnReplaced (event : PublishEvent) (pool : OntologyReleasePool) : Prop :=
  ∀ promoted ∈ event.promoted pool, ∀ replaced ∈ currentReleases promoted pool.state.releases,
    promoted.parentReleaseId = some replaced.id

instance (event : PublishEvent) (pool : OntologyReleasePool) :
    Decidable (BuiltOnReplaced event pool) :=
  inferInstanceAs (Decidable (∀ promoted ∈ event.promoted pool,
    ∀ replaced ∈ currentReleases promoted pool.state.releases,
      promoted.parentReleaseId = some replaced.id))

/-! ### Every run -/

theorem PublishEvent.promoted_eq_some {event : PublishEvent} {pool : OntologyReleasePool}
    {promoted : OntologyReleaseRecord} :
    event.promoted pool = some promoted ↔
      pool.state.releases.find? promoted.id = some promoted ∧
        validateOntologyReleasePromotable promoted = .ok () ∧
        ∃ actorSubject, event.operation pool = some (.promote promoted.id actorSubject) := by
  unfold PublishEvent.promoted
  constructor
  · intro isPromoted
    split at isPromoted
    · rename_i releaseId actorSubject isPromotion
      obtain ⟨found, promotable⟩ := Option.filter_eq_some_iff.mp isPromoted
      obtain rfl := (Table.find?_eq_some.mp found).2
      refine ⟨found, ?_, actorSubject, isPromotion⟩
      cases isOk : validateOntologyReleasePromotable promoted with
      | ok accepted => rfl
      | error error =>
          rw [isOk] at promotable
          cases promotable
    · cases isPromoted
  · rintro ⟨found, promotable, actorSubject, isPromotion⟩
    rw [isPromotion]
    dsimp only
    rw [found, Option.filter_some, promotable]
    rfl

section everyRun

variable {codec : OntologyCodec} {event : PublishEvent} {pool : OntologyReleasePool}

theorem BuiltOnReplaced.extends (onReplaced : BuiltOnReplaced event pool)
    (sound : CatalogsSound codec pool.state.releases) : ReplacesExtended codec event pool := by
  intro promoted isPromoted replaced isReplaced
  obtain ⟨found, promotable, -⟩ := PublishEvent.promoted_eq_some.mp isPromoted
  have candidate := validateOntologyReleasePromotable_eq_ok promotable
  have isOpen : promoted.status.isOpen = true := by rw [candidate]; rfl
  obtain ⟨parent, isParent, extended⟩ := sound.bases promoted (Table.find?_eq_some.mp found).1
    isOpen replaced.id (onReplaced promoted isPromoted replaced isReplaced)
  have isStored := (OntologyReleasesSound.mem_currentReleases.mp isReplaced).1
  obtain rfl := Option.some.inj (isParent.symm.trans (Table.find?_key isStored))
  exact extended

end everyRun

/-- However the calls interleave, no promotion takes a published name away or gives it to
something else, as long as every promoted release was built on the one that it replaces. -/
theorem promotions_extend_published_names (host : Host) (codec : OntologyCodec)
    (events : List PublishEvent) (clock : Timestamp)
    (onReplaced : MetAlong (PublishEvent.perform host codec) BuiltOnReplaced events
      (noOntologyReleases clock)) :
    MetAlong (PublishEvent.perform host codec) (ReplacesExtended codec) events
      (noOntologyReleases clock) := by
  intro front event isPrefix
  have follows := runEvents_publishes host codec front (noOntologyReleases_publishes codec clock)
  exact (onReplaced front event isPrefix).extends follows.state

/-! ### Two candidates on one release -/

namespace StaleCandidate

def readDigits (text : String) : Nat :=
  text.toList.foldl (fun number digit => 10 * number + (digit.toNat - '0'.toNat)) 0

def host : Host where
  parseUuid text := some (readDigits text)
  parseRfc3339 := fun _ => none
  printUuid := Nat.repr
  printTimestamp := fun time => toString time

def codec : OntologyCodec where
  parseUuid text := some (readDigits text)
  formats := ⟨fun _ => true, fun _ => true, fun _ => true⟩
  jsonSha256 := fun _ => "digest"
  textSha256 := fun _ => "digest"
  printString := id
  printNumber := fun _ => "0"

def proposal (id runId : Uuid) (proposalType name : String) (content : List (String × Json)) :
    OntologyOnboardingProposalDraft where
  id
  runId
  proposalType
  name
  sourceMapping := "orders"
  evidence := .object []
  reviewStatus := "approved"
  content := .ofFields content

def object (id runId : Uuid) (name : String) : OntologyOnboardingProposalDraft :=
  proposal id runId "object" name [("api_name", .string name)]

def cancel : OntologyOnboardingProposalDraft :=
  proposal 12 1 "action" "cancel"
    [("api_name", .string "cancel"), ("target_object", .string "Order")]

def create (releaseId runId : Uuid) (version : String)
    (proposals : List OntologyOnboardingProposalDraft) : PublishCall :=
  .create releaseId { runId, proposals, version, materializedLinkIds := [100] }

def gate (releaseId : Uuid) : PublishCall :=
  .gate releaseId (fun _ => .error (.notFound "semantic object not found")) "reviewer"

def promote (releaseId : Uuid) : PublishCall := .promote releaseId "reviewer"

/-- The first release has an order and an action on it. -/
def first : List PublishCall :=
  [create 1 1 "v1" [object 11 1 "Order", cancel], gate 1, promote 1]

/-- The second one is built on the first, and adds an invoice. -/
def second : List PublishCall := [create 2 2 "v2" [object 21 2 "Invoice"], gate 2, promote 2]

/-- A third one is built on the first as well, and promoted over the second. -/
def both : List PublishCall := [
  create 2 2 "v2" [object 21 2 "Invoice"], gate 2,
  create 3 3 "v3" [object 31 3 "Refund"], gate 3,
  promote 2, promote 3]

/-- One call after the other; no call has more than four operations. -/
def inTurn (calls : List PublishCall) : List PublishEvent :=
  calls.zipIdx.flatMap fun entered => .enter entered.1 :: List.replicate 4 (.operate entered.2)

end StaleCandidate

open StaleCandidate in
/-- A release that was built on the current one takes no name away. -/
theorem second_release_extends :
    MetAlong (PublishEvent.perform host codec) (ReplacesExtended codec) (inTurn (first ++ second))
      (noOntologyReleases 0) :=
  promotions_extend_published_names host codec (inTurn (first ++ second)) 0 (by decide +kernel)

open StaleCandidate in
/-- The third release passes its gate, and the object that the second one added is gone. -/
theorem stale_candidate_drops_names :
    ¬MetAlong (PublishEvent.perform host codec) (ReplacesExtended codec) (inTurn (first ++ both))
      (noOntologyReleases 0) := by
  decide +kernel

end MandoForge
