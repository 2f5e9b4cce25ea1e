/-
Module: MandoForge.Foundation.Fencing
Purpose: Fencing by generations: a claim is handed out under a generation that is
  newer than the last one, so a generation names one holder, and what is done
  under an older generation can be told from what the holder does.
Trusted boundary: none
Main exports: Claim, ClaimStep
-/
import Mathlib.Order.Defs.LinearOrder
import Mathlib.Data.List.Nodup
import Mathlib.Order.Lattice

namespace MandoForge.Foundation

variable {Generation Holder : Type}

/-- The generation that was handed out last, and who holds the claim now. -/
structure Claim (Generation Holder : Type) where
  generation : Generation
  holder : Option Holder

/-- A generation handed to a holder. -/
structure Grant (Generation Holder : Type) where
  generation : Generation
  holder : Holder
deriving DecidableEq, Repr

variable [LinearOrder Generation]

/-- What can happen to a claim, and what is handed out by it. -/
inductive ClaimStep (before : Claim Generation Holder) :
    Option (Grant Generation Holder) → Claim Generation Holder → Prop where
  | kept : ClaimStep before none before
  | released : ClaimStep before none ⟨before.generation, none⟩
  | granted (grant : Grant Generation Holder) (newer : before.generation < grant.generation) :
      ClaimStep before (some grant) ⟨grant.generation, some grant.holder⟩

/-- A claim that is told from all that were handed out before it; the grants are
newest first. -/
structure Fenced (grants : List (Grant Generation Holder)) (claim : Claim Generation Holder) :
    Prop where
  descending : grants.Pairwise fun late early => early.generation < late.generation
  latest : ∀ grant ∈ grants, grant.generation ≤ claim.generation
  current : ∀ holder, claim.holder = some holder → ⟨claim.generation, holder⟩ ∈ grants

/-- The later claim is a newer one, or the earlier one, which may have been given up. -/
def Claim.Precedes (earlier later : Claim Generation Holder) : Prop :=
  earlier.generation < later.generation ∨
    earlier.generation = later.generation ∧
      (later.holder = earlier.holder ∨ later.holder = none)

theorem Claim.Precedes.generation_le {earlier later : Claim Generation Holder}
    (precedes : earlier.Precedes later) : earlier.generation ≤ later.generation :=
  precedes.elim le_of_lt fun same => le_of_eq same.1

theorem ClaimStep.precedes {earlier before after : Claim Generation Holder}
    {grant : Option (Grant Generation Holder)} (stepped : ClaimStep before grant after)
    (precedes : earlier.Precedes before) : earlier.Precedes after := by
  cases stepped with
  | kept => exact precedes
  | released => exact precedes.imp_right fun same => ⟨same.1, .inr rfl⟩
  | granted grant newer => exact .inl (lt_of_le_of_lt precedes.generation_le newer)

namespace Fenced

variable {grants : List (Grant Generation Holder)} {claim next : Claim Generation Holder}

theorem start (generation : Generation) :
    Fenced [] (⟨generation, none⟩ : Claim Generation Holder) where
  descending := List.Pairwise.nil
  latest := fun _ member => absurd member List.not_mem_nil
  current := fun _ held => nomatch held

theorem step {grant : Option (Grant Generation Holder)} (fenced : Fenced grants claim)
    (stepped : ClaimStep claim grant next) : Fenced (grant.toList ++ grants) next := by
  cases stepped with
  | kept => exact fenced
  | released => exact ⟨fenced.descending, fenced.latest, fun _ held => nomatch held⟩
  | granted grant newer =>
      refine ⟨?_, ?_, ?_⟩
      · exact List.pairwise_cons.mpr
          ⟨fun old member => lt_of_le_of_lt (fenced.latest old member) newer, fenced.descending⟩
      · intro other member
        rcases List.mem_cons.mp member with rfl | old
        · exact le_refl _
        · exact le_of_lt (lt_of_le_of_lt (fenced.latest other old) newer)
      · intro holder held
        cases held
        exact List.mem_cons_self ..

theorem one_holder (fenced : Fenced grants claim) {first second : Grant Generation Holder}
    (firstGranted : first ∈ grants) (secondGranted : second ∈ grants)
    (same : first.generation = second.generation) : first = second := by
  have distinct : (grants.map Grant.generation).Nodup :=
    List.pairwise_map.mpr (fenced.descending.imp fun older => ne_of_gt older)
  exact List.inj_on_of_nodup_map distinct firstGranted secondGranted same

theorem superseded (fenced : Fenced grants claim) {newer : Grant Generation Holder}
    (granted : newer ∈ grants) {generation : Generation}
    (older : generation < newer.generation) : claim.generation ≠ generation :=
  ne_of_gt (lt_of_lt_of_le older (fenced.latest newer granted))

end Fenced

end MandoForge.Foundation
