/-
Module: MandoForge.Foundation.Threshold
Purpose: What can be derived from seeds by threshold rules: a node follows when
  enough of its premises do.  The derivable nodes are the least set that has the
  seeds and is closed under the rules.
Trusted boundary: none
Main exports: Threshold, Derivable.of_count
-/
import Mathlib.Data.List.Count
import Mathlib.Data.List.Sublists

namespace MandoForge.Foundation

universe u

/-- The premises of a rule, and how many of them suffice; a rule without premises
never applies. -/
structure Threshold (Node : Type u) where
  premises : List Node
  required : Nat

inductive Derivable {Node : Type u} (seed : Node → Prop) (rule : Node → Threshold Node → Prop) :
    Node → Prop
  | seed {node : Node} (isSeed : seed node) : Derivable seed rule node
  | join {node : Node} {threshold : Threshold Node} (isRule : rule node threshold)
      (somePremise : threshold.premises ≠ []) (chosen : List Node)
      (among : chosen.Sublist threshold.premises) (enough : threshold.required ≤ chosen.length)
      (derived : ∀ premise ∈ chosen, Derivable seed rule premise) : Derivable seed rule node

namespace Derivable

variable {Node : Type u} {seed : Node → Prop} {rule : Node → Threshold Node → Prop}

theorem of_count {node : Node} {threshold : Threshold Node} (isRule : rule node threshold)
    (somePremise : threshold.premises ≠ []) (good : Node → Bool)
    (enough : threshold.required ≤ threshold.premises.countP good)
    (derived : ∀ premise ∈ threshold.premises, good premise = true →
      Derivable seed rule premise) : Derivable seed rule node := by
  apply Derivable.join isRule somePremise (threshold.premises.filter good) List.filter_sublist
  · rw [← List.countP_eq_length_filter]
    exact enough
  · intro premise chosen
    obtain ⟨isPremise, isGood⟩ := List.mem_filter.mp chosen
    exact derived premise isPremise isGood

theorem least (good : Node → Bool) (seeds : ∀ node, seed node → good node = true)
    (closed : ∀ node threshold, rule node threshold → threshold.premises ≠ [] →
      threshold.required ≤ threshold.premises.countP good → good node = true)
    {node : Node} (derivable : Derivable seed rule node) : good node = true := by
  induction derivable with
  | seed isSeed => exact seeds _ isSeed
  | join isRule somePremise chosen among enough _ inductionHypothesis =>
      apply closed _ _ isRule somePremise
      have allGood : chosen.countP good = chosen.length :=
        List.countP_eq_length.mpr inductionHypothesis
      calc _ ≤ chosen.length := enough
        _ = chosen.countP good := allGood.symm
        _ ≤ _ := among.countP_le

end Derivable

end MandoForge.Foundation
