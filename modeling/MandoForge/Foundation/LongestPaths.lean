/-
Module: MandoForge.Foundation.LongestPaths
Purpose: The longest path that leads to a node of a directed graph.  A node that no
  path of one more edge leads to has its depth; an edge goes to a greater depth; and in
  a finite graph without a cycle every node has one.
Trusted boundary: none
Main exports: PathTo, Acyclic
-/
import Mathlib.Logic.Relation
import Mathlib.Order.WellFoundedSet

namespace MandoForge.Foundation

universe u

variable {Node : Type u} {Edge : Node → Node → Prop}

/-- A path of the given number of edges leads to the node. -/
inductive PathTo (Edge : Node → Node → Prop) : Nat → Node → Prop
  | start (node : Node) : PathTo Edge 0 node
  | follow {steps : Nat} {origin node : Node} (path : PathTo Edge steps origin)
      (edge : Edge origin node) : PathTo Edge (steps + 1) node

/-- The longest path that leads to the node has that many edges. -/
structure LongestPathTo (Edge : Node → Node → Prop) (depth : Nat) (node : Node) : Prop where
  path : PathTo Edge depth node
  longest : ∀ steps, PathTo Edge steps node → steps ≤ depth

/-- No node leads back to itself. -/
def Acyclic (Edge : Node → Node → Prop) : Prop :=
  ∀ node, ¬ Relation.TransGen Edge node node

theorem pathTo_succ_iff {steps : Nat} {node : Node} :
    PathTo Edge (steps + 1) node ↔ ∃ origin, PathTo Edge steps origin ∧ Edge origin node := by
  constructor
  · rintro (_ | ⟨path, edge⟩)
    exact ⟨_, path, edge⟩
  · rintro ⟨origin, path, edge⟩
    exact .follow path edge

namespace PathTo

theorem pred {steps : Nat} {node : Node} (path : PathTo Edge (steps + 1) node) :
    PathTo Edge steps node := by
  induction steps generalizing node with
  | zero => exact .start node
  | succ steps inductionHypothesis =>
      obtain ⟨origin, before, edge⟩ := pathTo_succ_iff.mp path
      exact .follow (inductionHypothesis before) edge

theorem shorten {steps fewer : Nat} {node : Node} (path : PathTo Edge steps node)
    (fewerSteps : fewer ≤ steps) : PathTo Edge fewer node := by
  induction fewerSteps with
  | refl => exact path
  | step _ inductionHypothesis => exact inductionHypothesis path.pred

end PathTo

/-! ### Depth -/

theorem longestPathTo_iff {depth : Nat} {node : Node} :
    LongestPathTo Edge depth node ↔
      PathTo Edge depth node ∧ ¬ PathTo Edge (depth + 1) node := by
  constructor
  · intro longest
    exact ⟨longest.path, fun further => Nat.not_succ_le_self depth (longest.longest _ further)⟩
  · rintro ⟨path, noFurther⟩
    refine ⟨path, fun steps longer => Nat.not_lt.mp fun further => ?_⟩
    exact noFurther (longer.shorten further)

namespace LongestPathTo

theorem unique {first second : Nat} {node : Node} (isFirst : LongestPathTo Edge first node)
    (isSecond : LongestPathTo Edge second node) : first = second :=
  Nat.le_antisymm (isSecond.longest first isFirst.path) (isFirst.longest second isSecond.path)

theorem lt_of_edge {first second : Nat} {origin node : Node} (edge : Edge origin node)
    (isFirst : LongestPathTo Edge first origin) (isSecond : LongestPathTo Edge second node) :
    first < second :=
  isSecond.longest (first + 1) (.follow isFirst.path edge)

theorem exists_pred {depth : Nat} {node : Node} (longest : LongestPathTo Edge (depth + 1) node) :
    ∃ origin, Edge origin node ∧ LongestPathTo Edge depth origin := by
  obtain ⟨origin, path, edge⟩ := pathTo_succ_iff.mp longest.path
  refine ⟨origin, edge, path, fun steps longer => ?_⟩
  exact Nat.le_of_succ_le_succ (longest.longest _ (.follow longer edge))

end LongestPathTo

theorem longestPathTo_succ_iff {depth : Nat} {node : Node} :
    LongestPathTo Edge (depth + 1) node ↔
      (∃ origin, Edge origin node ∧ LongestPathTo Edge depth origin) ∧
        ∀ origin, Edge origin node → ¬ PathTo Edge (depth + 1) origin := by
  constructor
  · intro longest
    refine ⟨longest.exists_pred, fun origin edge path => ?_⟩
    exact (longestPathTo_iff.mp longest).2 (.follow path edge)
  · rintro ⟨⟨origin, edge, before⟩, seen⟩
    refine longestPathTo_iff.mpr ⟨.follow before.path edge, fun further => ?_⟩
    obtain ⟨last, path, lastEdge⟩ := pathTo_succ_iff.mp further
    exact seen last lastEdge path

/-! ### Cycles -/

theorem PathTo.of_transGen {origin node : Node} (leads : Relation.TransGen Edge origin node)
    {steps : Nat} (path : PathTo Edge steps origin) : PathTo Edge (steps + 1) node := by
  induction leads with
  | single edge => exact .follow path edge
  | tail _ edge inductionHypothesis => exact (PathTo.follow inductionHypothesis edge).pred

theorem pathTo_of_cycle {node : Node} (cycle : Relation.TransGen Edge node node) (steps : Nat) :
    PathTo Edge steps node := by
  induction steps with
  | zero => exact .start node
  | succ steps inductionHypothesis => exact inductionHypothesis.of_transGen cycle

theorem acyclic_of_bounded {nodes : Set Node} {depth : Nat}
    (closed : ∀ origin node, Edge origin node → origin ∈ nodes)
    (bounded : ∀ node ∈ nodes, ¬ PathTo Edge depth node) : Acyclic Edge := by
  intro node cycle
  obtain ⟨_, edge, -⟩ := Relation.TransGen.head'_iff.mp cycle
  exact bounded node (closed node _ edge) (pathTo_of_cycle cycle depth)

theorem Acyclic.not_pathTo (acyclic : Acyclic Edge) {nodes : Set Node} (finite : nodes.Finite)
    (closed : ∀ origin node, Edge origin node → origin ∈ nodes) {depth : Nat}
    (stuck : ∀ node ∈ nodes, PathTo Edge depth node → PathTo Edge (depth + 1) node) :
    ∀ node ∈ nodes, ¬ PathTo Edge depth node := by
  have irreflexive : Std.Irrefl (Relation.TransGen Edge) := ⟨acyclic⟩
  have order : IsStrictOrder Node (Relation.TransGen Edge) := {}
  have wellFounded : nodes.WellFoundedOn (Relation.TransGen Edge) := finite.wellFoundedOn
  intro node member
  apply wellFounded.induction member
  intro node member inductionHypothesis path
  obtain ⟨origin, before, edge⟩ := pathTo_succ_iff.mp (stuck node member path)
  exact inductionHypothesis origin (closed origin node edge) (.single edge) before

end MandoForge.Foundation
