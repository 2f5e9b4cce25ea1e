/-
Module: MandoForge.Foundation.Trails
Purpose: Following a link from node to node until it ends.  A trail that ends meets no
  node twice, and is the same under links that agree along it.
Trusted boundary: none
Main exports: Trail, Trail.nodup
-/
import Mathlib.Data.List.Nodup

namespace MandoForge.Foundation

variable {Node : Type*}

/-- The links lead from the node through the trail, and end there. -/
def Trail (next : Node → Option Node) : Node → List Node → Prop
  | node, [] => next node = none
  | node, target :: rest => next node = some target ∧ Trail next target rest

namespace Trail

variable {next other : Node → Option Node} {node : Node} {trail : List Node}

theorem unique {second : List Node} (one : Trail next node trail)
    (two : Trail next node second) : trail = second := by
  induction trail generalizing node second with
  | nil =>
      cases second with
      | nil => rfl
      | cons target rest => cases one.symm.trans two.1
  | cons target trail inductionHypothesis =>
      cases second with
      | nil => cases two.symm.trans one.1
      | cons target' rest =>
          obtain rfl := Option.some.inj (one.1.symm.trans two.1)
          rw [inductionHypothesis one.2 two.2]

theorem from_mem {target : Node} (along : Trail next node trail) (member : target ∈ trail) :
    ∃ front rest, trail = front ++ target :: rest ∧ Trail next target rest := by
  induction trail generalizing node with
  | nil => cases member
  | cons first trail inductionHypothesis =>
      rcases List.mem_cons.mp member with rfl | inRest
      · exact ⟨[], trail, rfl, along.2⟩
      · obtain ⟨front, rest, rfl, after⟩ := inductionHypothesis along.2 inRest
        exact ⟨first :: front, rest, rfl, after⟩

theorem notMem_self (along : Trail next node trail) : node ∉ trail := by
  intro member
  obtain ⟨front, rest, same, after⟩ := along.from_mem member
  have lengths := congrArg List.length (same.symm.trans (along.unique after))
  simp only [List.length_append, List.length_cons] at lengths
  omega

theorem nodup (along : Trail next node trail) : (node :: trail).Nodup := by
  induction trail generalizing node with
  | nil => exact List.nodup_singleton node
  | cons target trail inductionHypothesis =>
      exact List.nodup_cons.mpr ⟨along.notMem_self, inductionHypothesis along.2⟩

theorem congr (along : Trail next node trail)
    (agree : ∀ visited ∈ node :: trail, other visited = next visited) :
    Trail other node trail := by
  induction trail generalizing node with
  | nil => exact (agree node (List.mem_cons_self ..)).trans along
  | cons target trail inductionHypothesis =>
      refine ⟨(agree node (List.mem_cons_self ..)).trans along.1, ?_⟩
      exact inductionHypothesis along.2 fun visited member =>
        agree visited (List.mem_cons_of_mem node member)

end Trail

end MandoForge.Foundation
