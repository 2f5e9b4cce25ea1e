/-
Module: MandoForge.Foundation.BudgetForest
Purpose: Consumption counters on a finite forest.  A counter that covers the
  counters of its children bounds the consumption of everything below it, and
  charging one unit along a chain of parents keeps every counter above its
  children, exactly when the chain ends at a root or at a parent with room.
Trusted boundary: none
Main exports: Forest, Forest.sum_own_le
-/
import Mathlib.Algebra.BigOperators.Group.Finset.Sigma
import Mathlib.Algebra.Order.BigOperators.Group.Finset
import Mathlib.Data.Int.Interval
import Mathlib.Logic.Relation
import Mathlib.Data.List.Chain

namespace MandoForge.Foundation

/-- Finitely many nodes with parent links that stay inside and descend in
rank. -/
structure Forest (Node : Type) where
  members : Finset Node
  parent : Node → Option Node
  rank : Node → Nat
  parent_mem : ∀ node ∈ members, ∀ above, parent node = some above → above ∈ members
  rank_lt : ∀ node ∈ members, ∀ above, parent node = some above → rank above < rank node

namespace Forest

variable {Node : Type} (F : Forest Node)

/-- One step up: from a member to its parent. -/
def Up (node above : Node) : Prop :=
  node ∈ F.members ∧ F.parent node = some above

/-- `ancestor` is `node` or lies above it. -/
def AtOrAbove (ancestor node : Node) : Prop :=
  Relation.ReflTransGen F.Up node ancestor

variable {F}

theorem Up.rightUnique : Relator.RightUnique F.Up := fun _ _ _ first second =>
  Option.some.inj (first.2.symm.trans second.2)

theorem Up.rank_lt {node above : Node} (up : F.Up node above) : F.rank above < F.rank node :=
  F.rank_lt node up.1 above up.2

theorem AtOrAbove.rank_le {ancestor node : Node} (above : F.AtOrAbove ancestor node) :
    F.rank ancestor ≤ F.rank node := by
  induction above with
  | refl => exact le_rfl
  | tail _ up inductionHypothesis => exact up.rank_lt.le.trans inductionHypothesis

theorem AtOrAbove.total {a b node : Node} (aAbove : F.AtOrAbove a node)
    (bAbove : F.AtOrAbove b node) : F.AtOrAbove b a ∨ F.AtOrAbove a b :=
  Relation.ReflTransGen.total_of_right_unique Up.rightUnique aAbove bAbove

theorem AtOrAbove.of_child {ancestor child above : Node} (up : F.Up child above)
    (isAbove : F.AtOrAbove ancestor child) : ancestor = child ∨ F.AtOrAbove ancestor above := by
  rcases isAbove.cases_head with same | ⟨next, first, rest⟩
  · exact .inl same.symm
  · exact .inr (Up.rightUnique up first ▸ rest)

theorem not_atOrAbove_of_siblings {a b above : Node} (aUp : F.Up a above) (bUp : F.Up b above)
    (different : a ≠ b) : ¬F.AtOrAbove a b := by
  intro isAbove
  rcases isAbove.of_child bUp with same | climbs
  · exact different same
  · exact absurd climbs.rank_le (not_le.mpr aUp.rank_lt)

variable (F)

open Classical in
noncomputable def children (node : Node) : Finset Node :=
  F.members.filter fun child => F.parent child = some node

open Classical in
/-- A node with everything below it. -/
noncomputable def subtree (node : Node) : Finset Node :=
  F.members.filter fun below => F.AtOrAbove node below

variable {F}

@[simp] theorem mem_children {node child : Node} :
    child ∈ F.children node ↔ F.Up child node := by
  simp [children, Up]

@[simp] theorem mem_subtree {node below : Node} :
    below ∈ F.subtree node ↔ below ∈ F.members ∧ F.AtOrAbove node below := by
  simp [subtree]

theorem subtree_eq [DecidableEq Node] {node : Node} (member : node ∈ F.members) :
    F.subtree node = insert node ((F.children node).biUnion F.subtree) := by
  ext below
  simp only [mem_subtree, Finset.mem_insert, Finset.mem_biUnion, mem_children]
  constructor
  · rintro ⟨belowMember, isAbove⟩
    rcases isAbove.cases_tail with same | ⟨child, climbs, up⟩
    · exact .inl same.symm
    · exact .inr ⟨child, up, belowMember, climbs⟩
  · rintro (rfl | ⟨child, up, belowMember, climbs⟩)
    · exact ⟨member, .refl⟩
    · exact ⟨belowMember, climbs.tail up⟩

theorem not_mem_subtree_of_child {node child : Node} (up : F.Up child node) :
    node ∉ F.subtree child := by
  intro member
  exact absurd (mem_subtree.mp member).2.rank_le (not_le.mpr up.rank_lt)

theorem disjoint_subtree {a b : Node} (aNotAbove : ¬F.AtOrAbove a b)
    (bNotAbove : ¬F.AtOrAbove b a) : Disjoint (F.subtree a) (F.subtree b) := by
  rw [Finset.disjoint_left]
  intro node inA inB
  rcases (mem_subtree.mp inA).2.total (mem_subtree.mp inB).2 with climbs | climbs
  · exact bNotAbove climbs
  · exact aNotAbove climbs

theorem pairwiseDisjoint_subtree_children (node : Node) :
    (F.children node : Set Node).PairwiseDisjoint F.subtree := by
  intro a aMember b bMember different
  have aUp : F.Up a node := mem_children.mp aMember
  have bUp : F.Up b node := mem_children.mp bMember
  exact disjoint_subtree (not_atOrAbove_of_siblings aUp bUp different)
    (not_atOrAbove_of_siblings bUp aUp different.symm)

/-! ### Own consumption -/

variable (F)

/-- The counters of the children of a node, together. -/
noncomputable def childrenUsed (used : Node → Int) (node : Node) : Int :=
  ∑ child ∈ F.children node, used child

/-- What a node consumed itself: its counter less what its children passed on. -/
noncomputable def own (used : Node → Int) (node : Node) : Int :=
  used node - F.childrenUsed used node

/-- Every counter covers the counters of the children. -/
def CoversChildren (used : Node → Int) : Prop :=
  ∀ node ∈ F.members, F.childrenUsed used node ≤ used node

variable {F}

/-- A counter is the consumption of its subtree. -/
theorem used_eq_sum_own (used : Node → Int) {node : Node} (member : node ∈ F.members) :
    used node = ∑ below ∈ F.subtree node, F.own used below := by
  classical
  induction size : (F.subtree node).card using Nat.strong_induction_on generalizing node with
  | _ size inductionHypothesis =>
      have notBelow : node ∉ (F.children node).biUnion F.subtree := by
        simp only [Finset.mem_biUnion, mem_children, not_exists, not_and]
        exact fun child up => not_mem_subtree_of_child up
      have each : ∀ child ∈ F.children node,
          used child = ∑ below ∈ F.subtree child, F.own used below := by
        intro child isChild
        have up := mem_children.mp isChild
        refine inductionHypothesis _ ?_ up.1 rfl
        rw [← size]
        refine Finset.card_lt_card (Finset.ssubset_iff.mpr
          ⟨node, not_mem_subtree_of_child up, ?_⟩)
        rw [subtree_eq member]
        exact Finset.insert_subset_insert _ (Finset.subset_biUnion_of_mem _ isChild)
      rw [subtree_eq member, Finset.sum_insert notBelow,
        Finset.sum_biUnion (pairwiseDisjoint_subtree_children node),
        ← Finset.sum_congr rfl each, own, childrenUsed, sub_add_cancel]

section CoversChildren

variable {used : Node → Int} (covers : F.CoversChildren used)

include covers

theorem own_nonneg {node : Node} (member : node ∈ F.members) : 0 ≤ F.own used node :=
  sub_nonneg.mpr (covers node member)

theorem sum_own_le {ancestor : Node} (member : ancestor ∈ F.members) {nodes : Finset Node}
    (below : nodes ⊆ F.subtree ancestor) :
    ∑ node ∈ nodes, F.own used node ≤ used ancestor := by
  rw [used_eq_sum_own used member]
  exact Finset.sum_le_sum_of_subset_of_nonneg below fun node inside _ =>
    own_nonneg covers (mem_subtree.mp inside).1

/-- The counters of pairwise unrelated nodes below an ancestor sum up to at most
the ancestor's counter. -/
theorem sum_le_of_unrelated {ancestor : Node} (member : ancestor ∈ F.members)
    {nodes : Finset Node} (below : nodes ⊆ F.subtree ancestor)
    (unrelated : ∀ a ∈ nodes, ∀ b ∈ nodes, a ≠ b → ¬F.AtOrAbove a b) :
    ∑ node ∈ nodes, used node ≤ used ancestor := by
  classical
  have disjoint : (nodes : Set Node).PairwiseDisjoint F.subtree :=
    fun a aMember b bMember different =>
      disjoint_subtree (unrelated a aMember b bMember different)
        (unrelated b bMember a aMember different.symm)
  have inside : nodes.biUnion F.subtree ⊆ F.subtree ancestor := by
    intro node isBelow
    obtain ⟨middle, isNode, member, climbs⟩ : ∃ middle ∈ nodes,
        node ∈ F.members ∧ F.AtOrAbove middle node := by simpa using isBelow
    exact mem_subtree.mpr ⟨member, climbs.trans (mem_subtree.mp (below isNode)).2⟩
  calc ∑ node ∈ nodes, used node
      = ∑ node ∈ nodes, ∑ lower ∈ F.subtree node, F.own used lower :=
        Finset.sum_congr rfl fun node isNode =>
          used_eq_sum_own used (mem_subtree.mp (below isNode)).1
    _ = ∑ lower ∈ nodes.biUnion F.subtree, F.own used lower :=
        (Finset.sum_biUnion disjoint).symm
    _ ≤ used ancestor := sum_own_le covers member inside

end CoversChildren

/-! ### Charging a chain of parents -/

variable (F)

/-- A chain of members, each the child of the next, whose last one has the
parent `top`. -/
structure Ascends (charged : List Node) (top : Option Node) : Prop where
  members : ∀ node ∈ charged, node ∈ F.members
  chain : charged.IsChain F.Up
  last : ∀ node, charged.getLast? = some node → F.parent node = top

variable {F}

theorem Ascends.pairwise {charged : List Node} {top : Option Node}
    (ascends : F.Ascends charged top) :
    charged.Pairwise fun lower upper => F.AtOrAbove upper lower := by
  have : IsTrans Node fun lower upper => F.AtOrAbove upper lower :=
    ⟨fun _ _ _ first second => first.trans second⟩
  exact List.isChain_iff_pairwise.mp
    (ascends.chain.imp fun _ _ up => Relation.ReflTransGen.single up)

theorem Ascends.parent_charged {charged : List Node} {top : Option Node}
    (ascends : F.Ascends charged top) {node above : Node} (isCharged : node ∈ charged)
    (up : F.Up node above) : above ∈ charged ∨ top = some above := by
  obtain ⟨front, rest, rfl⟩ := List.append_of_mem isCharged
  cases rest with
  | nil =>
      right
      rw [← ascends.last node (by simp), up.2]
  | cons next rest =>
      left
      have fromNode := (List.isChain_append.mp ascends.chain).2.1
      have nextUp : F.Up node next := (List.isChain_cons_cons.mp fromNode).1
      simp [Up.rightUnique up nextUp]

theorem Ascends.child_unique {charged : List Node} {top : Option Node}
    (ascends : F.Ascends charged top) {a b above : Node} (aCharged : a ∈ charged)
    (bCharged : b ∈ charged) (aUp : F.Up a above) (bUp : F.Up b above) : a = b := by
  by_contra different
  obtain ⟨front, rest, rfl⟩ := List.append_of_mem aCharged
  have ordered := List.pairwise_append.mp ascends.pairwise
  rcases List.mem_append.mp bCharged with before | after
  · exact not_atOrAbove_of_siblings aUp bUp different
      (ordered.2.2 b before a (List.mem_cons_self ..))
  · rcases List.mem_cons.mp after with same | later
    · exact different same.symm
    · exact not_atOrAbove_of_siblings bUp aUp (Ne.symm different)
        ((List.pairwise_cons.mp ordered.2.1).1 b later)

theorem Ascends.top_not_charged {charged : List Node} {stop : Node}
    (ascends : F.Ascends charged (some stop)) (nonEmpty : charged ≠ []) :
    ∃ last ∈ charged, F.Up last stop ∧ stop ∉ charged := by
  obtain ⟨front, last, rfl⟩ := List.eq_nil_or_concat' charged |>.resolve_left nonEmpty
  have lastMember : last ∈ front ++ [last] := by simp
  have up : F.Up last stop :=
    ⟨ascends.members last lastMember, ascends.last last (by simp)⟩
  refine ⟨last, lastMember, up, fun isCharged => ?_⟩
  rcases List.mem_append.mp isCharged with before | same
  · have climbs := (List.pairwise_append.mp ascends.pairwise).2.2 stop before last (by simp)
    exact absurd climbs.rank_le (not_le.mpr up.rank_lt)
  · rw [List.mem_singleton.mp same] at up
    exact absurd up.rank_lt (lt_irrefl _)

section charge

variable [DecidableEq Node] {charged : List Node} {used : Node → Int}

/-- Add one unit to every node of the list. -/
def charge (charged : List Node) (used : Node → Int) (node : Node) : Int :=
  used node + if node ∈ charged then 1 else 0

theorem childrenUsed_charge_of_uncharged {node : Node}
    (uncharged : ∀ child, F.Up child node → child ∉ charged) :
    F.childrenUsed (charge charged used) node = F.childrenUsed used node := by
  refine Finset.sum_congr rfl fun child isChild => ?_
  simp [charge, uncharged child (mem_children.mp isChild)]

theorem Ascends.childrenUsed_charge {top : Option Node} (ascends : F.Ascends charged top)
    {child node : Node} (isCharged : child ∈ charged) (up : F.Up child node) :
    F.childrenUsed (charge charged used) node = F.childrenUsed used node + 1 := by
  have others : ∀ other ∈ (F.children node).erase child,
      charge charged used other = used other := by
    intro other isOther
    obtain ⟨different, isChild⟩ := Finset.mem_erase.mp isOther
    have uncharged : other ∉ charged := fun otherCharged =>
      different (ascends.child_unique otherCharged isCharged (mem_children.mp isChild) up)
    simp [charge, uncharged]
  have isChild := mem_children.mpr up
  have chargedSplit := Finset.add_sum_erase _ (charge charged used) isChild
  have usedSplit := Finset.add_sum_erase _ used isChild
  rw [Finset.sum_congr rfl others] at chargedSplit
  have atChild : charge charged used child = used child + 1 := by
    simp [charge, isCharged]
  rw [childrenUsed, ← chargedSplit, atChild, childrenUsed, ← usedSplit, add_right_comm]

/-- A charged chain keeps every counter above its children exactly when the
parent where it stops, if it does not reach a root, has room for one more. -/
theorem coversChildren_charge_iff {top : Option Node} (covers : F.CoversChildren used)
    (ascends : F.Ascends charged top) (nonEmpty : charged ≠ []) :
    F.CoversChildren (charge charged used) ↔
      ∀ stop, top = some stop → F.childrenUsed used stop < used stop := by
  constructor
  · rintro stillCovers stop rfl
    obtain ⟨last, isCharged, up, stopUncharged⟩ := ascends.top_not_charged nonEmpty
    have atStop := stillCovers stop (F.parent_mem last up.1 stop up.2)
    rw [ascends.childrenUsed_charge isCharged up] at atStop
    simp only [charge, stopUncharged, if_false] at atStop
    omega
  · intro room node member
    by_cases charges : ∃ child, F.Up child node ∧ child ∈ charged
    · obtain ⟨child, up, isCharged⟩ := charges
      rw [ascends.childrenUsed_charge isCharged up]
      have before := covers node member
      rcases ascends.parent_charged isCharged up with nodeCharged | isTop
      · simp only [charge, nodeCharged, if_true]
        omega
      · have := room node isTop
        simp only [charge]
        split_ifs <;> omega
    · rw [childrenUsed_charge_of_uncharged fun child up isCharged =>
        charges ⟨child, up, isCharged⟩]
      refine (covers node member).trans ?_
      simp only [charge]
      split_ifs <;> omega

end charge

end Forest

end MandoForge.Foundation
