/-
Module: MandoForge.Ontology.ExecutionLevels
Purpose: The execution levels of an ontology builder graph.  The counter of a node is
  the number of edges from nodes that are not on a level yet, so the nodes that get ready
  in a round are those of the next depth, and the levels are the depths of the graph.
Trusted boundary: counters do not overflow.  A `while` loop is run with fuel; a result is
  the result for every fuel beyond the number of nodes.
Main exports: OntologyBuilderEdge, topological_levels_correct
-/
import MandoForge.Core.Records
import MandoForge.Foundation.LongestPaths
import Mathlib.Data.List.Dedup
import Mathlib.Data.String.Basic
import Mathlib.Order.Bounds.Defs

namespace MandoForge

open Foundation

/-! ### The graph -/

structure OntologyBuilderNode where
  id : String
  label : String
  nodeType : String
  status : String
  summary : String
deriving DecidableEq, Repr

structure OntologyBuilderEdge where
  fromId : String
  toId : String
  edgeType : String
  reason : String
deriving DecidableEq, Repr

structure OntologyBuilderExecutionLevel where
  level : Nat
  nodeIds : List String
deriving DecidableEq, Repr

/-- An edge of the graph leads from the one node to the other. -/
def LeadsTo (edges : List OntologyBuilderEdge) (origin node : String) : Prop :=
  ∃ edge ∈ edges, edge.fromId = origin ∧ edge.toId = node

/-! ### The levels -/

def sortIds (ids : List String) : List String :=
  ids.mergeSort fun first second => decide (first ≤ second)

/-- `Vec::dedup`. -/
def dedupAdjacent : List String → List String
  | first :: second :: rest =>
      if first = second then dedupAdjacent (second :: rest)
      else first :: dedupAdjacent (second :: rest)
  | ids => ids

/-- The two maps; `inDegree` has an entry for each node of the graph, `outgoing` one for
each node with children. -/
structure EdgeMaps where
  inDegree : String → Nat
  outgoing : String → List String

/-- The loop over the edges. -/
def recordEdges (nodeIds : List String) :
    List OntologyBuilderEdge → EdgeMaps → Except AppError EdgeMaps
  | [], maps => .ok maps
  | edge :: rest, maps =>
      if edge.fromId ∉ nodeIds ∨ edge.toId ∉ nodeIds then
        .error (.badRequest "ontology builder DAG edge references an unknown node")
      else recordEdges nodeIds rest
        { inDegree := Function.update maps.inDegree edge.toId (maps.inDegree edge.toId + 1)
          outgoing := Function.update maps.outgoing edge.fromId
            (maps.outgoing edge.fromId ++ [edge.toId]) }

/-- The counters and the nodes that got ready while a level is gone through. -/
structure Release where
  inDegree : String → Nat
  nextReady : List String

/-- The body of the loop over the children; a counter stops at 0. -/
def releaseChild (nodeIds : List String) (release : Release) (child : String) : Release :=
  if child ∈ nodeIds then
    let degree := release.inDegree child - 1
    { inDegree := Function.update release.inDegree child degree
      nextReady := if degree = 0 then release.nextReady ++ [child] else release.nextReady }
  else release

/-- The state of the `while` loop. -/
structure LevelLoop where
  inDegree : String → Nat
  ready : List String
  visited : Nat
  levels : List OntologyBuilderExecutionLevel

/-- One round of the loop. -/
def levelRound (nodeIds : List String) (outgoing : String → List String) (loop : LevelLoop) :
    LevelLoop :=
  let release := loop.ready.foldl
    (fun release nodeId => (outgoing nodeId).foldl (releaseChild nodeIds) release)
    ⟨loop.inDegree, []⟩
  { inDegree := release.inDegree
    ready := dedupAdjacent (sortIds release.nextReady)
    visited := loop.visited + loop.ready.length
    levels := loop.levels ++ [⟨loop.levels.length, loop.ready⟩] }

def runLevels (nodeIds : List String) (outgoing : String → List String) :
    Nat → LevelLoop → Option LevelLoop
  | 0, loop => if loop.ready.isEmpty then some loop else none
  | fuel + 1, loop =>
      if loop.ready.isEmpty then some loop
      else runLevels nodeIds outgoing fuel (levelRound nodeIds outgoing loop)

/-- `ontology_topological_execution_levels`; `none` stands for too little fuel. -/
def ontologyTopologicalExecutionLevels (fuel : Nat) (nodes : List OntologyBuilderNode)
    (edges : List OntologyBuilderEdge) :
    Option (Except AppError (List OntologyBuilderExecutionLevel)) :=
  let nodeIds := sortIds (nodes.map OntologyBuilderNode.id).dedup
  match recordEdges nodeIds edges ⟨fun _ => 0, fun _ => []⟩ with
  | .error refused => some (.error refused)
  | .ok maps =>
      let ready := sortIds (nodeIds.filter fun nodeId => decide (maps.inDegree nodeId = 0))
      (runLevels nodeIds maps.outgoing fuel ⟨maps.inDegree, ready, 0, []⟩).map fun loop =>
        if loop.visited ≠ nodes.length then
          .error (.badRequest
            "ontology builder DAG contains a cycle; execution rejected before start")
        else .ok loop.levels

/-! ### Sorting -/

@[simp] theorem mem_sortIds {ids : List String} {id : String} : id ∈ sortIds ids ↔ id ∈ ids :=
  List.mem_mergeSort

theorem sortIds_perm (ids : List String) : (sortIds ids).Perm ids :=
  List.mergeSort_perm ids _

theorem sortIds_sorted (ids : List String) : (sortIds ids).Pairwise (· ≤ ·) := by
  refine (List.pairwise_mergeSort ?_ ?_ ids).imp fun {_ _} less => of_decide_eq_true less
  · intro first second third
    simp only [decide_eq_true_eq]
    exact le_trans
  · intro first second
    simp only [Bool.or_eq_true, decide_eq_true_eq]
    exact le_total first second

@[simp] theorem mem_dedupAdjacent {ids : List String} {id : String} :
    id ∈ dedupAdjacent ids ↔ id ∈ ids := by
  fun_induction dedupAdjacent ids with
  | case1 first rest inductionHypothesis =>
      rw [inductionHypothesis, List.mem_cons (b := first) (l := first :: rest)]
      refine ⟨.inr, fun member => ?_⟩
      rcases member with rfl | member
      · exact List.mem_cons_self
      · exact member
  | case2 first second rest _ inductionHypothesis =>
      rw [List.mem_cons, inductionHypothesis, ← List.mem_cons]
  | case3 => rfl

/-- Repeats are adjacent in a sorted list. -/
theorem dedupAdjacent_sorted {ids : List String} (sorted : ids.Pairwise (· ≤ ·)) :
    (dedupAdjacent ids).Pairwise (· < ·) := by
  fun_induction dedupAdjacent ids with
  | case1 first rest inductionHypothesis => exact inductionHypothesis (List.pairwise_cons.mp sorted).2
  | case2 first second rest different inductionHypothesis =>
      obtain ⟨least, restSorted⟩ := List.pairwise_cons.mp sorted
      refine List.pairwise_cons.mpr ⟨fun id member => ?_, inductionHypothesis restSorted⟩
      have below : first < second :=
        lt_of_le_of_ne (least second List.mem_cons_self) different
      rcases List.mem_cons.mp (mem_dedupAdjacent.mp member) with rfl | later
      · exact below
      · exact lt_of_lt_of_le below ((List.pairwise_cons.mp restSorted).1 id later)
  | case3 ids short =>
      match ids, short with
      | [], _ => exact .nil
      | [_], _ => exact List.pairwise_singleton _ _
      | first :: second :: rest, short => exact (short first second rest rfl).elim

/-! ### The edges -/

/-- Each edge connects nodes of the graph. -/
def EdgesKnown (nodeIds : List String) (edges : List OntologyBuilderEdge) : Prop :=
  ∀ edge ∈ edges, edge.fromId ∈ nodeIds ∧ edge.toId ∈ nodeIds

theorem recordEdges_of_known {nodeIds : List String} {edges : List OntologyBuilderEdge}
    (known : EdgesKnown nodeIds edges) (maps : EdgeMaps) :
    ∃ recorded, recordEdges nodeIds edges maps = .ok recorded ∧
      (∀ id, recorded.inDegree id =
        maps.inDegree id + edges.countP fun edge => decide (edge.toId = id)) ∧
      ∀ id, recorded.outgoing id = maps.outgoing id ++
        (edges.filter fun edge => decide (edge.fromId = id)).map OntologyBuilderEdge.toId := by
  induction edges generalizing maps with
  | nil => exact ⟨maps, rfl, fun id => rfl, fun id => (List.append_nil _).symm⟩
  | cons edge rest inductionHypothesis =>
      obtain ⟨fromKnown, toKnown⟩ := known edge List.mem_cons_self
      obtain ⟨recorded, isRecorded, counts, children⟩ := inductionHypothesis
        (fun later member => known later (List.mem_cons_of_mem _ member))
        { inDegree := Function.update maps.inDegree edge.toId (maps.inDegree edge.toId + 1)
          outgoing := Function.update maps.outgoing edge.fromId
            (maps.outgoing edge.fromId ++ [edge.toId]) }
      refine ⟨recorded, ?_, fun id => ?_, fun id => ?_⟩
      · rw [recordEdges, if_neg (by simp [fromKnown, toKnown]), isRecorded]
      · rw [counts id, List.countP_cons]
        by_cases target : edge.toId = id
        · subst target
          simp only [Function.update_self, decide_true, if_true]
          omega
        · simp only [Function.update_of_ne (Ne.symm target), decide_eq_true_eq, if_neg target,
            Nat.add_zero]
      · rw [children id, List.filter_cons]
        by_cases origin : edge.fromId = id
        · subst origin
          simp
        · simp only [Function.update_of_ne (Ne.symm origin), decide_eq_true_eq, if_neg origin]

theorem recordEdges_of_unknown {nodeIds : List String} {edges : List OntologyBuilderEdge}
    (unknown : ¬ EdgesKnown nodeIds edges) (maps : EdgeMaps) :
    recordEdges nodeIds edges maps =
      .error (.badRequest "ontology builder DAG edge references an unknown node") := by
  induction edges generalizing maps with
  | nil => exact absurd (fun _ member => nomatch member) unknown
  | cons edge rest inductionHypothesis =>
      rw [recordEdges]
      split
      · rfl
      · next bothKnown =>
          refine inductionHypothesis (fun restKnown => unknown fun later member => ?_) _
          rcases List.mem_cons.mp member with rfl | member
          · exact not_or.mp bothKnown |>.imp Decidable.not_not.mp Decidable.not_not.mp
          · exact restKnown later member

/-! ### One round -/

/-- A counter goes down once for each time the node is a child, and the node is ready as
soon as the counter is 0. -/
theorem releaseChildren {nodeIds children : List String}
    (known : ∀ child ∈ children, child ∈ nodeIds) (release : Release) :
    (∀ id, (children.foldl (releaseChild nodeIds) release).inDegree id =
        release.inDegree id - children.count id) ∧
      ∀ id, id ∈ (children.foldl (releaseChild nodeIds) release).nextReady ↔
        id ∈ release.nextReady ∨ (id ∈ children ∧ release.inDegree id ≤ children.count id) := by
  induction children generalizing release with
  | nil => simp
  | cons child rest inductionHypothesis =>
      obtain ⟨counts, readies⟩ := inductionHypothesis
        (fun later member => known later (List.mem_cons_of_mem _ member))
        (releaseChild nodeIds release child)
      have isNode : child ∈ nodeIds := known child List.mem_cons_self
      have released : releaseChild nodeIds release child =
          { inDegree := Function.update release.inDegree child (release.inDegree child - 1)
            nextReady := if release.inDegree child - 1 = 0 then release.nextReady ++ [child]
              else release.nextReady } := if_pos isNode
      rw [released] at counts readies
      refine ⟨fun id => ?_, fun id => ?_⟩
      · rw [List.foldl_cons, released, counts id, List.count_cons]
        by_cases same : child = id
        · subst same
          simp only [Function.update_self, beq_self_eq_true, if_true]
          omega
        · simp only [Function.update_of_ne (Ne.symm same), beq_iff_eq, if_neg same, Nat.add_zero]
      · rw [List.foldl_cons, released, readies id, List.count_cons]
        by_cases same : child = id
        · subst same
          have counted : child ∈ rest ↔ 0 < rest.count child := List.count_pos_iff.symm
          simp only [Function.update_self, beq_self_eq_true, if_true, List.mem_cons, true_or,
            true_and, counted]
          split
          · simp; omega
          · exact or_congr_right (by omega)
        · have other : id ≠ child := Ne.symm same
          simp only [Function.update_of_ne other, beq_iff_eq, if_neg same, Nat.add_zero,
            List.mem_cons, other, false_or]
          split <;> simp [other]

/-- The children of the nodes of a level, each as often as there are edges to it. -/
theorem count_children {edges : List OntologyBuilderEdge} {outgoing : String → List String}
    (children : ∀ id, outgoing id =
      (edges.filter fun edge => decide (edge.fromId = id)).map OntologyBuilderEdge.toId)
    {ready : List String} (distinct : ready.Nodup) (id : String) :
    (ready.flatMap outgoing).count id =
      edges.countP fun edge => decide (edge.toId = id ∧ edge.fromId ∈ ready) := by
  induction ready with
  | nil => simp
  | cons origin rest inductionHypothesis =>
      obtain ⟨notLater, restDistinct⟩ := List.nodup_cons.mp distinct
      have ofOrigin : (outgoing origin).count id =
          edges.countP fun edge => decide (edge.toId = id ∧ edge.fromId = origin) := by
        rw [children origin, List.count, List.countP_map, List.countP_filter]
        exact List.countP_congr fun edge _ => by simp
      rw [List.flatMap_cons, List.count_append, inductionHypothesis restDistinct, ofOrigin,
        List.countP_eq_countP_filter_add edges
          (fun edge => decide (edge.toId = id ∧ edge.fromId ∈ origin :: rest))
          fun edge => decide (edge.fromId = origin),
        List.countP_filter, List.countP_filter]
      congr 1
      · refine List.countP_congr fun edge _ => ?_
        simp only [decide_eq_true_eq, Bool.and_eq_true, List.mem_cons]
        exact ⟨fun holds => ⟨⟨holds.1, .inl holds.2⟩, holds.2⟩, fun holds => ⟨holds.1.1, holds.2⟩⟩
      · refine List.countP_congr fun edge _ => ?_
        simp only [decide_eq_true_eq, Bool.and_eq_true, List.mem_cons, Bool.not_eq_true',
          decide_eq_false_iff_not]
        constructor
        · rintro ⟨target, later⟩
          exact ⟨⟨target, .inr later⟩, fun same => notLater (same ▸ later)⟩
        · rintro ⟨⟨target, same | later⟩, other⟩
          · exact absurd same other
          · exact ⟨target, later⟩

/-! ### The levels are the depths -/

/-- The nodes that are on a level. -/
def LevelLoop.placed (loop : LevelLoop) : List String :=
  loop.levels.flatMap OntologyBuilderExecutionLevel.nodeIds

/-- The state of the loop after `depth` rounds. -/
structure AtLevel (nodeIds : List String) (edges : List OntologyBuilderEdge) (depth : Nat)
    (loop : LevelLoop) : Prop where
  rounds : loop.levels.length = depth
  visited : loop.visited = loop.placed.length
  distinct : loop.placed.Nodup
  placed : ∀ id, id ∈ loop.placed ↔ id ∈ nodeIds ∧ ¬ PathTo (LeadsTo edges) depth id
  levels : ∀ index level, loop.levels[index]? = some level → level.level = index ∧
    ∀ id ∈ level.nodeIds, LongestPathTo (LeadsTo edges) index id
  ready : ∀ id, id ∈ loop.ready ↔ id ∈ nodeIds ∧ LongestPathTo (LeadsTo edges) depth id
  sorted : loop.ready.Pairwise (· < ·)
  counts : ∀ id, loop.inDegree id =
    edges.countP fun edge => decide (edge.toId = id ∧ edge.fromId ∉ loop.placed)

section Rounds

variable {nodeIds : List String} {edges : List OntologyBuilderEdge}
  {outgoing : String → List String}

/-- Before the first round the nodes without an edge to them are ready. -/
theorem AtLevel.start {inDegree : String → Nat} {ready : List String}
    (counts : ∀ id, inDegree id = edges.countP fun edge => decide (edge.toId = id))
    (isReady : ∀ id, id ∈ ready ↔ id ∈ nodeIds ∧ inDegree id = 0)
    (sorted : ready.Pairwise (· < ·)) :
    AtLevel nodeIds edges 0 ⟨inDegree, ready, 0, []⟩ where
  rounds := rfl
  visited := rfl
  distinct := List.nodup_nil
  placed id := iff_of_false (nomatch ·) fun holds => holds.2 (.start id)
  levels index level isLevel := nomatch isLevel
  ready id := by
    rw [isReady id, counts id, List.countP_eq_zero, longestPathTo_iff, pathTo_succ_iff]
    refine and_congr_right fun _ => ?_
    constructor
    · rintro none
      refine ⟨.start id, ?_⟩
      rintro ⟨origin, -, edge, member, -, target⟩
      exact none edge member (decide_eq_true target)
    · rintro ⟨-, noOrigin⟩ edge member target
      exact noOrigin ⟨edge.fromId, .start _, edge, member, rfl, of_decide_eq_true target⟩
  sorted := sorted
  counts id := by
    refine (counts id).trans ?_
    exact List.countP_congr fun edge _ => by simp [LevelLoop.placed]

namespace AtLevel

variable {depth : Nat} {loop : LevelLoop}

theorem ready_nodup (here : AtLevel nodeIds edges depth loop) : loop.ready.Nodup :=
  here.sorted.imp ne_of_lt

theorem not_placed_of_ready (here : AtLevel nodeIds edges depth loop) {id : String}
    (isReady : id ∈ loop.ready) : id ∉ loop.placed := fun isPlaced =>
  ((here.placed id).mp isPlaced).2 ((here.ready id).mp isReady).2.path

theorem nodup_append (here : AtLevel nodeIds edges depth loop) :
    (loop.placed ++ loop.ready).Nodup :=
  List.nodup_append.mpr ⟨here.distinct, here.ready_nodup, fun _ isPlaced _ isReady same =>
    here.not_placed_of_ready isReady (same ▸ isPlaced)⟩

theorem mem_append (here : AtLevel nodeIds edges depth loop) (id : String) :
    id ∈ loop.placed ++ loop.ready ↔
      id ∈ nodeIds ∧ ¬ PathTo (LeadsTo edges) (depth + 1) id := by
  rw [List.mem_append, here.placed, here.ready, ← and_or_left, longestPathTo_iff]
  refine and_congr_right fun _ => ⟨?_, fun noFurther => ?_⟩
  · rintro (noPath | longest)
    · exact fun further => noPath further.pred
    · exact longest.2
  · by_cases path : PathTo (LeadsTo edges) depth id
    · exact .inr ⟨path, noFurther⟩
    · exact .inl path

variable (known : EdgesKnown nodeIds edges)
  (children : ∀ id, outgoing id =
    (edges.filter fun edge => decide (edge.fromId = id)).map OntologyBuilderEdge.toId)

include children

omit known in
theorem mem_children {id : String} : id ∈ loop.ready.flatMap outgoing ↔
    ∃ origin, LeadsTo edges origin id ∧ origin ∈ loop.ready := by
  rw [List.mem_flatMap]
  simp only [children, List.mem_map, List.mem_filter, decide_eq_true_eq]
  constructor
  · rintro ⟨origin, isReady, edge, ⟨member, leaves⟩, target⟩
    exact ⟨origin, ⟨edge, member, leaves, target⟩, isReady⟩
  · rintro ⟨origin, ⟨edge, member, leaves, target⟩, isReady⟩
    exact ⟨origin, isReady, edge, ⟨member, leaves⟩, target⟩

/-- The edges that a counter counts come from the nodes that are ready and from those
that are still left. -/
theorem inDegree_eq (here : AtLevel nodeIds edges depth loop) (id : String) :
    loop.inDegree id = (loop.ready.flatMap outgoing).count id +
      edges.countP fun edge =>
        decide (edge.toId = id ∧ edge.fromId ∉ loop.placed ++ loop.ready) := by
  rw [here.counts id, count_children children here.ready_nodup,
    List.countP_eq_countP_filter_add edges _ fun edge => decide (edge.fromId ∈ loop.ready),
    List.countP_filter, List.countP_filter]
  congr 1
  · refine List.countP_congr fun edge _ => ?_
    simp only [decide_eq_true_eq, Bool.and_eq_true]
    exact ⟨fun holds => ⟨holds.1.1, holds.2⟩,
      fun holds => ⟨⟨holds.1, here.not_placed_of_ready holds.2⟩, holds.2⟩⟩
  · refine List.countP_congr fun edge _ => ?_
    simp only [decide_eq_true_eq, Bool.and_eq_true, Bool.not_eq_true', decide_eq_false_iff_not,
      List.mem_append, not_or, and_assoc]

include known

/-- The counter of a node gets to 0 in this round when no further path leads to an origin. -/
theorem inDegree_le_count_iff (here : AtLevel nodeIds edges depth loop) (id : String) :
    loop.inDegree id ≤ (loop.ready.flatMap outgoing).count id ↔
      ∀ origin, LeadsTo edges origin id → ¬ PathTo (LeadsTo edges) (depth + 1) origin := by
  have nothingLeft : loop.inDegree id ≤ (loop.ready.flatMap outgoing).count id ↔
      (edges.countP fun edge =>
        decide (edge.toId = id ∧ edge.fromId ∉ loop.placed ++ loop.ready)) = 0 := by
    have := here.inDegree_eq children id
    omega
  rw [nothingLeft, List.countP_eq_zero]
  constructor
  · rintro none origin ⟨edge, member, rfl, target⟩ path
    refine none edge member (decide_eq_true ⟨target, fun isPlaced => ?_⟩)
    exact ((here.mem_append _).mp isPlaced).2 path
  · intro none edge member left
    obtain ⟨target, notPlaced⟩ := of_decide_eq_true left
    exact notPlaced ((here.mem_append _).mpr
      ⟨(known edge member).1, none _ ⟨edge, member, rfl, target⟩⟩)

theorem next_ready_iff (here : AtLevel nodeIds edges depth loop) (id : String) :
    (id ∈ loop.ready.flatMap outgoing ∧
        loop.inDegree id ≤ (loop.ready.flatMap outgoing).count id) ↔
      id ∈ nodeIds ∧ LongestPathTo (LeadsTo edges) (depth + 1) id := by
  rw [longestPathTo_succ_iff, here.inDegree_le_count_iff known children id, mem_children children]
  constructor
  · rintro ⟨⟨origin, ⟨edge, member, leaves, target⟩, isReady⟩, seen⟩
    exact ⟨target ▸ (known edge member).2, ⟨origin, ⟨edge, member, leaves, target⟩,
      ((here.ready origin).mp isReady).2⟩, seen⟩
  · rintro ⟨-, ⟨origin, ⟨edge, member, leaves, target⟩, longest⟩, seen⟩
    refine ⟨⟨origin, ⟨edge, member, leaves, target⟩, ?_⟩, seen⟩
    exact (here.ready origin).mpr ⟨leaves ▸ (known edge member).1, longest⟩

theorem round (here : AtLevel nodeIds edges depth loop) :
    AtLevel nodeIds edges (depth + 1) (levelRound nodeIds outgoing loop) := by
  have placedNow : (levelRound nodeIds outgoing loop).placed = loop.placed ++ loop.ready := by
    simp [LevelLoop.placed, levelRound]
  have childrenKnown : ∀ child ∈ loop.ready.flatMap outgoing, child ∈ nodeIds := by
    intro child isChild
    obtain ⟨_, ⟨edge, member, -, rfl⟩, -⟩ := (mem_children children).mp isChild
    exact (known edge member).2
  obtain ⟨degrees, readies⟩ := releaseChildren childrenKnown ⟨loop.inDegree, []⟩
  rw [List.foldl_flatMap] at degrees readies
  exact {
    rounds := by simp [levelRound, here.rounds]
    visited := by
      rw [placedNow, List.length_append, ← here.visited]
      rfl
    distinct := by
      rw [placedNow]
      exact here.nodup_append
    placed := fun id => by rw [placedNow, here.mem_append]
    levels := by
      intro index level isLevel
      rw [levelRound, List.getElem?_append] at isLevel
      split at isLevel
      · exact here.levels index level isLevel
      · next past =>
          obtain ⟨bound, isLast⟩ := List.getElem?_eq_some_iff.mp isLevel
          rw [List.getElem_singleton] at isLast
          have atEnd : index = loop.levels.length := by
            rw [List.length_singleton] at bound
            omega
          subst atEnd isLast
          exact ⟨rfl, fun id isReady => here.rounds ▸ ((here.ready id).mp isReady).2⟩
    ready := by
      intro id
      refine mem_dedupAdjacent.trans (mem_sortIds.trans ((readies id).trans ?_))
      rw [← here.next_ready_iff known children id]
      exact or_iff_right List.not_mem_nil
    sorted := dedupAdjacent_sorted (sortIds_sorted _)
    counts := fun id => by
      rw [placedNow]
      refine (degrees id).trans ?_
      have := here.inDegree_eq children id
      dsimp only
      omega }

/-- A round puts a node on a level, so the loop ends after as many rounds as there are
nodes. -/
theorem ends (fuel : Nat) {depth : Nat} {loop : LevelLoop}
    (here : AtLevel nodeIds edges depth loop)
    (enough : nodeIds.length ≤ fuel + loop.visited) :
    ∃ ended last, runLevels nodeIds outgoing fuel loop = some ended ∧ ended.ready = [] ∧
      AtLevel nodeIds edges last ended := by
  induction fuel generalizing depth loop with
  | zero =>
      have bound : (loop.placed ++ loop.ready).length ≤ nodeIds.length :=
        here.nodup_append.length_le_of_subset fun id member => ((here.mem_append id).mp member).1
      rw [List.length_append, ← here.visited] at bound
      have stopped : loop.ready = [] := List.length_eq_zero_iff.mp (by omega)
      exact ⟨loop, depth, by rw [runLevels, stopped]; rfl, stopped, here⟩
  | succ fuel inductionHypothesis =>
      rw [runLevels]
      cases isReady : loop.ready with
      | nil => exact ⟨loop, depth, rfl, isReady, here⟩
      | cons first rest =>
          refine inductionHypothesis (here.round known children) ?_
          have more : (levelRound nodeIds outgoing loop).visited =
              loop.visited + (rest.length + 1) := by
            rw [levelRound, isReady]
            rfl
          omega

end AtLevel

end Rounds

theorem runLevels_mono {nodeIds : List String} {outgoing : String → List String}
    {fuel more : Nat} {loop ended : LevelLoop} (enough : fuel ≤ more)
    (ends : runLevels nodeIds outgoing fuel loop = some ended) :
    runLevels nodeIds outgoing more loop = some ended := by
  induction fuel generalizing more loop with
  | zero =>
      rw [runLevels] at ends
      cases more with
      | zero => exact ends
      | succ more =>
          rw [runLevels]
          split at ends
          · next stopped => rw [if_pos stopped, ends]
          · cases ends
  | succ fuel inductionHypothesis =>
      obtain ⟨more, rfl⟩ := Nat.exists_eq_add_of_le enough
      rw [Nat.add_right_comm]
      rw [runLevels] at ends ⊢
      split at ends
      · next stopped => rw [if_pos stopped, ends]
      · next going =>
          rw [if_neg going]
          exact inductionHypothesis (Nat.le_add_right fuel more) ends

/-! ### The result -/

/-- Each node with an edge to this one is on a level before the index. -/
def AfterOrigins (edges : List OntologyBuilderEdge)
    (levels : List OntologyBuilderExecutionLevel) (id : String) (index : Nat) : Prop :=
  ∀ origin, LeadsTo edges origin id →
    ∃ before ∈ levels, origin ∈ before.nodeIds ∧ before.level < index

/-- The levels are the depths of the graph. -/
structure LevelsAreDepths (nodeIds : List String) (edges : List OntologyBuilderEdge)
    (levels : List OntologyBuilderExecutionLevel) : Prop where
  partition : (levels.flatMap OntologyBuilderExecutionLevel.nodeIds).Perm nodeIds
  numbered : ∀ (index : Nat) level, levels[index]? = some level → level.level = index
  longest : ∀ level ∈ levels, ∀ id ∈ level.nodeIds,
    LongestPathTo (LeadsTo edges) level.level id
  earliest : ∀ level ∈ levels, ∀ id ∈ level.nodeIds,
    IsLeast {index | AfterOrigins edges levels id index} level.level
  forward : ∀ first ∈ levels, ∀ second ∈ levels, ∀ edge ∈ edges,
    edge.fromId ∈ first.nodeIds → edge.toId ∈ second.nodeIds → first.level < second.level

section Result

variable {nodeIds : List String} {edges : List OntologyBuilderEdge} {depth : Nat}
  {loop : LevelLoop} (here : AtLevel nodeIds edges depth loop) (stopped : loop.ready = [])
  (distinct : nodeIds.Nodup) (known : EdgesKnown nodeIds edges)

include here

namespace AtLevel

omit distinct known in
include stopped in
theorem stuck : ∀ id ∈ nodeIds, PathTo (LeadsTo edges) depth id →
    PathTo (LeadsTo edges) (depth + 1) id := by
  intro id isNode path
  by_contra noFurther
  have isReady : id ∈ loop.ready :=
    (here.ready id).mpr ⟨isNode, longestPathTo_iff.mpr ⟨path, noFurther⟩⟩
  rw [stopped] at isReady
  cases isReady

omit known in
include distinct in
theorem visited_eq_iff :
    loop.visited = nodeIds.length ↔ ∀ id ∈ nodeIds, ¬ PathTo (LeadsTo edges) depth id := by
  have within : loop.placed ⊆ nodeIds := fun id isPlaced => ((here.placed id).mp isPlaced).1
  rw [here.visited]
  constructor
  · intro sameLength id isNode
    have perm : loop.placed.Perm nodeIds :=
      (List.subperm_of_subset here.distinct within).perm_of_length_le sameLength.ge
    exact ((here.placed id).mp (perm.mem_iff.mpr isNode)).2
  · intro none
    refine ((List.perm_ext_iff_of_nodup here.distinct distinct).mpr fun id => ?_).length_eq
    exact ⟨fun isPlaced => within isPlaced,
      fun isNode => (here.placed id).mpr ⟨isNode, none id isNode⟩⟩

include known stopped distinct

theorem visited_eq_iff_acyclic :
    loop.visited = nodeIds.length ↔ Acyclic (LeadsTo edges) := by
  have closed : ∀ origin node, LeadsTo edges origin node → origin ∈ {id | id ∈ nodeIds} := by
    rintro _ _ ⟨edge, member, rfl, rfl⟩
    exact (known edge member).1
  rw [here.visited_eq_iff distinct]
  exact ⟨fun none => acyclic_of_bounded closed none,
    fun acyclic => acyclic.not_pathTo (List.finite_toSet nodeIds) closed (here.stuck stopped)⟩

omit stopped in
theorem levelsAreDepths (all : loop.visited = nodeIds.length) :
    LevelsAreDepths nodeIds edges loop.levels := by
  have none := (here.visited_eq_iff distinct).mp all
  have partition : loop.placed.Perm nodeIds :=
    (List.perm_ext_iff_of_nodup here.distinct distinct).mpr fun id =>
      ⟨fun isPlaced => ((here.placed id).mp isPlaced).1,
        fun isNode => (here.placed id).mpr ⟨isNode, none id isNode⟩⟩
  have longest : ∀ level ∈ loop.levels, ∀ id ∈ level.nodeIds,
      LongestPathTo (LeadsTo edges) level.level id := by
    intro level member id onLevel
    obtain ⟨index, isLevel⟩ := List.mem_iff_getElem?.mp member
    obtain ⟨number, depths⟩ := here.levels index level isLevel
    exact number ▸ depths id onLevel
  have onSome : ∀ origin node, LeadsTo edges origin node →
      ∃ level ∈ loop.levels, origin ∈ level.nodeIds := by
    rintro _ _ ⟨edge, member, rfl, -⟩
    exact List.mem_flatMap.mp (partition.mem_iff.mpr (known edge member).1)
  exact {
    partition := partition
    numbered := fun index level isLevel => (here.levels index level isLevel).1
    longest := longest
    earliest := by
      intro level member id onLevel
      constructor
      · intro origin leads
        obtain ⟨before, isBefore, ofBefore⟩ := onSome origin id leads
        exact ⟨before, isBefore, ofBefore, (longest before isBefore origin ofBefore).lt_of_edge
          leads (longest level member id onLevel)⟩
      · intro index allBefore
        cases isZero : level.level with
        | zero => exact Nat.zero_le index
        | succ smaller =>
            obtain ⟨origin, leads, isLongest⟩ :=
              (isZero ▸ longest level member id onLevel).exists_pred
            obtain ⟨before, isBefore, ofBefore, less⟩ := allBefore origin leads
            have same := (longest before isBefore origin ofBefore).unique isLongest
            omega
    forward := fun first isFirst second isSecond edge member leaves target =>
      (longest first isFirst _ leaves).lt_of_edge ⟨edge, member, rfl, rfl⟩
        (longest second isSecond _ target) }

end AtLevel

end Result

/-- What the function makes of known edges. -/
theorem ontologyTopologicalExecutionLevels_of_known {nodes : List OntologyBuilderNode}
    {edges : List OntologyBuilderEdge} {nodeIds : List String}
    (isNodeIds : nodeIds = sortIds (nodes.map OntologyBuilderNode.id).dedup)
    (distinct : nodeIds.Nodup) (sameLength : nodeIds.length = nodes.length)
    (known : EdgesKnown nodeIds edges) :
    ∃ ended depth, ended.ready = [] ∧ AtLevel nodeIds edges depth ended ∧
      ∀ fuel, nodes.length ≤ fuel → ontologyTopologicalExecutionLevels fuel nodes edges =
        some (if ended.visited ≠ nodes.length then
          .error (.badRequest
            "ontology builder DAG contains a cycle; execution rejected before start")
        else .ok ended.levels) := by
  obtain ⟨maps, recorded, counts, children⟩ :=
    recordEdges_of_known known ⟨fun _ => 0, fun _ => []⟩
  simp only [Nat.zero_add, List.nil_append] at counts children
  have sorted : (sortIds (nodeIds.filter fun id => decide (maps.inDegree id = 0))).Pairwise
      (· < ·) := by
    have apart := (sortIds_perm _).nodup_iff.mpr
      (distinct.filter fun id => decide (maps.inDegree id = 0))
    exact (sortIds_sorted _).imp₂ (fun _ _ => lt_of_le_of_ne) apart
  have isReady (id : String) :
      id ∈ sortIds (nodeIds.filter fun id => decide (maps.inDegree id = 0)) ↔
        id ∈ nodeIds ∧ maps.inDegree id = 0 := by simp
  have start := AtLevel.start counts isReady sorted
  obtain ⟨ended, depth, ends, stopped, here⟩ := start.ends known children nodes.length
    (by omega)
  refine ⟨ended, depth, stopped, here, fun fuel enough => ?_⟩
  rw [ontologyTopologicalExecutionLevels, ← isNodeIds, recorded]
  dsimp only
  rw [runLevels_mono enough ends]
  rfl

theorem topological_levels_correct (nodes : List OntologyBuilderNode)
    (edges : List OntologyBuilderEdge)
    (distinct : (nodes.map OntologyBuilderNode.id).Nodup) :
    ∃ result,
      (∀ fuel, nodes.length ≤ fuel →
        ontologyTopologicalExecutionLevels fuel nodes edges = some result) ∧
      ((∃ levels, result = .ok levels) ↔
        EdgesKnown (nodes.map OntologyBuilderNode.id) edges ∧ Acyclic (LeadsTo edges)) ∧
      ∀ levels, result = .ok levels →
        LevelsAreDepths (nodes.map OntologyBuilderNode.id) edges levels := by
  generalize isNodeIds : sortIds (nodes.map OntologyBuilderNode.id).dedup = nodeIds
  have perm : nodeIds.Perm (nodes.map OntologyBuilderNode.id) := by
    rw [← isNodeIds, List.dedup_eq_self.mpr distinct]
    exact sortIds_perm _
  have sameLength : nodeIds.length = nodes.length := by
    rw [perm.length_eq, List.length_map]
  have sameKnown : EdgesKnown (nodes.map OntologyBuilderNode.id) edges ↔
      EdgesKnown nodeIds edges := by
    simp only [EdgesKnown, perm.mem_iff]
  by_cases known : EdgesKnown nodeIds edges
  · have idsDistinct : nodeIds.Nodup := perm.nodup_iff.mpr distinct
    obtain ⟨ended, depth, stopped, here, isResult⟩ := ontologyTopologicalExecutionLevels_of_known
      isNodeIds.symm idsDistinct sameLength known
    have acyclic := here.visited_eq_iff_acyclic stopped idsDistinct known
    rw [sameLength] at acyclic
    refine ⟨_, isResult, ?_, ?_⟩
    · rw [sameKnown, ← acyclic]
      split
      · next cyclic => exact iff_of_false (nofun) fun holds => cyclic holds.2
      · next all => exact iff_of_true ⟨_, rfl⟩ ⟨known, Decidable.not_not.mp all⟩
    · intro levels isLevels
      split at isLevels
      · cases isLevels
      · next all =>
          cases isLevels
          have depths := here.levelsAreDepths idsDistinct known
            ((Decidable.not_not.mp all).trans sameLength.symm)
          exact { depths with partition := depths.partition.trans perm }
  · refine ⟨.error (.badRequest "ontology builder DAG edge references an unknown node"),
      fun fuel _ => ?_, ?_, fun levels isLevels => nomatch isLevels⟩
    · rw [ontologyTopologicalExecutionLevels, isNodeIds, recordEdges_of_unknown known]
    · exact iff_of_false (nofun) fun holds => known (sameKnown.mp holds.1)

def uploadNodes : List OntologyBuilderNode :=
  [⟨"llm_extract", "LLM extraction", "llm_extract", "ready", "Extract facts."⟩,
    ⟨"document_upload", "Document upload", "source_connect", "ready", "Read documents."⟩]

def uploadEdges : List OntologyBuilderEdge :=
  [⟨"document_upload", "llm_extract", "feeds", "Extraction reads uploaded text."⟩,
    ⟨"document_upload", "llm_extract", "supports", "Extraction cites uploaded text."⟩]

theorem upload_levels_correct :
    ∃ result,
      (∀ fuel, 2 ≤ fuel →
        ontologyTopologicalExecutionLevels fuel uploadNodes uploadEdges = some result) ∧
      ((∃ levels, result = .ok levels) ↔
        EdgesKnown ["llm_extract", "document_upload"] uploadEdges ∧
          Acyclic (LeadsTo uploadEdges)) ∧
      ∀ levels, result = .ok levels →
        LevelsAreDepths ["llm_extract", "document_upload"] uploadEdges levels :=
  topological_levels_correct uploadNodes uploadEdges (by decide)

end MandoForge
