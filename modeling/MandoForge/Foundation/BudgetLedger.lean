/-
Module: MandoForge.Foundation.BudgetLedger
Purpose: Ledgers of budgets: entries with a limit, a counter and an optional
  parent entry.  A ledger whose links climb is a forest, so the results on
  forests say what its counters bound and what charging a lineage preserves.
Trusted boundary: none
Main exports: BudgetLedger, BudgetLedger.budgetsHold_iff
-/
import MandoForge.Foundation.Table
import MandoForge.Foundation.BudgetForest

namespace MandoForge.Foundation

structure BudgetEntry (Key : Type) where
  id : Key
  parent : Option Key
  limit : Option Int
  used : Int

/-- The entries of a ledger, oldest first, one for an id. -/
abbrev BudgetLedger (Key : Type) := Table (BudgetEntry.id : BudgetEntry Key → Key)

namespace BudgetLedger

variable {Key : Type} [DecidableEq Key]

/-- The counters of the direct children of an id, together. -/
def childrenUsed (ledger : BudgetLedger Key) (id : Key) : Int :=
  ((ledger.rows.filter fun entry => decide (entry.parent = some id)).map
    BudgetEntry.used).sum

/-- What an entry consumed itself: its counter less what its children passed
on. -/
def ownUse (ledger : BudgetLedger Key) (entry : BudgetEntry Key) : Int :=
  entry.used - ledger.childrenUsed entry.id

/-- `below` is the ancestor or one of its descendants. -/
def Below (ledger : BudgetLedger Key) (ancestor below : Key) : Prop :=
  Relation.ReflTransGen
    (fun child parent => ∃ entry ∈ ledger, entry.id = child ∧ entry.parent = some parent)
    below ancestor

/-- Budgets hold in a ledger: no counter is over its limit, every counter covers
its children, and the consumption of any set of descendants, their own or, for
unrelated ones, with all that is below them, is within the counter and the limit
of the ancestor. -/
structure BudgetsHold (ledger : BudgetLedger Key) : Prop where
  withinLimit : ∀ entry ∈ ledger, ∀ limit, entry.limit = some limit → entry.used ≤ limit
  coversChildren : ∀ entry ∈ ledger, ledger.childrenUsed entry.id ≤ entry.used
  coversDescendants : ∀ ancestor ∈ ledger, ∀ descendants : List (BudgetEntry Key),
    descendants.Nodup →
    (∀ entry ∈ descendants, entry ∈ ledger ∧ ledger.Below ancestor.id entry.id) →
      (descendants.map ledger.ownUse).sum ≤ ancestor.used ∧
        ∀ limit, ancestor.limit = some limit → (descendants.map ledger.ownUse).sum ≤ limit
  coversUnrelated : ∀ ancestor ∈ ledger, ∀ descendants : List (BudgetEntry Key),
    descendants.Nodup →
    (∀ entry ∈ descendants, entry ∈ ledger ∧ ledger.Below ancestor.id entry.id) →
    (∀ a ∈ descendants, ∀ b ∈ descendants, a ≠ b → ¬ledger.Below a.id b.id) →
      (descendants.map BudgetEntry.used).sum ≤ ancestor.used ∧
        ∀ limit, ancestor.limit = some limit →
          (descendants.map BudgetEntry.used).sum ≤ limit

/-- Every parent is an older entry. -/
def LinksClimb (ledger : BudgetLedger Key) : Prop :=
  ∀ front entry rest, ledger.rows = front ++ entry :: rest → ∀ parent,
    entry.parent = some parent → ∃ older ∈ front, older.id = parent

/-! ### The forest of a ledger -/

section forest

variable {ledger : BudgetLedger Key}

def parentOf (ledger : BudgetLedger Key) (id : Key) : Option Key :=
  (ledger.find? id).bind BudgetEntry.parent

def usedOf (ledger : BudgetLedger Key) (id : Key) : Int :=
  ((ledger.find? id).map BudgetEntry.used).getD 0

theorem parentOf_id {entry : BudgetEntry Key} (member : entry ∈ ledger) :
    ledger.parentOf entry.id = entry.parent := by
  simp [parentOf, Table.find?_key member]

theorem usedOf_id {entry : BudgetEntry Key} (member : entry ∈ ledger) :
    ledger.usedOf entry.id = entry.used := by
  simp [usedOf, Table.find?_key member]

theorem LinksClimb.parent (climb : ledger.LinksClimb) {entry : BudgetEntry Key}
    (member : entry ∈ ledger) {parent : Key} (isParent : entry.parent = some parent) :
    (∃ older ∈ ledger, older.id = parent) ∧
      (ledger.rows.map BudgetEntry.id).idxOf parent <
        (ledger.rows.map BudgetEntry.id).idxOf entry.id := by
  obtain ⟨front, rest, split⟩ := List.append_of_mem (Table.mem_iff.mp member)
  obtain ⟨older, inFront, rfl⟩ := climb front entry rest split parent isParent
  refine ⟨⟨older, Table.mem_iff.mpr (by simp [split, inFront]), rfl⟩, ?_⟩
  have nodup := ledger.nodupKeys
  rw [split, List.map_append, List.map_cons] at nodup ⊢
  have notInFront : entry.id ∉ front.map BudgetEntry.id := by
    have disjoint := (List.nodup_append'.mp nodup).2.2
    exact fun inFront => disjoint inFront (List.mem_cons_self ..)
  rw [List.idxOf_append_of_mem (List.mem_map_of_mem inFront),
    List.idxOf_append_of_notMem notInFront]
  have := List.idxOf_lt_length_of_mem (List.mem_map_of_mem (f := BudgetEntry.id) inFront)
  omega

/-- The forest of the ids of a ledger. -/
def LinksClimb.forest (climb : ledger.LinksClimb) : Forest Key where
  members := (ledger.rows.map BudgetEntry.id).toFinset
  parent := ledger.parentOf
  rank id := (ledger.rows.map BudgetEntry.id).idxOf id
  parent_mem id isMember above isParent := by
    obtain ⟨entry, member, rfl⟩ := List.mem_map.mp (List.mem_toFinset.mp isMember)
    rw [parentOf_id member] at isParent
    obtain ⟨older, olderMember, rfl⟩ := (climb.parent member isParent).1
    exact List.mem_toFinset.mpr (List.mem_map_of_mem olderMember)
  rank_lt id isMember above isParent := by
    obtain ⟨entry, member, rfl⟩ := List.mem_map.mp (List.mem_toFinset.mp isMember)
    rw [parentOf_id member] at isParent
    exact (climb.parent member isParent).2

variable (climb : ledger.LinksClimb)

theorem mem_forest {id : Key} :
    id ∈ climb.forest.members ↔ ∃ entry ∈ ledger, entry.id = id := by
  simp [LinksClimb.forest, Table.mem_iff]

theorem id_mem_forest {entry : BudgetEntry Key} (member : entry ∈ ledger) :
    entry.id ∈ climb.forest.members :=
  (mem_forest climb).mpr ⟨entry, member, rfl⟩

theorem up_iff {child parent : Key} : climb.forest.Up child parent ↔
    ∃ entry ∈ ledger, entry.id = child ∧ entry.parent = some parent := by
  constructor
  · rintro ⟨isMember, isParent⟩
    obtain ⟨entry, member, rfl⟩ := (mem_forest climb).mp isMember
    exact ⟨entry, member, rfl, by rw [← parentOf_id member]; exact isParent⟩
  · rintro ⟨entry, member, rfl, isParent⟩
    exact ⟨id_mem_forest climb member, by rw [← isParent]; exact parentOf_id member⟩

theorem below_iff {ancestor below : Key} :
    ledger.Below ancestor below ↔ climb.forest.AtOrAbove ancestor below := by
  have sameStep : (fun child parent => ∃ entry ∈ ledger, entry.id = child ∧
      entry.parent = some parent) = climb.forest.Up := by
    funext child parent
    exact propext (up_iff climb).symm
  rw [Below, sameStep, Forest.AtOrAbove]

theorem childrenUsed_forest (id : Key) :
    climb.forest.childrenUsed ledger.usedOf id = ledger.childrenUsed id := by
  have sameChildren : climb.forest.children id =
      ((ledger.rows.filter fun entry => decide (entry.parent = some id)).map
        BudgetEntry.id).toFinset := by
    ext child
    rw [Forest.mem_children, up_iff]
    simp only [Table.mem_iff, List.mem_toFinset, List.mem_map, List.mem_filter,
      decide_eq_true_eq]
    constructor
    · rintro ⟨entry, member, isChild, isParent⟩
      exact ⟨entry, ⟨member, isParent⟩, isChild⟩
    · rintro ⟨entry, ⟨member, isParent⟩, isChild⟩
      exact ⟨entry, member, isChild, isParent⟩
  have nodup : ((ledger.rows.filter fun entry => decide (entry.parent = some id)).map
      BudgetEntry.id).Nodup :=
    ledger.nodupKeys.sublist (List.filter_sublist.map _)
  rw [Forest.childrenUsed, sameChildren, List.sum_toFinset _ nodup, List.map_map, childrenUsed]
  congr 1
  refine List.map_congr_left fun entry member => ?_
  exact usedOf_id (List.mem_filter.mp member).1

theorem own_forest {entry : BudgetEntry Key} (member : entry ∈ ledger) :
    climb.forest.own ledger.usedOf entry.id = ledger.ownUse entry := by
  rw [Forest.own, usedOf_id member, childrenUsed_forest, ownUse]

theorem coversChildren_forest : climb.forest.CoversChildren ledger.usedOf ↔
    ∀ entry ∈ ledger, ledger.childrenUsed entry.id ≤ entry.used := by
  constructor
  · intro covers entry member
    have := covers entry.id (id_mem_forest climb member)
    rwa [childrenUsed_forest, usedOf_id member] at this
  · intro covers id isMember
    obtain ⟨entry, member, rfl⟩ := (mem_forest climb).mp isMember
    rw [childrenUsed_forest, usedOf_id member]
    exact covers entry member

end forest

/-! ### Budgets hold once limits do and parents cover their children -/

section BudgetsHold

variable {ledger : BudgetLedger Key}

theorem sum_ids {measure : Key → Int}
    {value : BudgetEntry Key → Int} {descendants : List (BudgetEntry Key)}
    (nodup : descendants.Nodup) (inside : ∀ entry ∈ descendants, entry ∈ ledger)
    (agree : ∀ entry ∈ ledger, measure entry.id = value entry) :
    ∑ id ∈ (descendants.map BudgetEntry.id).toFinset, measure id =
      (descendants.map value).sum := by
  have nodupIds : (descendants.map BudgetEntry.id).Nodup :=
    List.Nodup.map_on (fun a aMember b bMember same =>
      Table.eq_of_key_eq (inside a aMember) (inside b bMember) same) nodup
  rw [List.sum_toFinset _ nodupIds, List.map_map]
  congr 1
  exact List.map_congr_left fun entry member => agree entry (inside entry member)

theorem subset_subtree (climb : ledger.LinksClimb) {ancestor : Key}
    {descendants : List (BudgetEntry Key)}
    (below : ∀ entry ∈ descendants, entry ∈ ledger ∧ ledger.Below ancestor entry.id) :
    (descendants.map BudgetEntry.id).toFinset ⊆ climb.forest.subtree ancestor := by
  intro id isDescendant
  obtain ⟨entry, member, rfl⟩ := List.mem_map.mp (List.mem_toFinset.mp isDescendant)
  exact Forest.mem_subtree.mpr ⟨id_mem_forest climb (below entry member).1,
    (below_iff climb).mp (below entry member).2⟩

theorem budgetsHold_iff (climb : ledger.LinksClimb) : ledger.BudgetsHold ↔
    (∀ entry ∈ ledger, ∀ limit, entry.limit = some limit → entry.used ≤ limit) ∧
      climb.forest.CoversChildren ledger.usedOf := by
  constructor
  · intro held
    exact ⟨held.withinLimit, (coversChildren_forest climb).mpr held.coversChildren⟩
  · rintro ⟨withinLimit, covers⟩
    have descendantsWithin : ∀ ancestor ∈ ledger, ∀ descendants : List (BudgetEntry Key),
        descendants.Nodup →
        (∀ entry ∈ descendants, entry ∈ ledger ∧ ledger.Below ancestor.id entry.id) →
          (descendants.map ledger.ownUse).sum ≤ ancestor.used := by
      intro ancestor member descendants nodup below
      have bound := Forest.sum_own_le covers (id_mem_forest climb member)
        (subset_subtree climb below)
      rwa [sum_ids nodup (fun entry isBelow => (below entry isBelow).1)
        (fun entry inLedger => own_forest climb inLedger), usedOf_id member] at bound
    have unrelatedWithin : ∀ ancestor ∈ ledger, ∀ descendants : List (BudgetEntry Key),
        descendants.Nodup →
        (∀ entry ∈ descendants, entry ∈ ledger ∧ ledger.Below ancestor.id entry.id) →
        (∀ a ∈ descendants, ∀ b ∈ descendants, a ≠ b → ¬ledger.Below a.id b.id) →
          (descendants.map BudgetEntry.used).sum ≤ ancestor.used := by
      intro ancestor member descendants nodup below unrelated
      have bound := Forest.sum_le_of_unrelated covers (id_mem_forest climb member)
        (subset_subtree climb below) (by
          intro a aId b bId different
          obtain ⟨aEntry, aMember, rfl⟩ := List.mem_map.mp (List.mem_toFinset.mp aId)
          obtain ⟨bEntry, bMember, rfl⟩ := List.mem_map.mp (List.mem_toFinset.mp bId)
          rw [← below_iff climb]
          exact unrelated aEntry aMember bEntry bMember fun same => different (same ▸ rfl))
      rwa [sum_ids nodup (fun entry isBelow => (below entry isBelow).1)
        (fun entry inLedger => usedOf_id inLedger), usedOf_id member] at bound
    exact {
      withinLimit
      coversChildren := (coversChildren_forest climb).mp covers
      coversDescendants := fun ancestor member descendants nodup below =>
        have bound := descendantsWithin ancestor member descendants nodup below
        ⟨bound, fun limit isLimit => bound.trans (withinLimit ancestor member limit isLimit)⟩
      coversUnrelated := fun ancestor member descendants nodup below unrelated =>
        have bound := unrelatedWithin ancestor member descendants nodup below unrelated
        ⟨bound, fun limit isLimit => bound.trans (withinLimit ancestor member limit isLimit)⟩ }

theorem budgetsHold_empty : BudgetsHold (Table.empty : BudgetLedger Key) where
  withinLimit _ member := nomatch member
  coversChildren _ member := nomatch member
  coversDescendants _ member := nomatch member
  coversUnrelated _ member := nomatch member

omit [DecidableEq Key] in
theorem linksClimb_empty : LinksClimb (Table.empty : BudgetLedger Key) := by
  intro front entry rest split
  simp at split

end BudgetsHold

/-! ### A new entry -/

section add

variable {ledger : BudgetLedger Key} {entry : BudgetEntry Key}

theorem linksClimb_insert (climb : ledger.LinksClimb) (fresh : ledger.find? entry.id = none)
    (hasParent : ∀ parent, entry.parent = some parent → (ledger.find? parent).isSome = true) :
    LinksClimb (ledger.insert entry) := by
  intro front other rest split parent isParent
  rw [Table.rows_insert_of_fresh fresh] at split
  rcases List.append_eq_append_iff.mp split with
    ⟨middle, frontSplit, entrySplit⟩ | ⟨middle, rowsSplit, restSplit⟩
  · cases middle with
    | nil =>
        obtain ⟨rfl, -⟩ : entry = other ∧ _ := by simpa using entrySplit
        obtain ⟨older, found⟩ := Option.isSome_iff_exists.mp (hasParent parent isParent)
        obtain ⟨member, isOlder⟩ := Table.find?_eq_some.mp found
        exact ⟨older, by simpa [frontSplit] using Table.mem_iff.mp member, isOlder⟩
    | cons head tail => simp at entrySplit
  · cases middle with
    | nil =>
        obtain ⟨rfl, -⟩ : other = entry ∧ _ := by simpa using restSplit
        obtain ⟨older, found⟩ := Option.isSome_iff_exists.mp (hasParent parent isParent)
        obtain ⟨member, isOlder⟩ := Table.find?_eq_some.mp found
        exact ⟨older, by simpa [rowsSplit] using Table.mem_iff.mp member, isOlder⟩
    | cons head tail =>
        obtain ⟨rfl, -⟩ : other = head ∧ _ := by simpa using restSplit
        exact climb front other tail rowsSplit parent isParent

/-- A new entry that used nothing keeps all budgets. -/
theorem budgetsHold_insert (climb : ledger.LinksClimb) (held : ledger.BudgetsHold)
    (fresh : ledger.find? entry.id = none)
    (hasParent : ∀ parent, entry.parent = some parent → (ledger.find? parent).isSome = true)
    (unused : entry.used = 0) (positive : ∀ limit, entry.limit = some limit → 0 < limit) :
    BudgetsHold (ledger.insert entry) := by
  have nextClimb := linksClimb_insert climb fresh hasParent
  have sameChildren : ∀ id, childrenUsed (ledger.insert entry) id = ledger.childrenUsed id := by
    intro id
    simp only [childrenUsed, Table.rows_insert_of_fresh fresh, List.filter_append,
      List.map_append, List.sum_append, List.filter_singleton]
    cases decide (entry.parent = some id) <;> simp [unused]
  have noChildren : ledger.childrenUsed entry.id = 0 := by
    have none : (ledger.rows.filter fun other => decide (other.parent = some entry.id)) = [] := by
      refine List.filter_eq_nil_iff.mpr fun other member => ?_
      simp only [decide_eq_true_eq]
      intro isParent
      obtain ⟨older, olderMember, isOlder⟩ := (climb.parent member isParent).1
      exact Table.find?_eq_none.mp fresh older olderMember isOlder
    simp [childrenUsed, none]
  refine (budgetsHold_iff nextClimb).mpr ⟨?_, (coversChildren_forest nextClimb).mpr ?_⟩
  · intro other member limit isLimit
    rcases (Table.mem_insert_of_fresh fresh).mp member with old | rfl
    · exact held.withinLimit other old limit isLimit
    · exact unused ▸ (positive limit isLimit).le
  · intro other member
    rw [sameChildren]
    rcases (Table.mem_insert_of_fresh fresh).mp member with old | rfl
    · exact held.coversChildren other old
    · rw [noChildren, unused]

end add

/-! ### Charging a lineage -/

/-- Add one unit to the entries of the given ids. -/
def charge (ids : List Key) (ledger : BudgetLedger Key) : BudgetLedger Key where
  rows := ledger.rows.map fun entry =>
    if entry.id ∈ ids then { entry with used := entry.used + 1 } else entry
  nodupKeys := by
    have sameIds : (ledger.rows.map fun entry =>
        if entry.id ∈ ids then { entry with used := entry.used + 1 } else entry).map
          BudgetEntry.id = ledger.rows.map BudgetEntry.id := by
      rw [List.map_map]
      refine List.map_congr_left fun entry _ => ?_
      simp only [Function.comp_apply]
      split <;> rfl
    rw [sameIds]
    exact ledger.nodupKeys

/-- Entries of which each has the next one as its parent, and the last one has
the parent `top`. -/
structure IsLineage (ledger : BudgetLedger Key) (entries : List (BudgetEntry Key))
    (top : Option Key) : Prop where
  members : ∀ entry ∈ entries, entry ∈ ledger
  chain : entries.IsChain fun lower upper => lower.parent = some upper.id
  last : ∀ entry, entries.getLast? = some entry → entry.parent = top

section charge

variable {ledger : BudgetLedger Key} {ids : List Key}

theorem find?_charge (id : Key) : (charge ids ledger).find? id =
    (ledger.find? id).map fun entry =>
      if entry.id ∈ ids then { entry with used := entry.used + 1 } else entry := by
  simp only [Table.find?, charge, List.find?_map]
  congr 2
  funext entry
  simp only [Function.comp_apply]
  split <;> rfl

theorem parentOf_charge : (charge ids ledger).parentOf = ledger.parentOf := by
  funext id
  simp only [parentOf, find?_charge]
  cases ledger.find? id with
  | none => rfl
  | some entry => simp only [Option.map_some, Option.bind_some]; split <;> rfl

theorem charge_charge {more : List Key} (disjoint : ∀ id ∈ more, id ∉ ids) :
    charge more (charge ids ledger) = charge (ids ++ more) ledger := by
  refine Table.ext_rows ?_
  simp only [charge, List.map_map]
  refine List.map_congr_left fun entry _ => ?_
  simp only [Function.comp_apply, List.mem_append]
  by_cases first : entry.id ∈ ids
  · have notMore : entry.id ∉ more := fun again => disjoint _ again first
    simp [first, notMore]
  · simp [first]

theorem linksClimb_charge (climb : ledger.LinksClimb) : LinksClimb (charge ids ledger) := by
  intro front entry rest split parent isParent
  obtain ⟨oldFront, oldTail, rowsSplit, frontEq, tailEq⟩ := List.map_eq_append_iff.mp split
  obtain ⟨oldEntry, oldRest, rfl, entryEq, -⟩ := List.map_eq_cons_iff.mp tailEq
  have oldParent : oldEntry.parent = some parent := by
    rw [← isParent, ← entryEq]
    split <;> rfl
  obtain ⟨older, inFront, isOlder⟩ := climb oldFront oldEntry oldRest rowsSplit parent oldParent
  rw [← frontEq]
  refine ⟨_, List.mem_map_of_mem inFront, ?_⟩
  rw [← isOlder]
  split <;> rfl

theorem forest_charge (climb : ledger.LinksClimb) :
    (linksClimb_charge climb : LinksClimb (charge ids ledger)).forest = climb.forest := by
  have sameIds : (charge ids ledger).rows.map BudgetEntry.id =
      ledger.rows.map BudgetEntry.id := by
    simp only [charge, List.map_map]
    refine List.map_congr_left fun entry _ => ?_
    simp only [Function.comp_apply]
    split <;> rfl
  simp only [LinksClimb.forest, sameIds, parentOf_charge]

theorem usedOf_charge (inside : ∀ id ∈ ids, ∃ entry ∈ ledger, entry.id = id) :
    (charge ids ledger).usedOf = Forest.charge ids ledger.usedOf := by
  funext id
  simp only [usedOf, find?_charge, Forest.charge]
  cases found : ledger.find? id with
  | none =>
      have uncharged : id ∉ ids := fun isCharged => by
        obtain ⟨entry, member, isEntry⟩ := inside id isCharged
        exact Table.find?_eq_none.mp found entry member isEntry
      simp [uncharged]
  | some entry =>
      obtain ⟨-, rfl⟩ := Table.find?_eq_some.mp found
      by_cases isCharged : entry.id ∈ ids <;> simp [isCharged]

theorem IsLineage.ascends {entries : List (BudgetEntry Key)} {top : Option Key}
    (climb : ledger.LinksClimb) (lineage : ledger.IsLineage entries top) :
    climb.forest.Ascends (entries.map BudgetEntry.id) top where
  members id isMember := by
    obtain ⟨entry, member, rfl⟩ := List.mem_map.mp isMember
    exact id_mem_forest climb (lineage.members entry member)
  chain := by
    rw [List.isChain_map]
    refine List.IsChain.imp_of_mem_imp (fun lower upper isMember _ isParent => ?_)
      lineage.chain
    exact (up_iff climb).mpr ⟨lower, lineage.members lower isMember, rfl, isParent⟩
  last id isLast := by
    rw [List.getLast?_map, Option.map_eq_some_iff] at isLast
    obtain ⟨entry, entryLast, rfl⟩ := isLast
    have member := lineage.members entry (List.mem_of_getLast? entryLast)
    exact (parentOf_id member).trans (lineage.last entry entryLast)

/-- Charging a lineage of entries with budget left keeps all budgets exactly
when the parent where the lineage stops, if there is one, has room above its
children. -/
theorem budgetsHold_charge_iff (climb : ledger.LinksClimb) (held : ledger.BudgetsHold)
    {entries : List (BudgetEntry Key)} {top : Option Key}
    (lineage : ledger.IsLineage entries top) (nonEmpty : entries ≠ [])
    (budgetLeft : ∀ entry ∈ entries, ∀ limit, entry.limit = some limit →
      entry.used < limit) :
    BudgetsHold (charge (entries.map BudgetEntry.id) ledger) ↔
      ∀ stop, top = some stop → ledger.childrenUsed stop < ledger.usedOf stop := by
  have inside : ∀ id ∈ entries.map BudgetEntry.id, ∃ entry ∈ ledger, entry.id = id := by
    intro id isMember
    obtain ⟨entry, member, rfl⟩ := List.mem_map.mp isMember
    exact ⟨entry, lineage.members entry member, rfl⟩
  have covers := ((budgetsHold_iff climb).mp held).2
  have limits : ∀ entry ∈ charge (entries.map BudgetEntry.id) ledger, ∀ limit,
      entry.limit = some limit → entry.used ≤ limit := by
    intro entry member limit isLimit
    obtain ⟨old, oldMember, rfl⟩ := List.mem_map.mp (Table.mem_iff.mp member)
    split at isLimit
    · rename_i isCharged
      obtain ⟨charged, chargedMember, sameId⟩ := List.mem_map.mp isCharged
      have same := Table.eq_of_key_eq (lineage.members charged chargedMember) oldMember sameId
      have left := budgetLeft charged chargedMember limit (same ▸ isLimit)
      simp only [isCharged, if_true]
      rw [← same]
      omega
    · rename_i uncharged
      simp only [uncharged, if_false]
      exact held.withinLimit old oldMember limit isLimit
  rw [budgetsHold_iff (linksClimb_charge climb), forest_charge climb, usedOf_charge inside,
    and_iff_right limits,
    Forest.coversChildren_charge_iff covers (lineage.ascends climb) (by simpa using nonEmpty)]
  simp only [childrenUsed_forest]

end charge

end BudgetLedger

end MandoForge.Foundation
