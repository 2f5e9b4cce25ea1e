/-
Module: MandoForge.Foundation.OrderedMap
Purpose: Maps listed in the order of their keys, and what an entry that is made or changed
  in place does to them: to one key, to all of them, and to a sum over the values.
Trusted boundary: none
Main exports: OrderedMap, OrderedMap.entry
-/
import Mathlib.Algebra.BigOperators.Group.List.Basic
import Mathlib.Data.List.Nodup
import Mathlib.Order.Defs.LinearOrder
import Mathlib.Algebra.GroupWithZero.Nat
import Mathlib.Order.Lattice

namespace MandoForge.Foundation

/-- A map with its entries in the order of the keys. -/
structure OrderedMap (Key Value : Type*) [LinearOrder Key] where
  entries : List (Key × Value)
  ordered : (entries.map Prod.fst).Pairwise (· < ·)

namespace OrderedMap

variable {Key Value Item : Type*} [LinearOrder Key]

def empty : OrderedMap Key Value := ⟨[], .nil⟩

def values (map : OrderedMap Key Value) : List Value := map.entries.map Prod.snd

def get? (map : OrderedMap Key Value) (key : Key) : Option Value :=
  (map.entries.find? fun entry => decide (entry.1 = key)).map Prod.snd

/-- The entries with the one of a key changed, or made and then changed. -/
def entryIn (key : Key) (fresh : Value) (change : Value → Value) :
    List (Key × Value) → List (Key × Value)
  | [] => [(key, change fresh)]
  | (name, old) :: rest =>
      if key = name then (name, change old) :: rest
      else if key < name then (key, change fresh) :: (name, old) :: rest
      else (name, old) :: entryIn key fresh change rest

theorem mem_keys_entryIn {key : Key} {fresh : Value} {change : Value → Value}
    {entries : List (Key × Value)} {wanted : Key}
    (member : wanted ∈ (entryIn key fresh change entries).map Prod.fst) :
    wanted = key ∨ wanted ∈ entries.map Prod.fst := by
  induction entries with
  | nil => exact .inl (List.mem_singleton.mp member)
  | cons first rest inductionHypothesis =>
      obtain ⟨name, old⟩ := first
      rw [entryIn] at member
      split at member
      · exact .inr member
      · split at member
        · exact (List.mem_cons.mp member).imp_right id
        · rcases List.mem_cons.mp member with rfl | inRest
          · exact .inr List.mem_cons_self
          · exact (inductionHypothesis inRest).imp_right (List.mem_cons_of_mem _)

theorem ordered_entryIn {key : Key} {fresh : Value} {change : Value → Value}
    {entries : List (Key × Value)} (ordered : (entries.map Prod.fst).Pairwise (· < ·)) :
    ((entryIn key fresh change entries).map Prod.fst).Pairwise (· < ·) := by
  induction entries with
  | nil => exact List.pairwise_singleton _ _
  | cons first rest inductionHypothesis =>
      obtain ⟨name, old⟩ := first
      have later := List.pairwise_cons.mp ordered
      rw [entryIn]
      split
      next same => exact ordered
      next different =>
        split
        next before =>
          refine List.pairwise_cons.mpr ⟨?_, ordered⟩
          intro other member
          rcases List.mem_cons.mp member with rfl | inRest
          · exact before
          · exact lt_trans before (later.1 other inRest)
        next notBefore =>
          have after : name < key := lt_of_le_of_ne (not_lt.mp notBefore) (Ne.symm different)
          refine List.pairwise_cons.mpr ⟨?_, inductionHypothesis later.2⟩
          intro other member
          rcases mem_keys_entryIn member with rfl | inRest
          · exact after
          · exact later.1 other inRest

/-- `entry(key).or_insert(fresh)`, with what is done to the value there. -/
def entry (map : OrderedMap Key Value) (key : Key) (fresh : Value) (change : Value → Value) :
    OrderedMap Key Value :=
  ⟨entryIn key fresh change map.entries, ordered_entryIn map.ordered⟩

@[simp] theorem get?_empty (key : Key) : (empty : OrderedMap Key Value).get? key = none := rfl

theorem find?_eq_none_of_before {entries : List (Key × Value)} {key : Key}
    (before : ∀ other ∈ entries.map Prod.fst, key < other) :
    (entries.find? fun entry => decide (entry.1 = key)) = none := by
  refine List.find?_eq_none.mpr fun entry member isKey => ?_
  exact absurd (before entry.1 (List.mem_map_of_mem member))
    (by rw [decide_eq_true_eq.mp isKey]; exact lt_irrefl key)

/-- An entry changes the value of its own key only. -/
theorem get?_entry (map : OrderedMap Key Value) (key wanted : Key) (fresh : Value)
    (change : Value → Value) :
    (map.entry key fresh change).get? wanted =
      if wanted = key then some (change ((map.get? key).getD fresh)) else map.get? wanted := by
  obtain ⟨entries, ordered⟩ := map
  simp only [entry, get?]
  induction entries with
  | nil =>
      by_cases isKey : wanted = key
      · simp [entryIn, isKey]
      · simp [entryIn, isKey, Ne.symm isKey]
  | cons first rest inductionHypothesis =>
      obtain ⟨name, old⟩ := first
      have later := List.pairwise_cons.mp ordered
      have step := inductionHypothesis later.2
      by_cases same : key = name
      · subst same
        by_cases isKey : wanted = key
        · simp [entryIn, isKey]
        · simp [entryIn, isKey, Ne.symm isKey]
      · by_cases before : key < name
        · have absent : (rest.find? fun entry => decide (entry.1 = key)) = none :=
            find?_eq_none_of_before fun other member => lt_trans before (later.1 other member)
          by_cases isKey : wanted = key
          · simp [entryIn, same, before, isKey, Ne.symm same, absent]
          · simp [entryIn, same, before, isKey, Ne.symm isKey]
        · by_cases isName : name = wanted
          · subst isName
            simp [entryIn, same, before, Ne.symm same]
          · simp [entryIn, same, before, isName, step, Ne.symm same]

theorem mem_entries_iff {map : OrderedMap Key Value} {key : Key} {value : Value} :
    (key, value) ∈ map.entries ↔ map.get? key = some value := by
  have distinct : (map.entries.map Prod.fst).Nodup := map.ordered.imp fun before => ne_of_lt before
  rw [get?, Option.map_eq_some_iff]
  constructor
  · intro member
    refine ⟨(key, value), ?_, rfl⟩
    cases found : map.entries.find? fun entry => decide (entry.1 = key) with
    | none => exact absurd (List.find?_eq_none.mp found _ member) (by simp)
    | some entry =>
        have isKey : entry.1 = key := by simpa using List.find?_some found
        exact congrArg some
          (List.inj_on_of_nodup_map distinct (List.mem_of_find?_eq_some found) member isKey)
  · rintro ⟨entry, found, rfl⟩
    have isKey : entry.1 = key := by simpa using List.find?_some found
    exact isKey ▸ List.mem_of_find?_eq_some found

/-! ### Tallies -/

/-- A loop that makes or changes one entry for each item. -/
def tally (keyOf : Item → Key) (fresh : Item → Value) (change : Item → Value → Value)
    (items : List Item) (start : OrderedMap Key Value) : OrderedMap Key Value :=
  items.foldl (fun map item => map.entry (keyOf item) (fresh item) (change item)) start

section amounts

variable {keyOf : Item → Key} {fresh : Item → Value} {change : Item → Value → Value}
  {items : List Item} {amount : Value → Nat} {weight : Item → Nat}

/-- What the value of a key amounts to; what is not there amounts to nothing. -/
def amountAt (amount : Value → Nat) (map : OrderedMap Key Value) (key : Key) : Nat :=
  ((map.get? key).map amount).getD 0

/-- When each change adds the weight of its item, a key amounts to the weights of its own
items. -/
theorem amountAt_tally (startsEmpty : ∀ item ∈ items, amount (fresh item) = 0)
    (adds : ∀ item ∈ items, ∀ value, amount (change item value) = amount value + weight item)
    (start : OrderedMap Key Value) (key : Key) :
    amountAt amount (tally keyOf fresh change items start) key = amountAt amount start key +
      ((items.filter fun item => decide (keyOf item = key)).map weight).sum := by
  induction items generalizing start with
  | nil => simp [tally]
  | cons item items inductionHypothesis =>
      obtain ⟨empty, startsEmpty⟩ := List.forall_mem_cons.mp startsEmpty
      obtain ⟨added, adds⟩ := List.forall_mem_cons.mp adds
      have step : amountAt amount (start.entry (keyOf item) (fresh item) (change item)) key =
          amountAt amount start key + if keyOf item = key then weight item else 0 := by
        rw [amountAt, get?_entry]
        by_cases isKey : keyOf item = key
        · subst isKey
          rw [if_pos rfl, if_pos rfl, amountAt]
          cases start.get? (keyOf item) with
          | none => simp [added, empty]
          | some value => simp [added]
        · rw [if_neg (Ne.symm isKey), if_neg isKey, amountAt, Nat.add_zero]
      have run := inductionHypothesis startsEmpty adds
        (start.entry (keyOf item) (fresh item) (change item))
      rw [step] at run
      rw [tally, List.foldl_cons, ← tally, run]
      by_cases isKey : keyOf item = key
      · simp [isKey, Nat.add_assoc]
      · simp [isKey]

theorem sum_entry {key : Key} {fresh : Value} {change : Value → Value} {weight : Nat}
    (startsEmpty : amount fresh = 0) (adds : ∀ value, amount (change value) = amount value + weight)
    (map : OrderedMap Key Value) :
    ((map.entry key fresh change).values.map amount).sum =
      (map.values.map amount).sum + weight := by
  obtain ⟨entries, ordered⟩ := map
  simp only [entry, values]
  clear ordered
  induction entries with
  | nil => simp [entryIn, adds, startsEmpty]
  | cons first rest inductionHypothesis =>
      obtain ⟨name, old⟩ := first
      rw [entryIn]
      split
      · simp only [List.map_cons, List.sum_cons, adds]
        omega
      · split
        · simp only [List.map_cons, List.sum_cons, adds, startsEmpty]
          omega
        · simp only [List.map_cons, List.sum_cons, inductionHypothesis]
          omega

theorem sum_tally (startsEmpty : ∀ item ∈ items, amount (fresh item) = 0)
    (adds : ∀ item ∈ items, ∀ value, amount (change item value) = amount value + weight item)
    (start : OrderedMap Key Value) :
    ((tally keyOf fresh change items start).values.map amount).sum =
      (start.values.map amount).sum + (items.map weight).sum := by
  induction items generalizing start with
  | nil => simp [tally]
  | cons item items inductionHypothesis =>
      obtain ⟨empty, startsEmpty⟩ := List.forall_mem_cons.mp startsEmpty
      obtain ⟨added, adds⟩ := List.forall_mem_cons.mp adds
      rw [tally, List.foldl_cons, ← tally, inductionHypothesis startsEmpty adds,
        sum_entry empty added, List.map_cons, List.sum_cons, Nat.add_assoc]

end amounts

/-- A relation of values to their keys that new values have and that no change breaks. -/
theorem holds_tally {keyOf : Item → Key} {fresh : Item → Value} {change : Item → Value → Value}
    {items : List Item} {relation : Key → Value → Prop}
    (starts : ∀ item ∈ items, relation (keyOf item) (fresh item))
    (keeps : ∀ item ∈ items, ∀ value, relation (keyOf item) value →
      relation (keyOf item) (change item value))
    {start : OrderedMap Key Value}
    (holds : ∀ key value, start.get? key = some value → relation key value) (key : Key)
    (value : Value) (found : (tally keyOf fresh change items start).get? key = some value) :
    relation key value := by
  induction items generalizing start with
  | nil => exact holds key value found
  | cons item items inductionHypothesis =>
      obtain ⟨itemStarts, starts⟩ := List.forall_mem_cons.mp starts
      obtain ⟨itemKeeps, keeps⟩ := List.forall_mem_cons.mp keeps
      refine inductionHypothesis starts keeps (fun key value isThere => ?_) found
      rw [get?_entry] at isThere
      by_cases isKey : key = keyOf item
      · subst isKey
        rw [if_pos rfl] at isThere
        obtain rfl := Option.some.inj isThere
        refine itemKeeps _ ?_
        cases before : start.get? (keyOf item) with
        | none => exact itemStarts
        | some old => exact holds _ old before
      · rw [if_neg isKey] at isThere
        exact holds key value isThere

/-- Every item has its entry. -/
theorem isSome_tally {keyOf : Item → Key} {fresh : Item → Value}
    {change : Item → Value → Value} {items : List Item} {start : OrderedMap Key Value} {key : Key}
    (known : (start.get? key).isSome = true ∨ ∃ item ∈ items, keyOf item = key) :
    ((tally keyOf fresh change items start).get? key).isSome = true := by
  induction items generalizing start with
  | nil =>
      rcases known with isThere | ⟨item, member, -⟩
      · exact isThere
      · cases member
  | cons item items inductionHypothesis =>
      refine inductionHypothesis ?_
      rw [get?_entry]
      by_cases isKey : key = keyOf item
      · exact .inl (by rw [if_pos isKey]; rfl)
      · rw [if_neg isKey]
        rcases known with isThere | ⟨other, member, otherKey⟩
        · exact .inl isThere
        · rcases List.mem_cons.mp member with rfl | inRest
          · exact absurd otherKey.symm isKey
          · exact .inr ⟨other, inRest, otherKey⟩

/-! ### Maps from their entries -/

/-- The later of two values of one key stays. -/
def ofEntries (entries : List (Key × Value)) : OrderedMap Key Value :=
  tally Prod.fst Prod.snd (fun entry _ => entry.2) entries empty

theorem entryIn_of_last {key : Key} {fresh : Value} {change : Value → Value}
    {entries : List (Key × Value)} (last : ∀ other ∈ entries.map Prod.fst, other < key) :
    entryIn key fresh change entries = entries ++ [(key, change fresh)] := by
  induction entries with
  | nil => rfl
  | cons first rest inductionHypothesis =>
      obtain ⟨name, old⟩ := first
      obtain ⟨before, last⟩ := List.forall_mem_cons.mp last
      rw [entryIn, if_neg (ne_of_gt before), if_neg (not_lt_of_gt before),
        inductionHypothesis last, List.cons_append]

theorem ext_entries {map other : OrderedMap Key Value} (same : map.entries = other.entries) :
    map = other := by
  obtain ⟨entries, ordered⟩ := map
  obtain ⟨others, otherOrdered⟩ := other
  obtain rfl : entries = others := same
  rfl

/-- A map is built again from its entries. -/
theorem ofEntries_entries (map : OrderedMap Key Value) : ofEntries map.entries = map := by
  have grow (entries : List (Key × Value)) (start : OrderedMap Key Value)
      (ordered : ((start.entries ++ entries).map Prod.fst).Pairwise (· < ·)) :
      (tally Prod.fst Prod.snd (fun entry _ => entry.2) entries start).entries =
        start.entries ++ entries := by
    induction entries generalizing start with
    | nil => exact (List.append_nil _).symm
    | cons first rest inductionHypothesis =>
        obtain ⟨name, value⟩ := first
        have last : ∀ other ∈ start.entries.map Prod.fst, other < name := by
          rw [List.map_append, List.pairwise_append] at ordered
          exact fun other member => ordered.2.2 other member name List.mem_cons_self
        have added : (start.entry name value fun _ => value).entries =
            start.entries ++ [(name, value)] := entryIn_of_last last
        rw [tally, List.foldl_cons, ← tally, inductionHypothesis]
        · rw [added, List.append_assoc, List.singleton_append]
        · rw [added, List.append_assoc, List.singleton_append]
          exact ordered
  exact ext_entries (grow map.entries empty map.ordered)

end OrderedMap

end MandoForge.Foundation
