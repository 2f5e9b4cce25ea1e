/-
Module: MandoForge.Foundation.Table
Purpose: Keyed tables of records, kept in insertion order.  A table has one row
  for a key by construction, so looking a key up and walking the rows agree.
Trusted boundary: none
Main exports: Table, Table.insert
-/
import Mathlib.Data.List.Nodup
import Mathlib.Data.List.Basic

namespace MandoForge.Foundation

/-- Rows with pairwise different keys, oldest first. -/
structure Table {Row Key : Type} (key : Row → Key) where
  rows : List Row
  nodupKeys : (rows.map key).Nodup

namespace Table

variable {Row Key : Type} {key : Row → Key}

instance : Membership Row (Table key) where
  mem table row := row ∈ table.rows

theorem mem_iff {table : Table key} {row : Row} : row ∈ table ↔ row ∈ table.rows := Iff.rfl

def empty : Table key := ⟨[], List.nodup_nil⟩

@[simp] theorem rows_empty : (empty : Table key).rows = [] := rfl

theorem ext_rows {a b : Table key} (same : a.rows = b.rows) : a = b := by
  cases a
  cases b
  simp_all

theorem eq_of_key_eq {table : Table key} {a b : Row} (aMember : a ∈ table)
    (bMember : b ∈ table) (same : key a = key b) : a = b :=
  List.inj_on_of_nodup_map table.nodupKeys aMember bMember same

variable [DecidableEq Key]

instance [DecidableEq Row] : DecidableEq (Table key) := fun a b =>
  decidable_of_iff (a.rows = b.rows) ⟨ext_rows, fun same => same ▸ rfl⟩

def find? (table : Table key) (wanted : Key) : Option Row :=
  table.rows.find? fun row => decide (key row = wanted)

theorem find?_eq_some {table : Table key} {wanted : Key} {row : Row} :
    table.find? wanted = some row ↔ row ∈ table ∧ key row = wanted := by
  constructor
  · intro found
    exact ⟨List.mem_of_find?_eq_some found, by simpa using List.find?_some found⟩
  · rintro ⟨member, rfl⟩
    cases found : table.find? (key row) with
    | none =>
        have absent := List.find?_eq_none.mp found row member
        simp at absent
    | some other =>
        have otherMember : other ∈ table := List.mem_of_find?_eq_some found
        have sameKey : key other = key row := by simpa using List.find?_some found
        rw [eq_of_key_eq otherMember member sameKey]

theorem find?_eq_none {table : Table key} {wanted : Key} :
    table.find? wanted = none ↔ ∀ row ∈ table, key row ≠ wanted := by
  simp [find?, mem_iff]

theorem find?_key {table : Table key} {row : Row} (member : row ∈ table) :
    table.find? (key row) = some row :=
  find?_eq_some.mpr ⟨member, rfl⟩

/-- Change the row of a key in place, if there is one; the key itself stays. -/
def modify (table : Table key) (wanted : Key) (change : Row → Row)
    (keeps : ∀ row, key (change row) = key row := by intro _; rfl) : Table key where
  rows := table.rows.map fun row => if key row = wanted then change row else row
  nodupKeys := by
    have sameKeys : (table.rows.map fun row =>
        if key row = wanted then change row else row).map key = table.rows.map key := by
      rw [List.map_map]
      refine List.map_congr_left fun row _ => ?_
      simp only [Function.comp_apply]
      split_ifs <;> simp [keeps]
    rw [sameKeys]
    exact table.nodupKeys

section modify

variable {table : Table key} {wanted other : Key} {change : Row → Row}
  {keeps : ∀ row, key (change row) = key row}

theorem rows_modify : (table.modify wanted change keeps).rows =
    table.rows.map fun row => if key row = wanted then change row else row := rfl

theorem find?_modify_same : (table.modify wanted change keeps).find? wanted =
    (table.find? wanted).map change := by
  simp only [find?, rows_modify, List.find?_map]
  have samePredicate : (fun row : Row => decide (key row = wanted)) ∘
      (fun row => if key row = wanted then change row else row) =
      fun row => decide (key row = wanted) := by
    funext row
    simp only [Function.comp_apply]
    split_ifs with isWanted <;> simp [isWanted, keeps]
  rw [samePredicate]
  cases found : table.rows.find? fun row => decide (key row = wanted) with
  | none => rfl
  | some row =>
      have isWanted : key row = wanted := by simpa using List.find?_some found
      simp [isWanted]

theorem find?_modify_ne (different : other ≠ wanted) :
    (table.modify wanted change keeps).find? other = table.find? other := by
  simp only [find?, rows_modify, List.find?_map]
  have samePredicate : (fun row : Row => decide (key row = other)) ∘
      (fun row => if key row = wanted then change row else row) =
      fun row => decide (key row = other) := by
    funext row
    simp only [Function.comp_apply]
    split_ifs with isWanted <;> simp [isWanted, keeps]
  rw [samePredicate]
  cases found : table.rows.find? fun row => decide (key row = other) with
  | none => rfl
  | some row =>
      have isOther : key row = other := by simpa using List.find?_some found
      simp [isOther, different]

theorem mem_modify {row : Row} : row ∈ table.modify wanted change keeps ↔
    ∃ old ∈ table, row = if key old = wanted then change old else old := by
  simp [mem_iff, rows_modify, eq_comm]

theorem modify_of_absent (absent : table.find? wanted = none) :
    table.modify wanted change keeps = table := by
  apply ext_rows
  rw [rows_modify]
  nth_rewrite 2 [← List.map_id table.rows]
  refine List.map_congr_left fun row member => ?_
  rw [if_neg (find?_eq_none.mp absent row member)]
  rfl

theorem modify_of_unchanged (unchanged : ∀ row ∈ table, key row = wanted → change row = row) :
    table.modify wanted change keeps = table := by
  apply ext_rows
  rw [rows_modify]
  nth_rewrite 2 [← List.map_id table.rows]
  refine List.map_congr_left fun row member => ?_
  split_ifs with isWanted
  · exact unchanged row member isWanted
  · rfl

theorem map_modify {Column : Type} {column : Row → Column}
    (keeps : ∀ row, key (change row) = key row)
    (unchanged : ∀ row, column (change row) = column row) :
    (table.modify wanted change keeps).rows.map column = table.rows.map column := by
  rw [rows_modify, List.map_map]
  refine List.map_congr_left fun row _ => ?_
  simp only [Function.comp_apply]
  split_ifs <;> simp [unchanged]

end modify

/-- Change every row in place; the keys stay. -/
def mapRows (table : Table key) (change : Row → Row) (keeps : ∀ row, key (change row) = key row) :
    Table key where
  rows := table.rows.map change
  nodupKeys := by
    have sameKeys : key ∘ change = key := funext keeps
    rw [List.map_map, sameKeys]
    exact table.nodupKeys

section mapRows

variable {table : Table key} {wanted : Key} {change : Row → Row}
  {keeps : ∀ row, key (change row) = key row}

theorem find?_mapRows : (table.mapRows change keeps).find? wanted =
    (table.find? wanted).map change := by
  simp only [find?, mapRows, List.find?_map]
  have samePredicate : (fun row : Row => decide (key row = wanted)) ∘ change =
      fun row => decide (key row = wanted) := by
    funext row
    simp only [Function.comp_apply, keeps]
  rw [samePredicate]

theorem mem_mapRows {row : Row} :
    row ∈ table.mapRows change keeps ↔ ∃ old ∈ table, change old = row :=
  List.mem_map

end mapRows

/-- Add a row under a key that no row has. -/
def add (table : Table key) (row : Row) (fresh : table.find? (key row) = none) :
    Table key where
  rows := table.rows ++ [row]
  nodupKeys := by
    rw [List.map_append, List.nodup_append']
    refine ⟨table.nodupKeys, List.nodup_singleton _, ?_⟩
    simp only [List.map_cons, List.map_nil, List.disjoint_singleton, List.mem_map,
      not_exists, not_and]
    exact fun old member => find?_eq_none.mp fresh old member

/-- `HashMap::insert`: replace the row of the key, or add one. -/
def insert (table : Table key) (row : Row) : Table key :=
  if fresh : table.find? (key row) = none then table.add row fresh
  else
    { rows := table.rows.map fun old => if key old = key row then row else old
      nodupKeys := by
        have sameKeys : (table.rows.map fun old =>
            if key old = key row then row else old).map key = table.rows.map key := by
          rw [List.map_map]
          refine List.map_congr_left fun old _ => ?_
          simp only [Function.comp_apply]
          split_ifs with same <;> simp [same]
        rw [sameKeys]
        exact table.nodupKeys }

theorem rows_insert_of_fresh {table : Table key} {row : Row}
    (fresh : table.find? (key row) = none) :
    (table.insert row).rows = table.rows ++ [row] := by
  simp [insert, fresh, add]

theorem find?_insert_same {table : Table key} {row : Row} :
    (table.insert row).find? (key row) = some row := by
  refine find?_eq_some.mpr ⟨?_, rfl⟩
  unfold insert
  split
  · simp [mem_iff, add]
  · rename_i present
    obtain ⟨old, found⟩ := Option.ne_none_iff_exists'.mp present
    obtain ⟨member, sameKey⟩ := find?_eq_some.mp found
    exact List.mem_map.mpr ⟨old, member, by simp [sameKey]⟩

theorem mem_insert {table : Table key} {row other : Row} (member : other ∈ table.insert row) :
    other ∈ table ∨ other = row := by
  unfold insert at member
  split at member
  · simpa [mem_iff, add] using member
  · obtain ⟨old, oldMember, rfl⟩ := List.mem_map.mp member
    split
    · exact .inr rfl
    · exact .inl oldMember

theorem mem_insert_of_fresh {table : Table key} {row other : Row}
    (fresh : table.find? (key row) = none) :
    other ∈ table.insert row ↔ other ∈ table ∨ other = row := by
  simp [mem_iff, rows_insert_of_fresh fresh]

theorem find?_insert_ne {table : Table key} {row : Row} {other : Key}
    (fresh : table.find? (key row) = none) (different : other ≠ key row) :
    (table.insert row).find? other = table.find? other := by
  simp only [find?, rows_insert_of_fresh fresh, List.find?_append]
  simp [different.symm]

/-- A row that takes the place of another leaves the rest as well. -/
theorem find?_insert_of_ne {table : Table key} {row : Row} {other : Key}
    (different : other ≠ key row) : (table.insert row).find? other = table.find? other := by
  cases present : table.find? (key row) with
  | none => exact find?_insert_ne present different
  | some old =>
      have sameKey : ∀ stored : Row,
          key (if key stored = key row then row else stored) = key stored := by
        intro stored
        split
        · rename_i same
          exact same.symm
        · rfl
      have replaced : (table.insert row).rows =
          table.rows.map fun stored => if key stored = key row then row else stored := by
        unfold insert
        split
        · rename_i fresh
          rw [present] at fresh
          cases fresh
        · rfl
      unfold find?
      rw [replaced, List.find?_map]
      simp only [Function.comp_def, sameKey]
      cases found : table.rows.find? fun stored => decide (key stored = other) with
      | none => rfl
      | some stored =>
          have isOther : key stored = other := by simpa using List.find?_some found
          rw [Option.map_some, if_neg (isOther ▸ different)]

/-- A changed row in place of the old one. -/
theorem modify_eq_insert {table : Table key} {wanted : Key} {row : Row} {change : Row → Row}
    {keeps : ∀ row, key (change row) = key row} (found : table.find? wanted = some row) :
    table.modify wanted change keeps = table.insert (change row) := by
  obtain ⟨member, rfl⟩ := find?_eq_some.mp found
  apply ext_rows
  have present : table.find? (key (change row)) ≠ none := by
    rw [keeps, found]
    exact Option.some_ne_none _
  rw [insert, dif_neg present, rows_modify]
  apply List.map_congr_left
  intro old oldMember
  rw [keeps]
  by_cases same : key old = key row
  · rw [if_pos same, if_pos same, eq_of_key_eq oldMember member same]
  · rw [if_neg same, if_neg same]

/-- `HashMap::remove`. -/
def remove (table : Table key) (wanted : Key) : Table key where
  rows := table.rows.filter fun row => decide (key row ≠ wanted)
  nodupKeys := table.nodupKeys.sublist (List.filter_sublist.map key)

theorem mem_remove {table : Table key} {wanted : Key} {row : Row} :
    row ∈ table.remove wanted ↔ row ∈ table ∧ key row ≠ wanted := by
  simp [mem_iff, remove]

theorem find?_remove_ne {table : Table key} {wanted other : Key} (different : other ≠ wanted) :
    (table.remove wanted).find? other = table.find? other := by
  simp only [find?, remove, List.find?_filter]
  congr 1
  funext row
  by_cases isOther : key row = other
  · simp [isOther, different]
  · simp [isOther]

/-! ### One row of two tables -/

/-- The second table has the row in place of what the first one has under the key,
and the other rows as they were. -/
def Replaces (wanted : Key) (row : Row) (before after : Table key) : Prop :=
  after.find? wanted = some row ∧
    ∀ other, other ≠ wanted → after.find? other = before.find? other

theorem replaces_modify {table : Table key} {wanted : Key} {row : Row} {change : Row → Row}
    (keeps : ∀ row, key (change row) = key row) (found : table.find? wanted = some row) :
    Replaces wanted (change row) table (table.modify wanted change keeps) := by
  refine ⟨?_, fun other different => find?_modify_ne different⟩
  rw [find?_modify_same, found]
  rfl

theorem replaces_insert {table : Table key} {row : Row} :
    Replaces (key row) row table (table.insert row) :=
  ⟨find?_insert_same, fun _ different => find?_insert_of_ne different⟩

theorem Replaces.mem {before after : Table key} {wanted : Key} {row other : Row}
    (replaces : Replaces wanted row before after) (member : other ∈ after) :
    other = row ∨ (key other ≠ wanted ∧ other ∈ before) := by
  have found := find?_key member
  by_cases same : key other = wanted
  · rw [same, replaces.1] at found
    exact .inl (Option.some.inj found).symm
  · rw [replaces.2 _ same] at found
    exact .inr ⟨same, (find?_eq_some.mp found).1⟩

theorem mem_insert_iff {table : Table key} {row other : Row} :
    other ∈ table.insert row ↔ other = row ∨ (key other ≠ key row ∧ other ∈ table) := by
  constructor
  · exact replaces_insert.mem
  · rintro (rfl | ⟨different, member⟩)
    · exact (find?_eq_some.mp find?_insert_same).1
    · have found := find?_key member
      rw [← find?_insert_of_ne different] at found
      exact (find?_eq_some.mp found).1

/-- A list of rows with distinct keys is laid over a table. -/
theorem mem_foldl_insert {rows : List Row} {table : Table key}
    (distinct : (rows.map key).Nodup) {row : Row} :
    row ∈ rows.foldl insert table ↔ row ∈ rows ∨ (key row ∉ rows.map key ∧ row ∈ table) := by
  induction rows generalizing table with
  | nil => simp
  | cons first rows inductionHypothesis =>
      rw [List.map_cons, List.nodup_cons] at distinct
      rw [List.foldl_cons, inductionHypothesis distinct.2, mem_insert_iff, List.map_cons,
        List.mem_cons, List.mem_cons, not_or]
      constructor
      · rintro (later | ⟨notLater, rfl | ⟨differs, old⟩⟩)
        · exact .inl (.inr later)
        · exact .inl (.inl rfl)
        · exact .inr ⟨⟨differs, notLater⟩, old⟩
      · rintro ((rfl | later) | ⟨⟨differs, notLater⟩, old⟩)
        · exact .inr ⟨distinct.1, .inl rfl⟩
        · exact .inl later
        · exact .inr ⟨notLater, .inr ⟨differs, old⟩⟩

theorem Replaces.mem_new {before after : Table key} {wanted : Key} {row : Row}
    (replaces : Replaces wanted row before after) : row ∈ after :=
  (find?_eq_some.mp replaces.1).1

theorem Replaces.mem_old {before after : Table key} {wanted : Key} {row other : Row}
    (replaces : Replaces wanted row before after) (member : other ∈ before)
    (isOther : key other ≠ wanted) : other ∈ after := by
  have found := find?_key member
  rw [← replaces.2 _ isOther] at found
  exact (find?_eq_some.mp found).1

end Table

theorem le_foldr_max {keys : List Nat} {key : Nat} (member : key ∈ keys) :
    key ≤ keys.foldr max 0 := by
  induction keys with
  | nil => cases member
  | cons first rest inductionHypothesis =>
      rw [List.foldr_cons]
      cases member with
      | head => exact Nat.le_max_left _ _
      | tail _ member => exact Nat.le_trans (inductionHypothesis member) (Nat.le_max_right _ _)

/-! ### Drawn keys -/

namespace Table

variable {Row : Type} {number : Row → Nat}

/-- A key drawn at random: a new one, whichever it is. -/
def drawKey (table : Table number) (draw : Nat) : Nat :=
  if (table.find? draw).isNone then draw else (table.rows.map number).foldr max 0 + 1

theorem find?_drawKey {table : Table number} {draw : Nat} :
    table.find? (table.drawKey draw) = none := by
  unfold drawKey
  split
  · rename_i isNew
    exact Option.isNone_iff_eq_none.mp isNew
  · apply find?_eq_none.mpr
    intro row member same
    have below := le_foldr_max (List.mem_map.mpr ⟨row, member, rfl⟩ :
      number row ∈ table.rows.map number)
    omega

end Table

end MandoForge.Foundation
