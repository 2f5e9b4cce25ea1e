/-
Module: MandoForge.Data.JsonOrder
Purpose: The order of the keys of an object: values that differ in nothing else, and the
  one of them whose keys are in order, as the library's map keeps them.
Trusted boundary: none
Main exports: inKeyOrder, Json.keysInOrder
-/
import MandoForge.Data.JsonText
import Mathlib.Data.List.Sort
import Mathlib.Data.List.Perm.Basic
import Mathlib.Data.String.Basic

namespace MandoForge

/-- Pairs in the order of their keys, as a `BTreeMap` lists them. -/
def inKeyOrder {Value : Type} (fields : List (String × Value)) : List (String × Value) :=
  fields.insertionSort fun left right => left.1 ≤ right.1

theorem perm_inKeyOrder {Value : Type} (fields : List (String × Value)) :
    (inKeyOrder fields).Perm fields :=
  List.perm_insertionSort ..

theorem inKeyOrder_map {Value Other : Type} (change : Value → Other)
    (fields : List (String × Value)) :
    inKeyOrder (fields.map fun field => (field.1, change field.2)) =
      (inKeyOrder fields).map fun field => (field.1, change field.2) :=
  (List.map_insertionSort (fun left right : String × Value => left.1 ≤ right.1)
    (fun left right : String × Other => left.1 ≤ right.1) _ fields fun _ _ _ _ => Iff.rfl).symm

theorem pairwise_inKeyOrder {Value : Type} (fields : List (String × Value)) :
    (inKeyOrder fields).Pairwise fun left right => left.1 ≤ right.1 := by
  have total : Std.Total fun left right : String × Value => left.1 ≤ right.1 :=
    ⟨fun left right => le_total left.1 right.1⟩
  have transitive : IsTrans (String × Value) fun left right => left.1 ≤ right.1 :=
    ⟨fun _ _ _ => le_trans⟩
  exact List.pairwise_insertionSort _ fields

theorem inKeyOrder_eq_of_perm {Value : Type} {fields others : List (String × Value)}
    (distinct : (fields.map Prod.fst).Nodup) (reordered : fields.Perm others) :
    inKeyOrder fields = inKeyOrder others := by
  have sorted : (inKeyOrder fields).Perm (inKeyOrder others) :=
    (perm_inKeyOrder fields).trans (reordered.trans (perm_inKeyOrder others).symm)
  refine sorted.eq_of_pairwise ?_ (pairwise_inKeyOrder fields) (pairwise_inKeyOrder others)
  intro left right isLeft isRight before after
  have leftMember := (perm_inKeyOrder fields).mem_iff.mp isLeft
  have rightMember := reordered.symm.mem_iff.mp ((perm_inKeyOrder others).mem_iff.mp isRight)
  exact List.inj_on_of_nodup_map distinct leftMember rightMember (le_antisymm before after)

theorem inKeyOrder_of_pairwise {Value : Type} {fields : List (String × Value)}
    (ordered : (fields.map Prod.fst).Pairwise (· < ·)) : inKeyOrder fields = fields := by
  have kept : fields.Pairwise fun left right => left.1 ≤ right.1 :=
    (List.pairwise_map.mp ordered).imp le_of_lt
  have sorted := perm_inKeyOrder fields
  refine sorted.eq_of_pairwise ?_ (pairwise_inKeyOrder fields) kept
  intro left right isLeft isRight before after
  exact List.inj_on_of_nodup_map (ordered.imp fun before => ne_of_lt before)
    (sorted.mem_iff.mp isLeft) isRight (le_antisymm before after)

namespace Json

mutual

/-- The value with the keys of its objects in order. -/
def sortKeys : Json → Json
  | .array items => .array (sortItems items)
  | .object fields => .object (inKeyOrder (sortFields fields))
  | value => value

def sortItems : List Json → List Json
  | [] => []
  | item :: rest => sortKeys item :: sortItems rest

def sortFields : List (String × Json) → List (String × Json)
  | [] => []
  | (key, value) :: rest => (key, sortKeys value) :: sortFields rest

end

mutual

/-- The keys of every object are in order, as the library's map keeps them. -/
def keysInOrder : Json → Bool
  | .array items => itemsKeysInOrder items
  | .object fields =>
      decide ((fields.map Prod.fst).Pairwise (· < ·)) && fieldsKeysInOrder fields
  | _ => true

def itemsKeysInOrder : List Json → Bool
  | [] => true
  | item :: rest => keysInOrder item && itemsKeysInOrder rest

def fieldsKeysInOrder : List (String × Json) → Bool
  | [] => true
  | (_, value) :: rest => keysInOrder value && fieldsKeysInOrder rest

end

mutual

/-- Equal up to the order of the keys of objects, at every depth. -/
inductive SameUpToKeyOrder : Json → Json → Prop
  | refl (value : Json) : SameUpToKeyOrder value value
  | array {items others : List Json} (each : SameItems items others) :
      SameUpToKeyOrder (.array items) (.array others)
  | object {fields reordered others : List (String × Json)} (each : SameFields fields reordered)
      (perm : reordered.Perm others) : SameUpToKeyOrder (.object fields) (.object others)

inductive SameItems : List Json → List Json → Prop
  | nil : SameItems [] []
  | cons {item other : Json} {rest others : List Json} (first : SameUpToKeyOrder item other)
      (tail : SameItems rest others) : SameItems (item :: rest) (other :: others)

inductive SameFields : List (String × Json) → List (String × Json) → Prop
  | nil : SameFields [] []
  | cons {key : String} {value other : Json} {rest others : List (String × Json)}
      (first : SameUpToKeyOrder value other) (tail : SameFields rest others) :
      SameFields ((key, value) :: rest) ((key, other) :: others)

end

theorem sortKeys_number (held : JsonNumber) : sortKeys (.number held) = .number held := rfl

theorem sortKeys_string (text : String) : sortKeys (.string text) = .string text := rfl

theorem sortItems_eq_map (items : List Json) : sortItems items = items.map sortKeys := by
  induction items with
  | nil => rfl
  | cons item rest inductionHypothesis => rw [sortItems, inductionHypothesis, List.map_cons]

theorem sortFields_eq_map (fields : List (String × Json)) :
    sortFields fields = fields.map fun field => (field.1, sortKeys field.2) := by
  induction fields with
  | nil => rfl
  | cons field rest inductionHypothesis => rw [sortFields, inductionHypothesis, List.map_cons]

/-! ### Sorting decides -/

mutual

theorem same_of_sortKeys_eq : ∀ value other : Json, sortKeys value = sortKeys other →
    SameUpToKeyOrder value other
  | .array items, other, same => by
      cases other with
      | array others =>
          rw [sortKeys, sortKeys, sortItems_eq_map others] at same
          exact .array (sameItems_of_sortItems_eq items others (Json.array.inj same))
      | _ => simp [sortKeys] at same
  | .object fields, other, same => by
      cases other with
      | object others =>
          rw [sortKeys, sortKeys, sortFields_eq_map others] at same
          have reordered : (sortFields fields).Perm
              (others.map fun field => (field.1, sortKeys field.2)) :=
            (perm_inKeyOrder _).symm.trans (Json.object.inj same ▸ perm_inKeyOrder _)
          have each : List.Forall₂ (fun sorted field => sorted = (field.1, sortKeys field.2))
              (others.map fun field => (field.1, sortKeys field.2)) others := by
            rw [List.forall₂_map_left_iff]
            exact List.forall₂_same.mpr fun _ _ => rfl
          obtain ⟨matching, pairs, perm⟩ := List.perm_comp_forall₂ reordered each
          exact .object (sameFields_of_sortFields fields matching pairs) perm
      | _ => simp [sortKeys] at same
  | .null, other, same => by
      cases other <;> simp [sortKeys] at same
      exact .refl _
  | .bool flag, other, same => by
      cases other <;> simp [sortKeys] at same
      exact same ▸ .refl _
  | .number digits, other, same => by
      cases other <;> simp [sortKeys] at same
      exact same ▸ .refl _
  | .string text, other, same => by
      cases other <;> simp [sortKeys] at same
      exact same ▸ .refl _

theorem sameItems_of_sortItems_eq : ∀ items others : List Json,
    sortItems items = others.map sortKeys → SameItems items others
  | [], others, same => by
      obtain rfl := List.map_eq_nil_iff.mp same.symm
      exact .nil
  | item :: rest, others, same => by
      obtain ⟨other, others, rfl, sameItem, sameRest⟩ := List.map_eq_cons_iff.mp same.symm
      exact .cons (same_of_sortKeys_eq item other sameItem.symm)
        (sameItems_of_sortItems_eq rest others sameRest.symm)

theorem sameFields_of_sortFields : ∀ fields matching : List (String × Json),
    List.Forall₂ (fun sorted field => sorted = (field.1, sortKeys field.2)) (sortFields fields)
      matching → SameFields fields matching
  | [], matching, pairs => by
      obtain rfl := List.forall₂_nil_left_iff.mp pairs
      exact .nil
  | (key, value) :: rest, matching, pairs => by
      obtain ⟨⟨otherKey, other⟩, others, same, tail, rfl⟩ := List.forall₂_cons_left_iff.mp pairs
      obtain ⟨rfl, sameValue⟩ := Prod.ext_iff.mp same
      exact .cons (same_of_sortKeys_eq value other sameValue)
        (sameFields_of_sortFields rest others tail)

end

mutual

theorem sortKeys_eq_of_same : ∀ value other : Json, value.keysDistinct = true →
    SameUpToKeyOrder value other → sortKeys value = sortKeys other
  | .array items, other, distinct, same => by
      cases same with
      | refl => rfl
      | array each =>
          rw [keysDistinct] at distinct
          rw [sortKeys, sortKeys, sortItems_eq_of_same items _ distinct each]
  | .object fields, other, distinct, same => by
      cases same with
      | refl => rfl
      | @object _ reordered others each perm =>
          obtain ⟨keys, -⟩ := keysDistinct_object distinct
          rw [keysDistinct, Bool.and_eq_true] at distinct
          have sameKeys : (sortFields fields).map Prod.fst = fields.map Prod.fst := by
            rw [sortFields_eq_map, List.map_map]
            rfl
          have sorted : (sortFields fields).Perm (sortFields others) := by
            rw [sortFields_eq_of_same fields reordered distinct.2 each, sortFields_eq_map,
              sortFields_eq_map]
            exact perm.map _
          rw [sortKeys, sortKeys, inKeyOrder_eq_of_perm (sameKeys ▸ keys) sorted]
  | .null, _, _, .refl _ => rfl
  | .bool _, _, _, .refl _ => rfl
  | .number _, _, _, .refl _ => rfl
  | .string _, _, _, .refl _ => rfl

theorem sortItems_eq_of_same : ∀ items others : List Json, itemsKeysDistinct items = true →
    SameItems items others → sortItems items = sortItems others
  | [], _, _, .nil => rfl
  | item :: rest, _, distinct, .cons first tail => by
      rw [itemsKeysDistinct, Bool.and_eq_true] at distinct
      rw [sortItems, sortItems, sortKeys_eq_of_same item _ distinct.1 first,
        sortItems_eq_of_same rest _ distinct.2 tail]

theorem sortFields_eq_of_same : ∀ fields others : List (String × Json),
    fieldsKeysDistinct fields = true → SameFields fields others →
    sortFields fields = sortFields others
  | [], _, _, .nil => rfl
  | (key, value) :: rest, _, distinct, .cons first tail => by
      rw [fieldsKeysDistinct, Bool.and_eq_true] at distinct
      rw [sortFields, sortFields, sortKeys_eq_of_same value _ distinct.1 first,
        sortFields_eq_of_same rest _ distinct.2 tail]

end

theorem sortKeys_eq_iff {value other : Json} (distinct : value.keysDistinct = true) :
    sortKeys value = sortKeys other ↔ SameUpToKeyOrder value other :=
  ⟨same_of_sortKeys_eq value other, sortKeys_eq_of_same value other distinct⟩

mutual

theorem integersOnly_sortKeys : ∀ value : Json, value.integersOnly = true →
    (sortKeys value).integersOnly = true
  | .array items, integers => by
      rw [sortKeys, integersOnly]
      exact itemsIntegersOnly_sortItems items integers
  | .object fields, integers => by
      rw [sortKeys, integersOnly, fieldsIntegersOnly_iff]
      intro field member
      exact fieldsIntegersOnly_iff.mp (fieldsIntegersOnly_sortFields fields integers) field
        ((perm_inKeyOrder _).mem_iff.mp member)
  | .null, _ | .bool _, _ | .string _, _ => rfl
  | .number _, integers => integers

theorem itemsIntegersOnly_sortItems : ∀ items : List Json, itemsIntegersOnly items = true →
    itemsIntegersOnly (sortItems items) = true
  | [], _ => rfl
  | item :: rest, integers => by
      rw [itemsIntegersOnly, Bool.and_eq_true] at integers
      rw [sortItems, itemsIntegersOnly, integersOnly_sortKeys item integers.1,
        itemsIntegersOnly_sortItems rest integers.2, Bool.true_and]

theorem fieldsIntegersOnly_sortFields : ∀ fields : List (String × Json),
    fieldsIntegersOnly fields = true → fieldsIntegersOnly (sortFields fields) = true
  | [], _ => rfl
  | (key, value) :: rest, integers => by
      rw [fieldsIntegersOnly, Bool.and_eq_true] at integers
      rw [sortFields, fieldsIntegersOnly, integersOnly_sortKeys value integers.1,
        fieldsIntegersOnly_sortFields rest integers.2, Bool.true_and]

end

/-! ### Keys in order -/

mutual

theorem sortKeys_of_keysInOrder : ∀ value : Json, value.keysInOrder = true →
    sortKeys value = value
  | .array items, ordered => by
      rw [keysInOrder] at ordered
      rw [sortKeys, sortItems_of_keysInOrder items ordered]
  | .object fields, ordered => by
      rw [keysInOrder, Bool.and_eq_true, decide_eq_true_eq] at ordered
      rw [sortKeys, sortFields_of_keysInOrder fields ordered.2,
        inKeyOrder_of_pairwise ordered.1]
  | .null, _ | .bool _, _ | .string _, _ | .number _, _ => rfl

theorem sortItems_of_keysInOrder : ∀ items : List Json, itemsKeysInOrder items = true →
    sortItems items = items
  | [], _ => rfl
  | item :: rest, ordered => by
      rw [itemsKeysInOrder, Bool.and_eq_true] at ordered
      rw [sortItems, sortKeys_of_keysInOrder item ordered.1,
        sortItems_of_keysInOrder rest ordered.2]

theorem sortFields_of_keysInOrder : ∀ fields : List (String × Json),
    fieldsKeysInOrder fields = true → sortFields fields = fields
  | [], _ => rfl
  | (key, value) :: rest, ordered => by
      rw [fieldsKeysInOrder, Bool.and_eq_true] at ordered
      rw [sortFields, sortKeys_of_keysInOrder value ordered.1,
        sortFields_of_keysInOrder rest ordered.2]

end

theorem itemsKeysInOrder_iff {items : List Json} :
    itemsKeysInOrder items = true ↔ ∀ item ∈ items, item.keysInOrder = true := by
  induction items with
  | nil => simp [itemsKeysInOrder]
  | cons item rest inductionHypothesis => simp [itemsKeysInOrder, inductionHypothesis]

theorem fieldsKeysInOrder_iff {fields : List (String × Json)} :
    fieldsKeysInOrder fields = true ↔ ∀ field ∈ fields, field.2.keysInOrder = true := by
  induction fields with
  | nil => simp [fieldsKeysInOrder]
  | cons field rest inductionHypothesis => simp [fieldsKeysInOrder, inductionHypothesis]

theorem mem_insertField {key : String} {value : Json} {fields : List (String × Json)}
    {field : String × Json} (member : field ∈ insertField key value fields) :
    field = (key, value) ∨ field ∈ fields := by
  induction fields with
  | nil => exact .inl (List.mem_singleton.mp member)
  | cons first rest inductionHypothesis =>
      obtain ⟨name, old⟩ := first
      rw [insertField] at member
      split at member
      · exact (List.mem_cons.mp member).imp_right (List.mem_cons_of_mem _)
      · split at member
        · exact List.mem_cons.mp member
        · rcases List.mem_cons.mp member with rfl | inRest
          · exact .inr List.mem_cons_self
          · exact (inductionHypothesis inRest).imp_right (List.mem_cons_of_mem _)

theorem pairwise_keys_insertField {key : String} {value : Json} {fields : List (String × Json)}
    (ordered : (fields.map Prod.fst).Pairwise (· < ·)) :
    ((insertField key value fields).map Prod.fst).Pairwise (· < ·) := by
  induction fields with
  | nil => exact List.pairwise_singleton _ _
  | cons first rest inductionHypothesis =>
      obtain ⟨name, old⟩ := first
      have later := List.pairwise_cons.mp ordered
      rw [insertField]
      split
      next same => exact same ▸ ordered
      next different =>
        split
        next before =>
          refine List.pairwise_cons.mpr ⟨?_, ordered⟩
          intro other member
          rcases List.mem_cons.mp member with rfl | inRest
          · exact before
          · exact lt_trans before (later.1 other inRest)
        next notBefore =>
          have after : name < key := lt_of_le_of_ne (not_lt.mp notBefore) (Ne.symm different)
          refine List.pairwise_cons.mpr ⟨?_, inductionHypothesis later.2⟩
          intro other member
          obtain ⟨field, inserted, rfl⟩ := List.mem_map.mp member
          rcases mem_insertField inserted with rfl | inRest
          · exact after
          · exact later.1 _ (List.mem_map_of_mem inRest)

/-- An object is built with its keys in order, and with the values that it is given. -/
theorem insertFields_built {updates fields : List (String × Json)}
    (ordered : (fields.map Prod.fst).Pairwise (· < ·)) :
    ((insertFields updates fields).map Prod.fst).Pairwise (· < ·) ∧
      ∀ field ∈ insertFields updates fields, field ∈ updates ∨ field ∈ fields := by
  induction updates generalizing fields with
  | nil => exact ⟨ordered, fun _ member => .inr member⟩
  | cons update updates inductionHypothesis =>
      obtain ⟨sorted, members⟩ := inductionHypothesis
        (@pairwise_keys_insertField update.1 update.2 fields ordered)
      refine ⟨sorted, fun field member => ?_⟩
      rcases members field member with inUpdates | inserted
      · exact .inl (List.mem_cons_of_mem _ inUpdates)
      · rcases mem_insertField inserted with rfl | inFields
        · exact .inl List.mem_cons_self
        · exact .inr inFields

theorem keysInOrder_ofFields {fields : List (String × Json)}
    (each : ∀ field ∈ fields, field.2.keysInOrder = true) :
    (ofFields fields).keysInOrder = true := by
  obtain ⟨ordered, members⟩ := @insertFields_built fields [] .nil
  change (Json.object (insertFields fields [])).keysInOrder = true
  rw [keysInOrder, Bool.and_eq_true, decide_eq_true_eq, fieldsKeysInOrder_iff]
  refine ⟨ordered, fun field member => each field ?_⟩
  exact (members field member).resolve_right List.not_mem_nil

theorem integersOnly_ofFields {fields : List (String × Json)}
    (each : ∀ field ∈ fields, field.2.integersOnly = true) :
    (ofFields fields).integersOnly = true := by
  obtain ⟨-, members⟩ := @insertFields_built fields [] .nil
  change (Json.object (insertFields fields [])).integersOnly = true
  rw [integersOnly, fieldsIntegersOnly_iff]
  exact fun field member => each field ((members field member).resolve_right List.not_mem_nil)

end Json

end MandoForge
