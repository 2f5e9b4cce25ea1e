/-
Module: MandoForge.Data.Json
Purpose: JSON values as the control plane reads them, with the accessors of the
  JSON library the source uses.  An object is the library's ordered map, listed
  in key order, so equality of values is equality of trees.
Trusted boundary: the accessors follow the documented behaviour of the JSON
  library; a finite float is the rational number it denotes.
Main exports: JsonNumber, Json.get
-/
import Mathlib.Data.Rat.Defs
import Mathlib.Data.List.Basic
import Mathlib.Algebra.Group.Int.Defs
import Mathlib.Algebra.Group.Nat.Defs

namespace MandoForge

/-- A JSON number: an unsigned integer, a negative integer, or a finite float.
Equal numbers of different kinds are different values, as in the library. -/
inductive JsonNumber where
  | posInt (value : UInt64)
  | negInt (value : Int64)
  | float (value : Rat)
deriving DecidableEq, Repr

/-- A JSON value. -/
inductive Json where
  | null
  | bool (value : Bool)
  | number (value : JsonNumber)
  | string (value : String)
  | array (items : List Json)
  | object (fields : List (String × Json))
deriving Repr

namespace Json

instance : Inhabited Json := ⟨.null⟩

mutual

/-- Decidable equality of values; the two list companions go through arrays and
object fields. -/
def decEq : (a b : Json) → Decidable (a = b)
  | .null, .null => isTrue rfl
  | .bool a, .bool b =>
      decidable_of_iff (a = b) (by simp)
  | .number a, .number b =>
      decidable_of_iff (a = b) (by simp)
  | .string a, .string b =>
      decidable_of_iff (a = b) (by simp)
  | .array a, .array b =>
      have := decEqItems a b
      decidable_of_iff (a = b) (by simp)
  | .object a, .object b =>
      have := decEqFields a b
      decidable_of_iff (a = b) (by simp)
  | .null, .bool _ | .null, .number _ | .null, .string _ | .null, .array _
  | .null, .object _ | .bool _, .null | .bool _, .number _ | .bool _, .string _
  | .bool _, .array _ | .bool _, .object _ | .number _, .null | .number _, .bool _
  | .number _, .string _ | .number _, .array _ | .number _, .object _
  | .string _, .null | .string _, .bool _ | .string _, .number _
  | .string _, .array _ | .string _, .object _ | .array _, .null | .array _, .bool _
  | .array _, .number _ | .array _, .string _ | .array _, .object _
  | .object _, .null | .object _, .bool _ | .object _, .number _
  | .object _, .string _ | .object _, .array _ => isFalse nofun

/-- Decidable equality of array items. -/
def decEqItems : (a b : List Json) → Decidable (a = b)
  | [], [] => isTrue rfl
  | x :: xs, y :: ys =>
      have := decEq x y
      have := decEqItems xs ys
      decidable_of_iff (x = y ∧ xs = ys) (by simp)
  | [], _ :: _ | _ :: _, [] => isFalse nofun

/-- Decidable equality of object fields. -/
def decEqFields : (a b : List (String × Json)) → Decidable (a = b)
  | [], [] => isTrue rfl
  | (k, x) :: xs, (l, y) :: ys =>
      have := decEq x y
      have := decEqFields xs ys
      decidable_of_iff ((k = l ∧ x = y) ∧ xs = ys) (by simp)
  | [], _ :: _ | _ :: _, [] => isFalse nofun

end

instance : DecidableEq Json := decEq

/-- `Map::get` on the fields of an object. -/
def getField (key : String) : List (String × Json) → Option Json
  | [] => none
  | (name, value) :: rest => if name = key then some value else getField key rest

/-- `Value::get` with a string index: `none` unless the value is an object that
has the key. -/
def get (value : Json) (key : String) : Option Json :=
  match value with
  | .object fields => getField key fields
  | _ => none

/-- `value[key]`: what is not there reads as null. -/
def index (value : Json) (key : String) : Json := (value.get key).getD .null

def asStr : Json → Option String
  | .string value => some value
  | _ => none

def asBool : Json → Option Bool
  | .bool value => some value
  | _ => none

def asArray : Json → Option (List Json)
  | .array items => some items
  | _ => none

def isObject : Json → Bool
  | .object _ => true
  | _ => false

def isString : Json → Bool
  | .string _ => true
  | _ => false

/-- `Value::as_u64`. -/
def asU64 : Json → Option Nat
  | .number (.posInt value) => some value.toNat
  | _ => none

/-- `Value::as_i64`: an unsigned integer counts while it fits. -/
def asI64 : Json → Option Int
  | .number (.posInt value) =>
      if value.toNat < 2 ^ 63 then some value.toNat else none
  | .number (.negInt value) => some value.toInt
  | _ => none

/-- The natural number nearest to `n` among those a 64-bit float can hold
(53 significant bits, ties to even). -/
def roundToDouble (n : Nat) : Nat :=
  let shift := Nat.log2 n + 1 - 53
  let kept := n / 2 ^ shift
  let dropped := n % 2 ^ shift
  let half := 2 ^ shift / 2
  if shift ≠ 0 ∧ (half < dropped ∨ (half = dropped ∧ kept % 2 = 1)) then
    (kept + 1) * 2 ^ shift
  else
    kept * 2 ^ shift

/-- `Value::as_f64`: an integer is rounded to the nearest float. -/
def asF64 : Json → Option Rat
  | .number (.posInt value) => some (roundToDouble value.toNat)
  | .number (.negInt value) => some (-(roundToDouble value.toInt.natAbs : Rat))
  | .number (.float value) => some value
  | _ => none

/-- `Map::insert`: the fields stay in key order, and an old value of the key is
replaced. -/
def insertField (key : String) (value : Json) : List (String × Json) → List (String × Json)
  | [] => [(key, value)]
  | (name, old) :: rest =>
      if key = name then (key, value) :: rest
      else if key < name then (key, value) :: (name, old) :: rest
      else (name, old) :: insertField key value rest

/-- The object with the given fields, the later of two values of one key. -/
def ofFields (fields : List (String × Json)) : Json :=
  .object (fields.foldl (fun object (key, value) => insertField key value object) [])

def ofNat (value : Nat) : Json := .number (.posInt (UInt64.ofNat value))

/-- `json!` of a signed integer. -/
def ofInt (value : Int) : Json :=
  if 0 ≤ value then .number (.posInt (UInt64.ofNat value.toNat))
  else .number (.negInt (Int64.ofInt value))

/-- `json!` of an optional value. -/
def ofOption {α : Type} (encode : α → Json) : Option α → Json
  | some value => encode value
  | none => .null

def ofStrings (values : List String) : Json := .array (values.map .string)

/-- Insert the fields into the object, one after the other. -/
def insertFields (fields object : List (String × Json)) : List (String × Json) :=
  fields.foldl (fun object (key, value) => insertField key value object) object

/-- `merge_json_object`. -/
def mergeObject : Json → Json → Json
  | .object base, .object extra => .object (insertFields extra base)
  | base, _ => base

mutual

/-- No object in the value has a key twice, as in the library's map. -/
def keysDistinct : Json → Bool
  | .array items => itemsKeysDistinct items
  | .object fields => decide (fields.map Prod.fst).Nodup && fieldsKeysDistinct fields
  | _ => true

def itemsKeysDistinct : List Json → Bool
  | [] => true
  | item :: rest => keysDistinct item && itemsKeysDistinct rest

def fieldsKeysDistinct : List (String × Json) → Bool
  | [] => true
  | (_, value) :: rest => keysDistinct value && fieldsKeysDistinct rest

end

theorem keysDistinct_of_mem_fields {fields : List (String × Json)}
    (distinct : fieldsKeysDistinct fields = true) {field : String × Json}
    (member : field ∈ fields) : field.2.keysDistinct = true := by
  induction fields with
  | nil => exact absurd member List.not_mem_nil
  | cons first rest inductionHypothesis =>
      obtain ⟨firstDistinct, restDistinct⟩ := Bool.and_eq_true_iff.mp distinct
      rcases List.mem_cons.mp member with rfl | inRest
      · exact firstDistinct
      · exact inductionHypothesis restDistinct inRest

theorem keysDistinct_of_mem_items {items : List Json}
    (distinct : (Json.array items).keysDistinct = true) {item : Json} (member : item ∈ items) :
    item.keysDistinct = true := by
  rw [keysDistinct] at distinct
  induction items with
  | nil => exact absurd member List.not_mem_nil
  | cons first rest inductionHypothesis =>
      obtain ⟨firstDistinct, restDistinct⟩ := Bool.and_eq_true_iff.mp distinct
      rcases List.mem_cons.mp member with rfl | inRest
      · exact firstDistinct
      · exact inductionHypothesis restDistinct inRest

theorem keysDistinct_object {fields : List (String × Json)}
    (distinct : (Json.object fields).keysDistinct = true) :
    (fields.map Prod.fst).Nodup ∧ ∀ field ∈ fields, field.2.keysDistinct = true := by
  rw [keysDistinct, Bool.and_eq_true, decide_eq_true_eq] at distinct
  exact ⟨distinct.1, fun _ member => keysDistinct_of_mem_fields distinct.2 member⟩

theorem keysDistinct_object_of {fields : List (String × Json)}
    (distinct : (fields.map Prod.fst).Nodup)
    (each : ∀ field ∈ fields, field.2.keysDistinct = true) :
    (Json.object fields).keysDistinct = true := by
  rw [keysDistinct, Bool.and_eq_true, decide_eq_true_eq]
  refine ⟨distinct, ?_⟩
  clear distinct
  induction fields with
  | nil => rfl
  | cons first rest inductionHypothesis =>
      exact Bool.and_eq_true_iff.mpr ⟨each first List.mem_cons_self,
        inductionHypothesis fun field member => each field (List.mem_cons_of_mem _ member)⟩

theorem isSome_getField {fields : List (String × Json)} {name : String} :
    (getField name fields).isSome = true ↔ name ∈ fields.map Prod.fst := by
  induction fields with
  | nil => simp [getField]
  | cons first rest inductionHypothesis =>
      by_cases same : first.1 = name
      · simp [getField, same]
      · rw [getField, if_neg same, inductionHypothesis, List.map_cons, List.mem_cons,
          or_iff_right (Ne.symm same)]

theorem getField_insertField (key wanted : String) (value : Json)
    (fields : List (String × Json)) :
    getField wanted (insertField key value fields) =
      if key = wanted then some value else getField wanted fields := by
  induction fields with
  | nil => simp [insertField, getField]
  | cons field rest inductionHypothesis =>
      obtain ⟨name, old⟩ := field
      by_cases same : key = name
      · subst same
        rw [insertField, if_pos rfl, getField, getField]
        by_cases isWanted : key = wanted
        · rw [if_pos isWanted, if_pos isWanted]
        · rw [if_neg isWanted, if_neg isWanted, if_neg isWanted]
      · by_cases before : key < name
        · simp only [insertField, if_neg same, if_pos before, getField]
        · simp only [insertField, if_neg same, if_neg before, getField, inductionHypothesis]
          by_cases isWanted : name = wanted
          · rw [if_pos isWanted, if_neg (fun keyWanted => same (keyWanted.trans isWanted.symm)),
              if_pos isWanted]
          · rw [if_neg isWanted, if_neg isWanted]

theorem getField_of_mem {fields : List (String × Json)} {key : String} {value : Json}
    (distinct : (fields.map Prod.fst).Nodup) (member : (key, value) ∈ fields) :
    getField key fields = some value := by
  induction fields with
  | nil => exact absurd member List.not_mem_nil
  | cons field rest inductionHypothesis =>
      obtain ⟨name, first⟩ := field
      rw [List.map_cons, List.nodup_cons] at distinct
      rcases List.mem_cons.mp member with isFirst | inRest
      · cases isFirst
        simp [getField]
      · have different : name ≠ key := by
          rintro rfl
          exact distinct.1 (List.mem_map.mpr ⟨_, inRest, rfl⟩)
        rw [getField, if_neg different]
        exact inductionHypothesis distinct.2 inRest

theorem mem_of_getField {fields : List (String × Json)} {key : String} {value : Json}
    (found : getField key fields = some value) : (key, value) ∈ fields := by
  induction fields with
  | nil => simp [getField] at found
  | cons field rest inductionHypothesis =>
      obtain ⟨name, first⟩ := field
      by_cases same : name = key
      · subst same
        simp only [getField, if_true, Option.some.injEq] at found
        subst found
        exact List.mem_cons_self
      · rw [getField, if_neg same] at found
        exact List.mem_cons_of_mem _ (inductionHypothesis found)

theorem getField_insertFields_of_notMem {updates fields : List (String × Json)} {key : String}
    (notNamed : key ∉ updates.map Prod.fst) :
    getField key (insertFields updates fields) = getField key fields := by
  induction updates generalizing fields with
  | nil => rfl
  | cons update updates inductionHypothesis =>
      rw [List.map_cons, List.mem_cons, not_or] at notNamed
      calc getField key (insertFields (update :: updates) fields)
          = getField key (insertField update.1 update.2 fields) :=
            inductionHypothesis notNamed.2
        _ = getField key fields := by
            rw [getField_insertField, if_neg (Ne.symm notNamed.1)]

theorem getField_insertFields {updates fields : List (String × Json)} {key : String}
    {value : Json} (distinct : (updates.map Prod.fst).Nodup) (member : (key, value) ∈ updates) :
    getField key (insertFields updates fields) = some value := by
  induction updates generalizing fields with
  | nil => exact absurd member List.not_mem_nil
  | cons update updates inductionHypothesis =>
      rw [List.map_cons, List.nodup_cons] at distinct
      rcases List.mem_cons.mp member with isFirst | inRest
      · subst isFirst
        calc getField key (insertFields ((key, value) :: updates) fields)
            = getField key (insertField key value fields) :=
              getField_insertFields_of_notMem distinct.1
          _ = some value := by rw [getField_insertField, if_pos rfl]
      · exact @inductionHypothesis (insertField update.1 update.2 fields) distinct.2 inRest

theorem get_ofFields {fields : List (String × Json)} {key : String} {value : Json}
    (distinct : (fields.map Prod.fst).Nodup) (member : (key, value) ∈ fields) :
    (ofFields fields).get key = some value :=
  getField_insertFields distinct member

theorem get_ofFields_of_notMem {fields : List (String × Json)} {key : String}
    (notNamed : key ∉ fields.map Prod.fst) : (ofFields fields).get key = none :=
  getField_insertFields_of_notMem notNamed

end Json

end MandoForge
