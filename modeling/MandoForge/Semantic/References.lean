/-
Module: MandoForge.Semantic.References
Purpose: The semantic objects that the arguments of a tool call mention: the
  recursion of the source over the arguments, and what it finds, said by places of
  a JSON value.
Trusted boundary: reading an identifier from its text belongs to another crate;
  `parseUuid` stands for it.
Main exports: semanticRefKeyHint, semanticObjectRefIdsFromToolArgs
-/
import MandoForge.Core.Records
import MandoForge.Data.Text
import Mathlib.Data.Finset.Insert
import Mathlib.Data.List.Infix

namespace MandoForge

/-! ### Places in a value -/

/-- One step from a value to a part of it. -/
inductive Json.PlaceStep where
  | item
  | field (name : String)
deriving DecidableEq, Repr

/-- The steps from a value down to one of its parts. -/
abbrev Json.Place := List Json.PlaceStep

namespace Json

/-- The value holds the part at the place. -/
inductive Holds : Json → Place → Json → Prop where
  | here (value : Json) : Holds value [] value
  | item {items : List Json} {item part : Json} {place : Place} (member : item ∈ items)
      (inside : Holds item place part) : Holds (.array items) (.item :: place) part
  | field {fields : List (String × Json)} {name : String} {value part : Json} {place : Place}
      (member : (name, value) ∈ fields) (inside : Holds value place part) :
      Holds (.object fields) (.field name :: place) part

/-- The name of the field nearest to the end of the place, or the given one where
the place goes through arrays only. -/
def Place.nearestField : Place → Option String → Option String
  | [], outer => outer
  | .item :: place, outer => nearestField place outer
  | .field name :: place, _ => nearestField place (some name)

theorem holds_string {raw text : String} {place : Place} :
    Holds (.string raw) place (.string text) ↔ place = [] ∧ text = raw := by
  constructor
  · intro holds
    cases holds
    exact ⟨rfl, rfl⟩
  · rintro ⟨rfl, rfl⟩
    exact .here _

theorem holds_array {items : List Json} {place : Place} {text : String} :
    Holds (.array items) place (.string text) ↔
      ∃ item ∈ items, ∃ rest, place = .item :: rest ∧ Holds item rest (.string text) := by
  constructor
  · intro holds
    cases holds with
    | item member inside => exact ⟨_, member, _, rfl, inside⟩
  · rintro ⟨item, member, rest, rfl, inside⟩
    exact .item member inside

theorem holds_object {fields : List (String × Json)} {place : Place} {text : String} :
    Holds (.object fields) place (.string text) ↔
      ∃ field ∈ fields, ∃ rest, place = .field field.1 :: rest ∧
        Holds field.2 rest (.string text) := by
  constructor
  · intro holds
    cases holds with
    | field member inside => exact ⟨_, member, _, rfl, inside⟩
  · rintro ⟨⟨name, value⟩, member, rest, rfl, inside⟩
    exact .field member inside

theorem not_holds_atom {value : Json} {place : Place} {text : String}
    (atom : value = .null ∨ (∃ flag, value = .bool flag) ∨ ∃ number, value = .number number) :
    ¬ Holds value place (.string text) := by
  rintro holds
  rcases atom with rfl | ⟨flag, rfl⟩ | ⟨number, rfl⟩ <;> cases holds

end Json

/-! ### The recursion of the source -/

/-- `str::contains`. -/
def containsText (text part : String) : Bool :=
  decide (part.toList <:+: text.toList)

def semanticRefKeyHint : (keyHint : Option String) → Bool
  | none => false
  | some key =>
      let normalized := toAsciiLowercase (trim key)
      containsText normalized "semantic_object" || decide (normalized = "object_id") ||
        decide (normalized = "object_ids") || decide (normalized = "semantic_ref") ||
        decide (normalized = "semantic_refs")

section references

variable (parseUuid : String → Option Uuid)

mutual

/-- `collect_semantic_object_ref_ids`: an array hands the name of its field on to
its items, an object starts anew with the names of its own fields. -/
def collectSemanticObjectRefIds :
    (value : Json) → (keyHint : Option String) → (ids : Finset Uuid) → Finset Uuid
  | .string raw, keyHint, ids =>
      if semanticRefKeyHint keyHint then
        match parseUuid raw with
        | some id => insert id ids
        | none => ids
      else ids
  | .array values, keyHint, ids => collectItemRefIds values keyHint ids
  | .object fields, _, ids => collectFieldRefIds fields ids
  | .null, _, ids | .bool _, _, ids | .number _, _, ids => ids

/-- The loop over the items of an array. -/
def collectItemRefIds :
    (values : List Json) → (keyHint : Option String) → (ids : Finset Uuid) → Finset Uuid
  | [], _, ids => ids
  | value :: rest, keyHint, ids =>
      collectItemRefIds rest keyHint (collectSemanticObjectRefIds value keyHint ids)

/-- The loop over the fields of an object. -/
def collectFieldRefIds : (fields : List (String × Json)) → (ids : Finset Uuid) → Finset Uuid
  | [], ids => ids
  | (key, value) :: rest, ids =>
      collectFieldRefIds rest (collectSemanticObjectRefIds value (some key) ids)

end

def semanticObjectRefIdsFromToolArgs (args : Json) : Finset Uuid :=
  collectSemanticObjectRefIds parseUuid args none ∅

/-! ### What the recursion finds -/

/-- The value holds a text that names the object, at a place whose nearest field, or
the hint where there is none, is a semantic reference key. -/
def RefersTo (value : Json) (keyHint : Option String) (id : Uuid) : Prop :=
  ∃ place text, Json.Holds value place (.string text) ∧
    semanticRefKeyHint (place.nearestField keyHint) = true ∧ parseUuid text = some id

/-- The arguments mention the object under a semantic reference key. -/
def MentionsSemanticObject (args : Json) (id : Uuid) : Prop :=
  ∃ place text key, Json.Holds args place (.string text) ∧
    place.nearestField none = some key ∧ semanticRefKeyHint (some key) = true ∧
    parseUuid text = some id

variable {parseUuid}

theorem refersTo_string {raw : String} {keyHint : Option String} {id : Uuid} :
    RefersTo parseUuid (.string raw) keyHint id ↔
      semanticRefKeyHint keyHint = true ∧ parseUuid raw = some id := by
  constructor
  · rintro ⟨place, text, holds, isKey, parses⟩
    obtain ⟨rfl, rfl⟩ := Json.holds_string.mp holds
    exact ⟨isKey, parses⟩
  · rintro ⟨isKey, parses⟩
    exact ⟨[], raw, .here _, isKey, parses⟩

theorem refersTo_array {items : List Json} {keyHint : Option String} {id : Uuid} :
    RefersTo parseUuid (.array items) keyHint id ↔
      ∃ item ∈ items, RefersTo parseUuid item keyHint id := by
  constructor
  · rintro ⟨place, text, holds, isKey, parses⟩
    obtain ⟨item, member, rest, rfl, inside⟩ := Json.holds_array.mp holds
    exact ⟨item, member, rest, text, inside, isKey, parses⟩
  · rintro ⟨item, member, rest, text, inside, isKey, parses⟩
    exact ⟨.item :: rest, text, .item member inside, isKey, parses⟩

theorem refersTo_object {fields : List (String × Json)} {keyHint : Option String} {id : Uuid} :
    RefersTo parseUuid (.object fields) keyHint id ↔
      ∃ field ∈ fields, RefersTo parseUuid field.2 (some field.1) id := by
  constructor
  · rintro ⟨place, text, holds, isKey, parses⟩
    obtain ⟨field, member, rest, rfl, inside⟩ := Json.holds_object.mp holds
    exact ⟨field, member, rest, text, inside, isKey, parses⟩
  · rintro ⟨⟨name, value⟩, member, rest, text, inside, isKey, parses⟩
    exact ⟨.field name :: rest, text, .field member inside, isKey, parses⟩

theorem not_refersTo_atom {value : Json} {keyHint : Option String} {id : Uuid}
    (atom : value = .null ∨ (∃ flag, value = .bool flag) ∨ ∃ number, value = .number number) :
    ¬ RefersTo parseUuid value keyHint id := by
  rintro ⟨place, text, holds, -, -⟩
  exact Json.not_holds_atom atom holds

mutual

/-- Of a value the recursion adds exactly the ids that the value refers to. -/
theorem mem_collect : ∀ {value : Json} {keyHint : Option String} {ids : Finset Uuid} {id : Uuid},
    id ∈ collectSemanticObjectRefIds parseUuid value keyHint ids ↔
      id ∈ ids ∨ RefersTo parseUuid value keyHint id
  | .string raw, keyHint, ids, id => by
      rw [refersTo_string, collectSemanticObjectRefIds]
      cases isKey : semanticRefKeyHint keyHint with
      | false => simp
      | true =>
          cases parses : parseUuid raw with
          | none => simp
          | some found =>
              rw [if_pos rfl]
              simp only [Finset.mem_insert, true_and, Option.some.injEq]
              exact ⟨fun either => either.symm.imp_right Eq.symm,
                fun either => either.symm.imp_left Eq.symm⟩
  | .array values, keyHint, ids, id => by
      rw [collectSemanticObjectRefIds, mem_collectItems, refersTo_array]
  | .object fields, keyHint, ids, id => by
      rw [collectSemanticObjectRefIds, mem_collectFields, refersTo_object]
  | .null, _, _, _ => by
      rw [collectSemanticObjectRefIds]
      exact (or_iff_left (not_refersTo_atom (.inl rfl))).symm
  | .bool flag, _, _, _ => by
      rw [collectSemanticObjectRefIds]
      exact (or_iff_left (not_refersTo_atom (.inr (.inl ⟨flag, rfl⟩)))).symm
  | .number number, _, _, _ => by
      rw [collectSemanticObjectRefIds]
      exact (or_iff_left (not_refersTo_atom (.inr (.inr ⟨number, rfl⟩)))).symm

theorem mem_collectItems : ∀ {values : List Json} {keyHint : Option String} {ids : Finset Uuid}
    {id : Uuid}, id ∈ collectItemRefIds parseUuid values keyHint ids ↔
      id ∈ ids ∨ ∃ value ∈ values, RefersTo parseUuid value keyHint id
  | [], _, _, _ => by simp [collectItemRefIds]
  | value :: rest, keyHint, ids, id => by
      rw [collectItemRefIds, mem_collectItems, mem_collect, or_assoc, List.exists_mem_cons_iff]

theorem mem_collectFields : ∀ {fields : List (String × Json)} {ids : Finset Uuid} {id : Uuid},
    id ∈ collectFieldRefIds parseUuid fields ids ↔
      id ∈ ids ∨ ∃ field ∈ fields, RefersTo parseUuid field.2 (some field.1) id
  | [], _, _ => by simp [collectFieldRefIds]
  | (key, value) :: rest, ids, id => by
      rw [collectFieldRefIds, mem_collectFields, mem_collect, or_assoc,
        List.exists_mem_cons_iff]

end

theorem mem_semanticObjectRefIds {args : Json} {id : Uuid} :
    id ∈ semanticObjectRefIdsFromToolArgs parseUuid args ↔
      MentionsSemanticObject parseUuid args id := by
  rw [semanticObjectRefIdsFromToolArgs, mem_collect, or_iff_right (Finset.notMem_empty id)]
  constructor
  · rintro ⟨place, text, holds, isKey, parses⟩
    cases nearest : place.nearestField none with
    | none => rw [nearest] at isKey; cases isKey
    | some key => exact ⟨place, text, key, holds, nearest, nearest ▸ isKey, parses⟩
  · rintro ⟨place, text, key, holds, nearest, isKey, parses⟩
    exact ⟨place, text, holds, nearest.symm ▸ isKey, parses⟩

end references

end MandoForge
