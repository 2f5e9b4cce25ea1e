/-
Module: MandoForge.Data.JsonRecord
Purpose: Records as the derived deserializers of the source read them from a JSON
  value: an object by the names of the fields, an array by their places.
Trusted boundary: the readers follow the documented behaviour of the JSON library's
  derived deserializers; a key that is no field of the record is ignored.
Main exports: Json.recordFields, Json.readBool
-/
import MandoForge.Data.Json

namespace MandoForge

namespace Json

/-- The value under one of the names of a field.  Two of them at once are a duplicate
field. -/
def readNamed (names : List String) (fields : List (String × Json)) : Option (Option Json) :=
  match names.filterMap (getField · fields) with
  | [] => some none
  | [value] => some (some value)
  | _ => none

/-- The values of a record's fields, in the order of the layout, which lists for each
field its name and its aliases. -/
def recordFields (layout : List (List String)) : Json → Option (List (Option Json))
  | .object fields => layout.mapM (readNamed · fields)
  | .array items =>
      if items.length ≤ layout.length then
        some (items.map some ++ List.replicate (layout.length - items.length) none)
      else none
  | _ => none

/-- A field that has to be there, and has to be text. -/
def readString (field : Option Json) : Option String := field.bind asStr

def readBool (field : Option Json) : Option Bool := field.bind asBool

/-- A field that may be null. -/
def readNullable {Value : Type} (read : Option Json → Option Value) (field : Option Json) :
    Option (Option Value) :=
  match field with
  | none | some .null => some none
  | some value => (read (some value)).map some

def readList {Value : Type} (read : Json → Option Value) (field : Option Json) :
    Option (List Value) :=
  (field.bind asArray).bind (·.mapM read)

/-- A field of a record that is written: its name, the aliases it is read under as
well, and its value. -/
structure RecordField where
  name : String
  aliases : List String := []
  value : Json

namespace RecordField

def names (field : RecordField) : List String := field.name :: field.aliases

def entry (field : RecordField) : String × Json := (field.name, field.value)

end RecordField

/-- What is written as an object is read back field by field. -/
theorem recordFields_ofFields {fields : List RecordField}
    (distinct : (fields.map RecordField.name).Nodup)
    (apart : ∀ field ∈ fields, ∀ other ∈ field.aliases, other ∉ fields.map RecordField.name) :
    recordFields (fields.map RecordField.names) (ofFields (fields.map RecordField.entry)) =
      some (fields.map fun field => some field.value) := by
  have sameNames : (fields.map RecordField.entry).map Prod.fst = fields.map RecordField.name := by
    rw [List.map_map]
    rfl
  have read : ∀ field ∈ fields, readNamed field.names
      (insertFields (fields.map RecordField.entry) []) = some (some field.value) := by
    intro field member
    have named : getField field.name (insertFields (fields.map RecordField.entry) []) =
        some field.value :=
      getField_insertFields (sameNames ▸ distinct) (List.mem_map.mpr ⟨field, member, rfl⟩)
    have unnamed : field.aliases.filterMap
        (getField · (insertFields (fields.map RecordField.entry) [])) = [] := by
      refine List.filterMap_eq_nil_iff.mpr fun other isAlias => ?_
      exact getField_insertFields_of_notMem (sameNames ▸ apart field member other isAlias)
    rw [readNamed, RecordField.names, List.filterMap_cons, named, unnamed]
  calc recordFields (fields.map RecordField.names) (ofFields (fields.map RecordField.entry))
      = fields.mapM fun field =>
          readNamed field.names (insertFields (fields.map RecordField.entry) []) := by
        exact List.mapM_map ..
    _ = some (fields.map fun field => some field.value) := by
        clear sameNames
        generalize insertFields (fields.map RecordField.entry) [] = written at read
        clear distinct apart
        induction fields with
        | nil => rfl
        | cons field fields inductionHypothesis =>
            rw [List.mapM_cons, read field List.mem_cons_self,
              inductionHypothesis fun other member => read other (List.mem_cons_of_mem _ member)]
            rfl

theorem readList_map {Value : Type} {read : Json → Option Value} {write : Value → Json}
    (readsBack : ∀ value, read (write value) = some value) (values : List Value) :
    readList read (some (.array (values.map write))) = some values := by
  change (values.map write).mapM read = some values
  induction values with
  | nil => rfl
  | cons value values inductionHypothesis =>
      rw [List.map_cons, List.mapM_cons, readsBack, inductionHypothesis]
      rfl

end Json

end MandoForge
