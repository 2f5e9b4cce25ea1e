/-
Module: MandoForge.Ontology.ActionSchema
Purpose: The input schemas that the actions of a catalog may declare, and when a value
  satisfies a declaration of one.
Trusted boundary: reading dates, times and identifiers belongs to other crates; a
  `SchemaFormats` stands for it.  A float is finite.
Main exports: SchemaFormats, ontologyActionSchemaValueMatchesNode
-/
import MandoForge.Core.Records
import MandoForge.Data.Text
import Mathlib.Algebra.Order.Floor.Ring
import Mathlib.Data.Rat.Floor

namespace MandoForge

/-- The string formats that other crates read. -/
structure SchemaFormats where
  isUuid : String → Bool
  isDate : String → Bool
  isRfc3339 : String → Bool

/-- `value.trim().to_ascii_lowercase()`. -/
def normalizedTypeName (valueType : String) : String := toAsciiLowercase (trim valueType)

def ontologyActionSchemaTypeSupported (valueType : String) : Bool :=
  decide (normalizedTypeName valueType ∈ [
    "string", "text", "uuid", "date", "timestamp", "datetime", "integer", "int", "int32",
    "int64", "number", "decimal", "float", "double", "boolean", "bool", "object", "json",
    "array", "null"])

def ontologyCatalogPropertyType (valueType : String) : Option String :=
  let normalized := normalizedTypeName valueType
  if normalized ∈ ["unknown", ""] then some "unknown"
  else if normalized ∈ ["string", "text"] then some "string"
  else if normalized = "uuid" then some "uuid"
  else if normalized ∈ ["integer", "int", "int32", "int64"] then some "integer"
  else if normalized ∈ ["number", "decimal", "float", "double"] then some "number"
  else if normalized ∈ ["boolean", "bool"] then some "boolean"
  else if normalized = "object" then some "object"
  else if normalized = "json" then some "json"
  else if normalized = "array" then some "array"
  else if normalized = "date" then some "date"
  else if normalized ∈ ["timestamp", "datetime"] then some "timestamp"
  else none

/-! ### Numbers -/

/-- The whole number that a float is, where it is one. -/
def wholeNumber (value : Rat) : Option Int :=
  if value.den = 1 then some value.num else none

/-- `ontology_action_schema_integer`: an integer of either kind, or a whole float that
one of the two 64-bit types can hold. -/
def ontologyActionSchemaInteger (value : Json) : Bool :=
  if value.asI64.isSome || value.asU64.isSome then true
  else (value.asF64.bind wholeNumber).any fun number =>
    decide (-(2 ^ 63) ≤ number ∧ number < 2 ^ 64)

/-- `json_schema_integer_equals_float`: the float is the integer, and rounding the
integer gives the float back. -/
def jsonSchemaIntegerEqualsFloat (integer : JsonNumber) (value : Rat) : Bool :=
  match wholeNumber value with
  | none => false
  | some whole =>
      match (Json.number integer).asI64 with
      | some signed =>
          decide (-(2 ^ 63) ≤ whole ∧ whole < 2 ^ 63) && decide (whole = signed) &&
            decide ((Json.number integer).asF64 = some value)
      | none =>
          (Json.number integer).asU64.any fun unsigned =>
            decide (0 ≤ whole ∧ whole < 2 ^ 64) && decide (whole = unsigned) &&
              decide ((Json.number integer).asF64 = some value)

def jsonSchemaNumbersEqual : (left right : JsonNumber) → Bool
  | .float left, .float right => decide (left = right)
  | .float left, right => jsonSchemaIntegerEqualsFloat right left
  | left, .float right => jsonSchemaIntegerEqualsFloat left right
  | left, right =>
      match (Json.number left).asI64, (Json.number right).asI64 with
      | some left, some right => decide (left = right)
      | _, _ =>
          match (Json.number left).asU64, (Json.number right).asU64 with
          | some left, some right => decide (left = right)
          | _, _ => false

def jsonSchemaEnumContains (allowedValues : List Json) (value : Json) : Bool :=
  allowedValues.any fun allowed =>
    match allowed, value with
    | .number allowed, .number value => jsonSchemaNumbersEqual allowed value
    | allowed, value => decide (allowed = value)

/-! ### Parts of a schema -/

theorem Json.sizeOf_getField_lt {fields : List (String × Json)} {key : String} {value : Json}
    (found : Json.getField key fields = some value) :
    sizeOf value < sizeOf (Json.object fields) := by
  have member := List.sizeOf_lt_of_mem (Json.mem_of_getField found)
  simp only [Json.object.sizeOf_spec, Prod.mk.sizeOf_spec] at member ⊢
  omega

theorem Json.sizeOf_field_lt {fields : List (String × Json)} {field : String × Json}
    (member : field ∈ fields) : sizeOf field.2 < sizeOf (Json.object fields) := by
  have smaller := List.sizeOf_lt_of_mem member
  obtain ⟨name, value⟩ := field
  simp only [Json.object.sizeOf_spec, Prod.mk.sizeOf_spec] at smaller ⊢
  omega

/-- The object under the key, if there is one. -/
def Json.fieldsUnder (key : String) (fields : List (String × Json)) :
    Option (List (String × Json)) :=
  match Json.getField key fields with
  | some (.object inner) => some inner
  | _ => none

theorem Json.fieldsUnder_eq_some {fields inner : List (String × Json)} {key : String} :
    Json.fieldsUnder key fields = some inner ↔ Json.getField key fields = some (.object inner) := by
  unfold Json.fieldsUnder
  cases Json.getField key fields with
  | none => simp
  | some value => cases value <;> simp

theorem Json.sizeOf_fieldsUnder_lt {fields inner : List (String × Json)} {key : String}
    {field : String × Json} (found : Json.fieldsUnder key fields = some inner)
    (member : field ∈ inner) : sizeOf field.2 < sizeOf (Json.object fields) := by
  unfold Json.fieldsUnder at found
  split at found
  · rename_i isObject
    cases found
    exact (Json.sizeOf_field_lt member).trans (Json.sizeOf_getField_lt isObject)
  · cases found

section formats

variable (formats : SchemaFormats)

/-! ### Values -/

def ontologyActionSchemaValueMatchesType (value : Json) (expected : String) : Bool :=
  let normalized := normalizedTypeName expected
  if normalized ∈ ["string", "text"] then value.asStr.isSome
  else if normalized = "uuid" then value.asStr.any formats.isUuid
  else if normalized = "date" then value.asStr.any formats.isDate
  else if normalized ∈ ["timestamp", "datetime"] then value.asStr.any formats.isRfc3339
  else if normalized ∈ ["integer", "int", "int32", "int64"] then ontologyActionSchemaInteger value
  else if normalized ∈ ["number", "decimal", "float", "double"] then
    match value with
    | .number _ => true
    | _ => false
  else if normalized ∈ ["boolean", "bool"] then value.asBool.isSome
  else if normalized = "object" then value.isObject
  else if normalized = "json" then true
  else if normalized = "array" then value.asArray.isSome
  else if normalized = "null" then decide (value = .null)
  else false

/-- The type that a declaration states, or that its properties imply. -/
def declaredType (declaration : List (String × Json)) : Option String :=
  ((Json.getField "type" declaration).bind Json.asStr) <|>
    (Json.getField "properties" declaration).map fun _ => "object"

def ontologyActionSchemaValueMatchesNode (value schema : Json) : Bool :=
  match schema with
  | .string valueType => ontologyActionSchemaValueMatchesType formats value valueType
  | .object declaration =>
      -- what `ontology_action_schema_value_matches_declaration` checks
      if (declaredType declaration).any fun valueType =>
          !ontologyActionSchemaValueMatchesType formats value valueType then false
      else if ((Json.getField "enum" declaration).bind Json.asArray).any fun values =>
          !jsonSchemaEnumContains values value then false
      else if (declaredType declaration).map normalizedTypeName = some "object" then
        match value with
        | .object fields =>
            match isProperties : Json.fieldsUnder "properties" declaration with
            | none => true
            | some properties =>
                if fields.any fun field => (Json.getField field.1 properties).isNone then false
                else if ((Json.getField "required" declaration).bind Json.asArray).any
                    fun required => (required.filterMap Json.asStr).any fun name =>
                      (Json.getField name fields).isNone then false
                else fields.all fun field =>
                  match isProperty : Json.getField field.1 properties with
                  | none => false
                  | some propertySchema =>
                      have := Json.sizeOf_fieldsUnder_lt isProperties
                        (Json.mem_of_getField isProperty)
                      ontologyActionSchemaValueMatchesNode field.2 propertySchema
        | _ => false
      else if (declaredType declaration).map normalizedTypeName = some "array" then
        match isItems : Json.getField "items" declaration with
        | none => true
        | some items =>
            match value with
            | .array values => values.all fun value =>
                have := Json.sizeOf_getField_lt isItems
                ontologyActionSchemaValueMatchesNode value items
            | _ => false
      else true
  | _ => false
termination_by sizeOf schema
decreasing_by
  all_goals
    simp only [Json.object.sizeOf_spec] at this
    simpa using this

/-! ### Schemas -/

def actionSchemaDenied (reason : String) : AppError :=
  .forbidden ("ontology release catalog action input schema " ++ reason)

/-- The checks of the enumeration of a declaration. -/
def validateSchemaEnum (declaration : List (String × Json)) (valueType : Option String) :
    Except AppError Unit :=
  match Json.getField "enum" declaration with
  | none => .ok ()
  | some values =>
      match values.asArray with
      | none => .error (actionSchemaDenied "enum must be an array")
      | some [] => .error (actionSchemaDenied "enum must not be empty")
      | some values => do
          if let some valueType := valueType then
            if values.any fun value =>
                !ontologyActionSchemaValueMatchesType formats value valueType then
              throw (actionSchemaDenied ("enum member must be " ++ valueType))
          if valueType.any fun valueType =>
              decide (normalizedTypeName valueType ∈ ["object", "array"]) then
            if values.any fun value =>
                !ontologyActionSchemaValueMatchesNode formats value (.object declaration) then
              throw (actionSchemaDenied "enum member does not satisfy its declaration")

/-- The checks of the required names of a declaration with these properties. -/
def validateRequiredNames (declaration properties : List (String × Json))
    (shorthandDeclaration : Bool) : Except AppError Unit :=
  match Json.getField "required" declaration with
  | none => .ok ()
  | some required =>
      if shorthandDeclaration && required.asBool.isSome then .ok ()
      else
        match required.asArray with
        | none => .error (actionSchemaDenied "required must be an array")
        | some names => names.forM fun name =>
            match name.asStr with
            | none => .error (actionSchemaDenied "required names must be strings")
            | some name =>
                if (Json.getField name properties).isNone then
                  .error (actionSchemaDenied ("required field " ++ name ++ " is undeclared"))
                else .ok ()

/-- The type of a declaration, as `validate_action_schema_node` reads it. -/
def supportedDeclaredType (declaration : List (String × Json)) :
    Except AppError (Option String) :=
  match Json.getField "type" declaration with
  | some (.string valueType) =>
      if ontologyActionSchemaTypeSupported valueType then .ok (some valueType)
      else .error (actionSchemaDenied ("type " ++ valueType ++ " is unsupported"))
  | some _ => .error (actionSchemaDenied "type must be a string")
  | none => .ok ((Json.getField "properties" declaration).map fun _ => "object")

def validateActionSchemaNode (schema : Json) (shorthandDeclaration : Bool) :
    Except AppError Unit :=
  match schema with
  | .string valueType =>
      if ontologyActionSchemaTypeSupported valueType then .ok ()
      else .error (actionSchemaDenied ("type " ++ valueType ++ " is unsupported"))
  | .object declaration => do
      if let some keyword := ["allOf", "anyOf", "oneOf"].find? fun keyword =>
          (Json.getField keyword declaration).isSome then
        throw (actionSchemaDenied ("keyword " ++ keyword ++ " is unsupported"))
      let valueType ← supportedDeclaredType declaration
      validateSchemaEnum formats declaration valueType
      if (Json.getField "properties" declaration).isSome then
        match isProperties : Json.fieldsUnder "properties" declaration with
        | none => throw (actionSchemaDenied "properties must be an object")
        | some properties =>
            properties.attach.forM fun property =>
              have := Json.sizeOf_fieldsUnder_lt isProperties property.2
              validateActionSchemaNode property.1.2 false
            validateRequiredNames declaration properties shorthandDeclaration
      match isItems : Json.getField "items" declaration with
      | some items =>
          have := Json.sizeOf_getField_lt isItems
          validateActionSchemaNode items false
      | none => pure ()
      if valueType.isNone && (Json.getField "enum" declaration).isNone then
        throw (actionSchemaDenied "declaration has no supported type")
  | _ => .error (actionSchemaDenied "declaration must be an object or type name")
termination_by sizeOf schema
decreasing_by
  all_goals
    simp only [Json.object.sizeOf_spec] at this
    simpa using this

/-- `validate_action_schema`: an object schema, or an object of declarations. -/
def validateActionSchema (schema : Json) : Except AppError Unit :=
  match schema with
  | .object fields =>
      let checkDeclarations := fields.forM fun field =>
        validateActionSchemaNode formats field.2 true
      let checkObject :=
        if (Json.getField "properties" fields).isNone then
          .error (.forbidden ("ontology release catalog action top-level object input schema " ++
            "must declare properties"))
        else validateActionSchemaNode formats schema false
      match (Json.getField "type" fields).bind Json.asStr with
      | some valueType =>
          if eqIgnoreAsciiCase valueType "object" then checkObject
          else .error (actionSchemaDenied "top-level type must be object")
      | none => if (Json.getField "properties" fields).isSome then checkObject else checkDeclarations
  | _ => .ok ()

end formats

end MandoForge
