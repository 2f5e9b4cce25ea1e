/-
Module: MandoForge.Ontology.ActionParameters
Purpose: The validation of the parameters of an action when a session invokes it, against
  the input schema of the published contract.
Trusted boundary: as in `ActionSchema`.
Main exports: ParameterFault, validateOntologyActionParameters
-/
import MandoForge.Foundation.Outcome
import MandoForge.Ontology.ActionSchema

namespace MandoForge

open Foundation

/-- What ends a validation of parameters early: an answer to the caller, or an `expect`
that does not hold. -/
inductive ParameterFault where
  | notAnObject
  | propertiesUndeclared
  | schemaNotAnObject
  | undeclaredParameter (name : String)
  | missingParameter (name : String)
  | unsupportedType (field valueType : String)
  | wrongType (field valueType : String)
  | noTypeDeclaration (field : String)
  | enumNotAnArray (field : String)
  | enumExcludes (field : String)
  | undeclaredField (field name : String)
  | missingField (name : String)
  | panicked (message : String)
deriving DecidableEq, Repr

/-- What the caller is told; a panic tells nothing. -/
def ParameterFault.answer : ParameterFault → Option AppError
  | .notAnObject => some (.badRequest "ontology action parameters must be a JSON object")
  | .propertiesUndeclared =>
      some (.badRequest "ontology action object input_schema must declare properties")
  | .schemaNotAnObject => some (.badRequest "ontology action input_schema must be a JSON object")
  | .undeclaredParameter name =>
      some (.badRequest ("ontology action parameter " ++ name ++
        " is not declared by the published contract"))
  | .missingParameter name =>
      some (.badRequest ("ontology action missing required parameter " ++ name))
  | .unsupportedType field valueType =>
      some (.badRequest ("ontology action parameter " ++ field ++ " has unsupported type " ++
        valueType))
  | .wrongType field valueType =>
      some (.badRequest ("ontology action parameter " ++ field ++ " must be " ++ valueType))
  | .noTypeDeclaration field =>
      some (.badRequest ("ontology action parameter " ++ field ++
        " has no supported type declaration"))
  | .enumNotAnArray field =>
      some (.badRequest ("ontology action parameter " ++ field ++ " enum must be an array"))
  | .enumExcludes field =>
      some (.badRequest ("ontology action parameter " ++ field ++
        " is not an allowed enum value"))
  | .undeclaredField field name =>
      some (.badRequest ("ontology action parameter " ++ field ++ "." ++ name ++
        " is not declared by the published contract"))
  | .missingField name =>
      some (.badRequest ("ontology action missing required field " ++ name))
  | .panicked _ => none

/-! ### The checks of one value -/

/-- `as_object().expect(..)`. -/
def expectObject : Json → Except ParameterFault (List (String × Json))
  | .object fields => .ok fields
  | _ => .error (.panicked "object type checked above")

/-- `as_array().expect(..)`. -/
def expectArray : Json → Except ParameterFault (List Json)
  | .array items => .ok items
  | _ => .error (.panicked "array type checked above")

section formats

variable (formats : SchemaFormats)

/-- The check of the type that is expected of a value. -/
def checkExpectedType (value : Json) (expectedType : Option String) (hasEnum : Bool)
    (field : String) : Except ParameterFault Unit :=
  match expectedType with
  | some valueType =>
      if !ontologyActionSchemaTypeSupported valueType then
        .error (.unsupportedType field valueType)
      else if !ontologyActionSchemaValueMatchesType formats value valueType then
        .error (.wrongType field valueType)
      else .ok ()
  | none => if hasEnum then .ok () else .error (.noTypeDeclaration field)

/-- The check of the values that a declaration allows. -/
def checkAllowedValues (value : Json) (declaration : List (String × Json)) (field : String) :
    Except ParameterFault Unit :=
  match Json.getField "enum" declaration with
  | none => .ok ()
  | some allowedValues =>
      match allowedValues.asArray with
      | none => .error (.enumNotAnArray field)
      | some allowedValues =>
          if jsonSchemaEnumContains allowedValues value then .ok ()
          else .error (.enumExcludes field)

/-- The checks of the names that an object has, before the values under them. -/
def checkFieldNames (fields properties declaration : List (String × Json)) (field : String) :
    Except ParameterFault Unit := do
  fields.forM fun (name, _) =>
    if (Json.getField name properties).isNone then throw (.undeclaredField field name)
    else pure ()
  match (Json.getField "required" declaration).bind Json.asArray with
  | none => pure ()
  | some required => (required.filterMap Json.asStr).forM fun name =>
      if (Json.getField name fields).isNone then throw (.missingField name) else pure ()

def validateOntologyActionSchemaValue (value schema : Json) (field : String) :
    Except ParameterFault Unit :=
  match schema with
  | .string valueType => do
      checkExpectedType formats value (some valueType) false field
      if normalizedTypeName valueType = "object" then
        let _fields ← expectObject value
  | .object declaration => do
      checkExpectedType formats value (declaredType declaration)
        (Json.getField "enum" declaration).isSome field
      checkAllowedValues value declaration field
      if (declaredType declaration).map normalizedTypeName = some "object" then
        let fields ← expectObject value
        match isProperties : Json.fieldsUnder "properties" declaration with
        | none => pure ()
        | some properties =>
            checkFieldNames fields properties declaration field
            properties.attach.forM fun property =>
              match Json.getField property.1.1 fields with
              | none => pure ()
              | some propertyValue =>
                  have := Json.sizeOf_fieldsUnder_lt isProperties property.2
                  validateOntologyActionSchemaValue propertyValue property.1.2
                    (field ++ "." ++ property.1.1)
      else if (declaredType declaration).map normalizedTypeName = some "array" then
        match isItems : Json.getField "items" declaration with
        | none => pure ()
        | some items =>
            let values ← expectArray value
            values.zipIdx.forM fun (item, index) =>
              have := Json.sizeOf_getField_lt isItems
              validateOntologyActionSchemaValue item items
                (field ++ "[" ++ Nat.repr index ++ "]")
  | _ => .error (.noTypeDeclaration field)
termination_by sizeOf schema
decreasing_by
  all_goals
    simp only [Json.object.sizeOf_spec] at this
    simpa using this

/-! ### The parameters of an action -/

/-- The schema is one of an object, not an object of declarations. -/
def isObjectSchema (schema : List (String × Json)) : Bool :=
  ((Json.getField "type" schema).bind Json.asStr).any (eqIgnoreAsciiCase · "object") ||
    ((Json.getField "type" schema).isNone && (Json.getField "properties" schema).isSome)

/-- `declaration.get("required").and_then(as_bool).unwrap_or(true)`. -/
def declarationRequired (declaration : Json) : Bool :=
  ((declaration.get "required").bind Json.asBool).getD true

/-- The check of the names of the parameters. -/
def checkParameterNames (parameters declared : List (String × Json)) :
    Except ParameterFault Unit :=
  parameters.forM fun (name, _) =>
    if (Json.getField name declared).isNone then throw (.undeclaredParameter name) else pure ()

def validateOntologyActionParameters (inputSchema parameters : Json) :
    Except ParameterFault Unit :=
  match parameters with
  | .object parameters =>
      match inputSchema with
      | .object schema =>
          if isObjectSchema schema then
            match Json.fieldsUnder "properties" schema with
            | none => .error .propertiesUndeclared
            | some properties => do
                checkParameterNames parameters properties
                validateOntologyActionSchemaValue formats (.object parameters) inputSchema
                  "parameters"
          else do
            checkParameterNames parameters schema
            schema.forM fun (name, declaration) =>
              match Json.getField name parameters with
              | none =>
                  if declarationRequired declaration then throw (.missingParameter name)
                  else pure ()
              | some value => validateOntologyActionSchemaValue formats value declaration name
      | _ => .error .schemaNotAnObject
  | _ => .error .notAnObject

/-! ### What a validation may answer -/

/-- The path that an answer is about, where it names one. -/
def ParameterFault.path : ParameterFault → Option String
  | .unsupportedType field _ | .wrongType field _ | .noTypeDeclaration field
  | .enumNotAnArray field | .enumExcludes field | .undeclaredField field _ => some field
  | _ => none

/-- An answer about the field or a part of it, or that a field under it is missing. -/
def AnswersAbout (field : String) (fault : ParameterFault) : Prop :=
  (∃ name, fault = .missingField name) ∨
    ∃ path, fault.path = some path ∧ field.toList <+: path.toList

theorem AnswersAbout.of_part {field suffix : String} {fault : ParameterFault}
    (about : AnswersAbout (field ++ suffix) fault) : AnswersAbout field fault := by
  rcases about with missing | ⟨path, isPath, extended⟩
  · exact .inl missing
  · rw [String.toList_append] at extended
    exact .inr ⟨path, isPath, (List.prefix_append _ _).trans extended⟩

theorem answersAbout_field {field : String} {fault : ParameterFault}
    (isPath : fault.path = some field) : AnswersAbout field fault :=
  .inr ⟨field, isPath, List.prefix_rfl⟩

theorem AnswersAbout.not_panicked {field : String} {fault : ParameterFault}
    (about : AnswersAbout field fault) (message : String) : fault ≠ .panicked message := by
  rintro rfl
  rcases about with ⟨_, isMissing⟩ | ⟨_, isPath, -⟩
  · cases isMissing
  · cases isPath

/-- Whatever the validation fails with is allowed. -/
def FaultsWith {Value : Type} (allowed : ParameterFault → Prop)
    (result : Except ParameterFault Value) : Prop :=
  ∀ fault, result = .error fault → allowed fault

section faults

variable {allowed : ParameterFault → Prop}

theorem faultsWith_ok {Value : Type} (value : Value) :
    FaultsWith allowed (.ok value : Except ParameterFault Value) := nofun

theorem FaultsWith.mono {Value : Type} {wider : ParameterFault → Prop}
    {result : Except ParameterFault Value} (faults : FaultsWith allowed result)
    (weaker : ∀ fault, allowed fault → wider fault) : FaultsWith wider result :=
  fun fault failed => weaker fault (faults fault failed)

theorem FaultsWith.bind {Value Next : Type} {first : Except ParameterFault Value}
    {next : Value → Except ParameterFault Next} (faults : FaultsWith allowed first)
    (nextFaults : ∀ value, first = .ok value → FaultsWith allowed (next value)) :
    FaultsWith allowed (first >>= next) := by
  cases first with
  | error fault => exact fun other failed => faults other (by cases failed; rfl)
  | ok value => exact nextFaults value rfl

theorem faultsWith_forM {Item : Type} {items : List Item}
    {check : Item → Except ParameterFault Unit}
    (faults : ∀ item ∈ items, FaultsWith allowed (check item)) :
    FaultsWith allowed (items.forM check) := by
  induction items with
  | nil => exact faultsWith_ok ()
  | cons item items inductionHypothesis =>
      refine FaultsWith.bind (faults item List.mem_cons_self) fun _ _ => ?_
      exact inductionHypothesis fun other inRest => faults other (List.mem_cons_of_mem _ inRest)

theorem faultsWith_guard {condition : Prop} [Decidable condition] {fault : ParameterFault}
    (isAllowed : allowed fault) :
    FaultsWith allowed
      (if condition then throw fault else pure () : Except ParameterFault Unit) := by
  intro other failed
  split at failed
  · exact Except.error.inj failed ▸ isAllowed
  · cases failed

end faults

section types

variable {formats} {value : Json} {valueType : String}

theorem matchesType_object (normalized : normalizedTypeName valueType = "object") :
    ontologyActionSchemaValueMatchesType formats value valueType = value.isObject := by
  unfold ontologyActionSchemaValueMatchesType
  simp [normalized]

theorem matchesType_array (normalized : normalizedTypeName valueType = "array") :
    ontologyActionSchemaValueMatchesType formats value valueType = value.asArray.isSome := by
  unfold ontologyActionSchemaValueMatchesType
  simp [normalized]

theorem object_of_typed {expected : Option String}
    (typed : ∀ valueType, expected = some valueType →
      ontologyActionSchemaValueMatchesType formats value valueType = true)
    (isObject : expected.map normalizedTypeName = some "object") :
    ∃ fields, value = .object fields := by
  obtain ⟨valueType, isType, normalized⟩ := Option.map_eq_some_iff.mp isObject
  have fits := typed valueType isType
  rw [matchesType_object normalized] at fits
  cases value with
  | object fields => exact ⟨fields, rfl⟩
  | null | bool | number | string | array => cases fits

theorem array_of_typed {expected : Option String}
    (typed : ∀ valueType, expected = some valueType →
      ontologyActionSchemaValueMatchesType formats value valueType = true)
    (isArray : expected.map normalizedTypeName = some "array") :
    ∃ items, value = .array items := by
  obtain ⟨valueType, isType, normalized⟩ := Option.map_eq_some_iff.mp isArray
  have fits := typed valueType isType
  rw [matchesType_array normalized] at fits
  cases value with
  | array items => exact ⟨items, rfl⟩
  | null | bool | number | string | object => cases fits

theorem checkExpectedType_eq_ok {expectedType : Option String} {hasEnum : Bool} {field : String} :
    checkExpectedType formats value expectedType hasEnum field = .ok () ↔
      (∀ valueType, expectedType = some valueType →
        ontologyActionSchemaTypeSupported valueType = true ∧
          ontologyActionSchemaValueMatchesType formats value valueType = true) ∧
      (expectedType = none → hasEnum = true) := by
  cases expectedType with
  | none => cases hasEnum <;> simp [checkExpectedType]
  | some valueType =>
      cases supported : ontologyActionSchemaTypeSupported valueType <;>
        cases fits : ontologyActionSchemaValueMatchesType formats value valueType <;>
          simp [checkExpectedType, supported, fits]

theorem expectObject_of_checked {expectedType : Option String} {hasEnum : Bool} {field : String}
    (checked : checkExpectedType formats value expectedType hasEnum field = .ok ())
    (isObject : expectedType.map normalizedTypeName = some "object") :
    ∃ fields, value = .object fields :=
  object_of_typed (fun valueType isType =>
    ((checkExpectedType_eq_ok.mp checked).1 valueType isType).2) isObject

theorem expectArray_of_checked {expectedType : Option String} {hasEnum : Bool} {field : String}
    (checked : checkExpectedType formats value expectedType hasEnum field = .ok ())
    (isArray : expectedType.map normalizedTypeName = some "array") :
    ∃ items, value = .array items :=
  array_of_typed (fun valueType isType =>
    ((checkExpectedType_eq_ok.mp checked).1 valueType isType).2) isArray

end types

theorem checkExpectedType_faults (value : Json) (expectedType : Option String) (hasEnum : Bool)
    (field : String) :
    FaultsWith (AnswersAbout field) (checkExpectedType formats value expectedType hasEnum field) := by
  intro fault failed
  unfold checkExpectedType at failed
  repeat' split at failed
  all_goals cases failed
  all_goals exact answersAbout_field rfl

theorem checkAllowedValues_faults (value : Json) (declaration : List (String × Json))
    (field : String) :
    FaultsWith (AnswersAbout field) (checkAllowedValues value declaration field) := by
  intro fault failed
  unfold checkAllowedValues at failed
  repeat' split at failed
  all_goals cases failed
  all_goals exact answersAbout_field rfl

theorem checkFieldNames_faults (fields properties declaration : List (String × Json))
    (field : String) :
    FaultsWith (AnswersAbout field) (checkFieldNames fields properties declaration field) := by
  refine FaultsWith.bind (faultsWith_forM fun _ _ => faultsWith_guard (answersAbout_field rfl))
    fun _ _ => ?_
  split
  · exact faultsWith_ok ()
  · exact faultsWith_forM fun _ _ => faultsWith_guard (.inl ⟨_, rfl⟩)

theorem checkParameterNames_faults (parameters declared : List (String × Json)) :
    FaultsWith (fun fault => ∀ message, fault ≠ .panicked message)
      (checkParameterNames parameters declared) :=
  faultsWith_forM fun _ _ => faultsWith_guard fun _ => ParameterFault.noConfusion

/-- The validation of a value answers about the value or a part of it, and neither of its
`expect`s can fail: the type was checked. -/
theorem validateOntologyActionSchemaValue_faults (value schema : Json) (field : String) :
    FaultsWith (AnswersAbout field)
      (validateOntologyActionSchemaValue formats value schema field) := by
  match schema with
  | .string valueType =>
      rw [validateOntologyActionSchemaValue]
      refine FaultsWith.bind (checkExpectedType_faults formats value _ _ field)
        fun _ checked => ?_
      split
      · rename_i isObject
        obtain ⟨fields, rfl⟩ := expectObject_of_checked checked (congrArg some isObject)
        exact faultsWith_ok ()
      · exact faultsWith_ok ()
  | .object declaration =>
      rw [validateOntologyActionSchemaValue]
      refine FaultsWith.bind (checkExpectedType_faults formats value _ _ field)
        fun _ checked => ?_
      refine FaultsWith.bind (checkAllowedValues_faults value declaration field) fun _ _ => ?_
      split
      · rename_i isObject
        obtain ⟨fields, rfl⟩ := expectObject_of_checked checked isObject
        refine FaultsWith.bind (faultsWith_ok fields) fun _ _ => ?_
        split
        · exact faultsWith_ok ()
        · rename_i properties isProperties
          refine FaultsWith.bind (checkFieldNames_faults _ _ _ field) fun _ _ => ?_
          refine faultsWith_forM fun property _ => ?_
          split
          · exact faultsWith_ok ()
          · have := Json.sizeOf_fieldsUnder_lt isProperties property.2
            exact (validateOntologyActionSchemaValue_faults _ property.1.2
              (field ++ "." ++ property.1.1)).mono fun _ about => about.of_part.of_part
      · split
        · rename_i isArray
          obtain ⟨items, rfl⟩ := expectArray_of_checked checked isArray
          split
          · exact faultsWith_ok ()
          · rename_i schema isItems
            refine FaultsWith.bind (faultsWith_ok items) fun _ _ => ?_
            refine faultsWith_forM fun (item, index) _ => ?_
            have := Json.sizeOf_getField_lt isItems
            exact (validateOntologyActionSchemaValue_faults item schema
              (field ++ "[" ++ Nat.repr index ++ "]")).mono fun _ about =>
                about.of_part.of_part.of_part
        · exact faultsWith_ok ()
  | .null | .bool _ | .number _ | .array _ =>
      unfold validateOntologyActionSchemaValue
      exact fun fault failed => Except.error.inj failed ▸ answersAbout_field rfl
termination_by sizeOf schema
decreasing_by
  all_goals
    simp only [Json.object.sizeOf_spec] at this
    simpa using this

/-- No input schema and no parameters make the validation panic. -/
theorem validateOntologyActionParameters_noPanic (inputSchema parameters : Json) :
    FaultsWith (fun fault => ∀ message, fault ≠ .panicked message)
      (validateOntologyActionParameters formats inputSchema parameters) := by
  have valueFaults : ∀ value schema field, FaultsWith (fun fault => ∀ message,
      fault ≠ .panicked message) (validateOntologyActionSchemaValue formats value schema field) :=
    fun value schema field => (validateOntologyActionSchemaValue_faults formats value schema
      field).mono fun _ => AnswersAbout.not_panicked
  unfold validateOntologyActionParameters
  split
  · split
    · split
      · split
        · exact fun fault failed => Except.error.inj failed ▸ fun _ => ParameterFault.noConfusion
        · exact FaultsWith.bind (checkParameterNames_faults _ _) fun _ _ => valueFaults _ _ _
      · refine FaultsWith.bind (checkParameterNames_faults _ _) fun _ _ => ?_
        refine faultsWith_forM fun field _ => ?_
        dsimp only
        split
        · exact faultsWith_guard fun _ => ParameterFault.noConfusion
        · exact valueFaults _ _ _
    · exact fun fault failed => Except.error.inj failed ▸ fun _ => ParameterFault.noConfusion
  · exact fun fault failed => Except.error.inj failed ▸ fun _ => ParameterFault.noConfusion

end formats

end MandoForge
