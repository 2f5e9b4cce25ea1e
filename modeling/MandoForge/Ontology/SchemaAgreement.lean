/-
Module: MandoForge.Ontology.SchemaAgreement
Purpose: For a schema that a catalog may publish, the validation of parameters at their
  invocation accepts what the matcher of the catalog accepts.
Trusted boundary: as in `ActionSchema`.
Main exports: ValueFits, action_schema_validators_agree
-/
import MandoForge.Ontology.ActionParameters

namespace MandoForge

open Foundation

/-! ### What a value has to satisfy -/

/-- The names that a declaration requires of an object. -/
def requiredNames (declaration : List (String × Json)) : List String :=
  ((Json.getField "required" declaration).bind Json.asArray).elim [] fun required =>
    required.filterMap Json.asStr

/-- The fields have the names that the declaration wants, and fit the properties under
these names. -/
structure FieldsFit (fits : Json → Json → Prop) (declaration properties : List (String × Json))
    (fields : List (String × Json)) : Prop where
  declared : ∀ field ∈ fields, (Json.getField field.1 properties).isSome = true
  present : ∀ name ∈ requiredNames declaration, (Json.getField name fields).isSome = true
  under : ∀ name value property, Json.getField name fields = some value →
    Json.getField name properties = some property → fits value property

/-- The value satisfies the declaration, where `fits` is asked about its members. -/
structure ValueFits (formats : SchemaFormats) (fits : Json → Json → Prop) (value : Json)
    (declaration : List (String × Json)) : Prop where
  typed : ∀ valueType, declaredType declaration = some valueType →
    ontologyActionSchemaValueMatchesType formats value valueType = true
  allowed : ∀ values, Json.getField "enum" declaration = some (.array values) →
    jsonSchemaEnumContains values value = true
  fields : (declaredType declaration).map normalizedTypeName = some "object" →
    ∀ fields, value = .object fields → ∀ properties,
      Json.fieldsUnder "properties" declaration = some properties →
        FieldsFit fits declaration properties fields
  items : (declaredType declaration).map normalizedTypeName = some "array" →
    ∀ schema, Json.getField "items" declaration = some schema →
      ∀ values, value = .array values → ∀ item ∈ values, fits item schema

section formats

variable {formats : SchemaFormats}

theorem matchesNode_string {value : Json} {valueType : String} :
    ontologyActionSchemaValueMatchesNode formats value (.string valueType) =
      ontologyActionSchemaValueMatchesType formats value valueType := by
  rw [ontologyActionSchemaValueMatchesNode]

/-- Every field under its property, each field by itself or each name of the object. -/
theorem fields_under_iff {fits : Json → Json → Prop} {properties fields : List (String × Json)}
    (distinct : (fields.map Prod.fst).Nodup) :
    (∀ field ∈ fields, ∃ property, Json.getField field.1 properties = some property ∧
        fits field.2 property) ↔
      (∀ field ∈ fields, (Json.getField field.1 properties).isSome = true) ∧
        ∀ name value property, Json.getField name fields = some value →
          Json.getField name properties = some property → fits value property := by
  constructor
  · intro each
    refine ⟨fun field member => ?_, fun name value property found isProperty => ?_⟩
    · obtain ⟨property, isProperty, -⟩ := each field member
      rw [isProperty, Option.isSome_some]
    · obtain ⟨other, isOther, fitsOther⟩ := each (name, value) (Json.mem_of_getField found)
      cases isProperty.symm.trans isOther
      exact fitsOther
  · rintro ⟨declared, under⟩ field member
    obtain ⟨property, isProperty⟩ := Option.isSome_iff_exists.mp (declared field member)
    exact ⟨property, isProperty, under field.1 field.2 property
      (Json.getField_of_mem distinct member) isProperty⟩

theorem requiredNames_any {declaration : List (String × Json)} {missing : String → Bool} :
    (((Json.getField "required" declaration).bind Json.asArray).any fun required =>
        (required.filterMap Json.asStr).any missing) = (requiredNames declaration).any missing := by
  unfold requiredNames
  cases (Json.getField "required" declaration).bind Json.asArray <;> rfl

theorem refused_iff {condition : Prop} [Decidable condition] {rest : Bool} :
    (if condition then false else rest) = true ↔ ¬condition ∧ rest = true := by
  by_cases holds : condition <;> simp [holds]

theorem not_mistyped_iff {value : Json} {expected : Option String} :
    ¬(expected.any fun valueType =>
        !ontologyActionSchemaValueMatchesType formats value valueType) = true ↔
      ∀ valueType, expected = some valueType →
        ontologyActionSchemaValueMatchesType formats value valueType = true := by
  cases expected <;> simp

theorem not_excluded_iff {value : Json} {allowed : Option Json} :
    ¬((allowed.bind Json.asArray).any fun values => !jsonSchemaEnumContains values value) = true ↔
      ∀ values, allowed = some (.array values) → jsonSchemaEnumContains values value = true := by
  cases allowed with
  | none => simp
  | some allowed => cases allowed <;> simp [Json.asArray]

/-- What the matcher of the catalog asks of the fields of an object. -/
theorem matchesFields_iff {declaration properties fields : List (String × Json)}
    (distinct : (fields.map Prod.fst).Nodup) {matchesEach : Bool}
    {fits : Json → Json → Prop}
    (each : matchesEach = true ↔ ∀ field ∈ fields, ∃ property,
      Json.getField field.1 properties = some property ∧ fits field.2 property) :
    (if (fields.any fun field => (Json.getField field.1 properties).isNone) = true then false
      else if (((Json.getField "required" declaration).bind Json.asArray).any fun required =>
          (required.filterMap Json.asStr).any fun name =>
            (Json.getField name fields).isNone) = true then false
      else matchesEach) = true ↔ FieldsFit fits declaration properties fields := by
  rw [refused_iff, refused_iff, requiredNames_any, each, fields_under_iff distinct]
  simp only [List.any_eq_true, not_exists, not_and, Bool.not_eq_true, Option.isNone_eq_false_iff]
  constructor
  · rintro ⟨declared, present, -, under⟩
    exact ⟨declared, present, under⟩
  · exact fun fit => ⟨fit.declared, fit.present, fit.declared, fit.under⟩

theorem valueFits_iff {fits : Json → Json → Prop} {value : Json}
    {declaration : List (String × Json)} :
    ValueFits formats fits value declaration ↔
      (∀ valueType, declaredType declaration = some valueType →
        ontologyActionSchemaValueMatchesType formats value valueType = true) ∧
      (∀ values, Json.getField "enum" declaration = some (.array values) →
        jsonSchemaEnumContains values value = true) ∧
      ((declaredType declaration).map normalizedTypeName = some "object" →
        ∀ fields, value = .object fields → ∀ properties,
          Json.fieldsUnder "properties" declaration = some properties →
            FieldsFit fits declaration properties fields) ∧
      ((declaredType declaration).map normalizedTypeName = some "array" →
        ∀ schema, Json.getField "items" declaration = some schema →
          ∀ values, value = .array values → ∀ item ∈ values, fits item schema) :=
  ⟨fun fit => ⟨fit.typed, fit.allowed, fit.fields, fit.items⟩,
    fun ⟨typed, allowed, fields, items⟩ => ⟨typed, allowed, fields, items⟩⟩

/-- What the matcher of the catalog asks of a value under a declaration. -/
theorem matchesNode_object {value : Json} {declaration : List (String × Json)}
    (distinct : value.keysDistinct = true) :
    ontologyActionSchemaValueMatchesNode formats value (.object declaration) = true ↔
      ValueFits formats
        (fun value schema => ontologyActionSchemaValueMatchesNode formats value schema = true)
        value declaration := by
  rw [ontologyActionSchemaValueMatchesNode.eq_def formats value (.object declaration)]
  dsimp only
  rw [refused_iff, refused_iff, not_mistyped_iff, not_excluded_iff, valueFits_iff]
  refine and_congr_right fun typed => and_congr_right fun _ => ?_
  split
  case isTrue isObject =>
    obtain ⟨fields, rfl⟩ := object_of_typed typed isObject
    dsimp only
    split
    · rename_i noProperties
      simp [noProperties, isObject]
    · rename_i properties isProperties
      refine (@matchesFields_iff declaration properties fields
        (Json.keysDistinct_object distinct).1 _ (fun value schema =>
          ontologyActionSchemaValueMatchesNode formats value schema = true) ?each).trans ?_
      case each =>
        rw [List.all_eq_true]
        refine forall₂_congr fun field _ => ?_
        split
        · rename_i undeclared
          simp [undeclared]
        · rename_i property isProperty
          simp [isProperty]
      simp [isProperties, isObject]
  case isFalse notObject =>
    split
    case isTrue isArray =>
      obtain ⟨items, rfl⟩ := array_of_typed typed isArray
      split
      · rename_i noItems
        simp [noItems, isArray]
      · rename_i schema isItems
        simp [isItems, isArray]
    case isFalse notArray => simp [notObject, notArray]

/-! ### What a schema that a catalog accepts is like -/

/-- What the checks of a declaration establish. -/
structure DeclarationAccepted (formats : SchemaFormats) (declaration : List (String × Json))
    (shorthandDeclaration : Bool) : Prop where
  typeStated : ∀ value, Json.getField "type" declaration = some value →
    ∃ valueType, value = .string valueType
  supported : ∀ valueType, declaredType declaration = some valueType →
    ontologyActionSchemaTypeSupported valueType = true
  typeOrEnum : declaredType declaration = none →
    (Json.getField "enum" declaration).isSome = true
  enum : validateSchemaEnum formats declaration (declaredType declaration) = .ok ()
  propertiesListed : ∀ value, Json.getField "properties" declaration = some value →
    ∃ properties, value = .object properties
  property : ∀ properties, Json.fieldsUnder "properties" declaration = some properties →
    ∀ property ∈ properties, validateActionSchemaNode formats property.2 false = .ok ()
  required : ∀ properties, Json.fieldsUnder "properties" declaration = some properties →
    validateRequiredNames declaration properties shorthandDeclaration = .ok ()
  items : ∀ items, Json.getField "items" declaration = some items →
    validateActionSchemaNode formats items false = .ok ()

/-- The type that the validation reads is the one the declaration states or implies. -/
theorem supportedDeclaredType_eq_ok {declaration : List (String × Json)}
    {valueType : Option String}
    (read : supportedDeclaredType declaration = .ok valueType) :
    valueType = declaredType declaration ∧
      (∀ value, Json.getField "type" declaration = some value → ∃ stated, value = .string stated) ∧
      ∀ stated, declaredType declaration = some stated →
        ontologyActionSchemaTypeSupported stated = true := by
  unfold supportedDeclaredType at read
  unfold declaredType
  split at read
  · rename_i stated isStated
    split at read
    · rename_i supported
      cases read
      simp [isStated, Json.asStr, supported]
    · cases read
  · cases read
  · rename_i isAbsent
    cases read
    refine ⟨by simp [isAbsent], by simp [isAbsent], fun stated isStated => ?_⟩
    have implied : stated = "object" := by
      cases found : Json.getField "properties" declaration with
      | none => simp [isAbsent, found] at isStated
      | some properties => simpa [isAbsent, found, eq_comm] using isStated
    rw [implied]
    decide +kernel

theorem validateActionSchemaNode_string {valueType : String} {shorthandDeclaration : Bool} :
    validateActionSchemaNode formats (.string valueType) shorthandDeclaration = .ok () ↔
      ontologyActionSchemaTypeSupported valueType = true := by
  rw [validateActionSchemaNode]
  cases ontologyActionSchemaTypeSupported valueType <;> simp

/-- The checks of an object of a schema behind those of its properties. -/
def checkItemsDeclaration (formats : SchemaFormats) (declaration : List (String × Json)) :
    Except AppError Unit :=
  match Json.getField "items" declaration with
  | some items => do
      validateActionSchemaNode formats items false
      if (declaredType declaration).isNone && (Json.getField "enum" declaration).isNone then
        throw (actionSchemaDenied "declaration has no supported type")
  | none => do
      if (declaredType declaration).isNone && (Json.getField "enum" declaration).isNone then
        throw (actionSchemaDenied "declaration has no supported type")

theorem declarationAccepted_of_ok {declaration : List (String × Json)}
    {shorthandDeclaration : Bool}
    (accepted : validateActionSchemaNode formats (.object declaration) shorthandDeclaration =
      .ok ()) : DeclarationAccepted formats declaration shorthandDeclaration := by
  unfold validateActionSchemaNode at accepted
  dsimp only at accepted
  split at accepted
  · cases accepted
  obtain ⟨valueType, read, accepted⟩ := bind_eq_ok.mp accepted
  obtain ⟨rfl, typeStated, supported⟩ := supportedDeclaredType_eq_ok read
  obtain ⟨_, enum, accepted⟩ := bind_eq_ok.mp accepted
  -- the properties first; what follows them is the same with and without any
  obtain ⟨propertiesListed, property, required, accepted⟩ :
      (∀ value, Json.getField "properties" declaration = some value →
        ∃ properties, value = .object properties) ∧
      (∀ properties, Json.fieldsUnder "properties" declaration = some properties →
        ∀ property ∈ properties, validateActionSchemaNode formats property.2 false = .ok ()) ∧
      (∀ properties, Json.fieldsUnder "properties" declaration = some properties →
        validateRequiredNames declaration properties shorthandDeclaration = .ok ()) ∧
      checkItemsDeclaration formats declaration = .ok () := by
    unfold checkItemsDeclaration
    split at accepted
    case isTrue hasProperties =>
      split at accepted
      · cases accepted
      · rename_i properties isProperties
        obtain ⟨_, each, accepted⟩ := bind_eq_ok.mp accepted
        obtain ⟨_, names, accepted⟩ := bind_eq_ok.mp accepted
        have isObject := Json.fieldsUnder_eq_some.mp isProperties
        refine ⟨fun value found => ⟨properties, Option.some.inj (found.symm.trans isObject)⟩,
          ?_, ?_, ?_⟩
        · rintro others areOthers property member
          cases isProperties.symm.trans areOthers
          exact forM_eq_ok.mp each ⟨property, member⟩ (List.mem_attach _ _)
        · rintro others areOthers
          cases isProperties.symm.trans areOthers
          exact names
        · split at accepted <;> rename_i isItems <;> simp only [isItems] <;> exact accepted
    case isFalse noProperties =>
      have absent : Json.getField "properties" declaration = none := by
        simpa using noProperties
      have noFields : Json.fieldsUnder "properties" declaration = none := by
        rw [Json.fieldsUnder, absent]
      refine ⟨by simp [absent], by simp [noFields], by simp [noFields], ?_⟩
      split at accepted <;> rename_i isItems <;> simp only [isItems] <;> exact accepted
  obtain ⟨typeOrEnum, items⟩ :
      ¬((declaredType declaration).isNone && (Json.getField "enum" declaration).isNone) = true ∧
      (∀ items, Json.getField "items" declaration = some items →
        validateActionSchemaNode formats items false = .ok ()) := by
    unfold checkItemsDeclaration at accepted
    cases isItems : Json.getField "items" declaration with
    | none =>
        rw [isItems] at accepted
        exact ⟨guard_eq_ok.mp accepted, by simp⟩
    | some items =>
        rw [isItems] at accepted
        obtain ⟨_, checked, rest⟩ := bind_eq_ok.mp accepted
        exact ⟨guard_eq_ok.mp rest, fun other same => Option.some.inj same ▸ checked⟩
  refine ⟨typeStated, supported, fun untyped => ?_, enum, propertiesListed, property, required, items⟩
  rw [untyped, Option.isNone_none, Bool.true_and, Option.isNone_iff_eq_none] at typeOrEnum
  exact Option.isSome_iff_ne_none.mpr typeOrEnum

theorem validateActionSchemaNode_shape {schema : Json} {shorthandDeclaration : Bool}
    (accepted : validateActionSchemaNode formats schema shorthandDeclaration = .ok ()) :
    (∃ valueType, schema = .string valueType ∧
      ontologyActionSchemaTypeSupported valueType = true) ∨
    ∃ declaration, schema = .object declaration ∧
      DeclarationAccepted formats declaration shorthandDeclaration := by
  cases schema with
  | string valueType =>
      exact .inl ⟨valueType, rfl, validateActionSchemaNode_string.mp accepted⟩
  | object declaration => exact .inr ⟨declaration, rfl, declarationAccepted_of_ok accepted⟩
  | null | bool | number | array =>
      unfold validateActionSchemaNode at accepted
      cases accepted

theorem DeclarationAccepted.enum_listed {declaration : List (String × Json)}
    {shorthandDeclaration : Bool} (accepted : DeclarationAccepted formats declaration
      shorthandDeclaration) {values : Json}
    (isEnum : Json.getField "enum" declaration = some values) :
    ∃ first rest, values = .array (first :: rest) := by
  have enum := accepted.enum
  unfold validateSchemaEnum at enum
  rw [isEnum] at enum
  cases values with
  | array values =>
      cases values with
      | nil => cases enum
      | cons first rest => exact ⟨first, rest, rfl⟩
  | null | bool | number | string | object => cases enum

/-! ### What the validation of parameters asks -/

theorem checkAllowedValues_eq_ok {value : Json} {declaration : List (String × Json)}
    {field : String}
    (listed : ∀ values, Json.getField "enum" declaration = some values →
      ∃ first rest, values = .array (first :: rest)) :
    checkAllowedValues value declaration field = .ok () ↔
      ∀ values, Json.getField "enum" declaration = some (.array values) →
        jsonSchemaEnumContains values value = true := by
  unfold checkAllowedValues
  cases isEnum : Json.getField "enum" declaration with
  | none => simp
  | some values =>
      obtain ⟨first, rest, rfl⟩ := listed values isEnum
      cases contains : jsonSchemaEnumContains (first :: rest) value <;>
        simp [Json.asArray, contains]

theorem forM_found_eq_ok {Item : Type} {items : List Item} {find : Item → Option Json}
    {fault : Item → ParameterFault} :
    items.forM (fun item =>
        if (find item).isNone then throw (fault item) else pure () :
          Item → Except ParameterFault Unit) = .ok () ↔
      ∀ item ∈ items, (find item).isSome = true := by
  rw [forM_eq_ok]
  refine forall₂_congr fun item _ => guard_eq_ok.trans ?_
  cases find item <;> simp

theorem checkParameterNames_eq_ok {parameters declared : List (String × Json)} :
    checkParameterNames parameters declared = .ok () ↔
      ∀ field ∈ parameters, (Json.getField field.1 declared).isSome = true :=
  forM_found_eq_ok

theorem checkFieldNames_eq_ok {fields properties declaration : List (String × Json)}
    {field : String} :
    checkFieldNames fields properties declaration field = .ok () ↔
      (∀ field ∈ fields, (Json.getField field.1 properties).isSome = true) ∧
      ∀ name ∈ requiredNames declaration, (Json.getField name fields).isSome = true := by
  unfold checkFieldNames requiredNames
  rw [then_eq_ok, forM_found_eq_ok]
  refine and_congr_right fun _ => ?_
  cases (Json.getField "required" declaration).bind Json.asArray with
  | none => simp [pure, Except.pure]
  | some required => exact forM_found_eq_ok

/-- The check of the value that an object has for a property. -/
def checkProperty (formats : SchemaFormats) (fields : List (String × Json)) (field : String)
    (property : String × Json) : Except ParameterFault Unit :=
  match Json.getField property.1 fields with
  | none => pure ()
  | some value =>
      validateOntologyActionSchemaValue formats value property.2 (field ++ "." ++ property.1)

/-- What the validation of parameters asks of a value under an accepted declaration, when
`fits` says what it asks of the members. -/
theorem validateSchemaValue_object {value : Json} {declaration : List (String × Json)}
    {shorthandDeclaration : Bool}
    (accepted : DeclarationAccepted formats declaration shorthandDeclaration)
    (distinct : (Json.object declaration).keysDistinct = true)
    {fits : Json → Json → Prop}
    (fitsProperty : ∀ properties, Json.fieldsUnder "properties" declaration = some properties →
      ∀ property ∈ properties, ∀ fields, value = .object fields → ∀ inner,
        Json.getField property.1 fields = some inner → ∀ field,
          validateOntologyActionSchemaValue formats inner property.2 field = .ok () ↔
            fits inner property.2)
    (fitsItem : ∀ schema, Json.getField "items" declaration = some schema →
      ∀ items, value = .array items → ∀ item ∈ items, ∀ field,
        validateOntologyActionSchemaValue formats item schema field = .ok () ↔ fits item schema)
    (field : String) :
    validateOntologyActionSchemaValue formats value (.object declaration) field = .ok () ↔
      ValueFits formats fits value declaration := by
  rw [validateOntologyActionSchemaValue.eq_def formats value (.object declaration)]
  dsimp only
  have typed : ((∀ valueType, declaredType declaration = some valueType →
      ontologyActionSchemaTypeSupported valueType = true ∧
        ontologyActionSchemaValueMatchesType formats value valueType = true) ∧
      (declaredType declaration = none → (Json.getField "enum" declaration).isSome = true)) ↔
      ∀ valueType, declaredType declaration = some valueType →
        ontologyActionSchemaValueMatchesType formats value valueType = true :=
    ⟨fun both valueType isType => (both.1 valueType isType).2, fun fit =>
      ⟨fun valueType isType => ⟨accepted.supported valueType isType, fit valueType isType⟩,
        accepted.typeOrEnum⟩⟩
  rw [then_eq_ok, checkExpectedType_eq_ok, then_eq_ok,
    checkAllowedValues_eq_ok fun _ => accepted.enum_listed, valueFits_iff, typed]
  refine and_congr_right fun typed => and_congr_right fun _ => ?_
  split
  case isTrue isObject =>
    obtain ⟨fields, rfl⟩ := object_of_typed typed isObject
    rw [expectObject, show ∀ next : List (String × Json) → Except ParameterFault Unit,
      (Except.ok fields >>= next) = next fields from fun _ => rfl]
    split
    · rename_i noProperties
      simp [noProperties, isObject, pure, Except.pure]
    · rename_i properties isProperties
      have distinctProperties : (properties.map Prod.fst).Nodup :=
        (Json.keysDistinct_object ((Json.keysDistinct_object distinct).2 _
          (Json.mem_of_getField (Json.fieldsUnder_eq_some.mp isProperties)))).1
      have under : (∀ property ∈ properties.attach,
          checkProperty formats fields field property.1 = .ok ()) ↔
          ∀ name inner property, Json.getField name fields = some inner →
            Json.getField name properties = some property → fits inner property := by
        constructor
        · intro each name inner property found isProperty
          have member := Json.mem_of_getField isProperty
          have checked := each ⟨(name, property), member⟩ (List.mem_attach _ _)
          simp only [checkProperty, found] at checked
          exact (fitsProperty properties isProperties _ member fields rfl inner found _).mp checked
        · intro each property _
          unfold checkProperty
          split
          · rfl
          · rename_i inner found
            exact (fitsProperty properties isProperties _ property.2 fields rfl inner found _).mpr
              (each property.1.1 inner property.1.2 found
                (Json.getField_of_mem distinctProperties property.2))
      rw [then_eq_ok, checkFieldNames_eq_ok, forM_eq_ok]
      refine (and_congr_right fun _ => under).trans ?_
      constructor
      · rintro ⟨⟨declared, present⟩, under⟩
        refine ⟨?_, fun isArray => absurd (isObject.symm.trans isArray) (by simp)⟩
        rintro _ _ ⟨⟩ others areOthers
        cases isProperties.symm.trans areOthers
        exact ⟨declared, present, under⟩
      · rintro ⟨each, -⟩
        have fit := each isObject fields rfl properties isProperties
        exact ⟨⟨fit.declared, fit.present⟩, fit.under⟩
  case isFalse notObject =>
    split
    case isTrue isArray =>
      obtain ⟨items, rfl⟩ := array_of_typed typed isArray
      split
      · rename_i noItems
        simp [noItems, isArray, pure, Except.pure]
      · rename_i schema isItems
        change (items.zipIdx.forM _) = _ ↔ _
        rw [forM_eq_ok]
        constructor
        · intro each
          refine ⟨fun isObject => absurd isObject notObject, ?_⟩
          rintro _ other isOther _ ⟨⟩ item member
          cases isItems.symm.trans isOther
          obtain ⟨index, inRange, rfl⟩ := List.mem_iff_getElem.mp member
          have indexed : (items[index], index) ∈ items.zipIdx :=
            List.mk_mem_zipIdx_iff_getElem?.mpr (List.getElem?_eq_getElem inRange)
          exact (fitsItem schema isItems items rfl _ member _).mp (each _ indexed)
        · rintro ⟨-, each⟩ indexed member
          have isItem := List.fst_mem_of_mem_zipIdx member
          exact (fitsItem schema isItems items rfl _ isItem _).mpr
            (each isArray schema isItems items rfl _ isItem)
    case isFalse notArray => simp [notObject, notArray, pure, Except.pure]

theorem validateSchemaValue_string {value : Json} {valueType field : String}
    (supported : ontologyActionSchemaTypeSupported valueType = true) :
    validateOntologyActionSchemaValue formats value (.string valueType) field = .ok () ↔
      ontologyActionSchemaValueMatchesType formats value valueType = true := by
  rw [validateOntologyActionSchemaValue, then_eq_ok, checkExpectedType_eq_ok]
  constructor
  · rintro ⟨⟨typed, -⟩, -⟩
    exact (typed valueType rfl).2
  · intro fit
    have typed : ∀ expected, some valueType = some expected →
        ontologyActionSchemaValueMatchesType formats value expected = true := by
      rintro _ ⟨⟩
      exact fit
    refine ⟨⟨fun expected same => ⟨Option.some.inj same ▸ supported, typed expected same⟩, by simp⟩,
      ?_⟩
    split
    · rename_i isObject
      obtain ⟨fields, rfl⟩ := object_of_typed typed (congrArg some isObject)
      rfl
    · rfl

/-- For an accepted schema and every value, the validation of parameters and the matcher
of the catalog agree. -/
theorem validateOntologyActionSchemaValue_iff {schema : Json} {shorthandDeclaration : Bool}
    (accepted : validateActionSchemaNode formats schema shorthandDeclaration = .ok ())
    (distinct : schema.keysDistinct = true) {value : Json}
    (valueDistinct : value.keysDistinct = true) (field : String) :
    validateOntologyActionSchemaValue formats value schema field = .ok () ↔
      ontologyActionSchemaValueMatchesNode formats value schema = true := by
  rcases validateActionSchemaNode_shape accepted with
    ⟨valueType, rfl, supported⟩ | ⟨declaration, rfl, acceptedDeclaration⟩
  · rw [validateSchemaValue_string supported, matchesNode_string]
  · rw [matchesNode_object valueDistinct]
    refine validateSchemaValue_object acceptedDeclaration distinct ?property ?item field
    case property =>
      rintro properties isProperties property member fields rfl inner found name
      have isObject := Json.mem_of_getField (Json.fieldsUnder_eq_some.mp isProperties)
      have propertiesDistinct := (Json.keysDistinct_object distinct).2 _ isObject
      have := Json.sizeOf_fieldsUnder_lt isProperties member
      exact validateOntologyActionSchemaValue_iff
        (acceptedDeclaration.property properties isProperties property member)
        ((Json.keysDistinct_object propertiesDistinct).2 _ member)
        ((Json.keysDistinct_object valueDistinct).2 _ (Json.mem_of_getField found)) name
    case item =>
      rintro items isItems values rfl item member name
      have := Json.sizeOf_getField_lt isItems
      exact validateOntologyActionSchemaValue_iff (acceptedDeclaration.items items isItems)
        ((Json.keysDistinct_object distinct).2 _ (Json.mem_of_getField isItems))
        (Json.keysDistinct_of_mem_items valueDistinct member) name
termination_by sizeOf schema

/-! ### The parameters of an action -/

/-- `is_object_schema` of `validate_action_schema`. -/
def publishesObjectSchema (schema : List (String × Json)) : Bool :=
  match (Json.getField "type" schema).bind Json.asStr with
  | some valueType => eqIgnoreAsciiCase valueType "object"
  | none => (Json.getField "properties" schema).isSome

/-- The parameters have only declared keys, every declaration whose `required` is not
false, and under each key a value that matches its declaration. -/
structure ShorthandFits (formats : SchemaFormats) (schema parameters : List (String × Json)) :
    Prop where
  declared : ∀ field ∈ parameters, (Json.getField field.1 schema).isSome = true
  present : ∀ declaration ∈ schema, declaration.2.get "required" ≠ some (.bool false) →
    (Json.getField declaration.1 parameters).isSome = true
  under : ∀ name value declaration, Json.getField name parameters = some value →
    Json.getField name schema = some declaration →
      ontologyActionSchemaValueMatchesNode formats value declaration = true

/-- What the catalog's own matcher accepts as parameters under the schema of an action. -/
def catalogMatchesParameters (formats : SchemaFormats) (inputSchema parameters : Json) : Prop :=
  match inputSchema, parameters with
  | .object schema, .object fields =>
      if publishesObjectSchema schema then
        ontologyActionSchemaValueMatchesNode formats parameters inputSchema = true
      else ShorthandFits formats schema fields
  | _, _ => False

/-- The schema of an object: its type is `object`, and its properties are listed. -/
theorem objectSchema_of_accepted {schema : List (String × Json)}
    (typeIsObject : ∀ valueType, Json.getField "type" schema = some (.string valueType) →
      eqIgnoreAsciiCase valueType "object" = true)
    (hasProperties : Json.getField "properties" schema ≠ none)
    (accepted : validateActionSchemaNode formats (.object schema) false = .ok ()) :
    isObjectSchema schema = true ∧
      (∃ properties, Json.fieldsUnder "properties" schema = some properties) ∧
      (declaredType schema).map normalizedTypeName = some "object" := by
  have declaration := declarationAccepted_of_ok accepted
  obtain ⟨value, found⟩ := Option.ne_none_iff_exists'.mp hasProperties
  obtain ⟨properties, rfl⟩ := declaration.propertiesListed value found
  refine ⟨?_, ⟨properties, Json.fieldsUnder_eq_some.mpr found⟩, ?_⟩
  · unfold isObjectSchema
    cases stated : Json.getField "type" schema with
    | none => simp [found]
    | some value =>
        obtain ⟨valueType, rfl⟩ := declaration.typeStated value stated
        simp [Json.asStr, typeIsObject valueType stated]
  · unfold declaredType
    cases stated : Json.getField "type" schema with
    | none =>
        rw [found]
        change some (normalizedTypeName "object") = some "object"
        exact congrArg some (by decide +kernel)
    | some value =>
        obtain ⟨valueType, rfl⟩ := declaration.typeStated value stated
        have lowered : toAsciiLowercase valueType = toAsciiLowercase "object" := by
          simpa [eqIgnoreAsciiCase] using typeIsObject valueType stated
        have normalized : normalizedTypeName valueType = "object" := by
          rw [normalizedTypeName, toAsciiLowercase_trim, lowered]
          decide +kernel
        exact congrArg some normalized

/-- What `validate_action_schema` has checked of a schema that is an object. -/
theorem validateActionSchema_object {schema : List (String × Json)}
    (accepted : validateActionSchema formats (.object schema) = .ok ()) :
    (publishesObjectSchema schema = true ∧ isObjectSchema schema = true ∧
      (∃ properties, Json.fieldsUnder "properties" schema = some properties) ∧
      (declaredType schema).map normalizedTypeName = some "object" ∧
      validateActionSchemaNode formats (.object schema) false = .ok ()) ∨
    (publishesObjectSchema schema = false ∧ isObjectSchema schema = false ∧
      Json.getField "properties" schema = none ∧
      ∀ field ∈ schema, validateActionSchemaNode formats field.2 true = .ok ()) := by
  unfold validateActionSchema at accepted
  unfold publishesObjectSchema
  dsimp only at accepted
  cases stated : (Json.getField "type" schema).bind Json.asStr with
  | some valueType =>
      rw [stated] at accepted
      dsimp only at accepted
      split at accepted
      · rename_i isObject
        split at accepted
        · cases accepted
        · rename_i hasProperties
          have typeIsObject : ∀ other, Json.getField "type" schema = some (.string other) →
              eqIgnoreAsciiCase other "object" = true := by
            intro other found
            rw [found] at stated
            exact Option.some.inj stated ▸ isObject
          have object := objectSchema_of_accepted typeIsObject (by simpa using hasProperties)
            accepted
          exact .inl ⟨isObject, object.1, object.2.1, object.2.2, accepted⟩
      · cases accepted
  | none =>
      rw [stated] at accepted
      dsimp only at accepted
      split at accepted
      · rename_i hasProperties
        split at accepted
        · cases accepted
        · have typeIsObject : ∀ other, Json.getField "type" schema = some (.string other) →
              eqIgnoreAsciiCase other "object" = true := by
            intro other found
            rw [found] at stated
            cases stated
          have object := objectSchema_of_accepted typeIsObject
            (Option.isSome_iff_ne_none.mp hasProperties) accepted
          exact .inl ⟨hasProperties, object.1, object.2.1, object.2.2, accepted⟩
      · rename_i noProperties
        have absent : Json.getField "properties" schema = none := by simpa using noProperties
        refine .inr ⟨by simp [absent], ?_, absent, forM_eq_ok.mp accepted⟩
        simp [isObjectSchema, stated, absent]

theorem declarationRequired_iff {declaration : Json} :
    declarationRequired declaration = true ↔ declaration.get "required" ≠ some (.bool false) := by
  unfold declarationRequired
  cases declaration.get "required" with
  | none => simp
  | some value => cases value <;> simp [Json.asBool]

/-- What the validation asks of parameters under an object of declarations. -/
theorem validateShorthand_iff {schema parameters : List (String × Json)}
    (accepted : ∀ field ∈ schema, validateActionSchemaNode formats field.2 true = .ok ())
    (schemaDistinct : (Json.object schema).keysDistinct = true)
    (parametersDistinct : (Json.object parameters).keysDistinct = true) :
    ((do
      checkParameterNames parameters schema
      schema.forM fun (name, declaration) =>
        match Json.getField name parameters with
        | none =>
            if declarationRequired declaration then throw (.missingParameter name)
            else pure ()
        | some value => validateOntologyActionSchemaValue formats value declaration name :
          Except ParameterFault Unit) = .ok ()) ↔ ShorthandFits formats schema parameters := by
  rw [then_eq_ok, checkParameterNames_eq_ok, forM_eq_ok]
  constructor
  · rintro ⟨declared, each⟩
    refine ⟨declared, ?present, ?under⟩
    case present =>
      intro declaration member required
      cases found : Json.getField declaration.1 parameters with
      | some value => rfl
      | none =>
          have checked := each declaration member
          dsimp only at checked
          rw [found] at checked
          exact absurd (declarationRequired_iff.mpr required) (guard_eq_ok.mp checked)
    case under =>
      intro name value declaration found isDeclared
      have member := Json.mem_of_getField isDeclared
      have checked := each _ member
      dsimp only at checked
      rw [found] at checked
      exact (validateOntologyActionSchemaValue_iff (accepted _ member)
        ((Json.keysDistinct_object schemaDistinct).2 _ member)
        ((Json.keysDistinct_object parametersDistinct).2 _ (Json.mem_of_getField found)) _).mp
          checked
  · rintro ⟨declared, present, under⟩
    refine ⟨declared, fun declaration member => ?_⟩
    dsimp only
    split
    · rename_i missing
      refine guard_eq_ok.mpr fun required => ?_
      have found := present declaration member (declarationRequired_iff.mp required)
      rw [missing] at found
      cases found
    · rename_i value found
      exact (validateOntologyActionSchemaValue_iff (accepted _ member)
        ((Json.keysDistinct_object schemaDistinct).2 _ member)
        ((Json.keysDistinct_object parametersDistinct).2 _ (Json.mem_of_getField found)) _).mpr
          (under _ value _ found
            (Json.getField_of_mem (Json.keysDistinct_object schemaDistinct).1 member))

/-- The validation of parameters accepts what the catalog's matcher accepts. -/
theorem validateOntologyActionParameters_iff {inputSchema parameters : Json}
    (accepted : validateActionSchema formats inputSchema = .ok ())
    (schemaDistinct : inputSchema.keysDistinct = true)
    (parametersDistinct : parameters.keysDistinct = true) :
    validateOntologyActionParameters formats inputSchema parameters = .ok () ↔
      catalogMatchesParameters formats inputSchema parameters := by
  unfold validateOntologyActionParameters catalogMatchesParameters
  cases parameters with
  | object fields =>
      cases inputSchema with
      | object schema =>
          dsimp only
          rcases validateActionSchema_object accepted with
            ⟨publishes, isObject, ⟨properties, isProperties⟩, normalized, node⟩ |
            ⟨publishes, isObject, absent, declarations⟩
          · rw [if_pos publishes, if_pos isObject, isProperties]
            dsimp only
            rw [then_eq_ok, checkParameterNames_eq_ok,
              validateOntologyActionSchemaValue_iff node schemaDistinct parametersDistinct]
            -- the names that are checked first are checked again with the object
            refine and_iff_right_of_imp fun fits => ?_
            exact (((matchesNode_object parametersDistinct).mp fits).fields normalized fields rfl
              properties isProperties).declared
          · rw [publishes, isObject]
            exact validateShorthand_iff declarations schemaDistinct parametersDistinct
      | null | bool | number | string | array => simp
  | null | bool | number | string | array => cases inputSchema <;> simp

/-- No input schema that may be published makes the validation of parameters panic, and the
validation accepts exactly what the matcher of the catalog accepts. -/
theorem action_schema_validators_agree {inputSchema parameters : Json}
    (accepted : validateActionSchema formats inputSchema = .ok ())
    (schemaDistinct : inputSchema.keysDistinct = true)
    (parametersDistinct : parameters.keysDistinct = true) :
    (∀ message, validateOntologyActionParameters formats inputSchema parameters ≠
      .error (.panicked message)) ∧
    (validateOntologyActionParameters formats inputSchema parameters = .ok () ↔
      catalogMatchesParameters formats inputSchema parameters) :=
  ⟨fun message failed =>
      validateOntologyActionParameters_noPanic formats inputSchema parameters _ failed message rfl,
    validateOntologyActionParameters_iff accepted schemaDistinct parametersDistinct⟩

end formats

/-! ### A ticket and a note -/

namespace TicketSchema

def formats : SchemaFormats where
  isUuid text := decide (text = "00000000-0000-0000-0000-000000000000")
  isDate text := decide (text = "2026-01-01")
  isRfc3339 text := decide (text = "2026-01-01T00:00:00Z")

/-- A note that may be left out, and a ticket with an identifier and tags. -/
def schema : Json := .object [
  ("note", .object [("required", .bool false), ("type", .string "string")]),
  ("ticket", .object [
    ("properties", .object [
      ("id", .string "uuid"),
      ("tags", .object [("items", .string "string"), ("type", .string "array")])]),
    ("required", .array [.string "id"]),
    ("type", .string "object")])]

def parameters : Json := .object [
  ("ticket", .object [
    ("id", .string "00000000-0000-0000-0000-000000000000"),
    ("tags", .array [.string "refund"])])]

end TicketSchema

/-- The ticket is accepted, by the one and by the other. -/
theorem ticket_parameters_agree :
    validateOntologyActionParameters TicketSchema.formats TicketSchema.schema
        TicketSchema.parameters = .ok () ∧
      catalogMatchesParameters TicketSchema.formats TicketSchema.schema
        TicketSchema.parameters := by
  have accepted : validateOntologyActionParameters TicketSchema.formats TicketSchema.schema
      TicketSchema.parameters = .ok () := by decide +kernel
  have agree := @action_schema_validators_agree TicketSchema.formats TicketSchema.schema
    TicketSchema.parameters (by decide +kernel) (by decide +kernel) (by decide +kernel)
  exact ⟨accepted, agree.2.mp accepted⟩

end MandoForge
