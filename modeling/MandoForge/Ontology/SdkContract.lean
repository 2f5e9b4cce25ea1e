/-
Module: MandoForge.Ontology.SdkContract
Purpose: When the generated SDK declares for an action exactly the parameters that the
  validation at its invocation knows and requires.
Trusted boundary: as in `ActionSchema` and `GeneratedSdk`; each string format of the source
  has a text that it accepts.
Main exports: FormatsHaveText, sdk_declares_contract_iff
-/
import MandoForge.Ontology.CatalogChecks
import MandoForge.Ontology.GeneratedSdk
import MandoForge.Ontology.SchemaAgreement

namespace MandoForge

open Foundation

/-! ### A value of every accepted schema -/

/-- Every string format accepts some text. -/
structure FormatsHaveText (formats : SchemaFormats) : Prop where
  uuid : ∃ text, formats.isUuid text = true
  date : ∃ text, formats.isDate text = true
  timestamp : ∃ text, formats.isRfc3339 text = true

section values

variable {formats : SchemaFormats}

/-- Every supported type has a value. -/
theorem exists_value_of_type (texts : FormatsHaveText formats) {valueType : String}
    (supported : ontologyActionSchemaTypeSupported valueType = true) :
    ∃ value : Json, value.keysDistinct = true ∧
      ontologyActionSchemaValueMatchesType formats value valueType = true := by
  obtain ⟨uuid, isUuid⟩ := texts.uuid
  obtain ⟨date, isDate⟩ := texts.date
  obtain ⟨timestamp, isTimestamp⟩ := texts.timestamp
  unfold ontologyActionSchemaTypeSupported at supported
  unfold ontologyActionSchemaValueMatchesType
  dsimp only
  generalize normalizedTypeName valueType = normalized at supported ⊢
  by_cases text : normalized ∈ ["string", "text"]
  · simp only [text, if_true]
    exact ⟨.string "", rfl, rfl⟩
  simp only [text, if_false]
  by_cases ofUuid : normalized = "uuid"
  · simp only [ofUuid, if_true]
    exact ⟨.string uuid, rfl, isUuid⟩
  simp only [ofUuid, if_false]
  by_cases ofDate : normalized = "date"
  · simp only [ofDate, if_true]
    exact ⟨.string date, rfl, isDate⟩
  simp only [ofDate, if_false]
  by_cases ofTime : normalized ∈ ["timestamp", "datetime"]
  · simp only [ofTime, if_true]
    exact ⟨.string timestamp, rfl, isTimestamp⟩
  simp only [ofTime, if_false]
  by_cases integer : normalized ∈ ["integer", "int", "int32", "int64"]
  · simp only [integer, if_true]
    exact ⟨Json.ofNat 0, rfl, rfl⟩
  simp only [integer, if_false]
  by_cases number : normalized ∈ ["number", "decimal", "float", "double"]
  · simp only [number, if_true]
    exact ⟨Json.ofNat 0, rfl, rfl⟩
  simp only [number, if_false]
  by_cases boolean : normalized ∈ ["boolean", "bool"]
  · simp only [boolean, if_true]
    exact ⟨.bool true, rfl, rfl⟩
  simp only [boolean, if_false]
  by_cases object : normalized = "object"
  · simp only [object, if_true]
    exact ⟨.object [], rfl, rfl⟩
  simp only [object, if_false]
  by_cases json : normalized = "json"
  · simp only [json, if_true]
    exact ⟨.null, rfl, trivial⟩
  simp only [json, if_false]
  by_cases array : normalized = "array"
  · simp only [array, if_true]
    exact ⟨.array [], rfl, rfl⟩
  simp only [array, if_false]
  have isNull : normalized = "null" := by
    simp only [decide_eq_true_eq, List.mem_cons, List.not_mem_nil, or_false] at *
    tauto
  simp only [isNull, if_true]
  exact ⟨.null, rfl, by decide⟩

/-- An object under the properties, with the names that are kept. -/
theorem exists_fields {fits : Json → Json → Prop} (keep : String → Bool)
    {properties : List (String × Json)} (distinct : (properties.map Prod.fst).Nodup)
    (samples : ∀ property ∈ properties, ∃ value : Json, value.keysDistinct = true ∧
      fits value property.2) :
    ∃ fields, (Json.object fields).keysDistinct = true ∧
      (∀ name, name ∈ fields.map Prod.fst ↔ name ∈ properties.map Prod.fst ∧ keep name = true) ∧
      ∀ name value property, Json.getField name fields = some value →
        Json.getField name properties = some property → fits value property := by
  have total : ∀ property : String × Json, ∃ value : Json, property ∈ properties →
      value.keysDistinct = true ∧ fits value property.2 := by
    intro property
    by_cases member : property ∈ properties
    · obtain ⟨value, sampled⟩ := samples property member
      exact ⟨value, fun _ => sampled⟩
    · exact ⟨.null, fun isMember => absurd isMember member⟩
  choose sample sampled using total
  let kept := properties.filter fun property => keep property.1
  have inProperties : ∀ property ∈ kept, property ∈ properties :=
    fun property member => (List.mem_filter.mp member).1
  have names : (kept.map fun property => (property.1, sample property)).map Prod.fst =
      kept.map Prod.fst := by simp
  refine ⟨kept.map fun property => (property.1, sample property), ?distinct, ?names, ?fits⟩
  case distinct =>
    refine Json.keysDistinct_object_of ?_ ?_
    · rw [names]
      exact distinct.sublist (List.filter_sublist.map Prod.fst)
    · intro field member
      obtain ⟨property, isKept, rfl⟩ := List.mem_map.mp member
      exact (sampled property (inProperties property isKept)).1
  case names =>
    intro name
    rw [names]
    simp only [kept, List.mem_map, List.mem_filter]
    constructor
    · rintro ⟨property, ⟨member, isKept⟩, rfl⟩
      exact ⟨⟨property, member, rfl⟩, isKept⟩
    · rintro ⟨⟨property, member, rfl⟩, isKept⟩
      exact ⟨property, ⟨member, isKept⟩, rfl⟩
  case fits =>
    intro name value schema found isProperty
    obtain ⟨property, isKept, same⟩ := List.mem_map.mp (Json.mem_of_getField found)
    obtain ⟨rfl, rfl⟩ := Prod.mk.inj same
    have member := inProperties property isKept
    have unique := (Json.getField_of_mem distinct member).symm.trans isProperty
    exact Option.some.inj unique ▸ (sampled property member).2

/-! ### The names that a declaration requires -/

theorem requiredNames_eq (declaration : List (String × Json)) :
    requiredNames declaration = requiredStrings (Json.getField "required" declaration) := by
  unfold requiredNames requiredStrings
  cases (Json.getField "required" declaration).bind Json.asArray <;> rfl

/-- An accepted declaration requires only names of its properties. -/
theorem DeclarationAccepted.required_declared {declaration properties : List (String × Json)}
    {shorthandDeclaration : Bool}
    (accepted : DeclarationAccepted formats declaration shorthandDeclaration)
    (isProperties : Json.fieldsUnder "properties" declaration = some properties) {name : String}
    (required : name ∈ requiredNames declaration) : name ∈ properties.map Prod.fst := by
  have names := accepted.required properties isProperties
  unfold validateRequiredNames at names
  unfold requiredNames at required
  cases stated : Json.getField "required" declaration with
  | none => simp [stated] at required
  | some value =>
      rw [stated] at names required
      cases value with
      | array values =>
          dsimp only at names
          rw [if_neg (by simp [Json.asBool])] at names
          obtain ⟨value, member, isName⟩ := List.mem_filterMap.mp required
          have checked := forM_eq_ok.mp names value member
          rw [isName] at checked
          dsimp only at checked
          split at checked
          · cases checked
          · rename_i found
            exact Json.isSome_getField.mp (by simpa [Option.isSome_iff_ne_none] using found)
      | null | bool | number | string | object => simp [Json.asArray] at required

/-! ### What the values of an enumeration satisfy -/

/-- The values of an accepted enumeration have its type, and where the type has members,
they satisfy the declaration. -/
theorem validateSchemaEnum_eq_ok {declaration : List (String × Json)}
    {valueType : Option String} {first : Json} {rest : List Json}
    (isEnum : Json.getField "enum" declaration = some (.array (first :: rest)))
    (accepted : validateSchemaEnum formats declaration valueType = .ok ()) :
    ∀ expected, valueType = some expected →
      (∀ value ∈ first :: rest,
        ontologyActionSchemaValueMatchesType formats value expected = true) ∧
      (normalizedTypeName expected ∈ ["object", "array"] → ∀ value ∈ first :: rest,
        ontologyActionSchemaValueMatchesNode formats value (.object declaration) = true) := by
  rintro expected rfl
  unfold validateSchemaEnum at accepted
  rw [isEnum] at accepted
  dsimp only [Json.asArray] at accepted
  obtain ⟨typed, accepted⟩ := guardThen_eq_ok.mp accepted
  refine ⟨by simpa only [List.any_eq_true, Bool.not_eq_true', not_exists, not_and,
    Bool.not_eq_false] using typed, fun hasMembers => ?_⟩
  rw [if_pos (by simpa using hasMembers)] at accepted
  have fits := guard_eq_ok.mp accepted
  simpa only [List.any_eq_true, Bool.not_eq_true', not_exists, not_and,
    Bool.not_eq_false] using fits

theorem jsonSchemaNumbersEqual_self (number : JsonNumber) :
    jsonSchemaNumbersEqual number number = true := by
  cases number with
  | float value => simp [jsonSchemaNumbersEqual]
  | negInt value => simp [jsonSchemaNumbersEqual, Json.asI64]
  | posInt value =>
      simp only [jsonSchemaNumbersEqual]
      cases (Json.number (.posInt value)).asI64 with
      | some signed => simp
      | none => simp [Json.asU64]

theorem jsonSchemaEnumContains_of_mem {values : List Json} {value : Json}
    (member : value ∈ values) : jsonSchemaEnumContains values value = true := by
  refine List.any_eq_true.mpr ⟨value, member, ?_⟩
  cases value with
  | number number => exact jsonSchemaNumbersEqual_self number
  | null | bool | string | array | object => simp

theorem mem_of_enumContains_object {values : List Json} {fields : List (String × Json)}
    (contains : jsonSchemaEnumContains values (.object fields) = true) :
    .object fields ∈ values := by
  obtain ⟨allowed, member, same⟩ := List.any_eq_true.mp contains
  have isSame : allowed = .object fields := by
    cases allowed with
    | object => simpa using same
    | null | bool | number | string | array => simp at same
  exact isSame ▸ member

/-- Every value of an accepted enumeration satisfies the declaration. -/
theorem DeclarationAccepted.enum_matches {declaration : List (String × Json)}
    {shorthandDeclaration : Bool}
    (accepted : DeclarationAccepted formats declaration shorthandDeclaration)
    (distinct : (Json.object declaration).keysDistinct = true) {values : List Json}
    (isEnum : Json.getField "enum" declaration = some (.array values)) {value : Json}
    (member : value ∈ values) :
    value.keysDistinct = true ∧
      ontologyActionSchemaValueMatchesNode formats value (.object declaration) = true := by
  have valueDistinct : value.keysDistinct = true :=
    Json.keysDistinct_of_mem_items ((Json.keysDistinct_object distinct).2 _
      (Json.mem_of_getField isEnum)) member
  refine ⟨valueDistinct, ?_⟩
  obtain ⟨first, rest, isList⟩ := accepted.enum_listed isEnum
  cases isList
  have checked := validateSchemaEnum_eq_ok isEnum accepted.enum
  by_cases hasMembers : ∃ expected, declaredType declaration = some expected ∧
      normalizedTypeName expected ∈ ["object", "array"]
  · obtain ⟨expected, isType, hasMembers⟩ := hasMembers
    exact (checked expected isType).2 hasMembers value member
  · refine (matchesNode_object valueDistinct).mpr ⟨?typed, ?allowed, ?fields, ?items⟩
    case typed => exact fun expected isType => (checked expected isType).1 value member
    case allowed =>
      intro values isValues
      cases isEnum.symm.trans isValues
      exact jsonSchemaEnumContains_of_mem member
    case fields =>
      intro isObject
      obtain ⟨expected, isType, normalized⟩ := Option.map_eq_some_iff.mp isObject
      exact absurd ⟨expected, isType, by simp [normalized]⟩ hasMembers
    case items =>
      intro isArray
      obtain ⟨expected, isType, normalized⟩ := Option.map_eq_some_iff.mp isArray
      exact absurd ⟨expected, isType, by simp [normalized]⟩ hasMembers

/-! ### Objects of an accepted declaration -/

/-- An object with the required names of its declaration, and any others of its properties. -/
theorem DeclarationAccepted.exists_object {declaration properties : List (String × Json)}
    {shorthandDeclaration : Bool}
    (accepted : DeclarationAccepted formats declaration shorthandDeclaration)
    (distinct : (Json.object declaration).keysDistinct = true)
    (noEnum : Json.getField "enum" declaration = none)
    (isObject : (declaredType declaration).map normalizedTypeName = some "object")
    (isProperties : Json.fieldsUnder "properties" declaration = some properties)
    (samples : ∀ property ∈ properties, ∃ value : Json, value.keysDistinct = true ∧
      ontologyActionSchemaValueMatchesNode formats value property.2 = true)
    {keep : String → Bool} (keepsRequired : ∀ name ∈ requiredNames declaration, keep name = true) :
    ∃ fields, (Json.object fields).keysDistinct = true ∧
      (∀ name ∈ fields.map Prod.fst, keep name = true) ∧
      ontologyActionSchemaValueMatchesNode formats (.object fields) (.object declaration) =
        true := by
  have propertiesDistinct : (properties.map Prod.fst).Nodup :=
    (Json.keysDistinct_object ((Json.keysDistinct_object distinct).2 _
      (Json.mem_of_getField (Json.fieldsUnder_eq_some.mp isProperties)))).1
  obtain ⟨fields, fieldsDistinct, names, fits⟩ :=
    @exists_fields (fun value schema =>
      ontologyActionSchemaValueMatchesNode formats value schema = true) keep properties
      propertiesDistinct samples
  refine ⟨fields, fieldsDistinct, fun name member => ((names name).mp member).2, ?_⟩
  refine (matchesNode_object fieldsDistinct).mpr ⟨?typed, ?allowed, ?fields, ?items⟩
  case typed =>
    intro expected isType
    rw [isType, Option.map_some, Option.some.injEq] at isObject
    rw [matchesType_object isObject]
    rfl
  case allowed =>
    intro values isEnum
    cases noEnum.symm.trans isEnum
  case fields =>
    rintro - _ ⟨⟩ others areOthers
    cases isProperties.symm.trans areOthers
    refine ⟨fun field member => ?_, fun name required => ?_, fits⟩
    · exact Json.isSome_getField.mpr ((names field.1).mp (List.mem_map_of_mem member)).1
    · exact Json.isSome_getField.mpr ((names name).mpr
        ⟨accepted.required_declared isProperties required, keepsRequired name required⟩)
  case items => exact fun isArray => absurd (isObject.symm.trans isArray) (by simp)

/-- Every accepted schema is satisfied by some value. -/
theorem exists_matching_value (texts : FormatsHaveText formats) {schema : Json}
    {shorthandDeclaration : Bool}
    (accepted : validateActionSchemaNode formats schema shorthandDeclaration = .ok ())
    (distinct : schema.keysDistinct = true) :
    ∃ value : Json, value.keysDistinct = true ∧
      ontologyActionSchemaValueMatchesNode formats value schema = true := by
  rcases validateActionSchemaNode_shape accepted with
    ⟨valueType, rfl, supported⟩ | ⟨declaration, rfl, acceptedDeclaration⟩
  · obtain ⟨value, valueDistinct, fits⟩ := exists_value_of_type texts supported
    exact ⟨value, valueDistinct, matchesNode_string.trans fits⟩
  · cases isEnum : Json.getField "enum" declaration with
    | some values =>
        obtain ⟨first, rest, rfl⟩ := acceptedDeclaration.enum_listed isEnum
        exact ⟨first, acceptedDeclaration.enum_matches distinct isEnum List.mem_cons_self⟩
    | none =>
        by_cases object : ∃ properties,
            (declaredType declaration).map normalizedTypeName = some "object" ∧
            Json.fieldsUnder "properties" declaration = some properties
        · obtain ⟨properties, isObject, isProperties⟩ := object
          have propertiesDistinct := (Json.keysDistinct_object distinct).2 _
            (Json.mem_of_getField (Json.fieldsUnder_eq_some.mp isProperties))
          have samples : ∀ property ∈ properties, ∃ value : Json, value.keysDistinct = true ∧
              ontologyActionSchemaValueMatchesNode formats value property.2 = true := by
            intro property member
            have := Json.sizeOf_fieldsUnder_lt isProperties member
            exact exists_matching_value texts
              (acceptedDeclaration.property properties isProperties property member)
              ((Json.keysDistinct_object propertiesDistinct).2 _ member)
          obtain ⟨fields, fieldsDistinct, -, fits⟩ :=
            @DeclarationAccepted.exists_object formats declaration properties _
              acceptedDeclaration distinct isEnum isObject isProperties samples (fun _ => true)
              fun _ _ => rfl
          exact ⟨.object fields, fieldsDistinct, fits⟩
        · obtain ⟨valueType, isType⟩ : ∃ valueType, declaredType declaration = some valueType := by
            refine Option.ne_none_iff_exists'.mp fun untyped => ?_
            have hasEnum := acceptedDeclaration.typeOrEnum untyped
            rw [isEnum] at hasEnum
            cases hasEnum
          -- an array without items, or a value of the type: it has no members to check
          by_cases isArray : normalizedTypeName valueType = "array"
          · refine ⟨.array [], rfl, (matchesNode_object rfl).mpr ⟨?_, ?_, ?_, ?_⟩⟩
            · intro expected isExpected
              cases isType.symm.trans isExpected
              rw [matchesType_array isArray]
              rfl
            · exact fun values isValues => nomatch isEnum.symm.trans isValues
            · exact fun _ _ isFields => nomatch isFields
            · rintro _ _ _ _ ⟨⟩ item member
              exact absurd member List.not_mem_nil
          · obtain ⟨value, valueDistinct, fits⟩ :=
              exists_value_of_type texts (acceptedDeclaration.supported valueType isType)
            refine ⟨value, valueDistinct, (matchesNode_object valueDistinct).mpr ⟨?_, ?_, ?_, ?_⟩⟩
            · intro expected isExpected
              cases isType.symm.trans isExpected
              exact fits
            · exact fun values isValues => nomatch isEnum.symm.trans isValues
            · exact fun isObject _ _ properties isProperties =>
                absurd ⟨properties, isObject, isProperties⟩ object
            · intro normalized
              rw [isType, Option.map_some, Option.some.injEq] at normalized
              exact absurd normalized isArray
termination_by sizeOf schema

/-! ### What the SDK has to declare -/

section contract

variable (formats) (toText : Json → String)

/-- The validation does not answer that a parameter of this name is undeclared. -/
def DeclaresParameter (inputSchema : Json) (name : String) : Prop :=
  ∀ value, validateOntologyActionParameters formats inputSchema (.object [(name, value)]) ≠
    .error (.undeclaredParameter name)

/-- The validation rejects parameters without this name. -/
def RequiresParameter (inputSchema : Json) (name : String) : Prop :=
  ∀ fields, (Json.object fields).keysDistinct = true → name ∉ fields.map Prod.fst →
    validateOntologyActionParameters formats inputSchema (.object fields) ≠ .ok ()

/-- The same of the fields of an object under a schema. -/
def DeclaresField (schema : Json) (name : String) : Prop :=
  ∀ value field, validateOntologyActionSchemaValue formats (.object [(name, value)]) schema field ≠
    .error (.undeclaredField field name)

def RequiresField (schema : Json) (name : String) : Prop :=
  ∀ fields, (Json.object fields).keysDistinct = true → name ∉ fields.map Prod.fst →
    ∀ field, validateOntologyActionSchemaValue formats (.object fields) schema field ≠ .ok ()

/-- The members of an interface are the declared names, and those that are not optional the
required ones. -/
structure MembersAgree (members required : List String) (declares requires : String → Prop) :
    Prop where
  names : ∀ name, name ∈ members ↔ declares name
  required : ∀ name ∈ members, name ∈ required ↔ requires name

/-- The generated interface declares the contract of the runtime, and so does every object
that is written out within it. -/
def SdkDeclaresContract (inputSchema : Json) : Prop :=
  ∃ properties required, schemaProperties inputSchema = .ok (properties, required) ∧
    MembersAgree (properties.map Prod.fst) required (DeclaresParameter formats inputSchema)
      (RequiresParameter formats inputSchema) ∧
    ∀ property ∈ properties, ∀ node, RendersWithin formats toText property.2 node →
      ∀ inner innerRequired,
        schemaRendering formats toText node = .inlineObject inner innerRequired →
          MembersAgree (inner.map Prod.fst) (requiredStrings innerRequired)
            (DeclaresField formats node) (RequiresField formats node)

end contract

/-! ### The objects that are written out -/

/-- What is rendered within an accepted schema is accepted. -/
theorem RendersWithin.accepted {toText : Json → String} {schema node : Json}
    (within : RendersWithin formats toText schema node) {shorthandDeclaration : Bool}
    (accepted : validateActionSchemaNode formats schema shorthandDeclaration = .ok ())
    (distinct : schema.keysDistinct = true) :
    node.keysDistinct = true ∧
      ∃ shorthand, validateActionSchemaNode formats node shorthand = .ok () := by
  induction within with
  | self => exact ⟨distinct, shorthandDeclaration, accepted⟩
  | item _ renders inductionHypothesis =>
      obtain ⟨nodeDistinct, shorthand, nodeAccepted⟩ := inductionHypothesis
      obtain ⟨declaration, rfl, isItems⟩ := schemaRendering_arrayOf renders
      exact ⟨(Json.keysDistinct_object nodeDistinct).2 _ (Json.mem_of_getField isItems), false,
        (declarationAccepted_of_ok nodeAccepted).items _ isItems⟩
  | property _ renders member inductionHypothesis =>
      obtain ⟨nodeDistinct, shorthand, nodeAccepted⟩ := inductionHypothesis
      obtain ⟨declaration, rfl, -, -, isProperties, -⟩ := schemaRendering_inlineObject renders
      have propertiesDistinct := (Json.keysDistinct_object nodeDistinct).2 _
        (Json.mem_of_getField (Json.fieldsUnder_eq_some.mp isProperties))
      exact ⟨(Json.keysDistinct_object propertiesDistinct).2 _ member, false,
        (declarationAccepted_of_ok nodeAccepted).property _ isProperties _ member⟩

/-- A declaration that is written out is one of an object, without an enumeration. -/
theorem inlineObject_of_accepted {toText : Json → String} {node : Json}
    {properties : List (String × Json)} {required : Option Json} {shorthandDeclaration : Bool}
    (renders : schemaRendering formats toText node = .inlineObject properties required)
    (accepted : validateActionSchemaNode formats node shorthandDeclaration = .ok ()) :
    ∃ declaration, node = .object declaration ∧
      DeclarationAccepted formats declaration shorthandDeclaration ∧
      Json.getField "enum" declaration = none ∧
      (declaredType declaration).map normalizedTypeName = some "object" ∧
      Json.fieldsUnder "properties" declaration = some properties ∧
      Json.getField "required" declaration = required := by
  obtain ⟨declaration, rfl, noEnum, isObject, isProperties, isRequired⟩ :=
    schemaRendering_inlineObject renders
  have declarationAccepted := declarationAccepted_of_ok accepted
  refine ⟨declaration, rfl, declarationAccepted, ?_, ?_, isProperties, isRequired⟩
  · cases isEnum : Json.getField "enum" declaration with
    | none => rfl
    | some values =>
        obtain ⟨first, rest, rfl⟩ := declarationAccepted.enum_listed isEnum
        rw [isEnum] at noEnum
        cases noEnum
  · unfold declaredType
    cases stated : (Json.getField "type" declaration).bind Json.asStr with
    | some valueType =>
        rw [stated] at isObject
        have lowered : toAsciiLowercase (trim valueType) = toAsciiLowercase "object" :=
          of_decide_eq_true isObject
        have normalized : normalizedTypeName valueType = "object" := by
          rw [normalizedTypeName, lowered]
          decide +kernel
        exact congrArg some normalized
    | none =>
        rw [Json.fieldsUnder_eq_some.mp isProperties]
        change some (normalizedTypeName "object") = some "object"
        exact congrArg some (by decide +kernel)

/-! ### The names of an object under its declaration -/

theorem not_matches_of_missing {declaration properties fields : List (String × Json)}
    (isObject : (declaredType declaration).map normalizedTypeName = some "object")
    (isProperties : Json.fieldsUnder "properties" declaration = some properties)
    (distinct : (Json.object fields).keysDistinct = true) {name : String}
    (required : name ∈ requiredNames declaration) (missing : name ∉ fields.map Prod.fst) :
    ontologyActionSchemaValueMatchesNode formats (.object fields) (.object declaration) ≠
      true := by
  intro fits
  have fieldsFit := ((matchesNode_object distinct).mp fits).fields isObject fields rfl
    properties isProperties
  exact missing (Json.isSome_getField.mp (fieldsFit.present name required))

/-- Without an enumeration, some object that satisfies the declaration leaves out a name
that is not required. -/
theorem DeclarationAccepted.exists_without (texts : FormatsHaveText formats)
    {declaration properties : List (String × Json)} {shorthandDeclaration : Bool}
    (accepted : DeclarationAccepted formats declaration shorthandDeclaration)
    (distinct : (Json.object declaration).keysDistinct = true)
    (noEnum : Json.getField "enum" declaration = none)
    (isObject : (declaredType declaration).map normalizedTypeName = some "object")
    (isProperties : Json.fieldsUnder "properties" declaration = some properties) {name : String}
    (notRequired : name ∉ requiredNames declaration) :
    ∃ fields, (Json.object fields).keysDistinct = true ∧ name ∉ fields.map Prod.fst ∧
      ontologyActionSchemaValueMatchesNode formats (.object fields) (.object declaration) =
        true := by
  have propertiesDistinct := (Json.keysDistinct_object distinct).2 _
    (Json.mem_of_getField (Json.fieldsUnder_eq_some.mp isProperties))
  have samples : ∀ property ∈ properties, ∃ value : Json, value.keysDistinct = true ∧
      ontologyActionSchemaValueMatchesNode formats value property.2 = true :=
    fun property member => exists_matching_value texts
      (accepted.property properties isProperties property member)
      ((Json.keysDistinct_object propertiesDistinct).2 _ member)
  obtain ⟨fields, fieldsDistinct, kept, fits⟩ :=
    @DeclarationAccepted.exists_object formats declaration properties _ accepted distinct noEnum
      isObject isProperties samples (fun other => decide (other ≠ name)) fun other required =>
        decide_eq_true fun same => notRequired (same ▸ required)
  exact ⟨fields, fieldsDistinct, fun member => of_decide_eq_true (kept name member) rfl, fits⟩

/-- The validation of an object checks its names, and what it finds then is no undeclared
name of the object itself. -/
theorem validateSchemaValue_names {declaration properties fields : List (String × Json)}
    {shorthandDeclaration : Bool}
    (accepted : DeclarationAccepted formats declaration shorthandDeclaration)
    (noEnum : Json.getField "enum" declaration = none)
    (isObject : (declaredType declaration).map normalizedTypeName = some "object")
    (isProperties : Json.fieldsUnder "properties" declaration = some properties)
    (field : String) :
    ∃ rest : Except ParameterFault Unit,
      validateOntologyActionSchemaValue formats (.object fields) (.object declaration) field =
        (do checkFieldNames fields properties declaration field; rest) ∧
      FaultsWith (fun fault => ∀ name, fault ≠ .undeclaredField field name) rest := by
  have typed : checkExpectedType formats (.object fields) (declaredType declaration)
      (Json.getField "enum" declaration).isSome field = .ok () := by
    refine checkExpectedType_eq_ok.mpr ⟨fun expected isType => ?_, accepted.typeOrEnum⟩
    rw [isType, Option.map_some, Option.some.injEq] at isObject
    exact ⟨accepted.supported expected isType, (matchesType_object isObject).trans rfl⟩
  have allowed : checkAllowedValues (.object fields) declaration field = .ok () := by
    rw [checkAllowedValues, noEnum]
  refine ⟨properties.attach.forM fun property => checkProperty formats fields field property.1,
    ?equation, faultsWith_forM fun property _ => ?_⟩
  case equation =>
    rw [validateOntologyActionSchemaValue.eq_def formats (.object fields) (.object declaration)]
    dsimp only
    rw [typed, allowed, if_pos isObject]
    dsimp only [expectObject]
    split
    · rename_i noProperties
      cases isProperties.symm.trans noProperties
    · rename_i others areOthers
      cases isProperties.symm.trans areOthers
      rfl
  unfold checkProperty
  split
  · exact faultsWith_ok ()
  · refine (validateOntologyActionSchemaValue_faults formats _ property.1.2 _).mono ?_
    rintro fault about name rfl
    rcases about with ⟨_, isMissing⟩ | ⟨path, isPath, extended⟩
    · cases isMissing
    · cases isPath
      have longer := extended.length_le
      simp only [String.toList_append, List.length_append] at longer
      have separated : 0 < ".".toList.length := by decide
      omega

/-- A name is undeclared in an object when it is no property of its declaration. -/
theorem declaresField_iff {declaration properties : List (String × Json)}
    {shorthandDeclaration : Bool}
    (accepted : DeclarationAccepted formats declaration shorthandDeclaration)
    (noEnum : Json.getField "enum" declaration = none)
    (isObject : (declaredType declaration).map normalizedTypeName = some "object")
    (isProperties : Json.fieldsUnder "properties" declaration = some properties) {name : String} :
    DeclaresField formats (.object declaration) name ↔ name ∈ properties.map Prod.fst := by
  constructor
  · intro declares
    by_contra undeclared
    have absent : Json.getField name properties = none := by
      rw [← Option.not_isSome_iff_eq_none, Json.isSome_getField]
      exact undeclared
    obtain ⟨rest, isResult, -⟩ := @validateSchemaValue_names formats declaration properties
      [(name, .null)] _ accepted noEnum isObject isProperties ""
    apply declares .null ""
    rw [isResult]
    have names : checkFieldNames [(name, .null)] properties declaration "" =
        .error (.undeclaredField "" name) := by
      simp [checkFieldNames, absent, throw, throwThe, MonadExceptOf.throw, bind, Except.bind]
    rw [names]
    rfl
  · intro declared value field failed
    obtain ⟨rest, isResult, faults⟩ := @validateSchemaValue_names formats declaration properties
      [(name, value)] _ accepted noEnum isObject isProperties field
    rw [isResult] at failed
    have namesFault : FaultsWith (fun fault => ∀ other, fault ≠ .undeclaredField field other)
        (checkFieldNames [(name, value)] properties declaration field) := by
      have found : ∀ item ∈ [(name, value)], (Json.getField item.1 properties).isSome = true :=
        fun item member => List.mem_singleton.mp member ▸ Json.isSome_getField.mpr declared
      refine FaultsWith.bind (fun _ failed =>
        nomatch (forM_found_eq_ok.mpr found).symm.trans failed) fun _ _ => ?_
      split
      · exact faultsWith_ok ()
      · exact faultsWith_forM fun _ _ => faultsWith_guard fun _ => ParameterFault.noConfusion
    exact (namesFault.bind fun _ _ => faults) _ failed name rfl

/-- An object that is written out declares what the validation knows and requires. -/
theorem inlineObject_agrees (texts : FormatsHaveText formats) {toText : Json → String}
    {node : Json} {properties : List (String × Json)} {required : Option Json}
    {shorthandDeclaration : Bool}
    (renders : schemaRendering formats toText node = .inlineObject properties required)
    (accepted : validateActionSchemaNode formats node shorthandDeclaration = .ok ())
    (distinct : node.keysDistinct = true) :
    MembersAgree (properties.map Prod.fst) (requiredStrings required)
      (DeclaresField formats node) (RequiresField formats node) := by
  obtain ⟨declaration, rfl, declarationAccepted, noEnum, isObject, isProperties, rfl⟩ :=
    inlineObject_of_accepted renders accepted
  rw [← requiredNames_eq]
  refine ⟨fun name => (declaresField_iff declarationAccepted noEnum isObject isProperties).symm,
    fun name member => ⟨fun isRequired fields fieldsDistinct missing field passed => ?_,
      fun requires => ?_⟩⟩
  · exact not_matches_of_missing isObject isProperties fieldsDistinct isRequired missing
      ((validateOntologyActionSchemaValue_iff accepted distinct fieldsDistinct field).mp passed)
  · by_contra notRequired
    obtain ⟨fields, fieldsDistinct, missing, fits⟩ := declarationAccepted.exists_without texts
      distinct noEnum isObject isProperties notRequired
    exact requires fields fieldsDistinct missing ""
      ((validateOntologyActionSchemaValue_iff accepted distinct fieldsDistinct "").mpr fits)

/-! ### The parameters of an action -/

theorem mem_sortByName {properties : List (String × Json)} {property : String × Json} :
    property ∈ sortByName properties ↔ property ∈ properties := List.mem_mergeSort

theorem mem_sortByName_names {properties : List (String × Json)} {name : String} :
    name ∈ (sortByName properties).map Prod.fst ↔ name ∈ properties.map Prod.fst := by
  simp only [List.mem_map, mem_sortByName]

theorem schemaValue_not_undeclaredParameter (value schema : Json) (field : String) :
    FaultsWith (fun fault => ∀ name, fault ≠ .undeclaredParameter name)
      (validateOntologyActionSchemaValue formats value schema field) :=
  (validateOntologyActionSchemaValue_faults formats value schema field).mono
    fun fault about name same => by
      subst same
      rcases about with ⟨_, isMissing⟩ | ⟨_, isPath, -⟩
      · cases isMissing
      · cases isPath

/-- The names that the validation looks parameters up in. -/
def declaredParameters (schema : List (String × Json)) : List (String × Json) :=
  if isObjectSchema schema then (Json.fieldsUnder "properties" schema).getD [] else schema

/-- A parameter is undeclared when it is none of the declared names. -/
theorem declaresParameter_iff {schema : List (String × Json)}
    (accepted : validateActionSchema formats (.object schema) = .ok ()) {name : String} :
    DeclaresParameter formats (.object schema) name ↔
      name ∈ (declaredParameters schema).map Prod.fst := by
  have step : ∀ value, ∃ rest : Except ParameterFault Unit,
      validateOntologyActionParameters formats (.object schema) (.object [(name, value)]) =
        (do checkParameterNames [(name, value)] (declaredParameters schema); rest) ∧
      FaultsWith (fun fault => ∀ name, fault ≠ .undeclaredParameter name) rest := by
    intro value
    unfold validateOntologyActionParameters declaredParameters
    dsimp only
    rcases validateActionSchema_object accepted with
      ⟨-, isObject, ⟨properties, isProperties⟩, -, -⟩ | ⟨-, isObject, -, -⟩
    · rw [if_pos isObject, if_pos isObject, isProperties]
      exact ⟨_, rfl, schemaValue_not_undeclaredParameter _ _ _⟩
    · rw [if_neg (by simp [isObject]), if_neg (by simp [isObject])]
      refine ⟨_, rfl, faultsWith_forM fun (declared, declaration) _ => ?_⟩
      dsimp only
      split
      · exact faultsWith_guard fun _ => ParameterFault.noConfusion
      · exact schemaValue_not_undeclaredParameter _ _ _
  constructor
  · intro declares
    by_contra undeclared
    obtain ⟨rest, isResult, -⟩ := step .null
    apply declares .null
    have absent : Json.getField name (declaredParameters schema) = none := by
      rw [← Option.not_isSome_iff_eq_none, Json.isSome_getField]
      exact undeclared
    have names : checkParameterNames [(name, .null)] (declaredParameters schema) =
        .error (.undeclaredParameter name) := by
      simp [checkParameterNames, absent, throw, throwThe, MonadExceptOf.throw, bind, Except.bind]
    rw [isResult, names]
    rfl
  · intro declared value failed
    obtain ⟨rest, isResult, faults⟩ := step value
    have found : ∀ item ∈ [(name, value)],
        (Json.getField item.1 (declaredParameters schema)).isSome = true :=
      fun item member => List.mem_singleton.mp member ▸ Json.isSome_getField.mpr declared
    rw [isResult, checkParameterNames_eq_ok.mpr found] at failed
    exact faults _ failed name rfl

/-- The schema names no parameter that the generator takes for a keyword, and where it
enumerates its objects, every name that it does not require is left out by one of them. -/
def SdkFaithfulSchema (inputSchema : Json) : Prop :=
  match inputSchema with
  | .object schema =>
      if publishesObjectSchema schema then
        ∀ values, Json.getField "enum" schema = some (.array values) →
          ∀ name ∈ (declaredParameters schema).map Prod.fst, name ∉ requiredNames schema →
            ∃ value ∈ values, value.get name = none
      else ∀ keyword ∈ skippedKeywords, Json.getField keyword schema = none
  | _ => False

theorem renderedWithin_agrees (texts : FormatsHaveText formats) {toText : Json → String}
    {properties : List (String × Json)}
    (each : ∀ property ∈ properties, property.2.keysDistinct = true ∧
      ∃ shorthand, validateActionSchemaNode formats property.2 shorthand = .ok ()) :
    ∀ property ∈ properties, ∀ node, RendersWithin formats toText property.2 node →
      ∀ inner innerRequired,
        schemaRendering formats toText node = .inlineObject inner innerRequired →
          MembersAgree (inner.map Prod.fst) (requiredStrings innerRequired)
            (DeclaresField formats node) (RequiresField formats node) := by
  intro property member node within inner innerRequired renders
  obtain ⟨distinct, shorthand, accepted⟩ := each property member
  obtain ⟨nodeDistinct, nodeShorthand, nodeAccepted⟩ := within.accepted accepted distinct
  exact inlineObject_agrees texts renders nodeAccepted nodeDistinct

/-- The parameters of an object schema. -/
theorem objectSchema_declares_iff (texts : FormatsHaveText formats) {toText : Json → String}
    {schema properties : List (String × Json)}
    (accepted : validateActionSchema formats (.object schema) = .ok ())
    (distinct : (Json.object schema).keysDistinct = true)
    (publishes : publishesObjectSchema schema = true) (isObjectSchema' : isObjectSchema schema = true)
    (isProperties : Json.fieldsUnder "properties" schema = some properties)
    (isObject : (declaredType schema).map normalizedTypeName = some "object")
    (node : validateActionSchemaNode formats (.object schema) false = .ok ()) :
    SdkDeclaresContract formats toText (.object schema) ↔ SdkFaithfulSchema (.object schema) := by
  have declaration := declarationAccepted_of_ok node
  have propertiesFound := Json.fieldsUnder_eq_some.mp isProperties
  have generated : schemaProperties (.object schema) =
      .ok (sortByName properties, requiredNames schema) := by
    simp only [schemaProperties, propertiesFound, requiredNames_eq]
  have declared : declaredParameters schema = properties := by
    simp [declaredParameters, isObjectSchema', isProperties]
  have passes : ∀ fields, (Json.object fields).keysDistinct = true →
      (validateOntologyActionParameters formats (.object schema) (.object fields) = .ok () ↔
        ontologyActionSchemaValueMatchesNode formats (.object fields) (.object schema) = true) := by
    intro fields fieldsDistinct
    rw [validateOntologyActionParameters_iff accepted distinct fieldsDistinct,
      catalogMatchesParameters, if_pos publishes]
  have faithful : SdkFaithfulSchema (.object schema) ↔
      ∀ values, Json.getField "enum" schema = some (.array values) →
        ∀ name ∈ properties.map Prod.fst, name ∉ requiredNames schema →
          ∃ value ∈ values, value.get name = none := by
    rw [SdkFaithfulSchema, if_pos publishes, declared]
  rw [faithful]
  constructor
  · rintro ⟨members, required, isGenerated, agree, -⟩ values isEnum name member notRequired
    cases generated.symm.trans isGenerated
    by_contra everyValue
    refine notRequired ((agree.required name (mem_sortByName_names.mpr member)).mpr ?_)
    intro fields fieldsDistinct missing passed
    have fits := (matchesNode_object fieldsDistinct).mp ((passes fields fieldsDistinct).mp passed)
    refine everyValue ⟨.object fields, mem_of_enumContains_object (fits.allowed values isEnum), ?_⟩
    exact Option.not_isSome_iff_eq_none.mp fun found => missing (Json.isSome_getField.mp found)
  · intro leavesOut
    refine ⟨_, _, generated, ⟨fun name => ?_, fun name member => ⟨?_, fun requires => ?_⟩⟩,
      renderedWithin_agrees texts fun property member => ?_⟩
    · rw [mem_sortByName_names, declaresParameter_iff accepted, declared]
    · intro isRequired fields fieldsDistinct missing passed
      exact not_matches_of_missing isObject isProperties fieldsDistinct isRequired missing
        ((passes fields fieldsDistinct).mp passed)
    · by_contra notRequired
      cases isEnum : Json.getField "enum" schema with
      | none =>
          obtain ⟨fields, fieldsDistinct, missing, fits⟩ := declaration.exists_without texts
            distinct isEnum isObject isProperties notRequired
          exact requires fields fieldsDistinct missing ((passes fields fieldsDistinct).mpr fits)
      | some listed =>
          obtain ⟨first, rest, rfl⟩ := declaration.enum_listed isEnum
          obtain ⟨value, isValue, missing⟩ := leavesOut _ isEnum name
            (mem_sortByName_names.mp member) notRequired
          obtain ⟨valueDistinct, fits⟩ := declaration.enum_matches distinct isEnum isValue
          obtain ⟨fields, rfl⟩ := object_of_typed ((matchesNode_object valueDistinct).mp fits).typed
            isObject
          refine requires fields valueDistinct (fun found => ?_)
            ((passes fields valueDistinct).mpr fits)
          exact Option.not_isSome_iff_eq_none.mpr missing (Json.isSome_getField.mpr found)
    · have inProperties := mem_sortByName.mp member
      have propertiesDistinct := (Json.keysDistinct_object distinct).2 _
        (Json.mem_of_getField propertiesFound)
      exact ⟨(Json.keysDistinct_object propertiesDistinct).2 _ inProperties, false,
        declaration.property properties isProperties property inProperties⟩

/-- The parameters of an object of declarations. -/
theorem shorthandSchema_declares_iff (texts : FormatsHaveText formats) {toText : Json → String}
    {schema : List (String × Json)}
    (accepted : validateActionSchema formats (.object schema) = .ok ())
    (distinct : (Json.object schema).keysDistinct = true)
    (notPublishes : publishesObjectSchema schema = false)
    (notObjectSchema : isObjectSchema schema = false)
    (noProperties : Json.getField "properties" schema = none)
    (declarations : ∀ field ∈ schema, validateActionSchemaNode formats field.2 true = .ok ()) :
    SdkDeclaresContract formats toText (.object schema) ↔ SdkFaithfulSchema (.object schema) := by
  have generated : schemaProperties (.object schema) =
      .ok (sortByName (schema.filter fun field => decide (field.1 ∉ skippedKeywords)),
        ((sortByName (schema.filter fun field => decide (field.1 ∉ skippedKeywords))).filter
          fun field => declarationRequired field.2).map Prod.fst) := by
    simp only [schemaProperties, noProperties]
  have declared : declaredParameters schema = schema := by
    simp [declaredParameters, notObjectSchema]
  have passes : ∀ fields, (Json.object fields).keysDistinct = true →
      (validateOntologyActionParameters formats (.object schema) (.object fields) = .ok () ↔
        ShorthandFits formats schema fields) := by
    intro fields fieldsDistinct
    rw [validateOntologyActionParameters_iff accepted distinct fieldsDistinct,
      catalogMatchesParameters, if_neg (by simp [notPublishes])]
  have faithful : SdkFaithfulSchema (.object schema) ↔
      ∀ keyword ∈ skippedKeywords, Json.getField keyword schema = none := by
    rw [SdkFaithfulSchema, if_neg (by simp [notPublishes])]
  have named : ∀ name, name ∈ (sortByName
      (schema.filter fun field => decide (field.1 ∉ skippedKeywords))).map Prod.fst ↔
      name ∈ schema.map Prod.fst ∧ name ∉ skippedKeywords := by
    intro name
    rw [mem_sortByName_names]
    simp only [List.mem_map, List.mem_filter, decide_eq_true_eq]
    constructor
    · rintro ⟨field, ⟨member, kept⟩, rfl⟩
      exact ⟨⟨field, member, rfl⟩, kept⟩
    · rintro ⟨⟨field, member, rfl⟩, kept⟩
      exact ⟨field, ⟨member, kept⟩, rfl⟩
  rw [faithful]
  constructor
  · rintro ⟨members, required, isGenerated, agree, -⟩ keyword isKeyword
    cases generated.symm.trans isGenerated
    by_contra isDeclared
    have member := (agree.names keyword).mpr ((declaresParameter_iff accepted).mpr (by
      rw [declared]
      exact Json.isSome_getField.mp (Option.isSome_iff_ne_none.mpr isDeclared)))
    exact ((named keyword).mp member).2 isKeyword
  · intro noKeyword
    have keeps : ∀ name ∈ schema.map Prod.fst, name ∉ skippedKeywords := by
      intro name member isKeyword
      have found := Json.isSome_getField.mpr member
      rw [noKeyword name isKeyword] at found
      cases found
    refine ⟨_, _, generated, ⟨fun name => ?_, fun name member => ⟨?_, fun requires => ?_⟩⟩,
      renderedWithin_agrees texts fun property member => ?_⟩
    · rw [named, declaresParameter_iff accepted, declared]
      exact and_iff_left_of_imp (keeps name)
    · intro isRequired fields fieldsDistinct missing passed
      obtain ⟨field, isField, rfl⟩ := List.mem_map.mp isRequired
      obtain ⟨inSorted, required⟩ := List.mem_filter.mp isField
      have inSchema := (List.mem_filter.mp (mem_sortByName.mp inSorted)).1
      have found := ((passes fields fieldsDistinct).mp passed).present field inSchema
        (declarationRequired_iff.mp required)
      exact missing (Json.isSome_getField.mp found)
    · by_contra notRequired
      have samples : ∀ field ∈ schema, ∃ value : Json, value.keysDistinct = true ∧
          ontologyActionSchemaValueMatchesNode formats value field.2 = true :=
        fun field isField => exists_matching_value texts (declarations field isField)
          ((Json.keysDistinct_object distinct).2 _ isField)
      obtain ⟨fields, fieldsDistinct, names, fits⟩ :=
        @exists_fields (fun value schema =>
          ontologyActionSchemaValueMatchesNode formats value schema = true)
          (fun other => decide (other ≠ name)) schema (Json.keysDistinct_object distinct).1 samples
      refine requires fields fieldsDistinct
        (fun found => of_decide_eq_true ((names name).mp found).2 rfl)
        ((passes fields fieldsDistinct).mpr ⟨fun field isField => ?_, fun field isField needed => ?_,
          fits⟩)
      · exact Json.isSome_getField.mpr ((names field.1).mp (List.mem_map_of_mem isField)).1
      · refine Json.isSome_getField.mpr ((names field.1).mpr ⟨List.mem_map_of_mem isField,
          decide_eq_true fun same => notRequired ?_⟩)
        subst same
        refine List.mem_map_of_mem (List.mem_filter.mpr ⟨mem_sortByName.mpr
          (List.mem_filter.mpr ⟨isField, decide_eq_true (keeps _ (List.mem_map_of_mem isField))⟩),
          declarationRequired_iff.mpr needed⟩)
    · have inSchema := (List.mem_filter.mp (mem_sortByName.mp member)).1
      exact ⟨(Json.keysDistinct_object distinct).2 _ inSchema, true, declarations _ inSchema⟩

theorem schema_declares_iff (texts : FormatsHaveText formats) (toText : Json → String)
    {schema : List (String × Json)}
    (accepted : validateActionSchema formats (.object schema) = .ok ())
    (distinct : (Json.object schema).keysDistinct = true) :
    SdkDeclaresContract formats toText (.object schema) ↔ SdkFaithfulSchema (.object schema) := by
  rcases validateActionSchema_object accepted with
    ⟨publishes, isObjectSchema', ⟨properties, isProperties⟩, isObject, node⟩ |
    ⟨notPublishes, notObjectSchema, noProperties, declarations⟩
  · exact objectSchema_declares_iff texts accepted distinct publishes isObjectSchema'
      isProperties isObject node
  · exact shorthandSchema_declares_iff texts accepted distinct notPublishes notObjectSchema
      noProperties declarations

/-- For an action of an accepted catalog, the generated SDK declares the contract of the
runtime exactly when its schema is faithful. -/
theorem sdk_declares_contract_iff (texts : FormatsHaveText formats) (toText : Json → String)
    {catalog : OntologyReleaseCatalogV1} (accepted : validateCatalog formats catalog = .ok ())
    {action : OntologySdkCatalogAction} (member : action ∈ catalog.actions)
    (distinct : action.inputSchema.keysDistinct = true) :
    SdkDeclaresContract formats toText action.inputSchema ↔
      SdkFaithfulSchema action.inputSchema := by
  obtain ⟨-, -, -, actions, -⟩ := validateCatalog_eq_ok.mp accepted
  obtain ⟨-, -, -, -, isObject, schemaAccepted⟩ := validateAction_eq_ok.mp (actions action member)
  cases isSchema : action.inputSchema with
  | object schema =>
      rw [isSchema] at schemaAccepted distinct
      exact schema_declares_iff texts toText schemaAccepted distinct
  | null | bool | number | string | array =>
      rw [isSchema] at isObject
      cases isObject

end values

/-! ### A parameter of the name `type` -/

namespace TypedRefund

def formats : SchemaFormats := TicketSchema.formats

theorem formatsHaveText : FormatsHaveText formats where
  uuid := ⟨"00000000-0000-0000-0000-000000000000", by decide +kernel⟩
  date := ⟨"2026-01-01", by decide +kernel⟩
  timestamp := ⟨"2026-01-01T00:00:00Z", by decide +kernel⟩

def order : OntologySdkCatalogObject where
  stableKey := "object:Order"
  apiName := "Order"
  objectType := "Order"
  properties := []
  primaryKeyApiName := none

def action (inputSchema : Json) : OntologySdkCatalogAction where
  stableKey := "action:refund"
  apiName := "refund"
  runtimeName := "refund"
  contractDigest := "digest"
  executionMode := "proposal_only"
  targetObjectApiName := "Order"
  inputSchema
  approvalRequired := true

def catalog (inputSchema : Json) : OntologyReleaseCatalogV1 where
  schema := ontologyReleaseCatalogSchema
  domainScope := "commerce"
  objects := [order]
  relations := []
  actions := [action inputSchema]

/-- A refund has a reason and a type. -/
def schema : Json := .object [
  ("reason", .string "string"),
  ("type", .object [("type", .string "string")])]

def plainSchema : Json := .object [
  ("reason", .string "string"),
  ("ticket", .object [
    ("properties", .object [("id", .string "uuid"), ("note", .string "string")]),
    ("required", .array [.string "id"]),
    ("type", .string "object")])]

end TypedRefund

open TypedRefund in
/-- The catalog is accepted and the runtime wants the type of a refund, but the generated
interface has no such member. -/
theorem type_parameter_not_generated :
    validateCatalog formats (catalog schema) = .ok () ∧
      action schema ∈ (catalog schema).actions ∧
      schemaProperties schema = .ok ([("reason", .string "string")], ["reason"]) ∧
      validateOntologyActionParameters formats schema (.object [("reason", .string "late")]) =
        .error (.missingParameter "type") ∧
      ∀ toText, ¬SdkDeclaresContract formats toText (action schema).inputSchema := by
  refine ⟨by decide +kernel, List.mem_cons_self, by decide +kernel, by decide +kernel, ?_⟩
  intro toText declares
  have faithful := (schema_declares_iff formatsHaveText toText (by decide +kernel)
    (by decide +kernel)).mp declares
  rw [SdkFaithfulSchema, if_neg (by decide +kernel)] at faithful
  exact absurd (faithful "type" (by decide)) (by decide +kernel)

open TypedRefund in
/-- Without such a name, the SDK declares the contract of the refund. -/
theorem plain_refund_declares_contract :
    SdkDeclaresContract formats (fun _ => "") plainSchema := by
  refine (@sdk_declares_contract_iff formats formatsHaveText (fun _ => "") (catalog plainSchema)
    (by decide +kernel) (action plainSchema) List.mem_cons_self (by decide +kernel)).mpr ?_
  rw [show (action plainSchema).inputSchema = plainSchema from rfl, plainSchema, SdkFaithfulSchema,
    if_neg (by decide +kernel)]
  decide +kernel

end MandoForge
