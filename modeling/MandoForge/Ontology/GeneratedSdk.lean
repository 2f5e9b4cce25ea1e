/-
Module: MandoForge.Ontology.GeneratedSdk
Purpose: The parameter types that the generated SDK declares for an action.
Trusted boundary: writing a JSON value as text belongs to another crate; a function
  stands for it.
Main exports: SchemaRendering, schemaType
-/
import MandoForge.Ontology.ActionParameters
import MandoForge.Ontology.CatalogRecords

namespace MandoForge

/-! ### The type of a schema -/

def primitiveType (value : String) : String :=
  let normalized := normalizedTypeName value
  if normalized ∈ ["string", "text", "uuid", "date", "timestamp", "datetime"] then "string"
  else if normalized ∈ ["integer", "int", "int32", "int64", "number", "decimal", "float",
    "double"] then "number"
  else if normalized ∈ ["boolean", "bool"] then "boolean"
  else if normalized = "object" then "JsonRecord"
  else if normalized = "json" then "unknown"
  else if normalized = "array" then "Array<unknown>"
  else if normalized = "null" then "null"
  else "unknown"

/-- What `schema_type` makes of a schema: a text, an array of another type, or an object
that `schema_inline_object` writes out. -/
inductive SchemaRendering where
  | text (type : String)
  | arrayOf (items : Json)
  | inlineObject (properties : List (String × Json)) (required : Option Json)

/-- `schema_inline_object` on the properties of a declaration, or the record of any object. -/
def inlineRendering (declaration : List (String × Json)) : SchemaRendering :=
  match Json.getField "properties" declaration with
  | some (.object properties) => .inlineObject properties (Json.getField "required" declaration)
  | _ => .text "JsonRecord"

/-- The variants of an enumeration. -/
def enumVariants (formats : SchemaFormats) (toText : Json → String)
    (declaration : List (String × Json)) (values : List Json) : String :=
  let variants := values.filter fun value =>
    ((Json.getField "type" declaration).bind Json.asStr).all fun expected =>
      ontologyActionSchemaValueMatchesType formats value expected
  if variants = [] then "never" else " | ".intercalate (variants.map toText)

/-- The branches of `schema_type`. -/
def schemaRendering (formats : SchemaFormats) (toText : Json → String) (schema : Json) :
    SchemaRendering :=
  match schema with
  | .string value => .text (primitiveType value)
  | .object declaration =>
      match (Json.getField "enum" declaration).bind Json.asArray with
      | some values => .text (enumVariants formats toText declaration values)
      | none =>
          match (Json.getField "type" declaration).bind Json.asStr with
          | some valueType =>
              if eqIgnoreAsciiCase (trim valueType) "array" then
                match Json.getField "items" declaration with
                | some items => .arrayOf items
                | none => .text "Array<unknown>"
              else if eqIgnoreAsciiCase (trim valueType) "object" then inlineRendering declaration
              else .text (primitiveType valueType)
          | none =>
              if (Json.getField "properties" declaration).isSome then inlineRendering declaration
              else .text "unknown"
  | _ => .text "unknown"

/-- The names that `schema_inline_object` and `schema_properties` read as required. -/
def requiredStrings (required : Option Json) : List String :=
  ((required.bind Json.asArray).map fun values => values.filterMap Json.asStr).getD []

def inlineMemberText (toText : Json → String) (required : Option Json) (name type : String) :
    String :=
  "readonly " ++ toText (.string name) ++
    (if name ∈ requiredStrings required then "" else "?") ++ ": " ++ type ++ "; "

/-- The text of `schema_inline_object`, from the type of each property. -/
def inlineObjectText (toText : Json → String) (required : Option Json)
    (properties : List (String × String)) : String :=
  "\x7b " ++ String.join (properties.map fun property =>
    inlineMemberText toText required property.1 property.2) ++ "\x7d"

theorem inlineRendering_eq {declaration properties : List (String × Json)}
    {required : Option Json}
    (renders : inlineRendering declaration = .inlineObject properties required) :
    Json.fieldsUnder "properties" declaration = some properties ∧
      Json.getField "required" declaration = required := by
  unfold inlineRendering at renders
  split at renders
  · rename_i isProperties
    cases renders
    exact ⟨Json.fieldsUnder_eq_some.mpr isProperties, rfl⟩
  · cases renders

section rendering

variable {formats : SchemaFormats} {toText : Json → String} {schema : Json}

/-- An array is rendered from the items of its declaration. -/
theorem schemaRendering_arrayOf {items : Json}
    (renders : schemaRendering formats toText schema = .arrayOf items) :
    ∃ declaration, schema = .object declaration ∧
      Json.getField "items" declaration = some items := by
  have notInline : ∀ declaration, inlineRendering declaration ≠ .arrayOf items := by
    intro declaration inline
    unfold inlineRendering at inline
    split at inline <;> cases inline
  unfold schemaRendering at renders
  split at renders
  case h_1 => cases renders
  case h_3 => cases renders
  case h_2 declaration =>
    split at renders
    · cases renders
    · split at renders
      · split at renders
        · split at renders
          · rename_i isItems
            cases renders
            exact ⟨declaration, rfl, isItems⟩
          · cases renders
        · split at renders
          · exact absurd renders (notInline declaration)
          · cases renders
      · split at renders
        · exact absurd renders (notInline declaration)
        · cases renders

/-- An object is written out from a declaration without an enumeration, whose type is
stated to be an object or implied by its properties. -/
theorem schemaRendering_inlineObject {properties : List (String × Json)} {required : Option Json}
    (renders : schemaRendering formats toText schema = .inlineObject properties required) :
    ∃ declaration, schema = .object declaration ∧
      (Json.getField "enum" declaration).bind Json.asArray = none ∧
      (((Json.getField "type" declaration).bind Json.asStr).elim
        ((Json.getField "properties" declaration).isSome = true)
        fun valueType => eqIgnoreAsciiCase (trim valueType) "object" = true) ∧
      Json.fieldsUnder "properties" declaration = some properties ∧
      Json.getField "required" declaration = required := by
  unfold schemaRendering at renders
  split at renders
  case h_1 => cases renders
  case h_3 => cases renders
  case h_2 declaration =>
    split at renders
    · cases renders
    · rename_i noEnum
      split at renders
      · rename_i valueType isType
        split at renders
        · split at renders <;> cases renders
        · split at renders
          · rename_i isObject
            exact ⟨declaration, rfl, noEnum, by rw [isType]; exact isObject,
              inlineRendering_eq renders⟩
          · cases renders
      · rename_i noType
        split at renders
        · rename_i hasProperties
          exact ⟨declaration, rfl, noEnum, by rw [noType]; exact hasProperties,
            inlineRendering_eq renders⟩
        · cases renders

theorem sizeOf_lt_of_arrayOf {items : Json}
    (renders : schemaRendering formats toText schema = .arrayOf items) :
    sizeOf items < sizeOf schema := by
  obtain ⟨declaration, rfl, isItems⟩ := schemaRendering_arrayOf renders
  exact Json.sizeOf_getField_lt isItems

theorem sizeOf_lt_of_inlineObject {properties : List (String × Json)} {required : Option Json}
    (renders : schemaRendering formats toText schema = .inlineObject properties required)
    {property : String × Json} (member : property ∈ properties) :
    sizeOf property.2 < sizeOf schema := by
  obtain ⟨declaration, rfl, -, -, isProperties, -⟩ := schemaRendering_inlineObject renders
  exact Json.sizeOf_fieldsUnder_lt isProperties member

end rendering

section text

variable (formats : SchemaFormats) (toText : Json → String)

def schemaType (schema : Json) : String :=
  match renders : schemaRendering formats toText schema with
  | .text type => type
  | .arrayOf items =>
      have := sizeOf_lt_of_arrayOf renders
      "Array<" ++ schemaType items ++ ">"
  | .inlineObject properties required =>
      inlineObjectText toText required (properties.attach.map fun property =>
        have := sizeOf_lt_of_inlineObject renders property.2
        (property.1.1, schemaType property.1.2))
termination_by sizeOf schema

/-! ### The parameters of an action -/

/-- The keys that `schema_properties` leaves out of an object of declarations. -/
def skippedKeywords : List String := ["type", "required", "$schema", "additionalProperties"]

/-- `sort_by` on the names. -/
def sortByName (properties : List (String × Json)) : List (String × Json) :=
  properties.mergeSort fun left right => decide (left.1 ≤ right.1)

/-- The properties that become members, and the names of those that are not optional. -/
def schemaProperties (schema : Json) : Except AppError (List (String × Json) × List String) :=
  match schema with
  | .object object =>
      match Json.getField "properties" object with
      | some (.object properties) =>
          .ok (sortByName properties, requiredStrings (Json.getField "required" object))
      | some _ =>
          .error (.forbidden "ontology SDK action input schema properties must be an object")
      | none =>
          let properties := sortByName (object.filter fun (name, _) =>
            decide (name ∉ skippedKeywords))
          .ok (properties, (properties.filter fun (_, declaration) =>
            declarationRequired declaration).map Prod.fst)
  | _ => .error (.forbidden "ontology SDK action input schema must be a JSON object")

def writeSchemaProperty (name : String) (schema : Json) (optional : Bool) : String :=
  "  readonly " ++ toText (.string name) ++ (if optional then "?" else "") ++ ": " ++
    schemaType formats toText schema ++ ";\n"

def tsTypeName (apiName : String) : String :=
  match apiName.toList with
  | first :: rest => String.ofList (first.toUpper :: rest)
  | [] => "OntologyValue"

def actionTypeName (apiName : String) : String := "OntologyAction" ++ tsTypeName apiName

/-- The members of the interface of the parameters. -/
def writeParameters (properties : List (String × Json)) (required : List String) : String :=
  String.join (properties.map fun property =>
    writeSchemaProperty formats toText property.1 property.2 (decide (property.1 ∉ required)))

/-- The interface of a request, behind the members of its parameters. -/
def proposalRequestText (typeName : String) : String :=
  "\x7d\n\nexport interface " ++ typeName ++ "ProposalRequest \x7b\n" ++
    "  readonly sessionId: string;\n" ++
    "  readonly taskGrantId: string;\n" ++
    "  readonly contextPacketId: string;\n" ++
    "  readonly parameters: " ++ typeName ++ "Parameters;\n\x7d\n\n"

/-- The interfaces of an action. -/
def writeActionTypes (action : OntologySdkCatalogAction) : Except AppError String := do
  let typeName := actionTypeName action.apiName
  let (properties, required) ← schemaProperties action.inputSchema
  return "export interface " ++ typeName ++ "Parameters \x7b\n" ++
    writeParameters formats toText properties required ++ proposalRequestText typeName

/-- The type of a schema is written with the type of this one in it. -/
inductive RendersWithin (schema : Json) : Json → Prop where
  | self : RendersWithin schema schema
  | item {node items : Json} (within : RendersWithin schema node)
      (renders : schemaRendering formats toText node = .arrayOf items) :
      RendersWithin schema items
  | property {node : Json} {properties : List (String × Json)} {required : Option Json}
      (within : RendersWithin schema node)
      (renders : schemaRendering formats toText node = .inlineObject properties required)
      {property : String × Json} (member : property ∈ properties) :
      RendersWithin schema property.2

end text

/-! ### The text that is written -/

section written

variable {formats : SchemaFormats} {toText : Json → String}

theorem infix_join {texts : List String} {text : String} (member : text ∈ texts) :
    text.toList <:+: (String.join texts).toList := by
  obtain ⟨before, after, rfl⟩ := List.append_of_mem member
  refine ⟨(String.join before).toList, (String.join after).toList, ?_⟩
  simp [String.join_append, String.join_cons]

theorem infix_append_append (before text after : String) :
    text.toList <:+: (before ++ text ++ after).toList :=
  ⟨before.toList, after.toList, by simp⟩

theorem schemaType_arrayOf {schema items : Json}
    (renders : schemaRendering formats toText schema = .arrayOf items) :
    schemaType formats toText schema = "Array<" ++ schemaType formats toText items ++ ">" := by
  rw [schemaType.eq_def formats toText schema]
  split <;> rename_i isRendering <;> cases renders.symm.trans isRendering
  rfl

theorem schemaType_inlineObject {schema : Json} {properties : List (String × Json)}
    {required : Option Json}
    (renders : schemaRendering formats toText schema = .inlineObject properties required) :
    schemaType formats toText schema = inlineObjectText toText required
      (properties.map fun property => (property.1, schemaType formats toText property.2)) := by
  rw [schemaType.eq_def formats toText schema]
  split <;> rename_i isRendering <;> cases renders.symm.trans isRendering
  exact congrArg (inlineObjectText toText required) (List.attach_map_val
    (f := fun property : String × Json => (property.1, schemaType formats toText property.2)))

/-- The type of what is rendered within a schema is part of its text. -/
theorem RendersWithin.type_infix {schema node : Json}
    (within : RendersWithin formats toText schema node) :
    (schemaType formats toText node).toList <:+: (schemaType formats toText schema).toList := by
  induction within with
  | self => exact List.infix_rfl
  | item _ renders inductionHypothesis =>
      refine List.IsInfix.trans ?_ inductionHypothesis
      rw [schemaType_arrayOf renders]
      exact infix_append_append _ _ _
  | @property _ properties required _ renders property member inductionHypothesis =>
      refine List.IsInfix.trans ?_ inductionHypothesis
      rw [schemaType_inlineObject renders]
      have isMember : (property.1, schemaType formats toText property.2) ∈
          properties.map fun property => (property.1, schemaType formats toText property.2) :=
        List.mem_map.mpr ⟨property, member, rfl⟩
      have memberText : inlineMemberText toText required property.1
          (schemaType formats toText property.2) ∈
          (properties.map fun property =>
            (property.1, schemaType formats toText property.2)).map fun property =>
              inlineMemberText toText required property.1 property.2 :=
        List.mem_map.mpr ⟨_, isMember, rfl⟩
      have typeInMember : (schemaType formats toText property.2).toList <:+:
          (inlineMemberText toText required property.1
            (schemaType formats toText property.2)).toList := by
        unfold inlineMemberText
        exact infix_append_append _ _ "; "
      refine (typeInMember.trans (infix_join memberText)).trans ?_
      unfold inlineObjectText
      exact infix_append_append "\x7b " _ "\x7d"

/-- Each property is a member of the parameters that are written for the action. -/
theorem writeActionTypes_member {action : OntologySdkCatalogAction} {written : String}
    (writes : writeActionTypes formats toText action = .ok written)
    {properties : List (String × Json)} {required : List String}
    (generated : schemaProperties action.inputSchema = .ok (properties, required))
    {property : String × Json} (member : property ∈ properties) :
    (writeSchemaProperty formats toText property.1 property.2
      (decide (property.1 ∉ required))).toList <:+: written.toList := by
  unfold writeActionTypes at writes
  rw [generated] at writes
  obtain rfl := Except.ok.inj writes
  have isLine : writeSchemaProperty formats toText property.1 property.2
      (decide (property.1 ∉ required)) ∈ properties.map fun property =>
        writeSchemaProperty formats toText property.1 property.2
          (decide (property.1 ∉ required)) := List.mem_map.mpr ⟨property, member, rfl⟩
  exact (infix_join isLine).trans (infix_append_append _ _ _)

/-- Every parameter has its member in the text, and whatever is rendered within one has its
type there; a schema that generates no parameters is refused. -/
def ParametersWritten (formats : SchemaFormats) (toText : Json → String)
    (action : OntologySdkCatalogAction) : Prop :=
  match schemaProperties action.inputSchema, writeActionTypes formats toText action with
  | .ok (properties, required), .ok written => ∀ property ∈ properties,
      (writeSchemaProperty formats toText property.1 property.2
        (decide (property.1 ∉ required))).toList <:+: written.toList ∧
      ∀ node, RendersWithin formats toText property.2 node →
        (schemaType formats toText node).toList <:+: written.toList
  | .error refused, .error error => error = refused
  | _, _ => False

end written

end MandoForge
