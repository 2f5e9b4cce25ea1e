/-
Module: MandoForge.Ontology.Catalog
Purpose: The catalog of a release candidate: what it takes over from the parent
  release, what the proposals of its run add, and the checks that it has to pass.
Trusted boundary: none
Main exports: catalogObjectProperties, validateCatalog
-/
import MandoForge.Ontology.ActionContracts

namespace MandoForge

open Foundation

/-! ### Properties of an object -/

/-- The first of the fields that the value has. -/
def Json.getAny (keys : List String) (value : Json) : Option Json := keys.findSome? value.get

def primaryKeySource (proposal : OntologyOnboardingProposalDraft) :
    Except AppError (Option String) :=
  match proposal.content.getAny ["primary_key_api_name", "primary_key"] with
  | none => .ok none
  | some value =>
      match value.asStr.bind nonEmptyTrimmed with
      | some text => .ok (some text)
      | none =>
          .error (.badRequest "ontology object primary key must be a non-empty string")

/-- The declared properties, each with its name when they come as a map. -/
def propertyEntries : Json → Except AppError (List (Option String × Json))
  | .array values => .ok (values.map fun value => (none, value))
  | .object fields => .ok (fields.map fun (name, value) => (some name, value))
  | _ => .error (.badRequest "ontology object properties/fields must be an array or object")

def propertySource (proposal : OntologyOnboardingProposalDraft) : Option Json :=
  proposal.content.getAny ["properties", "fields"] <|>
    (proposal.content.get "schema").bind (Json.getAny ["properties", "fields"])

def propertyApiName (inherited : Option OntologySdkCatalogProperty) (explicit : Option String)
    (sourceName : String) : Except AppError String :=
  match inherited with
  | some parentProperty => do
      let inheritedApi ← validateApiName parentProperty.apiName .property
      if explicit.any fun explicit => decide (explicit ≠ inheritedApi) then
        throw (.badRequest ("ontology object property api_name cannot change an inherited " ++
          "parent release name"))
      return inheritedApi
  | none =>
      match explicit with
      | some explicit => validateApiName explicit .property
      | none =>
          if !isAsciiText sourceName then
            .error (.badRequest ("ontology object property " ++ sourceName ++
              " requires an explicit ASCII api_name"))
          else do
            let name ← camelApiName sourceName .property
            validateApiName name .property

def catalogProperty (objectStableKey : String)
    (parentObject : Option OntologySdkCatalogObject) (entry : Option String × Json) :
    Except AppError OntologySdkCatalogProperty := do
  let (mapName, value) := entry
  let sourceName ← okOr
    ((((value.getAny ["source_name", "name", "field_name"]).bind Json.asStr) <|> mapName).bind
      nonEmptyTrimmed)
    (.badRequest ("ontology object property is missing a source_name/name; catalog cannot " ++
      "fabricate it"))
  let explicit := ((value.getAny ["api_name", "apiName"]).bind Json.asStr).bind plainApiName
  let stableKey := objectStableKey ++ ":property:" ++ sourceName
  let inherited := parentObject.bind fun parent => parent.properties.find? fun property =>
    decide (property.sourceName = sourceName ∨ property.stableKey = stableKey)
  let apiName ← propertyApiName inherited explicit sourceName
  return {
    stableKey
    sourceName
    apiName
    valueType := (((value.getAny ["value_type", "type", "field_type"]).bind Json.asStr).bind
      nonEmptyTrimmed).getD "unknown"
    nullable := ((value.get "nullable").bind Json.asBool).getD true }

/-- Two neighbours of the list have the same name but for its case. -/
def neighboursConflict (properties : List OntologySdkCatalogProperty) : Bool :=
  (properties.zip properties.tail).any fun (left, right) =>
    eqIgnoreAsciiCase left.apiName right.apiName

def catalogObjectProperties (proposal : OntologyOnboardingProposalDraft)
    (objectStableKey : String) (parentObject : Option OntologySdkCatalogObject) :
    Except AppError (List OntologySdkCatalogProperty × Option String) := do
  let primaryKey ← primaryKeySource proposal
  let declared ← match propertySource proposal with
    | some source => do
        let entries ← propertyEntries source
        entries.mapM (catalogProperty objectStableKey parentObject)
    | none => pure ((parentObject.map OntologySdkCatalogObject.properties).getD [])
  let properties := declared.insertionSort fun left right => left.apiName ≤ right.apiName
  if neighboursConflict properties then
    throw (.badRequest "ontology object properties have a case-insensitive api_name conflict")
  match primaryKey with
  | some primaryKey => do
      let property ← okOr
        (properties.find? fun property =>
          decide (property.sourceName = primaryKey ∨ property.apiName = primaryKey))
        (.badRequest ("ontology object primary key " ++ primaryKey ++
          " is not a declared property"))
      return (properties, some property.apiName)
  | none =>
      return (properties, parentObject.bind OntologySdkCatalogObject.primaryKeyApiName)

/-! ### Building a catalog -/

abbrev ObjectTable := Table OntologySdkCatalogObject.stableKey
abbrev RelationTable := Table OntologySdkCatalogRelation.stableKey
abbrev ActionTable := Table OntologySdkCatalogAction.stableKey

/-- The catalog in the making: its parts under their stable keys, the names of the
objects by their type, and the identities that the proposals have taken. -/
structure CatalogDraft where
  objects : ObjectTable := Table.empty
  relations : RelationTable := Table.empty
  actions : ActionTable := Table.empty
  /-- `object_identity_to_api`, the latest first. -/
  objectApiNames : List (String × String) := []
  proposed : List String := []

/-- What a candidate starts from. -/
def CatalogDraft.ofParent : Option OntologyReleaseCatalogV1 → CatalogDraft
  | none => {}
  | some catalog => {
      objects := catalog.objects.foldl Table.insert Table.empty
      relations := catalog.relations.foldl Table.insert Table.empty
      actions := catalog.actions.foldl Table.insert Table.empty
      objectApiNames := (catalog.objects.map fun object =>
        (object.objectType, object.apiName)).reverse }

/-- A stable key that a proposal takes, unless another one of its kind has it. -/
def CatalogDraft.take (draft : CatalogDraft) (stableKey kind : String) :
    Except AppError CatalogDraft :=
  if stableKey ∈ draft.proposed then
    .error (.badRequest ("ontology release proposals contain duplicate " ++ kind ++ " identities"))
  else .ok { draft with proposed := stableKey :: draft.proposed }

section parent

variable (parent : Option OntologyReleaseCatalogV1)

def parentObject (stableKey : String) : Option OntologySdkCatalogObject :=
  parent.bind fun catalog => catalog.objects.find? fun object =>
    decide (object.stableKey = stableKey)

def parentRelation (stableKey : String) : Option OntologySdkCatalogRelation :=
  parent.bind fun catalog => catalog.relations.find? fun relation =>
    decide (relation.stableKey = stableKey)

def parentAction (stableKey : String) : Option OntologySdkCatalogAction :=
  parent.bind fun catalog => catalog.actions.find? fun action =>
    decide (action.stableKey = stableKey)

def addObject (draft : CatalogDraft) (proposal : OntologyOnboardingProposalDraft) :
    Except AppError CatalogDraft := do
  let objectType :=
    trim (((proposal.content.get "object_type").bind Json.asStr).getD proposal.name)
  let stableKey := "object:" ++ objectType
  let draft ← draft.take stableKey "object"
  let inherited := parentObject parent stableKey
  let apiName ← chooseApiName proposal (explicitApiName proposal)
    (inherited.map OntologySdkCatalogObject.apiName) objectType .object
  let (properties, primaryKeyApiName) ← catalogObjectProperties proposal stableKey inherited
  return { draft with
    objectApiNames := (objectType, apiName) :: draft.objectApiNames
    objects := draft.objects.insert
      { stableKey, apiName, objectType, properties, primaryKeyApiName } }

/-- The name of an endpoint of a relation. -/
def endpointApiName (draft : CatalogDraft) (objectType : String) : Except AppError String :=
  okOr (draft.objectApiNames.lookup objectType)
    (.badRequest ("ontology relation endpoint object is not in the release catalog: " ++
      objectType))

def addRelation (draft : CatalogDraft) (proposal : OntologyOnboardingProposalDraft) :
    Except AppError CatalogDraft := do
  let fromObject ← requiredContentString proposal "from_object" "relation"
  let toObject ← requiredContentString proposal "to_object" "relation"
  let relationType ← requiredContentString proposal "relation" "relation"
  let fromObjectApiName ← endpointApiName draft fromObject
  let toObjectApiName ← endpointApiName draft toObject
  let stableKey := "relation:" ++ fromObject ++ ":" ++ relationType ++ ":" ++ toObject
  let draft ← draft.take stableKey "relation"
  let fallback := ((proposal.content.get "link_type").bind Json.asStr).getD proposal.name
  let apiName ← chooseApiName proposal (explicitApiName proposal)
    ((parentRelation parent stableKey).map OntologySdkCatalogRelation.apiName) fallback .relation
  return { draft with
    relations := draft.relations.insert
      { stableKey, apiName, fromObjectApiName, relationType, toObjectApiName } }

def addAction (codec : OntologyCodec) (draft : CatalogDraft)
    (proposal : OntologyOnboardingProposalDraft) : Except AppError CatalogDraft := do
  let toolSpec ← ontologyToolSpecFromActionProposal proposal.runId proposal
  let stableKey := "action:" ++ toolSpec.name
  let draft ← draft.take stableKey "action"
  let apiName ← chooseApiName proposal (explicitApiName proposal)
    ((parentAction parent stableKey).map OntologySdkCatalogAction.apiName) proposal.name .action
  let targetObjectApiName ← okOr (draft.objectApiNames.lookup toolSpec.targetObject)
    (.badRequest ("ontology action target object is not in the release catalog: " ++
      toolSpec.targetObject))
  return { draft with
    actions := draft.actions.insert {
      stableKey
      apiName
      runtimeName := toolSpec.name
      contractDigest := codec.jsonSha256 toolSpec.write
      executionMode := toolSpec.executionMode
      targetObjectApiName
      inputSchema := toolSpec.inputSchema
      approvalRequired := toolSpec.approvalRequired } }

end parent

def proposalsOf (proposalType : String) (proposals : List OntologyOnboardingProposalDraft) :
    List OntologyOnboardingProposalDraft :=
  proposals.filter fun proposal => decide (proposal.proposalType = proposalType)

/-- The rows of a table in the order of their names, and of their keys where two have
one name. -/
def inNameOrder {Row : Type} (rows : List Row) (stableKey apiName : Row → String) : List Row :=
  (rows.insertionSort fun left right => stableKey left ≤ stableKey right).insertionSort
    fun left right => apiName left ≤ apiName right

def CatalogDraft.catalog (draft : CatalogDraft) (domainScope : String) :
    OntologyReleaseCatalogV1 where
  schema := ontologyReleaseCatalogSchema
  domainScope := domainScope
  objects := inNameOrder draft.objects.rows OntologySdkCatalogObject.stableKey
    OntologySdkCatalogObject.apiName
  relations := inNameOrder draft.relations.rows OntologySdkCatalogRelation.stableKey
    OntologySdkCatalogRelation.apiName
  actions := inNameOrder draft.actions.rows OntologySdkCatalogAction.stableKey
    OntologySdkCatalogAction.apiName

/-! ### Checks of a catalog -/

/-- The stable key and the name of everything in a catalog. -/
def catalogEntries (catalog : OntologyReleaseCatalogV1) : List (String × String) :=
  catalog.objects.map (fun entry => (entry.stableKey, entry.apiName)) ++
    catalog.relations.map (fun entry => (entry.stableKey, entry.apiName)) ++
      catalog.actions.map fun entry => (entry.stableKey, entry.apiName)

/-- The kind that a name of the catalog is checked as. -/
def catalogNameKind (catalog : OntologyReleaseCatalogV1) (apiName : String) : ApiNameKind :=
  if catalog.objects.any fun entry => decide (entry.apiName = apiName) then .object
  else if catalog.relations.any fun entry => decide (entry.apiName = apiName) then .relation
  else .action

/-- The loop over the entries, with the names and keys that it has seen. -/
def validateEntries (catalog : OntologyReleaseCatalogV1) (apiNames stableKeys : List String) :
    List (String × String) → Except AppError Unit
  | [] => .ok ()
  | (stableKey, apiName) :: rest => do
      let _valid ← validateApiName apiName (catalogNameKind catalog apiName)
      if toAsciiLowercase apiName ∈ apiNames then
        throw (.forbidden "ontology release catalog has a case-insensitive api_name conflict")
      if stableKey ∈ stableKeys then
        throw (.forbidden "ontology release catalog has duplicate semantic identities")
      validateEntries catalog (toAsciiLowercase apiName :: apiNames) (stableKey :: stableKeys) rest

def validateRelation (catalog : OntologyReleaseCatalogV1)
    (relation : OntologySdkCatalogRelation) : Except AppError Unit := do
  let _valid ← validateApiName relation.apiName .relation
  let endpoint := fun apiName => okOr
    (catalog.objects.find? fun object => decide (object.apiName = apiName))
    (AppError.forbidden "ontology release catalog relation endpoint is not an object")
  let fromObject ← endpoint relation.fromObjectApiName
  let toObject ← endpoint relation.toObjectApiName
  if trim relation.relationType = "" ∨ relation.stableKey ≠
      "relation:" ++ fromObject.objectType ++ ":" ++ relation.relationType ++ ":" ++
        toObject.objectType then
    throw (.forbidden "ontology release catalog relation identity is invalid")

def validateAction (formats : SchemaFormats) (catalog : OntologyReleaseCatalogV1)
    (action : OntologySdkCatalogAction) : Except AppError Unit := do
  let _valid ← validateApiName action.apiName .action
  if action.contractDigest = "" ∨ action.executionMode = "" then
    throw (.forbidden "ontology release catalog action contract metadata is incomplete")
  if action.runtimeName = "" ∨ action.stableKey ≠ "action:" ++ action.runtimeName then
    throw (.forbidden "ontology release catalog action identity is invalid")
  if !catalog.objects.any fun object => decide (object.apiName = action.targetObjectApiName) then
    throw (.forbidden "ontology release catalog action target is not an object")
  if !action.inputSchema.isObject then
    throw (.forbidden "ontology release catalog action input schema must be a JSON object")
  validateActionSchema formats action.inputSchema

/-- The loop over the properties of an object, with the keys and names that it has seen. -/
def validateProperties (object : OntologySdkCatalogObject) (stableKeys apiNames : List String) :
    List OntologySdkCatalogProperty → Except AppError Unit
  | [] => .ok ()
  | property :: rest => do
      let _valid ← validateApiName property.apiName .property
      if trim property.sourceName = "" ∨
          property.stableKey ≠ object.stableKey ++ ":property:" ++ property.sourceName ∨
          property.stableKey ∈ stableKeys ∨ toAsciiLowercase property.apiName ∈ apiNames then
        throw (.forbidden "ontology release catalog object property identity is invalid")
      if trim property.valueType = "" then
        throw (.forbidden "ontology release catalog object property type is missing")
      if (ontologyCatalogPropertyType property.valueType).isNone then
        throw (.forbidden ("ontology release catalog object property type " ++
          property.valueType ++ " is unsupported"))
      validateProperties object (property.stableKey :: stableKeys)
        (toAsciiLowercase property.apiName :: apiNames) rest

def validateObject (object : OntologySdkCatalogObject) : Except AppError Unit := do
  let _valid ← validateApiName object.apiName .object
  if trim object.objectType = "" ∨ object.stableKey ≠ "object:" ++ object.objectType then
    throw (.forbidden "ontology release catalog object identity is invalid")
  validateProperties object [] [] object.properties
  if let some primaryKey := object.primaryKeyApiName then
    let _valid ← validateApiName primaryKey .property
    if !object.properties.any fun property =>
        eqIgnoreAsciiCase property.apiName primaryKey then
      throw (.forbidden "ontology release catalog primary key is not a declared property")

def validateCatalog (formats : SchemaFormats) (catalog : OntologyReleaseCatalogV1) :
    Except AppError Unit := do
  if catalog.schema ≠ ontologyReleaseCatalogSchema then
    throw (.forbidden "ontology release catalog schema is unsupported")
  validateEntries catalog [] [] (catalogEntries catalog)
  catalog.relations.forM (validateRelation catalog)
  catalog.actions.forM (validateAction formats catalog)
  catalog.objects.forM validateObject

/-! ### The catalog of a candidate -/

/-- `build_ontology_release_catalog` over the catalog of the parent release, without its
digest. -/
def buildReleaseCatalog (codec : OntologyCodec) (domainScope : String)
    (proposals : List OntologyOnboardingProposalDraft)
    (parent : Option OntologyReleaseCatalogV1) : Except AppError OntologyReleaseCatalogV1 := do
  let draft ← (proposalsOf "object" proposals).foldlM (addObject parent)
    (CatalogDraft.ofParent parent)
  let draft ← (proposalsOf "relation" proposals).foldlM (addRelation parent) draft
  let draft ← (proposalsOf "action" proposals).foldlM (addAction parent codec) draft
  let catalog := draft.catalog domainScope
  validateCatalog codec.formats catalog
  return catalog

end MandoForge
