/-
Module: MandoForge.Ontology.CanonicalDigest
Purpose: The canonical text of a value tells the value up to the order of keys, so that
  the digest of a catalog, or of a subset of one, stands for it.
Trusted boundary: the hashing of a text, and the printing of strings and integers, which
  `PrintsJson` states.
Main exports: OntologyCodec.PrintsJson, canonical_json_injective
-/
import MandoForge.Ontology.ActionContracts

namespace MandoForge

open Foundation

/-- The library prints strings in quotes and integers in decimal digits. -/
structure OntologyCodec.PrintsJson (codec : OntologyCodec) : Prop where
  string : ∀ text, codec.printString text = quoteJson text
  posInt : ∀ value : UInt64, codec.printNumber (.posInt value) = Nat.repr value.toNat
  negInt : ∀ value : Int64, value.toInt < 0 →
    codec.printNumber (.negInt value) = "-" ++ Nat.repr value.toInt.natAbs

/-- A value as the library keeps it, with integers only. -/
def Json.IsPlain (value : Json) : Prop := value.integersOnly = true ∧ value.keysInOrder = true

/-! ### Canonical text -/

section canonical

variable {codec : OntologyCodec} (printFloat : Rat → String)

mutual

/-- The canonical text is the compact text of the value with its keys in order. -/
theorem writeCanonicalJson_eq_compactJson (prints : codec.PrintsJson) : ∀ value : Json, value.integersOnly = true →
    writeCanonicalJson codec value = compactJson printFloat value.sortKeys
  | .null, _ | .bool _, _ => by simp only [writeCanonicalJson, Json.sortKeys, compactJson]
  | .number (.posInt value), _ => by
      rw [writeCanonicalJson, Json.sortKeys_number, compactJson, numberText, prints.posInt]
  | .number (.negInt value), integers => by
      rw [Json.integersOnly, decide_eq_true_eq] at integers
      rw [writeCanonicalJson, Json.sortKeys_number, compactJson, numberText,
        prints.negInt value integers]
  | .string text, _ => by
      rw [writeCanonicalJson, Json.sortKeys_string, compactJson, prints.string]
  | .array items, integers => by
      rw [writeCanonicalJson, Json.sortKeys, compactJson,
        writeCanonicalItems_eq_compactJsonItems prints items integers]
  | .object fields, integers => by
      rw [writeCanonicalJson, writeCanonicalFields_eq_map prints fields integers, inKeyOrder_map,
        Json.sortKeys, compactJson, compactJsonFields_eq_map, List.map_map]
      simp only [Function.comp_def, prints.string]

theorem writeCanonicalItems_eq_compactJsonItems (prints : codec.PrintsJson) : ∀ items : List Json,
    Json.itemsIntegersOnly items = true →
    writeCanonicalItems codec items = compactJsonItems printFloat (Json.sortItems items)
  | [], _ => by rw [writeCanonicalItems, Json.sortItems, compactJsonItems]
  | item :: rest, integers => by
      rw [Json.itemsIntegersOnly, Bool.and_eq_true] at integers
      rw [writeCanonicalItems, Json.sortItems, compactJsonItems,
        writeCanonicalJson_eq_compactJson prints item integers.1,
        writeCanonicalItems_eq_compactJsonItems prints rest integers.2]

theorem writeCanonicalFields_eq_map (prints : codec.PrintsJson) : ∀ fields : List (String × Json),
    Json.fieldsIntegersOnly fields = true →
    writeCanonicalFields codec fields =
      (Json.sortFields fields).map fun field => (field.1, compactJson printFloat field.2)
  | [], _ => by rw [writeCanonicalFields, Json.sortFields, List.map_nil]
  | (key, value) :: rest, integers => by
      rw [Json.fieldsIntegersOnly, Bool.and_eq_true] at integers
      rw [writeCanonicalFields, Json.sortFields, List.map_cons,
        writeCanonicalJson_eq_compactJson prints value integers.1,
        writeCanonicalFields_eq_map prints rest integers.2]

end

variable (prints : codec.PrintsJson)

include prints

theorem sortKeys_eq_of_writeCanonicalJson {value other : Json}
    (integers : value.integersOnly = true) (otherIntegers : other.integersOnly = true)
    (same : writeCanonicalJson codec value = writeCanonicalJson codec other) :
    value.sortKeys = other.sortKeys := by
  rw [writeCanonicalJson_eq_compactJson (fun _ => "") prints value integers,
    writeCanonicalJson_eq_compactJson (fun _ => "") prints other otherIntegers] at same
  exact compactJson_injective _ (Json.integersOnly_sortKeys value integers)
    (Json.integersOnly_sortKeys other otherIntegers) same

theorem writeCanonicalJson_eq_iff {value other : Json} (integers : value.integersOnly = true)
    (otherIntegers : other.integersOnly = true) (distinct : value.keysDistinct = true) :
    writeCanonicalJson codec value = writeCanonicalJson codec other ↔
      value.SameUpToKeyOrder other := by
  rw [← Json.sortKeys_eq_iff distinct]
  refine ⟨sortKeys_eq_of_writeCanonicalJson prints integers otherIntegers, fun same => ?_⟩
  rw [writeCanonicalJson_eq_compactJson (fun _ => "") prints value integers,
    writeCanonicalJson_eq_compactJson (fun _ => "") prints other otherIntegers, same]

theorem canonicalJsonSha256_injective (noCollision : Function.Injective codec.textSha256)
    {value other : Json} (plain : value.IsPlain) (otherPlain : other.IsPlain)
    (same : canonicalJsonSha256 codec value = canonicalJsonSha256 codec other) :
    value = other := by
  have texts := noCollision (String.append_right_inj _ |>.mp same)
  have sorted := sortKeys_eq_of_writeCanonicalJson prints plain.1 otherPlain.1 texts
  rwa [Json.sortKeys_of_keysInOrder value plain.2,
    Json.sortKeys_of_keysInOrder other otherPlain.2] at sorted

end canonical

/-! ### Catalogs -/

theorem Json.isPlain_string (text : String) : (Json.string text).IsPlain := ⟨rfl, rfl⟩

theorem Json.isPlain_bool (flag : Bool) : (Json.bool flag).IsPlain := ⟨rfl, rfl⟩

theorem Json.isPlain_list {Value : Type} {write : Value → Json} {values : List Value}
    (each : ∀ value ∈ values, (write value).IsPlain) : (Json.array (values.map write)).IsPlain := by
  rw [Json.IsPlain, Json.integersOnly, Json.keysInOrder, Json.itemsIntegersOnly_iff,
    Json.itemsKeysInOrder_iff]
  exact ⟨List.forall_mem_map.mpr fun value member => (each value member).1,
    List.forall_mem_map.mpr fun value member => (each value member).2⟩

theorem Json.isPlain_record {fields : List Json.RecordField}
    (each : ∀ field ∈ fields, field.value.IsPlain) :
    (Json.ofFields (fields.map Json.RecordField.entry)).IsPlain :=
  ⟨Json.integersOnly_ofFields (List.forall_mem_map.mpr fun field member => (each field member).1),
    Json.keysInOrder_ofFields (List.forall_mem_map.mpr fun field member => (each field member).2)⟩

theorem OntologySdkCatalogObject.isPlain_write (object : OntologySdkCatalogObject) :
    object.write.IsPlain := by
  have properties : (Json.array (object.properties.map OntologySdkCatalogProperty.write)).IsPlain :=
    Json.isPlain_list fun property _ => Json.isPlain_record (by
      simp [OntologySdkCatalogProperty.recordFields, Json.isPlain_string, Json.isPlain_bool])
  have primaryKey : (Json.ofOption Json.string object.primaryKeyApiName).IsPlain := by
    cases object.primaryKeyApiName with
    | none => exact ⟨rfl, rfl⟩
    | some name => exact Json.isPlain_string name
  refine Json.isPlain_record ?_
  simp only [recordFields, List.forall_mem_cons]
  exact ⟨Json.isPlain_string _, Json.isPlain_string _, Json.isPlain_string _, properties,
    primaryKey, List.forall_mem_nil _⟩

theorem OntologySdkCatalogRelation.isPlain_write (relation : OntologySdkCatalogRelation) :
    relation.write.IsPlain :=
  Json.isPlain_record (by simp [recordFields, Json.isPlain_string])

theorem OntologySdkCatalogAction.isPlain_write {action : OntologySdkCatalogAction}
    (schema : action.inputSchema.IsPlain) : action.write.IsPlain :=
  Json.isPlain_record (by simp [recordFields, Json.isPlain_string, Json.isPlain_bool, schema])

theorem OntologyReleaseCatalogV1.isPlain_write {catalog : OntologyReleaseCatalogV1}
    (schemas : ∀ action ∈ catalog.actions, action.inputSchema.IsPlain) :
    catalog.write.IsPlain := by
  refine Json.isPlain_record ?_
  simp only [recordFields, List.forall_mem_cons]
  exact ⟨Json.isPlain_string _, Json.isPlain_string _,
    Json.isPlain_list fun object _ => object.isPlain_write,
    Json.isPlain_list fun relation _ => relation.isPlain_write,
    Json.isPlain_list fun action member => OntologySdkCatalogAction.isPlain_write (schemas action member),
    List.forall_mem_nil _⟩

/-! ### Subsets -/

structure OntologySdkSubsetManifest where
  objects : List String
  relations : List String
  actions : List String
deriving DecidableEq, Repr

namespace OntologySdkSubsetManifest

def recordFields (manifest : OntologySdkSubsetManifest) : List Json.RecordField := [
  { name := "objects", aliases := ["object_types"], value := .ofStrings manifest.objects },
  { name := "relations", aliases := ["relation_types"], value := .ofStrings manifest.relations },
  { name := "actions", value := .ofStrings manifest.actions }]

def write (manifest : OntologySdkSubsetManifest) : Json :=
  .ofFields (manifest.recordFields.map Json.RecordField.entry)

def read (value : Json) : Option OntologySdkSubsetManifest := do
  match ← value.recordFields
      [["objects", "object_types"], ["relations", "relation_types"], ["actions"]] with
  | [objects, relations, actions] =>
      let names := fun field => Json.readList Json.asStr (field <|> some (.array []))
      return {
        objects := ← names objects
        relations := ← names relations
        actions := ← names actions }
  | _ => none

theorem read_write (manifest : OntologySdkSubsetManifest) :
    read manifest.write = some manifest := by
  have fields := @Json.recordFields_ofFields manifest.recordFields
    (by simp [recordFields]) (by simp [recordFields])
  have layout : manifest.recordFields.map Json.RecordField.names =
      [["objects", "object_types"], ["relations", "relation_types"], ["actions"]] := rfl
  have names := @Json.readList_map String Json.asStr Json.string (fun _ => rfl)
  rw [read, write, ← layout, fields]
  simp only [recordFields, List.map_cons, List.map_nil]
  simp [bind, Option.bind, Json.ofStrings, names]

end OntologySdkSubsetManifest

def normalizeNames (kind : String) (names : List String) : Except AppError (List String) := do
  let trimmed ← names.mapM fun name =>
    if trim name = "" then
      .error (.badRequest ("ontology SDK subset contains an empty " ++ kind ++ " name"))
    else .ok (trim name)
  let unique := trimmed.dedup.insertionSort (· ≤ ·)
  if unique.length ≠ trimmed.length then
    throw (.badRequest ("ontology SDK subset contains duplicate " ++ kind ++ " names"))
  return unique

def normalizeAndValidateSubset (codec : OntologyCodec) (catalog : OntologyReleaseCatalogV1)
    (subset : OntologySdkSubsetManifest) :
    Except AppError (OntologySdkSubsetManifest × String) := do
  let normalized : OntologySdkSubsetManifest := {
    objects := ← normalizeNames "object" subset.objects
    relations := ← normalizeNames "relation" subset.relations
    actions := ← normalizeNames "action" subset.actions }
  normalized.objects.forM fun name => do
    if catalog.objects.all fun object => decide (object.apiName ≠ name) then
      throw (.badRequest ("ontology SDK subset references an unknown object: " ++ name))
  normalized.relations.forM fun name => do
    let relation ← okOr
      (catalog.relations.reverse.find? fun relation => decide (relation.apiName = name))
      (.badRequest ("ontology SDK subset references an unknown relation: " ++ name))
    if relation.fromObjectApiName ∉ normalized.objects ∨
        relation.toObjectApiName ∉ normalized.objects then
      throw (.badRequest ("ontology SDK subset relation " ++ name ++
        " requires both endpoint objects"))
  normalized.actions.forM fun name => do
    let action ← okOr
      (catalog.actions.reverse.find? fun action => decide (action.apiName = name))
      (.badRequest ("ontology SDK subset references an unknown action: " ++ name))
    if action.executionMode ≠ "proposal_only" then
      throw (.forbidden ("ontology SDK subset action " ++ name ++ " is not proposal_only"))
  return (normalized, canonicalJsonSha256 codec normalized.write)

theorem normalizeAndValidateSubset_digest {codec : OntologyCodec}
    {catalog : OntologyReleaseCatalogV1} {subset normalized : OntologySdkSubsetManifest}
    {digest : String}
    (accepted : normalizeAndValidateSubset codec catalog subset = .ok (normalized, digest)) :
    digest = canonicalJsonSha256 codec normalized.write := by
  obtain ⟨objects, -, accepted⟩ := bind_eq_ok.mp accepted
  obtain ⟨relations, -, accepted⟩ := bind_eq_ok.mp accepted
  obtain ⟨actions, -, accepted⟩ := bind_eq_ok.mp accepted
  obtain ⟨-, accepted⟩ := then_eq_ok.mp accepted
  obtain ⟨-, accepted⟩ := then_eq_ok.mp accepted
  obtain ⟨-, accepted⟩ := then_eq_ok.mp accepted
  obtain ⟨rfl, rfl⟩ := Prod.ext_iff.mp (Except.ok.inj accepted)
  rfl

theorem OntologySdkSubsetManifest.isPlain_write (manifest : OntologySdkSubsetManifest) :
    manifest.write.IsPlain := by
  have names (values : List String) : (Json.ofStrings values).IsPlain :=
    Json.isPlain_list fun value _ => Json.isPlain_string value
  exact Json.isPlain_record (by simp [recordFields, names])

/-- Canonical texts agree exactly on values that differ in the order of keys at most; with a
hash that has no collision, catalogs and accepted subsets that share a digest are the same. -/
theorem canonical_json_injective {codec : OntologyCodec} (prints : codec.PrintsJson) :
    (∀ value other : Json, value.integersOnly = true → other.integersOnly = true →
      value.keysDistinct = true → other.keysDistinct = true →
      (writeCanonicalJson codec value = writeCanonicalJson codec other ↔
        value.SameUpToKeyOrder other)) ∧
    (Function.Injective codec.textSha256 →
      (∀ catalog other : OntologyReleaseCatalogV1,
        (∀ action ∈ catalog.actions, action.inputSchema.IsPlain) →
        (∀ action ∈ other.actions, action.inputSchema.IsPlain) →
        canonicalJsonSha256 codec catalog.write = canonicalJsonSha256 codec other.write →
        catalog = other) ∧
      (∀ catalog other subset otherSubset normalized otherNormalized digest,
        normalizeAndValidateSubset codec catalog subset = .ok (normalized, digest) →
        normalizeAndValidateSubset codec other otherSubset = .ok (otherNormalized, digest) →
        normalized = otherNormalized)) := by
  refine ⟨fun value other integers otherIntegers distinct _ =>
    writeCanonicalJson_eq_iff prints integers otherIntegers distinct, fun noCollision => ⟨?_, ?_⟩⟩
  · intro catalog other schemas otherSchemas same
    have written := canonicalJsonSha256_injective prints noCollision
      (catalog.isPlain_write schemas) (other.isPlain_write otherSchemas) same
    exact Option.some.inj (catalog.read_write.symm.trans (written ▸ other.read_write))
  · intro catalog other subset otherSubset normalized otherNormalized digest accepted otherAccepted
    have same := (normalizeAndValidateSubset_digest accepted).symm.trans
      (normalizeAndValidateSubset_digest otherAccepted)
    have written := canonicalJsonSha256_injective prints noCollision normalized.isPlain_write
      otherNormalized.isPlain_write same
    exact Option.some.inj (normalized.read_write.symm.trans (written ▸ otherNormalized.read_write))

/-- Text is printed as the library prints it, and a digest is its text. -/
def transparentCodec : OntologyCodec where
  parseUuid := fun _ => none
  formats := { isUuid := fun _ => false, isDate := fun _ => false, isRfc3339 := fun _ => false }
  jsonSha256 := fun _ => ""
  textSha256 := id
  printString := quoteJson
  printNumber := numberText fun _ => "0.5"

def emptyCatalog (domainScope : String) : OntologyReleaseCatalogV1 where
  schema := ontologyReleaseCatalogSchema
  domainScope := domainScope
  objects := []
  relations := []
  actions := []

theorem retail_and_commerce_apart :
    writeCanonicalJson transparentCodec (.object [("b", .ofNat 2), ("a", .ofNat 1)]) =
      writeCanonicalJson transparentCodec (.object [("a", .ofNat 1), ("b", .ofNat 2)]) ∧
    canonicalJsonSha256 transparentCodec (emptyCatalog "retail").write ≠
      canonicalJsonSha256 transparentCodec (emptyCatalog "commerce").write := by
  have prints : transparentCodec.PrintsJson := ⟨fun _ => rfl, fun _ => rfl, fun _ _ => rfl⟩
  have settled := canonical_json_injective prints
  constructor
  · refine (settled.1 _ _ (by decide) (by decide) (by decide) (by decide)).mpr ?_
    exact .object (.cons (.refl _) (.cons (.refl _) .nil)) (List.Perm.swap ..)
  · intro same
    have equal := (settled.2 Function.injective_id).1 (emptyCatalog "retail")
      (emptyCatalog "commerce") (fun _ member => nomatch member) (fun _ member => nomatch member)
      same
    exact absurd (congrArg OntologyReleaseCatalogV1.domainScope equal) (by decide)

end MandoForge
