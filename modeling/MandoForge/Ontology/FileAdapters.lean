/-
Module: MandoForge.Ontology.FileAdapters
Purpose: The adapters of an uploaded file: a CSV, JSON, Parquet, PDF or Excel file becomes
  a bundle of one dataset and a seed of one object.
Trusted boundary: the decoders of the formats belong to other crates, and the classes and
  the case of characters beyond ASCII to the Unicode tables; `SourceDecoders` and
  `CharacterTables` stand for them.
Main exports: CharacterTables, OntologySourceAdapterOutput
-/
import MandoForge.Data.Paths
import MandoForge.Ontology.Onboarding
import Mathlib.Data.List.Sort

namespace MandoForge

open Foundation

abbrev SourceBytes := List UInt8

/-! ### Names -/

/-- What the standard library looks up in the Unicode tables. -/
structure CharacterTables where
  isAlphabetic : Char → Bool
  isNumeric : Char → Bool
  toUppercase : Char → List Char
  toUppercase_ascii : ∀ c, c.toNat < 128 → toUppercase c = [c.toUpper]

def CharacterTables.isAlphanumeric (characters : CharacterTables) (c : Char) : Bool :=
  characters.isAlphabetic c || characters.isNumeric c

def asciiCharacters : CharacterTables where
  isAlphabetic := Char.isAlpha
  isNumeric := Char.isDigit
  toUppercase c := [c.toUpper]
  toUppercase_ascii _ _ := rfl

section characters

variable (characters : CharacterTables)

def toSnakeCase (text : String) : String :=
  let spelled := text.toList.map fun c => if characters.isAlphanumeric c then c.toLower else '_'
  "_".intercalate (((splitChars '_' spelled).filter fun piece => decide (piece ≠ [])).map
    String.ofList)

/-- A word of a table's name, with its first letter in upper case. -/
def pascalWord : List Char → List Char
  | [] => []
  | first :: rest => characters.toUppercase first ++ rest

def pascalCase (text : String) : String :=
  String.ofList ((splitChars '_' text.toList).flatMap (pascalWord characters))

end characters

/-! ### Field types -/

/-- One sign is skipped. -/
def dropSign : List Char → List Char
  | '-' :: rest => rest
  | '+' :: rest => rest
  | chars => chars

/-- `parse::<i64>().is_ok()`. -/
def parsesI64 (text : String) : Bool :=
  let digits := dropSign text.toList
  let magnitude := digits.foldl (fun value c => 10 * value + (c.toNat - '0'.toNat)) 0
  decide (digits ≠ []) && digits.all Char.isDigit &&
    decide (magnitude < 2 ^ 63 ∨ magnitude = 2 ^ 63 ∧ text.toList.head? = some '-')

/-- Digits with at most one point among them, and an exponent or none. -/
def spellsDecimal (chars : List Char) : Bool :=
  let isMark := fun c : Char => decide (c = 'e' ∨ c = 'E')
  let mantissa := chars.takeWhile fun c => !isMark c
  let whole := mantissa.takeWhile Char.isDigit
  let mantissaValid := match mantissa.dropWhile Char.isDigit with
    | [] => decide (whole ≠ [])
    | c :: fraction =>
        decide (c = '.') && fraction.all Char.isDigit && decide (whole ≠ [] ∨ fraction ≠ [])
  let exponentValid := match chars.dropWhile fun c => !isMark c with
    | [] => true
    | _ :: exponent => decide (dropSign exponent ≠ []) && (dropSign exponent).all Char.isDigit
  mantissaValid && exponentValid

/-- `parse::<f64>().is_ok()`. -/
def parsesF64 (text : String) : Bool :=
  let body := dropSign text.toList
  spellsDecimal body ||
    decide (toAsciiLowercase (String.ofList body) ∈ ["inf", "infinity", "nan"])

def looksTimestamp (value : String) : Bool :=
  decide (8 ≤ value.utf8ByteSize) && ["-", "T", ":", "Z"].any (containsText value)

def inferFieldType (values : List String) : String :=
  let nonEmpty := values.filter fun value => decide (value ≠ "")
  if nonEmpty = [] then "string"
  else if nonEmpty.all parsesI64 then "integer"
  else if nonEmpty.all parsesF64 then "decimal"
  else if nonEmpty.all looksTimestamp then "timestamp"
  else "string"

/-! ### What the adapters take and give -/

structure RawFilePayload where
  filename : String
  contentBase64 : Option String
deriving DecidableEq, Repr

structure OntologySourceAdapterOutput where
  bundle : OntologySourceBundle
  seed : OntologySeedPack
  adapterType : String
  sourceLabel : String
  schemaOnly : Bool
  warnings : List String
deriving DecidableEq

inductive ParquetType where
  | boolean
  | int32
  | int64
  | int96
  | float
  | double
  | byteArray
  | fixedLenByteArray
deriving DecidableEq, Repr

/-- A value of a Parquet row; a float that is not finite has no number. -/
inductive ParquetField where
  | null
  | bool (value : Bool)
  | integer (value : Int)
  | float (value : Option Rat)
  | str (value : String)
  | bytes (value : SourceBytes)
  | date (value : Int)
  | timestamp (value : Int)
  | other
deriving DecidableEq

/-- An open Parquet file: its columns, its row groups, and its rows with their columns. -/
structure ParquetFile where
  columns : List (String × ParquetType)
  rowGroups : Nat
  rows : Except String (List (Except String (List (String × ParquetField))))

/-- A cell of a worksheet; a float that is not finite has no number. -/
inductive WorkbookCell where
  | int (value : Int)
  | float (value : Option Rat)
  | string (value : String)
  | bool (value : Bool)
  | dateTime (serial : Rat)
  | other (text : String)
deriving DecidableEq

structure Workbook where
  sheetNames : List String
  worksheetRange : String → Except String (List (List WorkbookCell))

/-- What the adapters take from the crates that read the formats. -/
structure SourceDecoders where
  base64 : String → Option SourceBytes
  csvHeaders : UInt8 → SourceBytes → Except String (List String)
  csvRecords : UInt8 → SourceBytes → List (Except String (List String))
  json : SourceBytes → Except String Json
  printNumber : JsonNumber → String
  parquet : SourceBytes → Except String ParquetFile
  pdfText : SourceBytes → Except String String
  workbook : SourceBytes → Except String Workbook
  displayCell : WorkbookCell → String

section adapters

variable (characters : CharacterTables) (decoders : SourceDecoders)

def RawFilePayload.decodeBytes (file : RawFilePayload) : Except AppError SourceBytes :=
  match file.contentBase64 with
  | some text =>
      okOr (decoders.base64 (trim text)) (.badRequest "invalid base64 in content_base64")
  | none => .error (.badRequest "file content required (content_base64 or multipart upload)")

def bytesOrInline (multipartBytes : Option SourceBytes) (file : RawFilePayload) :
    Except AppError SourceBytes :=
  match multipartBytes with
  | some bytes => .ok bytes
  | none => file.decodeBytes decoders

def RawFilePayload.tableName (file : RawFilePayload) : String :=
  toSnakeCase characters ((fileStem file.filename).getD "table")

/-- An error of a decoder, with what was being read. -/
def decoded {Value : Type} (what : String) : Except String Value → Except AppError Value
  | .ok value => .ok value
  | .error message => .error (.badRequest (what ++ ": " ++ message))

def genericSeedPack (industry domainScope sourceMode toolNamespace : String)
    (datasets : List OntologyOnboardingDataset) : OntologySeedPack where
  industry := industry
  domainScope := domainScope
  sourceMode := sourceMode
  toolNamespace := toolNamespace
  objects := datasets.map fun dataset =>
    { tableName := dataset.tableName, objectName := pascalCase characters dataset.tableName }
  relations := []
  metrics := []
  actions := []

/-- The output of the adapter of a file type, for the one dataset in the file. -/
def fileOutput (adapterType filename : String) (dataset : OntologyOnboardingDataset)
    (schemaOnly : Bool) (warnings : List String) : OntologySourceAdapterOutput where
  bundle := {
    industry := "generic"
    sourceMode := "file_" ++ adapterType
    toolNamespace := "data"
    datasets := [dataset] }
  seed :=
    genericSeedPack characters "generic" dataset.tableName ("file_" ++ adapterType) "data" [dataset]
  adapterType := adapterType
  sourceLabel := adapterType ++ ":" ++ filename
  schemaOnly := schemaOnly
  warnings := warnings

/-- What every file input can set. -/
structure FileNaming where
  file : RawFilePayload
  tableNameOverride : Option String
  sourceSystemOverride : Option String
deriving DecidableEq, Repr

/-- `build_dataset`, under the names that the input asks for. -/
def FileNaming.dataset (naming : FileNaming) (fields : List OntologyOnboardingField)
    (rows : List Json) : OntologyOnboardingDataset :=
  let tableName := naming.tableNameOverride.getD (naming.file.tableName characters)
  { tableName
    sourceSystem := naming.sourceSystemOverride.getD "file_upload"
    sourceObject := tableName
    fields
    rows }

def sampleLimit (sampleRowCount : Option Nat) : Nat := min (sampleRowCount.getD 8) 50

/-! ### CSV -/

structure CsvAdapterInput extends FileNaming where
  delimiter : Option Char
  sampleRowCount : Option Nat
deriving DecidableEq, Repr

/-- The candidate that the start of the file has most often, the last of them in a tie. -/
def detectCsvDelimiter (bytes : SourceBytes) : Char :=
  let sample := bytes.take 4096
  let count := fun c : Char => sample.count (UInt8.ofNat c.toNat)
  ['\t', '|', ';'].foldl (fun best c => if count best ≤ count c then c else best) ','

def adaptCsv (input : CsvAdapterInput) (bytes : SourceBytes) :
    Except AppError OntologySourceAdapterOutput := do
  let limit := sampleLimit input.sampleRowCount
  let delimiter := UInt8.ofNat (input.delimiter.getD (detectCsvDelimiter bytes)).toNat
  let headers ← decoded "CSV header error" (decoders.csvHeaders delimiter bytes)
  let headers := headers.map (toSnakeCase characters)
  let allRows ← ((decoders.csvRecords delimiter bytes).take 10000).mapM (decoded "CSV row error")
  let fields := headers.zipIdx.map fun (name, column) =>
    let values := allRows.filterMap fun row => row[column]?
    { name
      fieldType := inferFieldType values
      sampleValues := (values.take limit).map Json.string }
  let rows := (allRows.take limit).map fun row =>
    Json.ofFields (headers.zipIdx.map fun (name, column) => (name, .string (row[column]?.getD "")))
  return fileOutput characters "csv" input.file.filename
    (input.dataset characters fields rows) false []

/-! ### JSON -/

inductive JsonShape where
  | arrayOfObjects
  | objectOfArrays
deriving DecidableEq, Repr

structure JsonAdapterInput extends FileNaming where
  shape : Option JsonShape
  sampleRowCount : Option Nat
deriving DecidableEq, Repr

/-- The rows of an object of arrays, as many as its first array has. -/
def rowsOfArrays (fields : List (String × Json)) : List Json :=
  let columns := fields.filterMap fun (name, value) => value.asArray.map fun items => (name, items)
  let length := (columns.head?.map fun column => column.2.length).getD 0
  (List.range length).map fun index =>
    Json.ofFields (columns.map fun (name, items) => (name, items[index]?.getD .null))

def jsonRows (shape : Option JsonShape) (root : Json) : Except AppError (List Json) :=
  let ofArrays := match root with
    | .object fields => .ok (rowsOfArrays fields)
    | _ => .error (AppError.badRequest "JSON object-of-arrays must be a top-level object")
  let ofObjects := okOr root.asArray
    (.badRequest "JSON must be an array of objects or object of arrays")
  match shape with
  | some .objectOfArrays => ofArrays
  | some .arrayOfObjects => ofObjects
  | none => if root.isObject then ofArrays else ofObjects

/-- The text of a value that the type of its column is read from. -/
def columnText : Json → Option String
  | .string value => some value
  | .number value => some (decoders.printNumber value)
  | .bool value => some (if value then "true" else "false")
  | _ => none

def Json.keys : Json → List String
  | .object fields => fields.map Prod.fst
  | _ => []

def adaptJson (input : JsonAdapterInput) (bytes : SourceBytes) :
    Except AppError OntologySourceAdapterOutput := do
  let limit := sampleLimit input.sampleRowCount
  let root ← decoded "JSON parse error" (decoders.json bytes)
  let rows ← jsonRows input.shape root
  let headers := (rows.flatMap Json.keys).dedup.insertionSort fun left right => left ≤ right
  let fields := headers.map fun name => {
    name
    fieldType := inferFieldType
      ((rows.filterMap fun row => row.get name).filterMap (columnText decoders))
    sampleValues := (rows.take limit).filterMap fun row => row.get name }
  return fileOutput characters "json" input.file.filename
    (input.dataset characters fields (rows.take limit)) false []

/-! ### Parquet -/

structure ParquetAdapterInput extends FileNaming where
  sampleRowCount : Option Nat
deriving DecidableEq, Repr

def parquetPhysicalTypeToFieldType : ParquetType → String
  | .int32 | .int64 => "integer"
  | .float | .double => "decimal"
  | .boolean => "boolean"
  | _ => "string"

/-- `hex::encode`. -/
def hexEncode (bytes : SourceBytes) : String :=
  String.ofList (bytes.flatMap fun byte =>
    [Nat.digitChar (byte.toNat / 16), Nat.digitChar (byte.toNat % 16)])

def parquetFieldToJson : ParquetField → Json
  | .null => .null
  | .bool value => .bool value
  | .integer value => .ofInt value
  | .float value => .ofOption (fun value => .number (.float value)) value
  | .str value => .string value
  | .bytes value => .string (hexEncode value)
  | .date value => .ofInt value
  | .timestamp value => .ofInt value
  | .other => .null

/-- The rows up to the first that does not decode, and the warning about that one. -/
def parquetRows : List (Except String (List (String × ParquetField))) → List Json × List String
  | [] => ([], [])
  | .error message :: _ => ([], ["Row decode error: " ++ message])
  | .ok row :: rest =>
      let (rows, warnings) := parquetRows rest
      (Json.ofFields (row.map fun (name, value) =>
        (toSnakeCase characters name, parquetFieldToJson value)) :: rows, warnings)

/-- `b"PAR1"`. -/
def parquetMagic : SourceBytes := [80, 65, 82, 49]

/-- The fields, the rows, whether there is a schema only, and the warnings. -/
def parseParquetSchemaAndRows (bytes : SourceBytes) (limit : Nat) :
    Except AppError (List OntologyOnboardingField × List Json × Bool × List String) := do
  if bytes.length < 8 ∨ bytes.take 4 ≠ parquetMagic ∨
      bytes.drop (bytes.length - 4) ≠ parquetMagic then
    throw (.badRequest "file does not appear to be a valid Parquet file")
  let file ← decoded "Parquet read error" (decoders.parquet bytes)
  let fields := file.columns.map fun (name, physicalType) =>
    OntologyOnboardingField.mk (toSnakeCase characters name)
      (parquetPhysicalTypeToFieldType physicalType) []
  if file.rowGroups = 0 then
    return (fields, [], true, ["Parquet file contains no row groups; schema only."])
  match file.rows with
  | .error message =>
      return (fields, [], true, ["Could not iterate Parquet rows: " ++ message ++ "; schema only."])
  | .ok results =>
      let (rows, warnings) := parquetRows characters (results.take limit)
      let sampled := fields.map fun field =>
        { field with sampleValues := rows.filterMap fun row => row.get field.name }
      return (sampled, rows, false, warnings)

def adaptParquet (input : ParquetAdapterInput) (bytes : SourceBytes) :
    Except AppError OntologySourceAdapterOutput := do
  let (fields, rows, schemaOnly, warnings) ←
    parseParquetSchemaAndRows characters decoders bytes (sampleLimit input.sampleRowCount)
  return fileOutput characters "parquet" input.file.filename
    (input.dataset characters fields rows) schemaOnly warnings

/-! ### PDF -/

abbrev PdfAdapterInput := FileNaming

/-- `str::split_whitespace`. -/
def splitWhitespace (chars : List Char) : List (List Char) :=
  (chars.splitOnP isWhitespace).filter fun token => decide (token ≠ [])

def identifierLike (token : List Char) : Bool :=
  (token.all fun c => characters.isAlphanumeric c || decide (c = '_' ∨ c = '-')) &&
    token.any characters.isAlphabetic

/-- The tokens of a line that reads like the header of a table. -/
def headerTokens (line : List Char) : List (List Char) :=
  let trimmed := trimChars line
  let tokens := splitWhitespace trimmed
  if trimmed = [] ∨ 120 < (String.ofList trimmed).utf8ByteSize ∨ tokens.length < 2 ∨
      12 < tokens.length then []
  else if tokens.all (identifierLike characters) then tokens
  else []

def extractSchemaHintsFromPdfText (text : String) : List OntologyOnboardingField :=
  let keys := ((splitChars '\n' text.toList).flatMap (headerTokens characters)).map fun token =>
    toSnakeCase characters (String.ofList token)
  (keys.filter fun key => decide (2 ≤ key.utf8ByteSize)).eraseDups.map fun key =>
    { name := key, fieldType := "unknown", sampleValues := [] }

def adaptPdf (input : PdfAdapterInput) (bytes : SourceBytes) :
    Except AppError OntologySourceAdapterOutput := do
  let text ← decoded "PDF extract error" (decoders.pdfText bytes)
  let fields := extractSchemaHintsFromPdfText characters text
  return fileOutput characters "pdf" input.file.filename (input.dataset characters fields []) true
    ["PDF adapter provides schema hints only; no row data is extracted."]

/-! ### Excel -/

structure ExcelAdapterInput extends FileNaming where
  sheet : Option String
  sampleRowCount : Option Nat
deriving DecidableEq, Repr

/-- The text of a cell that the type of its column is read from. -/
def cellText : WorkbookCell → String
  | .string value => value
  | .bool value => if value then "true" else "false"
  | .int value => decoders.displayCell (.int value)
  | .float value => decoders.displayCell (.float value)
  | _ => ""

def cellToJson : WorkbookCell → Json
  | .int value => .ofInt value
  | .float value => .ofOption (fun value => .number (.float value)) value
  | .string value => .string value
  | .bool value => .bool value
  | .dateTime serial => .string (decoders.displayCell (.dateTime serial))
  | .other _ => .null

def cellFieldType : WorkbookCell → String
  | .int _ => "integer"
  | .float _ => "decimal"
  | .bool _ => "boolean"
  | .dateTime _ => "timestamp"
  | _ => "string"

/-- The type of the first cell of the column. -/
def excelColType (rows : List (List WorkbookCell)) (column : Nat) : Option String :=
  (rows.findSome? fun row => row[column]?).map cellFieldType

def adaptExcel (input : ExcelAdapterInput) (bytes : SourceBytes) :
    Except AppError OntologySourceAdapterOutput := do
  let limit := sampleLimit input.sampleRowCount
  let workbook ← decoded "Excel open error" (decoders.workbook bytes)
  let sheetName := input.sheet.getD (workbook.sheetNames.head?.getD "")
  let range ← decoded "Excel sheet error" (workbook.worksheetRange sheetName)
  let headerRow ← okOr range.head? (.badRequest "Excel sheet is empty")
  let headers := headerRow.map fun cell => toSnakeCase characters (decoders.displayCell cell)
  let dataRows := range.tail
  let fields := headers.zipIdx.map fun (name, column) =>
    let values := (dataRows.filterMap fun row => row[column]?).map (cellText decoders)
    { name
      fieldType := (excelColType dataRows column).getD (inferFieldType values)
      sampleValues := (values.take limit).map Json.string }
  let rows := (dataRows.take limit).map fun row =>
    Json.ofFields (headers.zipIdx.map fun (name, column) =>
      (name, (row[column]?.map (cellToJson decoders)).getD .null))
  return fileOutput characters "excel" input.file.filename
    (input.dataset characters fields rows) false []

end adapters

end MandoForge
