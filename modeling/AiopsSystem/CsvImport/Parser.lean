import AiopsSystem.AssetCatalog.Facts
import AiopsSystem.Go.Frame
import AiopsSystem.Go.Sha256
import AiopsSystem.Go.Utf8

/-! # The CSV importer

One call reads the whole payload, checks every row and returns the rows of one page together with the
checkpoint of the next. What `encoding/csv` reads from a payload and which texts count as unsafe are parameters.
-/

namespace AiopsSystem.CsvImport

open Go AssetCatalog

def schemaVersion : GoString := ascii "CSV_RFC4180_V1"

def maxFileBytes : Int := 33554432

def maxRows : Int := 100000

def maxFieldBytes : Nat := 512

def maxRowsPerPage : Int := 2000

def header : List GoString :=
  ["environment_id", "provider_kind", "external_id", "kind", "display_name", "object_version", "deleted",
    "tombstone_reason", "relation_type", "relation_target_environment_id", "relation_target_external_id"].map ascii

inductive ParseError where
  | invalidSchema | invalidEncoding | limitExceeded | unsafeField | invalidField | duplicateObject
  | authorityMismatch | invalidRelation | invalidTombstone | checkpointMismatch | readFailure

structure Limits where
  maxRowsPerPage : Int
  maxBytes : Int
  authorityEnvironmentIDs : List GoString

structure Checkpoint where
  (fileSHA256 schemaVersion : GoString)
  rowNumber : Int

structure Page where
  items : List NormalizedItem
  relations : List ObservedRelation
  next : Checkpoint
  finalPage : Bool

structure ParsedRecord where
  item : NormalizedItem
  relation : Option ObservedRelation

/-- An `io.Reader`: what it delivers and whether it then fails instead of ending. -/
structure Reader where
  bytes : GoString
  fails : Bool

structure Library where
  /-- The records that `csv.Reader.Read` returns one after the other, `none` for an error, until the end. -/
  records : GoString → List (Option (List GoString))
  /-- The screening of a field for line breaks, formulas and credentials. -/
  unsafeField : GoString → Bool
  /-- Valid UTF-8 without surrounding space, control or format characters. -/
  safeText : GoString → Bool

/-- `io.ReadAll(io.LimitReader(reader, limit))` -/
def Reader.readAll (reader : Reader) (limit : Nat) : Option GoString :=
  if limit ≤ reader.bytes.length then some (reader.bytes.take limit)
  else if reader.fails then none
  else some reader.bytes

def Kind.all : List Kind :=
  [.service, .linuxVM, .windowsVM, .bareMetalHost, .kubernetesCluster, .kubernetesNamespace, .kubernetesWorkload,
    .databaseInstance, .database, .metricsSource, .logSource, .traceSource, .awxInventory, .argoApplication,
    .ciPipeline, .gitRepository, .cloudResource]

def Kind.ofText (value : GoString) : Option Kind := Kind.all.find? (fun kind => kind.text == value)

def RelationshipType.all : List RelationshipType :=
  [.runsOn, .contains, .dependsOn, .monitoredBy, .logsTo, .tracesTo, .deliveredBy, .managedBy, .primaryRuntimeFor]

def RelationshipType.ofText (value : GoString) : Option RelationshipType :=
  RelationshipType.all.find? (fun type => type.text == value)

/-- `^[1-9][0-9]*$` -/
def canonicalVersion (value : GoString) : Bool := matchesHeadTail (fun b => isDigit b && b != 48) isDigit value

def maxInt64 : Int := 9223372036854775807

/-- `strconv.ParseInt` of decimal digits; `none` is the range error. -/
def parseInt (value : GoString) : Option Int :=
  let number : Nat := value.foldl (fun total b => total * 10 + (b.toNat - 48)) 0
  if (number : Int) ≤ maxInt64 then some number else none

def emptyDocument : GoString := [123, 125]

def framedDigestV1 (fields : List GoString) : GoString := sha256Hex (encodeFrames (fields.map some))

def validTombstoneReason (value : GoString) : Bool :=
  value == ascii "PROVIDER_DELETED" || value == ascii "PROVIDER_REMOVED" || value == ascii "SOURCE_DELETED"

def provenance (fieldCode : FieldCode) (pathCode : String) : FieldProvenance where
  fieldCode := fieldCode
  providerPathCode := ascii pathCode
  ownership := .source
  confidence := 100

def itemProvenance : List FieldProvenance :=
  [provenance .displayName "CSV_V1_DISPLAY_NAME_COLUMN", provenance .environmentID "CSV_V1_ENVIRONMENT_ID_COLUMN",
    provenance .externalID "CSV_V1_EXTERNAL_ID_COLUMN", provenance .kind "CSV_V1_KIND_COLUMN",
    provenance .providerKind "CSV_V1_PROVIDER_KIND_COLUMN", provenance .typeDetails "CSV_V1_TYPE_DETAILS_EMPTY"]

def tombstoneProvenance : List FieldProvenance :=
  [provenance .environmentID "CSV_V1_ENVIRONMENT_ID_COLUMN", provenance .externalID "CSV_V1_EXTERNAL_ID_COLUMN",
    provenance .providerKind "CSV_V1_PROVIDER_KIND_COLUMN"]

def normalizeLimits (limits : Limits) : Except ParseError Limits := do
  let effective : Limits := {
    maxRowsPerPage := if limits.maxRowsPerPage = 0 then maxRowsPerPage else limits.maxRowsPerPage
    maxBytes := if limits.maxBytes = 0 then maxFileBytes else limits.maxBytes
    authorityEnvironmentIDs := limits.authorityEnvironmentIDs }
  require (1 ≤ effective.maxRowsPerPage ∧ effective.maxRowsPerPage ≤ maxRowsPerPage ∧ 1 ≤ effective.maxBytes ∧
    effective.maxBytes ≤ maxFileBytes ∧ effective.authorityEnvironmentIDs ≠ [] ∧
    effective.authorityEnvironmentIDs.length ≤ 100) .limitExceeded
  require (∀ pair ∈ effective.authorityEnvironmentIDs.zip effective.authorityEnvironmentIDs.tail,
    textLess pair.2 pair.1 = false) .authorityMismatch
  require ((∀ environmentID ∈ effective.authorityEnvironmentIDs, matchesUUID environmentID) ∧
    effective.authorityEnvironmentIDs.Nodup) .authorityMismatch
  return effective

section Rows

variable (library : Library)

def validSafeText (value : GoString) (minimum maximum : Nat) : Bool :=
  minimum ≤ value.length && value.length ≤ maximum && library.safeText value

def validateField (field : GoString) : Except ParseError Unit := do
  require (field.length ≤ maxFieldBytes) .limitExceeded
  require (utf8Valid field) .invalidEncoding
  require (library.unsafeField field = false) .unsafeField

def validateRecordFields (record : List GoString) : Except ParseError Unit := do
  require (record.length = 11) .invalidSchema
  record.forM (validateField library)

def parseRelation (authority : List GoString) (environmentID externalID versionText : GoString) (objectVersion : Int)
    (relationType targetEnvironmentID targetExternalID : GoString) : Except ParseError (Option ObservedRelation) := do
  if [relationType, targetEnvironmentID, targetExternalID].all (· == []) then return none
  require (relationType ≠ [] ∧ targetEnvironmentID ≠ [] ∧ targetExternalID ≠ []) .invalidRelation
  let type ← orFail (RelationshipType.ofText relationType) .invalidRelation
  require (matchesUUID targetEnvironmentID ∧ validSafeText library targetExternalID 1 maxFieldBytes) .invalidRelation
  require (targetEnvironmentID ∈ authority) .authorityMismatch
  require (targetEnvironmentID = environmentID ∧ targetExternalID ≠ externalID) .invalidRelation
  return some {
    sourceEnvironmentID := environmentID
    targetEnvironmentID := targetEnvironmentID
    fromExternalID := externalID
    toExternalID := targetExternalID
    type := type
    providerPathCode := ascii "CSV_V1_RELATION_COLUMNS"
    crossEnvironmentPolicyReferenceID := []
    confidence := 100
    freshness := {
      kind := .objectSequence
      orderTime := none
      orderSequence := objectVersion
      providerVersionSHA256 := framedDigestV1
        [ascii "csv-relation-version.v1", versionText, relationType, targetEnvironmentID, targetExternalID] } }

def parseColumns (authority : List GoString) (environmentID providerKind externalID kindText displayName versionText
    deletedText tombstoneReason relationType targetEnvironmentID targetExternalID : GoString) :
    Except ParseError ParsedRecord := do
  require (matchesUUID environmentID) .invalidField
  require (environmentID ∈ authority) .authorityMismatch
  require (matchesCode 63 providerKind ∧ providerKind = schemaVersion ∧
    validSafeText library externalID 1 maxFieldBytes ∧ canonicalVersion versionText) .invalidField
  let objectVersion ← orFail (parseInt versionText) .invalidField
  require (0 < objectVersion) .invalidField
  require (deletedText = ascii "true" ∨ deletedText = ascii "false") .invalidField
  let freshness : FreshnessCandidate := {
    kind := .objectSequence
    orderTime := none
    orderSequence := objectVersion
    providerVersionSHA256 := framedDigestV1 [ascii "csv-object-version.v1", versionText] }
  if deletedText = ascii "true" then
    require (displayName = [] ∧ relationType = [] ∧ targetEnvironmentID = [] ∧ targetExternalID = []) .invalidTombstone
    require (kindText = [] ∨ (Kind.ofText kindText).isSome) .invalidField
    require (validTombstoneReason tombstoneReason) .invalidTombstone
    return {
      item := {
        environmentID := environmentID
        providerKind := providerKind
        externalID := externalID
        kind := none
        displayName := []
        schemaVersion := schemaVersion
        document := []
        documentSHA256 := []
        freshness := freshness
        fieldProvenance := tombstoneProvenance
        tombstone := true
        tombstoneReason := tombstoneReason
        fingerprints := ∅ }
      relation := none }
  else
    let kind ← orFail (Kind.ofText kindText) .invalidField
    require (validSafeText library displayName 1 256 ∧ tombstoneReason = []) .invalidField
    let relation ← parseRelation library authority environmentID externalID versionText objectVersion relationType
      targetEnvironmentID targetExternalID
    return {
      item := {
        environmentID := environmentID
        providerKind := providerKind
        externalID := externalID
        kind := some kind
        displayName := displayName
        schemaVersion := schemaVersion
        document := emptyDocument
        documentSHA256 := sha256Hex emptyDocument
        freshness := freshness
        fieldProvenance := itemProvenance
        tombstone := false
        tombstoneReason := []
        fingerprints := ∅ }
      relation := relation }

def parseRecord (authority : List GoString) (record : List GoString) : Except ParseError ParsedRecord :=
  match record with
  | [environmentID, providerKind, externalID, kindText, displayName, versionText, deletedText, tombstoneReason,
      relationType, targetEnvironmentID, targetExternalID] =>
    parseColumns library authority environmentID providerKind externalID kindText displayName versionText deletedText
      tombstoneReason relationType targetEnvironmentID targetExternalID
  -- `validateRecordFields` has counted the columns.
  | _ => .error .invalidSchema

end Rows

def ParsedRecord.identity (parsed : ParsedRecord) : GoString := joinZero parsed.item.providerKind parsed.item.externalID

structure Scan where
  totalRows : Int
  seen : List GoString
  items : List NormalizedItem
  relations : List ObservedRelation

def Scan.empty : Scan where
  totalRows := 0
  seen := []
  items := []
  relations := []

def scanRecord (library : Library) (effective : Limits) (startRow : Int) (scan : Scan)
    (read : Option (List GoString)) : Except ParseError Scan := do
  let record ← orFail read .invalidSchema
  let totalRows := scan.totalRows + 1
  require (totalRows ≤ maxRows) .limitExceeded
  validateRecordFields library record
  let parsed ← parseRecord library effective.authorityEnvironmentIDs record
  require (parsed.identity ∉ scan.seen) .duplicateObject
  let scan := { scan with totalRows := totalRows, seen := parsed.identity :: scan.seen }
  if totalRows < startRow ∨ startRow + effective.maxRowsPerPage ≤ totalRows then return scan
  else return { scan with
    items := scan.items ++ [parsed.item]
    relations := scan.relations ++ parsed.relation.toList }

def validCheckpointRow (rowNumber totalRows pageSize : Int) : Bool :=
  if rowNumber < 1 ∨ rowNumber > totalRows + 1 then false
  else if totalRows = 0 then rowNumber = 1
  else if rowNumber = 1 then false
  else rowNumber = totalRows + 1 ∨ (rowNumber - 1) % pageSize = 0

def readPayload (reader : Reader) (checkpoint : Option Checkpoint) (effective : Limits) :
    Except ParseError (GoString × GoString) := do
  let payload ← orFail (reader.readAll (effective.maxBytes + 1).toNat) .readFailure
  require ((payload.length : Int) ≤ effective.maxBytes) .limitExceeded
  require (utf8Valid payload) .invalidEncoding
  let fileSHA256 := sha256Hex payload
  require (∀ resumed ∈ checkpoint, resumed.fileSHA256 = fileSHA256) .checkpointMismatch
  let csvPayload := trimBytes utf8BOM payload
  require (containsBytes utf8BOM csvPayload = false) .invalidEncoding
  return (csvPayload, fileSHA256)

/-- `parse`, with the checkpoint of `Resume` and none for `Parse`; a nil reader is `none`. -/
def parse (library : Library) (reader : Option Reader) (checkpoint : Option Checkpoint) (limits : Limits) :
    Except ParseError Page := do
  let effective ← normalizeLimits limits
  let reader ← orFail reader .readFailure
  require (∀ resumed ∈ checkpoint, matchesHex 64 resumed.fileSHA256 ∧ resumed.schemaVersion = schemaVersion ∧
    1 ≤ resumed.rowNumber ∧ resumed.rowNumber ≤ maxRows + 1) .checkpointMismatch
  let (csvPayload, fileSHA256) ← readPayload reader checkpoint effective
  match library.records csvPayload with
  | some first :: reads =>
    require (first = header) .invalidSchema
    let startRow := (checkpoint.map (·.rowNumber)).getD 1
    let scan ← reads.foldlM (scanRecord library effective startRow) Scan.empty
    require (checkpoint = none ∨ validCheckpointRow startRow scan.totalRows effective.maxRowsPerPage) .checkpointMismatch
    let nextRow := startRow + scan.items.length
    return {
      items := scan.items
      relations := scan.relations
      next := { fileSHA256 := fileSHA256, schemaVersion := schemaVersion, rowNumber := nextRow }
      finalPage := scan.totalRows < nextRow }
  | _ => .error .invalidSchema

end AiopsSystem.CsvImport
