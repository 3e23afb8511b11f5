import AiopsSystem.AssetCatalog.ValidFacts
import AiopsSystem.CsvImport.Parser

/-! # Discovery from an external CMDB

`Discover` of the CMDB catalog provider: a call reads one page of assets or of
relations at the position of its checkpoint, normalizes the entries and hands
out the page with the checkpoint of the next call. The HTTP client answers
anything; the screening of texts is a parameter.
-/

namespace AiopsSystem.ExternalCmdb

open Go AssetCatalog

structure CatalogAsset where
  externalID : GoString
  typeCode : GoString
  displayName : GoString
  objectRevision : Int
  updatedAt : Int
  deleted : Bool
  tombstoneReason : GoString
  /-- `none` is the nil map. -/
  attributes : Option TextMap

structure CatalogRelation where
  externalID : GoString
  fromExternalID : GoString
  toExternalID : GoString
  typeCode : GoString
  objectRevision : Int
  updatedAt : Int
  deleted : Bool

structure CatalogPage (α : Type) where
  items : List α
  nextCursor : GoString
  snapshotEpoch : GoString
  finalPage : Bool
  completeSnapshot : Bool

structure CatalogCapabilities where
  protocolVersion : GoString
  authorityID : GoString
  snapshotEpoch : GoString
  maxPageSize : Int
  supportsDelta : Bool
  supportsTombstone : Bool
  serverTime : Int
  permissions : List GoString

inductive CmdbPhase where
  | capabilities | assets | relations | complete
deriving DecidableEq

structure OrderPosition where
  updatedAt : Int
  externalID : GoString
  replaySHA : GoString
deriving DecidableEq

structure CmdbCheckpoint where
  phase : CmdbPhase
  authorityID : GoString := []
  snapshotEpoch : GoString := []
  environmentID : GoString := []
  assetCursor : GoString := []
  relationCursor : GoString := []
  assetLast : Option OrderPosition := none
  relationLast : Option OrderPosition := none
  assetsComplete : Bool := false
deriving DecidableEq

/-- The codes of `providerError`, `normalizationError` and `providerContractError`. -/
inductive Rejection where
  | authorityRejected | schemaRejected | dlpRejected | freshnessRejected | typeCodeRejected | attributeCodeRejected
  | documentLimitRejected | factContractRejected | relationSchemaRejected | relationTypeRejected | relationFactRejected
  | invalidDiscoverRequest | invalidLimits | invalidDiscoverCheckpoint | discoverBindingRejected | checkpointRejected
  | checkpointAuthorityRejected | capabilitiesFailed | capabilitiesRejected | assetCursorRejected | assetPageFailed
  | relationCursorRejected | relationPageFailed | pageEnvelopeRejected | pageCursorRejected | assetOrderRejected
  | relationOrderRejected | pageOrderRegression | pageReplayChanged | pageDuplicateRejected | emptyAssetPageRejected
  | assetNormalizationRejected | relationNormalizationRejected | snapshotCompletionRejected
  | emptyRelationPageRejected | emptyIncrementalFinalRejected | checkpointIdentityRejected
  | checkpointAssetCursorRejected | checkpointRelationCursorRejected | checkpointAssetPhaseRejected
  | checkpointRelationPhaseRejected | checkpointCompletePhaseRejected | checkpointPhaseRejected | checkpointFieldLimit
  | checkpointLimitRejected | checkpointCanonicalRejected | checkpointDigestRejected | checkpointDomainRejected
  | checkpointFrameRejected | checkpointTrailingBytes | checkpointBoolRejected | checkpointOrderRejected
  | checkpointNoncanonical | pagePolicyAuthorityRejected | pagePolicyRejected | pageLimitExceeded
  | documentLimitExceeded | invalidPageCompletion | invalidNextCheckpoint | invalidPageFacts | pageByteLimitExceeded
  | providerRetryAfterRejected | contextEnded
deriving DecidableEq

structure Library where
  screening : Screening
  /-- Valid UTF-8 without control characters and line separators. -/
  plainText : GoString → Bool
  /-- Credentials, executable text and endpoints. -/
  unsafeCatalogText : GoString → Bool
  sensitiveName : GoString → Bool
  /-- The names `json.Unmarshal` finds in a document. -/
  documentFields : GoString → Option (List GoString)
  /-- `time.Parse(time.RFC3339Nano, value)` of a value that matches `wireTimestampPattern`. -/
  parseWireTime : GoString → Option Int

def providerKind : GoString := ascii "CMDB_CATALOG_V1"

def profileCode : GoString := ascii "CMDB_CATALOG_V1"

def digestFramedTuple (fields : List GoString) : GoString := CsvImport.framedDigestV1 fields

/-- `newCatalogCursor(value)` succeeds. -/
def validCursor (value : GoString) : Bool :=
  value.length ≤ 2048 && value.all fun b => isAlphanumeric b || (ascii "._~+/=-").contains b

def normalizedFreshnessTime (value : Int) (rejection : Rejection) : Except Rejection Int := do
  require (unixEpoch ≤ value ∧ value < unixEpoch + 253402300800 * second ∧ value % microsecond = 0) rejection
  pure value

def wireTime (value : Int) : GoString := Json.formatTime ⟨value, 0⟩

def formatBool (value : Bool) : GoString := if value then ascii "true" else ascii "false"

section Normalization

variable (library : Library)

def safeText (value : GoString) (minimum maximum : Nat) : Bool :=
  minimum ≤ value.length && value.length ≤ maximum && library.plainText value

def safeIdentifier (value : GoString) : Bool :=
  value.length ≤ 128 &&
    matchesHeadTail isAlphanumeric (fun b => isAlphanumeric b || (ascii "_.:/-").contains b) value &&
    !library.unsafeCatalogText value

def allowedAttributeCode (code : GoString) : Bool :=
  ["architecture", "cluster_name", "cpu_count", "database_engine", "hostname", "memory_mb", "name", "os_name",
    "os_version", "region", "resource_class", "runtime", "version", "zone"].any fun name => code == ascii name

/-- One attribute of the schema check, with the bytes of the document so far. -/
def validateAttribute (maxDocumentBytes : Int) (documentBytes : Int) (entry : GoString × GoString) :
    Except Rejection Int := do
  require (safeText library entry.1 1 64 ∧ safeText library entry.2 0 1024 ∧ allowedAttributeCode entry.1)
    .schemaRejected
  require (¬ (library.sensitiveName entry.1 ∨ library.unsafeCatalogText entry.1 ∨ library.unsafeCatalogText entry.2))
    .dlpRejected
  let total := documentBytes + (entry.1.length + entry.2.length + 6)
  require (total ≤ maxDocumentBytes) .schemaRejected
  pure total

def validateCatalogAssetSchema (asset : CatalogAsset) (maxDocumentBytes : Int) : Except Rejection Unit := do
  require (safeText library asset.externalID 1 512 ∧ 0 < asset.objectRevision ∧ asset.updatedAt ≠ 0) .schemaRejected
  let attributes ← orFail asset.attributes .schemaRejected
  require (attributes.entries.length ≤ 64 ∧ 0 < maxDocumentBytes) .schemaRejected
  require (¬ [asset.externalID, asset.displayName, asset.typeCode, asset.tombstoneReason].any library.unsafeCatalogText)
    .dlpRejected
  if asset.deleted then
    require (safeText library asset.typeCode 0 64 ∧ safeText library asset.displayName 0 256 ∧
      matchesCode 127 asset.tombstoneReason) .schemaRejected
    require (asset.typeCode = [] ∨ (CsvImport.Kind.ofText asset.typeCode).isSome) .schemaRejected
  else
    require (asset.tombstoneReason = [] ∧ safeText library asset.typeCode 1 64 ∧
      safeText library asset.displayName 1 256) .schemaRejected
  let _ ← attributes.entries.foldlM (validateAttribute library maxDocumentBytes) 2

def normalizedFactPolicy (environmentID : GoString) : FactPolicy where
  providerKind := providerKind
  freshnessKind := .objectTimeSequence
  environmentMapping := .single
  authorityEnvironmentIDs := [environmentID]
  trustedPathCodes := ["CMDB_V1_DISPLAY_NAME", "CMDB_V1_ENVIRONMENT_ID", "CMDB_V1_EXTERNAL_ID", "CMDB_V1_KIND",
    "CMDB_V1_PROVIDER_KIND", "CMDB_V1_RELATION", "CMDB_V1_TYPE_DETAILS"].map ascii
  relationshipTypes := []
  allowedDocumentFields := []

open CsvImport (provenance) in
def liveAssetProvenance : List FieldProvenance :=
  [provenance .displayName "CMDB_V1_DISPLAY_NAME", provenance .environmentID "CMDB_V1_ENVIRONMENT_ID",
    provenance .externalID "CMDB_V1_EXTERNAL_ID", provenance .kind "CMDB_V1_KIND",
    provenance .providerKind "CMDB_V1_PROVIDER_KIND", provenance .typeDetails "CMDB_V1_TYPE_DETAILS"]

open CsvImport (provenance) in
def tombstoneProvenance : List FieldProvenance :=
  [provenance .environmentID "CMDB_V1_ENVIRONMENT_ID", provenance .externalID "CMDB_V1_EXTERNAL_ID",
    provenance .providerKind "CMDB_V1_PROVIDER_KIND"]

/-- A JSON string without the escaping of HTML characters. -/
def quoteText (value : GoString) : GoString :=
  34 :: ((decodeRunes value).flatMap (fun rune =>
    if rune = 60 ∨ rune = 62 ∨ rune = 38 then Json.encodeRune rune else Json.escapeRune rune) ++ [34])

def canonicalAttributesDocument (attributes : TextMap) : Except Rejection GoString := do
  let document := 123 :: (joinByte 44 (attributes.entries.map fun entry =>
    quoteText entry.1 ++ 58 :: quoteText entry.2) ++ [125])
  require (document.length ≤ 65536) .documentLimitRejected
  pure document

def normalizeAttributes (attributes : TextMap) : Except Rejection (List GoString) :=
  attributes.entries.mapM fun entry => do
    require (allowedAttributeCode entry.1) .attributeCodeRejected
    require (¬ library.unsafeCatalogText entry.2) .dlpRejected
    pure entry.1

def objectFreshness (domain : String) (orderTime objectRevision : Int) : FreshnessCandidate where
  kind := .objectTimeSequence
  orderTime := some orderTime
  orderSequence := objectRevision
  providerVersionSHA256 := digestFramedTuple [ascii domain, formatInt objectRevision]

/-- The facts of one entry under the policy of the provider and what the entry itself allows. -/
def validateEntryFacts (items : List NormalizedItem) (relations : List ObservedRelation) (policy : FactPolicy)
    (rejection : Rejection) : Except Rejection Unit :=
  (validateFacts library.screening items relations policy).mapError fun _ => rejection

def tombstoneItem (environmentID : GoString) (asset : CatalogAsset) (freshness : FreshnessCandidate) :
    NormalizedItem where
  environmentID := environmentID
  providerKind := providerKind
  externalID := asset.externalID
  kind := none
  displayName := []
  schemaVersion := []
  document := []
  documentSHA256 := []
  freshness := freshness
  fieldProvenance := tombstoneProvenance
  tombstone := true
  tombstoneReason := asset.tombstoneReason
  fingerprints := ∅

def liveItem (environmentID : GoString) (asset : CatalogAsset) (freshness : FreshnessCandidate) (kind : Kind)
    (document : GoString) : NormalizedItem where
  environmentID := environmentID
  providerKind := providerKind
  externalID := asset.externalID
  kind := some kind
  displayName := asset.displayName
  schemaVersion := ascii "CMDB_CATALOG_V1"
  document := document
  documentSHA256 := sha256Hex document
  freshness := freshness
  fieldProvenance := liveAssetProvenance
  tombstone := false
  tombstoneReason := []
  fingerprints := ⟨[(ascii "provider_instance_id", asset.externalID)], List.pairwise_singleton _ _⟩

def normalizeAsset (environmentID : GoString) (asset : CatalogAsset) : Except Rejection NormalizedItem := do
  require (matchesUUID environmentID) .authorityRejected
  validateCatalogAssetSchema library asset 65536
  let orderTime ← normalizedFreshnessTime asset.updatedAt .freshnessRejected
  let freshness := objectFreshness "cmdb-object-version.v1" orderTime asset.objectRevision
  if asset.deleted then
    let item := tombstoneItem environmentID asset freshness
    validateEntryFacts library [item] [] (normalizedFactPolicy environmentID) .factContractRejected
    pure item
  else
    let kind ← orFail (CsvImport.Kind.ofText asset.typeCode) .typeCodeRejected
    let attributes := asset.attributes.getD ∅
    let codes ← normalizeAttributes library attributes
    let document ← canonicalAttributesDocument attributes
    let item := liveItem environmentID asset freshness kind document
    let policy := { normalizedFactPolicy environmentID with allowedDocumentFields := [(kind, codes)] }
    validateEntryFacts library [item] [] policy .factContractRejected
    pure item

def normalizeRelation (environmentID : GoString) (relation : CatalogRelation) : Except Rejection ObservedRelation := do
  require (matchesUUID environmentID ∧ safeText library relation.externalID 1 512 ∧
    safeText library relation.fromExternalID 1 512 ∧ safeText library relation.toExternalID 1 512 ∧
    relation.fromExternalID ≠ relation.toExternalID ∧ 0 < relation.objectRevision ∧ relation.deleted = false)
    .relationSchemaRejected
  require (¬ [relation.externalID, relation.fromExternalID, relation.toExternalID].any library.unsafeCatalogText)
    .dlpRejected
  let type ← orFail (CsvImport.RelationshipType.ofText relation.typeCode) .relationTypeRejected
  let orderTime ← normalizedFreshnessTime relation.updatedAt .freshnessRejected
  let normalized : ObservedRelation := {
    sourceEnvironmentID := environmentID
    targetEnvironmentID := environmentID
    fromExternalID := relation.fromExternalID
    toExternalID := relation.toExternalID
    type := type
    providerPathCode := ascii "CMDB_V1_RELATION"
    crossEnvironmentPolicyReferenceID := []
    confidence := 100
    freshness := objectFreshness "cmdb-relation-version.v1" orderTime relation.objectRevision }
  validateEntryFacts library [] [normalized] { normalizedFactPolicy environmentID with relationshipTypes := [type] }
    .relationFactRejected
  pure normalized

end Normalization

section Order

def assetOrderPosition (asset : CatalogAsset) : Except Rejection OrderPosition := do
  let updatedAt ← normalizedFreshnessTime asset.updatedAt .assetOrderRejected
  pure ⟨updatedAt, asset.externalID, digestFramedTuple ([ascii "cmdb-asset-replay.v1", asset.externalID, asset.typeCode,
    asset.displayName, formatInt asset.objectRevision, wireTime updatedAt, formatBool asset.deleted,
    asset.tombstoneReason] ++ (asset.attributes.getD ∅).entries.flatMap fun entry => [entry.1, entry.2])⟩

def relationOrderPosition (library : Library) (relation : CatalogRelation) : Except Rejection OrderPosition := do
  require (safeText library relation.externalID 1 512 ∧ ¬ library.unsafeCatalogText relation.externalID ∧
    0 < relation.objectRevision ∧ relation.deleted = false) .relationSchemaRejected
  let updatedAt ← normalizedFreshnessTime relation.updatedAt .relationOrderRejected
  pure ⟨updatedAt, relation.externalID, digestFramedTuple [ascii "cmdb-relation-replay.v1", relation.externalID,
    relation.fromExternalID, relation.toExternalID, relation.typeCode, formatInt relation.objectRevision,
    wireTime updatedAt, formatBool relation.deleted]⟩

def compareText (left right : GoString) : Ordering :=
  if textLess left right then .lt else if left = right then .eq else .gt

def validateOrderPosition (previous : Option OrderPosition) (current : OrderPosition) (boundaryReplay : Bool) :
    Except Rejection Unit := do
  let some previous := previous | pure ()
  match (compare current.updatedAt previous.updatedAt).then (compareText current.externalID previous.externalID) with
  | .lt => .error .pageOrderRegression
  | .gt => pure ()
  | .eq =>
    require (current.replaySHA = previous.replaySHA) .pageReplayChanged
    require (boundaryReplay = true) .pageDuplicateRejected

/-- The loop over the entries of a page; only the first entry may replay the last one of the page before. -/
def acceptEntries {α β : Type} (position : α → Except Rejection OrderPosition) (normalize : α → Except Rejection β) :
    Bool → Option OrderPosition → List α → Except Rejection (Option OrderPosition × List β)
  | _, last, [] => pure (last, [])
  | boundaryReplay, last, raw :: rest => do
    let current ← position raw
    validateOrderPosition last current boundaryReplay
    let fact ← normalize raw
    let (final, facts) ← acceptEntries position normalize false (some current) rest
    pure (final, fact :: facts)

end Order

section Pages

variable (library : Library)

def validateCatalogPageEnvelope {α : Type} (page : CatalogPage α) (expectedSnapshotEpoch currentCursor : GoString) :
    Except Rejection Unit := do
  require (safeIdentifier library page.snapshotEpoch ∧ page.snapshotEpoch = expectedSnapshotEpoch ∧
    (page.completeSnapshot → page.finalPage) ∧ (page.finalPage ↔ page.nextCursor = []) ∧
    (page.finalPage ∨ page.nextCursor ≠ currentCursor)) .pageEnvelopeRejected
  require (validCursor page.nextCursor) .pageCursorRejected

def validateCMDBCheckpoint (checkpoint : CmdbCheckpoint) : Except Rejection Unit := do
  require (safeIdentifier library checkpoint.authorityID ∧ safeIdentifier library checkpoint.snapshotEpoch ∧
    matchesUUID checkpoint.environmentID) .checkpointIdentityRejected
  require (validCursor checkpoint.assetCursor) .checkpointAssetCursorRejected
  require (validCursor checkpoint.relationCursor) .checkpointRelationCursorRejected
  match checkpoint.phase with
  | .assets =>
    require (checkpoint.assetCursor ≠ [] ∧ checkpoint.assetLast.isSome ∧ checkpoint.relationCursor = [] ∧
      checkpoint.relationLast.isNone ∧ checkpoint.assetsComplete = false) .checkpointAssetPhaseRejected
  | .relations =>
    require (checkpoint.assetCursor = [] ∧ (checkpoint.relationCursor = [] ↔ checkpoint.relationLast.isNone))
      .checkpointRelationPhaseRejected
  | .complete => require (checkpoint.assetCursor = [] ∧ checkpoint.relationCursor = []) .checkpointCompletePhaseRejected
  | .capabilities => .error .checkpointPhaseRejected

def CmdbPhase.text : CmdbPhase → GoString
  | .capabilities => ascii "CAPABILITIES"
  | .assets => ascii "ASSETS"
  | .relations => ascii "RELATIONS"
  | .complete => ascii "COMPLETE"

def encodeOrderPosition : Option OrderPosition → List GoString
  | none => [[], [], []]
  | some position => [wireTime position.updatedAt, position.externalID, position.replaySHA]

def cmdbCheckpointDomain : GoString := ascii "cmdb-catalog-checkpoint.v1"

def encodeCMDBCheckpoint (checkpoint : CmdbCheckpoint) : Except Rejection GoString := do
  let fields := [checkpoint.phase.text, checkpoint.authorityID, checkpoint.snapshotEpoch, checkpoint.environmentID,
    checkpoint.assetCursor, checkpoint.relationCursor] ++ encodeOrderPosition checkpoint.assetLast ++
    encodeOrderPosition checkpoint.relationLast ++ [formatBool checkpoint.assetsComplete]
  require (fields.all (·.length < 4294967296)) .checkpointFieldLimit
  let payload := cmdbCheckpointDomain ++ fields.flatMap fun field => bigEndian32 field.length ++ field
  let encoded := payload ++ (hexDecode (sha256Hex payload)).getD []
  require (encoded.length ≤ 65507) .checkpointLimitRejected
  pure encoded

def newCMDBCheckpoint (checkpoint : CmdbCheckpoint) : Except Rejection Checkpoint := do
  validateCMDBCheckpoint library checkpoint
  let canonical ← encodeCMDBCheckpoint checkpoint
  pure ⟨profileCode, canonical⟩

/-- The next field of a checkpoint and the bytes behind it. -/
def readCMDBCheckpointFrame : GoString → Except Rejection (GoString × GoString)
  | b0 :: b1 :: b2 :: b3 :: rest => do
    let length := ((b0.toNat * 256 + b1.toNat) * 256 + b2.toNat) * 256 + b3.toNat
    require (length ≤ rest.length ∧ utf8Valid (rest.take length)) .checkpointFrameRejected
    pure (rest.take length, rest.drop length)
  | _ => .error .checkpointFrameRejected

def readCMDBCheckpointFrames : Nat → GoString → Except Rejection (List GoString × GoString)
  | 0, reader => pure ([], reader)
  | count + 1, reader => do
    let (field, rest) ← readCMDBCheckpointFrame reader
    let (fields, rest) ← readCMDBCheckpointFrames count rest
    pure (field :: fields, rest)

def parseCheckpointBool (value : GoString) : Except Rejection Bool :=
  if value = ascii "false" then pure false
  else if value = ascii "true" then pure true
  else .error .checkpointBoolRejected

def decodeOrderPosition (encodedTime externalID replaySHA : GoString) : Except Rejection (Option OrderPosition) :=
  if encodedTime = [] ∧ externalID = [] ∧ replaySHA = [] then pure none
  else do
    let parsed ← orFail (library.parseWireTime encodedTime) .checkpointOrderRejected
    require (safeText library externalID 1 512 ∧ ¬ library.unsafeCatalogText externalID ∧ matchesHex 64 replaySHA)
      .checkpointOrderRejected
    let updatedAt ← normalizedFreshnessTime parsed .checkpointOrderRejected
    pure (some ⟨updatedAt, externalID, replaySHA⟩)

/-- The fields of a checkpoint in the order in which `encodeCMDBCheckpoint` writes them. -/
def checkpointOfFields : List GoString → Except Rejection CmdbCheckpoint
  | [phase, authorityID, snapshotEpoch, environmentID, assetCursor, relationCursor, assetTime, assetID, assetSHA,
      relationTime, relationID, relationSHA, complete] => do
    let assetsComplete ← parseCheckpointBool complete
    let assetLast ← decodeOrderPosition library assetTime assetID assetSHA
    let relationLast ← decodeOrderPosition library relationTime relationID relationSHA
    let phase ← orFail ([CmdbPhase.capabilities, .assets, .relations, .complete].find? fun known => known.text == phase)
      .checkpointPhaseRejected
    pure ⟨phase, authorityID, snapshotEpoch, environmentID, assetCursor, relationCursor, assetLast, relationLast,
      assetsComplete⟩
  | _ => .error .checkpointFrameRejected

def decodeCMDBCanonical (canonical : GoString) : Except Rejection CmdbCheckpoint :=
  if canonical = [] then pure { phase := .capabilities }
  else do
    require (32 < canonical.length) .checkpointCanonicalRejected
    let payload := canonical.take (canonical.length - 32)
    require (hexDecode (sha256Hex payload) = some (canonical.drop (canonical.length - 32))) .checkpointDigestRejected
    require (payload.take cmdbCheckpointDomain.length = cmdbCheckpointDomain) .checkpointDomainRejected
    let (fields, rest) ← readCMDBCheckpointFrames 13 (payload.drop cmdbCheckpointDomain.length)
    require (rest = []) .checkpointTrailingBytes
    let checkpoint ← checkpointOfFields library fields
    validateCMDBCheckpoint library checkpoint
    let reencoded ← encodeCMDBCheckpoint checkpoint
    require (reencoded = canonical) .checkpointNoncanonical
    pure checkpoint

structure Limits where
  maxPageItems : Int
  maxPageRelations : Int
  maxPageBytes : Int
  maxDocumentBytes : Int

/-- The policy of a page: its own kinds with the fields of their documents, and its own relationship types. -/
def discoverPagePolicy (page : Page) (environmentID : GoString) : Except Rejection FactPolicy := do
  require (matchesUUID environmentID) .pagePolicyAuthorityRejected
  require (page.items.head?.all (·.environmentID == environmentID)) .pagePolicyAuthorityRejected
  require (page.items ≠ [] ∨ page.relations.head?.all (·.sourceEnvironmentID == environmentID))
    .pagePolicyAuthorityRejected
  let live := page.items.filter (·.tombstone == false)
  let named ← live.mapM fun item => do
    let fields ← orFail (library.documentFields item.document) .pagePolicyRejected
    pure (item.kind, fields)
  let ofKind (kind : Kind) := named.filter (·.1 == some kind)
  pure { normalizedFactPolicy environmentID with
    allowedDocumentFields := (CsvImport.Kind.all.filter fun kind => !(ofKind kind).isEmpty).map fun kind =>
      (kind, GoMap.sortSlice textLess ((ofKind kind).flatMap Prod.snd).dedup)
    relationshipTypes := GoMap.sortSlice (fun left right => textLess left.text right.text)
      (page.relations.map ObservedRelation.type).dedup }

def framedBytes (values : List GoString) : Nat := (values.map fun value => value.length + 5).sum

def itemBytes (item : NormalizedItem) : Nat :=
  framedBytes [item.environmentID, item.providerKind, item.externalID, (item.kind.map Kind.text).getD [],
      item.displayName, item.schemaVersion, item.documentSHA256, item.freshness.kind.text,
      item.freshness.providerVersionSHA256, item.tombstoneReason, item.document] + 64 +
    (item.fieldProvenance.map fun value =>
      framedBytes [value.fieldCode.text, value.providerPathCode, value.ownership.text] + 8).sum +
    (item.fingerprints.entries.map fun entry => framedBytes [entry.1, entry.2]).sum

def relationBytes (relation : ObservedRelation) : Nat :=
  framedBytes [relation.sourceEnvironmentID, relation.targetEnvironmentID, relation.fromExternalID,
    relation.toExternalID, relation.type.text, relation.providerPathCode, relation.crossEnvironmentPolicyReferenceID,
    relation.freshness.kind.text, relation.freshness.providerVersionSHA256] + 32

def pageSemanticBytes (page : Page) : Nat :=
  32 + (page.items.map itemBytes).sum + (page.relations.map relationBytes).sum +
    framedBytes [page.nextCheckpoint.canonical]

def validatePage (limits : Limits) (requestedProfile : GoString) (policy : FactPolicy) (page : Page) :
    Except Rejection Unit := do
  require ((page.items.length : Int) ≤ limits.maxPageItems ∧ (page.relations.length : Int) ≤ limits.maxPageRelations)
    .pageLimitExceeded
  require (page.items.all fun item => (item.document.length : Int) ≤ limits.maxDocumentBytes) .documentLimitExceeded
  require ((page.completeSnapshot → page.finalPage) ∧
    (page.items = [] ∧ page.relations = [] → page.finalPage ∧ page.completeSnapshot)) .invalidPageCompletion
  require (page.nextCheckpoint.profileCode ≠ [] ∧ page.nextCheckpoint.profileCode = requestedProfile)
    .invalidNextCheckpoint
  validateEntryFacts library page.items page.relations policy .invalidPageFacts
  require ((pageSemanticBytes page : Int) ≤ limits.maxPageBytes) .pageByteLimitExceeded

inductive ClientFailure where
  | context | failed
  | retryAfter (delay : Int)

/-- The answers of the server to one call of `Discover`. -/
structure Client where
  capabilities : Except ClientFailure CatalogCapabilities
  assets : GoString → Except ClientFailure (CatalogPage CatalogAsset)
  relations : GoString → Except ClientFailure (CatalogPage CatalogRelation)

inductive Outcome where
  | page (page : Page)
  | delay (retryAfter : Int)

def discoverFailureOrDelay (failureCode : Rejection) : ClientFailure → Except Rejection Outcome
  | .context => .error .contextEnded
  | .failed => .error failureCode
  | .retryAfter delay => do
    require (0 < delay ∧ delay ≤ 60 * second) .providerRetryAfterRejected
    pure (.delay delay)

def validateDiscoverPage (limits : Limits) (environmentID : GoString) (page : Page) : Except Rejection Outcome := do
  let policy ← discoverPagePolicy library page environmentID
  validatePage library limits profileCode policy page
  pure (.page page)

variable (client : Client) (limits : Limits) (environmentID : GoString)

def discoverRelationPage (checkpoint : CmdbCheckpoint) : Except Rejection Outcome := do
  require (validCursor checkpoint.relationCursor) .relationCursorRejected
  match client.relations checkpoint.relationCursor with
  | .error failure => discoverFailureOrDelay .relationPageFailed failure
  | .ok page =>
    validateCatalogPageEnvelope library page checkpoint.snapshotEpoch checkpoint.relationCursor
    require (page.finalPage → page.completeSnapshot = checkpoint.assetsComplete) .snapshotCompletionRejected
    let (last, relations) ← acceptEntries (relationOrderPosition library)
      (fun raw => (normalizeRelation library environmentID raw).mapError fun _ => .relationNormalizationRejected)
      checkpoint.relationLast.isSome checkpoint.relationLast page.items
    require (relations ≠ [] ∨ page.finalPage) .emptyRelationPageRejected
    require (relations ≠ [] ∨ page.completeSnapshot) .emptyIncrementalFinalRejected
    let next ← newCMDBCheckpoint library { checkpoint with
      relationLast := last
      phase := if page.finalPage then .complete else .relations
      relationCursor := page.nextCursor }
    validateDiscoverPage library limits environmentID
      ⟨[], relations, next, page.finalPage, page.finalPage && page.completeSnapshot⟩

def discoverAssetPage (checkpoint : CmdbCheckpoint) : Except Rejection Outcome := do
  require (validCursor checkpoint.assetCursor) .assetCursorRejected
  match client.assets checkpoint.assetCursor with
  | .error failure => discoverFailureOrDelay .assetPageFailed failure
  | .ok page =>
    validateCatalogPageEnvelope library page checkpoint.snapshotEpoch checkpoint.assetCursor
    let (last, items) ← acceptEntries
      (fun raw => do
        validateCatalogAssetSchema library raw limits.maxDocumentBytes
        assetOrderPosition raw)
      (fun raw => (normalizeAsset library environmentID raw).mapError fun _ => .assetNormalizationRejected)
      checkpoint.assetLast.isSome checkpoint.assetLast page.items
    require (items ≠ [] ∨ page.finalPage) .emptyAssetPageRejected
    let reached : CmdbCheckpoint := { checkpoint with
      assetLast := last
      phase := if page.finalPage then .relations else .assets
      assetCursor := page.nextCursor
      assetsComplete := if page.finalPage then page.completeSnapshot else checkpoint.assetsComplete }
    -- The last page of assets may be empty; the call then goes on to the relations.
    if page.finalPage ∧ items = [] then discoverRelationPage library client limits environmentID reached
    else
      let next ← newCMDBCheckpoint library reached
      validateDiscoverPage library limits environmentID ⟨items, [], next, false, false⟩

end Pages

/-- The binding of the provider and what one call is asked for. -/
structure DiscoverRequest where
  locator : SourceLocator
  sourceRevision : Int
  sourceRevisionDigest : GoString
  checkpoint : Checkpoint
  limits : Limits

structure RuntimeBinding where
  revisionStatus : SourceRevisionStatus
  locator : SourceLocator
  sourceRevision : Int
  sourceRevisionDigest : GoString
  (providerKind profileCode : GoString)

structure RuntimeSession where
  expectedAuthorityID : GoString
  environmentID : GoString

def validateCapabilities (library : Library) (capabilities : CatalogCapabilities) (expectedAuthority : GoString)
    (now : Int) : Bool :=
  capabilities.protocolVersion == ascii "cmdb-catalog/v1" && capabilities.authorityID == expectedAuthority &&
    capabilities.permissions == [ascii "assets.read", ascii "relations.read"] &&
    safeIdentifier library expectedAuthority &&
    safeIdentifier library capabilities.snapshotEpoch && capabilities.maxPageSize == 500 &&
    capabilities.supportsDelta && capabilities.supportsTombstone && capabilities.serverTime != 0 &&
    !library.unsafeCatalogText capabilities.protocolVersion &&
    now - 60 * second ≤ capabilities.serverTime && capabilities.serverTime ≤ now + 60 * second

def DiscoverRequest.validate (request : DiscoverRequest) : Except Rejection Unit := do
  require (matchesUUID request.locator.scope.tenantID ∧ matchesUUID request.locator.scope.workspaceID ∧
    matchesUUID request.locator.sourceID ∧ 0 < request.sourceRevision ∧ matchesHex 64 request.sourceRevisionDigest)
    .invalidDiscoverRequest
  require (0 < request.limits.maxPageItems ∧ 0 ≤ request.limits.maxPageRelations ∧ 0 < request.limits.maxPageBytes ∧
    0 < request.limits.maxDocumentBytes) .invalidLimits
  require (request.checkpoint.profileCode ≠ []) .invalidDiscoverCheckpoint

def discover (library : Library) (binding : RuntimeBinding) (session : RuntimeSession) (client : Client) (now : Int)
    (request : DiscoverRequest) : Except Rejection Outcome := do
  request.validate
  require (request.checkpoint.profileCode = profileCode ∧ binding.revisionStatus = .published ∧
    request.locator = binding.locator ∧ request.sourceRevision = binding.sourceRevision ∧
    request.sourceRevisionDigest = binding.sourceRevisionDigest ∧ binding.providerKind = providerKind ∧
    binding.profileCode = profileCode) .discoverBindingRejected
  let checkpoint ← (decodeCMDBCanonical library request.checkpoint.canonical).mapError fun _ => .checkpointRejected
  require (checkpoint.phase = .capabilities ∨ checkpoint.authorityID = session.expectedAuthorityID ∧
    checkpoint.environmentID = session.environmentID) .checkpointAuthorityRejected
  match checkpoint.phase with
  | .assets => discoverAssetPage library client request.limits session.environmentID checkpoint
  | .relations => discoverRelationPage library client request.limits session.environmentID checkpoint
  | _ =>
    match client.capabilities with
    | .error failure => discoverFailureOrDelay .capabilitiesFailed failure
    | .ok capabilities =>
      require (validateCapabilities library capabilities session.expectedAuthorityID now) .capabilitiesRejected
      discoverAssetPage library client request.limits session.environmentID {
        phase := .assets
        authorityID := capabilities.authorityID
        snapshotEpoch := capabilities.snapshotEpoch
        environmentID := session.environmentID }

end AiopsSystem.ExternalCmdb
