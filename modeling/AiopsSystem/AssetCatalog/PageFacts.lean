import AiopsSystem.AssetCatalog.Tables
import AiopsSystem.Go.Frame
import AiopsSystem.Go.Json
import AiopsSystem.Go.Table

/-! # Digests of a discovery page

The fact, chain and page digests a commit computes. Each is the SHA-256 of a
framed tuple that starts with the name of its kind; the hash function and the
canonical form of a document are parameters.
-/

namespace AiopsSystem.AssetCatalog

open Go

structure PageCommitCoordinates where
  locator : SourceLocator
  runID : GoString
  pageSequence : Int

structure Checkpoint where
  (profileCode canonical : GoString)

structure Page where
  items : List NormalizedItem
  relations : List ObservedRelation
  nextCheckpoint : Checkpoint
  (finalPage completeSnapshot : Bool)

/-- `pageAdmission`, with the comparison of the lease to the clock that the read makes. -/
structure PageAdmission where
  run : SourceRun
  leaseCurrent : Bool
  source : Source
  revision : SourceRevision
deriving DecidableEq

/-- `discoverycheckpoint.ReplayIdentity`: a keyed digest of a checkpoint. -/
structure ReplayIdentity where
  (checkpointKeyID digestSHA256 : GoString)

/-- `discoverycheckpoint.SealedCheckpoint` -/
structure SealedCheckpoint where
  (envelope checkpointKeyID checkpointSHA256 : GoString)
  checkpointVersion : Int

structure PageContext where
  admission : PageAdmission
  coordinates : PageCommitCoordinates
  acceptedAt : Int

namespace PageContext

variable (context : PageContext)

def locator : SourceLocator := context.admission.run.locator

def runID : GoString := context.admission.run.id

def revision : Int := context.admission.revision.revision

def acceptedCheckpointVersion : Int := context.admission.run.checkpointVersion + 1

end PageContext

/-- `manualFrame`: a field given as bytes, as the hexadecimal text of a digest, or absent. -/
inductive ManualFrame where
  | value (bytes : GoString)
  | digest (text : GoString)
  | null

/-- The field itself; the empty digest is framed as an absent field, and anything but 32 bytes is refused. -/
def ManualFrame.frame : ManualFrame → Option Frame
  | .null => some none
  | .value bytes => some (some bytes)
  | .digest text =>
    if text = [] then some none
    else match hexDecode text with
      | some bytes => if bytes.length = 32 then some (some bytes) else none
      | none => none

/-- `pageTimeText`: whole microseconds in UTC. -/
def pageTimeText (value : Int) : GoString :=
  let date := Json.civilDate (value / (24 * hour))
  let clock := value % (24 * hour)
  Json.padded 4 date.1 ++ ascii "-" ++ Json.padded 2 date.2.1 ++ ascii "-" ++ Json.padded 2 date.2.2 ++ ascii "T" ++
    Json.padded 2 (clock / hour) ++ ascii ":" ++ Json.padded 2 (clock % hour / minute) ++ ascii ":" ++
    Json.padded 2 (clock % minute / second) ++ ascii "." ++ Json.padded 6 (clock % second / microsecond) ++ ascii "Z"

def boolFrame (value : Bool) : GoString := if value then ascii "1" else ascii "0"

def timeFrame (value : Option Int) : ManualFrame :=
  match value with
  | some instant => .value (pageTimeText instant)
  | none => .null

def kindText (kind : Option Kind) : GoString := (kind.map Kind.text).getD []

def itemIdentityLess (left right : NormalizedItem) : Bool :=
  textLess (joinByte 0 [left.environmentID, left.providerKind, left.externalID])
    (joinByte 0 [right.environmentID, right.providerKind, right.externalID])

def relationIdentityLess (left right : ObservedRelation) : Bool :=
  textLess (relationIdentity left) (relationIdentity right)

def fieldCodeLess (left right : FieldProvenance) : Bool :=
  textLess left.fieldCode.text right.fieldCode.text

section Digests

variable (sha256Hex : GoString → GoString)

def framedDigest (frames : List Frame) : GoString := sha256Hex (encodeFrames frames)

def framedDigestWithNamedHashes (frames : List ManualFrame) : Option GoString :=
  (frames.mapM ManualFrame.frame).map (framedDigest sha256Hex)

structure PageItemFacts where
  (provenanceDigest fingerprintDigest providerProvenanceDigest providerFactDigest : GoString)
  observationChainDigest : GoString

def persistedProvenance (context : PageContext) (value : FieldProvenance) : Json :=
  Json.object [("confidence", .int value.confidence), ("observed_at", Json.text (pageTimeText context.acceptedAt)),
    ("ownership", Json.text value.ownership.text),
    ("provider_kind", Json.text context.admission.source.providerKind),
    ("provider_path_code", Json.text value.providerPathCode),
    ("source_id", Json.text context.admission.source.locator.sourceID),
    ("source_revision", .int context.revision)]

def provenanceJSON (canonical : Json → Option GoString) (context : PageContext) (provenance : List FieldProvenance) :
    Option GoString :=
  canonical (Json.object
    (provenance.map fun value => (value.fieldCode.literal, persistedProvenance context value)))

def providerProvenanceDigest (provenance : List FieldProvenance) : GoString :=
  framedDigest sha256Hex ([some (ascii "asset-provider-provenance.v1"), some (formatInt provenance.length)] ++
    provenance.flatMap fun value => [some value.fieldCode.text, some value.providerPathCode,
      some value.ownership.text, some (formatInt value.confidence)])

def fingerprintDigest (fingerprints : TextMap) : Option GoString :=
  framedDigestWithNamedHashes sha256Hex
    ([.value (ascii "asset-fingerprints.v1"), .value (formatInt fingerprints.entries.length)] ++
      fingerprints.entries.flatMap fun entry => [.value entry.1,
        .digest (framedDigest sha256Hex [some (ascii "asset-fingerprint-value.v1"), some entry.1, some entry.2])])

/-- `provider_fact_sha256`: what the provider says about the object under one revision. -/
def providerFactDigest (context : PageContext) (item : NormalizedItem) (fingerprint provenance : GoString) :
    Option GoString :=
  let present (value : ManualFrame) : ManualFrame := if item.tombstone then .null else value
  framedDigestWithNamedHashes sha256Hex
    [.value (ascii "asset-provider-fact.v1"), .value context.locator.scope.tenantID,
      .value context.locator.scope.workspaceID, .value context.admission.source.locator.sourceID,
      .value context.admission.source.providerKind, .value (formatInt context.revision),
      .digest context.admission.revision.canonicalRevisionDigest,
      .digest context.admission.revision.sourceDefinitionDigest, .value item.environmentID, .value item.externalID,
      present (.value (kindText item.kind)), present (.value item.displayName), .value item.schemaVersion,
      .value (boolFrame item.tombstone), if item.tombstone then .value item.tombstoneReason else .null,
      present (.digest item.documentSHA256), .digest fingerprint, .digest provenance]

/-- `observation_chain_sha256`: an observation with the one before it. -/
def observationChainDigest (context : PageContext) (item : NormalizedItem) (observationID : GoString)
    (providerFact provenance : GoString) (previous : Option (GoString × GoString)) : Option GoString :=
  framedDigestWithNamedHashes sha256Hex
    [.value (ascii "asset-observation-chain.v1"), .value context.locator.scope.tenantID,
      .value context.locator.scope.workspaceID, .value item.environmentID,
      .value context.admission.source.locator.sourceID, .value context.coordinates.runID, .value observationID,
      .value item.providerKind, .value item.externalID, .value (formatInt context.revision),
      .digest context.admission.revision.canonicalRevisionDigest, .value (pageTimeText context.acceptedAt),
      .value item.freshness.kind.text, timeFrame item.freshness.orderTime,
      .value (formatInt item.freshness.orderSequence), .digest item.freshness.providerVersionSHA256,
      .value (formatInt context.acceptedCheckpointVersion), .value (formatInt context.admission.run.fenceEpoch),
      .value (formatInt context.coordinates.pageSequence), .digest providerFact, .digest provenance,
      (previous.map fun link => ManualFrame.value link.1).getD .null,
      (previous.map fun link => ManualFrame.digest link.2).getD .null]

def buildPageItemFacts (codec : Codec) (context : PageContext) (item : NormalizedItem) (observationID : GoString)
    (previous : Option (GoString × GoString)) : Option PageItemFacts := do
  let provenance := GoMap.sortSlice fieldCodeLess item.fieldProvenance
  let provenanceJSON ← provenanceJSON codec.canonical context provenance
  let providerProvenance := providerProvenanceDigest codec.sha256Hex provenance
  let fingerprint ← fingerprintDigest codec.sha256Hex item.fingerprints
  let providerFact ← providerFactDigest codec.sha256Hex context item fingerprint providerProvenance
  let provenanceDigest := codec.sha256Hex provenanceJSON
  let chain ← observationChainDigest codec.sha256Hex context item observationID providerFact provenanceDigest previous
  pure ⟨provenanceDigest, fingerprint, providerProvenance, providerFact, chain⟩

/-- `relation_fact_sha256`: one relation under one revision. -/
def relationFactDigest (context : PageContext) (relation : ObservedRelation) : GoString :=
  framedDigest sha256Hex [some (ascii "asset-relation-fact.v1"), some context.locator.scope.tenantID,
    some context.locator.scope.workspaceID, some context.admission.source.locator.sourceID,
    some (formatInt context.revision), some ((hexDecode context.admission.revision.canonicalRevisionDigest).getD []),
    some relation.sourceEnvironmentID, some relation.targetEnvironmentID, some relation.fromExternalID,
    some relation.toExternalID, some relation.type.text, some relation.providerPathCode,
    some (formatInt relation.confidence)]

def relationPageFrames (context : PageContext) (relation : ObservedRelation) : List ManualFrame :=
  [.value relation.sourceEnvironmentID, .value relation.targetEnvironmentID, .value relation.fromExternalID,
    .value relation.toExternalID, .value relation.type.text, .value relation.providerPathCode,
    .value relation.freshness.kind.text, timeFrame relation.freshness.orderTime,
    .value (formatInt relation.freshness.orderSequence), .digest relation.freshness.providerVersionSHA256,
    .digest (relationFactDigest sha256Hex context relation)]

def sortedRelations (relations : List ObservedRelation) : List ObservedRelation :=
  GoMap.sortSlice relationIdentityLess relations

def relationPageDigest (context : PageContext) (relations : List ObservedRelation) : Option GoString :=
  framedDigestWithNamedHashes sha256Hex
    ([.value (ascii "asset-relation-page.v1"), .value (formatInt relations.length)] ++
      (sortedRelations relations).flatMap (relationPageFrames sha256Hex context))

def itemPageFrames (item : NormalizedItem) (providerFact : GoString) : List ManualFrame :=
  [.value item.environmentID, .value item.providerKind, .value item.externalID, .value item.freshness.kind.text,
    timeFrame item.freshness.orderTime, .value (formatInt item.freshness.orderSequence),
    .digest item.freshness.providerVersionSHA256, .digest providerFact]

def aggregatePageItemDigest (items : List (NormalizedItem × GoString)) : Option GoString :=
  framedDigestWithNamedHashes sha256Hex
    ([.value (ascii "asset-item-page.v1"), .value (formatInt items.length)] ++
      items.flatMap fun entry => itemPageFrames entry.1 entry.2)

def itemSemanticFrames (item : NormalizedItem) : List ManualFrame :=
  [.value item.environmentID, .value item.providerKind, .value item.externalID, .value (kindText item.kind),
    .value item.displayName, .value item.schemaVersion, .digest item.documentSHA256,
    .digest (sha256Hex item.document), .value item.freshness.kind.text, timeFrame item.freshness.orderTime,
    .value (formatInt item.freshness.orderSequence), .digest item.freshness.providerVersionSHA256,
    .value (boolFrame item.tombstone), .value item.tombstoneReason, .value (formatInt item.fieldProvenance.length)] ++
  (GoMap.sortSlice fieldCodeLess item.fieldProvenance).flatMap (fun value =>
    [.value value.fieldCode.text, .value value.providerPathCode, .value value.ownership.text,
      .value (formatInt value.confidence)]) ++
  .value (formatInt item.fingerprints.entries.length) ::
    item.fingerprints.entries.flatMap (fun entry => [.value entry.1, .value entry.2])

def relationSemanticFrames (relation : ObservedRelation) : List ManualFrame :=
  [.value relation.sourceEnvironmentID, .value relation.targetEnvironmentID, .value relation.fromExternalID,
    .value relation.toExternalID, .value relation.type.text, .value relation.providerPathCode,
    .value relation.crossEnvironmentPolicyReferenceID, .value (formatInt relation.confidence),
    .value relation.freshness.kind.text, timeFrame relation.freshness.orderTime,
    .value (formatInt relation.freshness.orderSequence), .digest relation.freshness.providerVersionSHA256]

/-- `pageSemanticIdentity`: everything a page says, whatever the order of its lists. -/
def pageSemanticIdentity (coordinates : PageCommitCoordinates) (page : Page) (replay : ReplayIdentity) :
    Option GoString :=
  framedDigestWithNamedHashes sha256Hex
    ([.value (ascii "asset-source-page-semantic.v1"), .value coordinates.locator.scope.tenantID,
        .value coordinates.locator.scope.workspaceID, .value coordinates.locator.sourceID, .value coordinates.runID,
        .value (formatInt coordinates.pageSequence), .value page.nextCheckpoint.profileCode,
        .value (formatInt page.items.length)] ++
      (GoMap.sortSlice itemIdentityLess page.items).flatMap (itemSemanticFrames sha256Hex) ++
      .value (formatInt page.relations.length) ::
        (sortedRelations page.relations).flatMap relationSemanticFrames ++
      [.value (boolFrame page.finalPage), .value (boolFrame page.completeSnapshot), .value replay.checkpointKeyID,
        .digest replay.digestSHA256])

def countFrames (counts : PageCounts) : List ManualFrame :=
  [counts.observed, counts.created, counts.changed, counts.unchanged, counts.conflict, counts.missing, counts.stale,
    counts.restored, counts.tombstoned, counts.rejected].map fun count => .value (formatInt count)

def committedPageDigest (context : PageContext) (page : Page) (checkpoint : SealedCheckpoint)
    (itemPageDigest relationPageDigest semanticIdentity : GoString) (counts : PageCounts) : Option GoString :=
  framedDigestWithNamedHashes sha256Hex
    ([.value (ascii "asset-source-page.v2"), .value context.locator.scope.tenantID,
        .value context.locator.scope.workspaceID, .value context.admission.source.locator.sourceID,
        .value context.runID, .value (formatInt context.coordinates.pageSequence),
        .value (formatInt context.revision), .digest context.admission.revision.canonicalRevisionDigest,
        .value context.admission.revision.profileCode, .value (formatInt context.admission.run.gateRevision),
        .value (formatInt context.admission.run.fenceEpoch), .value (pageTimeText context.acceptedAt),
        .digest checkpoint.checkpointSHA256, .value (formatInt checkpoint.checkpointVersion),
        .digest itemPageDigest, .digest relationPageDigest] ++
      countFrames counts ++
      [.value (boolFrame page.finalPage), .value (boolFrame page.completeSnapshot), .digest semanticIdentity])

end Digests

end AiopsSystem.AssetCatalog
