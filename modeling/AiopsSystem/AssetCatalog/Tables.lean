import AiopsSystem.AssetCatalog.Facts
import AiopsSystem.Sql.Table

/-! # The tables of the asset catalog

Rows hold the columns the storage code reads back, with the tenant, workspace
and source of a row as one locator. Evidence that nothing reads again (audit
details, outbox events, type details, stored documents) is left out; the page
receipts and the decisions of operators, which a repeated call is recognised
by, are kept.
-/

namespace AiopsSystem.AssetCatalog

open Go

structure SourceScope where
  (tenantID workspaceID : GoString)
deriving DecidableEq

structure SourceLocator where
  scope : SourceScope
  sourceID : GoString
deriving DecidableEq

inductive SourceKind where
  | manual | csvImport | controlPlaneAPI | externalCMDB | vSphere | proxmox | openStack | cloudProvider
  | kubernetesOperator | awxInventory
deriving DecidableEq

inductive SourceStatus where
  | active | paused | degraded | disabled
deriving DecidableEq

inductive SourceGateStatus where
  | unavailable | validating | available | degraded | suspended
deriving DecidableEq

inductive SourceRevisionStatus where
  | draft | validating | validated | rejected | published | superseded
deriving DecidableEq

inductive RunKind where
  | validation | discovery | csvImport | apiIngestion | manualMutation
deriving DecidableEq

inductive RunStatus where
  | queued | delayed | running | finalizing | succeeded | partially | failed | cancelled
deriving DecidableEq

inductive RunStage where
  | waiting | delayed | validating | reading | normalizing | applying | cleaningUp | completed
deriving DecidableEq

inductive Lifecycle where
  | discovered | active | stale | quarantined | retired
deriving DecidableEq

inductive MappingStatus where
  | exact | ambiguous | unresolved
deriving DecidableEq

inductive RelationshipStatus where
  | active | inactive
deriving DecidableEq

inductive Provenance where
  | manual | discovered | mergeDecision
deriving DecidableEq

inductive ConflictStatus where
  | opened | resolved | rejected
deriving DecidableEq

inductive ConflictResolution where
  | confirmExact | rejectCandidate | keepUnresolved | quarantineAsset
deriving DecidableEq

inductive BindingRole where
  | primaryRuntime | dependency | observabilitySource | deliveryTarget | managedTarget
deriving DecidableEq

inductive BindingStatus where
  | active | inactive
deriving DecidableEq

/-- `pageProjectionCounts`, and the counter columns of a run. -/
structure PageCounts where
  observed : Nat := 0
  created : Nat := 0
  changed : Nat := 0
  unchanged : Nat := 0
  conflict : Nat := 0
  missing : Nat := 0
  stale : Nat := 0
  restored : Nat := 0
  tombstoned : Nat := 0
  rejected : Nat := 0
deriving DecidableEq

def PageCounts.add (total page : PageCounts) : PageCounts where
  observed := total.observed + page.observed
  created := total.created + page.created
  changed := total.changed + page.changed
  unchanged := total.unchanged + page.unchanged
  conflict := total.conflict + page.conflict
  missing := total.missing + page.missing
  stale := total.stale + page.stale
  restored := total.restored + page.restored
  tombstoned := total.tombstoned + page.tombstoned
  rejected := total.rejected + page.rejected

structure SourceRun where
  id : GoString
  locator : SourceLocator
  sourceRevision : Int
  sourceRevisionDigest : GoString
  runKind : RunKind
  status : RunStatus
  stageCode : RunStage
  gateRevision : Int
  (cursorBeforeSHA256 cursorAfterSHA256 : GoString)
  pageSequence : Int
  pageDigest : GoString
  relationPageSequence : Int
  relationPageDigest : GoString
  (finalPage completeSnapshot effectiveComplete : Bool)
  checkpointVersion : Int
  leaseOwner : GoString
  leaseExpiresAt : Int
  fenceEpoch : Int
  fenceTokenSHA256 : GoString
  heartbeatSequence : Int
  counts : PageCounts
  (lineageRolloverReason lineageRolloverEvidenceSHA256 : GoString)
  version : Int
deriving DecidableEq

structure Source where
  locator : SourceLocator
  sourceKind : SourceKind
  providerKind : GoString
  status : SourceStatus
  /-- The published revision with its digest; `none` before the first publication. -/
  published : Option (Int × GoString)
  gateStatus : SourceGateStatus
  gateReason : GoString
  gateRevision : Int
  (checkpointCiphertext checkpointKeyID checkpointSHA256 : GoString)
  (checkpointRevision checkpointVersion version : Int)
deriving DecidableEq

structure ProfileManifest where
  (providerKind profileCode : GoString)
  freshnessKind : FreshnessKind
  environmentMapping : EnvironmentMappingMode
  trustedPathCodes : List GoString
  relationshipTypes : List RelationshipType
deriving DecidableEq

structure SourceRevision where
  locator : SourceLocator
  revision : Int
  status : SourceRevisionStatus
  (canonicalRevisionDigest sourceDefinitionDigest profileCode : GoString)
  /-- `none` if the stored manifest cannot be decoded. -/
  manifest : Option ProfileManifest
  authorityEnvironmentIDs : List GoString
  /-- `revision.Validate() == nil` -/
  wellFormed : Bool
deriving DecidableEq

structure Asset where
  id : GoString
  locator : SourceLocator
  (environmentID providerKind externalID : GoString)
  kind : Kind
  displayName : GoString
  lifecycle : Lifecycle
  mappingStatus : MappingStatus
  (lastObservationID lastObservationChainSHA256 : GoString)
  (lastObservedAt lastSourceRevision version : Int)

structure Observation where
  id : GoString
  locator : SourceLocator
  (environmentID runID providerKind externalID : GoString)
  sourceRevision : Int
  (canonicalRevisionDigest sourceDefinitionDigest : GoString)
  observedAt : Int
  freshness : FreshnessCandidate
  (providerFactSHA256 fingerprintSHA256 providerProvenanceSHA256 : GoString)
  /-- `previous_observation_id` and `previous_chain_sha256`, which are `NULL` together. -/
  previous : Option (GoString × GoString)
  observationChainSHA256 : GoString
  (acceptedCheckpointVersion runFenceEpoch runPageSequence : Int)
  (schemaVersion documentSHA256 fieldProvenanceSHA256 : GoString)
  tombstone : Bool
  tombstoneReason : GoString

structure RelationshipIdentity where
  (sourceEnvironmentID targetEnvironmentID fromExternalID toExternalID : GoString)
  type : RelationshipType
  providerPathCode : GoString
deriving DecidableEq

def ObservedRelation.identity (relation : ObservedRelation) : RelationshipIdentity where
  sourceEnvironmentID := relation.sourceEnvironmentID
  targetEnvironmentID := relation.targetEnvironmentID
  fromExternalID := relation.fromExternalID
  toExternalID := relation.toExternalID
  type := relation.type
  providerPathCode := relation.providerPathCode

structure Relationship where
  id : GoString
  locator : SourceLocator
  identity : RelationshipIdentity
  sourceRevision : Int
  (canonicalRevisionDigest lastRunID : GoString)
  (lastPageSequence acceptedCheckpointVersion runFenceEpoch : Int)
  (relationPageSHA256 sourceAssetID targetAssetID : GoString)
  confidence : Int
  freshness : FreshnessCandidate
  relationFactSHA256 : GoString
  provenance : Provenance
  crossEnvironmentPolicyReferenceID : GoString
  status : RelationshipStatus
  version : Int

structure Conflict where
  id : GoString
  scope : SourceScope
  (environmentID assetID : GoString)
  (candidateAssetID candidateServiceID : Option GoString)
  (sourceID observationID conflictType fieldName existingValueSHA256 candidateValueSHA256 : GoString)
  status : ConflictStatus
  resolution : Option ConflictResolution
  (resolutionReasonCode resolvedBy : GoString)
  version : Int

structure ServiceAssetBinding where
  id : GoString
  scope : SourceScope
  (environmentID serviceID assetID : GoString)
  role : BindingRole
  provenance : Provenance
  status : BindingStatus
  version : Int

structure Catalog where
  assets : List Asset
  observations : List Observation
  relationships : List Relationship
  conflicts : List Conflict

def emptyCatalog : Catalog where
  assets := []
  observations := []
  relationships := []
  conflicts := []

/-- `pageReceiptResult` -/
structure PageReceiptResult where
  checkpointVersion : Int
  (checkpointSHA256 pageDigestSHA256 relationPageDigestSHA256 : GoString)
  (finalPage completeSnapshot : Bool)

structure PageReceipt where
  scope : SourceScope
  runID : GoString
  pageSequence : Int
  (payloadHash profileCode semanticIdentitySHA256 providerKind : GoString)
  checkpointRevision : Int
  (canonicalRevisionDigest sourceDefinitionDigest checkpointKeyID : GoString)
  result : PageReceiptResult

inductive MutationAction where
  | bindingCreated | bindingRemoved | conflictResolved | assetQuarantined | assetRetired
deriving DecidableEq

structure AssetStamp where
  id : GoString
  version : Int
  lifecycle : Lifecycle
  mappingStatus : MappingStatus
deriving DecidableEq

def Asset.stamp (asset : Asset) : AssetStamp := ⟨asset.id, asset.version, asset.lifecycle, asset.mappingStatus⟩

structure MutationAudit where
  scope : SourceScope
  (idempotencyKey actorID : GoString)
  action : MutationAction
  (resourceID payloadHash environmentID commandSHA256 : GoString)
  /-- The version of the resource after the mutation. -/
  resultVersion : Int
  asset : Option AssetStamp
  binding : Option ServiceAssetBinding
  conflict : Option (ConflictStatus × Option ConflictResolution)

/-- An `EXACT` row of the older table `service_bindings`. -/
structure ExactServiceBinding where
  scope : SourceScope
  (environmentID serviceID : GoString)
deriving DecidableEq

structure Database where
  sources : List Source
  runs : List SourceRun
  revisions : List SourceRevision
  catalog : Catalog
  bindings : List ServiceAssetBinding
  exactServices : List ExactServiceBinding
  receipts : List PageReceipt
  audits : List MutationAudit

def emptyDatabase : Database where
  sources := []
  runs := []
  revisions := []
  catalog := emptyCatalog
  bindings := []
  exactServices := []
  receipts := []
  audits := []

structure ObjectKey where
  locator : SourceLocator
  (providerKind externalID : GoString)
deriving DecidableEq

def Asset.key (asset : Asset) : ObjectKey := ⟨asset.locator, asset.providerKind, asset.externalID⟩

def Observation.key (observation : Observation) : ObjectKey :=
  ⟨observation.locator, observation.providerKind, observation.externalID⟩

def Relationship.key (relationship : Relationship) : SourceLocator × RelationshipIdentity :=
  (relationship.locator, relationship.identity)

end AiopsSystem.AssetCatalog
