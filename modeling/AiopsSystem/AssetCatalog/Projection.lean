import AiopsSystem.AssetCatalog.PageFacts

/-! # The projection of a discovery page

`projectDiscoveryPage` on the catalog tables, statement by statement: the items
in the order of their identities, then the relations, then the relationships of
tombstoned assets, and at the end of a complete snapshot what the run did not
report. A check of a table (a primary key, a trigger on freshness) that refuses
a row ends the attempt like an error of the code.
-/

namespace AiopsSystem.AssetCatalog

open Go

/-- The errors of a commit attempt; `acceptanceTimeRetry` makes the caller try again. -/
inductive CommitError where
  | invalid | conflict | unavailable | acceptanceTimeRetry

structure PageItemIDs where
  (observation asset conflict : GoString)

structure PageProjectionIDs where
  items : List PageItemIDs
  relations : List GoString
  uuids : ∀ ids ∈ items, matchesUUID ids.asset = true ∧ matchesUUID ids.conflict = true

/-- An asset with its last observation, as `lockPagePriorAsset` joins them. -/
structure PriorAsset where
  asset : Asset
  observation : Observation

/-- The three-way comparison of two provider orders of one kind; without the times it needs there is none. -/
def compareOrder (candidate prior : FreshnessCandidate) : Option Ordering :=
  if candidate.kind = .objectTimeSequence then
    match candidate.orderTime, prior.orderTime with
    | some left, some right => some ((compare left right).then (compare candidate.orderSequence prior.orderSequence))
    | _, _ => none
  else some (compare candidate.orderSequence prior.orderSequence)

def freshnessAccepts (candidate : FreshnessCandidate) (fact : GoString) (prior : FreshnessCandidate)
    (priorFact : GoString) : Bool :=
  match compareOrder candidate prior with
  | some .gt => true
  | some .eq => candidate.providerVersionSHA256 == prior.providerVersionSHA256 && fact == priorFact
  | _ => false

def relationFreshnessAccepts (candidate : FreshnessCandidate) (fact : GoString) (prior : FreshnessCandidate)
    (priorFact : GoString) : Bool :=
  candidate.kind == prior.kind && freshnessAccepts candidate fact prior priorFact

def pageFreshnessAccepts (revision : Int) (candidate : FreshnessCandidate) (providerFact : GoString)
    (prior : PriorAsset) : Bool :=
  if revision < prior.asset.lastSourceRevision then false
  else if revision = prior.asset.lastSourceRevision ∧ candidate.kind ≠ prior.observation.freshness.kind then false
  else if prior.asset.lastSourceRevision < revision then true
  else freshnessAccepts candidate providerFact prior.observation.freshness prior.observation.providerFactSHA256

/-- The checks of the tables on a freshness order: the catalog sequence belongs to manual mutations, and a
catalog or checkpoint sequence is the checkpoint version the page reaches. -/
def freshnessAdmitted (context : PageContext) (freshness : FreshnessCandidate) : Bool :=
  decide (freshness.kind = .catalogSequence ↔
    context.admission.run.runKind = .manualMutation ∧ context.admission.source.sourceKind = .manual) &&
  decide (freshness.kind = .catalogSequence ∨ freshness.kind = .checkpointSequence →
    freshness.orderSequence = context.acceptedCheckpointVersion)

section Items

variable (codec : Codec) (collation : GoString → GoString → Bool) (context : PageContext)

def itemKey (item : NormalizedItem) : ObjectKey := ⟨context.locator, item.providerKind, item.externalID⟩

def pageRunObjectExists (catalog : Catalog) (item : NormalizedItem) : Bool :=
  catalog.observations.any fun observation =>
    decide (observation.key = itemKey context item ∧ observation.runID = context.runID)

def lockPagePriorAsset (catalog : Catalog) (item : NormalizedItem) : Option PriorAsset :=
  (Sql.lookup Asset.key (itemKey context item) catalog.assets).bind fun asset =>
    (Sql.lookup Observation.id asset.lastObservationID catalog.observations).map fun observation =>
      ⟨asset, observation⟩

/-- `ORDER BY source_id, provider_kind, external_id, id` -/
def candidateBefore (left right : Asset) : Bool :=
  if left.locator.sourceID ≠ right.locator.sourceID then textLess left.locator.sourceID right.locator.sourceID
  else if left.providerKind ≠ right.providerKind then collation left.providerKind right.providerKind
  else if left.externalID ≠ right.externalID then collation left.externalID right.externalID
  else textLess left.id right.id

/-- An asset of another source of the workspace whose last observation has the fingerprint. -/
def isFingerprintCandidate (catalog : Catalog) (item : NormalizedItem) (fingerprint : GoString) (asset : Asset) : Bool :=
  decide (asset.locator.scope = context.locator.scope ∧ asset.environmentID = item.environmentID ∧
    asset.locator.sourceID ≠ context.locator.sourceID) &&
  catalog.observations.any fun observation => decide (observation.id = asset.lastObservationID ∧
    observation.locator = asset.locator ∧ observation.environmentID = asset.environmentID ∧
    observation.fingerprintSHA256 = fingerprint)

def lockPageFingerprintCandidate (catalog : Catalog) (item : NormalizedItem) (fingerprint : GoString) : Option Asset :=
  if item.tombstone ∨ item.fingerprints.entries = [] then none
  else (Sql.orderBy (candidateBefore collation)
    (catalog.assets.filter (isFingerprintCandidate context catalog item fingerprint))).head?

/-- The row `insertPageObservation` writes. -/
def pageObservation (item : NormalizedItem) (facts : PageItemFacts) (observationID : GoString)
    (previous : Option (GoString × GoString)) : Observation where
  id := observationID
  locator := context.locator
  environmentID := item.environmentID
  runID := context.runID
  providerKind := item.providerKind
  externalID := item.externalID
  sourceRevision := context.revision
  canonicalRevisionDigest := context.admission.revision.canonicalRevisionDigest
  sourceDefinitionDigest := context.admission.revision.sourceDefinitionDigest
  observedAt := context.acceptedAt
  freshness := item.freshness
  providerFactSHA256 := facts.providerFactDigest
  fingerprintSHA256 := facts.fingerprintDigest
  providerProvenanceSHA256 := facts.providerProvenanceDigest
  previous := previous
  observationChainSHA256 := facts.observationChainDigest
  acceptedCheckpointVersion := context.acceptedCheckpointVersion
  runFenceEpoch := context.admission.run.fenceEpoch
  runPageSequence := context.coordinates.pageSequence
  schemaVersion := item.schemaVersion
  documentSHA256 := item.documentSHA256
  fieldProvenanceSHA256 := facts.provenanceDigest
  tombstone := item.tombstone
  tombstoneReason := item.tombstoneReason

def insertPageObservation (catalog : Catalog) (observation : Observation) : Except CommitError Catalog := do
  require (observation.id ∉ catalog.observations.map Observation.id) .unavailable
  require (freshnessAdmitted context observation.freshness) .unavailable
  pure { catalog with observations := catalog.observations ++ [observation] }

/-- The row `insertPageAssetAndDetail` writes for its first observation. -/
def pageAsset (item : NormalizedItem) (kind : Kind) (assetID : GoString) (observation : Observation) : Asset where
  id := assetID
  locator := context.locator
  environmentID := item.environmentID
  providerKind := item.providerKind
  externalID := item.externalID
  kind := kind
  displayName := item.displayName
  lifecycle := .discovered
  mappingStatus := .unresolved
  lastObservationID := observation.id
  lastObservationChainSHA256 := observation.observationChainSHA256
  lastObservedAt := context.acceptedAt
  lastSourceRevision := context.revision
  version := 1

def insertPageAsset (catalog : Catalog) (asset : Asset) : Except CommitError Catalog := do
  require (asset.id ∉ catalog.assets.map Asset.id ∧ asset.key ∉ catalog.assets.map Asset.key) .unavailable
  pure { catalog with assets := catalog.assets ++ [asset] }

/-- `SET mapping_status='AMBIGUOUS'` -/
def Asset.ambiguous (asset : Asset) : Asset :=
  { asset with mappingStatus := .ambiguous, version := asset.version + 1 }

/-- The row `insertPageFingerprintConflict` writes. -/
def fingerprintConflict (item : NormalizedItem) (conflictID : GoString) (candidate : Asset)
    (observation : Observation) : Conflict where
  id := conflictID
  scope := context.locator.scope
  environmentID := item.environmentID
  assetID := candidate.id
  candidateAssetID := none
  candidateServiceID := none
  sourceID := context.locator.sourceID
  observationID := observation.id
  conflictType := ascii "FINGERPRINT_COLLISION"
  fieldName := ascii "fingerprint_sha256"
  existingValueSHA256 := observation.fingerprintSHA256
  candidateValueSHA256 := observation.fingerprintSHA256
  status := .opened
  resolution := none
  resolutionReasonCode := []
  resolvedBy := []
  version := 1

def insertPageFingerprintConflict (catalog : Catalog) (candidate : Asset) (conflict : Conflict) :
    Except CommitError Catalog := do
  require (conflict.id ∉ catalog.conflicts.map Conflict.id) .unavailable
  let affected (asset : Asset) : Bool := decide (asset.id = candidate.id ∧ asset.version = candidate.version)
  let assets := if candidate.mappingStatus = .ambiguous then catalog.assets
    else Sql.update affected Asset.ambiguous catalog.assets
  pure { catalog with assets := assets, conflicts := catalog.conflicts ++ [conflict] }

structure ItemState where
  catalog : Catalog
  counts : PageCounts
  (providerFacts tombstonedAssets : List GoString)
  tombstonedItems : List (GoString × GoString)

def projectNewItem (state : ItemState) (item : NormalizedItem) (ids : PageItemIDs) : Except CommitError ItemState := do
  let facts ← orFail (buildPageItemFacts codec context item ids.observation none) .invalid
  let providerFacts := state.providerFacts ++ [facts.providerFactDigest]
  if item.tombstone then
    pure { state with
      providerFacts := providerFacts
      counts := { state.counts with missing := state.counts.missing + 1, rejected := state.counts.rejected + 1 } }
  else
    let observation := pageObservation context item facts ids.observation none
    let observed ← insertPageObservation context state.catalog observation
    match lockPageFingerprintCandidate collation context observed item facts.fingerprintDigest with
    | some candidate =>
      let catalog ← insertPageFingerprintConflict observed candidate
        (fingerprintConflict context item ids.conflict candidate observation)
      pure { state with
        catalog := catalog
        providerFacts := providerFacts
        counts := { state.counts with
          observed := state.counts.observed + 1
          conflict := state.counts.conflict + 1
          rejected := state.counts.rejected + 1 } }
    | none =>
      let kind ← orFail item.kind .unavailable
      let catalog ← insertPageAsset observed (pageAsset context item kind ids.asset observation)
      pure { state with
        catalog := catalog
        providerFacts := providerFacts
        counts := { state.counts with observed := state.counts.observed + 1, created := state.counts.created + 1 } }

/-- What `updatePageAssetAndDetail` sets: a tombstone takes an active asset to stale and keeps its name. -/
def advanceAsset (item : NormalizedItem) (observation : Observation) (asset : Asset) : Asset :=
  { asset with
    displayName := if item.tombstone then asset.displayName else item.displayName
    lifecycle := if item.tombstone ∧ asset.lifecycle = .active then .stale else asset.lifecycle
    lastObservationID := observation.id
    lastObservationChainSHA256 := observation.observationChainSHA256
    lastObservedAt := context.acceptedAt
    lastSourceRevision := context.revision
    version := asset.version + 1 }

def updatePageAsset (catalog : Catalog) (prior : Asset) (change : Asset → Asset) : Except CommitError Catalog := do
  let affected (asset : Asset) : Bool := decide (asset.id = prior.id ∧ asset.version = prior.version)
  require (catalog.assets.any affected) .unavailable
  pure { catalog with assets := Sql.update affected change catalog.assets }

def countKnown (counts : PageCounts) (item : NormalizedItem) (prior : PriorAsset) (providerFact : GoString) :
    PageCounts :=
  let changed := prior.observation.providerFactSHA256 ≠ providerFact
  { counts with
    observed := counts.observed + 1
    tombstoned := if item.tombstone then counts.tombstoned + 1 else counts.tombstoned
    stale := if item.tombstone ∧ prior.asset.lifecycle = .active then counts.stale + 1 else counts.stale
    restored := if ¬ item.tombstone ∧ prior.asset.lifecycle = .stale then counts.restored + 1 else counts.restored
    changed := if changed then counts.changed + 1 else counts.changed
    unchanged := if changed then counts.unchanged else counts.unchanged + 1 }

/-- A tombstone without a schema version is stored under the one of the last observation. -/
def persistedItem (item : NormalizedItem) (prior : PriorAsset) : NormalizedItem :=
  if item.tombstone ∧ item.schemaVersion = [] then { item with schemaVersion := prior.observation.schemaVersion }
  else item

def projectKnownItem (state : ItemState) (item : NormalizedItem) (ids : PageItemIDs) (prior : PriorAsset) :
    Except CommitError ItemState := do
  require (prior.asset.environmentID = item.environmentID) .conflict
  require (prior.observation.runID ≠ context.runID ∧ (item.tombstone ∨ item.kind = some prior.asset.kind)) .conflict
  require (prior.asset.lastObservedAt < context.acceptedAt) .acceptanceTimeRetry
  let persisted := persistedItem item prior
  let previous := some (prior.asset.lastObservationID, prior.asset.lastObservationChainSHA256)
  let facts ← orFail (buildPageItemFacts codec context persisted ids.observation previous) .invalid
  require (pageFreshnessAccepts context.revision persisted.freshness facts.providerFactDigest prior) .conflict
  let observation := pageObservation context persisted facts ids.observation previous
  let observed ← insertPageObservation context state.catalog observation
  let catalog ← updatePageAsset observed prior.asset (advanceAsset context persisted observation)
  pure {
    catalog := catalog
    counts := countKnown state.counts item prior facts.providerFactDigest
    providerFacts := state.providerFacts ++ [facts.providerFactDigest]
    tombstonedAssets := if item.tombstone then state.tombstonedAssets ++ [prior.asset.id] else state.tombstonedAssets
    tombstonedItems := if item.tombstone then state.tombstonedItems ++ [(item.environmentID, item.externalID)]
      else state.tombstonedItems }

def projectItem (state : ItemState) (slot : NormalizedItem × PageItemIDs) : Except CommitError ItemState := do
  require (¬ pageRunObjectExists context state.catalog slot.1) .conflict
  match lockPagePriorAsset context state.catalog slot.1 with
  | none => projectNewItem codec collation context state slot.1 slot.2
  | some prior => projectKnownItem codec context state slot.1 slot.2 prior

end Items

section Relations

variable (sha256Hex : GoString → GoString) (context : PageContext) (pageDigest : GoString)

def relationEndpoint (catalog : Catalog) (environmentID externalID : GoString) : Option Asset :=
  catalog.assets.find? fun asset => decide (asset.locator = context.locator ∧
    asset.environmentID = environmentID ∧ asset.externalID = externalID)

def isActiveEdge (sourceAssetID targetAssetID : GoString) (type : RelationshipType) (row : Relationship) : Bool :=
  decide (row.locator.scope = context.locator.scope ∧ row.sourceAssetID = sourceAssetID ∧
    row.targetAssetID = targetAssetID ∧ row.identity.type = type ∧ row.status = .active)

def projectedRelationship (relation : ObservedRelation) (row : Relationship) : Relationship :=
  { row with
    sourceRevision := context.revision
    canonicalRevisionDigest := context.admission.revision.canonicalRevisionDigest
    lastRunID := context.runID
    lastPageSequence := context.coordinates.pageSequence
    acceptedCheckpointVersion := context.acceptedCheckpointVersion
    runFenceEpoch := context.admission.run.fenceEpoch
    relationPageSHA256 := pageDigest
    confidence := relation.confidence
    freshness := relation.freshness
    relationFactSHA256 := relationFactDigest sha256Hex context relation
    status := .active
    version := row.version + 1 }

def newRelationship (relation : ObservedRelation) (relationshipID sourceAssetID targetAssetID : GoString) :
    Relationship where
  id := relationshipID
  locator := context.locator
  identity := relation.identity
  sourceRevision := context.revision
  canonicalRevisionDigest := context.admission.revision.canonicalRevisionDigest
  lastRunID := context.runID
  lastPageSequence := context.coordinates.pageSequence
  acceptedCheckpointVersion := context.acceptedCheckpointVersion
  runFenceEpoch := context.admission.run.fenceEpoch
  relationPageSHA256 := pageDigest
  sourceAssetID := sourceAssetID
  targetAssetID := targetAssetID
  confidence := relation.confidence
  freshness := relation.freshness
  relationFactSHA256 := relationFactDigest sha256Hex context relation
  provenance := .discovered
  crossEnvironmentPolicyReferenceID := relation.crossEnvironmentPolicyReferenceID
  status := .active
  version := 1

/-- The trigger on updates of relationships: a run changes a row once, and a row never moves back. -/
def relationshipMutationAdmitted (old new : Relationship) : Bool :=
  freshnessAdmitted context new.freshness && decide (new.lastRunID ≠ old.lastRunID) &&
    decide (old.sourceRevision < new.sourceRevision ∨ old.sourceRevision = new.sourceRevision ∧
      relationFreshnessAccepts new.freshness new.relationFactSHA256 old.freshness old.relationFactSHA256 = true)

def insertPageRelationship (catalog : Catalog) (row : Relationship) : Except CommitError Catalog := do
  require (¬ catalog.relationships.any (isActiveEdge context row.sourceAssetID row.targetAssetID row.identity.type))
    .conflict
  require (row.id ∉ catalog.relationships.map Relationship.id ∧ row.sourceAssetID ≠ row.targetAssetID ∧
    freshnessAdmitted context row.freshness) .unavailable
  pure { catalog with relationships := catalog.relationships ++ [row] }

def updatePageRelationship (catalog : Catalog) (existing : Relationship) (relation : ObservedRelation)
    (sourceAssetID targetAssetID : GoString) : Except CommitError Catalog := do
  let next := projectedRelationship sha256Hex context pageDigest relation existing
  require (¬ catalog.relationships.any fun row =>
    isActiveEdge context sourceAssetID targetAssetID relation.type row && decide (row.id ≠ existing.id)) .conflict
  require (existing.lastRunID ≠ context.runID ∧
    existing.crossEnvironmentPolicyReferenceID = relation.crossEnvironmentPolicyReferenceID ∧
    existing.sourceRevision ≤ context.revision ∧
    (existing.sourceRevision = context.revision →
      relationFreshnessAccepts relation.freshness next.relationFactSHA256 existing.freshness
        existing.relationFactSHA256 = true)) .conflict
  require (relationshipMutationAdmitted context existing next) .unavailable
  let affected (row : Relationship) : Bool := decide (row.id = existing.id ∧ row.version = existing.version)
  pure { catalog with
    relationships := Sql.update affected (projectedRelationship sha256Hex context pageDigest relation)
      catalog.relationships }

def projectPageRelation (catalog : Catalog) (slot : ObservedRelation × GoString) : Except CommitError Catalog := do
  let source ← orFail (relationEndpoint context catalog slot.1.sourceEnvironmentID slot.1.fromExternalID) .conflict
  let target ← orFail (relationEndpoint context catalog slot.1.targetEnvironmentID slot.1.toExternalID) .conflict
  match Sql.lookup Relationship.key (context.locator, slot.1.identity) catalog.relationships with
  | none =>
    insertPageRelationship context catalog
      (newRelationship sha256Hex context pageDigest slot.1 slot.2 source.id target.id)
  | some existing => updatePageRelationship sha256Hex context pageDigest catalog existing slot.1 source.id target.id

/-- What `inactivatePageRelationships` sets; the reported fact stays. -/
def inactivated (row : Relationship) : Relationship :=
  { row with
    sourceRevision := context.revision
    canonicalRevisionDigest := context.admission.revision.canonicalRevisionDigest
    lastRunID := context.runID
    lastPageSequence := context.coordinates.pageSequence
    acceptedCheckpointVersion := context.acceptedCheckpointVersion
    runFenceEpoch := context.admission.run.fenceEpoch
    relationPageSHA256 := pageDigest
    freshness := { row.freshness with
      orderSequence := if row.freshness.kind = .catalogSequence ∨ row.freshness.kind = .checkpointSequence then
          context.acceptedCheckpointVersion
        else row.freshness.orderSequence }
    status := .inactive
    version := row.version + 1 }

def isOpenRelationship (row : Relationship) : Bool :=
  decide (row.locator = context.locator ∧ row.status = .active ∧ row.provenance = .discovered ∧
    row.lastRunID ≠ context.runID)

def touches (assetID : GoString) (row : Relationship) : Bool :=
  decide (row.sourceAssetID = assetID ∨ row.targetAssetID = assetID)

/-- `inactivatePageRelationships` for the rows a condition selects. -/
def inactivatePageRelationships (catalog : Catalog) (selected : Relationship → Bool) : Except CommitError Catalog := do
  let affected (row : Relationship) : Bool := isOpenRelationship context row && selected row
  require (catalog.relationships.all fun row =>
    !affected row || relationshipMutationAdmitted context row (inactivated context pageDigest row)) .unavailable
  pure { catalog with
    relationships := Sql.update affected (inactivated context pageDigest) catalog.relationships }

/-- The relationships of a tombstoned asset; an edge this run reported cannot be taken back in the same run. -/
def inactivateTombstoned (catalog : Catalog) (assetID : GoString) : Except CommitError Catalog := do
  require (¬ catalog.relationships.any fun row => decide (row.locator = context.locator ∧ row.status = .active ∧
    row.lastRunID = context.runID) && touches assetID row) .conflict
  inactivatePageRelationships context pageDigest catalog (touches assetID)

end Relations

section Closure

variable (context : PageContext)

def isUnobserved (catalog : Catalog) (asset : Asset) : Bool :=
  decide (asset.locator = context.locator) && !catalog.observations.any fun observation =>
    decide (observation.key = asset.key ∧ observation.runID = context.runID)

def Asset.closed (asset : Asset) : Asset := { asset with lifecycle := .stale, version := asset.version + 1 }

/-- The assets `closeMissingPageAssets` takes to stale. -/
def isMissingActive (catalog : Catalog) (asset : Asset) : Bool :=
  isUnobserved context catalog asset && decide (asset.lifecycle = .active)

def closeMissingPageAssets (catalog : Catalog) : Catalog :=
  { catalog with assets := Sql.update (isMissingActive context catalog) Asset.closed catalog.assets }

def countMissing (counts : PageCounts) (catalog : Catalog) : PageCounts :=
  { counts with
    missing := counts.missing +
      catalog.assets.countP fun asset => isUnobserved context catalog asset && decide (asset.lifecycle ≠ .retired)
    stale := counts.stale + catalog.assets.countP (isMissingActive context catalog) }

end Closure

structure PageProjection where
  catalog : Catalog
  counts : PageCounts
  (itemPageDigest relationPageDigest : GoString)

section Page

variable (codec : Codec) (collation : GoString → GoString → Bool) (context : PageContext)

def sortedItems (items : List NormalizedItem) : List NormalizedItem := GoMap.sortSlice itemIdentityLess items

def projectItems (catalog : Catalog) (items : List NormalizedItem) (ids : List PageItemIDs) :
    Except CommitError ItemState :=
  ((sortedItems items).zip ids).foldlM (projectItem codec collation context)
    { catalog := catalog, counts := {}, providerFacts := [], tombstonedAssets := [], tombstonedItems := [] }

def namesTombstoned (state : ItemState) (relation : ObservedRelation) : Bool :=
  state.tombstonedItems.contains (relation.sourceEnvironmentID, relation.fromExternalID) ||
    state.tombstonedItems.contains (relation.targetEnvironmentID, relation.toExternalID)

/-- Only a complete snapshot in which no page rejected anything says what is missing. -/
def concludesAbsence (page : Page) (counts : PageCounts) : Bool :=
  page.finalPage && page.completeSnapshot && decide (context.admission.run.counts.rejected = 0) &&
    decide (counts.rejected = 0)

def closeSnapshot (pageDigest : GoString) (page : Page) (counts : PageCounts) (catalog : Catalog) :
    Except CommitError (Catalog × PageCounts) := do
  if concludesAbsence context page counts then
    let closed := closeMissingPageAssets context catalog
    let inactivated ← inactivatePageRelationships context pageDigest closed (fun _ => true)
    pure (inactivated, countMissing context counts catalog)
  else pure (catalog, counts)

def projectDiscoveryPage (catalog : Catalog) (page : Page) (ids : PageProjectionIDs) :
    Except CommitError PageProjection := do
  require (ids.items.length = page.items.length ∧ ids.relations.length = page.relations.length) .unavailable
  let state ← projectItems codec collation context catalog page.items ids.items
  let itemDigest ← orFail (aggregatePageItemDigest codec.sha256Hex ((sortedItems page.items).zip state.providerFacts))
    .invalid
  require (¬ page.relations.any (namesTombstoned state)) .conflict
  let relationDigest ← orFail (relationPageDigest codec.sha256Hex context page.relations) .invalid
  let related ← ((sortedRelations page.relations).zip ids.relations).foldlM
    (projectPageRelation codec.sha256Hex context relationDigest) state.catalog
  let detached ← state.tombstonedAssets.foldlM (inactivateTombstoned context relationDigest) related
  let (closed, counts) ← closeSnapshot context relationDigest page state.counts detached
  pure ⟨closed, counts, itemDigest, relationDigest⟩

end Page

end AiopsSystem.AssetCatalog
