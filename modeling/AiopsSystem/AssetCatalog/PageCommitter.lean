import AiopsSystem.AssetCatalog.Projection

/-! # Committing a page

`applyPageAttempt` is one serializable transaction: the rows of the run, the
source and the revision are locked, a receipt of the page ends the attempt with
the recorded result, and otherwise the facts are projected and the receipt, the
checkpoint of the source and the progress of the run are written together.
-/

namespace AiopsSystem.AssetCatalog

open Go

/-- `leasefence.Fence` -/
structure LeaseFence where
  (runID owner : GoString)
  epoch : Int
  tokenSHA256 : GoString
  active : Bool

/-- `fence.Matches` -/
def LeaseFence.matchesRun (fence : LeaseFence) (run : SourceRun) : Bool :=
  matchesHex 64 run.fenceTokenSHA256 && decide (fence.active = true ∧ fence.runID = run.id ∧
    fence.owner = run.leaseOwner ∧ fence.epoch = run.fenceEpoch ∧ fence.tokenSHA256 = run.fenceTokenSHA256)

structure CheckpointAAD where
  locator : SourceLocator
  providerKind : GoString
  checkpointRevision : Int
  (canonicalRevisionDigest sourceDefinitionDigest checkpointKeyID : GoString)
  checkpointVersion : Int
deriving DecidableEq

structure PageCommitResult where
  runID : GoString
  pageSequence : Int
  checkpointVersion : Int
  (checkpointSHA256 pageDigestSHA256 relationPageDigestSHA256 : GoString)
  (finalPage completeSnapshot replayed : Bool)

structure PolicyResolver where
  pageFactPolicy : SourceRevision → Option FactPolicy
  crossEnvironmentRelationPolicy : SourceRevision → RelationshipIdentity → Option GoString

structure Platform where
  screening : Screening
  /-- `jsoncanonicalizer.Transform` of a marshalled document. -/
  canonical : Json → Option GoString
  /-- The order of the database on texts. -/
  collation : GoString → GoString → Bool
  /-- The envelope of a checkpoint under a nonce. -/
  sealEnvelope : CheckpointAAD → Checkpoint → GoString → Except CommitError GoString
  replayIdentity : CheckpointAAD → Checkpoint → Except CommitError ReplayIdentity

def Platform.codec (platform : Platform) : Codec := ⟨platform.screening.sha256Hex, platform.canonical⟩

structure AttemptClock where
  (acceptedAt loadedAt stagedAt advancedAt checkedAt : Int)

structure PageAttempt where
  fence : LeaseFence
  coordinates : PageCommitCoordinates
  page : Page
  snapshot : PageAdmission
  aad : CheckpointAAD
  sealedCheckpoint : SealedCheckpoint
  semanticIdentity : GoString
  ids : PageProjectionIDs
  resolver : PolicyResolver
  clock : AttemptClock

def SourceRun.key (run : SourceRun) : SourceLocator × GoString := (run.locator, run.id)

def SourceRevision.key (revision : SourceRevision) : SourceLocator × Int := (revision.locator, revision.revision)

def PageReceipt.key (receipt : PageReceipt) : SourceScope × GoString × Int :=
  (receipt.scope, receipt.runID, receipt.pageSequence)

def loadPageAdmission (database : Database) (coordinates : PageCommitCoordinates) (now : Int) :
    Option PageAdmission := do
  let run ← Sql.lookup SourceRun.key (coordinates.locator, coordinates.runID) database.runs
  let source ← Sql.lookup Source.locator coordinates.locator database.sources
  let _ ← source.published
  let revision ← Sql.lookup SourceRevision.key (coordinates.locator, run.sourceRevision) database.revisions
  pure ⟨run, decide (now < run.leaseExpiresAt), source, revision⟩

def checkpointAAD (admission : PageAdmission) (keyID : GoString) : CheckpointAAD where
  locator := admission.run.locator
  providerKind := admission.source.providerKind
  checkpointRevision := admission.revision.revision
  canonicalRevisionDigest := admission.revision.canonicalRevisionDigest
  sourceDefinitionDigest := admission.revision.sourceDefinitionDigest
  checkpointKeyID := keyID
  checkpointVersion := admission.run.checkpointVersion + 1

def validPageLineageState (source : Source) (run : SourceRun) : Bool :=
  decide (source.gateStatus = .available ∧ source.gateReason = [] ∧ source.gateRevision = run.gateRevision ∧
    run.lineageRolloverReason = [] ∧ run.lineageRolloverEvidenceSHA256 = []) ||
  decide (source.gateStatus = .degraded ∧ source.gateReason = ascii "CHECKPOINT_LINEAGE_ROLLOVER" ∧
    source.gateRevision = run.gateRevision + 1 ∧ run.lineageRolloverReason ≠ [] ∧
    matchesHex 64 run.lineageRolloverEvidenceSHA256 = true)

def validCheckpointBefore (source : Source) (run : SourceRun) : Bool :=
  let expected := if run.cursorAfterSHA256 = [] then run.cursorBeforeSHA256 else run.cursorAfterSHA256
  decide (source.checkpointSHA256 = expected) &&
    if source.checkpointVersion = 0 then
      decide (source.checkpointCiphertext = [] ∧ source.checkpointKeyID = [] ∧ source.checkpointSHA256 = [])
    else decide (source.checkpointCiphertext ≠ [] ∧ source.checkpointKeyID ≠ [] ∧
      matchesHex 64 source.checkpointSHA256 = true)

def runAdmitted (admission : PageAdmission) (coordinates : PageCommitCoordinates) : Bool :=
  let run := admission.run
  decide (run.id = coordinates.runID ∧ run.locator = coordinates.locator ∧ run.runKind ≠ .validation ∧
    run.status = .running ∧ (run.stageCode = .normalizing ∨ run.stageCode = .applying) ∧ run.finalPage = false ∧
    run.pageSequence + 1 = coordinates.pageSequence ∧ run.relationPageSequence = run.pageSequence ∧
    run.checkpointVersion = admission.source.checkpointVersion)

def sourceAdmitted (admission : PageAdmission) : Bool :=
  let run := admission.run
  let source := admission.source
  let revision := admission.revision
  decide (source.published = some (run.sourceRevision, run.sourceRevisionDigest) ∧
    run.sourceRevision = revision.revision ∧ run.sourceRevisionDigest = revision.canonicalRevisionDigest ∧
    source.status = .active ∧ revision.status = .published ∧ source.checkpointRevision = revision.revision ∧
    source.providerKind ≠ [] ∧
    source.providerKind = (revision.manifest.map ProfileManifest.providerKind).getD [] ∧
    revision.wellFormed = true) && validPageLineageState source run && validCheckpointBefore source run

def leaseAdmitted (admission : PageAdmission) (fence : LeaseFence) : Bool :=
  let run := admission.run
  decide (run.leaseOwner ≠ [] ∧ 0 < run.fenceEpoch ∧ admission.leaseCurrent = true) && fence.matchesRun run

def validatePageAdmission (admission : PageAdmission) (coordinates : PageCommitCoordinates) (fence : LeaseFence) :
    Except CommitError Unit :=
  require (runAdmitted admission coordinates ∧ sourceAdmitted admission ∧ leaseAdmitted admission fence) .conflict

def exactPageFactPolicy (admission : PageAdmission) (policy : FactPolicy) : Bool :=
  admission.revision.manifest.any fun manifest =>
    decide (manifest.providerKind = admission.source.providerKind ∧
      manifest.profileCode = admission.revision.profileCode ∧ policy.providerKind = manifest.providerKind ∧
      policy.freshnessKind = manifest.freshnessKind ∧ policy.environmentMapping = manifest.environmentMapping ∧
      policy.authorityEnvironmentIDs = admission.revision.authorityEnvironmentIDs ∧
      policy.trustedPathCodes = manifest.trustedPathCodes ∧ policy.relationshipTypes = manifest.relationshipTypes)

def authorizeCrossEnvironmentRelation (resolver : PolicyResolver) (revision : SourceRevision)
    (relation : ObservedRelation) : Except CommitError Unit :=
  if relation.sourceEnvironmentID = relation.targetEnvironmentID then pure ()
  else do
    let expected ← orFail (resolver.crossEnvironmentRelationPolicy revision relation.identity) .unavailable
    require (matchesReference 127 expected) .unavailable
    require (expected = relation.crossEnvironmentPolicyReferenceID) .invalid

def readPageReceipt (database : Database) (coordinates : PageCommitCoordinates) : Option PageReceipt :=
  Sql.lookup PageReceipt.key (coordinates.locator.scope, coordinates.runID, coordinates.pageSequence)
    database.receipts

def commitResult (coordinates : PageCommitCoordinates) (result : PageReceiptResult) (replayed : Bool) :
    PageCommitResult where
  runID := coordinates.runID
  pageSequence := coordinates.pageSequence
  checkpointVersion := result.checkpointVersion
  checkpointSHA256 := result.checkpointSHA256
  pageDigestSHA256 := result.pageDigestSHA256
  relationPageDigestSHA256 := result.relationPageDigestSHA256
  finalPage := result.finalPage
  completeSnapshot := result.completeSnapshot
  replayed := replayed

def PageReceipt.aad (receipt : PageReceipt) (locator : SourceLocator) : CheckpointAAD where
  locator := locator
  providerKind := receipt.providerKind
  checkpointRevision := receipt.checkpointRevision
  canonicalRevisionDigest := receipt.canonicalRevisionDigest
  sourceDefinitionDigest := receipt.sourceDefinitionDigest
  checkpointKeyID := receipt.checkpointKeyID
  checkpointVersion := receipt.result.checkpointVersion

section Attempt

variable (platform : Platform) (database : Database) (attempt : PageAttempt)

def replayReceipt (coordinates : PageCommitCoordinates) (page : Page) (receipt : PageReceipt) :
    Except CommitError PageCommitResult := do
  require (page.nextCheckpoint.profileCode = receipt.profileCode) .invalid
  let replay ← platform.replayIdentity (receipt.aad coordinates.locator) page.nextCheckpoint
  let identity ← orFail (pageSemanticIdentity platform.screening.sha256Hex coordinates page replay) .invalid
  require (identity = receipt.semanticIdentitySHA256 ∧ receipt.payloadHash = receipt.result.pageDigestSHA256)
    .conflict
  pure (commitResult coordinates receipt.result true)

def checkPageFacts (locked : PageAdmission) : Except CommitError Unit := do
  let policy ← orFail (attempt.resolver.pageFactPolicy locked.revision) .unavailable
  require (exactPageFactPolicy locked policy ∧ (validateFacts platform.screening [] [] policy).isOk) .unavailable
  require ((validateFacts platform.screening attempt.page.items attempt.page.relations policy).isOk) .invalid
  attempt.page.relations.forM (authorizeCrossEnvironmentRelation attempt.resolver locked.revision)

/-- `advancePageRunStageSQL` -/
def SourceRun.staged (run : SourceRun) : SourceRun :=
  if run.stageCode = .normalizing then { run with stageCode := .applying, version := run.version + 1 } else run

def PageAdmission.staged (admission : PageAdmission) : PageAdmission := { admission with run := admission.run.staged }

def PageAttempt.context (locked : PageAdmission) : PageContext where
  admission := locked.staged
  coordinates := attempt.coordinates
  acceptedAt := attempt.clock.acceptedAt

def receiptResult (projection : PageProjection) (pageDigest : GoString) : PageReceiptResult where
  checkpointVersion := attempt.sealedCheckpoint.checkpointVersion
  checkpointSHA256 := attempt.sealedCheckpoint.checkpointSHA256
  pageDigestSHA256 := pageDigest
  relationPageDigestSHA256 := projection.relationPageDigest
  finalPage := attempt.page.finalPage
  completeSnapshot := attempt.page.completeSnapshot

/-- `insertPageReceipts` -/
def pageReceipt (locked : PageAdmission) (result : PageReceiptResult) : PageReceipt where
  scope := locked.run.locator.scope
  runID := attempt.coordinates.runID
  pageSequence := attempt.coordinates.pageSequence
  payloadHash := result.pageDigestSHA256
  profileCode := locked.revision.profileCode
  semanticIdentitySHA256 := attempt.semanticIdentity
  providerKind := locked.source.providerKind
  checkpointRevision := attempt.aad.checkpointRevision
  canonicalRevisionDigest := attempt.aad.canonicalRevisionDigest
  sourceDefinitionDigest := attempt.aad.sourceDefinitionDigest
  checkpointKeyID := attempt.aad.checkpointKeyID
  result := result

/-- `advancePageSourceCheckpointSQL` -/
def advanceCheckpoint (revision : Int) (checkpoint : SealedCheckpoint) (source : Source) : Source :=
  { source with
    checkpointCiphertext := checkpoint.envelope
    checkpointKeyID := checkpoint.checkpointKeyID
    checkpointSHA256 := checkpoint.checkpointSHA256
    checkpointRevision := revision
    checkpointVersion := checkpoint.checkpointVersion
    version := source.version + 1 }

/-- `advancePageRunSQL` -/
def advanceRun (projection : PageProjection) (pageDigest : GoString) (run : SourceRun) : SourceRun :=
  let page := attempt.page
  { run with
    status := if page.finalPage then .finalizing else .running
    stageCode := if page.finalPage then .cleaningUp else .reading
    pageSequence := attempt.coordinates.pageSequence
    pageDigest := pageDigest
    relationPageSequence := attempt.coordinates.pageSequence
    relationPageDigest := projection.relationPageDigest
    checkpointVersion := attempt.sealedCheckpoint.checkpointVersion
    cursorAfterSHA256 := attempt.sealedCheckpoint.checkpointSHA256
    counts := run.counts.add projection.counts
    finalPage := page.finalPage
    completeSnapshot := page.completeSnapshot
    effectiveComplete := page.finalPage && page.completeSnapshot &&
      decide (run.counts.rejected + projection.counts.rejected = 0)
    heartbeatSequence := run.heartbeatSequence + 1
    version := run.version + 1 }

def committedPage (locked : PageAdmission) (projection : PageProjection) (pageDigest : GoString) : Database :=
  { database with
    catalog := projection.catalog
    receipts := database.receipts ++ [pageReceipt attempt locked (receiptResult attempt projection pageDigest)]
    sources := Sql.update (fun source => decide (source.locator = attempt.coordinates.locator))
      (advanceCheckpoint locked.revision.revision attempt.sealedCheckpoint) database.sources
    runs := Sql.update (fun run => decide (run.key = (attempt.coordinates.locator, attempt.coordinates.runID)))
      (fun run => advanceRun attempt projection pageDigest run.staged) database.runs }

/-- The attempt found the rows as the caller saw them, the lease held to the end, and nothing refused the page. -/
def commitPage (locked : PageAdmission) : Except CommitError (Database × PageCommitResult) := do
  require (attempt.snapshot = locked ∧ checkpointAAD locked attempt.aad.checkpointKeyID = attempt.aad) .conflict
  require (attempt.page.nextCheckpoint.profileCode = locked.revision.profileCode) .conflict
  validatePageAdmission locked attempt.coordinates attempt.fence
  checkPageFacts platform attempt locked
  require (locked.run.stageCode = .normalizing → attempt.clock.stagedAt < locked.run.leaseExpiresAt) .conflict
  let projection ← projectDiscoveryPage platform.codec platform.collation (attempt.context locked)
    database.catalog attempt.page attempt.ids
  let pageDigest ← orFail (committedPageDigest platform.screening.sha256Hex (attempt.context locked) attempt.page
    attempt.sealedCheckpoint projection.itemPageDigest projection.relationPageDigest attempt.semanticIdentity
    projection.counts) .unavailable
  -- The table refuses a checkpoint version that does not follow the stored one.
  require (attempt.sealedCheckpoint.checkpointVersion = locked.source.checkpointVersion + 1) .unavailable
  require (attempt.clock.advancedAt < locked.run.leaseExpiresAt) .conflict
  require (attempt.clock.checkedAt < locked.run.leaseExpiresAt ∧ attempt.fence.matchesRun locked.run) .conflict
  pure (committedPage database attempt locked projection pageDigest,
    commitResult attempt.coordinates (receiptResult attempt projection pageDigest) false)

def applyPageAttempt : Except CommitError (Database × PageCommitResult) := do
  let locked ← orFail (loadPageAdmission database attempt.coordinates attempt.clock.loadedAt) .unavailable
  match readPageReceipt database attempt.coordinates with
  | some receipt =>
    let result ← replayReceipt platform attempt.coordinates attempt.page receipt
    pure (database, result)
  | none => commitPage platform database attempt locked

end Attempt

end AiopsSystem.AssetCatalog
