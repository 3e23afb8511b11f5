import AiopsSystem.Credential.MemoryRecord
import AiopsSystem.Go.Section

/-! # The in-memory credential repository

Each operation is a section over the repository: what it wrote stays when it
returns an error afterwards. The reads an operation makes outside the lock, and
every answer of a collaborator, come from its environment, numbered in the
order in which the operation asks for them.
-/

namespace AiopsSystem.Credential

open Go Go.Section

structure MemoryRepository where
  records : GoMap GoString MemoryRevocationRecord
  actionEpochs : GoMap GoString GoString

def newMemoryRepository : MemoryRepository where
  records := ∅
  actionEpochs := ∅

inductive ContextState where
  | absent
  | ended
  | live
deriving DecidableEq

/-- One call of `WithLockedActionInspection`: the inspections the source hands to the callback, one for
each time it invokes it, and the error it returns after the first invocation ended with a given error. -/
structure AtomicSource where
  inspections : List ActionInspection
  returned : Option CredentialError → Option CredentialError

structure Environment where
  context : ContextState
  /-- The context has ended by the time a collaborator fails. -/
  interrupted : Bool
  clock : Nat → Int
  /-- `ResolveActionFence`, `none` when it fails. -/
  resolve : Nat → Option ActionMetadata
  /-- The atomic action source, or none when the repository was given a plain one. -/
  source : Option (Nat → GoString → AtomicSource)
  protector : ReferenceProtector
  permit : Option GoString
  token : Nat → Option GoString
  /-- One order for every map the operation ranges over. -/
  visit : RangeOrder GoString

namespace MemoryRepository

def record? (repository : MemoryRepository) (id : GoString) : Option MemoryRevocationRecord :=
  repository.records.get? id

def store (id : GoString) (record : MemoryRevocationRecord) (repository : MemoryRepository) : MemoryRepository :=
  { repository with records := repository.records.insert id record }

def enroll (request : PrepareRequest) (record : MemoryRevocationRecord) (repository : MemoryRepository) :
    MemoryRepository where
  records := repository.records.insert request.revocationID record
  actionEpochs := repository.actionEpochs.insert (actionEpochKey request.fence.actionID request.fence.epoch)
    request.revocationID

theorem record?_enroll (repository : MemoryRepository) (request : PrepareRequest) (record : MemoryRevocationRecord)
    (other : GoString) :
    (repository.enroll request record).record? other =
      if other = request.revocationID then some record else repository.record? other :=
  GoMap.get?_insert _ _ _ _

theorem record?_store (repository : MemoryRepository) (id other : GoString) (record : MemoryRevocationRecord) :
    (repository.store id record).record? other = if other = id then some record else repository.record? other :=
  GoMap.get?_insert _ _ _ _

theorem store_store (repository : MemoryRepository) (id : GoString) (record record' : MemoryRevocationRecord) :
    (repository.store id record).store id record' = repository.store id record' := by
  unfold store
  rw [Finmap.insert_insert]

end MemoryRepository

abbrev Locked := Section CredentialError MemoryRepository

def contextError (env : Environment) : Except CredentialError Unit := do
  require (env.context ≠ .absent) .invalidRevocationRequest
  require (env.context ≠ .ended) .contextDone

def resolveAction (env : Environment) (n : Nat) (fence : ActionFence) (now : Int) :
    Except CredentialError ActionMetadata := do
  let metadata ← orFail (env.resolve n) (if env.interrupted then .contextDone else .staleActionFence)
  require (metadata.actionID = fence.actionID ∧ metadata.runnerID = fence.runnerID ∧
    metadata.leaseEpoch = fence.epoch ∧ (metadata.status = .leased ∨ metadata.status = .running) ∧
    now < metadata.leaseExpiresAt ∧ now < metadata.authorizationExpiresAt ∧
    validIdentifier metadata.tenantID 256 ∧ validIdentifier metadata.workspaceID 256 ∧
    validIdentifier metadata.environmentID 256 ∧ validIdentifier metadata.targetKey 512 ∧
    validIdentifier metadata.actionType 256 ∧ validCredentialTTLSeconds metadata.credentialTTLSeconds ∧
    validOpaqueText metadata.connectorID 256 ∧ validOpaqueText metadata.permission 256 ∧
    validOpaqueText metadata.resource 2048) .staleActionFence
  return metadata

def resolvePrepareAction (env : Environment) (n : Nat) (fence : ActionFence) (now : Int) :
    Except CredentialError ActionMetadata := do
  let metadata ← resolveAction env n fence now
  let minimumExpiry := now + minPrepareFenceWindow
  require (minimumExpiry ≤ metadata.leaseExpiresAt ∧ minimumExpiry ≤ metadata.authorizationExpiresAt)
    .staleActionFence
  return metadata

/-- The callback runs at most once; a source that invokes it more often fails the call, but only after the
first invocation has had its effect. -/
def withLockedActionInspection {α : Type} (env : Environment) (n : Nat) (actionID : GoString)
    (operation : ActionInspection → Locked α) : Locked α :=
  match env.source with
  | none => throw .atomicActionSourceRequired
  | some source =>
    match (source n actionID).inspections with
    | [] =>
      if env.interrupted then throw .contextDone
      else if (source n actionID).returned none = none then throw .atomicActionSourceRequired
      else throw .staleActionFence
    | inspection :: again => fun repository =>
      match (operation inspection).exec repository with
      | (.error failure, repository') =>
        (.error (if again = [] then failure else .atomicActionSourceRequired), repository')
      | (.ok value, repository') =>
        if again ≠ [] then (.error .atomicActionSourceRequired, repository')
        else match (source n actionID).returned none with
          | none => (.ok value, repository')
          | some failure => (.error failure, repository')

section Operations

variable (sha256Hex : GoString → GoString) (env : Environment)

/-- What `Prepare` does before it takes the lock: it reads the action twice. -/
def prepareReads (request : PrepareRequest) : Except CredentialError ActionMetadata := do
  let now := env.clock 0
  require (validRevocationID request.revocationID ∧ validActionFence request.fence ∧
    validOpaqueText request.issuer 256 ∧ validIdentifier request.issuerRevision 256 ∧
    request.credentialExpiresAt ≠ 0 ∧ now < request.credentialExpiresAt ∧
    request.credentialExpiresAt ≤ canonicalCredentialExpiry (now + maxCredentialTTL)) .invalidRevocationRequest
  let metadata ← resolvePrepareAction env 0 request.fence now
  require (metadata.production = false) .invalidRevocationRequest
  require (request.credentialExpiresAt ≤ metadata.authorizationExpiresAt ∧
    request.credentialExpiresAt ≤ signedCredentialExpiry now metadata.credentialTTLSeconds) .invalidRevocationRequest
  let revalidatedAt := env.clock 1
  let revalidated ← resolvePrepareAction env 1 request.fence revalidatedAt
  require (sameActionScope metadata revalidated) .staleActionFence
  require (request.credentialExpiresAt ≤ revalidated.authorizationExpiresAt ∧
    request.credentialExpiresAt ≤ signedCredentialExpiry revalidatedAt revalidated.credentialTTLSeconds)
    .staleActionFence
  return revalidated

def prepareLocked (request : PrepareRequest) (metadata : ActionMetadata) : Locked PrepareResult := do
  let repository ← get
  match repository.actionEpochs.get? (actionEpochKey request.fence.actionID request.fence.epoch) with
  | some existingID =>
    let existing ← found (repository.record? existingID) .idempotencyConflict
    ensure (samePrepare existing.revocation request metadata ∧
      existing.actionTokenSHA256 = sha256Hex request.fence.token) .idempotencyConflict
    ensure ((repository.record? request.revocationID).isNone ∨ request.revocationID = existingID) .idempotencyConflict
    return { revocation := existing.revocation, created := false, permit := none }
  | none =>
    match repository.record? request.revocationID with
    | some existing =>
      ensure (samePrepare existing.revocation request metadata ∧
        existing.actionTokenSHA256 = sha256Hex request.fence.token) .idempotencyConflict
      return { revocation := existing.revocation, created := false, permit := none }
    | none =>
      let permitToken ← found env.permit .revocationPersistence
      ensure (validOpaqueText permitToken 4096) .revocationPersistence
      let record := MemoryRevocationRecord.preparing sha256Hex request metadata permitToken (env.clock 0)
      modify (·.enroll request record)
      return {
        revocation := record.revocation
        created := true
        permit := some { revocationID := request.revocationID, token := permitToken } }

def prepare (request : PrepareRequest) : Locked PrepareResult := do
  attempt (contextError env)
  let request := request.canonical
  let metadata ← attempt (prepareReads env request)
  prepareLocked sha256Hex env request metadata

def authorizeChildCreateLocked (request : AuthorizeChildCreateRequest) (inspection : ActionInspection) :
    Locked ChildCreateAuthorization := do
  let now := env.clock 0
  let repository ← get
  let record ← found (repository.record? request.permit.revocationID) .revocationNotFound
  ensure (record.frozenActionFenceMatches sha256Hex request.fence ∧
    inspectionScopeMatches record.revocation inspection.metadata ∧
    record.revocation.credentialExpiresAt ≤ inspection.metadata.authorizationExpiresAt ∧
    record.inspectionFenceCurrent inspection now 0) .staleActionFence
  let minimumExpiry := now + (childCreateExpiryReserve + minPostChildFenceWindow)
  ensure (minimumExpiry ≤ inspection.metadata.leaseExpiresAt ∧
    minimumExpiry ≤ inspection.metadata.authorizationExpiresAt) .staleActionFence
  ensure (record.childCreatePermitSHA256 = sha256Hex request.permit.token) .staleChildCreatePermit
  ensure (record.revocation.status = .prepared ∧ record.protectedReference.ciphertext = []) .invalidTransition
  ensure (record.childCreateAuthorizedAt = 0) .childCreateAlreadyAuthorized
  let remaining := timeSub record.revocation.credentialExpiresAt now - childCreateExpiryReserve
  let ttl := remaining.tdiv vaultTTLQuantum * vaultTTLQuantum
  ensure (minChildCreateTTL ≤ ttl) .childCreateWindowExpired
  modify (·.store request.permit.revocationID (record.childCreateAuthorized now ttl))
  return {
    revocation := (record.childCreateAuthorized now ttl).revocation
    databaseAuthorizedAt := now
    credentialExpiresAt := record.revocation.credentialExpiresAt
    ttl := ttl
    vaultCallBudget := childCreateVaultCallBudget }

def authorizeChildCreate (request : AuthorizeChildCreateRequest) : Locked ChildCreateAuthorization := do
  attempt (contextError env)
  ensure (validRevocationID request.permit.revocationID ∧ validOpaqueText request.permit.token 4096 ∧
    validActionFence request.fence) .invalidRevocationRequest
  withLockedActionInspection env 0 request.fence.actionID (authorizeChildCreateLocked sha256Hex env request)

/-- `if !current { if applyErr := applyRequestRevocation(record, now); applyErr != nil { return applyErr } }` -/
def requestUnless (current : Prop) [Decidable current] (id : GoString) (record : MemoryRevocationRecord) (now : Int) :
    Locked Revocation :=
  if current then return record.revocation
  else do
    let record' ← attempt (record.applyRequestRevocation now)
    modify (·.store id record')
    return record'.revocation

def recordAnchorLocked (request : RecordAnchorRequest) (inspection : ActionInspection) : Locked Revocation := do
  let now := env.clock 0
  let finalNow := env.clock 1
  let repository ← get
  let record ← found (repository.record? request.revocationID) .revocationNotFound
  ensure (record.frozenActionFenceMatches sha256Hex request.fence ∧
    inspectionScopeMatches record.revocation inspection.metadata) .staleActionFence
  ensure (record.childCreateAuthorizedAt ≠ 0) .invalidTransition
  if record.revocation.status ≠ .prepared then do
    ensure (record.revocation.status ≠ .noCredential ∧ record.revocation.status ≠ .revoked ∧
      record.protectedReference.ciphertext ≠ []) .invalidTransition
    let matching ← found (env.protector.matchesReference (referenceContext record.revocation)
      record.protectedReference request.accessor) .referenceProtection
    ensure (matching = true) .idempotencyConflict
    requestUnless ((record.revocation.status = .anchored ∨ record.revocation.status = .active) →
      record.inspectionFenceCurrent inspection now 0 ∧
        record.inspectionFenceCurrent inspection finalNow minPostChildFenceWindow)
      request.revocationID record finalNow
  else do
    let reference ← found (env.protector.protect (referenceContext record.revocation) request.accessor)
      .referenceProtection
    -- The fence is compared before the record is changed, but none of the fields it reads changes.
    modify (·.store request.revocationID (record.anchored reference finalNow))
    requestUnless (record.inspectionFenceCurrent inspection now 0 ∧
      record.inspectionFenceCurrent inspection finalNow minPostChildFenceWindow)
      request.revocationID (record.anchored reference finalNow) finalNow

def recordAnchor (request : RecordAnchorRequest) : Locked Revocation := do
  attempt (contextError env)
  ensure (validRevocationID request.revocationID ∧ validActionFence request.fence ∧
    validSensitiveReference request.accessor) .invalidRevocationRequest
  withLockedActionInspection env 0 request.fence.actionID (recordAnchorLocked sha256Hex env request)

def activateLocked (request : ActionTransitionRequest) (inspection : ActionInspection) : Locked Revocation := do
  let now := env.clock 0
  let finalNow := env.clock 1
  let repository ← get
  let record ← found (repository.record? request.revocationID) .revocationNotFound
  ensure (record.frozenActionFenceMatches sha256Hex request.fence ∧
    inspectionScopeMatches record.revocation inspection.metadata) .staleActionFence
  match record.revocation.status with
  | .anchored =>
    if record.inspectionFenceCurrent inspection now 0 then do
      modify (·.store request.revocationID (record.activated now))
      requestUnless ((record.activated now).inspectionFenceCurrent inspection finalNow minPostChildFenceWindow)
        request.revocationID (record.activated now) finalNow
    else requestUnless False request.revocationID record now
  | .active =>
    requestUnless (record.inspectionFenceCurrent inspection finalNow minPostChildFenceWindow)
      request.revocationID record finalNow
  | .revocationPending | .revoking | .manualRequired | .revoked => return record.revocation
  | .prepared | .noCredential => throw .invalidTransition

def activate (request : ActionTransitionRequest) : Locked Revocation := do
  attempt (contextError env)
  ensure (validRevocationID request.revocationID ∧ validActionFence request.fence) .invalidRevocationRequest
  withLockedActionInspection env 0 request.fence.actionID (activateLocked sha256Hex env request)

def actionRecordMatches (record : MemoryRevocationRecord) (fence : ActionFence) (metadata : ActionMetadata) : Prop :=
  record.revocation.actionID = fence.actionID ∧ record.revocation.runnerID = fence.runnerID ∧
    record.revocation.actionLeaseEpoch = fence.epoch ∧ record.actionTokenSHA256 = sha256Hex fence.token ∧
    record.revocation.tenantID = metadata.tenantID ∧ record.revocation.workspaceID = metadata.workspaceID ∧
    record.revocation.environmentID = metadata.environmentID ∧ record.revocation.targetKey = metadata.targetKey ∧
    record.revocation.production = metadata.production ∧ record.revocation.actionType = metadata.actionType ∧
    record.revocation.credentialTTLSeconds = metadata.credentialTTLSeconds ∧
    record.revocation.connectorID = metadata.connectorID ∧ record.revocation.permission = metadata.permission ∧
    record.revocation.resource = metadata.resource

instance (record : MemoryRevocationRecord) (fence : ActionFence) (metadata : ActionMetadata) :
    Decidable (actionRecordMatches sha256Hex record fence metadata) := by
  unfold actionRecordMatches
  infer_instance

/-- A transition of one record under an action fence; the action is read once, before the lock. -/
def actionTransition (request : ActionTransitionRequest)
    (transition : MemoryRevocationRecord → Int → Except CredentialError MemoryRevocationRecord) :
    Locked Revocation := do
  attempt (contextError env)
  ensure (validRevocationID request.revocationID ∧ validActionFence request.fence) .invalidRevocationRequest
  let now := env.clock 0
  let metadata ← attempt (resolveAction env 0 request.fence now)
  let repository ← get
  let record ← found (repository.record? request.revocationID) .revocationNotFound
  ensure (actionRecordMatches sha256Hex record request.fence metadata) .staleActionFence
  let record' ← attempt (transition record now)
  modify (·.store request.revocationID record')
  return record'.revocation

def noCredentialTransition (record : MemoryRevocationRecord) (now : Int) :
    Except CredentialError MemoryRevocationRecord :=
  match record.revocation.status with
  | .prepared => do
    require (record.childCreateAuthorizedAt = 0) .invalidTransition
    return record.withoutCredential now
  | .noCredential => .ok record
  | _ => .error .invalidTransition

def recordNoCredential (request : ActionTransitionRequest) : Locked Revocation :=
  actionTransition sha256Hex env request noCredentialTransition

def candidates (repository : MemoryRepository) (test : MemoryRevocationRecord → Bool)
    (less : MemoryRevocationRecord → MemoryRevocationRecord → Bool) : List (GoString × MemoryRevocationRecord) :=
  GoMap.sortSlice (fun left right => less left.2 right.2)
    ((repository.records.ranged env.visit).filter (fun entry => test entry.2))

def earlier (instant : MemoryRevocationRecord → Int) (left right : MemoryRevocationRecord) : Bool :=
  if instant left ≠ instant right then instant left < instant right
  else textLess left.revocation.id right.revocation.id

def preparedRecoverable (now : Int) (record : MemoryRevocationRecord) : Bool :=
  record.revocation.status = .prepared ∧ record.protectedReference.ciphertext = [] ∧
    record.revocation.credentialExpiresAt + preparedRecoveryGrace ≤ now

def changeAll (change : MemoryRevocationRecord → MemoryRevocationRecord) :
    List (GoString × MemoryRevocationRecord) → Locked (List Revocation)
  | [] => return []
  | (id, record) :: rest => do
    modify (·.store id (change record))
    let changed ← changeAll change rest
    return (change record).revocation :: changed

def recoverPrepared (limit : Int) : Locked (List Revocation) := do
  attempt (contextError env)
  ensure (1 ≤ limit ∧ limit ≤ maxRevocationClaimBatch) .invalidRevocationRequest
  let now := env.clock 0
  let repository ← get
  let selected := candidates env repository (preparedRecoverable now) (earlier (·.revocation.credentialExpiresAt))
  changeAll (·.withoutCredential now) (selected.take limit.toNat)

def managedStatus (record : MemoryRevocationRecord) : Bool :=
  record.revocation.status = .anchored ∨ record.revocation.status = .active

def managedAt (record : MemoryRevocationRecord) : Int :=
  if record.revocation.status = .active then record.revocation.activatedAt else record.revocation.anchoredAt

def recoverManagedLocked (n : Nat) (id : GoString) (inspection : ActionInspection) : Locked (Option Revocation) := do
  let now := env.clock n
  let repository ← get
  match repository.record? id with
  | none => return none
  | some record =>
    if managedStatus record = false ∨
        (inspectionScopeMatches record.revocation inspection.metadata ∧
          record.inspectionFenceCurrent inspection now minPostChildFenceWindow ∧
          ¬ (record.revocation.status = .anchored ∧
            record.revocation.anchoredAt + managedAnchorRecoveryGrace ≤ now)) then
      return none
    else do
      let record' ← attempt (record.applyRequestRevocation now)
      modify (·.store id record')
      return some record'.revocation

/-- The section of `RecoverManaged` for its candidate with this number. -/
def recoverManagedItem (n : Nat) (id actionID : GoString) : Locked (Option Revocation) :=
  withLockedActionInspection env n actionID (recoverManagedLocked env n id)

/-- The records `RecoverManaged` has transitioned so far, with the error that stopped it, if any. -/
structure ManagedRecovery where
  recovered : List Revocation
  failure : Option CredentialError

/-- The loop of `RecoverManaged`; it takes and releases the lock for every candidate. -/
def recoverManagedItems (limit : Nat) :
    Nat → List (GoString × MemoryRevocationRecord) → List Revocation → MemoryRepository →
      ManagedRecovery × MemoryRepository
  | _, [], recovered, repository => ({ recovered := recovered, failure := none }, repository)
  | n, (id, record) :: rest, recovered, repository =>
    if recovered.length = limit then ({ recovered := recovered, failure := none }, repository)
    else match (recoverManagedItem env n id record.revocation.actionID).exec repository with
      | (.error failure, repository') => ({ recovered := recovered, failure := some failure }, repository')
      | (.ok none, repository') => recoverManagedItems limit (n + 1) rest recovered repository'
      | (.ok (some transitioned), repository') =>
        recoverManagedItems limit (n + 1) rest (recovered ++ [transitioned]) repository'

def recoverManaged (limit : Int) : Locked ManagedRecovery := do
  attempt (contextError env)
  ensure (1 ≤ limit ∧ limit ≤ maxRevocationClaimBatch) .invalidRevocationRequest
  let repository ← get
  let selected := candidates env repository managedStatus (earlier managedAt)
  fun repository =>
    let (recovery, repository') := recoverManagedItems env limit.toNat 0 selected [] repository
    (.ok recovery, repository')

def revocationExhaustible (now : Int) (record : MemoryRevocationRecord) : Bool :=
  (record.revocation.status = .revocationPending ∨
    record.revocation.status = .revoking ∧ record.revocation.claimExpiresAt ≤ now) ∧
    record.memoryRevocationExhausted now

def recoverExhausted (limit : Int) : Locked (List Revocation) := do
  attempt (contextError env)
  ensure (1 ≤ limit ∧ limit ≤ maxRevocationClaimBatch) .invalidRevocationRequest
  let now := env.clock 0
  let repository ← get
  let selected := candidates env repository (revocationExhaustible now) (earlier (·.revocation.revocationRequestedAt))
  changeAll (·.exhausted sha256Hex now) (selected.take limit.toNat)

def noActionFence : ActionFence where
  actionID := []
  runnerID := []
  token := []
  epoch := 0

def requestRevocation (request : ActionTransitionRequest) : Locked Revocation :=
  if request.fence = noActionFence then do
    attempt (contextError env)
    ensure (validRevocationID request.revocationID) .invalidRevocationRequest
    let now := env.clock 0
    let repository ← get
    let record ← found (repository.record? request.revocationID) .revocationNotFound
    let record' ← attempt (record.applyRequestRevocation now)
    modify (·.store request.revocationID record')
    return record'.revocation
  else actionTransition sha256Hex env request MemoryRevocationRecord.applyRequestRevocation

def revocationClaimable (now : Int) (record : MemoryRevocationRecord) : Bool :=
  (record.revocation.status = .revocationPending ∧ record.revocation.availableAt ≤ now ∨
    record.revocation.status = .revoking ∧ record.revocation.claimExpiresAt ≤ now) ∧
    ¬ record.memoryRevocationExhausted now

def claimOrder (left right : MemoryRevocationRecord) : Bool :=
  if left.revocation.availableAt ≠ right.revocation.availableAt then
    left.revocation.availableAt < right.revocation.availableAt
  else earlier (·.revocation.createdAt) left right

structure MemoryPreparedClaim where
  id : GoString
  record : MemoryRevocationRecord
  token : GoString
  accessor : SensitiveReference

def MemoryPreparedClaim.poison (item : MemoryPreparedClaim) : Bool := !validSensitiveReference item.accessor

/-- The first loop of `ClaimRevocations`: a token and the accessor for every candidate, before any change. -/
def prepareClaims : Nat → List (GoString × MemoryRevocationRecord) → Except CredentialError (List MemoryPreparedClaim)
  | _, [] => .ok []
  | n, (id, record) :: rest => do
    require (record.revocation.claimEpoch ≠ 9223372036854775807) .invalidTransition
    let token ← orFail (env.token n) .claimToken
    require (validOpaqueText token 4096) .claimToken
    let accessor := (env.protector.unprotect (referenceContext record.revocation) record.protectedReference).join
    let claims ← prepareClaims (n + 1) rest
    return { id := id, record := record, token := token, accessor := accessor } :: claims

/-- The second loop of `ClaimRevocations`. -/
def issueClaims (request : ClaimRevocationsRequest) (now : Int) :
    List MemoryPreparedClaim → Locked (List ClaimedRevocation)
  | [] => return []
  | item :: rest => do
    let record := item.record.claimed sha256Hex request.workerID item.token now request.leaseDuration
    if item.poison then do
      modify (·.store item.id (record.poisoned sha256Hex now))
      issueClaims request now rest
    else do
      modify (·.store item.id record)
      let claims ← issueClaims request now rest
      return {
        revocation := record.revocation
        fence := {
          revocationID := record.revocation.id
          workerID := request.workerID
          token := item.token
          epoch := record.revocation.claimEpoch }
        accessor := item.accessor } :: claims

def claimRevocations (request : ClaimRevocationsRequest) : Locked (List ClaimedRevocation) := do
  attempt (contextError env)
  ensure (validIdentifier request.workerID 256 ∧ 1 ≤ request.limit ∧ request.limit ≤ maxRevocationClaimBatch ∧
    validClaimDuration request.leaseDuration) .invalidRevocationRequest
  let now := env.clock 0
  let repository ← get
  let selected := candidates env repository (revocationClaimable now) claimOrder
  let prepared ← attempt (prepareClaims env 0 (selected.take request.limit.toNat))
  issueClaims sha256Hex request now prepared

def claimRecord (fence : ClaimFence) (now : Int) : Locked MemoryRevocationRecord := do
  let repository ← get
  let record ← found (repository.record? fence.revocationID) .revocationNotFound
  ensure (record.matchesMemoryClaim fence (sha256Hex fence.token) now) .staleClaim
  return record

def heartbeat (request : HeartbeatRequest) : Locked Revocation := do
  attempt (contextError env)
  ensure (validClaimFence request.fence ∧ validClaimDuration request.extension) .invalidRevocationRequest
  let now := env.clock 0
  let record ← claimRecord sha256Hex request.fence now
  modify (·.store request.fence.revocationID (record.beaten now request.extension))
  return (record.beaten now request.extension).revocation

def completeRevocation (fence : ClaimFence) : Locked Revocation := do
  attempt (contextError env)
  ensure (validClaimFence fence) .invalidRevocationRequest
  let now := env.clock 0
  let repository ← get
  let record ← found (repository.record? fence.revocationID) .revocationNotFound
  let digest := sha256Hex fence.token
  if record.revocation.status = .revoked then do
    ensure (record.completedClaimSHA256 = digest ∧ record.completedClaimEpoch = fence.epoch ∧
      record.completedClaimWorker = fence.workerID) .staleClaim
    return record.revocation
  else do
    ensure (record.matchesMemoryClaim fence digest now) .staleClaim
    modify (·.store fence.revocationID (record.completed fence digest now))
    return (record.completed fence digest now).revocation

def failClaim (fence : ClaimFence) (code : FailureCode) (detail : GoString)
    (transition : MemoryRevocationRecord → Int → MemoryRevocationRecord) : Locked Revocation := do
  attempt (contextError env)
  ensure (validClaimFence fence) .invalidRevocationRequest
  let now := env.clock 0
  let record ← claimRecord sha256Hex fence now
  let record' := (transition record now).claimFailed sha256Hex code detail now
  modify (·.store fence.revocationID record')
  return record'.revocation

def retryRevocation (request : RetryRevocationRequest) : Locked Revocation := do
  ensure (minRevocationRetryDelay ≤ request.delay ∧ request.delay ≤ maxRevocationRetryDelay ∧
    validFailure request.failureCode request.failureDetail) .invalidRevocationRequest
  failClaim sha256Hex env request.fence request.failureCode request.failureDetail
    (fun record now => record.retrying now request.delay)

def requireManual (request : RequireManualRequest) : Locked Revocation := do
  ensure (validFailure request.failureCode request.failureDetail) .invalidRevocationRequest
  failClaim sha256Hex env request.fence request.failureCode request.failureDetail
    (fun record now => record.requiringManual now)

def requeueManual (request : RequeueManualRequest) : Locked Revocation := do
  attempt (contextError env)
  ensure (validRevocationID request.revocationID ∧ validSubject request.actorSubject) .invalidRevocationRequest
  let now := env.clock 0
  let repository ← get
  let record ← found (repository.record? request.revocationID) .revocationNotFound
  if record.revocation.status = .revocationPending then return record.revocation
  else do
    ensure (record.revocation.status = .manualRequired ∧ record.revocation.evidenceHash = [] ∧
      record.confirmations.size = 0) .invalidTransition
    modify (·.store request.revocationID (record.requeued now))
    return (record.requeued now).revocation

def confirmationResult (record : MemoryRevocationRecord) : ConfirmationResult where
  revocation := record.revocation
  confirmations := GoMap.sortSlice
    (fun left right => if left.createdAt ≠ right.createdAt then left.createdAt < right.createdAt
      else textLess left.subject right.subject)
    ((record.confirmations.ranged env.visit).map Prod.snd)

/-- The branch of `SubmitExternalConfirmation` that takes back the confirmation it has just stored. -/
def withdrawConfirmation (id subject : GoString) (record : MemoryRevocationRecord) : Locked ConfirmationResult := do
  modify (·.store id { record with confirmations := record.confirmations.erase subject })
  throw .platformAdminRequired

/-- `SubmitExternalConfirmation` around the branch that takes a confirmation back. -/
def submitExternalConfirmationAround
    (withdraw : GoString → GoString → MemoryRevocationRecord → Locked ConfirmationResult)
    (request : ExternalConfirmationRequest) : Locked ConfirmationResult := do
  attempt (contextError env)
  ensure (validRevocationID request.revocationID ∧ validSubject request.subject ∧ validSHA256 request.evidenceHash)
    .invalidRevocationRequest
  let now := env.clock 0
  let repository ← get
  let record ← found (repository.record? request.revocationID) .revocationNotFound
  ensure (record.revocation.status = .manualRequired ∨ record.revocation.status = .revoked) .invalidTransition
  ensure (record.revocation.evidenceHash = [] ∨ record.revocation.evidenceHash = request.evidenceHash) .evidenceConflict
  match record.confirmations.get? request.subject with
  | some existing =>
    ensure (existing.evidenceHash = request.evidenceHash ∧ existing.platformAdmin = request.platformAdmin)
      .evidenceConflict
    return confirmationResult env record
  | none =>
    ensure (record.revocation.status ≠ .revoked) .invalidTransition
    ensure (record.confirmations.size < 1 ∨ request.platformAdmin = true ∨ hasPlatformAdmin record.confirmations = true)
      .platformAdminRequired
    let record := record.confirmed request now
    modify (·.store request.revocationID record)
    if 2 ≤ record.confirmations.size then
      if hasPlatformAdmin record.confirmations = false then
        withdraw request.revocationID request.subject record
      else do
        modify (·.store request.revocationID (record.externallyRevoked now))
        return confirmationResult env (record.externallyRevoked now)
    else return confirmationResult env record

def submitExternalConfirmation (request : ExternalConfirmationRequest) : Locked ConfirmationResult :=
  submitExternalConfirmationAround env withdrawConfirmation request

def get (id : GoString) : Locked Revocation := do
  attempt (contextError env)
  ensure (validRevocationID id) .invalidRevocationRequest
  let repository ← MonadState.get
  let record ← found (repository.record? id) .revocationNotFound
  return record.revocation

def list (filter : ListFilter) : Locked (List Revocation) := do
  attempt (contextError env)
  ensure ((filter.workspaceID = [] ∨ validIdentifier filter.workspaceID 256) ∧ 1 ≤ filter.limit ∧ filter.limit ≤ 1000)
    .invalidRevocationRequest
  let repository ← MonadState.get
  let selected := candidates env repository
    (fun record => (filter.workspaceID = [] ∨ record.revocation.workspaceID = filter.workspaceID) ∧
      filter.status.all (· = record.revocation.status)) (earlier (·.revocation.createdAt))
  return (selected.take filter.limit.toNat).map (·.2.revocation)

def inspectCleanup (actionID : GoString) (epoch : Int) : Locked (Bool × Bool) := do
  attempt (contextError env)
  ensure (validIdentifier actionID 256 ∧ 0 < epoch) .invalidRevocationRequest
  let repository ← MonadState.get
  match repository.actionEpochs.get? (actionEpochKey actionID epoch) with
  | none => return (false, false)
  | some revocationID =>
    let record ← found (repository.record? revocationID) .revocationPersistence
    return (true, record.revocation.terminal)

end Operations

end AiopsSystem.Credential
