import AiopsSystem.Credential.Revocation
import AiopsSystem.Go.Attempt
import AiopsSystem.Go.Table

/-! # The record of one revocation

The record the in-memory repository keeps, the tests the operations make on it
and the changes they make to it. The digest is a parameter.
-/

namespace AiopsSystem.Credential

open Go

structure MemoryRevocationRecord where
  revocation : Revocation
  protectedReference : ProtectedReference
  (actionTokenSHA256 childCreatePermitSHA256 : GoString)
  (childCreateAuthorizedAt childCreateTTL retryCycleAttemptBase retryCycleStartedAt : Int)
  (claimTokenSHA256 completedClaimSHA256 : GoString)
  completedClaimEpoch : Int
  completedClaimWorker : GoString
  confirmations : GoMap GoString ExternalConfirmation

def hasPlatformAdmin (confirmations : GoMap GoString ExternalConfirmation) : Bool :=
  confirmations.anyEntry (fun _ confirmation => confirmation.platformAdmin)

def referenceContext (revocation : Revocation) : ReferenceContext where
  revocationID := revocation.id
  actionID := revocation.actionID
  actionEpoch := revocation.actionLeaseEpoch
  issuer := revocation.issuer
  issuerRevision := revocation.issuerRevision

def sameActionScope (left right : ActionMetadata) : Prop :=
  left.actionID = right.actionID ∧ left.tenantID = right.tenantID ∧ left.workspaceID = right.workspaceID ∧
    left.environmentID = right.environmentID ∧ left.targetKey = right.targetKey ∧ left.production = right.production ∧
    left.runnerID = right.runnerID ∧ left.leaseEpoch = right.leaseEpoch ∧ left.actionType = right.actionType ∧
    left.connectorID = right.connectorID ∧ left.permission = right.permission ∧ left.resource = right.resource ∧
    left.credentialTTLSeconds = right.credentialTTLSeconds

instance (left right : ActionMetadata) : Decidable (sameActionScope left right) := by
  unfold sameActionScope
  infer_instance

def inspectionScopeMatches (revocation : Revocation) (metadata : ActionMetadata) : Prop :=
  revocation.actionID = metadata.actionID ∧ revocation.tenantID = metadata.tenantID ∧
    revocation.workspaceID = metadata.workspaceID ∧ revocation.environmentID = metadata.environmentID ∧
    revocation.targetKey = metadata.targetKey ∧ revocation.production = metadata.production ∧
    revocation.actionType = metadata.actionType ∧
    revocation.credentialTTLSeconds = metadata.credentialTTLSeconds ∧
    revocation.connectorID = metadata.connectorID ∧ revocation.permission = metadata.permission ∧
    revocation.resource = metadata.resource

instance (revocation : Revocation) (metadata : ActionMetadata) :
    Decidable (inspectionScopeMatches revocation metadata) := by
  unfold inspectionScopeMatches
  infer_instance

def runnerAuthorizationCurrent (metadata : ActionMetadata) : Prop :=
  metadata.runnerEnabled = true ∧ metadata.runnerPool = ascii "WRITE" ∧ 0 < metadata.scopeRevision ∧
    metadata.runnerScopeRevision = metadata.scopeRevision ∧ metadata.exactScopeAuthorized = true

instance (metadata : ActionMetadata) : Decidable (runnerAuthorizationCurrent metadata) := by
  unfold runnerAuthorizationCurrent
  infer_instance

def samePrepare (existing : Revocation) (request : PrepareRequest) (metadata : ActionMetadata) : Prop :=
  existing.actionID = metadata.actionID ∧ existing.tenantID = metadata.tenantID ∧
    existing.workspaceID = metadata.workspaceID ∧ existing.environmentID = metadata.environmentID ∧
    existing.targetKey = metadata.targetKey ∧ existing.production = metadata.production ∧
    existing.runnerID = metadata.runnerID ∧ existing.actionLeaseEpoch = metadata.leaseEpoch ∧
    existing.issuer = request.issuer ∧ existing.issuerRevision = request.issuerRevision ∧
    existing.actionType = metadata.actionType ∧
    existing.credentialTTLSeconds = metadata.credentialTTLSeconds ∧ existing.connectorID = metadata.connectorID ∧
    existing.permission = metadata.permission ∧ existing.resource = metadata.resource ∧
    existing.credentialExpiresAt = canonicalCredentialExpiry request.credentialExpiresAt

instance (existing : Revocation) (request : PrepareRequest) (metadata : ActionMetadata) :
    Decidable (samePrepare existing request metadata) := by
  unfold samePrepare
  infer_instance

namespace MemoryRevocationRecord

variable (sha256Hex : GoString → GoString)

/-- The record a successful `Prepare` creates. -/
def preparing (request : PrepareRequest) (metadata : ActionMetadata) (permitToken : GoString) (now : Int) :
    MemoryRevocationRecord where
  revocation := {
    id := request.revocationID
    tenantID := metadata.tenantID
    workspaceID := metadata.workspaceID
    environmentID := metadata.environmentID
    actionID := metadata.actionID
    targetKey := metadata.targetKey
    production := metadata.production
    runnerID := metadata.runnerID
    actionLeaseEpoch := metadata.leaseEpoch
    issuer := request.issuer
    issuerRevision := request.issuerRevision
    actionType := metadata.actionType
    connectorID := metadata.connectorID
    permission := metadata.permission
    resource := metadata.resource
    credentialTTLSeconds := metadata.credentialTTLSeconds
    credentialExpiresAt := request.credentialExpiresAt
    status := .prepared
    availableAt := now
    createdAt := now
    updatedAt := now
    version := 1 }
  protectedReference := {}
  actionTokenSHA256 := sha256Hex request.fence.token
  childCreatePermitSHA256 := sha256Hex permitToken
  childCreateAuthorizedAt := 0
  childCreateTTL := 0
  retryCycleAttemptBase := 0
  retryCycleStartedAt := 0
  claimTokenSHA256 := []
  completedClaimSHA256 := []
  completedClaimEpoch := 0
  completedClaimWorker := []
  confirmations := ∅

def frozenActionFenceMatches (record : MemoryRevocationRecord) (fence : ActionFence) : Prop :=
  record.revocation.actionID = fence.actionID ∧ record.revocation.runnerID = fence.runnerID ∧
    record.revocation.actionLeaseEpoch = fence.epoch ∧ record.actionTokenSHA256 = sha256Hex fence.token

instance (record : MemoryRevocationRecord) (fence : ActionFence) :
    Decidable (record.frozenActionFenceMatches sha256Hex fence) := by
  unfold frozenActionFenceMatches
  infer_instance

def inspectionFenceCurrent (record : MemoryRevocationRecord) (inspection : ActionInspection)
    (now minimumWindow : Int) : Prop :=
  runnerAuthorizationCurrent inspection.metadata ∧ inspection.metadata.status = .running ∧
    inspection.metadata.cancelRequestedAt = 0 ∧ inspection.metadata.runnerID = record.revocation.runnerID ∧
    inspection.metadata.leaseEpoch = record.revocation.actionLeaseEpoch ∧
    inspection.leaseTokenSHA256 = record.actionTokenSHA256 ∧
    now + minimumWindow < inspection.metadata.leaseExpiresAt ∧
    now + minimumWindow < inspection.metadata.authorizationExpiresAt ∧
    now + minimumWindow < record.revocation.credentialExpiresAt

instance (record : MemoryRevocationRecord) (inspection : ActionInspection) (now minimumWindow : Int) :
    Decidable (record.inspectionFenceCurrent inspection now minimumWindow) := by
  unfold inspectionFenceCurrent
  infer_instance

def matchesMemoryClaim (record : MemoryRevocationRecord) (fence : ClaimFence) (digest : GoString) (now : Int) : Prop :=
  record.revocation.status = .revoking ∧ record.revocation.claimedBy = fence.workerID ∧
    record.revocation.claimEpoch = fence.epoch ∧ record.claimTokenSHA256 = digest ∧
    now < record.revocation.claimExpiresAt

instance (record : MemoryRevocationRecord) (fence : ClaimFence) (digest : GoString) (now : Int) :
    Decidable (record.matchesMemoryClaim fence digest now) := by
  unfold matchesMemoryClaim
  infer_instance

def memoryRevocationExhausted (record : MemoryRevocationRecord) (now : Int) : Prop :=
  maxRevocationAttempts ≤ record.revocation.attempt - record.retryCycleAttemptBase ∨
    record.retryCycleStartedAt = 0 ∨ record.retryCycleStartedAt + maxRevocationElapsed ≤ now

instance (record : MemoryRevocationRecord) (now : Int) : Decidable (record.memoryRevocationExhausted now) := by
  unfold memoryRevocationExhausted
  infer_instance

def bump (record : MemoryRevocationRecord) (now : Int) : MemoryRevocationRecord :=
  { record with revocation := { record.revocation with version := record.revocation.version + 1, updatedAt := now } }

def clearActiveClaim (record : MemoryRevocationRecord) : MemoryRevocationRecord :=
  { record with
    claimTokenSHA256 := []
    revocation := { record.revocation with claimedBy := [], claimedAt := 0, claimExpiresAt := 0, lastHeartbeatAt := 0 } }

def clearProtectedReference (record : MemoryRevocationRecord) : MemoryRevocationRecord :=
  { record with
    protectedReference := { record.protectedReference with ciphertext := [], keyID := [] }
    revocation := { record.revocation with accessorPresent := false, encryptionKeyID := [] } }

def childCreateAuthorized (record : MemoryRevocationRecord) (now ttl : Int) : MemoryRevocationRecord :=
  bump { record with childCreateAuthorizedAt := now, childCreateTTL := ttl } now

def anchored (record : MemoryRevocationRecord) (reference : ProtectedReference) (now : Int) : MemoryRevocationRecord :=
  bump { record with
    protectedReference := reference
    revocation := { record.revocation with
      status := .anchored
      accessorPresent := true
      accessorHMAC := hexEncode reference.accessorHMAC
      encryptionKeyID := reference.keyID
      anchoredAt := now } } now

def activated (record : MemoryRevocationRecord) (now : Int) : MemoryRevocationRecord :=
  bump { record with revocation := { record.revocation with status := .active, activatedAt := now } } now

def withoutCredential (record : MemoryRevocationRecord) (now : Int) : MemoryRevocationRecord :=
  bump { record with revocation := { record.revocation with status := .noCredential } } now

def revocationRequested (record : MemoryRevocationRecord) (now : Int) : MemoryRevocationRecord :=
  bump { record with
    retryCycleAttemptBase := record.revocation.attempt
    retryCycleStartedAt := now
    revocation := { record.revocation with
      status := .revocationPending
      availableAt := now
      revocationRequestedAt := now } } now

def applyRequestRevocation (record : MemoryRevocationRecord) (now : Int) :
    Except CredentialError MemoryRevocationRecord :=
  match record.revocation.status with
  | .anchored | .active => .ok (record.revocationRequested now)
  | .revocationPending | .revoking | .manualRequired | .revoked => .ok record
  | .prepared | .noCredential => .error .invalidTransition

def failing (record : MemoryRevocationRecord) (code : FailureCode) (detail : GoString) : MemoryRevocationRecord :=
  { record with revocation := { record.revocation with
    failureCount := record.revocation.failureCount + 1
    failureCode := code
    failureDetailSHA256 := sha256Hex detail } }

def requiringManual (record : MemoryRevocationRecord) (now : Int) : MemoryRevocationRecord :=
  { record with revocation := { record.revocation with status := .manualRequired, manualRequiredAt := now } }

def exhausted (record : MemoryRevocationRecord) (now : Int) : MemoryRevocationRecord :=
  (((record.requiringManual now).failing sha256Hex .unknown failureDetailExhaustedWithoutAck).clearActiveClaim).bump now

def claimed (record : MemoryRevocationRecord) (workerID token : GoString) (now leaseDuration : Int) :
    MemoryRevocationRecord :=
  bump { record with
    claimTokenSHA256 := sha256Hex token
    revocation := { record.revocation with
      status := .revoking
      claimEpoch := record.revocation.claimEpoch + 1
      claimedBy := workerID
      claimedAt := now
      lastHeartbeatAt := now
      claimExpiresAt := now + leaseDuration
      attempt := record.revocation.attempt + 1 } } now

def poisoned (record : MemoryRevocationRecord) (now : Int) : MemoryRevocationRecord :=
  (((record.requiringManual now).failing sha256Hex .invalidReference
    failureDetailProtectedRefInvalid).clearActiveClaim).bump now

def beaten (record : MemoryRevocationRecord) (now extension : Int) : MemoryRevocationRecord :=
  bump { record with revocation := { record.revocation with
    lastHeartbeatAt := now
    claimExpiresAt := now + extension } } now

def completed (record : MemoryRevocationRecord) (fence : ClaimFence) (digest : GoString) (now : Int) :
    MemoryRevocationRecord :=
  bump (clearProtectedReference (clearActiveClaim { record with
    completedClaimSHA256 := digest
    completedClaimEpoch := fence.epoch
    completedClaimWorker := fence.workerID
    revocation := { record.revocation with status := .revoked, revokedAt := now } })) now

/-- The record after the transition `RetryRevocation` hands to `failClaim`. -/
def retrying (record : MemoryRevocationRecord) (now delay : Int) : MemoryRevocationRecord :=
  if record.memoryRevocationExhausted now then record.requiringManual now
  else { record with revocation := { record.revocation with
    status := .revocationPending
    availableAt := now + delay } }

def claimFailed (record : MemoryRevocationRecord) (code : FailureCode) (detail : GoString) (now : Int) :
    MemoryRevocationRecord :=
  ((record.failing sha256Hex code detail).clearActiveClaim).bump now

def requeued (record : MemoryRevocationRecord) (now : Int) : MemoryRevocationRecord :=
  bump { record with
    retryCycleAttemptBase := record.revocation.attempt
    retryCycleStartedAt := now
    revocation := { record.revocation with status := .revocationPending, availableAt := now } } now

def confirmed (record : MemoryRevocationRecord) (request : ExternalConfirmationRequest) (now : Int) :
    MemoryRevocationRecord :=
  bump { record with
    confirmations := record.confirmations.insert request.subject {
      subject := request.subject
      evidenceHash := request.evidenceHash
      platformAdmin := request.platformAdmin
      createdAt := now }
    revocation := { record.revocation with evidenceHash := request.evidenceHash } } now

def externallyRevoked (record : MemoryRevocationRecord) (now : Int) : MemoryRevocationRecord :=
  clearProtectedReference { record with revocation := { record.revocation with status := .revoked, revokedAt := now } }

end MemoryRevocationRecord

end AiopsSystem.Credential
