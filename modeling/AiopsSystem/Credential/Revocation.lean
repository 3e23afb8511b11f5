import AiopsSystem.Go.Json

/-! # Credential revocations

The records, requests and checks of the credential domain: a revocation is the
durable parent of one short-lived child credential, from before the child is
created until the child is known to be revoked or never to have existed.
-/

namespace AiopsSystem.Credential

open Go

def minRevocationClaimLease : Int := second

def maxRevocationClaimLease : Int := 30 * second

def maxRevocationClaimBatch : Int := 100

def minRevocationRetryDelay : Int := 5 * second

def maxRevocationRetryDelay : Int := 15 * minute

def maxRevocationAttempts : Int := 12

def maxRevocationElapsed : Int := 2 * hour

def managedAnchorRecoveryGrace : Int := 2 * minute

def failureDetailExhaustedWithoutAck : GoString := ascii "credential.revocation.exhausted_without_ack.v1"

def failureDetailProtectedRefInvalid : GoString := ascii "credential.revocation.protected_reference_invalid.v1"

def maxCredentialTTL : Int := 15 * minute

def minPrepareFenceWindow : Int := second

def minPostChildFenceWindow : Int := second

def vaultChildCreateServerMaxDuration : Int := 10 * second

def maxChildCreateDBCommitLatency : Int := second

def maxChildCreateVaultIngressLatency : Int := 2 * second

def maxVaultAheadOfDatabaseClock : Int := second

def vaultTTLQuantum : Int := second

def childCreateExpiryReserve : Int :=
  maxChildCreateDBCommitLatency + maxChildCreateVaultIngressLatency + vaultChildCreateServerMaxDuration +
    maxVaultAheadOfDatabaseClock + vaultTTLQuantum

def childCreateVaultCallBudget : Int := maxChildCreateVaultIngressLatency + vaultChildCreateServerMaxDuration

def minChildCreateTTL : Int := second

def preparedRecoveryGrace : Int := minute

def canonicalCredentialExpiry (value : Int) : Int := if value = 0 then 0 else ofUnixMicro (unixMicro value)

theorem canonicalCredentialExpiry_le {value : Int} (h : earliestUnixMicro ≤ value) :
    canonicalCredentialExpiry value ≤ value := by
  unfold canonicalCredentialExpiry
  split
  · omega
  · exact ofUnixMicro_unixMicro_le h

inductive RevocationStatus where
  | prepared
  | anchored
  | active
  | revocationPending
  | revoking
  | revoked
  | manualRequired
  | noCredential
deriving DecidableEq

/-- A failure code is a string; the codes without a constant are kept as their text, the unset one as no text. -/
inductive FailureCode where
  | issuerUnavailable
  | rateLimited
  | timeout
  | authentication
  | permissionDenied
  | referenceMissing
  | invalidReference
  | unknown
  | other (text : GoString)
deriving DecidableEq

inductive CredentialError where
  | contextDone
  | invalidRevocationRequest
  | revocationNotFound
  | idempotencyConflict
  | invalidTransition
  | staleActionFence
  | staleClaim
  | evidenceConflict
  | platformAdminRequired
  | referenceProtection
  | revocationPersistence
  | atomicActionSourceRequired
  | childCreateAlreadyAuthorized
  | childCreateWindowExpired
  | staleChildCreatePermit
  /-- The token source failed or returned an unusable token; wraps the invalid request error. -/
  | claimToken
  /-- An error of the action source that is none of the above. -/
  | source

structure ActionFence where
  (actionID runnerID token : GoString)
  epoch : Int
deriving DecidableEq

inductive ActionStatus where
  | queued
  | leased
  | running
  | other (text : GoString)
deriving DecidableEq

structure ActionMetadata where
  (actionID tenantID workspaceID environmentID targetKey : GoString)
  production : Bool
  runnerID : GoString
  leaseEpoch : Int
  status : ActionStatus
  (leaseExpiresAt authorizationExpiresAt cancelRequestedAt : Int)
  runnerEnabled : Bool
  runnerPool : GoString
  scopeRevision : Int
  runnerScopeRevision : Int
  exactScopeAuthorized : Bool
  (actionType connectorID permission resource : GoString)
  credentialTTLSeconds : Int

structure ActionInspection where
  metadata : ActionMetadata
  leaseTokenSHA256 : GoString

structure PrepareRequest where
  revocationID : GoString
  fence : ActionFence
  (issuer issuerRevision : GoString)
  credentialExpiresAt : Int

/-- The request with its deadline at microsecond precision, as `Prepare` goes on with it. -/
def PrepareRequest.canonical (request : PrepareRequest) : PrepareRequest :=
  { request with credentialExpiresAt := canonicalCredentialExpiry request.credentialExpiresAt }

structure ChildCreatePermit where
  (revocationID token : GoString)
deriving DecidableEq

structure AuthorizeChildCreateRequest where
  permit : ChildCreatePermit
  fence : ActionFence

/-- The bytes of a sensitive reference, `none` for a nil pointer; a destroyed reference has no bytes. -/
abbrev SensitiveReference := Option GoString

structure RecordAnchorRequest where
  revocationID : GoString
  fence : ActionFence
  accessor : SensitiveReference

structure ActionTransitionRequest where
  revocationID : GoString
  fence : ActionFence

structure ClaimRevocationsRequest where
  workerID : GoString
  limit : Int
  leaseDuration : Int

@[ext]
structure ClaimFence where
  (revocationID workerID token : GoString)
  epoch : Int

structure HeartbeatRequest where
  fence : ClaimFence
  extension : Int

structure RetryRevocationRequest where
  fence : ClaimFence
  delay : Int
  failureCode : FailureCode
  failureDetail : GoString

structure RequireManualRequest where
  fence : ClaimFence
  failureCode : FailureCode
  failureDetail : GoString

structure RequeueManualRequest where
  (revocationID actorSubject : GoString)

structure ExternalConfirmationRequest where
  (revocationID subject evidenceHash : GoString)
  platformAdmin : Bool

structure ListFilter where
  workspaceID : GoString
  status : Option RevocationStatus
  limit : Int

structure Revocation where
  (id tenantID workspaceID environmentID actionID targetKey : GoString)
  production : Bool
  runnerID : GoString
  actionLeaseEpoch : Int
  (issuer issuerRevision actionType connectorID permission resource : GoString)
  credentialTTLSeconds : Int
  credentialExpiresAt : Int
  status : RevocationStatus
  accessorPresent : Bool := false
  accessorHMAC : GoString := []
  encryptionKeyID : GoString := []
  claimEpoch : Int := 0
  claimedBy : GoString := []
  claimedAt : Int := 0
  claimExpiresAt : Int := 0
  lastHeartbeatAt : Int := 0
  attempt : Int := 0
  failureCount : Int := 0
  failureCode : FailureCode := .other []
  failureDetailSHA256 : GoString := []
  availableAt : Int
  evidenceHash : GoString := []
  createdAt : Int
  updatedAt : Int
  anchoredAt : Int := 0
  activatedAt : Int := 0
  revocationRequestedAt : Int := 0
  manualRequiredAt : Int := 0
  revokedAt : Int := 0
  version : Int
deriving DecidableEq

def Revocation.terminal (revocation : Revocation) : Bool :=
  revocation.status == .revoked || revocation.status == .noCredential

structure PrepareResult where
  revocation : Revocation
  created : Bool
  permit : Option ChildCreatePermit

structure ChildCreateAuthorization where
  revocation : Revocation
  (databaseAuthorizedAt credentialExpiresAt ttl vaultCallBudget : Int)

structure ClaimedRevocation where
  revocation : Revocation
  fence : ClaimFence
  accessor : SensitiveReference

structure ExternalConfirmation where
  (subject evidenceHash : GoString)
  platformAdmin : Bool
  createdAt : Int

structure ConfirmationResult where
  revocation : Revocation
  confirmations : List ExternalConfirmation

structure ReferenceContext where
  (revocationID actionID : GoString)
  actionEpoch : Int
  (issuer issuerRevision : GoString)

structure ProtectedReference where
  ciphertext : GoString := []
  accessorHMAC : GoString := []
  keyID : GoString := []

/-- A protector; `none` stands for an error. -/
structure ReferenceProtector where
  protect : ReferenceContext → SensitiveReference → Option ProtectedReference
  matchesReference : ReferenceContext → ProtectedReference → SensitiveReference → Option Bool
  unprotect : ReferenceContext → ProtectedReference → Option SensitiveReference

def validFailureCode : FailureCode → Bool
  | .other _ => false
  | _ => true

/-- `[a-f0-9]{8}-[a-f0-9]{4}-[1-5][a-f0-9]{3}-[89ab][a-f0-9]{3}-[a-f0-9]{12}` -/
def validRevocationID (id : GoString) : Bool :=
  match splitByte 45 id with
  | [first, second, third, fourth, last] =>
    matchesHex 8 first && matchesHex 4 second && matchesHex 4 third && matchesHex 4 fourth && matchesHex 12 last &&
      third.head?.any (fun b => 49 ≤ b && b ≤ 53) && fourth.head?.any (fun b => b == 56 || b == 57 || b == 97 || b == 98)
  | _ => false

def validIdentifier (value : GoString) (maximum : Nat) : Bool :=
  1 ≤ value.length && value.length ≤ maximum && matchesIdentifier value

/-- `unicode.IsControl` -/
def isControlRune (rune : Nat) : Bool := rune ≤ 0x1F || (0x7F ≤ rune && rune ≤ 0x9F)

/-- `strings.TrimSpace(value) == value` -/
def isTrimmed (value : GoString) : Bool :=
  !(decodeRunes value).head?.any isSpaceRune && !(decodeRunes value).getLast?.any isSpaceRune

def validOpaqueText (value : GoString) (maximum : Nat) : Bool :=
  value != [] && value.length ≤ maximum && isTrimmed value && !(decodeRunes value).any isControlRune

def validSHA256 (value : GoString) : Bool := matchesHex 64 value

def validActionFence (fence : ActionFence) : Bool :=
  validIdentifier fence.actionID 256 && validIdentifier fence.runnerID 256 && validOpaqueText fence.token 4096 &&
    0 < fence.epoch

def validClaimFence (fence : ClaimFence) : Bool :=
  validRevocationID fence.revocationID && validIdentifier fence.workerID 256 && validOpaqueText fence.token 4096 &&
    0 < fence.epoch

def validClaimDuration (duration : Int) : Bool :=
  minRevocationClaimLease ≤ duration && duration ≤ maxRevocationClaimLease

def validFailure (code : FailureCode) (detail : GoString) : Bool :=
  validFailureCode code && 0 < detail.length && detail.length ≤ 1048576

def validSubject (subject : GoString) : Bool :=
  (ascii "oidc:").length < subject.length && (ascii "oidc:").isPrefixOf subject && validOpaqueText subject 512

def validSensitiveReference (reference : SensitiveReference) : Bool :=
  reference.any (fun value => value != [])

def validCredentialTTLSeconds (value : Int) : Bool := 0 < value && value * second ≤ maxCredentialTTL

def signedCredentialExpiry (now ttlSeconds : Int) : Int := canonicalCredentialExpiry (now + ttlSeconds * second)

theorem signedCredentialExpiry_le {now ttlSeconds : Int} (hNow : earliestUnixMicro ≤ now)
    (hTTL : validCredentialTTLSeconds ttlSeconds) :
    signedCredentialExpiry now ttlSeconds ≤ now + ttlSeconds * second := by
  refine canonicalCredentialExpiry_le ?_
  simp only [validCredentialTTLSeconds, Bool.and_eq_true, decide_eq_true_eq] at hTTL
  unfold second
  omega

def actionEpochKey (actionID : GoString) (epoch : Int) : GoString := joinZero actionID (formatInt epoch)

end AiopsSystem.Credential
