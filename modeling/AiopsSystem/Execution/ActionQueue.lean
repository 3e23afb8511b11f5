import AiopsSystem.Action.Marshal
import AiopsSystem.ExecutionLease.Lease

/-! # Requests, results and hashes of the action queue

The data every queue implementation shares: submissions, runner scopes, fenced
requests and result receipts, with their checks and their hashes. The digest
and the canonical form of a JSON document come from libraries; `Codec` names
them and nothing is assumed about either here.
-/

namespace AiopsSystem.Execution

open Go AiopsSystem.Action ExecutionLease

def minimumActionLease : Int := second

def maximumActionLease : Int := 30 * minute

inductive QueueError where
  | contextDone
  | invalidAction (cause : EnvelopeError)
  | invalidRequest
  | clockZero
  | marshal
  | canonicalize
  | tokenSource
  | notFound
  | noLeaseAvailable
  | staleLease
  | invalidTransition
  | completionConflict
  | reconciliationConflict
  | jobConflict
  | idempotencyConflict
  | heartbeatSequence
  | credentialCleanupPending
deriving DecidableEq

structure ActionSubmission where
  envelope : Envelope
  (planHash targetKey environmentRevision : GoString)
  production : Bool
  pool : Pool

structure RunnerScopeBinding where
  (workspaceID environmentID : GoString)
deriving DecidableEq

structure RunnerScope where
  (runnerID tenantID : GoString)
  pool : Pool
  scopeRevision : Int
  maxConcurrency : Int
  bindings : List RunnerScopeBinding
deriving DecidableEq

def RunnerScope.allows (scope : RunnerScope) (workspaceID environmentID : GoString) : Bool :=
  scope.bindings.any (fun binding => binding.workspaceID == workspaceID && binding.environmentID == environmentID)

def scopeBindingKey (workspaceID environmentID : GoString) : GoString := joinZero workspaceID environmentID

structure ActionClaimRequest where
  scope : RunnerScope
  leaseDuration : Int

structure ClaimedAction where
  execution : Execution
  envelope : Envelope
  (planHash targetKey environmentRevision : GoString)
  production : Bool
deriving DecidableEq

structure ActionQueueReason where
  (code detailHash : GoString)

structure ActionRejectRequest where
  lease : LeaseIdentity
  reason : ActionQueueReason

structure ActionNackRequest where
  lease : LeaseIdentity
  reason : ActionQueueReason
  retryAfter : Int

inductive HeartbeatDirective where
  | continue
  | terminate
deriving DecidableEq

structure ActionHeartbeatRequest where
  lease : LeaseIdentity
  sequence : Int
  extension : Int

structure ActionHeartbeatResult where
  execution : Execution
  directive : HeartbeatDirective
deriving DecidableEq

inductive ExecutorOutcome where
  | succeeded
  | failed
  | uncertain
  | unknown

def ExecutorOutcome.text : ExecutorOutcome → GoString
  | .succeeded => ascii "SUCCEEDED"
  | .failed => ascii "FAILED"
  | .uncertain => ascii "UNCERTAIN"
  | .unknown => []

inductive Verification where
  | passed
  | failed
  | unknown
  | unsupported
deriving DecidableEq

def Verification.text : Verification → GoString
  | .passed => ascii "PASSED"
  | .failed => ascii "FAILED"
  | .unknown => ascii "UNKNOWN"
  | .unsupported => []

structure ExecutorResult where
  outcome : ExecutorOutcome
  code : GoString
  verification : Verification
  changed : Bool
  externalOperationRefHash : GoString

structure ActionCompleteRequest where
  lease : LeaseIdentity
  summary : ExecutorResult

structure RunnerResultReceipt where
  (actionID tenantID workspaceID environmentID planHash runnerID : GoString)
  leaseEpoch : Int
  scopeRevision : Int
  certificateSHA256 : GoString
  completionStatus : Status
  summary : ExecutorResult
  resultHash : GoString
  receivedAt : Int

def validIdentifier (value : GoString) (maximumBytes : Nat) : Bool :=
  value.length ≤ maximumBytes && matchesIdentifier value

/-- `^[A-Z][A-Z0-9_]{0,63}$` -/
def matchesResultCode (value : GoString) : Bool :=
  value.length ≤ 64 && matchesHeadTail isUpper (fun b => isUpper b || isDigit b || b == 95) value

def validExecutorResult (result : ExecutorResult) : Bool :=
  matchesResultCode result.code &&
    (result.externalOperationRefHash == [] || matchesHex 64 result.externalOperationRefHash) &&
    match result.outcome with
    | .succeeded => result.verification == .passed
    | .failed => result.verification == .failed
    | .uncertain => result.verification == .unknown
    | .unknown => false

def resultSummaryStatus (summary : ExecutorResult) : Option Status :=
  if validExecutorResult summary then
    match summary.outcome with
    | .succeeded => some .succeeded
    | .failed => some .failed
    | .uncertain => some .uncertain
    | .unknown => none
  else none

def validateActionSubmission (submission : ActionSubmission) : Except QueueError Unit := do
  match submission.envelope.validate Envelope.TokenField.all with
  | .ok _ => pure ()
  | .error cause => .error (.invalidAction cause)
  require (submission.planHash ≠ [] ∧ submission.planHash = submission.envelope.planHash ∧
    validIdentifier submission.targetKey 512 ∧ validIdentifier submission.environmentRevision 256 ∧
    (submission.pool = .read ∨ submission.pool = .write)) .invalidRequest

def validateScopeBindings (seen : List GoString) : List RunnerScopeBinding → Except QueueError Unit
  | [] => pure ()
  | binding :: rest => do
    require (validIdentifier binding.workspaceID 256 ∧ validIdentifier binding.environmentID 256) .invalidRequest
    let key := scopeBindingKey binding.workspaceID binding.environmentID
    require (key ∉ seen) .invalidRequest
    validateScopeBindings (key :: seen) rest

structure RunnerRegistration where
  (runnerID tenantID : GoString)
  pool : Pool
  enabled : Bool
  scopeRevision : Int
  maxConcurrency : Int
  scopeBindings : List RunnerScopeBinding

def RunnerRegistration.scope (registration : RunnerRegistration) : Except QueueError RunnerScope := do
  require (registration.enabled = true ∧ validIdentifier registration.runnerID 256 ∧
    validIdentifier registration.tenantID 256 ∧ (registration.pool = .read ∨ registration.pool = .write) ∧
    0 < registration.scopeRevision ∧ 1 ≤ registration.maxConcurrency ∧ registration.maxConcurrency ≤ 1024 ∧
    registration.scopeBindings ≠ []) .invalidRequest
  validateScopeBindings [] registration.scopeBindings
  return {
    runnerID := registration.runnerID
    tenantID := registration.tenantID
    pool := registration.pool
    scopeRevision := registration.scopeRevision
    maxConcurrency := registration.maxConcurrency
    bindings := registration.scopeBindings }

def validateRunnerScope (request : ActionClaimRequest) : Except QueueError Unit := do
  require (validIdentifier request.scope.runnerID 256 ∧ validIdentifier request.scope.tenantID 256 ∧
    (request.scope.pool = .read ∨ request.scope.pool = .write) ∧ 0 < request.scope.scopeRevision ∧
    request.scope.bindings ≠ [] ∧ minimumActionLease ≤ request.leaseDuration ∧
    request.leaseDuration ≤ maximumActionLease) .invalidRequest
  validateScopeBindings [] request.scope.bindings

def validActionQueueReason (reason : ActionQueueReason) : Bool :=
  matchesResultCode reason.code && matchesHex 64 reason.detailHash

def validActionFence (fence : LeaseIdentity) : Bool :=
  validIdentifier fence.executionID 256 && validIdentifier fence.runnerID 256 &&
    validIdentifier fence.token 256 && 0 < fence.epoch

def actionLeaseActive (status : Status) : Bool :=
  status == .leased || status == .running || status == .finalizing || status == .uncertain

def releasesTargetLock (status : Status) : Bool :=
  status == .succeeded || status == .failed || status == .cancelled || status == .queued

def sameActionFence (execution : Execution) (fence : LeaseIdentity) : Bool :=
  execution.executionID == fence.executionID && execution.runnerID == fence.runnerID &&
    execution.leaseToken == fence.token && execution.leaseEpoch == fence.epoch

def currentActionFence (execution : Execution) (fence : LeaseIdentity) (now : Int) : Bool :=
  sameActionFence execution fence && now < execution.leaseExpiresAt

def redactActionExecution (execution : Execution) : Execution := { execution with leaseToken := [] }

def actionHeartbeatResult (execution : Execution) : ActionHeartbeatResult where
  execution := redactActionExecution execution
  directive := if execution.cancelRequestedAt ≠ 0 then .terminate else .continue

section Hashes

variable (codec : Codec)

def hashLeaseToken (token : GoString) : GoString := codec.sha256Hex token

def hashActionQueueReason (reason : ActionQueueReason) : GoString :=
  codec.sha256Hex (Json.encode (.object [("schema_version", .text (ascii "action-queue-reason.v1")),
    ("code", .text reason.code), ("detail_hash", .text reason.detailHash)]))

def expiredRunningResultHash : GoString :=
  hashActionQueueReason codec
    { code := ascii "RUNNING_LEASE_EXPIRED", detailHash := List.replicate 64 48 }

def cancellationIntentHash : GoString :=
  codec.sha256Hex (joinZero (ascii "action-queue-cancel-intent.v1") (ascii "REQUESTED"))

/-- The document whose canonical form is hashed: the submission without what may differ on a retry. -/
def semanticDocument (submission : ActionSubmission) : Option Json := do
  let envelope ← Envelope.document
    { submission.envelope with actionID := [], planHash := [], traceID := [], signature := {} }
  return .object [("schema_version", .text (ascii "action-request.v1")), ("envelope", envelope),
    ("target_key", .text submission.targetKey), ("environment_revision", .text submission.environmentRevision),
    ("production", .bool submission.production), ("pool", .text submission.pool.text)]

def requestSemanticHash (submission : ActionSubmission) : Except QueueError GoString := do
  let document ← orFail (semanticDocument submission) .marshal
  let canonical ← orFail (codec.canonical document) .canonicalize
  return codec.sha256Hex canonical

/-- A field with `omitempty` that holds a string. -/
def omitEmpty (key : String) (value : GoString) : List (String × Json) :=
  if value = [] then [] else [(key, .text value)]

def receiptDocument (schemaVersion : GoString) (receipt : RunnerResultReceipt) : Json :=
  .object ([("schema_version", .text schemaVersion), ("action_id", .text receipt.actionID),
    ("tenant_id", .text receipt.tenantID), ("workspace_id", .text receipt.workspaceID),
    ("environment_id", .text receipt.environmentID), ("plan_hash", .text receipt.planHash),
    ("runner_id", .text receipt.runnerID), ("lease_epoch", .text (formatInt receipt.leaseEpoch)),
    ("scope_revision", .text (formatInt receipt.scopeRevision))] ++
    omitEmpty "certificate_sha256" receipt.certificateSHA256 ++
    [("completion_status", .text receipt.completionStatus.text), ("outcome", .text receipt.summary.outcome.text),
      ("code", .text receipt.summary.code), ("verification", .text receipt.summary.verification.text),
      ("changed", .bool receipt.summary.changed)] ++
    omitEmpty "external_operation_ref_hash" receipt.summary.externalOperationRefHash)

def buildReceipt (claimed : ClaimedAction) (request : ActionCompleteRequest) (completionStatus : Status)
    (schemaVersion certificateSHA256 : GoString) (receivedAt : Int) : Except QueueError RunnerResultReceipt := do
  let receipt : RunnerResultReceipt := {
    actionID := claimed.execution.executionID
    tenantID := claimed.execution.runnerTenantID
    workspaceID := claimed.execution.runnerWorkspaceID
    environmentID := claimed.execution.runnerEnvironmentID
    planHash := claimed.planHash
    runnerID := request.lease.runnerID
    leaseEpoch := request.lease.epoch
    scopeRevision := claimed.execution.scopeRevision
    certificateSHA256 := certificateSHA256
    completionStatus := completionStatus
    summary := request.summary
    resultHash := []
    receivedAt := receivedAt }
  let document := receiptDocument schemaVersion receipt
  require ((Json.encode document).length ≤ 16384) .invalidRequest
  let canonical ← orFail (codec.canonical document) .canonicalize
  return { receipt with resultHash := codec.sha256Hex (joinZero schemaVersion canonical) }

def buildRunnerResultReceipt (claimed : ClaimedAction) (request : ActionCompleteRequest)
    (completionStatus : Status) (receivedAt : Int) : Except QueueError RunnerResultReceipt :=
  buildReceipt codec claimed request completionStatus (ascii "runner-result.v1") [] receivedAt

end Hashes

end AiopsSystem.Execution
