import AiopsSystem.Execution.MemoryRecord
import AiopsSystem.Go.Table

/-! # The in-memory action queue

Every operation runs under one lock, so it is a function from the queue to a
reply and a queue. What the operation does not control is its environment: the
context, the clock, the token source, the order in which a map is ranged over
and the answers of the credential gate, which may differ from call to call.
-/

namespace AiopsSystem.Execution

open Go AiopsSystem.Action ExecutionLease

structure MemoryActionQueue where
  records : GoMap GoString MemoryActionRecord
  idempotency : GoMap GoString GoString
  order : List GoString

def newMemoryActionQueue : MemoryActionQueue where
  records := ∅
  idempotency := ∅
  order := []

/-- One answer of `InspectCleanup`. -/
structure CleanupAnswer where
  (present terminal failed : Bool)

abbrev Gate := Option (GoString → Int → CleanupAnswer)

/-- A call of the token source, `none` when it fails, and the clock reading after it. -/
structure Draw where
  token : Option GoString
  clock : Int

structure Environment where
  contextDone : Bool
  clock : Int
  /-- The token source and the clock at the successive attempts of one claim. -/
  draws : Nat → Draw
  /-- The order in which the sweep ranges over the records. -/
  visit : List GoString
  (sweepGate gate : Gate)

def Environment.now (env : Environment) : Except QueueError Int := do
  require (env.clock ≠ 0) .clockZero
  return env.clock

def credentialTerminal (gate : Gate) (execution : Execution) (allowMissing : Bool) : Bool :=
  if execution.pool ≠ .write then true
  else match gate with
    | none => false
    | some inspectCleanup =>
      let answer := inspectCleanup execution.executionID execution.leaseEpoch
      !(answer.failed || (answer.present && !answer.terminal) || (!answer.present && !allowMissing))

def requireCredentialTerminal (gate : Gate) (execution : Execution) (allowMissing : Bool) : Except QueueError Unit :=
  require (credentialTerminal gate execution allowMissing) .credentialCleanupPending

namespace MemoryActionQueue

def record? (queue : MemoryActionQueue) (executionID : GoString) : Option MemoryActionRecord :=
  queue.records.get? executionID

def store (queue : MemoryActionQueue) (executionID : GoString) (record : MemoryActionRecord) : MemoryActionQueue :=
  { queue with records := queue.records.insert executionID record }

def targetActive (queue : MemoryActionQueue) (targetKey excludingID : GoString) : Bool :=
  queue.records.anyEntry (fun executionID record =>
    executionID != excludingID && record.execution.targetKey == targetKey &&
      actionLeaseActive record.execution.status)

def runnerActive (queue : MemoryActionQueue) (runnerID : GoString) : Nat :=
  queue.records.countEntries (fun _ record =>
    record.execution.runnerID == runnerID && actionLeaseActive record.execution.status)

section Operations

variable (codec : Codec)

def expireRecord (gate : Gate) (now : Int) (record : MemoryActionRecord) : Option MemoryActionRecord :=
  if record.execution.status = .finalizing then
    match record.receipt with
    | none => none
    | some receipt =>
      if now < record.deadline ∨ record.execution.completionStatus ≠ receipt.completionStatus then none
      else if releasesTargetLock record.execution.completionStatus ∧
          credentialTerminal gate record.execution false = false then none
      else some (record.finalized now)
  else if record.execution.leaseExpiresAt = 0 ∨ now < record.execution.leaseExpiresAt then none
  else match record.execution.status with
    | .leased =>
      if credentialTerminal gate record.execution true then some (record.requeued 0 now) else none
    | .running => some (record.lapsed (expiredRunningResultHash codec) now)
    | _ => none

def expireOne (gate : Gate) (now : Int) (queue : MemoryActionQueue) (executionID : GoString) : MemoryActionQueue :=
  match (queue.record? executionID).bind (expireRecord codec gate now) with
  | none => queue
  | some record => queue.store executionID record

def expireLocked (env : Environment) (now : Int) (queue : MemoryActionQueue) : MemoryActionQueue :=
  env.visit.foldl (expireOne codec env.sweepGate now) queue

def submit (env : Environment) (submission : ActionSubmission) (queue : MemoryActionQueue) :
    Except QueueError (Execution × MemoryActionQueue) := do
  require (env.contextDone = false) .contextDone
  validateActionSubmission submission
  let now ← env.now
  let requestHash ← requestSemanticHash codec submission
  match queue.record? submission.envelope.actionID with
  | some existing =>
    require (existing.requestHash = requestHash) .jobConflict
    return (redactActionExecution existing.execution, queue)
  | none =>
    let idempotencyKey := scopeBindingKey submission.envelope.workspaceID submission.envelope.idempotencyKey
    match queue.idempotency.get? idempotencyKey with
    | some existingID =>
      -- The index never names a missing record; a missing one would read as the zero record.
      let existing := queue.record? existingID
      require ((existing.map (·.requestHash)).getD [] = requestHash) .idempotencyConflict
      return (redactActionExecution ((existing.map (·.execution)).getD {}), queue)
    | none =>
      let record := MemoryActionRecord.submitted submission requestHash now
      return (record.execution, {
        records := queue.records.insert submission.envelope.actionID record
        idempotency := queue.idempotency.insert idempotencyKey submission.envelope.actionID
        order := queue.order ++ [submission.envelope.actionID] })

def claimable (request : ActionClaimRequest) (queue : MemoryActionQueue) (now : Int)
    (record : MemoryActionRecord) : Bool :=
  record.execution.status == .queued && record.execution.pool == request.scope.pool &&
    !(record.execution.pool == .write && record.execution.production) &&
    record.notBefore ≤ now && now < record.deadline &&
    request.scope.allows record.submission.envelope.workspaceID record.submission.envelope.target.environmentID &&
    !queue.targetActive record.execution.targetKey record.execution.executionID

def maxEpoch : Int := 9223372036854775807

/-- The loop over the queue order: `now` is read again after every token drawn. -/
def claimLoop (env : Environment) (request : ActionClaimRequest) (queue : MemoryActionQueue) :
    List GoString → Int → Nat → Except QueueError (ClaimedAction × MemoryActionQueue)
  | [], _, _ => .error .noLeaseAvailable
  | executionID :: rest, now, attempt =>
    match (queue.record? executionID).filter (claimable request queue now) with
    | none => claimLoop env request queue rest now attempt
    | some record => do
      require (record.execution.leaseEpoch ≠ maxEpoch) .invalidTransition
      let token ← orFail (env.draws attempt).token .tokenSource
      require (validIdentifier token 256) .invalidRequest
      require ((env.draws attempt).clock ≠ 0) .clockZero
      if (env.draws attempt).clock < record.deadline then
        let record := record.leased request token (env.draws attempt).clock
        return (claimedAction record, queue.store executionID record)
      else claimLoop env request queue rest (env.draws attempt).clock (attempt + 1)

def claim (env : Environment) (request : ActionClaimRequest) (now : Int) (queue : MemoryActionQueue) :
    Except QueueError (ClaimedAction × MemoryActionQueue) := do
  require ((queue.runnerActive request.scope.runnerID : Int) < request.scope.maxConcurrency) .noLeaseAvailable
  claimLoop env request queue queue.order now 0

def start (env : Environment) (fence : LeaseIdentity) (queue : MemoryActionQueue) :
    Except QueueError (Execution × MemoryActionQueue) := do
  require (env.contextDone = false) .contextDone
  require (validActionFence fence) .invalidRequest
  let now ← env.now
  let record ← orFail (queue.record? fence.executionID) .notFound
  require (now < record.deadline) .staleLease
  require (currentActionFence record.execution fence now) .staleLease
  match record.execution.status with
  | .leased =>
    let record := record.started now
    return (redactActionExecution record.execution, queue.store fence.executionID record)
  | .running => return (redactActionExecution record.execution, queue)
  | _ => .error .invalidTransition

def heartbeat (env : Environment) (request : ActionHeartbeatRequest) (queue : MemoryActionQueue) :
    Except QueueError (ActionHeartbeatResult × MemoryActionQueue) := do
  require (env.contextDone = false) .contextDone
  require (validActionFence request.lease ∧ minimumActionLease ≤ request.extension ∧
    request.extension ≤ maximumActionLease) .invalidRequest
  require (0 < request.sequence) .heartbeatSequence
  let now ← env.now
  let record ← orFail (queue.record? request.lease.executionID) .notFound
  require (sameActionFence record.execution request.lease) .staleLease
  require (record.execution.status = .leased ∨ record.execution.status = .running) .invalidTransition
  if now < record.deadline then
    require (now < record.execution.leaseExpiresAt) .staleLease
    if request.sequence = record.execution.heartbeatSeq then
      return (actionHeartbeatResult record.execution, queue)
    else
      require (request.sequence = record.execution.heartbeatSeq + 1) .heartbeatSequence
      let record := record.beaten request.sequence request.extension now
      return (actionHeartbeatResult record.execution, queue.store request.lease.executionID record)
  else return ({ execution := redactActionExecution record.execution, directive := .terminate }, queue)

def completedFence (record : MemoryActionRecord) (fence : LeaseIdentity) : Bool :=
  record.execution.reconciliationID == [] && record.execution.runnerID == fence.runnerID &&
    record.completedEpoch == fence.epoch && record.completedTokenHash == hashLeaseToken codec fence.token

def complete (env : Environment) (request : ActionCompleteRequest) (queue : MemoryActionQueue) :
    Except QueueError (Execution × MemoryActionQueue) := do
  require (env.contextDone = false) .contextDone
  require (validActionFence request.lease) .invalidRequest
  let completionStatus ← orFail (resultSummaryStatus request.summary) .invalidRequest
  let now ← env.now
  let record ← orFail (queue.record? request.lease.executionID) .notFound
  let receipt ← buildRunnerResultReceipt codec (claimedAction record) request completionStatus now
  if record.execution.status = .finalizing ∨ record.execution.terminal then
    require (completedFence codec record request.lease) .staleLease
    require (record.receipt.any (fun stored => stored.resultHash == receipt.resultHash) ∧
      record.execution.completionStatus = completionStatus) .completionConflict
    return (redactActionExecution record.execution, queue)
  else
    require (currentActionFence record.execution request.lease now) .staleLease
    require (record.execution.status = .running) .invalidTransition
    let record := record.completed receipt completionStatus (hashLeaseToken codec request.lease.token)
      request.lease.epoch now
    return (redactActionExecution record.execution, queue.store request.lease.executionID record)

def finalize (env : Environment) (fence : LeaseIdentity) (queue : MemoryActionQueue) :
    Except QueueError (Execution × MemoryActionQueue) := do
  require (env.contextDone = false) .contextDone
  require (validActionFence fence) .invalidRequest
  let now ← env.now
  let record ← orFail (queue.record? fence.executionID) .notFound
  require (completedFence codec record fence) .staleLease
  if record.execution.terminal then return (redactActionExecution record.execution, queue)
  else
    require (record.execution.status = .finalizing ∧
      record.receipt.any (fun receipt => record.execution.completionStatus == receipt.completionStatus))
      .invalidTransition
    if releasesTargetLock record.execution.completionStatus then
      requireCredentialTerminal env.gate record.execution false
    let record := record.finalized now
    return (redactActionExecution record.execution, queue.store fence.executionID record)

def reject (env : Environment) (request : ActionRejectRequest) (queue : MemoryActionQueue) :
    Except QueueError (Execution × MemoryActionQueue) := do
  require (env.contextDone = false) .contextDone
  require (validActionFence request.lease ∧ validActionQueueReason request.reason) .invalidRequest
  let reasonHash := hashActionQueueReason codec request.reason
  let now ← env.now
  let record ← orFail (queue.record? request.lease.executionID) .notFound
  if record.execution.status = .failed then
    require (completedFence codec record request.lease) .staleLease
    require (record.execution.resultHash = reasonHash) .completionConflict
    return (redactActionExecution record.execution, queue)
  else
    require (currentActionFence record.execution request.lease now) .staleLease
    require (record.execution.status = .leased) .invalidTransition
    requireCredentialTerminal env.gate record.execution true
    let record := record.rejected reasonHash (hashLeaseToken codec request.lease.token) request.lease.epoch now
    return (redactActionExecution record.execution, queue.store request.lease.executionID record)

def nack (env : Environment) (request : ActionNackRequest) (queue : MemoryActionQueue) :
    Except QueueError (Execution × MemoryActionQueue) := do
  require (env.contextDone = false) .contextDone
  require (validActionFence request.lease ∧ validActionQueueReason request.reason ∧
    second ≤ request.retryAfter ∧ request.retryAfter ≤ maximumActionLease) .invalidRequest
  let reasonHash := hashActionQueueReason codec request.reason
  let now ← env.now
  let record ← orFail (queue.record? request.lease.executionID) .notFound
  require (currentActionFence record.execution request.lease now) .staleLease
  require (record.execution.status = .leased) .invalidTransition
  requireCredentialTerminal env.gate record.execution true
  let record := record.nacked reasonHash request.retryAfter now
  return (record.execution, queue.store request.lease.executionID record)

def reconcile (env : Environment) (request : ReconcileRequest) (now : Int) (queue : MemoryActionQueue) :
    Except QueueError (Execution × MemoryActionQueue) := do
  let record ← orFail (queue.record? request.executionID) .notFound
  if record.execution.reconciliationID ≠ [] then
    require (record.execution.reconciliationID = request.reconciliationID ∧
      record.execution.reconciliationActor = request.actorID ∧ record.execution.status = request.status ∧
      record.execution.reconciliationResultHash = request.resultHash) .reconciliationConflict
    return (redactActionExecution record.execution, queue)
  else
    require (record.execution.status = .uncertain) .invalidTransition
    requireCredentialTerminal env.gate record.execution false
    require (queue.records.anyEntry (fun executionID existing => executionID != request.executionID &&
      existing.execution.reconciliationID == request.reconciliationID) = false) .reconciliationConflict
    let record := record.reconciled request now
    return (redactActionExecution record.execution, queue.store request.executionID record)

def cancel (env : Environment) (executionID : GoString) (now : Int) (queue : MemoryActionQueue) :
    Except QueueError (Execution × MemoryActionQueue) := do
  let record ← orFail (queue.record? executionID) .notFound
  if record.execution.terminal then return (redactActionExecution record.execution, queue)
  else
    require (record.execution.status ≠ .finalizing) .invalidTransition
    if record.execution.status = .running then
      if record.execution.cancelRequestedAt = 0 then
        let record := record.cancelRequested (cancellationIntentHash codec) now
        return (redactActionExecution record.execution, queue.store executionID record)
      else return (redactActionExecution record.execution, queue)
    else
      if record.execution.status = .leased then
        requireCredentialTerminal env.gate record.execution true
      let record := record.cancelled now
      return (redactActionExecution record.execution, queue.store executionID record)

def get (executionID : GoString) (queue : MemoryActionQueue) :
    Except QueueError (Execution × MemoryActionQueue) := do
  let record ← orFail (queue.record? executionID) .notFound
  return (redactActionExecution record.execution, queue)

end Operations

end MemoryActionQueue

end AiopsSystem.Execution
