import AiopsSystem.Execution.ActionQueue

/-! # Records of the in-memory action queue

One record binds a submission to its execution lease. The updates of the
transitions are named, one function each, and write exactly the fields their
source writes.
-/

namespace AiopsSystem.Execution

open Go AiopsSystem.Action ExecutionLease

structure MemoryActionRecord where
  submission : ActionSubmission
  requestHash : GoString
  receipt : Option RunnerResultReceipt := none
  completedTokenHash : GoString := []
  completedEpoch : Int := 0
  execution : Execution
  notBefore : Int := 0
  lastNackHash : GoString := []

def claimedAction (record : MemoryActionRecord) : ClaimedAction where
  execution := record.execution
  envelope := record.submission.envelope
  planHash := record.submission.planHash
  targetKey := record.submission.targetKey
  environmentRevision := record.submission.environmentRevision
  production := record.submission.production

namespace MemoryActionRecord

def deadline (record : MemoryActionRecord) : Int := record.submission.envelope.expiresAt.instant

def submitted (submission : ActionSubmission) (requestHash : GoString) (now : Int) : MemoryActionRecord where
  submission := submission
  requestHash := requestHash
  execution := {
    executionID := submission.envelope.actionID
    targetKey := submission.targetKey
    pool := submission.pool
    production := submission.production
    status := .queued
    createdAt := now
    updatedAt := now }

def leaseEnd (record : MemoryActionRecord) (now duration : Int) : Int :=
  if record.deadline < now + duration then record.deadline else now + duration

def leased (record : MemoryActionRecord) (request : ActionClaimRequest) (token : GoString) (now : Int) :
    MemoryActionRecord :=
  { record with execution := { record.execution with
      status := .leased
      runnerID := request.scope.runnerID
      runnerTenantID := request.scope.tenantID
      runnerWorkspaceID := record.submission.envelope.workspaceID
      runnerEnvironmentID := record.submission.envelope.target.environmentID
      scopeRevision := request.scope.scopeRevision
      leaseToken := token
      leaseEpoch := record.execution.leaseEpoch + 1
      heartbeatSeq := 0
      cancelRequestedAt := 0
      cancelReasonHash := []
      leaseAcquiredAt := now
      lastHeartbeatAt := now
      leaseExpiresAt := record.leaseEnd now request.leaseDuration
      updatedAt := now } }

def started (record : MemoryActionRecord) (now : Int) : MemoryActionRecord :=
  { record with execution := { record.execution with status := .running, startedAt := now, updatedAt := now } }

def beaten (record : MemoryActionRecord) (sequence extension now : Int) : MemoryActionRecord :=
  if record.execution.cancelRequestedAt = 0 then
    { record with execution := { record.execution with
        heartbeatSeq := sequence
        leaseExpiresAt := record.leaseEnd now extension
        lastHeartbeatAt := now
        updatedAt := now } }
  else { record with execution := { record.execution with heartbeatSeq := sequence, updatedAt := now } }

def completed (record : MemoryActionRecord) (receipt : RunnerResultReceipt) (status : Status)
    (tokenHash : GoString) (epoch now : Int) : MemoryActionRecord :=
  { record with
    execution := { record.execution with
      status := .finalizing
      completionStatus := status
      resultHash := receipt.resultHash
      leaseExpiresAt := 0
      leaseToken := []
      updatedAt := now }
    receipt := some receipt
    completedTokenHash := tokenHash
    completedEpoch := epoch }

def finalized (record : MemoryActionRecord) (now : Int) : MemoryActionRecord :=
  { record with execution := { record.execution with
      status := record.execution.completionStatus
      completedAt := now
      updatedAt := now } }

def rejected (record : MemoryActionRecord) (reasonHash tokenHash : GoString) (epoch now : Int) : MemoryActionRecord :=
  { record with
    execution := { record.execution with
      status := .failed
      completionStatus := .failed
      resultHash := reasonHash
      completedAt := now
      leaseExpiresAt := 0
      leaseToken := []
      updatedAt := now }
    completedTokenHash := tokenHash
    completedEpoch := epoch }

def requeued (record : MemoryActionRecord) (notBefore now : Int) : MemoryActionRecord :=
  { record with
    execution := { record.execution with
      status := .queued
      runnerID := []
      runnerTenantID := []
      runnerWorkspaceID := []
      runnerEnvironmentID := []
      scopeRevision := 0
      leaseToken := []
      leaseExpiresAt := 0
      leaseAcquiredAt := 0
      lastHeartbeatAt := 0
      heartbeatSeq := 0
      cancelRequestedAt := 0
      cancelReasonHash := []
      updatedAt := now }
    notBefore := notBefore }

def nacked (record : MemoryActionRecord) (reasonHash : GoString) (retryAfter now : Int) : MemoryActionRecord :=
  { record.requeued (now + retryAfter) now with lastNackHash := reasonHash }

def lapsed (record : MemoryActionRecord) (resultHash : GoString) (now : Int) : MemoryActionRecord :=
  { record with execution := { record.execution with
      status := .uncertain
      completionStatus := .uncertain
      resultHash := resultHash
      completedAt := now
      leaseToken := []
      leaseExpiresAt := 0
      updatedAt := now } }

def reconciled (record : MemoryActionRecord) (request : ReconcileRequest) (now : Int) : MemoryActionRecord :=
  { record with execution := { record.execution with
      status := request.status
      reconciliationID := request.reconciliationID
      reconciliationActor := request.actorID
      reconciliationResultHash := request.resultHash
      reconciledAt := now
      updatedAt := now } }

def cancelRequested (record : MemoryActionRecord) (reasonHash : GoString) (now : Int) : MemoryActionRecord :=
  { record with execution := { record.execution with
      cancelRequestedAt := now
      cancelReasonHash := reasonHash
      updatedAt := now } }

def cancelled (record : MemoryActionRecord) (now : Int) : MemoryActionRecord :=
  { record with execution := { record.execution with
      status := .cancelled
      runnerID := []
      runnerTenantID := []
      runnerWorkspaceID := []
      runnerEnvironmentID := []
      leaseToken := []
      leaseExpiresAt := 0
      completedAt := now
      updatedAt := now } }

end MemoryActionRecord

end AiopsSystem.Execution
