import AiopsSystem.Execution.QueueMachine
import Mathlib.Data.List.Nodup
import Mathlib.Logic.Relation

/-! # What one write of the action queue can be

`Move` lists every update of an existing record with the guards it passed: the
moves of the sweep, which carry no call, and the moves of the calls. A step is
a sequence of sweep moves followed by at most one write of its call, so what
every write keeps is kept by every step.
-/

namespace AiopsSystem.Execution

open Go AiopsSystem.Action ExecutionLease MemoryActionQueue

inductive Move (codec : Codec) (env : Environment) (queue : MemoryActionQueue) :
    Option Call → GoString → MemoryActionRecord → MemoryActionRecord → Prop
  | recover {executionID record receipt} (hStatus : record.execution.status = .finalizing)
      (hReceipt : record.receipt = some receipt) (hDeadline : record.deadline ≤ env.clock)
      (hCompletion : record.execution.completionStatus = receipt.completionStatus)
      (hGate : releasesTargetLock record.execution.completionStatus = true →
        credentialTerminal env.sweepGate record.execution false = true) :
      Move codec env queue none executionID record (record.finalized env.clock)
  | requeue {executionID record} (hStatus : record.execution.status = .leased)
      (hHeld : record.execution.leaseExpiresAt ≠ 0) (hExpired : record.execution.leaseExpiresAt ≤ env.clock)
      (hGate : credentialTerminal env.sweepGate record.execution true = true) :
      Move codec env queue none executionID record (record.requeued 0 env.clock)
  | lapse {executionID record} (hStatus : record.execution.status = .running)
      (hHeld : record.execution.leaseExpiresAt ≠ 0) (hExpired : record.execution.leaseExpiresAt ≤ env.clock) :
      Move codec env queue none executionID record (record.lapsed (expiredRunningResultHash codec) env.clock)
  | claim {request executionID record token} {earlier : Int} {attempt : Nat}
      (hRequest : validateRunnerScope request = .ok ())
      (hClaimable : claimable request queue earlier record = true)
      (hEpoch : record.execution.leaseEpoch ≠ maxEpoch)
      (hToken : (env.draws attempt).token = some token) (hValid : validIdentifier token 256 = true)
      (hClock : (env.draws attempt).clock ≠ 0) (hDeadline : (env.draws attempt).clock < record.deadline) :
      Move codec env queue (some (.claim request)) executionID record
        (record.leased request token (env.draws attempt).clock)
  | start {fence record} (hFence : validActionFence fence = true) (hClock : env.clock ≠ 0)
      (hDeadline : env.clock < record.deadline)
      (hCurrent : currentActionFence record.execution fence env.clock = true)
      (hStatus : record.execution.status = .leased) :
      Move codec env queue (some (.start fence)) fence.executionID record (record.started env.clock)
  | heartbeat {request record} (hFence : validActionFence request.lease = true)
      (hExtension : minimumActionLease ≤ request.extension ∧ request.extension ≤ maximumActionLease)
      (hClock : env.clock ≠ 0) (hSame : sameActionFence record.execution request.lease = true)
      (hStatus : record.execution.status = .leased ∨ record.execution.status = .running)
      (hDeadline : env.clock < record.deadline) (hLive : env.clock < record.execution.leaseExpiresAt)
      (hSequence : request.sequence = record.execution.heartbeatSeq + 1) :
      Move codec env queue (some (.heartbeat request)) request.lease.executionID record
        (record.beaten request.sequence request.extension env.clock)
  | complete {request record receipt status} (hFence : validActionFence request.lease = true)
      (hSummary : resultSummaryStatus request.summary = some status) (hClock : env.clock ≠ 0)
      (hReceipt : buildRunnerResultReceipt codec (claimedAction record) request status env.clock = .ok receipt)
      (hCurrent : currentActionFence record.execution request.lease env.clock = true)
      (hStatus : record.execution.status = .running) :
      Move codec env queue (some (.complete request)) request.lease.executionID record
        (record.completed receipt status (hashLeaseToken codec request.lease.token) request.lease.epoch env.clock)
  | finalize {fence record receipt} (hFence : validActionFence fence = true) (hClock : env.clock ≠ 0)
      (hCompleted : completedFence codec record fence = true)
      (hStatus : record.execution.status = .finalizing) (hReceipt : record.receipt = some receipt)
      (hCompletion : record.execution.completionStatus = receipt.completionStatus)
      (hGate : releasesTargetLock record.execution.completionStatus = true →
        credentialTerminal env.gate record.execution false = true) :
      Move codec env queue (some (.finalize fence)) fence.executionID record (record.finalized env.clock)
  | reject {request record} (hFence : validActionFence request.lease = true) (hClock : env.clock ≠ 0)
      (hCurrent : currentActionFence record.execution request.lease env.clock = true)
      (hStatus : record.execution.status = .leased)
      (hGate : credentialTerminal env.gate record.execution true = true) :
      Move codec env queue (some (.reject request)) request.lease.executionID record
        (record.rejected (hashActionQueueReason codec request.reason) (hashLeaseToken codec request.lease.token)
          request.lease.epoch env.clock)
  | nack {request record} (hFence : validActionFence request.lease = true) (hClock : env.clock ≠ 0)
      (hCurrent : currentActionFence record.execution request.lease env.clock = true)
      (hStatus : record.execution.status = .leased)
      (hGate : credentialTerminal env.gate record.execution true = true) :
      Move codec env queue (some (.nack request)) request.lease.executionID record
        (record.nacked (hashActionQueueReason codec request.reason) request.retryAfter env.clock)
  | reconcile {request record} (hRequest : validIdentifier request.reconciliationID 256 = true)
      (hDecision : request.status = .succeeded ∨ request.status = .failed)
      (hOpen : record.execution.reconciliationID = []) (hStatus : record.execution.status = .uncertain)
      (hGate : credentialTerminal env.gate record.execution false = true)
      (hUnique : queue.records.anyEntry (fun executionID existing => executionID != request.executionID &&
        existing.execution.reconciliationID == request.reconciliationID) = false) :
      Move codec env queue (some (.reconcile request)) request.executionID record
        (record.reconciled request env.clock)
  | requestCancel {executionID record} (hClock : env.clock ≠ 0)
      (hStatus : record.execution.status = .running) (hFirst : record.execution.cancelRequestedAt = 0) :
      Move codec env queue (some (.cancel executionID)) executionID record
        (record.cancelRequested (cancellationIntentHash codec) env.clock)
  | cancel {executionID record} (hClock : env.clock ≠ 0) (hTerminal : record.execution.terminal = false)
      (hStatus : record.execution.status ≠ .finalizing ∧ record.execution.status ≠ .running)
      (hGate : record.execution.status = .leased → credentialTerminal env.gate record.execution true = true) :
      Move codec env queue (some (.cancel executionID)) executionID record (record.cancelled env.clock)

def MemoryActionQueue.enroll (queue : MemoryActionQueue) (submission : ActionSubmission) (requestHash : GoString)
    (now : Int) : MemoryActionQueue where
  records := queue.records.insert submission.envelope.actionID (.submitted submission requestHash now)
  idempotency := queue.idempotency.insert
    (scopeBindingKey submission.envelope.workspaceID submission.envelope.idempotencyKey) submission.envelope.actionID
  order := queue.order ++ [submission.envelope.actionID]

inductive Write (codec : Codec) (env : Environment) : Option Call → MemoryActionQueue → MemoryActionQueue → Prop
  | move {queue label executionID record record'} (hRecord : queue.record? executionID = some record)
      (hMove : Move codec env queue label executionID record record') :
      Write codec env label queue (queue.store executionID record')
  | enroll {queue submission requestHash} (hValid : validateActionSubmission submission = .ok ())
      (hHash : requestSemanticHash codec submission = .ok requestHash)
      (hFresh : queue.record? submission.envelope.actionID = none)
      (hUnbound : queue.idempotency.get?
        (scopeBindingKey submission.envelope.workspaceID submission.envelope.idempotencyKey) = none) :
      Write codec env (some (.submit submission)) queue (queue.enroll submission requestHash env.clock)

namespace MemoryActionQueue

@[simp] theorem record?_store (queue : MemoryActionQueue) (executionID other : GoString) (record : MemoryActionRecord) :
    (queue.store executionID record).record? other =
      if other = executionID then some record else queue.record? other :=
  GoMap.get?_insert _ _ _ _

@[simp] theorem record?_enroll (queue : MemoryActionQueue) (submission : ActionSubmission)
    (requestHash other : GoString) (now : Int) :
    (queue.enroll submission requestHash now).record? other =
      if other = submission.envelope.actionID then some (.submitted submission requestHash now)
      else queue.record? other :=
  GoMap.get?_insert _ _ _ _

def Moved (codec : Codec) (env : Environment) (call : Call) (queue queue' : MemoryActionQueue) : Prop :=
  queue' = queue ∨ Write codec env (some call) queue queue'

section Inversion

variable {codec : Codec} {env : Environment} {queue queue' : MemoryActionQueue}

variable {now : Int}

@[simp] theorem now_eq_ok : env.now = .ok now ↔ env.clock ≠ 0 ∧ env.clock = now := by
  simp [Environment.now, pure, Except.pure]

variable {execution : Execution}

theorem start_moved {fence : LeaseIdentity} (h : queue.start env fence = .ok (execution, queue')) :
    Moved codec env (.start fence) queue queue' := by
  simp only [start, bind_eq_ok, require_eq_ok, orFail_eq_ok, now_eq_ok] at h
  obtain ⟨_, _, _, hFence, _, ⟨hClock, rfl⟩, record, hRecord, _, hDeadline, _, hCurrent, h⟩ := h
  split at h
  · rename_i hStatus
    cases h
    exact .inr (.move hRecord (.start hFence hClock hDeadline hCurrent hStatus))
  · cases h
    exact .inl rfl
  · cases h

theorem heartbeat_moved {request : ActionHeartbeatRequest} {result : ActionHeartbeatResult}
    (h : queue.heartbeat env request = .ok (result, queue')) : Moved codec env (.heartbeat request) queue queue' := by
  simp only [heartbeat, bind_eq_ok, require_eq_ok, orFail_eq_ok, now_eq_ok] at h
  obtain ⟨_, _, _, ⟨hFence, hExtension⟩, _, _, _, ⟨hClock, rfl⟩, record, hRecord, _, hSame, _, hStatus, h⟩ := h
  split at h
  · rename_i hDeadline
    obtain ⟨_, hLive, h⟩ := bind_eq_ok.mp h
    split at h
    · cases h
      exact .inl rfl
    · obtain ⟨_, hSequence, h⟩ := bind_eq_ok.mp h
      cases h
      exact .inr (.move hRecord (.heartbeat hFence hExtension hClock hSame hStatus hDeadline
        (require_eq_ok.mp hLive) (require_eq_ok.mp hSequence)))
  · cases h
    exact .inl rfl

theorem complete_moved {request : ActionCompleteRequest}
    (h : queue.complete codec env request = .ok (execution, queue')) :
    Moved codec env (.complete request) queue queue' := by
  simp only [complete, bind_eq_ok, require_eq_ok, orFail_eq_ok, now_eq_ok] at h
  obtain ⟨_, _, _, hFence, _, hSummary, _, ⟨hClock, rfl⟩, _, hRecord, _, hReceipt, h⟩ := h
  split at h
  · simp only [bind_eq_ok, require_eq_ok] at h
    obtain ⟨_, _, _, _, h⟩ := h
    cases h
    exact .inl rfl
  · simp only [bind_eq_ok, require_eq_ok] at h
    obtain ⟨_, hCurrent, _, hStatus, h⟩ := h
    cases h
    exact .inr (.move hRecord (.complete hFence hSummary hClock hReceipt hCurrent hStatus))

theorem finalize_moved {fence : LeaseIdentity} (h : queue.finalize codec env fence = .ok (execution, queue')) :
    Moved codec env (.finalize fence) queue queue' := by
  simp only [finalize, requireCredentialTerminal, bind_eq_ok, require_eq_ok, orFail_eq_ok, now_eq_ok] at h
  obtain ⟨_, _, _, hFence, _, ⟨hClock, rfl⟩, record, hRecord, _, hCompleted, h⟩ := h
  split at h
  · cases h
    exact .inl rfl
  · obtain ⟨_, hGuard, h⟩ := bind_eq_ok.mp h
    obtain ⟨hStatus, hAny⟩ := require_eq_ok.mp hGuard
    obtain ⟨receipt, hReceipt, hCompletion⟩ := (Option.any_eq_true _ _).mp hAny
    have hMove := @Move.finalize codec env queue fence record receipt hFence hClock hCompleted hStatus hReceipt
      (beq_iff_eq.mp hCompletion)
    split at h
    · obtain ⟨_, hGate, h⟩ := bind_eq_ok.mp h
      cases h
      exact .inr (.move hRecord (hMove (fun _ => require_eq_ok.mp hGate)))
    · rename_i hReleases
      cases h
      exact .inr (.move hRecord (hMove (fun hTrue => absurd hTrue hReleases)))

theorem reject_moved {request : ActionRejectRequest} (h : queue.reject codec env request = .ok (execution, queue')) :
    Moved codec env (.reject request) queue queue' := by
  simp only [reject, requireCredentialTerminal, bind_eq_ok, require_eq_ok, orFail_eq_ok, now_eq_ok] at h
  obtain ⟨_, _, _, ⟨hFence, _⟩, _, ⟨hClock, rfl⟩, _, hRecord, h⟩ := h
  split at h
  · simp only [bind_eq_ok, require_eq_ok] at h
    obtain ⟨_, _, _, _, h⟩ := h
    cases h
    exact .inl rfl
  · simp only [bind_eq_ok, require_eq_ok] at h
    obtain ⟨_, hCurrent, _, hStatus, _, hGate, h⟩ := h
    cases h
    exact .inr (.move hRecord (.reject hFence hClock hCurrent hStatus hGate))

theorem nack_moved {request : ActionNackRequest} (h : queue.nack codec env request = .ok (execution, queue')) :
    Moved codec env (.nack request) queue queue' := by
  simp only [nack, requireCredentialTerminal, bind_eq_ok, require_eq_ok, orFail_eq_ok, now_eq_ok] at h
  obtain ⟨_, _, _, ⟨hFence, _⟩, _, ⟨hClock, rfl⟩, _, hRecord, _, hCurrent, _, hStatus, _, hGate, h⟩ := h
  cases h
  exact .inr (.move hRecord (.nack hFence hClock hCurrent hStatus hGate))

theorem entry_eq_ok {guard : Except QueueError Unit} :
    entry guard env = .ok now ↔ env.contextDone = false ∧ guard = .ok () ∧ env.clock ≠ 0 ∧ env.clock = now := by
  simp only [entry, bind_eq_ok, require_eq_ok, now_eq_ok]
  constructor
  · rintro ⟨_, hContext, _, hGuard, hClock⟩
    exact ⟨hContext, hGuard, hClock⟩
  · rintro ⟨hContext, hGuard, hClock⟩
    exact ⟨(), hContext, (), hGuard, hClock⟩

theorem reconcile_moved {request : ReconcileRequest} (hEntry : (Call.reconcile request).sweepGuard = some (.ok ()))
    (h : queue.reconcile env request env.clock = .ok (execution, queue')) :
    Moved codec env (.reconcile request) queue queue' := by
  simp only [reconcile, requireCredentialTerminal, bind_eq_ok, orFail_eq_ok] at h
  simp only [Call.sweepGuard, Option.some.injEq, require_eq_ok] at hEntry
  obtain ⟨record, hRecord, h⟩ := h
  split at h
  · obtain ⟨_, _, h⟩ := bind_eq_ok.mp h
    cases h
    exact .inl rfl
  · rename_i hOpen
    simp only [bind_eq_ok, require_eq_ok] at h
    obtain ⟨_, hStatus, _, hGate, _, hUnique, h⟩ := h
    cases h
    exact .inr (.move hRecord (.reconcile hEntry.2.1 hEntry.2.2.2.1 (not_not.mp hOpen) hStatus hGate hUnique))

theorem cancel_moved {executionID : GoString} (hClock : env.clock ≠ 0)
    (h : queue.cancel codec env executionID env.clock = .ok (execution, queue')) :
    Moved codec env (.cancel executionID) queue queue' := by
  simp only [cancel, requireCredentialTerminal, bind_eq_ok, orFail_eq_ok] at h
  obtain ⟨record, hRecord, h⟩ := h
  split at h
  · cases h
    exact .inl rfl
  · rename_i hTerminal
    obtain ⟨_, hFinalizing, h⟩ := bind_eq_ok.mp h
    have hFinalizing := require_eq_ok.mp hFinalizing
    split at h
    · rename_i hStatus
      split at h
      · rename_i hFirst
        cases h
        exact .inr (.move hRecord (.requestCancel hClock hStatus hFirst))
      · cases h
        exact .inl rfl
    · rename_i hRunning
      have hMove := @Move.cancel codec env queue executionID record hClock (Bool.eq_false_iff.mpr hTerminal)
        ⟨hFinalizing, hRunning⟩
      split at h
      · obtain ⟨_, hGate, h⟩ := bind_eq_ok.mp h
        cases h
        exact .inr (.move hRecord (hMove (fun _ => require_eq_ok.mp hGate)))
      · rename_i hLeased
        cases h
        exact .inr (.move hRecord (hMove (fun hTrue => absurd hTrue hLeased)))

theorem claimLoop_moved (codec : Codec) {request : ActionClaimRequest}
    (hRequest : validateRunnerScope request = .ok ()) {ids : List GoString} {attempt : Nat} {claimed : ClaimedAction}
    (h : queue.claimLoop env request ids now attempt = .ok (claimed, queue')) :
    ∃ executionID record record', queue.record? executionID = some record ∧
      Move codec env queue (some (.claim request)) executionID record record' ∧
      claimed = claimedAction record' ∧ queue' = queue.store executionID record' := by
  induction ids generalizing now attempt with
  | nil => cases h
  | cons executionID rest ih =>
    rw [claimLoop] at h
    split at h
    · exact ih h
    · rename_i record hFilter
      obtain ⟨hRecord, hClaimable⟩ := Option.filter_eq_some_iff.mp hFilter
      simp only [bind_eq_ok, require_eq_ok, orFail_eq_ok] at h
      obtain ⟨_, hEpoch, token, hToken, _, hValid, _, hClock, h⟩ := h
      split at h
      · rename_i hDeadline
        cases h
        exact ⟨_, _, _, hRecord, .claim hRequest hClaimable hEpoch hToken hValid hClock hDeadline, rfl, rfl⟩
      · exact ih h

end Inversion

end MemoryActionQueue

end AiopsSystem.Execution
