import AiopsSystem.Execution.QueueSteps
import AiopsSystem.Go.Digest

/-! # Exclusive target locks

A record holds the lock of its target from its claim until a status that
releases the lock. Only a claim enters the holding statuses, and it does so
after looking for another holder of the same target; every other write keeps
the target of its record and never makes it a holder.
-/

namespace AiopsSystem.Execution

open Go AiopsSystem.Action ExecutionLease MemoryActionQueue

structure RecordIdentity where
  submission : ActionSubmission
  (requestHash executionID targetKey : GoString)
  pool : Pool
  production : Bool

def MemoryActionRecord.identity (record : MemoryActionRecord) : RecordIdentity where
  submission := record.submission
  requestHash := record.requestHash
  executionID := record.execution.executionID
  targetKey := record.execution.targetKey
  pool := record.execution.pool
  production := record.execution.production

theorem MemoryActionRecord.beaten_identity (record : MemoryActionRecord) (sequence extension now : Int) :
    (record.beaten sequence extension now).identity = record.identity := by
  unfold beaten
  split <;> rfl

theorem MemoryActionRecord.beaten_status (record : MemoryActionRecord) (sequence extension now : Int) :
    (record.beaten sequence extension now).execution.status = record.execution.status := by
  unfold beaten
  split <;> rfl

section Moves

variable {codec : Codec} {env : Environment} {queue queue' : MemoryActionQueue} {label : Option Call}
  {executionID : GoString} {record record' : MemoryActionRecord}

theorem Move.identity_eq (h : Move codec env queue label executionID record record') :
    record'.identity = record.identity := by
  cases h with
  | heartbeat => exact record.beaten_identity _ _ _
  | _ => rfl

theorem Move.active_of_active (h : Move codec env queue label executionID record record')
    (hActive : actionLeaseActive record'.execution.status) :
    actionLeaseActive record.execution.status ∨
      queue.targetActive record.execution.targetKey record.execution.executionID = false := by
  cases h with
  | claim _ hClaimable =>
    simp only [claimable, Bool.and_eq_true, Bool.not_eq_true'] at hClaimable
    exact .inr hClaimable.2
  | recover hStatus | finalize _ _ _ hStatus | lapse hStatus | complete _ _ _ _ _ hStatus
  | start _ _ _ _ hStatus | requestCancel _ hStatus | reconcile _ _ _ hStatus => simp [hStatus, actionLeaseActive]
  | heartbeat =>
    rw [record.beaten_status] at hActive
    exact .inl hActive
  | requeue | reject | nack | cancel => exact absurd hActive Bool.false_ne_true

end Moves

section Sample

/-! The restart of one deployment, submitted twice under two keys, is the fixed run of this development. -/

def sampleEnvelope (actionID idempotencyKey : String) : Envelope where
  schemaVersion := schemaVersionV1
  actionID := ascii actionID
  workspaceID := ascii "workspace-1"
  incidentID := ascii "incident-1"
  requestedBy := ascii "operator-1"
  actionType := .kubernetesRolloutRestart
  target := {
    serviceID := ascii "payments"
    environmentID := ascii "staging"
    kubernetesDeployment := some {
      clusterID := ascii "cluster-1"
      nspace := ascii "payments"
      name := ascii "api"
      uid := ascii "uid-1"
      resourceVersion := ascii "42" }
    gitOpsApplication := none
    awxHosts := none }
  parameters := {
    kubernetesRolloutRestart := some { reason := ascii "memory leak" }
    kubernetesScale := none
    gitOpsRevert := none
    awxServiceRestart := none }
  observedState := {
    kubernetesDeployment := some { generation := 7, replicas := 3, availableReplicas := 3, updatedReplicas := 3 }
    gitOpsApplication := none
    awxService := none }
  preconditions := {
    mappingResult := ascii "EXACT"
    expectedResourceVersion := ascii "42"
    expectedGitHeadCommit := []
    requireWhitelist := true }
  verification := { mode := ascii "KUBERNETES_ROLLOUT", timeoutSeconds := 300 }
  compensation := { mode := ascii "MANUAL_ONLY", summary := ascii "restart again by hand" }
  risk := { level := ascii "LOW", reasonCodes := [ascii "STATELESS"] }
  policyVersion := ascii "policy-1"
  planHash := List.replicate 64 97
  credentialScope := {
    connectorID := ascii "vault"
    permission := ascii "PATCH_DEPLOYMENT_RESTART"
    resource := ascii "cluster-1/payments/deployment/api"
    ttlSeconds := 300 }
  idempotencyKey := ascii idempotencyKey
  notBefore := { instant := unixEpoch + 1783000000 * second, offset := 0 }
  expiresAt := { instant := unixEpoch + 1783001200 * second, offset := 0 }
  traceID := List.replicate 32 98
  signature := {}

def sampleSubmission (actionID idempotencyKey : String) (pool : Pool) : ActionSubmission where
  envelope := sampleEnvelope actionID idempotencyKey
  planHash := List.replicate 64 97
  targetKey := ascii "cluster-1/payments/api"
  environmentRevision := ascii "revision-1"
  production := false
  pool := pool

def sampleSummary : ExecutorResult where
  outcome := .succeeded
  code := ascii "RESTARTED"
  verification := .passed
  changed := true
  externalOperationRefHash := []

def sampleReceipt (receivedAt : Int) : RunnerResultReceipt where
  actionID := ascii "action-1"
  tenantID := ascii "tenant-1"
  workspaceID := ascii "workspace-1"
  environmentID := ascii "staging"
  planHash := List.replicate 64 97
  runnerID := ascii "runner-1"
  leaseEpoch := 1
  scopeRevision := 1
  certificateSHA256 := []
  completionStatus := .succeeded
  summary := sampleSummary
  resultHash := ascii "54f938149bafc0baaecd56578a5a7236a2a237cebceac7b034d44b941f979169"
  receivedAt := receivedAt

def sampleDigests : List (GoString × GoString) :=
  [(((semanticDocument (sampleSubmission "action-1" "restart-1" .read)).getD .null).canonicalForm,
      ascii "ef785405331c050661e861a692831a19dbdd50321033b4ab5a09b2e61af3333d"),
    (((semanticDocument (sampleSubmission "action-2" "restart-2" .read)).getD .null).canonicalForm,
      ascii "42469551d969311e9994c0d5aa1f2e069490acf5e6622fc31113d08f971df20f"),
    (joinZero (ascii "runner-result.v1") (receiptDocument (ascii "runner-result.v1") (sampleReceipt 0)).canonicalForm,
      (sampleReceipt 0).resultHash),
    (ascii "lease-token-1", ascii "9c643ab414e95a4ed50d456956689fac158a15060e609ce622c3bf667af0f63a")]

def sampleCodec : Codec where
  sha256Hex := digestTable sampleDigests
  canonical := fun document => some document.canonicalForm

def sampleEnvironment (clock : Int) : Environment where
  contextDone := false
  clock := clock
  draws := fun _ => { token := some (ascii "lease-token-1"), clock := clock }
  visit := [ascii "action-1", ascii "action-2"]
  sweepGate := none
  gate := none

def sampleClock : Int := unixEpoch + 1783000100 * second

def sampleScope (pool : Pool) : RunnerScope where
  runnerID := ascii "runner-1"
  tenantID := ascii "tenant-1"
  pool := pool
  scopeRevision := 1
  maxConcurrency := 4
  bindings := [{ workspaceID := ascii "workspace-1", environmentID := ascii "staging" }]

def sampleRun : List (Call × Environment) :=
  [(.submit (sampleSubmission "action-1" "restart-1" .read), sampleEnvironment sampleClock),
    (.submit (sampleSubmission "action-2" "restart-2" .read), sampleEnvironment sampleClock),
    (.claim { scope := sampleScope .read, leaseDuration := minute }, sampleEnvironment sampleClock)]

end Sample

namespace MemoryActionQueue

def Keyed (queue : MemoryActionQueue) : Prop :=
  queue.EveryRecord (fun executionID record => record.execution.executionID = executionID)

def Exclusive (queue : MemoryActionQueue) : Prop :=
  ∀ id id' record record', queue.record? id = some record → queue.record? id' = some record' → id ≠ id' →
    record.execution.targetKey = record'.execution.targetKey →
    ¬ (actionLeaseActive record.execution.status = true ∧ actionLeaseActive record'.execution.status = true)

section Writes

variable {codec : Codec} {env : Environment} {queue queue' : MemoryActionQueue} {label : Option Call}

theorem keyed_invariant (codec : Codec) :
    RecordInvariant codec (fun _ => True) (fun executionID record => record.execution.executionID = executionID) where
  submitted := fun _ _ _ _ _ => rfl
  moved := by
    intro _ _ _ _ _ _ record record' _ hMove hKeyed
    have hSame : record'.execution.executionID = record.execution.executionID :=
      congrArg RecordIdentity.executionID hMove.identity_eq
    exact hSame.trans hKeyed

theorem targetActive_eq_false (hKeyed : queue.Keyed) {id other : GoString} {record existing : MemoryActionRecord}
    (hRecord : queue.record? id = some record) (hOther : queue.record? other = some existing) (hNe : other ≠ id)
    (hKey : existing.execution.targetKey = record.execution.targetKey)
    (h : queue.targetActive record.execution.targetKey record.execution.executionID = false) :
    actionLeaseActive existing.execution.status = false := by
  by_contra hActive
  have hFound : queue.targetActive record.execution.targetKey record.execution.executionID := by
    refine (GoMap.anyEntry_iff _ _).mpr ⟨other, existing, hOther, ?_⟩
    rw [hKeyed id record hRecord]
    simp [hNe, hKey, Bool.of_not_eq_false hActive]
  rw [h] at hFound
  cases hFound

theorem Exclusive.write (hKeyed : queue.Keyed) (hExclusive : queue.Exclusive)
    (h : Write codec env label queue queue') : queue'.Exclusive := by
  cases h with
  | @move _ _ moved before after hRecord hMove =>
    have hTarget : after.execution.targetKey = before.execution.targetKey :=
      congrArg RecordIdentity.targetKey hMove.identity_eq
    -- A holder after the move excludes every other holder of its target.
    have hAgainst : ∀ other existing, queue.record? other = some existing → other ≠ moved →
        existing.execution.targetKey = after.execution.targetKey →
        actionLeaseActive after.execution.status →
        ¬ actionLeaseActive existing.execution.status := by
      intro other existing hOther hNe hKey hAfter hExisting
      rw [hTarget] at hKey
      rcases hMove.active_of_active hAfter with hBefore | hFree
      · exact hExclusive _ _ _ _ hRecord hOther hNe.symm hKey.symm ⟨hBefore, hExisting⟩
      · have := targetActive_eq_false hKeyed hRecord hOther hNe hKey hFree
        rw [hExisting] at this
        cases this
    rintro id id' record record' hLookup hLookup' hNe hKey ⟨hActive, hActive'⟩
    rw [record?_store] at hLookup hLookup'
    split at hLookup
    · rename_i hId
      cases hLookup
      rw [if_neg (fun h => hNe (hId.trans h.symm))] at hLookup'
      exact hAgainst id' record' hLookup' (fun h => hNe (hId.trans h.symm)) hKey.symm hActive hActive'
    · rename_i hId
      split at hLookup'
      · cases hLookup'
        exact hAgainst id record hLookup hId hKey hActive' hActive
      · exact hExclusive id id' record record' hLookup hLookup' hNe hKey ⟨hActive, hActive'⟩
  | @enroll _ submission requestHash =>
    have hQueued : actionLeaseActive
        (MemoryActionRecord.submitted submission requestHash env.clock).execution.status = false := rfl
    rintro id id' record record' hLookup hLookup' hNe hKey ⟨hActive, hActive'⟩
    rw [record?_enroll] at hLookup hLookup'
    split at hLookup
    · cases hLookup
      rw [hQueued] at hActive
      cases hActive
    · split at hLookup'
      · cases hLookup'
        rw [hQueued] at hActive'
        cases hActive'
      · exact hExclusive id id' record record' hLookup hLookup' hNe hKey ⟨hActive, hActive'⟩

theorem exclusive_new : newMemoryActionQueue.Keyed ∧ newMemoryActionQueue.Exclusive := by
  constructor
  · intro _ _ hNone
    cases hNone
  · intro _ _ _ _ hNone
    cases hNone

theorem exclusive_write (h : Write codec env label queue queue') (hQueue : queue.Keyed ∧ queue.Exclusive) :
    queue'.Keyed ∧ queue'.Exclusive :=
  ⟨(keyed_invariant codec).write_any h hQueue.1, hQueue.2.write hQueue.1 h⟩

end Writes

/-- In every state a run reaches, two records of one target never both hold its lock. -/
theorem target_lock_exclusive (codec : Codec) (inputs : List (Call × Environment)) (n : Nat)
    {id id' : GoString} {record record' : MemoryActionRecord}
    (hRecord : ((machine codec).stateAt inputs n).record? id = some record)
    (hRecord' : ((machine codec).stateAt inputs n).record? id' = some record') (hDistinct : id ≠ id')
    (hTarget : record.execution.targetKey = record'.execution.targetKey) :
    ¬ (record.execution.status ∈ [.leased, .running, .finalizing, .uncertain] ∧
      record'.execution.status ∈ [.leased, .running, .finalizing, .uncertain]) := by
  have hInvariant : ((machine codec).stateAt inputs n).Keyed ∧ ((machine codec).stateAt inputs n).Exclusive := by
    refine (machine codec).stateAt_invariant (P := fun queue => queue.Keyed ∧ queue.Exclusive) exclusive_new ?_ inputs n
    intro queue _ hQueue
    exact step_invariant (P := fun queue => queue.Keyed ∧ queue.Exclusive) (fun _ _ _ _ => exclusive_write) hQueue
  have hHolds : ∀ status : Status, status ∈ [Status.leased, .running, .finalizing, .uncertain] →
      actionLeaseActive status = true := by
    intro status
    cases status <;> decide
  rintro ⟨hHolds₁, hHolds₂⟩
  exact hInvariant.2 id id' record record' hRecord hRecord' hDistinct hTarget ⟨hHolds _ hHolds₁, hHolds _ hHolds₂⟩

theorem target_lock_exclusive_two_restarts :
    ∃ record record', ((machine sampleCodec).stateAt sampleRun 3).record? (ascii "action-1") = some record ∧
      ((machine sampleCodec).stateAt sampleRun 3).record? (ascii "action-2") = some record' ∧
      record.execution.status = .leased ∧
      ¬ (record.execution.status ∈ [.leased, .running, .finalizing, .uncertain] ∧
        record'.execution.status ∈ [.leased, .running, .finalizing, .uncertain]) := by
  have hFirst : (((machine sampleCodec).stateAt sampleRun 3).record? (ascii "action-1")).map
      (fun record => (record.execution.targetKey, record.execution.status)) =
        some (ascii "cluster-1/payments/api", .leased) := by decide +kernel
  have hSecond : (((machine sampleCodec).stateAt sampleRun 3).record? (ascii "action-2")).map
      (fun record => record.execution.targetKey) = some (ascii "cluster-1/payments/api") := by decide +kernel
  obtain ⟨record, hRecord, hFields⟩ := Option.map_eq_some_iff.mp hFirst
  obtain ⟨record', hRecord', hKey'⟩ := Option.map_eq_some_iff.mp hSecond
  obtain ⟨hKey, hStatus⟩ := Prod.mk.inj hFields
  exact ⟨record, record', hRecord, hRecord', hStatus,
    target_lock_exclusive sampleCodec sampleRun 3 hRecord hRecord' (by decide) (hKey.trans hKey'.symm)⟩

end MemoryActionQueue

end AiopsSystem.Execution
