import AiopsSystem.ExecutionLease.Lease
import AiopsSystem.Go.Clock
import AiopsSystem.Go.Section
import AiopsSystem.Go.Table
import AiopsSystem.Machine.Run

/-! # The in-memory lease store

Every operation reads the clock, takes the lock and runs to its end, so it is a
section over the store. `Claim`, `Reconcile`, `SweepExpired` and `Get` expire
leases first, and what they expired stays expired when they then fail; `Cancel`
does not.
-/

namespace AiopsSystem.ExecutionLease.Memory

open Go Go.Section

inductive LeaseError where
  | contextDone
  | alreadyExists
  | notFound
  | noLeaseAvailable
  | staleLease
  | invalidTransition
  | epochExhausted
  | completionConflict
  | reconciliationConflict
  | claimBlocked
  | invalidRequest
  | clockZero
  | tokenSource
  | tokenInvalid

structure EnqueueRequest where
  (executionID targetKey : GoString)
  pool : Pool
  production : Bool

structure ClaimRequest where
  pool : Pool
  runnerID : GoString
  leaseDuration : Int
  claimsEnabled : Bool

structure HeartbeatRequest where
  lease : LeaseIdentity
  extension : Int

structure CompleteRequest where
  lease : LeaseIdentity
  status : Status
  resultHash : GoString

structure LeaseFence where
  runnerID : GoString
  epoch : Int
  tokenSHA256 : GoString

structure MemoryRepository where
  executions : GoMap GoString Execution
  leaseFences : GoMap GoString LeaseFence
  order : List GoString

def newMemory : MemoryRepository where
  executions := ∅
  leaseFences := ∅
  order := []

structure Environment where
  contextDone : Bool
  clock : Int
  /-- The answer of the token source, none when it fails. -/
  token : Option GoString
  /-- The order in which expiry ranges over the executions. -/
  visit : RangeOrder GoString

def minLeaseDuration : Int := second

def maxLeaseDuration : Int := 30 * minute

def validIdentifier (value : GoString) (maxBytes : Nat) : Bool :=
  value.length ≤ maxBytes && matchesIdentifier value

def validPool (pool : Pool) : Bool := pool == .read || pool == .write

def validLease (lease : LeaseIdentity) : Bool :=
  validIdentifier lease.executionID 256 && validIdentifier lease.runnerID 256 && validIdentifier lease.token 256 &&
    0 < lease.epoch

def redactedExecution (execution : Execution) : Execution := { execution with leaseToken := [] }

/-! ## What the operations write -/

def enqueued (request : EnqueueRequest) (now : Int) : Execution where
  executionID := request.executionID
  targetKey := request.targetKey
  pool := request.pool
  production := request.production
  status := .queued
  createdAt := now
  updatedAt := now

def leased (execution : Execution) (request : ClaimRequest) (now : Int) : Execution :=
  { execution with
    status := .leased
    runnerID := request.runnerID
    leaseToken := []
    leaseEpoch := execution.leaseEpoch + 1
    leaseAcquiredAt := now
    lastHeartbeatAt := now
    leaseExpiresAt := now + request.leaseDuration
    updatedAt := now }

def started (execution : Execution) (now : Int) : Execution :=
  { execution with status := .running, startedAt := now, updatedAt := now }

def beaten (execution : Execution) (extension now : Int) : Execution :=
  { execution with leaseExpiresAt := now + extension, lastHeartbeatAt := now, updatedAt := now }

def completed (execution : Execution) (status : Status) (resultHash : GoString) (now : Int) : Execution :=
  { execution with
    status := status
    resultHash := resultHash
    completedAt := now
    leaseExpiresAt := 0
    updatedAt := now
    leaseToken := [] }

def reconciled (execution : Execution) (request : ReconcileRequest) (now : Int) : Execution :=
  { execution with
    status := request.status
    reconciliationResultHash := request.resultHash
    reconciliationID := request.reconciliationID
    reconciliationActor := request.actorID
    reconciledAt := now
    updatedAt := now }

def cancelled (execution : Execution) (now : Int) : Execution :=
  let stopped : Execution :=
    if execution.status = .running then { execution with status := .uncertain }
    else { execution with status := .cancelled, runnerID := [] }
  { stopped with leaseToken := [], leaseExpiresAt := 0, completedAt := now, updatedAt := now }

def expired (now : Int) (execution : Execution) : Option Execution :=
  if execution.leaseExpiresAt = 0 ∨ now < execution.leaseExpiresAt then none
  else match execution.status with
    | .leased => some { execution with
        status := .queued
        runnerID := []
        leaseToken := []
        leaseAcquiredAt := 0
        lastHeartbeatAt := 0
        leaseExpiresAt := 0
        updatedAt := now }
    | .running => some { execution with
        status := .uncertain
        leaseToken := []
        leaseExpiresAt := 0
        completedAt := now
        updatedAt := now }
    | _ => none

namespace MemoryRepository

def execution? (repository : MemoryRepository) (executionID : GoString) : Option Execution :=
  repository.executions.get? executionID

def fence? (repository : MemoryRepository) (executionID : GoString) : Option LeaseFence :=
  repository.leaseFences.get? executionID

def store (repository : MemoryRepository) (executionID : GoString) (execution : Execution) : MemoryRepository :=
  { repository with executions := repository.executions.insert executionID execution }

def fenced (repository : MemoryRepository) (executionID : GoString) (fence : LeaseFence) : MemoryRepository :=
  { repository with leaseFences := repository.leaseFences.insert executionID fence }

def unfenced (repository : MemoryRepository) (executionID : GoString) : MemoryRepository :=
  { repository with leaseFences := repository.leaseFences.erase executionID }

def expireOne (now : Int) (repository : MemoryRepository) (executionID : GoString) : MemoryRepository :=
  match (repository.execution? executionID).bind (expired now) with
  | none => repository
  | some execution => (repository.unfenced executionID).store executionID execution

def expireLeases (visit : RangeOrder GoString) (now : Int) (repository : MemoryRepository) : MemoryRepository :=
  visit.keys.foldl (expireOne now) repository

def targetUnavailable (repository : MemoryRepository) (targetKey candidateID : GoString) : Bool :=
  repository.executions.anyEntry (fun executionID execution => executionID != candidateID &&
    execution.targetKey == targetKey &&
    (execution.status == .leased || execution.status == .running || execution.status == .uncertain))

end MemoryRepository

open MemoryRepository

abbrev Locked := Section LeaseError MemoryRepository

section Operations

variable (sha256 : GoString → GoString) (env : Environment)

def LeaseFence.matchesLease (fence : LeaseFence) (lease : LeaseIdentity) : Bool :=
  fence.runnerID == lease.runnerID && fence.epoch == lease.epoch && fence.tokenSHA256 == sha256 lease.token

def currentLease (execution : Execution) (fence : Option LeaseFence) (lease : LeaseIdentity) (now : Int) : Bool :=
  lease.executionID == execution.executionID && lease.runnerID == execution.runnerID &&
    fence.any (fun fence => fence.matchesLease sha256 lease) && 0 < lease.epoch &&
    lease.epoch == execution.leaseEpoch && (execution.status == .leased || execution.status == .running) &&
    now < execution.leaseExpiresAt

/-- The context, the arguments and the clock, in the order in which every operation checks them. -/
def entry (valid : Bool) : Locked Unit := do
  ensure (env.contextDone = false) .contextDone
  ensure (valid = true) .invalidRequest
  ensure (env.clock ≠ 0) .clockZero

def enqueue (request : EnqueueRequest) : Locked Execution := do
  entry env (validIdentifier request.executionID 256 && validIdentifier request.targetKey 512 &&
    validPool request.pool)
  let repository ← get
  ensure (repository.execution? request.executionID = none) .alreadyExists
  let execution := enqueued request env.clock
  set { repository.store request.executionID execution with order := repository.order ++ [request.executionID] }
  return execution

/-- The loop of `Claim` over the queue order. -/
def claimLoop (request : ClaimRequest) : List GoString → Locked Execution
  | [] => throw .noLeaseAvailable
  | executionID :: rest => do
    let repository ← get
    -- The order names only stored executions; a missing one would read as the zero value, which is not queued.
    let execution := (repository.execution? executionID).getD {}
    if execution.status ≠ .queued ∨ execution.pool ≠ request.pool then claimLoop request rest
    else if repository.targetUnavailable execution.targetKey execution.executionID then claimLoop request rest
    else if execution.pool = .write ∧ execution.production = true then claimLoop request rest
    else do
      ensure (execution.leaseEpoch ≠ 9223372036854775807) .epochExhausted
      let token ← found env.token .tokenSource
      ensure (validIdentifier token 256 = true) .tokenInvalid
      let execution := leased execution request env.clock
      set ((repository.fenced executionID {
        runnerID := request.runnerID
        epoch := execution.leaseEpoch
        tokenSHA256 := sha256 token }).store executionID execution)
      return { execution with leaseToken := token }

def claim (request : ClaimRequest) : Locked Execution := do
  entry env (validPool request.pool && validIdentifier request.runnerID 256 &&
    minLeaseDuration ≤ request.leaseDuration && request.leaseDuration ≤ maxLeaseDuration)
  modify (expireLeases env.visit env.clock)
  ensure (request.claimsEnabled = true) .claimBlocked
  let repository ← get
  claimLoop sha256 env request repository.order

def start (lease : LeaseIdentity) : Locked Execution := do
  entry env (validLease lease)
  let repository ← get
  let execution ← found (repository.execution? lease.executionID) .notFound
  ensure (currentLease sha256 execution (repository.fence? execution.executionID) lease env.clock = true) .staleLease
  match execution.status with
  | .leased =>
    set (repository.store execution.executionID (started execution env.clock))
    return redactedExecution (started execution env.clock)
  | .running => return redactedExecution execution
  | _ => throw .invalidTransition

def heartbeat (request : HeartbeatRequest) : Locked Execution := do
  entry env (validLease request.lease && minLeaseDuration ≤ request.extension &&
    request.extension ≤ maxLeaseDuration)
  let repository ← get
  let execution ← found (repository.execution? request.lease.executionID) .notFound
  ensure (currentLease sha256 execution (repository.fence? execution.executionID) request.lease env.clock = true)
    .staleLease
  set (repository.store execution.executionID (beaten execution request.extension env.clock))
  return redactedExecution (beaten execution request.extension env.clock)

def complete (request : CompleteRequest) : Locked Execution := do
  entry env (validLease request.lease &&
    (request.status == .succeeded || request.status == .failed || request.status == .uncertain) &&
    matchesHex 64 request.resultHash)
  let repository ← get
  let execution ← found (repository.execution? request.lease.executionID) .notFound
  let fence := repository.fence? execution.executionID
  if terminalStatus execution.status then
    ensure (execution.reconciliationID = []) .staleLease
    ensure (fence.any (fun fence => fence.matchesLease sha256 request.lease) = true) .staleLease
    ensure (execution.status = request.status ∧ execution.resultHash = request.resultHash) .completionConflict
    return redactedExecution execution
  else
    ensure (currentLease sha256 execution fence request.lease env.clock = true) .staleLease
    ensure (execution.status = .running) .invalidTransition
    set (repository.store execution.executionID (completed execution request.status request.resultHash env.clock))
    return redactedExecution (completed execution request.status request.resultHash env.clock)

def reconcile (request : ReconcileRequest) : Locked Execution := do
  entry env (validIdentifier request.executionID 256 && validIdentifier request.reconciliationID 256 &&
    validIdentifier request.actorID 256 && (request.status == .succeeded || request.status == .failed) &&
    matchesHex 64 request.resultHash)
  modify (expireLeases env.visit env.clock)
  let repository ← get
  let execution ← found (repository.execution? request.executionID) .notFound
  if execution.reconciliationID ≠ [] then
    ensure (execution.reconciliationID = request.reconciliationID ∧
      execution.reconciliationActor = request.actorID ∧ execution.status = request.status ∧
      execution.reconciliationResultHash = request.resultHash) .reconciliationConflict
    set (repository.unfenced execution.executionID)
    return redactedExecution execution
  else
    ensure (execution.status = .uncertain) .invalidTransition
    ensure (repository.executions.anyEntry (fun executionID existing =>
      executionID != execution.executionID && existing.reconciliationID == request.reconciliationID) = false)
      .reconciliationConflict
    set ((repository.unfenced execution.executionID).store execution.executionID
      (reconciled execution request env.clock))
    return redactedExecution (reconciled execution request env.clock)

def sweepExpired : Locked Unit := do
  entry env true
  modify (expireLeases env.visit env.clock)

def cancel (executionID : GoString) : Locked Execution := do
  entry env (validIdentifier executionID 256)
  let repository ← get
  let execution ← found (repository.execution? executionID) .notFound
  if terminalStatus execution.status then return redactedExecution execution
  else
    set ((repository.unfenced execution.executionID).store execution.executionID (cancelled execution env.clock))
    return redactedExecution (cancelled execution env.clock)

def get (executionID : GoString) : Locked Execution := do
  entry env (validIdentifier executionID 256)
  modify (expireLeases env.visit env.clock)
  let repository ← MonadState.get
  let execution ← found (repository.execution? executionID) .notFound
  return redactedExecution execution

end Operations

inductive Call where
  | enqueue (request : EnqueueRequest)
  | claim (request : ClaimRequest)
  | start (lease : LeaseIdentity)
  | heartbeat (request : HeartbeatRequest)
  | complete (request : CompleteRequest)
  | reconcile (request : ReconcileRequest)
  | sweepExpired
  | cancel (executionID : GoString)
  | get (executionID : GoString)

/-- A reply carries an execution, except that of `SweepExpired`. -/
abbrev Reply := Except LeaseError (Option Execution)

def perform (sha256 : GoString → GoString) (env : Environment) : Call → Locked (Option Execution)
  | .enqueue request => some <$> enqueue env request
  | .claim request => some <$> claim sha256 env request
  | .start lease => some <$> start sha256 env lease
  | .heartbeat request => some <$> heartbeat sha256 env request
  | .complete request => some <$> complete sha256 env request
  | .reconcile request => some <$> reconcile env request
  | .sweepExpired => (fun _ => none) <$> sweepExpired env
  | .cancel executionID => some <$> cancel env executionID
  | .get executionID => some <$> get env executionID

def MemoryRepository.step (sha256 : GoString → GoString) (repository : MemoryRepository)
    (input : Call × Environment) : Reply × MemoryRepository :=
  (perform sha256 input.2 input.1).exec repository

def machine (sha256 : GoString → GoString) : Machine MemoryRepository (Call × Environment) Reply where
  init := newMemory
  step := MemoryRepository.step sha256

end AiopsSystem.ExecutionLease.Memory
