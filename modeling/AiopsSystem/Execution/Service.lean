import AiopsSystem.Credential.Revocation
import AiopsSystem.Execution.ActionQueue
import AiopsSystem.Machine.Interaction

/-! # One run of the execution service

`RunNext` claims one write job and takes it to its end. Everything it asks for
is a call of the program: the queue, the registry, the gates, the credential
broker, the executors, the clocks, the context and the heartbeat session, whose
checkpoints may answer anything. Timeouts only bound how long a call may take.
-/

namespace AiopsSystem.Execution

open Go AiopsSystem.Action ExecutionLease
open Credential (ActionFence Revocation validRevocationID)

namespace Service

def maxEnvironmentSnapshotAge : Int := 15 * second

def maxSafetySnapshotAge : Int := 5 * second

def maxPreExecutionDecisionAge : Int := 5 * second

def maximumClockSkew : Int := second

def maxSensitiveValueSize : Nat := 65536

/-- An error of a dependency; only `errors.Is(err, ErrCredentialCleanupPending)` is ever asked of it. -/
structure Failure where
  text : GoString
  cleanupPending : Bool
deriving DecidableEq

inductive ServiceError where
  | claimsDisabled
  | jobConflict
  | clockZero
  | invalidAction (cause : Failure)
  | environmentUnavailable
  | environmentDrift
  | credentialDenied
  | preExecutionDenied
  | executionUncertain
  | executionFailed
  | credentialCleanupPending
  | unsupportedAction
  | dependency (cause : Failure)
deriving DecidableEq

/-- An execution and the joined errors, none for `nil`. -/
abbrev Outcome := Execution × List ServiceError

inductive SafetyPhase where
  | claim
  | start

def noActionType : ActionType := .unsupported []

structure SafetyRequest where
  phase : SafetyPhase
  pool : Pool
  runnerID : GoString
  workspaceID : GoString := []
  environmentID : GoString := []
  connectorID : GoString := []
  actionType : ActionType := noActionType

structure ClaimSafetySnapshot where
  enabled : Bool
  pool : Pool
  (runnerID workspaceID environmentID connectorID : GoString)
  actionType : ActionType
  revision : GoString
  observedAt : Int

structure EnvironmentSnapshot where
  (workspaceID environmentID : GoString)
  production : Bool
  revision : GoString
  observedAt : Int

inductive PolicyOutcome where
  | allow
  | other (value : GoString)
deriving DecidableEq

inductive PolicyStage where
  | credentialIssue
  | preExecution
  | other (value : GoString)
deriving DecidableEq

structure Decision where
  outcome : PolicyOutcome
  policyVersion : GoString
  stage : PolicyStage
  (planHash safetyRevision targetRevision riskRevision limitsRevision : GoString)
  evaluatedAt : Int
  credentialExpiresAt : Int

structure PrepareRequest where
  fence : ActionFence
  (tenantID workspaceID environmentID : GoString)
  production : Bool
  actionType : ActionType
  (connectorID permission resource : GoString)
  requestedTTL : Int
  policyExpiresAt : Int

structure PreparedDurableCredential where
  revocationID : GoString

structure DurableCredential where
  revocationID : GoString
  expiresAt : Int

structure CommandIdentity where
  (actionID workspaceID incidentID serviceID environmentID traceID : GoString)

inductive Command where
  | rolloutRestart (identity : CommandIdentity) (target : KubernetesDeploymentTarget)
      (parameters : KubernetesRolloutRestartParameters) (observed : KubernetesDeploymentObservedState)
      (preconditions : Preconditions) (verification : VerificationPlan)
  | scale (identity : CommandIdentity) (target : KubernetesDeploymentTarget) (parameters : KubernetesScaleParameters)
      (observed : KubernetesDeploymentObservedState) (preconditions : Preconditions) (verification : VerificationPlan)
  | gitOpsRevert (identity : CommandIdentity) (target : GitOpsTarget) (parameters : GitOpsRevertParameters)
      (observed : GitOpsObservedState) (preconditions : Preconditions) (verification : VerificationPlan)
  | awxServiceRestart (identity : CommandIdentity) (target : AWXTarget) (parameters : AWXServiceRestartParameters)
      (observed : AWXServiceObservedState) (preconditions : Preconditions) (verification : VerificationPlan)

inductive ContextName where
  | caller
  | heartbeat
  | execution

/-- Which case of the `select` after a dispatch is taken. -/
inductive Completion where
  | finished (result : ExecutorResult) (failure : Option Failure)
  | heartbeatsDone
  | contextDone

inductive Request where
  | resolveRegistration (runnerID : GoString)
  | evaluateSafety (request : SafetyRequest)
  | clock
  | localClock
  | contextErr (context : ContextName)
  | contextDeadline
  | claim (request : ActionClaimRequest)
  | verify (envelope : Envelope) (now : Int)
  | resolveEnvironment (workspaceID environmentID : GoString)
  | evaluateCredentialIssue (envelope : Envelope)
  | evaluatePreExecution (envelope : Envelope)
  | reject (request : ActionRejectRequest)
  | nack (request : ActionNackRequest)
  | prepare (request : PrepareRequest)
  | start (lease : LeaseIdentity)
  | heartbeat (request : ActionHeartbeatRequest)
  | recordNoCredential (prepared : PreparedDurableCredential)
  | issue (prepared : PreparedDurableCredential)
  | secret (credential : DurableCredential)
  | checkpoint
  | dispatchError
  | dispatch (command : Command) (credential : DurableCredential)
  | await
  | heartbeatFailure
  | complete (request : ActionCompleteRequest)
  | acknowledgeComplete
  | stopHeartbeats
  | requestRevocation (credential : DurableCredential)
  | finalize (lease : LeaseIdentity)

abbrev Response : Request → Type
  | .resolveRegistration _ => Except Failure RunnerRegistration
  | .evaluateSafety _ => Except Failure ClaimSafetySnapshot
  | .clock | .localClock => Int
  | .contextErr _ => Option Failure
  | .contextDeadline => Option Int
  | .claim _ => Except Failure ClaimedAction
  | .verify _ _ => Except Failure Unit
  | .resolveEnvironment _ _ => Except Failure EnvironmentSnapshot
  | .evaluateCredentialIssue _ | .evaluatePreExecution _ => Except Failure Decision
  | .reject _ | .nack _ | .start _ | .complete _ | .finalize _ => Except Failure Execution
  | .prepare _ => Except Failure PreparedDurableCredential
  | .heartbeat _ => Except Failure ActionHeartbeatResult
  | .recordNoCredential _ | .requestRevocation _ => Except Failure Revocation
  | .issue _ => Except Failure DurableCredential
  | .secret _ => GoString
  | .checkpoint | .dispatchError | .heartbeatFailure | .stopHeartbeats => Option Failure
  | .dispatch _ _ | .acknowledgeComplete => Unit
  | .await => Completion

abbrev dependencies : Interface where
  Request := Request
  Response := Response

abbrev Prog := Program dependencies

abbrev Step := Stage dependencies Outcome

end Service

/-- What `NewService` keeps; the digest names the reasons of rejections. -/
structure Service where
  runnerID : GoString
  leaseDuration : Int
  sha256Hex : GoString → GoString

namespace Service

open Program Stage

section Checks

def fresh (now observedAt maximumAge : Int) : Bool :=
  observedAt ≠ 0 && observedAt ≤ now + maximumClockSkew && timeSub now observedAt ≤ maximumAge

def validCredentialIssueDecision (decision : Decision) (envelope : Envelope) (now : Int) : Bool :=
  let deadline := decision.evaluatedAt + envelope.credentialScope.ttlSeconds * second
  let signedCredentialDeadline := if envelope.expiresAt.instant < deadline then envelope.expiresAt.instant else deadline
  decision.outcome == .allow && decision.stage == .credentialIssue &&
    decision.policyVersion == envelope.policyVersion && decision.planHash == envelope.planHash &&
    decision.safetyRevision != [] && decision.targetRevision != [] && decision.riskRevision != [] &&
    decision.limitsRevision != [] && decision.evaluatedAt ≠ 0 &&
    decision.evaluatedAt ≤ now + maximumClockSkew && timeSub now decision.evaluatedAt ≤ maxPreExecutionDecisionAge &&
    now < decision.credentialExpiresAt && decision.credentialExpiresAt ≤ signedCredentialDeadline

def samePolicySnapshot (credentialDecision preExecutionDecision : Decision) : Bool :=
  credentialDecision.policyVersion == preExecutionDecision.policyVersion &&
    credentialDecision.planHash == preExecutionDecision.planHash &&
    credentialDecision.safetyRevision == preExecutionDecision.safetyRevision &&
    credentialDecision.targetRevision == preExecutionDecision.targetRevision &&
    credentialDecision.riskRevision == preExecutionDecision.riskRevision &&
    credentialDecision.limitsRevision == preExecutionDecision.limitsRevision

/-- `envelope.ValidateAt(now) == nil` -/
def validAt (envelope : Envelope) (now : Int) : Bool :=
  (envelope.validate Envelope.TokenField.all).toBool && now < envelope.expiresAt.instant &&
    envelope.notBefore.instant ≤ now

def validPreExecutionDecision (decision : Decision) (envelope : Envelope) (now : Int) : Bool :=
  decision.outcome == .allow && decision.stage == .preExecution &&
    decision.policyVersion == envelope.policyVersion && decision.planHash == envelope.planHash &&
    decision.safetyRevision != [] && decision.targetRevision != [] && decision.riskRevision != [] &&
    decision.limitsRevision != [] && decision.evaluatedAt ≠ 0 &&
    decision.evaluatedAt ≤ now + maximumClockSkew && timeSub now decision.evaluatedAt ≤ maxPreExecutionDecisionAge &&
    validAt envelope now

def validSafety (request : SafetyRequest) (snapshot : ClaimSafetySnapshot) (now : Int) : Bool :=
  now ≠ 0 && snapshot.enabled && validIdentifier snapshot.revision 256 &&
    fresh now snapshot.observedAt maxSafetySnapshotAge && snapshot.pool == request.pool &&
    snapshot.runnerID == request.runnerID &&
    match request.phase with
    | .claim => snapshot.workspaceID == [] && snapshot.environmentID == [] && snapshot.connectorID == [] &&
        snapshot.actionType == noActionType
    | .start => snapshot.workspaceID == request.workspaceID && snapshot.environmentID == request.environmentID &&
        snapshot.connectorID == request.connectorID && snapshot.actionType == request.actionType

def validEnvironment (envelope : Envelope) (snapshot : EnvironmentSnapshot) (now : Int) : Bool :=
  now ≠ 0 && snapshot.workspaceID == envelope.workspaceID &&
    snapshot.environmentID == envelope.target.environmentID && validIdentifier snapshot.revision 256 &&
    fresh now snapshot.observedAt maxEnvironmentSnapshotAge

def consistentClaim (scope : RunnerScope) (claimed : ClaimedAction) : Bool :=
  let leased := claimed.execution
  let envelope := claimed.envelope
  leased.executionID == envelope.actionID && leased.targetKey == claimed.targetKey && leased.pool == .write &&
    leased.production == claimed.production && claimed.planHash == envelope.planHash && !leased.production &&
    leased.runnerID == scope.runnerID && leased.runnerTenantID == scope.tenantID &&
    leased.runnerWorkspaceID == envelope.workspaceID && leased.runnerEnvironmentID == envelope.target.environmentID &&
    leased.scopeRevision == scope.scopeRevision && scope.allows envelope.workspaceID envelope.target.environmentID

def consistentMetadata (claimed : ClaimedAction) : Bool :=
  claimed.execution.executionID == claimed.envelope.actionID && claimed.execution.targetKey == claimed.targetKey &&
    claimed.execution.pool == .write && claimed.execution.production == claimed.production &&
    claimed.planHash == claimed.envelope.planHash

def unchangedEnvironment (claimed : ClaimedAction) (snapshot : EnvironmentSnapshot) : Bool :=
  snapshot.revision == claimed.environmentRevision && snapshot.production == claimed.production

def boundedExecutionDeadline (contextDeadline : Option Int) (envelope : Envelope) (credentialExpiresAt now : Int) :
    Except ServiceError Int := do
  let deadline := min (min (now + envelope.verification.timeoutSeconds * second) envelope.expiresAt.instant)
    credentialExpiresAt
  let deadline := match contextDeadline with
    | some limit => min limit deadline
    | none => deadline
  require (now < deadline) .preExecutionDenied
  return deadline

def mappedExecutionDeadline (deadline logicalObservedAt localObservedAt : Int) : Option Int :=
  if deadline = 0 ∨ logicalObservedAt = 0 ∨ localObservedAt = 0 then none
  else
    let remaining := timeSub deadline logicalObservedAt
    if remaining ≤ 0 then none else some (localObservedAt + remaining)

def validDurableCredential (credential : DurableCredential) (secret : GoString) (envelope : Envelope)
    (policyExpiresAt now : Int) : Bool :=
  validRevocationID credential.revocationID && 0 < secret.length && secret.length ≤ maxSensitiveValueSize &&
    now < credential.expiresAt && credential.expiresAt ≤ policyExpiresAt &&
    credential.expiresAt ≤ envelope.expiresAt.instant

def sameScope (current claimed : RunnerScope) : Bool :=
  current.runnerID == claimed.runnerID && current.tenantID == claimed.tenantID && current.pool == claimed.pool &&
    current.scopeRevision == claimed.scopeRevision

def validHeartbeat (scope : RunnerScope) (lease : LeaseIdentity) (response : ActionHeartbeatResult) : Bool :=
  response.directive == .continue && response.execution.executionID == lease.executionID &&
    response.execution.runnerID == lease.runnerID && response.execution.leaseEpoch == lease.epoch &&
    response.execution.scopeRevision == scope.scopeRevision && response.execution.status == .running

def emptyResult : ExecutorResult where
  outcome := .unknown
  code := []
  verification := .unsupported
  changed := false
  externalOperationRefHash := []

def uncertainResult (code : GoString) : ExecutorResult where
  outcome := .uncertain
  code := code
  verification := .unknown
  changed := false
  externalOperationRefHash := []

def classifyResult (result : ExecutorResult) (failures : List ServiceError) : Status × ExecutorResult :=
  if failures ≠ [] then (.uncertain, uncertainResult (ascii "EXECUTOR_OUTCOME_UNKNOWN"))
  else if validExecutorResult result = false then (.uncertain, uncertainResult (ascii "INVALID_EXECUTOR_RESULT"))
  else match result.outcome with
    | .succeeded => (.succeeded, result)
    | .failed => (.failed, result)
    | _ => (.uncertain, result)

/-- The command of the action, or none when its type is unsupported or one of its parts is a nil pointer. -/
def command (envelope : Envelope) : Option Command :=
  let identity : CommandIdentity := {
    actionID := envelope.actionID
    workspaceID := envelope.workspaceID
    incidentID := envelope.incidentID
    serviceID := envelope.target.serviceID
    environmentID := envelope.target.environmentID
    traceID := envelope.traceID }
  match envelope.actionType with
  | .kubernetesRolloutRestart => do
    let target ← envelope.target.kubernetesDeployment
    let parameters ← envelope.parameters.kubernetesRolloutRestart
    let observed ← envelope.observedState.kubernetesDeployment
    return .rolloutRestart identity target parameters observed envelope.preconditions envelope.verification
  | .kubernetesScale => do
    let target ← envelope.target.kubernetesDeployment
    let parameters ← envelope.parameters.kubernetesScale
    let observed ← envelope.observedState.kubernetesDeployment
    return .scale identity target parameters observed envelope.preconditions envelope.verification
  | .gitOpsRevert => do
    let target ← envelope.target.gitOpsApplication
    let parameters ← envelope.parameters.gitOpsRevert
    let observed ← envelope.observedState.gitOpsApplication
    return .gitOpsRevert identity target parameters observed envelope.preconditions envelope.verification
  | .awxServiceRestart => do
    let target ← envelope.target.awxHosts
    let parameters ← envelope.parameters.awxServiceRestart
    let observed ← envelope.observedState.awxService
    return .awxServiceRestart identity target parameters observed envelope.preconditions envelope.verification
  | .unsupported _ => none

end Checks

def ask (request : Request) : Prog (Response request) := perform (I := dependencies) request

variable (service : Service)

def resolveRunnerScope : Prog (Except ServiceError RunnerScope) := do
  let answer : Except Failure RunnerRegistration ← ask (.resolveRegistration service.runnerID)
  match answer with
  | .error _ => return .error .claimsDisabled
  | .ok registration =>
    match registration.scope with
    | .error _ => return .error .claimsDisabled
    | .ok scope =>
      if scope.pool = .write ∧ scope.runnerID = service.runnerID then return .ok scope
      else return .error .claimsDisabled

def checkSafety (request : SafetyRequest) : Prog (Except ServiceError ClaimSafetySnapshot) := do
  let answer : Except Failure ClaimSafetySnapshot ← ask (.evaluateSafety request)
  match answer with
  | .error _ => return .error .claimsDisabled
  | .ok snapshot =>
    let now : Int ← ask .clock
    if validSafety request snapshot now then return .ok snapshot else return .error .claimsDisabled

def resolveEnvironment (envelope : Envelope) : Prog (Except ServiceError EnvironmentSnapshot) := do
  let answer : Except Failure EnvironmentSnapshot ←
    ask (.resolveEnvironment envelope.workspaceID envelope.target.environmentID)
  match answer with
  | .error _ => return .error .environmentUnavailable
  | .ok snapshot =>
    let now : Int ← ask .clock
    if validEnvironment envelope snapshot now then return .ok snapshot else return .error .environmentUnavailable

def queueReason (code : String) : ActionQueueReason where
  code := ascii code
  detailHash := service.sha256Hex (ascii "aiops-action-queue-reason-detail.v1" ++ [0] ++ ascii code)

def rejectClaim (claimed : ClaimedAction) (code : String) (cause : ServiceError) : Prog Outcome := do
  let answer : Except Failure Execution ←
    ask (.reject { lease := claimed.execution.fence, reason := service.queueReason code })
  match answer with
  | .error failure => return (redactActionExecution claimed.execution, [.dependency failure])
  | .ok rejected => return (rejected, [cause])

def nackClaim (claimed : ClaimedAction) (code : String) (cause : ServiceError) : Prog Outcome := do
  let answer : Except Failure Execution ←
    ask (.nack { lease := claimed.execution.fence, reason := service.queueReason code, retryAfter := 15 * second })
  match answer with
  | .error failure => return (redactActionExecution claimed.execution, [.dependency failure])
  | .ok released => return (released, [cause])

def claimClock (claimed : ClaimedAction) : Step Int := do
  let now : Int ← ask .clock
  check (now ≠ 0) (service.nackClaim claimed "CLOCK_TEMPORARILY_UNAVAILABLE" .clockZero)
  return now

/-- A policy evaluation that failed: the job goes back, under the error of the context if it has one. -/
def policyFailed (claimed : ClaimedAction) (cancelled unavailable : String) (cause : ServiceError) : Prog Outcome := do
  let done : Option Failure ← ask (.contextErr .caller)
  match done with
  | some failure => service.nackClaim claimed cancelled (.dependency failure)
  | none => service.nackClaim claimed unavailable cause

/-- What the job is allowed to do, once every gate before `Prepare` has accepted it. -/
structure Admission where
  scope : RunnerScope
  claimed : ClaimedAction
  credentialDecision : Decision
  executorDeadline : Int

def startSafetyRequest (scope : RunnerScope) (envelope : Envelope) : SafetyRequest where
  phase := .start
  pool := .write
  runnerID := scope.runnerID
  workspaceID := envelope.workspaceID
  environmentID := envelope.target.environmentID
  connectorID := envelope.credentialScope.connectorID
  actionType := envelope.actionType

/-- `RunNext` up to the two policy decisions. -/
def claimJob : Step (RunnerScope × ClaimedAction) := do
  let scope ← attemptOr service.resolveRunnerScope (fun failure => return ({}, [failure]))
  let _ ← attemptOr (checkSafety { phase := .claim, pool := .write, runnerID := scope.runnerID })
    (fun failure => return ({}, [failure]))
  let claimed ← attemptOr (ask (.claim { scope := scope, leaseDuration := service.leaseDuration }))
    (fun failure => return ({}, [.dependency failure]))
  check (consistentClaim scope claimed = true) (return (redactActionExecution claimed.execution, [.jobConflict]))
  let now ← service.claimClock claimed
  attemptOr (ask (.verify claimed.envelope now))
    (fun failure => service.rejectClaim claimed "INVALID_VERIFIED_ACTION" (.invalidAction failure))
  check (consistentMetadata claimed = true)
    (service.rejectClaim claimed "QUEUE_METADATA_CONFLICT" .jobConflict)
  let environment ← attemptOr (resolveEnvironment claimed.envelope)
    (fun failure => service.nackClaim claimed "ENVIRONMENT_TEMPORARILY_UNAVAILABLE" failure)
  check (unchangedEnvironment claimed environment = true)
    (service.rejectClaim claimed "ENVIRONMENT_DRIFT" .environmentDrift)
  return (scope, claimed)

def decideJob (scope : RunnerScope) (claimed : ClaimedAction) : Step (Decision × Decision × ClaimSafetySnapshot) := do
  let envelope := claimed.envelope
  let credentialDecision ← attemptOr (ask (.evaluateCredentialIssue envelope)) (fun _ =>
    service.policyFailed claimed "CREDENTIAL_POLICY_CANCELLED" "CREDENTIAL_POLICY_TEMPORARILY_UNAVAILABLE"
      .credentialDenied)
  let now ← service.claimClock claimed
  check (validCredentialIssueDecision credentialDecision envelope now = true)
    (service.rejectClaim claimed "CREDENTIAL_POLICY_DENIED" .credentialDenied)
  let decision ← attemptOr (ask (.evaluatePreExecution envelope)) (fun _ =>
    service.policyFailed claimed "PRE_EXECUTION_CANCELLED" "POLICY_TEMPORARILY_UNAVAILABLE" .preExecutionDenied)
  let now ← service.claimClock claimed
  check (validPreExecutionDecision decision envelope now = true ∧ samePolicySnapshot credentialDecision decision = true)
    (service.rejectClaim claimed "PRE_EXECUTION_POLICY_DENIED" .preExecutionDenied)
  let startSafety ← attemptOr (checkSafety (startSafetyRequest scope envelope))
    (fun failure => service.nackClaim claimed "SAFETY_TEMPORARILY_DISABLED" failure)
  check (startSafety.revision = decision.safetyRevision ∧ startSafety.revision = credentialDecision.safetyRevision)
    (service.nackClaim claimed "SAFETY_TEMPORARILY_DISABLED" .claimsDisabled)
  return (credentialDecision, decision, startSafety)

/-- The rest of what precedes `Prepare`. -/
def admitJob : Step Admission := do
  let (scope, claimed) ← service.claimJob
  let (credentialDecision, decision, startSafety) ← service.decideJob scope claimed
  let finalEnvironment ← attemptOr (resolveEnvironment claimed.envelope)
    (fun failure => service.nackClaim claimed "ENVIRONMENT_TEMPORARILY_UNAVAILABLE" failure)
  check (unchangedEnvironment claimed finalEnvironment = true)
    (service.rejectClaim claimed "ENVIRONMENT_DRIFT" .environmentDrift)
  let now ← service.claimClock claimed
  check (fresh now startSafety.observedAt maxSafetySnapshotAge = true ∧
    validPreExecutionDecision decision claimed.envelope now = true ∧
    validCredentialIssueDecision credentialDecision claimed.envelope now = true ∧
    samePolicySnapshot credentialDecision decision = true)
    (service.nackClaim claimed "PRE_START_STATE_EXPIRED" .claimsDisabled)
  let contextDeadline : Option Int ← ask .contextDeadline
  let executorDeadline ← attemptOr (pure (boundedExecutionDeadline contextDeadline claimed.envelope
      credentialDecision.credentialExpiresAt now))
    (fun _ => service.rejectClaim claimed "EXECUTION_DEADLINE_EXPIRED" .preExecutionDenied)
  return {
    scope := scope
    claimed := claimed
    credentialDecision := credentialDecision
    executorDeadline := executorDeadline }

def prepareRequest (admission : Admission) : PrepareRequest where
  fence := {
    actionID := admission.claimed.execution.fence.executionID
    runnerID := admission.claimed.execution.fence.runnerID
    token := admission.claimed.execution.fence.token
    epoch := admission.claimed.execution.fence.epoch }
  tenantID := admission.scope.tenantID
  workspaceID := admission.claimed.envelope.workspaceID
  environmentID := admission.claimed.envelope.target.environmentID
  production := admission.claimed.production
  actionType := admission.claimed.envelope.actionType
  connectorID := admission.claimed.envelope.credentialScope.connectorID
  permission := admission.claimed.envelope.credentialScope.permission
  resource := admission.claimed.envelope.credentialScope.resource
  requestedTTL := admission.claimed.envelope.credentialScope.ttlSeconds * second
  policyExpiresAt := admission.credentialDecision.credentialExpiresAt

def recordNoCredential (prepared : PreparedDurableCredential) : Prog (List ServiceError) := do
  let answer : Except Failure Revocation ← ask (.recordNoCredential prepared)
  match answer with
  | .error failure => return [.dependency failure]
  | .ok revocation =>
    if revocation.status = .noCredential ∧ revocation.terminal = true then return []
    else return [.credentialCleanupPending]

def heartbeatOnce (scope : RunnerScope) (lease : LeaseIdentity) (sequence : Int) : Prog (Except ServiceError Unit) := do
  match ← service.resolveRunnerScope with
  | .error _ =>
    let done : Option Failure ← ask (.contextErr .heartbeat)
    match done with
    | some failure => return .error (.dependency failure)
    | none => return .error .executionUncertain
  | .ok current =>
    if sameScope current scope = false then return .error .executionUncertain
    else
      let answer : Except Failure ActionHeartbeatResult ←
        ask (.heartbeat { lease := lease, sequence := sequence, extension := service.leaseDuration })
      match answer with
      | .error failure => return .error (.dependency failure)
      | .ok response =>
        if validHeartbeat scope lease response then return .ok () else return .error .executionUncertain

structure Preparation where
  prepared : PreparedDurableCredential
  started : Execution

def withoutCredential (execution : Execution) (prepared : PreparedDurableCredential) (errors : List ServiceError) :
    Prog Outcome := do
  let cleanup ← recordNoCredential prepared
  return (redactActionExecution execution, errors ++ cleanup)

/-- From `Prepare` to the deadline of the executor. -/
def prepareJob (admission : Admission) : Step Preparation := do
  let leased := admission.claimed.execution
  let prepared ← attemptOr (ask (.prepare (prepareRequest admission)))
    (fun failure => return (redactActionExecution leased, [.credentialDenied, .dependency failure]))
  let started ← attemptOr (ask (.start leased.fence))
    (fun failure => withoutCredential leased prepared [.dependency failure])
  attemptOr (service.heartbeatOnce admission.scope leased.fence 1)
    (fun failure => withoutCredential started prepared [.executionUncertain, failure])
  let localObservedAt : Int ← ask .localClock
  let now : Int ← ask .clock
  check (now ≠ 0) (withoutCredential started prepared [.executionUncertain, .clockZero])
  check (now < admission.executorDeadline)
    (withoutCredential started prepared [.executionUncertain, .preExecutionDenied])
  check ((mappedExecutionDeadline admission.executorDeadline now localObservedAt).isSome = true)
    (withoutCredential started prepared [.executionUncertain, .preExecutionDenied])
  return { prepared := prepared, started := started }

abbrev Execute := ExecutorResult × List ServiceError

/-- The `select` over the executor, the heartbeats and the context. -/
def awaitExecutor (envelope : Envelope) : Prog Execute := do
  let completion : Completion ← ask .await
  match completion with
  | .finished result failure =>
    let done : Option Failure ← ask (.contextErr .execution)
    match done with
    | some cause => return (emptyResult, [.dependency cause])
    | none =>
      let lost : Option Failure ← ask .heartbeatFailure
      match lost with
      | some cause => return (emptyResult, [.dependency cause])
      | none =>
        -- Without a command no executor ran: the goroutine ends with an error of its own.
        if (command envelope).isNone then return (emptyResult, [.unsupportedAction])
        else return (result, failure.toList.map .dependency)
  | .heartbeatsDone =>
    let lost : Option Failure ← ask .heartbeatFailure
    match lost with
    | some cause => return (emptyResult, [.dependency cause])
    | none =>
      let done : Option Failure ← ask (.contextErr .execution)
      match done with
      | some cause => return (emptyResult, [.dependency cause])
      | none => return (emptyResult, [.executionUncertain])
  | .contextDone =>
    let done : Option Failure ← ask (.contextErr .execution)
    let lost : Option Failure ← ask .heartbeatFailure
    return (emptyResult, (done.toList ++ lost.toList).map .dependency)

def dispatchWithHeartbeat (envelope : Envelope) (credential : DurableCredential) : Prog Execute := do
  let refused : Option Failure ← ask .dispatchError
  match refused with
  | some failure => return (emptyResult, [.dependency failure])
  | none =>
    if let some command := command envelope then
      let _ : Unit ← ask (.dispatch command credential)
    awaitExecutor envelope

def useCredential (admission : Admission) (credential : DurableCredential) : Prog Execute := do
  let localObservedAt : Int ← ask .localClock
  let now : Int ← ask .clock
  if now = 0 then return (emptyResult, [.credentialDenied])
  else
    let secret : GoString ← ask (.secret credential)
    if validDurableCredential credential secret admission.claimed.envelope
          admission.credentialDecision.credentialExpiresAt now = false ∨
        (mappedExecutionDeadline credential.expiresAt now localObservedAt).isNone = true then
      return (emptyResult, [.credentialDenied])
    else
      let lost : Option Failure ← ask .checkpoint
      match lost with
      | some failure => return (emptyResult, [.dependency failure])
      | none => dispatchWithHeartbeat admission.claimed.envelope credential

/-- `Issue`, the executor and the checkpoint before `Complete`; the credential is returned if one was issued. -/
def performJob (admission : Admission) (prepared : PreparedDurableCredential) :
    Prog (Option DurableCredential × Execute) := do
  let answer : Except Failure DurableCredential ← ask (.issue prepared)
  let (credential, executed) ← match answer with
    | .error _ => pure (none, (emptyResult, [.credentialDenied]))
    | .ok credential => do
      let executed ← useCredential admission credential
      pure (some credential, executed)
  let lost : Option Failure ← ask .checkpoint
  match lost with
  | some failure => return (credential, (emptyResult, [.dependency failure]))
  | none => return (credential, executed)

/-- The closure `requestRevocation`: the revocation if one was requested, or the error of the request. -/
def requestRevocation (credential : Option DurableCredential) : Prog (Except Failure (Option Revocation)) :=
  match credential with
  | none => return .ok none
  | some credential => do
    let answer : Except Failure Revocation ← ask (.requestRevocation credential)
    return answer.map some

/-- The revocation and `Finalize` of a completed job. -/
def settleJob (lease : LeaseIdentity) (summary : ExecutorResult) (finalizing : Execution)
    (credential : Option DurableCredential) : Prog Outcome := do
  match ← requestRevocation credential with
  | .error cause => return (finalizing, [.credentialCleanupPending, .dependency cause])
  | .ok revocation =>
    if resultSummaryStatus summary ≠ some .uncertain ∧ revocation.any (fun value => !value.terminal) = true then
      return (finalizing, [.credentialCleanupPending])
    else
      let answer : Except Failure Execution ← ask (.finalize lease)
      match answer with
      | .error failure =>
        if failure.cleanupPending then return (finalizing, [.credentialCleanupPending])
        else return (finalizing, [.executionUncertain, .dependency failure])
      | .ok execution =>
        let errors := match execution.status with
          | .failed => [.executionFailed]
          | .uncertain => [.executionUncertain]
          | _ => []
        return (execution, errors)

/-- `Complete` and what follows; the flag says whether the revocation was attempted. -/
def concludeJob (admission : Admission) (started : Execution) (credential : Option DurableCredential)
    (executed : Execute) : Prog (Outcome × Bool) := do
  let summary := (classifyResult executed.1 executed.2).2
  let lease := admission.claimed.execution.fence
  let completed : Except Failure Execution ← ask (.complete { lease := lease, summary := summary })
  match completed with
  | .error failure =>
    let heartbeatErr : Option Failure ← ask .stopHeartbeats
    let cleanup ← requestRevocation credential
    let cleanupErr := match cleanup with
      | .error cause => [.dependency cause]
      | .ok _ => []
    return ((redactActionExecution started, [.executionUncertain, .dependency failure] ++
      heartbeatErr.toList.map .dependency ++ cleanupErr), credential.isSome)
  | .ok finalizing =>
    let _ : Unit ← ask .acknowledgeComplete
    let _ : Option Failure ← ask .stopHeartbeats
    let outcome ← settleJob lease summary finalizing credential
    return (outcome, credential.isSome)

/-- The deferred function: a credential whose revocation was not attempted is revoked on the way out. -/
def revokeOnExit (credential : Option DurableCredential) (attempted : Bool) : Prog Unit := do
  if credential.isSome && !attempted then
    let _ ← requestRevocation credential

def runNext : Prog Outcome := do
  match ← service.admitJob.run with
  | .error outcome => return outcome
  | .ok admission =>
    match ← (service.prepareJob admission).run with
    | .error outcome => return outcome
    | .ok preparation =>
      let (credential, executed) ← performJob admission preparation.prepared
      let (outcome, attempted) ← concludeJob admission preparation.started credential executed
      revokeOnExit credential attempted
      return outcome

end Service

end AiopsSystem.Execution
