import AiopsSystem.Credential.Revocation
import AiopsSystem.Go.Attempt
import AiopsSystem.Machine.Interaction

/-! # Durable credential issuance

The broker prepares a revocation before any child credential exists and hands
out a handle that is spent once: to issue the child, or to record that there is
none. Whatever the broker asks for is a call of the program: the repository,
the resolver, the issuer, the clock, the caller's context, the injected context
sources and `time.Now`. Contexts only bound how long a call may take.
-/

namespace AiopsSystem.Credential.DurableBroker

open Go Program Stage

def postDispatchPersistenceTimeout : Int := 20 * second

structure DurableIssuerResolveRequest where
  (tenantID workspaceID environmentID : GoString)
  production : Bool
  (actionType connectorID permission resource : GoString)
deriving DecidableEq

structure DurableIssuerProfile where
  (issuerID revision : GoString)
  credentialTTL : Int
deriving DecidableEq

structure DurableIssuer where
  address : Nat
deriving DecidableEq

structure ResolvedDurableIssuer where
  profile : DurableIssuerProfile
  issuer : Option DurableIssuer
deriving DecidableEq

structure DurableChildCreateRequest where
  (revocationID profileRevision : GoString)
  (databaseAuthorizedAt ttl credentialExpiresAt : Int)

structure DurableChild where
  token : GoString
  accessor : SensitiveReference
  expiresAt : Int

structure DurableChildInspectionRequest where
  (revocationID profileRevision : GoString)
  expectedTTL : Int
  credentialExpiresAt : Int

structure DurableDynamicIssueRequest where
  (revocationID profileRevision : GoString)
  credentialExpiresAt : Int

structure DurableDynamicSecret where
  secret : GoString
  expiresAt : Int

structure PrepareDurableCredentialRequest where
  fence : ActionFence
  selection : DurableIssuerResolveRequest
  requestedTTL : Int
  policyExpiresAt : Int
deriving DecidableEq

inductive BrokerError where
  | invalidDurableCredentialRequest
  | durableCredentialState
  | context
  /-- `durableIssuanceError(operation)` -/
  | durableCredentialIssuance (operation : GoString)
deriving DecidableEq

/-- A deadline as a reading of the monotonic clock, and whether it has one. -/
structure Deadline where
  instant : Int
  monotonic : Bool

inductive Request where
  | contextErr
  | clock
  | timeNow
  | uuidSource
  | timeoutSource (maximum : Int)
  | finalizeContextSource (maximum : Int)
  | candidateDeadline
  | candidateDone
  | candidateErr
  | resolveDurableIssuer (selection : DurableIssuerResolveRequest)
  | issuerID (issuer : DurableIssuer)
  | issuerRevision (issuer : DurableIssuer)
  | validateManager (issuer : Option DurableIssuer)
  | createChild (issuer : Option DurableIssuer) (request : DurableChildCreateRequest)
  | inspectChild (issuer : Option DurableIssuer) (accessor : SensitiveReference)
      (request : DurableChildInspectionRequest)
  | issueDynamic (issuer : Option DurableIssuer) (token : GoString) (request : DurableDynamicIssueRequest)
  | prepare (request : PrepareRequest)
  | authorizeChildCreate (request : AuthorizeChildCreateRequest)
  | recordAnchor (request : RecordAnchorRequest)
  | activate (request : ActionTransitionRequest)
  | recordNoCredential (request : ActionTransitionRequest)
  | requestRevocation (request : ActionTransitionRequest)

/-- Any answer of the type the source declares; `Except Unit` for a value or an error, a flag beside the value where
the broker reads the value even when there is an error. -/
abbrev Response : Request → Type
  | .contextErr | .candidateDone | .candidateErr => Bool
  | .clock | .timeNow => Int
  | .uuidSource => Except Unit GoString
  | .timeoutSource _ | .finalizeContextSource _ => Bool
  | .candidateDeadline => Option Deadline
  | .resolveDurableIssuer _ => Except Unit ResolvedDurableIssuer
  | .issuerID _ | .issuerRevision _ => GoString
  | .validateManager _ | .inspectChild _ _ _ => Except Unit Unit
  | .createChild _ _ => DurableChild × Bool
  | .issueDynamic _ _ _ => DurableDynamicSecret × Bool
  | .prepare _ => Except Unit PrepareResult
  | .authorizeChildCreate _ => Except Unit ChildCreateAuthorization
  | .recordAnchor _ | .activate _ | .recordNoCredential _ | .requestRevocation _ => Except Unit Revocation

abbrev dependencies : Interface where
  Request := Request
  Response := Response

abbrev Prog := Program dependencies

abbrev BrokerEvent := Event dependencies

abbrev Step := Stage dependencies BrokerError

def ask (request : Request) : Prog (Response request) := perform (I := dependencies) request

section Contexts

/-- A context, by what `newBoundedContext` reads of it. -/
structure Context where
  deadline : Prog (Option Deadline)
  /-- `Done() != nil` -/
  done : Prog Bool
  /-- `Err() != nil` -/
  err : Prog Bool

/-- The context of an injected source answers as it likes, each time it is asked. -/
def injectedContext : Context where
  deadline := ask .candidateDeadline
  done := ask .candidateDone
  err := ask .candidateErr

/-- `context.WithDeadline(parent, deadline)` for a parent that is never done -/
def timedContext (deadline : Int) : Context where
  deadline := pure (some { instant := deadline, monotonic := true })
  done := pure true
  err := ask .timeNow >>= fun now => pure (decide (deadline ≤ now))

/-- `context.WithDeadline(parent, deadline)`: the parent's deadline where that is earlier -/
def Context.withDeadline (parent : Context) (deadline : Int) : Prog Context :=
  parent.deadline >>= fun current =>
    if current.any (fun current => current.instant < deadline) then
      pure { parent with done := pure true }
    else pure {
      timedContext deadline with
      err := parent.err >>= fun ended => if ended then pure true else (timedContext deadline).err }

abbrev BoundedContextSource := Int → Prog (Option Context)

/-- The answer of an injected source; it may also return no context or no cancel function. -/
def injected (returned : Bool) : Prog (Option Context) := pure (if returned then some injectedContext else none)

def timeoutSource : BoundedContextSource := fun maximum => call (.timeoutSource maximum) injected

def finalizeContextSource : BoundedContextSource := fun maximum => call (.finalizeContextSource maximum) injected

/-- `context.WithTimeout` on a detached context -/
def withTimeout : BoundedContextSource := fun maximum =>
  ask .timeNow >>= fun now => pure (some (timedContext (now + maximum)))

def present {α : Type} (program : Prog (Option α)) : Stage dependencies Unit α :=
  ExceptT.mk (program >>= fun value => pure (orFail value ()))

def boundCandidate (startedAt : Int) (candidate : Context) (maximum : Int) : Stage dependencies Unit Unit := do
  let observedAt ← liftM (ask .timeNow)
  let deadline ← present candidate.deadline
  let done ← liftM candidate.done
  check (done = true) (pure ())
  let ended ← liftM candidate.err
  check (ended = false ∧ deadline.monotonic = true ∧ observedAt < deadline.instant ∧
    deadline.instant - observedAt ≤ maximum) (pure ())
  let hardDeadline := startedAt + maximum
  let bounded ← liftM (candidate.withDeadline hardDeadline)
  let boundedDeadline ← present bounded.deadline
  let boundedDone ← liftM bounded.done
  check (boundedDone = true) (pure ())
  let boundedEnded ← liftM bounded.err
  check (boundedEnded = false ∧ boundedDeadline.monotonic = true) (pure ())
  let now ← liftM (ask .timeNow)
  check (now < boundedDeadline.instant ∧ boundedDeadline.instant ≤ hardDeadline) (pure ())

def newBoundedContext (source : BoundedContextSource) (maximum : Int) : Stage dependencies Unit Unit := do
  check (0 < maximum) (pure ())
  let startedAt ← liftM (ask .timeNow)
  let candidate ← present (source maximum)
  boundCandidate startedAt candidate maximum

def valid (stage : Stage dependencies Unit Unit) : Prog Bool := stage.run >>= fun outcome => pure outcome.toBool

def preflightFinalizeContext : Prog Bool :=
  valid (newBoundedContext finalizeContextSource postDispatchPersistenceTimeout)

def fallbackContext : Prog Bool := valid (newBoundedContext withTimeout postDispatchPersistenceTimeout)

def newFinalizeContext : Prog Bool :=
  preflightFinalizeContext >>= fun preflighted => if preflighted then pure true else fallbackContext

end Contexts

section Checks

def validDurableSelection (request : DurableIssuerResolveRequest) : Bool :=
  !request.production && validIdentifier request.tenantID 256 && validIdentifier request.workspaceID 256 &&
    validIdentifier request.environmentID 256 && validIdentifier request.actionType 256 &&
    validIdentifier request.connectorID 256 && validIdentifier request.permission 256 &&
    validIdentifier request.resource 256

def validDurableCredentialWindow (request : PrepareDurableCredentialRequest) : Bool :=
  childCreateExpiryReserve + minChildCreateTTL ≤ request.requestedTTL && request.requestedTTL ≤ maxCredentialTTL &&
    request.requestedTTL % vaultTTLQuantum == 0 && request.policyExpiresAt ≠ 0

def durableCredentialExpiry (now : Int) (request : PrepareDurableCredentialRequest) (profile : DurableIssuerProfile) :
    Option Int :=
  if now = 0 || !validDurableCredentialWindow request then none
  else
    let expiresAt := now + profile.credentialTTL
    let requested := now + request.requestedTTL
    let expiresAt := if requested < expiresAt then requested else expiresAt
    let expiresAt := if request.policyExpiresAt < expiresAt then request.policyExpiresAt else expiresAt
    let expiresAt := canonicalCredentialExpiry expiresAt
    if expiresAt < now + (childCreateExpiryReserve + minChildCreateTTL) then none else some expiresAt

def validDurableResolution (resolved : ResolvedDurableIssuer) : Prog Bool :=
  match resolved.issuer with
  | none => pure false
  | some issuer =>
    let profile := resolved.profile
    if !(validIdentifier profile.issuerID 256 && validIdentifier profile.revision 256 &&
        childCreateExpiryReserve + minChildCreateTTL ≤ profile.credentialTTL &&
        profile.credentialTTL ≤ maxCredentialTTL && profile.credentialTTL % vaultTTLQuantum == 0) then
      pure false
    else
      call (.issuerID issuer) (fun id : GoString =>
        if id ≠ profile.issuerID then pure false
        else call (.issuerRevision issuer) (fun revision : GoString => pure (revision == profile.revision)))

def validStatusTimes (revocation : Revocation) : RevocationStatus → Bool
  | .prepared | .noCredential => revocation.anchoredAt = 0 && revocation.activatedAt = 0
  | .anchored => revocation.anchoredAt ≠ 0 && revocation.activatedAt = 0 && revocation.anchoredAt ≤ revocation.updatedAt
  | .active => revocation.anchoredAt ≠ 0 && revocation.activatedAt ≠ 0 &&
      revocation.anchoredAt ≤ revocation.activatedAt && revocation.activatedAt ≤ revocation.updatedAt
  | _ => false

/-- The requested lifetime is at most fifteen minutes, so its seconds fit the width of the column. -/
def validFrozenRevocation (revocation : Revocation) (revocationID : GoString)
    (request : PrepareDurableCredentialRequest) (profile : DurableIssuerProfile) (expiresAt : Int)
    (status : RevocationStatus) (accessorPresent : Bool) : Bool :=
  revocation.id == revocationID && revocation.tenantID == request.selection.tenantID &&
    revocation.workspaceID == request.selection.workspaceID &&
    revocation.environmentID == request.selection.environmentID && revocation.actionID == request.fence.actionID &&
    revocation.production == request.selection.production && revocation.runnerID == request.fence.runnerID &&
    revocation.actionLeaseEpoch == request.fence.epoch && revocation.issuer == profile.issuerID &&
    revocation.issuerRevision == profile.revision && revocation.actionType == request.selection.actionType &&
    revocation.connectorID == request.selection.connectorID &&
    revocation.permission == request.selection.permission && revocation.resource == request.selection.resource &&
    revocation.credentialTTLSeconds == request.requestedTTL.tdiv second &&
    revocation.credentialExpiresAt == expiresAt && revocation.status == status &&
    revocation.accessorPresent == accessorPresent && validIdentifier revocation.tenantID 256 &&
    validOpaqueText revocation.targetKey 1024 && 1 ≤ revocation.version && revocation.createdAt ≠ 0 &&
    revocation.createdAt ≤ revocation.updatedAt && revocation.availableAt ≠ 0 &&
    revocation.credentialExpiresAt == canonicalCredentialExpiry revocation.credentialExpiresAt &&
    validStatusTimes revocation status

def sameDurableFrozenRevocation (left right : Revocation) : Bool :=
  left.id == right.id && left.tenantID == right.tenantID && left.workspaceID == right.workspaceID &&
    left.environmentID == right.environmentID && left.actionID == right.actionID && left.targetKey == right.targetKey &&
    left.production == right.production && left.runnerID == right.runnerID &&
    left.actionLeaseEpoch == right.actionLeaseEpoch && left.issuer == right.issuer &&
    left.issuerRevision == right.issuerRevision && left.actionType == right.actionType &&
    left.connectorID == right.connectorID && left.permission == right.permission && left.resource == right.resource &&
    left.credentialTTLSeconds == right.credentialTTLSeconds &&
    left.credentialExpiresAt == right.credentialExpiresAt && left.createdAt == right.createdAt

end Checks

inductive Phase where
  | ready
  | issuing
  | noCredential
deriving DecidableEq

structure ConsumedPreparedCredential where
  request : PrepareDurableCredentialRequest
  resolved : ResolvedDurableIssuer
  prepared : Revocation
  permit : ChildCreatePermit
  revocationID : GoString
  expiresAt : Int
deriving DecidableEq

section ResultChecks

def validPreparedResult (result : PrepareResult) (revocationID : GoString) (request : PrepareDurableCredentialRequest)
    (profile : DurableIssuerProfile) (expiresAt : Int) : Bool :=
  result.revocation.version == 1 &&
    result.permit.any (fun permit => permit.revocationID == revocationID && validOpaqueText permit.token 4096) &&
    validFrozenRevocation result.revocation revocationID request profile expiresAt .prepared false

/-- The next version of a revocation: the frozen fields are those of the version before. -/
def validSuccessor (prepared : ConsumedPreparedCredential) (status : RevocationStatus) (accessorPresent : Bool)
    (revocation before : Revocation) : Bool :=
  validFrozenRevocation revocation prepared.revocationID prepared.request prepared.resolved.profile prepared.expiresAt
      status accessorPresent &&
    sameDurableFrozenRevocation revocation before && revocation.version == before.version + 1

def validChildCreateAuthorization (authorization : ChildCreateAuthorization) (prepared : ConsumedPreparedCredential) :
    Bool :=
  validSuccessor prepared .prepared false authorization.revocation prepared.prepared &&
    authorization.databaseAuthorizedAt ≠ 0 && authorization.credentialExpiresAt == prepared.expiresAt &&
    authorization.databaseAuthorizedAt ≤ authorization.revocation.updatedAt &&
    minChildCreateTTL ≤ authorization.ttl && authorization.ttl ≤ maxCredentialTTL &&
    authorization.ttl % vaultTTLQuantum == 0 && authorization.vaultCallBudget == childCreateVaultCallBudget &&
    authorization.databaseAuthorizedAt + (authorization.ttl + childCreateExpiryReserve) ≤ prepared.expiresAt

def validDurableChild (child : DurableChild) (authorization : ChildCreateAuthorization) : Bool :=
  child.token != [] && child.expiresAt ≠ 0 && child.expiresAt == canonicalCredentialExpiry child.expiresAt &&
    authorization.databaseAuthorizedAt < child.expiresAt && child.expiresAt ≤ authorization.credentialExpiresAt

def validAnchoredResult (revocation authorized : Revocation) (prepared : ConsumedPreparedCredential) : Bool :=
  validSuccessor prepared .anchored true revocation authorized

def validActiveResult (revocation anchored : Revocation) (prepared : ConsumedPreparedCredential) : Bool :=
  validSuccessor prepared .active true revocation anchored

def validNoCredentialResult (revocation : Revocation) (prepared : ConsumedPreparedCredential) : Bool :=
  validSuccessor prepared .noCredential false revocation prepared.prepared

def validDynamicSecret (secret : DurableDynamicSecret) (authorization : ChildCreateAuthorization)
    (childExpiresAt now : Int) : Bool :=
  secret.secret != [] && now ≠ 0 && secret.expiresAt ≠ 0 &&
    secret.expiresAt == canonicalCredentialExpiry secret.expiresAt && now < secret.expiresAt &&
    secret.expiresAt ≤ childExpiresAt && secret.expiresAt ≤ authorization.credentialExpiresAt

end ResultChecks

structure Broker where
  address : Nat
deriving DecidableEq

/-- What the copies of one handle share. `contents` holds the request, the resolved issuer, the prepared revocation,
the permit and the deadline, which `consumePrepared` clears together. -/
structure PreparedState where
  broker : Broker
  phase : Phase
  revocationID : GoString
  contents : Option ConsumedPreparedCredential
deriving DecidableEq

structure PreparedDurableCredential where
  revocationID : GoString
deriving DecidableEq

structure DurableCredential where
  revocationID : GoString
  expiresAt : Int
  secret : GoString
  activeSnapshot : Revocation
deriving DecidableEq

structure Caller where
  broker : Option Broker
  nilContext : Bool

def issuanceError (operation : String) : Prog BrokerError := pure (.durableCredentialIssuance (ascii operation))

def invalidRequest : Prog BrokerError := pure .invalidDurableCredentialRequest

/-- `if value == nil { return exit }` -/
def orLeave {α : Type} (value : Option α) (exit : Prog BrokerError) : Step α :=
  attemptOr (pure (orFail value ())) (fun _ => exit)

def noFence : ActionFence := { actionID := [], runnerID := [], token := [], epoch := 0 }

section Prepare

def prepare (caller : Caller) (request : PrepareDurableCredentialRequest) :
    Step (PreparedDurableCredential × PreparedState) := do
  let broker ← orLeave caller.broker invalidRequest
  check (caller.nilContext = false) invalidRequest
  let ended ← liftM (ask .contextErr : Prog Bool)
  check (ended = false ∧ validActionFence request.fence = true ∧ validDurableSelection request.selection = true ∧
    validDurableCredentialWindow request = true) invalidRequest
  let resolved ← attemptOr (ask (.resolveDurableIssuer request.selection)) (fun _ => issuanceError "resolve issuer")
  let resolution ← liftM (validDurableResolution resolved)
  check (resolution = true) (issuanceError "resolve issuer")
  let preflighted ← liftM preflightFinalizeContext
  check (preflighted = true) (issuanceError "validate post-dispatch persistence context")
  let revocationID ← attemptOr (ask .uuidSource) (fun _ => issuanceError "allocate revocation identifier")
  check (validRevocationID revocationID = true) (issuanceError "allocate revocation identifier")
  let now ← liftM (ask .clock : Prog Int)
  check (now ≠ 0) (issuanceError "observe credential deadline")
  let expiresAt ← orLeave (durableCredentialExpiry now request resolved.profile) invalidRequest
  let result ← attemptOr (ask (.prepare {
    revocationID := revocationID
    fence := request.fence
    issuer := resolved.profile.issuerID
    issuerRevision := resolved.profile.revision
    credentialExpiresAt := expiresAt })) (fun _ => issuanceError "prepare revocation")
  let permit ← orLeave (if result.created then result.permit else none) (issuanceError "prepare creator election")
  check (validPreparedResult result revocationID request resolved.profile expiresAt = true)
    (issuanceError "validate prepared revocation")
  let contents : ConsumedPreparedCredential := {
    request := request
    resolved := resolved
    prepared := result.revocation
    permit := permit
    revocationID := revocationID
    expiresAt := expiresAt }
  return ({ revocationID := revocationID },
    { broker := broker, phase := .ready, revocationID := revocationID, contents := some contents })

end Prepare

section Issue

def consumePrepared (broker : Option Broker) (handle : PreparedDurableCredential) (phase : Phase)
    (state : PreparedState) : Prog (Option ConsumedPreparedCredential × PreparedState) :=
  match broker, state.contents with
  | some broker, some contents =>
    if state.broker ≠ broker ∨ state.phase ≠ .ready ∨ handle.revocationID ≠ state.revocationID ∨
        contents.prepared.id ≠ state.revocationID ∨ contents.permit.revocationID ≠ state.revocationID ∨
        validOpaqueText contents.permit.token 4096 = false ∨ contents.expiresAt = 0 then
      pure (none, state)
    else
      validDurableResolution contents.resolved >>= fun resolution =>
        if resolution then
          pure (some { contents with revocationID := state.revocationID },
            { state with phase := phase, contents := none })
        else pure (none, state)
  | _, _ => pure (none, state)

def persistRevocationIntent (revocationID : GoString) : Prog Bool :=
  newFinalizeContext >>= fun finalize =>
    if finalize then
      call (.requestRevocation { revocationID := revocationID, fence := noFence })
        (fun answer : Except Unit Revocation => pure answer.toBool)
    else pure false

/-- Every way out after the accessor was anchored: the child is destroyed and its revocation is requested. -/
def abandon (revocationID : GoString) (operation : String) : Prog BrokerError :=
  persistRevocationIntent revocationID >>= fun _ => issuanceError operation

structure Dispatched where
  authorized : ChildCreateAuthorization
  child : DurableChild
  createFailed : Bool

/-- `Issue` until there is an accessor to anchor. -/
def dispatchChild (prepared : ConsumedPreparedCredential) : Step Dispatched := do
  let issuer := prepared.resolved.issuer
  attemptOr (ask (.validateManager issuer)) (fun _ => issuanceError "validate manager")
  let createContext ← liftM (valid (newBoundedContext timeoutSource childCreateVaultCallBudget))
  check (createContext = true) (issuanceError "create bounded issuer context")
  let authorized ← attemptOr (ask (.authorizeChildCreate {
    permit := prepared.permit
    fence := prepared.request.fence })) (fun _ => issuanceError "authorize child creation")
  check (validChildCreateAuthorization authorized prepared = true)
    (issuanceError "validate child creation authorization")
  let (child, createFailed) ← liftM (ask (.createChild issuer {
    revocationID := prepared.revocationID
    profileRevision := prepared.resolved.profile.revision
    databaseAuthorizedAt := authorized.databaseAuthorizedAt
    ttl := authorized.ttl
    credentialExpiresAt := prepared.expiresAt }) : Prog (DurableChild × Bool))
  check (child.accessor.isSome = true) (issuanceError "create child without durable accessor")
  let anchorContext ← liftM newFinalizeContext
  check (anchorContext = true) (issuanceError "create bounded anchor context")
  return { authorized := authorized, child := child, createFailed := createFailed }

/-- `ctx.Err() != nil` after the child exists -/
def notCanceled (revocationID : GoString) (operation : String) : Step Unit := do
  let ended ← liftM (ask .contextErr : Prog Bool)
  check (ended = false) (abandon revocationID operation)

def checkDynamic (prepared : ConsumedPreparedCredential) (dispatched : Dispatched) (dynamic : DurableDynamicSecret)
    (issueFailed : Bool) : Step Unit := do
  check (issueFailed = false) (abandon prepared.revocationID "issue dynamic credential")
  let now ← liftM (ask .clock : Prog Int)
  check (validDynamicSecret dynamic dispatched.authorized dispatched.child.expiresAt now = true)
    (abandon prepared.revocationID "issue dynamic credential")

/-- `Issue` once `RecordAnchor` answered. -/
def activateChild (prepared : ConsumedPreparedCredential) (dispatched : Dispatched) (answer : Except Unit Revocation) :
    Step DurableCredential := do
  let revocationID := prepared.revocationID
  let issuer := prepared.resolved.issuer
  let anchored ← attemptOr (pure answer) (fun _ => abandon revocationID "anchor child accessor")
  check (validAnchoredResult anchored dispatched.authorized.revocation prepared = true)
    (abandon revocationID "validate anchored revocation")
  notCanceled revocationID "caller canceled after child dispatch"
  check (dispatched.createFailed = false ∧ validDurableChild dispatched.child dispatched.authorized = true)
    (abandon revocationID "validate child credential")
  attemptOr (ask (.inspectChild issuer dispatched.child.accessor {
    revocationID := revocationID
    profileRevision := prepared.resolved.profile.revision
    expectedTTL := dispatched.authorized.ttl
    credentialExpiresAt := prepared.expiresAt })) (fun _ => abandon revocationID "inspect child accessor")
  notCanceled revocationID "caller canceled after child inspection"
  let (dynamic, issueFailed) ← liftM (ask (.issueDynamic issuer dispatched.child.token {
    revocationID := revocationID
    profileRevision := prepared.resolved.profile.revision
    credentialExpiresAt := prepared.expiresAt }) : Prog (DurableDynamicSecret × Bool))
  checkDynamic prepared dispatched dynamic issueFailed
  notCanceled revocationID "caller canceled after dynamic credential"
  let activateContext ← liftM newFinalizeContext
  check (activateContext = true) (abandon revocationID "create bounded activation context")
  let activated ← attemptOr (ask (.activate { revocationID := revocationID, fence := prepared.request.fence }))
    (fun _ => abandon revocationID "activate credential")
  check (validActiveResult activated anchored prepared = true) (abandon revocationID "activate credential")
  notCanceled revocationID "caller canceled before credential handoff"
  return {
    revocationID := activated.id
    expiresAt := dynamic.expiresAt
    secret := dynamic.secret
    activeSnapshot := activated }

def recordAnchor (prepared : ConsumedPreparedCredential) (dispatched : Dispatched) : Step DurableCredential :=
  ExceptT.mk (call (.recordAnchor {
    revocationID := prepared.revocationID
    fence := prepared.request.fence
    accessor := dispatched.child.accessor }) (fun answer => (activateChild prepared dispatched answer).run))

/-- `Issue` with the contents of a consumed handle. -/
def issueConsumed (prepared : ConsumedPreparedCredential) : Step DurableCredential :=
  dispatchChild prepared >>= recordAnchor prepared

/-- The methods that spend a handle: a context check, the consumption, and what is done with the contents. -/
def spend {α : Type} (phase : Phase) (use : ConsumedPreparedCredential → Step α) (caller : Caller)
    (handle : PreparedDurableCredential) (state : PreparedState) : Prog (Except BrokerError α × PreparedState) :=
  if caller.nilContext then pure (.error .invalidDurableCredentialRequest, state)
  else
    call .contextErr (fun ended : Bool =>
      if ended then pure (.error .context, state)
      else
        consumePrepared caller.broker handle phase state >>= fun consumed =>
          match consumed with
          | (none, state) => pure (.error .durableCredentialState, state)
          | (some prepared, state) => (use prepared).run >>= fun outcome => pure (outcome, state))

def issue : Caller → PreparedDurableCredential → PreparedState →
    Prog (Except BrokerError DurableCredential × PreparedState) :=
  spend .issuing issueConsumed

def recordNoCredentialConsumed (prepared : ConsumedPreparedCredential) : Step Revocation := do
  let revocation ← attemptOr (ask (.recordNoCredential {
    revocationID := prepared.revocationID
    fence := prepared.request.fence })) (fun _ => issuanceError "record no credential")
  check (validNoCredentialResult revocation prepared = true) (issuanceError "record no credential")
  return revocation

def recordNoCredential : Caller → PreparedDurableCredential → PreparedState →
    Prog (Except BrokerError Revocation × PreparedState) :=
  spend .noCredential recordNoCredentialConsumed

end Issue

end AiopsSystem.Credential.DurableBroker
