import AiopsSystem.Go.Attempt
import AiopsSystem.Go.Json

/-! # The action envelope

The sole write-side execution input: a typed union of targets, parameters and
observed states with its structural checks. Validation reads the identifying
tokens from a Go map, so the order in which they are checked is an argument.
-/

namespace AiopsSystem.Action

open Go

def schemaVersionV1 : GoString := ascii "action-envelope.v1"

def signatureEd25519 : GoString := ascii "Ed25519"

def maxEnvelopeValidity : Int := 30 * minute

def maxCredentialTTL : Int := 15 * minute

def maxAWXHosts : Nat := 10

def maxJCSSafeInteger : Int := 9007199254740991

inductive ActionType where
  | kubernetesRolloutRestart
  | kubernetesScale
  | gitOpsRevert
  | awxServiceRestart
  | unsupported (value : GoString)
deriving DecidableEq

def ActionType.text : ActionType → GoString
  | .kubernetesRolloutRestart => ascii "K8S_ROLLOUT_RESTART"
  | .kubernetesScale => ascii "K8S_SCALE"
  | .gitOpsRevert => ascii "GITOPS_REVERT"
  | .awxServiceRestart => ascii "AWX_SERVICE_RESTART"
  | .unsupported value => value

structure KubernetesDeploymentTarget where
  (clusterID nspace name uid resourceVersion : GoString)
deriving DecidableEq

structure GitOpsTarget where
  (repositoryID application path : GoString)
deriving DecidableEq

structure AWXTarget where
  inventoryID : Int
  hostIDs : List Int
  (inventorySnapshotSHA256 jobTemplateSnapshotSHA256 : GoString)
deriving DecidableEq

structure TargetRef where
  (serviceID environmentID : GoString)
  kubernetesDeployment : Option KubernetesDeploymentTarget
  gitOpsApplication : Option GitOpsTarget
  awxHosts : Option AWXTarget
deriving DecidableEq

structure KubernetesRolloutRestartParameters where
  reason : GoString
deriving DecidableEq

structure KubernetesScaleParameters where
  (replicas minimum maximum : Int)
  (hpaAbsent pdbChecked quotaChecked : Bool)
deriving DecidableEq

structure GitOpsRevertParameters where
  (provider baseCommit headCommit revertCommit diffSHA256 treeSHA256 : GoString)
deriving DecidableEq

structure AWXServiceRestartParameters where
  jobTemplateID : Int
  (serviceName osFamily : GoString)
  serial : Int
deriving DecidableEq

structure ActionParameters where
  kubernetesRolloutRestart : Option KubernetesRolloutRestartParameters
  kubernetesScale : Option KubernetesScaleParameters
  gitOpsRevert : Option GitOpsRevertParameters
  awxServiceRestart : Option AWXServiceRestartParameters
deriving DecidableEq

structure KubernetesDeploymentObservedState where
  (generation replicas availableReplicas updatedReplicas : Int)
deriving DecidableEq

structure GitOpsObservedState where
  (liveRevision desiredRevision headTreeSHA256 syncStatus healthStatus : GoString)
deriving DecidableEq

structure AWXServiceObservedState where
  hostCount : Int
  (serviceState inventorySnapshotSHA256 serviceStateSnapshotSHA256 : GoString)
deriving DecidableEq

structure ObservedState where
  kubernetesDeployment : Option KubernetesDeploymentObservedState
  gitOpsApplication : Option GitOpsObservedState
  awxService : Option AWXServiceObservedState
deriving DecidableEq

structure Preconditions where
  (mappingResult expectedResourceVersion expectedGitHeadCommit : GoString)
  requireWhitelist : Bool
deriving DecidableEq

structure VerificationPlan where
  mode : GoString
  timeoutSeconds : Int
deriving DecidableEq

structure CompensationPlan where
  (mode summary : GoString)
deriving DecidableEq

structure RiskAssessment where
  level : GoString
  reasonCodes : List GoString
deriving DecidableEq

structure CredentialScope where
  (connectorID permission resource : GoString)
  ttlSeconds : Int
deriving DecidableEq

structure Signature where
  algorithm : GoString := []
  keyID : GoString := []
  value : GoString := []
deriving DecidableEq

structure Envelope where
  (schemaVersion actionID workspaceID incidentID requestedBy : GoString)
  actionType : ActionType
  target : TargetRef
  parameters : ActionParameters
  observedState : ObservedState
  preconditions : Preconditions
  verification : VerificationPlan
  compensation : CompensationPlan
  risk : RiskAssessment
  (policyVersion planHash : GoString)
  credentialScope : CredentialScope
  idempotencyKey : GoString
  (notBefore expiresAt : ZonedTime)
  traceID : GoString
  signature : Signature
deriving DecidableEq

/-- What a failed check reports; the constructors with a value format it into the text. -/
inductive EnvelopeError where
  | unsupportedSchemaVersion (value : GoString)
  | unsupportedActionType (value : GoString)
  | parametersMismatch (actionType : ActionType)
  | text (message : String)
deriving DecidableEq

/-- `^[A-Za-z0-9][A-Za-z0-9._:/@-]{0,255}$` -/
def validToken (value : GoString) : Bool := value.length ≤ 256 && matchesIdentifier value

/-- `^[a-z0-9]([-a-z0-9.]*[a-z0-9])?$` -/
def matchesKubernetes (value : GoString) : Bool :=
  value.all (fun b => isLower b || isDigit b || b == 45 || b == 46) &&
    value.head?.any (fun b => isLower b || isDigit b) &&
    value.getLast?.any (fun b => isLower b || isDigit b)

/-- `^[A-Za-z0-9][A-Za-z0-9_.@-]{0,127}$` -/
def matchesServiceName (value : GoString) : Bool :=
  value.length ≤ 128 &&
    matchesHeadTail isAlphanumeric (fun b => isAlphanumeric b || b == 95 || b == 46 || b == 64 || b == 45) value

def matchesGitOID (value : GoString) : Bool := matchesHex 40 value || matchesHex 64 value

/-- `repoPathPattern`: letters, digits, dot, underscore, slash and hyphen. -/
def matchesRepoPath (value : GoString) : Bool :=
  value != [] && value.all (fun b => isAlphanumeric b || b == 46 || b == 95 || b == 47 || b == 45)

def oneOf (value : GoString) (allowed : List String) : Bool := (allowed.map ascii).contains value

def countNonNil (values : List Bool) : Nat := values.countP id

def safePositiveInteger (value : Int) : Bool := 0 < value && value ≤ maxJCSSafeInteger

def strictlyIncreasingPositive (values : List Int) : Bool :=
  values.all safePositiveInteger && (values.zip values.tail).all (fun pair => decide (pair.1 < pair.2))

def validRepositoryPath (value : GoString) : Bool :=
  !(value == [] || value.length > 512 || !matchesRepoPath value || value.head? == some 47 ||
    pathClean value != value || value == ascii ".") &&
  ((splitByte 47 value).headD []).head? != some 45 &&
  (splitByte 47 value).all (fun segment =>
    !(segment == [] || segment == ascii "." || segment == ascii ".." || equalFold segment (ascii ".git")))

def kubernetesCredentialResource (target : KubernetesDeploymentTarget) : GoString :=
  target.clusterID ++ ascii "/" ++ target.nspace ++ ascii "/deployment/" ++ target.name

def KubernetesDeploymentTarget.validate (target : KubernetesDeploymentTarget) : Except EnvelopeError Unit := do
  require (validToken target.clusterID ∧ validToken target.uid ∧ validToken target.resourceVersion)
    (.text "invalid Kubernetes deployment target identity")
  require (target.nspace.length ≤ 63 ∧ target.name.length ≤ 253 ∧ matchesKubernetes target.nspace ∧
    matchesKubernetes target.name) (.text "invalid Kubernetes deployment target name")

def KubernetesDeploymentObservedState.validate (state : KubernetesDeploymentObservedState) :
    Except EnvelopeError Unit := do
  require (safePositiveInteger state.generation)
    (.text "Kubernetes generation must be a positive RFC 8785 safe integer")
  require (0 ≤ state.replicas ∧ 0 ≤ state.availableReplicas ∧ 0 ≤ state.updatedReplicas ∧
    state.availableReplicas ≤ state.replicas ∧ state.updatedReplicas ≤ state.replicas)
    (.text "invalid Kubernetes deployment observed state")

def VerificationPlan.validate (plan : VerificationPlan) : Except EnvelopeError Unit :=
  require (oneOf plan.mode ["KUBERNETES_ROLLOUT", "ARGO_CD_HEALTH", "AWX_SERVICE_HEALTH"] ∧
    0 < plan.timeoutSeconds ∧ plan.timeoutSeconds ≤ 900) (.text "invalid verification plan")

def CompensationPlan.validate (plan : CompensationPlan) : Except EnvelopeError Unit :=
  require (oneOf plan.mode ["MANUAL_ONLY", "PROPOSE_ONLY"] ∧ isBlank plan.summary = false ∧
    plan.summary.length ≤ 1000) (.text "invalid compensation plan")

def RiskAssessment.validate (risk : RiskAssessment) : Except EnvelopeError Unit := do
  require (oneOf risk.level ["LOW", "MEDIUM", "HIGH"] ∧ risk.reasonCodes ≠ [] ∧ risk.reasonCodes.length ≤ 16)
    (.text "invalid risk assessment")
  require (∀ pair ∈ risk.reasonCodes.zip risk.reasonCodes.tail, ¬ pair.2 < pair.1)
    (.text "risk reason codes must be sorted")
  require ((∀ reason ∈ risk.reasonCodes, validToken reason) ∧
    ∀ pair ∈ risk.reasonCodes.zip risk.reasonCodes.tail, pair.2 ≠ pair.1)
    (.text "invalid or duplicate risk reason code")

def CredentialScope.validate (scope : CredentialScope) (validity : Int) : Except EnvelopeError Unit := do
  require (validToken scope.connectorID ∧ validToken scope.permission ∧ validToken scope.resource)
    (.text "invalid credential scope")
  let ttl := scope.ttlSeconds * second
  require (0 < ttl ∧ ttl ≤ maxCredentialTTL ∧ ttl ≤ validity)
    (.text "credential ttl must be positive, at most 15 minutes, and within envelope validity")

def Signature.validateOptional (signature : Signature) : Except EnvelopeError Unit :=
  if signature = {} then pure ()
  else do
    require (signature.algorithm = signatureEd25519 ∧ validToken signature.keyID ∧ signature.value ≠ [] ∧
      signature.value.length ≤ 256) (.text "invalid action envelope signature metadata")
    require ((rawURLDecode signature.value).any (fun decoded => decoded.length == 64))
      (.text "invalid action envelope signature encoding")

def validateTimes (notBefore expiresAt : ZonedTime) : Except EnvelopeError Unit := do
  require (notBefore.instant ≠ 0 ∧ expiresAt.instant ≠ 0) (.text "not_before and expires_at are required")
  require (notBefore.offset = 0 ∧ expiresAt.offset = 0) (.text "action envelope timestamps must use UTC")
  let validity := timeSub expiresAt.instant notBefore.instant
  require (0 < validity ∧ validity ≤ maxEnvelopeValidity)
    (.text "action envelope validity window must be positive and at most 30 minutes")

namespace Envelope

def validateCredentialBinding (envelope : Envelope) (permission resource : GoString) : Except EnvelopeError Unit :=
  require (envelope.credentialScope.permission = permission ∧ envelope.credentialScope.resource = resource)
    (.text "credential scope does not match action and exact target")

def validateKubernetesRestart (envelope : Envelope) (target : KubernetesDeploymentTarget)
    (parameters : KubernetesRolloutRestartParameters) (state : KubernetesDeploymentObservedState) :
    Except EnvelopeError Unit := do
  target.validate
  require (isBlank parameters.reason = false ∧ parameters.reason.length ≤ 500)
    (.text "restart reason is required and limited to 500 bytes")
  state.validate
  require (envelope.preconditions.expectedResourceVersion = target.resourceVersion)
    (.text "expected resource version must match the target")
  require (envelope.preconditions.expectedGitHeadCommit = [] ∧
    envelope.verification.mode = ascii "KUBERNETES_ROLLOUT")
    (.text "invalid Kubernetes restart precondition or verification mode")
  envelope.validateCredentialBinding (ascii "PATCH_DEPLOYMENT_RESTART") (kubernetesCredentialResource target)

def validateKubernetesScale (envelope : Envelope) (target : KubernetesDeploymentTarget)
    (parameters : KubernetesScaleParameters) (state : KubernetesDeploymentObservedState) :
    Except EnvelopeError Unit := do
  target.validate
  require (0 ≤ parameters.minimum ∧ parameters.minimum ≤ parameters.maximum ∧
    parameters.minimum ≤ parameters.replicas ∧ parameters.replicas ≤ parameters.maximum)
    (.text "scale replicas must be within the signed minimum and maximum")
  require (parameters.hpaAbsent ∧ parameters.pdbChecked ∧ parameters.quotaChecked)
    (.text "scale requires HPA absence plus PDB and quota checks")
  state.validate
  require (envelope.preconditions.expectedResourceVersion = target.resourceVersion ∧
    envelope.verification.mode = ascii "KUBERNETES_ROLLOUT")
    (.text "invalid Kubernetes scale precondition or verification mode")
  envelope.validateCredentialBinding (ascii "PATCH_DEPLOYMENT_SCALE") (kubernetesCredentialResource target)

def validateGitOpsRevert (envelope : Envelope) (target : GitOpsTarget) (parameters : GitOpsRevertParameters)
    (state : GitOpsObservedState) : Except EnvelopeError Unit := do
  require (validToken target.repositoryID ∧ validToken target.application ∧ validRepositoryPath target.path)
    (.text "invalid GitOps target")
  require (parameters.provider = ascii "GITLAB" ∨ parameters.provider = ascii "GITHUB")
    (.text "GitOps provider must be GITLAB or GITHUB")
  require (matchesGitOID parameters.baseCommit ∧ matchesGitOID parameters.headCommit ∧
    matchesGitOID parameters.revertCommit ∧ matchesHex 64 parameters.diffSHA256 ∧
    matchesHex 64 parameters.treeSHA256)
    (.text "GitOps revert requires immutable base, head, revert, diff, and tree bindings")
  require (matchesGitOID state.liveRevision ∧ matchesGitOID state.desiredRevision ∧
    matchesHex 64 state.headTreeSHA256 ∧ oneOf state.syncStatus ["SYNCED", "OUT_OF_SYNC"] ∧
    oneOf state.healthStatus ["HEALTHY", "DEGRADED", "PROGRESSING", "MISSING", "UNKNOWN"])
    (.text "invalid GitOps observed state")
  require (parameters.headCommit = state.desiredRevision ∧
    parameters.headCommit = envelope.preconditions.expectedGitHeadCommit ∧
    envelope.preconditions.expectedResourceVersion = [])
    (.text "GitOps head revision must match observed and expected state")
  require (envelope.verification.mode = ascii "ARGO_CD_HEALTH")
    (.text "GitOps revert requires Argo CD health verification")
  envelope.validateCredentialBinding (ascii "CREATE_REVERT_MR") target.repositoryID

def validateAWXRestart (envelope : Envelope) (target : AWXTarget) (parameters : AWXServiceRestartParameters)
    (state : AWXServiceObservedState) : Except EnvelopeError Unit := do
  require (safePositiveInteger target.inventoryID ∧ target.hostIDs ≠ [] ∧ target.hostIDs.length ≤ maxAWXHosts ∧
    strictlyIncreasingPositive target.hostIDs ∧ matchesHex 64 target.inventorySnapshotSHA256 ∧
    matchesHex 64 target.jobTemplateSnapshotSHA256)
    (.text "AWX target requires sorted unique positive host ids")
  require (safePositiveInteger parameters.jobTemplateID ∧ matchesServiceName parameters.serviceName ∧
    oneOf parameters.osFamily ["LINUX_SYSTEMD", "WINDOWS_SERVICE"] ∧ parameters.serial = 1)
    (.text "AWX restart requires a fixed template, typed service, supported OS family, and serial execution")
  require (state.hostCount = target.hostIDs.length ∧
    oneOf state.serviceState ["RUNNING", "STOPPED", "DEGRADED", "UNKNOWN"] ∧
    state.inventorySnapshotSHA256 = target.inventorySnapshotSHA256 ∧
    matchesHex 64 state.serviceStateSnapshotSHA256) (.text "invalid AWX service observed state")
  require (envelope.preconditions.expectedResourceVersion = [] ∧
    envelope.preconditions.expectedGitHeadCommit = [] ∧
    envelope.verification.mode = ascii "AWX_SERVICE_HEALTH")
    (.text "invalid AWX restart precondition or verification mode")
  envelope.validateCredentialBinding (ascii "LAUNCH_SERVICE_RESTART_TEMPLATE")
    (ascii "inventory/" ++ formatInt target.inventoryID ++ ascii "/job-template/" ++
      formatInt parameters.jobTemplateID)

inductive TokenField where
  | actionID
  | workspaceID
  | incidentID
  | requestedBy
  | policyVersion
  | idempotencyKey
deriving DecidableEq

def TokenField.all : List TokenField :=
  [.actionID, .workspaceID, .incidentID, .requestedBy, .policyVersion, .idempotencyKey]

def TokenField.name : TokenField → String
  | .actionID => "action id"
  | .workspaceID => "workspace id"
  | .incidentID => "incident id"
  | .requestedBy => "requester id"
  | .policyVersion => "policy version"
  | .idempotencyKey => "idempotency key"

def token (envelope : Envelope) : TokenField → GoString
  | .actionID => envelope.actionID
  | .workspaceID => envelope.workspaceID
  | .incidentID => envelope.incidentID
  | .requestedBy => envelope.requestedBy
  | .policyVersion => envelope.policyVersion
  | .idempotencyKey => envelope.idempotencyKey

def validateTokens (envelope : Envelope) : List TokenField → Except EnvelopeError Unit
  | [] => pure ()
  | field :: rest => do
    require (validToken (envelope.token field)) (.text ("invalid " ++ field.name))
    validateTokens envelope rest

def validateTyped (envelope : Envelope) : Except EnvelopeError Unit :=
  match envelope.actionType with
  | .kubernetesRolloutRestart =>
    match envelope.target.kubernetesDeployment, envelope.parameters.kubernetesRolloutRestart,
      envelope.observedState.kubernetesDeployment with
    | some target, some parameters, some state => envelope.validateKubernetesRestart target parameters state
    | _, _, _ => .error (.parametersMismatch envelope.actionType)
  | .kubernetesScale =>
    match envelope.target.kubernetesDeployment, envelope.parameters.kubernetesScale,
      envelope.observedState.kubernetesDeployment with
    | some target, some parameters, some state => envelope.validateKubernetesScale target parameters state
    | _, _, _ => .error (.parametersMismatch envelope.actionType)
  | .gitOpsRevert =>
    match envelope.target.gitOpsApplication, envelope.parameters.gitOpsRevert,
      envelope.observedState.gitOpsApplication with
    | some target, some parameters, some state => envelope.validateGitOpsRevert target parameters state
    | _, _, _ => .error (.parametersMismatch envelope.actionType)
  | .awxServiceRestart =>
    match envelope.target.awxHosts, envelope.parameters.awxServiceRestart, envelope.observedState.awxService with
    | some target, some parameters, some state => envelope.validateAWXRestart target parameters state
    | _, _, _ => .error (.parametersMismatch envelope.actionType)
  | .unsupported value => .error (.unsupportedActionType value)

/-- `Validate`, with the order in which the map of tokens is ranged over. -/
def validate (visit : List TokenField) (envelope : Envelope) : Except EnvelopeError Unit := do
  require (envelope.schemaVersion = schemaVersionV1) (.unsupportedSchemaVersion envelope.schemaVersion)
  envelope.validateTokens visit
  require (matchesHex 32 envelope.traceID) (.text "trace id must be 32 lowercase hexadecimal characters")
  validateTimes envelope.notBefore envelope.expiresAt
  require (envelope.preconditions.mappingResult = ascii "EXACT" ∧ envelope.preconditions.requireWhitelist)
    (.text "production action requires exact mapping and whitelist membership")
  envelope.credentialScope.validate (timeSub envelope.expiresAt.instant envelope.notBefore.instant)
  envelope.verification.validate
  envelope.compensation.validate
  envelope.risk.validate
  require (envelope.planHash = [] ∨ matchesHex 64 envelope.planHash)
    (.text "plan hash must be a lowercase SHA-256 value")
  envelope.signature.validateOptional
  require (countNonNil [envelope.target.kubernetesDeployment.isSome, envelope.target.gitOpsApplication.isSome,
    envelope.target.awxHosts.isSome] = 1) (.text "action envelope must have exactly one target")
  require (validToken envelope.target.serviceID ∧ validToken envelope.target.environmentID)
    (.text "target service and environment ids are required")
  require (countNonNil [envelope.parameters.kubernetesRolloutRestart.isSome,
    envelope.parameters.kubernetesScale.isSome, envelope.parameters.gitOpsRevert.isSome,
    envelope.parameters.awxServiceRestart.isSome] = 1)
    (.text "action envelope must have exactly one parameter set")
  require (countNonNil [envelope.observedState.kubernetesDeployment.isSome,
    envelope.observedState.gitOpsApplication.isSome, envelope.observedState.awxService.isSome] = 1)
    (.text "action envelope must have exactly one observed state")
  envelope.validateTyped

/-- What the other components rely on in an envelope that passed validation. -/
structure Checked (envelope : Envelope) : Prop where
  actionID : validToken envelope.actionID = true
  workspaceID : validToken envelope.workspaceID = true
  idempotencyKey : validToken envelope.idempotencyKey = true
  environmentID : validToken envelope.target.environmentID = true
  expiresAt : envelope.expiresAt.instant ≠ 0
  ttl : 0 < envelope.credentialScope.ttlSeconds

theorem validateTokens_ok {envelope : Envelope} {visit : List TokenField} {u : Unit} :
    envelope.validateTokens visit = .ok u ↔ ∀ field ∈ visit, validToken (envelope.token field) := by
  induction visit with
  | nil => simp [validateTokens, pure, Except.pure]
  | cons _ _ ih => simp [validateTokens, ih]

theorem validate_checked {envelope : Envelope} {visit : List TokenField}
    (hVisit : ∀ field, field ∈ visit) (h : envelope.validate visit = .ok ()) : Checked envelope := by
  simp only [validate, validateTimes, CredentialScope.validate, bind_eq_ok, require_eq_ok] at h
  obtain ⟨_, _, _, hTokens, _, _, _, ⟨_, hNonzero, _, _, _⟩, _, _, _, ⟨_, _, hTTL⟩, h⟩ := h
  obtain ⟨_, _, _, _, _, _, _, _, _, _, _, _, _, hTarget, _⟩ := h
  have hField := validateTokens_ok.mp hTokens
  refine ⟨hField .actionID (hVisit _), hField .workspaceID (hVisit _), hField .idempotencyKey (hVisit _),
    hTarget.2, hNonzero.2, ?_⟩
  have := hTTL.1
  unfold second at this
  omega

end Envelope

end AiopsSystem.Action
