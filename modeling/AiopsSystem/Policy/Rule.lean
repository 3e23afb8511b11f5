import AiopsSystem.Policy.Engine
import AiopsSystem.Go.KeyedTable

/-! # When an action is allowed

`Allowed` states the rule without an order of checks: what each snapshot must
say and which people must have approved. The engine allows an action exactly
under it. The approvals count as a set of people, so neither their order nor
their repetition matters.
-/

namespace AiopsSystem.Policy

open Go AiopsSystem.Action

/-! ## The rule -/

def Recent (now observedAt age : Int) : Prop :=
  observedAt ≠ 0 ∧ observedAt ≤ now + maxClockSkew ∧ now - observedAt ≤ age

def bindingDigest (crypto : Cryptography) (envelope : Envelope) : GoString :=
  crypto.sha256Hex (Json.encode (bindingDocument envelope))

/-- The state of the target that the envelope claims, with the version where it names one. -/
inductive Claims (envelope : Envelope) : Option KubernetesFacts → Option GitOpsFacts → Option AWXFacts →
    Option GoString → Prop where
  | restart (target : KubernetesDeploymentTarget) (state : KubernetesDeploymentObservedState)
      (hType : envelope.actionType = .kubernetesRolloutRestart)
      (hTarget : envelope.target.kubernetesDeployment = some target)
      (hState : envelope.observedState.kubernetesDeployment = some state) :
      Claims envelope (some {
        clusterID := target.clusterID, nspace := target.nspace, name := target.name, uid := target.uid,
        resourceVersion := target.resourceVersion, generation := state.generation, replicas := state.replicas,
        availableReplicas := state.availableReplicas, updatedReplicas := state.updatedReplicas }) none none
        (some target.resourceVersion)
  | scale (target : KubernetesDeploymentTarget) (state : KubernetesDeploymentObservedState)
      (parameters : KubernetesScaleParameters) (hType : envelope.actionType = .kubernetesScale)
      (hTarget : envelope.target.kubernetesDeployment = some target)
      (hState : envelope.observedState.kubernetesDeployment = some state)
      (hParameters : envelope.parameters.kubernetesScale = some parameters) :
      Claims envelope (some {
        clusterID := target.clusterID, nspace := target.nspace, name := target.name, uid := target.uid,
        resourceVersion := target.resourceVersion, generation := state.generation, replicas := state.replicas,
        availableReplicas := state.availableReplicas, updatedReplicas := state.updatedReplicas,
        hpaAbsent := parameters.hpaAbsent, pdbChecked := parameters.pdbChecked,
        quotaChecked := parameters.quotaChecked }) none none (some target.resourceVersion)
  | revert (target : GitOpsTarget) (state : GitOpsObservedState) (parameters : GitOpsRevertParameters)
      (hType : envelope.actionType = .gitOpsRevert) (hTarget : envelope.target.gitOpsApplication = some target)
      (hState : envelope.observedState.gitOpsApplication = some state)
      (hParameters : envelope.parameters.gitOpsRevert = some parameters) :
      Claims envelope none (some {
        provider := parameters.provider, repositoryID := target.repositoryID, application := target.application,
        path := target.path, baseCommit := parameters.baseCommit, headCommit := parameters.headCommit,
        revertCommit := parameters.revertCommit, diffSHA256 := parameters.diffSHA256,
        resultTreeSHA256 := parameters.treeSHA256, headTreeSHA256 := state.headTreeSHA256,
        liveRevision := state.liveRevision, desiredRevision := state.desiredRevision,
        syncStatus := state.syncStatus, healthStatus := state.healthStatus }) none none
  | serviceRestart (target : AWXTarget) (state : AWXServiceObservedState) (parameters : AWXServiceRestartParameters)
      (hType : envelope.actionType = .awxServiceRestart) (hTarget : envelope.target.awxHosts = some target)
      (hState : envelope.observedState.awxService = some state)
      (hParameters : envelope.parameters.awxServiceRestart = some parameters) :
      Claims envelope none none (some {
        inventoryID := target.inventoryID, hostIDs := target.hostIDs,
        inventorySnapshotSHA256 := target.inventorySnapshotSHA256, jobTemplateID := parameters.jobTemplateID,
        jobTemplateSnapshotSHA256 := target.jobTemplateSnapshotSHA256, serviceName := parameters.serviceName,
        osFamily := parameters.osFamily, serviceState := state.serviceState,
        serviceStateSnapshotSHA256 := state.serviceStateSnapshotSHA256 }) (some target.inventorySnapshotSHA256)

inductive Limits (envelope : Envelope) (limits : ActionLimitsSnapshot) : Prop where
  | scale (parameters : KubernetesScaleParameters) (hType : envelope.actionType = .kubernetesScale)
      (hParameters : envelope.parameters.kubernetesScale = some parameters)
      (hMinimum : parameters.minimum = limits.minimumReplicas) (hMaximum : parameters.maximum = limits.maximumReplicas)
      (hOrder : 0 ≤ limits.minimumReplicas ∧ limits.minimumReplicas ≤ limits.maximumReplicas)
  | serviceRestart (target : AWXTarget) (hType : envelope.actionType = .awxServiceRestart)
      (hTarget : envelope.target.awxHosts = some target)
      (hRange : 0 < limits.maxAWXHosts ∧ limits.maxAWXHosts ≤ maxAWXHosts)
      (hHosts : target.hostIDs.length ≤ limits.maxAWXHosts)
  | none (hType : envelope.actionType ≠ .kubernetesScale ∧ envelope.actionType ≠ .awxServiceRestart)
      (hZero : limits.minimumReplicas = 0 ∧ limits.maximumReplicas = 0 ∧ limits.maxAWXHosts = 0)

/-- The approval is of this plan of this action, decided inside its validity and not expired. -/
structure Binding (crypto : Cryptography) (envelope : Envelope) (now : Int) (approval : Approval) : Prop where
  workspaceID : approval.workspaceID = envelope.workspaceID
  actionID : approval.actionID = envelope.actionID
  planHash : approval.planHash = envelope.planHash
  policyVersion : approval.policyVersion = envelope.policyVersion
  digest : approval.targetDigest = bindingDigest crypto envelope
  decided : envelope.notBefore.instant ≤ approval.decidedAt ∧ approval.decidedAt ≤ now
  unexpired : now < approval.expiresAt ∧ approval.expiresAt ≤ envelope.expiresAt.instant

/-- The principal is active, has a canonical identity and holds only the known roles, each once. -/
structure Eligible (principal : Principal) : Prop where
  active : principal.active = true
  named : principal.canonicalID ≠ []
  roles : principal.roles ≠ [] ∧ principal.roles.Nodup
  known : ∀ role ∈ principal.roles, role = .sre ∨ role = .serviceOwner ∨ role = .approver

structure Vote (crypto : Cryptography) (deps : Dependencies) (envelope : Envelope) (requester : Principal)
    (approval : Approval) (decision : ApprovalDecision) (principal : Principal) : Prop where
  binding : Binding crypto envelope deps.now approval
  decision : approval.decision = decision
  resolved : resolvePrincipal deps envelope approval.subjectID = some principal
  eligible : Eligible principal
  separate : principal.canonicalID ≠ requester.canonicalID

structure Approved (crypto : Cryptography) (deps : Dependencies) (envelope : Envelope) (requester : Principal)
    (records : List Approval) : Prop where
  unopposed : ∀ approval ∈ records, ∀ principal, ¬Vote crypto deps envelope requester approval .rejected principal
  one : envelope.actionType ≠ .gitOpsRevert → ∃ approval ∈ records, ∃ principal,
    Vote crypto deps envelope requester approval .approved principal
  two : envelope.actionType = .gitOpsRevert → ∃ first ∈ records, ∃ second ∈ records, ∃ sre owner,
    Vote crypto deps envelope requester first .approved sre ∧ Vote crypto deps envelope requester second .approved owner ∧
      sre.canonicalID ≠ owner.canonicalID ∧ Role.sre ∈ sre.roles ∧ Role.serviceOwner ∈ owner.roles

def claimedActivation (stage : Stage) (envelope : Envelope) : Activation where
  actionType := envelope.actionType.text
  stage := stage.text
  environment := envelope.target.environmentID
  serviceID := envelope.target.serviceID
  workspaceID := envelope.workspaceID
  riskLevel := envelope.risk.level
  connectorID := envelope.credentialScope.connectorID
  credentialPermission := envelope.credentialScope.permission
  mappingExact := true
  whitelisted := true

structure Passed (crypto : Cryptography) (deps : Dependencies) (engine : Engine) (contextDone : Bool) (stage : Stage)
    (envelope : Envelope) : Prop where
  live : contextDone = false
  global : ∃ global, deps.global = some global ∧ global.revision ≠ [] ∧
    Recent deps.now global.observedAt maxSafetySnapshotAge ∧ global.enabled = true
  switches : ∃ switches, deps.switches envelope = some switches ∧ switches.revision ≠ [] ∧
    Recent deps.now switches.observedAt maxSafetySnapshotAge ∧
    (switches.workspaceID = envelope.workspaceID ∧ switches.environmentID = envelope.target.environmentID ∧
      switches.connectorID = envelope.credentialScope.connectorID ∧ switches.actionType = envelope.actionType) ∧
    switches.environmentEnabled = true ∧ switches.connectorEnabled = true ∧ switches.actionEnabled = true
  version : envelope.policyVersion = engine.version
  verified : verify crypto Envelope.TokenField.all envelope (some deps.keys) deps.now = .ok ()
  target : ∃ target version, deps.targets envelope = some target ∧ target.revision ≠ [] ∧
    Recent deps.now target.observedAt maxTargetSnapshotAge ∧
    (target.workspaceID = envelope.workspaceID ∧ target.serviceID = envelope.target.serviceID ∧
      target.environmentID = envelope.target.environmentID ∧
      target.connectorID = envelope.credentialScope.connectorID ∧ target.actionType = envelope.actionType) ∧
    target.mappingResult = ascii "EXACT" ∧ target.whitelisted = true ∧
    Claims envelope target.kubernetes target.gitOps target.awx version ∧ ∀ text, version = some text →
      target.targetVersion = text
  risk : ∃ risk, deps.risk envelope = some risk ∧ risk.revision ≠ [] ∧
    Recent deps.now risk.observedAt maxTargetSnapshotAge ∧ risk.workspaceID = envelope.workspaceID ∧
    risk.actionID = envelope.actionID ∧ risk.planHash = envelope.planHash ∧
    risk.targetDigest = bindingDigest crypto envelope ∧ risk.policyVersion = envelope.policyVersion ∧
    risk.level = envelope.risk.level ∧ risk.reasonCodes = envelope.risk.reasonCodes
  limits : ∃ limits, deps.limits envelope = some limits ∧ limits.revision ≠ [] ∧
    Recent deps.now limits.observedAt maxTargetSnapshotAge ∧ limits.workspaceID = envelope.workspaceID ∧
    limits.serviceID = envelope.target.serviceID ∧ limits.environmentID = envelope.target.environmentID ∧
    limits.actionType = envelope.actionType ∧ Limits envelope limits
  expression : engine.program (claimedActivation stage envelope) = some (.bool true)

structure Allowed (crypto : Cryptography) (deps : Dependencies) (engine : Engine) (contextDone : Bool) (stage : Stage)
    (envelope : Envelope) : Prop extends Passed crypto deps engine contextDone stage envelope where
  approvals : ∃ records requester,
    deps.approvals envelope.workspaceID envelope.actionID envelope.planHash = some records ∧
    resolvePrincipal deps envelope envelope.requestedBy = some requester ∧ requester.active = true ∧
    requester.canonicalID ≠ [] ∧ Approved crypto deps envelope requester records

end AiopsSystem.Policy
