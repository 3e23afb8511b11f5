import AiopsSystem.Action.Signing
import AiopsSystem.Go.Table

/-! # The policy engine

One evaluation reads the switches, the target, the risk and the limits of an
action, runs the compiled expression and counts the approvals. Every reader may
fail; the first gate that does not pass decides the outcome.
-/

namespace AiopsSystem.Policy

open Go AiopsSystem.Action

inductive Stage where
  | planSubmission
  | credentialIssue
  | preExecution
deriving DecidableEq

def Stage.text : Stage → GoString
  | .planSubmission => ascii "PLAN_SUBMISSION"
  | .credentialIssue => ascii "CREDENTIAL_ISSUE"
  | .preExecution => ascii "PRE_EXECUTION"

inductive Outcome where
  | allow
  | deny
  | requireApproval

def reasonApprovalRequired : GoString := ascii "APPROVAL_REQUIRED"
def reasonApprovalExpired : GoString := ascii "APPROVAL_EXPIRED"
def reasonApprovalBindingMismatch : GoString := ascii "APPROVAL_BINDING_MISMATCH"
def reasonApprovalRejected : GoString := ascii "APPROVAL_REJECTED"
def reasonApprovalRoleInvalid : GoString := ascii "APPROVAL_ROLE_INVALID"
def reasonSeparationOfDuties : GoString := ascii "SEPARATION_OF_DUTIES"
def reasonTargetStateDrift : GoString := ascii "TARGET_STATE_DRIFT"
def reasonTargetStateStale : GoString := ascii "TARGET_STATE_STALE"
def reasonTargetNotWhitelisted : GoString := ascii "TARGET_NOT_WHITELISTED"
def reasonMappingNotExact : GoString := ascii "MAPPING_NOT_EXACT"
def reasonKillSwitchDisabled : GoString := ascii "KILL_SWITCH_DISABLED"
def reasonSafetyStateStale : GoString := ascii "SAFETY_STATE_STALE"
def reasonSafetyStateUnavailable : GoString := ascii "SAFETY_STATE_UNAVAILABLE"
def reasonCELPolicyDenied : GoString := ascii "CEL_POLICY_DENIED"
def reasonInvalidEnvelope : GoString := ascii "INVALID_ACTION_ENVELOPE"
def reasonIdentityUnavailable : GoString := ascii "IDENTITY_UNAVAILABLE"
def reasonRiskAssessmentDrift : GoString := ascii "RISK_ASSESSMENT_DRIFT"
def reasonActionLimitsDrift : GoString := ascii "ACTION_LIMITS_DRIFT"

def maxSafetySnapshotAge : Int := 5 * second

def maxTargetSnapshotAge : Int := 15 * second

def maxClockSkew : Int := second

inductive Role where
  | sre
  | serviceOwner
  | approver
  | other (value : GoString)
deriving DecidableEq

inductive ApprovalDecision where
  | approved
  | rejected
  | other (value : GoString)
deriving DecidableEq

structure Approval where
  subjectID : GoString
  decision : ApprovalDecision
  (workspaceID actionID planHash policyVersion targetDigest : GoString)
  decidedAt : Int
  expiresAt : Int

structure Principal where
  canonicalID : GoString
  active : Bool
  roles : List Role

structure GlobalSwitchSnapshot where
  enabled : Bool
  revision : GoString
  observedAt : Int

structure ScopedSwitchSnapshot where
  (workspaceID environmentID connectorID : GoString)
  actionType : ActionType
  (environmentEnabled connectorEnabled actionEnabled : Bool)
  revision : GoString
  observedAt : Int

structure GitOpsFacts where
  (provider repositoryID application path baseCommit headCommit revertCommit diffSHA256 : GoString)
  (resultTreeSHA256 headTreeSHA256 liveRevision desiredRevision syncStatus healthStatus : GoString)
deriving DecidableEq

structure KubernetesFacts where
  (clusterID nspace name uid resourceVersion : GoString)
  (generation replicas availableReplicas updatedReplicas : Int)
  hpaAbsent : Bool := false
  pdbChecked : Bool := false
  quotaChecked : Bool := false
deriving DecidableEq

structure AWXFacts where
  inventoryID : Int
  hostIDs : List Int
  inventorySnapshotSHA256 : GoString
  jobTemplateID : Int
  (jobTemplateSnapshotSHA256 serviceName osFamily serviceState serviceStateSnapshotSHA256 : GoString)

structure TargetSnapshot where
  (workspaceID serviceID environmentID connectorID : GoString)
  actionType : ActionType
  mappingResult : GoString
  whitelisted : Bool
  targetVersion : GoString
  kubernetes : Option KubernetesFacts
  gitOps : Option GitOpsFacts
  awx : Option AWXFacts
  revision : GoString
  observedAt : Int

structure RiskSnapshot where
  (workspaceID actionID planHash targetDigest policyVersion level : GoString)
  reasonCodes : List GoString
  revision : GoString
  observedAt : Int

structure ActionLimitsSnapshot where
  (workspaceID serviceID environmentID : GoString)
  actionType : ActionType
  (minimumReplicas maximumReplicas maxAWXHosts : Int)
  revision : GoString
  observedAt : Int

structure Activation where
  (actionType stage environment serviceID workspaceID riskLevel connectorID credentialPermission : GoString)
  (mappingExact whitelisted : Bool)

inductive CELValue where
  | bool (value : Bool)
  | other
deriving DecidableEq

structure Dependencies where
  keys : GoString → Option KeyRecord
  approvals : GoString → GoString → GoString → Option (List Approval)
  principals : GoString → GoString → GoString → GoString → Option Principal
  global : Option GlobalSwitchSnapshot
  switches : Envelope → Option ScopedSwitchSnapshot
  targets : Envelope → Option TargetSnapshot
  risk : Envelope → Option RiskSnapshot
  limits : Envelope → Option ActionLimitsSnapshot
  now : Int

structure Decision where
  outcome : Outcome
  policyVersion : GoString
  stage : Stage
  planHash : GoString
  reasonCodes : List GoString := []
  safetyRevision : GoString := []
  targetRevision : GoString := []
  riskRevision : GoString := []
  limitsRevision : GoString := []
  evaluatedAt : Int
  credentialExpiresAt : Int := 0

inductive EvaluateError where
  | context
  | celPolicy

/-- The policy version and the compiled expression; none is an error of the evaluation. -/
structure Engine where
  version : GoString
  program : Activation → Option CELValue

/-- `slices.Compact` -/
def compact : List GoString → List GoString
  | [] => []
  | [value] => [value]
  | value :: next :: rest => if value = next then compact (next :: rest) else value :: compact (next :: rest)

def withReasons (decision : Decision) (outcome : Outcome) (reasons : List GoString) : Decision :=
  { decision with outcome := outcome, reasonCodes := compact (GoMap.sortSlice textLess reasons) }

def fresh (now observedAt maximumAge : Int) : Bool :=
  if observedAt = 0 ∨ now + maxClockSkew < observedAt then false else timeSub now observedAt ≤ maximumAge

/-- The loop of `validRoles` with the roles seen so far. -/
def distinctRoles (seen : List Role) : List Role → Bool
  | [] => true
  | role :: rest =>
    if role ≠ .sre ∧ role ≠ .serviceOwner ∧ role ≠ .approver then false
    else if role ∈ seen then false
    else distinctRoles (role :: seen) rest

def validRoles (roles : List Role) : Bool :=
  if roles.length = 0 ∨ roles.length > 3 then false else distinctRoles [] roles

def hasAnyRole (roles expected : List Role) : Bool := roles.any (fun role => expected.contains role)

def bindingDocument (envelope : Envelope) : Json :=
  .object [("action_type", .text envelope.actionType.text), ("target", envelope.target.document),
    ("parameters", envelope.parameters.document), ("observed_state", envelope.observedState.document)]

/-- `TargetDigest`; the tokens are validated in any order, since the error is dropped by every caller. -/
def targetDigest (crypto : Cryptography) (envelope : Envelope) : Except EnvelopeError GoString := do
  envelope.validate Envelope.TokenField.all
  return crypto.sha256Hex (Json.encode (bindingDocument envelope))

def targetMatchesEnvelope (snapshot : TargetSnapshot) (envelope : Envelope) : Bool :=
  match envelope.actionType with
  | .kubernetesRolloutRestart | .kubernetesScale =>
    match snapshot.kubernetes, snapshot.gitOps, snapshot.awx, envelope.target.kubernetesDeployment,
      envelope.observedState.kubernetesDeployment with
    | some facts, none, none, some target, some state =>
      let expected : KubernetesFacts := {
        clusterID := target.clusterID, nspace := target.nspace, name := target.name, uid := target.uid,
        resourceVersion := target.resourceVersion, generation := state.generation, replicas := state.replicas,
        availableReplicas := state.availableReplicas, updatedReplicas := state.updatedReplicas }
      if envelope.actionType = .kubernetesScale then
        match envelope.parameters.kubernetesScale with
        | none => false
        | some parameters =>
          let expected := { expected with
            hpaAbsent := parameters.hpaAbsent, pdbChecked := parameters.pdbChecked,
            quotaChecked := parameters.quotaChecked }
          snapshot.targetVersion == target.resourceVersion && facts == expected
      else snapshot.targetVersion == target.resourceVersion && facts == expected
    | _, _, _, _, _ => false
  | .awxServiceRestart =>
    match snapshot.awx, snapshot.gitOps, snapshot.kubernetes, envelope.target.awxHosts,
      envelope.parameters.awxServiceRestart, envelope.observedState.awxService with
    | some facts, none, none, some target, some parameters, some state =>
      snapshot.targetVersion == target.inventorySnapshotSHA256 && facts.inventoryID == target.inventoryID &&
        facts.hostIDs == target.hostIDs && facts.inventorySnapshotSHA256 == target.inventorySnapshotSHA256 &&
        facts.jobTemplateID == parameters.jobTemplateID &&
        facts.jobTemplateSnapshotSHA256 == target.jobTemplateSnapshotSHA256 &&
        facts.serviceName == parameters.serviceName && facts.osFamily == parameters.osFamily &&
        facts.serviceState == state.serviceState &&
        facts.serviceStateSnapshotSHA256 == state.serviceStateSnapshotSHA256
    | _, _, _, _, _, _ => false
  | .gitOpsRevert =>
    match snapshot.gitOps, snapshot.kubernetes, snapshot.awx, envelope.target.gitOpsApplication,
      envelope.parameters.gitOpsRevert, envelope.observedState.gitOpsApplication with
    | some facts, none, none, some target, some parameters, some state =>
      facts == {
        provider := parameters.provider, repositoryID := target.repositoryID, application := target.application,
        path := target.path, baseCommit := parameters.baseCommit, headCommit := parameters.headCommit,
        revertCommit := parameters.revertCommit, diffSHA256 := parameters.diffSHA256,
        resultTreeSHA256 := parameters.treeSHA256, headTreeSHA256 := state.headTreeSHA256,
        liveRevision := state.liveRevision, desiredRevision := state.desiredRevision,
        syncStatus := state.syncStatus, healthStatus := state.healthStatus }
    | _, _, _, _, _, _ => false
  | .unsupported _ => false

def limitsMatchEnvelope (limits : ActionLimitsSnapshot) (envelope : Envelope) : Bool :=
  match envelope.actionType with
  | .kubernetesScale =>
    envelope.parameters.kubernetesScale.any (fun parameters =>
      0 ≤ limits.minimumReplicas && limits.minimumReplicas ≤ limits.maximumReplicas &&
        parameters.minimum == limits.minimumReplicas && parameters.maximum == limits.maximumReplicas)
  | .awxServiceRestart =>
    envelope.target.awxHosts.any (fun target =>
      0 < limits.maxAWXHosts && limits.maxAWXHosts ≤ maxAWXHosts && target.hostIDs.length ≤ limits.maxAWXHosts)
  | _ => limits.minimumReplicas == 0 && limits.maximumReplicas == 0 && limits.maxAWXHosts == 0

def approvalBindingValid (approval : Approval) (envelope : Envelope) (targetDigest : GoString) (now : Int) : Bool :=
  (approval.decision == .approved || approval.decision == .rejected) &&
    approval.workspaceID == envelope.workspaceID && approval.actionID == envelope.actionID &&
    approval.planHash == envelope.planHash && approval.policyVersion == envelope.policyVersion &&
    approval.targetDigest == targetDigest && envelope.notBefore.instant ≤ approval.decidedAt &&
    approval.decidedAt ≤ now && now < approval.expiresAt && approval.expiresAt ≤ envelope.expiresAt.instant

structure ApprovalEvaluation where
  satisfied : Bool := false
  rejected : Bool := false
  reasons : List GoString := []

structure Tally where
  valid : GoMap GoString Principal := ∅
  reasons : List GoString := []
  rejected : Bool := false

def Tally.note (tally : Tally) (reason : GoString) : Tally := { tally with reasons := tally.reasons ++ [reason] }

section Evaluate

variable (crypto : Cryptography) (deps : Dependencies) (envelope : Envelope)

def resolvePrincipal (subjectID : GoString) : Option Principal :=
  deps.principals subjectID envelope.workspaceID envelope.target.environmentID envelope.target.serviceID

def countApproval (requester : Principal) (digest : GoString) (tally : Tally) (approval : Approval) : Tally :=
  if approvalBindingValid approval envelope digest deps.now = false then
    if deps.now < approval.expiresAt then tally.note reasonApprovalBindingMismatch else tally.note reasonApprovalExpired
  else
    match resolvePrincipal deps envelope approval.subjectID with
    | none => tally.note reasonIdentityUnavailable
    | some principal =>
      if principal.active = false ∨ principal.canonicalID = [] then tally.note reasonIdentityUnavailable
      else if principal.canonicalID = requester.canonicalID then tally.note reasonSeparationOfDuties
      else if validRoles principal.roles = false ∨
          hasAnyRole principal.roles [.sre, .serviceOwner, .approver] = false then tally.note reasonApprovalRoleInvalid
      else if approval.decision = .rejected then { tally with rejected := true }
      else if approval.decision ≠ .approved then tally.note reasonApprovalBindingMismatch
      else if (tally.valid.get? principal.canonicalID).isSome then tally.note reasonApprovalBindingMismatch
      else { tally with valid := tally.valid.insert principal.canonicalID principal }

def twoPeople (valid : GoMap GoString Principal) : Bool :=
  valid.anyEntry (fun sreID principal => hasAnyRole principal.roles [.sre] &&
    valid.anyEntry (fun ownerID candidate => sreID != ownerID && hasAnyRole candidate.roles [.serviceOwner]))

def evaluateApprovals : ApprovalEvaluation :=
  match targetDigest crypto envelope with
  | .error _ => { reasons := [reasonApprovalBindingMismatch] }
  | .ok digest =>
    match deps.approvals envelope.workspaceID envelope.actionID envelope.planHash with
    | none => { reasons := [reasonApprovalBindingMismatch] }
    | some records =>
      match resolvePrincipal deps envelope envelope.requestedBy with
      | none => { reasons := [reasonIdentityUnavailable] }
      | some requester =>
        if requester.active = false ∨ requester.canonicalID = [] then { reasons := [reasonIdentityUnavailable] }
        else
          let tally := records.foldl (countApproval deps envelope requester digest) {}
          if tally.rejected then { rejected := true, reasons := tally.reasons }
          else if envelope.actionType ≠ .gitOpsRevert then
            { satisfied := 1 ≤ tally.valid.size, reasons := tally.reasons }
          else { satisfied := twoPeople tally.valid, reasons := tally.reasons }

variable (engine : Engine) (contextDone : Bool) (stage : Stage)

def refuse (decision : Decision) (reason : GoString) : Decision × Option EvaluateError :=
  (withReasons decision .deny [reason], none)

def activation (target : TargetSnapshot) (risk : RiskSnapshot) : Activation where
  actionType := envelope.actionType.text
  stage := stage.text
  environment := target.environmentID
  serviceID := target.serviceID
  workspaceID := target.workspaceID
  riskLevel := risk.level
  connectorID := target.connectorID
  credentialPermission := envelope.credentialScope.permission
  mappingExact := target.mappingResult == ascii "EXACT"
  whitelisted := target.whitelisted

/-- The switches and the envelope; an error is the decision of the first gate that does not pass. -/
def safetyGates : Except (Decision × Option EvaluateError) Decision := do
  let now := deps.now
  let decision : Decision := {
    outcome := .deny, policyVersion := engine.version, stage := stage, planHash := envelope.planHash, evaluatedAt := now }
  require (contextDone = false) (decision, some .context)
  let global ← orFail (deps.global.filter (·.revision ≠ [])) (refuse decision reasonSafetyStateUnavailable)
  let decision := { decision with safetyRevision := global.revision }
  require (fresh now global.observedAt maxSafetySnapshotAge = true) (refuse decision reasonSafetyStateStale)
  require (global.enabled = true) (refuse decision reasonKillSwitchDisabled)
  require (envelope.policyVersion = engine.version) (refuse decision reasonInvalidEnvelope)
  require (verify crypto Envelope.TokenField.all envelope (some deps.keys) now = .ok ())
    (refuse decision reasonInvalidEnvelope)
  let switches ← orFail ((deps.switches envelope).filter (·.revision ≠ [])) (refuse decision reasonSafetyStateUnavailable)
  let decision := { decision with safetyRevision := global.revision ++ ascii "/" ++ switches.revision }
  require (fresh now switches.observedAt maxSafetySnapshotAge = true) (refuse decision reasonSafetyStateStale)
  require (switches.workspaceID = envelope.workspaceID ∧ switches.environmentID = envelope.target.environmentID ∧
    switches.connectorID = envelope.credentialScope.connectorID ∧ switches.actionType = envelope.actionType)
    (refuse decision reasonKillSwitchDisabled)
  require (switches.environmentEnabled = true ∧ switches.connectorEnabled = true ∧ switches.actionEnabled = true)
    (refuse decision reasonKillSwitchDisabled)
  return decision

def targetGates (decision : Decision) : Except (Decision × Option EvaluateError) (Decision × TargetSnapshot) := do
  let now := deps.now
  let target ← orFail ((deps.targets envelope).filter (·.revision ≠ [])) (refuse decision reasonTargetStateDrift)
  let decision := { decision with targetRevision := target.revision }
  require (fresh now target.observedAt maxTargetSnapshotAge = true) (refuse decision reasonTargetStateStale)
  require (target.workspaceID = envelope.workspaceID ∧ target.serviceID = envelope.target.serviceID ∧
    target.environmentID = envelope.target.environmentID ∧
    target.connectorID = envelope.credentialScope.connectorID ∧ target.actionType = envelope.actionType)
    (refuse decision reasonTargetStateDrift)
  require (target.mappingResult = ascii "EXACT") (refuse decision reasonMappingNotExact)
  require (target.whitelisted = true) (refuse decision reasonTargetNotWhitelisted)
  require (targetMatchesEnvelope target envelope = true) (refuse decision reasonTargetStateDrift)
  return (decision, target)

def assessmentGates (decision : Decision) (target : TargetSnapshot) :
    Except (Decision × Option EvaluateError) Decision := do
  let now := deps.now
  let risk ← orFail ((deps.risk envelope).filter (·.revision ≠ [])) (refuse decision reasonRiskAssessmentDrift)
  require (fresh now risk.observedAt maxTargetSnapshotAge = true ∧
    targetDigest crypto envelope = .ok risk.targetDigest ∧ risk.workspaceID = envelope.workspaceID ∧
    risk.actionID = envelope.actionID ∧ risk.planHash = envelope.planHash ∧
    risk.policyVersion = envelope.policyVersion ∧ risk.level = envelope.risk.level ∧
    risk.reasonCodes = envelope.risk.reasonCodes) (refuse decision reasonRiskAssessmentDrift)
  let decision := { decision with riskRevision := risk.revision }
  let limits ← orFail ((deps.limits envelope).filter (·.revision ≠ [])) (refuse decision reasonActionLimitsDrift)
  require (fresh now limits.observedAt maxTargetSnapshotAge = true ∧ limits.workspaceID = envelope.workspaceID ∧
    limits.serviceID = envelope.target.serviceID ∧ limits.environmentID = envelope.target.environmentID ∧
    limits.actionType = envelope.actionType ∧ limitsMatchEnvelope limits envelope = true)
    (refuse decision reasonActionLimitsDrift)
  let decision := { decision with limitsRevision := limits.revision }
  let result ← orFail (engine.program (activation envelope stage target risk))
    (withReasons decision .deny [reasonCELPolicyDenied], some .celPolicy)
  require (result = .bool true) (refuse decision reasonCELPolicyDenied)
  return decision

/-- The gates of `evaluate` before the approvals. -/
def gates : Except (Decision × Option EvaluateError) Decision := do
  let decision ← safetyGates crypto deps envelope engine contextDone stage
  let (decision, target) ← targetGates deps envelope decision
  assessmentGates crypto deps envelope engine stage decision target

def conclude (decision : Decision) (approvals : ApprovalEvaluation) : Decision :=
  if approvals.rejected then withReasons decision .deny (approvals.reasons ++ [reasonApprovalRejected])
  else if approvals.satisfied = false then
    withReasons decision (if stage = .planSubmission then .requireApproval else .deny)
      (approvals.reasons ++ [reasonApprovalRequired])
  else
    let decision := { decision with outcome := .allow }
    if stage = .credentialIssue then
      { decision with
        credentialExpiresAt := min (deps.now + envelope.credentialScope.ttlSeconds * second) envelope.expiresAt.instant }
    else decision

def evaluate : Decision × Option EvaluateError :=
  match gates crypto deps envelope engine contextDone stage with
  | .ok decision => (conclude deps envelope stage decision (evaluateApprovals crypto deps envelope), none)
  | .error refused => refused

end Evaluate

end AiopsSystem.Policy
