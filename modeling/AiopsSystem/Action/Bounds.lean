import AiopsSystem.Action.Envelope
import Mathlib.Algebra.Order.BigOperators.Group.List

/-! # What validation bounds

The work of canonicalization is bounded by the texts of the envelope. Every text that validation reads is
short, and the parts of the unions that belong to another action type are absent. The scale action never
reads the expected Git head, so that text is the exception.
-/

namespace AiopsSystem.Action

open Go List

def KubernetesDeploymentTarget.strings (target : KubernetesDeploymentTarget) : List GoString :=
  [target.clusterID, target.nspace, target.name, target.uid, target.resourceVersion]

def GitOpsTarget.strings (target : GitOpsTarget) : List GoString :=
  [target.repositoryID, target.application, target.path]

def AWXTarget.strings (target : AWXTarget) : List GoString :=
  [target.inventorySnapshotSHA256, target.jobTemplateSnapshotSHA256]

def TargetRef.strings (target : TargetRef) : List GoString :=
  [target.serviceID, target.environmentID] ++ target.kubernetesDeployment.elim [] (·.strings) ++
    target.gitOpsApplication.elim [] (·.strings) ++ target.awxHosts.elim [] (·.strings)

def KubernetesRolloutRestartParameters.strings (parameters : KubernetesRolloutRestartParameters) : List GoString :=
  [parameters.reason]

def GitOpsRevertParameters.strings (parameters : GitOpsRevertParameters) : List GoString :=
  [parameters.provider, parameters.baseCommit, parameters.headCommit, parameters.revertCommit,
    parameters.diffSHA256, parameters.treeSHA256]

def AWXServiceRestartParameters.strings (parameters : AWXServiceRestartParameters) : List GoString :=
  [parameters.serviceName, parameters.osFamily]

-- The parameters of the scale action hold numbers and flags only.
def ActionParameters.strings (parameters : ActionParameters) : List GoString :=
  parameters.kubernetesRolloutRestart.elim [] (·.strings) ++ parameters.gitOpsRevert.elim [] (·.strings) ++
    parameters.awxServiceRestart.elim [] (·.strings)

def GitOpsObservedState.strings (state : GitOpsObservedState) : List GoString :=
  [state.liveRevision, state.desiredRevision, state.headTreeSHA256, state.syncStatus, state.healthStatus]

def AWXServiceObservedState.strings (state : AWXServiceObservedState) : List GoString :=
  [state.serviceState, state.inventorySnapshotSHA256, state.serviceStateSnapshotSHA256]

def ObservedState.strings (state : ObservedState) : List GoString :=
  state.gitOpsApplication.elim [] (·.strings) ++ state.awxService.elim [] (·.strings)

def Preconditions.strings (preconditions : Preconditions) : List GoString :=
  [preconditions.mappingResult, preconditions.expectedResourceVersion, preconditions.expectedGitHeadCommit]

def CompensationPlan.strings (plan : CompensationPlan) : List GoString := [plan.mode, plan.summary]

def RiskAssessment.strings (risk : RiskAssessment) : List GoString := risk.level :: risk.reasonCodes

def CredentialScope.strings (scope : CredentialScope) : List GoString :=
  [scope.connectorID, scope.permission, scope.resource]

def Signature.strings (signature : Signature) : List GoString :=
  [signature.algorithm, signature.keyID, signature.value]

def ActionType.isKubernetes : ActionType → Bool
  | .kubernetesRolloutRestart | .kubernetesScale => true
  | _ => false

namespace Envelope

def strings (envelope : Envelope) : List GoString :=
  [envelope.schemaVersion, envelope.actionID, envelope.workspaceID, envelope.incidentID, envelope.requestedBy,
    envelope.actionType.text] ++ envelope.target.strings ++ envelope.parameters.strings ++
    envelope.observedState.strings ++ envelope.preconditions.strings ++ [envelope.verification.mode] ++
    envelope.compensation.strings ++ envelope.risk.strings ++ [envelope.policyVersion, envelope.planHash] ++
    envelope.credentialScope.strings ++ [envelope.idempotencyKey, envelope.traceID] ++ envelope.signature.strings

def stringBytes (envelope : Envelope) : Nat := (envelope.strings.map List.length).sum

structure OwnFieldsOnly (envelope : Envelope) : Prop where
  kubernetesTarget : envelope.actionType.isKubernetes = false → envelope.target.kubernetesDeployment = none
  gitOpsTarget : envelope.actionType ≠ .gitOpsRevert → envelope.target.gitOpsApplication = none
  awxTarget : envelope.actionType ≠ .awxServiceRestart → envelope.target.awxHosts = none
  restartParameters : envelope.actionType ≠ .kubernetesRolloutRestart →
    envelope.parameters.kubernetesRolloutRestart = none
  scaleParameters : envelope.actionType ≠ .kubernetesScale → envelope.parameters.kubernetesScale = none
  gitOpsParameters : envelope.actionType ≠ .gitOpsRevert → envelope.parameters.gitOpsRevert = none
  awxParameters : envelope.actionType ≠ .awxServiceRestart → envelope.parameters.awxServiceRestart = none
  kubernetesState : envelope.actionType.isKubernetes = false → envelope.observedState.kubernetesDeployment = none
  gitOpsState : envelope.actionType ≠ .gitOpsRevert → envelope.observedState.gitOpsApplication = none
  awxState : envelope.actionType ≠ .awxServiceRestart → envelope.observedState.awxService = none
  expectedResourceVersion : envelope.actionType.isKubernetes = false →
    envelope.preconditions.expectedResourceVersion = []
  expectedGitHeadCommit : envelope.actionType ≠ .gitOpsRevert → envelope.preconditions.expectedGitHeadCommit = []

structure Validated (visit : List TokenField) (envelope : Envelope) : Prop where
  schemaVersion : envelope.schemaVersion = schemaVersionV1
  tokens : ∀ field ∈ visit, validToken (envelope.token field) = true
  traceID : matchesHex 32 envelope.traceID = true
  times : validateTimes envelope.notBefore envelope.expiresAt = .ok ()
  mapping : envelope.preconditions.mappingResult = ascii "EXACT" ∧ envelope.preconditions.requireWhitelist = true
  scope : envelope.credentialScope.validate (timeSub envelope.expiresAt.instant envelope.notBefore.instant) = .ok ()
  verification : envelope.verification.validate = .ok ()
  compensation : envelope.compensation.validate = .ok ()
  risk : envelope.risk.validate = .ok ()
  planHash : envelope.planHash = [] ∨ matchesHex 64 envelope.planHash = true
  signature : envelope.signature.validateOptional = .ok ()
  oneTarget : countNonNil [envelope.target.kubernetesDeployment.isSome, envelope.target.gitOpsApplication.isSome,
    envelope.target.awxHosts.isSome] = 1
  targetTokens : validToken envelope.target.serviceID = true ∧ validToken envelope.target.environmentID = true
  oneParameterSet : countNonNil [envelope.parameters.kubernetesRolloutRestart.isSome,
    envelope.parameters.kubernetesScale.isSome, envelope.parameters.gitOpsRevert.isSome,
    envelope.parameters.awxServiceRestart.isSome] = 1
  oneState : countNonNil [envelope.observedState.kubernetesDeployment.isSome,
    envelope.observedState.gitOpsApplication.isSome, envelope.observedState.awxService.isSome] = 1
  typed : envelope.validateTyped = .ok ()

theorem validate_ok {visit : List TokenField} {envelope : Envelope} :
    envelope.validate visit = .ok () ↔ Validated visit envelope := by
  simp only [validate, bind_eq_ok, require_eq_ok, validateTokens_ok]
  constructor
  · rintro ⟨_, h1, _, h2, _, h3, _, h4, _, h5, _, h6, _, h7, _, h8, _, h9, _, h10, _, h11, _, h12, _, h13, _, h14,
      _, h15, h16⟩
    exact ⟨h1, h2, h3, h4, h5, h6, h7, h8, h9, h10, h11, h12, h13, h14, h15, h16⟩
  · intro h
    exact ⟨(), h.schemaVersion, (), h.tokens, (), h.traceID, (), h.times, (), h.mapping, (), h.scope, (),
      h.verification, (), h.compensation, (), h.risk, (), h.planHash, (), h.signature, (), h.oneTarget, (),
      h.targetTokens, (), h.oneParameterSet, (), h.oneState, h.typed⟩

inductive Typed (envelope : Envelope) : Prop
  | restart (target : KubernetesDeploymentTarget) (parameters : KubernetesRolloutRestartParameters)
      (state : KubernetesDeploymentObservedState) (actionType : envelope.actionType = .kubernetesRolloutRestart)
      (hTarget : envelope.target.kubernetesDeployment = some target)
      (hParameters : envelope.parameters.kubernetesRolloutRestart = some parameters)
      (hState : envelope.observedState.kubernetesDeployment = some state)
      (checked : envelope.validateKubernetesRestart target parameters state = .ok ())
  | scale (target : KubernetesDeploymentTarget) (parameters : KubernetesScaleParameters)
      (state : KubernetesDeploymentObservedState) (actionType : envelope.actionType = .kubernetesScale)
      (hTarget : envelope.target.kubernetesDeployment = some target)
      (hParameters : envelope.parameters.kubernetesScale = some parameters)
      (hState : envelope.observedState.kubernetesDeployment = some state)
      (checked : envelope.validateKubernetesScale target parameters state = .ok ())
  | revert (target : GitOpsTarget) (parameters : GitOpsRevertParameters) (state : GitOpsObservedState)
      (actionType : envelope.actionType = .gitOpsRevert)
      (hTarget : envelope.target.gitOpsApplication = some target)
      (hParameters : envelope.parameters.gitOpsRevert = some parameters)
      (hState : envelope.observedState.gitOpsApplication = some state)
      (checked : envelope.validateGitOpsRevert target parameters state = .ok ())
  | awx (target : AWXTarget) (parameters : AWXServiceRestartParameters) (state : AWXServiceObservedState)
      (actionType : envelope.actionType = .awxServiceRestart)
      (hTarget : envelope.target.awxHosts = some target)
      (hParameters : envelope.parameters.awxServiceRestart = some parameters)
      (hState : envelope.observedState.awxService = some state)
      (checked : envelope.validateAWXRestart target parameters state = .ok ())

theorem validateTyped_ok {envelope : Envelope} (h : envelope.validateTyped = .ok ()) : Typed envelope := by
  unfold validateTyped at h
  split at h
  · split at h
    · exact .restart _ _ _ ‹_› ‹_› ‹_› ‹_› h
    · cases h
  · split at h
    · exact .scale _ _ _ ‹_› ‹_› ‹_› ‹_› h
    · cases h
  · split at h
    · exact .revert _ _ _ ‹_› ‹_› ‹_› ‹_› h
    · cases h
  · split at h
    · exact .awx _ _ _ ‹_› ‹_› ‹_› ‹_› h
    · cases h
  · cases h

end Envelope

/-! ## Lengths of accepted texts -/

/-- The longest text that a check admits is the summary of the compensation plan. -/
def maxTextBytes : Nat := 1000

def Short (values : List GoString) : Prop := ∀ value ∈ values, value.length ≤ maxTextBytes

instance (values : List GoString) : Decidable (Short values) :=
  inferInstanceAs (Decidable (∀ value ∈ values, value.length ≤ maxTextBytes))

@[simp] theorem short_nil : Short [] := by simp [Short]

variable {value : GoString}

@[simp] theorem short_cons {values : List GoString} :
    Short (value :: values) ↔ value.length ≤ maxTextBytes ∧ Short values := by
  simp [Short]

@[simp] theorem short_append {left right : List GoString} : Short (left ++ right) ↔ Short left ∧ Short right := by
  simp [Short, or_imp, forall_and]

theorem Short.bytes_le {values : List GoString} (h : Short values) :
    (values.map List.length).sum ≤ values.length * maxTextBytes := by
  induction values with
  | nil => simp
  | cons _ _ ih =>
    obtain ⟨_, hValues⟩ := short_cons.mp h
    have hRest := ih hValues
    simp only [map_cons, sum_cons, length_cons, Nat.add_mul, Nat.one_mul]
    omega

theorem validToken_length (h : validToken value) : value.length ≤ maxTextBytes := by
  have hLength : value.length ≤ 256 := by
    unfold validToken at h
    simp only [Bool.and_eq_true, decide_eq_true_eq] at h
    exact h.1
  unfold maxTextBytes
  omega

theorem matchesHex_length {size : Nat} (h : matchesHex size value) (hSize : size ≤ maxTextBytes) :
    value.length ≤ maxTextBytes := by
  have hLength : value.length = size := by
    unfold matchesHex at h
    simp only [Bool.and_eq_true, beq_iff_eq] at h
    exact h.1
  omega

theorem matchesGitOID_length (h : matchesGitOID value) : value.length ≤ maxTextBytes := by
  rcases Bool.or_eq_true_iff.mp h with hShort | hLong
  · exact matchesHex_length hShort (by decide)
  · exact matchesHex_length hLong (by decide)

theorem oneOf_length {allowed : List String} (h : oneOf value allowed) (hAllowed : Short (allowed.map ascii)) :
    value.length ≤ maxTextBytes :=
  hAllowed value (contains_iff_mem.mp h)

theorem matchesServiceName_length (h : matchesServiceName value) : value.length ≤ maxTextBytes := by
  have hLength : value.length ≤ 128 := of_decide_eq_true (Bool.and_eq_true_iff.mp h).1
  unfold maxTextBytes
  omega

theorem validRepositoryPath_length (h : validRepositoryPath value) : value.length ≤ maxTextBytes := by
  simp only [validRepositoryPath, Bool.and_eq_true, Bool.not_eq_true', Bool.or_eq_false_iff,
    decide_eq_false_iff_not] at h
  have hLength : value.length ≤ 512 := by omega
  unfold maxTextBytes
  omega

theorem KubernetesDeploymentTarget.validate_short {target : KubernetesDeploymentTarget} (h : target.validate = .ok ()) :
    Short target.strings := by
  simp only [KubernetesDeploymentTarget.validate, bind_eq_ok, require_eq_ok] at h
  obtain ⟨_, ⟨hCluster, hUID, hVersion⟩, _, _, _⟩ := h
  have hNamespaceShort : target.nspace.length ≤ maxTextBytes := by unfold maxTextBytes; omega
  have hNameShort : target.name.length ≤ maxTextBytes := by unfold maxTextBytes; omega
  simp [KubernetesDeploymentTarget.strings, validToken_length hCluster, validToken_length hUID,
    validToken_length hVersion, hNamespaceShort, hNameShort]

theorem CompensationPlan.validate_short {plan : CompensationPlan} (h : plan.validate = .ok ()) :
    Short plan.strings := by
  simp only [CompensationPlan.validate, require_eq_ok] at h
  obtain ⟨hMode, _, hSummary⟩ := h
  simp [CompensationPlan.strings, oneOf_length hMode (by decide), show plan.summary.length ≤ maxTextBytes from hSummary]

theorem RiskAssessment.validate_short {risk : RiskAssessment} (h : risk.validate = .ok ()) :
    Short risk.strings ∧ risk.strings.length ≤ 17 := by
  simp only [RiskAssessment.validate, bind_eq_ok, require_eq_ok] at h
  obtain ⟨_, ⟨hLevel, _, _⟩, _, _, hCodes, _⟩ := h
  constructor
  · refine short_cons.mpr ⟨oneOf_length hLevel (by decide), ?_⟩
    intro reason hReason
    exact validToken_length (hCodes reason hReason)
  · simp only [RiskAssessment.strings, length_cons]
    omega

theorem CredentialScope.validate_short {scope : CredentialScope} {validity : Int}
    (h : scope.validate validity = .ok ()) : Short scope.strings := by
  simp only [CredentialScope.validate, bind_eq_ok, require_eq_ok] at h
  obtain ⟨_, ⟨hConnector, hPermission, hResource⟩, _⟩ := h
  simp [CredentialScope.strings, validToken_length hConnector, validToken_length hPermission,
    validToken_length hResource]

theorem Signature.validateOptional_short {signature : Signature} (h : signature.validateOptional = .ok ()) :
    Short signature.strings := by
  unfold Signature.validateOptional at h
  split at h
  · rename_i hEmpty
    rw [hEmpty]
    decide
  · simp only [bind_eq_ok, require_eq_ok] at h
    obtain ⟨_, ⟨hAlgorithm, hKey, _, hValue⟩, _⟩ := h
    have hValueShort : signature.value.length ≤ maxTextBytes := by unfold maxTextBytes; omega
    simp only [Signature.strings, hAlgorithm, short_cons, short_nil]
    exact ⟨by decide, validToken_length hKey, hValueShort, trivial⟩

namespace Envelope

variable {envelope : Envelope}

variable {α β γ δ : Type} {a : Option α} {b : Option β} {c : Option γ} {d : Option δ}

theorem one_of_three (h : countNonNil [a.isSome, b.isSome, c.isSome] = 1) :
    (a ≠ none → b = none ∧ c = none) ∧ (b ≠ none → a = none ∧ c = none) ∧ (c ≠ none → a = none ∧ b = none) := by
  cases a <;> cases b <;> cases c <;> simp [countNonNil] at h ⊢

theorem one_of_four (h : countNonNil [a.isSome, b.isSome, c.isSome, d.isSome] = 1) :
    (a ≠ none → b = none ∧ c = none ∧ d = none) ∧ (b ≠ none → a = none ∧ c = none ∧ d = none) ∧
      (c ≠ none → a = none ∧ b = none ∧ d = none) ∧ (d ≠ none → a = none ∧ b = none ∧ c = none) := by
  cases a <;> cases b <;> cases c <;> cases d <;> simp [countNonNil] at h ⊢

variable {visit : List TokenField}

theorem Validated.ownFieldsOnly (h : Validated visit envelope)
    (hScale : envelope.actionType = .kubernetesScale → envelope.preconditions.expectedGitHeadCommit = []) :
    envelope.OwnFieldsOnly := by
  have hTargets := one_of_three h.oneTarget
  have hParameterSets := one_of_four h.oneParameterSet
  have hStates := one_of_three h.oneState
  cases validateTyped_ok h.typed with
  | restart _ _ _ hType hTarget hParameters hState hChecked =>
    simp only [validateKubernetesRestart, bind_eq_ok, require_eq_ok] at hChecked
    obtain ⟨_, _, _, _, _, _, _, _, _, ⟨hHead, _⟩, _⟩ := hChecked
    have hTargets := hTargets.1 (by simp [hTarget])
    have hParameterSets := hParameterSets.1 (by simp [hParameters])
    have hStates := hStates.1 (by simp [hState])
    constructor <;> simp [hType, ActionType.isKubernetes, hTargets, hParameterSets, hStates, hHead]
  | scale _ _ _ hType hTarget hParameters hState =>
    have hTargets := hTargets.1 (by simp [hTarget])
    have hParameterSets := hParameterSets.2.1 (by simp [hParameters])
    have hStates := hStates.1 (by simp [hState])
    constructor <;> simp [hType, ActionType.isKubernetes, hTargets, hParameterSets, hStates, hScale]
  | revert _ _ _ hType hTarget hParameters hState hChecked =>
    simp only [validateGitOpsRevert, bind_eq_ok, require_eq_ok] at hChecked
    obtain ⟨_, _, _, _, _, _, _, _, _, ⟨_, _, hVersion⟩, _⟩ := hChecked
    have hTargets := hTargets.2.1 (by simp [hTarget])
    have hParameterSets := hParameterSets.2.2.1 (by simp [hParameters])
    have hStates := hStates.2.1 (by simp [hState])
    constructor <;> simp [hType, hTargets, hParameterSets, hStates, hVersion]
  | awx _ _ _ hType hTarget hParameters hState hChecked =>
    simp only [validateAWXRestart, bind_eq_ok, require_eq_ok] at hChecked
    obtain ⟨_, _, _, _, _, _, _, ⟨hVersion, hHead, _⟩, _⟩ := hChecked
    have hTargets := hTargets.2.2 (by simp [hTarget])
    have hParameterSets := hParameterSets.2.2.2 (by simp [hParameters])
    have hStates := hStates.2.2 (by simp [hState])
    constructor <;> simp [hType, hTargets, hParameterSets, hStates, hVersion, hHead]

def typedStrings (envelope : Envelope) : List GoString :=
  [envelope.actionType.text] ++ envelope.target.kubernetesDeployment.elim [] (·.strings) ++
    envelope.target.gitOpsApplication.elim [] (·.strings) ++ envelope.target.awxHosts.elim [] (·.strings) ++
    envelope.parameters.strings ++ envelope.observedState.strings ++
    [envelope.preconditions.expectedResourceVersion, envelope.preconditions.expectedGitHeadCommit]

theorem Typed.short (h : Typed envelope) (hOwn : envelope.OwnFieldsOnly) : Short envelope.typedStrings := by
  cases h with
  | restart target parameters _ hType hTarget hParameters _ hChecked =>
    simp only [validateKubernetesRestart, bind_eq_ok, require_eq_ok] at hChecked
    obtain ⟨_, hValid, _, ⟨_, _⟩, _, _, _, hVersion, _⟩ := hChecked
    have hReasonShort : parameters.reason.length ≤ maxTextBytes := by unfold maxTextBytes; omega
    have hTargetShort := KubernetesDeploymentTarget.validate_short hValid
    have hVersionShort : target.resourceVersion.length ≤ maxTextBytes :=
      hTargetShort _ (by simp [KubernetesDeploymentTarget.strings])
    simp [typedStrings, ActionParameters.strings, ObservedState.strings, hType, hTarget, hParameters, hVersion,
      hOwn.gitOpsTarget, hOwn.awxTarget, hOwn.gitOpsParameters, hOwn.awxParameters, hOwn.gitOpsState, hOwn.awxState,
      hOwn.expectedGitHeadCommit, KubernetesRolloutRestartParameters.strings, hReasonShort, hTargetShort, hVersionShort]
    decide
  | scale target _ _ hType hTarget _ _ hChecked =>
    simp only [validateKubernetesScale, bind_eq_ok, require_eq_ok] at hChecked
    obtain ⟨_, hValid, _, _, _, _, _, _, _, ⟨hVersion, _⟩, _⟩ := hChecked
    have hTargetShort := KubernetesDeploymentTarget.validate_short hValid
    have hVersionShort : target.resourceVersion.length ≤ maxTextBytes :=
      hTargetShort _ (by simp [KubernetesDeploymentTarget.strings])
    simp [typedStrings, ActionParameters.strings, ObservedState.strings, hType, hTarget, hVersion, hOwn.gitOpsTarget,
      hOwn.awxTarget, hOwn.restartParameters, hOwn.gitOpsParameters, hOwn.awxParameters, hOwn.gitOpsState,
      hOwn.awxState, hOwn.expectedGitHeadCommit, hTargetShort, hVersionShort]
    decide
  | revert _ parameters _ hType hTarget hParameters hState hChecked =>
    simp only [validateGitOpsRevert, bind_eq_ok, require_eq_ok] at hChecked
    obtain ⟨_, ⟨hRepository, hApplication, hPath⟩, _, hProvider, _, ⟨hBase, hHead, hRevert, hDiff, hTree⟩, _,
      ⟨hLive, hDesired, hHeadTree, hSync, hHealth⟩, _, ⟨_, hExpected, _⟩, _⟩ := hChecked
    have hPathShort := validRepositoryPath_length hPath
    have hProviderShort : parameters.provider.length ≤ maxTextBytes := by
      rcases hProvider with hProvider | hProvider <;> rw [hProvider] <;> decide
    have hHeadShort := matchesGitOID_length hHead
    simp [typedStrings, ActionParameters.strings, ObservedState.strings, hType, hTarget, hParameters, hState, ← hExpected,
      hOwn.kubernetesTarget, hOwn.awxTarget, hOwn.restartParameters, hOwn.awxParameters, hOwn.awxState,
      hOwn.expectedResourceVersion, ActionType.isKubernetes, GitOpsTarget.strings, GitOpsRevertParameters.strings,
      GitOpsObservedState.strings, validToken_length hRepository, validToken_length hApplication, hPathShort,
      hProviderShort, matchesGitOID_length hBase, hHeadShort, matchesGitOID_length hRevert,
      matchesHex_length hDiff (by decide), matchesHex_length hTree (by decide), matchesGitOID_length hLive,
      matchesGitOID_length hDesired, matchesHex_length hHeadTree (by decide), oneOf_length hSync (by decide),
      oneOf_length hHealth (by decide)]
    decide
  | awx _ _ _ hType hTarget hParameters hState hChecked =>
    simp only [validateAWXRestart, bind_eq_ok, require_eq_ok] at hChecked
    obtain ⟨_, ⟨_, _, _, _, hInventory, hTemplate⟩, _, ⟨_, hName, hFamily, _⟩, _,
      ⟨_, hService, hSame, hSnapshot⟩, _⟩ := hChecked
    have hNameShort := matchesServiceName_length hName
    have hInventoryShort := matchesHex_length hInventory (by decide)
    simp [typedStrings, ActionParameters.strings, ObservedState.strings, hType, hTarget, hParameters, hState, hSame,
      hOwn.kubernetesTarget, hOwn.gitOpsTarget, hOwn.restartParameters, hOwn.gitOpsParameters, hOwn.gitOpsState,
      hOwn.expectedResourceVersion, hOwn.expectedGitHeadCommit, ActionType.isKubernetes, AWXTarget.strings,
      AWXServiceRestartParameters.strings, AWXServiceObservedState.strings, hInventoryShort,
      matchesHex_length hTemplate (by decide), hNameShort, oneOf_length hFamily (by decide),
      oneOf_length hService (by decide), matchesHex_length hSnapshot (by decide)]
    decide

theorem Validated.short (hVisit : ∀ field, field ∈ visit) (h : Validated visit envelope)
    (hOwn : envelope.OwnFieldsOnly) : Short envelope.strings := by
  have hTyped := (validateTyped_ok h.typed).short hOwn
  have hToken (field : TokenField) := validToken_length (h.tokens field (hVisit field))
  have hMode : envelope.verification.mode.length ≤ maxTextBytes := by
    have hValid := h.verification
    simp only [VerificationPlan.validate, require_eq_ok] at hValid
    exact oneOf_length hValid.1 (by decide)
  have hPlanHash : envelope.planHash.length ≤ maxTextBytes := by
    rcases h.planHash with hEmpty | hHash
    · rw [hEmpty]
      exact Nat.zero_le _
    · exact matchesHex_length hHash (by decide)
  have hSchema : envelope.schemaVersion.length ≤ maxTextBytes := by rw [h.schemaVersion]; decide
  have hMapping : envelope.preconditions.mappingResult.length ≤ maxTextBytes := by rw [h.mapping.1]; decide
  have hActionID : envelope.actionID.length ≤ maxTextBytes := hToken .actionID
  have hWorkspaceID : envelope.workspaceID.length ≤ maxTextBytes := hToken .workspaceID
  have hIncidentID : envelope.incidentID.length ≤ maxTextBytes := hToken .incidentID
  have hRequestedBy : envelope.requestedBy.length ≤ maxTextBytes := hToken .requestedBy
  have hPolicyVersion : envelope.policyVersion.length ≤ maxTextBytes := hToken .policyVersion
  have hIdempotencyKey : envelope.idempotencyKey.length ≤ maxTextBytes := hToken .idempotencyKey
  simp only [typedStrings, short_append, short_cons] at hTyped
  obtain ⟨⟨⟨⟨⟨⟨⟨hType, _⟩, hKubernetes⟩, hGitOps⟩, hAWX⟩, hParameters⟩, hState⟩, hVersion, hHead, _⟩ := hTyped
  simp only [strings, TargetRef.strings, Preconditions.strings, short_append, short_cons, short_nil, and_true]
  simp only [hSchema, hActionID, hWorkspaceID, hIncidentID, hRequestedBy, hType,
    validToken_length h.targetTokens.1, validToken_length h.targetTokens.2, hKubernetes, hGitOps, hAWX, hParameters,
    hState, hMapping, hVersion, hHead, hMode, CompensationPlan.validate_short h.compensation,
    (RiskAssessment.validate_short h.risk).1, hPolicyVersion, hPlanHash,
    CredentialScope.validate_short h.scope, hIdempotencyKey, matchesHex_length h.traceID (by decide),
    Signature.validateOptional_short h.signature, and_self]

theorem length_elim_le {α : Type} (part : Option α) (strings : α → List GoString) (n : Nat)
    (h : ∀ value, (strings value).length = n) : (part.elim [] strings).length ≤ n := by
  cases part with
  | none => exact Nat.zero_le _
  | some value => exact (h value).le

def maxStrings : Nat := 68

theorem Validated.strings_length (h : Validated visit envelope) : envelope.strings.length ≤ maxStrings := by
  have hRisk := (RiskAssessment.validate_short h.risk).2
  have hKubernetes := length_elim_le envelope.target.kubernetesDeployment (·.strings) 5 fun _ => rfl
  have hGitOps := length_elim_le envelope.target.gitOpsApplication (·.strings) 3 fun _ => rfl
  have hAWX := length_elim_le envelope.target.awxHosts (·.strings) 2 fun _ => rfl
  have hRestart := length_elim_le envelope.parameters.kubernetesRolloutRestart (·.strings) 1 fun _ => rfl
  have hRevert := length_elim_le envelope.parameters.gitOpsRevert (·.strings) 6 fun _ => rfl
  have hService := length_elim_le envelope.parameters.awxServiceRestart (·.strings) 2 fun _ => rfl
  have hGitOpsState := length_elim_le envelope.observedState.gitOpsApplication (·.strings) 5 fun _ => rfl
  have hAWXState := length_elim_le envelope.observedState.awxService (·.strings) 3 fun _ => rfl
  simp only [strings, TargetRef.strings, ActionParameters.strings, ObservedState.strings, Preconditions.strings,
    CompensationPlan.strings, CredentialScope.strings, Signature.strings, length_append, length_cons,
    length_nil, maxStrings]
  omega

def maxStringBytes : Nat := maxStrings * maxTextBytes

/-- Validation bounds the texts of an envelope by one number and leaves the parts of other action types empty,
for every envelope but a scale action that carries a Git head. -/
theorem validate_bounds_envelope (visit : List TokenField) (hVisit : ∀ field, field ∈ visit) (envelope : Envelope)
    (hValid : envelope.validate visit = .ok ()) :
    envelope.stringBytes ≤ maxStringBytes ∧ envelope.OwnFieldsOnly ↔
      (envelope.actionType = .kubernetesScale → envelope.preconditions.expectedGitHeadCommit = []) := by
  constructor
  · rintro ⟨_, hOwn⟩ hScale
    apply hOwn.expectedGitHeadCommit
    rw [hScale]
    exact nofun
  intro hScale
  have hValidated := validate_ok.mp hValid
  have hOwn := hValidated.ownFieldsOnly hScale
  refine ⟨?_, hOwn⟩
  calc envelope.stringBytes ≤ envelope.strings.length * maxTextBytes := (hValidated.short hVisit hOwn).bytes_le
    _ ≤ maxStringBytes := Nat.mul_le_mul_right maxTextBytes hValidated.strings_length

/-- The scale of one deployment; `commit` stands in the precondition of the GitOps action. -/
def scaleEnvelope (commit : GoString) : Envelope where
  schemaVersion := schemaVersionV1
  actionID := ascii "action-1"
  workspaceID := ascii "workspace-1"
  incidentID := ascii "incident-1"
  requestedBy := ascii "operator-1"
  actionType := .kubernetesScale
  target := {
    serviceID := ascii "payments"
    environmentID := ascii "staging"
    kubernetesDeployment := some {
      clusterID := ascii "cluster-1"
      nspace := ascii "payments"
      name := ascii "api"
      uid := ascii "uid-1"
      resourceVersion := ascii "42" }
    gitOpsApplication := none
    awxHosts := none }
  parameters := {
    kubernetesRolloutRestart := none
    kubernetesScale := some {
      replicas := 4, minimum := 2, maximum := 6, hpaAbsent := true, pdbChecked := true, quotaChecked := true }
    gitOpsRevert := none
    awxServiceRestart := none }
  observedState := {
    kubernetesDeployment := some { generation := 7, replicas := 3, availableReplicas := 3, updatedReplicas := 3 }
    gitOpsApplication := none
    awxService := none }
  preconditions := {
    mappingResult := ascii "EXACT"
    expectedResourceVersion := ascii "42"
    expectedGitHeadCommit := commit
    requireWhitelist := true }
  verification := { mode := ascii "KUBERNETES_ROLLOUT", timeoutSeconds := 300 }
  compensation := { mode := ascii "MANUAL_ONLY", summary := ascii "scale back by hand" }
  risk := { level := ascii "LOW", reasonCodes := [ascii "STATELESS"] }
  policyVersion := ascii "policy-1"
  planHash := []
  credentialScope := {
    connectorID := ascii "vault"
    permission := ascii "PATCH_DEPLOYMENT_SCALE"
    resource := ascii "cluster-1/payments/deployment/api"
    ttlSeconds := 300 }
  idempotencyKey := ascii "scale-1"
  notBefore := { instant := unixEpoch + 1783000000 * second, offset := 0 }
  expiresAt := { instant := unixEpoch + 1783001200 * second, offset := 0 }
  traceID := List.replicate 32 98
  signature := {}

theorem scale_envelope_bounded : (scaleEnvelope []).stringBytes ≤ maxStringBytes ∧ (scaleEnvelope []).OwnFieldsOnly :=
  (validate_bounds_envelope TokenField.all (by intro field; cases field <;> decide) (scaleEnvelope [])
    (by decide +kernel)).mpr fun _ => rfl

theorem validate_scaleEnvelope (visit : List TokenField) (commit : GoString) :
    (scaleEnvelope commit).validate visit = (scaleEnvelope []).validate visit := by
  have hTokens : (scaleEnvelope commit).validateTokens visit = (scaleEnvelope []).validateTokens visit := by
    induction visit with
    | nil => rfl
    | cons field _ ih =>
      simp only [validateTokens, ih]
      cases field <;> rfl
  unfold validate
  rw [hTokens]
  rfl

/-- A Git head of any length passes, so accepted envelopes have no common bound. -/
theorem scaleEnvelope_exceeds (bound : Nat) :
    (scaleEnvelope (List.replicate (bound + 1) 97)).validate TokenField.all = .ok () ∧
      bound < (scaleEnvelope (List.replicate (bound + 1) 97)).stringBytes ∧
      (scaleEnvelope (List.replicate (bound + 1) 97)).actionType ≠ .gitOpsRevert ∧
      (scaleEnvelope (List.replicate (bound + 1) 97)).preconditions.expectedGitHeadCommit ≠ [] := by
  refine ⟨?_, ?_, by simp [scaleEnvelope], by simp [scaleEnvelope]⟩
  · rw [validate_scaleEnvelope]
    decide +kernel
  · have hMem : (List.replicate (bound + 1) (97 : UInt8)) ∈ (scaleEnvelope (List.replicate (bound + 1) 97)).strings := by
      simp [strings, Preconditions.strings, scaleEnvelope]
    have hLength := le_sum_of_mem (mem_map_of_mem (f := List.length) hMem)
    rw [length_replicate] at hLength
    exact hLength

theorem scale_envelope_unbounded :
    (scaleEnvelope (List.replicate 1048577 97)).validate TokenField.all = .ok () ∧
      1048576 < (scaleEnvelope (List.replicate 1048577 97)).stringBytes ∧ maxStringBytes < 1048576 ∧
      (scaleEnvelope (List.replicate 1048577 97)).actionType ≠ .gitOpsRevert ∧
      (scaleEnvelope (List.replicate 1048577 97)).preconditions.expectedGitHeadCommit ≠ [] := by
  obtain ⟨hValid, hBytes, hFields⟩ := scaleEnvelope_exceeds 1048576
  exact ⟨hValid, hBytes, by decide, hFields⟩

end Envelope

end AiopsSystem.Action
