import AiopsSystem.Action.Envelope

/-! # The JSON document of an action envelope

Field names and order are those of the struct tags. The only part of an
envelope that cannot be marshalled is a time whose year has no four digits.
-/

namespace AiopsSystem.Action

open Go

def KubernetesDeploymentTarget.document (target : KubernetesDeploymentTarget) : Json :=
  .object [("cluster_id", .text target.clusterID), ("namespace", .text target.nspace),
    ("name", .text target.name), ("uid", .text target.uid), ("resource_version", .text target.resourceVersion)]

def GitOpsTarget.document (target : GitOpsTarget) : Json :=
  .object [("repository_id", .text target.repositoryID), ("application", .text target.application),
    ("path", .text target.path)]

def AWXTarget.document (target : AWXTarget) : Json :=
  .object [("inventory_id", .int target.inventoryID), ("host_ids", .array (target.hostIDs.map .int)),
    ("inventory_snapshot_sha256", .text target.inventorySnapshotSHA256),
    ("job_template_snapshot_sha256", .text target.jobTemplateSnapshotSHA256)]

def TargetRef.document (target : TargetRef) : Json :=
  .object ([("service_id", .text target.serviceID), ("environment_id", .text target.environmentID)] ++
    Json.optional "kubernetes_deployment" (target.kubernetesDeployment.map (·.document)) ++
    Json.optional "gitops_application" (target.gitOpsApplication.map (·.document)) ++
    Json.optional "awx_hosts" (target.awxHosts.map (·.document)))

def KubernetesRolloutRestartParameters.document (parameters : KubernetesRolloutRestartParameters) : Json :=
  .object [("reason", .text parameters.reason)]

def KubernetesScaleParameters.document (parameters : KubernetesScaleParameters) : Json :=
  .object [("replicas", .int parameters.replicas), ("minimum", .int parameters.minimum),
    ("maximum", .int parameters.maximum), ("hpa_absent", .bool parameters.hpaAbsent),
    ("pdb_checked", .bool parameters.pdbChecked), ("quota_checked", .bool parameters.quotaChecked)]

def GitOpsRevertParameters.document (parameters : GitOpsRevertParameters) : Json :=
  .object [("provider", .text parameters.provider), ("base_commit", .text parameters.baseCommit),
    ("head_commit", .text parameters.headCommit), ("revert_commit", .text parameters.revertCommit),
    ("diff_sha256", .text parameters.diffSHA256), ("tree_sha256", .text parameters.treeSHA256)]

def AWXServiceRestartParameters.document (parameters : AWXServiceRestartParameters) : Json :=
  .object [("job_template_id", .int parameters.jobTemplateID), ("service_name", .text parameters.serviceName),
    ("os_family", .text parameters.osFamily), ("serial", .int parameters.serial)]

def ActionParameters.document (parameters : ActionParameters) : Json :=
  .object (Json.optional "kubernetes_rollout_restart" (parameters.kubernetesRolloutRestart.map (·.document)) ++
    Json.optional "kubernetes_scale" (parameters.kubernetesScale.map (·.document)) ++
    Json.optional "gitops_revert" (parameters.gitOpsRevert.map (·.document)) ++
    Json.optional "awx_service_restart" (parameters.awxServiceRestart.map (·.document)))

def KubernetesDeploymentObservedState.document (state : KubernetesDeploymentObservedState) : Json :=
  .object [("generation", .int state.generation), ("replicas", .int state.replicas),
    ("available_replicas", .int state.availableReplicas), ("updated_replicas", .int state.updatedReplicas)]

def GitOpsObservedState.document (state : GitOpsObservedState) : Json :=
  .object [("live_revision", .text state.liveRevision), ("desired_revision", .text state.desiredRevision),
    ("head_tree_sha256", .text state.headTreeSHA256), ("sync_status", .text state.syncStatus),
    ("health_status", .text state.healthStatus)]

def AWXServiceObservedState.document (state : AWXServiceObservedState) : Json :=
  .object [("host_count", .int state.hostCount), ("service_state", .text state.serviceState),
    ("inventory_snapshot_sha256", .text state.inventorySnapshotSHA256),
    ("service_state_snapshot_sha256", .text state.serviceStateSnapshotSHA256)]

def ObservedState.document (state : ObservedState) : Json :=
  .object (Json.optional "kubernetes_deployment" (state.kubernetesDeployment.map (·.document)) ++
    Json.optional "gitops_application" (state.gitOpsApplication.map (·.document)) ++
    Json.optional "awx_service" (state.awxService.map (·.document)))

def Preconditions.document (preconditions : Preconditions) : Json :=
  .object [("mapping_result", .text preconditions.mappingResult),
    ("expected_resource_version", .text preconditions.expectedResourceVersion),
    ("expected_git_head_commit", .text preconditions.expectedGitHeadCommit),
    ("require_whitelist", .bool preconditions.requireWhitelist)]

def VerificationPlan.document (plan : VerificationPlan) : Json :=
  .object [("mode", .text plan.mode), ("timeout_seconds", .int plan.timeoutSeconds)]

def CompensationPlan.document (plan : CompensationPlan) : Json :=
  .object [("mode", .text plan.mode), ("summary", .text plan.summary)]

def RiskAssessment.document (risk : RiskAssessment) : Json :=
  .object [("level", .text risk.level), ("reason_codes", .array (risk.reasonCodes.map .text))]

def CredentialScope.document (scope : CredentialScope) : Json :=
  .object [("connector_id", .text scope.connectorID), ("permission", .text scope.permission),
    ("resource", .text scope.resource), ("ttl_seconds", .int scope.ttlSeconds)]

def Signature.document (signature : Signature) : Json :=
  .object [("alg", .text signature.algorithm), ("key_id", .text signature.keyID), ("value", .text signature.value)]

/-- `json.Marshal` of an envelope. -/
def Envelope.document (envelope : Envelope) : Option Json := do
  let notBefore ← Json.ofTime envelope.notBefore
  let expiresAt ← Json.ofTime envelope.expiresAt
  return .object [("schema_version", .text envelope.schemaVersion), ("action_id", .text envelope.actionID),
    ("workspace_id", .text envelope.workspaceID), ("incident_id", .text envelope.incidentID),
    ("requested_by", .text envelope.requestedBy), ("action_type", .text envelope.actionType.text),
    ("target_ref", envelope.target.document), ("parameters", envelope.parameters.document),
    ("observed_state", envelope.observedState.document), ("preconditions", envelope.preconditions.document),
    ("verification", envelope.verification.document), ("compensation", envelope.compensation.document),
    ("risk", envelope.risk.document), ("policy_version", .text envelope.policyVersion),
    ("plan_hash", .text envelope.planHash), ("credential_scope", envelope.credentialScope.document),
    ("idempotency_key", .text envelope.idempotencyKey), ("not_before", notBefore), ("expires_at", expiresAt),
    ("trace_id", .text envelope.traceID), ("signature", envelope.signature.document)]

end AiopsSystem.Action
