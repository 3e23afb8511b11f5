import AiopsSystem.Execution.ServiceStages
import AiopsSystem.Execution.TargetLock

/-! # The order of the calls of one run

A dispatch comes after every gate, a job that holds a prepared credential is
neither rejected nor put back, a result is certified only by an executor that
returned it, and an issued credential is revoked exactly once. Every statement
is about all runs of `RunNext`, so about every answer of every dependency.
-/

namespace AiopsSystem.Execution

open Go AiopsSystem.Action ExecutionLease List

namespace Service

open Program Stage

def Gated (service : Service) (past : List ServiceEvent) (dispatched : Command) (credential : DurableCredential) :
    Prop :=
  ∃ acceptance readiness before after, past = before ++ ⟨.issue readiness.prepared, .ok credential⟩ :: after ∧
    Ready service before acceptance readiness ∧ command acceptance.claimed.envelope = some dispatched

def Finished (past : List ServiceEvent) (result : ExecutorResult) : Prop :=
  validExecutorResult result = true ∧ ∃ dispatched credential before,
    past = before ++ [⟨.checkpoint, none⟩] ∧
    [(⟨.dispatch dispatched credential, ()⟩ : ServiceEvent), ⟨.await, .finished result none⟩].Sublist before

def Issued (past : List ServiceEvent) (credential : DurableCredential) : Prop :=
  ∃ prepared, (⟨.issue prepared, .ok credential⟩ : ServiceEvent) ∈ past

def Completed (past : List ServiceEvent) : Prop :=
  ∃ request finalizing, (⟨.complete request, .ok finalizing⟩ : ServiceEvent) ∈ past

def Revoked (past : List ServiceEvent) (credential : DurableCredential) : Prop :=
  ∃ revocation, (⟨.requestRevocation credential, .ok revocation⟩ : ServiceEvent) ∈ past

def Without (kind : Request → Bool) (past : List ServiceEvent) : Prop := ∀ event ∈ past, kind event.request = false

def Ordered (service : Service) (past : List ServiceEvent) (event : ServiceEvent) : Prop :=
  match event.request with
  | .reject _ | .nack _ => Without Request.prepares past
  | .dispatch dispatched credential =>
    Gated service past dispatched credential ∧ Without Request.dispatches past
  | .complete request => request.summary.outcome ≠ .uncertain → Finished past request.summary
  | .requestRevocation _ => Without Request.revokes past
  | .finalize _ => Completed past ∧ ∀ credential, Issued past credential → Revoked past credential
  | _ => True

section Past

variable {service : Service} {past made : List ServiceEvent} {kind : Request → Bool}

theorem without_append : Without kind (past ++ made) ↔ Without kind past ∧ Without kind made := forall_mem_append

theorem without_singleton {event : ServiceEvent} : Without kind [event] ↔ kind event.request = false :=
  forall_mem_singleton

theorem without_of_calls {other : Request → Bool} (h : ∀ event ∈ made, other event.request)
    (hDisjoint : ∀ request, other request → kind request = false) : Without kind made :=
  fun event hEvent => hDisjoint event.request (h event hEvent)

variable {credential : DurableCredential}

theorem issued_append : Issued (past ++ made) credential ↔ Issued past credential ∨ Issued made credential := by
  simp only [Issued, mem_append, exists_or]

theorem not_issued (h : Without Request.issues past) (credential : DurableCredential) : ¬ Issued past credential := by
  rintro ⟨_, hEvent⟩
  cases h _ hEvent

theorem Gated.append {dispatched : Command}
    (h : Gated service past dispatched credential) : Gated service (past ++ made) dispatched credential := by
  obtain ⟨acceptance, readiness, before, after, rfl, hReady, hCommand⟩ := h
  exact ⟨acceptance, readiness, before, after ++ made, by rw [append_assoc, cons_append], hReady, hCommand⟩

end Past

section Work

variable {service : Service} {past : List ServiceEvent} {envelope : Envelope} {credential : DurableCredential}

theorem safe_ask_bind {α : Type} {P : List ServiceEvent → ServiceEvent → Prop} {request : Request}
    {next : Response request → Prog α} {post : List ServiceEvent → α → Prop}
    (h : ∀ response, P past ⟨request, response⟩ ∧ Safe P (past ++ [⟨request, response⟩]) (next response) post) :
    Safe P past (ask request >>= next) post :=
  safe_bind (safe_perform h)

def Returned (past : List ServiceEvent) (executed : Execute) : Prop :=
  executed.2 = [] → validExecutorResult executed.1 = true → ∃ dispatched credential,
    [(⟨.dispatch dispatched credential, ()⟩ : ServiceEvent), ⟨.await, .finished executed.1 none⟩].Sublist past

theorem returned_empty {errors : List ServiceError} : Returned past (emptyResult, errors) :=
  fun _ h => by cases h

theorem awaitExecutor_safe (credential : DurableCredential) (hDispatch : ∀ dispatched, command envelope = some dispatched →
      (⟨.dispatch dispatched credential, ()⟩ : ServiceEvent) ∈ past) :
    Safe (Ordered service) past (awaitExecutor envelope) Returned := by
  refine safe_ask_bind fun completion => ⟨trivial, ?_⟩
  match completion with
  | .finished result failure =>
    refine safe_ask_bind fun done => ⟨trivial, ?_⟩
    cases done with
    | some => exact safe_pure returned_empty
    | none =>
      refine safe_ask_bind fun lost => ⟨trivial, ?_⟩
      cases lost with
      | some => exact safe_pure returned_empty
      | none =>
        dsimp only
        split
        · exact safe_pure returned_empty
        · rename_i hCommand
          obtain ⟨dispatched, hCommand⟩ := Option.ne_none_iff_exists'.mp (mt Option.isNone_iff_eq_none.mpr hCommand)
          refine safe_pure fun hErrors _ => ⟨dispatched, credential, ?_⟩
          have hFailure : failure = none := by cases failure <;> first | rfl | cases hErrors
          subst hFailure
          rw [append_assoc, append_assoc]
          exact (singleton_sublist.mpr (hDispatch dispatched hCommand)).append (.cons_cons _ (nil_sublist _))
  | .heartbeatsDone =>
    refine safe_ask_bind fun lost => ⟨trivial, ?_⟩
    cases lost with
    | some => exact safe_pure returned_empty
    | none =>
      refine safe_ask_bind fun done => ⟨trivial, ?_⟩
      cases done <;> exact safe_pure returned_empty
  | .contextDone =>
    exact safe_ask_bind fun _ => ⟨trivial, safe_ask_bind (fun _ => ⟨trivial, safe_pure returned_empty⟩)⟩

theorem dispatchWithHeartbeat_safe
    (hGated : ∀ dispatched, command envelope = some dispatched → Gated service past dispatched credential)
    (hFirst : Without Request.dispatches past) :
    Safe (Ordered service) past (dispatchWithHeartbeat envelope credential) Returned := by
  refine safe_ask_bind fun refused => ⟨trivial, ?_⟩
  cases refused with
  | some => exact safe_pure returned_empty
  | none =>
    dsimp only
    split
    · rename_i dispatched hCommand
      refine safe_ask_bind fun _ => ⟨⟨(hGated dispatched hCommand).append, ?_⟩, ?_⟩
      · exact without_append.mpr ⟨hFirst, without_singleton.mpr rfl⟩
      · refine awaitExecutor_safe credential fun other hOther => ?_
        rw [hCommand, Option.some.injEq] at hOther
        rw [hOther]
        exact mem_append_right _ mem_cons_self
    · rename_i hNone
      exact awaitExecutor_safe credential fun dispatched hCommand => absurd hCommand (hNone dispatched)

variable {admission : Admission} {held : Option DurableCredential}

theorem useCredential_safe (hGated : ∀ dispatched, command admission.claimed.envelope = some dispatched →
      Gated service past dispatched credential) (hFirst : Without Request.dispatches past) :
    Safe (Ordered service) past (useCredential admission credential) Returned := by
  refine safe_ask_bind fun _ => ⟨trivial, safe_ask_bind (fun _ => ⟨trivial, ?_⟩)⟩
  split
  · exact safe_pure returned_empty
  · refine safe_ask_bind fun _ => ⟨trivial, ?_⟩
    split
    · exact safe_pure returned_empty
    · refine safe_ask_bind fun lost => ⟨trivial, ?_⟩
      cases lost with
      | some => exact safe_pure returned_empty
      | none =>
        refine dispatchWithHeartbeat_safe (fun dispatched hCommand => ?_) ?_
        · exact (hGated dispatched hCommand).append.append.append.append
        · simp only [without_append, without_singleton]
          exact ⟨⟨⟨⟨hFirst, rfl⟩, rfl⟩, rfl⟩, rfl⟩

theorem awaitExecutor_only : Calls Request.works (awaitExecutor envelope) := by
  refine only_ask rfl ?_
  rintro (⟨result, failure⟩ | _ | _)
  · refine only_ask rfl ?_
    rintro (_ | cause)
    · refine only_ask rfl ?_
      rintro (_ | cause)
      · dsimp only
        split <;> trivial
      · trivial
    · trivial
  · refine only_ask rfl ?_
    rintro (_ | cause)
    · refine only_ask rfl ?_
      rintro (_ | cause) <;> trivial
    · trivial
  · exact only_ask rfl fun _ => ⟨rfl, fun _ => trivial⟩

theorem useCredential_only (admission : Admission) : Calls Request.works (useCredential admission credential) := by
  refine only_ask rfl fun _ => ?_
  refine only_ask rfl fun _ => ?_
  split
  · trivial
  · refine only_ask rfl (fun _ => ?_)
    split
    · trivial
    · refine only_ask rfl ?_
      rintro (_ | failure)
      · refine only_ask rfl ?_
        rintro (_ | failure)
        · dsimp only
          split
          · exact only_ask rfl fun _ => awaitExecutor_only
          · exact awaitExecutor_only
        · trivial
      · trivial

structure Held (past : List ServiceEvent) (credential : Option DurableCredential) : Prop where
  unrevoked : Without Request.revokes past
  issued : ∀ value, Issued past value ↔ credential = some value

theorem Held.append (h : Held past held) (event : ServiceEvent)
    (hIssues : event.request.issues = false) (hRevokes : event.request.revokes = false) :
    Held (past ++ [event]) held where
  unrevoked := without_append.mpr ⟨h.unrevoked, without_singleton.mpr hRevokes⟩
  issued value := by
    rw [issued_append, h.issued, or_iff_left (not_issued (without_singleton.mpr hIssues) value)]

structure Performed (past : List ServiceEvent) (credential : Option DurableCredential) (executed : Execute) :
    Prop where
  held : Held past credential
  finished : executed.2 = [] → validExecutorResult executed.1 = true → Finished past executed.1

theorem checkpoint_safe {executed : Execute} (hHeld : Held past held) (hReturned : Returned past executed) :
    Safe (Ordered service) past (do
        let lost : Option Failure ← ask .checkpoint
        match lost with
        | some failure => return (held, ((emptyResult, [.dependency failure]) : Execute))
        | none => return (held, executed))
      (fun past' value => Performed past' value.1 value.2) := by
  refine safe_ask_bind fun lost => ⟨trivial, ?_⟩
  cases lost with
  | some => exact safe_pure ⟨hHeld.append _ rfl rfl, fun h => by cases h⟩
  | none =>
    refine safe_pure ⟨hHeld.append _ rfl rfl, fun hErrors hValid => ⟨hValid, ?_⟩⟩
    obtain ⟨dispatched, credential, hOrder⟩ := hReturned hErrors hValid
    exact ⟨dispatched, credential, past, rfl, hOrder⟩

theorem performJob_safe {acceptance : Acceptance} {readiness : Readiness}
    (hReady : Ready service past acceptance readiness) (hClaimed : acceptance.claimed = admission.claimed)
    (hDispatches : Without Request.dispatches past) (hIssues : Without Request.issues past)
    (hRevokes : Without Request.revokes past) :
    Safe (Ordered service) past (performJob admission readiness.prepared)
      (fun past' value => Performed past' value.1 value.2) := by
  refine safe_ask_bind fun answer => ⟨trivial, ?_⟩
  match answer with
  | .error failure =>
    refine checkpoint_safe ⟨without_append.mpr ⟨hRevokes, without_singleton.mpr rfl⟩, fun value => ?_⟩ returned_empty
    rw [issued_append, or_iff_right (not_issued hIssues value)]
    simp [Issued]
  | .ok credential =>
    have hGated (dispatched : Command) (hCommand : command admission.claimed.envelope = some dispatched) :
        Gated service (past ++ [⟨.issue readiness.prepared, .ok credential⟩]) dispatched credential :=
      ⟨acceptance, readiness, past, [], rfl, hReady, by rw [hClaimed]; exact hCommand⟩
    have hUse := useCredential_safe hGated (without_append.mpr ⟨hDispatches, without_singleton.mpr rfl⟩)
    refine safe_bind ((hUse.only (useCredential_only admission)).mono ?_)
    rintro _ _ ⟨hReturned, made, rfl, hMade⟩
    refine checkpoint_safe ⟨?_, fun value => ?_⟩ hReturned
    · simp only [without_append, without_singleton]
      exact ⟨⟨hRevokes, rfl⟩, without_of_calls hMade (fun _ h => (Request.kinds_of_works h).2)⟩
    · have hNone : Without Request.issues made := without_of_calls hMade (fun _ h => (Request.kinds_of_works h).1)
      rw [issued_append, or_iff_left (not_issued hNone value), issued_append, or_iff_right (not_issued hIssues value)]
      simp [Issued, eq_comm]

end Work

section Conclusion

variable {service : Service} {past : List ServiceEvent} {credential : Option DurableCredential}

theorem classifyResult_certified {result : ExecutorResult} {failures : List ServiceError}
    (h : (classifyResult result failures).2.outcome ≠ .uncertain) :
    failures = [] ∧ validExecutorResult result ∧ (classifyResult result failures).2 = result := by
  unfold classifyResult at h ⊢
  split at h
  · exact absurd rfl h
  · rename_i hFailures
    split at h
    · exact absurd rfl h
    · rename_i hValid
      refine ⟨not_not.mp hFailures, Bool.not_eq_false _ ▸ hValid, ?_⟩
      rw [if_neg hFailures, if_neg hValid]
      split <;> rfl

structure Closed (past : List ServiceEvent) (credential : Option DurableCredential) : Prop where
  issued : ∀ value, Issued past value ↔ credential = some value
  revoked : ∀ value, credential = some value → past.countP (fun event => event.request.revokes) = 1 ∧
    ∃ answer, (⟨.requestRevocation value, answer⟩ : ServiceEvent) ∈ past

theorem Closed.append (h : Closed past credential) (event : ServiceEvent) (hIssues : event.request.issues = false)
    (hRevokes : event.request.revokes = false) : Closed (past ++ [event]) credential where
  issued value := by
    rw [issued_append, h.issued, or_iff_left (not_issued (without_singleton.mpr hIssues) value)]
  revoked value hValue := by
    obtain ⟨hCount, answer, hEvent⟩ := h.revoked value hValue
    refine ⟨?_, answer, mem_append_left _ hEvent⟩
    rw [countP_append, hCount, countP_singleton, hRevokes]
    rfl

theorem requestRevocation_safe (hHeld : Held past credential) :
    Safe (Ordered service) past (requestRevocation credential) (fun past' answer =>
      Closed past' credential ∧ (∀ event ∈ past, event ∈ past') ∧
        ∀ revocation, answer = .ok revocation → ∀ value, credential = some value → Revoked past' value) := by
  match credential with
  | none => exact safe_pure ⟨⟨hHeld.issued, fun _ h => by cases h⟩, fun _ h => h, fun _ _ _ h => by cases h⟩
  | some _ =>
    refine safe_ask_bind fun answer => ⟨hHeld.unrevoked, safe_pure ⟨⟨?_, ?_⟩, fun _ h => mem_append_left _ h, ?_⟩⟩
    · intro value
      rw [issued_append, hHeld.issued, or_iff_left (not_issued (without_singleton.mpr rfl) value)]
    · rintro value hValue
      cases hValue
      refine ⟨?_, answer, mem_append_right _ mem_cons_self⟩
      have hNone : past.countP (fun event => event.request.revokes) = 0 := by
        rw [countP_eq_zero]
        intro event hEvent
        rw [hHeld.unrevoked event hEvent]
        exact Bool.false_ne_true
      rw [countP_append, hNone]
      rfl
    · intro revocation hAnswer value hValue
      cases hValue
      match answer with
      | .error failure => cases hAnswer
      | .ok revoked => exact ⟨revoked, mem_append_right _ mem_cons_self⟩

theorem settleJob_safe {lease : LeaseIdentity} {summary : ExecutorResult} {finalizing : Execution}
    (hCompleted : Completed past) (hHeld : Held past credential) :
    Safe (Ordered service) past (settleJob lease summary finalizing credential)
      (fun past' _ => Closed past' credential) := by
  refine safe_bind ((requestRevocation_safe hHeld).mono ?_)
  rintro past' (cause | revocation) ⟨hClosed, hKept, hRevoked⟩
  · exact safe_pure hClosed
  · dsimp only
    split
    · exact safe_pure hClosed
    · refine safe_ask_bind fun answer => ⟨⟨?_, fun value hValue => ?_⟩, ?_⟩
      · obtain ⟨request, execution, hEvent⟩ := hCompleted
        exact ⟨request, execution, hKept _ hEvent⟩
      · exact hRevoked revocation rfl value ((hClosed.issued value).mp hValue)
      · have hClosed' := hClosed.append ⟨.finalize lease, answer⟩ rfl rfl
        match answer with
        | .error failure =>
          dsimp only
          split <;> exact safe_pure hClosed'
        | .ok execution => exact safe_pure hClosed'

theorem concludeJob_safe {admission : Admission} {started : Execution} {executed : Execute}
    (h : Performed past credential executed) :
    Safe (Ordered service) past (concludeJob admission started credential executed)
      (fun past' value => Closed past' credential ∧ value.2 = credential.isSome) := by
  refine safe_ask_bind fun completed => ⟨?_, ?_⟩
  · intro hCertified
    obtain ⟨hErrors, hValid, hResult⟩ := classifyResult_certified hCertified
    rw [hResult]
    exact h.finished hErrors hValid
  · match completed with
    | .error failure =>
      refine safe_ask_bind fun _ => ⟨trivial, ?_⟩
      refine safe_bind ((requestRevocation_safe ((h.held.append _ rfl rfl).append _ rfl rfl)).mono ?_)
      rintro past' _ ⟨hClosed, _⟩
      exact safe_pure ⟨hClosed, rfl⟩
    | .ok finalizing =>
      refine safe_ask_bind fun _ => ⟨trivial, safe_ask_bind (fun _ => ⟨trivial, ?_⟩)⟩
      refine safe_bind ((settleJob_safe ?_ ?_).mono ?_)
      · exact ⟨_, finalizing, mem_append_left _ (mem_append_left _ (mem_append_right _ mem_cons_self))⟩
      · exact ((h.held.append _ rfl rfl).append _ rfl rfl).append _ rfl rfl
      · intro past' _ hClosed
        exact safe_pure ⟨hClosed, rfl⟩

variable {event : ServiceEvent}

theorem ordered_of_admits (hPast : ∀ other ∈ past, Request.admits other.request)
    (h : Request.admits event.request) : Ordered service past event := by
  have hUnprepared : Without Request.prepares past := without_of_calls hPast fun _ => Request.prepares_of_admits
  obtain ⟨request, _⟩ := event
  cases request <;> trivial

theorem ordered_of_readies (h : Request.readies event.request) : Ordered service past event := by
  obtain ⟨request, _⟩ := event
  cases request <;> trivial

theorem closed_none (h : Without Request.issues past) : Closed past none where
  issued value := ⟨fun hIssued => absurd hIssued (not_issued h value), fun hValue => by cases hValue⟩
  revoked value hValue := by cases hValue

theorem runNext_safe (service : Service) :
    Safe (Ordered service) [] service.runNext (fun past' _ => ∃ credential, Closed past' credential) := by
  refine safe_bind (safe_of_only service.admitJob_only (fun _ _ hPast h => ordered_of_admits hPast h) ?_)
  intro admitted answer hAdmit hAdmits
  match answer with
  | .error outcome =>
    exact safe_pure ⟨none, closed_none (without_of_calls hAdmits (fun _ h => (Request.kinds_of_early (.inl h)).1))⟩
  | .ok admission =>
    obtain ⟨acceptance, hValid, hScope, hClaimed, hOrder⟩ := service.admitJob_runs hAdmit
    refine safe_bind (safe_of_only (service.prepareJob_only admission) (fun _ _ _ h => ordered_of_readies h) ?_)
    intro prepared answer hPrepare hReadies
    have hEarly (event : ServiceEvent) (hEvent : event ∈ [] ++ admitted ++ prepared) :
        event.request.issues = false ∧ event.request.dispatches = false ∧ event.request.revokes = false :=
      Request.kinds_of_early ((mem_append.mp hEvent).imp (hAdmits event) (hReadies event))
    match answer with
    | .error outcome => exact safe_pure ⟨none, closed_none (fun event hEvent => (hEarly event hEvent).1)⟩
    | .ok preparation =>
      obtain ⟨readiness, hPrepared, hBeat, hEvents⟩ := service.prepareJob_runs hPrepare
      have hReady : Ready service ([] ++ admitted ++ prepared) acceptance readiness := by
        refine ⟨hValid, by rw [hScope, hClaimed]; exact hBeat, ?_⟩
        rw [hClaimed]
        exact hOrder.append hEvents
      dsimp only
      rw [← hPrepared]
      refine safe_bind ((performJob_safe hReady hClaimed (fun event hEvent => (hEarly event hEvent).2.1)
        (fun event hEvent => (hEarly event hEvent).1) (fun event hEvent => (hEarly event hEvent).2.2)).mono ?_)
      rintro past ⟨credential, _⟩ hPerformed
      refine safe_bind ((concludeJob_safe hPerformed).mono ?_)
      rintro past ⟨outcome, attempted⟩ ⟨hClosed, hAttempted⟩
      refine safe_bind ?_
      change attempted = credential.isSome at hAttempted
      rw [revokeOnExit, hAttempted, Bool.and_not_self]
      exact safe_pure (safe_pure ⟨credential, hClosed⟩)

end Conclusion

/-- The order of the calls of `RunNext`, whatever its dependencies answer. An executor is dispatched at most once, and
after every gate; a job is not given back after `Prepare`; a result is certified only by the executor; an issued
credential is asked to be revoked exactly once; and `Finalize` follows `Complete` and the revocation. -/
theorem run_next_is_ordered (service : Service) (trace : List ServiceEvent) (outcome : Outcome)
    (h : Runs service.runNext trace outcome) :
    trace.countP (fun event => event.request.dispatches) ≤ 1 ∧
    (∀ before after dispatched credential, trace = before ++ ⟨.dispatch dispatched credential, ()⟩ :: after →
      Gated service before dispatched credential) ∧
    (∀ before after event, trace = before ++ event :: after → event.request.releases = true →
      Without Request.prepares before) ∧
    (∀ before after request answer, trace = before ++ ⟨.complete request, answer⟩ :: after →
      request.summary.outcome ≠ .uncertain → Finished before request.summary) ∧
    (∀ credential, Issued trace credential → trace.countP (fun event => event.request.revokes) = 1 ∧
      ∃ answer, (⟨.requestRevocation credential, answer⟩ : ServiceEvent) ∈ trace) ∧
    (∀ before after lease answer, trace = before ++ ⟨.finalize lease, answer⟩ :: after →
      Completed before ∧ ∀ credential, Issued before credential → Revoked before credential) := by
  obtain ⟨hJustified, _, hClosed⟩ := runNext_safe service trace outcome h
  refine ⟨hJustified.countP_le_one ?_, ?_, ?_, ?_, ?_, ?_⟩
  · rintro _ ⟨request, response⟩ hOrdered hDispatches
    cases request with
    | dispatch => exact hOrdered.2
    | _ => cases hDispatches
  · rintro before after dispatched credential rfl
    exact hJustified.at.1
  · rintro before after ⟨request, response⟩ rfl hReleases
    have hOrdered := hJustified.at
    cases request with
    | reject => exact hOrdered
    | nack => exact hOrdered
    | _ => cases hReleases
  · rintro before after request answer rfl
    exact hJustified.at
  · intro credential hIssued
    exact hClosed.revoked credential ((hClosed.issued credential).mp hIssued)
  · rintro before after lease answer rfl
    exact hJustified.at

section Sample

def sampleService : Service where
  runnerID := ascii "runner-1"
  leaseDuration := minute
  sha256Hex := sampleCodec.sha256Hex

def sampleExecution (status : Status) : Execution := {
  executionID := ascii "action-1"
  targetKey := ascii "cluster-1/payments/api"
  pool := .write
  status := status
  runnerID := ascii "runner-1"
  runnerTenantID := ascii "tenant-1"
  runnerWorkspaceID := ascii "workspace-1"
  runnerEnvironmentID := ascii "staging"
  scopeRevision := 1
  leaseToken := ascii "lease-token-1"
  leaseEpoch := 1 }

def sampleDecision (stage : PolicyStage) : Decision where
  outcome := .allow
  policyVersion := ascii "policy-1"
  stage := stage
  planHash := List.replicate 64 97
  safetyRevision := ascii "safety-1"
  targetRevision := ascii "target-1"
  riskRevision := ascii "risk-1"
  limitsRevision := ascii "limits-1"
  evaluatedAt := sampleClock
  credentialExpiresAt := sampleClock + minute

def sampleSnapshot (request : SafetyRequest) : ClaimSafetySnapshot where
  enabled := true
  pool := request.pool
  runnerID := request.runnerID
  workspaceID := request.workspaceID
  environmentID := request.environmentID
  connectorID := request.connectorID
  actionType := request.actionType
  revision := ascii "safety-1"
  observedAt := sampleClock

def sampleRevocation (status : Credential.RevocationStatus) : Credential.Revocation where
  id := ascii "6f1c2f1e-0b2a-4c3d-8e4f-5a6b7c8d9e0f"
  tenantID := ascii "tenant-1"
  workspaceID := ascii "workspace-1"
  environmentID := ascii "staging"
  actionID := ascii "action-1"
  targetKey := ascii "cluster-1/payments/api"
  production := false
  runnerID := ascii "runner-1"
  actionLeaseEpoch := 1
  issuer := ascii "vault"
  issuerRevision := ascii "1"
  actionType := ascii "KUBERNETES_ROLLOUT_RESTART"
  connectorID := ascii "vault"
  permission := ascii "PATCH_DEPLOYMENT_RESTART"
  resource := ascii "cluster-1/payments/deployment/api"
  credentialTTLSeconds := 300
  credentialExpiresAt := sampleClock + minute
  status := status
  availableAt := sampleClock
  createdAt := sampleClock
  updatedAt := sampleClock
  version := 1

def sampleAnswers : Behaviour dependencies := fun _ request =>
  match request with
  | .resolveRegistration _ => .ok {
      runnerID := ascii "runner-1"
      tenantID := ascii "tenant-1"
      pool := .write
      enabled := true
      scopeRevision := 1
      maxConcurrency := 4
      scopeBindings := (sampleScope .write).bindings }
  | .evaluateSafety request => .ok (sampleSnapshot request)
  | .clock | .localClock => sampleClock
  | .contextErr _ | .contextDeadline => none
  | .claim _ => .ok {
      execution := sampleExecution .leased
      envelope := sampleEnvelope "action-1" "restart-1"
      planHash := List.replicate 64 97
      targetKey := ascii "cluster-1/payments/api"
      environmentRevision := ascii "revision-1"
      production := false }
  | .verify _ _ => .ok ()
  | .resolveEnvironment workspaceID environmentID => .ok {
      workspaceID := workspaceID
      environmentID := environmentID
      production := false
      revision := ascii "revision-1"
      observedAt := sampleClock }
  | .evaluateCredentialIssue _ => .ok (sampleDecision .credentialIssue)
  | .evaluatePreExecution _ => .ok (sampleDecision .preExecution)
  | .reject _ | .nack _ => .ok (sampleExecution .queued)
  | .prepare _ => .ok { revocationID := ascii "6f1c2f1e-0b2a-4c3d-8e4f-5a6b7c8d9e0f" }
  | .start _ => .ok (sampleExecution .running)
  | .heartbeat _ => .ok { execution := sampleExecution .running, directive := .continue }
  | .recordNoCredential _ => .ok (sampleRevocation .noCredential)
  | .issue prepared => .ok { revocationID := prepared.revocationID, expiresAt := sampleClock + minute }
  | .secret _ => ascii "token"
  | .checkpoint | .dispatchError | .heartbeatFailure | .stopHeartbeats => none
  | .dispatch _ _ | .acknowledgeComplete => ()
  | .await => .finished sampleSummary none
  | .complete _ => .ok (sampleExecution .finalizing)
  | .requestRevocation _ => .ok (sampleRevocation .revoked)
  | .finalize _ => .ok (sampleExecution .succeeded)

end Sample

theorem run_next_is_ordered_succeeded :
    (sampleService.runNext.execute sampleAnswers 0).2 = (sampleExecution .succeeded, []) ∧
      (sampleService.runNext.execute sampleAnswers 0).1.countP (fun event => event.request.dispatches) = 1 := by
  have h := run_next_is_ordered sampleService _ _ (runs_execute sampleAnswers 0 sampleService.runNext)
  exact ⟨by decide +kernel, le_antisymm h.1 (by decide +kernel)⟩

end Service

end AiopsSystem.Execution
