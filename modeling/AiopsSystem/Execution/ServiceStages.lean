import AiopsSystem.Execution.Service

/-! # The gates of one run

Which calls the stages before `Issue` can make, and what a stage that succeeds
leaves in the trace: the gates it passed, in their order.
-/

namespace AiopsSystem.Execution

open Go AiopsSystem.Action ExecutionLease

namespace Service

open Stage
open Program hiding only_bind

abbrev ServiceEvent := Event dependencies

section Kinds

/-- The calls made before `Prepare`. -/
def Request.admits : Request → Bool
  | .resolveRegistration _ | .evaluateSafety _ | .clock | .contextErr _ | .contextDeadline | .claim _ | .verify _ _
  | .resolveEnvironment _ _ | .evaluateCredentialIssue _ | .evaluatePreExecution _ | .reject _ | .nack _ => true
  | _ => false

/-- The calls made from `Prepare` until the credential is issued. -/
def Request.readies : Request → Bool
  | .prepare _ | .start _ | .heartbeat _ | .recordNoCredential _ | .resolveRegistration _ | .contextErr _ | .clock
  | .localClock => true
  | _ => false

def Request.works : Request → Bool
  | .clock | .localClock | .secret _ | .checkpoint | .dispatchError | .dispatch _ _ | .await | .contextErr _
  | .heartbeatFailure => true
  | _ => false

def Request.prepares : Request → Bool
  | .prepare _ => true
  | _ => false

def Request.dispatches : Request → Bool
  | .dispatch _ _ => true
  | _ => false

def Request.releases : Request → Bool
  | .reject _ | .nack _ => true
  | _ => false

def Request.issues : Request → Bool
  | .issue _ => true
  | _ => false

def Request.revokes : Request → Bool
  | .requestRevocation _ => true
  | _ => false

variable {request : Request}

theorem Request.prepares_of_admits (h : request.admits) : request.prepares = false := by
  cases request <;> first | rfl | cases h

theorem Request.kinds_of_early (h : request.admits ∨ request.readies) :
    request.issues = false ∧ request.dispatches = false ∧ request.revokes = false := by
  cases request <;> first | exact ⟨rfl, rfl, rfl⟩ | (rcases h with h | h <;> cases h)

theorem Request.kinds_of_works (h : request.works) : request.issues = false ∧ request.revokes = false := by
  cases request <;> first | exact ⟨rfl, rfl⟩ | cases h

abbrev Calls (kind : Request → Bool) {α : Type} (program : Prog α) : Prop :=
  Only (fun request : Request => kind request = true) program

end Kinds

/-- What the gates before `Prepare` answered. -/
structure Acceptance where
  registration : RunnerRegistration
  scope : RunnerScope
  claimed : ClaimedAction
  verifiedAt : Int
  credentialDecision : Decision
  credentialPolicyAt : Int
  decision : Decision
  preExecutionAt : Int
  safety : ClaimSafetySnapshot
  safetyAt : Int

namespace Acceptance

def claimEvents (service : Service) (acceptance : Acceptance) : List ServiceEvent :=
  [⟨.resolveRegistration service.runnerID, .ok acceptance.registration⟩,
    ⟨.claim { scope := acceptance.scope, leaseDuration := service.leaseDuration }, .ok acceptance.claimed⟩,
    ⟨.clock, acceptance.verifiedAt⟩,
    ⟨.verify acceptance.claimed.envelope acceptance.verifiedAt, .ok ()⟩]

def policyEvents (acceptance : Acceptance) : List ServiceEvent :=
  [⟨.evaluateCredentialIssue acceptance.claimed.envelope, .ok acceptance.credentialDecision⟩,
    ⟨.clock, acceptance.credentialPolicyAt⟩,
    ⟨.evaluatePreExecution acceptance.claimed.envelope, .ok acceptance.decision⟩,
    ⟨.clock, acceptance.preExecutionAt⟩,
    ⟨.evaluateSafety (startSafetyRequest acceptance.scope acceptance.claimed.envelope), .ok acceptance.safety⟩,
    ⟨.clock, acceptance.safetyAt⟩]

structure Valid (acceptance : Acceptance) : Prop where
  scope : acceptance.registration.scope = .ok acceptance.scope
  claim : consistentClaim acceptance.scope acceptance.claimed = true
  credentialIssue : validCredentialIssueDecision acceptance.credentialDecision acceptance.claimed.envelope
    acceptance.credentialPolicyAt = true
  preExecution : validPreExecutionDecision acceptance.decision acceptance.claimed.envelope
    acceptance.preExecutionAt = true
  samePolicy : samePolicySnapshot acceptance.credentialDecision acceptance.decision = true
  safety : validSafety (startSafetyRequest acceptance.scope acceptance.claimed.envelope) acceptance.safety
    acceptance.safetyAt = true
  preExecutionRevision : acceptance.safety.revision = acceptance.decision.safetyRevision
  credentialRevision : acceptance.safety.revision = acceptance.credentialDecision.safetyRevision

end Acceptance

structure Readiness where
  request : PrepareRequest
  prepared : PreparedDurableCredential
  started : Execution
  beat : ActionHeartbeatResult

def Readiness.events (service : Service) (lease : LeaseIdentity) (readiness : Readiness) : List ServiceEvent :=
  [⟨.prepare readiness.request, .ok readiness.prepared⟩,
    ⟨.start lease, .ok readiness.started⟩,
    ⟨.heartbeat { lease := lease, sequence := 1, extension := service.leaseDuration }, .ok readiness.beat⟩]

/-- Every gate accepted the job, and `Prepare`, `Start` and the first heartbeat succeeded, in this order. -/
structure Ready (service : Service) (past : List ServiceEvent) (acceptance : Acceptance) (readiness : Readiness) :
    Prop where
  accepted : acceptance.Valid
  beat : validHeartbeat acceptance.scope acceptance.claimed.execution.fence readiness.beat = true
  order : (acceptance.claimEvents service ++ acceptance.policyEvents ++
    readiness.events service acceptance.claimed.execution.fence).Sublist past

section Calls

variable {α : Type} {trace : List ServiceEvent}

theorem runs_ask {request : Request} {response : Response request} :
    Runs (ask request) trace response ↔ trace = [⟨request, response⟩] := runs_perform

theorem runs_ask_bind {request : Request} {next : Response request → Prog α} {result : α} :
    Runs (ask request >>= next) trace result ↔
      ∃ response rest, trace = ⟨request, response⟩ :: rest ∧ Runs (next response) rest result := Iff.rfl

end Calls

section Admission

variable (service : Service) {trace : List ServiceEvent}

variable {scope : RunnerScope}

theorem resolveRunnerScope_runs (h : Runs service.resolveRunnerScope trace (.ok scope)) :
    ∃ registration : RunnerRegistration, registration.scope = .ok scope ∧
      trace = [⟨.resolveRegistration service.runnerID, .ok registration⟩] := by
  obtain ⟨failure | registration, rest, rfl, hRest⟩ := runs_ask_bind.mp h
  · cases hRest.2
  · refine ⟨registration, ?_⟩
    dsimp only at hRest
    split at hRest
    · cases hRest.2
    · rename_i found hScope
      split at hRest
      · obtain ⟨rfl, hFound⟩ := hRest
        cases hFound
        exact ⟨hScope, rfl⟩
      · cases hRest.2

theorem checkSafety_runs {request : SafetyRequest} {snapshot : ClaimSafetySnapshot}
    (h : Runs (checkSafety request) trace (.ok snapshot)) :
    ∃ now : Int, validSafety request snapshot now ∧
      trace = [⟨.evaluateSafety request, .ok snapshot⟩, ⟨.clock, now⟩] := by
  obtain ⟨_ | _, rest, rfl, hRest⟩ := runs_ask_bind.mp h
  · cases hRest.2
  · obtain ⟨now, rest, rfl, hNow⟩ := runs_ask_bind.mp hRest
    split at hNow
    case isTrue hValid =>
      obtain ⟨rfl, hFound⟩ := hNow
      cases hFound
      exact ⟨now, hValid, rfl⟩
    case isFalse => cases hNow.2

variable {claimed : ClaimedAction}

theorem claimClock_runs {now : Int} :
    Runs (service.claimClock claimed).run trace (.ok now) → trace = [⟨.clock, now⟩] := by
  simp only [claimClock, runs_ok_bind, runs_ok_lift, runs_ok_check, runs_ok_pure]
  rintro ⟨_, _, _, rfl, hReading, _, _, _, rfl, ⟨rfl, _⟩, rfl, rfl⟩
  rw [runs_ask.mp hReading]
  rfl

theorem claimJob_runs :
    Runs service.claimJob.run trace (.ok (scope, claimed)) →
      ∃ (registration : RunnerRegistration) (verifiedAt : Int), registration.scope = .ok scope ∧
        consistentClaim scope claimed ∧
        [(⟨.resolveRegistration service.runnerID, .ok registration⟩ : ServiceEvent),
          ⟨.claim { scope := scope, leaseDuration := service.leaseDuration }, .ok claimed⟩, ⟨.clock, verifiedAt⟩,
          ⟨.verify claimed.envelope verifiedAt, .ok ()⟩].Sublist trace := by
  simp only [claimJob, runs_ok_bind, runs_ok_attemptOr, runs_ok_check, runs_ok_pure, Prod.mk.injEq]
  rintro ⟨_, _, _, rfl, hScope, _, safety, _, rfl, _, _, _, _, rfl, hJob, _, _, _, rfl, ⟨rfl, hClaim⟩, now, _, _,
    rfl, hClock, _, _, rest, rfl, hVerify, _, _, _, _, _, _, _, _, _, _, _, _, _, _, _, _, rfl, rfl⟩
  obtain ⟨registration, hRegistration, rfl⟩ := service.resolveRunnerScope_runs hScope
  obtain rfl := service.claimClock_runs hClock
  obtain rfl := runs_ask.mp hJob
  obtain rfl := runs_ask.mp hVerify
  refine ⟨registration, now, hRegistration, hClaim, ?_⟩
  refine .cons_cons _ (.trans ?_ (List.sublist_append_right safety _))
  exact .cons_cons _ (.cons_cons _ (.cons_cons _ (List.nil_sublist rest)))

theorem decideJob_runs {credentialDecision decision : Decision} {safety : ClaimSafetySnapshot} :
    Runs (service.decideJob scope claimed).run trace (.ok (credentialDecision, decision, safety)) →
      ∃ credentialPolicyAt preExecutionAt safetyAt : Int,
        validCredentialIssueDecision credentialDecision claimed.envelope credentialPolicyAt ∧
        validPreExecutionDecision decision claimed.envelope preExecutionAt ∧
        samePolicySnapshot credentialDecision decision ∧
        validSafety (startSafetyRequest scope claimed.envelope) safety safetyAt ∧
        safety.revision = decision.safetyRevision ∧ safety.revision = credentialDecision.safetyRevision ∧
        trace = [⟨.evaluateCredentialIssue claimed.envelope, .ok credentialDecision⟩, ⟨.clock, credentialPolicyAt⟩,
          ⟨.evaluatePreExecution claimed.envelope, .ok decision⟩, ⟨.clock, preExecutionAt⟩,
          ⟨.evaluateSafety (startSafetyRequest scope claimed.envelope), .ok safety⟩, ⟨.clock, safetyAt⟩] := by
  simp only [decideJob, runs_ok_bind, runs_ok_attemptOr, runs_ok_check, runs_ok_pure, Prod.mk.injEq]
  rintro ⟨_, _, _, rfl, hCredential, credentialPolicyAt, _, _, rfl, hFirst, _, _, _, rfl, ⟨rfl, hCredentialValid⟩,
    _, _, _, rfl, hDecision, preExecutionAt, _, _, rfl, hSecond, _, _, _, rfl, ⟨rfl, hDecisionValid, hSame⟩,
    _, _, _, rfl, hSafety, _, _, _, rfl, ⟨rfl, hRevision, hCredentialRevision⟩, rfl, rfl, rfl, rfl⟩
  obtain ⟨safetyAt, hValid, rfl⟩ := checkSafety_runs hSafety
  obtain rfl := runs_ask.mp hCredential
  obtain rfl := runs_ask.mp hDecision
  obtain rfl := service.claimClock_runs hFirst
  obtain rfl := service.claimClock_runs hSecond
  exact ⟨credentialPolicyAt, preExecutionAt, safetyAt, hCredentialValid, hDecisionValid, hSame, hValid, hRevision,
    hCredentialRevision, rfl⟩

theorem admitJob_runs {admission : Admission} :
    Runs service.admitJob.run trace (.ok admission) →
      ∃ acceptance : Acceptance, acceptance.Valid ∧ acceptance.scope = admission.scope ∧
        acceptance.claimed = admission.claimed ∧
        (acceptance.claimEvents service ++ acceptance.policyEvents).Sublist trace := by
  rw [admitJob, runs_ok_bind]
  rintro ⟨⟨scope, claimed⟩, _, _, rfl, hClaim, hRest⟩
  obtain ⟨⟨credentialDecision, decision, safety⟩, _, rest, rfl, hPolicy, hAfter⟩ := runs_ok_bind.mp hRest
  obtain ⟨registration, verifiedAt, hScope, hConsistent, hEvents⟩ := service.claimJob_runs hClaim
  obtain ⟨credentialPolicyAt, preExecutionAt, safetyAt, hCredential, hDecision, hSame, hSafety, hRevision,
    hCredentialRevision, rfl⟩ := service.decideJob_runs hPolicy
  have hAdmission : scope = admission.scope ∧ claimed = admission.claimed := by
    refine Returns.apply (fun value => scope = value.scope ∧ claimed = value.claimed) hAfter ?_
    repeat refine returns_bind (fun _ => ?_)
    exact returns_pure ⟨rfl, rfl⟩
  refine ⟨⟨registration, scope, claimed, verifiedAt, credentialDecision, credentialPolicyAt, decision, preExecutionAt,
    safety, safetyAt⟩, ⟨hScope, hConsistent, hCredential, hDecision, hSame, hSafety, hRevision, hCredentialRevision⟩,
    hAdmission.1, hAdmission.2, ?_⟩
  exact hEvents.append (List.sublist_append_left _ rest)

end Admission

section Stages

variable {α : Type} (service : Service) {trace : List ServiceEvent}

theorem resolveRunnerScope_only {kind : Request → Bool} (h : kind (.resolveRegistration service.runnerID)) :
    Calls kind service.resolveRunnerScope := by
  refine Program.only_bind ⟨h, fun _ => trivial⟩ ?_
  rintro (failure | registration)
  · trivial
  · dsimp only
    split
    · trivial
    · split <;> trivial

theorem only_ask {allowed : Request → Prop} {request : Request} {next : Response request → Prog α} (h : allowed request)
    (hNext : ∀ response, Only allowed (next response)) : Only allowed (ask request >>= next) := ⟨h, hNext⟩

theorem checkSafety_only (request : SafetyRequest) : Calls Request.admits (checkSafety request) := by
  refine only_ask rfl ?_
  rintro (failure | snapshot)
  · trivial
  · refine only_ask rfl (fun _ => ?_)
    split <;> trivial

theorem resolveEnvironment_only (envelope : Envelope) : Calls Request.admits (resolveEnvironment envelope) := by
  refine only_ask rfl ?_
  rintro (failure | snapshot)
  · trivial
  · refine only_ask rfl (fun _ => ?_)
    split <;> trivial

theorem rejectClaim_only (claimed : ClaimedAction) (code : String) (cause : ServiceError) :
    Calls Request.admits (service.rejectClaim claimed code cause) := by
  refine ⟨rfl, ?_⟩
  rintro (failure | rejected) <;> trivial

theorem nackClaim_only (claimed : ClaimedAction) (code : String) (cause : ServiceError) :
    Calls Request.admits (service.nackClaim claimed code cause) := by
  refine ⟨rfl, ?_⟩
  rintro (failure | released) <;> trivial

theorem policyFailed_only (claimed : ClaimedAction) (cancelled unavailable : String) (cause : ServiceError) :
    Calls Request.admits (service.policyFailed claimed cancelled unavailable cause) := by
  refine ⟨rfl, ?_⟩
  rintro (_ | failure)
  · exact service.nackClaim_only claimed unavailable cause
  · exact service.nackClaim_only claimed cancelled (.dependency failure)

theorem claimClock_only (claimed : ClaimedAction) : Calls Request.admits (service.claimClock claimed).run := by
  refine only_bind (only_lift ⟨rfl, fun _ => trivial⟩) fun now => ?_
  exact only_bind (only_check (service.nackClaim_only _ _ _)) fun _ => Stage.only_pure now

theorem claimJob_only : Calls Request.admits service.claimJob.run := by
  refine only_bind (only_attemptOr (service.resolveRunnerScope_only rfl) (fun _ => trivial)) fun _ => ?_
  refine only_bind (only_attemptOr (checkSafety_only _) (fun _ => trivial)) fun _ => ?_
  refine only_bind (only_attemptOr ⟨rfl, fun _ => trivial⟩ (fun _ => trivial)) fun claimed => ?_
  refine only_bind (only_check trivial) fun _ => ?_
  refine only_bind (service.claimClock_only claimed) fun _ => ?_
  refine only_bind (only_attemptOr ⟨rfl, fun _ => trivial⟩ (fun _ => service.rejectClaim_only _ _ _)) fun _ => ?_
  refine only_bind (only_check (service.rejectClaim_only _ _ _)) fun _ => ?_
  refine only_bind (only_attemptOr (resolveEnvironment_only _) (fun _ => service.nackClaim_only _ _ _)) fun _ => ?_
  exact only_bind (only_check (service.rejectClaim_only _ _ _)) fun _ => Stage.only_pure _

theorem decideJob_only (scope : RunnerScope) (claimed : ClaimedAction) :
    Calls Request.admits (service.decideJob scope claimed).run := by
  refine only_bind (only_attemptOr ⟨rfl, fun _ => trivial⟩ (fun _ => service.policyFailed_only _ _ _ _)) fun _ => ?_
  refine only_bind (service.claimClock_only claimed) fun _ => ?_
  refine only_bind (only_check (service.rejectClaim_only _ _ _)) fun _ => ?_
  refine only_bind (only_attemptOr ⟨rfl, fun _ => trivial⟩ (fun _ => service.policyFailed_only _ _ _ _)) fun _ => ?_
  refine only_bind (service.claimClock_only claimed) fun _ => ?_
  refine only_bind (only_check (service.rejectClaim_only _ _ _)) fun _ => ?_
  refine only_bind (only_attemptOr (checkSafety_only _) (fun _ => service.nackClaim_only _ _ _)) fun _ => ?_
  exact only_bind (only_check (service.nackClaim_only _ _ _)) fun _ => Stage.only_pure _

theorem admitJob_only : Calls Request.admits service.admitJob.run := by
  refine only_bind service.claimJob_only ?_
  rintro ⟨scope, claimed⟩
  refine only_bind (service.decideJob_only scope claimed) ?_
  rintro ⟨_, _, _⟩
  refine only_bind (only_attemptOr (resolveEnvironment_only _) (fun _ => service.nackClaim_only _ _ _)) fun _ => ?_
  refine only_bind (only_check (service.rejectClaim_only _ _ _)) fun _ => ?_
  refine only_bind (service.claimClock_only claimed) fun _ => ?_
  refine only_bind (only_check (service.nackClaim_only _ _ _)) fun _ => ?_
  refine only_bind (only_lift ⟨rfl, fun _ => trivial⟩) fun _ => ?_
  exact only_bind (only_attemptOr trivial (fun _ => service.rejectClaim_only _ _ _)) fun _ => Stage.only_pure _

theorem withoutCredential_only (execution : Execution) (prepared : PreparedDurableCredential)
    (errors : List ServiceError) : Calls Request.readies (withoutCredential execution prepared errors) := by
  refine Program.only_bind (only_ask rfl ?_) fun _ => trivial
  rintro (failure | revocation)
  · trivial
  · dsimp only
    split <;> trivial

theorem heartbeatOnce_only (scope : RunnerScope) (lease : LeaseIdentity) (sequence : Int) :
    Calls Request.readies (service.heartbeatOnce scope lease sequence) := by
  refine Program.only_bind (service.resolveRunnerScope_only rfl) ?_
  rintro (failure | current)
  · refine only_ask rfl ?_
    rintro (_ | cause) <;> trivial
  · dsimp only
    split
    · trivial
    · refine only_ask rfl ?_
      rintro (failure | response)
      · trivial
      · dsimp only
        split <;> trivial

theorem prepareJob_only (admission : Admission) : Calls Request.readies (service.prepareJob admission).run := by
  refine only_bind (only_attemptOr ⟨rfl, fun _ => trivial⟩ (fun _ => trivial)) fun _ => ?_
  refine only_bind (only_attemptOr ⟨rfl, fun _ => trivial⟩ (fun _ => withoutCredential_only _ _ _)) fun _ => ?_
  refine only_bind (only_attemptOr (service.heartbeatOnce_only _ _ _) (fun _ => withoutCredential_only _ _ _))
    (fun _ => ?_)
  refine only_bind (only_lift ⟨rfl, fun _ => trivial⟩) fun _ => ?_
  refine only_bind (only_lift ⟨rfl, fun _ => trivial⟩) fun _ => ?_
  refine only_bind (only_check (withoutCredential_only _ _ _)) fun _ => ?_
  refine only_bind (only_check (withoutCredential_only _ _ _)) fun _ => ?_
  exact only_bind (only_check (withoutCredential_only _ _ _)) fun _ => Stage.only_pure _

theorem heartbeatOnce_runs {scope : RunnerScope} {lease : LeaseIdentity} {sequence : Int}
    (h : Runs (service.heartbeatOnce scope lease sequence) trace (.ok ())) :
    ∃ beat : ActionHeartbeatResult, validHeartbeat scope lease beat ∧
      [(⟨.heartbeat { lease := lease, sequence := sequence, extension := service.leaseDuration }, .ok beat⟩ :
        ServiceEvent)].Sublist trace := by
  obtain ⟨failure | _, first, _, rfl, _, hRest⟩ := runs_bind.mp h
  · obtain ⟨_ | _, rest, rfl, hDone⟩ := runs_ask_bind.mp hRest
    · cases hDone.2
    · cases hDone.2
  · dsimp only at hRest
    split at hRest
    · cases hRest.2
    · obtain ⟨failure | beat, rest, rfl, hAnswer⟩ := runs_ask_bind.mp hRest
      · cases hAnswer.2
      · dsimp only at hAnswer
        split at hAnswer
        case isTrue hValid =>
          exact ⟨beat, hValid, .trans (.cons_cons _ (List.nil_sublist rest)) (List.sublist_append_right first _)⟩
        case isFalse => cases hAnswer.2

theorem prepareJob_runs {admission : Admission} {preparation : Preparation}
    (h : Runs (service.prepareJob admission).run trace (.ok preparation)) :
    ∃ readiness : Readiness, readiness.prepared = preparation.prepared ∧
      validHeartbeat admission.scope admission.claimed.execution.fence readiness.beat ∧
      (readiness.events service admission.claimed.execution.fence).Sublist trace := by
  obtain ⟨prepared, _, _, rfl, hPrepare, hAfterPrepare⟩ := runs_ok_bind.mp h
  obtain ⟨started, _, _, rfl, hStart, hAfterStart⟩ := runs_ok_bind.mp hAfterPrepare
  obtain ⟨_, beats, rest, rfl, hBeat, hAfterBeat⟩ := runs_ok_bind.mp hAfterStart
  obtain rfl := runs_ask.mp (runs_ok_attemptOr.mp hPrepare)
  obtain rfl := runs_ask.mp (runs_ok_attemptOr.mp hStart)
  obtain ⟨beat, hValid, hEvent⟩ := service.heartbeatOnce_runs (runs_ok_attemptOr.mp hBeat)
  have hPrepared : prepared = preparation.prepared := by
    refine Returns.apply (fun value => prepared = value.prepared) hAfterBeat ?_
    repeat refine returns_bind (fun _ => ?_)
    exact returns_pure rfl
  refine ⟨⟨prepareRequest admission, prepared, started, beat⟩, hPrepared, hValid, ?_⟩
  exact .cons_cons _ (.cons_cons _ (hEvent.trans (List.sublist_append_left beats rest)))

end Stages

end Service

end AiopsSystem.Execution
