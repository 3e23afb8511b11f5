import AiopsSystem.Credential.ChildCreate
import AiopsSystem.Execution.TargetLock
import AiopsSystem.Finalization.Composition

/-! # No credential outlives the target lock

An authorized child was authorized while its action was running under the
lease of the credential. From there the record of the action leaves the
statuses that hold the target only through the strict mode of the gate, which
answers yes only for a lease whose one revocation is terminal, and a terminal
revocation stays terminal.
-/

namespace AiopsSystem.Finalization

open Go Go.Section ExecutionLease Execution Credential

section Queue

structure HoldsTarget (epoch : Int) (record : MemoryActionRecord) : Prop where
  leaseEpoch : record.execution.leaseEpoch = epoch
  status : record.execution.status = .running ∨ record.execution.status = .uncertain ∨
    record.execution.status = .finalizing ∧ (releasesTargetLock record.execution.completionStatus = true ∨
      record.execution.completionStatus = .uncertain)

theorem resultSummaryStatus_completion {summary : ExecutorResult} {status : Status}
    (h : resultSummaryStatus summary = some status) : releasesTargetLock status ∨ status = .uncertain := by
  unfold resultSummaryStatus at h
  split at h
  · split at h <;> cases h
    · exact .inl rfl
    · exact .inl rfl
    · exact .inr rfl
  · cases h

theorem MemoryActionRecord.beaten_leaseEpoch (record : MemoryActionRecord) (sequence extension now : Int) :
    (record.beaten sequence extension now).execution.leaseEpoch = record.execution.leaseEpoch := by
  unfold MemoryActionRecord.beaten
  split <;> rfl

variable {codec : Codec} {holder : Holder} {queue : MemoryActionQueue} {label : Option Execution.Call}
  {executionID : GoString} {record record' : MemoryActionRecord} {epoch : Int}

theorem HoldsTarget.finalized (h : HoldsTarget epoch record) (hStatus : record.execution.status = .finalizing)
    (hGate : releasesTargetLock record.execution.completionStatus →
      credentialTerminal holder.gate record.execution false) (now : Int) :
    HoldsTarget epoch (record.finalized now) ∨ credentialTerminal holder.gate record.execution false := by
  rcases h.status with hOther | hOther | ⟨_, hReleases | hUncertain⟩
  · rw [hStatus] at hOther
    cases hOther
  · rw [hStatus] at hOther
    cases hOther
  · exact .inr (hGate hReleases)
  · exact .inl ⟨h.leaseEpoch, .inr (.inl hUncertain)⟩

theorem HoldsTarget.move (h : HoldsTarget epoch record)
    (hMove : Execution.Move codec holder.environment queue label executionID record record') :
    HoldsTarget epoch record' ∨ credentialTerminal holder.gate record.execution false := by
  have hStatus := h.status
  cases hMove with
  | recover hFinalizing _ _ _ hGate | finalize _ _ _ hFinalizing _ _ hGate => exact h.finalized hFinalizing hGate _
  | lapse => exact .inl ⟨h.leaseEpoch, .inr (.inl rfl)⟩
  | complete _ hSummary =>
    exact .inl ⟨h.leaseEpoch, .inr (.inr ⟨rfl, resultSummaryStatus_completion hSummary⟩)⟩
  | requestCancel => exact .inl ⟨h.leaseEpoch, hStatus⟩
  | heartbeat _ _ _ _ hBeating =>
    refine .inl ⟨(MemoryActionRecord.beaten_leaseEpoch _ _ _ _).trans h.leaseEpoch, ?_⟩
    rw [record.beaten_status]
    rcases hBeating with hLeased | hRunning
    · simp [hLeased] at hStatus
    · exact .inl hRunning
  | reconcile _ _ _ _ hGate => exact .inr hGate
  | claim _ hClaimable =>
    simp only [MemoryActionQueue.claimable, Bool.and_eq_true, beq_iff_eq] at hClaimable
    simp [hClaimable.1.1.1.1.1.1] at hStatus
  | requeue hLeased | start _ _ _ _ hLeased | reject _ _ _ hLeased | nack _ _ _ hLeased => simp [hLeased] at hStatus
  | cancel _ hTerminal hOther =>
    rcases hStatus with hRunning | hUncertain | ⟨hFinalizing, _⟩
    · exact absurd hRunning hOther.2
    · simp [Execution.terminal, terminalStatus, hUncertain] at hTerminal
    · exact absurd hFinalizing hOther.1

end Queue

section Repository

variable {sha256Hex : GoString → GoString} {repository : MemoryRepository}
  {input : Credential.Call × Credential.Environment}

def LeaseTerminal (repository : MemoryRepository) (actionID : GoString) (epoch : Int) : Prop :=
  ∃ id record, repository.actionEpochs.get? (actionEpochKey actionID epoch) = some id ∧
    repository.record? id = some record ∧ record.revocation.terminal = true

theorem step_advances (sha256Hex : GoString → GoString) (input : Credential.Call × Credential.Environment)
    {id : GoString} {record : MemoryRevocationRecord} (hRecord : repository.record? id = some record) :
    ∃ record', (repository.step sha256Hex input).2.record? id = some record' ∧ Advances record record' ∧
      record'.preparedFields = record.preparedFields := by
  obtain ⟨_, _⟩ := input
  have hUnconstrained : Credential.RecordInvariant sha256Hex (fun _ => True) (fun _ _ => True) := .unconstrained
  refine hUnconstrained.step_related (R := fun record record' =>
    Advances record record' ∧ record'.preparedFields = record.preparedFields) ?_ ?_ trivial ?_ ?_ hRecord
  · intro record
    exact ⟨.refl record, rfl⟩
  · intro _ _ _ hFirst hSecond
    exact ⟨hFirst.1.trans hSecond.1, hSecond.2.trans hFirst.2⟩
  · intro id record record' hMove _
    exact ⟨hMove.advances, hMove.preparedFields_eq⟩
  · intro _ _ _
    trivial

variable {actionID : GoString} {epoch : Int}

theorem LeaseTerminal.step (h : LeaseTerminal repository actionID epoch) :
    LeaseTerminal (repository.step sha256Hex input).2 actionID epoch := by
  obtain ⟨id, record, hIndex, hRecord, hTerminal⟩ := h
  obtain ⟨_, hRecord', hAdvances, _⟩ := step_advances sha256Hex input hRecord
  rw [hAdvances.final hTerminal] at hRecord'
  exact ⟨id, record, step_index hIndex, hRecord', hTerminal⟩

theorem inspectCleanup_terminal (env : Credential.Environment) (actionID : GoString) (epoch : Int) :
    Ends (inspectCleanup env actionID epoch) repository (fun reply _ =>
      reply = .ok (true, true) → LeaseTerminal repository actionID epoch) := by
  unfold inspectCleanup
  apply Ends.attempt fun _ _ => nofun
  intro _ _
  apply Ends.ensure nofun
  intro _
  apply Ends.get
  split
  · exact nofun
  · rename_i id hIndex
    apply Ends.found nofun
    intro record hRecord
    apply Ends.pure
    intro hReply
    simp only [Except.ok.injEq, Prod.mk.injEq, true_and] at hReply
    exact ⟨id, record, hIndex, hRecord, hReply⟩

theorem cleanupAnswer_terminal {env : Credential.Environment}
    (hPresent : (cleanupAnswer repository env actionID epoch).present)
    (hTerminal : (cleanupAnswer repository env actionID epoch).terminal) :
    LeaseTerminal repository actionID epoch := by
  apply inspectCleanup_terminal env actionID epoch
  unfold cleanupAnswer at hPresent hTerminal
  split at hPresent
  · rename_i present terminal hReply
    rw [hReply] at hTerminal ⊢
    cases hPresent
    cases hTerminal
    rfl
  · cases hPresent

def AnswersHold (repository : MemoryRepository) (answers : GoMap (GoString × Int) CleanupAnswer) : Prop :=
  ∀ actionID epoch answer, answers.get? (actionID, epoch) = some answer → answer.present = true →
    answer.terminal = true → LeaseTerminal repository actionID epoch

theorem AnswersHold.insert {answers : GoMap (GoString × Int) CleanupAnswer} (h : AnswersHold repository answers)
    (env : Credential.Environment) (actionID : GoString) (epoch : Int) :
    AnswersHold repository (answers.insert (actionID, epoch) (cleanupAnswer repository env actionID epoch)) := by
  intro otherID otherEpoch answer hAnswer hPresent hTerminal
  rcases GoMap.get?_insert_cases hAnswer with ⟨hSame, rfl⟩ | ⟨_, hAnswer⟩
  · cases hSame
    exact cleanupAnswer_terminal hPresent hTerminal
  · exact h otherID otherEpoch answer hAnswer hPresent hTerminal

theorem AnswersHold.gate {holder : Holder} {execution : Execution} (h : AnswersHold repository holder.answers)
    (hPool : execution.pool = .write) (hGate : credentialTerminal holder.gate execution false) :
    LeaseTerminal repository execution.executionID execution.leaseEpoch := by
  simp only [credentialTerminal, hPool, Holder.gate] at hGate
  cases hAnswer : holder.answers.get? (execution.executionID, execution.leaseEpoch) with
  | none => simp [hAnswer] at hGate
  | some answer =>
    simp [hAnswer] at hGate
    obtain ⟨⟨_, hAbsent | hTerminal⟩, hPresent⟩ := hGate
    · rw [hPresent] at hAbsent
      cases hAbsent
    · exact h _ _ answer hAnswer hPresent hTerminal

end Repository

/-- Every revocation is the one of its lease, records are stored under their own name, and the answers the
holder of the queue lock has are still right. -/
structure Consistent (system : System) : Prop where
  indexed : Indexed system.repository
  keyed : system.queue.Keyed
  answers : ∀ holder, system.holder = some holder → AnswersHold system.repository holder.answers

/-- While the credential of this revocation may be live, its action holds the target under the same lease. -/
def Covered (system : System) (id : GoString) : Prop :=
  ∃ record, system.repository.record? id = some record ∧ (record.revocation.terminal = false →
    ∃ action, system.queue.record? record.revocation.actionID = some action ∧
      (action.execution.pool = .write → HoldsTarget record.revocation.actionLeaseEpoch action))

section Steps

variable {codec : Codec} {system system' : System} {event : Event} {outcome : Outcome} {id : GoString}

variable {queue queue' : MemoryActionQueue} {label : Option Execution.Call} {env : Credential.Environment}

theorem keyed_write {env : Execution.Environment}
    (h : Write codec env label queue queue') (hKeyed : queue.Keyed) : queue'.Keyed :=
  (MemoryActionQueue.keyed_invariant codec).write_any h hKeyed

theorem Consistent.effect (h : Consistent system) (hEffect : Effect codec system event outcome system') :
    Consistent system' := by
  cases hEffect with
  | waiting => exact h
  | enter =>
    refine ⟨h.indexed, h.keyed, ?_⟩
    rintro holder hHolder
    cases hHolder
    intro _ _ _ hNone
    cases hNone
  | @inspect holder env actionID epoch hHolder =>
    refine ⟨h.indexed, h.keyed, ?_⟩
    intro holder' hHolder'
    cases hHolder'
    exact (h.answers holder hHolder).insert env actionID epoch
  | @sweep holder rest queue' hHolder hWrites =>
    refine ⟨h.indexed, ?_, ?_⟩
    · induction hWrites with
      | refl => exact h.keyed
      | tail _ hWrite ih => exact keyed_write hWrite ih
    · intro holder' hHolder'
      cases hHolder'
      exact h.answers holder hHolder
  | @leave holder reply queue' hHolder hMoved =>
    refine ⟨h.indexed, ?_, ?_⟩
    · rcases hMoved with rfl | hWrite
      · exact h.keyed
      · exact keyed_write hWrite h.keyed
    · intro holder' hHolder'
      cases hHolder'
  | serve =>
    refine ⟨h.indexed.step _, h.keyed, ?_⟩
    intro holder hHolder actionID epoch answer hAnswer hPresent hTerminal
    exact (h.answers holder hHolder actionID epoch answer hAnswer hPresent hTerminal).step

theorem Covered.write {holder : Holder}
    (hIndexed : Indexed system.repository) (hKeyed : queue.Keyed) (hAnswers : AnswersHold system.repository holder.answers)
    (hWrite : Write codec holder.environment label queue queue') (h : Covered { system with queue := queue } id) :
    Covered { system with queue := queue' } id := by
  obtain ⟨record, hRecord, hHolds⟩ := h
  refine ⟨record, hRecord, ?_⟩
  intro hLive
  obtain ⟨action, hAction, hTarget⟩ := hHolds hLive
  obtain ⟨action', hAction', hSame | hMove⟩ := MemoryActionQueue.write_keeps hWrite hAction
  · rw [hSame] at hAction'
    exact ⟨action, hAction', hTarget⟩
  · refine ⟨action', hAction', ?_⟩
    intro hPool'
    have hPool : action.execution.pool = .write :=
      (congrArg RecordIdentity.pool hMove.identity_eq).symm.trans hPool'
    rcases (hTarget hPool).move hMove with hStill | hGate
    · exact hStill
    · -- The gate spoke of the revocation this lease is indexed under, which is this live one.
      obtain ⟨_, _, hIndex, hOther, hTerminal⟩ := hAnswers.gate hPool hGate
      rw [hKeyed _ _ hAction, (hTarget hPool).leaseEpoch, hIndexed id record hRecord] at hIndex
      cases hIndex
      cases hRecord.symm.trans hOther
      rw [hLive] at hTerminal
      cases hTerminal

theorem Covered.effect (hConsistent : Consistent system) (h : Covered system id)
    (hEffect : Effect codec system event outcome system') : Covered system' id := by
  cases hEffect with
  | waiting | enter | inspect => exact h
  | @sweep holder rest queue' hHolder hWrites =>
    have hKept : Covered { system with queue := queue' } id ∧ queue'.Keyed := by
      induction hWrites with
      | refl => exact ⟨h, hConsistent.keyed⟩
      | tail _ hWrite ih =>
        exact ⟨ih.1.write hConsistent.indexed ih.2 (hConsistent.answers holder hHolder) hWrite, keyed_write hWrite ih.2⟩
    exact hKept.1
  | @leave holder reply queue' hHolder hMoved =>
    rcases hMoved with rfl | hWrite
    · exact h
    · exact Covered.write hConsistent.indexed hConsistent.keyed (hConsistent.answers holder hHolder) hWrite h
  | @serve call env =>
    obtain ⟨record, hRecord, hHolds⟩ := h
    obtain ⟨record', hRecord', hAdvances, hFields⟩ :=
      step_advances codec.sha256Hex (call, overQueue codec system.queue env) hRecord
    refine ⟨record', hRecord', ?_⟩
    intro hLive'
    have hLive : record.revocation.terminal = false := by
      by_contra hTerminal
      rw [hAdvances.final (Bool.of_not_eq_false hTerminal)] at hLive'
      exact hTerminal hLive'
    have hActionID : record'.revocation.actionID = record.revocation.actionID :=
      congrArg PreparedFields.actionID hFields
    have hEpoch : record'.revocation.actionLeaseEpoch = record.revocation.actionLeaseEpoch :=
      congrArg PreparedFields.actionLeaseEpoch hFields
    rw [hActionID, hEpoch]
    exact hHolds hLive

theorem inspected_overQueue {queue : MemoryActionQueue} {n : Nat} {actionID : GoString}
    {inspection : ActionInspection} (h : (overQueue codec queue env).Inspected n actionID inspection) :
    ∃ action given, queue.record? actionID = some action ∧ inspection = inspectAction codec action given := by
  obtain ⟨_, hSource, hHead⟩ := h
  simp only [overQueue, Option.map_eq_some_iff] at hSource
  obtain ⟨given, _, rfl⟩ := hSource
  unfold lockedSource at hHead
  cases hAction : queue.record? actionID with
  | none => simp [hAction] at hHead
  | some action =>
    simp only [hAction, List.head?_map, Option.map_eq_some_iff] at hHead
    obtain ⟨first, _, hFirst⟩ := hHead
    exact ⟨action, first, rfl, hFirst.symm⟩

theorem status_of_reported_running {status : Status} (h : actionStatus status = .running) : status = .running := by
  cases status <;> first | rfl | cases h

theorem covered_of_authorized {request : AuthorizeChildCreateRequest} {authorization : ChildCreateAuthorization}
    (hEffect : Effect codec system (.credential (.authorizeChildCreate request) env)
      (.credential (.ok (.authorization authorization))) system') : Covered system' request.permit.revocationID := by
  generalize hOutcome : Outcome.credential (.ok (.authorization authorization)) = outcome at hEffect
  cases hEffect with
  | waiting => cases hOutcome
  | serve =>
    obtain ⟨reply, hMapped, hOk⟩ := step_ends codec.sha256Hex system.repository
      (.authorizeChildCreate request) (overQueue codec system.queue env) Credential.Answer.authorization rfl
      (authorizeChildCreate_ok request)
    rw [hMapped] at hOutcome
    cases reply with
    | error => cases hOutcome
    | ok =>
      cases hOutcome
      obtain ⟨record, _, ttl, _, hAuthorizes, hStored, _⟩ := hOk authorization rfl
      obtain ⟨action, _, hAction, rfl⟩ := inspected_overQueue hAuthorizes.inspected
      obtain ⟨_, hRunning, _, _, hEpoch, _⟩ := hAuthorizes.current
      refine ⟨record.childCreateAuthorized ((overQueue codec system.queue env).clock 0) ttl, ?_, ?_⟩
      · rw [hStored, MemoryRepository.record?_store, if_pos rfl]
      · intro _
        refine ⟨action, ?_, ?_⟩
        · rw [← hAction, ← hAuthorizes.fence.1]
          rfl
        · intro _
          exact ⟨hEpoch, .inl (status_of_reported_running hRunning)⟩

end Steps

section Runs

variable (codec : Codec) (events : List Event)

/-- An authorization of a child for this revocation succeeded before this position of the run. -/
def AuthorizedBefore (n : Nat) (id : GoString) : Prop :=
  ∃ k request env authorization, k < n ∧ events[k]? = some (.credential (.authorizeChildCreate request) env) ∧
    (((System.machine codec).stateAt events k).step codec (.credential (.authorizeChildCreate request) env)).1 =
      .credential (.ok (.authorization authorization)) ∧
    request.permit.revocationID = id

theorem stateAt_consistent (n : Nat) : Consistent ((System.machine codec).stateAt events n) := by
  refine (System.machine codec).stateAt_invariant (P := Consistent) ?_ ?_ events n
  · refine ⟨?_, ?_, ?_⟩
    · intro id record hNone
      cases hNone
    · intro id record hNone
      cases hNone
    · intro _ hNone
      cases hNone
  · intro system event h
    exact h.effect (System.step_effect system event)

theorem stateAt_covered (n : Nat) :
    ∀ id, AuthorizedBefore codec events n id → Covered ((System.machine codec).stateAt events n) id := by
  induction n with
  | zero =>
    rintro id ⟨k, _, _, _, hk, _⟩
    omega
  | succ n ih =>
    rintro id ⟨k, request, env, authorization, hk, hEvent, hReply, rfl⟩
    rcases Nat.lt_succ_iff_lt_or_eq.mp hk with hlt | rfl
    · have hBefore := ih _ ⟨k, request, env, authorization, hlt, hEvent, hReply, rfl⟩
      cases hNext : events[n]? with
      | none =>
        rw [Machine.stateAt_succ_of_none _ hNext]
        exact hBefore
      | some event =>
        rw [Machine.stateAt_succ _ hNext]
        exact hBefore.effect (stateAt_consistent codec events n) (System.step_effect _ event)
    · rw [Machine.stateAt_succ _ hEvent]
      have hEffect : Effect codec _ _ _ _ := System.step_effect ((System.machine codec).stateAt events k)
        (.credential (.authorizeChildCreate request) env)
      rw [hReply] at hEffect
      exact covered_of_authorized hEffect

end Runs

/-- In every state of every interleaving, a child credential that was authorized and is neither revoked nor ruled
out belongs to an action that still holds its target under the same lease. -/
theorem no_credential_outlives_target_lock (codec : Codec) (events : List Event) (n : Nat) (id : GoString)
    (record : MemoryRevocationRecord) (hAuthorized : AuthorizedBefore codec events n id)
    (hRecord : ((System.machine codec).stateAt events n).repository.record? id = some record)
    (hLive : record.revocation.status ≠ .revoked ∧ record.revocation.status ≠ .noCredential) :
    ∃ action, ((System.machine codec).stateAt events n).queue.record? record.revocation.actionID = some action ∧
      (action.execution.pool = .write →
        action.execution.leaseEpoch = record.revocation.actionLeaseEpoch ∧
        (action.execution.status = .running ∨ action.execution.status = .finalizing ∨
          action.execution.status = .uncertain) ∧
        actionLeaseActive action.execution.status = true) := by
  obtain ⟨covered, hCovered, hHolds⟩ := stateAt_covered codec events n id hAuthorized
  obtain rfl : covered = record := Option.some.inj (hCovered.symm.trans hRecord)
  have hOpen : covered.revocation.terminal = false := by
    simp [Revocation.terminal, hLive.1, hLive.2]
  obtain ⟨action, hAction, hTarget⟩ := hHolds hOpen
  refine ⟨action, hAction, ?_⟩
  intro hPool
  obtain ⟨hEpoch, hRunning | hUncertain | ⟨hFinalizing, _⟩⟩ := hTarget hPool
  · exact ⟨hEpoch, .inl hRunning, by simp [hRunning, actionLeaseActive]⟩
  · exact ⟨hEpoch, .inr (.inr hUncertain), by simp [hUncertain, actionLeaseActive]⟩
  · exact ⟨hEpoch, .inr (.inl hFinalizing), by simp [hFinalizing, actionLeaseActive]⟩

section Sample

def sampleCodec : Codec where
  sha256Hex := digestTable [
    (((semanticDocument (sampleSubmission "action-1" "restart-1" .write)).getD .null).canonicalForm,
      ascii "bd60995b0b3e9692d7479545d13ac270fe8a4055ac23db7cb8959e14f5b72c7d"),
    (ascii "lease-token-1", ascii "9c643ab414e95a4ed50d456956689fac158a15060e609ce622c3bf667af0f63a"),
    (ascii "permit-1", ascii "78fe2c1f9acaa46c349434e12d2c99700e8be52ed4bf9064332a8c7bde660e1d"),
    (joinZero (ascii "action-queue-cancel-intent.v1") (ascii "REQUESTED"),
      ascii "52241c8eb44b2578b6036a15f979c107805201014b7f87f47755938850173305")]
  canonical := fun document => some document.canonicalForm

def sampleLease : LeaseIdentity where
  executionID := ascii "action-1"
  runnerID := ascii "runner-1"
  token := ascii "lease-token-1"
  epoch := 1

/-- A write action is claimed and started, a child credential is prepared and authorized for it, and then a
cancellation finds its lease still running. -/
def sampleEvents : List Event :=
  [.enter (.submit (sampleSubmission "action-1" "restart-1" .write)) (Execution.sampleEnvironment Execution.sampleClock),
    .leave,
    .enter (.claim { scope := sampleScope .write, leaseDuration := minute })
      (Execution.sampleEnvironment Execution.sampleClock),
    .sweep, .sweep, .leave,
    .enter (.start sampleLease) (Execution.sampleEnvironment Execution.sampleClock),
    .credential (.prepare MemoryRepository.samplePrepare)
      (MemoryRepository.sampleEnvironment MemoryRepository.sampleClock),
    .leave,
    .credential (.authorizeChildCreate MemoryRepository.samplePermit)
      (MemoryRepository.sampleEnvironment MemoryRepository.sampleClock),
    .enter (.cancel (ascii "action-1")) (Execution.sampleEnvironment Execution.sampleClock),
    .sweep, .sweep,
    .inspect (MemoryRepository.sampleEnvironment MemoryRepository.sampleClock) (ascii "action-1") 1,
    .leave]

def sampleAuthorization : Option ChildCreateAuthorization :=
  match (((System.machine sampleCodec).stateAt sampleEvents 9).step sampleCodec (.credential
    (.authorizeChildCreate MemoryRepository.samplePermit)
    (MemoryRepository.sampleEnvironment MemoryRepository.sampleClock))).1 with
  | .credential (.ok (.authorization authorization)) => some authorization
  | _ => none

def sampleStatus : Option RevocationStatus :=
  (((System.machine sampleCodec).stateAt sampleEvents 15).repository.record? MemoryRepository.sampleID).map
    (·.revocation.status)

def samplePool : Option (GoString × Option Pool) :=
  (((System.machine sampleCodec).stateAt sampleEvents 15).repository.record? MemoryRepository.sampleID).map
    (fun record => (record.revocation.actionID,
      (((System.machine sampleCodec).stateAt sampleEvents 15).queue.record? record.revocation.actionID).map
        (·.execution.pool)))

end Sample

theorem no_credential_outlives_target_lock_cancel :
    AuthorizedBefore sampleCodec sampleEvents 15 MemoryRepository.sampleID ∧ sampleStatus = some .prepared ∧
    samplePool = some (ascii "action-1", some .write) ∧
    ∃ record action,
      ((System.machine sampleCodec).stateAt sampleEvents 15).repository.record? MemoryRepository.sampleID =
        some record ∧
      ((System.machine sampleCodec).stateAt sampleEvents 15).queue.record? record.revocation.actionID = some action ∧
      action.execution.leaseEpoch = record.revocation.actionLeaseEpoch ∧
      actionLeaseActive action.execution.status = true := by
  have hAuthorization : sampleAuthorization.isSome = true := by decide +kernel
  have hStatus : sampleStatus = some .prepared := by decide +kernel
  have hPool : samplePool = some (ascii "action-1", some .write) := by decide +kernel
  have hAuthorized : AuthorizedBefore sampleCodec sampleEvents 15 MemoryRepository.sampleID := by
    obtain ⟨authorization, hReply⟩ := Option.isSome_iff_exists.mp hAuthorization
    refine ⟨9, MemoryRepository.samplePermit, _, authorization, by decide, rfl, ?_, rfl⟩
    unfold sampleAuthorization at hReply
    split at hReply
    · rename_i found hFound
      cases hReply
      exact hFound
    · cases hReply
  refine ⟨hAuthorized, hStatus, hPool, ?_⟩
  obtain ⟨record, hRecord, hPrepared⟩ := Option.map_eq_some_iff.mp hStatus
  obtain ⟨action, hAction, hHolds⟩ := no_credential_outlives_target_lock sampleCodec sampleEvents 15
    MemoryRepository.sampleID record hAuthorized hRecord (by simp [hPrepared])
  simp only [samplePool, hRecord, Option.map_some, hAction, Option.some.injEq, Prod.mk.injEq] at hPool
  obtain ⟨hEpoch, _, hActive⟩ := hHolds hPool.2
  exact ⟨record, action, hRecord, hAction, hEpoch, hActive⟩

theorem Effect.queue_keeps {codec : Codec} {system system' : System} {event : Event} {outcome : Outcome}
    {P : MemoryActionQueue → Prop} (h : Effect codec system event outcome system')
    (hWrite : ∀ {env label queue queue'}, Write codec env label queue queue' → P queue → P queue')
    (hQueue : P system.queue) : P system'.queue := by
  cases h with
  | sweep _ hWrites =>
    induction hWrites with
    | refl => exact hQueue
    | tail _ hLast ih => exact hWrite hLast ih
  | leave _ hMoved =>
    rcases hMoved with rfl | hMoved
    · exact hQueue
    · exact hWrite hMoved hQueue
  | _ => exact hQueue

theorem stateAt_exclusive (codec : Codec) (events : List Event) (n : Nat) :
    ((System.machine codec).stateAt events n).queue.Keyed ∧ ((System.machine codec).stateAt events n).queue.Exclusive :=
  (System.machine codec).stateAt_invariant (P := fun system => system.queue.Keyed ∧ system.queue.Exclusive)
    MemoryActionQueue.exclusive_new (fun system event hQueue => (System.step_effect system event).queue_keeps
      (P := fun queue => queue.Keyed ∧ queue.Exclusive) MemoryActionQueue.exclusive_write hQueue) events n

/-- The child credentials that may be in use on a target: authorized, neither revoked nor ruled out, and of a write
action on this target. -/
def liveCredentials (codec : Codec) (events : List Event) (n : Nat) (target : GoString) : Set GoString :=
  {id | AuthorizedBefore codec events n id ∧ ∃ record action,
    ((System.machine codec).stateAt events n).repository.record? id = some record ∧
    record.revocation.terminal = false ∧
    ((System.machine codec).stateAt events n).queue.record? record.revocation.actionID = some action ∧
    action.execution.pool = .write ∧ action.execution.targetKey = target}

/-- In every state of every interleaving a target has at most one child credential that may be in use. -/
theorem one_live_credential_for_each_target (codec : Codec) (events : List Event) (n : Nat) (target : GoString) :
    (liveCredentials codec events n target).Subsingleton := by
  have hHolds : ∀ id ∈ liveCredentials codec events n target, ∃ actionID action,
      ((System.machine codec).stateAt events n).queue.record? actionID = some action ∧
      action.execution.targetKey = target ∧ actionLeaseActive action.execution.status = true ∧
      ((System.machine codec).stateAt events n).repository.actionEpochs.get?
        (actionEpochKey actionID action.execution.leaseEpoch) = some id := by
    rintro id ⟨hAuthorized, record, action, hRecord, hLive, hAction, hPool, hTarget⟩
    obtain ⟨covered, hCovered, hHolds⟩ := stateAt_covered codec events n id hAuthorized
    cases hCovered.symm.trans hRecord
    obtain ⟨held, hHeld, hTarget'⟩ := hHolds hLive
    cases hHeld.symm.trans hAction
    obtain ⟨hEpoch, hStatus⟩ := hTarget' hPool
    refine ⟨_, action, hAction, hTarget, ?_, ?_⟩
    · rcases hStatus with hStatus | hStatus | ⟨hStatus, _⟩ <;> simp [hStatus, actionLeaseActive]
    · rw [hEpoch]
      exact (stateAt_consistent codec events n).indexed id record hRecord
  intro id hID id' hID'
  obtain ⟨actionID, action, hAction, hTarget, hActive, hIndex⟩ := hHolds id hID
  obtain ⟨actionID', action', hAction', hTarget', hActive', hIndex'⟩ := hHolds id' hID'
  obtain rfl : actionID = actionID' := by
    by_contra hOther
    exact (stateAt_exclusive codec events n).2 actionID actionID' action action' hAction hAction' hOther
      (hTarget.trans hTarget'.symm) ⟨hActive, hActive'⟩
  cases hAction.symm.trans hAction'
  exact Option.some.inj (hIndex.symm.trans hIndex')

end AiopsSystem.Finalization
