import AiopsSystem.Execution.Submission

/-! # The shape of a lease

A record holds a token and an expiry exactly while it is leased or running,
and the expiry stays below the deadline of the action and thirty minutes after
the last heartbeat. The zero instant marks the absence of an expiry, so the
shape needs that no claim or heartbeat makes a lease end at that very instant.
-/

namespace AiopsSystem.Execution

open Go AiopsSystem.Action ExecutionLease MemoryActionQueue

def liveStatus (status : Status) : Prop := status = .leased ∨ status = .running

/-- The lease a claim or a heartbeat computes from its clock does not end at the zero instant. -/
def LeaseEndsNonzero : Call × Environment → Prop
  | (.claim request, env) => ∀ attempt, (env.draws attempt).clock + request.leaseDuration ≠ 0
  | (.heartbeat request, env) => env.clock + request.extension ≠ 0
  | _ => True

structure LeaseShape (record : MemoryActionRecord) : Prop where
  token : liveStatus record.execution.status ↔ record.execution.leaseToken ≠ []
  expiry : liveStatus record.execution.status ↔ record.execution.leaseExpiresAt ≠ 0
  deadline : liveStatus record.execution.status → record.execution.leaseExpiresAt ≤ record.deadline
  heartbeat : liveStatus record.execution.status →
    record.execution.leaseExpiresAt ≤ record.execution.lastHeartbeatAt + maximumActionLease
  workspace : liveStatus record.execution.status →
    record.execution.runnerWorkspaceID = record.submission.envelope.workspaceID
  environment : liveStatus record.execution.status →
    record.execution.runnerEnvironmentID = record.submission.envelope.target.environmentID
  production : liveStatus record.execution.status →
    ¬ (record.execution.pool = .write ∧ record.execution.production = true)

structure ShapedRecord (record : MemoryActionRecord) : Prop where
  bounded : record.deadline ≠ 0
  concluding : Concluding record
  shape : LeaseShape record

theorem MemoryActionRecord.leaseEnd_le_deadline (record : MemoryActionRecord) (now duration : Int) :
    record.leaseEnd now duration ≤ record.deadline := by
  unfold leaseEnd
  split <;> omega

variable {now duration : Int} {record : MemoryActionRecord}

theorem MemoryActionRecord.leaseEnd_le (record : MemoryActionRecord)
    (h : duration ≤ maximumActionLease) : record.leaseEnd now duration ≤ now + maximumActionLease := by
  unfold leaseEnd
  split <;> omega

theorem MemoryActionRecord.leaseEnd_ne_zero (record : MemoryActionRecord)
    (hDeadline : record.deadline ≠ 0) (h : now + duration ≠ 0) : record.leaseEnd now duration ≠ 0 := by
  unfold leaseEnd
  split
  · exact hDeadline
  · exact h

theorem LeaseShape.of_idle (hStatus : ¬ liveStatus record.execution.status)
    (hToken : record.execution.leaseToken = []) (hExpiry : record.execution.leaseExpiresAt = 0) :
    LeaseShape record where
  token := by simp [hStatus, hToken]
  expiry := by simp [hStatus, hExpiry]
  deadline := fun h => absurd h hStatus
  heartbeat := fun h => absurd h hStatus
  workspace := fun h => absurd h hStatus
  environment := fun h => absurd h hStatus
  production := fun h => absurd h hStatus

theorem LeaseShape.idle (h : LeaseShape record) (hStatus : ¬ liveStatus record.execution.status) :
    record.execution.leaseToken = [] ∧ record.execution.leaseExpiresAt = 0 := by
  constructor
  · by_contra hToken
    exact hStatus (h.token.mpr hToken)
  · by_contra hExpiry
    exact hStatus (h.expiry.mpr hExpiry)

section Moves

variable {codec : Codec} {env : Environment} {queue : MemoryActionQueue} {executionID : GoString}
  {record : MemoryActionRecord}

variable {request : ActionClaimRequest}

theorem validateRunnerScope_duration (h : validateRunnerScope request = .ok ()) :
    request.leaseDuration ≤ maximumActionLease := by
  simp only [validateRunnerScope, bind_eq_ok, require_eq_ok] at h
  obtain ⟨_, ⟨_, _, _, _, _, _, hDuration⟩, _⟩ := h
  exact hDuration

theorem LeaseShape.leased {token : GoString} {now earlier : Int}
    (hDeadline : record.deadline ≠ 0) (hRequest : validateRunnerScope request = .ok ())
    (hClaimable : claimable request queue earlier record) (hToken : validIdentifier token 256)
    (hEnd : now + request.leaseDuration ≠ 0) : LeaseShape (record.leased request token now) := by
  have hLive : liveStatus (record.leased request token now).execution.status := .inl rfl
  have hNonempty : token ≠ [] := by
    simp only [validIdentifier, Bool.and_eq_true] at hToken
    exact matchesHeadTail_ne_nil hToken.2
  refine ⟨iff_of_true hLive hNonempty, iff_of_true hLive (record.leaseEnd_ne_zero hDeadline hEnd), ?_, ?_, ?_, ?_, ?_⟩
  · intro _
    exact record.leaseEnd_le_deadline _ _
  · intro _
    exact record.leaseEnd_le (validateRunnerScope_duration hRequest)
  · intro _
    rfl
  · intro _
    rfl
  · rintro _ ⟨hPool, hProduction⟩
    simp only [MemoryActionRecord.leased] at hPool hProduction
    simp [claimable, hPool, hProduction] at hClaimable

theorem LeaseShape.beaten {sequence extension now : Int} (h : LeaseShape record) (hDeadline : record.deadline ≠ 0)
    (hStatus : liveStatus record.execution.status) (hExtension : extension ≤ maximumActionLease)
    (hEnd : now + extension ≠ 0) : LeaseShape (record.beaten sequence extension now) := by
  unfold MemoryActionRecord.beaten
  split
  · exact ⟨h.token, iff_of_true hStatus (record.leaseEnd_ne_zero hDeadline hEnd),
      fun _ => record.leaseEnd_le_deadline _ _, fun _ => record.leaseEnd_le hExtension, h.workspace, h.environment,
      h.production⟩
  · exact ⟨h.token, h.expiry, h.deadline, h.heartbeat, h.workspace, h.environment, h.production⟩

theorem LeaseShape.started (h : LeaseShape record) (hStatus : record.execution.status = .leased) (now : Int) :
    LeaseShape (record.started now) := by
  have hLive : liveStatus record.execution.status := .inl hStatus
  have hLive' : liveStatus (record.started now).execution.status := .inr rfl
  exact ⟨iff_of_true hLive' (h.token.mp hLive), iff_of_true hLive' (h.expiry.mp hLive), fun _ => h.deadline hLive,
    fun _ => h.heartbeat hLive, fun _ => h.workspace hLive, fun _ => h.environment hLive, fun _ => h.production hLive⟩

theorem not_live_of_finalizing (hStatus : record.execution.status = .finalizing) :
    ¬ liveStatus record.execution.status := by
  rw [hStatus]
  rintro (h | h) <;> cases h

theorem LeaseShape.finalized (h : LeaseShape record) (hStatus : record.execution.status = .finalizing)
    (hConcluding : Concluding record) (now : Int) : LeaseShape (record.finalized now) := by
  obtain ⟨hToken, hExpiry⟩ := h.idle (not_live_of_finalizing hStatus)
  obtain ⟨hLeased, hRunning, _⟩ := finalized_idle hStatus hConcluding now
  refine .of_idle ?_ hToken hExpiry
  rintro (hLive | hLive)
  · exact hLeased hLive
  · exact hRunning hLive

theorem shaped_invariant (codec : Codec) :
    RecordInvariant codec LeaseEndsNonzero (fun _ record => ShapedRecord record) where
  submitted := by
    intro submission _ _ hValid _
    refine ⟨(checked_of_validateActionSubmission hValid).expiresAt, nofun, .of_idle ?_ rfl rfl⟩
    rintro (h | h) <;> cases h
  moved := by
    intro call env hAdmitted queue label executionID record record' hLabel hMove hRecord
    obtain ⟨hDeadline, hConcluding, hShape⟩ := hRecord
    have hDeadline' : record'.deadline ≠ 0 := by
      have hSubmission : record'.submission = record.submission :=
        congrArg RecordIdentity.submission hMove.identity_eq
      rwa [MemoryActionRecord.deadline, hSubmission]
    have hConcluding' : Concluding record' :=
      (concluding_invariant codec).moved call env trivial queue label executionID record record' hLabel hMove hConcluding
    refine ⟨hDeadline', hConcluding', ?_⟩
    cases hMove with
    | recover hStatus | finalize _ _ _ hStatus => exact hShape.finalized hStatus hConcluding _
    | claim hRequest hClaimable _ _ hToken =>
      rcases hLabel with hLabel | hLabel
      · cases hLabel
      · cases hLabel
        exact .leased hDeadline hRequest hClaimable hToken (hAdmitted _)
    | heartbeat _ hExtension _ _ hStatus =>
      rcases hLabel with hLabel | hLabel
      · cases hLabel
      · cases hLabel
        exact hShape.beaten hDeadline hStatus hExtension.2 hAdmitted
    | start _ _ _ _ hStatus => exact hShape.started hStatus _
    | requestCancel =>
      exact ⟨hShape.token, hShape.expiry, hShape.deadline, hShape.heartbeat, hShape.workspace, hShape.environment,
        hShape.production⟩
    | reconcile _ hDecision _ hStatus =>
      have hIdle : ¬ liveStatus record.execution.status := by
        rw [hStatus]
        rintro (h | h) <;> cases h
      obtain ⟨hToken, hExpiry⟩ := hShape.idle hIdle
      refine .of_idle ?_ hToken hExpiry
      simp only [MemoryActionRecord.reconciled]
      rcases hDecision with hDecision | hDecision <;> rw [hDecision] <;> rintro (h | h) <;> cases h
    | requeue | lapse | complete | reject | nack | cancel =>
      refine .of_idle ?_ rfl rfl
      rintro (h | h) <;> cases h

end Moves

structure Frozen (record record' : MemoryActionRecord) : Prop where
  expiry : record.execution.status = .running → record.execution.cancelRequestedAt ≠ 0 →
    (record'.execution.status = .running ∧ record'.execution.cancelRequestedAt ≠ 0 ∧
      record'.execution.leaseExpiresAt = record.execution.leaseExpiresAt) ∨ decidedStatus record'.execution.status
  decided : decidedStatus record.execution.status → decidedStatus record'.execution.status

theorem Frozen.refl (record : MemoryActionRecord) : Frozen record record where
  expiry := fun hStatus hCancel => .inl ⟨hStatus, hCancel, rfl⟩
  decided := fun h => h

theorem Frozen.trans {first second third : MemoryActionRecord} (h : Frozen first second) (h' : Frozen second third) :
    Frozen first third where
  expiry := by
    intro hStatus hCancel
    rcases h.expiry hStatus hCancel with ⟨hStatus', hCancel', hSame⟩ | hDecided
    · rcases h'.expiry hStatus' hCancel' with ⟨hStatus'', hCancel'', hSame'⟩ | hDecided
      · exact .inl ⟨hStatus'', hCancel'', hSame'.trans hSame⟩
      · exact .inr hDecided
    · exact .inr (h'.decided hDecided)
  decided := fun hDecided => h'.decided (h.decided hDecided)

theorem Move.frozen {codec : Codec} {env : Environment} {queue : MemoryActionQueue} {label : Option Call}
    {executionID : GoString} {record record' : MemoryActionRecord}
    (h : Move codec env queue label executionID record record') (hConcluding : Concluding record) :
    Frozen record record' := by
  refine ⟨?_, fun hDecided => ((h.progress hConcluding).decided hDecided).1⟩
  intro hRunning hCancel
  cases h with
  | lapse => exact .inr (.inr (.inl rfl))
  | complete => exact .inr (.inl rfl)
  | requestCancel _ _ hFirst => exact absurd hFirst hCancel
  | heartbeat =>
    rw [MemoryActionRecord.beaten, if_neg hCancel]
    exact .inl ⟨hRunning, hCancel, rfl⟩
  | claim _ hClaimable => simp [claimable, hRunning] at hClaimable
  | cancel _ _ hStatus => exact absurd hRunning hStatus.2
  | recover hStatus | requeue hStatus | start _ _ _ _ hStatus | finalize _ _ _ hStatus | reject _ _ _ hStatus
  | nack _ _ _ hStatus | reconcile _ _ _ hStatus => exact absurd (hStatus.symm.trans hRunning) (by decide)

namespace MemoryActionQueue

theorem decided_not_running {status : Status} (h : decidedStatus status) : status ≠ .running := by
  rcases h with rfl | rfl | rfl | rfl <;> decide

/-- In every state of a run whose claims and heartbeats never make a lease end at the zero instant, exactly the
leased and running records hold a token and an expiry, within the deadline, the heartbeat bound, the scope of the
envelope and outside production writes; and a cancel request fixes the expiry while the record runs. -/
theorem lease_representation (codec : Codec) (inputs : List (Call × Environment))
    (hNonzero : ∀ input ∈ inputs, LeaseEndsNonzero input) :
    (∀ n id record, ((machine codec).stateAt inputs n).record? id = some record →
      (record.execution.status = .leased ∨ record.execution.status = .running ↔ record.execution.leaseToken ≠ []) ∧
      (record.execution.status = .leased ∨ record.execution.status = .running ↔
        record.execution.leaseExpiresAt ≠ 0) ∧
      (record.execution.status = .leased ∨ record.execution.status = .running →
        record.execution.leaseExpiresAt ≤ record.submission.envelope.expiresAt.instant ∧
        record.execution.leaseExpiresAt ≤ record.execution.lastHeartbeatAt + 30 * minute ∧
        record.execution.runnerWorkspaceID = record.submission.envelope.workspaceID ∧
        record.execution.runnerEnvironmentID = record.submission.envelope.target.environmentID ∧
        ¬ (record.execution.pool = .write ∧ record.execution.production = true))) ∧
    (∀ m n id record record', m ≤ n → ((machine codec).stateAt inputs m).record? id = some record →
      record.execution.status = .running → record.execution.cancelRequestedAt ≠ 0 →
      ((machine codec).stateAt inputs n).record? id = some record' → record'.execution.status = .running →
      record'.execution.leaseExpiresAt = record.execution.leaseExpiresAt) := by
  refine ⟨?_, ?_⟩
  · intro n id record hRecord
    have hShape := ((shaped_invariant codec).stateAt hNonzero n id record hRecord).shape
    refine ⟨hShape.token, hShape.expiry, ?_⟩
    intro hLive
    exact ⟨hShape.deadline hLive, hShape.heartbeat hLive, hShape.workspace hLive, hShape.environment hLive,
      hShape.production hLive⟩
  · intro m n id record record' hmn hRecord hRunning hCancel hRecord' hRunning'
    obtain ⟨_, hLater, hFrozen⟩ := (concluding_invariant codec).related Frozen.refl (fun _ _ _ => Frozen.trans)
      (fun _ _ _ _ _ _ hMove hConcluding => hMove.frozen hConcluding) inputs hmn id record hRecord
    rw [hRecord'] at hLater
    cases hLater
    rcases hFrozen.expiry hRunning hCancel with ⟨_, _, hSame⟩ | hDecided
    · exact hSame
    · exact absurd hRunning' (decided_not_running hDecided)

/-- The sample claim with a clock that reads one minute before the zero instant after the token was drawn. -/
def zeroLeaseRun : List (Call × Environment) :=
  [(.submit (sampleSubmission "action-1" "restart-1" .read), sampleEnvironment sampleClock),
    (.claim { scope := sampleScope .read, leaseDuration := minute },
      { sampleEnvironment sampleClock with
        draws := fun _ => { token := some (ascii "lease-token-1"), clock := -minute } })]

theorem zero_lease_never_expires :
    ∃ record, ((machine sampleCodec).stateAt zeroLeaseRun 2).record? (ascii "action-1") = some record ∧
      record.execution.status = .leased ∧ record.execution.leaseToken ≠ [] ∧ record.execution.leaseExpiresAt = 0 := by
  have hFields : (((machine sampleCodec).stateAt zeroLeaseRun 2).record? (ascii "action-1")).map
      (fun record => (record.execution.status, record.execution.leaseToken, record.execution.leaseExpiresAt)) =
        some (.leased, ascii "lease-token-1", 0) := by decide +kernel
  obtain ⟨record, hRecord, hEq⟩ := Option.map_eq_some_iff.mp hFields
  simp only [Prod.mk.injEq] at hEq
  obtain ⟨hStatus, hToken, hExpiry⟩ := hEq
  refine ⟨record, hRecord, hStatus, ?_, hExpiry⟩
  rw [hToken]
  decide

theorem sampleCompletedRun_leaseEndsNonzero : ∀ input ∈ sampleCompletedRun, LeaseEndsNonzero input := by
  intro input hInput
  simp only [sampleCompletedRun, sampleRun, List.cons_append, List.nil_append, List.mem_cons, List.not_mem_nil,
    or_false] at hInput
  rcases hInput with rfl | rfl | rfl | rfl | rfl | rfl
  all_goals first
    | trivial
    | exact fun _ => (by decide : sampleClock + minute ≠ 0)

theorem lease_representation_restart :
    (∀ input ∈ sampleCompletedRun, LeaseEndsNonzero input) ∧
      ∃ record, ((machine sampleCodec).stateAt sampleCompletedRun 4).record? (ascii "action-1") = some record ∧
        record.execution.status = .running ∧ record.execution.leaseToken ≠ [] ∧
        record.execution.leaseExpiresAt ≠ 0 := by
  obtain ⟨record, hRecord, hRunning⟩ := Option.map_eq_some_iff.mp sample_startsAt.2
  obtain ⟨hShape, _⟩ := lease_representation sampleCodec sampleCompletedRun sampleCompletedRun_leaseEndsNonzero
  obtain ⟨hToken, hExpiry, _⟩ := hShape 4 _ record hRecord
  exact ⟨sampleCompletedRun_leaseEndsNonzero, record, hRecord, hRunning, hToken.mp (.inr hRunning),
    hExpiry.mp (.inr hRunning)⟩

end MemoryActionQueue

end AiopsSystem.Execution
