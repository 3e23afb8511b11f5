import AiopsSystem.Execution.TargetLock

/-! # At most one start, and final outcomes

The statuses a record can be in after it was started are closed under every
move, so a started record is never offered again. Final records have no move
at all. A decided record, one whose outcome was written by a completion or by
the expiry of a running lease, keeps that outcome through finalization and
reconciliation.
-/

namespace AiopsSystem.Execution

open Go AiopsSystem.Action ExecutionLease MemoryActionQueue

def startedStatus (status : Status) : Prop :=
  status = .running ∨ status = .finalizing ∨ status = .uncertain ∨ status = .succeeded ∨ status = .failed

def finalStatus (status : Status) : Prop :=
  status = .succeeded ∨ status = .failed ∨ status = .cancelled

def decidedStatus (status : Status) : Prop :=
  status = .finalizing ∨ status = .uncertain ∨ status = .succeeded ∨ status = .failed

structure Outcome where
  completionStatus : Status
  resultHash : GoString
  receipt : Option RunnerResultReceipt

def MemoryActionRecord.outcome (record : MemoryActionRecord) : Outcome where
  completionStatus := record.execution.completionStatus
  resultHash := record.execution.resultHash
  receipt := record.receipt

def Concluding (record : MemoryActionRecord) : Prop :=
  record.execution.status = .finalizing →
    record.execution.completionStatus = .uncertain ∨ record.execution.completionStatus = .succeeded ∨
      record.execution.completionStatus = .failed

structure Progress (record record' : MemoryActionRecord) : Prop where
  started : startedStatus record.execution.status → startedStatus record'.execution.status
  final : finalStatus record.execution.status → record' = record
  decided : decidedStatus record.execution.status →
    decidedStatus record'.execution.status ∧ record'.outcome = record.outcome

theorem Progress.refl (record : MemoryActionRecord) : Progress record record where
  started := id
  final := fun _ => rfl
  decided := fun h => ⟨h, rfl⟩

theorem Progress.trans {first second third : MemoryActionRecord} (h : Progress first second)
    (h' : Progress second third) : Progress first third where
  started := fun hStatus => h'.started (h.started hStatus)
  final := by
    intro hFinal
    have hSame := h.final hFinal
    rw [hSame] at h'
    exact h'.final hFinal
  decided := by
    intro hDecided
    obtain ⟨hSecond, hOutcome⟩ := h.decided hDecided
    obtain ⟨hThird, hOutcome'⟩ := h'.decided hSecond
    exact ⟨hThird, hOutcome'.trans hOutcome⟩

theorem resultSummaryStatus_cases {summary : ExecutorResult} {status : Status}
    (h : resultSummaryStatus summary = some status) :
    status = .uncertain ∨ status = .succeeded ∨ status = .failed := by
  unfold resultSummaryStatus at h
  split at h
  · split at h <;> cases h <;> simp
  · cases h

section Moves

variable {codec : Codec} {env : Environment} {queue : MemoryActionQueue} {label : Option Call}
  {executionID : GoString} {record record' : MemoryActionRecord}

theorem Progress.of_waiting (h : record.execution.status = .queued ∨ record.execution.status = .leased) :
    Progress record record' := by
  rcases h with h | h <;> constructor <;> simp [h, startedStatus, finalStatus, decidedStatus]

theorem Progress.of_running (h : record.execution.status = .running)
    (h' : startedStatus record'.execution.status) : Progress record record' where
  started := fun _ => h'
  final := by simp [h, finalStatus]
  decided := by simp [h, decidedStatus]

theorem Progress.of_concluding (h : record.execution.status = .finalizing) (hConcluding : Concluding record)
    (now : Int) : Progress record (record.finalized now) where
  started := fun _ => .inr (.inr (hConcluding h))
  final := by simp [h, finalStatus]
  decided := fun _ => ⟨.inr (hConcluding h), rfl⟩

theorem Move.progress (h : Move codec env queue label executionID record record')
    (hConcluding : Concluding record) : Progress record record' := by
  cases h with
  | recover hStatus | finalize _ _ _ hStatus => exact .of_concluding hStatus hConcluding _
  | requeue hStatus | start _ _ _ _ hStatus | reject _ _ _ hStatus | nack _ _ _ hStatus =>
    exact .of_waiting (.inr hStatus)
  | claim _ hClaimable =>
    simp only [claimable, Bool.and_eq_true, beq_iff_eq] at hClaimable
    exact .of_waiting (.inl hClaimable.1.1.1.1.1.1)
  | lapse hStatus => exact .of_running hStatus (.inr (.inr (.inl rfl)))
  | complete _ _ _ _ _ hStatus => exact .of_running hStatus (.inr (.inl rfl))
  | requestCancel _ hStatus => exact .of_running hStatus (.inl hStatus)
  | heartbeat _ _ _ _ hStatus =>
    rcases hStatus with hStatus | hStatus
    · exact .of_waiting (.inr hStatus)
    · refine .of_running hStatus (.inl ?_)
      rw [record.beaten_status, hStatus]
  | reconcile _ hDecision _ hStatus =>
    constructor
    · intro _
      exact .inr (.inr (.inr hDecision))
    · simp [hStatus, finalStatus]
    · intro _
      exact ⟨.inr (.inr hDecision), rfl⟩
  | cancel _ hTerminal hStatus =>
    simp only [Execution.terminal, terminalStatus, Bool.or_eq_false_iff, beq_eq_false_iff_ne] at hTerminal
    obtain ⟨⟨⟨hSucceeded, hFailed⟩, hCancelled⟩, hUncertain⟩ := hTerminal
    constructor <;> simp [hSucceeded, hFailed, hCancelled, hUncertain, hStatus, startedStatus, finalStatus,
      decidedStatus]

theorem concluding_invariant (codec : Codec) :
    RecordInvariant codec (fun _ => True) (fun _ record => Concluding record) where
  submitted := by
    intro _ _ _ _ _ hStatus
    cases hStatus
  moved := by
    intro _ _ _ _ _ _ record _ _ hMove hConcluding hStatus
    cases hMove with
    | complete _ hSummary => exact resultSummaryStatus_cases hSummary
    | heartbeat _ _ _ _ hBefore =>
      rw [record.beaten_status] at hStatus
      rcases hBefore with hBefore | hBefore <;> rw [hBefore] at hStatus <;> cases hStatus
    | recover hBefore | finalize _ _ _ hBefore =>
      rcases hConcluding hBefore with h | h | h <;> exact absurd (h.symm.trans hStatus) (by decide)
    | requestCancel _ hBefore => exact absurd (hBefore.symm.trans hStatus) (by decide)
    | reconcile _ hDecision =>
      rcases hDecision with h | h <;> exact absurd (h.symm.trans hStatus) (by decide)
    | _ => cases hStatus

theorem Move.of_uncertain (h : Move codec env queue label executionID record record')
    (hUncertain : record.execution.status = .uncertain) :
    ∃ request, label = some (.reconcile request) ∧ request.executionID = executionID ∧
      (request.status = .succeeded ∨ request.status = .failed) ∧ record' = record.reconciled request env.clock := by
  cases h with
  | reconcile _ hDecision => exact ⟨_, rfl, rfl, hDecision, rfl⟩
  | recover hStatus | requeue hStatus | lapse hStatus | start _ _ _ _ hStatus | complete _ _ _ _ _ hStatus
  | finalize _ _ _ hStatus | reject _ _ _ hStatus | nack _ _ _ hStatus | requestCancel _ hStatus =>
    exact absurd (hStatus.symm.trans hUncertain) (by decide)
  | claim _ hClaimable =>
    simp [claimable, hUncertain] at hClaimable
  | heartbeat _ _ _ _ hStatus =>
    rcases hStatus with hStatus | hStatus <;> exact absurd (hStatus.symm.trans hUncertain) (by decide)
  | cancel _ hTerminal =>
    simp [Execution.terminal, terminalStatus, hUncertain] at hTerminal

end Moves

namespace MemoryActionQueue

theorem stateAt_progress (codec : Codec) (inputs : List (Call × Environment)) {m n : Nat} (hmn : m ≤ n) :
    RecordsRelated Progress ((machine codec).stateAt inputs m) ((machine codec).stateAt inputs n) :=
  (concluding_invariant codec).related Progress.refl (fun _ _ _ => Progress.trans)
    (fun _ _ _ _ _ _ hMove hConcluding => hMove.progress hConcluding) inputs hmn

variable {codec : Codec} {id : GoString} {queue : MemoryActionQueue} {env : Environment}

theorem opened_uncertain (call : Call) {record : MemoryActionRecord} (hRecord : queue.record? id = some record)
    (hUncertain : record.execution.status = .uncertain) :
    (queue.opened codec (call, env)).record? id = some record := by
  refine opened_invariant (P := fun queue => queue.record? id = some record) ?_ hRecord
  intro _ _ hWrite hBefore
  obtain ⟨_, hLater, rfl | hMove⟩ := write_keeps hWrite hBefore
  · exact hLater
  · obtain ⟨_, hLabel, _⟩ := hMove.of_uncertain hUncertain
    cases hLabel

theorem step_uncertain {call : Call} {record record' : MemoryActionRecord}
    (hRecord : (queue.opened codec (call, env)).record? id = some record)
    (hUncertain : record.execution.status = .uncertain)
    (hRecord' : (queue.step codec (call, env)).2.record? id = some record')
    (hLeft : record'.execution.status ≠ .uncertain) :
    ∃ request answer, call = .reconcile request ∧ request.executionID = id ∧
      (queue.step codec (call, env)).1 = .ok answer ∧ record'.execution.status = request.status ∧
      (request.status = .succeeded ∨ request.status = .failed) ∧ record'.outcome = record.outcome := by
  rcases step_cases codec queue call env with ⟨_, hSame⟩ | ⟨answer, hReply, hPerform⟩
  · rw [hSame, hRecord] at hRecord'
    cases hRecord'
    exact absurd hUncertain hLeft
  · rcases perform_moved hPerform with hSame | hWrite
    · rw [hSame, hRecord] at hRecord'
      cases hRecord'
      exact absurd hUncertain hLeft
    · obtain ⟨_, hLater, hUnchanged | hMove⟩ := write_keeps hWrite hRecord
      all_goals
        rw [hLater] at hRecord'
        cases hRecord'
      · rw [hUnchanged] at hLeft
        exact absurd hUncertain hLeft
      · obtain ⟨request, hLabel, hId, hDecision, rfl⟩ := hMove.of_uncertain hUncertain
        exact ⟨request, answer, Option.some.inj hLabel, hId, hReply, rfl, hDecision, rfl⟩

def statusAt (codec : Codec) (inputs : List (Call × Environment)) (id : GoString) (n : Nat) : Option Status :=
  (((machine codec).stateAt inputs n).record? id).map (·.execution.status)

def StartsAt (codec : Codec) (inputs : List (Call × Environment)) (id : GoString) (n : Nat) : Prop :=
  statusAt codec inputs id n = some .leased ∧ statusAt codec inputs id (n + 1) = some .running

theorem startedStatus_of_startsAt {inputs : List (Call × Environment)} {m n : Nat}
    (hStart : StartsAt codec inputs id m) (hmn : m < n) :
    ∃ status, statusAt codec inputs id n = some status ∧ startedStatus status := by
  obtain ⟨record, hRecord, hRunning⟩ := Option.map_eq_some_iff.mp hStart.2
  obtain ⟨record', hRecord', hProgress⟩ := stateAt_progress codec inputs (Nat.succ_le_of_lt hmn) id record hRecord
  exact ⟨record'.execution.status, by rw [statusAt, hRecord']; rfl, hProgress.started (.inl hRunning)⟩

/-- Over a whole run an execution starts at most once and is never offered or cancelled after it;
final statuses are never left, uncertainty only by a successful reconciliation that keeps the outcome,
and the outcome of a completion never changes. -/
theorem starts_once_and_stays_final (codec : Codec) (inputs : List (Call × Environment)) (id : GoString) :
    (∀ m n, StartsAt codec inputs id m → StartsAt codec inputs id n → m = n) ∧
    (∀ m n, StartsAt codec inputs id m → m < n → ∃ status, statusAt codec inputs id n = some status ∧
      status ≠ .queued ∧ status ≠ .leased ∧ status ≠ .cancelled) ∧
    (∀ m n status, status = .succeeded ∨ status = .failed ∨ status = .cancelled → m ≤ n →
      statusAt codec inputs id m = some status → statusAt codec inputs id n = some status) ∧
    (∀ n call env record, inputs[n]? = some (call, env) →
      (((machine codec).stateAt inputs n).record? id = some record ∨
        (((machine codec).stateAt inputs n).opened codec (call, env)).record? id = some record) →
      record.execution.status = .uncertain →
      ∃ record', ((machine codec).stateAt inputs (n + 1)).record? id = some record' ∧
        (record'.execution.status ≠ .uncertain → ∃ request answer,
          call = .reconcile request ∧ request.executionID = id ∧
          (((machine codec).stateAt inputs n).step codec (call, env)).1 = .ok answer ∧
          record'.execution.status = request.status ∧
          (request.status = .succeeded ∨ request.status = .failed) ∧
          record'.execution.completionStatus = record.execution.completionStatus ∧
          record'.execution.resultHash = record.execution.resultHash)) ∧
    (∀ m n record, m ≤ n → ((machine codec).stateAt inputs m).record? id = some record →
      record.execution.status = .finalizing →
      ∃ record', ((machine codec).stateAt inputs n).record? id = some record' ∧
        record'.execution.completionStatus = record.execution.completionStatus ∧
        record'.execution.resultHash = record.execution.resultHash ∧ record'.receipt = record.receipt) := by
  refine ⟨?_, ?_, ?_, ?_, ?_⟩
  · -- A later start would find the record leased, which a started record never is.
    have hLater : ∀ m n, StartsAt codec inputs id m → StartsAt codec inputs id n → ¬ m < n := by
      intro m n hFirst hSecond hmn
      obtain ⟨status, hStatus, hStarted⟩ := startedStatus_of_startsAt hFirst hmn
      rw [hSecond.1] at hStatus
      cases hStatus
      simp [startedStatus] at hStarted
    intro m n hFirst hSecond
    have h := hLater m n hFirst hSecond
    have h' := hLater n m hSecond hFirst
    omega
  · intro m n hStart hmn
    obtain ⟨status, hStatus, hStarted⟩ := startedStatus_of_startsAt hStart hmn
    refine ⟨status, hStatus, ?_⟩
    rcases hStarted with rfl | rfl | rfl | rfl | rfl <;> decide
  · intro m n status hFinal hmn hStatus
    obtain ⟨record, hRecord, rfl⟩ := Option.map_eq_some_iff.mp hStatus
    obtain ⟨record', hRecord', hProgress⟩ := stateAt_progress codec inputs hmn id record hRecord
    rw [statusAt, hRecord', hProgress.final hFinal]
    rfl
  · intro n call env record hInput hBefore hUncertain
    have hOpened : (((machine codec).stateAt inputs n).opened codec (call, env)).record? id = some record := by
      rcases hBefore with hBefore | hBefore
      · exact opened_uncertain call hBefore hUncertain
      · exact hBefore
    obtain ⟨record', hRecord'⟩ : ∃ record',
        (((machine codec).stateAt inputs n).step codec (call, env)).2.record? id = some record' := by
      rcases step_moved codec ((machine codec).stateAt inputs n) call env with hSame | hWrite
      · exact ⟨record, by rw [hSame, hOpened]⟩
      · obtain ⟨record', hRecord', _⟩ := write_keeps hWrite hOpened
        exact ⟨record', hRecord'⟩
    refine ⟨record', ?_, ?_⟩
    · rw [stateAt_step hInput]
      exact hRecord'
    · intro hLeft
      obtain ⟨request, answer, hCall, hId, hReply, hStatus, hDecision, hOutcome⟩ :=
        step_uncertain hOpened hUncertain hRecord' hLeft
      exact ⟨request, answer, hCall, hId, hReply, hStatus, hDecision, congrArg Outcome.completionStatus hOutcome,
        congrArg Outcome.resultHash hOutcome⟩
  · intro m n record hmn hRecord hFinalizing
    obtain ⟨record', hRecord', hProgress⟩ := stateAt_progress codec inputs hmn id record hRecord
    obtain ⟨_, hOutcome⟩ := hProgress.decided (.inl hFinalizing)
    exact ⟨record', hRecord', congrArg Outcome.completionStatus hOutcome, congrArg Outcome.resultHash hOutcome,
      congrArg Outcome.receipt hOutcome⟩

def sampleFence : LeaseIdentity where
  executionID := ascii "action-1"
  runnerID := ascii "runner-1"
  token := ascii "lease-token-1"
  epoch := 1

def sampleCompletedRun : List (Call × Environment) :=
  sampleRun ++ [(.start sampleFence, sampleEnvironment sampleClock),
    (.complete { lease := sampleFence, summary := sampleSummary }, sampleEnvironment sampleClock),
    (.finalize sampleFence, sampleEnvironment sampleClock)]

theorem sample_startsAt : StartsAt sampleCodec sampleCompletedRun (ascii "action-1") 3 := by
  constructor <;> decide +kernel

theorem starts_once_restart :
    StartsAt sampleCodec sampleCompletedRun (ascii "action-1") 3 ∧
      statusAt sampleCodec sampleCompletedRun (ascii "action-1") 5 = some .finalizing ∧
      statusAt sampleCodec sampleCompletedRun (ascii "action-1") 6 = some .succeeded ∧
      (∀ n, StartsAt sampleCodec sampleCompletedRun (ascii "action-1") n → n = 3) ∧
      ∀ n, 6 ≤ n → statusAt sampleCodec sampleCompletedRun (ascii "action-1") n = some .succeeded := by
  have hFinal : statusAt sampleCodec sampleCompletedRun (ascii "action-1") 6 = some .succeeded := by decide +kernel
  obtain ⟨hOnce, _, hStays, _⟩ :=
    starts_once_and_stays_final sampleCodec sampleCompletedRun (ascii "action-1")
  refine ⟨sample_startsAt, by decide +kernel, hFinal, fun n hn => hOnce n 3 hn sample_startsAt, ?_⟩
  intro n hn
  exact hStays 6 n .succeeded (.inl rfl) hn hFinal

end MemoryActionQueue

end AiopsSystem.Execution
