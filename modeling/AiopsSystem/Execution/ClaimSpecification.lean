import AiopsSystem.Execution.TargetLock

/-! # What a claim leases

A claim goes through the submissions in their order and leases the first that may be leased. The clock is read
on entry and again after every token drawn, so a submission is judged by the reading that is current when its
turn comes, and a submission that expired while its token was drawn is passed over.
-/

namespace AiopsSystem.Execution

open Go AiopsSystem.Action ExecutionLease MemoryActionQueue List

namespace MemoryActionQueue

structure Eligible (queue : MemoryActionQueue) (scope : RunnerScope) (now : Int) (executionID : GoString)
    (record : MemoryActionRecord) : Prop where
  stored : queue.record? executionID = some record
  queued : record.execution.status = .queued
  pool : record.execution.pool = scope.pool
  notProductionWrite : ¬ (record.execution.pool = .write ∧ record.execution.production = true)
  ready : record.notBefore ≤ now
  unexpired : now < record.deadline
  bound : ∃ binding ∈ scope.bindings, binding.workspaceID = record.submission.envelope.workspaceID ∧
    binding.environmentID = record.submission.envelope.target.environmentID
  free : ∀ other existing, queue.record? other = some existing → other ≠ executionID →
    existing.execution.targetKey = record.execution.targetKey → actionLeaseActive existing.execution.status = false

def reading (env : Environment) : Nat → Int
  | 0 => env.clock
  | drawn + 1 => (env.draws drawn).clock

structure Drawn (env : Environment) (drawn : Nat) (record : MemoryActionRecord) (token : GoString) : Prop where
  epoch : record.execution.leaseEpoch ≠ maxEpoch
  answered : (env.draws drawn).token = some token
  valid : validIdentifier token 256 = true
  clock : reading env (drawn + 1) ≠ 0

/-- Why no token could be drawn: the epoch is exhausted, the token source failed or answered with no identifier,
or the clock read zero. -/
inductive DrawFails (env : Environment) (drawn : Nat) (record : MemoryActionRecord) : QueueError → Prop
  | epoch (h : record.execution.leaseEpoch = maxEpoch) : DrawFails env drawn record .invalidTransition
  | source (h : (env.draws drawn).token = none) : DrawFails env drawn record .tokenSource
  | token {token : GoString} (h : (env.draws drawn).token = some token) (hInvalid : validIdentifier token 256 = false) :
      DrawFails env drawn record .invalidRequest
  | clock (h : reading env (drawn + 1) = 0) : DrawFails env drawn record .clockZero

inductive PassedOver (env : Environment) (scope : RunnerScope) (queue : MemoryActionQueue) : List GoString → Nat → Prop
  | start : PassedOver env scope queue [] 0
  | ineligible {ids : List GoString} {drawn : Nat} {executionID : GoString} (before : PassedOver env scope queue ids drawn)
      (h : ∀ record, ¬ queue.Eligible scope (reading env drawn) executionID record) :
      PassedOver env scope queue (ids ++ [executionID]) drawn
  | expired {ids : List GoString} {drawn : Nat} {executionID : GoString} {record : MemoryActionRecord} {token : GoString}
      (before : PassedOver env scope queue ids drawn)
      (h : queue.Eligible scope (reading env drawn) executionID record) (hDrawn : Drawn env drawn record token)
      (hExpired : record.deadline ≤ reading env (drawn + 1)) :
      PassedOver env scope queue (ids ++ [executionID]) (drawn + 1)

inductive ClaimOutcome (env : Environment) (request : ActionClaimRequest) (swept : MemoryActionQueue) :
    Reply × MemoryActionQueue → Prop
  | leased {earlier later : List GoString} {executionID token : GoString} {drawn : Nat} {record : MemoryActionRecord}
      (hOrder : swept.order = earlier ++ executionID :: later)
      (hEarlier : PassedOver env request.scope swept earlier drawn)
      (hEligible : swept.Eligible request.scope (reading env drawn) executionID record)
      (hDrawn : Drawn env drawn record token) (hUnexpired : reading env (drawn + 1) < record.deadline) :
      ClaimOutcome env request swept
        (.ok (.claimed (claimedAction (record.leased request token (reading env (drawn + 1))))),
          swept.store executionID (record.leased request token (reading env (drawn + 1))))
  | none {drawn : Nat} (h : PassedOver env request.scope swept swept.order drawn) :
      ClaimOutcome env request swept (.error .noLeaseAvailable, swept)
  | failed {earlier later : List GoString} {executionID : GoString} {drawn : Nat} {record : MemoryActionRecord}
      {failure : QueueError} (hOrder : swept.order = earlier ++ executionID :: later)
      (hEarlier : PassedOver env request.scope swept earlier drawn)
      (hEligible : swept.Eligible request.scope (reading env drawn) executionID record)
      (hFails : DrawFails env drawn record failure) :
      ClaimOutcome env request swept (.error failure, swept)

section Loop

variable {env : Environment} {request : ActionClaimRequest} {queue : MemoryActionQueue}

theorem allows_iff {scope : RunnerScope} {workspaceID environmentID : GoString} :
    scope.allows workspaceID environmentID ↔
      ∃ binding ∈ scope.bindings, binding.workspaceID = workspaceID ∧ binding.environmentID = environmentID := by
  simp [RunnerScope.allows]

variable {record : MemoryActionRecord}

theorem targetActive_eq_false_iff (hKeyed : queue.Keyed) {executionID : GoString}
    (hRecord : queue.record? executionID = some record) :
    queue.targetActive record.execution.targetKey record.execution.executionID = false ↔
      ∀ other existing, queue.record? other = some existing → other ≠ executionID →
        existing.execution.targetKey = record.execution.targetKey →
        actionLeaseActive existing.execution.status = false := by
  constructor
  · intro hFree other existing hOther hNe hKey
    exact targetActive_eq_false hKeyed hRecord hOther hNe hKey hFree
  · intro hFree
    by_contra hActive
    obtain ⟨other, existing, hOther, hTest⟩ := (GoMap.anyEntry_iff _ _).mp (Bool.of_not_eq_false hActive)
    simp only [Bool.and_eq_true, bne_iff_ne, beq_iff_eq, hKeyed executionID record hRecord] at hTest
    have hInactive := hFree other existing hOther hTest.1.1 hTest.1.2
    rw [hTest.2] at hInactive
    cases hInactive

theorem filter_claimable_iff (hKeyed : queue.Keyed) {now : Int} {executionID : GoString} :
    (queue.record? executionID).filter (claimable request queue now) = some record ↔
      queue.Eligible request.scope now executionID record := by
  rw [Option.filter_eq_some_iff]
  constructor
  · rintro ⟨hRecord, hClaimable⟩
    simp only [claimable, Bool.and_eq_true, Bool.not_eq_true', beq_iff_eq, decide_eq_true_eq, allows_iff,
      targetActive_eq_false_iff hKeyed hRecord] at hClaimable
    obtain ⟨⟨⟨⟨⟨⟨hQueued, hPool⟩, hProduction⟩, hReady⟩, hUnexpired⟩, hBound⟩, hFree⟩ := hClaimable
    refine ⟨hRecord, hQueued, hPool, ?_, hReady, hUnexpired, hBound, hFree⟩
    rintro ⟨hWrite, hTrue⟩
    simp [hWrite, hTrue] at hProduction
  · intro h
    refine ⟨h.stored, ?_⟩
    simp only [claimable, Bool.and_eq_true, Bool.not_eq_true', beq_iff_eq, decide_eq_true_eq, allows_iff,
      targetActive_eq_false_iff hKeyed h.stored]
    refine ⟨⟨⟨⟨⟨⟨h.queued, h.pool⟩, ?_⟩, h.ready⟩, h.unexpired⟩, h.bound⟩, h.free⟩
    have hProduction := h.notProductionWrite
    simpa using hProduction

def concluded (queue : MemoryActionQueue) (body : Except QueueError (ClaimedAction × MemoryActionQueue)) :
    Reply × MemoryActionQueue :=
  match body with
  | .ok (claimed, queue') => (.ok (.claimed claimed), queue')
  | .error failure => (.error failure, queue)

/-- Induction over the submissions that are still to be examined; `drawn` tokens were drawn so far. -/
theorem claimLoop_outcome (hKeyed : queue.Keyed) {earlier ids : List GoString} {drawn : Nat}
    (hOrder : queue.order = earlier ++ ids) (hEarlier : PassedOver env request.scope queue earlier drawn) :
    ClaimOutcome env request queue
      (concluded queue (queue.claimLoop env request ids (reading env drawn) drawn)) := by
  induction ids generalizing earlier drawn with
  | nil =>
    rw [append_nil] at hOrder
    exact .none (hOrder ▸ hEarlier)
  | cons executionID rest ih =>
    have hNext : queue.order = (earlier ++ [executionID]) ++ rest := by rw [hOrder, append_assoc]; rfl
    rw [claimLoop]
    cases hFilter : (queue.record? executionID).filter (claimable request queue (reading env drawn)) with
    | none =>
      refine ih hNext (.ineligible hEarlier ?_)
      intro record hEligible
      rw [(filter_claimable_iff hKeyed).mpr hEligible] at hFilter
      cases hFilter
    | some record =>
      have hEligible := (filter_claimable_iff hKeyed).mp hFilter
      dsimp only
      by_cases hEpoch : record.execution.leaseEpoch = maxEpoch
      · rw [require_of_not (not_not.mpr hEpoch)]
        exact .failed hOrder hEarlier hEligible (.epoch hEpoch)
      rw [require_of hEpoch, ok_bind]
      cases hToken : (env.draws drawn).token with
      | none => exact .failed hOrder hEarlier hEligible (.source hToken)
      | some token =>
        rw [orFail_some, ok_bind]
        cases hValid : validIdentifier token 256 with
        | false => exact .failed hOrder hEarlier hEligible (.token hToken hValid)
        | true =>
          rw [require_of rfl, ok_bind]
          by_cases hClock : (env.draws drawn).clock = 0
          · rw [require_of_not (not_not.mpr hClock)]
            exact .failed hOrder hEarlier hEligible (.clock hClock)
          rw [require_of hClock, ok_bind]
          have hDrawn : Drawn env drawn record token := ⟨hEpoch, hToken, hValid, hClock⟩
          split
          · rename_i hUnexpired
            exact .leased hOrder hEarlier hEligible hDrawn hUnexpired
          · rename_i hExpired
            exact ih hNext (.expired hEarlier hEligible hDrawn (not_lt.mp hExpired))

section Passed

variable {scope : RunnerScope} {ids : List GoString} {executionID : GoString} {drawn : Nat}

theorem passedOver_concat (h : PassedOver env scope queue (ids ++ [executionID]) drawn) :
    (PassedOver env scope queue ids drawn ∧ ∀ record, ¬ queue.Eligible scope (reading env drawn) executionID record) ∨
      ∃ before record token, drawn = before + 1 ∧ PassedOver env scope queue ids before ∧
        queue.Eligible scope (reading env before) executionID record ∧ Drawn env before record token ∧
        record.deadline ≤ reading env (before + 1) := by
  generalize hAll : ids ++ [executionID] = all at h
  cases h with
  | start => simp at hAll
  | ineligible before hNot =>
    obtain ⟨rfl, hLast⟩ := append_inj' hAll rfl
    cases hLast
    exact .inl ⟨before, hNot⟩
  | expired before hEligible hDrawn hExpired =>
    obtain ⟨rfl, hLast⟩ := append_inj' hAll rfl
    cases hLast
    exact .inr ⟨_, _, _, rfl, before, hEligible, hDrawn, hExpired⟩

theorem passedOver_nil (h : PassedOver env scope queue [] drawn) : drawn = 0 := by
  generalize hAll : ([] : List GoString) = all at h
  cases h with
  | start => rfl
  | ineligible | expired => simp at hAll

theorem PassedOver.unique {drawn' : Nat} (h : PassedOver env scope queue ids drawn)
    (h' : PassedOver env scope queue ids drawn') : drawn = drawn' := by
  induction ids using List.reverseRecOn generalizing drawn drawn' with
  | nil => rw [passedOver_nil h, passedOver_nil h']
  | append_singleton _ _ ih =>
    rcases passedOver_concat h with ⟨hBefore, hNot⟩ | ⟨_, record, _, rfl, hBefore, hEligible, _⟩
    · rcases passedOver_concat h' with ⟨hBefore', _⟩ | ⟨before', record', _, rfl, hBefore', hEligible', _⟩
      · exact ih hBefore hBefore'
      · obtain rfl := ih hBefore hBefore'
        exact absurd hEligible' (hNot record')
    · rcases passedOver_concat h' with ⟨hBefore', hNot'⟩ | ⟨before', record', _, rfl, hBefore', _⟩
      · obtain rfl := ih hBefore hBefore'
        exact absurd hEligible (hNot' record)
      · rw [ih hBefore hBefore']

theorem PassedOver.of_append {later : List GoString} (h : PassedOver env scope queue (ids ++ later) drawn) :
    ∃ before, PassedOver env scope queue ids before := by
  induction later using List.reverseRecOn generalizing drawn with
  | nil => exact ⟨drawn, by rwa [append_nil] at h⟩
  | append_singleton _ _ ih =>
    rw [← append_assoc] at h
    rcases passedOver_concat h with ⟨hBefore, _⟩ | ⟨_, _, _, _, hBefore, _⟩
    · exact ih hBefore
    · exact ih hBefore

theorem PassedOver.expires {earlier later : List GoString} {total : Nat}
    (h : PassedOver env scope queue (earlier ++ executionID :: later) total)
    (hEarlier : PassedOver env scope queue earlier drawn)
    (hEligible : queue.Eligible scope (reading env drawn) executionID record) :
    ∃ token, Drawn env drawn record token ∧ record.deadline ≤ reading env (drawn + 1) := by
  have hSplit : earlier ++ executionID :: later = (earlier ++ [executionID]) ++ later := by simp
  rw [hSplit] at h
  obtain ⟨_, hTurn⟩ := h.of_append
  rcases passedOver_concat hTurn with ⟨hBefore, hNot⟩ | ⟨_, record', token, _, hBefore, hEligible', hRest⟩
  · obtain rfl := hEarlier.unique hBefore
    exact absurd hEligible (hNot record)
  · obtain rfl := hEarlier.unique hBefore
    have hSame : record = record' := Option.some.inj (hEligible.stored.symm.trans hEligible'.stored)
    exact ⟨token, hSame ▸ hRest⟩

theorem DrawFails.not_drawn {failure : QueueError} {token : GoString}
    (h : DrawFails env drawn record failure) : ¬ Drawn env drawn record token := by
  intro hDrawn
  cases h with
  | epoch hEpoch => exact hDrawn.epoch hEpoch
  | source hNone =>
    rw [hDrawn.answered] at hNone
    cases hNone
  | token hSome hInvalid =>
    rw [hDrawn.answered] at hSome
    cases hSome
    rw [hDrawn.valid] at hInvalid
    cases hInvalid
  | clock hZero => exact hDrawn.clock hZero

theorem ClaimOutcome.noLease_iff {outcome : Reply × MemoryActionQueue} (h : ClaimOutcome env request queue outcome) :
    outcome.1 = .error .noLeaseAvailable ↔ ∃ drawn, PassedOver env request.scope queue queue.order drawn := by
  constructor
  · intro hNone
    cases h with
    | leased => cases hNone
    | none hPassed => exact ⟨_, hPassed⟩
    | failed _ _ _ hFails => cases hFails <;> cases hNone
  · rintro ⟨_, hPassed⟩
    cases h with
    | leased hOrder hEarlier hEligible _ hUnexpired =>
      rw [hOrder] at hPassed
      obtain ⟨_, _, hExpired⟩ := hPassed.expires hEarlier hEligible
      exact absurd hUnexpired (not_lt.mpr hExpired)
    | none => rfl
    | failed hOrder hEarlier hEligible hFails =>
      rw [hOrder] at hPassed
      obtain ⟨_, hDrawn, _⟩ := hPassed.expires hEarlier hEligible
      exact absurd hDrawn hFails.not_drawn

end Passed

theorem step_claim (codec : Codec) (hValid : validateRunnerScope request = .ok ()) (hContext : env.contextDone = false)
    (hClock : env.clock ≠ 0) :
    queue.step codec (.claim request, env) =
      concluded (expireLocked codec env env.clock queue)
        ((expireLocked codec env env.clock queue).claim env request env.clock) := by
  have hEntry : entry (validateRunnerScope request) env = .ok env.clock :=
    entry_eq_ok.mpr ⟨hContext, hValid, hClock, rfl⟩
  have hOpened : queue.opened codec (.claim request, env) = expireLocked codec env env.clock queue := by
    simp only [opened, Call.sweepGuard, hEntry]
  have hPerform (swept : MemoryActionQueue) : swept.perform codec (.claim request, env) =
      answering .claimed (swept.claim env request env.clock) := by
    simp only [perform, entered, Call.sweepGuard, Option.getD_some, hEntry, ok_bind]
  rw [step, hOpened, hPerform]
  cases (expireLocked codec env env.clock queue).claim env request env.clock with
  | ok => rfl
  | error => rfl

end Loop

section Order

variable {codec : Codec} {env : Environment} {label : Option Call} {queue queue' : MemoryActionQueue}

structure Ordered (queue : MemoryActionQueue) : Prop where
  nodup : queue.order.Nodup
  mem_iff : ∀ executionID, executionID ∈ queue.order ↔ (queue.record? executionID).isSome = true

theorem Ordered.write (hOrdered : queue.Ordered) (h : Write codec env label queue queue') : queue'.Ordered := by
  cases h with
  | @move _ _ moved record record' hRecord _ =>
    refine ⟨hOrdered.nodup, fun executionID => (hOrdered.mem_iff executionID).trans ?_⟩
    rw [record?_store]
    split
    · rename_i hSame
      simp [hSame, hRecord]
    · rfl
  | @enroll _ submission requestHash _ _ hFresh =>
    have hNew : submission.envelope.actionID ∉ queue.order := by
      rw [hOrdered.mem_iff, hFresh]
      simp
    have hAppend : (queue.enroll submission requestHash env.clock).order =
        queue.order ++ [submission.envelope.actionID] := rfl
    constructor
    · rw [hAppend, ← concat_eq_append]
      exact hOrdered.nodup.concat hNew
    · intro executionID
      rw [record?_enroll, hAppend, mem_append, mem_singleton, hOrdered.mem_iff]
      split
      · rename_i hSame
        simp [hSame]
      · rename_i hOther
        simp [hOther]

def enrolledAt (codec : Codec) (inputs : List (Call × Environment)) (n : Nat) : Option GoString :=
  match inputs[n]? with
  | some (.submit submission, _) =>
    if ((machine codec).stateAt inputs n).record? submission.envelope.actionID = none ∧
        ((machine codec).stateAt inputs (n + 1)).record? submission.envelope.actionID ≠ none then
      some submission.envelope.actionID
    else none
  | _ => none

def submissionOrder (codec : Codec) (inputs : List (Call × Environment)) (n : Nat) : List GoString :=
  (List.range n).filterMap (enrolledAt codec inputs)

theorem expireLocked_invariant {P : MemoryActionQueue → Prop}
    (hWrite : ∀ before after, Write codec env none before after → P before → P after) (hQueue : P queue) :
    P (expireLocked codec env env.clock queue) := by
  have hWrites : Relation.ReflTransGen (Write codec env none) queue (expireLocked codec env env.clock queue) :=
    expireLocked_writes queue
  generalize expireLocked codec env env.clock queue = reached at hWrites
  induction hWrites with
  | refl => exact hQueue
  | tail _ h ih => exact hWrite _ _ h ih

theorem order_sweep {before after : MemoryActionQueue} (h : Write codec env none before after) :
    after.order = before.order := by
  cases h with
  | move => rfl

theorem opened_order (codec : Codec) (env : Environment) (queue : MemoryActionQueue) (call : Call) :
    (queue.opened codec (call, env)).order = queue.order := by
  refine opened_invariant (P := fun reached => reached.order = queue.order) ?_ rfl
  intro _ _ hWrite hBefore
  exact (order_sweep hWrite).trans hBefore

theorem order_step (codec : Codec) (env : Environment) (queue : MemoryActionQueue) (call : Call) :
    (∀ submission, call = .submit submission →
        queue.record? submission.envelope.actionID = none →
        (queue.step codec (call, env)).2.record? submission.envelope.actionID = none) ∧
      (queue.step codec (call, env)).2.order = queue.order ∨
    ∃ submission, call = .submit submission ∧ queue.record? submission.envelope.actionID = none ∧
      (queue.step codec (call, env)).2.record? submission.envelope.actionID ≠ none ∧
      (queue.step codec (call, env)).2.order = queue.order ++ [submission.envelope.actionID] := by
  have hOpened := opened_order codec env queue call
  rcases step_moved codec queue call env with hSame | hWrite
  · rw [hSame]
    refine .inl ⟨?_, hOpened⟩
    rintro submission rfl _
    rwa [opened_of_sweepGuard_none rfl]
  · generalize (queue.step codec (call, env)).2 = after at hWrite
    cases hWrite with
    | move _ hMove =>
      refine .inl ⟨?_, hOpened⟩
      rintro submission rfl
      cases hMove
    | @enroll _ submission requestHash _ _ hFresh =>
      rw [opened_of_sweepGuard_none rfl] at hFresh ⊢
      exact .inr ⟨submission, rfl, hFresh, by simp, rfl⟩

theorem order_stateAt (codec : Codec) (inputs : List (Call × Environment)) (n : Nat) :
    ((machine codec).stateAt inputs n).order = submissionOrder codec inputs n := by
  induction n with
  | zero => rfl
  | succ n ih =>
    have hAdd : submissionOrder codec inputs (n + 1) = ((machine codec).stateAt inputs n).order ++
        (enrolledAt codec inputs n).toList := by
      rw [ih, submissionOrder, range_succ, filterMap_append, filterMap_cons, filterMap_nil]
      cases enrolledAt codec inputs n <;> rfl
    rw [hAdd]
    cases hInput : inputs[n]? with
    | none =>
      rw [(machine codec).stateAt_succ_of_none hInput, enrolledAt, hInput]
      exact (append_nil _).symm
    | some input =>
      obtain ⟨call, env⟩ := input
      have hNext : (machine codec).stateAt inputs (n + 1) =
          (((machine codec).stateAt inputs n).step codec (call, env)).2 := stateAt_step hInput
      have hStep := order_step codec env ((machine codec).stateAt inputs n) call
      rw [← hNext] at hStep
      rcases hStep with ⟨hNone, hSame⟩ | ⟨submission, rfl, hFresh, hAdded, hOrder⟩
      · have hEnrolled : enrolledAt codec inputs n = none := by
          unfold enrolledAt
          rw [hInput]
          cases call with
          | submit submission =>
            refine if_neg ?_
            rintro ⟨hFresh, hAdded⟩
            exact hAdded (hNone submission rfl hFresh)
          | _ => rfl
        rw [hSame, hEnrolled]
        exact (append_nil _).symm
      · have hEnrolled : enrolledAt codec inputs n = some submission.envelope.actionID := by
          unfold enrolledAt
          rw [hInput]
          exact if_pos ⟨hFresh, hAdded⟩
        rw [hOrder, hEnrolled]
        rfl

end Order

end MemoryActionQueue

section Concurrency

variable {codec : Codec} {env : Environment} {label : Option Call} {queue queue' : MemoryActionQueue}

theorem Move.runner_holds {executionID : GoString} {record record' : MemoryActionRecord}
    (h : Move codec env queue label executionID record record')
    (hLabel : ∀ request, label ≠ some (.claim request)) (hActive : actionLeaseActive record'.execution.status) :
    actionLeaseActive record.execution.status ∧ record'.execution.runnerID = record.execution.runnerID := by
  cases h with
  | @claim request => exact absurd rfl (hLabel request)
  | recover hStatus | finalize _ _ _ hStatus | lapse hStatus | complete _ _ _ _ _ hStatus
  | start _ _ _ _ hStatus | requestCancel _ hStatus
      | reconcile _ _ _ hStatus => exact ⟨by simp [hStatus, actionLeaseActive], rfl⟩
  | heartbeat =>
    rw [record.beaten_status] at hActive
    refine ⟨hActive, ?_⟩
    unfold MemoryActionRecord.beaten
    split <;> rfl
  | requeue | reject | nack | cancel => exact absurd hActive Bool.false_ne_true

theorem Write.runnerActive_le (h : Write codec env label queue queue') (hLabel : ∀ request, label ≠ some (.claim request))
    (runnerID : GoString) : queue'.runnerActive runnerID ≤ queue.runnerActive runnerID := by
  cases h with
  | @move _ _ moved record record' hRecord hMove =>
    refine GoMap.countEntries_insert_le_of_kept ?_
    intro hHolds
    simp only [Bool.and_eq_true, beq_iff_eq] at hHolds
    obtain ⟨hBefore, hSame⟩ := hMove.runner_holds hLabel hHolds.2
    refine ⟨record, hRecord, ?_⟩
    simp [hBefore, ← hSame, hHolds.1]
  | @enroll _ submission requestHash =>
    refine GoMap.countEntries_insert_le_of_kept ?_
    intro hHolds
    simp [MemoryActionRecord.submitted, actionLeaseActive] at hHolds

theorem perform_claim_runnerActive {request : ActionClaimRequest} {answer : Answer}
    (h : queue.perform codec (.claim request, env) = .ok (answer, queue')) (runnerID : GoString) :
    queue'.runnerActive runnerID ≤ queue.runnerActive runnerID ∨
      runnerID = request.scope.runnerID ∧ (queue'.runnerActive runnerID : Int) ≤ request.scope.maxConcurrency := by
  simp only [perform, bind_eq_ok, answering_eq_ok, entered, Call.sweepGuard, Option.getD_some] at h
  obtain ⟨_, hEntry, _, hClaim, rfl⟩ := h
  obtain ⟨_, hRequest, _, _⟩ := entry_eq_ok.mp hEntry
  simp only [claim, bind_eq_ok, require_eq_ok] at hClaim
  obtain ⟨_, hRoom, hLoop⟩ := hClaim
  obtain ⟨executionID, _, record', _, hMove, _, rfl⟩ := claimLoop_moved codec hRequest hLoop
  by_cases hRunner : runnerID = request.scope.runnerID
  · have hAdded : (queue.store executionID record').runnerActive runnerID ≤ queue.runnerActive runnerID + 1 :=
      GoMap.countEntries_insert_le _ _ _ _
    rw [← hRunner] at hRoom
    exact .inr ⟨hRunner, by omega⟩
  · refine .inl (GoMap.countEntries_insert_le_of_kept ?_)
    intro hHolds
    cases hMove
    simp only [Bool.and_eq_true, beq_iff_eq] at hHolds
    exact absurd hHolds.1.symm hRunner

theorem step_runnerActive_le {limit : GoString → Nat} {call : Call}
    (hLimit : ∀ request, call = .claim request → request.scope.maxConcurrency = limit request.scope.runnerID)
    (hQueue : ∀ runnerID, queue.runnerActive runnerID ≤ limit runnerID) (runnerID : GoString) :
    (queue.step codec (call, env)).2.runnerActive runnerID ≤ limit runnerID := by
  have hOpened : (queue.opened codec (call, env)).runnerActive runnerID ≤ limit runnerID := by
    refine opened_invariant (P := fun reached => reached.runnerActive runnerID ≤ limit runnerID) ?_ (hQueue runnerID)
    intro _ _ hWrite hBefore
    exact (hWrite.runnerActive_le (by intro request hLabel; cases hLabel) runnerID).trans hBefore
  rcases step_cases codec queue call env with ⟨_, hState⟩ | ⟨_, _, hPerform⟩
  · rwa [hState]
  · by_cases hCall : ∃ request, call = .claim request
    · obtain ⟨request, rfl⟩ := hCall
      rcases perform_claim_runnerActive hPerform runnerID with hLess | ⟨rfl, hLess⟩
      · exact hLess.trans hOpened
      · rw [hLimit request rfl] at hLess
        exact Int.ofNat_le.mp hLess
    · rcases perform_moved hPerform with hSame | hWrite
      · rwa [hSame]
      · refine (hWrite.runnerActive_le ?_ runnerID).trans hOpened
        intro request hLabel
        exact hCall ⟨request, Option.some.inj hLabel⟩

end Concurrency

namespace MemoryActionQueue

theorem stateAt_keyed (codec : Codec) (inputs : List (Call × Environment)) (n : Nat) :
    ((machine codec).stateAt inputs n).Keyed :=
  (keyed_invariant codec).stateAt (fun _ _ => trivial) n

theorem stateAt_ordered (codec : Codec) (inputs : List (Call × Environment)) (n : Nat) :
    ((machine codec).stateAt inputs n).Ordered := by
  refine (machine codec).stateAt_invariant (P := Ordered) ⟨nodup_nil, ?_⟩ ?_ inputs n
  · intro _
    constructor
    · nofun
    · nofun
  · rintro _ ⟨_, _⟩ hQueue
    exact step_invariant (fun _ _ _ _ hWrite hBefore => hBefore.write hWrite) hQueue

/-- Every claim leases the earliest submission that may be leased when its turn comes, and no runner ever holds
more locks than its registration allows. -/
theorem claim_leases_earliest_eligible (codec : Codec) (inputs : List (Call × Environment)) (n : Nat) :
    (∀ request env, validateRunnerScope request = .ok () → env.contextDone = false → env.clock ≠ 0 →
      ∀ swept, swept = expireLocked codec env env.clock ((machine codec).stateAt inputs n) →
      swept.order = submissionOrder codec inputs n ∧ swept.Ordered ∧
      (request.scope.maxConcurrency ≤ swept.runnerActive request.scope.runnerID →
        ((machine codec).stateAt inputs n).step codec (.claim request, env) = (.error .noLeaseAvailable, swept)) ∧
      (swept.runnerActive request.scope.runnerID < request.scope.maxConcurrency →
        ClaimOutcome env request swept (((machine codec).stateAt inputs n).step codec (.claim request, env)) ∧
        ((((machine codec).stateAt inputs n).step codec (.claim request, env)).1 = .error .noLeaseAvailable ↔
          ∃ drawn, PassedOver env request.scope swept swept.order drawn))) ∧
    ∀ limit : GoString → Nat,
      (∀ input ∈ inputs, ∀ request, input.1 = .claim request →
        request.scope.maxConcurrency = limit request.scope.runnerID) →
      ∀ runnerID, ((machine codec).stateAt inputs n).runnerActive runnerID ≤ limit runnerID := by
  constructor
  · intro request env hValid hContext hClock swept hSwept
    have hKeyed : swept.Keyed := by
      rw [hSwept]
      exact expireLocked_invariant (fun _ _ hWrite hBefore => (keyed_invariant codec).write_any hWrite hBefore)
        (stateAt_keyed codec inputs n)
    have hOrdered : swept.Ordered := by
      rw [hSwept]
      exact expireLocked_invariant (fun _ _ hWrite hBefore => hBefore.write hWrite) (stateAt_ordered codec inputs n)
    have hOrder : swept.order = submissionOrder codec inputs n := by
      rw [hSwept, ← order_stateAt]
      exact expireLocked_invariant (P := fun reached => reached.order = ((machine codec).stateAt inputs n).order)
        (fun _ _ hWrite hBefore => (order_sweep hWrite).trans hBefore) rfl
    rw [step_claim codec hValid hContext hClock, ← hSwept]
    refine ⟨hOrder, hOrdered, ?_, ?_⟩
    · intro hFull
      rw [claim, require_of_not (not_lt.mpr hFull)]
      rfl
    · intro hRoom
      rw [claim, require_of hRoom, ok_bind]
      have hStart : PassedOver env request.scope swept [] 0 := .start
      have hOutcome := claimLoop_outcome hKeyed (List.nil_append _).symm hStart
      exact ⟨hOutcome, hOutcome.noLease_iff⟩
  · intro limit hLimit
    have hAlong : (machine codec).Along (fun _ input => ∀ request, input.1 = .claim request →
        request.scope.maxConcurrency = limit request.scope.runnerID) inputs := by
      intro _ input hInput
      exact hLimit input (List.mem_of_getElem? hInput)
    refine (machine codec).stateAt_of_along
      (P := fun queue => ∀ runnerID, queue.runnerActive runnerID ≤ limit runnerID) ?_ ?_ hAlong n
    · intro runnerID
      exact Nat.zero_le _
    · rintro queue ⟨_, env⟩ hInput hQueue runnerID
      exact step_runnerActive_le hInput hQueue runnerID

def sampleRegistration : RunnerRegistration where
  runnerID := ascii "runner-1"
  tenantID := ascii "tenant-1"
  pool := .read
  enabled := true
  scopeRevision := 1
  maxConcurrency := 4
  scopeBindings := [{ workspaceID := ascii "workspace-1", environmentID := ascii "staging" }]

def sampleClaim : ActionClaimRequest where
  scope := sampleScope .read
  leaseDuration := minute

theorem claim_leases_first_restart :
    sampleRegistration.scope = .ok sampleClaim.scope ∧
      ∃ swept, ClaimOutcome (sampleEnvironment sampleClock) sampleClaim swept
        (((machine sampleCodec).stateAt sampleRun 2).step sampleCodec
          (.claim sampleClaim, sampleEnvironment sampleClock)) :=
  ⟨by decide, _, (((claim_leases_earliest_eligible sampleCodec sampleRun 2).1 sampleClaim
    (sampleEnvironment sampleClock) (by decide) rfl (by decide) _ rfl).2.2.2 (by decide +kernel)).1⟩

def tokenlessEnvironment : Environment :=
  { sampleEnvironment sampleClock with draws := fun _ => { token := none, clock := sampleClock } }

def lateEnvironment : Environment :=
  { sampleEnvironment sampleClock with
    draws := fun _ => { token := some (ascii "lease-token-1"), clock := unixEpoch + 1783001200 * second } }

/-- A submission that is eligible on entry is not leased when no token can be drawn for it or when it expires
meanwhile. -/
theorem claim_refuses_eligible :
    ∃ queue : MemoryActionQueue, queue = (machine sampleCodec).stateAt sampleRun 1 ∧
      (∃ record, (expireLocked sampleCodec tokenlessEnvironment sampleClock queue).Eligible sampleClaim.scope sampleClock
        (ascii "action-1") record) ∧
      (queue.step sampleCodec (.claim sampleClaim, tokenlessEnvironment)).1 = .error .tokenSource ∧
      (∃ record, (expireLocked sampleCodec lateEnvironment sampleClock queue).Eligible sampleClaim.scope sampleClock
        (ascii "action-1") record) ∧
      (queue.step sampleCodec (.claim sampleClaim, lateEnvironment)).1 = .error .noLeaseAvailable := by
  have hEligible (env : Environment) (hClock : env.clock = sampleClock)
      (hFound : (((expireLocked sampleCodec env sampleClock ((machine sampleCodec).stateAt sampleRun 1)).record?
        (ascii "action-1")).filter (claimable sampleClaim (expireLocked sampleCodec env sampleClock
          ((machine sampleCodec).stateAt sampleRun 1)) sampleClock)).isSome = true) :
      ∃ record, (expireLocked sampleCodec env sampleClock ((machine sampleCodec).stateAt sampleRun 1)).Eligible
        sampleClaim.scope sampleClock (ascii "action-1") record := by
    have hKeyed : (expireLocked sampleCodec env sampleClock ((machine sampleCodec).stateAt sampleRun 1)).Keyed := by
      rw [← hClock]
      exact expireLocked_invariant (fun _ _ hWrite hBefore => (keyed_invariant sampleCodec).write_any hWrite hBefore)
        (stateAt_keyed sampleCodec sampleRun 1)
    obtain ⟨record, hRecord⟩ := Option.isSome_iff_exists.mp hFound
    exact ⟨record, (filter_claimable_iff hKeyed).mp hRecord⟩
  exact ⟨_, rfl, hEligible tokenlessEnvironment rfl (by decide +kernel), by decide +kernel,
    hEligible lateEnvironment rfl (by decide +kernel), by decide +kernel⟩

end MemoryActionQueue

end AiopsSystem.Execution
