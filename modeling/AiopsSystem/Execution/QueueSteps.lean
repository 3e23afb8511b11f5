import AiopsSystem.Execution.QueueMoves

/-! # Steps of the action queue as sequences of writes

Every call is taken apart once into the writes of its sweep and the write of
its operation. The rules at the end turn a property of writes into a property
of steps, and are all that the results about runs use.
-/

namespace AiopsSystem.Execution.MemoryActionQueue

open Go AiopsSystem.Action ExecutionLease Relation

variable {codec : Codec} {env : Environment} {queue queue' : MemoryActionQueue}

theorem expireRecord_move {executionID : GoString} {record record' : MemoryActionRecord}
    (h : expireRecord codec env.sweepGate env.clock record = some record') :
    Move codec env queue none executionID record record' := by
  unfold expireRecord at h
  split at h
  · rename_i hStatus
    split at h
    · cases h
    · rename_i receipt hReceipt
      split at h
      · cases h
      · rename_i hOpen
        obtain ⟨hDeadline, hCompletion⟩ := not_or.mp hOpen
        split at h
        · cases h
        · rename_i hGate
          cases h
          refine .recover hStatus hReceipt (not_lt.mp hDeadline) (not_not.mp hCompletion) ?_
          intro hReleases
          exact Bool.of_not_eq_false fun hFalse => hGate ⟨hReleases, hFalse⟩
  · split at h
    · cases h
    · rename_i hHeld
      obtain ⟨hHeld, hExpired⟩ := not_or.mp hHeld
      split at h
      · rename_i hStatus
        split at h
        · rename_i hGate
          cases h
          exact .requeue hStatus hHeld (not_lt.mp hExpired) hGate
        · cases h
      · rename_i hStatus
        cases h
        exact .lapse hStatus hHeld (not_lt.mp hExpired)
      · cases h

theorem expireOne_writes (queue : MemoryActionQueue) (executionID : GoString) :
    ReflTransGen (Write codec env none) queue (expireOne codec env.sweepGate env.clock queue executionID) := by
  unfold expireOne
  split
  · exact .refl
  · rename_i record' h
    obtain ⟨record, hRecord, hExpire⟩ := Option.bind_eq_some_iff.mp h
    exact .single (.move hRecord (expireRecord_move hExpire))

theorem expireLocked_writes (queue : MemoryActionQueue) :
    ReflTransGen (Write codec env none) queue (expireLocked codec env env.clock queue) := by
  unfold expireLocked
  induction env.visit generalizing queue with
  | nil => exact .refl
  | cons executionID _ ih => exact (expireOne_writes queue executionID).trans (ih _)

theorem opened_writes (codec : Codec) (env : Environment) (queue : MemoryActionQueue) (call : Call) :
    ReflTransGen (Write codec env none) queue (queue.opened codec (call, env)) := by
  unfold opened
  split
  · exact .refl
  · split
    · rename_i now hEntry
      obtain ⟨_, _, _, hNow⟩ := entry_eq_ok.mp hEntry
      rw [← hNow]
      exact expireLocked_writes queue
    · exact .refl

variable {call : Call}

theorem opened_of_sweepGuard_none (h : call.sweepGuard = none) : queue.opened codec (call, env) = queue := by
  simp only [opened, h]

theorem answering_eq_ok {α : Type} {answer : α → Answer} {body : Except QueueError (α × MemoryActionQueue)}
    {result : Answer} :
    answering answer body = .ok (result, queue') ↔ ∃ value, body = .ok (value, queue') ∧ answer value = result := by
  cases body with
  | error => simp [answering, Except.map]
  | ok => simp [answering, Except.map, Prod.ext_iff, and_comm]

inductive Submitted (codec : Codec) (env : Environment) (submission : ActionSubmission)
    (queue : MemoryActionQueue) (requestHash : GoString) : Execution → MemoryActionQueue → Prop
  | sameAction {existing} (hRecord : queue.record? submission.envelope.actionID = some existing)
      (hHash : existing.requestHash = requestHash) :
      Submitted codec env submission queue requestHash (redactActionExecution existing.execution) queue
  | sameKey {existingID} (hFresh : queue.record? submission.envelope.actionID = none)
      (hBound : queue.idempotency.get?
        (scopeBindingKey submission.envelope.workspaceID submission.envelope.idempotencyKey) = some existingID)
      (hHash : ((queue.record? existingID).map (·.requestHash)).getD [] = requestHash) :
      Submitted codec env submission queue requestHash
        (redactActionExecution (((queue.record? existingID).map (·.execution)).getD {})) queue
  | created (hFresh : queue.record? submission.envelope.actionID = none)
      (hUnbound : queue.idempotency.get?
        (scopeBindingKey submission.envelope.workspaceID submission.envelope.idempotencyKey) = none) :
      Submitted codec env submission queue requestHash
        (MemoryActionRecord.submitted submission requestHash env.clock).execution
        (queue.enroll submission requestHash env.clock)

variable {submission : ActionSubmission} {execution : Execution} {answer : Answer}
  {inputs : List (Call × Environment)} {P : MemoryActionQueue → Prop}

theorem submit_submitted (h : queue.submit codec env submission = .ok (execution, queue')) :
    validateActionSubmission submission = .ok () ∧ ∃ requestHash,
      requestSemanticHash codec submission = .ok requestHash ∧
      Submitted codec env submission queue requestHash execution queue' := by
  simp only [submit, bind_eq_ok, require_eq_ok, now_eq_ok] at h
  obtain ⟨_, _, _, hValid, _, ⟨_, rfl⟩, requestHash, hHash, h⟩ := h
  refine ⟨hValid, requestHash, hHash, ?_⟩
  split at h
  · rename_i existing hRecord
    obtain ⟨_, hSame, h⟩ := bind_eq_ok.mp h
    cases h
    exact .sameAction hRecord (require_eq_ok.mp hSame)
  · rename_i hFresh
    split at h
    · rename_i existingID hBound
      obtain ⟨_, hSame, h⟩ := bind_eq_ok.mp h
      cases h
      exact .sameKey hFresh hBound (require_eq_ok.mp hSame)
    · rename_i hUnbound
      cases h
      exact .created hFresh hUnbound

theorem submit_moved (h : queue.submit codec env submission = .ok (execution, queue')) :
    Moved codec env (.submit submission) queue queue' := by
  obtain ⟨hValid, _, hHash, hSubmitted⟩ := submit_submitted h
  cases hSubmitted with
  | sameAction | sameKey => exact .inl rfl
  | created hFresh hUnbound => exact .inr (.enroll hValid hHash hFresh hUnbound)

theorem perform_claim {request : ActionClaimRequest}
    (h : queue.perform codec (.claim request, env) = .ok (answer, queue')) :
    ∃ executionID record record', queue.record? executionID = some record ∧
      Move codec env queue (some (.claim request)) executionID record record' ∧
      answer = .claimed (claimedAction record') ∧ queue' = queue.store executionID record' := by
  simp only [perform, bind_eq_ok, answering_eq_ok, entered, Call.sweepGuard, Option.getD_some] at h
  obtain ⟨_, hEntry, claimed, hClaim, rfl⟩ := h
  obtain ⟨_, hRequest, _, _⟩ := entry_eq_ok.mp hEntry
  simp only [claim, bind_eq_ok] at hClaim
  obtain ⟨_, _, hLoop⟩ := hClaim
  obtain ⟨executionID, record, record', hRecord, hMove, rfl, rfl⟩ := claimLoop_moved codec hRequest hLoop
  exact ⟨executionID, record, record', hRecord, hMove, rfl, rfl⟩

theorem perform_moved
    (h : queue.perform codec (call, env) = .ok (answer, queue')) : Moved codec env call queue queue' := by
  cases call with
  | submit =>
    obtain ⟨_, h, _⟩ := answering_eq_ok.mp h
    exact submit_moved h
  | claim =>
    obtain ⟨_, _, _, hRecord, hMove, _, rfl⟩ := perform_claim h
    exact .inr (.move hRecord hMove)
  | start =>
    obtain ⟨_, h, _⟩ := answering_eq_ok.mp h
    exact start_moved h
  | heartbeat =>
    obtain ⟨_, h, _⟩ := answering_eq_ok.mp h
    exact heartbeat_moved h
  | complete =>
    obtain ⟨_, h, _⟩ := answering_eq_ok.mp h
    exact complete_moved h
  | finalize =>
    obtain ⟨_, h, _⟩ := answering_eq_ok.mp h
    exact finalize_moved h
  | reject =>
    obtain ⟨_, h, _⟩ := answering_eq_ok.mp h
    exact reject_moved h
  | nack =>
    obtain ⟨_, h, _⟩ := answering_eq_ok.mp h
    exact nack_moved h
  | reconcile =>
    obtain ⟨now, hEntry, h⟩ := bind_eq_ok.mp h
    obtain ⟨_, hGuard, _, rfl⟩ := entry_eq_ok.mp hEntry
    obtain ⟨_, h, _⟩ := answering_eq_ok.mp h
    exact reconcile_moved (congrArg some hGuard) h
  | cancel =>
    obtain ⟨now, hEntry, h⟩ := bind_eq_ok.mp h
    obtain ⟨_, _, hClock, rfl⟩ := entry_eq_ok.mp hEntry
    obtain ⟨_, h, _⟩ := answering_eq_ok.mp h
    exact cancel_moved hClock h
  | sweepExpired =>
    obtain ⟨_, _, h⟩ := bind_eq_ok.mp h
    cases h
    exact .inl rfl
  | get =>
    obtain ⟨_, _, h⟩ := bind_eq_ok.mp h
    obtain ⟨_, h, _⟩ := answering_eq_ok.mp h
    obtain ⟨_, _, h⟩ := bind_eq_ok.mp h
    cases h
    exact .inl rfl

theorem step_cases (codec : Codec) (queue : MemoryActionQueue) (call : Call) (env : Environment) :
    ((∃ failure, (queue.step codec (call, env)).1 = .error failure) ∧
        (queue.step codec (call, env)).2 = queue.opened codec (call, env)) ∨
      ∃ answer, (queue.step codec (call, env)).1 = .ok answer ∧
        (queue.opened codec (call, env)).perform codec (call, env) = .ok (answer, (queue.step codec (call, env)).2) := by
  unfold step
  split
  · rename_i answer queue' h
    exact .inr ⟨answer, rfl, h⟩
  · rename_i failure h
    exact .inl ⟨⟨failure, rfl⟩, rfl⟩

theorem step_moved (codec : Codec) (queue : MemoryActionQueue) (call : Call) (env : Environment) :
    Moved codec env call (queue.opened codec (call, env)) (queue.step codec (call, env)).2 := by
  rcases step_cases codec queue call env with ⟨_, h⟩ | ⟨_, _, h⟩
  · exact .inl h
  · exact perform_moved h

theorem stateAt_step {n : Nat} {input : Call × Environment} (h : inputs[n]? = some input) :
    (machine codec).stateAt inputs (n + 1) = (((machine codec).stateAt inputs n).step codec input).2 :=
  (machine codec).stateAt_succ h

theorem opened_invariant
    (hWrite : ∀ queue queue', Write codec env none queue queue' → P queue → P queue') (hQueue : P queue) :
    P (queue.opened codec (call, env)) := by
  have hWrites := opened_writes codec env queue call
  generalize queue.opened codec (call, env) = reached at hWrites
  induction hWrites with
  | refl => exact hQueue
  | tail _ h ih => exact hWrite _ _ h ih

theorem step_invariant
    (hWrite : ∀ label queue queue', label = none ∨ label = some call → Write codec env label queue queue' →
      P queue → P queue') (hQueue : P queue) : P (queue.step codec (call, env)).2 := by
  have hOpened : P (queue.opened codec (call, env)) := opened_invariant (fun _ _ => hWrite none _ _ (.inl rfl)) hQueue
  rcases step_moved codec queue call env with h | h
  · rwa [h]
  · exact hWrite _ _ _ (.inr rfl) h hOpened

/-- A property of records that submissions have and that no write of an admitted input loses. -/
structure RecordInvariant (codec : Codec) (admitted : Call × Environment → Prop)
    (Q : GoString → MemoryActionRecord → Prop) : Prop where
  submitted : ∀ submission requestHash now, validateActionSubmission submission = .ok () →
    requestSemanticHash codec submission = .ok requestHash →
    Q submission.envelope.actionID (.submitted submission requestHash now)
  moved : ∀ call env, admitted (call, env) → ∀ queue label executionID record record',
    label = none ∨ label = some call → Move codec env queue label executionID record record' →
    Q executionID record → Q executionID record'

def EveryRecord (Q : GoString → MemoryActionRecord → Prop) (queue : MemoryActionQueue) : Prop :=
  ∀ id record, queue.record? id = some record → Q id record

def RecordsRelated (R : MemoryActionRecord → MemoryActionRecord → Prop) (before after : MemoryActionQueue) : Prop :=
  ∀ id record, before.record? id = some record → ∃ record', after.record? id = some record' ∧ R record record'

variable {admitted : Call × Environment → Prop} {Q : GoString → MemoryActionRecord → Prop}

variable {label : Option Call}

theorem RecordInvariant.write (h : RecordInvariant codec admitted Q)
    (hAdmitted : admitted (call, env)) (hLabel : label = none ∨ label = some call)
    (hWrite : Write codec env label queue queue') (hQueue : queue.EveryRecord Q) : queue'.EveryRecord Q := by
  intro id record hLookup
  cases hWrite with
  | move hRecord hMove =>
    rcases GoMap.get?_insert_cases hLookup with ⟨rfl, rfl⟩ | ⟨_, hLookup⟩
    · exact h.moved call env hAdmitted queue _ _ _ _ hLabel hMove (hQueue _ _ hRecord)
    · exact hQueue id record hLookup
  | enroll hValid hHash =>
    rcases GoMap.get?_insert_cases hLookup with ⟨rfl, rfl⟩ | ⟨_, hLookup⟩
    · exact h.submitted _ _ _ hValid hHash
    · exact hQueue id record hLookup

theorem RecordInvariant.write_any (h : RecordInvariant codec (fun _ => True) Q)
    (hWrite : Write codec env label queue queue') (hQueue : queue.EveryRecord Q) : queue'.EveryRecord Q := by
  cases label with
  | none =>
    have hLabel : (none : Option Call) = none ∨ (none : Option Call) = some .sweepExpired := .inl rfl
    exact h.write trivial hLabel hWrite hQueue
  | some => exact h.write trivial (.inr rfl) hWrite hQueue

theorem RecordInvariant.stateAt (h : RecordInvariant codec admitted Q)
    (hAdmitted : ∀ input ∈ inputs, admitted input) (n : Nat) : ((machine codec).stateAt inputs n).EveryRecord Q := by
  have hAlong : (machine codec).Along (fun _ input => admitted input) inputs := by
    intro n input hInput
    exact hAdmitted input (List.mem_of_getElem? hInput)
  refine (machine codec).stateAt_of_along (P := EveryRecord Q) ?_ ?_ hAlong n
  · intro _ _ hLookup
    cases hLookup
  · rintro _ ⟨_, _⟩ hInput hQueue
    exact step_invariant (fun _ _ _ hLabel hWrite hBefore => h.write hInput hLabel hWrite hBefore) hQueue

theorem write_keeps (h : Write codec env label queue queue') {id : GoString}
    {record : MemoryActionRecord} (hRecord : queue.record? id = some record) :
    ∃ record', queue'.record? id = some record' ∧
      (record' = record ∨ Move codec env queue label id record record') := by
  cases h with
  | @move _ _ moved before after hBefore hMove =>
    by_cases hId : id = moved
    · subst hId
      rw [hBefore] at hRecord
      cases hRecord
      exact ⟨after, by simp, .inr hMove⟩
    · exact ⟨record, by simp [hId, hRecord], .inl rfl⟩
  | @enroll _ submission requestHash _ _ hFresh =>
    have hId : id ≠ submission.envelope.actionID := by
      rintro rfl
      rw [hFresh] at hRecord
      cases hRecord
    exact ⟨record, by simp [hId, hRecord], .inl rfl⟩

section Related

variable {R : MemoryActionRecord → MemoryActionRecord → Prop} (h : RecordInvariant codec (fun _ => True) Q)
  (hRefl : ∀ record, R record record)
  (hTrans : ∀ first second third, R first second → R second third → R first third)
  (hMove : ∀ env queue label id record record', Move codec env queue label id record record' →
    Q id record → R record record')

include h hRefl hTrans hMove

theorem RecordInvariant.step_related (input : Call × Environment) (hQueue : queue.EveryRecord Q) :
    RecordsRelated R queue (queue.step codec input).2 := by
  obtain ⟨_, env⟩ := input
  intro id record hLookup
  refine (step_invariant (P := fun queue => queue.EveryRecord Q ∧
    ∃ record', queue.record? id = some record' ∧ R record record') ?_ ⟨hQueue, record, hLookup, hRefl record⟩).2
  rintro label _ _ hLabel hWrite ⟨hBefore, earlier, hEarlier, hRelated⟩
  have hAfter := h.write trivial hLabel hWrite hBefore
  obtain ⟨later, hLater, hSame | hMoved⟩ := write_keeps hWrite hEarlier
  · rw [hSame] at hLater
    exact ⟨hAfter, earlier, hLater, hRelated⟩
  · exact ⟨hAfter, later, hLater, hTrans _ _ _ hRelated (hMove _ _ _ _ _ _ hMoved (hBefore _ _ hEarlier))⟩

theorem RecordInvariant.related (inputs : List (Call × Environment)) {m n : Nat} (hmn : m ≤ n) :
    RecordsRelated R ((machine codec).stateAt inputs m) ((machine codec).stateAt inputs n) := by
  refine (machine codec).stateAt_related (P := EveryRecord Q) (fun inputs n => h.stateAt (fun _ _ => trivial) n)
    ?_ ?_ (fun queue input hQueue => h.step_related hRefl hTrans hMove input hQueue) inputs hmn
  · intro queue id record hLookup
    exact ⟨record, hLookup, hRefl record⟩
  · intro first second third hFirst hSecond id record hLookup
    obtain ⟨middle, hMiddle, hRelated⟩ := hFirst id record hLookup
    obtain ⟨last, hLast, hRelated'⟩ := hSecond id middle hMiddle
    exact ⟨last, hLast, hTrans _ _ _ hRelated hRelated'⟩

end Related

end AiopsSystem.Execution.MemoryActionQueue
