import AiopsSystem.Execution.Lifecycle

/-! # Fencing by the most recent claim

The history of a run is read for one thing: the identity that the latest
successful claim of an execution handed out. A leased or running record holds
exactly this identity, and a record waiting to be finalized holds the runner,
the epoch and the digest of the token. So whoever passes a fence check was the
latest to claim, whatever tokens the source repeats.
-/

namespace AiopsSystem.Execution

open Go AiopsSystem.Action ExecutionLease MemoryActionQueue

def issuedTo (id : GoString) : Reply → Option LeaseIdentity
  | .ok (.claimed claimed) => if claimed.execution.executionID = id then some claimed.execution.fence else none
  | _ => none

abbrev History := List (MemoryActionQueue × (Call × Environment) × Reply)

def lastIssued (id : GoString) (past : History) : Option LeaseIdentity :=
  past.foldl (fun last step => (issuedTo id step.2.2).or last) none

theorem lastIssued_concat (id : GoString) (past : History) (step : MemoryActionQueue × (Call × Environment) × Reply) :
    lastIssued id (past ++ [step]) = (issuedTo id step.2.2).or (lastIssued id past) := by
  simp [lastIssued]

def Call.presented : Call → Option LeaseIdentity
  | .start fence => some fence
  | .heartbeat request => some request.lease
  | .complete request => some request.lease
  | .finalize fence => some fence
  | .reject request => some request.lease
  | .nack request => some request.lease
  | _ => none

variable {call : Call} {fence : LeaseIdentity}

theorem Call.sweepGuard_of_presented (h : call.presented = some fence) : call.sweepGuard = none := by
  cases call <;> first | rfl | cases h

structure FencedRecord (codec : Codec) (last : Option LeaseIdentity) (record : MemoryActionRecord) : Prop where
  epoch : record.execution.leaseEpoch = (last.map (·.epoch)).getD 0
  live : record.execution.status = .leased ∨ record.execution.status = .running → last = some record.execution.fence
  concluding : record.execution.status = .finalizing → ∃ fence, last = some fence ∧
    fence.executionID = record.execution.executionID ∧ fence.runnerID = record.execution.runnerID ∧
    fence.epoch = record.completedEpoch ∧ codec.sha256Hex fence.token = record.completedTokenHash

variable {execution : Execution}

theorem fence_eq_of_sameActionFence (h : sameActionFence execution fence) : execution.fence = fence := by
  simp only [sameActionFence, Bool.and_eq_true, beq_iff_eq] at h
  obtain ⟨⟨⟨_, _⟩, _⟩, _⟩ := h
  cases fence
  simp_all [Execution.fence]

theorem fence_eq_of_currentActionFence {now : Int}
    (h : currentActionFence execution fence now) : execution.fence = fence := by
  simp only [currentActionFence, Bool.and_eq_true] at h
  exact fence_eq_of_sameActionFence h.1

section Moves

variable {codec : Codec} {env : Environment} {queue : MemoryActionQueue} {label : Option Call}
  {executionID : GoString} {record record' : MemoryActionRecord} {last : Option LeaseIdentity}

theorem MemoryActionRecord.beaten_fence (record : MemoryActionRecord) (sequence extension now : Int) :
    (record.beaten sequence extension now).execution.fence = record.execution.fence := by
  unfold beaten
  split <;> rfl

theorem Move.epoch_le (h : Move codec env queue label executionID record record') :
    record.execution.leaseEpoch ≤ record'.execution.leaseEpoch := by
  cases h with
  | claim => exact Int.le_add_one (Int.le_refl _)
  | heartbeat => exact (congrArg LeaseIdentity.epoch (record.beaten_fence _ _ _)).ge
  | _ => exact Int.le_refl _

theorem FencedRecord.of_idle (h : FencedRecord codec last record)
    (hEpoch : record'.execution.leaseEpoch = record.execution.leaseEpoch)
    (hIdle : record'.execution.status ≠ .leased ∧ record'.execution.status ≠ .running ∧
      record'.execution.status ≠ .finalizing) : FencedRecord codec last record' where
  epoch := hEpoch.trans h.epoch
  live := by
    rintro (hStatus | hStatus)
    · exact absurd hStatus hIdle.1
    · exact absurd hStatus hIdle.2.1
  concluding := fun hStatus => absurd hStatus hIdle.2.2

theorem FencedRecord.of_live (h : FencedRecord codec last record)
    (hBefore : record.execution.status = .leased ∨ record.execution.status = .running)
    (hAfter : record'.execution.status = .leased ∨ record'.execution.status = .running)
    (hFence : record'.execution.fence = record.execution.fence) : FencedRecord codec last record' where
  epoch := (congrArg LeaseIdentity.epoch hFence).trans h.epoch
  live := fun _ => by rw [hFence]; exact h.live hBefore
  concluding := by
    intro hStatus
    rcases hAfter with hAfter | hAfter <;> exact absurd (hAfter.symm.trans hStatus) (by decide)

theorem finalized_idle (hStatus : record.execution.status = .finalizing) (hConcluding : Concluding record) (now : Int) :
    (record.finalized now).execution.status ≠ .leased ∧ (record.finalized now).execution.status ≠ .running ∧
      (record.finalized now).execution.status ≠ .finalizing := by
  have hCompletion : (record.finalized now).execution.status = record.execution.completionStatus := rfl
  rw [hCompletion]
  rcases hConcluding hStatus with h | h | h <;> rw [h] <;> decide

theorem FencedRecord.move (h : FencedRecord codec last record) (hConcluding : Concluding record)
    (hMove : Move codec env queue label executionID record record') (hLabel : ∀ request, label ≠ some (.claim request)) :
    FencedRecord codec last record' := by
  cases hMove with
  | claim => exact absurd rfl (hLabel _)
  | recover hStatus | finalize _ _ _ hStatus => exact h.of_idle rfl (finalized_idle hStatus hConcluding _)
  | requeue | lapse | reject | nack | cancel => exact h.of_idle rfl ⟨nofun, nofun, nofun⟩
  | reconcile _ hDecision =>
    refine h.of_idle rfl ?_
    simp only [MemoryActionRecord.reconciled]
    rcases hDecision with hDecision | hDecision <;> rw [hDecision] <;> decide
  | start _ _ _ _ hStatus => exact h.of_live (.inl hStatus) (.inr rfl) rfl
  | requestCancel _ hStatus => exact h.of_live (.inr hStatus) (.inr hStatus) rfl
  | heartbeat _ _ _ _ hStatus =>
    refine h.of_live hStatus ?_ (record.beaten_fence _ _ _)
    rwa [record.beaten_status]
  | complete _ _ _ _ hCurrent hStatus =>
    have hFence := fence_eq_of_currentActionFence hCurrent
    refine ⟨h.epoch, ?_, ?_⟩
    · rintro (hStatus | hStatus) <;> cases hStatus
    · intro _
      refine ⟨record.execution.fence, h.live (.inr hStatus), rfl, rfl, ?_, ?_⟩ <;> rw [hFence] <;> rfl

theorem FencedRecord.leased (record : MemoryActionRecord) (request : ActionClaimRequest) (token : GoString)
    (now : Int) : FencedRecord codec (some (record.leased request token now).execution.fence)
      (record.leased request token now) where
  epoch := rfl
  live := fun _ => rfl
  concluding := by
    intro hStatus
    cases hStatus

theorem FencedRecord.presented_eq (h : FencedRecord codec last record) (hSha : Function.Injective codec.sha256Hex)
    (hKeyed : record.execution.executionID = executionID)
    (hMove : Move codec env queue (some call) executionID record record') (hPresented : call.presented = some fence) :
    fence.executionID = executionID ∧ last = some fence := by
  cases hMove with
  | claim | reconcile | requestCancel | cancel => cases hPresented
  | start _ _ _ hCurrent hStatus | reject _ _ hCurrent hStatus | nack _ _ hCurrent hStatus =>
    cases hPresented
    exact ⟨rfl, by rw [h.live (.inl hStatus), fence_eq_of_currentActionFence hCurrent]⟩
  | heartbeat _ _ _ hSame hStatus =>
    cases hPresented
    exact ⟨rfl, by rw [h.live hStatus, fence_eq_of_sameActionFence hSame]⟩
  | complete _ _ _ _ hCurrent hStatus =>
    cases hPresented
    exact ⟨rfl, by rw [h.live (.inr hStatus), fence_eq_of_currentActionFence hCurrent]⟩
  | finalize _ _ hCompleted hStatus =>
    cases hPresented
    obtain ⟨issued, hLast, _, _, _, hToken⟩ := h.concluding hStatus
    simp only [completedFence, hashLeaseToken, Bool.and_eq_true, beq_iff_eq] at hCompleted
    obtain ⟨⟨⟨_, _⟩, _⟩, hToken'⟩ := hCompleted
    have hSame : issued = fence := by
      have hTokens := hSha (hToken.trans hToken')
      cases issued
      cases fence
      simp_all
    exact ⟨rfl, by rw [hLast, hSame]⟩

end Moves

namespace MemoryActionQueue

/-- Every record is fenced by what was issued for it last, and nothing was issued for the others. -/
structure FencedBy (codec : Codec) (last : GoString → Option LeaseIdentity) (queue : MemoryActionQueue) : Prop where
  absent : ∀ id, queue.record? id = none → last id = none
  keyed : queue.Keyed
  concluding : queue.EveryRecord (fun _ record => Concluding record)
  fenced : queue.EveryRecord (fun id record => FencedRecord codec (last id) record)

section Steps

variable {codec : Codec} {env : Environment} {queue queue' : MemoryActionQueue} {last : GoString → Option LeaseIdentity}

variable {label : Option Call} {id : GoString}

theorem absent_of_write (hWrite : Write codec env label queue queue')
    (h : queue'.record? id = none) : queue.record? id = none := by
  by_contra hSome
  obtain ⟨_, hRecord⟩ := Option.ne_none_iff_exists'.mp hSome
  obtain ⟨_, hRecord', _⟩ := write_keeps hWrite hRecord
  rw [h] at hRecord'
  cases hRecord'

theorem FencedBy.write (h : queue.FencedBy codec last)
    (hWrite : Write codec env label queue queue') (hLabel : ∀ request, label ≠ some (.claim request)) :
    queue'.FencedBy codec last where
  absent := fun id hAbsent => h.absent id (absent_of_write hWrite hAbsent)
  keyed := (keyed_invariant codec).write_any hWrite h.keyed
  concluding := (concluding_invariant codec).write_any hWrite h.concluding
  fenced := by
    intro id record hLookup
    cases hWrite with
    | move hRecord hMove =>
      rcases GoMap.get?_insert_cases hLookup with ⟨rfl, rfl⟩ | ⟨_, hLookup⟩
      · exact (h.fenced _ _ hRecord).move (h.concluding _ _ hRecord) hMove hLabel
      · exact h.fenced id record hLookup
    | enroll hValid hHash hFresh =>
      rcases GoMap.get?_insert_cases hLookup with ⟨rfl, rfl⟩ | ⟨_, hLookup⟩
      · refine ⟨?_, ?_, ?_⟩
        · rw [h.absent _ hFresh]
          rfl
        · rintro (hStatus | hStatus) <;> cases hStatus
        · nofun
      · exact h.fenced id record hLookup

theorem FencedBy.claim (h : queue.FencedBy codec last) {request : ActionClaimRequest}
    {record record' : MemoryActionRecord} (hRecord : queue.record? id = some record)
    (hMove : Move codec env queue (some (.claim request)) id record record') :
    (queue.store id record').FencedBy codec
      (fun other => (issuedTo other (.ok (.claimed (claimedAction record')))).or (last other)) := by
  have hWrite : Write codec env (some (.claim request)) queue (queue.store id record') := .move hRecord hMove
  have hId : record'.execution.executionID = id :=
    (congrArg RecordIdentity.executionID hMove.identity_eq).trans (h.keyed _ _ hRecord)
  have hIssued : ∀ other, issuedTo other (.ok (.claimed (claimedAction record'))) =
      if id = other then some record'.execution.fence else none := by
    intro other
    simp only [issuedTo, claimedAction, hId]
  refine ⟨?_, (keyed_invariant codec).write_any hWrite h.keyed,
    (concluding_invariant codec).write_any hWrite h.concluding, ?_⟩
  · intro other hAbsent
    rw [record?_store] at hAbsent
    split at hAbsent
    · cases hAbsent
    · rename_i hNe
      rw [hIssued, if_neg (fun hEq => hNe hEq.symm)]
      exact h.absent other hAbsent
  · intro other existing hLookup
    rcases GoMap.get?_insert_cases hLookup with ⟨rfl, rfl⟩ | ⟨hNe, hLookup⟩
    · rw [hIssued, if_pos rfl]
      cases hMove
      exact .leased _ _ _ _
    · rw [hIssued, if_neg (fun hEq => hNe hEq.symm)]
      exact h.fenced other existing hLookup

theorem perform_claimed {claimed : ClaimedAction}
    (h : queue.perform codec (call, env) = .ok (.claimed claimed, queue')) : ∃ request, call = .claim request := by
  cases call with
  | claim request => exact ⟨request, rfl⟩
  | submit | start | heartbeat | complete | finalize | reject | nack =>
    obtain ⟨_, _, h⟩ := answering_eq_ok.mp h
    cases h
  | reconcile | cancel | get =>
    obtain ⟨_, _, h⟩ := bind_eq_ok.mp h
    obtain ⟨_, _, h⟩ := answering_eq_ok.mp h
    cases h
  | sweepExpired =>
    obtain ⟨_, _, h⟩ := bind_eq_ok.mp h
    cases h

theorem FencedBy.opened (h : queue.FencedBy codec last) (call : Call) (env : Environment) :
    (queue.opened codec (call, env)).FencedBy codec last :=
  opened_invariant (fun _ _ hWrite hQueue => FencedBy.write hQueue hWrite (fun _ => nofun)) h

theorem FencedBy.step (h : queue.FencedBy codec last) (call : Call) :
    (queue.step codec (call, env)).2.FencedBy codec
      (fun id => (issuedTo id (queue.step codec (call, env)).1).or (last id)) := by
  have hOpened := h.opened call env
  rcases step_cases codec queue call env with ⟨⟨_, hReply⟩, hSame⟩ | ⟨answer, hReply, hPerform⟩
  · rw [hReply, hSame]
    exact hOpened
  · rw [hReply]
    by_cases hClaim : ∃ request, call = .claim request
    · obtain ⟨request, rfl⟩ := hClaim
      obtain ⟨id, _, _, hRecord, hMove, rfl, hQueue⟩ := perform_claim hPerform
      rw [hQueue]
      exact hOpened.claim hRecord hMove
    · have hNone : ∀ id, issuedTo id (.ok answer) = none := by
        intro id
        cases answer with
        | claimed => exact absurd (perform_claimed hPerform) hClaim
        | execution | heartbeat | done => rfl
      simp only [hNone, Option.none_or]
      rcases perform_moved hPerform with hSame | hWrite
      · rwa [hSame]
      · refine hOpened.write hWrite ?_
        intro request hLabel
        exact hClaim ⟨request, Option.some.inj hLabel⟩

end Steps

def lastIssuedAt (codec : Codec) (inputs : List (Call × Environment)) (id : GoString) (n : Nat) :
    Option LeaseIdentity :=
  lastIssued id ((machine codec).trace (inputs.take n))

theorem stateAt_fencedBy (codec : Codec) (inputs : List (Call × Environment)) (n : Nat) :
    ((machine codec).stateAt inputs n).FencedBy codec (fun id => lastIssuedAt codec inputs id n) := by
  refine (machine codec).trace_invariant (P := fun past queue => queue.FencedBy codec (fun id => lastIssued id past))
    ?_ ?_ ((machine codec).along_true inputs) n
  · refine ⟨fun _ _ => rfl, ?_, ?_, ?_⟩ <;> intro id record hLookup <;> cases hLookup
  · rintro past queue ⟨call, _⟩ _ hQueue
    simp only [lastIssued_concat]
    exact hQueue.step call

variable {last : GoString → Option LeaseIdentity} {queue : MemoryActionQueue} {env : Environment} {codec : Codec}

theorem step_epoch (h : queue.FencedBy codec last) {id : GoString} {record record' : MemoryActionRecord}
    (hRecord : queue.record? id = some record) (hRecord' : (queue.step codec (call, env)).2.record? id = some record') :
    record'.execution.leaseEpoch = record.execution.leaseEpoch +
      if (issuedTo id (queue.step codec (call, env)).1).isSome then 1 else 0 := by
  have hEpoch := (h.fenced id record hRecord).epoch
  have hEpoch' := (h.step call).fenced id record' hRecord' |>.epoch
  cases hIssued : issuedTo id (queue.step codec (call, env)).1 with
  | none =>
    rw [hIssued, Option.none_or] at hEpoch'
    simp [hEpoch, hEpoch']
  | some issued =>
    rcases step_cases codec queue call env with ⟨⟨_, hReply⟩, _⟩ | ⟨answer, hReply, hPerform⟩
    · rw [hReply] at hIssued
      cases hIssued
    · rw [hReply] at hIssued
      cases answer with
      | execution | heartbeat | done => cases hIssued
      | claimed =>
        obtain ⟨request, rfl⟩ := perform_claimed hPerform
        obtain ⟨leasedID, _, after, hBefore, hMove, hAnswer, hQueue⟩ := perform_claim hPerform
        have hOpened := h.opened (.claim request) env
        have hId : after.execution.executionID = leasedID :=
          (congrArg RecordIdentity.executionID hMove.identity_eq).trans (hOpened.keyed _ _ hBefore)
        -- The claim that issued an identity for this execution leased this execution.
        have hSame : leasedID = id := by
          cases hAnswer
          simp only [issuedTo, claimedAction, hId] at hIssued
          split at hIssued
          · assumption
          · cases hIssued
        subst hSame
        rw [hQueue, record?_store, if_pos rfl] at hRecord'
        cases hRecord'
        have hBeforeEpoch := (hOpened.fenced _ _ hBefore).epoch
        cases hMove with
        | claim =>
          simp only [MemoryActionRecord.leased, Option.isSome_some, if_true]
          rw [hBeforeEpoch, hEpoch]

theorem step_presented (hSha : Function.Injective codec.sha256Hex)
    (h : queue.FencedBy codec last) (hPresented : call.presented = some fence) :
    (queue.step codec (call, env)).2 = queue ∨
      last fence.executionID = some fence ∧
        ∀ id, id ≠ fence.executionID → (queue.step codec (call, env)).2.record? id = queue.record? id := by
  have hOpened : queue.opened codec (call, env) = queue :=
    opened_of_sweepGuard_none (Call.sweepGuard_of_presented hPresented)
  rcases step_moved codec queue call env with hSame | hWrite
  · exact .inl (hSame.trans hOpened)
  · rw [hOpened] at hWrite
    generalize (queue.step codec (call, env)).2 = queue' at hWrite
    cases hWrite with
    | enroll => cases hPresented
    | @move _ _ id record record' hRecord hMove =>
      obtain ⟨hId, hLast⟩ := (h.fenced _ _ hRecord).presented_eq hSha (h.keyed _ _ hRecord) hMove hPresented
      subst hId
      refine .inr ⟨hLast, ?_⟩
      intro _ hNe
      rw [record?_store, if_neg hNe]

/-- Epochs never decrease and grow by one at each claim, and a fenced call changes an execution only
with the identity of its most recent claim; an older one changes nothing. -/
theorem latest_claim_fences (codec : Codec) (hSha : Function.Injective codec.sha256Hex)
    (inputs : List (Call × Environment)) (id : GoString) :
    (∀ n call env record record', inputs[n]? = some (call, env) →
      ((machine codec).stateAt inputs n).record? id = some record →
      ((machine codec).stateAt inputs (n + 1)).record? id = some record' →
      record'.execution.leaseEpoch = record.execution.leaseEpoch +
        if (issuedTo id (((machine codec).stateAt inputs n).step codec (call, env)).1).isSome then 1 else 0) ∧
    (∀ m n record record', m ≤ n → ((machine codec).stateAt inputs m).record? id = some record →
      ((machine codec).stateAt inputs n).record? id = some record' →
      record.execution.leaseEpoch ≤ record'.execution.leaseEpoch) ∧
    (∀ n call env fence, inputs[n]? = some (call, env) → call.presented = some fence →
      ((machine codec).stateAt inputs (n + 1)).record? id ≠ ((machine codec).stateAt inputs n).record? id →
      fence.executionID = id ∧ lastIssuedAt codec inputs id n = some fence) ∧
    (∀ n call env fence record, inputs[n]? = some (call, env) → call.presented = some fence →
      ((machine codec).stateAt inputs n).record? fence.executionID = some record →
      fence.epoch < record.execution.leaseEpoch →
      (machine codec).stateAt inputs (n + 1) = (machine codec).stateAt inputs n) := by
  have hFenced := stateAt_fencedBy codec inputs
  refine ⟨?_, ?_, ?_, ?_⟩
  · intro n call env record record' hInput hRecord hRecord'
    rw [stateAt_step hInput] at hRecord'
    exact step_epoch (hFenced n) hRecord hRecord'
  · intro m n record record' hmn hRecord hRecord'
    obtain ⟨_, hLater, hEpoch⟩ := (keyed_invariant codec).related
      (R := fun record record' => record.execution.leaseEpoch ≤ record'.execution.leaseEpoch)
      (fun _ => Int.le_refl _) (fun _ _ _ => Int.le_trans) (fun _ _ _ _ _ _ hMove _ => hMove.epoch_le)
      inputs hmn id record hRecord
    rw [hRecord'] at hLater
    cases hLater
    exact hEpoch
  · intro n call env fence hInput hPresented hChanged
    rw [stateAt_step hInput] at hChanged
    rcases step_presented hSha (hFenced n) hPresented with hSame | ⟨hLast, hOthers⟩
    · exact absurd (congrArg (fun queue => record? queue id) hSame) hChanged
    · by_cases hId : id = fence.executionID
      · subst hId
        exact ⟨rfl, hLast⟩
      · exact absurd (hOthers id hId) hChanged
  · intro n call env fence record hInput hPresented hRecord _
    rw [stateAt_step hInput]
    rcases step_presented hSha (hFenced n) hPresented with hSame | ⟨hLast, _⟩
    · exact hSame
    · have hEpoch := ((hFenced n).fenced _ _ hRecord).epoch
      rw [hLast] at hEpoch
      simp only [Option.map_some, Option.getD_some] at hEpoch
      omega

theorem sampleCodec_injective : Function.Injective sampleCodec.sha256Hex := by
  apply digestTable_injective <;> decide +kernel

theorem latest_claim_fences_restart :
    Function.Injective sampleCodec.sha256Hex ∧
      ((machine sampleCodec).stateAt sampleCompletedRun 4).record? (ascii "action-1") ≠
        ((machine sampleCodec).stateAt sampleCompletedRun 3).record? (ascii "action-1") ∧
      lastIssuedAt sampleCodec sampleCompletedRun (ascii "action-1") 3 = some sampleFence := by
  have hChanged : ((machine sampleCodec).stateAt sampleCompletedRun 4).record? (ascii "action-1") ≠
      ((machine sampleCodec).stateAt sampleCompletedRun 3).record? (ascii "action-1") := by
    intro hSame
    have hStatus := congrArg (Option.map (·.execution.status)) hSame
    exact absurd (sample_startsAt.2.symm.trans (hStatus.trans sample_startsAt.1)) (by decide)
  obtain ⟨_, _, hFenced, _⟩ :=
    latest_claim_fences sampleCodec sampleCodec_injective sampleCompletedRun (ascii "action-1")
  exact ⟨sampleCodec_injective, hChanged, (hFenced 3 _ _ sampleFence rfl rfl hChanged).2⟩

end MemoryActionQueue

end AiopsSystem.Execution
