import AiopsSystem.Credential.Justification

/-! # Claims are fenced and retries are bounded

`ClaimRevocations` claims every record it selects or none. The history of a
record keeps the last claim that was handed out, with the expiry its worker
was told; only the holder of that claim can change the record until then.
-/

namespace AiopsSystem.Credential

open Go Go.Section MemoryRepository MemoryRevocationRecord MemoryPreparedClaim List

section Claiming

variable (sha256Hex : GoString → GoString) (request : ClaimRevocationsRequest) (now : Int)

/-- The record the second loop of `ClaimRevocations` stores. -/
def MemoryPreparedClaim.issued (item : MemoryPreparedClaim) : MemoryRevocationRecord :=
  let record := item.record.claimed sha256Hex request.workerID item.token now request.leaseDuration
  if item.poison then record.poisoned sha256Hex now else record

/-- The claim the second loop of `ClaimRevocations` returns, unless the accessor is unusable. -/
def MemoryPreparedClaim.handed (item : MemoryPreparedClaim) : ClaimedRevocation :=
  let record := item.record.claimed sha256Hex request.workerID item.token now request.leaseDuration
  { revocation := record.revocation
    fence := {
      revocationID := record.revocation.id
      workerID := request.workerID
      token := item.token
      epoch := record.revocation.claimEpoch }
    accessor := item.accessor }

def selected (env : Environment) (repository : MemoryRepository) (request : ClaimRevocationsRequest) :
    List (GoString × MemoryRevocationRecord) :=
  (candidates env repository (revocationClaimable (env.clock 0)) claimOrder).take request.limit.toNat

variable {sha256Hex request now} {env : Environment} {repository : MemoryRepository}

theorem issueClaims_result {items : List MemoryPreparedClaim} (hNodup : (items.map (·.id)).Nodup) :
    Ends (issueClaims sha256Hex request now items) repository (fun reply repository' =>
      reply = .ok ((items.filter (fun item => !item.poison)).map (·.handed sha256Hex request now)) ∧
      (∀ item ∈ items, repository'.record? item.id = some (item.issued sha256Hex request now)) ∧
      ∀ id ∉ items.map (·.id), repository'.record? id = repository.record? id) := by
  induction items generalizing repository with
  | nil => exact ⟨rfl, fun _ h => absurd h not_mem_nil, fun _ _ => rfl⟩
  | cons item rest ih =>
    obtain ⟨hFresh, hRest⟩ := nodup_cons.mp hNodup
    -- The later items leave the record of this one alone, and it is the first to store there.
    have hStored : ∀ (record : MemoryRevocationRecord) (repository' : MemoryRepository), (∀ id ∉ rest.map (·.id),
        repository'.record? id = (repository.store item.id record).record? id) →
        repository'.record? item.id = some record ∧
          ∀ id ∉ (item :: rest).map (·.id), repository'.record? id = repository.record? id := by
      intro record repository' hOthers
      refine ⟨?_, ?_⟩
      · rw [hOthers item.id hFresh, record?_store, if_pos rfl]
      · intro id hID
        rw [map_cons, mem_cons, not_or] at hID
        rw [hOthers id hID.2, record?_store, if_neg hID.1]
    rw [issueClaims]
    split
    · rename_i hPoison
      apply Ends.modify
      refine Ends.mono (ih hRest) ?_
      rintro reply repository' ⟨rfl, hIssued, hOthers⟩
      obtain ⟨hItem, hKept⟩ := hStored _ _ hOthers
      refine ⟨by rw [filter_cons_of_neg (by simp [hPoison])], ?_, hKept⟩
      intro other hOther
      rcases mem_cons.mp hOther with rfl | hOther
      · rw [hItem, issued, if_pos hPoison]
      · exact hIssued other hOther
    · rename_i hUsable
      apply Ends.modify
      apply Ends.bind
      refine Ends.mono (ih hRest) ?_
      rintro reply repository' ⟨rfl, hIssued, hOthers⟩
      obtain ⟨hItem, hKept⟩ := hStored _ _ hOthers
      apply Ends.pure
      refine ⟨by rw [filter_cons_of_pos (by simp [hUsable])]; rfl, ?_, hKept⟩
      intro other hOther
      rcases mem_cons.mp hOther with rfl | hOther
      · rw [hItem, issued, if_neg hUsable]
      · exact hIssued other hOther

/-- A `ClaimRevocations` that passed its first loop. -/
structure ClaimsAll (sha256Hex : GoString → GoString) (request : ClaimRevocationsRequest) (env : Environment)
    (repository repository' : MemoryRepository) (items : List MemoryPreparedClaim) : Prop where
  entries : items.map (fun item => (item.id, item.record)) = selected env repository request
  stored : ∀ item ∈ items, repository'.record? item.id = some (item.issued sha256Hex request (env.clock 0))
  kept : ∀ id ∉ items.map (·.id), repository'.record? id = repository.record? id

theorem claimRevocations_result (request : ClaimRevocationsRequest) :
    Ends (claimRevocations sha256Hex env request) repository (fun reply repository' =>
      (∃ failure, reply = .error failure) ∧ repository' = repository ∨
      ∃ items, ClaimsAll sha256Hex request env repository repository' items ∧
        reply = .ok ((items.filter (fun item => !item.poison)).map (·.handed sha256Hex request (env.clock 0)))) := by
  unfold claimRevocations
  apply Ends.attempt fun _ _ => .inl ⟨⟨_, rfl⟩, rfl⟩
  intro _ _
  apply Ends.ensure (.inl ⟨⟨_, rfl⟩, rfl⟩)
  intro _
  apply Ends.get
  apply Ends.attempt fun _ _ => .inl ⟨⟨_, rfl⟩, rfl⟩
  intro items hItems
  have hEntries := prepareClaims_entries hItems
  have hNodup := candidates_nodup env repository (revocationClaimable (env.clock 0)) claimOrder request.limit.toNat
  rw [← hEntries, map_map] at hNodup
  refine Ends.mono (issueClaims_result hNodup) ?_
  rintro reply repository' ⟨hReply, hIssued, hKept⟩
  exact .inr ⟨items, ⟨hEntries, hIssued, hKept⟩, hReply⟩

namespace ClaimsAll

variable {repository' : MemoryRepository} {items : List MemoryPreparedClaim}

section

variable (h : ClaimsAll sha256Hex request env repository repository' items)

include h

theorem ids : items.map (·.id) = (selected env repository request).map Prod.fst := by
  rw [← h.entries, map_map]
  rfl

theorem nodup : (items.map (·.id)).Nodup := by
  rw [h.ids]
  exact candidates_nodup env repository _ _ _

theorem present {item : MemoryPreparedClaim} (hItem : item ∈ items) : repository.record? item.id = some item.record ∧
      revocationClaimable (env.clock 0) item.record := by
  have hEntry : (item.id, item.record) ∈ selected env repository request := by
    rw [← h.entries]
    exact mem_map_of_mem hItem
  exact candidates_present hEntry

end

end ClaimsAll

end Claiming

section Moves

variable {sha256Hex : GoString → GoString} {env : Environment} {call : Call} {id : GoString}
  {record record' : MemoryRevocationRecord}

def RevocationStatus.withdrawn : RevocationStatus → Bool
  | .revocationPending | .revoking | .revoked | .manualRequired => true
  | _ => false

def MemoryRevocationRecord.cycleAttempts (record : MemoryRevocationRecord) : Int :=
  record.revocation.attempt - record.retryCycleAttemptBase

def Call.claimFence? : Call → Option ClaimFence
  | .heartbeat request => some request.fence
  | .completeRevocation fence => some fence
  | .retryRevocation request => some request.fence
  | .requireManual request => some request.fence
  | _ => none

section

variable (h : Move sha256Hex env call id record record')

include h

/-- The counters of a record move only by a claim, which starts with attempts left in the cycle; a new cycle counts
from the attempts so far. -/
theorem Move.counters :
    (record'.revocation.claimEpoch = record.revocation.claimEpoch ∧
      record'.revocation.attempt = record.revocation.attempt ∧
      (record'.retryCycleAttemptBase = record.retryCycleAttemptBase ∨
        record'.retryCycleAttemptBase = record.revocation.attempt)) ∨
    (∃ request, call = .claimRevocations request) ∧ revocationClaimable (env.clock 0) record ∧
      record'.revocation.attempt = record.revocation.attempt + 1 ∧
      record'.retryCycleAttemptBase = record.retryCycleAttemptBase := by
  cases h with
  | claim hClaimable => exact .inr ⟨⟨_, rfl⟩, hClaimable, rfl, rfl⟩
  | request | requeue => exact .inl ⟨rfl, rfl, .inr rfl⟩
  | retry =>
    rcases retrying_cases record (env.clock 0) _ with hRetry | hRetry <;> rw [hRetry]
    all_goals simp only [claimFailed, requiringManual, failing, clearActiveClaim, bump, true_or, and_self]
  | manual | exhaust | poison =>
    simp only [exhausted, poisoned, claimFailed, requiringManual, failing, clearActiveClaim, bump, true_or, and_self]
  | _ => exact .inl ⟨rfl, rfl, .inl rfl⟩

theorem Move.claimEpoch_eq (hCall : ∀ request, call ≠ .claimRevocations request) :
    record'.revocation.claimEpoch = record.revocation.claimEpoch := by
  rcases h.counters with ⟨hEpoch, _⟩ | ⟨⟨request, hClaim⟩, _⟩
  · exact hEpoch
  · exact absurd hClaim (hCall request)

theorem Move.call_of_revoking (hStatus : record'.revocation.status = .revoking) :
    (∃ request, call = .claimRevocations request) ∨ ∃ request, call = .heartbeat request := by
  cases h with
  | claim | poison => exact .inl ⟨_, rfl⟩
  | heartbeat => exact .inr ⟨_, rfl⟩
  | authorize _ _ _ _ _ _ hBefore | confirm hBefore =>
    rw [show record.revocation.status = .revoking from hStatus] at hBefore
    cases hBefore
  | retry =>
    rcases retrying_cases record (env.clock 0) _ with hRetry | hRetry <;> rw [hRetry] at hStatus
    all_goals cases hStatus
  | _ => cases hStatus

theorem Move.withdrawn (hStatus : record.revocation.status.withdrawn) : record'.revocation.status.withdrawn := by
  cases h with
  | authorize | confirm | heartbeat => exact hStatus
  | anchor hBefore | activate hBefore | noCredential hBefore =>
    rw [hBefore] at hStatus
    cases hStatus
  | recover hBefore =>
    simp only [preparedRecoverable, decide_eq_true_eq] at hBefore
    rw [hBefore.1] at hStatus
    cases hStatus
  | retry =>
    rcases retrying_cases record (env.clock 0) _ with hRetry | hRetry <;> rw [hRetry]
    all_goals rfl
  | _ => rfl

theorem Move.presented {fence : ClaimFence} (hFence : call.claimFence? = some fence) :
    fence.revocationID = id ∧ record.matchesMemoryClaim fence (sha256Hex fence.token) (env.clock 0) := by
  cases h with
  | heartbeat hClaim | complete hClaim | retry hClaim | manual hClaim =>
    cases hFence
    exact ⟨rfl, hClaim⟩
  | @request call _ _ _ hCall => cases call <;> simp [Call.mayRequest, Call.claimFence?] at hCall hFence
  | _ => cases hFence

end

theorem path_claimEpoch_eq (hPath : Path sha256Hex env call id record record')
    (hCall : ∀ request, call ≠ .claimRevocations request) :
    record'.revocation.claimEpoch = record.revocation.claimEpoch := by
  induction hPath with
  | refl => rfl
  | tail _ hMove ih => exact (hMove.claimEpoch_eq hCall).trans ih

theorem path_withdrawn (hPath : Path sha256Hex env call id record record')
    (hStatus : record.revocation.status.withdrawn) : record'.revocation.status.withdrawn := by
  induction hPath with
  | refl => exact hStatus
  | tail _ hMove ih => exact hMove.withdrawn ih

theorem attempts_invariant (sha256Hex : GoString → GoString) :
    RecordInvariant sha256Hex (fun _ => True) (fun _ record => record.cycleAttempts ≤ maxRevocationAttempts) where
  created := by
    intro _ _ _ _ _ _
    simp [cycleAttempts, preparing, maxRevocationAttempts]
  move := by
    intro _ _ _ record _ _ hMove hBound
    have hPositive : (0 : Int) ≤ maxRevocationAttempts := by decide
    unfold cycleAttempts at hBound ⊢
    rcases hMove.counters with ⟨_, hAttempt, hBase | hBase⟩ | ⟨_, hClaimable, hAttempt, hBase⟩
    · omega
    · omega
    · simp only [revocationClaimable, memoryRevocationExhausted, decide_eq_true_eq, not_or] at hClaimable
      omega

end Moves

section Holding

/-- The last claim of a record that was handed out, with the expiry last told to its worker. -/
structure Holding where
  fence : ClaimFence
  expiresAt : Int

def Holding.after (id : GoString) (holding : Option Holding) : Call → Reply → Option Holding
  | .claimRevocations _, .ok (.claims claims) =>
    match claims.find? (fun claim => claim.fence.revocationID == id) with
    | some claim => some { fence := claim.fence, expiresAt := claim.revocation.claimExpiresAt }
    | none => holding
  | .heartbeat request, .ok (.revocation revocation) =>
    if request.fence.revocationID = id then
      holding.map (fun held => { held with expiresAt := revocation.claimExpiresAt })
    else holding
  | _, _ => holding

variable (sha256Hex : GoString → GoString) (inputs : List (Call × Environment))

def holdingAt (id : GoString) : Nat → Option Holding
  | 0 => none
  | n + 1 =>
    match inputs[n]? with
    | none => holdingAt id n
    | some (call, env) =>
      Holding.after id (holdingAt id n) call (((machine sha256Hex).stateAt inputs n).step sha256Hex (call, env)).1

def ClaimsAt (n : Nat) (id : GoString) : Prop :=
  ∃ request env claims, inputs[n]? = some (.claimRevocations request, env) ∧
    (((machine sha256Hex).stateAt inputs n).step sha256Hex (.claimRevocations request, env)).1 = .ok (.claims claims) ∧
    id ∈ (selected env ((machine sha256Hex).stateAt inputs n) request).map Prod.fst

def Held (n : Nat) (id : GoString) (record : MemoryRevocationRecord) : Prop :=
  record.revocation.status = .revoking → ∃ holding, holdingAt sha256Hex inputs id n = some holding ∧
    FenceOf sha256Hex record holding.fence ∧ holding.expiresAt = record.revocation.claimExpiresAt

variable {sha256Hex inputs} {n : Nat} {id : GoString} {call : Call} {env : Environment}

theorem holdingAt_succ (hInput : inputs[n]? = some (call, env)) :
    holdingAt sha256Hex inputs id (n + 1) = Holding.after id (holdingAt sha256Hex inputs id n) call
      (((machine sha256Hex).stateAt inputs n).step sha256Hex (call, env)).1 := by
  rw [holdingAt, hInput]

theorem Holding.after_of_other {holding : Option Holding} {reply : Reply}
    (hClaim : ∀ request, call ≠ .claimRevocations request) (hHeartbeat : ∀ request, call ≠ .heartbeat request) :
    Holding.after id holding call reply = holding := by
  cases call with
  | claimRevocations request => exact absurd rfl (hClaim request)
  | heartbeat request => exact absurd rfl (hHeartbeat request)
  | _ => rfl

theorem heartbeat_result {repository : MemoryRepository} (request : HeartbeatRequest) :
    Ends (heartbeat sha256Hex env request) repository (fun reply repository' =>
      (∃ failure, reply = .error failure) ∧ repository' = repository ∨
      ∃ record, repository.record? request.fence.revocationID = some record ∧ record.revocation.status = .revoking ∧
        reply = .ok (record.beaten (env.clock 0) request.extension).revocation ∧
        repository' = repository.store request.fence.revocationID (record.beaten (env.clock 0) request.extension)) := by
  unfold heartbeat
  apply Ends.attempt fun _ _ => .inl ⟨⟨_, rfl⟩, rfl⟩
  intro _ _
  apply Ends.ensure (.inl ⟨⟨_, rfl⟩, rfl⟩)
  intro _
  apply Ends.claimRecord fun _ => .inl ⟨⟨_, rfl⟩, rfl⟩
  intro record hRecord hClaim
  apply Ends.modify
  exact .inr ⟨record, hRecord, hClaim.1, rfl, rfl⟩

theorem find?_handed {request : ClaimRevocationsRequest} {now : Int} {items : List MemoryPreparedClaim}
    (hNodup : (items.map (·.id)).Nodup) (hKeyed : ∀ item ∈ items, item.record.revocation.id = item.id)
    {item : MemoryPreparedClaim} (hItem : item ∈ items) (hUsable : item.poison = false) :
    ((items.filter (fun item => !item.poison)).map (·.handed sha256Hex request now)).find?
      (fun claim => claim.fence.revocationID == item.id) = some (item.handed sha256Hex request now) := by
  induction items with
  | nil => exact absurd hItem not_mem_nil
  | cons first _ ih =>
    obtain ⟨hFresh, hRest⟩ := nodup_cons.mp hNodup
    have hID : (first.handed sha256Hex request now).fence.revocationID = first.id := hKeyed first mem_cons_self
    rcases mem_cons.mp hItem with rfl | hLater
    · rw [filter_cons_of_pos (by simp [hUsable]), map_cons, find?_cons_of_pos]
      simp [hID]
    · have hFound := ih hRest (fun other hOther => hKeyed other (mem_cons_of_mem _ hOther)) hLater
      have hOther : first.id ≠ item.id := by
        intro hSame
        exact hFresh (mem_map.mpr ⟨item, hLater, hSame.symm⟩)
      by_cases hPoison : first.poison
      · rw [filter_cons_of_neg (by simp [hPoison]), hFound]
      · rw [filter_cons_of_pos (by simp [hPoison]), map_cons, find?_cons_of_neg, hFound]
        simp [hID, hOther]

section Steps

variable {record record' : MemoryRevocationRecord}

theorem Held.claim {request : ClaimRevocationsRequest} (hInput : inputs[n]? = some (.claimRevocations request, env))
    (hBefore : ((machine sha256Hex).stateAt inputs n).record? id = some record)
    (hAfter : (((machine sha256Hex).stateAt inputs n).step sha256Hex (.claimRevocations request, env)).2.record? id =
      some record') (h : Held sha256Hex inputs n id record) : Held sha256Hex inputs (n + 1) id record' := by
  intro hStatus
  have hAllKeyed : ∀ id record, ((machine sha256Hex).stateAt inputs n).record? id = some record →
      record.revocation.id = id := (keyed_invariant sha256Hex).stateAt (fun _ _ => trivial) n
  rw [holdingAt_succ hInput]
  obtain ⟨_, hReply, ⟨⟨_, rfl⟩, hSame⟩ | ⟨items, hAll, rfl⟩⟩ := step_ends sha256Hex
    ((machine sha256Hex).stateAt inputs n) (.claimRevocations request) env _ rfl (claimRevocations_result request)
  · rw [hSame] at hAfter
    cases hBefore.symm.trans hAfter
    rw [hReply]
    exact h hStatus
  · rw [hReply]
    have hKeyed : ∀ item ∈ items, item.record.revocation.id = item.id :=
      fun item hItem => hAllKeyed item.id item.record (hAll.present hItem).1
    by_cases hID : id ∈ items.map (·.id)
    · obtain ⟨item, hItem, rfl⟩ := mem_map.mp hID
      have hIssued := hAfter.symm.trans (hAll.stored item hItem)
      have hUsable : item.poison = false := by
        by_contra hPoison
        rw [issued, if_pos (by simpa using hPoison)] at hIssued
        cases hIssued
        cases hStatus
      rw [issued, if_neg (by simp [hUsable])] at hIssued
      cases hIssued
      refine ⟨{ fence := (item.handed sha256Hex request (env.clock 0)).fence, expiresAt := _ }, ?_, ⟨rfl, rfl⟩, rfl⟩
      simp only [Except.map, Holding.after, find?_handed hAll.nodup hKeyed hItem hUsable]
      rfl
    · cases hBefore.symm.trans ((hAll.kept id hID).symm.trans hAfter)
      have hNone : ((items.filter (fun item => !item.poison)).map (·.handed sha256Hex request (env.clock 0))).find?
          (fun claim => claim.fence.revocationID == id) = none := by
        rw [find?_eq_none]
        intro claim hClaim hSame
        obtain ⟨item, hItem, rfl⟩ := mem_map.mp hClaim
        have hMember := (mem_filter.mp hItem).1
        refine hID (mem_map.mpr ⟨item, hMember, ?_⟩)
        exact (hKeyed item hMember).symm.trans (eq_of_beq hSame)
      simp only [Except.map, Holding.after, hNone]
      exact h hStatus

theorem Held.beat {request : HeartbeatRequest} (hInput : inputs[n]? = some (.heartbeat request, env))
    (hBefore : ((machine sha256Hex).stateAt inputs n).record? id = some record)
    (hAfter : (((machine sha256Hex).stateAt inputs n).step sha256Hex (.heartbeat request, env)).2.record? id =
      some record') (h : Held sha256Hex inputs n id record) : Held sha256Hex inputs (n + 1) id record' := by
  intro hStatus
  rw [holdingAt_succ hInput]
  obtain ⟨_, hReply, ⟨⟨_, rfl⟩, hSame⟩ | ⟨_, hFound, hRevoking, rfl, hStored⟩⟩ := step_ends sha256Hex
    ((machine sha256Hex).stateAt inputs n) (.heartbeat request) env _ rfl (heartbeat_result request)
  · rw [hSame] at hAfter
    cases hBefore.symm.trans hAfter
    rw [hReply]
    exact h hStatus
  · rw [hReply]
    rw [hStored, record?_store] at hAfter
    by_cases hID : id = request.fence.revocationID
    · subst hID
      rw [if_pos rfl] at hAfter
      cases hAfter
      cases hBefore.symm.trans hFound
      obtain ⟨holding, hHolding, hFence, _⟩ := h hRevoking
      refine ⟨{ holding with expiresAt := env.clock 0 + request.extension }, ?_, hFence, rfl⟩
      simp only [Except.map, Holding.after, if_true, hHolding, Option.map_some]
      rfl
    · rw [if_neg hID] at hAfter
      cases hBefore.symm.trans hAfter
      simp only [Except.map, Holding.after, if_neg (Ne.symm hID)]
      exact h hStatus

theorem stateAt_held (n : Nat) (id : GoString) (record : MemoryRevocationRecord)
    (hRecord : ((machine sha256Hex).stateAt inputs n).record? id = some record) :
    Held sha256Hex inputs n id record := by
  induction n generalizing record with
  | zero => cases hRecord
  | succ n ih =>
    cases hInput : inputs[n]? with
    | none =>
      rw [Machine.stateAt_succ_of_none _ hInput] at hRecord
      rw [Held, holdingAt, hInput]
      exact ih record hRecord
    | some input =>
      obtain ⟨call, _⟩ := input
      rw [Machine.stateAt_succ _ hInput] at hRecord
      rcases step_origin hRecord with ⟨before, hBefore, hPath⟩ | ⟨_, _, _, _, _, _, _, rfl⟩
      · by_cases hClaim : ∃ request, call = .claimRevocations request
        · obtain ⟨request, rfl⟩ := hClaim
          exact (ih before hBefore).claim hInput hBefore hRecord
        by_cases hBeat : ∃ request, call = .heartbeat request
        · obtain ⟨request, rfl⟩ := hBeat
          exact (ih before hBefore).beat hInput hBefore hRecord
        -- No other call ends a path at a record being revoked, so the record has not moved.
        intro hStatus
        rw [holdingAt_succ hInput, Holding.after_of_other (not_exists.mp hClaim) (not_exists.mp hBeat)]
        rcases Relation.ReflTransGen.cases_tail hPath with rfl | ⟨_, _, hMove⟩
        · exact ih record hBefore hStatus
        · rcases hMove.call_of_revoking hStatus with hCall | hCall
          · exact absurd hCall hClaim
          · exact absurd hCall hBeat
      · intro hStatus
        cases hStatus

/-- The claim check of the repository, which sees the token only through its digest. -/
structure PresentsClaim (sha256Hex : GoString → GoString) (issued fence : ClaimFence) : Prop where
  revocationID : issued.revocationID = fence.revocationID
  workerID : issued.workerID = fence.workerID
  epoch : issued.epoch = fence.epoch
  digest : sha256Hex issued.token = sha256Hex fence.token

theorem PresentsClaim.eq {issued fence : ClaimFence} (h : PresentsClaim sha256Hex issued fence)
    (hSha : Function.Injective sha256Hex) : issued = fence :=
  ClaimFence.ext h.revocationID h.workerID (hSha h.digest) h.epoch

/-- What a claim, an acknowledgement and a change of status mean for a record across the step at this position. -/
structure StepFenced (sha256Hex : GoString → GoString) (inputs : List (Call × Environment)) (n : Nat) (call : Call)
    (env : Environment) (id : GoString) (record record' : MemoryRevocationRecord) : Prop where
  claimed : ClaimsAt sha256Hex inputs n id →
    record'.revocation.claimEpoch = record.revocation.claimEpoch + 1 ∧
      ¬ (record.revocation.status = .revoking ∧ env.clock 0 < record.revocation.claimExpiresAt)
  unclaimed : ¬ ClaimsAt sha256Hex inputs n id → record'.revocation.claimEpoch = record.revocation.claimEpoch
  acknowledged : ∀ fence, call.claimFence? = some fence → record' ≠ record → fence.revocationID = id ∧
    ∃ holding, holdingAt sha256Hex inputs id n = some holding ∧ PresentsClaim sha256Hex holding.fence fence ∧
      (Function.Injective sha256Hex → holding.fence = fence) ∧
      holding.fence.epoch = record.revocation.claimEpoch ∧ env.clock 0 < holding.expiresAt
  status : record.revocation.status = .revocationPending ∨ record.revocation.status = .revoking →
    record'.revocation.status = .revocationPending ∨ record'.revocation.status = .revoking ∨
      record'.revocation.status = .revoked ∨ record'.revocation.status = .manualRequired

theorem claimed_epoch {request : ClaimRevocationsRequest} (hInput : inputs[n]? = some (.claimRevocations request, env))
    (hBefore : ((machine sha256Hex).stateAt inputs n).record? id = some record)
    (hAfter : ((machine sha256Hex).stateAt inputs (n + 1)).record? id = some record') :
    (ClaimsAt sha256Hex inputs n id ∧ record'.revocation.claimEpoch = record.revocation.claimEpoch + 1 ∧
      revocationClaimable (env.clock 0) record) ∨
    ¬ ClaimsAt sha256Hex inputs n id ∧ record' = record := by
  rw [Machine.stateAt_succ _ hInput] at hAfter
  obtain ⟨_, hReply, ⟨⟨_, rfl⟩, hSame⟩ | ⟨items, hAll, rfl⟩⟩ := step_ends sha256Hex
    ((machine sha256Hex).stateAt inputs n) (.claimRevocations request) env _ rfl (claimRevocations_result request)
  · right
    rw [show ((machine sha256Hex).step _ (.claimRevocations request, env)).2 = _ from hSame] at hAfter
    refine ⟨?_, Option.some.inj (hAfter.symm.trans hBefore)⟩
    rintro ⟨request', env', claims, hInput', hClaims, _⟩
    cases hInput.symm.trans hInput'
    cases hReply.symm.trans hClaims
  · by_cases hID : id ∈ items.map (·.id)
    · left
      obtain ⟨item, hItem, rfl⟩ := mem_map.mp hID
      obtain ⟨hFound, hClaimable⟩ := hAll.present hItem
      cases hBefore.symm.trans hFound
      cases hAfter.symm.trans (hAll.stored item hItem)
      refine ⟨⟨request, env, _, hInput, hReply, by rwa [← hAll.ids]⟩, ?_, hClaimable⟩
      unfold issued
      split
      · simp only [poisoned, requiringManual, failing, clearActiveClaim, bump, claimed]
      · rfl
    · right
      refine ⟨?_, Option.some.inj (hAfter.symm.trans ((hAll.kept id hID).trans hBefore))⟩
      rintro ⟨request', env', claims, hInput', _, hSelected⟩
      cases hInput.symm.trans hInput'
      rw [← hAll.ids] at hSelected
      exact hID hSelected

theorem not_claimsAt_of_other (hInput : inputs[n]? = some (call, env))
    (hCall : ∀ request, call ≠ .claimRevocations request) : ¬ ClaimsAt sha256Hex inputs n id := by
  rintro ⟨request, _, _, hInput', _⟩
  cases hInput.symm.trans hInput'
  exact hCall request rfl

theorem stepFenced (hInput : inputs[n]? = some (call, env))
    (hBefore : ((machine sha256Hex).stateAt inputs n).record? id = some record)
    (hAfter : ((machine sha256Hex).stateAt inputs (n + 1)).record? id = some record') :
    StepFenced sha256Hex inputs n call env id record record' := by
  have hPath : Path sha256Hex env call id record record' := by
    rw [Machine.stateAt_succ _ hInput] at hAfter
    exact step_path hBefore hAfter
  have hEpoch : (ClaimsAt sha256Hex inputs n id ∧ record'.revocation.claimEpoch = record.revocation.claimEpoch + 1 ∧
      revocationClaimable (env.clock 0) record) ∨
      ¬ ClaimsAt sha256Hex inputs n id ∧ record'.revocation.claimEpoch = record.revocation.claimEpoch := by
    by_cases hCall : ∃ request, call = .claimRevocations request
    · obtain ⟨request, rfl⟩ := hCall
      rcases claimed_epoch hInput hBefore hAfter with hClaimed | ⟨hNot, rfl⟩
      · exact .inl hClaimed
      · exact .inr ⟨hNot, rfl⟩
    · have hOther := not_exists.mp hCall
      exact .inr ⟨not_claimsAt_of_other hInput hOther, path_claimEpoch_eq hPath hOther⟩
  refine ⟨?_, ?_, ?_, ?_⟩
  · intro hClaims
    rcases hEpoch with ⟨_, hNext, hClaimable⟩ | ⟨hNot, _⟩
    · refine ⟨hNext, ?_⟩
      rintro ⟨hStatus, hLive⟩
      simp only [revocationClaimable, hStatus, decide_eq_true_eq] at hClaimable
      simp only [reduceCtorEq, false_and, false_or, true_and] at hClaimable
      omega
    · exact absurd hClaims hNot
  · intro hNot
    rcases hEpoch with ⟨hClaims, _⟩ | ⟨_, hSame⟩
    · exact absurd hClaims hNot
    · exact hSame
  · intro fence hFence hChanged
    rcases Relation.ReflTransGen.cases_head hPath with rfl | ⟨_, hMove, _⟩
    · exact absurd rfl hChanged
    · obtain ⟨hID, hStatus, hWorker, hEpoch, hToken, hLive⟩ := hMove.presented hFence
      obtain ⟨holding, hHolding, ⟨hHeldID, hHeldClaim⟩, hExpiry⟩ := stateAt_held n id record hBefore hStatus
      have hKeyed : record.revocation.id = id :=
        (keyed_invariant sha256Hex).stateAt (fun _ _ => trivial) n id record hBefore
      obtain ⟨hClaimWorker, hClaimEpoch, hClaimToken⟩ : record.revocation.claimedBy = holding.fence.workerID ∧
          record.revocation.claimEpoch = holding.fence.epoch ∧
          record.claimTokenSHA256 = sha256Hex holding.fence.token := by
        simpa only [claimOf, Prod.mk.injEq] using hHeldClaim
      have hPresents : PresentsClaim sha256Hex holding.fence fence :=
        ⟨(hHeldID.trans hKeyed).trans hID.symm, hClaimWorker.symm.trans hWorker, hClaimEpoch.symm.trans hEpoch,
          hClaimToken.symm.trans hToken⟩
      refine ⟨hID, holding, hHolding, hPresents, hPresents.eq, hClaimEpoch.symm, ?_⟩
      rw [hExpiry]
      exact hLive
  · intro hStatus
    have hWithdrawn := path_withdrawn hPath (by rcases hStatus with hStatus | hStatus <;> rw [hStatus] <;> rfl)
    generalize record'.revocation.status = status at hWithdrawn
    cases status <;> simp [RevocationStatus.withdrawn] at hWithdrawn ⊢

end Steps

end Holding

/-- A selected record after its claim: one more epoch and attempt, and either the claim is handed out or, its accessor
being unusable, the record is in manual handling. -/
def ClaimedInto (sha256Hex : GoString → GoString) (claims : List ClaimedRevocation)
    (record record' : MemoryRevocationRecord) : Prop :=
  record'.revocation.claimEpoch = record.revocation.claimEpoch + 1 ∧
    record'.revocation.attempt = record.revocation.attempt + 1 ∧
    (record'.revocation.status = .revoking ∧ (∃ claim ∈ claims, FenceOf sha256Hex record' claim.fence) ∨
      record'.revocation.status = .manualRequired)

theorem MemoryPreparedClaim.issued_claimedInto {sha256Hex : GoString → GoString} {request : ClaimRevocationsRequest}
    {now : Int} {items : List MemoryPreparedClaim} {item : MemoryPreparedClaim} (hItem : item ∈ items) :
    ClaimedInto sha256Hex ((items.filter (fun item => !item.poison)).map (·.handed sha256Hex request now)) item.record
      (item.issued sha256Hex request now) := by
  unfold issued
  split
  · simp only [ClaimedInto, poisoned, requiringManual, failing, clearActiveClaim, bump, claimed, or_true, and_self]
  · rename_i hUsable
    refine ⟨rfl, rfl, .inl ⟨rfl, item.handed sha256Hex request now, ?_, rfl, rfl⟩⟩
    exact mem_map_of_mem (mem_filter.mpr ⟨hItem, by simpa using hUsable⟩)

theorem revocation_claims_are_fenced (sha256Hex : GoString → GoString) (inputs : List (Call × Environment)) (n : Nat) :
    (∀ id record, ((machine sha256Hex).stateAt inputs n).record? id = some record →
      record.revocation.attempt - record.retryCycleAttemptBase ≤ maxRevocationAttempts) ∧
    (∀ call env id record record', inputs[n]? = some (call, env) →
      ((machine sha256Hex).stateAt inputs n).record? id = some record →
      ((machine sha256Hex).stateAt inputs (n + 1)).record? id = some record' →
      StepFenced sha256Hex inputs n call env id record record') ∧
    (∀ request env, inputs[n]? = some (.claimRevocations request, env) →
      (∃ failure, (((machine sha256Hex).stateAt inputs n).step sha256Hex (.claimRevocations request, env)).1 =
          .error failure) ∧
        (machine sha256Hex).stateAt inputs (n + 1) = (machine sha256Hex).stateAt inputs n ∨
      ∃ claims, (((machine sha256Hex).stateAt inputs n).step sha256Hex (.claimRevocations request, env)).1 =
          .ok (.claims claims) ∧
        ∀ entry ∈ selected env ((machine sha256Hex).stateAt inputs n) request,
          ∃ record', ((machine sha256Hex).stateAt inputs (n + 1)).record? entry.1 = some record' ∧
            ClaimedInto sha256Hex claims entry.2 record') := by
  refine ⟨?_, ?_, ?_⟩
  · exact (attempts_invariant sha256Hex).stateAt (fun _ _ => trivial) n
  · intro call env id record record' hInput hBefore hAfter
    exact stepFenced hInput hBefore hAfter
  · intro request env hInput
    rw [Machine.stateAt_succ _ hInput]
    obtain ⟨_, hReply, ⟨⟨failure, rfl⟩, hSame⟩ | ⟨_, hAll, rfl⟩⟩ := step_ends sha256Hex
      ((machine sha256Hex).stateAt inputs n) (.claimRevocations request) env _ rfl (claimRevocations_result request)
    · exact .inl ⟨⟨failure, hReply⟩, hSame⟩
    · refine .inr ⟨_, hReply, ?_⟩
      intro entry hEntry
      rw [← hAll.entries] at hEntry
      obtain ⟨item, hItem, rfl⟩ := List.mem_map.mp hEntry
      exact ⟨_, hAll.stored item hItem, MemoryPreparedClaim.issued_claimedInto hItem⟩

/-- The completion of the sample run presents the claim handed out one step before. -/
theorem revocation_claims_are_fenced_completed :
    Function.Injective sampleDigest ∧
      ∃ holding, holdingAt sampleDigest sampleRun sampleID 5 = some holding ∧ holding.fence = sampleClaimFence ∧
        sampleClock < holding.expiresAt := by
  have hSha : Function.Injective sampleDigest := digestTable_injective (by decide) (by decide)
  have hBefore : sampleStatusAt 5 = some .revoking := by decide +kernel
  have hAfter : sampleStatusAt 6 = some .revoked := by decide +kernel
  obtain ⟨record, hRecord, hRevoking⟩ := Option.map_eq_some_iff.mp hBefore
  obtain ⟨record', hRecord', hRevoked⟩ := Option.map_eq_some_iff.mp hAfter
  obtain ⟨_, hStep, _⟩ := revocation_claims_are_fenced sampleDigest sampleRun 5
  have hChanged : record' ≠ record := by
    rintro rfl
    rw [hRevoked] at hRevoking
    cases hRevoking
  obtain ⟨_, holding, hHolding, _, hFence, _, hLive⟩ :=
    (hStep _ _ sampleID record record' rfl hRecord hRecord').acknowledged sampleClaimFence rfl hChanged
  exact ⟨hSha, holding, hHolding, hFence hSha, hLive⟩

end AiopsSystem.Credential
