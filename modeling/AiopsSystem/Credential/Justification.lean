import AiopsSystem.Credential.Lifecycle

/-! # Why a record is revoked

A record ends revoked for one of two reasons: the holder of its latest claim
completed it before the claim expired, or two people confirmed the revocation
with the same evidence, one of them a platform administrator. The history of a
run is read through three events: a claim issued, a claim completed and a
confirmation accepted.
-/

namespace AiopsSystem.Credential

open Go Go.Section MemoryRepository MemoryRevocationRecord

section Moves

variable {sha256Hex : GoString → GoString} {env : Environment} {call : Call} {id : GoString}
  {record record' : MemoryRevocationRecord}

def Confirms (call : Call) (id : GoString) : Prop :=
  ∃ request, call = .submitExternalConfirmation request ∧ request.revocationID = id

theorem path_eq_of_stuck (hStuck : ∀ later, ¬ Move sha256Hex env call id record later)
    (hPath : Path sha256Hex env call id record record') : record' = record := by
  rcases Relation.ReflTransGen.cases_head hPath with rfl | ⟨later, hMove, _⟩
  · rfl
  · exact absurd hMove (hStuck later)

def claimOf (record : MemoryRevocationRecord) : GoString × Int × GoString :=
  (record.revocation.claimedBy, record.revocation.claimEpoch, record.claimTokenSHA256)

section

variable (h : Move sha256Hex env call id record record')

include h

theorem Move.not_revoked : record.revocation.status ≠ .revoked := by
  intro hStatus
  rcases h.open with hPrepared | hManaged
  · rw [hStatus] at hPrepared
    cases hPrepared
  · rw [hStatus] at hManaged
    cases hManaged

theorem Move.of_manual (hStatus : record.revocation.status = .manualRequired) :
    record.revocation.evidenceHash = [] ∨ Confirms call id := by
  cases h with
  | requeue _ hEvidence => exact .inl hEvidence
  | confirm | confirmLast => exact .inr ⟨_, rfl, rfl⟩
  | authorize _ _ _ _ _ _ hOther | anchor hOther | noCredential hOther | activate hOther | poison hOther =>
    rw [hStatus] at hOther
    cases hOther
  | request _ _ hOther =>
    rw [hStatus] at hOther
    rcases hOther with hOther | hOther <;> cases hOther
  | recover hOther =>
    simp [preparedRecoverable, hStatus] at hOther
  | exhaust hOther =>
    simp [revocationExhaustible, hStatus] at hOther
  | claim hOther =>
    simp [revocationClaimable, hStatus] at hOther
  | heartbeat hOther | complete hOther | retry hOther | manual hOther =>
    have hRevoking := hOther.1
    rw [hStatus] at hRevoking
    cases hRevoking

theorem Move.confirmations_eq (hOther : ¬ Confirms call id) :
    record'.confirmations = record.confirmations ∧
      record'.revocation.evidenceHash = record.revocation.evidenceHash := by
  cases h with
  | confirm | confirmLast => exact absurd ⟨_, rfl, rfl⟩ hOther
  | retry =>
    rcases retrying_cases record (env.clock 0) _ with hRetry | hRetry <;> rw [hRetry]
    all_goals simp only [claimFailed, requiringManual, failing, clearActiveClaim, bump, and_self]
  | manual | exhaust | poison =>
    simp only [exhausted, poisoned, claimFailed, requiringManual, failing, clearActiveClaim, bump, and_self]
  | _ => exact ⟨rfl, rfl⟩

/-- Outside `ClaimRevocations` a record that is being revoked was so before, under the same claim. -/
theorem Move.revoking (hCall : ∀ request, call ≠ .claimRevocations request)
    (hStatus : record'.revocation.status = .revoking) :
    record.revocation.status = .revoking ∧ claimOf record' = claimOf record := by
  cases h with
  | authorize | confirm | heartbeat => exact ⟨hStatus, rfl⟩
  | claim | poison => exact absurd rfl (hCall _)
  | retry =>
    rcases retrying_cases record (env.clock 0) _ with hRetry | hRetry <;> rw [hRetry] at hStatus
    all_goals cases hStatus
  | _ => cases hStatus

theorem Move.revoked (hOther : ¬ Confirms call id) (hStatus : record'.revocation.status = .revoked) :
    ∃ fence, call = .completeRevocation fence ∧ fence.revocationID = id ∧
      record.matchesMemoryClaim fence (sha256Hex fence.token) (env.clock 0) := by
  have hOpen := h.not_revoked
  cases h with
  | complete hClaim => exact ⟨_, rfl, rfl, hClaim⟩
  | confirm | confirmLast => exact absurd ⟨_, rfl, rfl⟩ hOther
  | authorize | heartbeat => exact absurd hStatus hOpen
  | retry =>
    rcases retrying_cases record (env.clock 0) _ with hRetry | hRetry <;> rw [hRetry] at hStatus
    all_goals cases hStatus
  | _ => cases hStatus

end

theorem path_confirmations_eq (hPath : Path sha256Hex env call id record record') (hOther : ¬ Confirms call id) :
    record'.confirmations = record.confirmations ∧
      record'.revocation.evidenceHash = record.revocation.evidenceHash := by
  induction hPath with
  | refl => exact ⟨rfl, rfl⟩
  | tail _ hMove ih =>
    obtain ⟨hMap, hHash⟩ := hMove.confirmations_eq hOther
    exact ⟨hMap.trans ih.1, hHash.trans ih.2⟩

theorem path_revoking (hPath : Path sha256Hex env call id record record')
    (hCall : ∀ request, call ≠ .claimRevocations request) (hStatus : record'.revocation.status = .revoking) :
    record.revocation.status = .revoking ∧ claimOf record' = claimOf record := by
  induction hPath with
  | refl => exact ⟨hStatus, rfl⟩
  | tail _ hMove ih =>
    obtain ⟨hBefore, hClaim⟩ := hMove.revoking hCall hStatus
    obtain ⟨hFirst, hSame⟩ := ih hBefore
    exact ⟨hFirst, hClaim.trans hSame⟩

theorem path_revoked (hPath : Path sha256Hex env call id record record') (hOther : ¬ Confirms call id)
    (hOpen : record.revocation.status ≠ .revoked) (hStatus : record'.revocation.status = .revoked) :
    ∃ fence, call = .completeRevocation fence ∧ fence.revocationID = id ∧
      record.matchesMemoryClaim fence (sha256Hex fence.token) (env.clock 0) := by
  induction hPath with
  | refl => exact absurd hStatus hOpen
  | @tail middle last hPath hMove ih =>
    obtain ⟨fence, rfl, hID, hClaim⟩ := hMove.revoked hOther hStatus
    -- A completion is the only move of its call, so the path before it is empty.
    rcases Relation.ReflTransGen.cases_head hPath with rfl | ⟨later, hFirst, hRest⟩
    · exact ⟨fence, rfl, hID, hClaim⟩
    · cases hFirst with
      | request _ hCall => cases hCall
      | complete hEarlier => exact ⟨fence, rfl, hID, hEarlier⟩

end Moves

section Sections

variable {sha256Hex : GoString → GoString} {env : Environment} {repository : MemoryRepository}

def FenceOf (sha256Hex : GoString → GoString) (record : MemoryRevocationRecord) (fence : ClaimFence) : Prop :=
  fence.revocationID = record.revocation.id ∧
    claimOf record = (fence.workerID, fence.epoch, sha256Hex fence.token)

theorem issueClaims_issued (request : ClaimRevocationsRequest) (now : Int) (items : List MemoryPreparedClaim)
    (repository : MemoryRepository) :
    Ends (issueClaims sha256Hex request now items) repository (fun reply repository' =>
      ∃ claims, reply = .ok claims ∧ ∀ id record', repository'.record? id = some record' →
        record'.revocation.status = .revoking →
        repository.record? id = some record' ∨ ∃ claim ∈ claims, FenceOf sha256Hex record' claim.fence) := by
  induction items generalizing repository with
  | nil => exact ⟨[], rfl, fun _ _ hRecord' _ => .inl hRecord'⟩
  | cons item _ ih =>
    rw [issueClaims]
    split
    · apply Ends.modify
      refine .mono (ih _) ?_
      rintro reply repository' ⟨claims, rfl, hIssued⟩
      refine ⟨claims, rfl, ?_⟩
      intro id record' hRecord' hStatus
      rcases hIssued id record' hRecord' hStatus with hBefore | hClaim
      · rcases GoMap.get?_insert_cases hBefore with ⟨_, rfl⟩ | ⟨_, hBefore⟩
        · cases hStatus
        · exact .inl hBefore
      · exact .inr hClaim
    · apply Ends.modify
      apply Ends.bind
      refine .mono (ih _) ?_
      rintro reply repository' ⟨claims, rfl, hIssued⟩
      refine ⟨_, rfl, ?_⟩
      intro id record' hRecord' hStatus
      rcases hIssued id record' hRecord' hStatus with hBefore | ⟨claim, hMember, hFence⟩
      · rcases GoMap.get?_insert_cases hBefore with ⟨_, rfl⟩ | ⟨_, hBefore⟩
        · exact .inr ⟨_, List.mem_cons_self, rfl, rfl⟩
        · exact .inl hBefore
      · exact .inr ⟨claim, List.mem_cons_of_mem _ hMember, hFence⟩

theorem claimRevocations_issued (request : ClaimRevocationsRequest) :
    Ends (claimRevocations sha256Hex env request) repository (fun reply repository' =>
      ∀ id record', repository'.record? id = some record' → record'.revocation.status = .revoking →
        repository.record? id = some record' ∨
          ∃ claims, reply = .ok claims ∧ ∃ claim ∈ claims, FenceOf sha256Hex record' claim.fence) := by
  unfold claimRevocations
  apply Ends.attempt fun _ _ _ _ hRecord' _ => .inl hRecord'
  intro _ _
  apply Ends.ensure fun _ _ hRecord' _ => .inl hRecord'
  intro _
  apply Ends.get
  apply Ends.attempt fun _ _ _ _ hRecord' _ => .inl hRecord'
  intro items _
  refine .mono (issueClaims_issued request _ items repository) ?_
  rintro reply repository' ⟨claims, rfl, hIssued⟩ id record' hRecord' hStatus
  rcases hIssued id record' hRecord' hStatus with hBefore | hClaim
  · exact .inl hBefore
  · exact .inr ⟨claims, rfl, hClaim⟩

theorem completeRevocation_reply (fence : ClaimFence) :
    Ends (completeRevocation sha256Hex env fence) repository (fun reply repository' =>
      repository' = repository ∨ ∃ revocation, reply = .ok revocation) := by
  unfold completeRevocation
  apply Ends.attempt fun _ _ => .inl rfl
  intro _ _
  apply Ends.ensure (.inl rfl)
  intro _
  apply Ends.get
  apply Ends.found (.inl rfl)
  intro _ _
  split
  · apply Ends.ensure (.inl rfl)
    intro _
    exact .inl rfl
  · apply Ends.ensure (.inl rfl)
    intro _
    apply Ends.modify
    exact .inr ⟨_, rfl⟩

end Sections

section History

variable (sha256Hex : GoString → GoString) (inputs : List (Call × Environment))

def IssuedAt (n : Nat) (fence : ClaimFence) : Prop :=
  ∃ request env claims claim, inputs[n]? = some (.claimRevocations request, env) ∧
    (((machine sha256Hex).stateAt inputs n).step sha256Hex (.claimRevocations request, env)).1 = .ok (.claims claims) ∧
    claim ∈ claims ∧ claim.fence = fence

def CompletedAt (n : Nat) (id : GoString) (fence : ClaimFence) : Prop :=
  ∃ env revocation record, inputs[n]? = some (.completeRevocation fence, env) ∧ fence.revocationID = id ∧
    (((machine sha256Hex).stateAt inputs n).step sha256Hex (.completeRevocation fence, env)).1 =
      .ok (.revocation revocation) ∧
    ((machine sha256Hex).stateAt inputs n).record? id = some record ∧ record.revocation.status = .revoking ∧
    fence.epoch = record.revocation.claimEpoch ∧ env.clock 0 < record.revocation.claimExpiresAt

def AcceptedAt (n : Nat) (id : GoString) (request : ExternalConfirmationRequest) : Prop :=
  ∃ env result record, inputs[n]? = some (.submitExternalConfirmation request, env) ∧ request.revocationID = id ∧
    (((machine sha256Hex).stateAt inputs n).step sha256Hex (.submitExternalConfirmation request, env)).1 =
      .ok (.confirmation result) ∧
    ((machine sha256Hex).stateAt inputs n).record? id = some record ∧
    record.revocation.status = .manualRequired ∧ record.confirmations.get? request.subject = none

/-- The confirmations of a record and the steps that accepted them: none, one that keeps the record in manual
handling, or two by different people that revoked it. -/
inductive Confirmed (n : Nat) (id : GoString) (record : MemoryRevocationRecord) : Prop
  | none (hEmpty : ∀ subject, record.confirmations.get? subject = none)
      (hEvidence : record.revocation.evidenceHash = [])
      (hNever : ∀ k request, k < n → ¬ AcceptedAt sha256Hex inputs k id request)
  | one {i : Nat} {request : ExternalConfirmationRequest} {confirmation : ExternalConfirmation} (hi : i < n)
      (hAccepted : AcceptedAt sha256Hex inputs i id request)
      (hOnly : ∀ k other, k < n → AcceptedAt sha256Hex inputs k id other → k = i)
      (hStatus : record.revocation.status = .manualRequired)
      (hEvidence : record.revocation.evidenceHash = request.evidenceHash) (hHash : request.evidenceHash ≠ [])
      (hSubject : ∀ subject, record.confirmations.get? subject =
        if subject = request.subject then some confirmation else Option.none)
      (hAdmin : confirmation.platformAdmin = request.platformAdmin) (hSize : record.confirmations.size = 1)
  | two {i j : Nat} {first second : ExternalConfirmationRequest} (hi : i < j) (hj : j < n)
      (hFirst : AcceptedAt sha256Hex inputs i id first) (hSecond : AcceptedAt sha256Hex inputs j id second)
      (hOnly : ∀ k other, k < n → AcceptedAt sha256Hex inputs k id other → k = i ∨ k = j)
      (hStatus : record.revocation.status = .revoked)
      (hSubjects : first.subject ≠ second.subject) (hEvidence : first.evidenceHash = second.evidenceHash)
      (hHash : record.revocation.evidenceHash ≠ [])
      (hAdmin : first.platformAdmin = true ∨ second.platformAdmin = true)

structure Justified (n : Nat) (id : GoString) (record : MemoryRevocationRecord) : Prop where
  claim : record.revocation.status = .revoking →
    ∃ k fence, k < n ∧ IssuedAt sha256Hex inputs k fence ∧ FenceOf sha256Hex record fence
  confirmed : Confirmed sha256Hex inputs n id record
  revoked : record.revocation.status = .revoked →
    (∃ k fence, k < n ∧ CompletedAt sha256Hex inputs k id fence ∧
      ∃ j issued, j < k ∧ IssuedAt sha256Hex inputs j issued ∧ issued.revocationID = id ∧
        issued.workerID = fence.workerID ∧ issued.epoch = fence.epoch ∧
        sha256Hex issued.token = sha256Hex fence.token) ∨
    ∃ i j first second, i < j ∧ j < n ∧ AcceptedAt sha256Hex inputs i id first ∧
      AcceptedAt sha256Hex inputs j id second ∧ first.subject ≠ second.subject ∧
      first.evidenceHash = second.evidenceHash ∧ (first.platformAdmin = true ∨ second.platformAdmin = true) ∧
      ∀ k other, k < n → AcceptedAt sha256Hex inputs k id other → k = i ∨ k = j

end History

section Steps

variable {sha256Hex : GoString → GoString} {inputs : List (Call × Environment)} {n : Nat} {id : GoString}
  {record record' : MemoryRevocationRecord}

theorem Confirmed.later (h : Confirmed sha256Hex inputs n id record)
    (hNone : ∀ request, ¬ AcceptedAt sha256Hex inputs n id request) : Confirmed sha256Hex inputs (n + 1) id record := by
  have hEarlier : ∀ k request, k < n + 1 → AcceptedAt sha256Hex inputs k id request → k < n := by
    intro k request hk hAccepted
    rcases Nat.lt_succ_iff_lt_or_eq.mp hk with hlt | rfl
    · exact hlt
    · exact absurd hAccepted (hNone request)
  cases h with
  | none hEmpty hEvidence hNever =>
    exact .none hEmpty hEvidence (fun k request hk hAccepted =>
      hNever k request (hEarlier k request hk hAccepted) hAccepted)
  | one _ hAccepted hOnly hStatus hEvidence hHash hSubject hAdmin hSize =>
    exact .one (by omega) hAccepted (fun k other hk hOther => hOnly k other (hEarlier k other hk hOther) hOther)
      hStatus hEvidence hHash hSubject hAdmin hSize
  | two hi _ hFirst hSecond hOnly hStatus hSubjects hEvidence hHash hAdmin =>
    exact .two hi (by omega) hFirst hSecond
      (fun k other hk hOther => hOnly k other (hEarlier k other hk hOther) hOther)
      hStatus hSubjects hEvidence hHash hAdmin

theorem Justified.later (h : Justified sha256Hex inputs n id record)
    (hNone : ∀ request, ¬ AcceptedAt sha256Hex inputs n id request) : Justified sha256Hex inputs (n + 1) id record where
  claim := by
    intro hStatus
    obtain ⟨k, fence, hk, hIssued, hFence⟩ := h.claim hStatus
    exact ⟨k, fence, by omega, hIssued, hFence⟩
  confirmed := h.confirmed.later hNone
  revoked := by
    intro hStatus
    rcases h.revoked hStatus with ⟨k, fence, hk, hCompleted⟩ |
      ⟨i, j, first, second, hi, hj, hFirst, hSecond, hSubjects, hEvidence, hAdmin, hOnly⟩
    · exact .inl ⟨k, fence, by omega, hCompleted⟩
    · refine .inr ⟨i, j, first, second, hi, by omega, hFirst, hSecond, hSubjects, hEvidence, hAdmin, ?_⟩
      intro k other hk hAccepted
      rcases Nat.lt_succ_iff_lt_or_eq.mp hk with hlt | rfl
      · exact hOnly k other hlt hAccepted
      · exact absurd hAccepted (hNone other)

variable {env : Environment} {call : Call}

theorem not_accepted_of_other (sha256Hex : GoString → GoString) (hInput : inputs[n]? = some (call, env))
    (hOther : ¬ Confirms call id) (request : ExternalConfirmationRequest) :
    ¬ AcceptedAt sha256Hex inputs n id request := by
  rintro ⟨_, _, _, hInput', hID, _⟩
  rw [hInput] at hInput'
  cases hInput'
  exact hOther ⟨request, rfl, hID⟩

theorem Confirmed.path (h : Confirmed sha256Hex inputs n id record)
    (hInput : inputs[n]? = some (call, env)) (hOther : ¬ Confirms call id)
    (hPath : Path sha256Hex env call id record record') : Confirmed sha256Hex inputs (n + 1) id record' := by
  have hNone := not_accepted_of_other sha256Hex hInput hOther
  cases h with
  | none hEmpty hEvidence hNever =>
    obtain ⟨hMap, hHash⟩ := path_confirmations_eq hPath hOther
    refine Confirmed.later (.none ?_ (hHash.trans hEvidence) hNever) hNone
    intro subject
    rw [hMap]
    exact hEmpty subject
  | one hi hAccepted hOnly hStatus hEvidence hHash hSubject hAdmin hSize =>
    have hSame : record' = record := by
      refine path_eq_of_stuck ?_ hPath
      intro later hMove
      rcases hMove.of_manual hStatus with hEmpty | hConfirms
      · exact hHash (hEvidence.symm.trans hEmpty)
      · exact hOther hConfirms
    rw [hSame]
    exact Confirmed.later (.one hi hAccepted hOnly hStatus hEvidence hHash hSubject hAdmin hSize) hNone
  | two hi hj hFirst hSecond hOnly hStatus hSubjects hEvidence hHash hAdmin =>
    have hSame : record' = record := path_eq_of_stuck (fun later hMove => hMove.not_revoked hStatus) hPath
    rw [hSame]
    exact Confirmed.later (.two hi hj hFirst hSecond hOnly hStatus hSubjects hEvidence hHash hAdmin) hNone

theorem ne_nil_of_validSHA256 {value : GoString} (h : validSHA256 value) : value ≠ [] := by
  rintro rfl
  cases h

theorem confirmed_get? (record : MemoryRevocationRecord) (request : ExternalConfirmationRequest) (now : Int)
    (subject : GoString) :
    (record.confirmed request now).confirmations.get? subject =
      if subject = request.subject then some {
        subject := request.subject
        evidenceHash := request.evidenceHash
        platformAdmin := request.platformAdmin
        createdAt := now }
      else record.confirmations.get? subject :=
  GoMap.get?_insert _ _ _ _

theorem Confirmed.accept {request : ExternalConfirmationRequest}
    (h : Confirmed sha256Hex inputs n request.revocationID record)
    (hAccepted : AcceptedAt sha256Hex inputs n request.revocationID request)
    (hMove : Move sha256Hex env (.submitExternalConfirmation request) request.revocationID record record') :
    Confirmed sha256Hex inputs (n + 1) request.revocationID record' := by
  have hUnique : ∀ k other, k < n + 1 → AcceptedAt sha256Hex inputs k request.revocationID other → k = n ∨ k < n := by
    intro k other hk _
    omega
  cases hMove with
  | request _ hCall => cases hCall
  | confirm hStatus hHash _ hNew =>
    have hGrown : (record.confirmed request (env.clock 0)).confirmations.size = record.confirmations.size + 1 :=
      GoMap.size_insert_of_none hNew _
    cases h with
    | none hEmpty _ hNever =>
      have hZero : record.confirmations.size = 0 := (GoMap.size_eq_zero_iff _).mpr hEmpty
      have hSubject := confirmed_get? record request (env.clock 0)
      simp only [hEmpty] at hSubject
      refine .one (Nat.lt_succ_self n) hAccepted ?_ hStatus rfl (ne_nil_of_validSHA256 hHash) hSubject rfl (by omega)
      intro k other hk hOther
      rcases hUnique k other hk hOther with rfl | hlt
      · rfl
      · exact absurd hOther (hNever k other hlt)
    | one =>
      omega
    | two _ _ _ _ _ hRevoked =>
      rw [hStatus] at hRevoked
      cases hRevoked
  | confirmLast hStatus hHash hEvidence hNew _ hAdminSome =>
    have hGrown : (record.confirmed request (env.clock 0)).confirmations.size = record.confirmations.size + 1 :=
      GoMap.size_insert_of_none hNew _
    cases h with
    | none hEmpty =>
      have hZero : record.confirmations.size = 0 := (GoMap.size_eq_zero_iff _).mpr hEmpty
      omega
    | @one i first confirmation hi hFirst hOnly _ hSame hFirstHash hSubject hAdmin hOne =>
      refine .two hi (Nat.lt_succ_self n) hFirst hAccepted ?_ rfl ?_ ?_ (ne_nil_of_validSHA256 hHash) ?_
      · intro k other hk hOther
        rcases hUnique k other hk hOther with rfl | hlt
        · exact .inr rfl
        · exact .inl (hOnly k other hlt hOther)
      · intro hSubjects
        have hStored := hSubject request.subject
        rw [if_pos hSubjects.symm, hNew] at hStored
        cases hStored
      · rcases hEvidence with hNoEvidence | hEvidence
        · exact absurd (hSame.symm.trans hNoEvidence) hFirstHash
        · exact hSame.symm.trans hEvidence
      · rw [hasPlatformAdmin, GoMap.anyEntry_iff] at hAdminSome
        obtain ⟨subject, _, hStored, hFlag⟩ := hAdminSome
        rw [confirmed_get?] at hStored
        by_cases hNewSubject : subject = request.subject
        · rw [if_pos hNewSubject] at hStored
          cases hStored
          exact .inr hFlag
        · rw [if_neg hNewSubject, hSubject subject] at hStored
          by_cases hOldSubject : subject = first.subject
          · rw [if_pos hOldSubject] at hStored
            cases hStored
            exact .inl (hAdmin.symm.trans hFlag)
          · rw [if_neg hOldSubject] at hStored
            cases hStored
    | two _ _ _ _ _ hRevoked =>
      rw [hStatus] at hRevoked
      cases hRevoked

end Steps

section Runs

variable {sha256Hex : GoString → GoString} {inputs : List (Call × Environment)} {n : Nat} {id : GoString}

theorem step_ends (sha256Hex : GoString → GoString) (repository : MemoryRepository) (call : Call) (env : Environment)
    {α : Type} {body : Locked α}
    (f : α → Answer) (hBody : perform sha256Hex call env = f <$> body)
    {Q : Except CredentialError α → MemoryRepository → Prop} (h : Ends body repository Q) :
    ∃ reply, (repository.step sha256Hex (call, env)).1 = reply.map f ∧
      Q reply (repository.step sha256Hex (call, env)).2 := by
  have hMapped : Ends (f <$> body) repository (fun answer state => ∃ reply, answer = reply.map f ∧ Q reply state) :=
    ends_map.mpr (.mono h (fun reply _ hReply => ⟨reply, rfl, hReply⟩))
  rw [← hBody] at hMapped
  exact hMapped

variable {record : MemoryRevocationRecord} {env : Environment} {request : ExternalConfirmationRequest}

theorem stateAt_present {m : Nat} (hmn : m ≤ n)
    (hRecord : ((machine sha256Hex).stateAt inputs m).record? id = some record) :
    ∃ record', ((machine sha256Hex).stateAt inputs n).record? id = some record' ∧ Advances record record' :=
  (keyed_invariant sha256Hex).related Advances.refl (fun _ _ _ => Advances.trans)
    (fun _ _ _ _ _ _ hMove _ => hMove.advances) (fun _ _ => trivial) hmn hRecord

theorem not_accepted_of_absent {k : Nat} (hk : k ≤ n) (hAbsent : ((machine sha256Hex).stateAt inputs n).record? id = none)
    (request : ExternalConfirmationRequest) : ¬ AcceptedAt sha256Hex inputs k id request := by
  rintro ⟨_, _, _, _, _, _, hRecord, _⟩
  obtain ⟨_, hRecord', _⟩ := stateAt_present hk hRecord
  rw [hAbsent] at hRecord'
  cases hRecord'

theorem Justified.path {call : Call} {record record' : MemoryRevocationRecord}
    (h : Justified sha256Hex inputs n id record) (hInput : inputs[n]? = some (call, env)) (hOther : ¬ Confirms call id)
    (hKeyed : record'.revocation.id = id) (hBefore : ((machine sha256Hex).stateAt inputs n).record? id = some record)
    (hAfter : ((machine sha256Hex).stateAt inputs (n + 1)).record? id = some record')
    (hPath : Path sha256Hex env call id record record') : Justified sha256Hex inputs (n + 1) id record' := by
  have hNone := not_accepted_of_other sha256Hex hInput hOther
  have hLater := h.later hNone
  rw [Machine.stateAt_succ _ hInput] at hAfter
  refine ⟨?_, h.confirmed.path hInput hOther hPath, ?_⟩
  · intro hStatus
    by_cases hClaims : ∃ request, call = .claimRevocations request
    · obtain ⟨request, rfl⟩ := hClaims
      obtain ⟨reply, hReply, hIssued⟩ := step_ends sha256Hex ((machine sha256Hex).stateAt inputs n)
        (.claimRevocations request) env Answer.claims rfl (claimRevocations_issued request)
      rcases hIssued id record' hAfter hStatus with hSame | ⟨claims, rfl, claim, hMember, hFence⟩
      · obtain rfl : record = record' := Option.some.inj (hBefore.symm.trans hSame)
        exact hLater.claim hStatus
      · exact ⟨n, claim.fence, Nat.lt_succ_self n, ⟨request, env, claims, claim, hInput, hReply, hMember, rfl⟩, hFence⟩
    · obtain ⟨hRevoking, hClaim⟩ := path_revoking hPath (fun request hCall => hClaims ⟨request, hCall⟩) hStatus
      obtain ⟨k, fence, hk, hIssued, hID, hFence⟩ := hLater.claim hRevoking
      have hSameID : record'.revocation.id = record.revocation.id :=
        congrArg PreparedFields.id (Path.preparedFields_eq hPath)
      exact ⟨k, fence, hk, hIssued, hID.trans hSameID.symm, hClaim.trans hFence⟩
  · intro hStatus
    by_cases hRevoked : record.revocation.status = .revoked
    · exact hLater.revoked hRevoked
    · obtain ⟨fence, rfl, hID, hClaim⟩ := path_revoked hPath hOther hRevoked hStatus
      obtain ⟨reply, hReply, hSame | ⟨revocation, rfl⟩⟩ := step_ends sha256Hex ((machine sha256Hex).stateAt inputs n)
        (.completeRevocation fence) env Answer.revocation rfl (completeRevocation_reply fence)
      · rw [show ((machine sha256Hex).step ((machine sha256Hex).stateAt inputs n) _).2 = _ from hSame, hBefore] at hAfter
        cases hAfter
        exact absurd hStatus hRevoked
      · obtain ⟨k, issued, hk, hIssued, hIssuedID, hFence⟩ := h.claim hClaim.1
        simp only [claimOf, Prod.mk.injEq] at hFence
        obtain ⟨hWorker, hEpoch, hToken⟩ := hFence
        have hRecordID : record.revocation.id = id :=
          (congrArg PreparedFields.id (Path.preparedFields_eq hPath)).symm.trans hKeyed
        exact .inl ⟨n, fence, Nat.lt_succ_self n,
          ⟨env, revocation, record, hInput, hID, hReply, hBefore, hClaim.1, hClaim.2.2.1.symm, hClaim.2.2.2.2⟩,
          k, issued, hk, hIssued, hIssuedID.trans hRecordID, hWorker.symm.trans hClaim.2.1,
          hEpoch.symm.trans hClaim.2.2.1, hToken.symm.trans hClaim.2.2.2.1⟩

theorem Justified.confirm {record record' : MemoryRevocationRecord}
    (h : Justified sha256Hex inputs n request.revocationID record)
    (hInput : inputs[n]? = some (.submitExternalConfirmation request, env))
    (hBefore : ((machine sha256Hex).stateAt inputs n).record? request.revocationID = some record)
    (hAfter : ((machine sha256Hex).stateAt inputs (n + 1)).record? request.revocationID = some record') :
    Justified sha256Hex inputs (n + 1) request.revocationID record' := by
  rw [Machine.stateAt_succ _ hInput] at hAfter
  have hOutcome := step_ends sha256Hex ((machine sha256Hex).stateAt inputs n) (.submitExternalConfirmation request) env
    Answer.confirmation rfl (submitExternalConfirmation_outcome sha256Hex request)
  rcases hOutcome with ⟨reply, hReply, ⟨hSame, hNothing⟩ | ⟨found, stored, result, hFound, rfl, hFresh, hStored, hMove⟩⟩
  · -- Nothing was accepted, so the record and its history are as before.
    rw [show ((machine sha256Hex).step ((machine sha256Hex).stateAt inputs n) _).2 = _ from hSame, hBefore] at hAfter
    cases hAfter
    refine h.later ?_
    rintro _ ⟨_, result, found, hInput', _, hOk, hFound, hFresh⟩
    rw [hInput] at hInput'
    cases hInput'
    rw [hReply] at hOk
    cases reply with
    | error => cases hOk
    | ok value => exact hNothing value rfl found hFound hFresh
  · obtain rfl : record = found := Option.some.inj (hBefore.symm.trans hFound)
    rw [show ((machine sha256Hex).step ((machine sha256Hex).stateAt inputs n) _).2 = _ from hStored, record?_store,
      if_pos rfl] at hAfter
    cases hAfter
    have hAccepted : AcceptedAt sha256Hex inputs n request.revocationID request :=
      ⟨env, result, record, hInput, rfl, hReply, hBefore, hFresh.1, hFresh.2⟩
    have hConfirmed := h.confirmed.accept hAccepted hMove
    refine ⟨?_, hConfirmed, ?_⟩
    · intro hStatus
      obtain ⟨hRevoking, _⟩ := hMove.revoking nofun hStatus
      rw [hFresh.1] at hRevoking
      cases hRevoking
    · intro hStatus
      cases hConfirmed with
      | none _ _ hNever => exact absurd hAccepted (hNever n request (Nat.lt_succ_self n))
      | one _ _ _ hManual =>
        rw [hStatus] at hManual
        cases hManual
      | two hi hj hFirst hSecond hOnly _ hSubjects hEvidence _ hAdmin =>
        exact .inr ⟨_, _, _, _, hi, hj, hFirst, hSecond, hSubjects, hEvidence, hAdmin, hOnly⟩

theorem stateAt_justified (sha256Hex : GoString → GoString) (inputs : List (Call × Environment)) (n : Nat)
    (id : GoString) (record : MemoryRevocationRecord)
    (hRecord : ((machine sha256Hex).stateAt inputs n).record? id = some record) :
    Justified sha256Hex inputs n id record := by
  induction n generalizing record with
  | zero => cases hRecord
  | succ n ih =>
    cases hInput : inputs[n]? with
    | none =>
      have hNothing : ∀ request, ¬ AcceptedAt sha256Hex inputs n id request := by
        rintro request ⟨_, _, _, hSome, _⟩
        rw [hInput] at hSome
        cases hSome
      rw [Machine.stateAt_succ_of_none _ hInput] at hRecord
      exact (ih record hRecord).later hNothing
    | some input =>
      obtain ⟨call, env⟩ := input
      have hAfter := hRecord
      rw [Machine.stateAt_succ _ hInput] at hAfter
      rcases step_origin hAfter with ⟨before, hBefore, hPath⟩ | ⟨hAbsent, _, _, _, rfl, _, _, rfl⟩
      · have hJustified := ih before hBefore
        by_cases hConfirms : Confirms call id
        · obtain ⟨request, rfl, rfl⟩ := hConfirms
          exact hJustified.confirm hInput hBefore hRecord
        · have hKeyed := (keyed_invariant sha256Hex).stateAt (fun _ _ => trivial) (n + 1) id record hRecord
          exact hJustified.path hInput hConfirms hKeyed hBefore hRecord hPath
      · -- The record is new, so its life starts here without any confirmation.
        have hNever : ∀ k request, k < n + 1 → ¬ AcceptedAt sha256Hex inputs k id request :=
          fun k request hk => not_accepted_of_absent (Nat.lt_succ_iff.mp hk) hAbsent request
        exact ⟨nofun, .none (fun _ => rfl) rfl hNever, nofun⟩

theorem requeue_fails {repository : MemoryRepository}
    {request : RequeueManualRequest} (hRecord : repository.record? request.revocationID = some record)
    (hPending : record.revocation.status ≠ .revocationPending) (hEvidence : record.revocation.evidenceHash ≠ []) :
    Ends (requeueManual env request) repository (fun reply repository' =>
      (∃ failure, reply = .error failure) ∧ repository' = repository) := by
  unfold requeueManual
  apply Ends.attempt fun failure _ => ⟨⟨failure, rfl⟩, rfl⟩
  intro _ _
  apply Ends.ensure ⟨⟨_, rfl⟩, rfl⟩
  intro _
  apply Ends.get
  apply Ends.found ⟨⟨_, rfl⟩, rfl⟩
  intro found hFound
  obtain rfl : record = found := Option.some.inj (hRecord.symm.trans hFound)
  rw [if_neg hPending]
  apply Ends.ensure ⟨⟨_, rfl⟩, rfl⟩
  rintro ⟨_, hNoEvidence, _⟩
  exact absurd hNoEvidence hEvidence

theorem submitExternalConfirmationAround_eq (env : Environment)
    (withdraw : GoString → GoString → MemoryRevocationRecord → Locked ConfirmationResult)
    (request : ExternalConfirmationRequest) :
    submitExternalConfirmationAround env withdraw request = submitExternalConfirmation env request := by
  unfold submitExternalConfirmation submitExternalConfirmationAround
  refine bind_congr fun _ => bind_congr fun _ => bind_congr fun repository => bind_congr fun record => ?_
  refine bind_congr fun _ => bind_congr fun _ => ?_
  split
  · rfl
  · rename_i hNew
    refine bind_congr fun _ => ensure_bind_congr fun hGuard => bind_congr fun _ => ?_
    split
    · rename_i hSize
      have hAdmin := confirmed_hasPlatformAdmin hNew hGuard hSize
      rw [if_neg (by rw [hAdmin]; exact Bool.true_eq_false.mp), if_neg (by rw [hAdmin]; exact Bool.true_eq_false.mp)]
    · rfl

theorem pending_or_evidence {k : Nat}
    (h : Confirmed sha256Hex inputs n id record) (hk : k < n) (hAccepted : AcceptedAt sha256Hex inputs k id request) :
    record.revocation.status ≠ .revocationPending ∧ record.revocation.evidenceHash ≠ [] := by
  cases h with
  | none _ _ hNever => exact absurd hAccepted (hNever k request hk)
  | one _ _ _ hStatus hEvidence hHash =>
    rw [hStatus, hEvidence]
    exact ⟨nofun, hHash⟩
  | two _ _ _ _ _ hStatus _ _ hHash =>
    rw [hStatus]
    exact ⟨nofun, hHash⟩

end Runs

namespace MemoryRepository

/-- A revoked record was completed by the holder of its latest claim while the claim was live, or confirmed by exactly
two people with the same evidence, one of them an administrator; after the first accepted confirmation no requeue
changes the record; and the branch that takes a confirmation back is dead. -/
theorem revoked_is_justified (sha256Hex : GoString → GoString) (inputs : List (Call × Environment)) :
    (∀ n id record, ((machine sha256Hex).stateAt inputs n).record? id = some record →
      record.revocation.status = .revoked →
      (∃ k fence, k < n ∧ CompletedAt sha256Hex inputs k id fence ∧
        ∃ j issued, j < k ∧ IssuedAt sha256Hex inputs j issued ∧ issued.revocationID = id ∧
          issued.workerID = fence.workerID ∧ issued.epoch = fence.epoch ∧
          sha256Hex issued.token = sha256Hex fence.token ∧
          (Function.Injective sha256Hex → issued = fence)) ∨
      (∃ i j first second, i < j ∧ j < n ∧ AcceptedAt sha256Hex inputs i id first ∧
        AcceptedAt sha256Hex inputs j id second ∧ first.subject ≠ second.subject ∧
        first.evidenceHash = second.evidenceHash ∧ (first.platformAdmin = true ∨ second.platformAdmin = true) ∧
        ∀ k other, k < n → AcceptedAt sha256Hex inputs k id other → k = i ∨ k = j)) ∧
    (∀ k n request confirmation env, k < n → AcceptedAt sha256Hex inputs k request.revocationID confirmation →
      (∃ failure, (((machine sha256Hex).stateAt inputs n).step sha256Hex (.requeueManual request, env)).1 =
        .error failure) ∧
      (((machine sha256Hex).stateAt inputs n).step sha256Hex (.requeueManual request, env)).2 =
        (machine sha256Hex).stateAt inputs n) ∧
    (∀ env withdraw request,
      submitExternalConfirmationAround env withdraw request = submitExternalConfirmation env request) := by
  refine ⟨?_, ?_, submitExternalConfirmationAround_eq⟩
  · intro n id record hRecord hStatus
    rcases (stateAt_justified sha256Hex inputs n id record hRecord).revoked hStatus with
      ⟨k, fence, hk, hCompleted, j, issued, hj, hIssued, hID, hWorker, hEpoch, hToken⟩ | hConfirmed
    · refine .inl ⟨k, fence, hk, hCompleted, j, issued, hj, hIssued, hID, hWorker, hEpoch, hToken, ?_⟩
      intro hInjective
      obtain ⟨_, _, _, _, hFenceID, _⟩ := hCompleted
      cases issued
      cases fence
      simp only [ClaimFence.mk.injEq]
      exact ⟨hID.trans hFenceID.symm, hWorker, hInjective hToken, hEpoch⟩
    · exact .inr hConfirmed
  · intro k n request confirmation env hk hAccepted
    have hPresent := hAccepted
    obtain ⟨_, _, _, _, _, _, hEarlier, _⟩ := hPresent
    obtain ⟨record, hRecord, _⟩ := stateAt_present (Nat.le_of_lt hk) hEarlier
    have hConfirmed := (stateAt_justified sha256Hex inputs n _ record hRecord).confirmed
    obtain ⟨hPending, hEvidence⟩ := pending_or_evidence hConfirmed hk hAccepted
    obtain ⟨_, hReply, ⟨failure, rfl⟩, hSame⟩ := step_ends sha256Hex ((machine sha256Hex).stateAt inputs n)
      (.requeueManual request) env Answer.revocation rfl (requeue_fails hRecord hPending hEvidence)
    exact ⟨⟨failure, hReply⟩, hSame⟩

theorem revoked_is_justified_completed :
    sampleStatusAt 6 = some .revoked ∧ ∃ k fence, k < 6 ∧ CompletedAt sampleDigest sampleRun k sampleID fence := by
  have hStatus : sampleStatusAt 6 = some .revoked := by decide +kernel
  obtain ⟨record, hRecord, hRevoked⟩ := Option.map_eq_some_iff.mp hStatus
  rcases (revoked_is_justified sampleDigest sampleRun).1 6 sampleID record hRecord hRevoked with
    ⟨k, fence, hk, hCompleted, _⟩ | ⟨i, _, first, _, _, _, ⟨env, _, _, hInput, _⟩, _⟩
  · exact ⟨hStatus, k, fence, hk, hCompleted⟩
  · -- The run submits no confirmation.
    have hMember := List.mem_of_getElem? hInput
    simp [sampleRun] at hMember

end MemoryRepository

end AiopsSystem.Credential
