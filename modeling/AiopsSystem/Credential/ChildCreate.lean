import AiopsSystem.Credential.Justification

/-! # One child credential for each lease

The index from leases to revocations makes the creating `Prepare` of a lease
unique; its permit then authorizes one child, whose lifetime ends before the
absolute deadline. The zero instant marks a record without an authorization,
so the uniqueness needs that no authorization reads that instant; and the
deadline is rounded through `UnixMicro`, so it bounds a child only if the clock
of its `Prepare` is not before the instants that function represents.
-/

namespace AiopsSystem.Credential

open Go Go.Section MemoryRepository MemoryRevocationRecord

def AuthorizesNonzero : Call × Environment → Prop
  | (.authorizeChildCreate _, env) => env.clock 0 ≠ 0
  | _ => True

def PreparesRepresentable : Call × Environment → Prop
  | (.prepare _, env) => earliestUnixMicro ≤ env.clock 0
  | _ => True

structure ReadsAgree (env : Environment) (request : PrepareRequest) (metadata : ActionMetadata) : Prop where
  fence : validActionFence request.fence = true
  action : metadata.actionID = request.fence.actionID
  epoch : metadata.leaseEpoch = request.fence.epoch
  ttl : validCredentialTTLSeconds metadata.credentialTTLSeconds = true
  signed : request.credentialExpiresAt ≤ signedCredentialExpiry (env.clock 0) metadata.credentialTTLSeconds

variable {metadata : ActionMetadata} {env : Environment}

theorem resolvePrepareAction_ok {n : Nat} {fence : ActionFence} {now : Int}
    (h : resolvePrepareAction env n fence now = .ok metadata) :
    metadata.actionID = fence.actionID ∧ metadata.leaseEpoch = fence.epoch ∧
      validCredentialTTLSeconds metadata.credentialTTLSeconds = true := by
  unfold resolvePrepareAction resolveAction at h
  simp only [bind_eq_ok, require_eq_ok, orFail_eq_ok] at h
  obtain ⟨_, ⟨_, _, _, hFields, hResolved⟩, _, _, hMetadata⟩ := h
  cases hMetadata
  cases hResolved
  obtain ⟨hAction, _, hEpoch, _, _, _, _, _, _, _, _, hTTL, _⟩ := hFields
  exact ⟨hAction, hEpoch, hTTL⟩

theorem prepareReads_ok {request : PrepareRequest}
    (h : prepareReads env request = .ok metadata) : ReadsAgree env request metadata := by
  unfold prepareReads at h
  simp only [bind_eq_ok, require_eq_ok] at h
  obtain ⟨_, hRequest, first, _, _, _, _, ⟨_, hSigned⟩, _, hSecond, _, hScope, _, _, hMetadata⟩ := h
  cases hMetadata
  obtain ⟨hAction, hEpoch, hValid⟩ := resolvePrepareAction_ok hSecond
  have hTTL : first.credentialTTLSeconds = metadata.credentialTTLSeconds := hScope.2.2.2.2.2.2.2.2.2.2.2.2
  rw [hTTL] at hSigned
  exact ⟨hRequest.2.1, hAction, hEpoch, hValid, hSigned⟩

def Indexed (repository : MemoryRepository) : Prop :=
  ∀ id record, repository.record? id = some record →
    repository.actionEpochs.get? (actionEpochKey record.revocation.actionID record.revocation.actionLeaseEpoch) = some id

section Index

variable {sha256Hex : GoString → GoString} {repository : MemoryRepository}

variable {key id : GoString}

theorem step_index {input : Call × Environment} (h : repository.actionEpochs.get? key = some id) :
    (repository.step sha256Hex input).2.actionEpochs.get? key = some id := by
  obtain ⟨call, env⟩ := input
  rcases step_outcome repository call env with hServed | ⟨request, metadata, permitToken, rfl, hCreates, hStep⟩
  · rw [hServed.moved.index]
    exact h
  · rw [hStep]
    refine (GoMap.get?_insert _ _ _ _).trans ?_
    rw [if_neg]
    · exact h
    · rintro rfl
      cases h.symm.trans hCreates.unindexed

theorem stateAt_index {inputs : List (Call × Environment)} {m n : Nat} (hmn : m ≤ n)
    (h : ((machine sha256Hex).stateAt inputs m).actionEpochs.get? key = some id) :
    ((machine sha256Hex).stateAt inputs n).actionEpochs.get? key = some id := by
  induction hmn with
  | refl => exact h
  | @step n _ ih =>
    cases hInput : inputs[n]? with
    | none =>
      rw [Machine.stateAt_succ_of_none _ hInput]
      exact ih
    | some =>
      rw [Machine.stateAt_succ _ hInput]
      exact step_index ih

theorem Indexed.step (h : Indexed repository) (input : Call × Environment) :
    Indexed (repository.step sha256Hex input).2 := by
  obtain ⟨call, env⟩ := input
  intro id record' hRecord'
  rcases step_origin hRecord' with ⟨record, hRecord, hPath⟩ | ⟨_, request, _, _, rfl, rfl, hCreating, rfl⟩
  · obtain ⟨_, hAction, hEpoch, _⟩ := PreparedFields.mk.inj (Path.preparedFields_eq hPath)
    rw [hAction, hEpoch]
    exact step_index (h id record hRecord)
  · have hReads := prepareReads_ok hCreating.1.reads
    rw [hCreating.2]
    refine (GoMap.get?_insert _ _ _ _).trans (if_pos ?_)
    exact congrArg₂ actionEpochKey hReads.action hReads.epoch

theorem stateAt_leaseIndexed (sha256Hex : GoString → GoString) (inputs : List (Call × Environment)) (n : Nat) :
    Indexed ((machine sha256Hex).stateAt inputs n) := by
  refine (machine sha256Hex).stateAt_invariant (P := Indexed) ?_ ?_ inputs n
  · intro _ _ hNone
    cases hNone
  · intro _ input h
    exact h.step input

end Index

section Authorization

variable {sha256Hex : GoString → GoString} {env : Environment} {repository : MemoryRepository}

structure Authorizes (sha256Hex : GoString → GoString) (env : Environment) (request : AuthorizeChildCreateRequest)
    (record : MemoryRevocationRecord) (inspection : ActionInspection) (ttl : Int) : Prop where
  inspected : env.Inspected 0 request.fence.actionID inspection
  fence : record.frozenActionFenceMatches sha256Hex request.fence
  scope : inspectionScopeMatches record.revocation inspection.metadata
  bound : record.revocation.credentialExpiresAt ≤ inspection.metadata.authorizationExpiresAt
  current : record.inspectionFenceCurrent inspection (env.clock 0) 0
  permit : record.childCreatePermitSHA256 = sha256Hex request.permit.token
  unused : record.childCreateAuthorizedAt = 0
  minimum : minChildCreateTTL ≤ ttl
  lifetime : ttl = (timeSub record.revocation.credentialExpiresAt (env.clock 0) - childCreateExpiryReserve).tdiv
    vaultTTLQuantum * vaultTTLQuantum

theorem authorizeChildCreate_ok (request : AuthorizeChildCreateRequest) :
    Ends (authorizeChildCreate sha256Hex env request) repository (fun reply repository' =>
      ∀ authorization, reply = .ok authorization → ∃ record inspection ttl,
        repository.record? request.permit.revocationID = some record ∧
        Authorizes sha256Hex env request record inspection ttl ∧
        repository' = repository.store request.permit.revocationID (record.childCreateAuthorized (env.clock 0) ttl) ∧
        authorization = {
          revocation := (record.childCreateAuthorized (env.clock 0) ttl).revocation
          databaseAuthorizedAt := env.clock 0
          credentialExpiresAt := record.revocation.credentialExpiresAt
          ttl := ttl
          vaultCallBudget := childCreateVaultCallBudget }) := by
  unfold authorizeChildCreate
  apply Ends.attempt fun _ _ => of_error
  intro _ _
  apply Ends.ensure of_error
  intro _
  apply Ends.inspecting (fun _ => of_error) fun _ _ _ _ _ => of_error
  intro inspection hInspected
  apply Ends.get
  apply Ends.found of_error
  intro record hRecord
  apply Ends.ensure of_error
  rintro ⟨hFence, hScope, hBound, hCurrent⟩
  apply Ends.ensure of_error
  intro _
  apply Ends.ensure of_error
  intro hPermit
  apply Ends.ensure of_error
  intro _
  apply Ends.ensure of_error
  intro hUnused
  apply Ends.ensure of_error
  intro hMinimum
  apply Ends.modify
  apply Ends.pure
  intro authorization hAuthorization
  cases hAuthorization
  exact ⟨record, inspection, _, hRecord,
    ⟨hInspected, hFence, hScope, hBound, hCurrent, hPermit, hUnused, hMinimum, rfl⟩, rfl, rfl⟩

theorem Authorizes.ttl_bounds {request : AuthorizeChildCreateRequest} {record : MemoryRevocationRecord}
    {inspection : ActionInspection} {ttl : Int} (h : Authorizes sha256Hex env request record inspection ttl) :
    0 < ttl ∧ (∃ seconds, ttl = seconds * second) ∧
      env.clock 0 + childCreateExpiryReserve + ttl ≤ record.revocation.credentialExpiresAt := by
  have hBefore := h.current.2.2.2.2.2.2.2.2
  have hSub : timeSub record.revocation.credentialExpiresAt (env.clock 0) ≤
      record.revocation.credentialExpiresAt - env.clock 0 := timeSub_le (by omega)
  have hPositive : 0 < ttl := lt_of_lt_of_le (by decide : (0 : Int) < minChildCreateTTL) h.minimum
  refine ⟨hPositive, ⟨_, h.lifetime⟩, ?_⟩
  have hQuantum : 0 < vaultTTLQuantum := by decide
  by_cases hRemaining : 0 ≤ timeSub record.revocation.credentialExpiresAt (env.clock 0) - childCreateExpiryReserve
  · have hTruncated := tdiv_mul_le hRemaining hQuantum
    rw [← h.lifetime] at hTruncated
    omega
  · -- A window smaller than the reserve truncates to no lifetime at all.
    have hNone := tdiv_mul_nonpos (not_le.mp hRemaining) hQuantum
    rw [← h.lifetime] at hNone
    omega

end Authorization

section History

variable (sha256Hex : GoString → GoString) (inputs : List (Call × Environment))

/-- The step at this position is a `Prepare` that returned `Created=true`. -/
def PreparedAt (n : Nat) (request : PrepareRequest) (env : Environment) (result : PrepareResult) : Prop :=
  inputs[n]? = some (.prepare request, env) ∧
    (((machine sha256Hex).stateAt inputs n).step sha256Hex (.prepare request, env)).1 = .ok (.prepared result) ∧
    result.created = true

def AuthorizedAt (n : Nat) (request : AuthorizeChildCreateRequest) (env : Environment)
    (authorization : ChildCreateAuthorization) : Prop :=
  inputs[n]? = some (.authorizeChildCreate request, env) ∧
    (((machine sha256Hex).stateAt inputs n).step sha256Hex (.authorizeChildCreate request, env)).1 =
      .ok (.authorization authorization)

def CreatedBy (n : Nat) (id : GoString) (record : MemoryRevocationRecord) : Prop :=
  ∃ k request env metadata permitToken, k < n ∧ inputs[k]? = some (.prepare request, env) ∧
    CreatingStep sha256Hex ((machine sha256Hex).stateAt inputs k) env request metadata permitToken ∧
    request.revocationID = id ∧
    record.preparedFields =
      (MemoryRevocationRecord.preparing sha256Hex request.canonical metadata permitToken (env.clock 0)).preparedFields

end History

section Runs

variable {sha256Hex : GoString → GoString} {inputs : List (Call × Environment)} {n : Nat}

variable {request : PrepareRequest} {result : PrepareResult}

variable {env : Environment}

theorem PreparedAt.creates (h : PreparedAt sha256Hex inputs n request env result) : ∃ metadata permitToken,
      CreatingStep sha256Hex ((machine sha256Hex).stateAt inputs n) env request metadata permitToken := by
  obtain ⟨_, hReply, hCreated⟩ := h
  rcases step_prepare ((machine sha256Hex).stateAt inputs n) env request with ⟨_, hNot⟩ | hCreates
  · rw [hNot result hReply] at hCreated
    cases hCreated
  · exact hCreates

theorem PreparedAt.indexed (h : PreparedAt sha256Hex inputs n request env result) :
    ((machine sha256Hex).stateAt inputs (n + 1)).actionEpochs.get?
      (actionEpochKey request.fence.actionID request.fence.epoch) = some request.revocationID := by
  obtain ⟨_, _, _, hStep⟩ := h.creates
  rw [Machine.stateAt_succ _ h.1, show (machine sha256Hex).step _ (.prepare request, env) = _ from hStep]
  exact (GoMap.get?_insert _ _ _ _).trans (if_pos rfl)

theorem PreparedAt.not_lt {m : Nat} {request' : PrepareRequest} {env env' : Environment} {result' : PrepareResult}
    (h : PreparedAt sha256Hex inputs m request env result) (h' : PreparedAt sha256Hex inputs n request' env' result')
    (hAction : request.fence.actionID = request'.fence.actionID) (hEpoch : request.fence.epoch = request'.fence.epoch) :
    ¬ m < n := by
  intro hmn
  have hIndexed := stateAt_index hmn h.indexed
  obtain ⟨_, _, hCreates, _⟩ := h'.creates
  have hNone := hCreates.unindexed
  rw [← hAction, ← hEpoch, hIndexed] at hNone
  cases hNone

theorem AuthorizedAt.authorizes {request : AuthorizeChildCreateRequest}
    {authorization : ChildCreateAuthorization} (h : AuthorizedAt sha256Hex inputs n request env authorization) :
    ∃ record inspection ttl,
      ((machine sha256Hex).stateAt inputs n).record? request.permit.revocationID = some record ∧
      Authorizes sha256Hex env request record inspection ttl ∧
      ((machine sha256Hex).stateAt inputs (n + 1)).record? request.permit.revocationID =
        some (record.childCreateAuthorized (env.clock 0) ttl) ∧
      authorization.databaseAuthorizedAt = env.clock 0 ∧ authorization.ttl = ttl ∧
      authorization.credentialExpiresAt = record.revocation.credentialExpiresAt := by
  obtain ⟨hInput, hReply⟩ := h
  obtain ⟨reply, hMapped, hOk⟩ := step_ends sha256Hex ((machine sha256Hex).stateAt inputs n)
    (.authorizeChildCreate request) env Answer.authorization rfl (authorizeChildCreate_ok request)
  rw [hMapped] at hReply
  cases reply with
  | error => cases hReply
  | ok =>
    cases hReply
    obtain ⟨record, inspection, ttl, hRecord, hAuthorizes, hStored, rfl⟩ := hOk authorization rfl
    refine ⟨record, inspection, ttl, hRecord, hAuthorizes, ?_, rfl, rfl, rfl⟩
    rw [Machine.stateAt_succ _ hInput, show ((machine sha256Hex).step _ (.authorizeChildCreate request, env)).2 = _ from
      hStored, record?_store, if_pos rfl]

theorem CreatedBy.later {id : GoString} {record record' : MemoryRevocationRecord}
    (h : CreatedBy sha256Hex inputs n id record) (hFields : record'.preparedFields = record.preparedFields) :
    CreatedBy sha256Hex inputs (n + 1) id record' := by
  obtain ⟨k, request, env, metadata, permitToken, _, hInput, hCreating, hID, hPrepared⟩ := h
  exact ⟨k, request, env, metadata, permitToken, by omega, hInput, hCreating, hID, hFields.trans hPrepared⟩

theorem stateAt_created (sha256Hex : GoString → GoString) (inputs : List (Call × Environment)) (n : Nat) :
    ∀ id record, ((machine sha256Hex).stateAt inputs n).record? id = some record →
      CreatedBy sha256Hex inputs n id record := by
  induction n with
  | zero =>
    intro id record hNone
    cases hNone
  | succ n ih =>
    intro id record' hRecord'
    cases hInput : inputs[n]? with
    | none =>
      rw [Machine.stateAt_succ_of_none _ hInput] at hRecord'
      exact (ih id record' hRecord').later rfl
    | some input =>
      obtain ⟨call, env⟩ := input
      rw [Machine.stateAt_succ _ hInput] at hRecord'
      rcases step_origin hRecord' with
        ⟨record, hRecord, hPath⟩ | ⟨_, request, metadata, permitToken, rfl, rfl, hCreating, rfl⟩
      · exact (ih id record hRecord).later (Path.preparedFields_eq hPath)
      · exact ⟨n, request, env, metadata, permitToken, Nat.lt_succ_self n, hInput, hCreating, rfl, rfl⟩

end Runs

section Consumed

variable {sha256Hex : GoString → GoString} {env : Environment} {call : Call} {id : GoString}
  {record record' : MemoryRevocationRecord}

theorem Move.authorizedAt_kept (h : Move sha256Hex env call id record record')
    (hAuthorized : record.childCreateAuthorizedAt ≠ 0) : record'.childCreateAuthorizedAt ≠ 0 := by
  cases h with
  | authorize _ _ _ _ _ _ _ hFirst => exact absurd hFirst hAuthorized
  | retry =>
    rcases retrying_cases record (env.clock 0) _ with hRetry | hRetry <;> rw [hRetry]
    all_goals simpa only [claimFailed, requiringManual, failing, clearActiveClaim, bump] using hAuthorized
  | manual | exhaust | poison =>
    simpa only [exhausted, poisoned, claimFailed, requiringManual, failing, clearActiveClaim, bump] using hAuthorized
  | _ => exact hAuthorized

theorem path_authorizedAt_kept (hPath : Path sha256Hex env call id record record')
    (hAuthorized : record.childCreateAuthorizedAt ≠ 0) : record'.childCreateAuthorizedAt ≠ 0 := by
  induction hPath with
  | refl => exact hAuthorized
  | tail _ hMove ih => exact hMove.authorizedAt_kept ih

theorem Move.withoutCredential (h : Move sha256Hex env call id record record')
    (hStatus : record'.revocation.status = .noCredential) :
    record.childCreateAuthorizedAt = 0 ∨
      record.revocation.credentialExpiresAt + preparedRecoveryGrace ≤ env.clock 0 := by
  have hOpen := h.open
  cases h with
  | noCredential _ hNone => exact .inl hNone
  | recover hRecoverable =>
    simp only [preparedRecoverable, decide_eq_true_eq] at hRecoverable
    exact .inr hRecoverable.2.2
  | authorize | heartbeat | confirm =>
    -- These keep the status, and no move starts from this one.
    change record.revocation.status = .noCredential at hStatus
    rw [hStatus] at hOpen
    rcases hOpen with hOpen | hOpen <;> cases hOpen
  | retry =>
    rcases retrying_cases record (env.clock 0) _ with hRetry | hRetry <;> rw [hRetry] at hStatus
    all_goals cases hStatus
  | _ => cases hStatus

theorem path_withoutCredential (hPath : Path sha256Hex env call id record record')
    (hBefore : record.revocation.status ≠ .noCredential) (hStatus : record'.revocation.status = .noCredential) :
    record.childCreateAuthorizedAt = 0 ∨
      record.revocation.credentialExpiresAt + preparedRecoveryGrace ≤ env.clock 0 := by
  rcases Relation.ReflTransGen.cases_tail hPath with rfl | ⟨middle, hFirst, hMove⟩
  · exact absurd hStatus hBefore
  · rcases hMove.withoutCredential hStatus with hNone | hLate
    · left
      by_contra hAuthorized
      exact path_authorizedAt_kept hFirst hAuthorized hNone
    · right
      have hExpiry : middle.revocation.credentialExpiresAt = record.revocation.credentialExpiresAt :=
        congrArg PreparedFields.credentialExpiresAt (Path.preparedFields_eq hFirst)
      rwa [hExpiry] at hLate

end Consumed

section Once

variable {sha256Hex : GoString → GoString} {inputs : List (Call × Environment)}

variable {request : AuthorizeChildCreateRequest} {authorization : ChildCreateAuthorization}

variable {env : Environment} {n : Nat}

theorem authorized_mark (hNonzero : ∀ input ∈ inputs, AuthorizesNonzero input) {m n : Nat} (hmn : m < n)
    (h : AuthorizedAt sha256Hex inputs m request env authorization) : ∃ record,
      ((machine sha256Hex).stateAt inputs n).record? request.permit.revocationID = some record ∧
        record.childCreateAuthorizedAt ≠ 0 := by
  obtain ⟨record, _, _, _, _, hStored, _⟩ := h.authorizes
  have hClock : env.clock 0 ≠ 0 := hNonzero _ (List.mem_of_getElem? h.1)
  obtain ⟨record', hRecord', hKept⟩ := RecordInvariant.unconstrained.related
    (R := fun record record' => record.childCreateAuthorizedAt ≠ 0 → record'.childCreateAuthorizedAt ≠ 0)
    (fun _ h => h) (fun _ _ _ hFirst hSecond h => hSecond (hFirst h))
    (fun _ _ _ _ _ _ hMove _ => hMove.authorizedAt_kept) hNonzero hmn hStored
  exact ⟨record', hRecord', hKept hClock⟩

theorem AuthorizedAt.indexed (h : AuthorizedAt sha256Hex inputs n request env authorization) :
    ((machine sha256Hex).stateAt inputs n).actionEpochs.get?
      (actionEpochKey request.fence.actionID request.fence.epoch) = some request.permit.revocationID := by
  obtain ⟨record, _, _, hRecord, hAuthorizes, _⟩ := h.authorizes
  have hIndexed := stateAt_leaseIndexed sha256Hex inputs n _ record hRecord
  rwa [hAuthorizes.fence.1, hAuthorizes.fence.2.2.1] at hIndexed

theorem AuthorizedAt.not_lt (hNonzero : ∀ input ∈ inputs, AuthorizesNonzero input) {m n : Nat}
    {request' : AuthorizeChildCreateRequest} {env env' : Environment} {authorization' : ChildCreateAuthorization}
    (h : AuthorizedAt sha256Hex inputs m request env authorization)
    (h' : AuthorizedAt sha256Hex inputs n request' env' authorization')
    (hAction : request.fence.actionID = request'.fence.actionID) (hEpoch : request.fence.epoch = request'.fence.epoch) :
    ¬ m < n := by
  intro hmn
  have hSame := stateAt_index hmn.le h.indexed
  rw [hAction, hEpoch, h'.indexed] at hSame
  obtain ⟨_, hRecord, hMarked⟩ := authorized_mark hNonzero hmn h
  obtain ⟨_, _, _, hRecord', hAuthorizes, _⟩ := h'.authorizes
  rw [Option.some.inj hSame, hRecord] at hRecord'
  cases hRecord'
  exact hMarked hAuthorizes.unused

theorem withoutCredential_at (hNonzero : ∀ input ∈ inputs, AuthorizesNonzero input) {call : Call}
    (hInput : inputs[n]? = some (call, env)) {id : GoString} {record record' : MemoryRevocationRecord}
    (hRecord : ((machine sha256Hex).stateAt inputs n).record? id = some record)
    (hRecord' : ((machine sha256Hex).stateAt inputs (n + 1)).record? id = some record')
    (hBefore : record.revocation.status ≠ .noCredential) (hStatus : record'.revocation.status = .noCredential) :
    (∀ k request env authorization, k < n → AuthorizedAt sha256Hex inputs k request env authorization →
      request.permit.revocationID ≠ id) ∨
    record.revocation.credentialExpiresAt + preparedRecoveryGrace ≤ env.clock 0 := by
  rw [Machine.stateAt_succ _ hInput] at hRecord'
  rcases path_withoutCredential (step_path hRecord hRecord') hBefore hStatus with hNone | hLate
  · left
    rintro k request _ authorization hk hAuthorized rfl
    obtain ⟨_, hMarked, hNot⟩ := authorized_mark hNonzero hk hAuthorized
    rw [hRecord] at hMarked
    cases hMarked
    exact hNot hNone
  · exact .inr hLate

/-- What a successful authorization rests on: the permit of an earlier `Prepare` of the same lease, an action
running under that lease, and the lifetime within every deadline. -/
structure AuthorizedBy (sha256Hex : GoString → GoString) (inputs : List (Call × Environment)) (n : Nat)
    (request : AuthorizeChildCreateRequest) (env : Environment) (authorization : ChildCreateAuthorization)
    (prepareRequest : PrepareRequest) (prepareEnv : Environment) (permit : ChildCreatePermit)
    (inspection : ActionInspection) : Prop where
  prepared : ∃ k result, k < n ∧ PreparedAt sha256Hex inputs k prepareRequest prepareEnv result ∧
    result.permit = some permit
  actionID : prepareRequest.fence.actionID = request.fence.actionID
  epoch : prepareRequest.fence.epoch = request.fence.epoch
  token : sha256Hex prepareRequest.fence.token = sha256Hex request.fence.token
  permitID : permit.revocationID = request.permit.revocationID
  permitDigest : sha256Hex permit.token = sha256Hex request.permit.token
  permitEq : Function.Injective sha256Hex → permit = request.permit
  inspected : env.Inspected 0 request.fence.actionID inspection
  running : inspection.metadata.status = .running
  leaseEpoch : inspection.metadata.leaseEpoch = request.fence.epoch
  leaseToken : inspection.leaseTokenSHA256 = sha256Hex request.fence.token
  notCancelled : inspection.metadata.cancelRequestedAt = 0
  now : authorization.databaseAuthorizedAt = env.clock 0
  positive : 0 < authorization.ttl
  wholeSeconds : ∃ seconds, authorization.ttl = seconds * second
  deadline : env.clock 0 + childCreateExpiryReserve + authorization.ttl ≤ authorization.credentialExpiresAt
  requested : authorization.credentialExpiresAt = canonicalCredentialExpiry prepareRequest.credentialExpiresAt
  authorizationExpiry : authorization.credentialExpiresAt ≤ inspection.metadata.authorizationExpiresAt
  signedExpiry : authorization.credentialExpiresAt ≤
    prepareEnv.clock 0 + inspection.metadata.credentialTTLSeconds * second

theorem AuthorizedAt.authorizedBy (hRange : ∀ input ∈ inputs, PreparesRepresentable input)
    (h : AuthorizedAt sha256Hex inputs n request env authorization) :
    ∃ prepareRequest prepareEnv permit inspection, AuthorizedBy sha256Hex inputs n request env authorization
      prepareRequest prepareEnv permit inspection := by
  obtain ⟨record, inspection, _, hRecord, hAuthorizes, _, hNow, rfl, hExpires⟩ := h.authorizes
  obtain ⟨k, prepareRequest, prepareEnv, metadata, permitToken, hk, hInput, hCreating, hID, hPrepared⟩ :=
    stateAt_created sha256Hex inputs n _ record hRecord
  obtain ⟨hPositive, hWhole, _⟩ := hAuthorizes.ttl_bounds
  obtain ⟨hActionID, _, hEpoch, hToken⟩ := hAuthorizes.fence
  obtain ⟨_, hRunning, hCancel, _, hLeaseEpoch, hLeaseToken, _⟩ := hAuthorizes.current
  obtain ⟨_, _, _, _, _, _, _, hTTL, _⟩ := hAuthorizes.scope
  have hReads := prepareReads_ok hCreating.1.reads
  -- The fields the creating Prepare wrote, read from the record of this step.
  obtain ⟨_, hAction', hEpoch', _, hTTL', hExpires', _, hToken', hPermit'⟩ := PreparedFields.mk.inj hPrepared
  have hDigest : sha256Hex permitToken = sha256Hex request.permit.token := hPermit'.symm.trans hAuthorizes.permit
  have hClock : earliestUnixMicro ≤ prepareEnv.clock 0 := hRange _ (List.mem_of_getElem? hInput)
  have hSigned : canonicalCredentialExpiry prepareRequest.credentialExpiresAt ≤
      prepareEnv.clock 0 + metadata.credentialTTLSeconds * second :=
    hReads.signed.trans (signedCredentialExpiry_le hClock hReads.ttl)
  refine ⟨prepareRequest, prepareEnv, { revocationID := prepareRequest.revocationID, token := permitToken },
    inspection, ?_⟩
  exact {
    prepared := ⟨k, _, hk, ⟨hInput, congrArg Prod.fst hCreating.2, rfl⟩, rfl⟩
    actionID := (hReads.action.symm.trans hAction'.symm).trans hActionID
    epoch := (hReads.epoch.symm.trans hEpoch'.symm).trans hEpoch
    token := hToken'.symm.trans hToken
    permitID := hID
    permitDigest := hDigest
    permitEq := fun hInjective => congrArg₂ ChildCreatePermit.mk hID (hInjective hDigest)
    inspected := hAuthorizes.inspected
    running := hRunning
    leaseEpoch := hLeaseEpoch.trans hEpoch
    leaseToken := hLeaseToken.trans hToken
    notCancelled := hCancel
    now := hNow
    positive := hPositive
    wholeSeconds := hWhole
    deadline := by rwa [hExpires]
    requested := hExpires.trans hExpires'
    authorizationExpiry := by
      rw [hExpires]
      exact hAuthorizes.bound
    signedExpiry := by rwa [hExpires, hExpires', ← hTTL, hTTL'] }

end Once

namespace MemoryRepository

/-- For each lease there is one creating `Prepare` and one authorization, made with the permit of that `Prepare`
and within its deadlines; a record loses its credential only if none was authorized or the grace period is over. -/
theorem child_authorized_once (sha256Hex : GoString → GoString) (inputs : List (Call × Environment))
    (hNonzero : ∀ input ∈ inputs, AuthorizesNonzero input) (hRange : ∀ input ∈ inputs, PreparesRepresentable input) :
    (∀ m n request request' env env' result result', PreparedAt sha256Hex inputs m request env result →
      PreparedAt sha256Hex inputs n request' env' result' →
      request.fence.actionID = request'.fence.actionID → request.fence.epoch = request'.fence.epoch → m = n) ∧
    (∀ m n request request' env env' authorization authorization',
      AuthorizedAt sha256Hex inputs m request env authorization →
      AuthorizedAt sha256Hex inputs n request' env' authorization' →
      request.fence.actionID = request'.fence.actionID → request.fence.epoch = request'.fence.epoch → m = n) ∧
    (∀ n request env authorization, AuthorizedAt sha256Hex inputs n request env authorization →
      ∃ prepareRequest prepareEnv permit inspection, AuthorizedBy sha256Hex inputs n request env authorization
        prepareRequest prepareEnv permit inspection) ∧
    ∀ n call env id record record', inputs[n]? = some (call, env) →
      ((machine sha256Hex).stateAt inputs n).record? id = some record →
      ((machine sha256Hex).stateAt inputs (n + 1)).record? id = some record' →
      record.revocation.status ≠ .noCredential → record'.revocation.status = .noCredential →
      (∀ k request env authorization, k < n → AuthorizedAt sha256Hex inputs k request env authorization →
        request.permit.revocationID ≠ id) ∨
      record.revocation.credentialExpiresAt + preparedRecoveryGrace ≤ env.clock 0 := by
  refine ⟨?_, ?_, ?_, ?_⟩
  · intro m n request request' env env' result result' h h' hAction hEpoch
    have hNot := h.not_lt h' hAction hEpoch
    have hNot' := h'.not_lt h hAction.symm hEpoch.symm
    omega
  · intro m n request request' env env' authorization authorization' h h' hAction hEpoch
    have hNot := h.not_lt hNonzero h' hAction hEpoch
    have hNot' := h'.not_lt hNonzero h hAction.symm hEpoch.symm
    omega
  · intro n request env authorization h
    exact h.authorizedBy hRange
  · intro n call env id record record' hInput hRecord hRecord' hBefore hStatus
    exact withoutCredential_at hNonzero hInput hRecord hRecord' hBefore hStatus

def authorizationAfter (inputs : List (Call × Environment)) (n : Nat) (clock : Int) : Option ChildCreateAuthorization :=
  match (((machine sampleDigest).stateAt inputs n).step sampleDigest
    (.authorizeChildCreate samplePermit, sampleEnvironment clock)).1 with
  | .ok (.authorization authorization) => some authorization
  | _ => none

theorem authorizedAt_of_after {inputs : List (Call × Environment)} {n : Nat} {clock : Int}
    {authorization : ChildCreateAuthorization}
    (hInput : inputs[n]? = some (.authorizeChildCreate samplePermit, sampleEnvironment clock))
    (h : authorizationAfter inputs n clock = some authorization) :
    AuthorizedAt sampleDigest inputs n samplePermit (sampleEnvironment clock) authorization := by
  refine ⟨hInput, ?_⟩
  unfold authorizationAfter at h
  split at h
  · rename_i found hFound
    cases h
    exact hFound
  · cases h

theorem child_authorized_once_sample :
    (∀ input ∈ sampleRun, AuthorizesNonzero input) ∧ (∀ input ∈ sampleRun, PreparesRepresentable input) ∧
      ∃ authorization,
      AuthorizedAt sampleDigest sampleRun 1 samplePermit (sampleEnvironment sampleClock) authorization ∧
      authorization.ttl = 285 * second ∧
      ∃ prepareRequest prepareEnv permit inspection, AuthorizedBy sampleDigest sampleRun 1 samplePermit
        (sampleEnvironment sampleClock) authorization prepareRequest prepareEnv permit inspection := by
  have hNonzero : ∀ input ∈ sampleRun, AuthorizesNonzero input := by
    intro input hInput
    simp only [sampleRun, List.mem_cons, List.not_mem_nil, or_false] at hInput
    rcases hInput with rfl | rfl | rfl | rfl | rfl | rfl
    all_goals first | trivial | exact (by decide : sampleClock ≠ 0)
  have hRange : ∀ input ∈ sampleRun, PreparesRepresentable input := by
    intro input hInput
    simp only [sampleRun, List.mem_cons, List.not_mem_nil, or_false] at hInput
    rcases hInput with rfl | rfl | rfl | rfl | rfl | rfl
    all_goals first | trivial | exact (by decide : earliestUnixMicro ≤ sampleClock)
  have hTTL : (authorizationAfter sampleRun 1 sampleClock).map (·.ttl) = some (285 * second) := by decide +kernel
  obtain ⟨authorization, hAfter, hTTL⟩ := Option.map_eq_some_iff.mp hTTL
  have hAuthorized := authorizedAt_of_after rfl hAfter
  exact ⟨hNonzero, hRange, authorization, hAuthorized, hTTL,
    (child_authorized_once sampleDigest sampleRun hNonzero hRange).2.2.1 1 _ _ authorization hAuthorized⟩

/-- A credential prepared one second after the zero instant; the clock then reads the zero instant itself. -/
def zeroClockRun : List (Call × Environment) :=
  [(.prepare { samplePrepare with credentialExpiresAt := 5 * minute }, sampleEnvironment second),
    (.authorizeChildCreate samplePermit, sampleEnvironment 0),
    (.authorizeChildCreate samplePermit, sampleEnvironment 0),
    (.recordNoCredential { revocationID := sampleID, fence := sampleFence }, sampleEnvironment 0)]

/-- The zero instant leaves no mark of an authorization: the permit authorizes a second child, and the record then
still passes for one that never had a credential. -/
theorem permit_authorizes_twice :
    (∃ first second, AuthorizedAt sampleDigest zeroClockRun 1 samplePermit (sampleEnvironment 0) first ∧
      AuthorizedAt sampleDigest zeroClockRun 2 samplePermit (sampleEnvironment 0) second) ∧
    (((machine sampleDigest).stateAt zeroClockRun 4).record? sampleID).map (·.revocation.status) =
      some .noCredential := by
  have hFirst : (authorizationAfter zeroClockRun 1 0).isSome = true := by decide +kernel
  have hSecond : (authorizationAfter zeroClockRun 2 0).isSome = true := by decide +kernel
  obtain ⟨first, hFirst⟩ := Option.isSome_iff_exists.mp hFirst
  obtain ⟨second, hSecond⟩ := Option.isSome_iff_exists.mp hSecond
  exact ⟨⟨first, second, authorizedAt_of_after rfl hFirst, authorizedAt_of_after rfl hSecond⟩, by decide +kernel⟩

end MemoryRepository

end AiopsSystem.Credential
