import AiopsSystem.Credential.RepositorySections

/-! # From moves to runs

A step either moves the records along paths or creates one record for a lease
that has none. What a creation establishes and every move keeps holds of every
record in every state of a run.
-/

namespace AiopsSystem.Credential

open Go Go.Section

/-- `Prepare` creates a record: the lease has none yet and the identifier is free. -/
structure Creates (env : Environment) (request : PrepareRequest) (metadata : ActionMetadata) (permitToken : GoString)
    (repository : MemoryRepository) : Prop where
  reads : prepareReads env request.canonical = .ok metadata
  unindexed : repository.actionEpochs.get? (actionEpochKey request.fence.actionID request.fence.epoch) = none
  absent : repository.record? request.revocationID = none
  permit : env.permit = some permitToken

namespace MemoryRepository

variable {sha256Hex : GoString → GoString}

theorem prepare_outcome (env : Environment) (request : PrepareRequest) (repository : MemoryRepository) :
    Ends (prepare sha256Hex env request) repository (fun reply repository' =>
      (repository' = repository ∧ ∀ result, reply = .ok result → result.created = false) ∨
      ∃ metadata permitToken, Creates env request metadata permitToken repository ∧
        reply = .ok {
          revocation := (MemoryRevocationRecord.preparing sha256Hex request.canonical metadata permitToken
            (env.clock 0)).revocation
          created := true
          permit := some { revocationID := request.revocationID, token := permitToken } } ∧
        repository' = repository.enroll request.canonical
          (.preparing sha256Hex request.canonical metadata permitToken (env.clock 0))) := by
  have hFailed : ∀ failure : CredentialError, ∀ result : PrepareResult,
      (.error failure : Except CredentialError PrepareResult) = .ok result → result.created = false := by
    intro _ _ h
    cases h
  unfold prepare
  apply Ends.attempt
  · intro failure _
    exact .inl ⟨rfl, hFailed failure⟩
  intro _ _
  apply Ends.attempt
  · intro failure _
    exact .inl ⟨rfl, hFailed failure⟩
  intro metadata hReads
  unfold prepareLocked
  apply Ends.get
  split
  · apply Ends.found (.inl ⟨rfl, hFailed _⟩)
    intro existing _
    apply Ends.ensure (.inl ⟨rfl, hFailed _⟩)
    intro _
    apply Ends.ensure (.inl ⟨rfl, hFailed _⟩)
    intro _
    refine .inl ⟨rfl, ?_⟩
    intro result hResult
    cases hResult
    rfl
  · rename_i hIndex
    split
    · apply Ends.ensure (.inl ⟨rfl, hFailed _⟩)
      intro _
      refine .inl ⟨rfl, ?_⟩
      intro result hResult
      cases hResult
      rfl
    · rename_i hAbsent
      apply Ends.found (.inl ⟨rfl, hFailed _⟩)
      intro permitToken hPermit
      apply Ends.ensure (.inl ⟨rfl, hFailed _⟩)
      intro _
      apply Ends.modify
      exact .inr ⟨metadata, permitToken, ⟨hReads, hIndex, hAbsent, hPermit⟩, rfl, rfl⟩

def preparedAnswer (sha256Hex : GoString → GoString) (env : Environment) (request : PrepareRequest)
    (metadata : ActionMetadata) (permitToken : GoString) : Answer :=
  .prepared {
    revocation := (MemoryRevocationRecord.preparing sha256Hex request.canonical metadata permitToken
      (env.clock 0)).revocation
    created := true
    permit := some { revocationID := request.revocationID, token := permitToken } }

def CreatingStep (sha256Hex : GoString → GoString) (repository : MemoryRepository) (env : Environment)
    (request : PrepareRequest) (metadata : ActionMetadata) (permitToken : GoString) : Prop :=
  Creates env request metadata permitToken repository ∧
    repository.step sha256Hex (.prepare request, env) =
      (.ok (preparedAnswer sha256Hex env request metadata permitToken), repository.enroll request.canonical
        (.preparing sha256Hex request.canonical metadata permitToken (env.clock 0)))

theorem step_prepare (repository : MemoryRepository) (env : Environment) (request : PrepareRequest) :
    ((repository.step sha256Hex (.prepare request, env)).2 = repository ∧
      ∀ result, (repository.step sha256Hex (.prepare request, env)).1 = .ok (.prepared result) →
        result.created = false) ∨
    ∃ metadata permitToken, CreatingStep sha256Hex repository env request metadata permitToken := by
  have hPrepare : Ends (Answer.prepared <$> prepare sha256Hex env request) repository (fun reply repository' =>
      (repository' = repository ∧ ∀ result, reply = .ok (.prepared result) → result.created = false) ∨
      ∃ metadata permitToken, Creates env request metadata permitToken repository ∧
        (reply, repository') = (.ok (preparedAnswer sha256Hex env request metadata permitToken),
          repository.enroll request.canonical
            (.preparing sha256Hex request.canonical metadata permitToken (env.clock 0)))) := by
    apply ends_map.mpr
    refine Ends.mono (prepare_outcome env request repository) ?_
    rintro reply repository' (⟨rfl, hCreated⟩ | ⟨metadata, permitToken, hCreates, rfl, rfl⟩)
    · refine .inl ⟨rfl, ?_⟩
      intro result hResult
      cases reply with
      | error => cases hResult
      | ok =>
        cases hResult
        exact hCreated result rfl
    · exact .inr ⟨metadata, permitToken, hCreates, rfl⟩
  exact hPrepare

theorem step_served {repository : MemoryRepository} {call : Call} {env : Environment} {α : Type} {body : Locked α}
    {f : α → Answer} (hBody : perform sha256Hex call env = f <$> body)
    (h : Ends body repository (Served sha256Hex env call repository)) :
    Served sha256Hex env call repository (repository.step sha256Hex (call, env)).1
      (repository.step sha256Hex (call, env)).2 := by
  have hMapped : Ends (f <$> body) repository (Served sha256Hex env call repository) :=
    ends_map.mpr (Ends.mono h (fun _ _ hReply => hReply.map))
  rw [← hBody] at hMapped
  exact hMapped

theorem step_outcome (repository : MemoryRepository) (call : Call) (env : Environment) :
    Served sha256Hex env call repository (repository.step sha256Hex (call, env)).1
        (repository.step sha256Hex (call, env)).2 ∨
    ∃ request metadata permitToken, call = .prepare request ∧
      CreatingStep sha256Hex repository env request metadata permitToken := by
  cases call with
  | prepare request =>
    rcases step_prepare repository env request with ⟨hSame, _⟩ | ⟨metadata, permitToken, hCreating⟩
    · left
      rw [hSame]
      exact .same
    · exact .inr ⟨request, metadata, permitToken, rfl, hCreating⟩
  | authorizeChildCreate request => exact .inl (step_served rfl (authorizeChildCreate_served request))
  | recordAnchor request => exact .inl (step_served rfl (recordAnchor_served request))
  | activate request => exact .inl (step_served rfl (activate_served request))
  | recordNoCredential request => exact .inl (step_served rfl (recordNoCredential_served request))
  | recoverPrepared limit => exact .inl (step_served rfl (recoverPrepared_served limit))
  | recoverManaged limit => exact .inl (step_served rfl (recoverManaged_served limit))
  | recoverManagedItem id actionID => exact .inl (step_served rfl (recoverManagedItem_served rfl 0 id actionID))
  | recoverExhausted limit => exact .inl (step_served rfl (recoverExhausted_served limit))
  | requestRevocation request => exact .inl (step_served rfl (requestRevocation_served request))
  | claimRevocations request => exact .inl (step_served rfl (claimRevocations_served request))
  | heartbeat request => exact .inl (step_served rfl (heartbeat_served request))
  | completeRevocation fence => exact .inl (step_served rfl (completeRevocation_served fence))
  | retryRevocation request => exact .inl (step_served rfl (retryRevocation_served request))
  | requireManual request => exact .inl (step_served rfl (requireManual_served request))
  | requeueManual request => exact .inl (step_served rfl (requeueManual_served request))
  | submitExternalConfirmation request => exact .inl (step_served rfl (submitExternalConfirmation_served request))
  | get id => exact .inl (step_served rfl (get_served id))
  | list filter => exact .inl (step_served rfl (list_served filter))

section Records

variable {repository : MemoryRepository} {call : Call} {env : Environment} {id : GoString}
  {record record' : MemoryRevocationRecord}

theorem step_kept (hRecord : repository.record? id = some record) :
    ∃ record', (repository.step sha256Hex (call, env)).2.record? id = some record' ∧
      Path sha256Hex env call id record record' := by
  have hOutcome : Served sha256Hex env call repository _ _ ∨ _ := step_outcome repository call env
  rcases hOutcome with hServed | ⟨request, _, _, rfl, hCreates, hStep⟩
  · exact hServed.moved.path id record hRecord
  · refine ⟨record, ?_, .refl⟩
    rw [hStep, record?_enroll, if_neg]
    · exact hRecord
    · rintro rfl
      cases hRecord.symm.trans hCreates.absent

theorem step_path (hRecord : repository.record? id = some record)
    (hRecord' : (repository.step sha256Hex (call, env)).2.record? id = some record') :
    Path sha256Hex env call id record record' := by
  obtain ⟨_, hLater, hPath⟩ := step_kept hRecord
  cases hRecord'.symm.trans hLater
  exact hPath

/-- The record a step leaves under a key comes from the one before it, or the step created it. -/
theorem step_origin (hRecord' : (repository.step sha256Hex (call, env)).2.record? id = some record') :
    (∃ record, repository.record? id = some record ∧ Path sha256Hex env call id record record') ∨
    repository.record? id = none ∧ ∃ request metadata permitToken, call = .prepare request ∧
      id = request.revocationID ∧ CreatingStep sha256Hex repository env request metadata permitToken ∧
      record' = .preparing sha256Hex request.canonical metadata permitToken (env.clock 0) := by
  cases hRecord : repository.record? id with
  | some record => exact .inl ⟨record, rfl, step_path hRecord hRecord'⟩
  | none =>
    have hOutcome : Served sha256Hex env call repository _ _ ∨ _ := step_outcome repository call env
    rcases hOutcome with hServed | ⟨request, metadata, permitToken, rfl, hCreating⟩
    · cases (hServed.moved.absent id hRecord).symm.trans hRecord'
    · rw [hCreating.2, record?_enroll, hRecord] at hRecord'
      split at hRecord'
      · rename_i hID
        cases hRecord'
        exact .inr ⟨rfl, request, metadata, permitToken, rfl, hID, hCreating, rfl⟩
      · cases hRecord'

end Records

end MemoryRepository

open MemoryRepository

/-- What holds of every record a run admits: a creation establishes it and every move keeps it. -/
structure RecordInvariant (sha256Hex : GoString → GoString) (admitted : Call × Environment → Prop)
    (P : GoString → MemoryRevocationRecord → Prop) : Prop where
  created : ∀ env request metadata permitToken, admitted (.prepare request, env) →
    prepareReads env request.canonical = .ok metadata →
    P request.revocationID (.preparing sha256Hex request.canonical metadata permitToken (env.clock 0))
  move : ∀ env call id record record', admitted (call, env) → Move sha256Hex env call id record record' →
    P id record → P id record'

namespace RecordInvariant

variable {sha256Hex : GoString → GoString} {admitted : Call × Environment → Prop}
  {P : GoString → MemoryRevocationRecord → Prop}

theorem unconstrained : RecordInvariant sha256Hex admitted (fun _ _ => True) where
  created := fun _ _ _ _ _ _ => trivial
  move := fun _ _ _ _ _ _ _ _ => trivial

section

variable (h : RecordInvariant sha256Hex admitted P)

include h

variable {env : Environment} {id : GoString} {record : MemoryRevocationRecord}

variable {record' : MemoryRevocationRecord} {call : Call} {repository : MemoryRepository}
  {inputs : List (Call × Environment)}

theorem path (hAdmitted : admitted (call, env))
    (hPath : Path sha256Hex env call id record record') (hRecord : P id record) : P id record' := by
  induction hPath with
  | refl => exact hRecord
  | tail _ hMove ih => exact h.move env call id _ _ hAdmitted hMove ih

theorem step {input : Call × Environment}
    (hAdmitted : admitted input) (hAll : ∀ id record, repository.record? id = some record → P id record) :
    ∀ id record, (repository.step sha256Hex input).2.record? id = some record → P id record := by
  intro id record' hRecord'
  obtain ⟨call, env⟩ := input
  rcases step_origin hRecord' with
    ⟨record, hRecord, hPath⟩ | ⟨_, request, metadata, permitToken, rfl, rfl, hCreating, rfl⟩
  · exact h.path hAdmitted hPath (hAll id record hRecord)
  · exact h.created env request metadata permitToken hAdmitted hCreating.1.reads

theorem stateAt (hInputs : ∀ input ∈ inputs, admitted input) (n : Nat) (id : GoString) (record : MemoryRevocationRecord)
    (hRecord : ((machine sha256Hex).stateAt inputs n).record? id = some record) : P id record := by
  have hAlong : (machine sha256Hex).Along (fun _ input => admitted input) inputs :=
    fun _ input hInput => hInputs input (List.mem_of_getElem? hInput)
  refine (machine sha256Hex).stateAt_of_along (P := fun repository =>
    ∀ id record, repository.record? id = some record → P id record) ?_ ?_ hAlong n id record hRecord
  · intro id record hNone
    cases hNone
  · intro repository input hAdmitted hAll
    exact h.step hAdmitted hAll

variable {R : MemoryRevocationRecord → MemoryRevocationRecord → Prop} (hRefl : ∀ record, R record record)
  (hTrans : ∀ first second third, R first second → R second third → R first third)

include hRefl hTrans

theorem path_related (hAdmitted : admitted (call, env))
    (hMove : ∀ record record', Move sha256Hex env call id record record' → P id record → R record record')
    (hPath : Path sha256Hex env call id record record') (hRecord : P id record) : R record record' := by
  induction hPath with
  | refl => exact hRefl _
  | @tail middle last hPath hStep ih =>
    exact hTrans _ _ _ ih (hMove middle last hStep (h.path hAdmitted hPath hRecord))

theorem step_related (hAdmitted : admitted (call, env))
    (hMove : ∀ id record record', Move sha256Hex env call id record record' → P id record → R record record')
    (hAll : ∀ id record, repository.record? id = some record → P id record)
    (hRecord : repository.record? id = some record) :
    ∃ record', (repository.step sha256Hex (call, env)).2.record? id = some record' ∧ R record record' := by
  obtain ⟨record', hRecord', hPath⟩ := step_kept hRecord
  exact ⟨record', hRecord', h.path_related hRefl hTrans hAdmitted (hMove id) hPath (hAll id record hRecord)⟩

theorem related (hMove : ∀ env call id record record', admitted (call, env) → Move sha256Hex env call id record record' →
      P id record → R record record') (hInputs : ∀ input ∈ inputs, admitted input) {m n : Nat} (hmn : m ≤ n)
    (hRecord : ((machine sha256Hex).stateAt inputs m).record? id = some record) :
    ∃ record', ((machine sha256Hex).stateAt inputs n).record? id = some record' ∧ R record record' := by
  induction hmn with
  | refl => exact ⟨record, hRecord, hRefl record⟩
  | @step n _ ih =>
    obtain ⟨middle, hMiddle, hFirst⟩ := ih
    cases hInput : inputs[n]? with
    | none =>
      rw [Machine.stateAt_succ_of_none _ hInput]
      exact ⟨middle, hMiddle, hFirst⟩
    | some input =>
      have hAdmitted := hInputs input (List.mem_of_getElem? hInput)
      obtain ⟨last, hLast, hSecond⟩ := h.step_related hRefl hTrans hAdmitted
        (fun id record record' hStep => hMove input.2 input.1 id record record' hAdmitted hStep)
        (h.stateAt hInputs n) hMiddle
      rw [Machine.stateAt_succ _ hInput]
      exact ⟨last, hLast, hTrans _ _ _ hFirst hSecond⟩

end

end RecordInvariant

/-- What `Prepare` writes and nothing changes afterwards. -/
structure PreparedFields where
  (id actionID : GoString)
  actionLeaseEpoch : Int
  runnerID : GoString
  (credentialTTLSeconds credentialExpiresAt createdAt : Int)
  (actionTokenSHA256 childCreatePermitSHA256 : GoString)

def MemoryRevocationRecord.preparedFields (record : MemoryRevocationRecord) : PreparedFields where
  id := record.revocation.id
  actionID := record.revocation.actionID
  actionLeaseEpoch := record.revocation.actionLeaseEpoch
  runnerID := record.revocation.runnerID
  credentialTTLSeconds := record.revocation.credentialTTLSeconds
  credentialExpiresAt := record.revocation.credentialExpiresAt
  createdAt := record.revocation.createdAt
  actionTokenSHA256 := record.actionTokenSHA256
  childCreatePermitSHA256 := record.childCreatePermitSHA256

variable {record record' : MemoryRevocationRecord} {sha256Hex : GoString → GoString} {env : Environment} {call : Call}

open MemoryRevocationRecord in
theorem Move.preparedFields_eq {id : GoString} (h : Move sha256Hex env call id record record') :
    record'.preparedFields = record.preparedFields := by
  cases h with
  | retry =>
    unfold retrying
    split <;> simp only [preparedFields, claimFailed, requiringManual, failing, clearActiveClaim, bump]
  | manual | exhaust | poison =>
    simp only [preparedFields, exhausted, poisoned, claimFailed, requiringManual, failing, clearActiveClaim, bump]
  | complete => simp only [preparedFields, completed, clearActiveClaim, clearProtectedReference, bump]
  | confirmLast => simp only [preparedFields, externallyRevoked, clearProtectedReference, confirmed, bump]
  | _ => rfl

theorem Path.preparedFields_eq {id : GoString} (h : Path sha256Hex env call id record record') :
    record'.preparedFields = record.preparedFields := by
  induction h with
  | refl => rfl
  | tail _ hMove ih => exact hMove.preparedFields_eq.trans ih

theorem keyed_invariant (sha256Hex : GoString → GoString) :
    RecordInvariant sha256Hex (fun _ => True) (fun id record => record.revocation.id = id) where
  created := fun _ _ _ _ _ _ => rfl
  move := by
    intro _ _ id record _ _ hMove hKeyed
    exact (congrArg PreparedFields.id hMove.preparedFields_eq).trans hKeyed

end AiopsSystem.Credential
