import AiopsSystem.Execution.Fencing

/-! # Idempotent submissions

The queue finds a record by its action id and by the pair of workspace and
idempotency key. Both indexes are built together and never change, and the
request hash covers the pair, so two requests with one hash meet in one record.
-/

namespace AiopsSystem.Execution

open Go AiopsSystem.Action ExecutionLease MemoryActionQueue Option

def semanticEnvelope (envelope : Envelope) : Envelope :=
  { envelope with actionID := [], planHash := [], traceID := [], signature := {} }

/-- Two submissions that differ at most in action id, plan hash, trace id and signature. -/
def SameRequest (submission submission' : ActionSubmission) : Prop :=
  semanticEnvelope submission'.envelope = semanticEnvelope submission.envelope ∧
    submission'.targetKey = submission.targetKey ∧
    submission'.environmentRevision = submission.environmentRevision ∧
    submission'.production = submission.production ∧ submission'.pool = submission.pool

instance (submission submission' : ActionSubmission) : Decidable (SameRequest submission submission') :=
  inferInstanceAs (Decidable (_ ∧ _))

/-- The hash is injective on the canonical form of these requests, and the canonical form keeps the value of a
document: valid requests with one hash have documents of one value. -/
def HashSeparates (codec : Codec) (requests : List ActionSubmission) : Prop :=
  ∀ submission ∈ requests, ∀ submission' ∈ requests, validateActionSubmission submission = .ok () →
    validateActionSubmission submission' = .ok () → ∀ requestHash,
    requestSemanticHash codec submission = .ok requestHash → requestSemanticHash codec submission' = .ok requestHash →
    (semanticDocument submission).map Json.value = (semanticDocument submission').map Json.value

/-- The requests a run submits. -/
def submissions (inputs : List (Call × Environment)) : List ActionSubmission :=
  inputs.filterMap fun input => match input.1 with
    | .submit submission => some submission
    | _ => none

def idempotencyKey (submission : ActionSubmission) : GoString :=
  scopeBindingKey submission.envelope.workspaceID submission.envelope.idempotencyKey

variable {submission submission' : ActionSubmission} {value : GoString} {document : Json}

theorem SameRequest.hash_eq (codec : Codec) (h : SameRequest submission submission') :
    requestSemanticHash codec submission' = requestSemanticHash codec submission := by
  obtain ⟨hEnvelope, hTarget, hRevision, hProduction, hPool⟩ := h
  unfold semanticEnvelope at hEnvelope
  simp only [requestSemanticHash, semanticDocument, hEnvelope, hTarget, hRevision, hProduction, hPool]

theorem SameRequest.idempotencyKey_eq (h : SameRequest submission submission') :
    idempotencyKey submission' = idempotencyKey submission := by
  have hWorkspace := congrArg Envelope.workspaceID h.1
  have hKey := congrArg Envelope.idempotencyKey h.1
  simp only [semanticEnvelope] at hWorkspace hKey
  simp only [idempotencyKey, hWorkspace, hKey]

theorem checked_of_validateActionSubmission {submission : ActionSubmission}
    (h : validateActionSubmission submission = .ok ()) : submission.envelope.Checked := by
  have hVisit : ∀ field, field ∈ Envelope.TokenField.all := by
    intro field
    cases field <;> decide
  unfold validateActionSubmission at h
  split at h
  · rename_i hEnvelope
    exact Envelope.validate_checked hVisit hEnvelope
  · cases h

theorem validToken_ascii (h : validToken value) : ∀ b ∈ value, b < 0x80 := by
  simp only [validToken, Bool.and_eq_true] at h
  intro b hb
  have hRange := isIdentifierByte_range (matchesIdentifier_all h.2 b hb)
  exact UInt8.lt_iff_toNat_lt.mpr hRange.2

theorem document_pair {envelope envelope' : Envelope} {document' : Json}
    (h : envelope.document = some document) (h' : envelope'.document = some document')
    (hValue : document.value = document'.value) :
    decodeRunes envelope.workspaceID = decodeRunes envelope'.workspaceID ∧
      decodeRunes envelope.idempotencyKey = decodeRunes envelope'.idempotencyKey := by
  simp only [Envelope.document, bind_eq_bind, bind_eq_some_iff, pure_def, some.injEq] at h h'
  obtain ⟨_, _, _, _, rfl⟩ := h
  obtain ⟨_, _, _, _, rfl⟩ := h'
  simp only [Json.object, Json.text, List.foldr_cons, Json.value, Json.objectCell.injEq, Json.str.injEq, true_and]
    at hValue
  obtain ⟨_, _, hWorkspace, _, _, _, _, _, _, _, _, _, _, _, _, _, hKey, _⟩ := hValue
  exact ⟨hWorkspace, hKey⟩

theorem idempotencyKey_of_value
    (hValid : validateActionSubmission submission = .ok ()) (hValid' : validateActionSubmission submission' = .ok ())
    {document' : Json} (h : semanticDocument submission = some document)
    (h' : semanticDocument submission' = some document') (hValue : document.value = document'.value) :
    idempotencyKey submission = idempotencyKey submission' := by
  have hChecked := checked_of_validateActionSubmission hValid
  have hChecked' := checked_of_validateActionSubmission hValid'
  simp only [semanticDocument, bind_eq_bind, bind_eq_some_iff, pure_def, some.injEq] at h h'
  obtain ⟨_, hInner, rfl⟩ := h
  obtain ⟨_, hInner', rfl⟩ := h'
  simp only [Json.object, List.foldr_cons, Json.value, Json.objectCell.injEq, true_and] at hValue
  obtain ⟨hWorkspace, hKey⟩ := document_pair hInner hInner' hValue.1
  have hSameWorkspace := decodeRunes_inj_of_ascii (validToken_ascii hChecked.workspaceID)
    (validToken_ascii hChecked'.workspaceID) hWorkspace
  have hSameKey := decodeRunes_inj_of_ascii (validToken_ascii hChecked.idempotencyKey)
    (validToken_ascii hChecked'.idempotencyKey) hKey
  simp only [idempotencyKey, hSameWorkspace, hSameKey]

namespace MemoryActionQueue

/-- Both indexes lead to the record of a submission, and only to records that were submitted. -/
structure Indexed (codec : Codec) (queue : MemoryActionQueue) : Prop where
  actionID : queue.EveryRecord (fun id record => record.submission.envelope.actionID = id)
  valid : queue.EveryRecord (fun _ record => validateActionSubmission record.submission = .ok ())
  hash : queue.EveryRecord (fun _ record => requestSemanticHash codec record.submission = .ok record.requestHash)
  own : queue.EveryRecord (fun id record => queue.idempotency.get? (idempotencyKey record.submission) = some id)
  bound : ∀ key id, queue.idempotency.get? key = some id →
    ∃ record, queue.record? id = some record ∧ key = idempotencyKey record.submission

section Steps

variable {codec : Codec} {env : Environment} {queue queue' : MemoryActionQueue}

theorem submission_invariant (codec : Codec) :
    RecordInvariant codec (fun _ => True) (fun id record => record.submission.envelope.actionID = id ∧
      validateActionSubmission record.submission = .ok () ∧
      requestSemanticHash codec record.submission = .ok record.requestHash) where
  submitted := fun _ _ _ hValid hHash => ⟨rfl, hValid, hHash⟩
  moved := by
    intro _ _ _ _ _ _ record record' _ hMove _
    have hSubmission : record'.submission = record.submission := congrArg RecordIdentity.submission hMove.identity_eq
    have hHash : record'.requestHash = record.requestHash := congrArg RecordIdentity.requestHash hMove.identity_eq
    rwa [hSubmission, hHash]

variable {id : GoString}

variable {label : Option Call} {key : GoString} {submission : ActionSubmission} {requestHash : GoString}
  {execution : Execution}

theorem lookup_write (hWrite : Write codec env label queue queue')
    (h : queue.idempotency.get? key = some id) : queue'.idempotency.get? key = some id := by
  cases hWrite with
  | move => exact h
  | @enroll _ submission _ _ _ _ hUnbound =>
    have hNe : key ≠ scopeBindingKey submission.envelope.workspaceID submission.envelope.idempotencyKey := by
      rintro rfl
      rw [hUnbound] at h
      cases h
    rw [enroll, GoMap.get?_insert, if_neg hNe]
    exact h

theorem Indexed.write (h : queue.Indexed codec) (hWrite : Write codec env label queue queue') :
    queue'.Indexed codec := by
  have hBefore : queue.EveryRecord (fun id record => record.submission.envelope.actionID = id ∧
      validateActionSubmission record.submission = .ok () ∧
      requestSemanticHash codec record.submission = .ok record.requestHash) :=
    fun id record hRecord => ⟨h.actionID id record hRecord, h.valid id record hRecord, h.hash id record hRecord⟩
  have hAfter := (submission_invariant codec).write_any hWrite hBefore
  refine ⟨fun id record hRecord => (hAfter id record hRecord).1, fun id record hRecord => (hAfter id record hRecord).2.1,
    fun id record hRecord => (hAfter id record hRecord).2.2, ?_, ?_⟩
  · intro id record hLookup
    cases hWrite with
    | move hRecord hMove =>
      rcases GoMap.get?_insert_cases hLookup with ⟨rfl, rfl⟩ | ⟨_, hLookup⟩
      · have hSubmission : record.submission = _ := congrArg RecordIdentity.submission hMove.identity_eq
        rw [hSubmission]
        exact h.own _ _ hRecord
      · exact h.own id record hLookup
    | @enroll _ submission requestHash hValid hHash hFresh hUnbound =>
      rcases GoMap.get?_insert_cases hLookup with ⟨rfl, rfl⟩ | ⟨_, hLookup⟩
      · rw [enroll, GoMap.get?_insert]
        exact if_pos rfl
      · exact lookup_write (.enroll hValid hHash hFresh hUnbound) (h.own id record hLookup)
  · intro key id hLookup
    cases hWrite with
    | @move _ _ moved before after hRecord hMove =>
      obtain ⟨record, hFound, hKey⟩ := h.bound key id hLookup
      by_cases hId : id = moved
      · subst hId
        rw [hRecord] at hFound
        cases hFound
        have hSubmission : after.submission = before.submission :=
          congrArg RecordIdentity.submission hMove.identity_eq
        exact ⟨after, by simp, by rw [hKey, hSubmission]⟩
      · exact ⟨record, by simp [hId, hFound], hKey⟩
    | @enroll _ submission requestHash _ _ hFresh hUnbound =>
      rcases GoMap.get?_insert_cases hLookup with ⟨hKey, rfl⟩ | ⟨_, hLookup⟩
      · exact ⟨.submitted submission requestHash env.clock, by rw [record?_enroll, if_pos rfl], hKey⟩
      · obtain ⟨record, hFound, hKey⟩ := h.bound key id hLookup
        have hId : id ≠ submission.envelope.actionID := by
          rintro rfl
          rw [hFresh] at hFound
          cases hFound
        exact ⟨record, by rw [record?_enroll, if_neg hId, hFound], hKey⟩

theorem stateAt_indexed (codec : Codec) (inputs : List (Call × Environment)) (n : Nat) :
    ((machine codec).stateAt inputs n).Indexed codec := by
  apply (machine codec).stateAt_invariant
  · constructor <;> intro _ _ hLookup <;> cases hLookup
  · intro _ _ hQueue
    exact step_invariant (fun _ _ _ _ hWrite hBefore => Indexed.write hBefore hWrite) hQueue

theorem stateAt_lookup (codec : Codec) (inputs : List (Call × Environment)) {m n : Nat} (hmn : m ≤ n)
    (h : ((machine codec).stateAt inputs m).idempotency.get? key = some id) :
    ((machine codec).stateAt inputs n).idempotency.get? key = some id := by
  refine (machine codec).stateAt_related (P := fun _ => True)
    (R := fun before after => before.idempotency.get? key = some id → after.idempotency.get? key = some id)
    (fun _ _ => trivial) (fun _ h => h) (fun _ _ _ h h' hBound => h' (h hBound)) ?_ inputs hmn h
  intro queue _ _ hBound
  exact step_invariant (P := fun queue => queue.idempotency.get? key = some id)
    (fun _ _ _ _ hWrite hBefore => lookup_write hWrite hBefore) hBound

theorem stateAt_identity (codec : Codec) (inputs : List (Call × Environment)) {m n : Nat} (hmn : m ≤ n) :
    RecordsRelated (fun record record' => record'.identity = record.identity)
      ((machine codec).stateAt inputs m) ((machine codec).stateAt inputs n) :=
  (keyed_invariant codec).related (R := fun record record' => record'.identity = record.identity) (fun _ => rfl)
    (fun _ _ _ h h' => h'.trans h) (fun _ _ _ _ _ _ hMove _ => hMove.identity_eq) inputs hmn

theorem stateAt_submitted (codec : Codec) (inputs : List (Call × Environment)) (n : Nat) :
    ((machine codec).stateAt inputs n).EveryRecord (fun _ record => record.submission ∈ submissions inputs) := by
  have hAlong : (machine codec).Along (fun _ input => input ∈ inputs) inputs :=
    fun _ _ hInput => List.mem_of_getElem? hInput
  refine (machine codec).stateAt_of_along (P := EveryRecord fun _ record => record.submission ∈ submissions inputs)
    ?_ ?_ hAlong n
  · intro _ _ hLookup
    cases hLookup
  · rintro queue ⟨call, env⟩ hInput hQueue
    refine step_invariant (fun label before after hLabel hWrite hBefore => ?_) hQueue
    intro id record hLookup
    cases hWrite with
    | move hRecord hMove =>
      rcases GoMap.get?_insert_cases hLookup with ⟨rfl, rfl⟩ | ⟨_, hLookup⟩
      · have hSubmission : record.submission = _ := congrArg RecordIdentity.submission hMove.identity_eq
        rw [hSubmission]
        exact hBefore _ _ hRecord
      · exact hBefore id record hLookup
    | enroll =>
      rcases GoMap.get?_insert_cases hLookup with ⟨rfl, rfl⟩ | ⟨_, hLookup⟩
      · rcases hLabel with hLabel | hLabel <;> cases hLabel
        exact List.mem_filterMap.mpr ⟨_, hInput, rfl⟩
      · exact hBefore id record hLookup

variable {record : MemoryActionRecord} {requests : List ActionSubmission}

theorem Indexed.eq_of_pair (h : queue.Indexed codec) {id' : GoString} {record' : MemoryActionRecord}
    (hRecord : queue.record? id = some record) (hRecord' : queue.record? id' = some record')
    (hPair : idempotencyKey record.submission = idempotencyKey record'.submission) : id = id' := by
  have hOwn : queue.idempotency.get? (idempotencyKey record.submission) = some id := h.own id record hRecord
  have hOwn' : queue.idempotency.get? (idempotencyKey record'.submission) = some id' := h.own id' record' hRecord'
  rw [hPair, hOwn'] at hOwn
  exact (some.inj hOwn).symm

theorem requestSemanticHash_document
    (h : requestSemanticHash codec submission = .ok requestHash) :
    ∃ document, semanticDocument submission = some document := by
  simp only [requestSemanticHash, bind_eq_ok, orFail_eq_ok] at h
  obtain ⟨document, hDocument, _⟩ := h
  exact ⟨document, hDocument⟩

theorem idempotencyKey_of_hash (hSeparates : HashSeparates codec requests) {submission submission' : ActionSubmission}
    (hMem : submission ∈ requests) (hMem' : submission' ∈ requests)
    (hValid : validateActionSubmission submission = .ok ()) (hValid' : validateActionSubmission submission' = .ok ())
    (h : requestSemanticHash codec submission = .ok requestHash)
    (h' : requestSemanticHash codec submission' = .ok requestHash) :
    idempotencyKey submission = idempotencyKey submission' := by
  obtain ⟨_, hDocument⟩ := requestSemanticHash_document h
  obtain ⟨_, hDocument'⟩ := requestSemanticHash_document h'
  have hValue := hSeparates _ hMem _ hMem' hValid hValid' _ h h'
  rw [hDocument, hDocument', map_some, map_some] at hValue
  exact idempotencyKey_of_value hValid hValid' hDocument hDocument' (some.inj hValue)

theorem step_submitted (hKeyed : queue.Keyed) (h : queue.Indexed codec)
    (hReply : (queue.step codec (.submit submission, env)).1 = .ok (.execution execution)) :
    validateActionSubmission submission = .ok () ∧ ∃ record requestHash,
      (queue.step codec (.submit submission, env)).2.record? execution.executionID = some record ∧
      requestSemanticHash codec submission = .ok requestHash ∧ record.requestHash = requestHash := by
  rcases step_cases codec queue (.submit submission) env with ⟨⟨_, hError⟩, _⟩ | ⟨_, hOk, hPerform⟩
  · rw [hReply] at hError
    cases hError
  · rw [hReply] at hOk
    cases hOk
    rw [opened_of_sweepGuard_none rfl] at hPerform
    obtain ⟨_, hSubmit, hValue⟩ := answering_eq_ok.mp hPerform
    cases hValue
    obtain ⟨hValid, requestHash, hHash, hSubmitted⟩ := submit_submitted hSubmit
    refine ⟨hValid, ?_⟩
    generalize (queue.step codec (.submit submission, env)).2 = queue' at hSubmitted
    cases hSubmitted with
    | @sameAction existing hRecord hSame =>
      refine ⟨existing, requestHash, ?_, hHash, hSame⟩
      change queue.record? existing.execution.executionID = some existing
      rw [hKeyed _ _ hRecord, hRecord]
    | @sameKey existingID hFresh hBound hSame =>
      obtain ⟨existing, hRecord, _⟩ := h.bound _ _ hBound
      rw [hRecord] at hSame ⊢
      refine ⟨existing, requestHash, ?_, hHash, hSame⟩
      change queue.record? existing.execution.executionID = some existing
      rw [hKeyed _ _ hRecord, hRecord]
    | created =>
      exact ⟨_, requestHash, by rw [record?_enroll]; exact if_pos rfl, hHash, rfl⟩

theorem step_submit_ok (h : queue.submit codec env submission = .ok (execution, queue')) :
    queue.step codec (.submit submission, env) = (.ok (.execution execution), queue') := by
  simp only [step, opened_of_sweepGuard_none (show (Call.submit submission).sweepGuard = none from rfl), perform,
    answering, h, Except.map]

theorem step_submit_error {failure : QueueError} (h : queue.submit codec env submission = .error failure) :
    queue.step codec (.submit submission, env) = (.error failure, queue) := by
  simp only [step, opened_of_sweepGuard_none (show (Call.submit submission).sweepGuard = none from rfl), perform,
    answering, h, Except.map]

section Forward

variable {submission : ActionSubmission} {requestHash : GoString} (hContext : env.contextDone = false)
  (hClock : env.clock ≠ 0) (hValid : validateActionSubmission submission = .ok ())
  (hHash : requestSemanticHash codec submission = .ok requestHash)

include hContext hClock hValid hHash

theorem submit_created (hFresh : queue.record? submission.envelope.actionID = none)
    (hUnbound : queue.idempotency.get? (idempotencyKey submission) = none) :
    queue.submit codec env submission =
      .ok ((MemoryActionRecord.submitted submission requestHash env.clock).execution,
        queue.enroll submission requestHash env.clock) := by
  rw [idempotencyKey] at hUnbound
  simp only [submit, Environment.now, require_of hContext, require_of hClock, hValid, hHash, ok_bind, pure, Except.pure,
    hFresh, hUnbound]
  rfl

variable {existing : MemoryActionRecord}

theorem submit_sameAction (hRecord : queue.record? submission.envelope.actionID = some existing)
    (hSame : existing.requestHash = requestHash) :
    queue.submit codec env submission = .ok (redactActionExecution existing.execution, queue) := by
  simp only [submit, Environment.now, require_of hContext, require_of hClock, hValid, hHash, ok_bind, pure, Except.pure,
    hRecord, require_of hSame]

theorem submit_jobConflict (hRecord : queue.record? submission.envelope.actionID = some existing)
    (hDifferent : existing.requestHash ≠ requestHash) : queue.submit codec env submission = .error .jobConflict := by
  simp only [submit, Environment.now, require_of hContext, require_of hClock, hValid, hHash, ok_bind, pure, Except.pure,
    hRecord, require_of_not hDifferent, error_bind]

theorem submit_sameKey {existingID : GoString} (hFresh : queue.record? submission.envelope.actionID = none)
    (hBound : queue.idempotency.get? (idempotencyKey submission) = some existingID)
    (hRecord : queue.record? existingID = some existing) (hSame : existing.requestHash = requestHash) :
    queue.submit codec env submission = .ok (redactActionExecution existing.execution, queue) := by
  rw [idempotencyKey] at hBound
  simp only [submit, Environment.now, require_of hContext, require_of hClock, hValid, hHash, ok_bind, pure, Except.pure,
    hFresh, hBound, hRecord, map_some, getD_some, require_of hSame]

end Forward

theorem submit_retry (hSeparates : HashSeparates codec requests) (h : queue.Indexed codec)
    (hStored : queue.EveryRecord fun _ record => record.submission ∈ requests) (hRecord : queue.record? id = some record)
    (hValid : validateActionSubmission submission = .ok ()) (hContext : env.contextDone = false) (hClock : env.clock ≠ 0)
    (hHash : requestSemanticHash codec submission = .ok record.requestHash)
    (hPair : idempotencyKey submission = idempotencyKey record.submission)
    (hFree : ∀ other, queue.record? submission.envelope.actionID = some other → submission.envelope.actionID ≠ id →
      other.requestHash = record.requestHash) :
    queue.submit codec env submission = .ok (redactActionExecution record.execution, queue) := by
  cases hAction : queue.record? submission.envelope.actionID with
  | some other =>
    by_cases hId : submission.envelope.actionID = id
    · rw [hId, hRecord] at hAction
      cases hAction
      rw [← hId] at hRecord
      exact submit_sameAction hContext hClock hValid hHash hRecord rfl
    · -- One hash means one pair, so the action id is bound to the same record after all.
      have hOther : requestSemanticHash codec other.submission = .ok other.requestHash := h.hash _ _ hAction
      rw [hFree other hAction hId] at hOther
      have hKey := idempotencyKey_of_hash hSeparates (hStored _ _ hRecord) (hStored _ _ hAction) (h.valid _ _ hRecord)
        (h.valid _ _ hAction) (h.hash _ _ hRecord) hOther
      exact absurd (h.eq_of_pair hRecord hAction hKey).symm hId
  | none =>
    have hOwn : queue.idempotency.get? (idempotencyKey record.submission) = some id := h.own _ _ hRecord
    rw [← hPair] at hOwn
    exact submit_sameKey hContext hClock hValid hHash hAction hOwn hRecord rfl

theorem submit_conflict (env : Environment) (hSeparates : HashSeparates codec (submission :: requests))
    (h : queue.Indexed codec) (hStored : queue.EveryRecord fun _ record => record.submission ∈ requests)
    (hRecord : queue.record? id = some record)
    (hBound : submission.envelope.actionID = id ∨ idempotencyKey submission = idempotencyKey record.submission)
    (hHash : requestSemanticHash codec submission ≠ .ok record.requestHash) :
    ∃ failure, queue.submit codec env submission = .error failure := by
  cases hSubmit : queue.submit codec env submission with
  | error failure => exact ⟨failure, rfl⟩
  | ok result =>
    obtain ⟨_, _⟩ := result
    obtain ⟨hValid, requestHash, hOther, hSubmitted⟩ := submit_submitted hSubmit
    exfalso
    have hNe : requestHash ≠ record.requestHash := by
      rintro rfl
      exact hHash hOther
    rcases hBound with hId | hPair
    · subst hId
      cases hSubmitted with
      | sameAction hFound hSame =>
        rw [hRecord] at hFound
        cases hFound
        exact hNe hSame.symm
      | sameKey hFresh | created hFresh =>
        rw [hRecord] at hFresh
        cases hFresh
    · have hOwn : queue.idempotency.get? (idempotencyKey record.submission) = some id := h.own _ _ hRecord
      rw [← hPair, idempotencyKey] at hOwn
      cases hSubmitted with
      | @sameAction existing hFound hSame =>
        -- The record under the action id has this hash, hence this pair, hence it is the bound record.
        have hExisting : requestSemanticHash codec existing.submission = .ok existing.requestHash := h.hash _ _ hFound
        rw [hSame] at hExisting
        have hKey := idempotencyKey_of_hash hSeparates (List.mem_cons_of_mem _ (hStored _ _ hFound)) List.mem_cons_self
          (h.valid _ _ hFound) hValid hExisting hOther
        have hId := h.eq_of_pair hFound hRecord (hKey.trans hPair)
        rw [hId, hRecord] at hFound
        cases hFound
        exact hNe hSame.symm
      | sameKey _ hFound hSame =>
        rw [hOwn] at hFound
        cases hFound
        rw [hRecord] at hSame
        exact hNe hSame.symm
      | created _ hUnbound =>
        rw [hOwn] at hUnbound
        cases hUnbound

end Steps

/-- Each action id and each pair of workspace and idempotency key keeps one record for ever; a retry of an
accepted submission answers with its record and writes nothing, unless its action id belongs to another
request; a different request under a bound id or pair is refused and changes nothing. -/
theorem submissions_idempotent (codec : Codec) (inputs : List (Call × Environment)) :
    (∀ n id id' record record', ((machine codec).stateAt inputs n).record? id = some record →
      ((machine codec).stateAt inputs n).record? id' = some record' →
      record.submission.envelope.actionID = record'.submission.envelope.actionID ∨
        record.submission.envelope.workspaceID = record'.submission.envelope.workspaceID ∧
          record.submission.envelope.idempotencyKey = record'.submission.envelope.idempotencyKey →
      id = id') ∧
    (∀ m n id record, m ≤ n → ((machine codec).stateAt inputs m).record? id = some record →
      record.submission.envelope.actionID = id ∧
      ((machine codec).stateAt inputs m).idempotency.get? (idempotencyKey record.submission) = some id ∧
      ((machine codec).stateAt inputs n).idempotency.get? (idempotencyKey record.submission) = some id ∧
      ∃ record', ((machine codec).stateAt inputs n).record? id = some record' ∧
        record'.submission = record.submission ∧ record'.execution.executionID = id) ∧
    (∀ m n submission env execution, inputs[m]? = some (.submit submission, env) →
      (((machine codec).stateAt inputs m).step codec (.submit submission, env)).1 = .ok (.execution execution) →
      m < n → ∃ record, ((machine codec).stateAt inputs n).record? execution.executionID = some record ∧
        record.execution.executionID = execution.executionID ∧
        (∀ retry env', HashSeparates codec (submissions inputs) → SameRequest submission retry →
          validateActionSubmission retry = .ok () →
          env'.contextDone = false → env'.clock ≠ 0 →
          (∀ other, ((machine codec).stateAt inputs n).record? retry.envelope.actionID = some other →
            retry.envelope.actionID ≠ execution.executionID → other.requestHash = record.requestHash) →
          ((machine codec).stateAt inputs n).step codec (.submit retry, env') =
            (.ok (.execution (redactActionExecution record.execution)), (machine codec).stateAt inputs n)) ∧
        (∀ other env', HashSeparates codec (other :: submissions inputs) →
          other.envelope.actionID = execution.executionID ∨
            other.envelope.workspaceID = submission.envelope.workspaceID ∧
              other.envelope.idempotencyKey = submission.envelope.idempotencyKey →
          requestSemanticHash codec other ≠ requestSemanticHash codec submission →
          ∃ failure, ((machine codec).stateAt inputs n).step codec (.submit other, env') =
            (.error failure, (machine codec).stateAt inputs n))) := by
  have hIndexed := stateAt_indexed codec inputs
  have hMember := stateAt_submitted codec inputs
  have hKeyed : ∀ n, ((machine codec).stateAt inputs n).Keyed :=
    fun n => (keyed_invariant codec).stateAt (fun _ _ => trivial) n
  refine ⟨?_, ?_, ?_⟩
  · rintro n id id' record record' hRecord hRecord' (hAction | ⟨hWorkspace, hKey⟩)
    · have hFirst : record.submission.envelope.actionID = id := (hIndexed n).actionID _ _ hRecord
      have hSecond : record'.submission.envelope.actionID = id' := (hIndexed n).actionID _ _ hRecord'
      rw [← hFirst, hAction, hSecond]
    · refine (hIndexed n).eq_of_pair hRecord hRecord' ?_
      simp only [idempotencyKey, hWorkspace, hKey]
  · intro m n id record hmn hRecord
    have hOwn := (hIndexed m).own id record hRecord
    obtain ⟨record', hRecord', hIdentity⟩ := stateAt_identity codec inputs hmn id record hRecord
    exact ⟨(hIndexed m).actionID _ _ hRecord, hOwn, stateAt_lookup codec inputs hmn hOwn, record', hRecord',
      congrArg RecordIdentity.submission hIdentity, hKeyed n _ _ hRecord'⟩
  · intro m n submission env execution hInput hReply hmn
    obtain ⟨hValid, created, requestHash, hCreated, hHash, hStored⟩ :=
      step_submitted (hKeyed m) (hIndexed m) hReply
    rw [← stateAt_step hInput] at hCreated
    obtain ⟨record, hRecord, hIdentity⟩ :=
      stateAt_identity codec inputs (Nat.succ_le_of_lt hmn) _ created hCreated
    have hRecordHash : record.requestHash = requestHash :=
      (congrArg RecordIdentity.requestHash hIdentity).trans hStored
    rw [← hRecordHash] at hHash
    have hKey : HashSeparates codec (submissions inputs) →
        idempotencyKey submission = idempotencyKey record.submission := fun hSeparates =>
      idempotencyKey_of_hash hSeparates (List.mem_filterMap.mpr ⟨_, List.mem_of_getElem? hInput, rfl⟩)
        (hMember n _ _ hRecord) hValid ((hIndexed n).valid _ _ hRecord) hHash ((hIndexed n).hash _ _ hRecord)
    refine ⟨record, hRecord, hKeyed n _ _ hRecord, ?_, ?_⟩
    · intro retry env' hSeparates hSame hRetry hContext hClock hFree
      have hRetryHash := (hSame.hash_eq codec).trans hHash
      have hPair := hSame.idempotencyKey_eq.trans (hKey hSeparates)
      exact step_submit_ok (submit_retry hSeparates (hIndexed n) (hMember n) hRecord hRetry hContext hClock hRetryHash
        hPair hFree)
    · intro other env' hSeparates hReuse hDifferent
      rw [hHash] at hDifferent
      have hFewer : HashSeparates codec (submissions inputs) := fun first hFirst second hSecond =>
        hSeparates first (List.mem_cons_of_mem _ hFirst) second (List.mem_cons_of_mem _ hSecond)
      have hBound : other.envelope.actionID = execution.executionID ∨
          idempotencyKey other = idempotencyKey record.submission := by
        rcases hReuse with hAction | ⟨hWorkspace, hOtherKey⟩
        · exact .inl hAction
        · right
          rw [← hKey hFewer]
          simp only [idempotencyKey, hWorkspace, hOtherKey]
      obtain ⟨failure, hFailure⟩ := submit_conflict env' hSeparates (hIndexed n) (hMember n) hRecord hBound hDifferent
      exact ⟨failure, step_submit_error hFailure⟩

section Sample

def firstHash : GoString := ascii "ef785405331c050661e861a692831a19dbdd50321033b4ab5a09b2e61af3333d"

def secondHash : GoString := ascii "42469551d969311e9994c0d5aa1f2e069490acf5e6622fc31113d08f971df20f"

theorem requestSemanticHash_first :
    requestSemanticHash sampleCodec (sampleSubmission "action-1" "restart-1" .read) = .ok firstHash := by
  decide +kernel

theorem requestSemanticHash_second :
    requestSemanticHash sampleCodec (sampleSubmission "action-2" "restart-2" .read) = .ok secondHash := by
  decide +kernel

/-- The two requests of the sample run have different hashes, and a retry of the first has its document. -/
theorem sample_separates : HashSeparates sampleCodec
    (sampleSubmission "action-2" "restart-1" .read :: submissions sampleRun) := by
  have hSame : SameRequest (sampleSubmission "action-1" "restart-1" .read)
      (sampleSubmission "action-2" "restart-1" .read) := by decide +kernel
  have hRetry := (hSame.hash_eq sampleCodec).trans requestSemanticHash_first
  have hDocument : semanticDocument (sampleSubmission "action-2" "restart-1" .read) =
      semanticDocument (sampleSubmission "action-1" "restart-1" .read) := by decide +kernel
  have hDiffer : firstHash ≠ secondHash := by decide
  intro submission hMem submission' hMem' _ _ requestHash hHash hHash'
  simp only [submissions, sampleRun, List.filterMap_cons, List.filterMap_nil, List.mem_cons, List.not_mem_nil, or_false]
    at hMem hMem'
  rcases hMem with rfl | rfl | rfl <;> rcases hMem' with rfl | rfl | rfl <;>
    simp_all [requestSemanticHash_first, requestSemanticHash_second]

def sampleQueue : MemoryActionQueue :=
  (newMemoryActionQueue.enroll (sampleSubmission "action-1" "restart-1" .read) firstHash sampleClock).enroll
    (sampleSubmission "action-2" "restart-2" .read) secondHash sampleClock

theorem sample_submit_first :
    ((machine sampleCodec).stateAt sampleRun 0).step sampleCodec
        (.submit (sampleSubmission "action-1" "restart-1" .read), sampleEnvironment sampleClock) =
      (.ok (.execution (MemoryActionRecord.submitted (sampleSubmission "action-1" "restart-1" .read) firstHash
          sampleClock).execution),
        newMemoryActionQueue.enroll (sampleSubmission "action-1" "restart-1" .read) firstHash sampleClock) :=
  step_submit_ok (submit_created rfl (by decide) (by decide +kernel) requestSemanticHash_first rfl rfl)

theorem sample_stateAt_two : (machine sampleCodec).stateAt sampleRun 2 = sampleQueue := by
  rw [stateAt_step (show sampleRun[1]? = some _ from rfl), stateAt_step (show sampleRun[0]? = some _ from rfl),
    sample_submit_first]
  exact congrArg Prod.snd (step_submit_ok (submit_created rfl (by decide) (by decide +kernel)
    requestSemanticHash_second (by decide +kernel) (by decide +kernel)))

end Sample

/-- A retry that takes over the action id of another request is refused, although it is the same request. -/
theorem retry_under_taken_action_id_conflicts :
    HashSeparates sampleCodec (sampleSubmission "action-2" "restart-1" .read :: submissions sampleRun) ∧
      (∃ execution, (((machine sampleCodec).stateAt sampleRun 0).step sampleCodec
        (.submit (sampleSubmission "action-1" "restart-1" .read), sampleEnvironment sampleClock)).1 =
          .ok (.execution execution)) ∧
      SameRequest (sampleSubmission "action-1" "restart-1" .read) (sampleSubmission "action-2" "restart-1" .read) ∧
      validateActionSubmission (sampleSubmission "action-2" "restart-1" .read) = .ok () ∧
      ((machine sampleCodec).stateAt sampleRun 2).step sampleCodec
        (.submit (sampleSubmission "action-2" "restart-1" .read), sampleEnvironment sampleClock) =
          (.error .jobConflict, (machine sampleCodec).stateAt sampleRun 2) := by
  have hSame : SameRequest (sampleSubmission "action-1" "restart-1" .read)
      (sampleSubmission "action-2" "restart-1" .read) := by decide +kernel
  have hValid : validateActionSubmission (sampleSubmission "action-2" "restart-1" .read) = .ok () := by
    decide +kernel
  have hTaken : sampleQueue.record? (ascii "action-2") =
      some (.submitted (sampleSubmission "action-2" "restart-2" .read) secondHash sampleClock) := by
    rw [sampleQueue, record?_enroll]
    exact if_pos rfl
  refine ⟨sample_separates, ⟨_, congrArg Prod.fst sample_submit_first⟩, hSame, hValid, ?_⟩
  rw [sample_stateAt_two]
  exact step_submit_error (submit_jobConflict rfl (by decide) hValid
    ((hSame.hash_eq _).trans requestSemanticHash_first) hTaken (by decide))

theorem submissions_idempotent_restart :
    ∃ record, ((machine sampleCodec).stateAt sampleRun 2).record? (ascii "action-1") = some record ∧
      ((machine sampleCodec).stateAt sampleRun 2).step sampleCodec
          (.submit (sampleSubmission "action-3" "restart-1" .read), sampleEnvironment sampleClock) =
        (.ok (.execution (redactActionExecution record.execution)),
          (machine sampleCodec).stateAt sampleRun 2) := by
  obtain ⟨_, _, hRetry⟩ := submissions_idempotent sampleCodec sampleRun
  obtain ⟨record, hRecord, _, hSame, _⟩ :=
    hRetry 0 2 _ _ _ rfl (congrArg Prod.fst sample_submit_first) (by decide)
  have hFree : ((machine sampleCodec).stateAt sampleRun 2).record? (ascii "action-3") = none := by
    rw [sample_stateAt_two]
    decide +kernel
  have hSeparates : HashSeparates sampleCodec (submissions sampleRun) := fun first hFirst second hSecond =>
    sample_separates first (List.mem_cons_of_mem _ hFirst) second (List.mem_cons_of_mem _ hSecond)
  refine ⟨record, hRecord, hSame _ _ hSeparates (by decide +kernel) (by decide +kernel) rfl (by decide) ?_⟩
  intro _ hOther _
  exact absurd (hFree.symm.trans hOther) nofun

end MemoryActionQueue

end AiopsSystem.Execution
