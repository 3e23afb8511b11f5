import AiopsSystem.Investigations.RepositoryWrites

/-! # The sections and their writes

One lemma for each write-locked section: an error leaves the records as they
are, an answer to a first request comes with one write that binds the key of
the request, and the same request is answered from the key from then on.
-/

namespace AiopsSystem.Investigations

open Go Go.Section List GoMap

def Answer.resourceIDs : Answer → List GoString
  | .registered _ => []
  | .correlated result => (result.incident.map Incident.id).toList
  | .investigation item tasks _ => item.id :: tasks.map ReadTask.id
  | .completedTask task evidence receipt _ => task.id :: receipt.id :: (evidence.map Evidence.id).toList
  | .startedModel item _ => [item.id]
  | .finalized item hypotheses _ => item.id :: hypotheses.map Hypothesis.id
  | .failed item _ => [item.id]
  | .feedback record _ => [record.id]

/-- The key is bound to an operation and a request hash, and the request is answered with these resources. -/
structure Binds (repository : Repository) (operation : Operation) (key : ScopeKey) (requestHash : GoString)
    (resourceIDs : List GoString) : Prop where
  owner : repository.idempotencyOwners.get? key = some operation
  record : ∃ answer, repository.recorded operation key = some (requestHash, .ok answer) ∧
    answer.resourceIDs = resourceIDs

def Settles (operation : Operation) (key : ScopeKey) (requestHash : GoString) (repository : Repository)
    (reply : Reply) (repository' : Repository) : Prop :=
  match reply with
  | .error _ => Quiet repository repository'
  | .ok answer => Written repository repository' ∧ Binds repository' operation key requestHash answer.resourceIDs ∧
      repository'.signalIncident = repository.signalIncident

theorem Write.written {repository repository' : Repository} (h : Write repository repository') :
    Written repository repository' := ⟨repository, .inl rfl, h⟩

section Identifiers

variable {env : Environment}

variable {index : Nat}

theorem newID_eq_ok {id : GoString} (h : newID env index = .ok id) : id ≠ [] := by
  unfold newID at h
  simp only [bind_eq_ok, require_eq_ok] at h
  obtain ⟨_, hValid, hSame⟩ := h
  cases hSame
  exact ne_nil_of_validResourceID hValid

structure FreshIDs {α : Type} (taken : GoString → Bool) (check : α → Except RepositoryError Unit) (seen : List GoString)
    (items : List α) (ids : List GoString) : Prop where
  length : ids.length = items.length
  nodup : ids.Nodup
  fresh : ∀ id ∈ ids, taken id = false ∧ id ∉ seen
  checked : ∀ item ∈ items, check item = .ok ()

theorem newIDs_eq_ok {α : Type} {taken : GoString → Bool} {check : α → Except RepositoryError Unit}
    {seen : List GoString} {items : List α} {ids : List GoString}
    (h : newIDs env taken check index seen items = .ok ids) : FreshIDs taken check seen items ids := by
  induction items generalizing index seen ids with
  | nil =>
    cases h
    exact ⟨rfl, .nil, nofun, nofun⟩
  | cons _ _ ih =>
    simp only [newIDs, bind_eq_ok, require_eq_ok] at h
    obtain ⟨id, _, _, ⟨hTaken, hSeen⟩, _, hCheck, _, hRest, hSame⟩ := h
    cases hSame
    have hIDs := ih hRest
    refine ⟨congrArg (· + 1) hIDs.length, nodup_cons.mpr ⟨?_, hIDs.nodup⟩, ?_, ?_⟩
    · exact fun hMem => (hIDs.fresh id hMem).2 mem_cons_self
    · intro other hOther
      cases hOther with
      | head => exact ⟨hTaken, hSeen⟩
      | tail _ hOther => exact ⟨(hIDs.fresh other hOther).1, fun hMem => (hIDs.fresh other hOther).2 (.tail _ hMem)⟩
    · intro other hOther
      cases hOther with
      | head => exact hCheck
      | tail _ hOther => exact hIDs.checked other hOther

end Identifiers

section Tasks

variable {encoding : Encoding} {repository : Repository}

theorem tasksOf_eq_some {workspaceID investigationID : GoString} {tasks : List ReadTask} :
    repository.tasksOf workspaceID investigationID = some tasks ↔
      List.Forall₂ (fun taskID task => repository.tasks.get? (scopeKey workspaceID taskID) = some task)
        ((repository.taskIDsByInvestigation.get? (scopeKey workspaceID investigationID)).getD []) tasks :=
  mapM_eq_some

variable {candidates : List ReadTask} {commitAt : Int}

theorem cancelledTaskCandidates_eq_ok {workspaceID investigationID failureCode : GoString}
    (h : repository.cancelledTaskCandidates encoding workspaceID investigationID failureCode commitAt = .ok candidates) :
    ∃ tasks, repository.tasksOf workspaceID investigationID = some tasks ∧
      candidates = tasks.map (stoppedTask failureCode commitAt) := by
  unfold Repository.cancelledTaskCandidates at h
  simp only [bind_eq_ok, orFail_eq_ok] at h
  obtain ⟨tasks, hTasks, hCandidates⟩ := h
  refine ⟨tasks, hTasks, ?_⟩
  have hEach := mapM_eq_ok.mp hCandidates
  clear hCandidates hTasks
  induction hEach with
  | nil => rfl
  | @cons task candidate _ _ hTask _ ih =>
    have hCandidate : candidate = stoppedTask failureCode commitAt task := by
      unfold stoppedTask
      cases hPending : task.pending with
      | false =>
        simp only [hPending, Bool.false_eq_true, if_false] at hTask ⊢
        cases hTask
        rfl
      | true =>
        simp only [hPending, if_true, bind_eq_ok, require_eq_ok] at hTask ⊢
        obtain ⟨_, _, hSame⟩ := hTask
        cases hSame
        rfl
    rw [map_cons, ih, hCandidate]

theorem finalization_ending {request : FinalizeInvestigationRequest} {item : Investigation}
    (hSemantics : validFinalizationSemantics request) (hDerived : checkDerivedStatus repository request item = .ok ())
    (hCandidates : (if request.status = .cancelled then
        repository.cancelledTaskCandidates encoding request.workspaceID item.id request.failureCode commitAt
      else .ok []) = .ok candidates) : Ending repository request.workspaceID item request.status candidates := by
  by_cases hCancelled : request.status = .cancelled
  · rw [if_pos hCancelled] at hCandidates
    obtain ⟨tasks, hTasks, rfl⟩ := cancelledTaskCandidates_eq_ok hCandidates
    exact .stopped _ _ (.inr hCancelled) hTasks
  · rw [if_neg hCancelled] at hCandidates
    cases hCandidates
    have hStatus : request.status = .completed ∨ request.status = .partially := by
      unfold validFinalizationSemantics at hSemantics
      cases h : request.status <;> simp_all
    simp only [checkDerivedStatus, if_pos hStatus, bind_eq_ok, orFail_eq_ok, require_eq_ok] at hDerived
    obtain ⟨tasks, hTasks, _, hEnded, hSame⟩ := hDerived
    rw [hSame]
    refine .settled hTasks fun task hTask => ?_
    simpa using all_eq_true.mp hEnded task hTask

end Tasks

/-! ## What is recorded under a key -/

section Recorded

variable {repository : Repository} {key : ScopeKey} {requestHash : GoString} {answer : Answer}

theorem recorded_create_iff :
    repository.recorded .createInvestigation key = some (requestHash, .ok answer) ↔
      ∃ record item tasks, repository.investigationIdempotency.get? key = some record ∧
        record.requestHash = requestHash ∧
        repository.investigations.get? (scopeKey key.workspaceID record.resourceID) = some item ∧
        repository.tasksOf key.workspaceID record.resourceID = some tasks ∧ answer = .investigation item tasks false := by
  simp only [Repository.recorded, Repository.investigationResult, Option.map_eq_some_iff, Prod.mk.injEq]
  constructor
  · rintro ⟨record, hRecord, hHash, hReply⟩
    cases hItem : repository.investigations.get? (scopeKey key.workspaceID record.resourceID) with
    | none => simp [hItem, orFail, Except.map] at hReply
    | some item =>
      cases hTasks : repository.tasksOf key.workspaceID record.resourceID with
      | none => simp [hItem, hTasks, orFail, Except.map] at hReply
      | some tasks =>
        simp only [hItem, hTasks, orFail_some, ok_bind] at hReply
        cases hReply
        exact ⟨record, item, tasks, hRecord, hHash, hItem, hTasks, rfl⟩
  · rintro ⟨record, item, tasks, hRecord, hHash, hItem, hTasks, rfl⟩
    refine ⟨record, hRecord, hHash, ?_⟩
    simp only [hItem, hTasks, orFail_some, ok_bind]
    rfl

theorem recorded_start_iff :
    repository.recorded .startModel key = some (requestHash, .ok answer) ↔
      ∃ record, repository.modelStartIdempotency.get? key = some record ∧ record.requestHash = requestHash ∧
        answer = .startedModel record.item true := by
  simp only [Repository.recorded, Option.map_eq_some_iff, Prod.mk.injEq, Except.ok.injEq, @eq_comm _ answer]

theorem recorded_finalize_iff :
    repository.recorded .finalizeInvestigation key = some (requestHash, .ok answer) ↔
      ∃ record, repository.finalizeIdempotency.get? key = some record ∧ record.requestHash = requestHash ∧
        answer = .finalized record.item record.hypotheses true := by
  simp only [Repository.recorded, Option.map_eq_some_iff, Prod.mk.injEq, Except.ok.injEq, @eq_comm _ answer]

theorem recorded_fail_iff :
    repository.recorded .failInvestigation key = some (requestHash, .ok answer) ↔
      ∃ record item, repository.failureIdempotency.get? key = some record ∧ record.requestHash = requestHash ∧
        repository.investigations.get? (scopeKey key.workspaceID record.resourceID) = some item ∧
        answer = .failed item true := by
  simp only [Repository.recorded, Option.map_eq_some_iff, Prod.mk.injEq, bind_eq_ok, orFail_eq_ok]
  constructor
  · rintro ⟨record, hRecord, hHash, item, hItem, hAnswer⟩
    cases hAnswer
    exact ⟨record, item, hRecord, hHash, hItem, rfl⟩
  · rintro ⟨record, item, hRecord, hHash, hItem, rfl⟩
    exact ⟨record, hRecord, hHash, item, hItem, rfl⟩

theorem recorded_feedback_iff :
    repository.recorded .recordFeedback key = some (requestHash, .ok answer) ↔
      ∃ record feedback, repository.feedbackIdempotency.get? key = some record ∧ record.requestHash = requestHash ∧
        repository.feedback.get? (scopeKey key.workspaceID record.resourceID) = some feedback ∧
        answer = .feedback feedback false := by
  simp only [Repository.recorded, Option.map_eq_some_iff, Prod.mk.injEq, bind_eq_ok, orFail_eq_ok]
  constructor
  · rintro ⟨record, hRecord, hHash, feedback, hFeedback, hAnswer⟩
    cases hAnswer
    exact ⟨record, feedback, hRecord, hHash, hFeedback, rfl⟩
  · rintro ⟨record, feedback, hRecord, hHash, hFeedback, rfl⟩
    exact ⟨record, hRecord, hHash, feedback, hFeedback, rfl⟩

def EvidenceAt (repository : Repository) (workspaceID evidenceID : GoString) : Option Evidence → Prop
  | none => evidenceID = []
  | some evidence => evidenceID ≠ [] ∧ repository.evidence.get? (scopeKey workspaceID evidenceID) = some evidence

theorem taskCompletionResult_eq_ok {workspaceID : GoString} {record : TaskCompletionRecord} {replayed : Bool} :
    repository.taskCompletionResult workspaceID record replayed = .ok answer ↔
      ∃ task receipt evidence, repository.tasks.get? (scopeKey workspaceID record.taskID) = some task ∧
        repository.receipts.get? (scopeKey workspaceID record.receiptID) = some receipt ∧
        EvidenceAt repository workspaceID record.evidenceID evidence ∧
        answer = .completedTask task evidence receipt replayed := by
  simp only [Repository.taskCompletionResult, bind_eq_ok, orFail_eq_ok]
  by_cases hNone : record.evidenceID = []
  · simp only [if_pos hNone]
    constructor
    · rintro ⟨task, hTask, receipt, hReceipt, hAnswer⟩
      cases hAnswer
      exact ⟨task, receipt, none, hTask, hReceipt, hNone, rfl⟩
    · rintro ⟨task, receipt, evidence, hTask, hReceipt, hEvidence, rfl⟩
      cases evidence with
      | none => exact ⟨task, hTask, receipt, hReceipt, rfl⟩
      | some => exact absurd hNone hEvidence.1
  · simp only [if_neg hNone, bind_eq_ok, orFail_eq_ok]
    constructor
    · rintro ⟨task, hTask, receipt, hReceipt, evidence, hEvidence, hAnswer⟩
      cases hAnswer
      exact ⟨task, receipt, some evidence, hTask, hReceipt, ⟨hNone, hEvidence⟩, rfl⟩
    · rintro ⟨task, receipt, evidence, hTask, hReceipt, hEvidence, rfl⟩
      cases evidence with
      | none => exact absurd hEvidence hNone
      | some evidence => exact ⟨task, hTask, receipt, hReceipt, evidence, hEvidence.2, rfl⟩

theorem recorded_complete_iff :
    repository.recorded .completeTask key = some (requestHash, .ok answer) ↔
      ∃ record task receipt evidence, repository.taskCompletionIdempotency.get? key = some record ∧
        record.requestHash = requestHash ∧
        repository.tasks.get? (scopeKey key.workspaceID record.taskID) = some task ∧
        repository.receipts.get? (scopeKey key.workspaceID record.receiptID) = some receipt ∧
        EvidenceAt repository key.workspaceID record.evidenceID evidence ∧
        answer = .completedTask task evidence receipt true := by
  simp only [Repository.recorded, Option.map_eq_some_iff, Prod.mk.injEq, taskCompletionResult_eq_ok]
  constructor
  · rintro ⟨record, hRecord, hHash, task, receipt, evidence, h⟩
    exact ⟨record, task, receipt, evidence, hRecord, hHash, h⟩
  · rintro ⟨record, task, receipt, evidence, hRecord, hHash, h⟩
    exact ⟨record, hRecord, hHash, task, receipt, evidence, h⟩

end Recorded

section Sections

variable {encoding : Encoding} {env : Environment} {repository : Repository}

variable {requestHash : GoString} {receiptID : GoString} {evidence : Option Evidence} {taskIDs : List GoString}
  {start : Repository} {signal : Signal} {tenantID : GoString}

theorem startModelOnce_settles {request : StartModelRequest}
    (hFree : repository.Free .startModel (scopeKey request.workspaceID request.idempotencyKey)) :
    Ends (startModelOnce env request requestHash repository) repository
      (Settles .startModel (scopeKey request.workspaceID request.idempotencyKey) requestHash repository) := by
  unfold startModelOnce
  refine .found (.inl rfl) fun item hItem => ?_
  refine .ensure (.inl rfl) fun hStatus => ?_
  refine .found (.inl rfl) fun tasks hTasks => ?_
  refine .ensure (.inl rfl) fun hEnded => ?_
  refine .attempt (fun _ _ => .inl rfl) fun commitAt _ => ?_
  refine .ensure (.inl rfl) fun _ => ?_
  refine .set (.pure ⟨?_, ?_, rfl⟩)
  · exact (Write.start request requestHash item tasks commitAt hFree hItem hStatus hTasks
      (all_eq_true.mp hEnded)).written
  · exact ⟨get?_insert_self, _, recorded_start_iff.mpr ⟨_, get?_insert_self, rfl, rfl⟩, rfl⟩

theorem failInvestigationOnce_settles {request : FailInvestigationRequest}
    (hFree : repository.Free .failInvestigation (scopeKey request.workspaceID request.idempotencyKey))
    (hKeyed : GoMap.Keyed (fun item => scopeKey item.workspaceID item.id) repository.investigations) :
    Ends (failInvestigationOnce encoding env request requestHash repository) repository
      (Settles .failInvestigation (scopeKey request.workspaceID request.idempotencyKey) requestHash repository) := by
  unfold failInvestigationOnce
  refine .found (.inl rfl) fun item hItem => ?_
  refine .ensure (.inl rfl) fun hActive => ?_
  refine .attempt (fun _ _ => .inl rfl) fun commitAt _ => ?_
  refine .attempt (fun _ _ => .inl rfl) fun _ hCandidates => ?_
  refine .ensure (.inl rfl) fun _ => ?_
  obtain ⟨_, hTasks, rfl⟩ := cancelledTaskCandidates_eq_ok hCandidates
  refine .set (.pure ⟨?_, ?_, rfl⟩)
  · exact (Write.failure request requestHash item _ commitAt hFree hItem hActive
      (.stopped _ _ (.inl rfl) hTasks)).written
  · have hID : request.investigationID = item.id := (congrArg ScopeKey.resourceID (hKeyed _ _ hItem)).symm
    refine ⟨get?_insert_self, _, recorded_fail_iff.mpr ⟨_, _, get?_insert_self, rfl, ?_, rfl⟩, rfl⟩
    unfold Repository.storeFailed
    rw [hID]
    exact get?_insert_self

variable {incident : Incident} {commitAt : Int}

theorem judged_eq_ok {incident' : Incident} {hypothesis hypothesis' : Hypothesis} {request : RecordFeedbackRequest}
    (h : judged encoding incident hypothesis request commitAt = .ok (incident', hypothesis')) :
    Judgement incident hypothesis incident' hypothesis' := by
  unfold judged at h
  cases hVerdict : request.verdict with
  | confirmed =>
    simp only [hVerdict, confirmRootCause, bind_eq_ok, require_eq_ok] at h
    obtain ⟨_, ⟨_, hNone⟩, _, _, _, ⟨hValid, hProposed⟩, _, _, _, _, _, ⟨_, hNext⟩, hSame⟩ := h
    cases hSame
    refine .confirmed commitAt hNone hProposed ?_ hNext
    unfold Hypothesis.valid at hValid
    simp only [Bool.and_eq_true] at hValid
    exact ne_nil_of_validResourceID (by tauto)
  | rejected =>
    simp only [hVerdict, bind_eq_ok, require_eq_ok] at h
    obtain ⟨_, hProposed, hSame⟩ := h
    cases hSame
    exact .rejected hProposed
  | inconclusive | other =>
    simp only [hVerdict] at h
    cases h
    exact .inconclusive

theorem recordFeedbackOnce_settles {request : RecordFeedbackRequest} {details requestHash : GoString}
    (hFree : repository.Free .recordFeedback (scopeKey request.workspaceID request.idempotencyKey)) :
    Ends (recordFeedbackOnce encoding env request details requestHash repository) repository
      (Settles .recordFeedback (scopeKey request.workspaceID request.idempotencyKey) requestHash repository) := by
  unfold recordFeedbackOnce
  refine .found (.inl rfl) fun incident hIncident => ?_
  refine .found (.inl rfl) fun _ _ => ?_
  refine .found (.inl rfl) fun hypothesis hHypothesis => ?_
  refine .ensure (.inl rfl) fun hScope => ?_
  refine .attempt (fun _ _ => .inl rfl) fun _ _ => ?_
  refine .ensure (.inl rfl) fun hNew => ?_
  refine .attempt (fun _ _ => .inl rfl) fun _ _ => ?_
  refine .ensure (.inl rfl) fun _ => ?_
  refine .attempt (fun _ _ => .inl rfl) fun (incident', hypothesis') hJudged => ?_
  refine .set (.pure ⟨?_, ?_, rfl⟩)
  · exact (Write.feedback request requestHash incident incident' hypothesis hypothesis' _ hFree hIncident hHypothesis
      hScope.2.1 hNew rfl (judged_eq_ok hJudged)).written
  · exact ⟨get?_insert_self, _, recorded_feedback_iff.mpr ⟨_, _, get?_insert_self, rfl, get?_insert_self, rfl⟩, rfl⟩

variable {item : Investigation}

theorem newHypotheses {request : FinalizeInvestigationRequest} {specs : List HypothesisSpec} {ids : List GoString}
    (h : FreshIDs (fun id => (repository.hypotheses.get? (scopeKey request.workspaceID id)).isSome)
      (checkCitedEvidence repository request.workspaceID item) [] specs ids) :
    NewHypotheses repository request.workspaceID item ((ids.zip specs).map (fun (id, spec) =>
      createdHypothesis item request.workspaceID id spec commitAt)) := by
  have hMem : ∀ hypothesis ∈ (ids.zip specs).map (fun (id, spec) =>
      createdHypothesis item request.workspaceID id spec commitAt), ∃ id ∈ ids, ∃ spec ∈ specs,
      hypothesis = createdHypothesis item request.workspaceID id spec commitAt := by
    intro hypothesis hHypothesis
    obtain ⟨⟨id, spec⟩, hPair, rfl⟩ := mem_map.mp hHypothesis
    exact ⟨id, (of_mem_zip hPair).1, spec, (of_mem_zip hPair).2, rfl⟩
  have hIDs : ((ids.zip specs).map (fun (id, spec) =>
      createdHypothesis item request.workspaceID id spec commitAt)).map Hypothesis.id = ids := by
    rw [map_map]
    exact map_fst_zip (le_of_eq h.length)
  refine ⟨by rw [hIDs]; exact h.nodup, ?_, ?_, ?_, ?_, ?_⟩
  · intro hypothesis hHypothesis
    obtain ⟨id, hID, _, _, rfl⟩ := hMem hypothesis hHypothesis
    exact Option.not_isSome_iff_eq_none.mp (Bool.eq_false_iff.mp (h.fresh id hID).1)
  · intro hypothesis hHypothesis
    obtain ⟨_, _, _, _, rfl⟩ := hMem hypothesis hHypothesis
    rfl
  · intro hypothesis hHypothesis
    obtain ⟨_, _, _, _, rfl⟩ := hMem hypothesis hHypothesis
    exact ⟨rfl, rfl⟩
  · intro hypothesis hHypothesis
    obtain ⟨_, _, _, _, rfl⟩ := hMem hypothesis hHypothesis
    rfl
  · intro hypothesis hHypothesis evidenceID hEvidenceID
    obtain ⟨_, _, spec, hSpec, rfl⟩ := hMem hypothesis hHypothesis
    have hCited := forM_eq_ok.mp (h.checked spec hSpec) evidenceID hEvidenceID
    simp only [bind_eq_ok, orFail_eq_ok, require_eq_ok] at hCited
    exact hCited

theorem finalizeInvestigationOnce_settles {request : FinalizeInvestigationRequest} {canonical : List HypothesisSpec}
    (hFree : repository.Free .finalizeInvestigation (scopeKey request.workspaceID request.idempotencyKey))
    (hSemantics : validFinalizationSemantics request) :
    Ends (finalizeInvestigationOnce encoding env request canonical requestHash repository) repository
      (Settles .finalizeInvestigation (scopeKey request.workspaceID request.idempotencyKey) requestHash repository) := by
  unfold finalizeInvestigationOnce
  refine .found (.inl rfl) fun item hItem => ?_
  refine .ensure (.inl rfl) fun hActive => ?_
  refine .ensure (.inl rfl) fun hModel => ?_
  refine .attempt (fun _ _ => .inl rfl) fun _ hDerived => ?_
  refine .attempt (fun _ _ => .inl rfl) fun _ hIDs => ?_
  refine .attempt (fun _ _ => .inl rfl) fun commitAt _ => ?_
  refine .attempt (fun _ _ => .inl rfl) fun candidates hCandidates => ?_
  refine .ensure (.inl rfl) fun _ => ?_
  refine .ensure (.inl rfl) fun _ => ?_
  refine .set (.pure ⟨?_, ?_, rfl⟩)
  · exact (Write.finalization request requestHash item candidates _ commitAt hFree hItem hActive hModel
      (finalization_ending hSemantics hDerived hCandidates) (newHypotheses (newIDs_eq_ok hIDs))).written
  · exact ⟨get?_insert_self, _, recorded_finalize_iff.mpr ⟨_, get?_insert_self, rfl, rfl⟩, rfl⟩

variable {evidenceID : GoString}

theorem completionIDs_eq_ok {request : CompleteTaskRequest}
    (h : completionIDs env repository request = .ok (evidenceID, receiptID)) :
    repository.receipts.get? (scopeKey request.workspaceID receiptID) = none ∧
      (request.status = .evidence → evidenceID ≠ [] ∧
        repository.evidence.get? (scopeKey request.workspaceID evidenceID) = none) ∧
      (request.status ≠ .evidence → evidenceID = []) := by
  unfold completionIDs at h
  by_cases hStatus : request.status = .evidence
  · simp only [if_pos hStatus, bind_eq_ok, require_eq_ok] at h
    obtain ⟨_, hID, _, hFresh, _, _, _, hReceipt, hSame⟩ := h
    cases hSame
    exact ⟨hReceipt, fun _ => ⟨newID_eq_ok hID, hFresh⟩, fun hNot => absurd hStatus hNot⟩
  · simp only [if_neg hStatus, bind_eq_ok, require_eq_ok] at h
    obtain ⟨_, _, _, hReceipt, hSame⟩ := h
    cases hSame
    exact ⟨hReceipt, fun hIs => absurd hIs hStatus, fun _ => rfl⟩

variable {task : ReadTask}

theorem completion_of_body {request : CompleteTaskRequest} (hBody : validCompletionBody encoding request)
    (hIDs : completionIDs env repository request = .ok (evidenceID, receiptID))
    (hEvidence : completionEvidence encoding request item task evidenceID commitAt = .ok evidence) :
    Completion repository request item task commitAt evidenceID evidence := by
  obtain ⟨_, hWith, hWithout⟩ := completionIDs_eq_ok hIDs
  unfold completionEvidence at hEvidence
  unfold validCompletionBody at hBody
  cases hInput : request.evidence with
  | none =>
    have hStatus : request.status = .failed ∨ request.status = .cancelled := by
      cases h : request.status <;> simp_all
    simp only [hInput] at hEvidence
    cases hEvidence
    have hNot : request.status ≠ .evidence := by
      rintro hIs
      rw [hIs] at hStatus
      rcases hStatus with h | h <;> cases h
    cases hWithout hNot
    exact .without hStatus
  | some input =>
    have hStatus : request.status = .evidence := by
      cases h : request.status <;> simp_all
    simp only [hInput, bind_eq_ok, require_eq_ok] at hEvidence
    obtain ⟨_, _, _, _, hSame⟩ := hEvidence
    cases hSame
    exact .evidence input evidenceID hStatus (hWith hStatus).1 (hWith hStatus).2

theorem Completion.stored {request : CompleteTaskRequest}
    (h : Completion repository request item task commitAt evidenceID evidence) (requestHash receiptID : GoString) :
    let stored := repository.storeCompleted (scopeKey request.workspaceID request.idempotencyKey) requestHash
      (advancedInvestigation item commitAt) (completedTask task request evidenceID commitAt) evidence
      (completionReceipt request item task evidence receiptID commitAt)
    stored.tasks.get? (scopeKey request.workspaceID task.id) = some (completedTask task request evidenceID commitAt) ∧
      stored.receipts.get? (scopeKey request.workspaceID receiptID) =
        some (completionReceipt request item task evidence receiptID commitAt) ∧
      EvidenceAt stored request.workspaceID evidenceID evidence := by
  refine ⟨get?_insert_self, get?_insert_self, ?_⟩
  cases h with
  | evidence _ _ _ hID => exact ⟨hID, get?_insert_self⟩
  | without => rfl

theorem completeTaskOnce_settles {request : CompleteTaskRequest}
    (hFree : repository.Free .completeTask (scopeKey request.workspaceID request.idempotencyKey))
    (hBody : validCompletionBody encoding request) :
    Ends (completeTaskOnce encoding env request requestHash repository) repository
      (Settles .completeTask (scopeKey request.workspaceID request.idempotencyKey) requestHash repository) := by
  unfold completeTaskOnce
  refine .found (.inl rfl) fun item hItem => ?_
  refine .found (.inl rfl) fun task hTask => ?_
  refine .ensure (.inl rfl) fun hOwner => ?_
  refine .ensure (.inl rfl) fun hPending => ?_
  refine .ensure (.inl rfl) fun hActive => ?_
  refine .attempt (fun _ _ => .inl rfl) fun (evidenceID, receiptID) hIDs => ?_
  refine .attempt (fun _ _ => .inl rfl) fun commitAt _ => ?_
  refine .attempt (fun _ _ => .inl rfl) fun evidence hEvidence => ?_
  iterate 3 refine .ensure (.inl rfl) (fun _ => ?_)
  have hCompletion := completion_of_body hBody hIDs hEvidence
  have hWrite := Write.completion request requestHash receiptID evidenceID item task evidence commitAt hFree hItem hTask
    hOwner hPending hActive hCompletion (completionIDs_eq_ok hIDs).1
  refine .set (.get ?_)
  -- The three records that the answer reads were written just before.
  have hRead := hCompletion.stored requestHash receiptID
  unfold Ends Section.exec attempt
  rw [taskCompletionResult_eq_ok.mpr ⟨_, _, evidence, hRead.1, hRead.2.1, hRead.2.2, rfl⟩]
  exact ⟨hWrite.written, ⟨get?_insert_self, _, recorded_complete_iff.mpr
    ⟨_, _, _, evidence, get?_insert_self, rfl, hRead.1, hRead.2.1, hRead.2.2, rfl⟩, rfl⟩, rfl⟩

variable {request : CreateOrGetInvestigationRequest} {scope : TaskSpecScope} {investigationID : GoString}

theorem createdTask_eq_ok {taskID : GoString} {position : Int} {spec : TaskSpec} {components : TaskRuntimeComponents}
    (h : createdTask encoding request scope investigationID commitAt taskID spec components position = .ok task) :
    task.id = taskID ∧ task.workspaceID = request.workspaceID ∧ task.investigationID = investigationID ∧
      task.status = .queued ∧ task.evidenceID = [] := by
  simp only [createdTask, bind_eq_ok, require_eq_ok] at h
  obtain ⟨_, _, _, _, hSame⟩ := h
  cases hSame
  exact ⟨rfl, rfl, rfl, rfl, rfl⟩

variable {tasks : List ReadTask}

theorem createdTasks_names {pairs : List (TaskSpec × TaskRuntimeComponents)} {start : Nat}
    (h : List.Forall₂ (fun entry task => createdTask encoding request scope investigationID commitAt entry.1.1
      entry.1.2.1 entry.1.2.2 (entry.2 + 1) = .ok task) ((taskIDs.zip pairs).zipIdx start) tasks) :
    (tasks.map ReadTask.id).Sublist taskIDs ∧ ∀ task ∈ tasks, task.workspaceID = request.workspaceID ∧
      task.investigationID = investigationID ∧ task.status = .queued ∧ task.evidenceID = [] := by
  induction taskIDs generalizing pairs tasks start with
  | nil =>
    cases h
    exact ⟨.slnil, nofun⟩
  | cons taskID _ ih =>
    cases pairs with
    | nil =>
      cases h
      exact ⟨nil_sublist _, nofun⟩
    | cons =>
      rw [zip_cons_cons, zipIdx_cons] at h
      obtain ⟨task, tasks, hFirst, hRest, rfl⟩ := forall₂_cons_left_iff.mp h
      obtain ⟨hNames, hOthers⟩ := ih hRest
      obtain ⟨hID, hTask⟩ := createdTask_eq_ok hFirst
      constructor
      · rw [map_cons, hID]
        exact hNames.cons_cons taskID
      · intro other hOther
        cases hOther with
        | head => exact hTask
        | tail _ hOther => exact hOthers other hOther

variable {specs : List TaskSpec} {components : List TaskRuntimeComponents}

theorem newTasks (requestHash : GoString)
    (hIDs : FreshIDs (fun id => (repository.tasks.get? (scopeKey request.workspaceID id)).isSome) (fun _ => .ok ())
      [] specs taskIDs)
    (hTasks : (taskIDs.zip (specs.zip components)).zipIdx.mapM (fun ((taskID, spec, components), index) =>
      createdTask encoding request scope investigationID commitAt taskID spec components (index + 1)) = .ok tasks) :
    NewTasks repository request.workspaceID (newInvestigation request requestHash investigationID commitAt) tasks := by
  obtain ⟨hNames, hEach⟩ := createdTasks_names (mapM_eq_ok.mp hTasks)
  refine ⟨hNames.nodup hIDs.nodup, ?_, ?_, ?_, ?_⟩
  · intro task hTask
    have hMem : task.id ∈ taskIDs := hNames.subset (mem_map_of_mem hTask)
    exact Option.not_isSome_iff_eq_none.mp (Bool.eq_false_iff.mp (hIDs.fresh _ hMem).1)
  · exact fun task hTask => (hEach task hTask).1
  · exact fun task hTask => (hEach task hTask).2.1
  · exact fun task hTask => (hEach task hTask).2.2

theorem NewTasks.stored {workspaceID : GoString} (h : NewTasks repository workspaceID item tasks) {key : ScopeKey}
    (hKey : key.workspaceID = workspaceID) (requestHash : GoString) (incident : Incident) :
    (repository.storeCreated key requestHash incident item tasks).tasksOf workspaceID item.id = some tasks := by
  have hIDs : ((repository.storeCreated key requestHash incident item tasks).taskIDsByInvestigation.get?
      (scopeKey workspaceID item.id)).getD [] = tasks.map ReadTask.id := by
    subst hKey
    exact congrArg (Option.getD · []) get?_insert_self
  have hKeys : (tasks.map (fun task => scopeKey workspaceID task.id)).Nodup := by
    have hInjective : Function.Injective (scopeKey workspaceID) := fun _ _ hSame => congrArg ScopeKey.resourceID hSame
    have hMap := h.nodup.map hInjective
    rwa [map_map] at hMap
  rw [tasksOf_eq_some, hIDs, forall₂_map_left_iff, forall₂_same]
  intro task hTask
  subst hKey
  exact get?_insertAll_of_mem hKeys hTask

inductive Found (repository : Repository) (incidentKey : ScopeKey) : Option Investigation → Repository → Prop where
  | active (investigationID : GoString) (item : Investigation)
      (hItem : repository.investigations.get? (scopeKey incidentKey.workspaceID investigationID) = some item) :
      Found repository incidentKey (some item) repository
  | none {repository' : Repository} (hQuiet : Quiet repository repository')
      (hNone : (repository'.activeInvestigation.get? incidentKey).filter (· ≠ []) = none) :
      Found repository incidentKey none repository'

theorem activeOf_found {workspaceID resourceID : GoString} :
    Ends (activeOf workspaceID (scopeKey workspaceID resourceID)) repository (fun reply repository' =>
      ∃ active, reply = .ok active ∧ Found repository (scopeKey workspaceID resourceID) active repository') := by
  unfold activeOf
  refine .get ?_
  cases hPointer : (repository.activeInvestigation.get? (scopeKey workspaceID resourceID)).filter (· ≠ []) with
  | none => exact .pure ⟨none, rfl, .none (.inl rfl) hPointer⟩
  | some activeID =>
    have hStored := (Option.filter_eq_some_iff.mp hPointer).1
    simp only
    cases hItem : (repository.investigations.get? (scopeKey workspaceID activeID)).filter Investigation.active with
    | some item =>
      exact .pure ⟨some item, rfl, .active activeID item (Option.filter_eq_some_iff.mp hItem).1⟩
    | none =>
      refine .set (.pure ⟨none, rfl, .none (.inr (.investigation _ activeID hStored hItem)) ?_⟩)
      rw [Repository.dropActiveInvestigation, get?_erase, if_pos rfl]
      rfl

theorem transitionedIncident_eq_ok {next : Incident} (h : transitionedIncident incident commitAt = .ok next) :
    next = incident ∨ next = { incident with
      status := .investigating, updatedAt := commitAt, version := incident.version + 1 } := by
  unfold transitionedIncident at h
  by_cases hOpen : incident.status = .open
  · simp only [if_pos hOpen, bind_eq_ok, require_eq_ok] at h
    obtain ⟨_, _, hSame⟩ := h
    cases hSame
    exact .inr rfl
  · rw [if_neg hOpen] at h
    cases h
    exact .inl rfl

section

variable (hFree : repository.Free .createInvestigation (scopeKey request.workspaceID request.idempotencyKey))

include hFree

theorem createInvestigation_settles (hQuiet : Quiet start repository)
    (hIncident : repository.incidents.get? (scopeKey request.workspaceID request.incidentID) = some incident)
    (hNone : (repository.activeInvestigation.get? (scopeKey request.workspaceID request.incidentID)).filter (· ≠ []) =
      none) :
    Ends (createInvestigation encoding env request requestHash incident scope specs components) repository
      (Settles .createInvestigation (scopeKey request.workspaceID request.idempotencyKey) requestHash start) := by
  unfold createInvestigation
  refine .get ?_
  refine .attempt (fun _ _ => hQuiet) fun _ hID => ?_
  refine .ensure hQuiet fun hNew => ?_
  refine .attempt (fun _ _ => hQuiet) fun _ hTaskIDs => ?_
  refine .ensure hQuiet fun _ => ?_
  refine .ensure hQuiet fun _ => ?_
  refine .attempt (fun _ _ => hQuiet) fun tasks hTasks => ?_
  refine .attempt (fun _ _ => hQuiet) fun next hNext => ?_
  have hDrafted := newTasks requestHash (newIDs_eq_ok hTaskIDs) hTasks
  refine .set (.pure ⟨⟨repository, hQuiet, ?_⟩, ?_, hQuiet.signalIncident⟩)
  · exact Write.creation _ requestHash incident next _ tasks _ hFree hIncident hNone (newID_eq_ok hID) hNew
      ⟨rfl, rfl, rfl⟩ hDrafted hNext
  · exact ⟨get?_insert_self, _, recorded_create_iff.mpr ⟨_, _, tasks, get?_insert_self, rfl,
      get?_insert_self, hDrafted.stored rfl requestHash next, rfl⟩, rfl⟩

variable (hKeyed : GoMap.Keyed (fun item => scopeKey item.workspaceID item.id) repository.investigations)

include hKeyed

theorem joinInvestigation_settles {active : Investigation}
    (hItem : repository.investigations.get? (scopeKey request.workspaceID investigationID) = some active) :
    Ends (joinInvestigation encoding request requestHash active scope specs components) repository
      (Settles .createInvestigation (scopeKey request.workspaceID request.idempotencyKey) requestHash repository) := by
  unfold joinInvestigation
  refine .get ?_
  refine .ensure (.inl rfl) fun hMatch => ?_
  have hID : investigationID = active.id := (congrArg ScopeKey.resourceID (hKeyed _ _ hItem)).symm
  subst hID
  -- The active investigation has its tasks, or its bindings would not match.
  obtain ⟨tasks, hTasks⟩ : ∃ tasks, repository.tasksOf request.workspaceID active.id = some tasks := by
    have hBindings := hMatch.2.2.2
    unfold Repository.activeRuntimeBindingsMatch at hBindings
    cases h : repository.tasksOf request.workspaceID active.id with
    | none => simp [h] at hBindings
    | some tasks => exact ⟨tasks, rfl⟩
  have hResult : repository.investigationResult request.workspaceID active.id = .ok (active, tasks) := by
    simp only [Repository.investigationResult, hItem, hTasks, orFail_some, ok_bind]
    rfl
  refine .set (.attempt ?_ ?_)
  · intro _ hFailure
    rw [hResult] at hFailure
    cases hFailure
  · rintro ⟨item, _⟩ hOk
    rw [hResult] at hOk
    cases hOk
    refine .pure ⟨(Write.joining _ requestHash active.id active hFree hItem).written, ?_, rfl⟩
    exact ⟨get?_insert_self, _, recorded_create_iff.mpr
      ⟨_, active, tasks, get?_insert_self, rfl, hItem, hTasks, rfl⟩, rfl⟩

theorem createOrJoin_settles {canonicalTasks : List TaskSpec} :
    Ends (createOrJoin encoding env request canonicalTasks requestHash repository) repository
      (Settles .createInvestigation (scopeKey request.workspaceID request.idempotencyKey) requestHash repository) := by
  unfold createOrJoin
  refine .found (.inl rfl) fun _ hIncident => ?_
  refine .bind (activeOf_found.mono ?_)
  rintro _ repository' ⟨active, rfl, hFound⟩
  have hQuiet : Quiet repository repository' := by
    cases hFound with
    | active => exact .inl rfl
    | none hQuiet => exact hQuiet
  refine .ensure hQuiet fun _ => ?_
  refine .attempt (fun _ _ => hQuiet) fun _ _ => ?_
  refine .attempt (fun _ _ => hQuiet) fun _ _ => ?_
  cases hFound with
  | active _ _ hItem => exact joinInvestigation_settles hFree hKeyed hItem
  | none _ hNone =>
    obtain ⟨_, _, rfl⟩ := hQuiet.sameRecords
    exact createInvestigation_settles hFree hQuiet hIncident hNone

end

theorem registerSignal_ends : Ends (registerSignal encoding env signal) repository (fun reply repository' =>
      repository'.signalIncident = repository.signalIncident ∧ match reply with
      | .error _ => repository' = repository
      | .ok _ => repository' = repository ∨ Write repository repository') := by
  unfold registerSignal
  refine .attempt (fun _ _ => ⟨rfl, rfl⟩) fun _ _ => ?_
  refine .found ⟨rfl, rfl⟩ fun tenantID hTenant => ?_
  refine .get ?_
  dsimp only
  cases hReplay : repository.registrationReplay (scopeKey signal.workspaceID signal.id) signal with
  | some reply =>
    cases reply with
    | error => exact .throw ⟨rfl, rfl⟩
    | ok => exact .pure ⟨rfl, .inl rfl⟩
  | none =>
    refine .ensure ⟨rfl, rfl⟩ fun hTime => ?_
    refine .set (.pure ⟨rfl, .inr (.signal signal tenantID ?_ hTime.2.1 (Option.filter_eq_some_iff.mp hTenant).2)⟩)
    exact Option.map_eq_none_iff.mp hReplay

def Correlates (request : CorrelateSignalRequest) (repository : Repository)
    (reply : Except RepositoryError CorrelateSignalResult) (repository' : Repository) : Prop :=
  match reply with
  | .error _ => Quiet repository repository'
  | .ok _ => (repository' = repository ∨ Written repository repository') ∧
      (∃ incidentID, repository'.signalIncident.get? (scopeKey request.workspaceID request.signalID) =
        some (request.association incidentID)) ∧
      ∀ key, key ≠ scopeKey request.workspaceID request.signalID →
        repository'.signalIncident.get? key = repository.signalIncident.get? key

theorem SignalAssociation.matches_iff {association : SignalAssociation} {request : CorrelateSignalRequest} :
    association.matches request ↔ association = request.association association.incidentID := by
  obtain ⟨incidentID, correlationKey, mappingStatus, serviceID, environmentID⟩ := association
  simp only [SignalAssociation.matches, CorrelateSignalRequest.association, Bool.and_eq_true, beq_iff_eq,
    SignalAssociation.mk.injEq, true_and, and_assoc]

theorem correlationEntry_eq_ok {request : CorrelateSignalRequest}
    {replay : Option CorrelateSignalResult} (h : correlationEntry encoding repository request = .ok (tenantID, replay)) :
    repository.signalTenants.get? (scopeKey request.workspaceID request.signalID) = some tenantID ∧
      match replay with
      | none => repository.signalIncident.get? (scopeKey request.workspaceID request.signalID) = none
      | some _ => ∃ incidentID, repository.signalIncident.get? (scopeKey request.workspaceID request.signalID) =
          some (request.association incidentID) := by
  simp only [correlationEntry, bind_eq_ok, orFail_eq_ok, require_eq_ok] at h
  obtain ⟨_, hTenant, _, _, hReply⟩ := h
  have hStored := (Option.filter_eq_some_iff.mp hTenant).1
  unfold Repository.correlationReplay at hReply
  cases hSignal : repository.signals.get? (scopeKey request.workspaceID request.signalID) with
  | none =>
    simp only [hSignal, error_bind] at hReply
    cases hReply
  | some signal =>
    simp only [hSignal] at hReply
    cases hAssociation : repository.signalIncident.get? (scopeKey request.workspaceID request.signalID) with
    | none =>
      simp only [hAssociation, Option.map_none] at hReply
      cases hReply
      exact ⟨hStored, rfl⟩
    | some association =>
      simp only [hAssociation, Option.map_some, bind_eq_ok] at hReply
      obtain ⟨_, hResult, hSame⟩ := hReply
      cases hSame
      cases hMatches : association.matches request with
      | false => simp [hMatches] at hResult
      | true => exact ⟨hStored, association.incidentID, congrArg some (SignalAssociation.matches_iff.mp hMatches)⟩

theorem valid_of_validForCreate {incident : Incident} (h : incident.validForCreate) : incident.valid := by
  simp only [Incident.validForCreate, Bool.and_eq_true] at h
  exact h.1.1.1

theorem openIncident_correlates {request : CorrelateSignalRequest} (hQuiet : Quiet start repository)
    (hSignal : repository.signals.get? (scopeKey request.workspaceID request.signalID) = some signal)
    (hFresh : repository.signalIncident.get? (scopeKey request.workspaceID request.signalID) = none)
    (hNone : ∀ id, repository.activeIncidentByCorrelation.get?
        (scopeKey request.workspaceID request.correlationKey) = some id →
      repository.incidents.get? (scopeKey request.workspaceID id) = none)
    (hTenant : repository.signalTenants.get? (scopeKey request.workspaceID request.signalID) = some tenantID) :
    Ends (openIncident env request signal tenantID) repository (Correlates request start) := by
  unfold openIncident
  refine .get ?_
  by_cases hResolved : signal.status = .resolved
  · rw [if_pos hResolved]
    refine .set (.pure ⟨.inr ⟨repository, hQuiet, .dismissal request signal hSignal hFresh hResolved⟩, ?_, ?_⟩)
    · exact ⟨_, get?_insert_self⟩
    · intro key hKey
      rw [← hQuiet.signalIncident]
      exact get?_insert_of_ne hKey
  · rw [if_neg hResolved]
    refine .attempt (fun _ _ => hQuiet) fun incidentID hID => ?_
    refine .ensure hQuiet fun hNew => ?_
    refine .ensure hQuiet fun hCreate => ?_
    refine .set (.pure ⟨.inr ⟨repository, hQuiet, ?_⟩, ⟨_, get?_insert_self⟩, ?_⟩)
    · exact .opening request signal incidentID tenantID env.clock hSignal hFresh (newID_eq_ok hID) hNew hNone hTenant
        (valid_of_validForCreate hCreate)
    · intro key hKey
      rw [← hQuiet.signalIncident]
      exact get?_insert_of_ne hKey

theorem correlateSignal_correlates {request : CorrelateSignalRequest} :
    Ends (correlateSignal encoding env request) repository (Correlates request repository) := by
  unfold correlateSignal
  refine .attempt (fun _ _ => .inl rfl) fun _ _ => ?_
  refine .get ?_
  refine .attempt (fun _ _ => .inl rfl) fun (tenantID, replay) hEntry => ?_
  obtain ⟨hTenant, hReplay⟩ := correlationEntry_eq_ok hEntry
  cases replay with
  | some => exact .pure ⟨.inl rfl, hReplay, fun _ _ => rfl⟩
  | none =>
    refine .found (.inl rfl) fun signal hSignal => ?_
    refine .ensure (.inl rfl) fun _ => ?_
    cases hIncident : activeIncident repository request with
    | none =>
      refine openIncident_correlates (.inl rfl) hSignal hReplay (fun id hPointer => ?_) hTenant
      simpa only [activeIncident, hPointer, Option.getD_some] using hIncident
    | some incident =>
      simp only
      cases hActive : isActiveIncident incident.status with
      | true =>
        refine .ensure (.inl rfl) fun hOwner => ?_
        refine .ensure (.inl rfl) fun hSame => ?_
        refine .ensure (.inl rfl) fun hValid => ?_
        refine .set (.pure ⟨.inr (Write.written ?_), ⟨_, get?_insert_self⟩, ?_⟩)
        · exact .counting request signal incident env.clock hSignal hReplay hIncident hSame.1 hValid (hOwner ▸ hTenant)
            hSame.2
        · exact fun _ hKey => get?_insert_of_ne hKey
      | false =>
        refine .set ?_
        refine openIncident_correlates (.inr (.incident request incident hIncident hActive)) hSignal hReplay ?_ hTenant
        intro id hPointer
        rw [Repository.dropActiveIncident, get?_erase, if_pos rfl] at hPointer
        cases hPointer

end Sections

end AiopsSystem.Investigations
