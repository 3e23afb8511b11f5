import AiopsSystem.Investigations.Operations

/-! # What a section writes

Every section leaves the records as they are or makes one write, and a pointer
to a record that is not active any more may be dropped before. `Write` lists
the writes with the guards they passed; whatever holds in every reachable state
is derived from this list.
-/

namespace AiopsSystem.Investigations

open Go Go.Section

namespace Repository

def Free (repository : Repository) (operation : Operation) (key : ScopeKey) : Prop :=
  repository.idempotencyOwnerMatches key operation = true ∧ repository.recorded operation key = none

theorem replay_eq_none {repository : Repository} {operation : Operation} {key : ScopeKey} {requestHash : GoString} :
    repository.replay operation key requestHash = none ↔ repository.Free operation key := by
  unfold replay Free
  cases repository.idempotencyOwnerMatches key operation <;> simp

end Repository

def stoppedTask (failureCode : GoString) (commitAt : Int) (task : ReadTask) : ReadTask :=
  if task.pending then cancelledTask task failureCode commitAt else task

structure NewTasks (repository : Repository) (workspaceID : GoString) (item : Investigation) (tasks : List ReadTask) :
    Prop where
  nodup : (tasks.map ReadTask.id).Nodup
  fresh : ∀ task ∈ tasks, repository.tasks.get? (scopeKey workspaceID task.id) = none
  workspace : ∀ task ∈ tasks, task.workspaceID = workspaceID
  owner : ∀ task ∈ tasks, task.investigationID = item.id
  queued : ∀ task ∈ tasks, task.status = .queued ∧ task.evidenceID = []

structure NewHypotheses (repository : Repository) (workspaceID : GoString) (item : Investigation)
    (hypotheses : List Hypothesis) : Prop where
  nodup : (hypotheses.map Hypothesis.id).Nodup
  fresh : ∀ hypothesis ∈ hypotheses, repository.hypotheses.get? (scopeKey workspaceID hypothesis.id) = none
  workspace : ∀ hypothesis ∈ hypotheses, hypothesis.workspaceID = workspaceID
  owner : ∀ hypothesis ∈ hypotheses, hypothesis.investigationID = item.id ∧ hypothesis.incidentID = item.incidentID
  proposed : ∀ hypothesis ∈ hypotheses, hypothesis.status = .proposed
  cited : ∀ hypothesis ∈ hypotheses, ∀ evidenceID ∈ hypothesis.evidenceIDs, ∃ evidence,
    repository.evidence.get? (scopeKey workspaceID evidenceID) = some evidence ∧ evidence.investigationID = item.id

inductive Ending (repository : Repository) (workspaceID : GoString) (item : Investigation) :
    InvestigationStatus → List ReadTask → Prop where
  | stopped {status : InvestigationStatus} {tasks : List ReadTask} (failureCode : GoString) (commitAt : Int)
      (hStatus : status = .failed ∨ status = .cancelled)
      (hTasks : repository.tasksOf workspaceID item.id = some tasks) :
      Ending repository workspaceID item status (tasks.map (stoppedTask failureCode commitAt))
  | settled {tasks : List ReadTask} (hTasks : repository.tasksOf workspaceID item.id = some tasks)
      (hEnded : ∀ task ∈ tasks, task.pending = false) : Ending repository workspaceID item (derivedStatus tasks) []

inductive Judgement (incident : Incident) (hypothesis : Hypothesis) : Incident → Hypothesis → Prop where
  | confirmed (now : Int) (hNone : incident.confirmedHypothesisID = []) (hProposed : hypothesis.status = .proposed)
      (hID : hypothesis.id ≠ [])
      (hValid : Incident.valid { incident with
        confirmedHypothesisID := hypothesis.id, updatedAt := now, version := incident.version + 1 } = true) :
      Judgement incident hypothesis
        { incident with confirmedHypothesisID := hypothesis.id, updatedAt := now, version := incident.version + 1 }
        { hypothesis with status := .confirmed }
  | rejected (hProposed : hypothesis.status = .proposed) :
      Judgement incident hypothesis incident { hypothesis with status := .rejected }
  | inconclusive : Judgement incident hypothesis incident hypothesis

inductive Completion (repository : Repository) (request : CompleteTaskRequest) (item : Investigation) (task : ReadTask)
    (commitAt : Int) : GoString → Option Evidence → Prop where
  | evidence (input : EvidenceInput) (evidenceID : GoString) (hStatus : request.status = .evidence)
      (hID : evidenceID ≠ []) (hFresh : repository.evidence.get? (scopeKey request.workspaceID evidenceID) = none) :
      Completion repository request item task commitAt evidenceID
        (some (storedEvidence request item task input evidenceID commitAt))
  | without (hStatus : request.status = .failed ∨ request.status = .cancelled) :
      Completion repository request item task commitAt [] none

inductive Write (repository : Repository) : Repository → Prop where
  | signal (signal : Signal) (tenantID : GoString)
      (hFresh : repository.signals.get? (scopeKey signal.workspaceID signal.id) = none)
      (hObserved : signal.observedAt ≠ 0) (hTenant : validResourceID tenantID = true) :
      Write repository (repository.storeSignal signal tenantID)
  | dismissal (request : CorrelateSignalRequest) (signal : Signal)
      (hSignal : repository.signals.get? (scopeKey request.workspaceID request.signalID) = some signal)
      (hFresh : repository.signalIncident.get? (scopeKey request.workspaceID request.signalID) = none)
      (hResolved : signal.status = .resolved) : Write repository (repository.storeDismissal request)
  | opening (request : CorrelateSignalRequest) (signal : Signal) (incidentID tenantID : GoString) (now : Int)
      (hSignal : repository.signals.get? (scopeKey request.workspaceID request.signalID) = some signal)
      (hFresh : repository.signalIncident.get? (scopeKey request.workspaceID request.signalID) = none)
      (hID : incidentID ≠ []) (hNew : repository.incidents.get? (scopeKey request.workspaceID incidentID) = none)
      (hNone : ∀ id, repository.activeIncidentByCorrelation.get?
          (scopeKey request.workspaceID request.correlationKey) = some id →
        repository.incidents.get? (scopeKey request.workspaceID id) = none)
      (hTenant : repository.signalTenants.get? (scopeKey request.workspaceID request.signalID) = some tenantID)
      (hValid : (openedIncident request incidentID tenantID signal.observedAt now).valid = true) :
      Write repository (repository.storeOpened request
        (openedIncident request incidentID tenantID signal.observedAt now))
  | counting (request : CorrelateSignalRequest) (signal : Signal) (incident : Incident) (now : Int)
      (hSignal : repository.signals.get? (scopeKey request.workspaceID request.signalID) = some signal)
      (hFresh : repository.signalIncident.get? (scopeKey request.workspaceID request.signalID) = none)
      (hIncident : activeIncident repository request = some incident)
      (hKey : incident.correlationKey = request.correlationKey)
      (hValid : (countedIncident incident signal.observedAt now).valid = true)
      (hTenant : repository.signalTenants.get? (scopeKey request.workspaceID request.signalID) = some incident.tenantID)
      (hMapping : incident.mappingStatus = request.mappingStatus ∧ incident.serviceID = request.serviceID ∧
        incident.environmentID = request.environmentID) :
      Write repository (repository.storeCounted request (countedIncident incident signal.observedAt now))
  | joining (key : ScopeKey) (requestHash investigationID : GoString) (active : Investigation)
      (hFree : repository.Free .createInvestigation key)
      (hItem : repository.investigations.get? (scopeKey key.workspaceID investigationID) = some active) :
      Write repository (repository.storeJoined key requestHash active.id)
  | creation (key : ScopeKey) (requestHash : GoString) (incident next : Incident) (item : Investigation)
      (tasks : List ReadTask) (commitAt : Int) (hFree : repository.Free .createInvestigation key)
      (hIncident : repository.incidents.get? (scopeKey key.workspaceID item.incidentID) = some incident)
      (hNone : (repository.activeInvestigation.get? (scopeKey key.workspaceID item.incidentID)).filter (· ≠ []) = none)
      (hID : item.id ≠ []) (hNew : repository.investigations.get? (scopeKey key.workspaceID item.id) = none)
      (hItem : item.workspaceID = key.workspaceID ∧ item.status = .queued ∧ item.modelStatus = .pending)
      (hTasks : NewTasks repository key.workspaceID item tasks)
      (hNext : transitionedIncident incident commitAt = .ok next) :
      Write repository (repository.storeCreated key requestHash next item tasks)
  | completion (request : CompleteTaskRequest) (requestHash receiptID evidenceID : GoString) (item : Investigation)
      (task : ReadTask) (evidence : Option Evidence) (commitAt : Int)
      (hFree : repository.Free .completeTask (scopeKey request.workspaceID request.idempotencyKey))
      (hItem : repository.investigations.get? (scopeKey request.workspaceID request.investigationID) = some item)
      (hTask : repository.tasks.get? (scopeKey request.workspaceID request.taskID) = some task)
      (hOwner : task.investigationID = item.id) (hPending : task.pending = true) (hActive : item.active = true)
      (hEvidence : Completion repository request item task commitAt evidenceID evidence)
      (hReceipt : repository.receipts.get? (scopeKey request.workspaceID receiptID) = none) :
      Write repository (repository.storeCompleted (scopeKey request.workspaceID request.idempotencyKey) requestHash
        (advancedInvestigation item commitAt) (completedTask task request evidenceID commitAt) evidence
        (completionReceipt request item task evidence receiptID commitAt))
  | start (request : StartModelRequest) (requestHash : GoString) (item : Investigation) (tasks : List ReadTask)
      (commitAt : Int) (hFree : repository.Free .startModel (scopeKey request.workspaceID request.idempotencyKey))
      (hItem : repository.investigations.get? (scopeKey request.workspaceID request.investigationID) = some item)
      (hStatus : item.status = .running ∧ item.modelStatus = .pending)
      (hTasks : repository.tasksOf request.workspaceID item.id = some tasks)
      (hEnded : ∀ task ∈ tasks, task.ended = true) :
      Write repository (repository.storeStarted (scopeKey request.workspaceID request.idempotencyKey) requestHash
        request.investigationID { item with modelStatus := .running, updatedAt := commitAt })
  | finalization (request : FinalizeInvestigationRequest) (requestHash : GoString) (item : Investigation)
      (candidates : List ReadTask) (hypotheses : List Hypothesis) (commitAt : Int)
      (hFree : repository.Free .finalizeInvestigation (scopeKey request.workspaceID request.idempotencyKey))
      (hItem : repository.investigations.get? (scopeKey request.workspaceID request.investigationID) = some item)
      (hActive : item.active = true)
      (hModel : validModelFinalizationTransition item.modelStatus request.modelStatus = true)
      (hEnding : Ending repository request.workspaceID item request.status candidates)
      (hHypotheses : NewHypotheses repository request.workspaceID item hypotheses) :
      Write repository (repository.storeFinalized (scopeKey request.workspaceID request.idempotencyKey) requestHash
        (finalizedInvestigation item request commitAt) candidates hypotheses)
  | failure (request : FailInvestigationRequest) (requestHash : GoString) (item : Investigation)
      (candidates : List ReadTask) (commitAt : Int)
      (hFree : repository.Free .failInvestigation (scopeKey request.workspaceID request.idempotencyKey))
      (hItem : repository.investigations.get? (scopeKey request.workspaceID request.investigationID) = some item)
      (hActive : item.active = true) (hEnding : Ending repository request.workspaceID item .failed candidates) :
      Write repository (repository.storeFailed (scopeKey request.workspaceID request.idempotencyKey) requestHash
        request.investigationID (failedInvestigation item request.failureCode commitAt) candidates)
  | feedback (request : RecordFeedbackRequest) (requestHash : GoString) (incident incident' : Incident)
      (hypothesis hypothesis' : Hypothesis) (feedback : Feedback)
      (hFree : repository.Free .recordFeedback (scopeKey request.workspaceID request.idempotencyKey))
      (hIncident : repository.incidents.get? (scopeKey request.workspaceID request.incidentID) = some incident)
      (hHypothesis : repository.hypotheses.get? (scopeKey request.workspaceID request.hypothesisID) = some hypothesis)
      (hOwner : hypothesis.incidentID = incident.id)
      (hNew : repository.feedback.get? (scopeKey request.workspaceID feedback.id) = none)
      (hWorkspace : feedback.workspaceID = request.workspaceID)
      (hJudgement : Judgement incident hypothesis incident' hypothesis') :
      Write repository (repository.storeFeedback request requestHash incident' hypothesis' feedback)

inductive Drop (repository : Repository) : Repository → Prop where
  | incident (request : CorrelateSignalRequest) (incident : Incident)
      (hIncident : activeIncident repository request = some incident)
      (hEnded : isActiveIncident incident.status = false) :
      Drop repository (repository.dropActiveIncident (scopeKey request.workspaceID request.correlationKey))
  | investigation (incidentKey : ScopeKey) (investigationID : GoString)
      (hPointer : repository.activeInvestigation.get? incidentKey = some investigationID)
      (hEnded : (repository.investigations.get? (scopeKey incidentKey.workspaceID investigationID)).filter
        Investigation.active = none) : Drop repository (repository.dropActiveInvestigation incidentKey)

def Quiet (repository repository' : Repository) : Prop := repository' = repository ∨ Drop repository repository'

def Written (repository repository' : Repository) : Prop :=
  ∃ between, Quiet repository between ∧ Write between repository'

def SameRecords (repository repository' : Repository) : Prop :=
  ∃ activeIncidents activeInvestigations, repository' = { repository with
    activeIncidentByCorrelation := activeIncidents, activeInvestigation := activeInvestigations }

theorem Quiet.sameRecords {repository repository' : Repository} (h : Quiet repository repository') :
    SameRecords repository repository' := by
  rcases h with rfl | h
  · exact ⟨_, _, rfl⟩
  · cases h with
    | incident | investigation => exact ⟨_, _, rfl⟩

theorem Quiet.signalIncident {repository repository' : Repository} (h : Quiet repository repository') :
    repository'.signalIncident = repository.signalIncident := by
  obtain ⟨_, _, rfl⟩ := h.sameRecords
  rfl

end AiopsSystem.Investigations
