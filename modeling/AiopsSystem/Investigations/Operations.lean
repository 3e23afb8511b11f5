import AiopsSystem.Go.KeyedTable
import AiopsSystem.Investigations.MemoryRepository
import Mathlib

/-! # Investigations, their tasks and their results

The operations on investigations under the write lock, and the machine whose
inputs are the sections of all calls in the order in which they run. Records
are computed first and written together; only the pointer to an investigation
that is not active any more is dropped before the operation may still fail.
-/

namespace AiopsSystem.Investigations

open Go Go.Section

section Tasks

variable (encoding : Encoding) (env : Environment)

def authorizeTaskSpecs (scope : TaskSpecScope) (specs : List TaskSpec) : Except RepositoryError Unit := do
  require (env.contextDone = false) .contextDone
  require (scope.valid = true) .invalidRequest
  specs.forM (fun spec => match env.authorize scope spec with
    | .authorized => return ()
    | .refused => .error .invalidRequest
    | .contextDone => .error .contextDone)

def resolveTaskRuntimeComponents (scope : TaskSpecScope) (plan : PlanBinding) (specs : List TaskSpec) :
    Except RepositoryError (List TaskRuntimeComponents) := do
  require (scope.valid = true ∧ plan.valid = true) .invalidRequest
  require (env.contextDone = false) .contextDone
  let (canonical, tasksHash) ← canonicalTaskSpecs encoding specs
  require (tasksHash = plan.tasksHash ∧ canonical = specs) .invalidRequest
  canonical.zipIdx.mapM (fun (spec, index) => match env.bindRuntime scope plan spec with
    | .contextDone => .error .contextDone
    | .refused => .error .invalidRequest
    | .bound components => do
      require (components.valid = true) .invalidRequest
      let _ ← readTaskRuntimeDigest encoding scope plan spec (index + 1) components
      return components)

def taskMatches (scope : TaskSpecScope) (plan : PlanBinding) (task : ReadTask) (spec : TaskSpec)
    (components : TaskRuntimeComponents) (position : Int) : Bool :=
  task.position == position && task.key == spec.key && task.connectorID == spec.connectorID &&
    task.operation == spec.operation && task.input == spec.input && !task.runtimeBinding.isZero &&
    match buildReadTaskRuntimeBinding encoding scope plan spec position components task.runtimeBinding.boundAt with
    | .error _ => false
    | .ok expected => task.runtimeBinding.equal expected

def Repository.activeRuntimeBindingsMatch (repository : Repository) (workspaceID : GoString) (active : Investigation)
    (scope : TaskSpecScope) (specs : List TaskSpec) (components : List TaskRuntimeComponents) : Bool :=
  match repository.tasksOf workspaceID active.id with
  | none => false
  | some tasks => tasks.length == specs.length && components.length == specs.length &&
      ((tasks.zip (specs.zip components)).zipIdx.all (fun ((task, spec, components), index) =>
        taskMatches encoding scope active.planBinding task spec components (index + 1)))

def createdTask (request : CreateOrGetInvestigationRequest) (scope : TaskSpecScope) (investigationID : GoString)
    (commitAt : Int) (taskID : GoString) (spec : TaskSpec) (components : TaskRuntimeComponents) (position : Int) :
    Except RepositoryError ReadTask := do
  let runtimeBinding ← buildReadTaskRuntimeBinding encoding scope request.planBinding spec position components commitAt
  let task : ReadTask := {
    id := taskID
    workspaceID := request.workspaceID
    incidentID := request.incidentID
    investigationID := investigationID
    key := spec.key
    position := position
    connectorID := spec.connectorID
    operation := spec.operation
    input := spec.input
    inputHash := encoding.sha256Hex spec.input
    runtimeBinding := runtimeBinding
    status := .queued
    createdAt := commitAt
    updatedAt := commitAt }
  require (task.valid encoding.toScreening = true) .invalidRequest
  return task

end Tasks

def cancelledTask (task : ReadTask) (failureCode : GoString) (commitAt : Int) : ReadTask :=
  { task with status := .cancelled, failureCode := failureCode, completedAt := commitAt, updatedAt := commitAt }

namespace Repository

variable (encoding : Encoding) (repository : Repository)

def investigationResult (workspaceID investigationID : GoString) :
    Except RepositoryError (Investigation × List ReadTask) := do
  let item ← orFail (repository.investigations.get? (scopeKey workspaceID investigationID)) .notFound
  let tasks ← orFail (repository.tasksOf workspaceID investigationID) .notFound
  return (item, tasks)

def cancelledTaskCandidates (workspaceID investigationID failureCode : GoString) (commitAt : Int) :
    Except RepositoryError (List ReadTask) := do
  let tasks ← orFail (repository.tasksOf workspaceID investigationID) .notFound
  tasks.mapM (fun task =>
    if task.pending then do
      let task := cancelledTask task failureCode commitAt
      require (task.valid encoding.toScreening = true) .invalidTransition
      return task
    else return task)

def storeTasks (workspaceID : GoString) (tasks : List ReadTask) : GoMap ScopeKey ReadTask :=
  GoMap.insertAll (fun task => scopeKey workspaceID task.id) tasks repository.tasks

def storeHypotheses (workspaceID : GoString) (hypotheses : List Hypothesis) : GoMap ScopeKey Hypothesis :=
  GoMap.insertAll (fun hypothesis => scopeKey workspaceID hypothesis.id) hypotheses repository.hypotheses

def withoutActive (incidentKey : ScopeKey) (investigationID : GoString) : GoMap ScopeKey GoString :=
  if repository.activeInvestigation.get? incidentKey = some investigationID then
    repository.activeInvestigation.erase incidentKey
  else repository.activeInvestigation

def taskCompletionResult (workspaceID : GoString) (record : TaskCompletionRecord) (replayed : Bool) :
    Except RepositoryError Answer := do
  let task ← orFail (repository.tasks.get? (scopeKey workspaceID record.taskID)) .notFound
  let receipt ← orFail (repository.receipts.get? (scopeKey workspaceID record.receiptID)) .notFound
  if record.evidenceID = [] then return .completedTask task none receipt replayed
  else
    let evidence ← orFail (repository.evidence.get? (scopeKey workspaceID record.evidenceID)) .notFound
    return .completedTask task (some evidence) receipt replayed

def recorded (operation : Operation) (key : ScopeKey) : Option (GoString × Reply) :=
  match operation with
  | .createInvestigation => (repository.investigationIdempotency.get? key).map (fun record =>
      (record.requestHash, (repository.investigationResult key.workspaceID record.resourceID).map
        (fun (item, tasks) => .investigation item tasks false)))
  | .completeTask => (repository.taskCompletionIdempotency.get? key).map (fun record =>
      (record.requestHash, repository.taskCompletionResult key.workspaceID record true))
  | .startModel => (repository.modelStartIdempotency.get? key).map (fun record =>
      (record.requestHash, .ok (.startedModel record.item true)))
  | .finalizeInvestigation => (repository.finalizeIdempotency.get? key).map (fun record =>
      (record.requestHash, .ok (.finalized record.item record.hypotheses true)))
  | .failInvestigation => (repository.failureIdempotency.get? key).map (fun record =>
      (record.requestHash, do
        let item ← orFail (repository.investigations.get? (scopeKey key.workspaceID record.resourceID)) .notFound
        return .failed item true))
  | .recordFeedback => (repository.feedbackIdempotency.get? key).map (fun record =>
      (record.requestHash, do
        let feedback ← orFail (repository.feedback.get? (scopeKey key.workspaceID record.resourceID)) .notFound
        return .feedback feedback false))

/-- The answer for a key that is bound, none for a key that is free: first whose key it is, then which request. -/
def replay (operation : Operation) (key : ScopeKey) (requestHash : GoString) : Option Reply :=
  if repository.idempotencyOwnerMatches key operation = false then some (.error .idempotencyConflict)
  else (repository.recorded operation key).map (fun (hash, reply) =>
    if hash ≠ requestHash then .error .idempotencyConflict else reply)

end Repository

def idempotent (operation : Operation) (key : ScopeKey) (requestHash : GoString) (first : Repository → Locked Answer) :
    Locked Answer := do
  let repository ← get
  match repository.replay operation key requestHash with
  | some reply => attempt reply
  | none => first repository

def transitionedIncident (incident : Incident) (commitAt : Int) : Except RepositoryError Incident := do
  if incident.status = .open then
    require (commitAt ≠ 0 ∧ incident.updatedAt ≤ commitAt) .invalidTransition
    return { incident with status := .investigating, updatedAt := commitAt, version := incident.version + 1 }
  else return incident

/-- `incident.ConfirmRootCauseAt(&hypothesis, actor, now)` -/
def confirmRootCause (encoding : Encoding) (incident : Incident) (hypothesis : Hypothesis) (actor : Actor) (now : Int) :
    Except RepositoryError (Incident × Hypothesis) := do
  require (incident.valid = true ∧ incident.confirmedHypothesisID = []) .invalidTransition
  require (actor.type = .human ∧ validResourceID actor.id = true) .invalidTransition
  require (hypothesis.valid encoding.toScreening = true ∧ hypothesis.status = .proposed) .invalidTransition
  require (hypothesis.workspaceID = incident.workspaceID ∧ hypothesis.incidentID = incident.id) .invalidTransition
  require (now ≠ 0 ∧ incident.updatedAt ≤ now) .invalidTransition
  let hypothesis' := { hypothesis with status := .confirmed }
  let incident' := { incident with
    confirmedHypothesisID := hypothesis.id
    updatedAt := now
    version := incident.version + 1 }
  require (hypothesis'.valid encoding.toScreening = true ∧ incident'.valid = true) .invalidTransition
  return (incident', hypothesis')

/-! ## The operations -/

def validResourceScope (workspaceID : GoString) (resourceIDs : List GoString) : Bool :=
  validResourceID workspaceID && resourceIDs.all validResourceID

section Requests

variable (encoding : Encoding)

def createArguments (request : CreateOrGetInvestigationRequest) :
    Except RepositoryError (List TaskSpec × GoString) := do
  require (validResourceScope request.workspaceID [request.incidentID] = true ∧
    validIdempotencyKey request.idempotencyKey = true) .invalidRequest
  let (canonicalTasks, taskHash) ← canonicalTaskSpecs encoding request.tasks
  let requestHash ← createOrGetInvestigationRequestHash encoding request taskHash
  return (canonicalTasks, requestHash)

def completeArguments (request : CompleteTaskRequest) : Except RepositoryError GoString := do
  require (validResourceScope request.workspaceID [request.investigationID, request.taskID, request.runnerID] = true ∧
    validIdempotencyKey request.idempotencyKey = true) .invalidRequest
  normalizeCompleteTaskRequest encoding request

def startModelArguments (request : StartModelRequest) : Except RepositoryError GoString := do
  require (validResourceScope request.workspaceID [request.investigationID] = true ∧
    validIdempotencyKey request.idempotencyKey = true) .invalidRequest
  startModelRequestHash encoding request

def finalizeArguments (request : FinalizeInvestigationRequest) :
    Except RepositoryError (List HypothesisSpec × GoString) := do
  require (validResourceScope request.workspaceID [request.investigationID] = true ∧
    validIdempotencyKey request.idempotencyKey = true) .invalidRequest
  normalizeFinalizeInvestigationRequest encoding request

def failArguments (request : FailInvestigationRequest) : Except RepositoryError GoString := do
  require (validResourceScope request.workspaceID [request.investigationID] = true ∧
    validIdempotencyKey request.idempotencyKey = true) .invalidRequest
  failInvestigationRequestHash encoding request

def feedbackArguments (request : RecordFeedbackRequest) : Except RepositoryError (GoString × GoString) := do
  require (validResourceScope request.workspaceID
      [request.incidentID, request.investigationID, request.hypothesisID, request.actor.id] = true ∧
    validIdempotencyKey request.idempotencyKey = true) .invalidRequest
  normalizeRecordFeedbackRequest encoding request

end Requests

section Create

variable (encoding : Encoding) (env : Environment)

namespace Repository

variable (repository : Repository)

def dropActiveInvestigation (incidentKey : ScopeKey) : Repository :=
  { repository with activeInvestigation := repository.activeInvestigation.erase incidentKey }

def storeJoined (key : ScopeKey) (requestHash investigationID : GoString) : Repository :=
  { repository with
    investigationIdempotency := repository.investigationIdempotency.insert key ⟨requestHash, investigationID⟩
    idempotencyOwners := repository.idempotencyOwners.insert key .createInvestigation }

def storeCreated (key : ScopeKey) (requestHash : GoString) (incident : Incident) (item : Investigation)
    (tasks : List ReadTask) : Repository :=
  { repository with
    incidents := repository.incidents.insert (scopeKey key.workspaceID item.incidentID) incident
    investigations := repository.investigations.insert (scopeKey key.workspaceID item.id) item
    tasks := repository.storeTasks key.workspaceID tasks
    taskIDsByInvestigation :=
      repository.taskIDsByInvestigation.insert (scopeKey key.workspaceID item.id) (tasks.map ReadTask.id)
    activeInvestigation := repository.activeInvestigation.insert (scopeKey key.workspaceID item.incidentID) item.id
    investigationIdempotency := repository.investigationIdempotency.insert key ⟨requestHash, item.id⟩
    idempotencyOwners := repository.idempotencyOwners.insert key .createInvestigation }

end Repository

def activeOf (workspaceID : GoString) (incidentKey : ScopeKey) : Locked (Option Investigation) := do
  let repository ← get
  match (repository.activeInvestigation.get? incidentKey).filter (· ≠ []) with
  | none => return none
  | some activeID =>
    match (repository.investigations.get? (scopeKey workspaceID activeID)).filter Investigation.active with
    | some active => return some active
    | none =>
      set (repository.dropActiveInvestigation incidentKey)
      return none

def joinInvestigation (request : CreateOrGetInvestigationRequest) (requestHash : GoString) (active : Investigation)
    (scope : TaskSpecScope) (specs : List TaskSpec) (components : List TaskRuntimeComponents) : Locked Answer := do
  let repository ← get
  ensure (active.requestHashVersion = .v2 ∧ active.requestHash = requestHash ∧
    active.planBinding.equal request.planBinding = true ∧
    repository.activeRuntimeBindingsMatch encoding request.workspaceID active scope specs components = true)
    .idempotencyConflict
  set (repository.storeJoined (scopeKey request.workspaceID request.idempotencyKey) requestHash active.id)
  let (item, tasks) ← attempt (repository.investigationResult request.workspaceID active.id)
  return .investigation item tasks false

def newInvestigation (request : CreateOrGetInvestigationRequest) (requestHash investigationID : GoString)
    (commitAt : Int) : Investigation where
  id := investigationID
  workspaceID := request.workspaceID
  incidentID := request.incidentID
  status := .queued
  modelStatus := .pending
  idempotencyKey := request.idempotencyKey
  requestHash := requestHash
  requestHashVersion := .v2
  planBinding := request.planBinding
  createdAt := commitAt
  updatedAt := commitAt

def creationTime (incident : Incident) (now : Int) : Int :=
  let boundary := latestTime [now, incident.openedAt, incident.lastSignalAt, incident.updatedAt]
  let commitAt := truncateMicrosecond boundary
  if commitAt < boundary then commitAt + microsecond else commitAt

def createInvestigation (request : CreateOrGetInvestigationRequest) (requestHash : GoString) (incident : Incident)
    (scope : TaskSpecScope) (specs : List TaskSpec) (components : List TaskRuntimeComponents) : Locked Answer := do
  let repository ← get
  let investigationID ← attempt (newID env 0)
  ensure (repository.investigations.get? (scopeKey request.workspaceID investigationID) = none) .invalidRequest
  let taskIDs ← attempt (newIDs env
    (fun taskID => (repository.tasks.get? (scopeKey request.workspaceID taskID)).isSome) (fun _ => .ok ()) 1 [] specs)
  ensure (env.clock ≠ 0) .invalidRequest
  let commitAt := creationTime incident env.clock
  let item := newInvestigation request requestHash investigationID commitAt
  ensure (item.valid = true) .invalidRequest
  let tasks ← attempt ((taskIDs.zip (specs.zip components)).zipIdx.mapM (fun ((taskID, spec, components), index) =>
    createdTask encoding request scope investigationID commitAt taskID spec components (index + 1)))
  let incident ← attempt (transitionedIncident incident commitAt)
  set (repository.storeCreated (scopeKey request.workspaceID request.idempotencyKey) requestHash incident item tasks)
  return .investigation item tasks true

def TaskSpecScope.ofIncident (incident : Incident) : TaskSpecScope where
  tenantID := incident.tenantID
  workspaceID := incident.workspaceID
  environmentID := incident.environmentID
  serviceID := incident.serviceID
  mappingStatus := incident.mappingStatus

def createOrJoin (request : CreateOrGetInvestigationRequest) (canonicalTasks : List TaskSpec) (requestHash : GoString)
    (repository : Repository) : Locked Answer := do
  let incidentKey := scopeKey request.workspaceID request.incidentID
  let incident ← found (repository.incidents.get? incidentKey) .notFound
  let active ← activeOf request.workspaceID incidentKey
  ensure (active.isSome = true ∨ isActiveIncident incident.status = true) .invalidTransition
  let scope := TaskSpecScope.ofIncident incident
  attempt (authorizeTaskSpecs env scope canonicalTasks)
  let components ← attempt (resolveTaskRuntimeComponents encoding env scope request.planBinding canonicalTasks)
  match active with
  | some active => joinInvestigation encoding request requestHash active scope canonicalTasks components
  | none => createInvestigation encoding env request requestHash incident scope canonicalTasks components

def createOrGetInvestigation (request : CreateOrGetInvestigationRequest) : Locked Answer := do
  let (canonicalTasks, requestHash) ← attempt (createArguments encoding request)
  idempotent .createInvestigation (scopeKey request.workspaceID request.idempotencyKey) requestHash
    (createOrJoin encoding env request canonicalTasks requestHash)

end Create

section Results

variable (encoding : Encoding) (env : Environment)

def completedTask (task : ReadTask) (request : CompleteTaskRequest) (evidenceID : GoString) (commitAt : Int) : ReadTask :=
  { task with
    startedAt := if task.startedAt = 0 then commitAt else task.startedAt
    status := request.status
    evidenceID := evidenceID
    failureCode := request.failureCode
    completedAt := commitAt
    updatedAt := commitAt }

def advancedInvestigation (item : Investigation) (commitAt : Int) : Investigation :=
  if item.status = .queued then { item with status := .running, startedAt := commitAt, updatedAt := commitAt }
  else { item with updatedAt := commitAt }

def storedEvidence (request : CompleteTaskRequest) (item : Investigation) (task : ReadTask) (input : EvidenceInput)
    (evidenceID : GoString) (commitAt : Int) : Evidence where
  id := evidenceID
  workspaceID := request.workspaceID
  incidentID := task.incidentID
  investigationID := item.id
  taskID := task.id
  connectorID := task.connectorID
  contentHash := input.contentHash
  payload := input.payload
  attributes := input.attributes
  collectedAt := input.collectedAt
  createdAt := commitAt

def completionReceipt (request : CompleteTaskRequest) (item : Investigation) (task : ReadTask)
    (evidence : Option Evidence) (receiptID : GoString) (commitAt : Int) : RunnerEvidenceReceipt where
  id := receiptID
  workspaceID := request.workspaceID
  investigationID := item.id
  taskID := task.id
  runnerID := request.runnerID
  connectorID := task.connectorID
  evidenceID := (evidence.map Evidence.id).getD []
  contentHash := (evidence.map Evidence.contentHash).getD []
  failureCode := request.failureCode
  idempotencyKey := request.idempotencyKey
  receivedAt := commitAt

def completionIDs (repository : Repository) (request : CompleteTaskRequest) :
    Except RepositoryError (GoString × GoString) := do
  if request.status = .evidence then
    let evidenceID ← newID env 0
    require (repository.evidence.get? (scopeKey request.workspaceID evidenceID) = none) .invalidRequest
    let receiptID ← newID env 1
    require (repository.receipts.get? (scopeKey request.workspaceID receiptID) = none) .invalidRequest
    return (evidenceID, receiptID)
  else
    let receiptID ← newID env 0
    require (repository.receipts.get? (scopeKey request.workspaceID receiptID) = none) .invalidRequest
    return ([], receiptID)

def completionEvidence (request : CompleteTaskRequest) (item : Investigation) (task : ReadTask) (evidenceID : GoString)
    (commitAt : Int) : Except RepositoryError (Option Evidence) :=
  match request.evidence with
  | none => return none
  | some input => do
    require (input.collectedAt ≤ commitAt) .invalidRequest
    let evidence := storedEvidence request item task input evidenceID commitAt
    require (evidence.valid encoding.toScreening = true) .invalidRequest
    return some evidence

def Repository.storeCompleted (repository : Repository) (key : ScopeKey) (requestHash : GoString) (item : Investigation)
    (task : ReadTask) (evidence : Option Evidence) (receipt : RunnerEvidenceReceipt) : Repository :=
  let itemKey := scopeKey key.workspaceID item.id
  { repository with
    tasks := repository.tasks.insert (scopeKey key.workspaceID task.id) task
    investigations := repository.investigations.insert itemKey item
    evidence := evidence.elim repository.evidence (fun record =>
      repository.evidence.insert (scopeKey key.workspaceID record.id) record)
    evidenceIDsByInvestigation := evidence.elim repository.evidenceIDsByInvestigation (fun record =>
      repository.evidenceIDsByInvestigation.insert itemKey
        ((repository.evidenceIDsByInvestigation.get? itemKey).getD [] ++ [record.id]))
    receipts := repository.receipts.insert (scopeKey key.workspaceID receipt.id) receipt
    taskCompletionIdempotency := repository.taskCompletionIdempotency.insert key
      ⟨requestHash, task.id, task.evidenceID, receipt.id⟩
    idempotencyOwners := repository.idempotencyOwners.insert key .completeTask }

def completeTaskOnce (request : CompleteTaskRequest) (requestHash : GoString) (repository : Repository) :
    Locked Answer := do
  let item ← found (repository.investigations.get? (scopeKey request.workspaceID request.investigationID)) .notFound
  let task ← found (repository.tasks.get? (scopeKey request.workspaceID request.taskID)) .notFound
  ensure (task.investigationID = item.id) .scopeViolation
  ensure (task.pending = true) .invalidTransition
  ensure (item.active = true) .invalidTransition
  let (evidenceID, receiptID) ← attempt (completionIDs env repository request)
  let commitAt ← attempt (repository.investigationCommitTime env request.workspaceID item [])
  let evidence ← attempt (completionEvidence encoding request item task evidenceID commitAt)
  let receipt := completionReceipt request item task evidence receiptID commitAt
  ensure (receipt.valid = true) .invalidRequest
  let task := completedTask task request evidenceID commitAt
  ensure (task.valid encoding.toScreening = true) .invalidRequest
  let item := advancedInvestigation item commitAt
  ensure (item.valid = true) .invalidRequest
  set (repository.storeCompleted (scopeKey request.workspaceID request.idempotencyKey) requestHash item task evidence
    receipt)
  let repository ← get
  attempt (repository.taskCompletionResult request.workspaceID ⟨requestHash, task.id, evidenceID, receiptID⟩ false)

def completeTask (request : CompleteTaskRequest) : Locked Answer := do
  let requestHash ← attempt (completeArguments encoding request)
  idempotent .completeTask (scopeKey request.workspaceID request.idempotencyKey) requestHash
    (completeTaskOnce encoding env request requestHash)

def Repository.storeStarted (repository : Repository) (key : ScopeKey) (requestHash investigationID : GoString)
    (item : Investigation) : Repository :=
  { repository with
    investigations := repository.investigations.insert (scopeKey key.workspaceID investigationID) item
    modelStartIdempotency := repository.modelStartIdempotency.insert key ⟨requestHash, item⟩
    idempotencyOwners := repository.idempotencyOwners.insert key .startModel }

def ReadTask.ended (task : ReadTask) : Bool :=
  task.status == .evidence || task.status == .failed || task.status == .cancelled

def startModelOnce (request : StartModelRequest) (requestHash : GoString) (repository : Repository) : Locked Answer := do
  let item ← found (repository.investigations.get? (scopeKey request.workspaceID request.investigationID)) .notFound
  ensure (item.status = .running ∧ item.modelStatus = .pending) .invalidTransition
  let tasks ← found (repository.tasksOf request.workspaceID item.id) .notFound
  ensure (tasks.all ReadTask.ended = true) .invalidTransition
  let commitAt ← attempt (repository.investigationCommitTime env request.workspaceID item [])
  let item := { item with modelStatus := .running, updatedAt := commitAt }
  ensure (item.valid = true) .invalidTransition
  set (repository.storeStarted (scopeKey request.workspaceID request.idempotencyKey) requestHash
    request.investigationID item)
  return .startedModel item false

def startModel (request : StartModelRequest) : Locked Answer := do
  let requestHash ← attempt (startModelArguments encoding request)
  idempotent .startModel (scopeKey request.workspaceID request.idempotencyKey) requestHash
    (startModelOnce env request requestHash)

def validModelFinalizationTransition (current terminal : ModelStatus) : Bool :=
  match terminal with
  | .completed | .failed => current == .running
  | .skipped => current == .pending
  | .cancelled => current == .pending || current == .running
  | _ => false

def derivedStatus (tasks : List ReadTask) : InvestigationStatus :=
  if tasks.all (fun task => task.status == .evidence) then .completed else .partially

def checkDerivedStatus (repository : Repository) (request : FinalizeInvestigationRequest) (item : Investigation) :
    Except RepositoryError Unit :=
  if request.status = .completed ∨ request.status = .partially then do
    let tasks ← orFail (repository.tasksOf request.workspaceID item.id) .notFound
    require (tasks.all (fun task => !task.pending) = true) .invalidTransition
    require (request.status = derivedStatus tasks) .invalidTransition
  else return ()

def checkCitedEvidence (repository : Repository) (workspaceID : GoString) (item : Investigation) (spec : HypothesisSpec) :
    Except RepositoryError Unit :=
  spec.evidenceIDs.forM (fun evidenceID => do
    let evidence ← orFail (repository.evidence.get? (scopeKey workspaceID evidenceID)) .notFound
    require (evidence.investigationID = item.id) .scopeViolation)

def createdHypothesis (item : Investigation) (workspaceID id : GoString) (spec : HypothesisSpec) (commitAt : Int) :
    Hypothesis where
  id := id
  workspaceID := workspaceID
  incidentID := item.incidentID
  investigationID := item.id
  status := .proposed
  rank := spec.rank
  confidence := spec.confidence
  summary := spec.summary
  proposal := spec.proposal
  proposalHash := spec.proposalHash
  unknowns := spec.unknowns
  evidenceIDs := spec.evidenceIDs
  createdAt := commitAt

def finalizedInvestigation (item : Investigation) (request : FinalizeInvestigationRequest) (commitAt : Int) :
    Investigation :=
  { item with
    status := request.status
    modelStatus := request.modelStatus
    failureCode := request.failureCode
    modelFailureCode := request.modelFailureCode
    completedAt := commitAt
    updatedAt := commitAt }

def Repository.storeFinalized (repository : Repository) (key : ScopeKey) (requestHash : GoString) (item : Investigation)
    (candidates : List ReadTask) (hypotheses : List Hypothesis) : Repository :=
  let itemKey := scopeKey key.workspaceID item.id
  { repository with
    investigations := repository.investigations.insert itemKey item
    tasks := repository.storeTasks key.workspaceID candidates
    hypotheses := repository.storeHypotheses key.workspaceID hypotheses
    hypothesisIDsByInvestigation := repository.hypothesisIDsByInvestigation.insert itemKey (hypotheses.map Hypothesis.id)
    activeInvestigation := repository.withoutActive (scopeKey key.workspaceID item.incidentID) item.id
    finalizeIdempotency := repository.finalizeIdempotency.insert key ⟨requestHash, item, hypotheses⟩
    idempotencyOwners := repository.idempotencyOwners.insert key .finalizeInvestigation }

def finalizeInvestigationOnce (request : FinalizeInvestigationRequest) (canonical : List HypothesisSpec)
    (requestHash : GoString) (repository : Repository) : Locked Answer := do
  let item ← found (repository.investigations.get? (scopeKey request.workspaceID request.investigationID)) .notFound
  ensure (item.active = true) .invalidTransition
  ensure (validModelFinalizationTransition item.modelStatus request.modelStatus = true) .invalidTransition
  attempt (checkDerivedStatus repository request item)
  let hypothesisIDs ← attempt (newIDs env
    (fun hypothesisID => (repository.hypotheses.get? (scopeKey request.workspaceID hypothesisID)).isSome)
    (checkCitedEvidence repository request.workspaceID item) 0 [] canonical)
  let commitAt ← attempt (repository.investigationCommitTime env request.workspaceID item [])
  let candidates ← attempt (if request.status = .cancelled then
      repository.cancelledTaskCandidates encoding request.workspaceID item.id request.failureCode commitAt
    else .ok [])
  let hypotheses := (hypothesisIDs.zip canonical).map (fun (id, spec) =>
    createdHypothesis item request.workspaceID id spec commitAt)
  ensure (hypotheses.all (fun hypothesis => hypothesis.valid encoding.toScreening) = true) .invalidRequest
  let item := finalizedInvestigation item request commitAt
  ensure (item.valid = true) .invalidRequest
  set (repository.storeFinalized (scopeKey request.workspaceID request.idempotencyKey) requestHash item candidates
    hypotheses)
  return .finalized item hypotheses false

def finalizeInvestigation (request : FinalizeInvestigationRequest) : Locked Answer := do
  let (canonical, requestHash) ← attempt (finalizeArguments encoding request)
  idempotent .finalizeInvestigation (scopeKey request.workspaceID request.idempotencyKey) requestHash
    (finalizeInvestigationOnce encoding env request canonical requestHash)

def failedInvestigation (item : Investigation) (failureCode : GoString) (commitAt : Int) : Investigation :=
  { item with
    status := .failed
    modelStatus := .cancelled
    failureCode := failureCode
    modelFailureCode := []
    completedAt := commitAt
    updatedAt := commitAt }

def Repository.storeFailed (repository : Repository) (key : ScopeKey) (requestHash investigationID : GoString)
    (item : Investigation) (candidates : List ReadTask) : Repository :=
  { repository with
    investigations := repository.investigations.insert (scopeKey key.workspaceID investigationID) item
    tasks := repository.storeTasks key.workspaceID candidates
    activeInvestigation := repository.withoutActive (scopeKey key.workspaceID item.incidentID) item.id
    failureIdempotency := repository.failureIdempotency.insert key ⟨requestHash, item.id⟩
    idempotencyOwners := repository.idempotencyOwners.insert key .failInvestigation }

def failInvestigationOnce (request : FailInvestigationRequest) (requestHash : GoString) (repository : Repository) :
    Locked Answer := do
  let item ← found (repository.investigations.get? (scopeKey request.workspaceID request.investigationID)) .notFound
  ensure (item.active = true) .invalidTransition
  let commitAt ← attempt (repository.investigationCommitTime env request.workspaceID item [])
  let candidates ← attempt
    (repository.cancelledTaskCandidates encoding request.workspaceID item.id request.failureCode commitAt)
  let item := failedInvestigation item request.failureCode commitAt
  ensure (item.valid = true) .invalidTransition
  set (repository.storeFailed (scopeKey request.workspaceID request.idempotencyKey) requestHash
    request.investigationID item candidates)
  return .failed item false

def failInvestigation (request : FailInvestigationRequest) : Locked Answer := do
  let requestHash ← attempt (failArguments encoding request)
  idempotent .failInvestigation (scopeKey request.workspaceID request.idempotencyKey) requestHash
    (failInvestigationOnce encoding env request requestHash)

def judged (incident : Incident) (hypothesis : Hypothesis) (request : RecordFeedbackRequest) (commitAt : Int) :
    Except RepositoryError (Incident × Hypothesis) :=
  match request.verdict with
  | .confirmed => confirmRootCause encoding incident hypothesis request.actor commitAt
  | .rejected => do
    require (hypothesis.status = .proposed) .invalidTransition
    return (incident, { hypothesis with status := .rejected })
  | _ => return (incident, hypothesis)

def recordedFeedback (request : RecordFeedbackRequest) (details feedbackID : GoString) (incident : Incident)
    (item : Investigation) (hypothesis : Hypothesis) (commitAt : Int) : Feedback where
  id := feedbackID
  workspaceID := request.workspaceID
  incidentID := incident.id
  investigationID := item.id
  hypothesisID := hypothesis.id
  actor := request.actor
  verdict := request.verdict
  details := details
  createdAt := commitAt

def Repository.storeFeedback (repository : Repository) (request : RecordFeedbackRequest) (requestHash : GoString)
    (incident : Incident) (hypothesis : Hypothesis) (feedback : Feedback) : Repository :=
  let key := scopeKey request.workspaceID request.idempotencyKey
  { repository with
    incidents := repository.incidents.insert (scopeKey request.workspaceID request.incidentID) incident
    hypotheses := repository.hypotheses.insert (scopeKey request.workspaceID request.hypothesisID) hypothesis
    feedback := repository.feedback.insert (scopeKey request.workspaceID feedback.id) feedback
    feedbackIdempotency := repository.feedbackIdempotency.insert key ⟨requestHash, feedback.id⟩
    idempotencyOwners := repository.idempotencyOwners.insert key .recordFeedback }

def recordFeedbackOnce (request : RecordFeedbackRequest) (details requestHash : GoString) (repository : Repository) :
    Locked Answer := do
  let incident ← found (repository.incidents.get? (scopeKey request.workspaceID request.incidentID)) .notFound
  let item ← found (repository.investigations.get? (scopeKey request.workspaceID request.investigationID)) .notFound
  let hypothesis ← found (repository.hypotheses.get? (scopeKey request.workspaceID request.hypothesisID)) .notFound
  ensure (item.incidentID = incident.id ∧ hypothesis.incidentID = incident.id ∧ hypothesis.investigationID = item.id)
    .scopeViolation
  let feedbackID ← attempt (newID env 0)
  ensure (repository.feedback.get? (scopeKey request.workspaceID feedbackID) = none) .invalidRequest
  let commitAt ← attempt (repository.investigationCommitTime env request.workspaceID item
    [incident.updatedAt, hypothesis.createdAt])
  let feedback := recordedFeedback request details feedbackID incident item hypothesis commitAt
  ensure (feedback.valid encoding.toScreening = true) .invalidRequest
  let (incident, hypothesis) ← attempt (judged encoding incident hypothesis request commitAt)
  set (repository.storeFeedback request requestHash incident hypothesis feedback)
  return .feedback feedback true

def recordFeedback (request : RecordFeedbackRequest) : Locked Answer := do
  let (details, requestHash) ← attempt (feedbackArguments encoding request)
  idempotent .recordFeedback (scopeKey request.workspaceID request.idempotencyKey) requestHash
    (recordFeedbackOnce encoding env request details requestHash)

end Results

/-! ## Calls -/

inductive Call where
  | registerSignal (signal : Signal)
  | correlateSignal (request : CorrelateSignalRequest)
  | createOrGetInvestigation (request : CreateOrGetInvestigationRequest)
  | completeTask (request : CompleteTaskRequest)
  | startModel (request : StartModelRequest)
  | finalizeInvestigation (request : FinalizeInvestigationRequest)
  | failInvestigation (request : FailInvestigationRequest)
  | recordFeedback (request : RecordFeedbackRequest)

section Machine

variable (encoding : Encoding)

def look (repository : Repository) : Call → Option Reply
  | .registerSignal signal =>
    if signal.valid encoding.toScreening then
      (repository.registrationReplay (scopeKey signal.workspaceID signal.id) signal).map (Except.map .registered)
    else some (.error .invalidRequest)
  | .correlateSignal request =>
    if request.valid then
      match correlationEntry encoding repository request with
      | .error failure => some (.error failure)
      | .ok (_, replay) => replay.map (fun result => .ok (.correlated result))
    else some (.error .invalidRequest)
  | .createOrGetInvestigation request =>
    match createArguments encoding request with
    | .error failure => some (.error failure)
    | .ok (_, requestHash) =>
      repository.replay .createInvestigation (scopeKey request.workspaceID request.idempotencyKey) requestHash
  | _ => none

def locked (env : Environment) : Call → Locked Answer
  | .registerSignal signal => .registered <$> registerSignal encoding env signal
  | .correlateSignal request => .correlated <$> correlateSignal encoding env request
  | .createOrGetInvestigation request => createOrGetInvestigation encoding env request
  | .completeTask request => completeTask encoding env request
  | .startModel request => startModel encoding env request
  | .finalizeInvestigation request => finalizeInvestigation encoding env request
  | .failInvestigation request => failInvestigation encoding env request
  | .recordFeedback request => recordFeedback encoding env request

inductive Event where
  /-- A call up to the end of its first section, with the answer of its context at the start. -/
  | begin (call : Call) (contextDone : Bool)
  /-- The section that writes; where it asks the context again, the environment answers. -/
  | commit (call : Call) (env : Environment)

def Repository.step (repository : Repository) : Event → Option Reply × Repository
  | .begin call contextDone =>
    (if contextDone then some (.error .contextDone) else look encoding repository call, repository)
  | .commit call env =>
    let result := (locked encoding env call).exec repository
    (some result.1, result.2)

def newRepository : Repository := {}

def machine : Machine Repository Event (Option Reply) where
  init := newRepository
  step := Repository.step encoding

end Machine

end AiopsSystem.Investigations
