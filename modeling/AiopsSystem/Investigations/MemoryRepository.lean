import AiopsSystem.Go.Section
import AiopsSystem.Investigations.Requests
import AiopsSystem.Machine.Run

/-! # The in-memory investigation repository

`RegisterSignal`, `CorrelateSignal` and `CreateOrGetInvestigation` look under
the read lock first and may answer from what they find; every operation then
takes the write lock and looks again. A call is these one or two sections, with
sections of other calls in between. The checks of the arguments do not depend
on the state and are stated with the section they precede.
-/

namespace AiopsSystem.Investigations

open Go Go.Section

structure ScopeKey where
  (workspaceID resourceID : GoString)
deriving DecidableEq

def scopeKey (workspaceID id : GoString) : ScopeKey := ⟨workspaceID, id⟩

structure SignalAssociation where
  (incidentID correlationKey : GoString)
  mappingStatus : MappingStatus
  (serviceID environmentID : GoString)

structure IdempotencyRecord where
  (requestHash resourceID : GoString)

structure TaskCompletionRecord where
  (requestHash taskID evidenceID receiptID : GoString)

structure FinalizeRecord where
  requestHash : GoString
  item : Investigation
  hypotheses : List Hypothesis

structure ModelStartRecord where
  requestHash : GoString
  item : Investigation

inductive Operation where
  | createInvestigation
  | completeTask
  | startModel
  | finalizeInvestigation
  | failInvestigation
  | recordFeedback
deriving DecidableEq

structure Repository where
  signals : GoMap ScopeKey Signal := ∅
  signalTenants : GoMap ScopeKey GoString := ∅
  incidents : GoMap ScopeKey Incident := ∅
  activeIncidentByCorrelation : GoMap ScopeKey GoString := ∅
  signalIncident : GoMap ScopeKey SignalAssociation := ∅
  investigations : GoMap ScopeKey Investigation := ∅
  tasks : GoMap ScopeKey ReadTask := ∅
  taskIDsByInvestigation : GoMap ScopeKey (List GoString) := ∅
  activeInvestigation : GoMap ScopeKey GoString := ∅
  investigationIdempotency : GoMap ScopeKey IdempotencyRecord := ∅
  evidence : GoMap ScopeKey Evidence := ∅
  evidenceIDsByInvestigation : GoMap ScopeKey (List GoString) := ∅
  receipts : GoMap ScopeKey RunnerEvidenceReceipt := ∅
  taskCompletionIdempotency : GoMap ScopeKey TaskCompletionRecord := ∅
  hypotheses : GoMap ScopeKey Hypothesis := ∅
  hypothesisIDsByInvestigation : GoMap ScopeKey (List GoString) := ∅
  finalizeIdempotency : GoMap ScopeKey FinalizeRecord := ∅
  failureIdempotency : GoMap ScopeKey IdempotencyRecord := ∅
  feedback : GoMap ScopeKey Feedback := ∅
  feedbackIdempotency : GoMap ScopeKey IdempotencyRecord := ∅
  modelStartIdempotency : GoMap ScopeKey ModelStartRecord := ∅
  idempotencyOwners : GoMap ScopeKey Operation := ∅

inductive AuthorizerAnswer where
  | authorized
  | refused
  | contextDone

inductive BinderAnswer where
  | bound (components : TaskRuntimeComponents)
  | refused
  | contextDone

structure Environment where
  contextDone : Bool
  clock : Int
  ids : Nat → GoString
  tenant : Option GoString
  authorize : TaskSpecScope → TaskSpec → AuthorizerAnswer
  bindRuntime : TaskSpecScope → PlanBinding → TaskSpec → BinderAnswer

structure CorrelateSignalResult where
  incident : Option Incident := none
  created : Bool := false
  associated : Bool := false
  counted : Bool := false

inductive Answer where
  | registered (created : Bool)
  | correlated (result : CorrelateSignalResult)
  | investigation (item : Investigation) (tasks : List ReadTask) (created : Bool)
  | completedTask (task : ReadTask) (evidence : Option Evidence) (receipt : RunnerEvidenceReceipt) (replayed : Bool)
  | startedModel (item : Investigation) (replayed : Bool)
  | finalized (item : Investigation) (hypotheses : List Hypothesis) (replayed : Bool)
  | failed (item : Investigation) (replayed : Bool)
  | feedback (feedback : Feedback) (created : Bool)

abbrev Locked := Section RepositoryError Repository

abbrev Reply := Except RepositoryError Answer

section Times

/-- `latestTime`: the latest of the times and the zero time -/
def latestTime (times : List Int) : Int :=
  times.foldl (fun latest candidate => if latest < candidate then candidate else latest) 0

def laterTime (left right : Int) : Int := if left < right then right else left

end Times

section Identifiers

variable (env : Environment)

def newID (index : Nat) : Except RepositoryError GoString := do
  require (validResourceID (env.ids index) = true) .invalidRequest
  return env.ids index

/-- One fresh identifier for each item, none of them taken; an item is checked after its identifier is drawn. -/
def newIDs {α : Type} (taken : GoString → Bool) (check : α → Except RepositoryError Unit) :
    Nat → List GoString → List α → Except RepositoryError (List GoString)
  | _, _, [] => return []
  | index, seen, item :: rest => do
    let id ← newID env index
    require (taken id = false ∧ id ∉ seen) .invalidRequest
    check item
    let ids ← newIDs taken check (index + 1) (id :: seen) rest
    return id :: ids

end Identifiers

namespace Repository

variable (repository : Repository)

def idempotencyOwnerMatches (key : ScopeKey) (operation : Operation) : Bool :=
  (repository.idempotencyOwners.get? key).all (· == operation)

def tasksOf (workspaceID investigationID : GoString) : Option (List ReadTask) :=
  ((repository.taskIDsByInvestigation.get? (scopeKey workspaceID investigationID)).getD []).mapM
    (fun taskID => repository.tasks.get? (scopeKey workspaceID taskID))

def evidenceOf (workspaceID investigationID : GoString) : Option (List Evidence) :=
  ((repository.evidenceIDsByInvestigation.get? (scopeKey workspaceID investigationID)).getD []).mapM
    (fun evidenceID => repository.evidence.get? (scopeKey workspaceID evidenceID))

def investigationCommitTime (env : Environment) (workspaceID : GoString) (item : Investigation) (extra : List Int) :
    Except RepositoryError Int := do
  let tasks ← orFail (repository.tasksOf workspaceID item.id) .notFound
  let evidence ← orFail (repository.evidenceOf workspaceID item.id) .notFound
  require (env.clock ≠ 0) .invalidRequest
  return latestTime ([item.updatedAt, item.completedAt] ++ extra ++
    tasks.flatMap (fun task => [task.updatedAt, task.completedAt]) ++
    evidence.flatMap (fun record => [record.collectedAt, record.createdAt]) ++ [env.clock])

end Repository

/-! ## Signals and incidents -/

def isActiveIncident (status : IncidentStatus) : Bool :=
  status == .open || status == .investigating || status == .mitigating

def validMapping (status : MappingStatus) (serviceID environmentID : GoString) : Bool :=
  match status with
  | .exact => validResourceID serviceID && validResourceID environmentID
  | .ambiguous | .unresolved => (serviceID == [] || validResourceID serviceID) &&
      (environmentID == [] || validResourceID environmentID)
  | .other _ => false

def SignalAssociation.matches (association : SignalAssociation) (request : CorrelateSignalRequest) : Bool :=
  association.correlationKey == request.correlationKey && association.mappingStatus == request.mappingStatus &&
    association.serviceID == request.serviceID && association.environmentID == request.environmentID

def CorrelateSignalRequest.association (request : CorrelateSignalRequest) (incidentID : GoString) :
    SignalAssociation where
  incidentID := incidentID
  correlationKey := request.correlationKey
  mappingStatus := request.mappingStatus
  serviceID := request.serviceID
  environmentID := request.environmentID

def CorrelateSignalRequest.valid (request : CorrelateSignalRequest) : Bool :=
  validResourceID request.workspaceID && validResourceID request.signalID &&
    validCorrelationKey request.correlationKey &&
    validMapping request.mappingStatus request.serviceID request.environmentID &&
    (request.expectedSignalHash == [] || validSHA256Hex request.expectedSignalHash)

def openedIncident (request : CorrelateSignalRequest) (incidentID tenantID : GoString) (observedAt now : Int) :
    Incident where
  id := incidentID
  tenantID := tenantID
  workspaceID := request.workspaceID
  serviceID := request.serviceID
  environmentID := request.environmentID
  correlationKey := request.correlationKey
  mappingStatus := request.mappingStatus
  severity := ascii "UNKNOWN"
  title := ascii "Unclassified operational incident"
  status := .open
  confirmedHypothesisID := []
  openedAt := observedAt
  lastSignalAt := observedAt
  updatedAt := laterTime now observedAt
  signalCount := 1
  version := 1

def countedIncident (incident : Incident) (observedAt now : Int) : Incident :=
  let lastSignalAt := if incident.lastSignalAt < observedAt then observedAt else incident.lastSignalAt
  { incident with
    signalCount := incident.signalCount + 1
    openedAt := if observedAt < incident.openedAt then observedAt else incident.openedAt
    lastSignalAt := lastSignalAt
    updatedAt := latestTime [incident.updatedAt, now, lastSignalAt]
    version := incident.version + 1 }

namespace Repository

variable (encoding : Encoding) (repository : Repository)

def registrationReplay (key : ScopeKey) (signal : Signal) : Option (Except RepositoryError Bool) :=
  (repository.signals.get? key).map (fun existing =>
    if (repository.signalTenants.get? key).any validResourceID = false then .error .scopeViolation
    else if existing = signal then .ok false
    else .error .idempotencyConflict)

def signalSnapshotMatches (key : ScopeKey) (expected : GoString) : Bool :=
  expected == [] || match repository.signals.get? key, repository.signalTenants.get? key with
    | some signal, some tenantID => registeredSignalSnapshotHash encoding tenantID signal == some expected
    | _, _ => false

def correlationReplay (key : ScopeKey) (request : CorrelateSignalRequest) :
    Option (Except RepositoryError CorrelateSignalResult) :=
  match repository.signals.get? key with
  | none => some (.error .notFound)
  | some _ => (repository.signalIncident.get? key).map (fun association =>
      if association.matches request = false then .error .idempotencyConflict
      else if association.incidentID = [] then .ok {}
      else match repository.incidents.get? (scopeKey request.workspaceID association.incidentID) with
        | none => .error .notFound
        | some incident => .ok { incident := some incident, associated := true })

end Repository

/-! ### What the two operations write -/

namespace Repository

variable (repository : Repository)

def storeSignal (signal : Signal) (tenantID : GoString) : Repository :=
  { repository with
    signals := repository.signals.insert (scopeKey signal.workspaceID signal.id) signal
    signalTenants := repository.signalTenants.insert (scopeKey signal.workspaceID signal.id) tenantID }

def storeDismissal (request : CorrelateSignalRequest) : Repository :=
  { repository with
    signalIncident := repository.signalIncident.insert (scopeKey request.workspaceID request.signalID)
      (request.association []) }

def storeOpened (request : CorrelateSignalRequest) (incident : Incident) : Repository :=
  { repository with
    incidents := repository.incidents.insert (scopeKey request.workspaceID incident.id) incident
    activeIncidentByCorrelation := repository.activeIncidentByCorrelation.insert
      (scopeKey request.workspaceID request.correlationKey) incident.id
    signalIncident := repository.signalIncident.insert (scopeKey request.workspaceID request.signalID)
      (request.association incident.id) }

def storeCounted (request : CorrelateSignalRequest) (incident : Incident) : Repository :=
  { repository with
    incidents := repository.incidents.insert (scopeKey request.workspaceID incident.id) incident
    signalIncident := repository.signalIncident.insert (scopeKey request.workspaceID request.signalID)
      (request.association incident.id) }

def dropActiveIncident (correlationKey : ScopeKey) : Repository :=
  { repository with
    activeIncidentByCorrelation := repository.activeIncidentByCorrelation.erase correlationKey }

end Repository

section Correlation

variable (encoding : Encoding) (env : Environment)

def registerSignal (signal : Signal) : Locked Bool := do
  attempt (require (signal.valid encoding.toScreening = true) .invalidRequest)
  let tenantID ← found (env.tenant.filter validResourceID) .invalidRequest
  let repository ← get
  let key := scopeKey signal.workspaceID signal.id
  match repository.registrationReplay key signal with
  | some reply => attempt reply
  | none =>
    ensure (env.clock ≠ 0 ∧ signal.observedAt ≠ 0 ∧ signal.observedAt ≤ env.clock + 5 * minute) .invalidRequest
    set (repository.storeSignal signal tenantID)
    return true

/-- The checks that `CorrelateSignal` makes under either lock: the tenant of the signal, its snapshot and a replay. -/
def correlationEntry (repository : Repository) (request : CorrelateSignalRequest) :
    Except RepositoryError (GoString × Option CorrelateSignalResult) := do
  let key := scopeKey request.workspaceID request.signalID
  let tenantID ← orFail ((repository.signalTenants.get? key).filter validResourceID) .scopeViolation
  require (repository.signalSnapshotMatches encoding key request.expectedSignalHash = true) .scopeViolation
  match repository.correlationReplay key request with
  | some reply => return (tenantID, some (← reply))
  | none => return (tenantID, none)

def activeIncident (repository : Repository) (request : CorrelateSignalRequest) : Option Incident :=
  repository.incidents.get? (scopeKey request.workspaceID ((repository.activeIncidentByCorrelation.get?
    (scopeKey request.workspaceID request.correlationKey)).getD []))

def openIncident (request : CorrelateSignalRequest) (signal : Signal) (tenantID : GoString) :
    Locked CorrelateSignalResult := do
  let repository ← get
  if signal.status = .resolved then
    set (repository.storeDismissal request)
    return {}
  else
    let incidentID ← attempt (newID env 0)
    ensure (repository.incidents.get? (scopeKey request.workspaceID incidentID) = none) .invalidRequest
    let incident := openedIncident request incidentID tenantID signal.observedAt env.clock
    ensure (incident.validForCreate = true) .invalidRequest
    set (repository.storeOpened request incident)
    return { incident := some incident, created := true, associated := true, counted := true }

def correlateSignal (request : CorrelateSignalRequest) : Locked CorrelateSignalResult := do
  attempt (require (request.valid = true) .invalidRequest)
  let repository ← get
  let (tenantID, replay) ← attempt (correlationEntry encoding repository request)
  match replay with
  | some result => return result
  | none =>
    let signal ← found (repository.signals.get? (scopeKey request.workspaceID request.signalID)) .notFound
    ensure (env.clock ≠ 0) .invalidRequest
    match activeIncident repository request with
    | some incident =>
      if isActiveIncident incident.status then
        ensure (incident.tenantID = tenantID) .scopeViolation
        ensure (incident.correlationKey = request.correlationKey ∧ incident.mappingStatus = request.mappingStatus ∧
          incident.serviceID = request.serviceID ∧ incident.environmentID = request.environmentID) .scopeViolation
        let incident := countedIncident incident signal.observedAt env.clock
        ensure (incident.valid = true) .invalidRequest
        set (repository.storeCounted request incident)
        return { incident := some incident, associated := true, counted := true }
      else
        set (repository.dropActiveIncident (scopeKey request.workspaceID request.correlationKey))
        openIncident env request signal tenantID
    | none => openIncident env request signal tenantID

end Correlation

end AiopsSystem.Investigations
