import AiopsSystem.Investigations.Domain

/-! # Requests and their semantic hashes

Every idempotent operation hashes what its request means. The hash is the
SHA-256 digest of the canonical JSON of a value under a schema name; the model
keeps the value, `RequestSemantics`, and leaves its encoding to a parameter.
-/

namespace AiopsSystem.Investigations

open Go

inductive RepositoryError where
  | contextDone
  | invalidRequest
  | invalidTransition
  | scopeViolation
  | idempotencyConflict
  | notFound
deriving DecidableEq

structure CorrelateSignalRequest where
  (workspaceID signalID expectedSignalHash correlationKey serviceID environmentID : GoString)
  mappingStatus : MappingStatus

structure TaskSpec where
  (key connectorID operation input : GoString)
deriving DecidableEq

structure CreateOrGetInvestigationRequest where
  (workspaceID incidentID idempotencyKey : GoString)
  planBinding : PlanBinding
  tasks : List TaskSpec

structure EvidenceInput where
  (payload contentHash : GoString)
  attributes : GoMap GoString GoString
  collectedAt : Int
deriving DecidableEq

structure CompleteTaskRequest where
  (workspaceID investigationID taskID runnerID idempotencyKey : GoString)
  status : ReadTaskStatus
  evidence : Option EvidenceInput
  failureCode : GoString

structure HypothesisSpec where
  rank : Int
  confidence : UInt64
  (summary proposal proposalHash : GoString)
  (unknowns evidenceIDs : List GoString)
deriving DecidableEq

structure FinalizeInvestigationRequest where
  (workspaceID investigationID idempotencyKey : GoString)
  status : InvestigationStatus
  modelStatus : ModelStatus
  (failureCode modelFailureCode : GoString)
  hypotheses : List HypothesisSpec

structure FailInvestigationRequest where
  (workspaceID investigationID idempotencyKey failureCode : GoString)

structure StartModelRequest where
  (workspaceID investigationID idempotencyKey : GoString)

structure RecordFeedbackRequest where
  (workspaceID incidentID investigationID hypothesisID : GoString)
  actor : Actor
  verdict : FeedbackVerdict
  (details idempotencyKey : GoString)

structure TaskSpecScope where
  (tenantID workspaceID environmentID serviceID : GoString)
  mappingStatus : MappingStatus
deriving DecidableEq

structure TaskRuntimeComponents where
  (connectorDigest targetDigest executorDigest : GoString)
deriving DecidableEq

inductive RequestSemantics where
  | create (incidentID taskSpecsHash : GoString) (planBinding : PlanBinding)
  | completeTask (investigationID taskID runnerID : GoString) (status : ReadTaskStatus)
      (evidence : Option EvidenceInput) (failureCode : GoString)
  | finalize (investigationID : GoString) (status : InvestigationStatus) (modelStatus : ModelStatus)
      (failureCode modelFailureCode : GoString) (hypotheses : List HypothesisSpec)
  | feedback (incidentID investigationID hypothesisID : GoString) (actor : Actor) (verdict : FeedbackVerdict)
      (details : GoString)
  | startModel (investigationID : GoString)
  | fail (investigationID failureCode : GoString)
  | taskSpecs (specs : List TaskSpec)
  | readTaskRuntime (registryDigest : GoString) (scope : TaskSpecScope) (key : GoString) (position : Int)
      (connectorID operation inputHash : GoString) (components : TaskRuntimeComponents)
  | registeredSignal (tenantID workspaceID : GoString) (signal : Signal)
deriving DecidableEq

structure Encoding extends Screening where
  /-- `semanticRequestHash`, none when the value cannot be encoded -/
  semanticRequestHash : RequestSemantics → Option GoString
  /-- `jsoncanonicalizer.Transform` -/
  transform : GoString → Option GoString
  /-- The input does not decode, or names a target or a credential. -/
  taskTargetMaterial : GoString → Bool

section Tasks

variable (encoding : Encoding)

def TaskSpecScope.valid (scope : TaskSpecScope) : Bool :=
  validResourceID scope.tenantID && validResourceID scope.workspaceID && validResourceID scope.environmentID &&
    validResourceID scope.serviceID && scope.mappingStatus == .exact

def TaskRuntimeComponents.valid (components : TaskRuntimeComponents) : Bool :=
  validSHA256Hex components.connectorDigest && validSHA256Hex components.targetDigest &&
    validSHA256Hex components.executorDigest

/-- `^[a-z0-9][a-z0-9_.-]{0,63}$` -/
def validTaskKey (value : GoString) : Bool := value.length ≤ 64 && lowCardinality value

def canonicalTaskSpec (spec : TaskSpec) : Except RepositoryError TaskSpec := do
  require (validTaskKey spec.key = true ∧ validConnectorID spec.connectorID = true ∧
    validOperation spec.operation = true) .invalidRequest
  require (encoding.safeJSONObject spec.input = true) .invalidRequest
  require (encoding.taskTargetMaterial spec.input = false) .invalidRequest
  let input ← orFail (encoding.transform spec.input) .invalidRequest
  return { spec with input := input }

def canonicalTaskSpecs (specs : List TaskSpec) : Except RepositoryError (List TaskSpec × GoString) := do
  require (0 < specs.length ∧ specs.length ≤ 12) .invalidRequest
  require (specs.map TaskSpec.key).Nodup .invalidRequest
  let canonical ← specs.mapM (canonicalTaskSpec encoding)
  let sorted := GoMap.sortSlice (fun left right => textLess left.key right.key) canonical
  let hash ← orFail (encoding.semanticRequestHash (.taskSpecs sorted)) .invalidRequest
  return (sorted, hash)

def validateRuntimeDigestInput (scope : TaskSpecScope) (plan : PlanBinding) (spec : TaskSpec) (position : Int)
    (components : TaskRuntimeComponents) : Except RepositoryError TaskSpec := do
  require (scope.valid = true ∧ plan.valid = true ∧ 1 ≤ position ∧ position ≤ 12 ∧ components.valid = true)
    .invalidRequest
  let (canonical, _) ← canonicalTaskSpecs encoding [spec]
  require (canonical = [spec]) .invalidRequest
  require (connectorDigestMatchesID spec.connectorID components.connectorDigest = true) .invalidRequest
  return spec

def readTaskRuntimeDigest (scope : TaskSpecScope) (plan : PlanBinding) (spec : TaskSpec) (position : Int)
    (components : TaskRuntimeComponents) : Except RepositoryError GoString := do
  let canonical ← validateRuntimeDigestInput encoding scope plan spec position components
  orFail (encoding.semanticRequestHash (.readTaskRuntime plan.registryDigest scope canonical.key position
    canonical.connectorID canonical.operation (encoding.sha256Hex canonical.input) components)) .invalidRequest

def buildReadTaskRuntimeBinding (scope : TaskSpecScope) (plan : PlanBinding) (spec : TaskSpec) (position : Int)
    (components : TaskRuntimeComponents) (boundAt : Int) : Except RepositoryError RuntimeBinding := do
  let runtimeDigest ← readTaskRuntimeDigest encoding scope plan spec position components
  let binding : RuntimeBinding := {
    schemaVersion := RuntimeBinding.schemaVersionV1
    connectorDigest := components.connectorDigest
    targetDigest := components.targetDigest
    executorDigest := components.executorDigest
    runtimeDigest := runtimeDigest
    boundAt := boundAt }
  require (binding.valid = true) .invalidRequest
  return binding

end Tasks

section Normalize

variable (encoding : Encoding)

def createOrGetInvestigationRequestHash (request : CreateOrGetInvestigationRequest) (taskSpecsHash : GoString) :
    Except RepositoryError GoString := do
  require (validSHA256Hex taskSpecsHash = true ∧ request.planBinding.valid = true ∧
    request.planBinding.tasksHash = taskSpecsHash) .invalidRequest
  orFail (encoding.semanticRequestHash (.create request.incidentID taskSpecsHash request.planBinding)) .invalidRequest

def validEvidenceInput (evidence : EvidenceInput) : Bool :=
  evidence.collectedAt ≠ 0 && encoding.validHashedJSONObject evidence.payload evidence.contentHash &&
    encoding.validAttributes evidence.attributes

def validCompletionBody (request : CompleteTaskRequest) : Bool :=
  match request.status with
  | .evidence => request.evidence.any (validEvidenceInput encoding) && request.failureCode == []
  | .failed | .cancelled => request.evidence.isNone && validFailureCode request.failureCode
  | _ => false

/-- Normalizing only detaches the caller's data, so the request stays as it is. -/
def normalizeCompleteTaskRequest (request : CompleteTaskRequest) : Except RepositoryError GoString := do
  require (validCompletionBody encoding request = true) .invalidRequest
  orFail (encoding.semanticRequestHash (.completeTask request.investigationID request.taskID request.runnerID
    request.status request.evidence request.failureCode)) .invalidRequest

def validFinalizationSemantics (request : FinalizeInvestigationRequest) : Bool :=
  match request.status with
  | .completed | .partially =>
    request.failureCode == [] && match request.modelStatus with
    | .completed => request.modelFailureCode == [] && 0 < request.hypotheses.length
    | .failed => validFailureCode request.modelFailureCode && request.hypotheses.length == 0
    | .skipped => request.modelFailureCode == [] && request.hypotheses.length == 0
    | _ => false
  | .cancelled => request.modelStatus == .cancelled && validFailureCode request.failureCode &&
      request.modelFailureCode == [] && request.hypotheses.length == 0
  | _ => false

def HypothesisSpec.candidate (spec : HypothesisSpec) : Hypothesis where
  id := ascii "validation"
  workspaceID := ascii "validation"
  incidentID := ascii "validation"
  investigationID := ascii "validation"
  status := .proposed
  rank := spec.rank
  confidence := spec.confidence
  summary := spec.summary
  proposal := spec.proposal
  proposalHash := spec.proposalHash
  unknowns := spec.unknowns
  evidenceIDs := spec.evidenceIDs
  createdAt := unixEpoch + second

def normalizeHypothesisSpecs (specs : List HypothesisSpec) : Except RepositoryError (List HypothesisSpec) := do
  require (specs.length ≤ 20) .invalidRequest
  require (specs.all (fun spec => spec.candidate.valid encoding.toScreening) = true) .invalidRequest
  require (specs.map HypothesisSpec.rank).Nodup .invalidRequest
  return GoMap.sortSlice (fun left right => left.rank < right.rank) specs

def normalizeFinalizeInvestigationRequest (request : FinalizeInvestigationRequest) :
    Except RepositoryError (List HypothesisSpec × GoString) := do
  require (validFinalizationSemantics request = true) .invalidRequest
  let hypotheses ← normalizeHypothesisSpecs encoding request.hypotheses
  let hash ← orFail (encoding.semanticRequestHash (.finalize request.investigationID request.status
    request.modelStatus request.failureCode request.modelFailureCode hypotheses)) .invalidRequest
  return (hypotheses, hash)

def normalizeRecordFeedbackRequest (request : RecordFeedbackRequest) :
    Except RepositoryError (GoString × GoString) := do
  require (request.actor.type = .human) .invalidRequest
  require (request.verdict = .confirmed ∨ request.verdict = .rejected ∨ request.verdict = .inconclusive)
    .invalidRequest
  require (encoding.safeJSONObject request.details = true) .invalidRequest
  let details ← orFail (encoding.transform request.details) .invalidRequest
  let hash ← orFail (encoding.semanticRequestHash (.feedback request.incidentID request.investigationID
    request.hypothesisID request.actor request.verdict details)) .invalidRequest
  return (details, hash)

def startModelRequestHash (request : StartModelRequest) : Except RepositoryError GoString :=
  orFail (encoding.semanticRequestHash (.startModel request.investigationID)) .invalidRequest

def failInvestigationRequestHash (request : FailInvestigationRequest) : Except RepositoryError GoString := do
  require (validFailureCode request.failureCode = true) .invalidRequest
  orFail (encoding.semanticRequestHash (.fail request.investigationID request.failureCode)) .invalidRequest

/-- `RegisteredSignalSnapshotHash`, none for an error -/
def registeredSignalSnapshotHash (tenantID : GoString) (signal : Signal) : Option GoString :=
  if validPersistentID tenantID && validPersistentID signal.workspaceID && signal.valid encoding.toScreening then
    encoding.semanticRequestHash (.registeredSignal tenantID signal.workspaceID signal)
  else none

end Normalize

end AiopsSystem.Investigations
