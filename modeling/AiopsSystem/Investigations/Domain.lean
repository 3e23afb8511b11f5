import AiopsSystem.Go.Attempt
import AiopsSystem.Go.Clock
import AiopsSystem.Go.Table
import AiopsSystem.Go.Text

/-! # Signals, incidents and investigations

The records of the investigation domain with their `Validate` methods. What
these methods decide about the inside of a JSON object or of a free text is a
parameter, `Screening`; nothing depends on how it decides.
-/

namespace AiopsSystem.Investigations

open Go

section Texts

def isLowerDigit (b : UInt8) : Bool := isLower b || isDigit b

/-- `^[a-z0-9][a-z0-9_.-]*$` -/
def lowCardinality (value : GoString) : Bool :=
  matchesHeadTail isLowerDigit (fun b => isLowerDigit b || b == 95 || b == 46 || b == 45) value

def validSHA256Hex (value : GoString) : Bool := matchesHex 64 value

def validIdentifier (value : GoString) (maxBytes : Nat) : Bool :=
  0 < value.length && value.length ≤ maxBytes && matchesIdentifier value

def validResourceID (value : GoString) : Bool := validIdentifier value 256

/-- `^[a-z0-9][-a-z0-9._:/]{0,127}$` -/
def validIdempotencyKey (value : GoString) : Bool :=
  value.length ≤ 128 && matchesHeadTail isLowerDigit
    (fun b => isLowerDigit b || b == 46 || b == 95 || b == 58 || b == 47 || b == 45) value

def validFailureCode (value : GoString) : Bool := value.length ≤ 128 && lowCardinality value

def validConnectorID (value : GoString) : Bool := value.length ≤ 128 && lowCardinality value

def validOperation (value : GoString) : Bool := value.length ≤ 64 && lowCardinality value

/-- `^[a-z0-9][a-z0-9._:/@-]*$`, at most 512 bytes -/
def validCorrelationKey (value : GoString) : Bool :=
  0 < value.length && value.length ≤ 512 && matchesHeadTail isLowerDigit
    (fun b => isLowerDigit b || b == 46 || b == 95 || b == 58 || b == 47 || b == 64 || b == 45) value

/-- `^[A-Za-z0-9][A-Za-z0-9_.:/@-]{0,127}$` -/
def validSignalLabelKey (value : GoString) : Bool := value.length ≤ 128 && matchesIdentifier value

/-- `^[a-f0-9]{8}-[a-f0-9]{4}-[1-5][a-f0-9]{3}-[89ab][a-f0-9]{3}-[a-f0-9]{12}$` -/
def validPersistentID (value : GoString) : Bool :=
  value.length == 36 && value.zipIdx.all (fun (b, index) =>
    if index = 8 ∨ index = 13 ∨ index = 18 ∨ index = 23 then b == 45
    else if index = 14 then 49 ≤ b && b ≤ 53
    else if index = 19 then b == 56 || b == 57 || b == 97 || b == 98
    else isHexByte b)

theorem ne_nil_of_validResourceID {value : GoString} (h : validResourceID value) : value ≠ [] := by
  rintro rfl
  cases h

end Texts

structure Screening where
  /-- `ValidateSafeJSONObject(value) == nil` -/
  safeJSONObject : GoString → Bool
  /-- `ValidSafeText(value)` -/
  safeText : GoString → Bool
  /-- `ValidSafeMetadata(name, value)` -/
  safeMetadata : GoString → GoString → Bool
  /-- `value == strings.TrimSpace(value)` -/
  trimmed : GoString → Bool
  sha256Hex : GoString → GoString

inductive MappingStatus where
  | exact
  | ambiguous
  | unresolved
  | other (value : GoString)
deriving DecidableEq

inductive SignalStatus where
  | firing
  | resolved
  | other (value : GoString)
deriving DecidableEq

structure Signal where
  (id workspaceID integrationID provider providerEventID payloadHash fingerprint : GoString)
  status : SignalStatus
  labels : GoMap GoString GoString
  observedAt : Int
deriving DecidableEq

inductive IncidentStatus where
  | open
  | investigating
  | mitigating
  | resolved
  | closed
deriving DecidableEq

structure Incident where
  (id tenantID workspaceID serviceID environmentID correlationKey : GoString)
  mappingStatus : MappingStatus
  (severity title : GoString)
  status : IncidentStatus
  confirmedHypothesisID : GoString
  (openedAt lastSignalAt updatedAt signalCount version : Int)

inductive InvestigationStatus where
  | queued
  | running
  | partially
  | completed
  | failed
  | cancelled
  | other (value : GoString)
deriving DecidableEq

inductive ModelStatus where
  | pending
  | running
  | completed
  | failed
  | skipped
  | cancelled
  | other (value : GoString)
deriving DecidableEq

structure PlanBinding where
  schemaVersion : GoString := []
  manifestDigest : GoString := []
  registryDigest : GoString := []
  profileDigest : GoString := []
  tasksHash : GoString := []
deriving DecidableEq

inductive RequestHashVersion where
  | v1
  | v2
deriving DecidableEq

structure Investigation where
  (id workspaceID incidentID : GoString)
  status : InvestigationStatus
  modelStatus : ModelStatus
  (idempotencyKey requestHash : GoString)
  requestHashVersion : RequestHashVersion
  planBinding : PlanBinding
  failureCode : GoString := []
  modelFailureCode : GoString := []
  createdAt : Int
  startedAt : Int := 0
  completedAt : Int := 0
  updatedAt : Int

inductive ReadTaskStatus where
  | queued
  | running
  | evidence
  | failed
  | cancelled
  | other (value : GoString)
deriving DecidableEq

structure RuntimeBinding where
  schemaVersion : GoString := []
  connectorDigest : GoString := []
  targetDigest : GoString := []
  executorDigest : GoString := []
  runtimeDigest : GoString := []
  boundAt : Int := 0
deriving DecidableEq

structure ReadTask where
  (id workspaceID incidentID investigationID key : GoString)
  position : Int
  (connectorID operation input inputHash : GoString)
  runtimeBinding : RuntimeBinding
  status : ReadTaskStatus
  evidenceID : GoString := []
  failureCode : GoString := []
  createdAt : Int
  startedAt : Int := 0
  completedAt : Int := 0
  updatedAt : Int

structure Evidence where
  (id workspaceID incidentID investigationID taskID connectorID contentHash payload : GoString)
  attributes : GoMap GoString GoString
  collectedAt : Int
  createdAt : Int

structure RunnerEvidenceReceipt where
  (id workspaceID investigationID taskID runnerID connectorID evidenceID contentHash failureCode : GoString)
  idempotencyKey : GoString
  receivedAt : Int

inductive HypothesisStatus where
  | proposed
  | confirmed
  | rejected
deriving DecidableEq

structure Hypothesis where
  (id workspaceID incidentID investigationID : GoString)
  status : HypothesisStatus
  rank : Int
  /-- The bits of a `float64`. -/
  confidence : UInt64
  (summary proposal proposalHash : GoString)
  (unknowns evidenceIDs : List GoString)
  createdAt : Int

inductive ActorType where
  | human
  | model
  | workload
  | other (value : GoString)
deriving DecidableEq

structure Actor where
  type : ActorType
  id : GoString
deriving DecidableEq

inductive FeedbackVerdict where
  | confirmed
  | rejected
  | inconclusive
  | other (value : GoString)
deriving DecidableEq

structure Feedback where
  (id workspaceID incidentID investigationID hypothesisID : GoString)
  actor : Actor
  verdict : FeedbackVerdict
  details : GoString
  createdAt : Int

/-! ## Validation -/

def timeWithin (value notBefore notAfter : Int) : Bool := value = 0 || (notBefore ≤ value && value ≤ notAfter)

/-- The three optional lifecycle times of a record lie between its creation and its last update, in their order. -/
def lifecycleTimes (createdAt startedAt completedAt updatedAt : Int) : Bool :=
  createdAt ≠ 0 && updatedAt ≠ 0 && createdAt ≤ updatedAt && timeWithin startedAt createdAt updatedAt &&
    timeWithin completedAt createdAt updatedAt && (startedAt = 0 || completedAt = 0 || startedAt ≤ completedAt)

def truncateMicrosecond (value : Int) : Int := value - value % microsecond

namespace PlanBinding

def schemaVersionV1 : GoString := ascii "investigation-plan-manifest.v1"

def valid (binding : PlanBinding) : Bool :=
  binding.schemaVersion == schemaVersionV1 && validSHA256Hex binding.manifestDigest &&
    validSHA256Hex binding.registryDigest && validSHA256Hex binding.profileDigest && validSHA256Hex binding.tasksHash

/-- `binding.Equal(other)` -/
def equal (binding other : PlanBinding) : Bool := binding.valid && other.valid && binding == other

end PlanBinding

def connectorDigestMatchesID (connectorID connectorDigest : GoString) : Bool :=
  let suffix := ascii "-v1-" ++ connectorDigest
  validConnectorID connectorID && validSHA256Hex connectorDigest && suffix.isSuffixOf connectorID &&
    1 ≤ connectorID.length - suffix.length && connectorID.length - suffix.length ≤ 60

namespace RuntimeBinding

def schemaVersionV1 : GoString := ascii "read-task-runtime-binding.v1"

def valid (binding : RuntimeBinding) : Bool :=
  binding.schemaVersion == schemaVersionV1 && validSHA256Hex binding.connectorDigest &&
    validSHA256Hex binding.targetDigest && validSHA256Hex binding.executorDigest &&
    validSHA256Hex binding.runtimeDigest && binding.boundAt ≠ 0 &&
    binding.boundAt == truncateMicrosecond binding.boundAt

def isZero (binding : RuntimeBinding) : Bool := binding == {}

def equal (binding other : RuntimeBinding) : Bool := binding.valid && other.valid && binding == other

end RuntimeBinding

namespace Screening

variable (screening : Screening)

def validHashedJSONObject (value hash : GoString) : Bool :=
  screening.safeJSONObject value && validSHA256Hex hash && screening.sha256Hex value == hash

def validAttributes (attributes : GoMap GoString GoString) : Bool :=
  attributes.size ≤ 32 && !attributes.anyEntry (fun key value =>
    !(lowCardinality key && key.length ≤ 64 && value.length ≤ 512 && screening.safeMetadata key value))

end Screening

section Validate

variable (screening : Screening)

/-- `signal.Validate()` and the further checks of `NormalizeSignalForReplay` -/
def Signal.valid (signal : Signal) : Bool :=
  validResourceID signal.id && validResourceID signal.workspaceID && validResourceID signal.integrationID &&
    signal.provider ≠ [] && signal.providerEventID ≠ [] && validSHA256Hex signal.payloadHash &&
    signal.fingerprint ≠ [] && signal.observedAt ≠ 0 && signal.provider.length ≤ 64 &&
    signal.providerEventID.length ≤ 512 && signal.fingerprint.length ≤ 512 && lowCardinality signal.provider &&
    screening.safeText signal.provider && screening.safeText signal.providerEventID &&
    screening.safeText signal.fingerprint && (signal.status == .firing || signal.status == .resolved) &&
    signal.labels.size ≤ 64 && !signal.labels.anyEntry (fun key value =>
      !(validSignalLabelKey key && value.length ≤ 512 && screening.safeMetadata key value))

namespace Incident

def valid (incident : Incident) : Bool :=
  validResourceID incident.id && validResourceID incident.tenantID && validResourceID incident.workspaceID &&
    (incident.serviceID == [] || validResourceID incident.serviceID) &&
    (incident.environmentID == [] || validResourceID incident.environmentID) &&
    (incident.confirmedHypothesisID == [] || validResourceID incident.confirmedHypothesisID) &&
    incident.severity ≠ [] && incident.title ≠ [] && incident.openedAt ≠ 0 && incident.updatedAt ≠ 0 &&
    incident.openedAt ≤ incident.updatedAt && 0 < incident.version &&
    (if incident.correlationKey = [] then incident.lastSignalAt = 0 && incident.signalCount = 0
      else validCorrelationKey incident.correlationKey && incident.lastSignalAt ≠ 0 && 0 < incident.signalCount &&
        incident.openedAt ≤ incident.lastSignalAt && incident.lastSignalAt ≤ incident.updatedAt) &&
    match incident.mappingStatus with
    | .exact => incident.serviceID ≠ [] && incident.environmentID ≠ []
    | .ambiguous | .unresolved => true
    | .other _ => false

def validForCreate (incident : Incident) : Bool :=
  incident.valid && incident.status == .open && incident.version == 1 && incident.confirmedHypothesisID == []

end Incident

def validInvestigationModelState : InvestigationStatus → ModelStatus → Bool
  | .queued, modelStatus => modelStatus == .pending
  | .running, modelStatus => modelStatus == .pending || modelStatus == .running
  | .completed, modelStatus | .partially, modelStatus =>
    modelStatus == .completed || modelStatus == .failed || modelStatus == .skipped
  | .failed, modelStatus | .cancelled, modelStatus => modelStatus == .cancelled
  | .other _, _ => false

namespace Investigation

def statusTimes (item : Investigation) : Bool :=
  match item.status with
  | .queued => item.startedAt = 0 && item.completedAt = 0
  | .running => item.startedAt ≠ 0 && item.completedAt = 0
  | .partially | .completed => item.startedAt ≠ 0 && item.completedAt ≠ 0
  | .failed | .cancelled => item.completedAt ≠ 0
  | .other _ => false

def valid (item : Investigation) : Bool :=
  validIdentifier item.id 256 && validIdentifier item.workspaceID 256 && validIdentifier item.incidentID 256 &&
    validInvestigationModelState item.status item.modelStatus && validIdempotencyKey item.idempotencyKey &&
    validSHA256Hex item.requestHash &&
    (match item.requestHashVersion with
      | .v1 => item.planBinding == {}
      | .v2 => item.planBinding.valid) &&
    (if item.status = .failed ∨ item.status = .cancelled then validFailureCode item.failureCode
      else item.failureCode == []) &&
    (if item.modelStatus = .failed then validFailureCode item.modelFailureCode else item.modelFailureCode == []) &&
    lifecycleTimes item.createdAt item.startedAt item.completedAt item.updatedAt && item.statusTimes

/-- `QUEUED` or `RUNNING` -/
def active (item : Investigation) : Bool := item.status == .queued || item.status == .running

end Investigation

namespace ReadTask

def statusFields (task : ReadTask) : Bool :=
  match task.status with
  | .queued => task.startedAt = 0 && task.completedAt = 0 && task.evidenceID == [] && task.failureCode == []
  | .running => task.startedAt ≠ 0 && task.completedAt = 0 && task.evidenceID == [] && task.failureCode == []
  | .evidence => task.startedAt ≠ 0 && task.completedAt ≠ 0 && validIdentifier task.evidenceID 256 &&
      task.failureCode == []
  | .failed => task.startedAt ≠ 0 && task.completedAt ≠ 0 && task.evidenceID == [] && validFailureCode task.failureCode
  | .cancelled => task.completedAt ≠ 0 && task.evidenceID == [] && validFailureCode task.failureCode
  | .other _ => false

def valid (task : ReadTask) : Bool :=
  validIdentifier task.id 256 && validIdentifier task.workspaceID 256 && validIdentifier task.incidentID 256 &&
    validIdentifier task.investigationID 256 && 0 < task.position && task.position ≤ 12 && lowCardinality task.key &&
    task.key.length ≤ 64 && validConnectorID task.connectorID && validOperation task.operation &&
    screening.validHashedJSONObject task.input task.inputHash &&
    (task.runtimeBinding.isZero || (task.runtimeBinding.valid &&
      connectorDigestMatchesID task.connectorID task.runtimeBinding.connectorDigest &&
      task.runtimeBinding.boundAt == task.createdAt)) &&
    (task.failureCode == [] || validFailureCode task.failureCode) &&
    lifecycleTimes task.createdAt task.startedAt task.completedAt task.updatedAt && task.statusFields

/-- `QUEUED` or `RUNNING` -/
def pending (task : ReadTask) : Bool := task.status == .queued || task.status == .running

end ReadTask

def Evidence.valid (evidence : Evidence) : Bool :=
  validIdentifier evidence.id 256 && validIdentifier evidence.workspaceID 256 &&
    validIdentifier evidence.incidentID 256 && validIdentifier evidence.investigationID 256 &&
    validIdentifier evidence.taskID 256 && validConnectorID evidence.connectorID &&
    screening.validHashedJSONObject evidence.payload evidence.contentHash &&
    screening.validAttributes evidence.attributes && evidence.collectedAt ≠ 0 && evidence.createdAt ≠ 0 &&
    evidence.collectedAt ≤ evidence.createdAt

def RunnerEvidenceReceipt.valid (receipt : RunnerEvidenceReceipt) : Bool :=
  let success := validIdentifier receipt.evidenceID 256 && validSHA256Hex receipt.contentHash &&
    receipt.failureCode == []
  let failure := receipt.evidenceID == [] && receipt.contentHash == [] && validFailureCode receipt.failureCode
  validIdentifier receipt.id 256 && validIdentifier receipt.workspaceID 256 &&
    validIdentifier receipt.investigationID 256 && validIdentifier receipt.taskID 256 &&
    validIdentifier receipt.runnerID 256 && validConnectorID receipt.connectorID &&
    validIdempotencyKey receipt.idempotencyKey && success != failure && receipt.receivedAt ≠ 0

/-- A `float64` between 0 and 1, minus zero included. -/
def validConfidence (bits : UInt64) : Bool := bits ≤ 0x3FF0000000000000 || bits == 0x8000000000000000

def Hypothesis.valid (hypothesis : Hypothesis) : Bool :=
  validIdentifier hypothesis.id 256 && validIdentifier hypothesis.workspaceID 256 &&
    validIdentifier hypothesis.incidentID 256 && validIdentifier hypothesis.investigationID 256 &&
    0 < hypothesis.rank && hypothesis.rank ≤ 100 && validConfidence hypothesis.confidence &&
    hypothesis.summary ≠ [] && screening.trimmed hypothesis.summary && hypothesis.summary.length ≤ 4096 &&
    screening.safeText hypothesis.summary &&
    screening.validHashedJSONObject hypothesis.proposal hypothesis.proposalHash && hypothesis.unknowns.length ≤ 32 &&
    hypothesis.unknowns.all (fun unknown => unknown ≠ [] && screening.trimmed unknown && unknown.length ≤ 512 &&
      screening.safeText unknown) &&
    hypothesis.evidenceIDs ≠ [] && hypothesis.evidenceIDs.length ≤ 64 &&
    hypothesis.evidenceIDs.all (validIdentifier · 256) && hypothesis.evidenceIDs.Nodup && hypothesis.createdAt ≠ 0

def Feedback.valid (feedback : Feedback) : Bool :=
  validIdentifier feedback.id 256 && validIdentifier feedback.workspaceID 256 &&
    validIdentifier feedback.incidentID 256 && validIdentifier feedback.investigationID 256 &&
    validIdentifier feedback.hypothesisID 256 && feedback.actor.type == .human &&
    validIdentifier feedback.actor.id 256 &&
    (feedback.verdict == .confirmed || feedback.verdict == .rejected || feedback.verdict == .inconclusive) &&
    screening.safeJSONObject feedback.details && feedback.createdAt ≠ 0

end Validate

end AiopsSystem.Investigations
