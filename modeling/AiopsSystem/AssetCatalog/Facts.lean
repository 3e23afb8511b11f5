import AiopsSystem.Go.Attempt
import AiopsSystem.Go.Clock
import AiopsSystem.Go.Text

/-! # Facts of a discovery page

The items and relations a source reports, the policy of its revision and
`ValidateFacts`. What decides whether a text or a document may be stored at all
(UTF-8 and control characters, credential markers, canonical JSON) is a
parameter; the shape of a fact, its limits and its identities are not.
-/

namespace AiopsSystem.AssetCatalog

open Go

inductive Kind where
  | service | linuxVM | windowsVM | bareMetalHost | kubernetesCluster | kubernetesNamespace | kubernetesWorkload
  | databaseInstance | database | metricsSource | logSource | traceSource | awxInventory | argoApplication
  | ciPipeline | gitRepository | cloudResource
deriving DecidableEq

def Kind.text : Kind → GoString
  | .service => ascii "SERVICE"
  | .linuxVM => ascii "LINUX_VM"
  | .windowsVM => ascii "WINDOWS_VM"
  | .bareMetalHost => ascii "BARE_METAL_HOST"
  | .kubernetesCluster => ascii "KUBERNETES_CLUSTER"
  | .kubernetesNamespace => ascii "KUBERNETES_NAMESPACE"
  | .kubernetesWorkload => ascii "KUBERNETES_WORKLOAD"
  | .databaseInstance => ascii "DATABASE_INSTANCE"
  | .database => ascii "DATABASE"
  | .metricsSource => ascii "METRICS_SOURCE"
  | .logSource => ascii "LOG_SOURCE"
  | .traceSource => ascii "TRACE_SOURCE"
  | .awxInventory => ascii "AWX_INVENTORY"
  | .argoApplication => ascii "ARGO_APPLICATION"
  | .ciPipeline => ascii "CI_PIPELINE"
  | .gitRepository => ascii "GIT_REPOSITORY"
  | .cloudResource => ascii "CLOUD_RESOURCE"

inductive RelationshipType where
  | runsOn | contains | dependsOn | monitoredBy | logsTo | tracesTo | deliveredBy | managedBy | primaryRuntimeFor
deriving DecidableEq

def RelationshipType.text : RelationshipType → GoString
  | .runsOn => ascii "RUNS_ON"
  | .contains => ascii "CONTAINS"
  | .dependsOn => ascii "DEPENDS_ON"
  | .monitoredBy => ascii "MONITORED_BY"
  | .logsTo => ascii "LOGS_TO"
  | .tracesTo => ascii "TRACES_TO"
  | .deliveredBy => ascii "DELIVERED_BY"
  | .managedBy => ascii "MANAGED_BY"
  | .primaryRuntimeFor => ascii "PRIMARY_RUNTIME_FOR"

inductive FreshnessKind where
  | catalogSequence | objectSequence | objectTimeSequence | checkpointSequence
deriving DecidableEq

def FreshnessKind.text : FreshnessKind → GoString
  | .catalogSequence => ascii "CATALOG_SEQUENCE"
  | .objectSequence => ascii "OBJECT_SEQUENCE"
  | .objectTimeSequence => ascii "OBJECT_TIME_SEQUENCE"
  | .checkpointSequence => ascii "CHECKPOINT_SEQUENCE"

inductive FieldOwnership where
  | source | governance | mergeDecision
deriving DecidableEq

def FieldOwnership.text : FieldOwnership → GoString
  | .source => ascii "SOURCE"
  | .governance => ascii "GOVERNANCE"
  | .mergeDecision => ascii "MERGE_DECISION"

/-- The keys of `catalogFieldCodes`. -/
inductive FieldCode where
  | providerKind | externalID | kind | displayName | ownerGroup | criticality | dataClassification | labels
  | environmentID | lifecycle | mappingStatus | typeDetails
deriving DecidableEq

def FieldCode.literal : FieldCode → String
  | .providerKind => "provider_kind"
  | .externalID => "external_id"
  | .kind => "kind"
  | .displayName => "display_name"
  | .ownerGroup => "owner_group"
  | .criticality => "criticality"
  | .dataClassification => "data_classification"
  | .labels => "labels"
  | .environmentID => "environment_id"
  | .lifecycle => "lifecycle"
  | .mappingStatus => "mapping_status"
  | .typeDetails => "type_details"

def FieldCode.text (code : FieldCode) : GoString := ascii code.literal

inductive EnvironmentMappingMode where
  | single | explicitItem
deriving DecidableEq

structure TextMap where
  entries : List (GoString × GoString)
  sorted : (entries.map Prod.fst).Pairwise (fun left right => textLess left right = true)

instance : EmptyCollection TextMap := ⟨⟨[], .nil⟩⟩

structure FreshnessCandidate where
  kind : FreshnessKind
  orderTime : Option Int
  orderSequence : Int
  providerVersionSHA256 : GoString

structure FieldProvenance where
  fieldCode : FieldCode
  providerPathCode : GoString
  ownership : FieldOwnership
  confidence : Int

structure NormalizedItem where
  (environmentID providerKind externalID : GoString)
  /-- `none` is the empty kind of a tombstone. -/
  kind : Option Kind
  (displayName schemaVersion document documentSHA256 : GoString)
  freshness : FreshnessCandidate
  fieldProvenance : List FieldProvenance
  tombstone : Bool
  tombstoneReason : GoString
  fingerprints : TextMap

structure ObservedRelation where
  (sourceEnvironmentID targetEnvironmentID fromExternalID toExternalID : GoString)
  type : RelationshipType
  (providerPathCode crossEnvironmentPolicyReferenceID : GoString)
  confidence : Int
  freshness : FreshnessCandidate

structure FactPolicy where
  providerKind : GoString
  freshnessKind : FreshnessKind
  environmentMapping : EnvironmentMappingMode
  (authorityEnvironmentIDs trustedPathCodes : List GoString)
  relationshipTypes : List RelationshipType
  allowedDocumentFields : List (Kind × List GoString)

/-- What `ValidateFacts` asks about the content of texts and documents. -/
structure Screening where
  /-- Valid UTF-8 without surrounding space, control or format characters. -/
  (safeText sensitiveName sensitiveValue : GoString → Bool)
  /-- The fields of a strict canonical JSON object, and whether it holds anything sensitive. -/
  document : GoString → Option (List GoString × Bool)
  sha256Hex : GoString → GoString

/-- The codes of `ErrFactContractViolation`. -/
inductive FactViolation where
  | itemLimitExceeded | relationLimitExceeded | duplicateItemIdentity | duplicateRelationIdentity
  | invalidPolicy | invalidPolicyAuthority | invalidPolicyPaths | invalidPolicyRelationships
  | invalidPolicyDocumentFields | itemAuthorityMismatch | itemProviderMismatch | invalidItemIdentity
  | invalidTombstone | invalidItemShape | itemKindNotAllowed | relationAuthorityMismatch
  | invalidRelationIdentity | invalidRelationPolicyReference | relationTypeNotAllowed
  | invalidRelationProvenance | invalidFreshness | invalidFieldProvenance | invalidDocument
  | invalidDocumentDigest | documentFieldNotAllowed | sensitiveDocument | invalidFingerprints

def isUpperCodeByte (b : UInt8) : Bool := isUpper b || isDigit b || b == 95

/-- `^[A-Z][A-Z0-9_]{0,limit}$` -/
def matchesCode (limit : Nat) (value : GoString) : Bool :=
  value.length ≤ limit + 1 && matchesHeadTail isUpper isUpperCodeByte value

/-- `^[0-9a-f]{8}-[0-9a-f]{4}-[1-5][0-9a-f]{3}-[89ab][0-9a-f]{3}-[0-9a-f]{12}$` -/
def matchesUUID (value : GoString) : Bool :=
  match splitByte 45 value with
  | [a, b, c, d, e] =>
    matchesHex 8 a && matchesHex 4 b && matchesHex 4 c && matchesHex 4 d && matchesHex 12 e &&
      (c.head?.any fun digit => 49 ≤ digit && digit ≤ 53) &&
      (d.head?.any fun digit => digit == 56 || digit == 57 || digit == 97 || digit == 98)
  | _ => false

/-- `^[A-Za-z0-9][A-Za-z0-9_.:/@+\-]{0,127}$` -/
def matchesProviderPath (value : GoString) : Bool :=
  value.length ≤ 128 && matchesHeadTail isAlphanumeric (fun b => isIdentifierByte b || b == 43) value

/-- `^[A-Za-z0-9][A-Za-z0-9_.\-]{0,limit}$` -/
def matchesReference (limit : Nat) (value : GoString) : Bool :=
  value.length ≤ limit + 1 && matchesHeadTail isAlphanumeric
    (fun b => isAlphanumeric b || b == 95 || b == 46 || b == 45) value

namespace Screening

variable (screening : Screening)

def validSafeText (value : GoString) (minimum maximum : Nat) : Bool :=
  minimum ≤ value.length && value.length ≤ maximum && screening.safeText value

def validTrustedPathCode (value : GoString) : Bool := matchesProviderPath value && !screening.sensitiveName value

def validDocumentField (value : GoString) : Bool := matchesReference 63 value && !screening.sensitiveName value

end Screening

def validSortedUniqueStrings (values : List GoString) (minimum maximum : Nat) (valid : GoString → Bool) : Bool :=
  minimum ≤ values.length && values.length ≤ maximum &&
    decide (values.Pairwise (fun left right => textLess left right = true)) && values.all valid

/-- A `time.Time` that the database stores unchanged: whole microseconds of the years 2000 to 9999. -/
def validStoredTime (value : Int) : Bool :=
  unixEpoch + 946684800 * second ≤ value && value < unixEpoch + 253402300800 * second && value % microsecond == 0

def environmentAllowed (policy : FactPolicy) (environmentID : GoString) : Bool :=
  match policy.environmentMapping with
  | .single => policy.authorityEnvironmentIDs == [environmentID]
  | .explicitItem => policy.authorityEnvironmentIDs.contains environmentID

section Validation

variable (screening : Screening)

def validateFactPolicy (policy : FactPolicy) : Except FactViolation Unit := do
  require (matchesCode 63 policy.providerKind) .invalidPolicy
  require (validSortedUniqueStrings policy.authorityEnvironmentIDs 1 100 matchesUUID) .invalidPolicyAuthority
  require (policy.environmentMapping = .single → policy.authorityEnvironmentIDs.length = 1) .invalidPolicyAuthority
  require (validSortedUniqueStrings policy.trustedPathCodes 1 128 screening.validTrustedPathCode) .invalidPolicyPaths
  require (policy.relationshipTypes.length ≤ 128 ∧
    policy.relationshipTypes.Pairwise (fun left right => textLess left.text right.text = true)) .invalidPolicyRelationships
  require (policy.allowedDocumentFields.length ≤ 128) .invalidPolicyDocumentFields
  require (policy.allowedDocumentFields.all fun entry =>
    validSortedUniqueStrings entry.2 0 128 screening.validDocumentField) .invalidPolicyDocumentFields

def validateFreshness (candidate : FreshnessCandidate) (expected : FreshnessKind) : Except FactViolation Unit := do
  require (candidate.kind = expected ∧ 0 < candidate.orderSequence ∧
    matchesHex 64 candidate.providerVersionSHA256) .invalidFreshness
  match candidate.kind, candidate.orderTime with
  | .objectTimeSequence, some value => require (validStoredTime value) .invalidFreshness
  | .objectTimeSequence, none => .error .invalidFreshness
  | _, some _ => .error .invalidFreshness
  | _, none => pure ()

def itemProvenanceFields : List FieldCode :=
  [.displayName, .environmentID, .externalID, .kind, .providerKind, .typeDetails]

def tombstoneProvenanceFields : List FieldCode := [.environmentID, .externalID, .providerKind]

def validateFieldProvenance (values : List FieldProvenance) (policy : FactPolicy) (required : List FieldCode) :
    Except FactViolation Unit := do
  require (required.length ≤ values.length ∧ values.length ≤ 12) .invalidFieldProvenance
  require (values.all fun value => !screening.sensitiveName value.fieldCode.text &&
    screening.validTrustedPathCode value.providerPathCode && policy.trustedPathCodes.contains value.providerPathCode &&
    value.ownership == .source && 0 ≤ value.confidence && value.confidence ≤ 100) .invalidFieldProvenance
  require ((values.map FieldProvenance.fieldCode).Nodup) .invalidFieldProvenance
  require (required.all fun field => (values.map FieldProvenance.fieldCode).contains field) .invalidFieldProvenance

def validateDocument (document encodedDigest : GoString) (allowedFields : List GoString) :
    Except FactViolation Unit := do
  require (2 ≤ document.length ∧ document.length ≤ 65536 ∧ matchesHex 64 encodedDigest) .invalidDocument
  let (fields, sensitive) ← orFail (screening.document document) .invalidDocument
  require (screening.sha256Hex document = encodedDigest) .invalidDocumentDigest
  require (fields.all allowedFields.contains) .documentFieldNotAllowed
  require (sensitive = false) .sensitiveDocument

def validateFingerprints (values : TextMap) : Except FactViolation Unit := do
  require (values.entries.length ≤ 64) .invalidFingerprints
  require (values.entries.all fun entry => screening.validSafeText entry.1 1 128 && matchesProviderPath entry.1 &&
    !screening.sensitiveName entry.1 && screening.validSafeText entry.2 1 512 &&
    !screening.sensitiveValue entry.2) .invalidFingerprints

def validateNormalizedItem (item : NormalizedItem) (policy : FactPolicy) : Except FactViolation Unit := do
  require (matchesUUID item.environmentID ∧ environmentAllowed policy item.environmentID) .itemAuthorityMismatch
  require (item.providerKind = policy.providerKind ∧ matchesCode 63 item.providerKind) .itemProviderMismatch
  require (screening.validSafeText item.externalID 1 512 ∧ ¬ screening.sensitiveValue item.externalID)
    .invalidItemIdentity
  validateFreshness item.freshness policy.freshnessKind
  if item.tombstone then
    require (item.kind = none ∧ item.displayName = [] ∧ item.document = [] ∧ item.documentSHA256 = [] ∧
      item.fingerprints.entries = [] ∧ matchesCode 127 item.tombstoneReason) .invalidTombstone
    require (item.schemaVersion = [] ∨ screening.validTrustedPathCode item.schemaVersion) .invalidTombstone
    validateFieldProvenance screening item.fieldProvenance policy tombstoneProvenanceFields
  else
    let kind ← orFail item.kind .invalidItemShape
    require (screening.validSafeText item.displayName 1 256 ∧ ¬ screening.sensitiveValue item.displayName ∧
      screening.validTrustedPathCode item.schemaVersion ∧ item.tombstoneReason = []) .invalidItemShape
    let allowedFields ← orFail (policy.allowedDocumentFields.lookup kind) .itemKindNotAllowed
    validateDocument screening item.document item.documentSHA256 allowedFields
    validateFingerprints screening item.fingerprints
    validateFieldProvenance screening item.fieldProvenance policy itemProvenanceFields

def validateObservedRelation (relation : ObservedRelation) (policy : FactPolicy) : Except FactViolation Unit := do
  require (matchesUUID relation.sourceEnvironmentID ∧ matchesUUID relation.targetEnvironmentID ∧
    environmentAllowed policy relation.sourceEnvironmentID ∧ environmentAllowed policy relation.targetEnvironmentID)
    .relationAuthorityMismatch
  require (screening.validSafeText relation.fromExternalID 1 512 ∧ screening.validSafeText relation.toExternalID 1 512 ∧
    ¬ screening.sensitiveValue relation.fromExternalID ∧ ¬ screening.sensitiveValue relation.toExternalID ∧
    ¬ (relation.sourceEnvironmentID = relation.targetEnvironmentID ∧ relation.fromExternalID = relation.toExternalID))
    .invalidRelationIdentity
  require ((relation.sourceEnvironmentID ≠ relation.targetEnvironmentID ↔
      relation.crossEnvironmentPolicyReferenceID ≠ []) ∧
    (relation.crossEnvironmentPolicyReferenceID ≠ [] →
      matchesReference 127 relation.crossEnvironmentPolicyReferenceID)) .invalidRelationPolicyReference
  require (policy.relationshipTypes.contains relation.type) .relationTypeNotAllowed
  require (screening.validTrustedPathCode relation.providerPathCode ∧
    policy.trustedPathCodes.contains relation.providerPathCode ∧ 0 ≤ relation.confidence ∧ relation.confidence ≤ 100)
    .invalidRelationProvenance
  validateFreshness relation.freshness policy.freshnessKind

def itemIdentity (item : NormalizedItem) : GoString := joinZero item.providerKind item.externalID

/-- `strings.Join` of the six parts of a relation's identity at the zero byte. -/
def relationIdentity (relation : ObservedRelation) : GoString :=
  joinByte 0 [relation.sourceEnvironmentID, relation.targetEnvironmentID, relation.fromExternalID,
    relation.toExternalID, relation.type.text, relation.providerPathCode]

def validateDistinct {α : Type} (validate : α → Except FactViolation Unit) (identity : α → GoString)
    (duplicate : FactViolation) : List GoString → List α → Except FactViolation Unit
  | _, [] => pure ()
  | seen, fact :: rest => do
    validate fact
    require (identity fact ∉ seen) duplicate
    validateDistinct validate identity duplicate (identity fact :: seen) rest

def validateFacts (items : List NormalizedItem) (relations : List ObservedRelation) (policy : FactPolicy) :
    Except FactViolation Unit := do
  validateFactPolicy screening policy
  require (items.length ≤ 10000) .itemLimitExceeded
  require (relations.length ≤ 50000) .relationLimitExceeded
  validateDistinct (fun item => validateNormalizedItem screening item policy) itemIdentity .duplicateItemIdentity [] items
  validateDistinct (fun relation => validateObservedRelation screening relation policy) relationIdentity
    .duplicateRelationIdentity [] relations

end Validation

end AiopsSystem.AssetCatalog
