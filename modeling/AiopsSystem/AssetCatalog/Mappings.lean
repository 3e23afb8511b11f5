import AiopsSystem.AssetCatalog.Tables

/-! # Decisions of operators

`CreateBinding`, `DeleteBinding`, `ResolveConflict` and `Transition`, each one
serializable transaction. A call whose idempotency key is already in the audit
table answers from the record and writes nothing.
-/

namespace AiopsSystem.AssetCatalog

open Go

inductive MappingError where
  | invalidRequest | notFound | scopeViolation | versionConflict | stateConflict | idempotency

structure MutationContext where
  scope : SourceScope
  (environmentID actorID idempotencyKey requestHash : GoString)

structure CreateBindingCommand where
  context : MutationContext
  (serviceID assetID : GoString)
  role : BindingRole
  reasonCode : GoString

structure DeleteBindingCommand where
  context : MutationContext
  bindingID : GoString
  expectedVersion : Int
  reasonCode : GoString

structure MappingDecision where
  context : MutationContext
  conflictID : GoString
  /-- Empty unless the decision confirms a service. -/
  serviceID : GoString
  resolution : ConflictResolution
  bindingRole : Option BindingRole
  reasonCode : GoString
  expectedVersion : Int

structure TransitionCommand where
  context : MutationContext
  assetID : GoString
  target : Lifecycle
  reasonCode : GoString
  expectedVersion : Int

inductive MutationCommand where
  | create (command : CreateBindingCommand)
  | delete (command : DeleteBindingCommand)
  | resolve (decision : MappingDecision)
  | transition (command : TransitionCommand)

structure MutationScreening where
  /-- `Validate` of the context, with an environment scope. -/
  validContext : MutationContext → Bool
  validAssetCode : GoString → Bool
  /-- `semanticCommandHash` -/
  commandSHA256 : MutationCommand → GoString

section Lookups

variable (context : MutationContext) (database : Database)

def findMutationAudit : Option MutationAudit :=
  database.audits.find? fun record =>
    decide (record.scope = context.scope ∧ record.idempotencyKey = context.idempotencyKey)

def lockConflict (conflictID : GoString) : Except MappingError Conflict :=
  orFail (database.catalog.conflicts.find? fun conflict => decide (conflict.scope = context.scope ∧
    conflict.environmentID = context.environmentID ∧ conflict.id = conflictID)) .notFound

def findAsset (assetID : GoString) : Option Asset :=
  database.catalog.assets.find? fun asset => decide (asset.locator.scope = context.scope ∧
    asset.environmentID = context.environmentID ∧ asset.id = assetID)

def lockMappingAsset (assetID : GoString) : Except MappingError Asset := do
  require (matchesUUID assetID) .invalidRequest
  orFail (findAsset context database assetID) .scopeViolation

/-- `asset_catalog_lock_exact_service_binding` -/
def lockExactServiceBinding (serviceID : GoString) : Except MappingError Unit :=
  require (⟨context.scope, context.environmentID, serviceID⟩ ∈ database.exactServices) .scopeViolation

def lockBinding (bindingID : GoString) : Except MappingError ServiceAssetBinding :=
  orFail (database.bindings.find? fun binding => decide (binding.scope = context.scope ∧
    binding.environmentID = context.environmentID ∧ binding.id = bindingID)) .notFound

/-- The columns `bindingMatchesAudit` compares. -/
def bindingMatchesAudit (binding : ServiceAssetBinding) (record : MutationAudit) : Bool :=
  record.binding.any fun recorded => decide (binding.id = recorded.id ∧ binding.assetID = recorded.assetID ∧
    binding.serviceID = recorded.serviceID ∧ binding.role = recorded.role ∧ binding.status = recorded.status ∧
    binding.version = recorded.version)

/-- `validateMappingAudit` and `validateMutationReceiptIdentity` -/
def validateMutationAudit (record : MutationAudit) (commandHash : GoString) (action : MutationAction)
    (resourceID : GoString) : Except MappingError Unit :=
  require (record.action = action ∧ record.resourceID = resourceID ∧ record.payloadHash = context.requestHash ∧
    record.actorID = context.actorID ∧ record.environmentID = context.environmentID ∧
    record.commandSHA256 = commandHash ∧ 0 < record.resultVersion) .idempotency

end Lookups

section Writes

variable (context : MutationContext)

/-- The row `insertBindingSQL` writes. -/
def newBinding (bindingID serviceID assetID : GoString) (role : BindingRole) (provenance : Provenance) :
    ServiceAssetBinding where
  id := bindingID
  scope := context.scope
  environmentID := context.environmentID
  serviceID := serviceID
  assetID := assetID
  role := role
  provenance := provenance
  status := .active
  version := 1

def sameActiveBinding (row other : ServiceAssetBinding) : Bool :=
  decide (other.status = .active ∧ other.scope = row.scope ∧ other.environmentID = row.environmentID ∧
    other.serviceID = row.serviceID ∧ other.assetID = row.assetID ∧ other.role = row.role)

/-- `insertBindingSQL`: the statement selects the asset only while it is mapped exactly, and the table holds an
active binding once. -/
def insertBinding (database : Database) (row : ServiceAssetBinding) : Except MappingError Database := do
  let asset ← orFail (findAsset context database row.assetID) .notFound
  require (asset.mappingStatus = .exact) .notFound
  require (row.id ∉ database.bindings.map ServiceAssetBinding.id ∧ ¬ database.bindings.any (sameActiveBinding row))
    .stateConflict
  pure { database with bindings := database.bindings ++ [row] }

/-- `UPDATE assets ... SET version = version + 1` for one asset at its version. -/
def updateMappingAsset (database : Database) (asset : Asset) (change : Asset → Asset) : Database :=
  let affected (row : Asset) : Bool := decide (row.id = asset.id ∧ row.version = asset.version)
  { database with
    catalog := { database.catalog with assets := Sql.update affected change database.catalog.assets } }

def Asset.mapped (mapping : MappingStatus) (asset : Asset) : Asset :=
  { asset with mappingStatus := mapping, version := asset.version + 1 }

def Asset.moved (lifecycle : Lifecycle) (asset : Asset) : Asset :=
  { asset with lifecycle := lifecycle, version := asset.version + 1 }

def Conflict.decided (decision : MappingDecision) (status : ConflictStatus) (conflict : Conflict) : Conflict :=
  { conflict with
    status := status
    resolution := some decision.resolution
    resolutionReasonCode := decision.reasonCode
    resolvedBy := decision.context.actorID
    version := conflict.version + 1 }

def updateConflictDecision (database : Database) (decision : MappingDecision) (status : ConflictStatus)
    (conflict : Conflict) : Database :=
  let affected (row : Conflict) : Bool :=
    decide (row.id = conflict.id ∧ row.version = decision.expectedVersion ∧ row.status = .opened)
  { database with
    catalog := { database.catalog with
      conflicts := Sql.update affected (Conflict.decided decision status) database.catalog.conflicts } }

def otherOpenConflict (database : Database) (conflict : Conflict) : Bool :=
  database.catalog.conflicts.any fun other => decide (other.scope = conflict.scope ∧
    other.environmentID = conflict.environmentID ∧ other.assetID = conflict.assetID ∧ other.id ≠ conflict.id ∧
    other.status = .opened)

def mutationAudit (commandHash : GoString) (action : MutationAction) (resourceID : GoString) (resultVersion : Int)
    (asset : Option AssetStamp) (binding : Option ServiceAssetBinding)
    (conflict : Option (ConflictStatus × Option ConflictResolution)) : MutationAudit where
  scope := context.scope
  idempotencyKey := context.idempotencyKey
  actorID := context.actorID
  action := action
  resourceID := resourceID
  payloadHash := context.requestHash
  environmentID := context.environmentID
  commandSHA256 := commandHash
  resultVersion := resultVersion
  asset := asset
  binding := binding
  conflict := conflict

def insertAudit (database : Database) (record : MutationAudit) : Database :=
  { database with audits := database.audits ++ [record] }

end Writes

section Operations

variable (screening : MutationScreening) (database : Database)

def bindable (asset : Asset) : Bool :=
  decide (asset.mappingStatus = .exact ∧ asset.lifecycle ≠ .retired ∧ asset.lifecycle ≠ .quarantined)

def replayCreateBinding (command : CreateBindingCommand) (record : MutationAudit) : Except MappingError Unit := do
  require (record.binding.isSome) .idempotency
  validateMutationAudit command.context record (screening.commandSHA256 (.create command)) .bindingCreated
    record.resourceID
  require (record.binding.any fun recorded => decide (recorded.serviceID = command.serviceID ∧
    recorded.assetID = command.assetID ∧ recorded.role = command.role ∧ recorded.id = record.resourceID)) .idempotency
  let asset ← lockMappingAsset command.context database command.assetID
  require (bindable asset) .stateConflict
  lockExactServiceBinding command.context database command.serviceID
  let binding ← lockBinding command.context database record.resourceID
  require (bindingMatchesAudit binding record) .stateConflict

def createBinding (command : CreateBindingCommand) (bindingID : GoString) : Except MappingError Database := do
  require (screening.validContext command.context ∧ matchesUUID command.serviceID ∧ matchesUUID command.assetID ∧
    screening.validAssetCode command.reasonCode) .invalidRequest
  match findMutationAudit command.context database with
  | some record =>
    replayCreateBinding screening database command record
    pure database
  | none =>
    let asset ← lockMappingAsset command.context database command.assetID
    require (bindable asset) .stateConflict
    lockExactServiceBinding command.context database command.serviceID
    let binding := newBinding command.context bindingID command.serviceID command.assetID command.role .manual
    let bound ← insertBinding command.context database binding
    pure (insertAudit bound (mutationAudit command.context (screening.commandSHA256 (.create command))
      .bindingCreated binding.id binding.version none (some binding) none))

def ServiceAssetBinding.removed (binding : ServiceAssetBinding) : ServiceAssetBinding :=
  { binding with status := .inactive, version := binding.version + 1 }

def replayDeleteBinding (command : DeleteBindingCommand) (record : MutationAudit) : Except MappingError Unit := do
  validateMutationAudit command.context record (screening.commandSHA256 (.delete command)) .bindingRemoved
    command.bindingID
  let binding ← lockBinding command.context database record.resourceID
  require (bindingMatchesAudit binding record) .stateConflict

def deleteBinding (command : DeleteBindingCommand) : Except MappingError Database := do
  require (screening.validContext command.context ∧ matchesUUID command.bindingID ∧
    screening.validAssetCode command.reasonCode ∧ 0 < command.expectedVersion) .invalidRequest
  match findMutationAudit command.context database with
  | some record =>
    replayDeleteBinding screening database command record
    pure database
  | none =>
    let binding ← lockBinding command.context database command.bindingID
    require (binding.version = command.expectedVersion) .versionConflict
    require (binding.status = .active) .stateConflict
    let affected (row : ServiceAssetBinding) : Bool :=
      decide (row.id = binding.id ∧ row.version = binding.version ∧ row.status = .active)
    let unbound := { database with
      bindings := Sql.update affected ServiceAssetBinding.removed database.bindings }
    pure (insertAudit unbound (mutationAudit command.context (screening.commandSHA256 (.delete command))
      .bindingRemoved binding.id binding.removed.version none (some binding.removed) none))

def validateMappingDecision (decision : MappingDecision) : Except MappingError Unit := do
  require (screening.validContext decision.context ∧ matchesUUID decision.conflictID ∧
    screening.validAssetCode decision.reasonCode ∧ 0 < decision.expectedVersion) .invalidRequest
  require (if decision.resolution = .confirmExact then
      matchesUUID decision.serviceID = true ∧ decision.bindingRole.isSome = true
    else decision.serviceID = [] ∧ decision.bindingRole = none) .invalidRequest

def lockMappingAssets (context : MutationContext) (conflict : Conflict) : Except MappingError Asset := do
  let asset ← lockMappingAsset context database conflict.assetID
  match conflict.candidateAssetID with
  | none => pure asset
  | some candidateID =>
    let _ ← lockMappingAsset context database candidateID
    pure asset

def replayConflictDecision (decision : MappingDecision) (conflict : Conflict) (asset : Asset)
    (record : MutationAudit) : Except MappingError Unit := do
  require (conflict.version = record.resultVersion ∧ record.conflict = some (conflict.status, conflict.resolution) ∧
    record.asset = some asset.stamp) .stateConflict
  if decision.resolution = .confirmExact then
    require (record.binding.any fun recorded => decide (recorded.serviceID = decision.serviceID ∧
      some recorded.role = decision.bindingRole)) .idempotency
    lockExactServiceBinding decision.context database decision.serviceID
    let binding ← lockBinding decision.context database ((record.binding.map ServiceAssetBinding.id).getD [])
    require (bindingMatchesAudit binding record) .stateConflict
  else
    require (record.binding = none) .stateConflict

structure DecidedMapping where
  database : Database
  asset : Asset
  status : ConflictStatus
  binding : Option ServiceAssetBinding

/-- `UPDATE assets` through one of the two statements of `ResolveConflict`. -/
def decidedMapping (asset : Asset) (change : Asset → Asset) (status : ConflictStatus) : DecidedMapping where
  database := updateMappingAsset database asset change
  asset := change asset
  status := status
  binding := none

def decideMapping (decision : MappingDecision) (bindingID : GoString) (conflict : Conflict) (asset : Asset) :
    Except MappingError DecidedMapping := do
  match decision.resolution with
  | .confirmExact =>
    require (asset.lifecycle ≠ .quarantined) .stateConflict
    lockExactServiceBinding decision.context database decision.serviceID
    let role ← orFail decision.bindingRole .invalidRequest
    let exact := decidedMapping database asset (Asset.mapped .exact) .resolved
    let binding := newBinding decision.context bindingID decision.serviceID asset.id role .mergeDecision
    let bound ← insertBinding decision.context exact.database binding
    pure { exact with database := bound, binding := some binding }
  | .rejectCandidate =>
    let mapping := if otherOpenConflict database conflict then MappingStatus.ambiguous else .unresolved
    pure (decidedMapping database asset (Asset.mapped mapping) .rejected)
  | .keepUnresolved => pure (decidedMapping database asset (Asset.mapped .unresolved) .resolved)
  | .quarantineAsset =>
    require (asset.lifecycle ≠ .quarantined) .stateConflict
    pure (decidedMapping database asset (Asset.moved .quarantined) .resolved)

def resolveConflict (decision : MappingDecision) (bindingID : GoString) : Except MappingError Database := do
  validateMappingDecision screening decision
  match findMutationAudit decision.context database with
  | some record =>
    validateMutationAudit decision.context record (screening.commandSHA256 (.resolve decision)) .conflictResolved
      decision.conflictID
    let conflict ← lockConflict decision.context database decision.conflictID
    let asset ← lockMappingAssets database decision.context conflict
    replayConflictDecision database decision conflict asset record
    pure database
  | none =>
    let conflict ← lockConflict decision.context database decision.conflictID
    let asset ← lockMappingAssets database decision.context conflict
    require (conflict.version = decision.expectedVersion) .versionConflict
    require (conflict.status = .opened ∧ asset.lifecycle ≠ .retired) .stateConflict
    require (decision.resolution = .confirmExact → ∀ serviceID ∈ conflict.candidateServiceID,
      serviceID = decision.serviceID) .stateConflict
    let decided ← decideMapping database decision bindingID conflict asset
    let closed := updateConflictDecision decided.database decision decided.status conflict
    pure (insertAudit closed (mutationAudit decision.context (screening.commandSHA256 (.resolve decision))
      .conflictResolved conflict.id (conflict.version + 1) (some decided.asset.stamp) decided.binding
      (some (decided.status, some decision.resolution))))

def isLifecycleEdge : Lifecycle → Lifecycle → Bool
  | .discovered, target => target = .active || target = .quarantined || target = .retired
  | .active, target => target = .stale || target = .quarantined || target = .retired
  | .stale, target => target = .active || target = .quarantined || target = .retired
  | .quarantined, target => target = .active || target = .retired
  | .retired, _ => false

def transitionAction : Lifecycle → Option MutationAction
  | .quarantined => some .assetQuarantined
  | .retired => some .assetRetired
  | _ => none

def transition (command : TransitionCommand) : Except MappingError Database := do
  require (screening.validContext command.context ∧ matchesUUID command.assetID ∧
    screening.validAssetCode command.reasonCode ∧ 0 < command.expectedVersion) .invalidRequest
  let action ← orFail (transitionAction command.target) .invalidRequest
  let commandHash := screening.commandSHA256 (.transition command)
  match findMutationAudit command.context database with
  | some record =>
    validateMutationAudit command.context record commandHash action command.assetID
    let asset ← orFail (findAsset command.context database command.assetID) .notFound
    require (asset.version = record.resultVersion ∧
      (record.asset.map AssetStamp.lifecycle) = some asset.lifecycle) .stateConflict
    require (asset.lifecycle = command.target) .idempotency
    pure database
  | none =>
    let asset ← orFail (findAsset command.context database command.assetID) .notFound
    require (asset.version = command.expectedVersion) .versionConflict
    require (isLifecycleEdge asset.lifecycle command.target) .stateConflict
    let moved := updateMappingAsset database asset (Asset.moved command.target)
    pure (insertAudit moved (mutationAudit command.context commandHash action asset.id (asset.version + 1)
      (some (asset.moved command.target).stamp) none none))

end Operations

end AiopsSystem.AssetCatalog
