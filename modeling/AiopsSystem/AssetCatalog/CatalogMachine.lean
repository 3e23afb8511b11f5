import AiopsSystem.AssetCatalog.Mappings
import AiopsSystem.AssetCatalog.PageCommitter
import AiopsSystem.Machine.Run

/-! # The asset catalog as a state machine

Every transaction on the catalog is one step: a commit attempt for a page, a
decision of an operator, and what the other parts of the system do to the rows
a commit reads. The queue inserts runs without progress, one open run for each
source at a time, and steers the columns a page does not own; sources,
revisions and service bindings are published by others. An asset becomes active
when its capabilities are published.
-/

namespace AiopsSystem.AssetCatalog

open Go

def RunStatus.terminal : RunStatus → Bool
  | .succeeded | .partially | .failed | .cancelled => true
  | _ => false

def SourceRun.fresh (run : SourceRun) : Bool :=
  decide (run.status = .queued ∧ run.stageCode = .waiting ∧ run.pageSequence = 0 ∧ run.relationPageSequence = 0 ∧
    run.finalPage = false ∧ run.completeSnapshot = false ∧ run.effectiveComplete = false ∧
    run.cursorAfterSHA256 = [] ∧ run.pageDigest = [] ∧ run.relationPageDigest = [] ∧ run.counts = {})

/-- What the queue may change of a run: not its identity and progress, and nothing once the run has ended. -/
def SourceRun.steered (steering run : SourceRun) : SourceRun :=
  if run.status.terminal then run
  else { run with
    status := steering.status
    stageCode := steering.stageCode
    leaseOwner := steering.leaseOwner
    leaseExpiresAt := steering.leaseExpiresAt
    fenceEpoch := steering.fenceEpoch
    fenceTokenSHA256 := steering.fenceTokenSHA256
    heartbeatSequence := steering.heartbeatSequence
    lineageRolloverReason := steering.lineageRolloverReason
    lineageRolloverEvidenceSHA256 := steering.lineageRolloverEvidenceSHA256
    version := steering.version }

inductive CatalogInput where
  | page (attempt : PageAttempt)
  | createBinding (command : CreateBindingCommand) (bindingID : GoString)
  | deleteBinding (command : DeleteBindingCommand)
  | resolveConflict (decision : MappingDecision) (bindingID : GoString)
  | transition (command : TransitionCommand)
  | enqueue (run : SourceRun)
  | steer (steering : SourceRun)
  | publish (sources : List Source) (revisions : List SourceRevision)
  | bindServices (exactServices : List ExactServiceBinding)
  | activate (assetID : GoString)

inductive CatalogReply where
  | page (result : Except CommitError PageCommitResult)
  | mutation (result : Except MappingError Unit)
  | done

section Machine

variable (platform : Platform) (screening : MutationScreening)

def mutationStep (database : Database) (outcome : Except MappingError Database) : CatalogReply × Database :=
  match outcome with
  | .ok next => (.mutation (.ok ()), next)
  | .error failure => (.mutation (.error failure), database)

def pageStep (database : Database) (attempt : PageAttempt) : CatalogReply × Database :=
  match applyPageAttempt platform database attempt with
  | .ok (next, result) => (.page (.ok result), next)
  | .error failure => (.page (.error failure), database)

def enqueueRun (database : Database) (run : SourceRun) : Database :=
  if run.fresh && decide (run.id ∉ database.runs.map SourceRun.id) &&
      database.runs.all (fun other => decide (other.locator = run.locator → other.status.terminal = true)) then
    { database with runs := database.runs ++ [run] }
  else database

def steerRun (database : Database) (steering : SourceRun) : Database :=
  { database with
    runs := Sql.update (fun run => decide (run.key = steering.key)) (SourceRun.steered steering) database.runs }

def activateAsset (database : Database) (assetID : GoString) : Database :=
  let affected (asset : Asset) : Bool :=
    decide (asset.id = assetID ∧ (asset.lifecycle = .discovered ∨ asset.lifecycle = .stale))
  { database with
    catalog := { database.catalog with
      assets := Sql.update affected (Asset.moved .active) database.catalog.assets } }

/-- What the triggers of the table let through: no row goes, and no row takes other kinds. -/
def keepsSources (sources next : List Source) : Bool :=
  decide ((next.map Source.locator).Nodup) && sources.all fun source => next.any fun row =>
    decide (row.locator = source.locator ∧ row.sourceKind = source.sourceKind ∧ row.providerKind = source.providerKind)

def publishSources (database : Database) (sources : List Source) (revisions : List SourceRevision) : Database :=
  if keepsSources database.sources sources then { database with sources := sources, revisions := revisions }
  else database

def catalogStep (database : Database) : CatalogInput → CatalogReply × Database
  | .page attempt => pageStep platform database attempt
  | .createBinding command bindingID => mutationStep database (createBinding screening database command bindingID)
  | .deleteBinding command => mutationStep database (deleteBinding screening database command)
  | .resolveConflict decision bindingID =>
    mutationStep database (resolveConflict screening database decision bindingID)
  | .transition command => mutationStep database (transition screening database command)
  | .enqueue run => (.done, enqueueRun database run)
  | .steer steering => (.done, steerRun database steering)
  | .publish sources revisions => (.done, publishSources database sources revisions)
  | .bindServices exactServices => (.done, { database with exactServices := exactServices })
  | .activate assetID => (.done, activateAsset database assetID)

def catalogMachine : Machine Database CatalogInput CatalogReply where
  init := emptyDatabase
  step := catalogStep platform screening

end Machine

end AiopsSystem.AssetCatalog
