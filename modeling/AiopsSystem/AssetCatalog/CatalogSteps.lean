import AiopsSystem.AssetCatalog.CatalogMachine
import AiopsSystem.AssetCatalog.ProjectionSteps

/-! # What one transaction does

Every step of the catalog machine leaves the database as it is or is one of the
transactions below, with the guards it passed.
-/

namespace AiopsSystem.AssetCatalog

open Go

structure Commits (platform : Platform) (database : Database) (attempt : PageAttempt) (locked : PageAdmission)
    (projection : PageProjection) (pageDigest : GoString) : Prop where
  loaded : loadPageAdmission database attempt.coordinates attempt.clock.loadedAt = some locked
  unrecorded : readPageReceipt database attempt.coordinates = none
  snapshot : attempt.snapshot = locked ∧ checkpointAAD locked attempt.aad.checkpointKeyID = attempt.aad
  profile : attempt.page.nextCheckpoint.profileCode = locked.revision.profileCode
  run : runAdmitted locked attempt.coordinates = true
  source : sourceAdmitted locked = true
  facts : checkPageFacts platform attempt locked = .ok ()
  projected : projectDiscoveryPage platform.codec platform.collation (attempt.context locked)
    database.catalog attempt.page attempt.ids = .ok projection
  version : attempt.sealedCheckpoint.checkpointVersion = locked.source.checkpointVersion + 1

section Attempts

variable {platform : Platform} {database next : Database} {attempt : PageAttempt} {result : PageCommitResult}

theorem commitPage_ok {locked : PageAdmission}
    (hLoaded : loadPageAdmission database attempt.coordinates attempt.clock.loadedAt = some locked)
    (hUnrecorded : readPageReceipt database attempt.coordinates = none)
    (h : commitPage platform database attempt locked = .ok (next, result)) :
    ∃ projection pageDigest, Commits platform database attempt locked projection pageDigest ∧
      next = committedPage database attempt locked projection pageDigest ∧
      result = commitResult attempt.coordinates (receiptResult attempt projection pageDigest) false := by
  simp only [commitPage, validatePageAdmission, bind_eq_ok, require_eq_ok, orFail_eq_ok] at h
  obtain ⟨_, hSnapshot, _, hProfile, _, ⟨hRun, hSource, _⟩, _, hFacts, _, _, projection, hProjected, pageDigest, _, _,
    hVersion, _, _, _, _, h⟩ := h
  cases h
  exact ⟨projection, pageDigest, ⟨hLoaded, hUnrecorded, hSnapshot, hProfile, hRun, hSource, hFacts, hProjected,
    hVersion⟩, rfl, rfl⟩

theorem applyPageAttempt_ok (h : applyPageAttempt platform database attempt = .ok (next, result)) :
    (∃ receipt, readPageReceipt database attempt.coordinates = some receipt ∧
      replayReceipt platform attempt.coordinates attempt.page receipt = .ok result ∧ next = database) ∨
    (∃ locked projection pageDigest, Commits platform database attempt locked projection pageDigest ∧
      next = committedPage database attempt locked projection pageDigest ∧
      result = commitResult attempt.coordinates (receiptResult attempt projection pageDigest) false) := by
  simp only [applyPageAttempt, bind_eq_ok, orFail_eq_ok] at h
  obtain ⟨locked, hLoaded, h⟩ := h
  split at h
  next receipt hReceipt =>
    simp only [bind_eq_ok] at h
    obtain ⟨_, hReplay, h⟩ := h
    cases h
    exact .inl ⟨receipt, hReceipt, hReplay, rfl⟩
  next hReceipt =>
    obtain ⟨projection, pageDigest, hCommits, hNext⟩ := commitPage_ok hLoaded hReceipt h
    exact .inr ⟨locked, projection, pageDigest, hCommits, hNext⟩

end Attempts

theorem findAsset_eq_some {context : MutationContext} {database : Database} {assetID : GoString} {asset : Asset}
    (h : findAsset context database assetID = some asset) :
    asset ∈ database.catalog.assets ∧ asset.locator.scope = context.scope ∧
      asset.environmentID = context.environmentID ∧ asset.id = assetID :=
  ⟨List.mem_of_find?_eq_some h, of_decide_eq_true (List.find?_some (p := fun asset : Asset =>
    decide (asset.locator.scope = context.scope ∧ asset.environmentID = context.environmentID ∧ asset.id = assetID)) h)⟩

inductive Step (platform : Platform) (database : Database) : Database → Prop
  | unchanged : Step platform database database
  | committed (attempt : PageAttempt) (locked : PageAdmission) (projection : PageProjection) (pageDigest : GoString)
      (h : Commits platform database attempt locked projection pageDigest) :
      Step platform database (committedPage database attempt locked projection pageDigest)
  | bound (binding : ServiceAssetBinding) (asset : Asset) (record : MutationAudit)
      (hAsset : asset ∈ database.catalog.assets) (hBindable : bindable asset = true)
      (hBinding : binding.assetID = asset.id) :
      Step platform database (insertAudit { database with bindings := database.bindings ++ [binding] } record)
  | unbound (affected : ServiceAssetBinding → Bool) (record : MutationAudit) :
      Step platform database (insertAudit { database with
        bindings := Sql.update affected ServiceAssetBinding.removed database.bindings } record)
  | decided (decision : MappingDecision) (bindingID : GoString) (conflict : Conflict) (asset : Asset)
      (outcome : DecidedMapping) (record : MutationAudit)
      (hConflict : conflict ∈ database.catalog.conflicts ∧ conflict.status = .opened)
      (hAsset : asset ∈ database.catalog.assets ∧ asset.id = conflict.assetID ∧ asset.lifecycle ≠ .retired)
      (hScope : conflict.scope = decision.context.scope ∧ conflict.environmentID = decision.context.environmentID)
      (hVersion : conflict.version = decision.expectedVersion)
      (hOutcome : decideMapping database decision bindingID conflict asset = .ok outcome) :
      Step platform database
        (insertAudit (updateConflictDecision outcome.database decision outcome.status conflict) record)
  | moved (asset : Asset) (target : Lifecycle) (record : MutationAudit) (hAsset : asset ∈ database.catalog.assets)
      (hEdge : isLifecycleEdge asset.lifecycle target = true) (hTarget : target = .quarantined ∨ target = .retired) :
      Step platform database (insertAudit (updateMappingAsset database asset (Asset.moved target)) record)
  | enqueued (run : SourceRun) : Step platform database (enqueueRun database run)
  | steered (steering : SourceRun) : Step platform database (steerRun database steering)
  | published (sources : List Source) (revisions : List SourceRevision)
      (h : keepsSources database.sources sources = true) :
      Step platform database { database with sources := sources, revisions := revisions }
  | served (exactServices : List ExactServiceBinding) :
      Step platform database { database with exactServices := exactServices }
  | activated (assetID : GoString) : Step platform database (activateAsset database assetID)

section Mutations

variable {platform : Platform} {screening : MutationScreening} {database next : Database}

variable {context : MutationContext} {asset : Asset}

theorem lockMappingAsset_ok {assetID : GoString} (h : lockMappingAsset context database assetID = .ok asset) :
    findAsset context database assetID = some asset := by
  simp only [lockMappingAsset, bind_eq_ok, require_eq_ok, orFail_eq_ok] at h
  obtain ⟨_, _, h⟩ := h
  exact h

variable {conflict : Conflict}

theorem lockMappingAssets_ok (h : lockMappingAssets database context conflict = .ok asset) :
    findAsset context database conflict.assetID = some asset := by
  simp only [lockMappingAssets, bind_eq_ok] at h
  obtain ⟨_, hLocked, h⟩ := h
  split at h
  next =>
    cases h
    exact lockMappingAsset_ok hLocked
  next =>
    simp only [bind_eq_ok] at h
    obtain ⟨_, _, h⟩ := h
    cases h
    exact lockMappingAsset_ok hLocked

theorem lockConflict_ok {conflictID : GoString} (h : lockConflict context database conflictID = .ok conflict) :
    conflict ∈ database.catalog.conflicts ∧ conflict.scope = context.scope ∧
      conflict.environmentID = context.environmentID ∧ conflict.id = conflictID := by
  rw [lockConflict, orFail_eq_ok] at h
  exact ⟨List.mem_of_find?_eq_some h, of_decide_eq_true (List.find?_some (p := fun conflict : Conflict =>
    decide (conflict.scope = context.scope ∧ conflict.environmentID = context.environmentID ∧
      conflict.id = conflictID)) h)⟩

inductive Decided (database : Database) (decision : MappingDecision) (conflict : Conflict) (asset : Asset) :
    DecidedMapping → Prop
  | confirmed (binding : ServiceAssetBinding) (hResolution : decision.resolution = .confirmExact)
      (hLifecycle : asset.lifecycle ≠ .quarantined) (hBinding : binding.assetID = asset.id) :
      Decided database decision conflict asset
        { database := { updateMappingAsset database asset (Asset.mapped .exact) with
            bindings := database.bindings ++ [binding] }
          asset := asset.mapped .exact
          status := .resolved
          binding := some binding }
  | rejected (hResolution : decision.resolution = .rejectCandidate) :
      Decided database decision conflict asset (decidedMapping database asset
        (Asset.mapped (if otherOpenConflict database conflict then .ambiguous else .unresolved)) .rejected)
  | kept (hResolution : decision.resolution = .keepUnresolved) :
      Decided database decision conflict asset (decidedMapping database asset (Asset.mapped .unresolved) .resolved)
  | quarantined (hResolution : decision.resolution = .quarantineAsset) (hLifecycle : asset.lifecycle ≠ .quarantined) :
      Decided database decision conflict asset (decidedMapping database asset (Asset.moved .quarantined) .resolved)

variable {bindingID : GoString}

theorem decideMapping_ok {decision : MappingDecision} {outcome : DecidedMapping}
    (h : decideMapping database decision bindingID conflict asset = .ok outcome) :
    Decided database decision conflict asset outcome := by
  unfold decideMapping at h
  split at h
  next hResolution =>
    simp only [insertBinding, bind_eq_ok, require_eq_ok, orFail_eq_ok] at h
    obtain ⟨_, hLifecycle, _, _, _, _, _, ⟨_, _, _, _, _, _, hBound⟩, h⟩ := h
    cases hBound
    cases h
    exact .confirmed _ hResolution hLifecycle rfl
  next hResolution =>
    cases h
    exact .rejected hResolution
  next hResolution =>
    cases h
    exact .kept hResolution
  next hResolution =>
    simp only [bind_eq_ok, require_eq_ok] at h
    obtain ⟨_, hLifecycle, h⟩ := h
    cases h
    exact .quarantined hResolution hLifecycle

theorem createBinding_ok {command : CreateBindingCommand}
    (h : createBinding screening database command bindingID = .ok next) : Step platform database next := by
  simp only [createBinding, bind_eq_ok, require_eq_ok] at h
  obtain ⟨_, _, h⟩ := h
  split at h
  next =>
    simp only [bind_eq_ok] at h
    obtain ⟨_, _, h⟩ := h
    cases h
    exact .unchanged
  next =>
    simp only [insertBinding, bind_eq_ok, require_eq_ok, orFail_eq_ok] at h
    obtain ⟨asset, hAsset, _, hBindable, _, _, _, ⟨_, _, _, _, _, _, hBound⟩, h⟩ := h
    cases hBound
    cases h
    obtain ⟨hMem, _, _, hId⟩ := findAsset_eq_some (lockMappingAsset_ok hAsset)
    exact .bound _ asset _ hMem hBindable hId.symm

theorem deleteBinding_ok {command : DeleteBindingCommand} (h : deleteBinding screening database command = .ok next) :
    Step platform database next := by
  simp only [deleteBinding, bind_eq_ok, require_eq_ok] at h
  obtain ⟨_, _, h⟩ := h
  split at h
  next =>
    simp only [bind_eq_ok] at h
    obtain ⟨_, _, h⟩ := h
    cases h
    exact .unchanged
  next =>
    simp only [bind_eq_ok, require_eq_ok] at h
    obtain ⟨_, _, _, _, _, _, h⟩ := h
    cases h
    exact .unbound _ _

theorem resolveConflict_ok {decision : MappingDecision}
    (h : resolveConflict screening database decision bindingID = .ok next) : Step platform database next := by
  simp only [resolveConflict, bind_eq_ok] at h
  obtain ⟨_, _, h⟩ := h
  split at h
  next =>
    simp only [bind_eq_ok] at h
    obtain ⟨_, _, _, _, _, _, _, _, h⟩ := h
    cases h
    exact .unchanged
  next =>
    simp only [bind_eq_ok, require_eq_ok] at h
    obtain ⟨conflict, hConflict, asset, hAsset, _, hVersion, _, ⟨hOpen, hRetired⟩, _, _, outcome, hOutcome, h⟩ := h
    cases h
    obtain ⟨hMem, hScope, hEnvironment, _⟩ := lockConflict_ok hConflict
    obtain ⟨hAssetMem, _, _, hId⟩ := findAsset_eq_some (lockMappingAssets_ok hAsset)
    exact .decided decision bindingID conflict asset outcome _ ⟨hMem, hOpen⟩ ⟨hAssetMem, hId, hRetired⟩
      ⟨hScope, hEnvironment⟩ hVersion hOutcome

theorem transitionAction_isSome {target : Lifecycle} {action : MutationAction} (h : transitionAction target = some action) :
    target = .quarantined ∨ target = .retired := by
  cases target <;> simp [transitionAction] at h ⊢

theorem transition_ok {command : TransitionCommand} (h : transition screening database command = .ok next) :
    Step platform database next := by
  simp only [transition, bind_eq_ok, require_eq_ok, orFail_eq_ok] at h
  obtain ⟨_, _, _, hAction, h⟩ := h
  split at h
  next =>
    simp only [bind_eq_ok, require_eq_ok, orFail_eq_ok] at h
    obtain ⟨_, _, _, _, _, _, _, _, h⟩ := h
    cases h
    exact .unchanged
  next =>
    simp only [bind_eq_ok, require_eq_ok, orFail_eq_ok] at h
    obtain ⟨asset, hAsset, _, _, _, hEdge, h⟩ := h
    cases h
    exact .moved asset command.target _ (findAsset_eq_some hAsset).1 hEdge (transitionAction_isSome hAction)

theorem mutationStep_step {outcome : Except MappingError Database}
    (h : ∀ next, outcome = .ok next → Step platform database next) :
    Step platform database (mutationStep database outcome).2 := by
  cases outcome with
  | error => exact .unchanged
  | ok next => exact h next rfl

theorem pageStep_step (attempt : PageAttempt) : Step platform database (pageStep platform database attempt).2 := by
  unfold pageStep
  split
  next next result h =>
    rcases applyPageAttempt_ok h with ⟨_, _, _, rfl⟩ | ⟨locked, projection, pageDigest, hCommits, rfl, _⟩
    · exact .unchanged
    · exact .committed attempt locked projection pageDigest hCommits
  next => exact .unchanged

theorem catalogStep_step (input : CatalogInput) :
    Step platform database (catalogStep platform screening database input).2 := by
  cases input with
  | page attempt => exact pageStep_step attempt
  | createBinding => exact mutationStep_step fun _ h => createBinding_ok h
  | deleteBinding => exact mutationStep_step fun _ h => deleteBinding_ok h
  | resolveConflict => exact mutationStep_step fun _ h => resolveConflict_ok h
  | transition => exact mutationStep_step fun _ h => transition_ok h
  | enqueue run => exact .enqueued run
  | steer steering => exact .steered steering
  | publish sources revisions =>
    simp only [catalogStep, publishSources]
    split
    next hKept => exact .published sources revisions hKept
    next => exact .unchanged
  | bindServices exactServices => exact .served exactServices
  | activate assetID => exact .activated assetID

end Mutations

end AiopsSystem.AssetCatalog
