import AiopsSystem.AssetCatalog.Freshness
import AiopsSystem.Go.Sha256

/-! # Mappings and service bindings

The mapping status of an asset is written by discovery pages that collide with
it and by the decisions of operators, its bindings by other operations. What
relates them is what justifies a status: an open conflict for an ambiguous
asset, a decision against a candidate for a bound asset that is unresolved.
-/

namespace AiopsSystem.AssetCatalog

open Go

/-- Neither quarantined nor retired. -/
def Asset.InService (asset : Asset) : Prop := asset.lifecycle ≠ .quarantined ∧ asset.lifecycle ≠ .retired

instance : DecidablePred Asset.InService := fun _ => inferInstanceAs (Decidable (_ ∧ _))

def Bound (bindings : List ServiceAssetBinding) (assetID : GoString) : Prop :=
  ∃ binding ∈ bindings, binding.assetID = assetID ∧ binding.status = .active

instance (bindings : List ServiceAssetBinding) (assetID : GoString) : Decidable (Bound bindings assetID) :=
  inferInstanceAs (Decidable (∃ binding ∈ bindings, binding.assetID = assetID ∧ binding.status = .active))

def OpenAbout (conflicts : List Conflict) (assetID : GoString) : Prop :=
  ∃ conflict ∈ conflicts, conflict.assetID = assetID ∧ conflict.status = .opened

/-- A conflict about the asset was decided against its candidate. -/
def LeftUnresolved (conflicts : List Conflict) (assetID : GoString) : Prop :=
  ∃ conflict ∈ conflicts, conflict.assetID = assetID ∧ conflict.status ≠ .opened ∧
    (conflict.resolution = some .rejectCandidate ∨ conflict.resolution = some .keepUnresolved)

structure Justified (conflicts : List Conflict) (bindings : List ServiceAssetBinding) (asset : Asset) : Prop where
  ambiguous : asset.mappingStatus = .ambiguous → OpenAbout conflicts asset.id
  unresolved : asset.mappingStatus = .unresolved → Bound bindings asset.id → LeftUnresolved conflicts asset.id

structure Consistent (assets : List Asset) (conflicts : List Conflict) (bindings : List ServiceAssetBinding) :
    Prop where
  justified : ∀ asset ∈ assets, asset.InService → Justified conflicts bindings asset
  referenced : ∀ binding ∈ bindings, binding.assetID ∈ assets.map Asset.id
  conflictIDs : (conflicts.map Conflict.id).Nodup

section Rows

variable {assets : List Asset} {conflicts conflicts' : List Conflict} {bindings bindings' : List ServiceAssetBinding}

theorem Justified.carry {row asset : Asset} (h : Justified conflicts bindings row) (hID : asset.id = row.id)
    (hMapping : asset.mappingStatus = row.mappingStatus)
    (hOpen : OpenAbout conflicts row.id → OpenAbout conflicts' row.id)
    (hLeft : LeftUnresolved conflicts row.id → LeftUnresolved conflicts' row.id)
    (hBound : Bound bindings' row.id → Bound bindings row.id) : Justified conflicts' bindings' asset := by
  constructor
  · intro hAmbiguous
    rw [hID]
    exact hOpen (h.ambiguous (hMapping ▸ hAmbiguous))
  · intro hUnresolved hActive
    rw [hID] at hActive ⊢
    exact hLeft (h.unresolved (hMapping ▸ hUnresolved) (hBound hActive))

theorem justified_of_exact {asset : Asset} (h : asset.mappingStatus = .exact) : Justified conflicts bindings asset := by
  constructor
  · intro hAmbiguous
    rw [h] at hAmbiguous
    cases hAmbiguous
  · intro hUnresolved
    rw [h] at hUnresolved
    cases hUnresolved

/-- An update of assets that leaves their mapping alone and takes none back into service. -/
theorem Consistent.update (h : Consistent assets conflicts bindings) {condition : Asset → Bool} {change : Asset → Asset}
    (hID : ∀ row, (change row).id = row.id) (hMapping : ∀ row, (change row).mappingStatus = row.mappingStatus)
    (hService : ∀ row, condition row = true → (change row).InService → row.InService) :
    Consistent (Sql.update condition change assets) conflicts bindings := by
  refine ⟨?_, ?_, h.conflictIDs⟩
  · intro asset hAsset hInService
    obtain ⟨row, hRow, rfl⟩ := List.mem_map.mp hAsset
    refine (h.justified row hRow ?_).carry (Sql.key_updated hID row) (Sql.key_updated hMapping row) id id id
    cases hCondition : condition row with
    | false =>
      rw [Sql.updated, hCondition] at hInService
      exact hInService
    | true =>
      rw [Sql.updated, hCondition] at hInService
      exact hService row hCondition hInService
  · rw [Sql.map_key_update hID]
    exact h.referenced

theorem OpenAbout.append {assetID : GoString} (h : OpenAbout conflicts assetID) :
    OpenAbout (conflicts ++ conflicts') assetID := by
  obtain ⟨conflict, hMem, hAbout⟩ := h
  exact ⟨conflict, List.mem_append_left _ hMem, hAbout⟩

theorem LeftUnresolved.append {assetID : GoString} (h : LeftUnresolved conflicts assetID) :
    LeftUnresolved (conflicts ++ conflicts') assetID := by
  obtain ⟨conflict, hMem, hAbout⟩ := h
  exact ⟨conflict, List.mem_append_left _ hMem, hAbout⟩

theorem Bound.of_append {assetID : GoString} {binding : ServiceAssetBinding} (hOther : binding.assetID ≠ assetID)
    (h : Bound (bindings ++ [binding]) assetID) : Bound bindings assetID := by
  obtain ⟨active, hMem, hAbout, hActive⟩ := h
  rcases List.mem_append.mp hMem with hOld | hNew
  · exact ⟨active, hOld, hAbout, hActive⟩
  · rw [List.mem_singleton.mp hNew] at hAbout
    exact absurd hAbout hOther

/-- No binding becomes active by a removal. -/
theorem mem_of_active_removed {affected : ServiceAssetBinding → Bool} {binding : ServiceAssetBinding}
    (hMem : binding ∈ Sql.update affected ServiceAssetBinding.removed bindings) (hActive : binding.status = .active) :
    binding ∈ bindings := by
  obtain ⟨old, hOld, rfl⟩ := List.mem_map.mp hMem
  unfold Sql.updated at hActive ⊢
  split at hActive
  next => cases hActive
  next hKept => rwa [if_neg hKept]

theorem Consistent.bind (h : Consistent assets conflicts bindings) (hIDs : (assets.map Asset.id).Nodup) {asset : Asset}
    {binding : ServiceAssetBinding} (hAsset : asset ∈ assets) (hExact : asset.mappingStatus = .exact)
    (hBinding : binding.assetID = asset.id) : Consistent assets conflicts (bindings ++ [binding]) := by
  refine ⟨?_, ?_, h.conflictIDs⟩
  · intro row hRow hInService
    by_cases hSame : row.id = asset.id
    · obtain rfl := List.inj_on_of_nodup_map hIDs hRow hAsset hSame
      exact justified_of_exact hExact
    · exact (h.justified row hRow hInService).carry rfl rfl id id
        (Bound.of_append (fun hOwn => hSame (hOwn.symm.trans hBinding)))
  · refine List.forall_mem_append.mpr ⟨h.referenced, List.forall_mem_singleton.mpr ?_⟩
    rw [hBinding]
    exact List.mem_map_of_mem hAsset

theorem Consistent.unbind (h : Consistent assets conflicts bindings) {affected : ServiceAssetBinding → Bool} :
    Consistent assets conflicts (Sql.update affected ServiceAssetBinding.removed bindings) := by
  refine ⟨?_, ?_, h.conflictIDs⟩
  · intro row hRow hInService
    refine (h.justified row hRow hInService).carry rfl rfl id id ?_
    rintro ⟨binding, hBinding, hAbout, hActive⟩
    exact ⟨binding, mem_of_active_removed hBinding hActive, hAbout, hActive⟩
  · intro binding hBinding
    obtain ⟨old, hOld, rfl⟩ := List.mem_map.mp hBinding
    have hKey : ∀ row : ServiceAssetBinding, row.removed.assetID = row.assetID := fun _ => rfl
    have hSame : (Sql.updated affected ServiceAssetBinding.removed old).assetID = old.assetID :=
      Sql.key_updated hKey old
    exact hSame ▸ h.referenced old hOld

end Rows

section Pages

variable {bindings : List ServiceAssetBinding}

theorem Consistent.collide {catalog : Catalog} {candidate : Asset} {conflict : Conflict}
    (h : Consistent catalog.assets catalog.conflicts bindings) (hAbout : conflict.assetID = candidate.id)
    (hOpened : conflict.status = .opened) (hFresh : conflict.id ∉ catalog.conflicts.map Conflict.id) :
    Consistent (catalog.collide candidate conflict).assets (catalog.collide candidate conflict).conflicts bindings := by
  have hOld : Consistent catalog.assets (catalog.conflicts ++ [conflict]) bindings := by
    refine ⟨?_, h.referenced, ?_⟩
    · intro asset hAsset hInService
      exact (h.justified asset hAsset hInService).carry rfl rfl OpenAbout.append LeftUnresolved.append id
    · rw [List.map_append, List.map_singleton]
      exact h.conflictIDs.append (List.nodup_singleton _) (by simpa using hFresh)
  simp only [Catalog.collide]
  split
  · exact hOld
  · refine ⟨?_, ?_, hOld.conflictIDs⟩
    · intro asset hAsset hInService
      obtain ⟨row, hRow, rfl⟩ := List.mem_map.mp hAsset
      unfold Sql.updated at hInService ⊢
      split
      next hCandidate =>
        have hSame : row.id = candidate.id := (of_decide_eq_true hCandidate).1
        refine ⟨fun _ => ⟨conflict, by simp, hAbout.trans hSame.symm, hOpened⟩, ?_⟩
        intro hUnresolved
        cases hUnresolved
      next hOther =>
        rw [if_neg hOther] at hInService
        exact hOld.justified row hRow hInService
    · have hRows : (Sql.update (isRow candidate) Asset.ambiguous catalog.assets).map Asset.id =
          catalog.assets.map Asset.id := Sql.map_key_update (fun _ => rfl)
      rw [hRows]
      exact h.referenced

theorem Consistent.itemStep {codec : Codec} {collation : GoString → GoString → Bool}
    {context : PageContext} {state next : ItemState} {item : NormalizedItem} {ids : PageItemIDs}
    (h : Consistent state.catalog.assets state.catalog.conflicts bindings)
    (step : ItemStep codec collation context state item ids next) :
    Consistent next.catalog.assets next.catalog.conflicts bindings := by
  cases step with
  | unknown => exact h
  | collided facts observation candidate hPrior hTombstone hObservation hStorable hCandidate hFresh =>
    have hObserved : Consistent (state.catalog.observe observation).assets
        (state.catalog.observe observation).conflicts bindings := h
    exact hObserved.collide rfl rfl hFresh
  | created facts observation asset hPrior hTombstone hObservation hStorable hAsset hFresh =>
    refine ⟨?_, ?_, h.conflictIDs⟩
    · intro row hRow hInService
      rcases List.mem_append.mp hRow with hOld | hNew
      · exact h.justified row hOld hInService
      · obtain ⟨kind, _, rfl⟩ := hAsset
        rw [List.mem_singleton.mp hNew]
        constructor
        · intro hAmbiguous
          cases hAmbiguous
        · -- No binding refers to an identifier that is new.
          rintro _ ⟨binding, hBinding, hAbout, _⟩
          exact absurd (hAbout ▸ h.referenced binding hBinding) hFresh.1
    · intro binding hBinding
      simp only [Catalog.create, List.map_append]
      exact List.mem_append_left _ (h.referenced binding hBinding)
  | advanced facts observation prior hFacts hSucceeds hObservation hStorable =>
    refine h.update (fun _ => rfl) (fun _ => rfl) ?_
    intro row _ hInService
    simp only [Asset.InService, advanceAsset] at hInService ⊢
    split at hInService
    next hTombstone => simp [hTombstone.2]
    next => exact hInService

theorem Consistent.commit {platform : Platform} {database : Database} {attempt : PageAttempt} {locked : PageAdmission}
    {projection : PageProjection} {pageDigest : GoString}
    (h : Consistent database.catalog.assets database.catalog.conflicts bindings)
    (hCommits : Commits platform database attempt locked projection pageDigest) :
    Consistent projection.catalog.assets projection.catalog.conflicts bindings := by
  refine projectDiscoveryPage_preserves
    (P := fun catalog => Consistent catalog.assets catalog.conflicts bindings) hCommits.projected h ?_ ?_ ?_ ?_
  · intro item _ _ _ state next hStep hState
    exact hState.itemStep hStep
  · intro relation _ _ before after hStep hBefore
    cases hStep <;> exact hBefore
  · intro selected before after hStep hBefore
    obtain ⟨_, rfl⟩ := inactivatePageRelationships_ok.mp hStep
    exact hBefore
  · intro before hBefore
    refine hBefore.update (fun _ => rfl) (fun _ => rfl) ?_
    intro row hMissing _
    have hActive : row.lifecycle = .active := of_decide_eq_true (Bool.and_eq_true_iff.mp hMissing).2
    simp [Asset.InService, hActive]

end Pages

section Decisions

variable {database : Database} {decision : MappingDecision} {status : ConflictStatus} {conflict : Conflict}

def decidedConflicts (conflicts : List Conflict) (decision : MappingDecision) (status : ConflictStatus)
    (conflict : Conflict) : List Conflict :=
  Sql.update (fun row => decide (row.id = conflict.id ∧ row.version = decision.expectedVersion ∧ row.status = .opened))
    (Conflict.decided decision status) conflicts

variable {conflicts : List Conflict} {assetID : GoString}

theorem mem_decidedConflicts {row : Conflict} (hMem : row ∈ conflicts)
    (hOther : row.id = conflict.id → row.status ≠ .opened) :
    row ∈ decidedConflicts conflicts decision status conflict := by
  refine List.mem_map.mpr ⟨row, hMem, if_neg ?_⟩
  intro hAffected
  obtain ⟨hID, _, hOpened⟩ := of_decide_eq_true hAffected
  exact hOther hID hOpened

theorem OpenAbout.decide_other (h : OpenAbout conflicts assetID) (hIDs : (conflicts.map Conflict.id).Nodup)
    (hConflict : conflict ∈ conflicts) (hOther : conflict.assetID ≠ assetID) :
    OpenAbout (decidedConflicts conflicts decision status conflict) assetID := by
  obtain ⟨row, hRow, hAbout, hOpened⟩ := h
  refine ⟨row, mem_decidedConflicts hRow ?_, hAbout, hOpened⟩
  intro hSame
  rw [← List.inj_on_of_nodup_map hIDs hRow hConflict hSame] at hOther
  exact absurd hAbout hOther

theorem LeftUnresolved.decide (h : LeftUnresolved conflicts assetID) :
    LeftUnresolved (decidedConflicts conflicts decision status conflict) assetID := by
  obtain ⟨row, hRow, hAbout, hClosed, hResolution⟩ := h
  exact ⟨row, mem_decidedConflicts hRow (fun _ => hClosed), hAbout, hClosed, hResolution⟩

theorem leftUnresolved_decided (hConflict : conflict ∈ conflicts) (hOpened : conflict.status = .opened)
    (hVersion : conflict.version = decision.expectedVersion) (hStatus : status ≠ .opened)
    (hResolution : decision.resolution = .rejectCandidate ∨ decision.resolution = .keepUnresolved) :
    LeftUnresolved (decidedConflicts conflicts decision status conflict) conflict.assetID := by
  refine ⟨conflict.decided decision status, List.mem_map.mpr ⟨conflict, hConflict, if_pos ?_⟩, rfl, hStatus, ?_⟩
  · exact decide_eq_true ⟨rfl, hVersion, hOpened⟩
  · simpa [Conflict.decided] using hResolution

theorem openAbout_of_otherOpenConflict (h : otherOpenConflict database conflict = true) :
    OpenAbout (decidedConflicts database.catalog.conflicts decision status conflict) conflict.assetID := by
  obtain ⟨other, hOther, hTest⟩ := List.any_eq_true.mp h
  obtain ⟨_, _, hAbout, hID, hOpened⟩ := of_decide_eq_true hTest
  exact ⟨other, mem_decidedConflicts hOther (fun hSame => absurd hSame hID), hAbout, hOpened⟩

/-- A row after an update of one asset is the updated asset or another one. -/
theorem mem_updateMappingAsset {asset row : Asset} {change : Asset → Asset}
    (hIDs : (database.catalog.assets.map Asset.id).Nodup) (hAsset : asset ∈ database.catalog.assets)
    (h : row ∈ (updateMappingAsset database asset change).catalog.assets) :
    row = change asset ∨ row ∈ database.catalog.assets ∧ row.id ≠ asset.id := by
  obtain ⟨old, hOld, rfl⟩ := List.mem_map.mp h
  by_cases hSame : old.id = asset.id
  · left
    rw [List.inj_on_of_nodup_map hIDs hOld hAsset hSame]
    exact if_pos (decide_eq_true ⟨rfl, rfl⟩)
  · right
    have hKept : Sql.updated (fun row : Asset => decide (row.id = asset.id ∧ row.version = asset.version)) change old =
        old := if_neg (by simp [hSame])
    rw [hKept]
    exact ⟨hOld, hSame⟩

/-- A decision writes one asset and one conflict, and may bind the asset. -/
theorem Consistent.decide {asset : Asset} {change : Asset → Asset} {bindings : List ServiceAssetBinding}
    (h : Consistent database.catalog.assets database.catalog.conflicts database.bindings)
    (hIDs : (database.catalog.assets.map Asset.id).Nodup) (hAsset : asset ∈ database.catalog.assets)
    (hConflict : conflict ∈ database.catalog.conflicts) (hAbout : asset.id = conflict.assetID)
    (hChange : ∀ row, (change row).id = row.id)
    (hBindings : ∀ binding ∈ bindings, binding ∈ database.bindings ∨ binding.assetID = asset.id)
    (hMapped : (change asset).InService →
      Justified (decidedConflicts database.catalog.conflicts decision status conflict) bindings (change asset)) :
    Consistent (updateMappingAsset database asset change).catalog.assets
      (decidedConflicts database.catalog.conflicts decision status conflict) bindings := by
  refine ⟨?_, ?_, ?_⟩
  · intro row hRow hInService
    rcases mem_updateMappingAsset hIDs hAsset hRow with rfl | ⟨hOld, hOther⟩
    · exact hMapped hInService
    · refine (h.justified row hOld hInService).carry rfl rfl ?_ LeftUnresolved.decide ?_
      · intro hOpen
        exact hOpen.decide_other h.conflictIDs hConflict (fun hSame => hOther (hAbout.trans hSame).symm)
      · rintro ⟨binding, hMem, hBinding, hActive⟩
        rcases hBindings binding hMem with hKept | hNew
        · exact ⟨binding, hKept, hBinding, hActive⟩
        · exact absurd (hBinding.symm.trans hNew) hOther
  · have hRows : (updateMappingAsset database asset change).catalog.assets.map Asset.id =
        database.catalog.assets.map Asset.id := Sql.map_key_update hChange
    rw [hRows]
    intro binding hBinding
    rcases hBindings binding hBinding with hKept | hNew
    · exact h.referenced binding hKept
    · exact hNew ▸ List.mem_map_of_mem hAsset
  · have hRows : (decidedConflicts database.catalog.conflicts decision status conflict).map Conflict.id =
        database.catalog.conflicts.map Conflict.id := Sql.map_key_update (fun _ => rfl)
    rw [hRows]
    exact h.conflictIDs

theorem Consistent.resolve {asset : Asset} {outcome : DecidedMapping}
    (h : Consistent database.catalog.assets database.catalog.conflicts database.bindings)
    (hIDs : (database.catalog.assets.map Asset.id).Nodup) (hAsset : asset ∈ database.catalog.assets)
    (hConflict : conflict ∈ database.catalog.conflicts) (hAbout : asset.id = conflict.assetID)
    (hOpened : conflict.status = .opened) (hVersion : conflict.version = decision.expectedVersion)
    (hDecided : Decided database decision conflict asset outcome) :
    Consistent outcome.database.catalog.assets
      (decidedConflicts outcome.database.catalog.conflicts decision outcome.status conflict)
      outcome.database.bindings := by
  cases hDecided with
  | confirmed binding hResolution hLifecycle hBinding =>
    refine h.decide hIDs hAsset hConflict hAbout (fun _ => rfl) ?_ ?_
    · intro other hOther
      rcases List.mem_append.mp hOther with hOld | hNew
      · exact .inl hOld
      · exact .inr (List.mem_singleton.mp hNew ▸ hBinding)
    · intro _
      exact justified_of_exact rfl
  | rejected hResolution =>
    refine h.decide hIDs hAsset hConflict hAbout (fun _ => rfl) (fun _ => .inl) ?_
    intro _
    constructor
    · intro hAmbiguous
      by_cases hOther : otherOpenConflict database conflict = true
      · exact hAbout ▸ openAbout_of_otherOpenConflict hOther
      · simp [Asset.mapped, hOther] at hAmbiguous
    · intro _ _
      exact hAbout ▸ leftUnresolved_decided hConflict hOpened hVersion nofun (.inl hResolution)
  | kept hResolution =>
    refine h.decide hIDs hAsset hConflict hAbout (fun _ => rfl) (fun _ => .inl) ?_
    intro _
    refine ⟨nofun, ?_⟩
    intro _ _
    exact hAbout ▸ leftUnresolved_decided hConflict hOpened hVersion nofun (.inr hResolution)
  | quarantined hResolution hLifecycle =>
    refine h.decide hIDs hAsset hConflict hAbout (fun _ => rfl) (fun _ => .inl) ?_
    intro hInService
    exact absurd rfl hInService.1

end Decisions

section Runs

variable {platform : Platform} {screening : MutationScreening} {database next : Database}

def Database.Consistent (database : Database) : Prop :=
  AssetCatalog.Consistent database.catalog.assets database.catalog.conflicts database.bindings

theorem Database.Consistent.step (h : database.Consistent) (hIDs : (database.catalog.assets.map Asset.id).Nodup)
    (hStep : Step platform database next) : next.Consistent := by
  cases hStep with
  | unchanged => exact h
  | committed attempt locked projection pageDigest hCommits => exact AssetCatalog.Consistent.commit h hCommits
  | bound binding asset record hAsset hBindable hBinding =>
    exact AssetCatalog.Consistent.bind h hIDs hAsset (of_decide_eq_true hBindable).1 hBinding
  | unbound affected record => exact AssetCatalog.Consistent.unbind h
  | decided decision bindingID conflict asset outcome record hConflict hAsset hScope hVersion hOutcome =>
    exact AssetCatalog.Consistent.resolve h hIDs hAsset.1 hConflict.1 hAsset.2.1 hConflict.2 hVersion
      (decideMapping_ok hOutcome)
  | moved asset target record hAsset hEdge hTarget =>
    refine AssetCatalog.Consistent.update h (fun _ => rfl) (fun _ => rfl) ?_
    rintro row _ ⟨hQuarantined, hRetired⟩
    exact hTarget.elim (fun hSame => absurd hSame hQuarantined) (fun hSame => absurd hSame hRetired)
  | enqueued run =>
    simp only [enqueueRun]
    split <;> exact h
  | steered steering => exact h
  | published sources revisions hKeeps => exact h
  | served exactServices => exact h
  | activated assetID =>
    refine AssetCatalog.Consistent.update h (fun _ => rfl) (fun _ => rfl) ?_
    intro row hAffected _
    rcases (of_decide_eq_true hAffected).2 with hLifecycle | hLifecycle <;> simp [Asset.InService, hLifecycle]

theorem Step.binds_exact (hStep : Step platform database next) {binding : ServiceAssetBinding}
    (hMem : binding ∈ next.bindings) (hActive : binding.status = .active) (hNew : binding ∉ database.bindings) :
    ∃ asset ∈ next.catalog.assets, asset.id = binding.assetID ∧ asset.mappingStatus = .exact ∧ asset.InService := by
  cases hStep with
  | bound row asset record hAsset hBindable hBinding =>
    obtain rfl := List.mem_singleton.mp ((List.mem_append.mp hMem).resolve_left hNew)
    obtain ⟨hExact, hRetired, hQuarantined⟩ := of_decide_eq_true hBindable
    exact ⟨asset, hAsset, hBinding.symm, hExact, hQuarantined, hRetired⟩
  | unbound affected record => exact absurd (mem_of_active_removed hMem hActive) hNew
  | decided decision bindingID conflict asset outcome record hConflict hAsset hScope hVersion hOutcome =>
    cases decideMapping_ok hOutcome with
    | confirmed row hResolution hLifecycle hBinding =>
      obtain rfl := List.mem_singleton.mp ((List.mem_append.mp hMem).resolve_left hNew)
      refine ⟨asset.mapped .exact, List.mem_map.mpr ⟨asset, hAsset.1, ?_⟩, hBinding.symm, rfl, hLifecycle, hAsset.2.2⟩
      exact if_pos (decide_eq_true ⟨rfl, rfl⟩)
    | rejected | kept | quarantined => exact absurd hMem hNew
  | enqueued run =>
    refine absurd ?_ hNew
    simp only [enqueueRun] at hMem
    split at hMem <;> exact hMem
  | unchanged | committed | moved | steered | published | served | activated => exact absurd hMem hNew

theorem consistent_run (inputs : List CatalogInput) : ((catalogMachine platform screening).run inputs).Consistent := by
  have hBoth : Chained ((catalogMachine platform screening).run inputs).catalog ∧
      ((catalogMachine platform screening).run inputs).Consistent := by
    refine (catalogMachine platform screening).run_invariant
      (P := fun database => Chained database.catalog ∧ database.Consistent) ⟨chained_empty, ?_⟩ ?_ inputs
    · exact ⟨List.forall_mem_nil _, List.forall_mem_nil _, .nil⟩
    · rintro database input ⟨hChained, hConsistent⟩
      exact ⟨hChained.step (catalogStep_step input), hConsistent.step hChained.assetIDs (catalogStep_step input)⟩
  exact hBoth.2

end Runs

/-- In every state of the catalog an asset in service with an active binding is mapped exactly, is ambiguous with an
open conflict, or was left unresolved by a decision; an ambiguous asset in service has an open conflict; and a binding
becomes active only while its asset is mapped exactly and in service. -/
theorem mappings_match_bindings (platform : Platform) (screening : MutationScreening) (inputs : List CatalogInput) :
    (∀ asset ∈ ((catalogMachine platform screening).run inputs).catalog.assets, asset.InService →
      Bound ((catalogMachine platform screening).run inputs).bindings asset.id →
        asset.mappingStatus = .exact ∨
        asset.mappingStatus = .ambiguous ∧
          OpenAbout ((catalogMachine platform screening).run inputs).catalog.conflicts asset.id ∨
        asset.mappingStatus = .unresolved ∧
          LeftUnresolved ((catalogMachine platform screening).run inputs).catalog.conflicts asset.id) ∧
    (∀ asset ∈ ((catalogMachine platform screening).run inputs).catalog.assets, asset.InService →
      asset.mappingStatus = .ambiguous →
        OpenAbout ((catalogMachine platform screening).run inputs).catalog.conflicts asset.id) ∧
    ∀ input, ∀ binding ∈ ((catalogMachine platform screening).run (inputs ++ [input])).bindings,
      binding.status = .active → binding ∉ ((catalogMachine platform screening).run inputs).bindings →
        ∃ asset ∈ ((catalogMachine platform screening).run (inputs ++ [input])).catalog.assets,
          asset.id = binding.assetID ∧ asset.mappingStatus = .exact ∧ asset.InService := by
  have hConsistent : ((catalogMachine platform screening).run inputs).Consistent := consistent_run inputs
  refine ⟨?_, ?_, ?_⟩
  · intro asset hAsset hInService hBound
    have hJustified := hConsistent.justified asset hAsset hInService
    cases hMapping : asset.mappingStatus with
    | exact => exact .inl rfl
    | ambiguous => exact .inr (.inl ⟨rfl, hJustified.ambiguous hMapping⟩)
    | unresolved => exact .inr (.inr ⟨rfl, hJustified.unresolved hMapping hBound⟩)
  · intro asset hAsset hInService
    exact (hConsistent.justified asset hAsset hInService).ambiguous
  · intro input binding hBinding hActive hNew
    rw [Machine.run_concat] at hBinding ⊢
    exact (catalogStep_step input).binds_exact hBinding hActive hNew

/-! Two objects of a second source have the fingerprint of an asset of the first one, so there are two open conflicts
about the asset. An operator confirms the asset for a service with the one and leaves it unresolved with the other. -/

namespace Sample

def otherLocator : SourceLocator := { locator with sourceID := ascii "83e692da-1495-4082-a1db-a3f415c69c09" }

def otherRevision : SourceRevision := { revision with locator := otherLocator }

def otherSource : Source := { source with locator := otherLocator }

def otherRunID : GoString := ascii "94f7a3eb-25a6-4193-b2ec-b40526d7ad0a"

def toOther (run : SourceRun) : SourceRun := { run with id := otherRunID, locator := otherLocator }

def otherAdmission : PageAdmission := ⟨toOther (leasedRun 0), true, otherSource, otherRevision⟩

def markedItem (externalID : String) : NormalizedItem :=
  { item 5 with
    externalID := ascii externalID
    displayName := ascii externalID
    fingerprints := ⟨[(ascii "serial", ascii "S-1")], by simp⟩ }

def markedPage (externalIDs : List String) : Page :=
  ⟨externalIDs.map markedItem, [], ⟨manifest.profileCode, []⟩, true, false⟩

def firstConflictID : GoString := ascii "a508b4fc-36b7-42a4-83fd-c51637e8be0a"

def secondConflictID : GoString := ascii "b619c50d-47c8-43b5-940e-d62748f9cf0b"

def otherIDs : PageProjectionIDs where
  items := [⟨ascii "c72ad61e-58d9-44c6-a51f-e73859a0d001", assetID, firstConflictID⟩,
    ⟨ascii "c72ad61e-58d9-44c6-a51f-e73859a0d002", assetID, secondConflictID⟩]
  relations := []
  uuids := by decide +kernel

def collidingPage : PageAttempt :=
  { page 0 5 with
    fence := ⟨otherRunID, ascii "discovery-worker", 1, List.replicate 64 99, true⟩
    coordinates := ⟨otherLocator, otherRunID, 1⟩
    page := markedPage ["vm-18", "vm-19"]
    snapshot := otherAdmission
    aad := checkpointAAD otherAdmission (ascii "checkpoint-key")
    ids := otherIDs }

def collisions : List CatalogInput :=
  [.publish [source, otherSource] [revision, otherRevision],
    .enqueue (queuedRun 0), .steer (leasedRun 0), .page { page 0 5 with page := markedPage ["vm-17"] },
    .enqueue (toOther (queuedRun 0)), .steer (toOther (leasedRun 0)), .page collidingPage]

def serviceID : GoString := ascii "d83be72f-69ea-45d7-b620-f8496ab1e10c"

def operators : MutationScreening where
  validContext := fun context => matchesUUID context.environmentID
  validAssetCode := fun code => decide (code = ascii "REVIEWED")
  commandSHA256 := fun _ => List.replicate 64 101

def decision (key : String) (conflictID : GoString) (resolution : ConflictResolution) : MappingDecision where
  context := ⟨locator.scope, environmentID, ascii "operator", ascii key, List.replicate 64 101⟩
  conflictID := conflictID
  serviceID := if resolution = .confirmExact then serviceID else []
  resolution := resolution
  bindingRole := if resolution = .confirmExact then some .primaryRuntime else none
  reasonCode := ascii "REVIEWED"
  expectedVersion := 1

def confirm : CatalogInput :=
  .resolveConflict (decision "decision-1" firstConflictID .confirmExact) (ascii "e94cf830-7afb-46e8-8731-095a7bc2f20d")

def keepUnresolved : CatalogInput := .resolveConflict (decision "decision-2" secondConflictID .keepUnresolved) []

/-- Both conflicts are open. -/
def reported : List CatalogInput := collisions ++ [.bindServices [⟨locator.scope, environmentID, serviceID⟩]]

def decided (inputs : List CatalogInput) : Database := (catalogMachine platform operators).run inputs

end Sample

/-- Where the decisions take the asset, evaluated once. -/
theorem sample_decisions :
    (∃ asset ∈ (Sample.decided Sample.reported).catalog.assets,
      asset.id = Sample.assetID ∧ asset.InService ∧ asset.mappingStatus = .ambiguous) ∧
    (Sample.decided Sample.reported).bindings.length = 0 ∧
    Bound (Sample.decided (Sample.reported ++ [Sample.confirm])).bindings Sample.assetID ∧
    Bound (Sample.decided (Sample.reported ++ [Sample.confirm, Sample.keepUnresolved])).bindings Sample.assetID ∧
    ∃ asset ∈ (Sample.decided (Sample.reported ++ [Sample.confirm, Sample.keepUnresolved])).catalog.assets,
      asset.id = Sample.assetID ∧ asset.InService ∧ asset.mappingStatus = .unresolved := by
  decide +kernel

theorem mappings_match_bindings_sample :
    OpenAbout (Sample.decided Sample.reported).catalog.conflicts Sample.assetID ∧
    (∃ asset ∈ (Sample.decided (Sample.reported ++ [Sample.confirm])).catalog.assets,
      asset.id = Sample.assetID ∧ asset.mappingStatus = .exact ∧ asset.InService) ∧
    LeftUnresolved (Sample.decided (Sample.reported ++ [Sample.confirm, Sample.keepUnresolved])).catalog.conflicts
      Sample.assetID := by
  have hState := sample_decisions
  unfold Sample.decided at hState ⊢
  obtain ⟨⟨ambiguous, hAmbiguous, hAbout, hInService, hMapping⟩, hNone, ⟨binding, hBinding, hAsset, hActive⟩, hBound,
    unresolved, hUnresolved, hID, hService, hLeft⟩ := hState
  obtain ⟨-, hOpen, hBinds⟩ := mappings_match_bindings Sample.platform Sample.operators Sample.reported
  refine ⟨?_, ?_, ?_⟩
  · have hConflict := hOpen ambiguous hAmbiguous hInService hMapping
    rw [hAbout] at hConflict
    exact hConflict
  · have hNew : binding ∉ ((catalogMachine Sample.platform Sample.operators).run Sample.reported).bindings := by
      rw [List.eq_nil_of_length_eq_zero hNone]
      exact List.not_mem_nil
    have hExact := hBinds Sample.confirm binding hBinding hActive hNew
    rw [hAsset] at hExact
    exact hExact
  · rw [← hID] at hBound ⊢
    rcases (mappings_match_bindings Sample.platform Sample.operators
      (Sample.reported ++ [Sample.confirm, Sample.keepUnresolved])).1 unresolved hUnresolved hService hBound with
      hExact | ⟨hAmbiguous, _⟩ | ⟨_, hDecided⟩
    · rw [hLeft] at hExact
      cases hExact
    · rw [hLeft] at hAmbiguous
      cases hAmbiguous
    · exact hDecided

/-- An asset in service with an active binding that is neither mapped exactly nor ambiguous. -/
theorem bound_asset_left_unresolved :
    ∃ asset ∈ (Sample.decided (Sample.reported ++ [Sample.confirm, Sample.keepUnresolved])).catalog.assets,
      asset.InService ∧
      Bound (Sample.decided (Sample.reported ++ [Sample.confirm, Sample.keepUnresolved])).bindings asset.id ∧
      asset.mappingStatus ≠ .exact ∧ asset.mappingStatus ≠ .ambiguous := by
  obtain ⟨-, -, -, hBound, asset, hAsset, hID, hInService, hMapping⟩ := sample_decisions
  rw [← hID] at hBound
  refine ⟨asset, hAsset, hInService, hBound, ?_, ?_⟩
  · rw [hMapping]
    decide
  · rw [hMapping]
    decide

end AiopsSystem.AssetCatalog
