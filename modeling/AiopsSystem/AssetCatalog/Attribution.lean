import AiopsSystem.AssetCatalog.CatalogSteps
import AiopsSystem.AssetCatalog.ValidFacts

/-! # The run behind an observation

An observation has the locator of its run and the provider kind of its source.
Runs keep their identities and sources their kinds, so within one run an object
is known by its external id alone.
-/

namespace AiopsSystem.AssetCatalog

open Go List Sql

def Source.provider (source : Source) : SourceLocator × GoString := (source.locator, source.providerKind)

def Observation.ReportedBy (observation : Observation) (admission : PageAdmission) : Prop :=
  (observation.locator, observation.runID) = admission.run.key ∧
    (observation.locator, observation.providerKind) = admission.source.provider

structure Attributed (database : Database) : Prop where
  sources : (database.sources.map Source.locator).Nodup
  runs : (database.runs.map SourceRun.id).Nodup
  observations : ∀ observation ∈ database.catalog.observations,
    (observation.locator, observation.runID) ∈ database.runs.map SourceRun.key ∧
      (observation.locator, observation.providerKind) ∈ database.sources.map Source.provider

section Identity

variable {database : Database}

theorem Attributed.key_eq (h : Attributed database) {left right : Observation}
    (hLeft : left ∈ database.catalog.observations) (hRight : right ∈ database.catalog.observations)
    (hRun : left.runID = right.runID) (hID : left.externalID = right.externalID) : left.key = right.key := by
  obtain ⟨hLeftRun, hLeftSource⟩ := h.observations left hLeft
  obtain ⟨hRightRun, hRightSource⟩ := h.observations right hRight
  obtain ⟨run, hMem, hKey⟩ := mem_map.mp hLeftRun
  obtain ⟨other, hOther, hOtherKey⟩ := mem_map.mp hRightRun
  obtain ⟨hLocator, hRunID⟩ := Prod.mk.inj hKey
  obtain ⟨hOtherLocator, hOtherRunID⟩ := Prod.mk.inj hOtherKey
  obtain rfl : run = other :=
    inj_on_of_nodup_map h.runs hMem hOther (hRunID.trans (hRun.trans hOtherRunID.symm))
  have hSameLocator : left.locator = right.locator := hLocator.symm.trans hOtherLocator
  obtain ⟨source, hSource, hProvider⟩ := mem_map.mp hLeftSource
  obtain ⟨second, hSecond, hSecondProvider⟩ := mem_map.mp hRightSource
  obtain ⟨hAt, hKind⟩ := Prod.mk.inj hProvider
  obtain ⟨hSecondAt, hSecondKind⟩ := Prod.mk.inj hSecondProvider
  obtain rfl : source = second :=
    inj_on_of_nodup_map h.sources hSource hSecond (hAt.trans (hSameLocator.trans hSecondAt.symm))
  have hSameKind : left.providerKind = right.providerKind := hKind.symm.trans hSecondKind
  rw [Observation.key, Observation.key, hSameLocator, hSameKind, hID]

theorem Attributed.once (h : Attributed database)
    (hOnce : (database.catalog.observations.map fun observation => (observation.key, observation.runID)).Nodup) :
    (database.catalog.observations.map fun observation => (observation.runID, observation.externalID)).Nodup := by
  refine pairwise_map.mpr ((pairwise_map.mp hOnce).imp_of_mem ?_)
  intro left right hLeft hRight hDistinct hSame
  obtain ⟨hRun, hID⟩ := Prod.mk.inj hSame
  exact hDistinct (Prod.ext (h.key_eq hLeft hRight hRun hID) hRun)

end Identity

section Steps

variable {platform : Platform} {screening : MutationScreening} {database next : Database}

theorem Attributed.keep (h : Attributed database) (hSources : (next.sources.map Source.locator).Nodup)
    (hRuns : (next.runs.map SourceRun.id).Nodup)
    (hProviders : database.sources.map Source.provider ⊆ next.sources.map Source.provider)
    (hKeys : database.runs.map SourceRun.key ⊆ next.runs.map SourceRun.key)
    (hObservations : next.catalog.observations = database.catalog.observations) : Attributed next := by
  refine ⟨hSources, hRuns, ?_⟩
  intro observation hObservation
  obtain ⟨hRun, hSource⟩ := h.observations observation (hObservations ▸ hObservation)
  exact ⟨hKeys hRun, hProviders hSource⟩

theorem validateNormalizedItem_providerKind {screening : Screening} {item : NormalizedItem} {policy : FactPolicy}
    (h : validateNormalizedItem screening item policy = .ok ()) : item.providerKind = policy.providerKind := by
  simp only [validateNormalizedItem, bind_eq_ok, require_eq_ok] at h
  obtain ⟨_, _, _, ⟨hKind, _⟩, _⟩ := h
  exact hKind

theorem exactPageFactPolicy_providerKind {admission : PageAdmission} {policy : FactPolicy}
    (h : exactPageFactPolicy admission policy) : policy.providerKind = admission.source.providerKind := by
  obtain ⟨_, _, hManifest⟩ := (Option.any_eq_true _ _).mp h
  obtain ⟨hSource, _, hPolicy, _⟩ := of_decide_eq_true hManifest
  exact hPolicy.trans hSource

theorem loadPageAdmission_eq_some {coordinates : PageCommitCoordinates} {now : Int} {locked : PageAdmission}
    (h : loadPageAdmission database coordinates now = some locked) :
    locked.run ∈ database.runs ∧ locked.run.key = (coordinates.locator, coordinates.runID) ∧
      locked.source ∈ database.sources ∧ locked.source.locator = coordinates.locator := by
  simp only [loadPageAdmission, Option.bind_eq_bind, Option.bind_eq_some_iff] at h
  obtain ⟨run, hRun, source, hSource, _, _, _, _, h⟩ := h
  cases h
  exact ⟨mem_of_lookup hRun, key_of_lookup hRun, mem_of_lookup hSource, key_of_lookup hSource⟩

theorem SourceRun.key_staged (run : SourceRun) : run.staged.key = run.key := by
  unfold SourceRun.staged
  split <;> rfl

variable {attempt : PageAttempt} {locked : PageAdmission} {projection : PageProjection} {pageDigest : GoString}

theorem Commits.observations (h : Commits platform database attempt locked projection pageDigest) :
    ∀ observation ∈ projection.catalog.observations, observation ∈ database.catalog.observations ∨
      observation.ReportedBy locked := by
  obtain ⟨policy, hPolicy, hFacts⟩ := checkPageFacts_ok h.facts
  obtain ⟨_, hKey, _, hSource⟩ := loadPageAdmission_eq_some h.loaded
  have hRun : ((attempt.context locked).locator, (attempt.context locked).runID) = locked.run.key :=
    SourceRun.key_staged locked.run
  have hLocator : (attempt.context locked).locator = locked.source.locator :=
    (congrArg Prod.fst (hRun.trans hKey)).trans hSource.symm
  refine projectDiscoveryPage_preserves (P := fun catalog => ∀ observation ∈ catalog.observations,
      observation ∈ database.catalog.observations ∨ observation.ReportedBy locked)
    h.projected (fun _ hOld => .inl hOld) ?_ ?_ ?_ ?_
  · intro item hItem ids _ before after hStep hBefore
    have hKind : item.providerKind = locked.source.providerKind :=
      (validateNormalizedItem_providerKind (hFacts.validItems item hItem)).trans
        (exactPageFactPolicy_providerKind hPolicy)
    cases hStep with
    | unknown => exact hBefore
    | collided _ _ _ _ _ hObservation | created _ _ _ _ _ hObservation =>
      intro observation hMem
      rcases mem_append.mp hMem with hOld | hNew
      · exact hBefore observation hOld
      · rw [mem_singleton.mp hNew, hObservation]
        exact .inr ⟨hRun, Prod.ext hLocator hKind⟩
    | advanced _ _ prior _ _ hObservation =>
      intro observation hMem
      rcases mem_append.mp hMem with hOld | hNew
      · exact hBefore observation hOld
      · rw [mem_singleton.mp hNew, hObservation]
        exact .inr ⟨hRun, Prod.ext hLocator ((persistedItem_providerKind item prior).trans hKind)⟩
  · intro _ _ _ before after hStep hBefore
    cases hStep <;> exact hBefore
  · intro _ before after hStep hBefore
    obtain ⟨_, rfl⟩ := inactivatePageRelationships_ok.mp hStep
    exact hBefore
  · intro before hBefore
    exact hBefore

theorem Attributed.commit (h : Attributed database)
    (hCommits : Commits platform database attempt locked projection pageDigest) :
    Attributed (committedPage database attempt locked projection pageDigest) := by
  have hKey : ∀ run, (advanceRun attempt projection pageDigest (SourceRun.staged run)).key = run.key :=
    fun run => SourceRun.key_staged run
  have hIDs : (committedPage database attempt locked projection pageDigest).runs.map SourceRun.id =
      database.runs.map SourceRun.id := map_key_update fun run => congrArg Prod.snd (hKey run)
  have hLocators : (committedPage database attempt locked projection pageDigest).sources.map Source.locator =
      database.sources.map Source.locator := map_key_update fun _ => rfl
  have hKeys : (committedPage database attempt locked projection pageDigest).runs.map SourceRun.key =
      database.runs.map SourceRun.key := map_key_update hKey
  have hProviders : (committedPage database attempt locked projection pageDigest).sources.map Source.provider =
      database.sources.map Source.provider := map_key_update fun _ => rfl
  obtain ⟨hRun, _, hSource, _⟩ := loadPageAdmission_eq_some hCommits.loaded
  refine ⟨hLocators ▸ h.sources, hIDs ▸ h.runs, ?_⟩
  intro observation hObservation
  rw [hKeys, hProviders]
  rcases hCommits.observations observation hObservation with hOld | ⟨hFromRun, hFromSource⟩
  · exact h.observations observation hOld
  · rw [hFromRun, hFromSource]
    exact ⟨mem_map_of_mem hRun, mem_map_of_mem hSource⟩

theorem Attributed.enqueue (h : Attributed database) (run : SourceRun) : Attributed (enqueueRun database run) := by
  unfold enqueueRun
  split
  next hAdmitted =>
    simp only [Bool.and_eq_true, decide_eq_true_eq] at hAdmitted
    refine h.keep h.sources ?_ (Subset.refl _) ?_ rfl
    · rw [map_append, map_singleton]
      refine h.runs.append (nodup_singleton _) ?_
      intro id hOld hNew
      exact hAdmitted.1.2 (mem_singleton.mp hNew ▸ hOld)
    · rw [map_append]
      exact subset_append_left _ _
  next => exact h

theorem SourceRun.key_steered (steering run : SourceRun) : (SourceRun.steered steering run).key = run.key := by
  unfold SourceRun.steered
  split <;> rfl

theorem keepsSources_iff {sources kept : List Source} :
    keepsSources sources kept ↔ (kept.map Source.locator).Nodup ∧ ∀ source ∈ sources, ∃ row ∈ kept,
      row.locator = source.locator ∧ row.sourceKind = source.sourceKind ∧ row.providerKind = source.providerKind := by
  simp [keepsSources]

theorem Attributed.step (h : Attributed database) (hStep : Step platform database next) : Attributed next := by
  cases hStep with
  | unchanged => exact h
  | committed _ _ _ _ hCommits => exact h.commit hCommits
  | bound | unbound | served | moved | activated =>
    exact h.keep h.sources h.runs (Subset.refl _) (Subset.refl _) rfl
  | decided _ _ _ _ _ _ _ _ _ _ hOutcome =>
    cases decideMapping_ok hOutcome <;> exact h.keep h.sources h.runs (Subset.refl _) (Subset.refl _) rfl
  | enqueued run => exact h.enqueue run
  | steered steering =>
    have hIDs : (steerRun database steering).runs.map SourceRun.id = database.runs.map SourceRun.id :=
      map_key_update fun run => congrArg Prod.snd (SourceRun.key_steered steering run)
    have hKeys : (steerRun database steering).runs.map SourceRun.key = database.runs.map SourceRun.key :=
      map_key_update (SourceRun.key_steered steering)
    exact h.keep h.sources (hIDs ▸ h.runs) (Subset.refl _) (fun _ hKey => hKeys ▸ hKey) rfl
  | published sources revisions hKept =>
    obtain ⟨hLocators, hRows⟩ := keepsSources_iff.mp hKept
    refine h.keep hLocators h.runs ?_ (Subset.refl _) rfl
    intro provider hProvider
    obtain ⟨source, hSource, rfl⟩ := mem_map.mp hProvider
    obtain ⟨row, hRow, hLocator, _, hKind⟩ := hRows source hSource
    exact mem_map.mpr ⟨row, hRow, Prod.ext hLocator hKind⟩

theorem attributed_run (inputs : List CatalogInput) : Attributed ((catalogMachine platform screening).run inputs) := by
  refine (catalogMachine platform screening).run_invariant ⟨.nil, .nil, fun _ h => (not_mem_nil h).elim⟩ ?_ inputs
  intro _ input h
  exact h.step (catalogStep_step input)

end Steps

end AiopsSystem.AssetCatalog
