import AiopsSystem.ExternalCmdb.Discover
import AiopsSystem.AssetCatalog.ProjectionSteps

/-! # Committing what the provider discovers

A page that `Discover` hands out is projected by `projectDiscoveryPage`, which
has rules of its own: in one run an object is observed once and an edge is
reported once. Pages that keep to them are never refused as a conflict.
-/

namespace AiopsSystem.ExternalCmdb

open Go AssetCatalog

section Reported

def edge (relation : RelationshipIdentity) : GoString × GoString × RelationshipType :=
  (relation.fromExternalID, relation.toExternalID, relation.type)

/-- What every page of the provider satisfies. -/
structure Reported (environmentID : GoString) (page : Page) : Prop where
  items : ∀ item ∈ page.items, item.environmentID = environmentID
  relations : ∀ relation ∈ page.relations, relation.sourceEnvironmentID = environmentID ∧
    relation.targetEnvironmentID = environmentID
  distinctItems : (page.items.map NormalizedItem.externalID).Nodup
  distinctRelations : (page.relations.map fun relation => edge relation.identity).Nodup

variable {library : Library} {environmentID : GoString}

theorem acceptEntries_ok {α β : Type} {position : α → Except Rejection OrderPosition}
    {normalize : α → Except Rejection β} {boundaryReplay : Bool} {last : Option OrderPosition} {raws : List α}
    {result : Option OrderPosition × List β}
    (h : acceptEntries position normalize boundaryReplay last raws = .ok result) :
    ∀ fact ∈ result.2, ∃ raw ∈ raws, normalize raw = .ok fact := by
  induction raws generalizing boundaryReplay last result with
  | nil =>
    cases h
    exact fun _ hFact => (List.not_mem_nil hFact).elim
  | cons raw rest ih =>
    simp only [acceptEntries, bind_eq_ok] at h
    obtain ⟨current, _, _, _, fact, hFact, ⟨final, facts⟩, hRest, h⟩ := h
    cases h
    intro other hOther
    rcases List.mem_cons.mp hOther with rfl | hOther
    · exact ⟨raw, List.mem_cons_self, hFact⟩
    · obtain ⟨source, hSource, hNormal⟩ := ih hRest other hOther
      exact ⟨source, List.mem_cons_of_mem _ hSource, hNormal⟩

theorem normalizeAsset_ok {asset : CatalogAsset} {item : NormalizedItem}
    (h : normalizeAsset library environmentID asset = .ok item) :
    item.environmentID = environmentID ∧ item.providerKind = providerKind := by
  simp only [normalizeAsset, bind_eq_ok] at h
  obtain ⟨_, _, _, _, _, _, h⟩ := h
  split at h
  · simp only [bind_eq_ok] at h
    obtain ⟨_, _, h⟩ := h
    cases h
    exact ⟨rfl, rfl⟩
  · simp only [bind_eq_ok] at h
    obtain ⟨_, _, _, _, _, _, _, _, h⟩ := h
    cases h
    exact ⟨rfl, rfl⟩

theorem normalizeRelation_ok {raw : CatalogRelation} {relation : ObservedRelation}
    (h : normalizeRelation library environmentID raw = .ok relation) :
    relation.sourceEnvironmentID = environmentID ∧ relation.targetEnvironmentID = environmentID ∧
      relation.providerPathCode = ascii "CMDB_V1_RELATION" := by
  simp only [normalizeRelation, bind_eq_ok] at h
  obtain ⟨_, _, _, _, _, _, _, _, _, _, h⟩ := h
  cases h
  exact ⟨rfl, rfl, rfl⟩

theorem reported_of_validate {limits : Limits} {candidate page : Page}
    (hItems : ∀ item ∈ candidate.items, item.environmentID = environmentID ∧ item.providerKind = providerKind)
    (hRelations : ∀ relation ∈ candidate.relations, relation.sourceEnvironmentID = environmentID ∧
      relation.targetEnvironmentID = environmentID ∧ relation.providerPathCode = ascii "CMDB_V1_RELATION")
    (h : validateDiscoverPage library limits environmentID candidate = .ok (.page page)) :
    Reported environmentID page := by
  simp only [validateDiscoverPage, validatePage, validateEntryFacts, bind_eq_ok, mapError_eq_ok] at h
  obtain ⟨_, _, _, ⟨_, _, _, _, _, _, _, _, _, hFacts, _⟩, h⟩ := h
  cases h
  have hValid := validateFacts_ok hFacts
  refine ⟨fun item hItem => (hItems item hItem).1, fun relation hRelation => ?_, ?_, ?_⟩
  · exact ⟨(hRelations relation hRelation).1, (hRelations relation hRelation).2.1⟩
  · refine List.Nodup.of_map (joinZero providerKind) ?_
    rw [List.map_map]
    refine (List.map_congr_left fun item hItem => ?_) ▸ hValid.distinctItems
    rw [itemIdentity, (hItems item hItem).2, Function.comp_apply]
  · refine List.Nodup.of_map (fun named : GoString × GoString × RelationshipType => joinByte 0
      [environmentID, environmentID, named.1, named.2.1, named.2.2.text, ascii "CMDB_V1_RELATION"]) ?_
    rw [List.map_map]
    refine (List.map_congr_left fun relation hRelation => ?_) ▸ hValid.distinctRelations
    obtain ⟨hSource, hTarget, hPath⟩ := hRelations relation hRelation
    simp only [relationIdentity, hSource, hTarget, hPath, Function.comp_apply, edge, ObservedRelation.identity]

variable {client : Client} {limits : Limits} {checkpoint : CmdbCheckpoint} {page : Page}

theorem not_page_of_failure {code : Rejection} {failure : ClientFailure} :
    discoverFailureOrDelay code failure ≠ .ok (.page page) := by
  cases failure <;> simp [discoverFailureOrDelay, pure, Except.pure]

theorem discoverRelationPage_reported
    (h : discoverRelationPage library client limits environmentID checkpoint = .ok (.page page)) :
    Reported environmentID page := by
  simp only [discoverRelationPage, bind_eq_ok] at h
  obtain ⟨_, _, h⟩ := h
  split at h
  next => exact (not_page_of_failure h).elim
  next =>
    simp only [bind_eq_ok] at h
    obtain ⟨_, _, _, _, ⟨last, relations⟩, hEntries, _, _, _, _, _, _, h⟩ := h
    refine reported_of_validate (fun _ hItem => (List.not_mem_nil hItem).elim) ?_ h
    intro relation hRelation
    obtain ⟨raw, _, hNormal⟩ := acceptEntries_ok hEntries relation hRelation
    exact normalizeRelation_ok (mapError_eq_ok.mp hNormal)

theorem discoverAssetPage_reported
    (h : discoverAssetPage library client limits environmentID checkpoint = .ok (.page page)) :
    Reported environmentID page := by
  simp only [discoverAssetPage, bind_eq_ok] at h
  obtain ⟨_, _, h⟩ := h
  split at h
  next => exact (not_page_of_failure h).elim
  next =>
    simp only [bind_eq_ok] at h
    obtain ⟨_, _, ⟨last, items⟩, hEntries, _, _, h⟩ := h
    split at h
    next => exact discoverRelationPage_reported h
    next =>
      simp only [bind_eq_ok] at h
      obtain ⟨_, _, h⟩ := h
      refine reported_of_validate ?_ (fun _ hRelation => (List.not_mem_nil hRelation).elim) h
      intro item hItem
      obtain ⟨raw, _, hNormal⟩ := acceptEntries_ok hEntries item hItem
      exact normalizeAsset_ok (mapError_eq_ok.mp hNormal)

theorem discover_reported {binding : RuntimeBinding} {session : RuntimeSession} {now : Int} {request : DiscoverRequest}
    (h : discover library binding session client now request = .ok (.page page)) :
    Reported session.environmentID page := by
  simp only [discover, bind_eq_ok] at h
  obtain ⟨_, _, _, _, checkpoint, _, _, _, h⟩ := h
  split at h
  next => exact discoverAssetPage_reported h
  next => exact discoverRelationPage_reported h
  next =>
    split at h
    next => exact (not_page_of_failure h).elim
    next =>
      simp only [bind_eq_ok] at h
      obtain ⟨_, _, h⟩ := h
      exact discoverAssetPage_reported h

/-- The pages of successive calls of one run, each from the checkpoint the call before handed out. -/
inductive Traversal (library : Library) (binding : RuntimeBinding) (session : RuntimeSession) :
    Checkpoint → List Page → Prop
  | nil (checkpoint : Checkpoint) : Traversal library binding session checkpoint []
  | cons {client : Client} {now : Int} {request : DiscoverRequest} {page : Page} {rest : List Page}
      (hCall : discover library binding session client now request = .ok (.page page))
      (hRest : Traversal library binding session page.nextCheckpoint rest) :
      Traversal library binding session request.checkpoint (page :: rest)

theorem Traversal.reported {binding : RuntimeBinding} {session : RuntimeSession} {start : Checkpoint}
    {pages : List Page} (h : Traversal library binding session start pages) :
    ∀ page ∈ pages, Reported session.environmentID page := by
  induction h with
  | nil => exact fun _ hPage => (List.not_mem_nil hPage).elim
  | cons hCall _ ih => exact List.forall_mem_cons.mpr ⟨discover_reported hCall, ih⟩

end Reported

section Catalog

/-- What identifies an asset and where it stands; no step changes it. -/
def place (asset : Asset) : GoString × SourceLocator × GoString × GoString :=
  (asset.id, asset.locator, asset.environmentID, asset.externalID)

def span (row : Relationship) : SourceLocator × RelationshipIdentity × GoString × GoString :=
  (row.locator, row.identity, row.sourceAssetID, row.targetAssetID)

def Present (locator : SourceLocator) (catalog : Catalog) (environmentID externalID : GoString) : Prop :=
  ∃ id, (id, locator, environmentID, externalID) ∈ catalog.assets.map place

/-- The source has no such asset and the run has not observed one. -/
structure Unreported (locator : SourceLocator) (runID : GoString) (catalog : Catalog) (externalID : GoString) :
    Prop where
  asset : ∀ id environmentID, (id, locator, environmentID, externalID) ∉ catalog.assets.map place
  observation : ∀ observation ∈ catalog.observations, observation.locator = locator → observation.runID = runID →
    observation.externalID ≠ externalID

def Unrelated (locator : SourceLocator) (catalog : Catalog) (relation : ObservedRelation) : Prop :=
  ∀ row ∈ catalog.relationships, row.locator = locator → edge row.identity ≠ edge relation.identity

/-- The primary key of the assets and the foreign keys of the relationships. -/
structure Referential (catalog : Catalog) : Prop where
  unique : (catalog.assets.map Asset.id).Nodup
  source : ∀ row ∈ catalog.relationships, (row.sourceAssetID, row.locator, row.identity.sourceEnvironmentID,
    row.identity.fromExternalID) ∈ catalog.assets.map place
  target : ∀ row ∈ catalog.relationships, (row.targetAssetID, row.locator, row.identity.targetEnvironmentID,
    row.identity.toExternalID) ∈ catalog.assets.map place

theorem map_fst_place (assets : List Asset) : (assets.map place).map Prod.fst = assets.map Asset.id := by
  rw [List.map_map]
  rfl

theorem Referential.place_eq {catalog : Catalog} (h : Referential catalog)
    {left right : GoString × SourceLocator × GoString × GoString} (hLeft : left ∈ catalog.assets.map place)
    (hRight : right ∈ catalog.assets.map place) (hID : left.1 = right.1) : left = right := by
  have hUnique : ((catalog.assets.map place).map Prod.fst).Nodup := by
    rw [map_fst_place]
    exact h.unique
  exact List.inj_on_of_nodup_map hUnique hLeft hRight hID

end Catalog

section Items

variable {codec : Codec} {collation : GoString → GoString → Bool} {context : PageContext}
  {state next : ItemState} {item : NormalizedItem} {ids : PageItemIDs}

theorem lockPagePriorAsset_of_unreported {catalog : Catalog}
    (h : Unreported context.locator context.runID catalog item.externalID) :
    lockPagePriorAsset context catalog item = none := by
  unfold lockPagePriorAsset
  cases hAsset : Sql.lookup Asset.key (itemKey context item) catalog.assets with
  | none => rfl
  | some asset =>
    have hKey : asset.key = itemKey context item := Sql.key_of_lookup hAsset
    obtain ⟨hLocator, _, hExternal⟩ := ObjectKey.mk.inj hKey
    refine (h.asset asset.id asset.environmentID (List.mem_map.mpr ⟨asset, Sql.mem_of_lookup hAsset, ?_⟩)).elim
    rw [← hLocator, ← hExternal, place]

theorem projectItem_ne_conflict (h : Unreported context.locator context.runID state.catalog item.externalID) :
    projectItem codec collation context state (item, ids) ≠ .error .conflict := by
  have hFirst : pageRunObjectExists context state.catalog item = false := by
    refine List.any_eq_false.mpr ?_
    intro observation hObservation hSame
    obtain ⟨hKey, hRun⟩ := of_decide_eq_true hSame
    obtain ⟨hLocator, _, hExternal⟩ := ObjectKey.mk.inj hKey
    exact h.observation observation hObservation hLocator hRun hExternal
  intro hError
  simp only [projectItem, hFirst, lockPagePriorAsset_of_unreported h, bind_eq_error, require_eq_error, projectNewItem,
    orFail_eq_error, reduceCtorEq, and_false, false_or, not_true_eq_false, Bool.false_eq_true, not_false_eq_true,
    require_eq_ok, true_and, false_and, exists_const] at hError
  obtain ⟨facts, _, hError⟩ := hError
  split at hError
  · cases hError
  · simp only [insertPageObservation, bind_eq_error, require_eq_error, reduceCtorEq, and_false, false_or] at hError
    rcases hError with ⟨_, _, _, _, hError⟩ | ⟨observed, _, hError⟩
    · cases hError
    · split at hError
      · simp only [insertPageFingerprintConflict, bind_eq_error, require_eq_error, reduceCtorEq, and_false,
          false_or] at hError
        obtain ⟨_, _, hError⟩ | ⟨_, _, hError⟩ := hError <;> cases hError
      · simp only [insertPageAsset, bind_eq_error, require_eq_error, orFail_eq_error, reduceCtorEq, and_false,
          false_or] at hError
        obtain ⟨_, _, ⟨_, _, hError⟩ | ⟨_, _, hError⟩⟩ := hError <;> cases hError

/-- What one item of a first run does: a live one is observed, and without a collision it becomes an asset. -/
structure ItemEffect (context : PageContext) (item : NormalizedItem) (state next : ItemState) : Prop where
  frame : next.catalog.relationships = state.catalog.relationships ∧ next.tombstonedItems = state.tombstonedItems ∧
    next.tombstonedAssets = state.tombstonedAssets
  observed : ∀ observation ∈ next.catalog.observations, observation ∈ state.catalog.observations ∨
    item.tombstone = false ∧ observation.externalID = item.externalID
  placed : next.catalog.assets.map place = state.catalog.assets.map place ∧
      (next.counts.conflict = 0 → state.counts.conflict = 0 ∧ item.tombstone = true) ∨
    ∃ id, item.tombstone = false ∧ id ∉ state.catalog.assets.map Asset.id ∧
      next.counts.conflict = state.counts.conflict ∧ next.catalog.assets.map place =
        state.catalog.assets.map place ++ [(id, context.locator, item.environmentID, item.externalID)]

theorem itemEffect_of_step (step : ItemStep codec collation context state item ids next)
    (h : Unreported context.locator context.runID state.catalog item.externalID) :
    ItemEffect context item state next := by
  have hObserved : ∀ {catalog : Catalog} {facts : PageItemFacts} {previous : Option (GoString × GoString)},
      item.tombstone = false → ∀ observation ∈
        (catalog.observe (pageObservation context item facts ids.observation previous)).observations,
      observation ∈ catalog.observations ∨ item.tombstone = false ∧ observation.externalID = item.externalID := by
    intro catalog facts previous hLive observation hObservation
    rcases List.mem_append.mp hObservation with hOld | hNew
    · exact .inl hOld
    · rw [List.mem_singleton.mp hNew]
      exact .inr ⟨hLive, rfl⟩
  cases step with
  | unknown facts _ hTombstone => exact ⟨⟨rfl, rfl, rfl⟩, fun _ => .inl, .inl ⟨rfl, fun hCount => ⟨hCount, hTombstone⟩⟩⟩
  | collided facts observation candidate _ hTombstone hObservation =>
    subst hObservation
    refine ⟨⟨rfl, rfl, rfl⟩, hObserved hTombstone, .inl ⟨?_, fun hCount => absurd hCount (Nat.succ_ne_zero _)⟩⟩
    simp only [Catalog.collide, Catalog.observe]
    split
    · rfl
    · exact Sql.map_key_update fun _ => rfl
  | created facts observation asset _ hTombstone hObservation _ hAsset hFresh =>
    subst hObservation
    obtain ⟨kind, _, rfl⟩ := hAsset
    exact ⟨⟨rfl, rfl, rfl⟩, hObserved hTombstone, .inr ⟨ids.asset, hTombstone, hFresh.1, rfl, List.map_append⟩⟩
  | advanced facts observation prior _ hSucceeds =>
    exact (Option.some_ne_none prior (hSucceeds.known.symm.trans (lockPagePriorAsset_of_unreported h))).elim

theorem ItemEffect.unreported {externalID : GoString} (effect : ItemEffect context item state next)
    (hOther : item.tombstone = false → externalID ≠ item.externalID)
    (h : Unreported context.locator context.runID state.catalog externalID) :
    Unreported context.locator context.runID next.catalog externalID := by
  constructor
  · intro id environmentID hPlace
    rcases effect.placed with ⟨hSame, _⟩ | ⟨_, hLive, _, _, hPlaces⟩
    · exact h.asset id environmentID (hSame ▸ hPlace)
    · rw [hPlaces] at hPlace
      rcases List.mem_append.mp hPlace with hOld | hNew
      · exact h.asset id environmentID hOld
      · simp only [List.mem_singleton, Prod.mk.injEq] at hNew
        exact hOther hLive hNew.2.2.2
  · intro observation hObservation hLocator hRun hSame
    rcases effect.observed observation hObservation with hOld | ⟨hLive, hNew⟩
    · exact h.observation observation hOld hLocator hRun hSame
    · exact hOther hLive (hSame.symm.trans hNew)

theorem ItemEffect.places_subset (effect : ItemEffect context item state next) :
    state.catalog.assets.map place ⊆ next.catalog.assets.map place := by
  rcases effect.placed with ⟨hSame, _⟩ | ⟨_, _, _, _, hPlaces⟩
  · exact hSame ▸ List.Subset.refl _
  · exact hPlaces ▸ List.subset_append_left _ _

theorem ItemEffect.unique (effect : ItemEffect context item state next)
    (h : (state.catalog.assets.map Asset.id).Nodup) : (next.catalog.assets.map Asset.id).Nodup := by
  rw [← map_fst_place]
  rcases effect.placed with ⟨hSame, _⟩ | ⟨id, _, hFresh, _, hPlaces⟩
  · rw [hSame, map_fst_place]
    exact h
  · rw [hPlaces, List.map_append, map_fst_place]
    exact (List.perm_append_singleton _ _).nodup_iff.mpr (List.nodup_cons.mpr ⟨hFresh, h⟩)

theorem ItemEffect.no_conflict_before (effect : ItemEffect context item state next) (h : next.counts.conflict = 0) :
    state.counts.conflict = 0 := by
  rcases effect.placed with ⟨_, hNone⟩ | ⟨_, _, _, hSame, _⟩
  · exact (hNone h).1
  · exact hSame.symm.trans h

theorem ItemEffect.present (effect : ItemEffect context item state next) (h : next.counts.conflict = 0)
    (hLive : item.tombstone = false) : Present context.locator next.catalog item.environmentID item.externalID := by
  rcases effect.placed with ⟨_, hNone⟩ | ⟨id, _, _, _, hPlaces⟩
  · exact absurd (hNone h).2 (by simp [hLive])
  · exact ⟨id, by simp [hPlaces]⟩

end Items

section Loops

variable {codec : Codec} {collation : GoString → GoString → Bool} {context : PageContext}
  {environmentID : GoString}

/-- The item loop before the slots `rest`; `later` are the identifiers of the pages to come. -/
structure Passing (context : PageContext) (environmentID : GoString) (start : Catalog) (later : GoString → Prop)
    (slots rest : List (NormalizedItem × PageItemIDs)) (state : ItemState) : Prop where
  awaited : ∀ externalID, externalID ∈ rest.map (·.1.externalID) ∨ later externalID →
    Unreported context.locator context.runID state.catalog externalID
  distinct : (rest.map (·.1.externalID)).Nodup
  apart : ∀ slot ∈ rest, slot.1.environmentID = environmentID ∧ (slot.1.tombstone = false → ¬ later slot.1.externalID)
  unique : (state.catalog.assets.map Asset.id).Nodup
  kept : start.assets.map place ⊆ state.catalog.assets.map place
  frame : state.catalog.relationships = start.relationships ∧ state.tombstonedItems = [] ∧ state.tombstonedAssets = []
  present : state.counts.conflict = 0 → ∀ slot ∈ slots, slot.1.tombstone = false → slot ∈ rest ∨
    Present context.locator state.catalog environmentID slot.1.externalID

theorem Passing.step {start : Catalog} {later : GoString → Prop} {slots rest : List (NormalizedItem × PageItemIDs)}
    {slot : NormalizedItem × PageItemIDs} {state : ItemState}
    (h : Passing context environmentID start later slots (slot :: rest) state) :
    projectItem codec collation context state slot ≠ .error .conflict ∧
      ∀ next, projectItem codec collation context state slot = .ok next →
        Passing context environmentID start later slots rest next := by
  have hUnreported := h.awaited slot.1.externalID (.inl List.mem_cons_self)
  refine ⟨projectItem_ne_conflict hUnreported, ?_⟩
  intro next hNext
  have hEffect := itemEffect_of_step (projectItem_ok hNext) hUnreported
  obtain ⟨hNew, hDistinct⟩ := List.nodup_cons.mp h.distinct
  obtain ⟨⟨hEnvironment, hApart⟩, hRest⟩ := List.forall_mem_cons.mp h.apart
  obtain ⟨hRelationships, hItems, hAssets⟩ := hEffect.frame
  refine ⟨?_, hDistinct, hRest, hEffect.unique h.unique, fun _ hPlace => hEffect.places_subset (h.kept hPlace), ?_, ?_⟩
  · intro externalID hAwaited
    refine hEffect.unreported ?_ (h.awaited externalID (hAwaited.imp (List.mem_cons_of_mem _) id))
    rintro hLive rfl
    exact hAwaited.elim hNew (hApart hLive)
  · exact ⟨hRelationships.trans h.frame.1, hItems.trans h.frame.2.1, hAssets.trans h.frame.2.2⟩
  · intro hCount other hOther hLive
    rcases h.present (hEffect.no_conflict_before hCount) other hOther hLive with hMem | ⟨id, hPlace⟩
    · rcases List.mem_cons.mp hMem with rfl | hMem
      · exact .inr (hEnvironment ▸ hEffect.present hCount hLive)
      · exact .inl hMem
    · exact .inr ⟨id, hEffect.places_subset hPlace⟩

theorem relationEndpoint_of_present {catalog : Catalog} {externalID : GoString}
    (h : Present context.locator catalog environmentID externalID) :
    ∃ asset, relationEndpoint context catalog environmentID externalID = some asset ∧
      (asset.id, context.locator, environmentID, externalID) ∈ catalog.assets.map place := by
  obtain ⟨id, hPlace⟩ := h
  obtain ⟨asset, hAsset, hSame⟩ := List.mem_map.mp hPlace
  simp only [place, Prod.mk.injEq] at hSame
  cases hFound : relationEndpoint context catalog environmentID externalID with
  | none => exact (List.find?_eq_none.mp hFound asset hAsset (by simp [hSame])).elim
  | some found =>
    have hTest := List.find?_some (show List.find? _ catalog.assets = some found from hFound)
    obtain ⟨hLocator, hEnvironment, hExternal⟩ := of_decide_eq_true hTest
    refine ⟨found, rfl, List.mem_map.mpr ⟨found, List.mem_of_find?_eq_some hFound, ?_⟩⟩
    simp only [place, hLocator, hEnvironment, hExternal]

/-- The relation loop before the slots `rest`; `later` are the relations of the pages to come. -/
structure Relating (context : PageContext) (start : Catalog) (later : ObservedRelation → Prop)
    (rest : List (ObservedRelation × GoString)) (catalog : Catalog) : Prop where
  awaited : ∀ relation, relation ∈ rest.map Prod.fst ∨ later relation → Unrelated context.locator catalog relation
  distinct : (rest.map fun slot => edge slot.1.identity).Nodup
  apart : ∀ slot ∈ rest, ∀ relation, later relation → edge relation.identity ≠ edge slot.1.identity
  ends : ∀ slot ∈ rest, Present context.locator start slot.1.sourceEnvironmentID slot.1.fromExternalID ∧
    Present context.locator start slot.1.targetEnvironmentID slot.1.toExternalID
  frame : catalog.assets = start.assets ∧ catalog.observations = start.observations
  referential : Referential catalog

section Relation

variable {catalog : Catalog} {relation : ObservedRelation}

theorem lookup_of_unrelated (h : Unrelated context.locator catalog relation) :
    Sql.lookup Relationship.key (context.locator, relation.identity) catalog.relationships = none := by
  refine Sql.lookup_eq_none_iff.mpr ?_
  intro hKey
  obtain ⟨row, hRow, hSame⟩ := List.mem_map.mp hKey
  exact h row hRow (congrArg Prod.fst hSame) (congrArg (fun key => edge key.2) hSame)

/-- An active row between the same assets has the same edge, by the keys of the tables. -/
theorem Referential.no_active_edge {source target : GoString} (h : Referential catalog)
    (hUnrelated : Unrelated context.locator catalog relation)
    (hSource : (source, context.locator, relation.sourceEnvironmentID, relation.fromExternalID) ∈
      catalog.assets.map place)
    (hTarget : (target, context.locator, relation.targetEnvironmentID, relation.toExternalID) ∈
      catalog.assets.map place) :
    ¬ catalog.relationships.any (isActiveEdge context source target relation.type) = true := by
  intro hActive
  obtain ⟨row, hRow, hTest⟩ := List.any_eq_true.mp hActive
  obtain ⟨_, hRowSource, hRowTarget, hType, _⟩ := of_decide_eq_true hTest
  have hFromSame := h.place_eq (h.source row hRow) hSource hRowSource
  have hToSame := h.place_eq (h.target row hRow) hTarget hRowTarget
  simp only [Prod.mk.injEq] at hFromSame hToSame
  refine hUnrelated row hRow hFromSame.2.1 ?_
  simp only [edge, ObservedRelation.identity, hFromSame, hToSame, hType]

end Relation

/-- The row of the first slot has been added. -/
theorem Relating.append {start catalog : Catalog} {later : ObservedRelation → Prop}
    {rest : List (ObservedRelation × GoString)} {slot : ObservedRelation × GoString} {row : Relationship}
    (h : Relating context start later (slot :: rest) catalog) (hEdge : edge row.identity = edge slot.1.identity)
    (hSource : (row.sourceAssetID, row.locator, row.identity.sourceEnvironmentID, row.identity.fromExternalID) ∈
      catalog.assets.map place)
    (hTarget : (row.targetAssetID, row.locator, row.identity.targetEnvironmentID, row.identity.toExternalID) ∈
      catalog.assets.map place) :
    Relating context start later rest { catalog with relationships := catalog.relationships ++ [row] } := by
  obtain ⟨hFresh, hDistinct⟩ := List.nodup_cons.mp h.distinct
  obtain ⟨hApart, hRest⟩ := List.forall_mem_cons.mp h.apart
  refine ⟨?_, hDistinct, hRest, (List.forall_mem_cons.mp h.ends).2, h.frame, h.referential.unique, ?_, ?_⟩
  · intro relation hAwaited other hOther hLocator
    rcases List.mem_append.mp hOther with hOld | hAdded
    · exact h.awaited relation (hAwaited.imp (List.mem_cons_of_mem _) id) other hOld hLocator
    · rw [List.mem_singleton.mp hAdded, hEdge]
      intro hSame
      rcases hAwaited with hMem | hLater
      · obtain ⟨other, hOther, rfl⟩ := List.mem_map.mp hMem
        exact hFresh (List.mem_map.mpr ⟨other, hOther, hSame.symm⟩)
      · exact hApart relation hLater hSame.symm
  · exact List.forall_mem_append.mpr ⟨h.referential.source, List.forall_mem_singleton.mpr hSource⟩
  · exact List.forall_mem_append.mpr ⟨h.referential.target, List.forall_mem_singleton.mpr hTarget⟩

theorem Relating.step {pageDigest : GoString} {start catalog : Catalog} {later : ObservedRelation → Prop}
    {rest : List (ObservedRelation × GoString)} {slot : ObservedRelation × GoString}
    (h : Relating context start later (slot :: rest) catalog) :
    projectPageRelation codec.sha256Hex context pageDigest catalog slot ≠ .error .conflict ∧
      ∀ next, projectPageRelation codec.sha256Hex context pageDigest catalog slot = .ok next →
        Relating context start later rest next := by
  have hUnrelated := h.awaited slot.1 (.inl List.mem_cons_self)
  obtain ⟨hFrom, hTo⟩ := h.ends slot List.mem_cons_self
  rw [Present, ← h.frame.1] at hFrom hTo
  obtain ⟨source, hSource, hSourcePlace⟩ := relationEndpoint_of_present hFrom
  obtain ⟨target, hTarget, hTargetPlace⟩ := relationEndpoint_of_present hTo
  have hInsert : projectPageRelation codec.sha256Hex context pageDigest catalog slot =
      insertPageRelationship context catalog
      (newRelationship codec.sha256Hex context pageDigest slot.1 slot.2 source.id target.id) := by
    simp only [projectPageRelation, hSource, hTarget, lookup_of_unrelated hUnrelated, orFail_some, ok_bind]
  rw [hInsert]
  constructor
  · intro hError
    simp only [insertPageRelationship, bind_eq_error, require_eq_error, reduceCtorEq, and_false, false_or] at hError
    rcases hError with ⟨hActive, _⟩ | ⟨_, _, _, _, hError⟩
    · exact hActive (h.referential.no_active_edge hUnrelated hSourcePlace hTargetPlace)
    · cases hError
  · intro next hNext
    simp only [insertPageRelationship, bind_eq_ok] at hNext
    obtain ⟨_, _, _, _, hNext⟩ := hNext
    cases hNext
    exact h.append rfl hSourcePlace hTargetPlace

end Loops

section Run

variable {codec : Codec} {collation : GoString → GoString → Bool} {context : PageContext}
  {environmentID : GoString} {locator : SourceLocator} {runID : GoString} {catalog : Catalog} {past rest : List Page}
  {page : Page} {ids : PageProjectionIDs}

/-- The catalog between two pages of a first run. -/
structure Ready (locator : SourceLocator) (runID environmentID : GoString) (catalog : Catalog) (past rest : List Page) :
    Prop where
  items : ∀ page ∈ rest, ∀ item ∈ page.items, Unreported locator runID catalog item.externalID
  relations : ∀ page ∈ rest, ∀ relation ∈ page.relations, Unrelated locator catalog relation
  present : ∀ page ∈ past, ∀ item ∈ page.items, item.tombstone = false →
    Present locator catalog environmentID item.externalID
  referential : Referential catalog

/-- A later page names no asset that an earlier one reported live, and no edge is on two pages. -/
def Apart (earlier later : Page) : Prop :=
  (∀ item ∈ earlier.items, item.tombstone = false → ∀ other ∈ later.items, other.externalID ≠ item.externalID) ∧
    ∀ relation ∈ earlier.relations, ∀ other ∈ later.relations, edge other.identity ≠ edge relation.identity

def Live (past : List Page) (externalID : GoString) : Prop :=
  ∃ page ∈ past, ∃ item ∈ page.items, item.tombstone = false ∧ item.externalID = externalID

theorem closeSnapshot_keeps {pageDigest : GoString} {counts : PageCounts} {result : Catalog × PageCounts}
    (h : closeSnapshot context pageDigest page counts catalog = .ok result) :
    result.1.assets.map place = catalog.assets.map place ∧ result.1.observations = catalog.observations ∧
      result.1.relationships.map span = catalog.relationships.map span ∧ result.2.conflict = counts.conflict := by
  rcases closeSnapshot_ok h with ⟨_, rfl⟩ | ⟨_, hCounts, hClosed⟩
  · exact ⟨rfl, rfl, rfl, rfl⟩
  · obtain ⟨_, hResult⟩ := inactivatePageRelationships_ok.mp hClosed
    rw [← hResult, hCounts]
    exact ⟨Sql.map_key_update fun _ => rfl, rfl, Sql.map_key_update fun _ => rfl, rfl⟩

theorem closeSnapshot_ne_conflict {pageDigest : GoString} {counts : PageCounts} :
    closeSnapshot context pageDigest page counts catalog ≠ .error .conflict := by
  intro hError
  unfold closeSnapshot at hError
  split at hError
  · simp only [inactivatePageRelationships, bind_eq_error, require_eq_error, reduceCtorEq, and_false,
      false_or] at hError
    obtain ⟨_, _, hError⟩ | ⟨_, _, hError⟩ := hError <;> cases hError
  · cases hError

theorem Ready.of_same {after : Catalog} (h : Ready locator runID environmentID catalog past rest)
    (hPlaces : after.assets.map place = catalog.assets.map place)
    (hObservations : after.observations = catalog.observations)
    (hSpans : after.relationships.map span = catalog.relationships.map span) :
    Ready locator runID environmentID after past rest := by
  have hRow : ∀ row ∈ after.relationships, ∃ old ∈ catalog.relationships, old.locator = row.locator ∧
      old.identity = row.identity ∧ old.sourceAssetID = row.sourceAssetID ∧ old.targetAssetID = row.targetAssetID := by
    intro row hRow
    have hMem : span row ∈ catalog.relationships.map span := hSpans ▸ List.mem_map_of_mem hRow
    obtain ⟨old, hOld, hSame⟩ := List.mem_map.mp hMem
    simp only [span, Prod.mk.injEq] at hSame
    exact ⟨old, hOld, hSame⟩
  refine ⟨?_, ?_, ?_, ?_, ?_, ?_⟩
  · intro page hPage item hItem
    obtain ⟨hAsset, hObservation⟩ := h.items page hPage item hItem
    exact ⟨hPlaces ▸ hAsset, hObservations ▸ hObservation⟩
  · intro page hPage relation hRelation row hNew
    obtain ⟨old, hOld, hLocator, hIdentity, _⟩ := hRow row hNew
    rw [← hLocator, ← hIdentity]
    exact h.relations page hPage relation hRelation old hOld
  · unfold Present
    rw [hPlaces]
    exact h.present
  · rw [← map_fst_place, hPlaces, map_fst_place]
    exact h.referential.unique
  · intro row hNew
    obtain ⟨old, hOld, hLocator, hIdentity, hSource, _⟩ := hRow row hNew
    rw [hPlaces, ← hLocator, ← hIdentity, ← hSource]
    exact h.referential.source old hOld
  · intro row hNew
    obtain ⟨old, hOld, hLocator, hIdentity, _, hTarget⟩ := hRow row hNew
    rw [hPlaces, ← hLocator, ← hIdentity, ← hTarget]
    exact h.referential.target old hOld

theorem slots_fst {α β : Type} {less : α → α → Bool} {values : List α} {slots : List β}
    (h : slots.length = values.length) :
    ((GoMap.sortSlice less values).zip slots).map Prod.fst = GoMap.sortSlice less values :=
  List.map_fst_zip ((GoMap.perm_sortSlice less values).length_eq.trans h.symm).le

theorem slots_nodup {α β κ : Type} {less : α → α → Bool} {values : List α} {slots : List β} {key : α → κ}
    (hSlots : slots.length = values.length) (h : (values.map key).Nodup) :
    (((GoMap.sortSlice less values).zip slots).map fun slot => key slot.1).Nodup := by
  rw [← Function.comp_def, ← List.map_map, slots_fst hSlots]
  exact ((GoMap.perm_sortSlice less values).map key).nodup_iff.mpr h

def LaterItem (rest : List Page) (externalID : GoString) : Prop :=
  ∃ other ∈ rest, ∃ item ∈ other.items, item.externalID = externalID

def LaterRelation (rest : List Page) (relation : ObservedRelation) : Prop :=
  ∃ other ∈ rest, relation ∈ other.relations

variable (h : Ready context.locator context.runID environmentID catalog past (page :: rest))
  (hReported : Reported environmentID page) (hApart : ∀ other ∈ rest, Apart page other)

include h hReported hApart in
theorem passing_of_ready (hSlots : ids.items.length = page.items.length) :
    projectItems codec collation context catalog page.items ids.items ≠ .error .conflict ∧
      ∀ state, projectItems codec collation context catalog page.items ids.items = .ok state →
        Passing context environmentID catalog (LaterItem rest) ((sortedItems page.items).zip ids.items) [] state := by
  refine foldlM_avoids (fun _ _ _ => Passing.step) ⟨?_, slots_nodup hSlots hReported.distinctItems, ?_,
    h.referential.unique, List.Subset.refl _, ⟨rfl, rfl, rfl⟩, fun _ _ hSlot _ => .inl hSlot⟩
  · rintro externalID (hMem | ⟨other, hOther, item, hItem, rfl⟩)
    · obtain ⟨slot, hSlot, rfl⟩ := List.mem_map.mp hMem
      exact h.items page List.mem_cons_self slot.1 (mem_of_mem_sortedItems hSlot).1
    · exact h.items other (List.mem_cons_of_mem _ hOther) item hItem
  · intro slot hSlot
    have hItem := (mem_of_mem_sortedItems hSlot).1
    refine ⟨hReported.items slot.1 hItem, ?_⟩
    rintro hLive ⟨other, hOther, item, hOtherItem, hSame⟩
    exact (hApart other hOther).1 slot.1 hItem hLive item hOtherItem hSame

include h hReported hApart in
theorem relating_of_passing {state : ItemState} {pageDigest : GoString}
    {slots : List (NormalizedItem × PageItemIDs)}
    (hEnds : ∀ relation ∈ page.relations, Live past relation.fromExternalID ∧ Live past relation.toExternalID)
    (hSlots : ids.relations.length = page.relations.length)
    (hPassed : Passing context environmentID catalog (LaterItem rest) slots [] state) :
    ((sortedRelations page.relations).zip ids.relations).foldlM (projectPageRelation codec.sha256Hex context pageDigest)
        state.catalog ≠ .error .conflict ∧
      ∀ related, ((sortedRelations page.relations).zip ids.relations).foldlM
          (projectPageRelation codec.sha256Hex context pageDigest) state.catalog = .ok related →
        Relating context state.catalog (LaterRelation rest) [] related := by
  obtain ⟨hRelationships, _⟩ := hPassed.frame
  have hPresent {externalID : GoString} (hLive : Live past externalID) :
      Present context.locator state.catalog environmentID externalID := by
    obtain ⟨other, hOther, item, hItem, hTombstone, rfl⟩ := hLive
    obtain ⟨id, hPlace⟩ := h.present other hOther item hItem hTombstone
    exact ⟨id, hPassed.kept hPlace⟩
  refine foldlM_avoids (fun _ _ _ => Relating.step) ⟨?_, slots_nodup hSlots hReported.distinctRelations, ?_, ?_,
    ⟨rfl, rfl⟩, hPassed.unique, ?_, ?_⟩
  · rintro relation (hMem | ⟨other, hOther, hRelation⟩)
    · obtain ⟨slot, hSlot, rfl⟩ := List.mem_map.mp hMem
      rw [Unrelated, hRelationships]
      exact h.relations page List.mem_cons_self slot.1 (mem_of_mem_sortedRelations hSlot)
    · rw [Unrelated, hRelationships]
      exact h.relations other (List.mem_cons_of_mem _ hOther) relation hRelation
  · rintro slot hSlot relation ⟨other, hOther, hRelation⟩
    exact (hApart other hOther).2 slot.1 (mem_of_mem_sortedRelations hSlot) relation hRelation
  · intro slot hSlot
    have hRelation := mem_of_mem_sortedRelations hSlot
    obtain ⟨hSource, hTarget⟩ := hReported.relations slot.1 hRelation
    obtain ⟨hFrom, hTo⟩ := hEnds slot.1 hRelation
    rw [hSource, hTarget]
    exact ⟨hPresent hFrom, hPresent hTo⟩
  · rw [hRelationships]
    exact fun row hRow => hPassed.kept (h.referential.source row hRow)
  · rw [hRelationships]
    exact fun row hRow => hPassed.kept (h.referential.target row hRow)

include h hReported hApart in
theorem Ready.project_ne_conflict
    (hEnds : ∀ relation ∈ page.relations, Live past relation.fromExternalID ∧ Live past relation.toExternalID) :
    projectDiscoveryPage codec collation context catalog page ids ≠ .error .conflict := by
  intro hError
  simp only [projectDiscoveryPage, bind_eq_error, require_eq_error, require_eq_ok, orFail_eq_error, reduceCtorEq,
    and_false, false_or] at hError
  obtain ⟨_, ⟨hItemSlots, hRelationSlots⟩, hError⟩ := hError
  rcases hError with hItems | ⟨state, hItems, hError⟩
  · exact (passing_of_ready h hReported hApart hItemSlots).1 hItems
  have hPassed := (passing_of_ready h hReported hApart hItemSlots).2 state hItems
  -- No asset is known, so none is tombstoned.
  have hNamed : ¬ page.relations.any (namesTombstoned state) = true := by
    simp [namesTombstoned, hPassed.frame.2.1]
  simp only [hPassed.frame.2.2, List.foldlM_nil] at hError
  obtain ⟨_, _, ⟨hAny, _⟩ | ⟨_, _, digest, _, hError⟩⟩ := hError
  · exact hAny hNamed
  rcases hError with hRelations | ⟨related, _, hPure | ⟨detached, _, hClosed | ⟨_, _, hPure⟩⟩⟩
  · exact (relating_of_passing h hReported hApart hEnds hRelationSlots hPassed).1 hRelations
  · cases hPure
  · exact closeSnapshot_ne_conflict hClosed
  · cases hPure

include h hReported hApart in
theorem Ready.project {projection : PageProjection}
    (hEnds : ∀ relation ∈ page.relations, Live past relation.fromExternalID ∧ Live past relation.toExternalID)
    (hProject : projectDiscoveryPage codec collation context catalog page ids = .ok projection)
    (hCount : projection.counts.conflict = 0) :
    Ready context.locator context.runID environmentID projection.catalog (past ++ [page]) rest := by
  obtain ⟨state, related, detached, hPhases⟩ := projectDiscoveryPage_ok hProject
  have hPassed := (passing_of_ready h hReported hApart hPhases.slots.1).2 state hPhases.items
  have hRelated := (relating_of_passing h hReported hApart hEnds hPhases.slots.2 hPassed).2 related hPhases.relations
  have hDetached : related = detached := by
    have hTombstones := hPhases.tombstones
    rw [hPassed.frame.2.2] at hTombstones
    exact Except.ok.inj hTombstones
  subst hDetached
  obtain ⟨hPlaces, hObservations, hSpans, hCounts⟩ := closeSnapshot_keeps hPhases.closed
  refine Ready.of_same ⟨?_, ?_, ?_, hRelated.referential⟩ hPlaces hObservations hSpans
  · intro other hOther item hItem
    obtain ⟨hAsset, hObservation⟩ := hPassed.awaited item.externalID (.inr ⟨other, hOther, item, hItem, rfl⟩)
    exact ⟨hRelated.frame.1 ▸ hAsset, hRelated.frame.2 ▸ hObservation⟩
  · exact fun other hOther relation hRelation => hRelated.awaited relation (.inr ⟨other, hOther, hRelation⟩)
  · unfold Present
    rw [hRelated.frame.1]
    intro other hOther item hItem hLive
    rcases List.mem_append.mp hOther with hPast | hLast
    · obtain ⟨id, hPlace⟩ := h.present other hPast item hItem hLive
      exact ⟨id, hPassed.kept hPlace⟩
    · rw [List.mem_singleton.mp hLast] at hItem
      have hSorted : item ∈ ((sortedItems page.items).zip ids.items).map Prod.fst := by
        rw [sortedItems, slots_fst hPhases.slots.1]
        exact GoMap.mem_sortSlice.mpr hItem
      obtain ⟨slot, hSlot, rfl⟩ := List.mem_map.mp hSorted
      have hNone : state.counts.conflict = 0 := hCounts.symm.trans hCount
      exact (hPassed.present hNone slot hSlot hLive).resolve_left List.not_mem_nil

/-- A page of the run as it is committed. -/
structure RunPage where
  context : PageContext
  page : Page
  ids : PageProjectionIDs

/-- The pages are projected one after the other, without a fingerprint collision. -/
inductive Commits (codec : Codec) (collation : GoString → GoString → Bool) :
    Catalog → List RunPage → Catalog → Prop
  | nil (catalog : Catalog) : Commits codec collation catalog [] catalog
  | cons {catalog final : Catalog} {step : RunPage} {rest : List RunPage} {projection : PageProjection}
      (hProject : projectDiscoveryPage codec collation step.context catalog step.page step.ids = .ok projection)
      (hCount : projection.counts.conflict = 0)
      (hRest : Commits codec collation projection.catalog rest final) :
      Commits codec collation catalog (step :: rest) final

/-- A catalog before the first run of a source. -/
structure FirstRun (locator : SourceLocator) (runID : GoString) (catalog : Catalog) : Prop where
  assets : ∀ asset ∈ catalog.assets, asset.locator ≠ locator
  observations : ∀ observation ∈ catalog.observations, observation.runID ≠ runID
  referential : Referential catalog

/-- Every relation joins live assets of the pages before it. -/
def EndpointsLive : List Page → List Page → Prop
  | _, [] => True
  | past, page :: rest =>
    (∀ relation ∈ page.relations, Live past relation.fromExternalID ∧ Live past relation.toExternalID) ∧
      EndpointsLive (past ++ [page]) rest

theorem FirstRun.ready (h : FirstRun locator runID catalog) (pages : List Page) :
    Ready locator runID environmentID catalog [] pages := by
  have hPlace {id environment externalID : GoString} :
      (id, locator, environment, externalID) ∉ catalog.assets.map place := by
    intro hMem
    obtain ⟨asset, hAsset, hSame⟩ := List.mem_map.mp hMem
    simp only [place, Prod.mk.injEq] at hSame
    exact h.assets asset hAsset hSame.2.1
  refine ⟨?_, ?_, fun _ hPage => (List.not_mem_nil hPage).elim, h.referential⟩
  · exact fun _ _ _ _ => ⟨fun _ _ => hPlace, fun observation hObservation _ hRun =>
      (h.observations observation hObservation hRun).elim⟩
  · intro _ _ _ _ row hRow hLocator
    exact (hPlace (hLocator ▸ h.referential.source row hRow)).elim

/-- The rest of a run from a catalog that is ready for it. -/
theorem Ready.never_conflicts {steps before after : List RunPage} {step : RunPage} {final : Catalog}
    (h : Ready locator runID environmentID catalog past (steps.map RunPage.page))
    (hRun : ∀ step ∈ steps, step.context.locator = locator ∧ step.context.runID = runID)
    (hReported : ∀ page ∈ steps.map RunPage.page, Reported environmentID page)
    (hApart : (steps.map RunPage.page).Pairwise Apart) (hEnds : EndpointsLive past (steps.map RunPage.page))
    (hSplit : steps = before ++ step :: after) (hBefore : Commits codec collation catalog before final) :
    projectDiscoveryPage codec collation step.context final step.page step.ids ≠ .error .conflict := by
  induction hBefore generalizing steps past with
  | nil catalog =>
    subst hSplit
    obtain ⟨rfl, rfl⟩ := hRun step List.mem_cons_self
    exact h.project_ne_conflict (hReported _ List.mem_cons_self) (List.pairwise_cons.mp hApart).1 hEnds.1
  | cons hProject hCount _ ih =>
    subst hSplit
    obtain ⟨⟨rfl, rfl⟩, hRun⟩ := List.forall_mem_cons.mp hRun
    obtain ⟨hFirst, hReported⟩ := List.forall_mem_cons.mp hReported
    obtain ⟨hFirstApart, hApart⟩ := List.pairwise_cons.mp hApart
    exact ih (h.project hFirst hFirstApart hEnds.1 hProject hCount) hRun hReported hApart hEnds.2 rfl

end Run

/-- The pages of one run that begins without a checkpoint, over a catalog without assets of the source: as long as every
relation joins live assets of earlier pages and no page repeats an object or an edge of an earlier one, none of them is
refused as a conflict. -/
theorem discovered_pages_never_conflict {codec : Codec} {collation : GoString → GoString → Bool} {library : Library}
    {binding : RuntimeBinding} {session : RuntimeSession} {locator : SourceLocator} {runID : GoString}
    {steps before after : List RunPage} {step : RunPage} {start catalog : Catalog}
    (hTraversal : Traversal library binding session ⟨profileCode, []⟩ (steps.map RunPage.page))
    (hRun : ∀ step ∈ steps, step.context.locator = locator ∧ step.context.runID = runID)
    (hStart : FirstRun locator runID start) (hEnds : EndpointsLive [] (steps.map RunPage.page))
    (hApart : (steps.map RunPage.page).Pairwise Apart) (hSplit : steps = before ++ step :: after)
    (hBefore : Commits codec collation start before catalog) :
    projectDiscoveryPage codec collation step.context catalog step.page step.ids ≠ .error .conflict :=
  (hStart.ready _).never_conflicts hRun hTraversal.reported hApart hEnds hSplit hBefore

namespace Sample

def id (suffix : String) : GoString := ascii ("0a0a0a0a-0000-4000-8000-00000000000" ++ suffix)

def locator : SourceLocator := ⟨⟨id "1", id "2"⟩, id "3"⟩

def digest : GoString := sha256Hex []

def now : Int := unixEpoch + 1783000000 * second

def asset (externalID : String) : CatalogAsset where
  externalID := ascii externalID
  typeCode := ascii "LINUX_VM"
  displayName := ascii externalID
  objectRevision := 1
  updatedAt := now
  deleted := false
  tombstoneReason := []
  attributes := some ∅

/-- Only the empty document and one time occur. -/
def library : Library where
  screening := {
    safeText := fun _ => true
    sensitiveName := fun _ => false
    sensitiveValue := fun _ => false
    document := fun document => if document = ascii "\x7b\x7d" then some ([], false) else none
    sha256Hex := sha256Hex }
  plainText := fun _ => true
  unsafeCatalogText := fun _ => false
  sensitiveName := fun _ => false
  documentFields := fun document => if document = ascii "\x7b\x7d" then some [] else none
  parseWireTime := fun value => if value = wireTime now then some now else none

/-- The server serves `host-1` and, behind the cursor, the last page of assets. -/
def client (lastPage : List String) : Client where
  capabilities := .ok ⟨ascii "cmdb-catalog/v1", ascii "cmdb", ascii "epoch-1", 500, true, true, now,
    [ascii "assets.read", ascii "relations.read"]⟩
  assets := fun cursor => .ok (if cursor = [] then ⟨[asset "host-1"], ascii "next", ascii "epoch-1", false, false⟩
    else ⟨lastPage.map asset, [], ascii "epoch-1", true, true⟩)
  relations := fun _ => .error .failed

def binding : RuntimeBinding := ⟨.published, locator, 1, digest, providerKind, profileCode⟩

def session : RuntimeSession := ⟨ascii "cmdb", id "4"⟩

def call (lastPage : List String) (checkpoint : Checkpoint) : Option Page :=
  match discover library binding session (client lastPage) now
    ⟨locator, 1, digest, checkpoint, ⟨100, 100, 1048576, 65536⟩⟩ with
  | .ok (.page page) => some page
  | _ => none

def context : PageContext where
  admission := {
    run := {
      id := id "5", locator := locator, sourceRevision := 1, sourceRevisionDigest := digest
      runKind := .discovery, status := .running, stageCode := .applying, gateRevision := 1
      cursorBeforeSHA256 := [], cursorAfterSHA256 := [], pageSequence := 0, pageDigest := []
      relationPageSequence := 0, relationPageDigest := [], finalPage := false, completeSnapshot := false
      effectiveComplete := false, checkpointVersion := 0, leaseOwner := [], leaseExpiresAt := 0, fenceEpoch := 1
      fenceTokenSHA256 := [], heartbeatSequence := 0, counts := {}, lineageRolloverReason := []
      lineageRolloverEvidenceSHA256 := [], version := 1 }
    leaseCurrent := true
    source := {
      locator := locator, sourceKind := .externalCMDB, providerKind := providerKind, status := .active
      published := some (1, digest), gateStatus := .available, gateReason := [], gateRevision := 1
      checkpointCiphertext := [], checkpointKeyID := [], checkpointSHA256 := [], checkpointRevision := 0
      checkpointVersion := 0, version := 1 }
    revision := {
      locator := locator, revision := 1, status := .published, canonicalRevisionDigest := digest
      sourceDefinitionDigest := digest, profileCode := profileCode, manifest := none
      authorityEnvironmentIDs := [id "4"], wellFormed := true } }
  coordinates := ⟨locator, id "5", 1⟩
  acceptedAt := now + 100 * second

theorem matchesUUID_ids : matchesUUID (id "6") = true ∧ matchesUUID (id "7") = true := by
  decide

def runPage (page : Page) (suffixes : List String) : RunPage where
  context := context
  page := page
  ids := ⟨suffixes.map fun suffix => ⟨id suffix, id "6", id "7"⟩, [], by
    intro ids hIDs
    obtain ⟨_, _, rfl⟩ := List.mem_map.mp hIDs
    exact matchesUUID_ids⟩

def codec : Codec := ⟨sha256Hex, fun document => some (Json.canonicalForm document)⟩

def project (catalog : Catalog) (step : RunPage) : Except CommitError PageProjection :=
  projectDiscoveryPage codec textLess step.context catalog step.page step.ids

def refuses (catalog : Catalog) (step : RunPage) : Bool :=
  match project catalog step with
  | .error .conflict => true
  | _ => false

/-- Two calls and the catalog with the first page. -/
def run (lastPage : List String) : Option (Page × Page × PageProjection) :=
  match call lastPage ⟨profileCode, []⟩ with
  | none => none
  | some first =>
    match call lastPage first.nextCheckpoint, project emptyCatalog (runPage first ["8"]) with
    | some last, .ok projection => some (first, last, projection)
    | _, _ => none

end Sample

theorem sample_traversal {lastPage : List String} {first last : Page} {projection : PageProjection}
    (h : Sample.run lastPage = some (first, last, projection)) :
    Traversal Sample.library Sample.binding Sample.session ⟨profileCode, []⟩ [first, last] ∧
      Sample.project emptyCatalog (Sample.runPage first ["8"]) = .ok projection := by
  have hCall : ∀ {checkpoint : Checkpoint} {page : Page} {rest : List Page},
      Sample.call lastPage checkpoint = some page →
      Traversal Sample.library Sample.binding Sample.session page.nextCheckpoint rest →
      Traversal Sample.library Sample.binding Sample.session checkpoint (page :: rest) := by
    intro checkpoint page rest hPage hRest
    unfold Sample.call at hPage
    split at hPage
    next hDiscover =>
      cases hPage
      exact .cons hDiscover hRest
    next => cases hPage
  unfold Sample.run at h
  split at h
  next => cases h
  next first' hFirst =>
    split at h
    next last' projection' hLast hProject =>
      cases h
      exact ⟨hCall hFirst (hCall hLast (.nil _)), hProject⟩
    next => cases h

theorem sample_firstRun : FirstRun Sample.locator (Sample.id "5") emptyCatalog where
  assets := fun _ hAsset => (List.not_mem_nil hAsset).elim
  observations := fun _ hObservation => (List.not_mem_nil hObservation).elim
  referential := ⟨.nil, fun _ hRow => (List.not_mem_nil hRow).elim, fun _ hRow => (List.not_mem_nil hRow).elim⟩

theorem sample_endpointsLive {first last : Page} (hFirst : first.relations = []) (hLast : last.relations = []) :
    EndpointsLive [] [first, last] := by
  simp [EndpointsLive, hFirst, hLast]

theorem discovered_pages_never_conflict_sample : ∃ first last projection,
    Sample.run ["host-2"] = some (first, last, projection) ∧
      Sample.project projection.catalog (Sample.runPage last ["9"]) ≠ .error .conflict := by
  have hRun : (Sample.run ["host-2"]).any (fun run => decide (run.2.2.counts.conflict = 0 ∧
      run.1.relations = [] ∧ run.2.1.relations = [] ∧
      ∀ item ∈ run.1.items, ∀ other ∈ run.2.1.items, other.externalID ≠ item.externalID)) = true := by
    decide +kernel
  obtain ⟨⟨first, last, projection⟩, hSome, hFacts⟩ := (Option.any_eq_true _ _).mp hRun
  obtain ⟨hCount, hFirst, hLast, hApart⟩ := of_decide_eq_true hFacts
  obtain ⟨hTraversal, hProject⟩ := sample_traversal hSome
  have hSteps : ∀ step ∈ [Sample.runPage first ["8"], Sample.runPage last ["9"]],
      step.context.locator = Sample.locator ∧ step.context.runID = Sample.id "5" := by
    simp only [List.forall_mem_cons]
    exact ⟨⟨rfl, rfl⟩, ⟨rfl, rfl⟩, fun _ hStep => (List.not_mem_nil hStep).elim⟩
  refine ⟨first, last, projection, hSome, discovered_pages_never_conflict hTraversal hSteps sample_firstRun ?_ ?_ rfl
    (.cons hProject hCount (.nil _))⟩
  · exact sample_endpointsLive hFirst hLast
  · refine List.pairwise_pair.mpr ⟨fun item hItem _ other hOther => hApart item hItem other hOther, ?_⟩
    intro relation hRelation
    exact (List.not_mem_nil (hFirst ▸ hRelation)).elim

/-- The second page starts with the last asset of the first one: `Discover` accepts it, the committer refuses it. -/
theorem boundary_replay_conflicts : ∃ (first last : Page) (projection : PageProjection),
    Traversal Sample.library Sample.binding Sample.session ⟨profileCode, []⟩ [first, last] ∧
      FirstRun Sample.locator (Sample.id "5") emptyCatalog ∧ EndpointsLive [] [first, last] ∧
      Commits Sample.codec textLess emptyCatalog [Sample.runPage first ["8"]] projection.catalog ∧
      projectDiscoveryPage Sample.codec textLess Sample.context projection.catalog last
        (Sample.runPage last ["9", "a"]).ids = .error .conflict := by
  have hRun : (Sample.run ["host-1", "host-2"]).any (fun run =>
      decide (run.2.2.counts.conflict = 0 ∧ run.1.relations = [] ∧ run.2.1.relations = [] ∧
        Sample.refuses run.2.2.catalog (Sample.runPage run.2.1 ["9", "a"]) = true)) = true := by
    decide +kernel
  obtain ⟨⟨first, last, projection⟩, hSome, hFacts⟩ := (Option.any_eq_true _ _).mp hRun
  obtain ⟨hCount, hFirst, hLast, hRefuses⟩ := of_decide_eq_true hFacts
  obtain ⟨hTraversal, hProject⟩ := sample_traversal hSome
  have hConflict : Sample.project projection.catalog (Sample.runPage last ["9", "a"]) = .error .conflict := by
    unfold Sample.refuses at hRefuses
    split at hRefuses
    next hError => exact hError
    next => cases hRefuses
  exact ⟨first, last, projection, hTraversal, sample_firstRun, sample_endpointsLive hFirst hLast,
    .cons hProject hCount (.nil _), hConflict⟩

end AiopsSystem.ExternalCmdb
