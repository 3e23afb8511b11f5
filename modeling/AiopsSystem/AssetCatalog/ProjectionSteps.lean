import AiopsSystem.AssetCatalog.Projection
import AiopsSystem.Go.Loop

/-! # What one step of a projection does

Inversion lemmas for the four loops of `projectDiscoveryPage`: each says which
rows a successful step writes and which guards it passed. Invariants of the
catalog are case analyses over these.
-/

namespace AiopsSystem.AssetCatalog

open Go

def Catalog.observe (catalog : Catalog) (observation : Observation) : Catalog :=
  { catalog with observations := catalog.observations ++ [observation] }

def isRow (asset row : Asset) : Bool := decide (row.id = asset.id ∧ row.version = asset.version)

def Catalog.collide (catalog : Catalog) (candidate : Asset) (conflict : Conflict) : Catalog :=
  { catalog with
    assets := if candidate.mappingStatus = .ambiguous then catalog.assets
      else Sql.update (isRow candidate) Asset.ambiguous catalog.assets
    conflicts := catalog.conflicts ++ [conflict] }

def Catalog.create (catalog : Catalog) (asset : Asset) : Catalog :=
  { catalog with assets := catalog.assets ++ [asset] }

def Catalog.change (catalog : Catalog) (prior : Asset) (change : Asset → Asset) : Catalog :=
  { catalog with assets := Sql.update (isRow prior) change catalog.assets }

section Items

variable (codec : Codec) (collation : GoString → GoString → Bool) (context : PageContext)

structure Storable (catalog : Catalog) (item : NormalizedItem) (observation : Observation) : Prop where
  fresh : observation.id ∉ catalog.observations.map Observation.id
  admitted : freshnessAdmitted context observation.freshness = true
  first : pageRunObjectExists context catalog item = false

structure Succeeds (catalog : Catalog) (item : NormalizedItem) (prior : PriorAsset) (providerFact : GoString) :
    Prop where
  known : lockPagePriorAsset context catalog item = some prior
  environment : prior.asset.environmentID = item.environmentID
  otherRun : prior.observation.runID ≠ context.runID
  kind : item.tombstone = true ∨ item.kind = some prior.asset.kind
  later : prior.asset.lastObservedAt < context.acceptedAt
  accepted : pageFreshnessAccepts context.revision item.freshness providerFact prior = true
  present : catalog.assets.any (isRow prior.asset) = true

inductive ItemStep (state : ItemState) (item : NormalizedItem) (ids : PageItemIDs) : ItemState → Prop
  | unknown (facts : PageItemFacts) (hPrior : lockPagePriorAsset context state.catalog item = none)
      (hTombstone : item.tombstone = true)
      (hFirst : pageRunObjectExists context state.catalog item = false) :
      ItemStep state item ids { state with
        providerFacts := state.providerFacts ++ [facts.providerFactDigest]
        counts := { state.counts with missing := state.counts.missing + 1, rejected := state.counts.rejected + 1 } }
  | collided (facts : PageItemFacts) (observation : Observation) (candidate : Asset)
      (hPrior : lockPagePriorAsset context state.catalog item = none) (hTombstone : item.tombstone = false)
      (hObservation : observation = pageObservation context item facts ids.observation none)
      (hStorable : Storable context state.catalog item observation)
      (hCandidate : lockPageFingerprintCandidate collation context (state.catalog.observe observation) item
        facts.fingerprintDigest = some candidate)
      (hFresh : ids.conflict ∉ state.catalog.conflicts.map Conflict.id) :
      ItemStep state item ids { state with
        catalog := (state.catalog.observe observation).collide candidate
          (fingerprintConflict context item ids.conflict candidate observation)
        providerFacts := state.providerFacts ++ [facts.providerFactDigest]
        counts := { state.counts with
          observed := state.counts.observed + 1
          conflict := state.counts.conflict + 1
          rejected := state.counts.rejected + 1 } }
  | created (facts : PageItemFacts) (observation : Observation) (asset : Asset)
      (hPrior : lockPagePriorAsset context state.catalog item = none) (hTombstone : item.tombstone = false)
      (hObservation : observation = pageObservation context item facts ids.observation none)
      (hStorable : Storable context state.catalog item observation)
      (hAsset : ∃ kind, item.kind = some kind ∧ asset = pageAsset context item kind ids.asset observation)
      (hFresh : asset.id ∉ state.catalog.assets.map Asset.id ∧ asset.key ∉ state.catalog.assets.map Asset.key) :
      ItemStep state item ids { state with
        catalog := (state.catalog.observe observation).create asset
        providerFacts := state.providerFacts ++ [facts.providerFactDigest]
        counts := { state.counts with observed := state.counts.observed + 1, created := state.counts.created + 1 } }
  | advanced (facts : PageItemFacts) (observation : Observation) (prior : PriorAsset)
      (hFacts : buildPageItemFacts codec context (persistedItem item prior) ids.observation
        (some (prior.asset.lastObservationID, prior.asset.lastObservationChainSHA256)) = some facts)
      (hSucceeds : Succeeds context state.catalog item prior facts.providerFactDigest)
      (hObservation : observation = pageObservation context (persistedItem item prior) facts ids.observation
        (some (prior.asset.lastObservationID, prior.asset.lastObservationChainSHA256)))
      (hStorable : Storable context state.catalog item observation) :
      ItemStep state item ids {
        catalog := (state.catalog.observe observation).change prior.asset
          (advanceAsset context (persistedItem item prior) observation)
        counts := countKnown state.counts item prior facts.providerFactDigest
        providerFacts := state.providerFacts ++ [facts.providerFactDigest]
        tombstonedAssets := if item.tombstone then state.tombstonedAssets ++ [prior.asset.id]
          else state.tombstonedAssets
        tombstonedItems := if item.tombstone then state.tombstonedItems ++ [(item.environmentID, item.externalID)]
          else state.tombstonedItems }

variable {codec collation context} {state next : ItemState} {item : NormalizedItem} {ids : PageItemIDs}

variable {observation : Observation}

theorem insertPageObservation_ok {catalog result : Catalog} :
    insertPageObservation context catalog observation = .ok result ↔
      observation.id ∉ catalog.observations.map Observation.id ∧
        freshnessAdmitted context observation.freshness ∧ catalog.observe observation = result := by
  simp [insertPageObservation, Catalog.observe, pure, Except.pure]

theorem persistedItem_freshness (item : NormalizedItem) (prior : PriorAsset) :
    (persistedItem item prior).freshness = item.freshness := by
  unfold persistedItem
  split <;> rfl

theorem persistedItem_providerKind (item : NormalizedItem) (prior : PriorAsset) :
    (persistedItem item prior).providerKind = item.providerKind := by
  unfold persistedItem
  split <;> rfl

theorem projectNewItem_ok (hPrior : lockPagePriorAsset context state.catalog item = none)
    (hFirst : pageRunObjectExists context state.catalog item = false)
    (h : projectNewItem codec collation context state item ids = .ok next) :
    ItemStep codec collation context state item ids next := by
  simp only [projectNewItem, bind_eq_ok, orFail_eq_ok] at h
  obtain ⟨facts, _, h⟩ := h
  split at h
  next hTombstone =>
    cases h
    exact .unknown facts hPrior hTombstone hFirst
  next hTombstone =>
    simp only [bind_eq_ok, insertPageObservation_ok] at h
    obtain ⟨_, ⟨hNew, hAdmitted, rfl⟩, h⟩ := h
    have hPresent : item.tombstone = false := by simpa using hTombstone
    split at h
    next candidate hCandidate =>
      simp only [insertPageFingerprintConflict, bind_eq_ok, require_eq_ok] at h
      obtain ⟨_, ⟨_, hFresh, hCatalog⟩, h⟩ := h
      cases hCatalog
      cases h
      exact .collided facts _ candidate hPrior hPresent rfl ⟨hNew, hAdmitted, hFirst⟩ hCandidate hFresh
    next =>
      simp only [bind_eq_ok, orFail_eq_ok, insertPageAsset, require_eq_ok] at h
      obtain ⟨kind, hKind, _, ⟨_, hFresh, hCatalog⟩, h⟩ := h
      cases hCatalog
      cases h
      exact .created facts _ _ hPrior hPresent rfl ⟨hNew, hAdmitted, hFirst⟩ ⟨kind, hKind, rfl⟩ hFresh

theorem projectKnownItem_ok {prior : PriorAsset} (hPrior : lockPagePriorAsset context state.catalog item = some prior)
    (hFirst : pageRunObjectExists context state.catalog item = false)
    (h : projectKnownItem codec context state item ids prior = .ok next) :
    ItemStep codec collation context state item ids next := by
  simp only [projectKnownItem, updatePageAsset, bind_eq_ok, require_eq_ok, orFail_eq_ok, insertPageObservation_ok] at h
  obtain ⟨_, hEnvironment, _, ⟨hRun, hKind⟩, _, hLater, facts, hFacts, _, hAccepts, _, ⟨hNew, hAdmitted, rfl⟩, _,
    ⟨_, hPresent, hCatalog⟩, h⟩ := h
  cases hCatalog
  cases h
  rw [persistedItem_freshness] at hAccepts
  exact .advanced facts _ prior hFacts ⟨hPrior, hEnvironment, hRun, hKind, hLater, hAccepts, hPresent⟩ rfl
    ⟨hNew, hAdmitted, hFirst⟩

theorem projectItem_ok {slot : NormalizedItem × PageItemIDs}
    (h : projectItem codec collation context state slot = .ok next) :
    ItemStep codec collation context state slot.1 slot.2 next := by
  simp only [projectItem, bind_eq_ok, require_eq_ok, Bool.not_eq_true] at h
  obtain ⟨_, hFirst, h⟩ := h
  split at h
  next hPrior => exact projectNewItem_ok hPrior hFirst h
  next prior hPrior => exact projectKnownItem_ok hPrior hFirst h

theorem ItemStep.keeps_observation (step : ItemStep codec collation context state item ids next)
    (h : observation ∈ state.catalog.observations) : observation ∈ next.catalog.observations := by
  cases step with
  | unknown => exact h
  | collided | created | advanced => exact List.mem_append_left _ h

end Items

section Relations

variable (sha256Hex : GoString → GoString) (context : PageContext) (pageDigest : GoString)

def isEdge (relationship row : Relationship) : Bool :=
  decide (row.id = relationship.id ∧ row.version = relationship.version)

structure Renewable (catalog : Catalog) (relation : ObservedRelation) (existing : Relationship)
    (sourceAssetID targetAssetID : GoString) : Prop where
  stored : Sql.lookup Relationship.key (context.locator, relation.identity) catalog.relationships = some existing
  alone : ∀ row ∈ catalog.relationships,
    isActiveEdge context sourceAssetID targetAssetID relation.type row = true → row.id = existing.id
  otherRun : existing.lastRunID ≠ context.runID
  policy : existing.crossEnvironmentPolicyReferenceID = relation.crossEnvironmentPolicyReferenceID
  revision : existing.sourceRevision ≤ context.revision
  accepted : existing.sourceRevision = context.revision →
    relationFreshnessAccepts relation.freshness (relationFactDigest sha256Hex context relation) existing.freshness
      existing.relationFactSHA256 = true
  admitted : freshnessAdmitted context relation.freshness = true

inductive RelationStep (catalog : Catalog) (relation : ObservedRelation) (relationshipID : GoString) : Catalog → Prop
  | inserted (source target : Asset)
      (hSource : relationEndpoint context catalog relation.sourceEnvironmentID relation.fromExternalID = some source)
      (hTarget : relationEndpoint context catalog relation.targetEnvironmentID relation.toExternalID = some target)
      (hNew : Sql.lookup Relationship.key (context.locator, relation.identity) catalog.relationships = none)
      (hFresh : relationshipID ∉ catalog.relationships.map Relationship.id) :
      RelationStep catalog relation relationshipID { catalog with
        relationships := catalog.relationships ++
          [newRelationship sha256Hex context pageDigest relation relationshipID source.id target.id] }
  | renewed (source target : Asset) (existing : Relationship)
      (hSource : relationEndpoint context catalog relation.sourceEnvironmentID relation.fromExternalID = some source)
      (hTarget : relationEndpoint context catalog relation.targetEnvironmentID relation.toExternalID = some target)
      (hRenewable : Renewable sha256Hex context catalog relation existing source.id target.id) :
      RelationStep catalog relation relationshipID { catalog with
        relationships := Sql.update (isEdge existing) (projectedRelationship sha256Hex context pageDigest relation)
          catalog.relationships }

variable {sha256Hex context pageDigest} {catalog result : Catalog}

theorem relationshipMutationAdmitted_iff {old new : Relationship} :
    relationshipMutationAdmitted context old new ↔
      freshnessAdmitted context new.freshness ∧ new.lastRunID ≠ old.lastRunID ∧
        (old.sourceRevision < new.sourceRevision ∨ old.sourceRevision = new.sourceRevision ∧
          relationFreshnessAccepts new.freshness new.relationFactSHA256 old.freshness old.relationFactSHA256) := by
  simp only [relationshipMutationAdmitted, Bool.and_eq_true, decide_eq_true_eq, and_assoc]

theorem updatePageRelationship_ok {existing : Relationship} {relation : ObservedRelation}
    {sourceAssetID targetAssetID : GoString}
    (hStored : Sql.lookup Relationship.key (context.locator, relation.identity) catalog.relationships = some existing) :
    updatePageRelationship sha256Hex context pageDigest catalog existing relation sourceAssetID targetAssetID =
        .ok result ↔
      Renewable sha256Hex context catalog relation existing sourceAssetID targetAssetID ∧
        { catalog with
          relationships := Sql.update (isEdge existing) (projectedRelationship sha256Hex context pageDigest relation)
            catalog.relationships } = result := by
  simp only [updatePageRelationship, bind_eq_ok, require_eq_ok, relationshipMutationAdmitted_iff]
  constructor
  · rintro ⟨_, hAlone, _, ⟨hRun, hPolicy, hRevision, hAccepted⟩, _, ⟨hAdmitted, _, _⟩, hResult⟩
    cases hResult
    refine ⟨⟨hStored, ?_, hRun, hPolicy, hRevision, hAccepted, hAdmitted⟩, rfl⟩
    intro row hRow hActive
    by_contra hOther
    exact hAlone (List.any_eq_true.mpr ⟨row, hRow, by simp [hActive, hOther]⟩)
  · rintro ⟨hRenewable, rfl⟩
    refine ⟨(), ?_, (), ⟨hRenewable.otherRun, hRenewable.policy, hRenewable.revision, hRenewable.accepted⟩, (),
      ⟨hRenewable.admitted, hRenewable.otherRun.symm, ?_⟩, rfl⟩
    · intro hAny
      obtain ⟨row, hRow, hTest⟩ := List.any_eq_true.mp hAny
      obtain ⟨hActive, hOther⟩ := Bool.and_eq_true_iff.mp hTest
      exact of_decide_eq_true hOther (hRenewable.alone row hRow hActive)
    · rcases lt_or_eq_of_le hRenewable.revision with hNewer | hSame
      · exact .inl hNewer
      · exact .inr ⟨hSame, hRenewable.accepted hSame⟩

theorem projectPageRelation_ok {slot : ObservedRelation × GoString}
    (h : projectPageRelation sha256Hex context pageDigest catalog slot = .ok result) :
    RelationStep sha256Hex context pageDigest catalog slot.1 slot.2 result := by
  simp only [projectPageRelation, bind_eq_ok, orFail_eq_ok] at h
  obtain ⟨source, hSource, target, hTarget, h⟩ := h
  split at h
  next hNew =>
    simp only [insertPageRelationship, bind_eq_ok, require_eq_ok] at h
    obtain ⟨_, _, _, ⟨hFresh, _, _⟩, hResult⟩ := h
    cases hResult
    exact .inserted source target hSource hTarget hNew hFresh
  next existing hStored =>
    obtain ⟨hRenewable, rfl⟩ := (updatePageRelationship_ok hStored).mp h
    exact .renewed source target existing hSource hTarget hRenewable

/-- The rows one call of `inactivatePageRelationships` selects. -/
def isClosing (context : PageContext) (selected : Relationship → Bool) (row : Relationship) : Bool :=
  isOpenRelationship context row && selected row

theorem inactivatePageRelationships_ok {selected : Relationship → Bool} :
    inactivatePageRelationships context pageDigest catalog selected = .ok result ↔
      (∀ row ∈ catalog.relationships, isClosing context selected row →
        relationshipMutationAdmitted context row (inactivated context pageDigest row)) ∧
      { catalog with
        relationships := Sql.update (isClosing context selected) (inactivated context pageDigest)
          catalog.relationships } = result := by
  simp only [inactivatePageRelationships, bind_eq_ok, require_eq_ok, List.all_eq_true, Bool.or_eq_true,
    Bool.not_eq_true']
  constructor
  · rintro ⟨_, hAll, hResult⟩
    cases hResult
    refine ⟨?_, rfl⟩
    intro row hRow hClosing
    rcases hAll row hRow with hOpen | hAdmitted
    · exact absurd (hClosing.symm.trans hOpen) (by decide)
    · exact hAdmitted
  · rintro ⟨hAll, rfl⟩
    refine ⟨(), ?_, rfl⟩
    intro row hRow
    cases hClosing : isClosing context selected row with
    | false => exact .inl hClosing
    | true => exact .inr (hAll row hRow hClosing)

end Relations

section Page

variable {codec : Codec} {collation : GoString → GoString → Bool} {context : PageContext}
  {catalog : Catalog} {page : Page} {ids : PageProjectionIDs} {projection : PageProjection}

/-- The states a successful projection passes: after the items, the relations and the tombstones. -/
structure Phases (codec : Codec) (collation : GoString → GoString → Bool) (context : PageContext)
    (catalog : Catalog) (page : Page) (ids : PageProjectionIDs) (projection : PageProjection) (state : ItemState)
    (related detached : Catalog) : Prop where
  slots : ids.items.length = page.items.length ∧ ids.relations.length = page.relations.length
  items : projectItems codec collation context catalog page.items ids.items = .ok state
  present : ∀ relation ∈ page.relations, namesTombstoned state relation = false
  relations : ((sortedRelations page.relations).zip ids.relations).foldlM
    (projectPageRelation codec.sha256Hex context projection.relationPageDigest) state.catalog = .ok related
  tombstones : state.tombstonedAssets.foldlM (inactivateTombstoned context projection.relationPageDigest) related =
    .ok detached
  closed : closeSnapshot context projection.relationPageDigest page state.counts detached =
    .ok (projection.catalog, projection.counts)

theorem projectDiscoveryPage_ok (h : projectDiscoveryPage codec collation context catalog page ids = .ok projection) :
    ∃ state related detached, Phases codec collation context catalog page ids projection state related detached := by
  simp only [projectDiscoveryPage, bind_eq_ok, require_eq_ok, orFail_eq_ok] at h
  obtain ⟨_, hSlots, state, hItems, _, _, _, hPresent, _, _, related, hRelated, detached, hDetached, ⟨closed, counts⟩,
    hClosed, h⟩ := h
  cases h
  refine ⟨state, related, detached, hSlots, hItems, ?_, hRelated, hDetached, hClosed⟩
  intro relation hRelation
  cases hNamed : namesTombstoned state relation with
  | false => rfl
  | true => exact absurd (List.any_eq_true.mpr ⟨relation, hRelation, hNamed⟩) hPresent

theorem mem_of_mem_sortedItems {items : List NormalizedItem} {slots : List PageItemIDs}
    {slot : NormalizedItem × PageItemIDs} (h : slot ∈ (sortedItems items).zip slots) : slot.1 ∈ items ∧ slot.2 ∈ slots := by
  obtain ⟨_, _⟩ := slot
  obtain ⟨hItem, hId⟩ := List.of_mem_zip h
  exact ⟨GoMap.mem_sortSlice.mp hItem, hId⟩

theorem mem_of_mem_sortedRelations {relations : List ObservedRelation} {slots : List GoString}
    {slot : ObservedRelation × GoString} (h : slot ∈ (sortedRelations relations).zip slots) : slot.1 ∈ relations := by
  obtain ⟨_, _⟩ := slot
  exact GoMap.mem_sortSlice.mp (List.of_mem_zip h).1

theorem closeSnapshot_ok {pageDigest : GoString} {counts : PageCounts} {result : Catalog × PageCounts}
    (h : closeSnapshot context pageDigest page counts catalog = .ok result) :
    (concludesAbsence context page counts = false ∧ result = (catalog, counts)) ∨
    (concludesAbsence context page counts ∧ result.2 = countMissing context counts catalog ∧
      inactivatePageRelationships context pageDigest (closeMissingPageAssets context catalog) (fun _ => true) =
        .ok result.1) := by
  unfold closeSnapshot at h
  split at h
  next hConcludes =>
    simp only [bind_eq_ok] at h
    obtain ⟨_, hClosed, h⟩ := h
    cases h
    exact .inr ⟨hConcludes, rfl, hClosed⟩
  next hConcludes =>
    cases h
    exact .inl ⟨by simpa using hConcludes, rfl⟩

theorem inactivateTombstoned_ok {pageDigest assetID : GoString} {result : Catalog}
    (h : inactivateTombstoned context pageDigest catalog assetID = .ok result) :
    inactivatePageRelationships context pageDigest catalog (touches assetID) = .ok result := by
  simp only [inactivateTombstoned, bind_eq_ok, require_eq_ok] at h
  obtain ⟨_, _, h⟩ := h
  exact h

variable {state : ItemState} {related detached : Catalog}

variable {P : Catalog → Prop}

theorem Phases.items_preserve
    (h : Phases codec collation context catalog page ids projection state related detached) (hStart : P catalog)
    (hItem : ∀ item ∈ page.items, ∀ slot ∈ ids.items, ∀ before after,
      ItemStep codec collation context before item slot after → P before.catalog → P after.catalog) :
    P state.catalog := by
  refine foldlM_preserves (P := fun state : ItemState => P state.catalog) h.items hStart ?_
  intro slot hSlot before after hBefore hStep
  obtain ⟨hMem, hIds⟩ := mem_of_mem_sortedItems hSlot
  exact hItem slot.1 hMem slot.2 hIds before after (projectItem_ok hStep) hBefore

theorem Phases.relations_preserve
    (h : Phases codec collation context catalog page ids projection state related detached) (hItems : P state.catalog)
    (hRelation : ∀ relation ∈ page.relations, ∀ relationshipID before after,
      RelationStep codec.sha256Hex context projection.relationPageDigest before relation relationshipID after →
        P before → P after)
    (hInactivate : ∀ assetID ∈ state.tombstonedAssets, ∀ before after,
      inactivatePageRelationships context projection.relationPageDigest before (touches assetID) = .ok after →
        P before → P after) : P detached := by
  have hRelated : P related := by
    refine foldlM_preserves h.relations hItems ?_
    intro slot hSlot before after hBefore hStep
    exact hRelation slot.1 (mem_of_mem_sortedRelations hSlot) slot.2 before after (projectPageRelation_ok hStep) hBefore
  refine foldlM_preserves h.tombstones hRelated ?_
  intro assetID hAsset before after hBefore hStep
  exact hInactivate assetID hAsset before after (inactivateTombstoned_ok hStep) hBefore

theorem projectDiscoveryPage_preserves
    (h : projectDiscoveryPage codec collation context catalog page ids = .ok projection) (hStart : P catalog)
    (hItem : ∀ item ∈ page.items, ∀ slot ∈ ids.items, ∀ state next,
      ItemStep codec collation context state item slot next → P state.catalog → P next.catalog)
    (hRelation : ∀ relation ∈ page.relations, ∀ relationshipID before after,
      RelationStep codec.sha256Hex context projection.relationPageDigest before relation relationshipID after →
        P before → P after)
    (hInactivate : ∀ selected before after,
      inactivatePageRelationships context projection.relationPageDigest before selected = .ok after →
        P before → P after)
    (hMissing : ∀ before, P before → P (closeMissingPageAssets context before)) : P projection.catalog := by
  obtain ⟨state, _, detached, hPhases⟩ := projectDiscoveryPage_ok h
  have hDetached : P detached := hPhases.relations_preserve (hPhases.items_preserve hStart hItem) hRelation
    (fun assetID _ => hInactivate (touches assetID))
  rcases closeSnapshot_ok hPhases.closed with ⟨_, hSame⟩ | ⟨_, _, hClosed⟩
  · rw [(Prod.mk.inj hSame).1]
    exact hDetached
  · exact hInactivate _ _ _ hClosed (hMissing detached hDetached)

end Page

end AiopsSystem.AssetCatalog
