import AiopsSystem.AssetCatalog.Attribution
import AiopsSystem.Go.Sha256
import AiopsSystem.Machine.Ledger
import Mathlib

/-! # Histories of assets

The observations of a catalog are a ledger: the observations that collided are
set aside, the others of one provider object form a chain, and the asset of the
object stands at its last link. A link moves forward in the order of the source
revision, the provider time and the provider sequence.
-/

namespace AiopsSystem.AssetCatalog

open Go List Sql

structure AssetHead where
  id : GoString
  key : ObjectKey
  (lastObservationID lastObservationChainSHA256 : GoString)
  lastObservedAt : Int
  lastSourceRevision : Int

def Asset.head (asset : Asset) : AssetHead :=
  ⟨asset.id, asset.key, asset.lastObservationID, asset.lastObservationChainSHA256, asset.lastObservedAt,
    asset.lastSourceRevision⟩

/-- The place of a fact within its revision; an order without a time comes by its sequence alone. -/
def FreshnessCandidate.position (freshness : FreshnessCandidate) : WithBot Int ×ₗ Int :=
  toLex (freshness.orderTime, freshness.orderSequence)

def Observation.order (observation : Observation) : Int ×ₗ (WithBot Int ×ₗ Int) :=
  toLex (observation.sourceRevision, observation.freshness.position)

structure Follows (previous next : Observation) : Prop where
  linked : next.previous = some (previous.id, previous.observationChainSHA256)
  ordered : previous.order ≤ next.order
  kind : previous.sourceRevision = next.sourceRevision → previous.freshness.kind = next.freshness.kind
  stable : previous.order = next.order →
    previous.freshness.providerVersionSHA256 = next.freshness.providerVersionSHA256 ∧
      previous.providerFactSHA256 = next.providerFactSHA256

def AssetHead.StandsAt (head : AssetHead) (observation : Observation) : Prop :=
  observation.id = head.lastObservationID ∧ observation.observationChainSHA256 = head.lastObservationChainSHA256 ∧
    observation.observedAt = head.lastObservedAt ∧ observation.sourceRevision = head.lastSourceRevision

def observationLedger : Ledger.Layout Observation AssetHead ObjectKey GoString where
  recordKey := Observation.key
  recordID := Observation.id
  headKey := AssetHead.key
  root observation := observation.previous = none
  follows := Follows
  stands := AssetHead.StandsAt

def Catalog.chain (catalog : Catalog) (asset : Asset) : List Observation :=
  Ledger.chain observationLedger catalog.observations (catalog.conflicts.map Conflict.observationID) asset.key

structure Chained (catalog : Catalog) : Prop where
  ledger : Ledger.Consistent observationLedger (catalog.assets.map Asset.head) catalog.observations
    (catalog.conflicts.map Conflict.observationID)
  assetIDs : (catalog.assets.map Asset.id).Nodup
  once : (catalog.observations.map fun observation => (observation.key, observation.runID)).Nodup
  timed : ∀ observation ∈ catalog.observations, observation.freshness.kind ≠ .objectTimeSequence →
    observation.freshness.orderTime = none

section Order

variable {candidate prior : FreshnessCandidate}

def FreshnessCandidate.Timed (freshness : FreshnessCandidate) : Prop :=
  freshness.kind ≠ .objectTimeSequence → freshness.orderTime = none

theorem freshnessAccepts_iff {fact priorFact : GoString} :
    freshnessAccepts candidate fact prior priorFact ↔
      compareOrder candidate prior = some .gt ∨ compareOrder candidate prior = some .eq ∧
        candidate.providerVersionSHA256 = prior.providerVersionSHA256 ∧ fact = priorFact := by
  unfold freshnessAccepts
  split <;> simp_all

variable (hKind : candidate.kind = prior.kind) (hCandidate : candidate.Timed) (hPrior : prior.Timed)

include hKind hCandidate hPrior

theorem position_lt_of_compareOrder (h : compareOrder candidate prior = some .gt) :
    prior.position < candidate.position := by
  unfold compareOrder at h
  split at h
  next =>
    split at h
    next left right hLeft hRight =>
      rw [Option.some.injEq, Ordering.then_eq_gt, compare_gt_iff_gt, compare_eq_iff_eq, compare_gt_iff_gt] at h
      rw [FreshnessCandidate.position, FreshnessCandidate.position, hLeft, hRight, Prod.Lex.toLex_lt_toLex]
      rcases h with hTime | ⟨hTime, hSequence⟩
      · exact .inl (WithBot.coe_lt_coe.mpr hTime)
      · exact .inr ⟨congrArg some hTime.symm, hSequence⟩
    next => cases h
  next hUntimed =>
    rw [Option.some.injEq, compare_gt_iff_gt] at h
    rw [FreshnessCandidate.position, FreshnessCandidate.position, hCandidate hUntimed, hPrior (hKind ▸ hUntimed),
      Prod.Lex.toLex_lt_toLex]
    exact .inr ⟨rfl, h⟩

theorem position_eq_of_compareOrder (h : compareOrder candidate prior = some .eq) :
    prior.position = candidate.position := by
  unfold compareOrder at h
  split at h
  next =>
    split at h
    next left right hLeft hRight =>
      rw [Option.some.injEq, Ordering.then_eq_eq, compare_eq_iff_eq, compare_eq_iff_eq] at h
      rw [FreshnessCandidate.position, FreshnessCandidate.position, hLeft, hRight, h.1, h.2]
    next => cases h
  next hUntimed =>
    rw [Option.some.injEq, compare_eq_iff_eq] at h
    rw [FreshnessCandidate.position, FreshnessCandidate.position, hCandidate hUntimed, hPrior (hKind ▸ hUntimed), h]

end Order

theorem pageFreshnessAccepts_iff {revision : Int} {candidate : FreshnessCandidate} {fact : GoString} {prior : PriorAsset} :
    pageFreshnessAccepts revision candidate fact prior ↔
      prior.asset.lastSourceRevision < revision ∨ prior.asset.lastSourceRevision = revision ∧
        candidate.kind = prior.observation.freshness.kind ∧
        freshnessAccepts candidate fact prior.observation.freshness prior.observation.providerFactSHA256 := by
  unfold pageFreshnessAccepts
  rcases lt_trichotomy revision prior.asset.lastSourceRevision with hOlder | hSame | hNewer
  · rw [if_pos hOlder]
    constructor
    · nofun
    · rintro (h | ⟨h, _⟩) <;> omega
  · subst hSame
    by_cases hKind : candidate.kind = prior.observation.freshness.kind <;> simp [hKind]
  · simp [hNewer, hNewer.le, hNewer.ne']

section Steps

variable {codec : Codec} {collation : GoString → GoString → Bool} {context : PageContext}
  {state next : ItemState} {item : NormalizedItem} {ids : PageItemIDs}

variable {catalog : Catalog}

variable {prior : PriorAsset}

theorem lockPagePriorAsset_eq_some (h : lockPagePriorAsset context catalog item = some prior) :
    prior.asset ∈ catalog.assets ∧ prior.asset.key = itemKey context item ∧
      prior.observation ∈ catalog.observations ∧ prior.observation.id = prior.asset.lastObservationID := by
  obtain ⟨asset, hAsset, h⟩ := Option.bind_eq_some_iff.mp h
  obtain ⟨observation, hObservation, rfl⟩ := Option.map_eq_some_iff.mp h
  exact ⟨mem_of_lookup hAsset, key_of_lookup hAsset, mem_of_lookup hObservation,
    key_of_lookup hObservation⟩

theorem key_persistedItem (item : NormalizedItem) (prior : PriorAsset) :
    itemKey context (persistedItem item prior) = itemKey context item := by
  unfold persistedItem
  split <;> rfl

variable {observation : Observation}

theorem Succeeds.follows {facts : PageItemFacts} {last : Observation}
    (h : Succeeds context catalog item prior facts.providerFactDigest) (hItem : item.freshness.Timed)
    (hObservation : observation = pageObservation context (persistedItem item prior) facts ids.observation
      (some (prior.asset.lastObservationID, prior.asset.lastObservationChainSHA256)))
    (hLast : last.freshness.Timed) (hPrior : prior.observation = last) (hStands : prior.asset.head.StandsAt last) :
    Follows last observation := by
  obtain ⟨hID, hChain, _, hRevision⟩ := hStands
  have hFreshness : observation.freshness = item.freshness := by
    rw [hObservation]
    exact persistedItem_freshness item prior
  have hNext : observation.sourceRevision = context.revision := by rw [hObservation]; rfl
  have hFact : observation.providerFactSHA256 = facts.providerFactDigest := by rw [hObservation]; rfl
  have hLink : observation.previous = some (last.id, last.observationChainSHA256) := by
    rw [hObservation, hID, hChain]
    rfl
  have hPriorRevision : prior.asset.lastSourceRevision = last.sourceRevision := hRevision.symm
  have hAccepted := pageFreshnessAccepts_iff.mp h.accepted
  rw [hPriorRevision, hPrior] at hAccepted
  rcases hAccepted with hNewer | ⟨hSame, hKind, hAccepts⟩
  · -- A newer revision starts a new order.
    have hLt : last.order < observation.order := by
      rw [Observation.order, Observation.order, Prod.Lex.toLex_lt_toLex, hNext]
      exact .inl hNewer
    refine ⟨hLink, hLt.le, ?_, fun hEq => absurd hEq hLt.ne⟩
    intro hEq
    omega
  · refine ⟨hLink, ?_, fun _ => hFreshness ▸ hKind.symm, ?_⟩
    · rw [Observation.order, Observation.order, Prod.Lex.toLex_le_toLex, hNext, hFreshness]
      refine .inr ⟨hSame, ?_⟩
      rcases freshnessAccepts_iff.mp hAccepts with hGt | ⟨hEq, _⟩
      · exact (position_lt_of_compareOrder hKind hItem hLast hGt).le
      · exact (position_eq_of_compareOrder hKind hItem hLast hEq).le
    · intro hOrder
      have hPosition : last.freshness.position = item.freshness.position := by
        have := congrArg (fun order => (ofLex order).2) hOrder
        rwa [Observation.order, Observation.order, hFreshness] at this
      rcases freshnessAccepts_iff.mp hAccepts with hGt | ⟨_, hVersion, hDigest⟩
      · exact absurd hPosition (position_lt_of_compareOrder hKind hItem hLast hGt).ne
      · rw [hFreshness, hFact]
        exact ⟨hVersion.symm, hDigest.symm⟩

theorem Storable.once (h : Storable context catalog item observation)
    (hKey : observation.key = itemKey context item) (hRun : observation.runID = context.runID)
    (hOnce : (catalog.observations.map fun observation => (observation.key, observation.runID)).Nodup) :
    ((catalog.observations ++ [observation]).map fun observation => (observation.key, observation.runID)).Nodup := by
  rw [map_append, map_singleton]
  refine hOnce.append (nodup_singleton _) ?_
  intro _ hOld hNew
  rw [mem_singleton] at hNew
  obtain ⟨other, hOther, rfl⟩ := mem_map.mp hOld
  obtain ⟨hOtherKey, hOtherRun⟩ := Prod.mk.inj hNew
  have hNone := any_eq_false.mp h.first other hOther
  exact hNone (decide_eq_true ⟨hOtherKey.trans hKey, hOtherRun.trans hRun⟩)

theorem map_collide_assets {K : Type} {read : Asset → K} (hRead : ∀ asset, read asset.ambiguous = read asset)
    (catalog : Catalog) (candidate : Asset) (conflict : Conflict) :
    (catalog.collide candidate conflict).assets.map read = catalog.assets.map read := by
  simp only [Catalog.collide]
  split
  · rfl
  · exact map_key_update hRead

def AssetHead.advanced (assetID : GoString) (observation : Observation) (head : AssetHead) : AssetHead :=
  if head.id = assetID then
    { head with
      lastObservationID := observation.id
      lastObservationChainSHA256 := observation.observationChainSHA256
      lastObservedAt := observation.observedAt
      lastSourceRevision := observation.sourceRevision }
  else head

theorem Chained.row_eq (h : Chained catalog) {left right : Asset} (hLeft : left ∈ catalog.assets)
    (hRight : right ∈ catalog.assets) (hSame : left.id = right.id) : left = right :=
  inj_on_of_nodup_map h.assetIDs hLeft hRight hSame

theorem Chained.heads_advance (h : Chained catalog) {prior : Asset} (hPrior : prior ∈ catalog.assets)
    (observation : Observation) (change : Asset → Asset)
    (hChange : ∀ asset, (change asset).head = { asset.head with
      lastObservationID := observation.id
      lastObservationChainSHA256 := observation.observationChainSHA256
      lastObservedAt := observation.observedAt
      lastSourceRevision := observation.sourceRevision }) :
    (catalog.change prior change).assets.map Asset.head =
      (catalog.assets.map Asset.head).map (AssetHead.advanced prior.id observation) := by
  rw [map_map]
  simp only [Catalog.change, update, map_map]
  refine map_congr_left ?_
  intro asset hAsset
  simp only [Function.comp_apply, updated, AssetHead.advanced]
  by_cases hSame : asset.id = prior.id
  · have hRow : isRow prior asset := by
      rw [h.row_eq hAsset hPrior hSame]
      simp [isRow]
    rw [if_pos hRow, hChange, if_pos (show asset.head.id = prior.id from hSame)]
  · have hRow : isRow prior asset = false := by simp [isRow, hSame]
    rw [hRow, if_neg (by decide), if_neg (show ¬ asset.head.id = prior.id from hSame)]

theorem Chained.timed_store (h : Chained catalog)
    (hObservation : observation.freshness.Timed) : ∀ stored ∈ catalog.observations ++ [observation],
      stored.freshness.kind ≠ .objectTimeSequence → stored.freshness.orderTime = none := by
  intro stored hStored
  rcases mem_append.mp hStored with hOld | hNew
  · exact h.timed stored hOld
  · rw [mem_singleton.mp hNew]
    exact hObservation

theorem Chained.itemStep (h : Chained state.catalog) (hItem : item.freshness.Timed)
    (step : ItemStep codec collation context state item ids next) : Chained next.catalog := by
  cases step with
  | unknown => exact h
  | collided _ _ _ _ _ hObservation hStorable =>
    subst hObservation
    refine ⟨?_, ?_, hStorable.once rfl rfl h.once, h.timed_store hItem⟩
    · rw [map_collide_assets (fun _ => rfl)]
      simp only [Catalog.collide, map_append, map_singleton]
      exact h.ledger.setAside hStorable.fresh
    · rw [map_collide_assets (fun _ => rfl)]
      exact h.assetIDs
  | created _ _ _ _ _ hObservation hStorable hAsset hFresh =>
    subst hObservation
    obtain ⟨_, _, rfl⟩ := hAsset
    refine ⟨?_, ?_, hStorable.once rfl rfl h.once, h.timed_store hItem⟩
    · simp only [Catalog.create, map_append, map_singleton]
      refine h.ledger.start hStorable.fresh ?_ rfl rfl ⟨rfl, rfl, rfl, rfl⟩
      rw [map_map]
      exact hFresh.2
    · simp only [Catalog.create, Catalog.observe, map_append, map_singleton]
      refine h.assetIDs.append (nodup_singleton _) ?_
      intro id hOld hNew
      exact hFresh.1 (mem_singleton.mp hNew ▸ hOld)
  | advanced _ observation prior _ hSucceeds hObservation hStorable =>
    obtain ⟨hMem, hKey, hLastMem, hLastID⟩ := lockPagePriorAsset_eq_some hSucceeds.known
    have hObservationKey : observation.key = itemKey context item := by
      rw [hObservation]
      exact key_persistedItem item prior
    have hFreshness : observation.freshness.Timed := by
      rw [hObservation]
      change (persistedItem item prior).freshness.Timed
      rwa [persistedItem_freshness]
    refine ⟨?_, ?_, hStorable.once hObservationKey (hObservation ▸ rfl) h.once, h.timed_store hFreshness⟩
    · have hHeads := h.heads_advance hMem observation (advanceAsset context (persistedItem item prior) observation)
        (fun asset => by rw [hObservation]; rfl)
      have hHead : prior.asset.head ∈ state.catalog.assets.map Asset.head := mem_map_of_mem hMem
      change Ledger.Consistent observationLedger
        ((state.catalog.change prior.asset (advanceAsset context (persistedItem item prior) observation)).assets.map
          Asset.head) (state.catalog.observations ++ [observation]) (state.catalog.conflicts.map Conflict.observationID)
      rw [hHeads]
      refine h.ledger.advance hStorable.fresh hHead (hObservationKey.trans hKey.symm) ?_ ?_ ?_ ?_
      · intro last hLast hStands
        refine hSucceeds.follows hItem hObservation (h.timed last hLast) ?_ hStands
        exact inj_on_of_nodup_map h.ledger.ids hLastMem hLast (hLastID.trans hStands.1.symm)
      · intro other _
        simp only [AssetHead.advanced, observationLedger]
        split <;> rfl
      · intro other hOther hNe
        obtain ⟨asset, hAsset, rfl⟩ := mem_map.mp hOther
        refine if_neg ?_
        intro hSame
        exact hNe (congrArg Asset.head (h.row_eq hAsset hMem hSame))
      · change AssetHead.StandsAt (AssetHead.advanced prior.asset.id observation prior.asset.head) observation
        rw [AssetHead.advanced, if_pos (show prior.asset.head.id = prior.asset.id from rfl)]
        exact ⟨rfl, rfl, rfl, rfl⟩
    · have hIDs : (state.catalog.change prior.asset
          (advanceAsset context (persistedItem item prior) observation)).assets.map Asset.id =
            state.catalog.assets.map Asset.id := map_key_update (fun _ => rfl)
      exact hIDs ▸ h.assetIDs

end Steps

section Runs

variable {platform : Platform} {screening : MutationScreening} {database next : Database}

theorem Chained.congr {catalog catalog' : Catalog} (h : Chained catalog)
    (hHeads : catalog'.assets.map Asset.head = catalog.assets.map Asset.head)
    (hObservations : catalog'.observations = catalog.observations)
    (hConflicts : catalog'.conflicts.map Conflict.observationID = catalog.conflicts.map Conflict.observationID) :
    Chained catalog' := by
  have hIDs : ∀ assets : List Asset, assets.map Asset.id = (assets.map Asset.head).map AssetHead.id := by
    intro assets
    rw [map_map]
    rfl
  refine ⟨?_, ?_, ?_, ?_⟩
  · rw [hHeads, hObservations, hConflicts]
    exact h.ledger
  · rw [hIDs, hHeads, ← hIDs]
    exact h.assetIDs
  · rw [hObservations]
    exact h.once
  · rw [hObservations]
    exact h.timed

theorem Chained.commit {attempt : PageAttempt} {locked : PageAdmission} {projection : PageProjection}
    {pageDigest : GoString} (h : Chained database.catalog)
    (hCommits : Commits platform database attempt locked projection pageDigest) : Chained projection.catalog := by
  obtain ⟨_, _, hFacts⟩ := checkPageFacts_ok hCommits.facts
  refine projectDiscoveryPage_preserves hCommits.projected h ?_ ?_ ?_ ?_
  · intro item hItem _ _ _ after hStep hState
    have hFreshness := validateFreshness_ok (validateNormalizedItem_freshness (hFacts.validItems item hItem))
    exact hState.itemStep hFreshness.2.2.2.2 hStep
  · intro _ _ _ before after hStep hBefore
    cases hStep <;> exact hBefore.congr rfl rfl rfl
  · intro _ before after hStep hBefore
    obtain ⟨_, rfl⟩ := inactivatePageRelationships_ok.mp hStep
    exact hBefore.congr rfl rfl rfl
  · intro before hBefore
    exact hBefore.congr (map_key_update (fun _ => rfl)) rfl rfl

theorem heads_updateMappingAsset {asset : Asset} {change : Asset → Asset} (hChange : ∀ row, (change row).head = row.head) :
    (updateMappingAsset database asset change).catalog.assets.map Asset.head =
      database.catalog.assets.map Asset.head := map_key_update hChange

theorem Chained.step (h : Chained database.catalog) (hStep : Step platform database next) : Chained next.catalog := by
  cases hStep with
  | unchanged | bound | unbound | steered | published | served => exact h
  | committed _ _ _ _ hCommits => exact h.commit hCommits
  | decided decision _ conflict _ outcome _ _ _ _ _ hOutcome =>
    have hClosed : (updateConflictDecision outcome.database decision outcome.status conflict).catalog.conflicts.map
        Conflict.observationID = outcome.database.catalog.conflicts.map Conflict.observationID :=
      map_key_update (fun _ => rfl)
    cases decideMapping_ok hOutcome with
    | confirmed | rejected | kept | quarantined => exact h.congr (heads_updateMappingAsset (fun _ => rfl)) rfl hClosed
  | moved =>
    exact h.congr (heads_updateMappingAsset (fun _ => rfl)) rfl rfl
  | enqueued =>
    simp only [enqueueRun]
    split <;> exact h
  | activated => exact h.congr (map_key_update (fun _ => rfl)) rfl rfl

theorem chained_empty : Chained emptyCatalog where
  ledger := Ledger.consistent_nil observationLedger
  assetIDs := .nil
  once := .nil
  timed := by
    intro _ h
    cases h

theorem chained_run (inputs : List CatalogInput) : Chained ((catalogMachine platform screening).run inputs).catalog :=
  (catalogMachine platform screening).run_invariant (P := fun database => Chained database.catalog) chained_empty
    (fun _ input h => h.step (catalogStep_step input)) inputs

end Runs

section Outdated

def itemFact (sha256Hex : GoString → GoString) (context : PageContext) (item : NormalizedItem) : Option GoString := do
  let fingerprint ← fingerprintDigest sha256Hex item.fingerprints
  providerFactDigest sha256Hex context item fingerprint
    (providerProvenanceDigest sha256Hex (GoMap.sortSlice fieldCodeLess item.fieldProvenance))

/-- An item that is older than the last observation of its asset, or contradicts it at the same place. -/
def Outdated (sha256Hex : GoString → GoString) (context : PageContext) (item : NormalizedItem) (prior : PriorAsset) :
    Prop :=
  context.revision < prior.observation.sourceRevision ∨
  context.revision = prior.observation.sourceRevision ∧
    (item.freshness.kind ≠ prior.observation.freshness.kind ∨
      item.freshness.position < prior.observation.freshness.position ∨
      item.freshness.position = prior.observation.freshness.position ∧
        (item.freshness.providerVersionSHA256 ≠ prior.observation.freshness.providerVersionSHA256 ∨
          itemFact sha256Hex context (persistedItem item prior) ≠ some prior.observation.providerFactSHA256))

variable {codec : Codec} {collation : GoString → GoString → Bool} {context : PageContext}
  {state next : ItemState} {item : NormalizedItem} {ids : PageItemIDs}

variable {facts : PageItemFacts}

theorem buildPageItemFacts_fact {observationID : GoString} {previous : Option (GoString × GoString)}
    (h : buildPageItemFacts codec context item observationID previous = some facts) :
    itemFact codec.sha256Hex context item = some facts.providerFactDigest := by
  simp only [buildPageItemFacts, Option.bind_eq_bind, Option.bind_eq_some_iff] at h
  obtain ⟨_, _, fingerprint, hFingerprint, _, hFact, _, _, h⟩ := h
  cases h
  simp only [itemFact, Option.bind_eq_bind, Option.bind_eq_some_iff]
  exact ⟨fingerprint, hFingerprint, hFact⟩

theorem Succeeds.not_outdated {catalog : Catalog} {prior : PriorAsset}
    (h : Succeeds context catalog item prior facts.providerFactDigest) (hItem : item.freshness.Timed)
    (hLast : prior.observation.freshness.Timed)
    (hRevision : prior.asset.lastSourceRevision = prior.observation.sourceRevision)
    (hFact : itemFact codec.sha256Hex context (persistedItem item prior) = some facts.providerFactDigest) :
    ¬ Outdated codec.sha256Hex context item prior := by
  have hAccepted := pageFreshnessAccepts_iff.mp h.accepted
  rw [hRevision] at hAccepted
  rintro (hOlder | ⟨hSame, hOutdated⟩)
  · rcases hAccepted with hNewer | ⟨hEq, _⟩ <;> omega
  · rcases hAccepted with hNewer | ⟨_, hKind, hAccepts⟩
    · omega
    · rcases freshnessAccepts_iff.mp hAccepts with hGt | ⟨hEq, hVersion, hDigest⟩
      · have hLt := position_lt_of_compareOrder hKind hItem hLast hGt
        rcases hOutdated with hOther | hBefore | ⟨hPlace, _⟩
        · exact hOther hKind
        · exact absurd hBefore (not_lt_of_gt hLt)
        · exact absurd hPlace hLt.ne'
      · have hPlace := position_eq_of_compareOrder hKind hItem hLast hEq
        rcases hOutdated with hOther | hBefore | ⟨_, hContradicts⟩
        · exact hOther hKind
        · exact absurd hPlace.symm hBefore.ne
        · rcases hContradicts with hOtherVersion | hOtherFact
          · exact hOtherVersion hVersion
          · exact hOtherFact (hDigest ▸ hFact)

end Outdated

section Loop

variable {codec : Codec} {collation : GoString → GoString → Bool} {context : PageContext}
  {state next : ItemState} {item : NormalizedItem} {ids : PageItemIDs}

variable {items : List NormalizedItem}

theorem nodup_itemKey (h : (items.map itemIdentity).Nodup) : ((sortedItems items).map (itemKey context)).Nodup := by
  have hKeys : (items.map (itemKey context)).Nodup := by
    refine List.Nodup.of_map (fun key : ObjectKey => joinZero key.providerKind key.externalID) ?_
    rw [map_map]
    exact h
  exact ((GoMap.perm_sortSlice itemIdentityLess items).map _).nodup_iff.mpr hKeys

variable {slots : List PageItemIDs}

theorem map_fst_slots (hLength : slots.length = items.length) :
    ((sortedItems items).zip slots).map Prod.fst = sortedItems items :=
  map_fst_zip (by rw [hLength, sortedItems, (GoMap.perm_sortSlice itemIdentityLess items).length_eq])

theorem itemKey_notMem (hDistinct : (items.map itemIdentity).Nodup) (hLength : slots.length = items.length)
    {passed rest : List (NormalizedItem × PageItemIDs)}
    {slot : NormalizedItem × PageItemIDs} (hSlots : (sortedItems items).zip slots = passed ++ slot :: rest) :
    itemKey context slot.1 ∉ passed.map (fun other => itemKey context other.1) := by
  have hTaken : (((sortedItems items).zip slots).map (fun other => itemKey context other.1)).Nodup := by
    have hKeys : ((sortedItems items).map (itemKey context)).Nodup := nodup_itemKey hDistinct
    rwa [← map_fst_slots hLength, map_map] at hKeys
  rw [hSlots, map_append, map_cons] at hTaken
  intro hMem
  exact (nodup_append.mp hTaken).2.2 _ hMem _ mem_cons_self rfl

theorem ItemStep.keeps_head (step : ItemStep codec collation context state item ids next)
    (h : Chained state.catalog) {head : AssetHead} (hHead : head ∈ state.catalog.assets.map Asset.head)
    (hKey : head.key ≠ itemKey context item) : head ∈ next.catalog.assets.map Asset.head := by
  cases step with
  | unknown => exact hHead
  | collided =>
    rw [map_collide_assets (fun _ => rfl)]
    exact hHead
  | created =>
    simp only [Catalog.create, map_append]
    exact mem_append_left _ hHead
  | advanced _ observation prior _ hSucceeds hObservation =>
    obtain ⟨hMem, hPriorKey, _, _⟩ := lockPagePriorAsset_eq_some hSucceeds.known
    have hHeads := h.heads_advance hMem observation (advanceAsset context (persistedItem item prior) observation)
      (fun asset => by rw [hObservation]; rfl)
    change head ∈ (state.catalog.change prior.asset
      (advanceAsset context (persistedItem item prior) observation)).assets.map Asset.head
    rw [hHeads]
    refine mem_map.mpr ⟨head, hHead, if_neg ?_⟩
    intro hSame
    obtain ⟨asset, hAsset, rfl⟩ := mem_map.mp hHead
    exact hKey ((congrArg Asset.key (h.row_eq hAsset hMem hSame)).trans hPriorKey)

variable {last : Observation}

variable {catalog : Catalog} {asset : Asset}

theorem Chained.lockPagePriorAsset_eq (h : Chained catalog)
    (hAsset : asset ∈ catalog.assets) (hKey : asset.key = itemKey context item) (hLast : last ∈ catalog.observations)
    (hStands : asset.head.StandsAt last) : lockPagePriorAsset context catalog item = some ⟨asset, last⟩ := by
  have hKeys : (catalog.assets.map Asset.key).Nodup := by
    have := h.ledger.keys
    rwa [map_map] at this
  have hFound := lookup_of_mem hKeys hAsset
  have hObserved := lookup_of_mem h.ledger.ids hLast
  rw [lockPagePriorAsset, ← hKey, hFound, Option.bind_some]
  change (lookup Observation.id asset.head.lastObservationID catalog.observations).map _ = _
  rw [← hStands.1]
  exact congrArg (Option.map (fun observation => PriorAsset.mk asset observation)) hObserved

theorem ItemStep.not_outdated (step : ItemStep codec collation context state item ids next) {row : Asset}
    (hKnown : lockPagePriorAsset context state.catalog item = some ⟨row, last⟩)
    (hItem : item.freshness.Timed) (hLast : last.freshness.Timed) (hStands : row.head.StandsAt last) :
    ¬ Outdated codec.sha256Hex context item ⟨row, last⟩ := by
  cases step with
  | unknown _ hPrior | collided _ _ _ hPrior | created _ _ _ hPrior => exact absurd (hKnown.symm.trans hPrior) (by simp)
  | advanced _ _ prior hFacts hSucceeds =>
    obtain rfl : prior = ⟨row, last⟩ := Option.some.inj (hSucceeds.known.symm.trans hKnown)
    exact hSucceeds.not_outdated hItem hLast hStands.2.2.2.symm (buildPageItemFacts_fact hFacts)

theorem projectItems_not_outdated {final : ItemState} (h : Chained catalog) (hDistinct : (items.map itemIdentity).Nodup)
    (hTimed : ∀ item ∈ items, item.freshness.Timed) (hLength : slots.length = items.length)
    (hItems : projectItems codec collation context catalog items slots = .ok final) {item : NormalizedItem}
    (hItem : item ∈ items) (hAsset : asset ∈ catalog.assets) (hKey : asset.key = itemKey context item)
    (hLast : last ∈ catalog.observations) (hStands : asset.head.StandsAt last) :
    ¬ Outdated codec.sha256Hex context item ⟨asset, last⟩ := by
  -- The invariant: objects of later items have their heads as before, and earlier items were not outdated.
  have hLoop := foldlM_invariant (P := fun passed (state : ItemState) => Chained state.catalog ∧
      last ∈ state.catalog.observations ∧
      (asset.key ∉ passed.map (fun slot => itemKey context slot.1) → asset.head ∈ state.catalog.assets.map Asset.head) ∧
      ∀ slot ∈ passed, asset.key = itemKey context slot.1 → ¬ Outdated codec.sha256Hex context slot.1 ⟨asset, last⟩)
    hItems ⟨h, hLast, fun _ => mem_map_of_mem hAsset, fun _ hSlot => (not_mem_nil hSlot).elim⟩ ?_
  · obtain ⟨_, _, _, hAll⟩ := hLoop
    have hMem : item ∈ ((sortedItems items).zip slots).map Prod.fst := by
      rw [map_fst_slots hLength]
      exact GoMap.mem_sortSlice.mpr hItem
    obtain ⟨slot, hSlot, rfl⟩ := mem_map.mp hMem
    exact hAll slot hSlot hKey
  · rintro passed slot _ state _ hSlots ⟨hChained, hObserved, hHead, hPassed⟩ hStep
    have hSlotMem : slot ∈ (sortedItems items).zip slots := hSlots ▸ by simp
    have hSlotItem := (mem_of_mem_sortedItems hSlotMem).1
    have step := projectItem_ok hStep
    refine ⟨hChained.itemStep (hTimed _ hSlotItem) step, step.keeps_observation hObserved, ?_, ?_⟩
    · intro hNew
      rw [map_append, mem_append, not_or] at hNew
      refine step.keeps_head hChained (hHead hNew.1) ?_
      intro hSame
      exact hNew.2 (by simp [← hSame]; rfl)
    · intro other hOther
      rcases mem_append.mp hOther with hOld | hLastSlot
      · exact hPassed other hOld
      · rw [mem_singleton.mp hLastSlot]
        intro hSlotKey
        have hMem := hHead (hSlotKey ▸ itemKey_notMem hDistinct hLength hSlots)
        obtain ⟨row, hRow, hRowHead⟩ := mem_map.mp hMem
        have hRowKey : row.key = asset.key := congrArg AssetHead.key hRowHead
        have hRowStands : row.head.StandsAt last := hRowHead ▸ hStands
        have hKnown := hChained.lockPagePriorAsset_eq hRow (hRowKey.trans hSlotKey) hObserved hRowStands
        -- Being outdated depends on the observation only, so the row of the asset may have changed.
        have hChecked := step.not_outdated hKnown (hTimed _ hSlotItem) (hChained.timed last hObserved) hRowStands
        exact hChecked

end Loop

/-- The accepted observations of an asset as the history the asset stands for. -/
structure AssetHistory (catalog : Catalog) (asset : Asset) : Prop where
  first : ∀ observation, (catalog.chain asset).head? = some observation → observation.previous = none
  linked : (catalog.chain asset).IsChain fun previous next =>
    next.previous = some (previous.id, previous.observationChainSHA256)
  ordered : (catalog.chain asset).Pairwise fun earlier later => earlier.order ≤ later.order
  kind : (catalog.chain asset).IsChain fun previous next =>
    previous.sourceRevision = next.sourceRevision → previous.freshness.kind = next.freshness.kind
  stable : (catalog.chain asset).IsChain fun previous next => previous.order = next.order →
    previous.freshness.providerVersionSHA256 = next.freshness.providerVersionSHA256 ∧
      previous.providerFactSHA256 = next.providerFactSHA256
  last : ∃ observation, (catalog.chain asset).getLast? = some observation ∧ asset.head.StandsAt observation

section Histories

variable {platform : Platform} {database : Database}

variable {asset : Asset}

theorem Chained.history {catalog : Catalog} (h : Chained catalog) (hAsset : asset ∈ catalog.assets) :
    AssetHistory catalog asset := by
  obtain ⟨hFirst, hLinked, hLast⟩ := h.ledger.history asset.head (mem_map_of_mem hAsset)
  refine ⟨hFirst, hLinked.imp (fun _ _ hFollows => hFollows.linked), ?_,
    hLinked.imp (fun _ _ hFollows => hFollows.kind), hLinked.imp (fun _ _ hFollows => hFollows.stable), hLast⟩
  have hOrders : (catalog.chain asset).IsChain fun earlier later => earlier.order ≤ later.order :=
    hLinked.imp (fun _ _ hFollows => hFollows.ordered)
  let notLater (earlier later : Observation) : Prop := earlier.order ≤ later.order
  have hTrans : Trans notLater notLater notLater := ⟨fun hLeft hRight => le_trans hLeft hRight⟩
  exact List.IsChain.pairwise (R := notLater) hOrders

theorem Chained.refuses (h : Chained database.catalog) {attempt : PageAttempt} {locked : PageAdmission}
    (hLoaded : loadPageAdmission database attempt.coordinates attempt.clock.loadedAt = some locked)
    {item : NormalizedItem} (hItem : item ∈ attempt.page.items) (hAsset : asset ∈ database.catalog.assets)
    (hKey : asset.key = itemKey (attempt.context locked) item) {last : Observation}
    (hLast : (database.catalog.chain asset).getLast? = some last)
    (hOutdated : Outdated platform.screening.sha256Hex (attempt.context locked) item ⟨asset, last⟩) :
    (pageStep platform database attempt).2 = database := by
  unfold pageStep
  split
  next next result hResult =>
    rcases applyPageAttempt_ok hResult with ⟨_, _, _, rfl⟩ | ⟨other, _, _, hCommits, _, _⟩
    · rfl
    · obtain rfl : other = locked := Option.some.inj (hCommits.loaded.symm.trans hLoaded)
      obtain ⟨_, _, hFacts⟩ := checkPageFacts_ok hCommits.facts
      obtain ⟨_, _, _, hPhases⟩ := projectDiscoveryPage_ok hCommits.projected
      obtain ⟨observation, hObservation, hStands⟩ := (h.history hAsset).last
      obtain rfl : observation = last := Option.some.inj (hObservation.symm.trans hLast)
      refine absurd hOutdated (projectItems_not_outdated h hFacts.distinctItems ?_ hPhases.slots.1 hPhases.items hItem
        hAsset hKey (Ledger.mem_chain.mp (mem_of_getLast? hLast)).1 hStands)
      intro other hOther
      exact (validateFreshness_ok (validateNormalizedItem_freshness (hFacts.validItems other hOther))).2.2.2.2
  next => rfl

end Histories

/-- In every run of the catalog the accepted observations of each asset are a history at whose end the asset stands,
a run observes an external id at most once, and a page with an older or contradicting fact changes nothing. -/
theorem observations_monotone (platform : Platform) (screening : MutationScreening) (inputs : List CatalogInput) :
    (∀ asset ∈ ((catalogMachine platform screening).run inputs).catalog.assets,
      AssetHistory ((catalogMachine platform screening).run inputs).catalog asset) ∧
    (((catalogMachine platform screening).run inputs).catalog.observations.map
      fun observation => (observation.runID, observation.externalID)).Nodup ∧
    ∀ attempt locked,
      loadPageAdmission ((catalogMachine platform screening).run inputs) attempt.coordinates attempt.clock.loadedAt =
        some locked →
      ∀ item ∈ attempt.page.items, ∀ asset ∈ ((catalogMachine platform screening).run inputs).catalog.assets,
        asset.key = itemKey (attempt.context locked) item →
        ∀ last, (((catalogMachine platform screening).run inputs).catalog.chain asset).getLast? = some last →
          Outdated platform.screening.sha256Hex (attempt.context locked) item ⟨asset, last⟩ →
          (catalogMachine platform screening).run (inputs ++ [.page attempt]) =
            (catalogMachine platform screening).run inputs := by
  have hChained : Chained ((catalogMachine platform screening).run inputs).catalog := chained_run inputs
  have hAttributed : Attributed ((catalogMachine platform screening).run inputs) := attributed_run inputs
  refine ⟨fun asset hAsset => hChained.history hAsset, hAttributed.once hChained.once, ?_⟩
  intro attempt locked hLoaded item hItem asset hAsset hKey last hLast hOutdated
  rw [Machine.run_concat]
  exact hChained.refuses hLoaded hItem hAsset hKey hLast hOutdated

/-! Imports of one CSV row: two runs report its versions 5 and 7, and a third run comes with version 6. -/

namespace Sample

def locator : SourceLocator :=
  ⟨⟨ascii "0b6f1a52-9c1d-4e0a-8f53-2b7c9d4e1a01", ascii "1c7f2b63-ad2e-4f1b-9a64-3c8dae5f2b02"⟩,
    ascii "2d803c74-be3f-4a2c-8b75-4d9ebf603c03"⟩

def environmentID : GoString := ascii "3e914d85-cf40-4b3d-9c86-5eafc0714d04"

def manifest : ProfileManifest where
  providerKind := ascii "CSV_RFC4180_V1"
  profileCode := ascii "CSV_RFC4180_V1"
  freshnessKind := .objectSequence
  environmentMapping := .explicitItem
  trustedPathCodes := ["CSV_V1_DISPLAY_NAME_COLUMN", "CSV_V1_ENVIRONMENT_ID_COLUMN", "CSV_V1_EXTERNAL_ID_COLUMN",
    "CSV_V1_KIND_COLUMN", "CSV_V1_PROVIDER_KIND_COLUMN", "CSV_V1_RELATION_COLUMNS", "CSV_V1_TYPE_DETAILS_EMPTY"].map ascii
  relationshipTypes := [.contains, .runsOn]

def policy : FactPolicy where
  providerKind := manifest.providerKind
  freshnessKind := manifest.freshnessKind
  environmentMapping := manifest.environmentMapping
  authorityEnvironmentIDs := [environmentID]
  trustedPathCodes := manifest.trustedPathCodes
  relationshipTypes := manifest.relationshipTypes
  allowedDocumentFields := [(.linuxVM, [])]

def revision : SourceRevision where
  locator := locator
  revision := 1
  status := .published
  canonicalRevisionDigest := List.replicate 64 97
  sourceDefinitionDigest := List.replicate 64 98
  profileCode := manifest.profileCode
  manifest := some manifest
  authorityEnvironmentIDs := [environmentID]
  wellFormed := true

def source : Source where
  locator := locator
  sourceKind := .csvImport
  providerKind := manifest.providerKind
  status := .active
  published := some (1, revision.canonicalRevisionDigest)
  gateStatus := .available
  gateReason := []
  gateRevision := 1
  checkpointCiphertext := []
  checkpointKeyID := []
  checkpointSHA256 := []
  checkpointRevision := 1
  checkpointVersion := 0
  version := 1

def checkpoint (version : Int) : SealedCheckpoint :=
  ⟨ascii "envelope", ascii "checkpoint-key", sha256Hex (formatInt version), version⟩

/-- The source as the pages up to a checkpoint leave it. -/
def sourceAt : Nat → Source
  | 0 => source
  | version + 1 => advanceCheckpoint 1 (checkpoint (version + 1)) (sourceAt version)

def runID (n : Nat) : GoString := ascii "4fa25e96-d051-4c4e-8d97-6fb0d1825e0" ++ formatInt n

/-- A run that starts at a checkpoint of its source. -/
def queuedRun (n : Nat) : SourceRun where
  id := runID n
  locator := locator
  sourceRevision := 1
  sourceRevisionDigest := revision.canonicalRevisionDigest
  runKind := .csvImport
  status := .queued
  stageCode := .waiting
  gateRevision := 1
  cursorBeforeSHA256 := (sourceAt n).checkpointSHA256
  cursorAfterSHA256 := []
  pageSequence := 0
  pageDigest := []
  relationPageSequence := 0
  relationPageDigest := []
  finalPage := false
  completeSnapshot := false
  effectiveComplete := false
  checkpointVersion := n
  leaseOwner := []
  leaseExpiresAt := 0
  fenceEpoch := 0
  fenceTokenSHA256 := []
  heartbeatSequence := 0
  counts := {}
  lineageRolloverReason := []
  lineageRolloverEvidenceSHA256 := []
  version := 1

def start : Int := unixEpoch + 1767225600 * second

def leasedRun (n : Nat) : SourceRun :=
  { queuedRun n with
    status := .running
    stageCode := .applying
    leaseOwner := ascii "discovery-worker"
    leaseExpiresAt := start + 24 * hour
    fenceEpoch := 1
    fenceTokenSHA256 := List.replicate 64 99
    heartbeatSequence := 1
    version := 2 }

def provenance : FieldCode × String → FieldProvenance
  | (field, path) => ⟨field, ascii path, .source, 100⟩

def item (version : Int) : NormalizedItem where
  environmentID := environmentID
  providerKind := manifest.providerKind
  externalID := ascii "vm-17"
  kind := some .linuxVM
  displayName := ascii "vm-17"
  schemaVersion := ascii "CSV_RFC4180_V1"
  document := ascii "\x7b\x7d"
  documentSHA256 := ascii "44136fa355b3678a1146ad16f7e8649e94fb4fc21fe77e8310c060f61caaff8a"
  freshness := ⟨.objectSequence, none, version, sha256Hex (formatInt version)⟩
  fieldProvenance := [(.displayName, "CSV_V1_DISPLAY_NAME_COLUMN"), (.environmentID, "CSV_V1_ENVIRONMENT_ID_COLUMN"),
    (.externalID, "CSV_V1_EXTERNAL_ID_COLUMN"), (.kind, "CSV_V1_KIND_COLUMN"),
    (.providerKind, "CSV_V1_PROVIDER_KIND_COLUMN"), (.typeDetails, "CSV_V1_TYPE_DETAILS_EMPTY")].map provenance
  tombstone := false
  tombstoneReason := []
  fingerprints := ∅

def assetID : GoString := ascii "61c470b8-f273-4e60-8fb9-81d2f3a47a07"

def conflictID : GoString := ascii "72d581c9-0384-4f71-90ca-92e304b58b08"

theorem matchesUUID_ids : matchesUUID assetID = true ∧ matchesUUID conflictID = true := by
  decide +kernel

def admission (n : Nat) : PageAdmission := ⟨leasedRun n, true, sourceAt n, revision⟩

/-- The one page of a run, with a version of the row. -/
def page (n : Nat) (version : Int) : PageAttempt where
  fence := ⟨runID n, ascii "discovery-worker", 1, List.replicate 64 99, true⟩
  coordinates := ⟨locator, runID n, 1⟩
  page := ⟨[item version], [], ⟨manifest.profileCode, []⟩, true, false⟩
  snapshot := admission n
  aad := checkpointAAD (admission n) (ascii "checkpoint-key")
  sealedCheckpoint := checkpoint (n + 1)
  semanticIdentity := List.replicate 64 100
  ids := ⟨[⟨ascii "50b36fa7-e162-4d5f-9ea8-70c1e2936f0" ++ formatInt n, assetID, conflictID⟩], [],
    fun _ hIDs => mem_singleton.mp hIDs ▸ matchesUUID_ids⟩
  resolver := ⟨fun _ => some policy, fun _ _ => none⟩
  clock := ⟨start + n * minute, start, start, start, start⟩

def platform : Platform where
  screening := {
    safeText := fun _ => true
    sensitiveName := fun _ => false
    sensitiveValue := fun _ => false
    document := fun document => if document = ascii "\x7b\x7d" then some ([], false) else none
    sha256Hex := sha256Hex }
  canonical := fun document => some (Json.canonicalForm document)
  collation := textLess
  sealEnvelope := fun _ _ _ => .error .unavailable
  replayIdentity := fun _ _ => .error .unavailable

def screening : MutationScreening := ⟨fun _ => false, fun _ => false, fun _ => []⟩

def finishedRun (n : Nat) : SourceRun := { leasedRun n with status := .succeeded, stageCode := .completed }

def inputs : List CatalogInput :=
  [.publish [source] [revision], .enqueue (queuedRun 0), .steer (leasedRun 0), .page (page 0 5), .steer (finishedRun 0),
    .enqueue (queuedRun 1), .steer (leasedRun 1), .page (page 1 7), .steer (finishedRun 1),
    .enqueue (queuedRun 2), .steer (leasedRun 2)]

def database : Database := (catalogMachine platform screening).run inputs

end Sample

/-- Where the two pages leave the catalog, evaluated once. -/
theorem sample_state :
    loadPageAdmission Sample.database (Sample.page 2 6).coordinates Sample.start = some (Sample.admission 2) ∧
    Sample.database.catalog.assets.map Asset.key =
      [itemKey ((Sample.page 2 6).context (Sample.admission 2)) (Sample.item 6)] ∧
    (Sample.database.catalog.assets.map fun asset => (Sample.database.catalog.chain asset).getLast?.map fun last =>
      (last.sourceRevision, last.freshness.orderTime, last.freshness.orderSequence)) = [some (1, none, 7)] ∧
    (Sample.database.catalog.observations.map fun observation => (observation.runID, observation.externalID)) =
      [(Sample.runID 0, ascii "vm-17"), (Sample.runID 1, ascii "vm-17")] ∧
    (pageStep Sample.platform Sample.database (Sample.page 2 8)).2.catalog.observations.length = 3 := by
  decide +kernel

/-- Version 6 comes too late, version 8 would have been taken. -/
theorem observations_monotone_sample :
    Sample.database.catalog.assets.length = 1 ∧
    (∀ asset ∈ Sample.database.catalog.assets, AssetHistory Sample.database.catalog asset) ∧
    (Sample.database.catalog.observations.map fun observation => (observation.runID, observation.externalID)) =
      [(Sample.runID 0, ascii "vm-17"), (Sample.runID 1, ascii "vm-17")] ∧
    (Sample.database.catalog.observations.map fun observation =>
      (observation.runID, observation.externalID)).Nodup ∧
    (catalogMachine Sample.platform Sample.screening).run (Sample.inputs ++ [.page (Sample.page 2 6)]) =
      Sample.database ∧
    ((catalogMachine Sample.platform Sample.screening).run
      (Sample.inputs ++ [.page (Sample.page 2 8)])).catalog.observations.length = 3 := by
  obtain ⟨hHistory, hOnce, hRefused⟩ := observations_monotone Sample.platform Sample.screening Sample.inputs
  obtain ⟨hLoaded, hKeys, hPlaces, hObservations, hTaken⟩ := sample_state
  obtain ⟨asset, hAsset, hKey⟩ := map_eq_singleton_iff.mp hKeys
  rw [hAsset, map_singleton, singleton_inj] at hPlaces
  obtain ⟨last, hLast, hPlace⟩ := Option.map_eq_some_iff.mp hPlaces
  simp only [Prod.mk.injEq] at hPlace
  obtain ⟨hRevision, hTime, hSequence⟩ := hPlace
  refine ⟨congrArg length hAsset, hHistory, hObservations, hOnce, ?_, ?_⟩
  · refine hRefused (Sample.page 2 6) (Sample.admission 2) hLoaded (Sample.item 6) (mem_singleton.mpr rfl) asset
      (hAsset ▸ mem_singleton.mpr rfl) hKey last hLast (.inr ⟨hRevision.symm, .inr (.inl ?_)⟩)
    simp only [FreshnessCandidate.position, Sample.item, hTime, hSequence, Prod.Lex.toLex_lt_toLex]
    exact .inr ⟨rfl, by decide⟩
  · have hRun : (catalogMachine Sample.platform Sample.screening).run Sample.inputs = Sample.database := rfl
    have hStep : ∀ database attempt, (catalogMachine Sample.platform Sample.screening).step database (.page attempt) =
        pageStep Sample.platform database attempt := fun _ _ => rfl
    rw [Machine.run_concat, hRun, hStep]
    exact hTaken

end AiopsSystem.AssetCatalog
