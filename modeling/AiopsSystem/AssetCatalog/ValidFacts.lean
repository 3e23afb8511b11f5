import AiopsSystem.AssetCatalog.PageCommitter

/-! # What validated facts satisfy

The facts of a page that passed `ValidateFacts`: every item and relation is
valid under the policy, and no identity occurs twice.
-/

namespace AiopsSystem.AssetCatalog

open Go

theorem validateDistinct_ok {α : Type} {validate : α → Except FactViolation Unit} {identity : α → GoString}
    {duplicate : FactViolation} {seen : List GoString} {facts : List α}
    (h : validateDistinct validate identity duplicate seen facts = .ok ()) :
    (∀ fact ∈ facts, validate fact = .ok () ∧ identity fact ∉ seen) ∧ (facts.map identity).Nodup := by
  induction facts generalizing seen with
  | nil => exact ⟨fun _ hFact => (List.not_mem_nil hFact).elim, .nil⟩
  | cons _ _ ih =>
    simp only [validateDistinct, bind_eq_ok, require_eq_ok] at h
    obtain ⟨_, hFact, _, hNew, hRest⟩ := h
    obtain ⟨hValid, hNodup⟩ := ih hRest
    constructor
    · intro other hOther
      rcases List.mem_cons.mp hOther with rfl | hOther
      · exact ⟨hFact, hNew⟩
      · obtain ⟨hOtherValid, hOtherNew⟩ := hValid other hOther
        exact ⟨hOtherValid, fun hSeen => hOtherNew (List.mem_cons_of_mem _ hSeen)⟩
    · refine List.nodup_cons.mpr ⟨?_, hNodup⟩
      intro hMem
      obtain ⟨other, hOther, hSame⟩ := List.mem_map.mp hMem
      exact (hValid other hOther).2 (hSame ▸ List.mem_cons_self)

structure ValidFacts (screening : Screening) (items : List NormalizedItem) (relations : List ObservedRelation)
    (policy : FactPolicy) : Prop where
  validItems : ∀ item ∈ items, validateNormalizedItem screening item policy = .ok ()
  distinctItems : (items.map itemIdentity).Nodup
  validRelations : ∀ relation ∈ relations, validateObservedRelation screening relation policy = .ok ()
  distinctRelations : (relations.map relationIdentity).Nodup
  itemLimit : items.length ≤ 10000
  relationLimit : relations.length ≤ 50000

variable {screening : Screening} {policy : FactPolicy}

theorem validateFacts_ok {items : List NormalizedItem} {relations : List ObservedRelation}
    (h : validateFacts screening items relations policy = .ok ()) : ValidFacts screening items relations policy := by
  simp only [validateFacts, bind_eq_ok, require_eq_ok] at h
  obtain ⟨_, _, _, hItemLimit, _, hRelationLimit, _, hItems, hRelations⟩ := h
  obtain ⟨hItems, hDistinctItems⟩ := validateDistinct_ok hItems
  obtain ⟨hRelations, hDistinctRelations⟩ := validateDistinct_ok hRelations
  exact ⟨fun item hItem => (hItems item hItem).1, hDistinctItems,
    fun relation hRelation => (hRelations relation hRelation).1, hDistinctRelations, hItemLimit, hRelationLimit⟩

theorem validateFreshness_ok {candidate : FreshnessCandidate} {expected : FreshnessKind}
    (h : validateFreshness candidate expected = .ok ()) :
    candidate.kind = expected ∧ 0 < candidate.orderSequence ∧ matchesHex 64 candidate.providerVersionSHA256 ∧
      (candidate.kind = .objectTimeSequence → ∃ value, candidate.orderTime = some value ∧ validStoredTime value) ∧
      (candidate.kind ≠ .objectTimeSequence → candidate.orderTime = none) := by
  simp only [validateFreshness, bind_eq_ok, require_eq_ok] at h
  obtain ⟨_, ⟨hKind, hSequence, hVersion⟩, h⟩ := h
  refine ⟨hKind, hSequence, hVersion, ?_⟩
  split at h
  next value hTimed hTime =>
    rw [require_eq_ok] at h
    exact ⟨fun _ => ⟨value, hTime, h⟩, fun hOther => absurd hTimed hOther⟩
  next => cases h
  next => cases h
  next hTime hUntimed => exact ⟨fun hTimed => (hUntimed hTimed).elim, fun _ => hTime⟩

theorem validateNormalizedItem_freshness {item : NormalizedItem}
    (h : validateNormalizedItem screening item policy = .ok ()) :
    validateFreshness item.freshness policy.freshnessKind = .ok () := by
  simp only [validateNormalizedItem, bind_eq_ok, require_eq_ok] at h
  obtain ⟨_, _, _, _, _, _, _, hFreshness, _⟩ := h
  exact hFreshness

theorem checkPageFacts_ok {platform : Platform} {attempt : PageAttempt} {locked : PageAdmission}
    (h : checkPageFacts platform attempt locked = .ok ()) :
    ∃ policy, exactPageFactPolicy locked policy ∧
      ValidFacts platform.screening attempt.page.items attempt.page.relations policy := by
  simp only [checkPageFacts, bind_eq_ok, require_eq_ok, orFail_eq_ok] at h
  obtain ⟨policy, _, _, ⟨hExact, _⟩, _, hFacts, _⟩ := h
  refine ⟨policy, hExact, ?_⟩
  cases hResult : validateFacts platform.screening attempt.page.items attempt.page.relations policy with
  | error =>
    rw [hResult] at hFacts
    cases hFacts
  | ok => exact validateFacts_ok hResult

end AiopsSystem.AssetCatalog
