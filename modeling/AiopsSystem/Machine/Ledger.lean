import Mathlib.Data.List.Chain
import Mathlib.Data.List.Nodup

/-! # Ledgers of linked records

An append-only table of records, each with a key and an identifier, and one
head for each key that has a history. Some records are set aside when they are
written. The other records of a key form a chain, and the head of the key
stands at its last record. What a link is and when a head stands at a record
are parameters.
-/

namespace AiopsSystem.Ledger

open List

structure Layout (R H K I : Type) where
  recordKey : R → K
  recordID : R → I
  headKey : H → K
  root : R → Prop
  follows : R → R → Prop
  stands : H → R → Prop

section

variable {R H K I : Type} [DecidableEq K] [DecidableEq I] (layout : Layout R H K I)

def chain (records : List R) (aside : List I) (key : K) : List R :=
  records.filter fun record => decide (layout.recordKey record = key) && decide (layout.recordID record ∉ aside)

structure History (records : List R) (head : H) : Prop where
  root : ∀ record, records.head? = some record → layout.root record
  linked : records.IsChain layout.follows
  last : ∃ record, records.getLast? = some record ∧ layout.stands head record

structure Consistent (heads : List H) (records : List R) (aside : List I) : Prop where
  ids : (records.map layout.recordID).Nodup
  keys : (heads.map layout.headKey).Nodup
  known : ∀ id ∈ aside, id ∈ records.map layout.recordID
  owned : ∀ record ∈ records, layout.recordID record ∉ aside → layout.recordKey record ∈ heads.map layout.headKey
  history : ∀ head ∈ heads, History layout (chain layout records aside (layout.headKey head)) head

theorem consistent_nil : Consistent layout [] [] [] := by
  refine ⟨.nil, .nil, ?_, ?_, ?_⟩ <;> intro _ h <;> cases h

variable {layout} {heads : List H} {records : List R} {aside : List I} {record : R} {key : K}

theorem mem_chain : record ∈ chain layout records aside key ↔
    record ∈ records ∧ layout.recordKey record = key ∧ layout.recordID record ∉ aside := by
  simp [chain]

theorem chain_concat_self (hKey : layout.recordKey record = key) (hKept : layout.recordID record ∉ aside) :
    chain layout (records ++ [record]) aside key = chain layout records aside key ++ [record] := by
  simp [chain, hKey, hKept]

theorem chain_concat_of_ne (hKey : layout.recordKey record ≠ key) :
    chain layout (records ++ [record]) aside key = chain layout records aside key := by
  simp [chain, hKey]

theorem chain_concat_aside (hFresh : layout.recordID record ∉ records.map layout.recordID) :
    chain layout (records ++ [record]) (aside ++ [layout.recordID record]) key = chain layout records aside key := by
  have hOld : chain layout records (aside ++ [layout.recordID record]) key = chain layout records aside key := by
    refine filter_congr ?_
    intro other hOther
    have hNe : layout.recordID other ≠ layout.recordID record := by
      intro hSame
      exact hFresh (hSame ▸ mem_map_of_mem hOther)
    simp [hNe]
  rw [← hOld]
  simp [chain]

omit [DecidableEq K] [DecidableEq I] in
theorem nodup_ids_concat (hIds : (records.map layout.recordID).Nodup)
    (hFresh : layout.recordID record ∉ records.map layout.recordID) :
    ((records ++ [record]).map layout.recordID).Nodup := by
  rw [map_append, map_singleton]
  refine hIds.append (nodup_singleton _) ?_
  intro _ hId hNew
  rw [mem_singleton] at hNew
  exact hFresh (hNew ▸ hId)

section

variable (h : Consistent layout heads records aside)

include h

variable {head : H} {step : H → H} (hFresh : layout.recordID record ∉ records.map layout.recordID)

include hFresh

theorem Consistent.setAside : Consistent layout heads (records ++ [record]) (aside ++ [layout.recordID record]) := by
  refine ⟨nodup_ids_concat h.ids hFresh, h.keys, ?_, ?_, ?_⟩
  · intro id hId
    rcases mem_append.mp hId with hOld | hNew
    · simp [h.known id hOld]
    · simp [mem_singleton.mp hNew]
  · intro other hOther hKept
    rcases mem_append.mp hOther with hOld | hNew
    · exact h.owned other hOld fun hAside => hKept (mem_append_left _ hAside)
    · exact absurd (mem_append_right aside (by simp [mem_singleton.mp hNew])) hKept
  · intro head hHead
    rw [chain_concat_aside hFresh]
    exact h.history head hHead

theorem Consistent.kept : layout.recordID record ∉ aside :=
  fun hAside => hFresh (h.known _ hAside)

theorem Consistent.start
    (hNew : layout.headKey head ∉ heads.map layout.headKey) (hKey : layout.recordKey record = layout.headKey head)
    (hRoot : layout.root record) (hStands : layout.stands head record) :
    Consistent layout (heads ++ [head]) (records ++ [record]) aside := by
  have hKept := h.kept hFresh
  have hEmpty : chain layout records aside (layout.headKey head) = [] := by
    refine eq_nil_iff_forall_not_mem.mpr ?_
    intro other hOther
    obtain ⟨hMem, hSame, hOtherKept⟩ := mem_chain.mp hOther
    exact hNew (hSame ▸ h.owned other hMem hOtherKept)
  refine ⟨nodup_ids_concat h.ids hFresh, ?_, ?_, ?_, ?_⟩
  · rw [map_append, map_singleton]
    refine h.keys.append (nodup_singleton _) ?_
    intro _ hOld hSame
    exact hNew (mem_singleton.mp hSame ▸ hOld)
  · intro id hId
    simp [h.known id hId]
  · intro other hOther hOtherKept
    rw [map_append, mem_append]
    rcases mem_append.mp hOther with hOld | hLast
    · exact .inl (h.owned other hOld hOtherKept)
    · exact .inr (by simp [mem_singleton.mp hLast, hKey])
  · intro other hOther
    rcases mem_append.mp hOther with hOld | hLast
    · have hNe : layout.recordKey record ≠ layout.headKey other := by
        rw [hKey]
        exact fun hSame => hNew (hSame ▸ mem_map_of_mem hOld)
      rw [chain_concat_of_ne hNe]
      exact h.history other hOld
    · rw [mem_singleton.mp hLast, chain_concat_self hKey hKept, hEmpty]
      exact ⟨by simpa using hRoot, isChain_singleton _, record, rfl, hStands⟩

theorem Consistent.advance (hHead : head ∈ heads) (hKey : layout.recordKey record = layout.headKey head)
    (hFollows : ∀ last ∈ records, layout.stands head last → layout.follows last record)
    (hKeys : ∀ other ∈ heads, layout.headKey (step other) = layout.headKey other)
    (hOther : ∀ other ∈ heads, other ≠ head → step other = other) (hStands : layout.stands (step head) record) :
    Consistent layout (heads.map step) (records ++ [record]) aside := by
  have hKept := h.kept hFresh
  have hHeadKeys : (heads.map step).map layout.headKey = heads.map layout.headKey := by
    rw [map_map]
    exact map_congr_left hKeys
  refine ⟨nodup_ids_concat h.ids hFresh, hHeadKeys ▸ h.keys, ?_, ?_, ?_⟩
  · intro id hId
    simp [h.known id hId]
  · intro other hMem hOtherKept
    rw [hHeadKeys]
    rcases mem_append.mp hMem with hOld | hLast
    · exact h.owned other hOld hOtherKept
    · rw [mem_singleton.mp hLast, hKey]
      exact mem_map_of_mem hHead
  · intro _ hMem
    obtain ⟨other, hOld, rfl⟩ := mem_map.mp hMem
    rw [hKeys other hOld]
    by_cases hSame : other = head
    · subst hSame
      obtain ⟨hRoot, hLinked, last, hLast, hStandsLast⟩ := h.history other hOld
      have hNonempty : chain layout records aside (layout.headKey other) ≠ [] := by
        rintro hNil
        rw [hNil] at hLast
        cases hLast
      rw [chain_concat_self hKey hKept]
      refine ⟨?_, ?_, record, by simp, hStands⟩
      · intro first hFirst
        rw [head?_append_of_ne_nil _ hNonempty] at hFirst
        exact hRoot first hFirst
      · refine isChain_append.mpr ⟨hLinked, isChain_singleton _, ?_⟩
        intro _ hBefore _ hAfter
        rw [hLast] at hBefore
        cases hBefore
        cases hAfter
        exact hFollows last (mem_chain.mp (mem_of_getLast? hLast)).1 hStandsLast
    · have hNe : layout.recordKey record ≠ layout.headKey other := by
        rw [hKey]
        intro hKeySame
        exact hSame (inj_on_of_nodup_map h.keys hOld hHead hKeySame.symm)
      rw [hOther other hOld hSame, chain_concat_of_ne hNe]
      exact h.history other hOld

end

end

end AiopsSystem.Ledger
