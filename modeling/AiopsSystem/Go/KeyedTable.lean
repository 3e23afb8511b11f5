import AiopsSystem.Go.Table
import Mathlib.Data.Finset.Basic

/-! # Tables of records

A table of records keeps each record under a key that the record itself
determines, takes in new records one by one or a list at a time, and never
drops one. `Grows` says that a record of the first table is still in the second
and how it may have changed.
-/

namespace AiopsSystem.Go.GoMap

variable {K V : Type} [DecidableEq K] {key : K} {value : V}

variable {table : GoMap K V}

theorem get?_insert_self : GoMap.get? (table.insert key value) key = some value := by
  rw [get?_insert, if_pos rfl]

theorem get?_insert_of_ne {other : K} (h : other ≠ key) :
    GoMap.get? (table.insert key value) other = table.get? other := by
  rw [get?_insert, if_neg h]

section InsertAll

variable (identify : V → K)

/-- `for _, value := range values { table[identify(value)] = value }` -/
def insertAll (values : List V) (table : GoMap K V) : GoMap K V :=
  values.foldl (fun table value => table.insert (identify value) value) table

variable {identify}

variable {values : List V}

variable {table : GoMap K V}

theorem get?_insertAll_of_absent
    (h : ∀ value ∈ values, identify value ≠ key) : (insertAll identify values table).get? key = table.get? key := by
  induction values generalizing table with
  | nil => rfl
  | cons value rest ih =>
    have hRest : ∀ other ∈ rest, identify other ≠ key := fun other hOther => h other (List.mem_cons_of_mem _ hOther)
    exact (ih hRest).trans (get?_insert_of_ne (h value List.mem_cons_self).symm)

theorem get?_insertAll_of_mem (hNodup : (values.map identify).Nodup) (h : value ∈ values) :
    (insertAll identify values table).get? (identify value) = some value := by
  induction values generalizing table with
  | nil => cases h
  | cons _ rest ih =>
    obtain ⟨hFirst, hRest⟩ := List.nodup_cons.mp hNodup
    cases h with
    | head =>
      have hAbsent : ∀ other ∈ rest, identify other ≠ identify value :=
        fun other hOther hSame => hFirst (hSame ▸ List.mem_map_of_mem hOther)
      exact (get?_insertAll_of_absent hAbsent).trans get?_insert_self
    | tail _ hMem => exact ih hRest hMem

theorem get?_insertAll_of_some (values : List V) {old : V}
    (h : table.get? key = some old) : ∃ found, (insertAll identify values table).get? key = some found := by
  induction values generalizing table old with
  | nil => exact ⟨old, h⟩
  | cons value _ ih =>
    by_cases hKey : key = identify value
    · subst hKey
      exact ih get?_insert_self
    · exact ih ((get?_insert_of_ne hKey).trans h)

theorem get?_insertAll_cases {found : V} (h : (insertAll identify values table).get? key = some found) :
    found ∈ values ∧ identify found = key ∨
      table.get? key = some found ∧ ∀ value ∈ values, identify value ≠ key := by
  induction values generalizing table with
  | nil => exact .inr ⟨h, nofun⟩
  | cons _ _ ih =>
    rcases ih h with ⟨hMem, hKey⟩ | ⟨hTable, hRest⟩
    · exact .inl ⟨List.mem_cons_of_mem _ hMem, hKey⟩
    · rcases get?_insert_cases hTable with ⟨hKey, rfl⟩ | ⟨hKey, hTable⟩
      · exact .inl ⟨List.mem_cons_self, hKey.symm⟩
      · refine .inr ⟨hTable, fun other hOther => ?_⟩
        cases hOther with
        | head => exact hKey.symm
        | tail _ hOther => exact hRest other hOther

end InsertAll

def Keyed (identify : V → K) (table : GoMap K V) : Prop :=
  ∀ key value, table.get? key = some value → identify value = key

theorem keyed_empty (identify : V → K) : Keyed identify (∅ : GoMap K V) := nofun

theorem Keyed.insert {identify : V → K} (h : Keyed identify table)
    (hValue : identify value = key) : Keyed identify (table.insert key value) := by
  intro other found hFound
  rcases get?_insert_cases hFound with ⟨rfl, rfl⟩ | ⟨_, hTable⟩
  · exact hValue
  · exact h other found hTable

theorem Keyed.insertAll {identify place : V → K} (h : Keyed identify table) {values : List V}
    (hValues : ∀ value ∈ values, identify value = place value) : Keyed identify (insertAll place values table) := by
  intro key found hFound
  rcases get?_insertAll_cases hFound with ⟨hMem, hKey⟩ | ⟨hTable, _⟩
  · exact (hValues found hMem).trans hKey
  · exact h key found hTable

def Grows (R : V → V → Prop) (table table' : GoMap K V) : Prop :=
  ∀ key value, table.get? key = some value → ∃ value', table'.get? key = some value' ∧ R value value'

section Grows

variable {R : V → V → Prop} {table table' table'' : GoMap K V}

theorem Grows.trans [IsTrans V R] (h : Grows R table table') (h' : Grows R table' table'') : Grows R table table'' := by
  intro key value hValue
  obtain ⟨value', hValue', hFirst⟩ := h key value hValue
  obtain ⟨value'', hValue'', hSecond⟩ := h' key value' hValue'
  exact ⟨value'', hValue'', IsTrans.trans _ _ _ hFirst hSecond⟩

theorem Grows.keeps (h : Grows Eq table table') (hValue : table.get? key = some value) :
    table'.get? key = some value := by
  obtain ⟨_, hValue', rfl⟩ := h key value hValue
  exact hValue'

variable [Std.Refl R]

theorem Grows.refl (table : GoMap K V) : Grows R table table :=
  fun _ value h => ⟨value, h, refl_of R value⟩

theorem Grows.insert
    (h : ∀ old, table.get? key = some old → R old value) : Grows R table (table.insert key value) := by
  intro other old hOld
  by_cases hKey : other = key
  · subst hKey
    exact ⟨value, get?_insert_self, h old hOld⟩
  · exact ⟨old, (get?_insert_of_ne hKey).trans hOld, refl_of R old⟩

theorem Grows.insert_fresh (value : V) (h : table.get? key = none) : Grows R table (table.insert key value) :=
  Grows.insert (fun old hOld => by rw [h] at hOld; cases hOld)

theorem Grows.insertAll {identify : V → K} {values : List V}
    (h : ∀ value ∈ values, ∀ old, table.get? (identify value) = some old → R old value) :
    Grows R table (insertAll identify values table) := by
  intro _ old hOld
  obtain ⟨found, hFound⟩ := get?_insertAll_of_some values hOld
  refine ⟨found, hFound, ?_⟩
  rcases get?_insertAll_cases hFound with ⟨hMem, rfl⟩ | ⟨hTable, _⟩
  · exact h found hMem old hOld
  · rw [hOld] at hTable
    exact Option.some.inj hTable ▸ refl_of R old

end Grows

section Count

variable {test test' : K → V → Bool}

variable {table : GoMap K V}

theorem countEntries_insert_of_none (h : table.get? key = none) (value : V) (test : K → V → Bool) :
    countEntries (table.insert key value) test = table.countEntries test + if test key value then 1 else 0 := by
  unfold countEntries
  rw [Finmap.entries_insert_of_notMem (Finmap.lookup_eq_none.mp h), Multiset.countP_cons]

theorem countEntries_eq_zero (h : ∀ key value, table.get? key = some value → test key value = false) :
    table.countEntries test = 0 := by
  unfold countEntries
  rw [Multiset.countP_eq_zero]
  rintro ⟨key, value⟩ hMem
  simp [h key value ((mem_entries_iff table key value).mp hMem)]

theorem countEntries_congr {table table' : GoMap K V}
    (h : ∀ key, (table.get? key).any (test key) = (table'.get? key).any (test' key)) :
    table.countEntries test = table'.countEntries test' := by
  let keys := (table.keys ∪ table'.keys).toList
  have hNodup : keys.Nodup := Finset.nodup_toList _
  have hKeys : ∀ key value, table.get? key = some value → key ∈ keys := by
    intro key value hValue
    exact Finset.mem_toList.mpr (Finset.mem_union_left _ (Finmap.mem_keys.mpr (Finmap.mem_of_lookup_eq_some hValue)))
  have hKeys' : ∀ key value, table'.get? key = some value → key ∈ keys := by
    intro key value hValue
    exact Finset.mem_toList.mpr (Finset.mem_union_right _ (Finmap.mem_keys.mpr (Finmap.mem_of_lookup_eq_some hValue)))
  rw [countEntries_eq_countP hNodup hKeys, countEntries_eq_countP hNodup hKeys']
  exact List.countP_congr fun key _ => by rw [h key]

end Count

end AiopsSystem.Go.GoMap
