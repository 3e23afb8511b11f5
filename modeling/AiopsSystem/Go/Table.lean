import Mathlib.Data.Finmap
import Mathlib.Data.List.Sort

/-! # Maps without an order

A Go map is a finite map; its iteration order is unspecified, so whatever
ranges over one either does not depend on the order or takes the order as an
argument. `entries` is the multiset of pairs a `range` loop meets.
-/

namespace AiopsSystem.Go

abbrev GoMap (K V : Type) := Finmap (fun _ : K => V)

namespace GoMap

variable {K V : Type} [DecidableEq K]

/-- `value, ok := table[key]` -/
def get? (table : GoMap K V) (key : K) : Option V := table.lookup key

theorem get?_insert (table : GoMap K V) (key other : K) (value : V) :
    GoMap.get? (table.insert key value) other = if other = key then some value else table.get? other := by
  unfold get?
  by_cases h : other = key
  · subst h
    rw [if_pos rfl, Finmap.lookup_insert]
  · rw [if_neg h, Finmap.lookup_insert_of_ne table h]

theorem get?_insert_cases {table : GoMap K V} {key other : K} {value found : V}
    (h : GoMap.get? (table.insert key value) other = some found) :
    other = key ∧ found = value ∨ other ≠ key ∧ table.get? other = some found := by
  rw [get?_insert] at h
  by_cases hKey : other = key
  · rw [if_pos hKey] at h
    exact .inl ⟨hKey, (Option.some.inj h).symm⟩
  · rw [if_neg hKey] at h
    exact .inr ⟨hKey, h⟩

theorem get?_erase (table : GoMap K V) (key other : K) :
    GoMap.get? (table.erase key) other = if other = key then none else table.get? other := by
  unfold get?
  by_cases h : other = key
  · subst h
    rw [if_pos rfl, Finmap.lookup_erase]
  · rw [if_neg h, Finmap.lookup_erase_ne h]

def anyEntry (table : GoMap K V) (test : K → V → Bool) : Bool :=
  decide (0 < table.entries.countP (fun entry => test entry.1 entry.2 = true))

theorem anyEntry_iff (table : GoMap K V) (test : K → V → Bool) :
    table.anyEntry test ↔ ∃ key value, table.get? key = some value ∧ test key value := by
  simp only [anyEntry, decide_eq_true_eq, Multiset.countP_pos]
  constructor
  · rintro ⟨⟨key, value⟩, hMem, hTest⟩
    exact ⟨key, value, Finmap.lookup_eq_some_iff.mpr hMem, hTest⟩
  · rintro ⟨key, value, hLookup, hTest⟩
    exact ⟨⟨key, value⟩, Finmap.lookup_eq_some_iff.mp hLookup, hTest⟩

def countEntries (table : GoMap K V) (test : K → V → Bool) : Nat :=
  table.entries.countP (fun entry => test entry.1 entry.2 = true)

theorem mem_entries_iff (table : GoMap K V) (key : K) (value : V) :
    (⟨key, value⟩ : (_ : K) × V) ∈ table.entries ↔ table.get? key = some value :=
  Finmap.lookup_eq_some_iff.symm

variable {table : GoMap K V}

theorem countEntries_eq_countP {keys : List K} (hNodup : keys.Nodup)
    (hKeys : ∀ key value, table.get? key = some value → key ∈ keys) (test : K → V → Bool) :
    table.countEntries test = keys.countP (fun key => (table.get? key).any (test key)) := by
  let entry (key : K) : Option ((_ : K) × V) := (table.get? key).map (Sigma.mk key)
  have hEntries : table.entries = (↑(keys.filterMap entry) : Multiset ((_ : K) × V)) := by
    have hInjective : ∀ key key' found, found ∈ entry key → found ∈ entry key' → key = key' := by
      intro key key' found hFound hFound'
      obtain ⟨value, _, rfl⟩ := Option.map_eq_some_iff.mp hFound
      obtain ⟨value', _, hSame⟩ := Option.map_eq_some_iff.mp hFound'
      exact (congrArg Sigma.fst hSame).symm
    refine (Multiset.Nodup.ext table.nodup_entries ?_).mpr ?_
    · exact Multiset.coe_nodup.mpr (hNodup.filterMap hInjective)
    · rintro ⟨key, value⟩
      rw [mem_entries_iff, Multiset.mem_coe, List.mem_filterMap]
      constructor
      · intro hValue
        exact ⟨key, hKeys key value hValue, by simp [entry, hValue]⟩
      · rintro ⟨_, _, hEntry⟩
        obtain ⟨value', hValue', hSame⟩ := Option.map_eq_some_iff.mp hEntry
        cases hSame
        exact hValue'
  unfold countEntries
  rw [hEntries, Multiset.coe_countP, List.countP_filterMap]
  refine List.countP_congr fun key _ => ?_
  cases hKey : table.get? key <;> simp [entry, hKey]

theorem countEntries_eq_countP_keys {keys : Finset K}
    (hKeys : ∀ key value, table.get? key = some value → key ∈ keys) (test : K → V → Bool) :
    table.countEntries test = keys.toList.countP (fun key => (table.get? key).any (test key)) := by
  refine countEntries_eq_countP (Finset.nodup_toList _) ?_ test
  intro key value hValue
  exact Finset.mem_toList.mpr (hKeys key value hValue)

theorem mem_keys_of_get? {key : K} {value : V} (h : table.get? key = some value) : key ∈ table.keys :=
  Finmap.mem_keys.mpr (Finmap.lookup_isSome.mp (Option.isSome_of_mem h))

theorem countEntries_insert_over (table : GoMap K V) (key : K) (value : V) (test : K → V → Bool) :
    ∃ keys : List K, keys.Nodup ∧
      table.countEntries test = keys.countP (fun other => (table.get? other).any (test other)) ∧
      countEntries (table.insert key value) test =
        keys.countP (fun other => (if other = key then some value else table.get? other).any (test other)) := by
  refine ⟨(insert key table.keys).toList, Finset.nodup_toList _, countEntries_eq_countP_keys ?_ test, ?_⟩
  · intro other found hFound
    exact Finset.mem_insert_of_mem (mem_keys_of_get? hFound)
  · simp only [← get?_insert]
    refine countEntries_eq_countP_keys ?_ test
    intro other found hFound
    rcases get?_insert_cases hFound with ⟨hSame, _⟩ | ⟨_, hFound⟩
    · exact Finset.mem_insert.mpr (.inl hSame)
    · exact Finset.mem_insert_of_mem (mem_keys_of_get? hFound)

theorem countP_or_le {α : Type} (p q : α → Bool) (values : List α) :
    values.countP (fun value => p value || q value) ≤ values.countP p + values.countP q := by
  induction values with
  | nil => simp
  | cons value =>
    simp only [List.countP_cons]
    cases p value <;> cases q value <;> simp <;> omega

theorem countEntries_insert_le (table : GoMap K V) (key : K) (value : V) (test : K → V → Bool) :
    countEntries (table.insert key value) test ≤ table.countEntries test + 1 := by
  obtain ⟨keys, hNodup, hBefore, hAfter⟩ := countEntries_insert_over table key value test
  rw [hBefore, hAfter]
  calc keys.countP (fun other => (if other = key then some value else table.get? other).any (test other))
      ≤ keys.countP (fun other => (table.get? other).any (test other) || other == key) := by
        refine List.countP_mono_left fun other _ hTest => ?_
        split at hTest
        · rename_i hSame
          simp [hSame]
        · rw [hTest, Bool.true_or]
    _ ≤ keys.countP (fun other => (table.get? other).any (test other)) + keys.countP (· == key) :=
        countP_or_le _ _ keys
    _ ≤ keys.countP (fun other => (table.get? other).any (test other)) + 1 :=
        Nat.add_le_add_left (List.nodup_iff_count_le_one.mp hNodup key) _

theorem countEntries_insert_le_of_kept {key : K} {value : V} {test : K → V → Bool}
    (h : test key value → ∃ before, table.get? key = some before ∧ test key before) :
    countEntries (table.insert key value) test ≤ table.countEntries test := by
  obtain ⟨keys, _, hBefore, hAfter⟩ := countEntries_insert_over table key value test
  rw [hBefore, hAfter]
  refine List.countP_mono_left fun other _ hTest => ?_
  split at hTest
  · rename_i hSame
    obtain ⟨before, hLookup, hHeld⟩ := h (hSame ▸ hTest)
    rw [hSame, hLookup]
    exact hHeld
  · exact hTest

/-- `len(table)` -/
def size (table : GoMap K V) : Nat := table.entries.card

theorem size_insert_of_none {key : K} (h : table.get? key = none) (value : V) :
    size (table.insert key value) = table.size + 1 := by
  unfold size
  rw [Finmap.entries_insert_of_notMem (Finmap.lookup_eq_none.mp h), Multiset.card_cons]

theorem size_eq_zero_iff (table : GoMap K V) : table.size = 0 ↔ ∀ key, table.get? key = none := by
  unfold size
  rw [Multiset.card_eq_zero]
  constructor
  · intro h key
    cases hKey : table.get? key with
    | none => rfl
    | some =>
      have hMem := Finmap.lookup_eq_some_iff.mp hKey
      rw [h] at hMem
      cases hMem
  · intro h
    refine Multiset.eq_zero_of_forall_notMem ?_
    rintro ⟨key, value⟩ hMem
    have hKey : table.get? key = some value := Finmap.lookup_eq_some_iff.mpr hMem
    rw [h key] at hKey
    cases hKey

end GoMap

/-- The order in which a `range` statement meets the keys of a map; it meets none twice. -/
structure RangeOrder (K : Type) where
  keys : List K
  nodup : keys.Nodup

namespace GoMap

variable {K V : Type} [DecidableEq K]

def ranged (table : GoMap K V) (order : RangeOrder K) : List (K × V) :=
  order.keys.filterMap (fun key => (table.get? key).map (Prod.mk key))

theorem get?_of_mem_ranged {table : GoMap K V} {order : RangeOrder K} {entry : K × V}
    (h : entry ∈ table.ranged order) : table.get? entry.1 = some entry.2 := by
  obtain ⟨_, _, hEntry⟩ := List.mem_filterMap.mp h
  obtain ⟨_, hValue, rfl⟩ := Option.map_eq_some_iff.mp hEntry
  exact hValue

theorem ranged_nodup (table : GoMap K V) (order : RangeOrder K) : ((table.ranged order).map Prod.fst).Nodup := by
  have hKeys : (table.ranged order).map Prod.fst = order.keys.filter (fun key => (table.get? key).isSome) := by
    unfold ranged
    induction order.keys with
    | nil => rfl
    | cons key _ ih =>
      cases h : table.get? key with
      | none => simp [h, ih]
      | some => simp [h, ih]
  rw [hKeys]
  exact order.nodup.filter _

/-- `sort.Slice(values, less)` for a comparison that tells any two values apart. -/
def sortSlice {α : Type} (less : α → α → Bool) (values : List α) : List α :=
  values.insertionSort (fun left right => less right left = false)

theorem perm_sortSlice {α : Type} (less : α → α → Bool) (values : List α) : (sortSlice less values).Perm values :=
  List.perm_insertionSort _ values

theorem mem_sortSlice {α : Type} {less : α → α → Bool} {values : List α} {value : α} :
    value ∈ sortSlice less values ↔ value ∈ values :=
  (perm_sortSlice less values).mem_iff

end GoMap

end AiopsSystem.Go
