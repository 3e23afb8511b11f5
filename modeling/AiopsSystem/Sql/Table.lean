import Mathlib.Data.List.Sort
import Mathlib.Data.List.Nodup

/-! # Tables

A table is the list of its rows in insertion order, and a statement that runs
alone is a function of it. A key is a projection of the rows; the lemmas say
how the row found under a key changes with an `UPDATE` or an `INSERT`.
-/

namespace AiopsSystem.Sql

open List

variable {R K : Type}

/-- `ORDER BY`, with `before` the strict order of the sort columns. -/
def orderBy (before : R → R → Bool) (rows : List R) : List R :=
  rows.insertionSort (fun left right => before right left = false)

variable {before : R → R → Bool} {rows : List R} {key : R → K} {table : List R}

/-- What one `UPDATE` does to a row. -/
def updated (condition : R → Bool) (change : R → R) (row : R) : R := if condition row then change row else row

/-- `UPDATE table SET change WHERE condition` -/
def update (condition : R → Bool) (change : R → R) (table : List R) : List R := table.map (updated condition change)

variable {condition : R → Bool} {change : R → R}

section

variable (hKey : ∀ row, key (change row) = key row)

include hKey

theorem key_updated (row : R) : key (updated condition change row) = key row := by
  unfold updated
  split
  · exact hKey row
  · rfl

theorem map_key_map : (table.map change).map key = table.map key := by
  rw [map_map]
  exact map_congr_left fun row _ => hKey row

theorem map_key_update : (update condition change table).map key = table.map key :=
  map_key_map (key_updated hKey)

end

section Key

variable [DecidableEq K] (key : R → K)

/-- `SELECT ... WHERE key = value` for a unique key. -/
def lookup (value : K) (table : List R) : Option R := table.find? (fun row => key row = value)

variable {key} {table : List R} {value : K} {row : R}

theorem key_of_lookup (h : lookup key value table = some row) : key row = value :=
  of_decide_eq_true (find?_some (p := fun row => decide (key row = value)) h)

theorem mem_of_lookup (h : lookup key value table = some row) : row ∈ table :=
  mem_of_find?_eq_some h

theorem lookup_eq_none_iff : lookup key value table = none ↔ value ∉ table.map key := by
  rw [lookup, find?_eq_none, mem_map]
  simp

theorem lookup_of_mem (hKeys : (table.map key).Nodup) (h : row ∈ table) : lookup key (key row) table = some row := by
  cases hLookup : lookup key (key row) table with
  | none => exact absurd (mem_map_of_mem h) (lookup_eq_none_iff.mp hLookup)
  | some =>
    have hSame := key_of_lookup hLookup
    rw [inj_on_of_nodup_map hKeys (mem_of_lookup hLookup) h hSame]

end Key

end AiopsSystem.Sql
