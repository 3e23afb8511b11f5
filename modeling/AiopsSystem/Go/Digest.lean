import AiopsSystem.Go.Text
import Mathlib.Data.List.Nodup

/-! # Digests known at some inputs

The digest is a parameter of the models. Where a run needs its values, they are
given by a table; on every other input the table answers with a text that no
digest has, so a table without repetitions stays injective.
-/

namespace AiopsSystem.Go

open List

def digestTable (table : List (GoString × GoString)) (value : GoString) : GoString :=
  (table.lookup value).getD (33 :: value)

theorem digestTable_self (key digest : GoString) (rest : List (GoString × GoString)) :
    digestTable ((key, digest) :: rest) key = digest := by
  unfold digestTable
  rw [lookup_cons_self]
  rfl

theorem digestTable_of_ne {key digest value : GoString} {rest : List (GoString × GoString)}
    (h : (value == key) = false) : digestTable ((key, digest) :: rest) value = digestTable rest value := by
  unfold digestTable
  rw [lookup_cons, h]

theorem digestTable_injective {table : List (GoString × GoString)} (hNodup : (table.map Prod.snd).Nodup)
    (hHead : ∀ digest ∈ table.map Prod.snd, digest.head? ≠ some 33) : Function.Injective (digestTable table) := by
  have hMem : ∀ value digest, table.lookup value = some digest → (value, digest) ∈ table := by
    intro value digest h
    obtain ⟨_, _, rfl, _⟩ := lookup_eq_some_iff.mp h
    simp
  intro x y h
  unfold digestTable at h
  cases hx : table.lookup x with
  | none =>
    cases hy : table.lookup y with
    | none =>
      rw [hx, hy] at h
      exact (List.cons.inj h).2
    | some digest =>
      rw [hx, hy] at h
      exact absurd (congrArg List.head? h).symm (hHead _ (mem_map_of_mem (hMem y digest hy)))
  | some digest =>
    cases hy : table.lookup y with
    | none =>
      rw [hx, hy] at h
      exact absurd (congrArg List.head? h) (hHead _ (mem_map_of_mem (hMem x digest hx)))
    | some digest' =>
      rw [hx, hy] at h
      exact congrArg Prod.fst (inj_on_of_nodup_map hNodup (hMem x digest hx) (hMem y digest' hy) h)

end AiopsSystem.Go
