import Mathlib.Algebra.Order.BigOperators.Group.List
import Mathlib.Algebra.Order.Ring.Nat

/-! # Loads of a pool of workers

What the workers hold together is the sum of what each of them holds. A step of one
worker changes the sum by the change of its own share.
-/

namespace AiopsSystem.Pool

variable {W : Type} {workers : List W} {worker : W} {weight : W → Nat}

def load (weight : W → Nat) (workers : List W) : Nat := (workers.map weight).sum

theorem load_set {index : Nat} (h : workers[index]? = some worker) (weight : W → Nat) (worker' : W) :
    load weight (workers.set index worker') + weight worker = load weight workers + weight worker' := by
  obtain ⟨hIndex, rfl⟩ := List.getElem?_eq_some_iff.mp h
  have hAfter := ((List.set_perm_cons_eraseIdx hIndex worker').map weight).sum_eq
  have hBefore := ((List.getElem_cons_eraseIdx_perm hIndex).map weight).sum_eq
  rw [List.map_cons, List.sum_cons] at hAfter hBefore
  unfold load
  omega

theorem load_eq_zero (h : ∀ worker ∈ workers, weight worker = 0) : load weight workers = 0 := by
  rw [load, List.sum_eq_zero_iff, List.forall_mem_map]
  exact h

theorem le_load (h : worker ∈ workers) : weight worker ≤ load weight workers :=
  List.le_sum_of_mem (List.mem_map_of_mem h)

theorem countP_le_load {p : W → Bool} (h : ∀ worker, p worker = true → 1 ≤ weight worker) :
    workers.countP p ≤ load weight workers := by
  induction workers with
  | nil => exact Nat.zero_le _
  | cons worker _ ih =>
    have hWorker := h worker
    rw [List.countP_cons, Nat.add_comm]
    exact Nat.add_le_add (by split <;> simp_all) ih

end AiopsSystem.Pool
