import AiopsSystem.Go.Attempt

/-! # Loops with an accumulator

A loop that may fail is a `foldlM`. What it establishes is shown for the part
of the list it has passed, one element at a time.
-/

namespace AiopsSystem.Go

variable {ε α σ : Type} {f : σ → α → Except ε σ}

/-- An invariant over the values passed so far and the accumulator holds when the loop has succeeded. -/
theorem foldlM_invariant {P : List α → σ → Prop} {values : List α} {start final : σ}
    (h : values.foldlM f start = .ok final) (hStart : P [] start)
    (hStep : ∀ passed value rest state next, values = passed ++ value :: rest → P passed state →
      f state value = .ok next → P (passed ++ [value]) next) : P values final := by
  have hFrom : ∀ (rest passed : List α) (state : σ), values = passed ++ rest → P passed state →
      rest.foldlM f state = .ok final → P values final := by
    intro rest
    induction rest with
    | nil =>
      intro passed state hValues hP hFold
      cases hFold
      rwa [hValues, List.append_nil]
    | cons value rest ih =>
      intro passed state hValues hP hFold
      rw [List.foldlM_cons, bind_eq_ok] at hFold
      obtain ⟨next, hNext, hFold⟩ := hFold
      refine ih (passed ++ [value]) next (by simpa using hValues) ?_ hFold
      exact hStep passed value rest state next hValues hP hNext
  exact hFrom values [] start rfl hStart h

theorem foldlM_preserves {P : σ → Prop} {values : List α} {start final : σ}
    (h : values.foldlM f start = .ok final) (hStart : P start)
    (hStep : ∀ value ∈ values, ∀ state next, P state → f state value = .ok next → P next) : P final := by
  refine foldlM_invariant (P := fun _ state => P state) h hStart ?_
  intro _ value _ state next hValues hState hNext
  exact hStep value (by simp [hValues]) state next hState hNext

/-- An invariant over the values still to come keeps a loop from failing with one error. -/
theorem foldlM_avoids {P : List α → σ → Prop} {failure : ε}
    (hStep : ∀ value rest state, P (value :: rest) state →
      f state value ≠ .error failure ∧ ∀ next, f state value = .ok next → P rest next)
    {values : List α} {start : σ} (hStart : P values start) :
    values.foldlM f start ≠ .error failure ∧ ∀ final, values.foldlM f start = .ok final → P [] final := by
  induction values generalizing start with
  | nil =>
    refine ⟨nofun, ?_⟩
    intro final h
    cases h
    exact hStart
  | cons value rest ih =>
    obtain ⟨hFirst, hNext⟩ := hStep value rest start hStart
    rw [List.foldlM_cons]
    cases hValue : f start value with
    | error other =>
      rw [hValue] at hFirst
      exact ⟨hFirst, nofun⟩
    | ok next => exact ih (hNext next hValue)

theorem foldlM_map {τ : Type} {f : σ → α → Except ε σ} {h : τ → α → Except ε τ} {g : τ → σ}
    (hStep : ∀ state value, f (g state) value = (h state value).map g) (values : List α) (state : τ) :
    values.foldlM f (g state) = (values.foldlM h state).map g := by
  induction values generalizing state with
  | nil => rfl
  | cons value _ ih =>
    rw [List.foldlM_cons, List.foldlM_cons, hStep]
    cases h state value with
    | error => rfl
    | ok next => exact ih next

end AiopsSystem.Go
