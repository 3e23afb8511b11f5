import Mathlib.Data.List.Forall2

/-! # Fallible calls as guarded sequences

A fallible function is an `Except` computation: a sequence of guards, each with
the error it returns, and a final value. `require` is one guard; the lemmas
take a successful computation apart into the guards it passed.
-/

namespace AiopsSystem.Go

open List

variable {ε α β : Type}

/-- `if !condition { return failure }` -/
def require (condition : Prop) [Decidable condition] (failure : ε) : Except ε Unit :=
  if condition then .ok () else .error failure

variable {condition : Prop} {failure : ε}

@[simp] theorem require_eq_ok [Decidable condition] {u : Unit} : require condition failure = .ok u ↔ condition := by
  unfold require
  split <;> simp_all

variable {_ : Decidable condition} {f : α → Except ε β}

theorem require_of (h : condition) : require condition failure = .ok () := if_pos h

theorem require_of_not (h : ¬ condition) : require condition failure = .error failure := if_neg h

@[simp] theorem bind_eq_ok {x : Except ε α} {b : β} : (x >>= f) = .ok b ↔ ∃ a, x = .ok a ∧ f a = .ok b := by
  cases x with
  | error =>
    constructor
    · nofun
    · rintro ⟨_, h, _⟩
      cases h
  | ok a =>
    constructor
    · intro h
      exact ⟨a, rfl, h⟩
    · rintro ⟨_, h, hf⟩
      cases h
      exact hf

variable {a : α}

@[simp] theorem ok_bind : ((Except.ok a : Except ε α) >>= f) = f a := rfl

variable {e : ε}

@[simp] theorem error_bind : ((Except.error e : Except ε α) >>= f) = .error e := rfl

/-- `value, ok := table[key]` with the error returned when the key is absent. -/
def orFail (value : Option α) (failure : ε) : Except ε α :=
  match value with
  | some a => .ok a
  | none => .error failure

@[simp] theorem orFail_some : orFail (some a) failure = .ok a := rfl

@[simp] theorem orFail_eq_ok {value : Option α} : orFail value failure = .ok a ↔ value = some a := by
  cases value <;> simp [orFail]

@[simp] theorem mapError_eq_ok {δ : Type} {change : ε → δ} {value : Except ε α} :
    value.mapError change = .ok a ↔ value = .ok a := by
  cases value <;> simp [Except.mapError]

theorem require_eq_error [Decidable condition] :
    require condition failure = .error e ↔ ¬ condition ∧ failure = e := by
  unfold require
  split <;> simp_all

theorem orFail_eq_error {value : Option α} : orFail value failure = .error e ↔ value = none ∧ failure = e := by
  cases value <;> simp [orFail]

theorem bind_eq_error {x : Except ε α} {f : α → Except ε β} :
    (x >>= f) = .error e ↔ x = .error e ∨ ∃ a, x = .ok a ∧ f a = .error e := by
  cases x <;> simp

section Loops

variable {f : α → Except ε β}

variable {values : List α} {results : List β}

theorem mapM_eq_ok : values.mapM f = .ok results ↔ List.Forall₂ (fun a b => f a = .ok b) values results := by
  induction values generalizing results with
  | nil =>
    rw [mapM_nil, forall₂_nil_left_iff]
    constructor
    · intro h
      cases h
      rfl
    · rintro rfl
      rfl
  | cons _ _ ih =>
    simp only [mapM_cons, bind_eq_ok, ih, forall₂_cons_left_iff]
    constructor
    · rintro ⟨b, hb, results', hResults', hSame⟩
      cases hSame
      exact ⟨b, results', hb, hResults', rfl⟩
    · rintro ⟨b, results', hb, hResults', rfl⟩
      exact ⟨b, hb, results', hResults', rfl⟩

theorem mapM_eq_some {f : α → Option β} :
    values.mapM f = some results ↔ List.Forall₂ (fun a b => f a = some b) values results := by
  induction values generalizing results with
  | nil =>
    rw [mapM_nil, forall₂_nil_left_iff]
    constructor
    · intro h
      cases h
      rfl
    · rintro rfl
      rfl
  | cons _ _ ih =>
    simp only [mapM_cons, Option.bind_eq_bind, Option.bind_eq_some_iff, ih, forall₂_cons_left_iff]
    constructor
    · rintro ⟨b, hb, results', hResults', hSame⟩
      cases hSame
      exact ⟨b, results', hb, hResults', rfl⟩
    · rintro ⟨b, results', hb, hResults', rfl⟩
      exact ⟨b, hb, results', hResults', rfl⟩

variable {R : α → β → Prop}

theorem exists_of_mem_right (h : List.Forall₂ R values results) {b : β} (hMem : b ∈ results) :
    ∃ a ∈ values, R a b := by
  induction h with
  | nil => cases hMem
  | @cons a _ _ _ hFirst _ ih =>
    cases hMem with
    | head => exact ⟨a, mem_cons_self, hFirst⟩
    | tail _ hRest =>
      obtain ⟨a', hA, hR⟩ := ih hRest
      exact ⟨a', mem_cons_of_mem _ hA, hR⟩

theorem exists_of_mem_left (h : List.Forall₂ R values results) {a : α} (hMem : a ∈ values) : ∃ b ∈ results, R a b :=
  exists_of_mem_right h.flip hMem

theorem forM_eq_ok {check : α → Except ε Unit} : values.forM check = .ok () ↔ ∀ a ∈ values, check a = .ok () := by
  induction values with
  | nil => exact ⟨fun _ _ h => (not_mem_nil h).elim, fun _ => rfl⟩
  | cons a rest ih =>
    change (check a >>= fun _ => rest.forM check) = .ok () ↔ _
    simp only [bind_eq_ok, forall_mem_cons, ih]
    constructor
    · rintro ⟨_, hFirst, hRest⟩
      exact ⟨hFirst, hRest⟩
    · rintro ⟨hFirst, hRest⟩
      exact ⟨(), hFirst, hRest⟩

end Loops

end AiopsSystem.Go
