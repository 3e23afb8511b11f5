import AiopsSystem.Go.Attempt

/-! # Locked sections

Code that changes shared records through pointers keeps what it wrote when it
returns an error afterwards. A section is such code: a computation with errors
over a state that survives them. `Ends` is its weakest precondition; the rules
follow the source line by line, one for each kind of statement.
-/

namespace AiopsSystem.Go

abbrev Section (ε σ α : Type) := ExceptT ε (StateM σ) α

namespace Section

variable {ε σ α β : Type}

def exec (body : Section ε σ α) (start : σ) : Except ε α × σ := body start

/-- `if !condition { return failure }` -/
def ensure (condition : Prop) [Decidable condition] (failure : ε) : Section ε σ Unit :=
  if condition then pure () else throw failure

def found (value : Option α) (failure : ε) : Section ε σ α :=
  match value with
  | some a => pure a
  | none => throw failure

def attempt (value : Except ε α) : Section ε σ α :=
  match value with
  | .ok a => pure a
  | .error failure => throw failure

def Ends (body : Section ε σ α) (start : σ) (Q : Except ε α → σ → Prop) : Prop :=
  Q (body.exec start).1 (body.exec start).2

variable {Q : Except ε β → σ → Prop} {start : σ}

theorem Ends.pure {Q : Except ε α → σ → Prop} {a : α} (h : Q (.ok a) start) :
    Ends (Pure.pure a : Section ε σ α) start Q := h

variable {failure : ε}

theorem Ends.throw {Q : Except ε α → σ → Prop} (h : Q (.error failure) start) :
    Ends (MonadExcept.throw failure : Section ε σ α) start Q := h

variable {body : Section ε σ α} {next : α → Section ε σ β}

theorem ends_bind :
    Ends (body >>= next) start Q ↔ Ends body start (fun reply state =>
      match reply with
      | .ok a => Ends (next a) state Q
      | .error failure => Q (.error failure) state) := by
  unfold Ends exec
  change Q ((ExceptT.bindCont next (body start).1) (body start).2).1
    ((ExceptT.bindCont next (body start).1) (body start).2).2 ↔ _
  cases (body start).1 with
  | ok => exact Iff.rfl
  | error => exact Iff.rfl

theorem Ends.bind
    (h : Ends body start (fun reply state =>
      match reply with
      | .ok a => Ends (next a) state Q
      | .error failure => Q (.error failure) state)) :
    Ends (body >>= next) start Q :=
  ends_bind.mpr h

theorem of_error {P : α → Prop} (value : α) (h : (Except.error failure : Except ε α) = .ok value) : P value :=
  nomatch h

theorem Ends.mono {Q' : Except ε β → σ → Prop} {body : Section ε σ β} (h : Ends body start Q')
    (hQ : ∀ reply state, Q' reply state → Q reply state) : Ends body start Q :=
  hQ _ _ h

/-- A guard: the postcondition holds of the error as it stands, and of the rest if the guard passed. -/
theorem Ends.ensure {condition : Prop} [Decidable condition] {next : Unit → Section ε σ β}
    (hError : Q (.error failure) start) (h : condition → Ends (next ()) start Q) :
    Ends (ensure condition failure >>= next) start Q := by
  apply Ends.bind
  unfold Section.ensure
  by_cases hCondition : condition
  · rw [if_pos hCondition]
    exact h hCondition
  · rw [if_neg hCondition]
    exact hError

theorem Ends.pass {condition : Prop} [Decidable condition] {next : Unit → Section ε σ β} (hCondition : condition)
    (h : Ends (next ()) start Q) : Ends (Section.ensure condition failure >>= next) start Q := by
  rw [Section.ensure, if_pos hCondition]
  exact h

theorem ensure_bind_congr {condition : Prop} [Decidable condition] {next next' : Unit → Section ε σ β}
    (h : condition → next () = next' ()) :
    (ensure condition failure >>= next) = (ensure condition failure >>= next') := by
  unfold Section.ensure
  by_cases hCondition : condition
  · rw [if_pos hCondition]
    exact h hCondition
  · rw [if_neg hCondition]
    rfl

theorem Ends.found {value : Option α} (hError : Q (.error failure) start)
    (h : ∀ a, value = some a → Ends (next a) start Q) : Ends (found value failure >>= next) start Q := by
  apply Ends.bind
  cases value with
  | none => exact hError
  | some a => exact h a rfl

theorem Ends.attempt {value : Except ε α} (hError : ∀ failure, value = .error failure → Q (.error failure) start)
    (h : ∀ a, value = .ok a → Ends (next a) start Q) : Ends (attempt value >>= next) start Q := by
  apply Ends.bind
  cases value with
  | error failure => exact hError failure rfl
  | ok a => exact h a rfl

theorem Ends.found_some {value : Option α} {a : α} (hValue : value = some a) (h : Ends (next a) start Q) :
    Ends (Section.found value failure >>= next) start Q := by
  subst hValue
  exact h

theorem Ends.attempt_ok {value : Except ε α} {a : α} (hValue : value = .ok a) (h : Ends (next a) start Q) :
    Ends (Section.attempt value >>= next) start Q := by
  subst hValue
  exact h

theorem ends_map {f : α → β} :
    Ends (f <$> body) start Q ↔ Ends body start (fun reply state => Q (reply.map f) state) := by
  rw [map_eq_pure_bind, ends_bind]
  unfold Ends
  cases (body.exec start).1 with
  | ok => exact Iff.rfl
  | error => exact Iff.rfl

theorem Ends.get {next : σ → Section ε σ β} (h : Ends (next start) start Q) :
    Ends (MonadState.get >>= next) start Q := h

theorem Ends.set {state : σ} {next : PUnit → Section ε σ β} (h : Ends (next ⟨⟩) state Q) :
    Ends (MonadStateOf.set state >>= next) start Q := h

theorem Ends.modify {change : σ → σ} {next : PUnit → Section ε σ β} (h : Ends (next ⟨⟩) (change start) Q) :
    Ends (modify change >>= next) start Q := h

end Section

end AiopsSystem.Go
