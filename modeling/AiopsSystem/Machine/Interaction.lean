import Mathlib.Data.List.Sublists

/-! # Programs that call their dependencies

A program is the tree of the calls it makes and of what it does with every
answer; nothing is assumed about the answers. A run is one path through the
tree: the events, each a call with its answer, and the value returned. `Only`
says which calls a program can make at all, whatever the answers are.
-/

namespace AiopsSystem

structure Interface where
  Request : Type
  Response : Request → Type

structure Event (I : Interface) where
  request : I.Request
  response : I.Response request

inductive Program (I : Interface) (α : Type) : Type where
  | done (value : α)
  | call (request : I.Request) (next : I.Response request → Program I α)

namespace Program

variable {I : Interface} {α β ε : Type}

def bind (program : Program I α) (next : α → Program I β) : Program I β :=
  match program with
  | done value => next value
  | call request rest => call request (fun response => (rest response).bind next)

instance : Monad (Program I) where
  pure := done
  bind := bind

def perform (request : I.Request) : Program I (I.Response request) := call request done

def Runs : Program I α → List (Event I) → α → Prop
  | done value, trace, result => trace = [] ∧ result = value
  | call request next, trace, result =>
    ∃ response rest, trace = ⟨request, response⟩ :: rest ∧ Runs (next response) rest result

theorem runs_perform {request : I.Request} {trace : List (Event I)} {result : I.Response request} :
    Runs (perform request) trace result ↔ trace = [⟨request, result⟩] := by
  constructor
  · rintro ⟨_, _, rfl, rfl, rfl⟩
    rfl
  · rintro rfl
    exact ⟨result, [], rfl, rfl, rfl⟩

theorem runs_bind {program : Program I α} {next : α → Program I β} {trace : List (Event I)} {result : β} :
    Runs (program >>= next) trace result ↔
      ∃ value first rest, trace = first ++ rest ∧ Runs program first value ∧ Runs (next value) rest result := by
  induction program generalizing trace with
  | done value =>
    constructor
    · intro h
      exact ⟨value, [], trace, rfl, ⟨rfl, rfl⟩, h⟩
    · rintro ⟨_, _, rest, rfl, ⟨rfl, rfl⟩, h⟩
      exact h
  | call request _ ih =>
    constructor
    · rintro ⟨response, rest, rfl, h⟩
      obtain ⟨value, first, last, rfl, hFirst, hLast⟩ := (ih response).mp h
      exact ⟨value, ⟨request, response⟩ :: first, last, rfl, ⟨response, first, rfl, hFirst⟩, hLast⟩
    · rintro ⟨value, _, last, rfl, ⟨response, first, rfl, hFirst⟩, hLast⟩
      exact ⟨response, first ++ last, rfl, (ih response).mpr ⟨value, first, last, rfl, hFirst, hLast⟩⟩

abbrev Behaviour (I : Interface) := Nat → (request : I.Request) → I.Response request

def execute (behaviour : Behaviour I) : Nat → Program I α → List (Event I) × α
  | _, done value => ([], value)
  | n, call request next =>
    let response := behaviour n request
    let (trace, value) := execute behaviour (n + 1) (next response)
    (⟨request, response⟩ :: trace, value)

theorem runs_execute (behaviour : Behaviour I) (n : Nat) (program : Program I α) :
    Runs program (program.execute behaviour n).1 (program.execute behaviour n).2 := by
  induction program generalizing n with
  | done => exact ⟨rfl, rfl⟩
  | call _ _ ih => exact ⟨_, _, rfl, ih _ (n + 1)⟩

def Only (allowed : I.Request → Prop) : Program I α → Prop
  | done _ => True
  | call request next => allowed request ∧ ∀ response, Only allowed (next response)

section Only

variable {allowed : I.Request → Prop}

@[simp] theorem only_pure (value : α) : Only allowed (pure value : Program I α) := trivial

@[simp] theorem only_perform (request : I.Request) : Only allowed (perform request) ↔ allowed request :=
  and_iff_left (fun _ => trivial)

variable {program : Program I α}

variable {next : α → Program I β}

theorem only_bind_of_runs (h : Only allowed program)
    (hNext : ∀ trace value, Runs program trace value → Only allowed (next value)) :
    Only allowed (program >>= next) := by
  induction program with
  | done value => exact hNext [] value ⟨rfl, rfl⟩
  | call request _ ih =>
    refine ⟨h.1, fun response => ih response (h.2 response) ?_⟩
    intro trace value hRuns
    exact hNext (⟨request, response⟩ :: trace) value ⟨response, trace, rfl, hRuns⟩

theorem only_bind (h : Only allowed program) (hNext : ∀ value, Only allowed (next value)) :
    Only allowed (program >>= next) :=
  only_bind_of_runs h (fun _ value _ => hNext value)

theorem Only.mono {allowed' : I.Request → Prop} (h : Only allowed program)
    (hAllowed : ∀ request, allowed request → allowed' request) : Only allowed' program := by
  induction program with
  | done => trivial
  | call request _ ih => exact ⟨hAllowed request h.1, fun response => ih response (h.2 response)⟩

theorem Only.trace (h : Only allowed program) {trace : List (Event I)} {result : α}
    (hRuns : Runs program trace result) : ∀ event ∈ trace, allowed event.request := by
  induction program generalizing trace with
  | done =>
    obtain ⟨rfl, _⟩ := hRuns
    intro event hEvent
    cases hEvent
  | call _ _ ih =>
    obtain ⟨response, _, rfl, hRest⟩ := hRuns
    intro event hEvent
    rcases List.mem_cons.mp hEvent with rfl | hEvent
    · exact h.1
    · exact ih response (h.2 response) hRest event hEvent

end Only

section AtMost

variable {kind : I.Request → Bool} {limit : Nat}

def AtMost (kind : I.Request → Bool) (limit : Nat) (program : Program I α) : Prop :=
  ∀ trace result, Runs program trace result → trace.countP (fun event => kind event.request) ≤ limit

variable {program : Program I α}

theorem atMost_of_only (h : Only (fun request => kind request = false) program) : AtMost kind 0 program := by
  intro trace _ hRuns
  rw [Nat.le_zero, List.countP_eq_zero]
  intro event hEvent
  rw [h.trace hRuns event hEvent]
  exact Bool.false_ne_true

theorem atMost_one_call {request : I.Request} {next : I.Response request → Program I α}
    (h : ∀ response, Only (fun request => kind request = false) (next response)) :
    AtMost kind 1 (call request next) := by
  rintro _ result ⟨response, rest, rfl, hRest⟩
  have hNone := atMost_of_only (h response) rest result hRest
  rw [List.countP_cons]
  split <;> omega

variable {next : α → Program I β}

theorem atMost_quiet_bind (h : Only (fun request => kind request = false) program)
    (hNext : ∀ value, AtMost kind limit (next value)) : AtMost kind limit (program >>= next) := by
  intro _ result hRuns
  obtain ⟨value, first, rest, rfl, hFirst, hRest⟩ := runs_bind.mp hRuns
  rw [List.countP_append, Nat.le_zero.mp (atMost_of_only h first value hFirst), Nat.zero_add]
  exact hNext value rest result hRest

theorem atMost_bind_quiet (h : AtMost kind limit program)
    (hNext : ∀ value, Only (fun request => kind request = false) (next value)) :
    AtMost kind limit (program >>= next) := by
  intro _ result hRuns
  obtain ⟨value, first, rest, rfl, hFirst, hRest⟩ := runs_bind.mp hRuns
  rw [List.countP_append, Nat.le_zero.mp (atMost_of_only (hNext value) rest result hRest), Nat.add_zero]
  exact h first value hFirst

end AtMost

def Justified (P : List (Event I) → Event I → Prop) : List (Event I) → List (Event I) → Prop
  | _, [] => True
  | past, event :: rest => P past event ∧ Justified P (past ++ [event]) rest

section Justified

variable {P : List (Event I) → Event I → Prop}

theorem justified_append {past first rest : List (Event I)} :
    Justified P past (first ++ rest) ↔ Justified P past first ∧ Justified P (past ++ first) rest := by
  induction first generalizing past with
  | nil => simp [Justified]
  | cons _ _ ih => simp [Justified, ih, and_assoc]

theorem Justified.at {past before after : List (Event I)} {event : Event I}
    (h : Justified P past (before ++ event :: after)) : P (past ++ before) event :=
  (justified_append.mp h).2.1

theorem Justified.countP_le_one {kind : Event I → Bool} {trace : List (Event I)} (h : Justified P [] trace)
    (hFirst : ∀ past event, P past event → kind event → ∀ other ∈ past, kind other = false) :
    trace.countP kind ≤ 1 := by
  by_contra hMany
  have hFound : ∃ event ∈ trace, kind event := List.countP_pos_iff.mp (by omega)
  obtain ⟨event, hEvent, hKind⟩ := hFound
  -- Take the last event of the kind; the others are before it.
  obtain ⟨before, last, after, rfl, hLast, hAfter⟩ : ∃ before last after, trace = before ++ last :: after ∧
      kind last ∧ ∀ other ∈ after, kind other = false := by
    clear hMany h
    induction trace generalizing event with
    | nil => cases hEvent
    | cons first rest ih =>
      by_cases hRest : ∃ other ∈ rest, kind other
      · obtain ⟨other, hOther, hOtherKind⟩ := hRest
        obtain ⟨before, last, after, rfl, hLast, hAfter⟩ := ih other hOther hOtherKind
        exact ⟨first :: before, last, after, rfl, hLast, hAfter⟩
      · have hNone : ∀ other ∈ rest, kind other = false := by
          intro other hOther
          exact Bool.eq_false_iff.mpr fun hOtherKind => hRest ⟨other, hOther, hOtherKind⟩
        rcases List.mem_cons.mp hEvent with rfl | hEvent
        · exact ⟨[], event, rest, rfl, hKind, hNone⟩
        · exact absurd ⟨event, hEvent, hKind⟩ hRest
  have hBefore : before.countP kind = 0 := by
    rw [List.countP_eq_zero]
    intro other hOther
    exact Bool.eq_false_iff.mp (hFirst before last h.at hLast other hOther)
  have hRest : after.countP kind = 0 := by
    rw [List.countP_eq_zero]
    intro other hOther
    exact Bool.eq_false_iff.mp (hAfter other hOther)
  rw [List.countP_append, List.countP_cons, hBefore, hRest] at hMany
  simp [hLast] at hMany

end Justified

/-- After this past, every run keeps its events justified and ends in the postcondition. -/
def Safe (P : List (Event I) → Event I → Prop) (past : List (Event I)) (program : Program I α)
    (post : List (Event I) → α → Prop) : Prop :=
  ∀ trace result, Runs program trace result → Justified P past trace ∧ post (past ++ trace) result

section Safe

variable {P : List (Event I) → Event I → Prop} {past : List (Event I)}

variable {post : List (Event I) → α → Prop} {allowed : I.Request → Prop}

theorem safe_pure {value : α} (h : post past value) : Safe P past (pure value) post := by
  rintro _ _ ⟨rfl, rfl⟩
  rw [List.append_nil]
  exact ⟨trivial, h⟩

theorem safe_perform {request : I.Request} {post : List (Event I) → I.Response request → Prop}
    (h : ∀ response, P past ⟨request, response⟩ ∧ post (past ++ [⟨request, response⟩]) response) :
    Safe P past (perform request) post := by
  intro _ result hRuns
  rw [runs_perform] at hRuns
  subst hRuns
  exact ⟨⟨(h result).1, trivial⟩, (h result).2⟩

variable {program : Program I α}

theorem safe_bind {next : α → Program I β} {post : List (Event I) → β → Prop}
    (h : Safe P past program (fun past' value => Safe P past' (next value) post)) :
    Safe P past (program >>= next) post := by
  intro _ result hRuns
  obtain ⟨value, first, rest, rfl, hFirst, hRest⟩ := runs_bind.mp hRuns
  obtain ⟨hJustified, hNext⟩ := h first value hFirst
  obtain ⟨hJustified', hPost⟩ := hNext rest result hRest
  rw [← List.append_assoc]
  exact ⟨justified_append.mpr ⟨hJustified, hJustified'⟩, hPost⟩

theorem Safe.only (h : Safe P past program post) (hOnly : Only allowed program) :
    Safe P past program (fun past' result => post past' result ∧
      ∃ made, past' = past ++ made ∧ ∀ event ∈ made, allowed event.request) :=
  fun trace result hRuns => ⟨(h trace result hRuns).1, (h trace result hRuns).2, trace, rfl, hOnly.trace hRuns⟩

theorem Safe.mono {post post' : List (Event I) → α → Prop} (h : Safe P past program post)
    (hPost : ∀ past' result, post past' result → post' past' result) : Safe P past program post' :=
  fun trace result hRuns => ⟨(h trace result hRuns).1, hPost _ _ (h trace result hRuns).2⟩

theorem safe_of_only (hOnly : Only allowed program)
    (hP : ∀ first event, (∀ other ∈ first, allowed other.request) → allowed event.request → P (past ++ first) event)
    (hPost : ∀ trace result, Runs program trace result → (∀ event ∈ trace, allowed event.request) →
      post (past ++ trace) result) :
    Safe P past program post := by
  intro trace result hRuns
  have hAllowed := hOnly.trace hRuns
  refine ⟨?_, hPost trace result hRuns hAllowed⟩
  suffices h : ∀ first rest, (∀ other ∈ first ++ rest, allowed other.request) → Justified P (past ++ first) rest by
    simpa using h [] trace hAllowed
  intro first rest hAll
  induction rest generalizing first with
  | nil => trivial
  | cons event _ ih =>
    refine ⟨hP first event (fun other hOther => hAll other (List.mem_append_left _ hOther)) ?_, ?_⟩
    · exact hAll event (List.mem_append_right _ List.mem_cons_self)
    · rw [List.append_assoc]
      exact ih (first ++ [event]) (by simpa using hAll)

end Safe

end Program

abbrev Stage (I : Interface) (ε α : Type) := ExceptT ε (Program I) α

namespace Stage

open Program

variable {I : Interface} {ε α β φ : Type}

/-- `return` out of the stage -/
def leave (exit : Program I ε) : Program I (Except ε α) := exit >>= fun outcome => pure (.error outcome)

/-- `value, err := call; if err != nil { return exit(err) }` -/
def attemptOr (body : Program I (Except φ α)) (exit : φ → Program I ε) : Stage I ε α :=
  ExceptT.mk (body >>= fun answer =>
    match answer with
    | .ok value => pure (.ok value)
    | .error failure => leave (exit failure))

/-- `if !condition { return exit }` -/
def check (condition : Prop) [Decidable condition] (exit : Program I ε) : Stage I ε Unit :=
  ExceptT.mk (if condition then pure (.ok ()) else leave exit)

section Success

variable {trace : List (Event I)}

variable {stage : Stage I ε α}

variable {next : α → Stage I ε β} {exit : Program I ε}

theorem runs_ok_bind {result : β} : Runs (stage >>= next : Stage I ε β).run trace (.ok result) ↔
      ∃ value first rest, trace = first ++ rest ∧ Runs stage.run first (.ok value) ∧
        Runs (next value).run rest (.ok result) := by
  change Runs (stage.run >>= ExceptT.bindCont next) trace (.ok result) ↔ _
  rw [runs_bind]
  constructor
  · rintro ⟨value | value, first, rest, rfl, hFirst, hRest⟩
    · obtain ⟨_, hResult⟩ := hRest
      cases hResult
    · exact ⟨value, first, rest, rfl, hFirst, hRest⟩
  · rintro ⟨value, first, rest, rfl, hFirst, hRest⟩
    exact ⟨.ok value, first, rest, rfl, hFirst, hRest⟩

variable {value result : α}

theorem runs_ok_pure : Runs (pure value : Stage I ε α).run trace (.ok result) ↔ trace = [] ∧ result = value := by
  change trace = [] ∧ Except.ok result = Except.ok value ↔ _
  rw [Except.ok.injEq]

theorem not_runs_leave : ¬ Runs (leave exit) trace (.ok result) := by
  unfold leave
  rw [runs_bind]
  rintro ⟨_, _, _, _, _, _, hResult⟩
  cases hResult

theorem runs_ok_attemptOr {body : Program I (Except φ α)} {exit : φ → Program I ε} :
    Runs (attemptOr body exit).run trace (.ok result) ↔ Runs body trace (.ok result) := by
  unfold attemptOr ExceptT.run ExceptT.mk
  rw [runs_bind]
  constructor
  · rintro ⟨_ | _, _, _, rfl, hFirst, hRest⟩
    · exact absurd hRest not_runs_leave
    · obtain ⟨rfl, hResult⟩ := hRest
      cases hResult
      rw [List.append_nil]
      exact hFirst
  · intro h
    exact ⟨.ok result, trace, [], (List.append_nil trace).symm, h, rfl, rfl⟩

theorem runs_ok_check {condition : Prop} [Decidable condition] {result : Unit} :
    Runs (check condition exit).run trace (.ok result) ↔ trace = [] ∧ condition := by
  unfold check ExceptT.run ExceptT.mk
  by_cases h : condition
  · rw [if_pos h]
    exact ⟨fun hRuns => ⟨hRuns.1, h⟩, fun hRuns => ⟨hRuns.1, rfl⟩⟩
  · rw [if_neg h]
    exact ⟨fun hRuns => absurd hRuns not_runs_leave, fun hRuns => absurd hRuns.2 h⟩

theorem runs_ok_lift {program : Program I α} :
    Runs (liftM program : Stage I ε α).run trace (.ok result) ↔ Runs program trace result := by
  change Runs (program >>= fun value => pure (Except.ok value : Except ε α)) trace (Except.ok result) ↔ _
  rw [runs_bind]
  constructor
  · rintro ⟨value, _, _, rfl, hFirst, rfl, hResult⟩
    cases hResult
    rw [List.append_nil]
    exact hFirst
  · intro h
    exact ⟨result, trace, [], (List.append_nil trace).symm, h, rfl, rfl⟩

def Returns (stage : Stage I ε α) (post : α → Prop) : Prop :=
  ∀ trace value, Runs stage.run trace (.ok value) → post value

theorem Returns.apply (post : α → Prop) (hRuns : Runs stage.run trace (.ok value)) (h : Returns stage post) :
    post value :=
  h trace value hRuns

theorem returns_pure {post : α → Prop} (h : post value) : Returns (pure value : Stage I ε α) post := by
  intro _ _ hRuns
  rw [(runs_ok_pure.mp hRuns).2]
  exact h

theorem returns_bind {post : β → Prop} (h : ∀ value, Returns (next value) post) : Returns (stage >>= next) post := by
  intro _ result hRuns
  obtain ⟨value, _, rest, _, _, hRest⟩ := runs_ok_bind.mp hRuns
  exact h value rest result hRest

end Success

section Leaves

variable {trace : List (Event I)} {outcome : ε}

variable {next : α → Stage I ε β} {stage : Stage I ε α} {condition : Prop} {body : Program I (Except φ α)}
  {program : Program I α}

theorem runs_error_bind : Runs (stage >>= next : Stage I ε β).run trace (.error outcome) ↔
      Runs stage.run trace (.error outcome) ∨ ∃ value first rest, trace = first ++ rest ∧
        Runs stage.run first (.ok value) ∧ Runs (next value).run rest (.error outcome) := by
  change Runs (stage.run >>= ExceptT.bindCont next) trace (.error outcome) ↔ _
  rw [runs_bind]
  constructor
  · rintro ⟨_ | value, first, rest, rfl, hFirst, hRest⟩
    · obtain ⟨rfl, hOutcome⟩ := hRest
      cases hOutcome
      rw [List.append_nil]
      exact .inl hFirst
    · exact .inr ⟨value, first, rest, rfl, hFirst, hRest⟩
  · rintro (h | ⟨value, first, rest, rfl, hFirst, hRest⟩)
    · exact ⟨.error outcome, trace, [], (List.append_nil trace).symm, h, rfl, rfl⟩
    · exact ⟨.ok value, first, rest, rfl, hFirst, hRest⟩

variable {exit : Program I ε}

theorem runs_leave : Runs (leave exit : Program I (Except ε α)) trace (.error outcome) ↔ Runs exit trace outcome := by
  unfold leave
  rw [runs_bind]
  constructor
  · rintro ⟨_, _, _, rfl, hFirst, rfl, hOutcome⟩
    cases hOutcome
    rw [List.append_nil]
    exact hFirst
  · intro h
    exact ⟨outcome, trace, [], (List.append_nil trace).symm, h, rfl, rfl⟩

theorem runs_error_check [Decidable condition] :
    Runs (check condition exit).run trace (.error outcome) ↔ ¬ condition ∧ Runs exit trace outcome := by
  unfold check ExceptT.run ExceptT.mk
  by_cases h : condition
  · rw [if_pos h]
    constructor
    · rintro ⟨_, hOutcome⟩
      cases hOutcome
    · rintro ⟨hNot, _⟩
      exact absurd h hNot
  · rw [if_neg h, runs_leave]
    exact (and_iff_right h).symm

theorem runs_error_attemptOr {exit : φ → Program I ε} :
    Runs (attemptOr body exit).run trace (.error outcome) ↔ ∃ failure first rest, trace = first ++ rest ∧
      Runs body first (.error failure) ∧ Runs (exit failure) rest outcome := by
  unfold attemptOr ExceptT.run ExceptT.mk
  rw [runs_bind]
  constructor
  · rintro ⟨failure | _, first, rest, rfl, hFirst, hRest⟩
    · exact ⟨failure, first, rest, rfl, hFirst, runs_leave.mp hRest⟩
    · cases hRest.2
  · rintro ⟨failure, first, rest, rfl, hFirst, hRest⟩
    exact ⟨.error failure, first, rest, rfl, hFirst, runs_leave.mpr hRest⟩

theorem not_runs_error_lift : ¬ Runs (liftM program : Stage I ε α).run trace (.error outcome) := by
  change ¬ Runs (program >>= fun value => pure (Except.ok value : Except ε α)) trace (Except.error outcome)
  rw [runs_bind]
  rintro ⟨value, _, _, _, _, _, hOutcome⟩
  cases hOutcome

theorem not_runs_error_pure {value : α} : ¬ Runs (pure value : Stage I ε α).run trace (.error outcome) := by
  rintro ⟨_, hOutcome⟩
  cases hOutcome

/-- Every early return satisfies a predicate of the events and the value returned. -/
def Leaves (post : List (Event I) → ε → Prop) (stage : Stage I ε α) : Prop :=
  ∀ trace outcome, Runs stage.run trace (.error outcome) → post trace outcome

variable {post : List (Event I) → ε → Prop}

theorem leaves_bind
    (hLater : ∀ first rest outcome, post rest outcome → post (first ++ rest) outcome) (h : Leaves post stage)
    (hNext : ∀ value, Leaves post (next value)) : Leaves post (stage >>= next) := by
  intro trace outcome hRuns
  rcases runs_error_bind.mp hRuns with hRuns | ⟨value, first, rest, rfl, _, hRest⟩
  · exact h trace outcome hRuns
  · exact hLater first rest outcome (hNext value rest outcome hRest)

theorem leaves_check [Decidable condition]
    (h : ∀ trace outcome, Runs exit trace outcome → post trace outcome) : Leaves post (check condition exit) :=
  fun trace outcome hRuns => h trace outcome (runs_error_check.mp hRuns).2

theorem leaves_attemptOr {exit : φ → Program I ε}
    (hLater : ∀ first rest outcome, post rest outcome → post (first ++ rest) outcome)
    (h : ∀ failure trace outcome, Runs (exit failure) trace outcome → post trace outcome) :
    Leaves post (attemptOr body exit) := by
  intro trace outcome hRuns
  obtain ⟨failure, first, rest, rfl, _, hRest⟩ := runs_error_attemptOr.mp hRuns
  exact hLater first rest outcome (h failure rest outcome hRest)

theorem leaves_lift : Leaves post (liftM program : Stage I ε α) :=
  fun _ _ hRuns => absurd hRuns not_runs_error_lift

theorem leaves_pure {value : α} : Leaves post (pure value : Stage I ε α) :=
  fun _ _ hRuns => absurd hRuns not_runs_error_pure

end Leaves

section AtMost

variable {kind : I.Request → Bool} {limit : Nat}

variable {next : α → Stage I ε β} {stage : Stage I ε α}

theorem atMost_quiet_bind
    (h : Only (fun request => kind request = false) stage.run) (hNext : ∀ value, AtMost kind limit (next value).run) :
    AtMost kind limit (stage >>= next : Stage I ε β).run := by
  refine Program.atMost_quiet_bind h ?_
  rintro (failure | value) trace result hRuns
  · obtain ⟨rfl, _⟩ := hRuns
    exact Nat.zero_le _
  · exact hNext value trace result hRuns

theorem atMost_bind_quiet (h : AtMost kind limit stage.run)
    (hNext : ∀ value, Only (fun request => kind request = false) (next value).run) :
    AtMost kind limit (stage >>= next : Stage I ε β).run := by
  refine Program.atMost_bind_quiet h ?_
  rintro (failure | value)
  · trivial
  · exact hNext value

end AtMost

section Only

variable {allowed : I.Request → Prop}

theorem only_pure (value : α) : Only allowed (pure value : Stage I ε α).run := trivial

theorem only_lift {program : Program I α} (h : Only allowed program) : Only allowed (liftM program : Stage I ε α).run :=
  Program.only_bind h (fun _ => trivial)

variable {next : α → Stage I ε β} {stage : Stage I ε α} {exit : Program I ε}

theorem only_bind_of_runs (h : Only allowed stage.run)
    (hNext : ∀ trace value, Runs stage.run trace (.ok value) → Only allowed (next value).run) :
    Only allowed (stage >>= next : Stage I ε β).run := by
  change Only allowed (stage.run >>= ExceptT.bindCont next)
  refine Program.only_bind_of_runs h ?_
  rintro trace (failure | value) hRuns
  · trivial
  · exact hNext trace value hRuns

theorem only_bind (h : Only allowed stage.run)
    (hNext : ∀ value, Only allowed (next value).run) : Only allowed (stage >>= next : Stage I ε β).run :=
  only_bind_of_runs h (fun _ value _ => hNext value)

theorem only_leave (h : Only allowed exit) : Only allowed (leave exit : Program I (Except ε α)) :=
  Program.only_bind h (fun _ => trivial)

theorem only_attemptOr {body : Program I (Except φ α)} {exit : φ → Program I ε} (h : Only allowed body)
    (hExit : ∀ failure, Only allowed (exit failure)) : Only allowed (attemptOr body exit).run := by
  refine Program.only_bind h ?_
  rintro (failure | value)
  · exact only_leave (hExit failure)
  · trivial

theorem only_check {condition : Prop} [Decidable condition] (h : Only allowed exit) :
    Only allowed (check condition exit).run := by
  unfold check ExceptT.run ExceptT.mk
  split
  · trivial
  · exact only_leave h

end Only

end Stage

end AiopsSystem
