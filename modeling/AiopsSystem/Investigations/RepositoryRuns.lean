import AiopsSystem.Investigations.RepositoryGrowth

/-! # Runs of the repository

Every event of a run leaves the state alone, drops a pointer, or makes one
write. The rules below carry an invariant of writes and a relation between
their ends over a whole run.
-/

namespace AiopsSystem.Investigations

open Go Go.Section

structure KeyedRequest where
  operation : Operation
  key : ScopeKey
  requestHash : GoString

/-- The key, the operation and the request hash of a call whose arguments are valid, none for a call without a key. -/
def Call.keyedRequest (encoding : Encoding) : Call → Option (Except RepositoryError KeyedRequest)
  | .registerSignal _ | .correlateSignal _ => none
  | .createOrGetInvestigation request => some ((createArguments encoding request).map (fun (_, requestHash) =>
      ⟨.createInvestigation, scopeKey request.workspaceID request.idempotencyKey, requestHash⟩))
  | .completeTask request => some ((completeArguments encoding request).map (fun requestHash =>
      ⟨.completeTask, scopeKey request.workspaceID request.idempotencyKey, requestHash⟩))
  | .startModel request => some ((startModelArguments encoding request).map (fun requestHash =>
      ⟨.startModel, scopeKey request.workspaceID request.idempotencyKey, requestHash⟩))
  | .finalizeInvestigation request => some ((finalizeArguments encoding request).map (fun (_, requestHash) =>
      ⟨.finalizeInvestigation, scopeKey request.workspaceID request.idempotencyKey, requestHash⟩))
  | .failInvestigation request => some ((failArguments encoding request).map (fun requestHash =>
      ⟨.failInvestigation, scopeKey request.workspaceID request.idempotencyKey, requestHash⟩))
  | .recordFeedback request => some ((feedbackArguments encoding request).map (fun (_, requestHash) =>
      ⟨.recordFeedback, scopeKey request.workspaceID request.idempotencyKey, requestHash⟩))

def Handles (request : KeyedRequest) (repository : Repository) (reply : Reply) (repository' : Repository) : Prop :=
  (repository.replay request.operation request.key request.requestHash = some reply ∧ repository' = repository) ∨
    repository.Free request.operation request.key ∧
      Settles request.operation request.key request.requestHash repository reply repository'

def Treats (request : Except RepositoryError KeyedRequest) (repository : Repository) (reply : Reply)
    (repository' : Repository) : Prop :=
  match request with
  | .error failure => reply = .error failure ∧ repository' = repository
  | .ok request => Handles request repository reply repository'

section Sections

variable {encoding : Encoding} {env : Environment} {repository : Repository}

variable {requestHash : GoString}

theorem idempotent_handles {operation : Operation} {key : ScopeKey} {first : Repository → Locked Answer}
    (h : repository.Free operation key →
      Ends (first repository) repository (Settles operation key requestHash repository)) :
    Ends (idempotent operation key requestHash first) repository
      (Handles ⟨operation, key, requestHash⟩ repository) := by
  unfold idempotent
  refine Ends.get ?_
  cases hReplay : repository.replay operation key requestHash with
  | some reply =>
    cases reply with
    | ok => exact Ends.pure (.inl ⟨hReplay, rfl⟩)
    | error => exact Ends.throw (.inl ⟨hReplay, rfl⟩)
  | none =>
    have hFree := Repository.replay_eq_none.mp hReplay
    exact (h hFree).mono fun _ _ hSettles => .inr ⟨hFree, hSettles⟩

theorem keyed_ends {α : Type} {arguments : Except RepositoryError α} {next : α → Locked Answer}
    {identify : α → KeyedRequest} (hNext : ∀ value, arguments = .ok value →
      Ends (next value) repository (Handles (identify value) repository)) :
    Ends (attempt arguments >>= next) repository (Treats (arguments.map identify) repository) := by
  cases arguments with
  | error => exact Ends.attempt (fun _ h => by cases h; exact ⟨rfl, rfl⟩) fun _ h => by cases h
  | ok value => exact Ends.attempt (fun _ h => by cases h) fun _ h => by cases h; exact hNext value rfl

theorem body_of_completeArguments {request : CompleteTaskRequest}
    (h : completeArguments encoding request = .ok requestHash) : validCompletionBody encoding request := by
  simp only [completeArguments, normalizeCompleteTaskRequest, bind_eq_ok, require_eq_ok] at h
  obtain ⟨_, _, _, hBody, _⟩ := h
  exact hBody

theorem semantics_of_finalizeArguments {request : FinalizeInvestigationRequest}
    {result : List HypothesisSpec × GoString} (h : finalizeArguments encoding request = .ok result) :
    validFinalizationSemantics request := by
  simp only [finalizeArguments, normalizeFinalizeInvestigationRequest, bind_eq_ok, require_eq_ok] at h
  obtain ⟨_, _, _, hSemantics, _⟩ := h
  exact hSemantics

theorem locked_handles (hSound : Sound repository) {call : Call} {request : Except RepositoryError KeyedRequest}
    (hCall : call.keyedRequest encoding = some request) :
    Ends (locked encoding env call) repository (Treats request repository) := by
  cases call with
  | registerSignal | correlateSignal => cases hCall
  | createOrGetInvestigation =>
    cases hCall
    refine keyed_ends ?_
    rintro ⟨_, requestHash⟩ _
    exact idempotent_handles fun hFree => createOrJoin_settles hFree hSound.investigations
  | completeTask =>
    cases hCall
    refine keyed_ends fun requestHash hArguments => ?_
    exact idempotent_handles fun hFree => completeTaskOnce_settles hFree (body_of_completeArguments hArguments)
  | startModel =>
    cases hCall
    refine keyed_ends fun requestHash _ => ?_
    exact idempotent_handles fun hFree => startModelOnce_settles hFree
  | finalizeInvestigation =>
    cases hCall
    refine keyed_ends ?_
    rintro ⟨_, requestHash⟩ hArguments
    exact idempotent_handles (fun hFree =>
      finalizeInvestigationOnce_settles hFree (semantics_of_finalizeArguments hArguments))
  | failInvestigation =>
    cases hCall
    refine keyed_ends fun requestHash _ => ?_
    exact idempotent_handles fun hFree => failInvestigationOnce_settles hFree hSound.investigations
  | recordFeedback =>
    cases hCall
    refine keyed_ends ?_
    rintro ⟨_, requestHash⟩ _
    exact idempotent_handles fun hFree => recordFeedbackOnce_settles hFree

/-- A section that returns an error changes no record; any other makes at most one write. -/
def Moves (repository : Repository) (reply : Reply) (repository' : Repository) : Prop :=
  match reply with
  | .error _ => Quiet repository repository'
  | .ok _ => repository' = repository ∨ Written repository repository'

theorem Handles.moves {request : KeyedRequest} {reply : Reply} {repository' : Repository}
    (h : Handles request repository reply repository') : Moves repository reply repository' := by
  rcases h with ⟨_, rfl⟩ | ⟨_, h⟩
  · cases reply with
    | error => exact .inl rfl
    | ok => exact .inl rfl
  · cases reply with
    | error => exact h
    | ok => exact .inr h.1

theorem locked_moves (hSound : Sound repository) (call : Call) :
    Ends (locked encoding env call) repository (Moves repository) := by
  cases hCall : call.keyedRequest encoding with
  | some request =>
    refine (locked_handles hSound hCall).mono fun reply repository' h => ?_
    cases request with
    | error =>
      obtain ⟨rfl, rfl⟩ := h
      exact .inl rfl
    | ok => exact h.moves
  | none =>
    cases call with
    | registerSignal =>
      refine ends_map.mpr (registerSignal_ends.mono (fun reply repository' h => ?_))
      cases reply with
      | error => exact .inl h.2
      | ok => exact h.2.imp_right Write.written
    | correlateSignal =>
      refine ends_map.mpr (correlateSignal_correlates.mono (fun reply repository' h => ?_))
      cases reply with
      | error => exact h
      | ok => exact h.1
    | _ => cases hCall

end Sections

section Runs

variable (encoding : Encoding)

variable {repository : Repository} {P : Repository → Prop}

theorem step_moves (hSound : Sound repository) (event : Event) : match (repository.step encoding event).1 with
    | none => (repository.step encoding event).2 = repository
    | some reply => Moves repository reply (repository.step encoding event).2 := by
  cases event with
  | begin call contextDone =>
    have hSame : (repository.step encoding (.begin call contextDone)).2 = repository := rfl
    cases (repository.step encoding (.begin call contextDone)).1 with
    | none => exact hSame
    | some reply =>
      cases reply with
      | error => exact .inl hSame
      | ok => exact .inl hSame
  | commit call => exact locked_moves hSound call

theorem step_cases (hSound : Sound repository) (event : Event) :
    Quiet repository (repository.step encoding event).2 ∨ Written repository (repository.step encoding event).2 := by
  have hMoves := step_moves encoding hSound event
  cases hReply : (repository.step encoding event).1 with
  | none =>
    rw [hReply] at hMoves
    exact .inl (.inl hMoves)
  | some reply =>
    rw [hReply] at hMoves
    cases reply with
    | error => exact .inl hMoves
    | ok => exact hMoves.imp_left .inl

theorem sound_newRepository : Sound newRepository where
  signals := GoMap.keyed_empty _
  incidents := GoMap.keyed_empty _
  investigations := GoMap.keyed_empty _
  tasks := GoMap.keyed_empty _
  hypotheses := GoMap.keyed_empty _
  evidence := GoMap.keyed_empty _
  receipts := GoMap.keyed_empty _
  feedback := GoMap.keyed_empty _
  taskLists _ _ h := by cases h
  listed _ _ h := by cases h
  owned operation key h := by cases operation <;> cases h

theorem step_kept (hDrop : ∀ before after, Sound before → Drop before after → P before → P after)
    (hWrite : ∀ before after, Sound before → Write before after → P before → P after)
    (event : Event) (h : Sound repository ∧ P repository) :
    Sound (repository.step encoding event).2 ∧ P (repository.step encoding event).2 := by
  have hQuiet : ∀ after, Quiet repository after → Sound after ∧ P after := by
    intro after hAfter
    refine ⟨hAfter.sound h.1, ?_⟩
    rcases hAfter with rfl | hAfter
    · exact h.2
    · exact hDrop repository after h.1 hAfter h.2
  rcases step_cases encoding h.1 event with hAfter | ⟨between, hBetween, hWritten⟩
  · exact hQuiet _ hAfter
  · obtain ⟨hSound, hP⟩ := hQuiet between hBetween
    exact ⟨(hWritten.keeps hSound).2, hWrite between _ hSound hWritten hP⟩

theorem stateAt_kept (hInit : P newRepository)
    (hDrop : ∀ before after, Sound before → Drop before after → P before → P after)
    (hWrite : ∀ before after, Sound before → Write before after → P before → P after) (events : List Event) (n : Nat) :
    P ((machine encoding).stateAt events n) :=
  ((machine encoding).stateAt_invariant (P := fun repository => Sound repository ∧ P repository)
    ⟨sound_newRepository, hInit⟩ (fun _ event h => step_kept encoding hDrop hWrite event h) events n).2

theorem stateAt_sound (events : List Event) (n : Nat) : Sound ((machine encoding).stateAt events n) :=
  (machine encoding).stateAt_invariant sound_newRepository (fun _ event h =>
    (step_kept encoding (P := fun _ => True) (fun _ _ _ _ _ => trivial) (fun _ _ _ _ _ => trivial) event
      ⟨h, trivial⟩).1) events n

theorem step_extends (hSound : Sound repository) (event : Event) :
    Extends repository (repository.step encoding event).2 := by
  rcases step_cases encoding hSound event with hQuiet | ⟨between, hQuiet, hWrite⟩
  · exact hQuiet.extends
  · exact hQuiet.extends.trans (hWrite.keeps (hQuiet.sound hSound)).1

theorem stateAt_extends (events : List Event) {m n : Nat} (h : m ≤ n) :
    Extends ((machine encoding).stateAt events m) ((machine encoding).stateAt events n) :=
  (machine encoding).stateAt_related (stateAt_sound encoding) Extends.refl (fun _ _ _ => .trans)
    (fun _ event hSound => step_extends encoding hSound event) events h

/-- Every state of a history is sound, and a later one keeps all of its records. -/
theorem repository_stays_sound_and_grows (events : List Event) (m k : Nat) :
    Sound ((machine encoding).stateAt events m) ∧
      Extends ((machine encoding).stateAt events m) ((machine encoding).stateAt events (m + k)) :=
  ⟨stateAt_sound encoding events m, stateAt_extends encoding events (Nat.le_add_right m k)⟩

end Runs

end AiopsSystem.Investigations
