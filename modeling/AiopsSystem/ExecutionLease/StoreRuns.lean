import AiopsSystem.ExecutionLease.StoreInvariants
import AiopsSystem.Go.Digest

/-! # Runs of the lease store

The history of an execution is read through three events: the call that started
it, the `Complete` that finished it and the `Reconcile` that decided it.
-/

namespace AiopsSystem.ExecutionLease.Memory

open Go MemoryRepository

section History

variable (sha256 : GoString → GoString) (inputs : List (Call × Environment))

def executionAt (n : Nat) (id : GoString) : Option Execution := ((machine sha256).stateAt inputs n).execution? id

def statusAt (n : Nat) (id : GoString) : Option Status := (executionAt sha256 inputs n id).map (·.status)

/-- The step at this position takes the execution from `LEASED` to `RUNNING`. -/
def StartsAt (n : Nat) (id : GoString) : Prop :=
  statusAt sha256 inputs n id = some .leased ∧ statusAt sha256 inputs (n + 1) id = some .running

def CompletedAt (n : Nat) (id : GoString) : Prop :=
  ∃ call env execution execution', inputs[n]? = some (call, env) ∧
    executionAt sha256 inputs n id = some execution ∧ executionAt sha256 inputs (n + 1) id = some execution' ∧
    Completes call id execution execution'

def ReconciledAt (n : Nat) (id : GoString) : Prop :=
  ∃ call env execution execution', inputs[n]? = some (call, env) ∧
    executionAt sha256 inputs n id = some execution ∧ executionAt sha256 inputs (n + 1) id = some execution' ∧
    Decides call id execution execution'

variable {sha256 inputs} {id : GoString}

variable {n : Nat} {execution : Execution}

theorem executionAt_succ (h : executionAt sha256 inputs n id = some execution) :
    ∃ execution', executionAt sha256 inputs (n + 1) id = some execution' ∧
      (inputs[n]? = none ∧ execution' = execution ∨
        ∃ call env, inputs[n]? = some (call, env) ∧ Progress call id execution execution') := by
  cases hInput : inputs[n]? with
  | none =>
    refine ⟨execution, ?_, .inl ⟨rfl, rfl⟩⟩
    rw [executionAt, Machine.stateAt_succ_of_none _ hInput]
    exact h
  | some input =>
    obtain ⟨call, env⟩ := input
    obtain ⟨execution', hExecution', hProgress⟩ := step_progress (stateAt_sound sha256 inputs n).keyed call env h
    refine ⟨execution', ?_, .inr ⟨call, env, rfl, hProgress⟩⟩
    rw [executionAt, Machine.stateAt_succ _ hInput]
    exact hExecution'

variable {m : Nat}

theorem executionAt_persists {P : Execution → Prop}
    (hProgress : ∀ call execution execution', Progress call id execution execution' → P execution → P execution')
    (hmn : m ≤ n) (h : executionAt sha256 inputs m id = some execution) (hP : P execution) :
    ∃ execution', executionAt sha256 inputs n id = some execution' ∧ P execution' := by
  induction hmn with
  | refl => exact ⟨execution, h, hP⟩
  | step _ ih =>
    obtain ⟨middle, hMiddle, hKept⟩ := ih
    obtain ⟨execution', hExecution', ⟨_, rfl⟩ | ⟨call, _, _, hStep⟩⟩ := executionAt_succ hMiddle
    · exact ⟨execution', hExecution', hKept⟩
    · exact ⟨execution', hExecution', hProgress call middle execution' hStep hKept⟩

theorem Progress.result_ne_nil {call : Call} {execution' : Execution} (h : Progress call id execution execution')
    (hResult : execution.resultHash ≠ []) : execution'.resultHash ≠ [] := by
  by_cases hCompletes : Completes call id execution execution'
  · exact (h.completed hCompletes).1
  · rw [h.result hCompletes]
    exact hResult

theorem Progress.reconciliation_ne_nil {call : Call} {execution' : Execution}
    (h : Progress call id execution execution') (hDecided : execution.reconciliationID ≠ []) :
    execution'.reconciliationID ≠ [] := by
  rcases h.reconciliation with hSame | ⟨_, _, _, _, hDecides⟩
  · rw [hSame]
    exact hDecided
  · exact hDecides

theorem started_forever (hmn : m ≤ n) (h : statusAt sha256 inputs m id = some .running) :
    ∃ status, statusAt sha256 inputs n id = some status ∧ startedStatus status := by
  obtain ⟨execution, hExecution, hStatus⟩ := Option.map_eq_some_iff.mp h
  obtain ⟨execution', hExecution', hStarted⟩ :=
    executionAt_persists (P := fun execution => startedStatus execution.status)
      (fun _ _ _ hProgress => hProgress.started) hmn hExecution (by rw [hStatus]; rfl)
  exact ⟨execution'.status, by rw [statusAt, hExecution', Option.map_some], hStarted⟩

theorem completed_of_result (h : executionAt sha256 inputs n id = some execution)
    (hResult : execution.resultHash ≠ []) : ∃ m < n, CompletedAt sha256 inputs m id := by
  induction n generalizing execution with
  | zero => cases h
  | succ n ih =>
    cases hBefore : executionAt sha256 inputs n id with
    | none =>
      cases hInput : inputs[n]? with
      | none =>
        rw [executionAt, Machine.stateAt_succ_of_none _ hInput] at h
        cases hBefore.symm.trans h
      | some =>
        rw [executionAt, Machine.stateAt_succ _ hInput] at h
        exact absurd (step_created (stateAt_sound sha256 inputs n).keyed hBefore h).1 hResult
    | some before =>
      obtain ⟨_, hExecution', hStep⟩ := executionAt_succ hBefore
      cases h.symm.trans hExecution'
      have hEarlier : before.resultHash ≠ [] → ∃ m < n + 1, CompletedAt sha256 inputs m id := by
        intro hPresent
        obtain ⟨m, hm, hCompleted⟩ := ih hBefore hPresent
        exact ⟨m, Nat.lt_succ_of_lt hm, hCompleted⟩
      rcases hStep with ⟨_, rfl⟩ | ⟨call, env, hInput, hProgress⟩
      · exact hEarlier hResult
      · by_cases hCompletes : Completes call id before execution
        · exact ⟨n, Nat.lt_succ_self n, call, env, before, execution, hInput, hBefore, h, hCompletes⟩
        · exact hEarlier (hProgress.result hCompletes ▸ hResult)

theorem undecided_until (hmn : m ≤ n) (h : executionAt sha256 inputs m id = some execution)
    (hOpen : execution.reconciliationID = []) (hNone : ∀ k, m ≤ k → k < n → ¬ ReconciledAt sha256 inputs k id) :
    ∃ execution', executionAt sha256 inputs n id = some execution' ∧ execution'.reconciliationID = [] := by
  induction hmn with
  | refl => exact ⟨execution, h, hOpen⟩
  | @step n hmn ih =>
    obtain ⟨middle, hMiddle, hStill⟩ := ih fun k hk hkn => hNone k hk (Nat.lt_succ_of_lt hkn)
    obtain ⟨execution', hExecution', ⟨_, rfl⟩ | ⟨call, env, hInput, hProgress⟩⟩ := executionAt_succ hMiddle
    · exact ⟨execution', hExecution', hStill⟩
    · rcases hProgress.reconciliation with hSame | hDecides
      · exact ⟨execution', hExecution', hSame.trans hStill⟩
      · exact absurd ⟨call, env, middle, execution', hInput, hMiddle, hExecution', hDecides⟩
          (hNone n hmn (Nat.lt_succ_self n))

theorem unsettled_iff (h : executionAt sha256 inputs n id = some execution) :
    (execution.resultHash ≠ [] ∧ execution.reconciliationID = []) ↔
      ∃ m < n, CompletedAt sha256 inputs m id ∧ ∀ k, m < k → k < n → ¬ ReconciledAt sha256 inputs k id := by
  constructor
  · rintro ⟨hResult, hOpen⟩
    obtain ⟨m, hm, hCompleted⟩ := completed_of_result h hResult
    refine ⟨m, hm, hCompleted, ?_⟩
    rintro k _ hkn ⟨call, env, before, after, _, _, hAfter, _, _, _, _, hDecided⟩
    obtain ⟨execution', hExecution', hStill⟩ :=
      executionAt_persists (P := fun execution => execution.reconciliationID ≠ [])
        (fun _ _ _ hProgress => hProgress.reconciliation_ne_nil) hkn hAfter hDecided
    cases h.symm.trans hExecution'
    exact hStill hOpen
  · rintro ⟨m, hm, ⟨call, env, before, after, hInput, hBefore, hAfter, hCompletes⟩, hNone⟩
    obtain ⟨_, hAfter', ⟨hNoInput, _⟩ | ⟨_, _, hInput', hProgress⟩⟩ := executionAt_succ hBefore
    · rw [hInput] at hNoInput
      cases hNoInput
    · cases hInput.symm.trans hInput'
      cases hAfter.symm.trans hAfter'
      obtain ⟨hResult, hSame⟩ := hProgress.completed hCompletes
      obtain ⟨_, _, _, hRunning, _⟩ := hCompletes
      have hSound := (stateAt_sound sha256 inputs m).execution hBefore
      have hOpen : after.reconciliationID = [] :=
        hSame.trans (hSound.reconciliationID_eq_nil (.inr (.inr hRunning)))
      obtain ⟨execution', hExecution', hStill⟩ :=
        executionAt_persists (P := fun execution => execution.resultHash ≠ [])
          (fun _ _ _ hProgress => hProgress.result_ne_nil) hm hAfter hResult
      obtain ⟨_, hLast, hUndecided⟩ := undecided_until hm hAfter hOpen fun k hk hkn => hNone k hk hkn
      cases h.symm.trans hExecution'
      cases h.symm.trans hLast
      exact ⟨hStill, hUndecided⟩

end History

theorem lease_store_invariants (sha256 : GoString → GoString) (inputs : List (Call × Environment)) :
    (∀ n id id' execution execution', executionAt sha256 inputs n id = some execution →
      executionAt sha256 inputs n id' = some execution' → execution.targetKey = execution'.targetKey →
      holdsTarget execution.status = true → holdsTarget execution'.status = true → id = id') ∧
    (∀ n id execution, executionAt sha256 inputs n id = some execution →
      ((((machine sha256).stateAt inputs n).fence? id).isSome = true ↔
        execution.status = .leased ∨ execution.status = .running ∨
          ∃ m < n, CompletedAt sha256 inputs m id ∧ ∀ k, m < k → k < n → ¬ ReconciledAt sha256 inputs k id)) ∧
    (∀ id m n, m < n → StartsAt sha256 inputs m id → ¬ StartsAt sha256 inputs n id) ∧
    (∀ id m n, m ≤ n → statusAt sha256 inputs m id = some .running →
      statusAt sha256 inputs n id ≠ some .queued ∧ statusAt sha256 inputs n id ≠ some .cancelled) ∧
    (∀ n id id' execution execution', executionAt sha256 inputs n id = some execution →
      executionAt sha256 inputs n id' = some execution' → execution.reconciliationID ≠ [] →
      execution.reconciliationID = execution'.reconciliationID → id = id') ∧
    (∀ n request env execution, inputs[n]? = some (.claim request, env) →
      (((machine sha256).stateAt inputs n).step sha256 (.claim request, env)).1 = .ok (some execution) →
      ¬ (execution.pool = .write ∧ execution.production = true)) ∧
    (∀ n id execution, executionAt sha256 inputs n id = some execution →
      execution.pool = .write ∧ execution.production = true →
      execution.leaseEpoch = 0 ∧ (execution.status = .queued ∨ execution.status = .cancelled)) := by
  have hSound := stateAt_sound sha256 inputs
  refine ⟨?_, ?_, ?_, ?_, ?_, ?_, ?_⟩
  · intro n
    exact (hSound n).exclusive
  · intro n id execution hExecution
    rw [← unsettled_iff hExecution]
    exact ((hSound n).execution hExecution).fenced
  · rintro id m n hmn ⟨_, hRunning⟩ ⟨hLeased, _⟩
    obtain ⟨status, hStatus, hStarted⟩ := started_forever hmn hRunning
    cases hLeased.symm.trans hStatus
    cases hStarted
  · intro id m n hmn hRunning
    obtain ⟨status, hStatus, hStarted⟩ := started_forever hmn hRunning
    rw [hStatus]
    refine ⟨?_, ?_⟩
    · rintro ⟨⟩
      cases hStarted
    · rintro ⟨⟩
      cases hStarted
  · intro n id id' execution execution' hExecution hExecution' hDecided hSame
    exact (hSound n).distinct id id' execution execution' hExecution hExecution' hSame hDecided
  · intro n request env execution _ hReply
    exact claim_harmless hReply
  · intro n id execution hExecution
    exact ((hSound n).execution hExecution).production

section Sample

def sampleID : GoString := ascii "execution-1"

def sampleToken : GoString := ascii "5f2c0d9e7a1b4c3d8e6f5a4b3c2d1e0f"

def sampleDigest : GoString → GoString :=
  digestTable [(sampleToken, ascii "1714d7327f265cf0d934b342ee785748158b050ae50bbac267f642bcc38fe575")]

def sampleEnvironment (clock : Int) : Environment where
  contextDone := false
  clock := clock
  token := some sampleToken
  visit := { keys := [sampleID], nodup := by decide }

def sampleLease : LeaseIdentity where
  executionID := sampleID
  runnerID := ascii "runner-1"
  token := sampleToken
  epoch := 1

def sampleRun : List (Call × Environment) :=
  [(.enqueue { executionID := sampleID, targetKey := ascii "cluster-1/payments", pool := .write, production := false },
      sampleEnvironment 1000),
    (.claim { pool := .write, runnerID := ascii "runner-1", leaseDuration := minute, claimsEnabled := true },
      sampleEnvironment 2000),
    (.start sampleLease, sampleEnvironment 3000),
    (.complete { lease := sampleLease, status := .uncertain, resultHash := List.replicate 64 97 },
      sampleEnvironment 4000)]

end Sample

/-- The fence of the completed execution is still stored. -/
theorem lease_store_invariants_completed :
    ((machine sampleDigest).stateAt sampleRun 4).fence? sampleID ≠ none ∧
      ∃ m < 4, CompletedAt sampleDigest sampleRun m sampleID := by
  have hFence : (((machine sampleDigest).stateAt sampleRun 4).fence? sampleID).isSome = true := by decide +kernel
  have hStatus : statusAt sampleDigest sampleRun 4 sampleID = some .uncertain := by decide +kernel
  obtain ⟨execution, hExecution, hUncertain⟩ := Option.map_eq_some_iff.mp hStatus
  obtain ⟨_, hStored, _⟩ := lease_store_invariants sampleDigest sampleRun
  refine ⟨Option.isSome_iff_ne_none.mp hFence, ?_⟩
  rcases (hStored 4 sampleID execution hExecution).mp hFence with hLeased | hRunning | ⟨m, hm, hCompleted, _⟩
  · rw [hUncertain] at hLeased
    cases hLeased
  · rw [hUncertain] at hRunning
    cases hRunning
  · exact ⟨m, hm, hCompleted⟩

end AiopsSystem.ExecutionLease.Memory
