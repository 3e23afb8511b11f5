import AiopsSystem.ExecutionLease.RepositoryMoves

/-! # Invariants of the lease store

What holds of every execution and its fence is kept by every expiry and every
move of a slot; what relates two executions is kept because a claim finds its
target free and a reconciliation its identifier unused.
-/

namespace AiopsSystem.ExecutionLease.Memory

open Go MemoryRepository

def startedStatus (status : Status) : Bool :=
  status == .running || status == .succeeded || status == .failed || status == .uncertain

structure Sound (execution : Execution) (fence : Option LeaseFence) : Prop where
  fenced : fence.isSome = true ↔ execution.status = .leased ∨ execution.status = .running ∨
    execution.resultHash ≠ [] ∧ execution.reconciliationID = []
  result : execution.resultHash ≠ [] →
    execution.status = .succeeded ∨ execution.status = .failed ∨ execution.status = .uncertain
  reconciled : execution.reconciliationID ≠ [] → execution.status = .succeeded ∨ execution.status = .failed
  production : execution.pool = .write ∧ execution.production = true →
    execution.leaseEpoch = 0 ∧ (execution.status = .queued ∨ execution.status = .cancelled)

def Slot.Sound (slot : Slot) : Prop :=
  match slot.execution with
  | none => slot.fence = none
  | some execution => Memory.Sound execution slot.fence

namespace Sound

variable {execution : Execution} {fence : Option LeaseFence}

theorem resultHash_eq_nil (h : Sound execution fence) (hStatus : execution.status = .queued ∨
    execution.status = .leased ∨ execution.status = .running) : execution.resultHash = [] := by
  by_contra hResult
  rcases h.result hResult with hOther | hOther | hOther <;> simp [hOther] at hStatus

theorem reconciliationID_eq_nil (h : Sound execution fence) (hStatus : execution.status = .queued ∨
    execution.status = .leased ∨ execution.status = .running) : execution.reconciliationID = [] := by
  by_contra hReconciled
  rcases h.reconciled hReconciled with hOther | hOther <;> simp [hOther] at hStatus

theorem not_production (h : Sound execution fence)
    (hStatus : execution.status ≠ .queued) (hLive : execution.status ≠ .cancelled) :
    ¬ (execution.pool = .write ∧ execution.production) := by
  intro hProduction
  rcases (h.production hProduction).2 with hOther | hOther
  · exact hStatus hOther
  · exact hLive hOther

end Sound

variable {now : Int} {execution' : Execution}

theorem expired_cases {execution : Execution} (h : expired now execution = some execution') :
    execution'.targetKey = execution.targetKey ∧ execution'.pool = execution.pool ∧
    execution'.production = execution.production ∧ execution'.leaseEpoch = execution.leaseEpoch ∧
    execution'.resultHash = execution.resultHash ∧ execution'.reconciliationID = execution.reconciliationID ∧
    (execution.status = .leased ∧ execution'.status = .queued ∨
      execution.status = .running ∧ execution'.status = .uncertain) := by
  unfold expired at h
  split at h
  · cases h
  · split at h
    · rename_i hStatus
      cases h
      exact ⟨rfl, rfl, rfl, rfl, rfl, rfl, .inl ⟨hStatus, rfl⟩⟩
    · rename_i hStatus
      cases h
      exact ⟨rfl, rfl, rfl, rfl, rfl, rfl, .inr ⟨hStatus, rfl⟩⟩
    · cases h

variable {slot slot' : Slot}

theorem Lapse.sound (h : Lapse now slot slot') (hSound : slot.Sound) : slot'.Sound := by
  cases h with
  | kept => exact hSound
  | @expired execution execution' fence hExpired =>
    obtain ⟨_, hPool, hProduction, _, hResult, hReconciled, hStatus⟩ := expired_cases hExpired
    have hHeld : execution.status = .queued ∨ execution.status = .leased ∨ execution.status = .running := by
      rcases hStatus with ⟨hStatus, _⟩ | ⟨hStatus, _⟩ <;> simp [hStatus]
    have hNoResult : execution'.resultHash = [] := hResult.trans (hSound.resultHash_eq_nil hHeld)
    have hOpen : execution'.reconciliationID = [] := hReconciled.trans (hSound.reconciliationID_eq_nil hHeld)
    refine .mk ?_ (absurd hNoResult) (absurd hOpen) ?_
    · rcases hStatus with ⟨_, hStatus⟩ | ⟨_, hStatus⟩ <;> simp [hStatus, hNoResult]
    · rw [hPool, hProduction]
      intro hWrite
      refine absurd hWrite (hSound.not_production ?_ ?_)
      all_goals rcases hStatus with ⟨hStatus, _⟩ | ⟨hStatus, _⟩ <;> simp [hStatus]

variable {repository : MemoryRepository} {call : Call} {id : GoString}

theorem Move.sound (h : Move repository now call id slot slot') (hSound : slot.Sound) : slot'.Sound := by
  cases h with
  | @enqueue request fence _ =>
    have hFence : fence = none := hSound
    refine .mk ?_ ?_ ?_ ?_
    · simp [hFence, enqueued]
    · simp [enqueued]
    · simp [enqueued]
    · intro _
      exact ⟨rfl, .inl rfl⟩
  | claim hStatus _ hProduction =>
    refine .mk ?_ ?_ ?_ ?_
    · exact ⟨fun _ => .inl rfl, fun _ => rfl⟩
    · exact absurd (hSound.resultHash_eq_nil (.inl hStatus))
    · exact absurd (hSound.reconciliationID_eq_nil (.inl hStatus))
    · exact fun hWrite => absurd hWrite hProduction
  | start hStatus =>
    refine .mk ?_ ?_ ?_ ?_
    · exact ⟨fun _ => .inr (.inl rfl), fun _ => hSound.fenced.mpr (.inl hStatus)⟩
    · exact absurd (hSound.resultHash_eq_nil (.inr (.inl hStatus)))
    · exact absurd (hSound.reconciliationID_eq_nil (.inr (.inl hStatus)))
    · exact fun hWrite => absurd hWrite (hSound.not_production (by simp [hStatus]) (by simp [hStatus]))
  | heartbeat => exact .mk hSound.fenced hSound.result hSound.reconciled hSound.production
  | complete hStatus hResult hHash =>
    have hOpen := hSound.reconciliationID_eq_nil (.inr (.inr hStatus))
    refine .mk ?_ ?_ ?_ ?_
    · exact ⟨fun _ => .inr (.inr ⟨hHash, hOpen⟩), fun _ => hSound.fenced.mpr (.inr (.inl hStatus))⟩
    · exact fun _ => hResult
    · exact absurd hOpen
    · exact fun hWrite => absurd hWrite (hSound.not_production (by simp [hStatus]) (by simp [hStatus]))
  | @reconcile request _ _ hStatus _ hID hDecision =>
    refine .mk ?_ ?_ ?_ ?_
    · have hLive : request.status ≠ .leased ∧ request.status ≠ .running := by
        rcases hDecision with hDecision | hDecision <;> simp [hDecision]
      simp [Memory.reconciled, hLive, hID]
    · exact fun _ => hDecision.imp_right .inl
    · exact fun _ => hDecision
    · exact fun hWrite => absurd hWrite (hSound.not_production (by simp [hStatus]) (by simp [hStatus]))
  | repeated hDecided =>
    refine .mk ?_ hSound.result hSound.reconciled hSound.production
    rcases hSound.reconciled hDecided with hStatus | hStatus <;> simp [hStatus, hDecided]
  | @cancel _ execution _ hStatus =>
    have hNoResult : execution.resultHash = [] := by
      by_contra hResult
      rcases hSound.result hResult with hOther | hOther | hOther <;> simp [terminalStatus, hOther] at hStatus
    have hOpen : execution.reconciliationID = [] := by
      by_contra hReconciled
      rcases hSound.reconciled hReconciled with hOther | hOther <;> simp [terminalStatus, hOther] at hStatus
    by_cases hRunning : execution.status = .running
    · refine .mk ?_ ?_ ?_ ?_
      all_goals simp only [cancelled, hRunning, if_true]
      · simp [hNoResult]
      · exact absurd hNoResult
      · exact absurd hOpen
      · exact fun hWrite => absurd hWrite (hSound.not_production (by simp [hRunning]) (by simp [hRunning]))
    · refine .mk ?_ ?_ ?_ ?_
      all_goals simp only [cancelled, hRunning, if_false]
      · simp [hNoResult]
      · exact absurd hNoResult
      · exact absurd hOpen
      · exact fun hWrite => ⟨(hSound.production hWrite).1, .inr trivial⟩

/-! ## Relations between executions -/

structure Inherits (slot slot' : Slot) : Prop where
  target : ∀ execution', slot'.execution = some execution' → holdsTarget execution'.status = true →
    ∃ execution, slot.execution = some execution ∧ execution.targetKey = execution'.targetKey ∧
      holdsTarget execution.status = true
  reconciliation : ∀ execution', slot'.execution = some execution' → execution'.reconciliationID ≠ [] →
    ∃ execution, slot.execution = some execution ∧ execution.reconciliationID = execution'.reconciliationID

theorem Inherits.of_fields {execution : Execution} {fence fence' : Option LeaseFence}
    (hTarget : execution'.targetKey = execution.targetKey)
    (hHolds : holdsTarget execution'.status → holdsTarget execution.status)
    (hReconciliation : execution'.reconciliationID = execution.reconciliationID) :
    Inherits ⟨some execution, fence⟩ ⟨some execution', fence'⟩ where
  target := by
    rintro _ ⟨⟩ hStatus
    exact ⟨execution, rfl, hTarget.symm, hHolds hStatus⟩
  reconciliation := by
    rintro _ ⟨⟩ _
    exact ⟨execution, rfl, hReconciliation.symm⟩

theorem Inherits.refl (slot : Slot) : Inherits slot slot where
  target := fun execution h hStatus => ⟨execution, h, rfl, hStatus⟩
  reconciliation := fun execution h _ => ⟨execution, h, rfl⟩

theorem Lapse.inherits (h : Lapse now slot slot') : Inherits slot slot' := by
  cases h with
  | kept => exact .refl _
  | expired hExpired =>
    obtain ⟨hTarget, _, _, _, _, hReconciliation, hStatus⟩ := expired_cases hExpired
    refine .of_fields hTarget (fun _ => ?_) hReconciliation
    rcases hStatus with ⟨hStatus, _⟩ | ⟨hStatus, _⟩ <;> rw [hStatus] <;> rfl

def TargetFree (repository : MemoryRepository) (execution : Execution) : Prop :=
  ∀ id existing, repository.execution? id = some existing → id ≠ execution.executionID →
    existing.targetKey = execution.targetKey → holdsTarget existing.status = false

theorem targetFree_of_available {execution : Execution}
    (h : repository.targetUnavailable execution.targetKey execution.executionID = false) :
    TargetFree repository execution := by
  intro id existing hExisting hOther hTarget
  rw [← Bool.not_eq_true]
  intro hHolds
  rw [targetUnavailable, ← Bool.not_eq_true, GoMap.anyEntry_iff] at h
  refine h ⟨id, existing, hExisting, ?_⟩
  rw [holdsTarget] at hHolds
  simp [hOther, hTarget, hHolds]

theorem Move.inherits (h : Move repository now call id slot slot') :
    Inherits slot slot' ∨
    ∃ execution execution', slot.execution = some execution ∧ slot'.execution = some execution' ∧
      execution'.targetKey = execution.targetKey ∧ execution'.executionID = execution.executionID ∧
      (execution'.reconciliationID = execution.reconciliationID ∧ TargetFree repository execution ∨
        holdsTarget execution'.status = false ∧
          ∀ other existing, repository.execution? other = some existing → other ≠ execution.executionID →
            existing.reconciliationID ≠ execution'.reconciliationID) := by
  cases h with
  | enqueue =>
    left
    refine ⟨?_, ?_⟩
    · rintro _ ⟨⟩ hStatus
      cases hStatus
    · rintro _ ⟨⟩ hReconciliation
      exact absurd rfl hReconciliation
  | claim _ hTarget => exact .inr ⟨_, _, rfl, rfl, rfl, rfl, .inl ⟨rfl, targetFree_of_available hTarget⟩⟩
  | start hStatus | complete hStatus =>
    left
    refine .of_fields rfl (fun _ => ?_) rfl
    rw [hStatus]
    rfl
  | heartbeat | repeated => exact .inl (.of_fields rfl (fun hHolds => hHolds) rfl)
  | reconcile _ _ _ hDecision hDistinct =>
    refine .inr ⟨_, _, rfl, rfl, rfl, rfl, .inr ⟨?_, hDistinct⟩⟩
    unfold reconciled
    rcases hDecision with hDecision | hDecision <;> simp only [hDecision] <;> rfl
  | @cancel _ execution _ hStatus =>
    left
    by_cases hRunning : execution.status = .running
    · refine .of_fields ?_ (fun _ => ?_) ?_
      · simp only [cancelled, hRunning, if_true]
      · rw [hRunning]
        rfl
      · simp only [cancelled, hRunning, if_true]
    · refine .of_fields ?_ (fun hHolds => ?_) ?_
      · simp only [cancelled, hRunning, if_false]
      · simp only [cancelled, hRunning, if_false] at hHolds
        cases hHolds
      · simp only [cancelled, hRunning, if_false]

structure StoreSound (repository : MemoryRepository) : Prop where
  keyed : Keyed repository
  slots : ∀ id, (repository.slot id).Sound
  exclusive : ∀ id id' execution execution', repository.execution? id = some execution →
    repository.execution? id' = some execution' → execution.targetKey = execution'.targetKey →
    holdsTarget execution.status = true → holdsTarget execution'.status = true → id = id'
  distinct : ∀ id id' execution execution', repository.execution? id = some execution →
    repository.execution? id' = some execution' → execution.reconciliationID = execution'.reconciliationID →
    execution.reconciliationID ≠ [] → id = id'

theorem StoreSound.execution (h : StoreSound repository) {execution : Execution}
    (hExecution : repository.execution? id = some execution) : Sound execution (repository.fence? id) := by
  have hSlot := h.slots id
  rw [Slot.Sound, slot, hExecution] at hSlot
  exact hSlot

variable {repository' : MemoryRepository} {env : Environment} {fence : Option LeaseFence}

theorem StoreSound.inherited (h : StoreSound repository) (hKeyed : Keyed repository')
    (hSlots : ∀ id, (repository'.slot id).Sound)
    (hInherits : ∀ id, Inherits (repository.slot id) (repository'.slot id)) : StoreSound repository' where
  keyed := hKeyed
  slots := hSlots
  exclusive := by
    intro id id' later later' hLater hLater' hTarget hHolds hHolds'
    obtain ⟨execution, hExecution, hKey, hHeld⟩ := (hInherits id).target later hLater hHolds
    obtain ⟨execution', hExecution', hKey', hHeld'⟩ := (hInherits id').target later' hLater' hHolds'
    exact h.exclusive id id' execution execution' hExecution hExecution' (hKey.trans (hTarget.trans hKey'.symm))
      hHeld hHeld'
  distinct := by
    intro id id' later later' hLater hLater' hSame hDecided
    obtain ⟨execution, hExecution, hID⟩ := (hInherits id).reconciliation later hLater hDecided
    obtain ⟨execution', hExecution', hID'⟩ := (hInherits id').reconciliation later' hLater' (hSame ▸ hDecided)
    exact h.distinct id id' execution execution' hExecution hExecution' (hID.trans (hSame.trans hID'.symm))
      (hID ▸ hDecided)

theorem StoreSound.swept (h : StoreSound repository) : StoreSound (expireLeases env.visit env.clock repository) :=
  h.inherited h.keyed.swept (fun id => (expireLeases_slot _ _ _ id).sound (h.slots id))
    (fun id => (expireLeases_slot _ _ _ id).inherits)

theorem Move.executionID (h : Move repository now call id slot slot') :
    ∃ execution', slot'.execution = some execution' ∧
      ((slot.execution = none ∧ execution'.executionID = id) ∨
        ∃ execution, slot.execution = some execution ∧ execution'.executionID = execution.executionID) := by
  cases h with
  | enqueue => exact ⟨_, rfl, .inl ⟨rfl, rfl⟩⟩
  | @cancel _ execution _ _ =>
    refine ⟨_, rfl, .inr ⟨_, rfl, ?_⟩⟩
    by_cases hRunning : execution.status = .running <;> simp only [cancelled, hRunning, if_true, if_false]
  | _ => exact ⟨_, rfl, .inr ⟨_, rfl, rfl⟩⟩

theorem StoreSound.moved (h : StoreSound repository)
    (hMoved : Moved repository now call repository') : StoreSound repository' := by
  obtain ⟨id, hMove, hOthers⟩ := hMoved
  have hKeyed : Keyed repository' := by
    intro other later hLater
    by_cases hOther : other = id
    · subst hOther
      obtain ⟨execution', hExecution', ⟨_, hID⟩ | ⟨execution, hExecution, hID⟩⟩ := hMove.executionID
      · cases hLater.symm.trans hExecution'
        exact hID
      · cases hLater.symm.trans hExecution'
        exact hID.trans (h.keyed other execution hExecution)
    · exact h.keyed other later ((congrArg Slot.execution (hOthers other hOther)).symm.trans hLater)
  have hSlots : ∀ other, (repository'.slot other).Sound := by
    intro other
    by_cases hOther : other = id
    · rw [hOther]
      exact hMove.sound (h.slots id)
    · rw [hOthers other hOther]
      exact h.slots other
  have hSame : ∀ other later, other ≠ id → repository'.execution? other = some later →
      repository.execution? other = some later := by
    intro other later hOther hLater
    exact (congrArg Slot.execution (hOthers other hOther)).symm.trans hLater
  rcases hMove.inherits with hInherits | ⟨execution, execution', hBefore, hAfter, hTarget, hID, hFresh⟩
  · refine h.inherited hKeyed hSlots fun other => ?_
    by_cases hOther : other = id
    · rw [hOther]
      exact hInherits
    · rw [hOthers other hOther]
      exact .refl _
  · have hOwn : execution.executionID = id := h.keyed id execution hBefore
    -- The changed execution is new among the holders or among the decided ones, never both.
    have hTargets : ∀ other later, other ≠ id → repository'.execution? other = some later →
        later.targetKey = execution'.targetKey → holdsTarget later.status →
        holdsTarget execution'.status → False := by
      intro other later hOther hLater hKey hHolds hHolds'
      rcases hFresh with ⟨_, hFree⟩ | ⟨hReleased, _⟩
      · have hNot := hFree other later (hSame other later hOther hLater) (hOwn ▸ hOther) (hKey.trans hTarget)
        rw [hNot] at hHolds
        cases hHolds
      · rw [hReleased] at hHolds'
        cases hHolds'
    have hDecisions : ∀ other later, other ≠ id → repository'.execution? other = some later →
        later.reconciliationID = execution'.reconciliationID → later.reconciliationID ≠ [] → False := by
      intro other later hOther hLater hReconciliation hDecided
      have hStored := hSame other later hOther hLater
      rcases hFresh with ⟨hKept, _⟩ | ⟨_, hDistinct⟩
      · exact hOther (h.distinct other id later execution hStored hBefore (hReconciliation.trans hKept) hDecided)
      · exact hDistinct other later hStored (hOwn ▸ hOther) hReconciliation
    refine ⟨hKeyed, hSlots, ?_, ?_⟩
    · intro first second later later' hLater hLater' hKey hHolds hHolds'
      by_contra hDistinct
      by_cases hFirst : first = id
      · cases hAfter.symm.trans (hFirst ▸ hLater)
        exact hTargets second later' (fun hSecond => hDistinct (hFirst.trans hSecond.symm)) hLater' hKey.symm hHolds'
          hHolds
      · by_cases hSecond : second = id
        · cases hAfter.symm.trans (hSecond ▸ hLater')
          exact hTargets first later hFirst hLater hKey hHolds hHolds'
        · exact hDistinct (h.exclusive first second later later' (hSame first later hFirst hLater)
            (hSame second later' hSecond hLater') hKey hHolds hHolds')
    · intro first second later later' hLater hLater' hReconciliation hDecided
      by_contra hDistinct
      by_cases hFirst : first = id
      · cases hAfter.symm.trans (hFirst ▸ hLater)
        exact hDecisions second later' (fun hSecond => hDistinct (hFirst.trans hSecond.symm)) hLater'
          hReconciliation.symm (hReconciliation ▸ hDecided)
      · by_cases hSecond : second = id
        · cases hAfter.symm.trans (hSecond ▸ hLater')
          exact hDecisions first later hFirst hLater hReconciliation hDecided
        · exact hDistinct (h.distinct first second later later' (hSame first later hFirst hLater)
            (hSame second later' hSecond hLater') hReconciliation hDecided)

theorem storeSound_newMemory : StoreSound newMemory := by
  have hEmpty : ∀ id, newMemory.execution? id = none := fun _ => rfl
  refine ⟨?_, fun _ => rfl, ?_, ?_⟩
  · intro id execution hExecution
    rw [hEmpty] at hExecution
    cases hExecution
  · intro id _ execution _ hExecution
    rw [hEmpty] at hExecution
    cases hExecution
  · intro id _ execution _ hExecution
    rw [hEmpty] at hExecution
    cases hExecution

variable {sha256 : GoString → GoString}

theorem StoreSound.step {repository : MemoryRepository} (h : StoreSound repository) (input : Call × Environment) :
    StoreSound (repository.step sha256 input).2 := by
  obtain ⟨call, env⟩ := input
  obtain ⟨opened, hOpened, hServed⟩ := step_served h.keyed call env
  have hSound : StoreSound opened := by
    rcases hOpened with rfl | ⟨_, rfl⟩
    · exact h
    · exact h.swept
  rcases hServed with hSame | hMoved
  · rw [hSame]
    exact hSound
  · exact hSound.moved hMoved

theorem stateAt_sound (sha256 : GoString → GoString) (inputs : List (Call × Environment)) (n : Nat) :
    StoreSound ((machine sha256).stateAt inputs n) :=
  (machine sha256).stateAt_invariant storeSound_newMemory (fun _ input h => h.step input) inputs n

/-! ## The life of one execution -/

/-- The call is the `Complete` that finished this execution. -/
def Completes (call : Call) (id : GoString) (execution execution' : Execution) : Prop :=
  ∃ request, call = .complete request ∧ request.lease.executionID = id ∧ execution.status = .running ∧
    execution'.status ≠ .running

/-- The call is the `Reconcile` that decided this execution. -/
def Decides (call : Call) (id : GoString) (execution execution' : Execution) : Prop :=
  ∃ request, call = .reconcile request ∧ request.executionID = id ∧ execution.reconciliationID = [] ∧
    execution'.reconciliationID ≠ []

structure Progress (call : Call) (id : GoString) (execution execution' : Execution) : Prop where
  started : startedStatus execution.status = true → startedStatus execution'.status = true
  result : ¬ Completes call id execution execution' → execution'.resultHash = execution.resultHash
  completed : Completes call id execution execution' →
    execution'.resultHash ≠ [] ∧ execution'.reconciliationID = execution.reconciliationID
  reconciliation : execution'.reconciliationID = execution.reconciliationID ∨ Decides call id execution execution'

structure Kept (execution execution' : Execution) : Prop where
  started : startedStatus execution.status = true → startedStatus execution'.status = true
  result : execution'.resultHash = execution.resultHash
  reconciliation : execution'.reconciliationID = execution.reconciliationID

theorem Kept.progress {execution : Execution} (h : Kept execution execution')
    (hOther : ∀ request, call ≠ .complete request) : Progress call id execution execution' where
  started := h.started
  result := fun _ => h.result
  completed := by
    rintro ⟨request, hCall, _⟩
    exact absurd hCall (hOther request)
  reconciliation := .inl h.reconciliation

theorem Kept.trans_progress {first second third : Execution} (h : Kept first second)
    (hNext : Progress call id second third) (hOther : ∀ request, call ≠ .complete request) :
    Progress call id first third where
  started := fun hStarted => hNext.started (h.started hStarted)
  result := by
    intro _
    refine (hNext.result ?_).trans h.result
    rintro ⟨request, hCall, _⟩
    exact absurd hCall (hOther request)
  completed := by
    rintro ⟨request, hCall, _⟩
    exact absurd hCall (hOther request)
  reconciliation := by
    rcases hNext.reconciliation with hSame | ⟨request, hCall, hID, hOpen, hDecided⟩
    · exact .inl (hSame.trans h.reconciliation)
    · exact .inr ⟨request, hCall, hID, h.reconciliation.symm.trans hOpen, hDecided⟩

theorem Lapse.keeps {execution : Execution} (h : Lapse now ⟨some execution, fence⟩ slot') :
    ∃ execution', slot'.execution = some execution' ∧ Kept execution execution' := by
  cases h with
  | kept => exact ⟨execution, rfl, fun h => h, rfl, rfl⟩
  | @expired _ execution' _ hExpired =>
    obtain ⟨_, _, _, _, hResult, hReconciliation, hStatus⟩ := expired_cases hExpired
    refine ⟨execution', rfl, ?_, hResult, hReconciliation⟩
    rcases hStatus with ⟨hBefore, hAfter⟩ | ⟨hBefore, hAfter⟩ <;> rw [hBefore, hAfter] <;> decide

theorem Move.progress {execution : Execution} (h : Move repository now call id ⟨some execution, fence⟩ slot') :
    ∃ execution', slot'.execution = some execution' ∧ Progress call id execution execution' := by
  cases h with
  | claim hStatus =>
    refine ⟨_, rfl, Kept.progress ⟨?_, rfl, rfl⟩ nofun⟩
    intro hStarted
    rw [hStatus] at hStarted
    cases hStarted
  | start => exact ⟨_, rfl, Kept.progress ⟨fun _ => rfl, rfl, rfl⟩ nofun⟩
  | heartbeat | repeated => exact ⟨_, rfl, Kept.progress ⟨fun h => h, rfl, rfl⟩ nofun⟩
  | @complete request _ _ hStatus hResult hHash =>
    have hStopped : request.status ≠ .running ∧ startedStatus request.status := by
      rcases hResult with hResult | hResult | hResult <;> rw [hResult] <;> decide
    refine ⟨_, rfl, fun _ => hStopped.2, ?_, fun _ => ⟨hHash, rfl⟩, .inl rfl⟩
    exact fun hNot => absurd ⟨request, rfl, rfl, hStatus, hStopped.1⟩ hNot
  | @reconcile request _ _ hStatus hOpen hID hDecision _ =>
    refine ⟨_, rfl, fun _ => ?_, fun _ => rfl, ?_, .inr ⟨request, rfl, rfl, hOpen, hID⟩⟩
    · change startedStatus request.status = true
      rcases hDecision with hDecision | hDecision <;> rw [hDecision] <;> rfl
    · rintro ⟨_, ⟨⟩, _⟩
  | cancel hStatus =>
    refine ⟨_, rfl, Kept.progress ?_ nofun⟩
    by_cases hRunning : execution.status = .running
    · refine ⟨fun _ => ?_, ?_, ?_⟩ <;> simp only [cancelled, hRunning, if_true]
      rfl
    · refine ⟨fun hStarted => ?_, ?_, ?_⟩
      · simp only [terminalStatus, startedStatus, Bool.or_eq_false_iff, Bool.or_eq_true, beq_iff_eq,
          beq_eq_false_iff_ne] at hStatus hStarted
        simp [hRunning, hStatus] at hStarted
      · simp only [cancelled, hRunning, if_false]
      · simp only [cancelled, hRunning, if_false]

theorem Call.sweeps_ne_complete (h : call.sweeps) : ∀ request, call ≠ .complete request := by
  rintro request rfl
  cases h

theorem step_progress (hKeyed : Keyed repository) (call : Call) (env : Environment) {execution : Execution}
    (hExecution : repository.execution? id = some execution) :
    ∃ execution', (repository.step sha256 (call, env)).2.execution? id = some execution' ∧
      Progress call id execution execution' := by
  have hServed : Served env call repository (repository.step sha256 (call, env)).2 := step_served hKeyed call env
  obtain ⟨opened, hOpened, hServed⟩ := hServed
  -- What the operation does to the execution it finds after expiry.
  have hNext : ∀ middle, opened.execution? id = some middle → ∃ execution',
      (repository.step sha256 (call, env)).2.execution? id = some execution' ∧
        (execution' = middle ∨ Progress call id middle execution') := by
    intro middle hMiddle
    rcases hServed with hSame | ⟨changed, hMove, hOthers⟩
    · exact ⟨middle, hSame ▸ hMiddle, .inl rfl⟩
    · by_cases hID : id = changed
      · subst hID
        have hSlot : opened.slot id = ⟨some middle, opened.fence? id⟩ := by rw [slot, hMiddle]
        rw [hSlot] at hMove
        obtain ⟨execution', hExecution', hProgress⟩ := hMove.progress
        exact ⟨execution', hExecution', .inr hProgress⟩
      · exact ⟨middle, (congrArg Slot.execution (hOthers id hID)).trans hMiddle, .inl rfl⟩
  rcases hOpened with rfl | ⟨hSweeps, rfl⟩
  · obtain ⟨execution', hExecution', rfl | hProgress⟩ := hNext execution hExecution
    · refine ⟨execution', hExecution', fun h => h, fun _ => rfl, ?_, .inl rfl⟩
      rintro ⟨_, _, _, hRunning, hStopped⟩
      exact absurd hRunning hStopped
    · exact ⟨execution', hExecution', hProgress⟩
  · have hOther := Call.sweeps_ne_complete hSweeps
    have hLapse := expireLeases_slot env.visit env.clock repository id
    have hSlot : repository.slot id = ⟨some execution, repository.fence? id⟩ := by rw [slot, hExecution]
    rw [hSlot] at hLapse
    obtain ⟨middle, hMiddle, hKept⟩ := hLapse.keeps
    obtain ⟨execution', hExecution', rfl | hProgress⟩ := hNext middle hMiddle
    · exact ⟨execution', hExecution', hKept.progress hOther⟩
    · exact ⟨execution', hExecution', hKept.trans_progress hProgress hOther⟩

theorem Lapse.absent (h : Lapse now ⟨none, fence⟩ slot') : slot'.execution = none := by
  cases h
  rfl

theorem Move.created (h : Move repository now call id ⟨none, fence⟩ slot') :
    ∃ execution', slot'.execution = some execution' ∧ execution'.resultHash = [] ∧
      execution'.reconciliationID = [] := by
  cases h
  exact ⟨_, rfl, rfl, rfl⟩

theorem step_created (hKeyed : Keyed repository) (hAbsent : repository.execution? id = none)
    (hExecution' : (repository.step sha256 (call, env)).2.execution? id = some execution') :
    execution'.resultHash = [] ∧ execution'.reconciliationID = [] := by
  obtain ⟨opened, hOpened, hServed⟩ : Served env call repository (repository.step sha256 (call, env)).2 :=
    step_served hKeyed call env
  have hMiddle : opened.execution? id = none := by
    rcases hOpened with rfl | ⟨_, rfl⟩
    · exact hAbsent
    · have hLapse := expireLeases_slot env.visit env.clock repository id
      have hSlot : repository.slot id = ⟨none, repository.fence? id⟩ := by rw [slot, hAbsent]
      rw [hSlot] at hLapse
      exact hLapse.absent
  rcases hServed with hSame | ⟨changed, hMove, hOthers⟩
  · rw [hSame, hMiddle] at hExecution'
    cases hExecution'
  · by_cases hID : id = changed
    · subst hID
      have hSlot : opened.slot id = ⟨none, opened.fence? id⟩ := by rw [slot, hMiddle]
      rw [hSlot] at hMove
      obtain ⟨created, hCreated, hFields⟩ := hMove.created
      cases hExecution'.symm.trans hCreated
      exact hFields
    · have hKept := (congrArg Slot.execution (hOthers id hID)).symm.trans hExecution'
      change opened.execution? id = some execution' at hKept
      rw [hMiddle] at hKept
      cases hKept

end AiopsSystem.ExecutionLease.Memory
