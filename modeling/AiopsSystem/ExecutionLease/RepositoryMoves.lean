import AiopsSystem.ExecutionLease.MemoryRepository

/-! # What one call does to the executions

A call first expires leases or not, execution by execution, and then changes at
most one execution. `Move` lists those changes with the guards they passed; a
slot is what the store holds under one identifier.
-/

namespace AiopsSystem.ExecutionLease.Memory

open Go Go.Section MemoryRepository

structure Slot where
  execution : Option Execution
  fence : Option LeaseFence

namespace MemoryRepository

def slot (repository : MemoryRepository) (executionID : GoString) : Slot where
  execution := repository.execution? executionID
  fence := repository.fence? executionID

variable (repository : MemoryRepository) (id other : GoString)

theorem slot_store (execution : Execution) : (repository.store id execution).slot other =
    if other = id then { repository.slot id with execution := some execution } else repository.slot other := by
  unfold slot execution? store
  rw [GoMap.get?_insert]
  split
  · rename_i h
    subst h
    rfl
  · rfl

theorem slot_fenced (fence : LeaseFence) : (repository.fenced id fence).slot other =
    if other = id then { repository.slot id with fence := some fence } else repository.slot other := by
  unfold slot fence? fenced
  rw [GoMap.get?_insert]
  split
  · rename_i h
    subst h
    rfl
  · rfl

theorem slot_unfenced : (repository.unfenced id).slot other =
    if other = id then { repository.slot id with fence := none } else repository.slot other := by
  unfold slot fence? unfenced
  rw [GoMap.get?_erase]
  split
  · rename_i h
    subst h
    rfl
  · rfl

end MemoryRepository

inductive Lapse (now : Int) : Slot → Slot → Prop
  | kept {slot} : Lapse now slot slot
  | expired {execution execution' fence} (h : expired now execution = some execution') :
      Lapse now ⟨some execution, fence⟩ ⟨some execution', none⟩

theorem expireOne_slot (now : Int) (repository : MemoryRepository) (id other : GoString) :
    Lapse now (repository.slot other) ((repository.expireOne now id).slot other) ∧
      (other ≠ id → (repository.expireOne now id).slot other = repository.slot other) := by
  unfold expireOne
  cases hExpired : (repository.execution? id).bind (expired now) with
  | none => exact ⟨.kept, fun _ => rfl⟩
  | some =>
    obtain ⟨execution, hExecution, hNext⟩ := Option.bind_eq_some_iff.mp hExpired
    dsimp only
    rw [slot_store, slot_unfenced, slot_unfenced, if_pos rfl]
    by_cases h : other = id
    · subst h
      rw [if_pos rfl]
      refine ⟨?_, fun hOther => absurd rfl hOther⟩
      have hSlot : repository.slot other = ⟨some execution, repository.fence? other⟩ := by rw [slot, hExecution]
      rw [hSlot]
      exact .expired hNext
    · rw [if_neg h, if_neg h]
      exact ⟨.kept, fun _ => rfl⟩

theorem expireLeases_slot (visit : RangeOrder GoString) (now : Int) (repository : MemoryRepository) (id : GoString) :
    Lapse now (repository.slot id) ((expireLeases visit now repository).slot id) := by
  unfold expireLeases
  obtain ⟨keys, hNodup⟩ := visit
  suffices hBoth : Lapse now (repository.slot id) ((keys.foldl (expireOne now) repository).slot id) ∧
      (id ∉ keys → (keys.foldl (expireOne now) repository).slot id = repository.slot id) from hBoth.1
  induction keys generalizing repository with
  | nil => exact ⟨.kept, fun _ => rfl⟩
  | cons key _ ih =>
    obtain ⟨hFresh, hRest⟩ := List.nodup_cons.mp hNodup
    obtain ⟨hLapse, hSame⟩ := ih (repository.expireOne now key) hRest
    obtain ⟨hFirst, hOther⟩ := expireOne_slot now repository key id
    rw [List.foldl_cons]
    by_cases h : id = key
    · rw [h] at hSame hFirst ⊢
      rw [hSame hFresh]
      exact ⟨hFirst, fun hNot => absurd List.mem_cons_self hNot⟩
    · rw [hOther h] at hLapse hSame
      refine ⟨hLapse, ?_⟩
      intro hNot
      exact hSame fun hMem => hNot (List.mem_cons_of_mem _ hMem)

def holdsTarget (status : Status) : Bool := status == .leased || status == .running || status == .uncertain

/-- A change of one slot by a call at this clock reading; the store is the one the call found after expiry. -/
inductive Move (repository : MemoryRepository) (now : Int) : Call → GoString → Slot → Slot → Prop
  | enqueue {request fence} (hID : validIdentifier request.executionID 256 = true) :
      Move repository now (.enqueue request) request.executionID ⟨none, fence⟩ ⟨some (enqueued request now), fence⟩
  | claim {request id execution fence fence'} (hStatus : execution.status = .queued)
      (hTarget : repository.targetUnavailable execution.targetKey execution.executionID = false)
      (hProduction : ¬ (execution.pool = .write ∧ execution.production = true)) :
      Move repository now (.claim request) id ⟨some execution, fence⟩ ⟨some (leased execution request now), some fence'⟩
  | start {lease execution fence} (hStatus : execution.status = .leased) :
      Move repository now (.start lease) lease.executionID ⟨some execution, fence⟩ ⟨some (started execution now), fence⟩
  | heartbeat {request execution fence} (hStatus : execution.status = .leased ∨ execution.status = .running) :
      Move repository now (.heartbeat request) request.lease.executionID ⟨some execution, fence⟩
        ⟨some (beaten execution request.extension now), fence⟩
  | complete {request execution fence} (hStatus : execution.status = .running)
      (hResult : request.status = .succeeded ∨ request.status = .failed ∨ request.status = .uncertain)
      (hHash : request.resultHash ≠ []) :
      Move repository now (.complete request) request.lease.executionID ⟨some execution, fence⟩
        ⟨some (completed execution request.status request.resultHash now), fence⟩
  | reconcile {request execution fence} (hStatus : execution.status = .uncertain)
      (hOpen : execution.reconciliationID = []) (hID : request.reconciliationID ≠ [])
      (hDecision : request.status = .succeeded ∨ request.status = .failed)
      (hDistinct : ∀ id existing, repository.execution? id = some existing → id ≠ execution.executionID →
        existing.reconciliationID ≠ request.reconciliationID) :
      Move repository now (.reconcile request) request.executionID ⟨some execution, fence⟩
        ⟨some (reconciled execution request now), none⟩
  | repeated {request execution fence} (hDecided : execution.reconciliationID ≠ []) :
      Move repository now (.reconcile request) request.executionID ⟨some execution, fence⟩ ⟨some execution, none⟩
  | cancel {id execution fence} (hStatus : terminalStatus execution.status = false) :
      Move repository now (.cancel id) id ⟨some execution, fence⟩ ⟨some (cancelled execution now), none⟩

def Moved (repository : MemoryRepository) (now : Int) (call : Call) (repository' : MemoryRepository) : Prop :=
  ∃ id, Move repository now call id (repository.slot id) (repository'.slot id) ∧
    ∀ other, other ≠ id → repository'.slot other = repository.slot other

def Call.sweeps : Call → Bool
  | .claim _ | .reconcile _ | .sweepExpired | .get _ => true
  | _ => false

def Opened (env : Environment) (call : Call) (repository opened : MemoryRepository) : Prop :=
  opened = repository ∨ call.sweeps = true ∧ opened = expireLeases env.visit env.clock repository

def Served (env : Environment) (call : Call) (repository repository' : MemoryRepository) : Prop :=
  ∃ opened, Opened env call repository opened ∧ (repository' = opened ∨ Moved opened env.clock call repository')

section Sections

variable {sha256 : GoString → GoString} {env : Environment} {call : Call} {repository repository' : MemoryRepository}
  {α : Type}

theorem Served.same : Served env call repository repository := ⟨repository, .inl rfl, .inl rfl⟩

theorem Served.swept (h : call.sweeps) : Served env call repository (expireLeases env.visit env.clock repository) :=
  ⟨_, .inr ⟨h, rfl⟩, .inl rfl⟩

theorem Served.of_moved (h : Moved repository env.clock call repository') : Served env call repository repository' :=
  ⟨repository, .inl rfl, .inr h⟩

theorem Served.of_swept (h : call.sweeps)
    (hMoved : Moved (expireLeases env.visit env.clock repository) env.clock call repository') :
    Served env call repository repository' :=
  ⟨_, .inr ⟨h, rfl⟩, .inr hMoved⟩

theorem Ends.entry {valid : Bool} {next : Unit → Locked α} {Q : Except LeaseError α → MemoryRepository → Prop}
    (hError : ∀ failure, Q (.error failure) repository) (h : valid → Ends (next ()) repository Q) :
    Ends (entry env valid >>= next) repository Q := by
  apply Ends.bind
  unfold Memory.entry
  apply Ends.ensure
  · exact hError _
  intro _
  apply Ends.ensure
  · exact hError _
  intro hValid
  unfold ensure
  split
  · exact h hValid
  · exact hError _

variable {execution execution' : Execution} {id : GoString}

theorem moved_stored {opened : MemoryRepository}
    (hOthers : ∀ other, other ≠ id → opened.slot other = repository.slot other)
    (h : Move repository env.clock call id (repository.slot id) { opened.slot id with execution := some execution' }) :
    Moved repository env.clock call (opened.store id execution') := by
  refine ⟨id, ?_, ?_⟩
  · rw [slot_store, if_pos rfl]
    exact h
  · intro other hOther
    rw [slot_store, if_neg hOther, hOthers other hOther]

theorem moved_store (hExecution : repository.execution? id = some execution)
    (h : ∀ fence, Move repository env.clock call id ⟨some execution, fence⟩ ⟨some execution', fence⟩) :
    Moved repository env.clock call (repository.store id execution') := by
  refine moved_stored (fun _ _ => rfl) ?_
  rw [slot, hExecution]
  exact h _

theorem moved_unfenced (hExecution : repository.execution? id = some execution)
    (h : ∀ fence, Move repository env.clock call id ⟨some execution, fence⟩ ⟨some execution', none⟩) :
    Moved repository env.clock call ((repository.unfenced id).store id execution') := by
  refine moved_stored (fun other hOther => by rw [slot_unfenced, if_neg hOther]) ?_
  rw [slot_unfenced, if_pos rfl, slot, hExecution]
  exact h _

def Keyed (repository : MemoryRepository) : Prop :=
  ∀ id execution, repository.execution? id = some execution → execution.executionID = id

theorem enqueue_served (request : EnqueueRequest) :
    Ends (enqueue env request) repository (fun _ repository' => Served env (.enqueue request) repository repository') := by
  unfold enqueue
  apply Ends.entry fun _ => .same
  intro hValid
  simp only [Bool.and_eq_true] at hValid
  apply Ends.get
  apply Ends.ensure .same
  intro hAbsent
  refine .of_moved (moved_stored (fun _ _ => rfl) ?_)
  rw [slot, hAbsent]
  exact Move.enqueue hValid.1.1

/-- Nothing that writes to production is handed out. -/
def Harmless (reply : Except LeaseError Execution) : Prop :=
  ∀ execution, reply = .ok execution → ¬ (execution.pool = .write ∧ execution.production = true)

theorem harmless_error (failure : LeaseError) : Harmless (.error failure) := by
  intro _ h
  cases h

theorem claimLoop_moved (request : ClaimRequest) (order : List GoString) :
    Ends (claimLoop sha256 env request order) repository (fun reply repository' =>
      (repository' = repository ∨ Moved repository env.clock (.claim request) repository') ∧
      Harmless reply) := by
  induction order with
  | nil => exact ⟨.inl rfl, harmless_error _⟩
  | cons id rest ih =>
    rw [claimLoop]
    apply Ends.get
    dsimp only
    split
    · exact ih
    · rename_i hQueued
      rw [not_or, not_not, not_not] at hQueued
      split
      · exact ih
      · rename_i hTarget
        split
        · exact ih
        · rename_i hProduction
          cases hExecution : repository.execution? id with
          | none =>
            rw [hExecution] at hQueued
            exact absurd hQueued.1 (by decide)
          | some execution =>
            simp only [hExecution, Option.getD_some] at hQueued hTarget hProduction ⊢
            apply Ends.ensure ⟨.inl rfl, harmless_error _⟩
            intro _
            apply Ends.found ⟨.inl rfl, harmless_error _⟩
            intro token _
            apply Ends.ensure ⟨.inl rfl, harmless_error _⟩
            intro _
            refine ⟨.inr (moved_stored (fun other hOther => by rw [slot_fenced, if_neg hOther]) ?_), ?_⟩
            · rw [slot_fenced, if_pos rfl, slot, hExecution]
              exact Move.claim hQueued.1 (Bool.not_eq_true _ ▸ hTarget) hProduction
            · intro claimed hClaimed
              cases hClaimed
              exact hProduction

theorem claim_served (request : ClaimRequest) :
    Ends (claim sha256 env request) repository (fun reply repository' =>
      Served env (.claim request) repository repository' ∧
      Harmless reply) := by
  unfold claim
  apply Ends.entry fun _ => ⟨.same, harmless_error _⟩
  intro _
  apply Ends.modify
  apply Ends.ensure ⟨.swept rfl, harmless_error _⟩
  intro _
  apply Ends.get
  refine .mono (claimLoop_moved request _) ?_
  rintro reply repository' ⟨hSame | hMoved, hHarmless⟩
  · rw [hSame]
    exact ⟨.swept rfl, hHarmless⟩
  · exact ⟨.of_swept rfl hMoved, hHarmless⟩

theorem currentLease_status {execution : Execution} {fence : Option LeaseFence} {lease : LeaseIdentity} {now : Int}
    (h : currentLease sha256 execution fence lease now) :
    execution.status = .leased ∨ execution.status = .running := by
  simp only [currentLease, Bool.and_eq_true, Bool.or_eq_true, beq_iff_eq] at h
  exact h.1.2

theorem start_served (hKeyed : Keyed repository) (lease : LeaseIdentity) :
    Ends (start sha256 env lease) repository (fun _ repository' => Served env (.start lease) repository repository') := by
  unfold start
  apply Ends.entry fun _ => .same
  intro _
  apply Ends.get
  apply Ends.found .same
  intro execution hExecution
  have hID := hKeyed _ _ hExecution
  apply Ends.ensure .same
  intro _
  split
  · rename_i hStatus
    rw [hID]
    exact .of_moved (moved_store hExecution (fun _ => .start hStatus))
  · exact .same
  · exact .same

theorem heartbeat_served (hKeyed : Keyed repository) (request : HeartbeatRequest) :
    Ends (heartbeat sha256 env request) repository (fun _ repository' =>
      Served env (.heartbeat request) repository repository') := by
  unfold heartbeat
  apply Ends.entry fun _ => .same
  intro _
  apply Ends.get
  apply Ends.found .same
  intro _ hExecution
  have hID := hKeyed _ _ hExecution
  apply Ends.ensure .same
  intro hCurrent
  rw [hID]
  exact .of_moved (moved_store hExecution (fun _ => .heartbeat (currentLease_status hCurrent)))

theorem complete_served (hKeyed : Keyed repository) (request : CompleteRequest) :
    Ends (complete sha256 env request) repository (fun _ repository' =>
      Served env (.complete request) repository repository') := by
  unfold complete
  apply Ends.entry fun _ => .same
  intro hValid
  simp only [Bool.and_eq_true, Bool.or_eq_true, beq_iff_eq, or_assoc] at hValid
  apply Ends.get
  apply Ends.found .same
  intro _ hExecution
  have hID := hKeyed _ _ hExecution
  dsimp only
  split
  · apply Ends.ensure .same
    intro _
    apply Ends.ensure .same
    intro _
    apply Ends.ensure .same
    intro _
    exact .same
  · apply Ends.ensure .same
    intro _
    apply Ends.ensure .same
    intro hRunning
    have hHash : request.resultHash ≠ [] := by
      intro hEmpty
      rw [hEmpty] at hValid
      exact absurd hValid.2 (by decide)
    rw [hID]
    exact .of_moved (moved_store hExecution (fun _ => .complete hRunning hValid.1.2 hHash))

theorem cancel_served (hKeyed : Keyed repository) (id : GoString) :
    Ends (cancel env id) repository (fun _ repository' => Served env (.cancel id) repository repository') := by
  unfold cancel
  apply Ends.entry fun _ => .same
  intro _
  apply Ends.get
  apply Ends.found .same
  intro execution hExecution
  have hID := hKeyed _ _ hExecution
  split
  · exact .same
  · rename_i hOpen
    rw [hID]
    exact .of_moved (moved_unfenced hExecution (fun _ => .cancel (Bool.not_eq_true _ ▸ hOpen)))

theorem Lapse.executionID {now : Int} {slot slot' : Slot} (h : Lapse now slot slot') :
    slot'.execution.map (·.executionID) = slot.execution.map (·.executionID) := by
  cases h with
  | kept => rfl
  | expired h =>
    unfold Memory.expired at h
    split at h
    · cases h
    · split at h <;> cases h <;> rfl

theorem Keyed.swept (hKeyed : Keyed repository) : Keyed (expireLeases env.visit env.clock repository) := by
  intro id _ hExecution'
  have hIDs := (expireLeases_slot env.visit env.clock repository id).executionID
  change ((expireLeases env.visit env.clock repository).execution? id).map _ = (repository.execution? id).map _ at hIDs
  rw [hExecution'] at hIDs
  obtain ⟨execution, hExecution, hID⟩ := Option.map_eq_some_iff.mp hIDs.symm
  exact hID.symm.trans (hKeyed id execution hExecution)

theorem reconcile_served (hKeyed : Keyed repository) (request : ReconcileRequest) :
    Ends (reconcile env request) repository (fun _ repository' =>
      Served env (.reconcile request) repository repository') := by
  unfold reconcile
  apply Ends.entry fun _ => .same
  intro hValid
  simp only [Bool.and_eq_true, Bool.or_eq_true, beq_iff_eq] at hValid
  apply Ends.modify
  apply Ends.get
  apply Ends.found (.swept rfl)
  intro execution hExecution
  have hID := hKeyed.swept _ _ hExecution
  split
  · rename_i hDecided
    apply Ends.ensure (.swept rfl)
    intro _
    apply Ends.set
    apply Ends.pure
    refine .of_swept rfl ⟨request.executionID, ?_, ?_⟩
    · have hNext := slot_unfenced (expireLeases env.visit env.clock repository) execution.executionID
        request.executionID
      have hSlot : (expireLeases env.visit env.clock repository).slot request.executionID =
          ⟨some execution, (expireLeases env.visit env.clock repository).fence? request.executionID⟩ := by
        rw [slot, hExecution]
      rw [hID, if_pos rfl, hSlot] at hNext
      rw [hSlot, hID, hNext]
      exact .repeated hDecided
    · intro other hOther
      have hNext := slot_unfenced (expireLeases env.visit env.clock repository) execution.executionID other
      rw [if_neg (hID ▸ hOther)] at hNext
      exact hNext
  · rename_i hOpen
    rw [not_not] at hOpen
    apply Ends.ensure (.swept rfl)
    intro hUncertain
    apply Ends.ensure (.swept rfl)
    intro hFree
    have hDistinct : ∀ id existing, (expireLeases env.visit env.clock repository).execution? id = some existing →
        id ≠ execution.executionID → existing.reconciliationID ≠ request.reconciliationID := by
      intro id existing hExisting hOther hSame
      rw [← Bool.not_eq_true, GoMap.anyEntry_iff] at hFree
      exact hFree ⟨id, existing, hExisting, by simp [hOther, hSame]⟩
    have hReconciliation : request.reconciliationID ≠ [] := by
      intro hEmpty
      rw [hEmpty] at hValid
      exact absurd hValid.1.1.1.2 (by decide)
    rw [hID] at hDistinct ⊢
    refine .of_swept rfl (moved_unfenced hExecution (fun _ => .reconcile hUncertain hOpen hReconciliation hValid.1.2 ?_))
    rw [hID]
    exact hDistinct

theorem sweepExpired_served :
    Ends (sweepExpired env) repository (fun _ repository' => Served env .sweepExpired repository repository') := by
  unfold sweepExpired
  apply Ends.entry fun _ => .same
  intro _
  exact .swept rfl

theorem get_served (id : GoString) :
    Ends (get env id) repository (fun _ repository' => Served env (.get id) repository repository') := by
  unfold get
  apply Ends.entry fun _ => .same
  intro _
  apply Ends.modify
  apply Ends.get
  apply Ends.found (.swept rfl)
  intro _ _
  exact .swept rfl

end Sections

section Steps

variable {sha256 : GoString → GoString} {repository : MemoryRepository}

variable {env : Environment}

theorem served_of_ends {α : Type} {body : Locked α} {call : Call} (f : α → Option Execution)
    (hBody : perform sha256 env call = f <$> body)
    (h : Ends body repository (fun _ repository' => Served env call repository repository')) :
    Served env call repository (repository.step sha256 (call, env)).2 := by
  have hMapped : Ends (f <$> body) repository (fun _ repository' => Served env call repository repository') :=
    ends_map.mpr h
  rw [← hBody] at hMapped
  exact hMapped

theorem step_served (hKeyed : Keyed repository) (call : Call) (env : Environment) :
    Served env call repository (repository.step sha256 (call, env)).2 := by
  cases call with
  | enqueue request => exact served_of_ends _ rfl (enqueue_served request)
  | claim request => exact served_of_ends _ rfl (.mono (claim_served request) (fun _ _ h => h.1))
  | start lease => exact served_of_ends _ rfl (start_served hKeyed lease)
  | heartbeat request => exact served_of_ends _ rfl (heartbeat_served hKeyed request)
  | complete request => exact served_of_ends _ rfl (complete_served hKeyed request)
  | reconcile request => exact served_of_ends _ rfl (reconcile_served hKeyed request)
  | sweepExpired => exact served_of_ends _ rfl sweepExpired_served
  | cancel id => exact served_of_ends _ rfl (cancel_served hKeyed id)
  | get id => exact served_of_ends _ rfl (get_served id)

theorem claim_harmless {request : ClaimRequest} {execution : Execution}
    (h : (repository.step sha256 (.claim request, env)).1 = .ok (some execution)) :
    ¬ (execution.pool = .write ∧ execution.production) := by
  have hMapped : Ends (some <$> claim sha256 env request) repository (fun reply _ => ∀ execution,
      reply = .ok (some execution) → ¬ (execution.pool = .write ∧ execution.production)) := by
    apply ends_map.mpr
    refine .mono (claim_served request) ?_
    rintro reply _ ⟨_, hHarmless⟩ execution hReply
    cases reply with
    | error => cases hReply
    | ok =>
      cases hReply
      exact hHarmless execution rfl
  exact hMapped execution h

end Steps

end AiopsSystem.ExecutionLease.Memory
