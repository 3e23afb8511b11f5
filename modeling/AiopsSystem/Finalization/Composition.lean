import AiopsSystem.Credential.RepositorySteps
import AiopsSystem.Execution.QueueSteps

/-! # The action queue and the credential repository together

The repository is the finalization gate of the queue, and the queue is the
atomic action source of the repository. A queue call holds the queue lock from
its first step to its last; meanwhile every credential operation that does not
need that lock may run, between any two visits of the sweep and between an
answer of the gate and its use. The operations that need the lock wait for it,
and see the record the queue then has.
-/

namespace AiopsSystem.Finalization

open Go ExecutionLease Execution Credential

def actionStatus : Status → ActionStatus
  | .queued => .queued
  | .leased => .leased
  | .running => .running
  | status => .other status.text

/-- The inspection of a record under the queue lock; the registration of the runner and the scope are not
the queue's and stay as the source has them. -/
def inspectAction (codec : Codec) (record : MemoryActionRecord) (inspection : ActionInspection) :
    ActionInspection where
  metadata := { inspection.metadata with
    leaseEpoch := record.execution.leaseEpoch
    status := actionStatus record.execution.status
    leaseExpiresAt := record.execution.leaseExpiresAt
    cancelRequestedAt := record.execution.cancelRequestedAt }
  leaseTokenSHA256 := hashLeaseToken codec record.execution.leaseToken

def lockedSource (codec : Codec) (queue : MemoryActionQueue) (source : Nat → GoString → AtomicSource) (n : Nat)
    (actionID : GoString) : AtomicSource where
  inspections :=
    match queue.record? actionID with
    | none => []
    | some record => (source n actionID).inspections.map (inspectAction codec record)
  returned := (source n actionID).returned

def overQueue (codec : Codec) (queue : MemoryActionQueue) (env : Credential.Environment) : Credential.Environment :=
  { env with source := env.source.map (lockedSource codec queue) }

def locksAction : Credential.Call → Bool
  | .authorizeChildCreate _ | .recordAnchor _ | .activate _ | .recoverManaged _ | .recoverManagedItem _ _ => true
  | _ => false

def cleanupAnswer (repository : MemoryRepository) (env : Credential.Environment) (actionID : GoString) (epoch : Int) :
    CleanupAnswer :=
  match ((inspectCleanup env actionID epoch).exec repository).1 with
  | .ok (present, terminal) => { present := present, terminal := terminal, failed := false }
  | .error _ => { present := false, terminal := false, failed := true }

/-- A queue call that holds the queue lock, the records its sweep has yet to visit and the answers it got. -/
structure Holder where
  call : Execution.Call
  env : Execution.Environment
  pending : List GoString
  answers : GoMap (GoString × Int) CleanupAnswer

def Holder.gate (holder : Holder) : Gate :=
  some (fun executionID epoch =>
    (holder.answers.get? (executionID, epoch)).getD { present := false, terminal := false, failed := true })

def Holder.environment (holder : Holder) : Execution.Environment :=
  { holder.env with sweepGate := holder.gate, gate := holder.gate }

/-- The records the sweep of a call visits, none when the call does not sweep or is refused first. -/
def sweepVisits (call : Execution.Call) (env : Execution.Environment) : List GoString :=
  match call.sweepGuard with
  | none => []
  | some guard =>
    match entry guard env with
    | .ok _ => env.visit
    | .error _ => []

structure System where
  queue : MemoryActionQueue
  repository : MemoryRepository
  holder : Option Holder

inductive Event where
  | enter (call : Execution.Call) (env : Execution.Environment)
  | inspect (env : Credential.Environment) (actionID : GoString) (epoch : Int)
  | sweep
  | leave
  | credential (call : Credential.Call) (env : Credential.Environment)

inductive Outcome where
  | waiting
  | holding
  | queue (reply : Execution.Reply)
  | credential (reply : Credential.Reply)

namespace System

variable (codec : Codec)

def leave (system : System) (holder : Holder) : Outcome × System :=
  match system.queue.perform codec (holder.call, holder.environment) with
  | .ok (answer, queue') => (.queue (.ok answer), { system with queue := queue', holder := none })
  | .error failure => (.queue (.error failure), { system with holder := none })

def serve (system : System) (call : Credential.Call) (env : Credential.Environment) : Outcome × System :=
  let served := system.repository.step codec.sha256Hex (call, overQueue codec system.queue env)
  (.credential served.1, { system with repository := served.2 })

def step (system : System) (event : Event) : Outcome × System :=
  match event, system.holder with
  | .enter call env, none =>
    let holder := { call := call, env := env, pending := sweepVisits call env, answers := ∅ }
    (.holding, { system with holder := some holder })
  | .inspect env actionID epoch, some holder =>
    let answer := cleanupAnswer system.repository env actionID epoch
    (.holding, { system with
      holder := some { holder with answers := holder.answers.insert (actionID, epoch) answer } })
  | .sweep, some holder =>
    match holder.pending with
    | [] => (.waiting, system)
    | executionID :: rest =>
      (.holding, { system with
        queue := MemoryActionQueue.expireOne codec holder.gate holder.env.clock system.queue executionID
        holder := some { holder with pending := rest } })
  | .leave, some holder =>
    match holder.pending with
    | [] => system.leave codec holder
    | _ :: _ => (.waiting, system)
  | .credential call env, none => system.serve codec call env
  | .credential call env, some _ => if locksAction call then (.waiting, system) else system.serve codec call env
  | _, _ => (.waiting, system)

def machine : Machine System Event Outcome where
  init := { queue := newMemoryActionQueue, repository := newMemoryRepository, holder := none }
  step := step codec

end System

/-- What one event does: nothing, take the lock, note an answer, write to the queue, or serve a credential call. -/
inductive Effect (codec : Codec) (system : System) : Event → Outcome → System → Prop
  | waiting {event} : Effect codec system event .waiting system
  | enter {call env} (hFree : system.holder = none) : Effect codec system (.enter call env) .holding
      { system with holder := some { call := call, env := env, pending := sweepVisits call env, answers := ∅ } }
  | inspect {holder env actionID epoch} (hHolder : system.holder = some holder) :
      Effect codec system (.inspect env actionID epoch) .holding { system with holder := some { holder with
        answers := holder.answers.insert (actionID, epoch) (cleanupAnswer system.repository env actionID epoch) } }
  | sweep {holder rest queue'} (hHolder : system.holder = some holder)
      (hWrites : Relation.ReflTransGen (Write codec holder.environment none) system.queue queue') :
      Effect codec system .sweep .holding
        { system with queue := queue', holder := some { holder with pending := rest } }
  | leave {holder reply queue'} (hHolder : system.holder = some holder)
      (hMoved : MemoryActionQueue.Moved codec holder.environment holder.call system.queue queue') :
      Effect codec system .leave (.queue reply) { system with queue := queue', holder := none }
  | serve {call env} (hFree : locksAction call = true → system.holder = none) :
      Effect codec system (.credential call env)
        (.credential (system.repository.step codec.sha256Hex (call, overQueue codec system.queue env)).1)
        { system with
          repository := (system.repository.step codec.sha256Hex (call, overQueue codec system.queue env)).2 }

namespace System

variable {codec : Codec}

theorem leave_effect {system : System} {holder : Holder} (hHolder : system.holder = some holder) :
    Effect codec system .leave (system.leave codec holder).1 (system.leave codec holder).2 := by
  unfold leave
  split
  · rename_i answer queue' hPerform
    exact .leave hHolder (MemoryActionQueue.perform_moved hPerform)
  · exact .leave hHolder (.inl rfl)

theorem step_effect (system : System) (event : Event) :
    Effect codec system event (system.step codec event).1 (system.step codec event).2 := by
  unfold step
  split
  · rename_i hFree
    exact .enter hFree
  · rename_i holder hHolder
    exact .inspect hHolder
  · rename_i holder hHolder
    split
    · exact .waiting
    · rename_i executionID rest _
      exact .sweep hHolder (MemoryActionQueue.expireOne_writes system.queue executionID)
  · rename_i holder hHolder
    split
    · exact leave_effect hHolder
    · exact .waiting
  · rename_i hFree
    exact .serve fun _ => hFree
  · split
    · exact .waiting
    · rename_i hUnlocked
      exact .serve fun hLocks => absurd hLocks hUnlocked
  · exact .waiting

/-- The answers after the gate was asked these questions, in this order. -/
def gateAnswers (repository : MemoryRepository) (answers : GoMap (GoString × Int) CleanupAnswer)
    (asked : List (Credential.Environment × GoString × Int)) : GoMap (GoString × Int) CleanupAnswer :=
  asked.foldl (fun answers (env, key) => answers.insert key (cleanupAnswer repository env key.1 key.2)) answers

def inspections (asked : List (Credential.Environment × GoString × Int)) : List Event :=
  asked.map fun (env, key) => .inspect env key.1 key.2

theorem run_inspects (queue : MemoryActionQueue) (repository : MemoryRepository) (holder : Holder)
    (asked : List (Credential.Environment × GoString × Int)) :
    (machine codec).runFrom ⟨queue, repository, some holder⟩ (inspections asked) =
      ⟨queue, repository, some { holder with answers := gateAnswers repository holder.answers asked }⟩ := by
  induction asked generalizing holder with
  | nil => rfl
  | cons _ _ ih => exact ih _

theorem run_sweeps (queue : MemoryActionQueue) (repository : MemoryRepository) (holder : Holder) :
    (machine codec).runFrom ⟨queue, repository, some holder⟩ (List.replicate holder.pending.length .sweep) =
      ⟨holder.pending.foldl (MemoryActionQueue.expireOne codec holder.gate holder.env.clock) queue, repository,
        some { holder with pending := [] }⟩ := by
  obtain ⟨call, env, pending, answers⟩ := holder
  induction pending generalizing queue with
  | nil => rfl
  | cons _ _ ih => exact ih _

theorem opened_eq_foldl (queue : MemoryActionQueue) (holder : Holder) :
    queue.opened codec (holder.call, holder.environment) = (sweepVisits holder.call holder.env).foldl
      (MemoryActionQueue.expireOne codec holder.gate holder.env.clock) queue := by
  unfold MemoryActionQueue.opened sweepVisits
  split
  · rename_i hGuard
    simp only [hGuard, List.foldl_nil]
  · rename_i guard hGuard
    have hEntry : entry guard holder.environment = entry guard holder.env := rfl
    simp only [hGuard, hEntry]
    cases hNow : entry guard holder.env with
    | error => rfl
    | ok =>
      obtain ⟨_, _, _, rfl⟩ := MemoryActionQueue.entry_eq_ok.mp hNow
      rfl

/-- A queue call that is not interrupted is one step of the queue, whose gate is the repository. -/
theorem uninterrupted_call_is_one_step (codec : Codec) (queue : MemoryActionQueue) (repository : MemoryRepository)
    (call : Execution.Call) (env : Execution.Environment) (asked : List (Credential.Environment × GoString × Int)) :
    let pending := sweepVisits call env
    let holder : Holder := { call := call, env := env, pending := pending, answers := gateAnswers repository ∅ asked }
    let served := queue.step codec (call, holder.environment)
    (machine codec).step ((machine codec).runFrom ⟨queue, repository, none⟩ (.enter call env :: inspections asked ++
      List.replicate pending.length .sweep)) .leave = (.queue served.1, ⟨served.2, repository, none⟩) := by
  intro pending holder
  have hAsked : (machine codec).runFrom ⟨queue, repository, none⟩ (.enter call env :: inspections asked) =
      ⟨queue, repository, some holder⟩ := run_inspects queue repository { holder with answers := ∅ } asked
  rw [Machine.runFrom_append, hAsked, run_sweeps, ← opened_eq_foldl queue holder]
  change System.leave codec _ { holder with pending := [] } = _
  unfold leave MemoryActionQueue.step
  change (match (queue.opened codec (call, holder.environment)).perform codec (call, holder.environment) with
    | .ok (answer, queue') => _
    | .error failure => _ : Outcome × System) = _
  cases (queue.opened codec (call, holder.environment)).perform codec (call, holder.environment) <;> rfl

end System

end AiopsSystem.Finalization
