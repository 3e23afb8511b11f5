import AiopsSystem.Execution.MemoryActionQueue
import AiopsSystem.Machine.Run

/-! # The action queue as a machine

A call is served in two phases under the lock. Some calls first sweep expired
leases, and what the sweep wrote stays even when the call then fails; after
that the operation itself either fails without writing or returns its answer.
-/

namespace AiopsSystem.Execution

open Go AiopsSystem.Action ExecutionLease

inductive Call where
  | submit (submission : ActionSubmission)
  | claim (request : ActionClaimRequest)
  | start (fence : LeaseIdentity)
  | heartbeat (request : ActionHeartbeatRequest)
  | complete (request : ActionCompleteRequest)
  | finalize (fence : LeaseIdentity)
  | reject (request : ActionRejectRequest)
  | nack (request : ActionNackRequest)
  | reconcile (request : ReconcileRequest)
  | cancel (executionID : GoString)
  | sweepExpired
  | get (executionID : GoString)

inductive Answer where
  | execution (value : Execution)
  | claimed (value : ClaimedAction)
  | heartbeat (value : ActionHeartbeatResult)
  | done
deriving DecidableEq

abbrev Reply := Except QueueError Answer

def Call.sweepGuard : Call → Option (Except QueueError Unit)
  | .claim request => some (validateRunnerScope request)
  | .reconcile request => some (require (validIdentifier request.executionID 256 ∧
      validIdentifier request.reconciliationID 256 ∧ validIdentifier request.actorID 256 ∧
      (request.status = .succeeded ∨ request.status = .failed) ∧ matchesHex 64 request.resultHash) .invalidRequest)
  | .cancel executionID => some (require (validIdentifier executionID 256) .invalidRequest)
  | .sweepExpired => some (pure ())
  | .get executionID => some (require (validIdentifier executionID 256) .invalidRequest)
  | _ => none

/-- The clock reading a sweeping call obtains once its context and arguments are accepted. -/
def entry (guard : Except QueueError Unit) (env : Environment) : Except QueueError Int := do
  require (env.contextDone = false) .contextDone
  guard
  env.now

namespace MemoryActionQueue

variable (codec : Codec)

def opened (queue : MemoryActionQueue) (input : Call × Environment) : MemoryActionQueue :=
  match input.1.sweepGuard with
  | none => queue
  | some guard =>
    match entry guard input.2 with
    | .ok now => expireLocked codec input.2 now queue
    | .error _ => queue

def answering {α : Type} (answer : α → Answer) (body : Except QueueError (α × MemoryActionQueue)) :
    Except QueueError (Answer × MemoryActionQueue) :=
  body.map (fun result => (answer result.1, result.2))

def entered (call : Call) (env : Environment) : Except QueueError Int :=
  entry (call.sweepGuard.getD (pure ())) env

def perform (queue : MemoryActionQueue) (input : Call × Environment) :
    Except QueueError (Answer × MemoryActionQueue) :=
  match input with
  | (.submit submission, env) => answering .execution (queue.submit codec env submission)
  | (.claim request, env) => do
    let now ← entered (.claim request) env
    answering .claimed (queue.claim env request now)
  | (.start fence, env) => answering .execution (queue.start env fence)
  | (.heartbeat request, env) => answering .heartbeat (queue.heartbeat env request)
  | (.complete request, env) => answering .execution (queue.complete codec env request)
  | (.finalize fence, env) => answering .execution (queue.finalize codec env fence)
  | (.reject request, env) => answering .execution (queue.reject codec env request)
  | (.nack request, env) => answering .execution (queue.nack codec env request)
  | (.reconcile request, env) => do
    let now ← entered (.reconcile request) env
    answering .execution (queue.reconcile env request now)
  | (.cancel executionID, env) => do
    let now ← entered (.cancel executionID) env
    answering .execution (queue.cancel codec env executionID now)
  | (.sweepExpired, env) => do
    let _ ← entered .sweepExpired env
    return (.done, queue)
  | (.get executionID, env) => do
    let _ ← entered (.get executionID) env
    answering .execution (queue.get executionID)

def step (queue : MemoryActionQueue) (input : Call × Environment) : Reply × MemoryActionQueue :=
  match (queue.opened codec input).perform codec input with
  | .ok (answer, queue') => (.ok answer, queue')
  | .error failure => (.error failure, queue.opened codec input)

def machine : Machine MemoryActionQueue (Call × Environment) Reply where
  init := newMemoryActionQueue
  step := step codec

end MemoryActionQueue

end AiopsSystem.Execution
