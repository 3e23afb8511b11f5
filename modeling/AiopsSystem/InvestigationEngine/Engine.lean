import AiopsSystem.Go.Attempt
import AiopsSystem.Go.Text
import Mathlib.Logic.Function.Basic

/-! # The engine of an investigation

`Engine.Run` starts one goroutine for each task. Every operation at which goroutines
can meet (a channel, the wait group, the context) is one event; what a task function
does is part of the event in which it ends.
-/

namespace AiopsSystem.InvestigationEngine

open Go

structure Options where
  maxTools : Int
  maxParallel : Int
  maxPerSource : Int

structure Engine where
  options : Options
  tools : 0 < options.maxTools ∧ options.maxTools ≤ 12
  parallel : 0 < options.maxParallel ∧ options.maxParallel ≤ options.maxTools
  perSource : 0 < options.maxPerSource ∧ options.maxPerSource ≤ options.maxParallel

def newEngine (options : Options) : Except GoString Engine :=
  if hTools : 0 < options.maxTools ∧ options.maxTools ≤ 12 then
    if hParallel : 0 < options.maxParallel ∧ options.maxParallel ≤ options.maxTools then
      if hPerSource : 0 < options.maxPerSource ∧ options.maxPerSource ≤ options.maxParallel then
        .ok ⟨options, hTools, hParallel, hPerSource⟩
      else .error (ascii "max per source must be between 1 and max parallel")
    else .error (ascii "max parallel must be between 1 and max tools")
  else .error (ascii "max tools must be between 1 and 12")

structure Result where
  source : GoString
  query : GoString
  collectedAt : Int
  itemCount : Int
  contentHash : GoString
  truncated : Bool
  items : List GoString

structure Evidence extends Result where
  id : GoString
  investigationID : GoString
  taskID : GoString

structure Failure where
  taskID : GoString
  source : GoString
  code : GoString

structure Task where
  id : GoString
  source : GoString
  hasRun : Bool

inductive Status where
  | statusCompleted
  | statusPartial
deriving DecidableEq

structure Report where
  investigationID : GoString
  status : Status
  evidence : List Evidence
  failures : List Failure

/-- What the engine takes from other packages. -/
structure Library where
  /-- `fmt.Sprintf("%q", value)` -/
  quoted : GoString → GoString
  /-- `connectors.ValidateResult(result) == nil` -/
  validResult : Result → Bool

/-- `^[a-z0-9][a-z0-9_.-]{0,127}$` -/
def validFailureCode (value : GoString) : Bool :=
  value.length ≤ 128 && matchesHeadTail (fun b => isLower b || isDigit b)
    (fun b => isLower b || isDigit b || b == 95 || b == 46 || b == 45) value

def checkedCode (code : GoString) : GoString := if validFailureCode code then code else ascii "collection_failed"

def taskFailure (task : Task) (code : GoString) : Failure := ⟨task.id, task.source, checkedCode code⟩

/-- How a task function ends; an error comes with the code of the first error of its chain that has one. -/
inductive Behaviour where
  | returned (result : Result)
  | failed (code : Option GoString)
  | panicked

def runSafely : Behaviour → Except (Option GoString) Result
  | .returned result => .ok result
  | .failed code => .error code
  | .panicked => .error (some (checkedCode (ascii "collector_panic")))

def collectionErrorCode (code : Option GoString) : GoString := checkedCode (code.getD [])

structure Outcome where
  evidence : Option Evidence := none
  failure : Option Failure := none

/-- Where a goroutine stands: before one of its acquires, in the task function, before one of its deferred calls. -/
inductive Position where
  | unspawned
  | atSource
  | atGlobal
  | running
  | leavingGlobal
  | leavingSource
  | leaving
  | done
deriving DecidableEq

structure Goroutine where
  task : Task
  position : Position
  outcome : Outcome

inductive Semaphore where
  | global
  | source (name : GoString)
deriving DecidableEq

structure State where
  cancelled : Bool
  /-- The number of elements in each channel. -/
  channels : Semaphore → Nat
  group : Nat
  goroutines : List Goroutine
  /-- The report that `Run` returned, and whether `ctx.Err()` came with it. -/
  returned : Option (Report × Bool)

inductive Choice where
  | send
  | contextDone
  | finish (behaviour : Behaviour) (evidenceID : GoString)
  | deferred

inductive Event where
  | spawn
  | cancel
  | goroutine (index : Nat) (choice : Choice)
  | wait

section Run

variable (library : Library) (engine : Engine) (investigationID : GoString)

def checkTasks (seen : List GoString) : List Task → Except GoString Unit
  | [] => .ok ()
  | task :: rest => do
    require (task.id ≠ [] ∧ task.source ≠ [] ∧ task.hasRun = true) (ascii "task id, source and runner are required")
    require (task.id ∉ seen) (ascii "duplicate task id " ++ library.quoted task.id)
    checkTasks (task.id :: seen) rest

/-- What `Run` checks before it starts a goroutine. -/
def checkRun (tasks : List Task) : Except GoString Unit := do
  require (investigationID ≠ []) (ascii "investigation id is required")
  require (tasks ≠ [] ∧ (tasks.length : Int) ≤ engine.options.maxTools)
    (ascii "tool count must be between 1 and " ++ formatInt engine.options.maxTools)
  checkTasks library [] tasks

def collected (task : Task) (behaviour : Behaviour) (evidenceID : GoString) : Outcome :=
  match runSafely behaviour with
  | .error code => { failure := taskFailure task (collectionErrorCode code) }
  | .ok result =>
    if result.source ≠ task.source ∨ library.validResult result = false then
      { failure := taskFailure task (ascii "invalid_evidence_contract") }
    else { evidence := some { result with id := evidenceID, investigationID := investigationID, taskID := task.id } }

def reportOf (outcomes : List Outcome) : Report where
  investigationID := investigationID
  status := if 0 < (outcomes.filterMap (·.failure)).length then .statusPartial else .statusCompleted
  evidence := outcomes.filterMap (·.evidence)
  failures := outcomes.filterMap (·.failure)

def Engine.capacity : Semaphore → Int
  | .global => engine.options.maxParallel
  | .source _ => engine.options.maxPerSource

def acquire (state : State) (semaphore : Semaphore) : Option State :=
  if (state.channels semaphore : Int) < engine.capacity semaphore then
    some { state with channels := Function.update state.channels semaphore (state.channels semaphore + 1) }
  else none

def release (state : State) (semaphore : Semaphore) : Option State :=
  if 0 < state.channels semaphore then
    some { state with channels := Function.update state.channels semaphore (state.channels semaphore - 1) }
  else none

def Goroutine.cancelled (goroutine : Goroutine) (position : Position) : Goroutine :=
  { goroutine with
    position := position, outcome := { failure := taskFailure goroutine.task (ascii "context_cancelled") } }

/-- One step of a goroutine; `none` where it waits or the choice is not the one it stands before. -/
def goroutineStep (state : State) (goroutine : Goroutine) : Choice → Option (State × Goroutine)
  | .send =>
    match goroutine.position with
    | .atSource => (acquire engine state (.source goroutine.task.source)).map (·, { goroutine with position := .atGlobal })
    | .atGlobal => (acquire engine state .global).map (·, { goroutine with position := .running })
    | _ => none
  | .contextDone =>
    match state.cancelled, goroutine.position with
    | true, .atSource => some (state, goroutine.cancelled .leaving)
    | true, .atGlobal => some (state, goroutine.cancelled .leavingSource)
    | _, _ => none
  | .finish behaviour evidenceID =>
    match goroutine.position with
    | .running => some (state, { goroutine with
        position := .leavingGlobal
        outcome := collected library investigationID goroutine.task behaviour evidenceID })
    | _ => none
  | .deferred =>
    match goroutine.position with
    | .leavingGlobal => (release state .global).map (·, { goroutine with position := .leavingSource })
    | .leavingSource =>
      (release state (.source goroutine.task.source)).map (·, { goroutine with position := .leaving })
    | .leaving => some ({ state with group := state.group - 1 }, { goroutine with position := .done })
    | _ => none

def State.put (state : State) (index : Nat) (goroutine : Goroutine) : State :=
  { state with goroutines := state.goroutines.set index goroutine }

def step (state : State) : Event → Option State
  | .spawn => do
    let index ← state.goroutines.findIdx? (·.position = .unspawned)
    let goroutine ← state.goroutines[index]?
    some ({ state with group := state.group + 1 }.put index { goroutine with position := .atSource })
  | .cancel => if state.cancelled then none else some { state with cancelled := true }
  | .goroutine index choice => do
    let goroutine ← state.goroutines[index]?
    let (state', goroutine') ← goroutineStep library engine investigationID state goroutine choice
    some (state'.put index goroutine')
  | .wait =>
    if state.returned = none ∧ state.group = 0 ∧ ∀ goroutine ∈ state.goroutines, goroutine.position ≠ .unspawned then
      some { state with
        returned := some (reportOf investigationID (state.goroutines.map (·.outcome)), state.cancelled) }
    else none

/-- The state in which `Run` enters its loop over the tasks. -/
def start (cancelled : Bool) (tasks : List Task) : State where
  cancelled := cancelled
  channels _ := 0
  group := 0
  goroutines := tasks.map (fun task => { task := task, position := .unspawned, outcome := {} })
  returned := none

/-- The state after these events, if each of them could happen when it came. -/
def run (state : State) (events : List Event) : Option State := events.foldlM (step library engine investigationID) state

end Run

end AiopsSystem.InvestigationEngine
