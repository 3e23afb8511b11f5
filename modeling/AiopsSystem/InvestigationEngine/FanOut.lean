import AiopsSystem.InvestigationEngine.Engine
import AiopsSystem.Machine.Pool
import Mathlib.Order.WellFounded

/-! # Every interleaving of an investigation

A goroutine's step is described once: what it holds, what the channels hold and what is
left to do change together. The bounds, the absence of deadlocks and the report follow.
-/

namespace AiopsSystem.InvestigationEngine

open Go Pool

namespace Goroutine

def holds (semaphore : Semaphore) (goroutine : Goroutine) : Nat :=
  match semaphore, goroutine.position with
  | .global, .running | .global, .leavingGlobal => 1
  | .source name, .atGlobal | .source name, .running | .source name, .leavingGlobal | .source name, .leavingSource =>
    if goroutine.task.source = name then 1 else 0
  | _, _ => 0

variable (goroutine : Goroutine)

/-- Its share of the wait group. -/
def alive : Nat :=
  match goroutine.position with
  | .unspawned | .done => 0
  | _ => 1

/-- The number of steps it can still take. -/
def remaining : Nat :=
  match goroutine.position with
  | .unspawned => 7
  | .atSource => 6
  | .atGlobal => 5
  | .running => 4
  | .leavingGlobal => 3
  | .leavingSource => 2
  | .leaving => 1
  | .done => 0

end Goroutine

/-- What a goroutine that waits for it still has to do. -/
def Semaphore.awaited : Semaphore → Nat
  | .global => 5
  | .source _ => 6

theorem Goroutine.further_of_holds {semaphore : Semaphore} (goroutine : Goroutine)
    (h : goroutine.holds semaphore ≠ 0) : goroutine.alive ≠ 0 ∧ goroutine.remaining < semaphore.awaited := by
  obtain ⟨task, position, outcome⟩ := goroutine
  cases semaphore <;> cases position <;> simp_all [holds, alive, remaining, Semaphore.awaited]

def Answers (task : Task) : Except Failure Evidence → Prop
  | .ok evidence => evidence.taskID = task.id ∧ evidence.source = task.source
  | .error failure => failure.taskID = task.id ∧ failure.source = task.source

def Outcome.of : Except Failure Evidence → Outcome
  | .ok evidence => { evidence := evidence }
  | .error failure => { failure := failure }

/-- From its deferred calls on a goroutine has left one answer. -/
def Goroutine.Settled (goroutine : Goroutine) : Prop :=
  goroutine.remaining ≤ 3 → ∃ answer, Answers goroutine.task answer ∧ goroutine.outcome = Outcome.of answer

/-- What one step of a goroutine can do. -/
structure Advances (engine : Engine) (state : State) (goroutine : Goroutine) (state' : State) (goroutine' : Goroutine) :
    Prop where
  task : goroutine'.task = goroutine.task
  remaining : goroutine'.remaining < goroutine.remaining
  settled : goroutine.Settled → goroutine'.Settled
  frame : state' = { state with channels := state'.channels, group := state'.group }
  group : state'.group + goroutine.alive = state.group + goroutine'.alive
  held : ∀ semaphore, state'.channels semaphore + goroutine.holds semaphore =
    state.channels semaphore + goroutine'.holds semaphore
  room : ∀ semaphore, state'.channels semaphore ≤ state.channels semaphore ∨
    (state'.channels semaphore : Int) ≤ engine.capacity semaphore

section Step

variable {library : Library} {engine : Engine} {investigationID : GoString} {state state' : State}
  {goroutine goroutine' : Goroutine}

theorem collected_answers (task : Task) (behaviour : Behaviour) (evidenceID : GoString) :
    ∃ answer, Answers task answer ∧ collected library investigationID task behaviour evidenceID = Outcome.of answer := by
  unfold collected
  split
  · exact ⟨.error _, ⟨rfl, rfl⟩, rfl⟩
  · split
    · exact ⟨.error _, ⟨rfl, rfl⟩, rfl⟩
    · rename_i hValid
      exact ⟨.ok _, ⟨rfl, not_not.mp (not_or.mp hValid).1⟩, rfl⟩

/-- A step without a channel. -/
theorem Advances.quiet (hTask : goroutine'.task = goroutine.task) (hRemaining : goroutine'.remaining < goroutine.remaining)
    (hSettled : goroutine.Settled → goroutine'.Settled) (hFrame : state' = { state with group := state'.group })
    (hGroup : state'.group + goroutine.alive = state.group + goroutine'.alive)
    (hHolds : ∀ semaphore, goroutine'.holds semaphore = goroutine.holds semaphore) :
    Advances engine state goroutine state' goroutine' := by
  have hChannels : state'.channels = state.channels := by rw [hFrame]
  refine ⟨hTask, hRemaining, hSettled, ?_, hGroup, ?_, ?_⟩
  · rw [hChannels]
    exact hFrame
  · intro semaphore
    rw [hChannels, hHolds]
  · intro semaphore
    exact .inl (by rw [hChannels])

/-- A step at one channel. -/
theorem Advances.channel {semaphore : Semaphore} {length : Nat} (hTask : goroutine'.task = goroutine.task)
    (hRemaining : goroutine'.remaining < goroutine.remaining) (hSettled : goroutine.Settled → goroutine'.Settled)
    (hAlive : goroutine'.alive = goroutine.alive)
    (hHeld : length + goroutine.holds semaphore = state.channels semaphore + goroutine'.holds semaphore)
    (hOthers : ∀ other ≠ semaphore, goroutine'.holds other = goroutine.holds other)
    (hRoom : length ≤ state.channels semaphore ∨ (length : Int) ≤ engine.capacity semaphore) :
    Advances engine state goroutine { state with channels := Function.update state.channels semaphore length }
      goroutine' := by
  refine ⟨hTask, hRemaining, hSettled, rfl, by rw [hAlive], ?_, ?_⟩
  · intro other
    rcases eq_or_ne other semaphore with rfl | hOther
    · simpa only [Function.update_self] using hHeld
    · simp only [Function.update_of_ne hOther, hOthers other hOther]
  · intro other
    rcases eq_or_ne other semaphore with rfl | hOther
    · simpa only [Function.update_self] using hRoom
    · simp only [Function.update_of_ne hOther, le_refl, true_or]

theorem goroutineStep_advances {choice : Choice} (hGroup : goroutine.alive ≤ state.group)
    (h : goroutineStep library engine investigationID state goroutine choice = some (state', goroutine')) :
    Advances engine state goroutine state' goroutine' := by
  obtain ⟨task, position, outcome⟩ := goroutine
  unfold goroutineStep at h
  cases choice with
  | send =>
    cases position with
    | atSource | atGlobal =>
      simp only [acquire, Option.map_eq_some_iff, Option.ite_none_right_eq_some, Option.some.injEq, Prod.mk.injEq] at h
      obtain ⟨_, ⟨hRoom, rfl⟩, rfl, rfl⟩ := h
      refine .channel rfl (by simp [Goroutine.remaining]) (by simp [Goroutine.Settled, Goroutine.remaining]) rfl
        (by simp [Goroutine.holds]) ?_ (.inr hRoom)
      rintro (_ | name) hOther <;> simp_all [Goroutine.holds, eq_comm]
    | _ => cases h
  | contextDone =>
    cases hCancelled : state.cancelled with
    | false =>
      rw [hCancelled] at h
      cases h
    | true =>
      rw [hCancelled] at h
      cases position with
      | atSource | atGlobal =>
        cases h
        exact .quiet rfl (by simp [Goroutine.remaining, Goroutine.cancelled]) (fun _ _ => ⟨.error _, ⟨rfl, rfl⟩, rfl⟩)
          rfl rfl (by rintro (_ | _) <;> rfl)
      | _ => cases h
  | finish behaviour evidenceID =>
    cases position with
    | running =>
      cases h
      exact .quiet rfl (by simp [Goroutine.remaining]) (fun _ _ => collected_answers task behaviour evidenceID) rfl rfl
        (by rintro (_ | _) <;> rfl)
    | _ => cases h
  | deferred =>
    cases position with
    | leavingGlobal | leavingSource =>
      simp only [release, Option.map_eq_some_iff, Option.ite_none_right_eq_some, Option.some.injEq, Prod.mk.injEq] at h
      obtain ⟨_, ⟨hSome, rfl⟩, rfl, rfl⟩ := h
      refine .channel rfl (by simp [Goroutine.remaining]) (fun hSettled _ => hSettled (by simp [Goroutine.remaining])) rfl
        ?_ ?_ (.inl (Nat.sub_le _ _))
      · simp only [Goroutine.holds, if_true]
        omega
      · rintro (_ | name) hOther <;> simp_all [Goroutine.holds, eq_comm]
    | leaving =>
      cases h
      refine .quiet rfl (by simp [Goroutine.remaining]) (fun hSettled _ => hSettled (by simp [Goroutine.remaining])) rfl
        ?_ (by rintro (_ | _) <;> rfl)
      simp only [Goroutine.alive] at hGroup ⊢
      omega
    | _ => cases h

end Step

/-- The channels and the wait group hold what the goroutines hold. -/
structure Coherent (engine : Engine) (investigationID : GoString) (tasks : List Task) (state : State) : Prop where
  tasks : state.goroutines.map (·.task) = tasks
  settled : ∀ goroutine ∈ state.goroutines, goroutine.Settled
  group : state.group = load Goroutine.alive state.goroutines
  held : ∀ semaphore, state.channels semaphore = load (Goroutine.holds semaphore) state.goroutines
  room : ∀ semaphore, (state.channels semaphore : Int) ≤ engine.capacity semaphore
  returned : ∀ report failed, state.returned = some (report, failed) →
    (∀ goroutine ∈ state.goroutines, goroutine.remaining = 0) ∧
      report = reportOf investigationID (state.goroutines.map (·.outcome))

/-- What is left for all of them, for the context and for `Run` itself. -/
def State.remaining (state : State) : Nat :=
  load Goroutine.remaining state.goroutines + (if state.cancelled then 0 else 1) + if state.returned = none then 1 else 0

section Runs

variable {library : Library} {engine : Engine} {investigationID : GoString} {tasks : List Task} {state state' : State}
  {goroutine goroutine' : Goroutine} {index : Nat}

theorem capacity_pos (engine : Engine) (semaphore : Semaphore) : 0 < engine.capacity semaphore := by
  cases semaphore with
  | global => exact engine.parallel.1
  | source => exact engine.perSource.1

section Coherent

variable (h : Coherent engine investigationID tasks state)
include h

theorem Coherent.put (hAt : state.goroutines[index]? = some goroutine)
    (hAdvances : Advances engine state goroutine state' goroutine') :
    Coherent engine investigationID tasks (state'.put index goroutine') ∧
      (state'.put index goroutine').remaining < state.remaining := by
  have hMember := List.mem_of_getElem? hAt
  have hSet := load_set hAt
  have hLess := hAdvances.remaining
  rw [hAdvances.frame]
  refine ⟨⟨?_, ?_, ?_, ?_, ?_, ?_⟩, ?_⟩
  · obtain ⟨_, rfl⟩ := List.getElem?_eq_some_iff.mp hAt
    simp only [State.put, List.map_set, hAdvances.task]
    rw [← List.map_set, List.set_getElem_self, h.tasks]
  · intro other hOther
    rcases List.mem_or_eq_of_mem_set hOther with hOther | rfl
    · exact h.settled other hOther
    · exact hAdvances.settled (h.settled _ hMember)
  · have hChange := hAdvances.group
    have hLoad := hSet Goroutine.alive goroutine'
    rw [h.group] at hChange
    simp only [State.put]
    omega
  · intro semaphore
    have hChange := hAdvances.held semaphore
    have hLoad := hSet (Goroutine.holds semaphore) goroutine'
    rw [h.held] at hChange
    simp only [State.put]
    omega
  · intro semaphore
    have hRoom := h.room semaphore
    simp only [State.put]
    rcases hAdvances.room semaphore with hLower | hLower <;> omega
  · intro report failed hReturned
    have hDone := (h.returned report failed hReturned).1 goroutine hMember
    omega
  · have hLoad := hSet Goroutine.remaining goroutine'
    have hTotal : load Goroutine.remaining (state.goroutines.set index goroutine') <
        load Goroutine.remaining state.goroutines := by omega
    exact Nat.add_lt_add_right (Nat.add_lt_add_right hTotal _) _

theorem Coherent.alive_le (hMember : goroutine ∈ state.goroutines) : goroutine.alive ≤ state.group := by
  rw [h.group]
  exact le_load hMember

theorem Coherent.step {event : Event} (hStep : step library engine investigationID state event = some state') :
    Coherent engine investigationID tasks state' ∧ state'.remaining < state.remaining := by
  cases event with
  | spawn =>
    simp only [InvestigationEngine.step, Option.bind_eq_bind, Option.bind_eq_some_iff] at hStep
    obtain ⟨index, hIndex, goroutine, hAt, hPut⟩ := hStep
    cases hPut
    obtain ⟨_, hPosition, _⟩ := List.findIdx?_eq_some_iff_getElem.mp hIndex
    obtain ⟨_, hSame⟩ := List.getElem?_eq_some_iff.mp hAt
    rw [hSame] at hPosition
    refine h.put hAt ?_
    obtain ⟨task, position, outcome⟩ := goroutine
    cases of_decide_eq_true hPosition
    exact .quiet rfl (by simp [Goroutine.remaining]) (by simp [Goroutine.Settled, Goroutine.remaining]) rfl rfl
      (by rintro (_ | _) <;> rfl)
  | cancel =>
    simp only [InvestigationEngine.step, Option.ite_none_left_eq_some, Option.some.injEq] at hStep
    obtain ⟨hCancelled, rfl⟩ := hStep
    refine ⟨{ h with }, ?_⟩
    simp [State.remaining, hCancelled]
  | goroutine index choice =>
    simp only [InvestigationEngine.step, Option.bind_eq_bind, Option.bind_eq_some_iff] at hStep
    obtain ⟨_, hAt, _, hNext, hPut⟩ := hStep
    cases hPut
    exact h.put hAt (goroutineStep_advances (h.alive_le (List.mem_of_getElem? hAt)) hNext)
  | wait =>
    simp only [InvestigationEngine.step, Option.ite_none_right_eq_some, Option.some.injEq] at hStep
    obtain ⟨⟨hRunning, hGroup, hSpawned⟩, rfl⟩ := hStep
    refine ⟨{ h with returned := ?_ }, by simp [State.remaining, hRunning]⟩
    rintro report failed ⟨⟩
    refine ⟨?_, rfl⟩
    intro goroutine hMember
    have hZero := h.alive_le hMember
    have hPosition := hSpawned goroutine hMember
    rw [hGroup, Nat.le_zero] at hZero
    unfold Goroutine.alive at hZero
    unfold Goroutine.remaining
    split at hZero <;> simp_all

theorem Coherent.run {events : List Event} (hRun : run library engine investigationID state events = some state') :
    Coherent engine investigationID tasks state' ∧ state'.remaining + events.length ≤ state.remaining := by
  induction events generalizing state with
  | nil =>
    cases hRun
    exact ⟨h, le_rfl⟩
  | cons event _ ih =>
    obtain ⟨_, hStep, hRest⟩ := Option.bind_eq_some_iff.mp hRun
    obtain ⟨hNext, hLess⟩ := h.step hStep
    obtain ⟨hLast, hLength⟩ := ih hNext hRest
    rw [List.length_cons]
    exact ⟨hLast, by omega⟩

/-- The goroutine that has come furthest never waits: a slot is held only by those further on. -/
theorem Coherent.furthest_steps (library : Library) (hMember : goroutine ∈ state.goroutines)
    (hAlive : goroutine.alive ≠ 0)
    (hFurthest : ∀ other ∈ state.goroutines, other.alive ≠ 0 → goroutine.remaining ≤ other.remaining) :
    ∃ choice, (goroutineStep library engine investigationID state goroutine choice).isSome = true := by
  have hAcquire : ∀ semaphore : Semaphore, semaphore.awaited ≤ goroutine.remaining →
      (acquire engine state semaphore).isSome = true := by
    intro semaphore hAwaited
    have hEmpty : load (Goroutine.holds semaphore) state.goroutines = 0 := by
      refine load_eq_zero ?_
      intro other hOther
      by_contra hHolds
      obtain ⟨hAlive, hFurther⟩ := other.further_of_holds hHolds
      have hLeast := hFurthest other hOther hAlive
      omega
    simp [acquire, h.held, hEmpty, capacity_pos]
  have hRelease : ∀ semaphore, goroutine.holds semaphore ≠ 0 → (release state semaphore).isSome = true := by
    intro semaphore hHolds
    have hLoad : 0 < state.channels semaphore := h.held semaphore ▸ (Nat.pos_of_ne_zero hHolds).trans_le (le_load hMember)
    simp [release, hLoad]
  obtain ⟨task, position, outcome⟩ := goroutine
  cases position with
  | unspawned | done => exact absurd rfl hAlive
  | atSource => exact ⟨.send, Option.isSome_map.trans (hAcquire (.source task.source) le_rfl)⟩
  | atGlobal => exact ⟨.send, Option.isSome_map.trans (hAcquire .global le_rfl)⟩
  | running => exact ⟨.finish .panicked [], rfl⟩
  | leavingGlobal => exact ⟨.deferred, Option.isSome_map.trans (hRelease .global (by simp [Goroutine.holds]))⟩
  | leavingSource =>
    exact ⟨.deferred, Option.isSome_map.trans (hRelease (.source task.source) (by simp [Goroutine.holds]))⟩
  | leaving => exact ⟨.deferred, rfl⟩

/-- Unless `Run` has returned something can happen, and not only a cancellation. -/
theorem Coherent.progress (hReturned : state.returned = none) :
    ∃ event, event ≠ .cancel ∧ (InvestigationEngine.step library engine investigationID state event).isSome = true := by
  by_cases hSpawned : ∀ goroutine ∈ state.goroutines, goroutine.position ≠ .unspawned
  · by_cases hDone : ∀ goroutine ∈ state.goroutines, goroutine.alive = 0
    · have hGroup := h.group.trans (load_eq_zero hDone)
      exact ⟨.wait, nofun, by rw [InvestigationEngine.step, if_pos ⟨hReturned, hGroup, hSpawned⟩]; rfl⟩
    · push Not at hDone
      obtain ⟨goroutine, ⟨hMember, hAlive⟩, hLeast⟩ := (measure Goroutine.remaining).wf.has_min
        { goroutine | goroutine ∈ state.goroutines ∧ goroutine.alive ≠ 0 } hDone
      obtain ⟨choice, hChoice⟩ := h.furthest_steps library hMember hAlive
        fun other hOther hAlive => not_lt.mp (hLeast other ⟨hOther, hAlive⟩)
      obtain ⟨_, hNext⟩ := Option.isSome_iff_exists.mp hChoice
      obtain ⟨index, hAt⟩ := List.mem_iff_getElem?.mp hMember
      exact ⟨.goroutine index choice, nofun, by simp [InvestigationEngine.step, hAt, hNext]⟩
  · cases hIndex : state.goroutines.findIdx? (·.position = .unspawned) with
    | none => exact absurd (by simpa using hIndex) hSpawned
    | some index =>
      obtain ⟨hBound, _⟩ := List.findIdx?_eq_some_iff_getElem.mp hIndex
      exact ⟨.spawn, nofun, by simp [InvestigationEngine.step, hIndex, hBound]⟩

end Coherent

theorem start_coherent (cancelled : Bool) : Coherent engine investigationID tasks (start cancelled tasks) := by
  have hNone : ∀ {weight : Goroutine → Nat}, (∀ task, weight ⟨task, .unspawned, {}⟩ = 0) →
      0 = load weight (start cancelled tasks).goroutines := by
    intro weight hWeight
    refine (load_eq_zero ?_).symm
    intro goroutine hMember
    obtain ⟨task, _, rfl⟩ := List.mem_map.mp hMember
    exact hWeight task
  refine ⟨by simp [start, Function.comp_def], ?_, hNone fun _ => rfl, ?_, ?_, nofun⟩
  · intro goroutine hMember
    obtain ⟨task, _, rfl⟩ := List.mem_map.mp hMember
    simp [Goroutine.Settled, Goroutine.remaining]
  · intro semaphore
    exact hNone fun _ => by cases semaphore <;> rfl
  · exact fun semaphore => (capacity_pos engine semaphore).le

theorem start_remaining (cancelled : Bool) (tasks : List Task) :
    (start cancelled tasks).remaining ≤ 7 * tasks.length + 2 := by
  have hLoad : load Goroutine.remaining (start cancelled tasks).goroutines = 7 * tasks.length := by
    unfold start
    induction tasks with
    | nil => rfl
    | cons _ _ ih =>
      rw [load, List.map_cons, List.map_cons, List.sum_cons, List.length_cons, Nat.mul_succ, Nat.add_comm]
      exact congrArg (· + 7) ih
  unfold State.remaining
  rw [hLoad]
  split <;> split <;> omega

theorem exists_answers {goroutines : List Goroutine} (h : ∀ goroutine ∈ goroutines,
      ∃ answer, Answers goroutine.task answer ∧ goroutine.outcome = Outcome.of answer) :
    ∃ answers, List.Forall₂ Answers (goroutines.map (·.task)) answers ∧
      goroutines.map (·.outcome) = answers.map Outcome.of := by
  induction goroutines with
  | nil => exact ⟨[], .nil, rfl⟩
  | cons goroutine _ ih =>
    obtain ⟨answer, hAnswer, hOutcome⟩ := h goroutine List.mem_cons_self
    obtain ⟨answers, hAnswers, hOutcomes⟩ := ih fun other hOther => h other (List.mem_cons_of_mem _ hOther)
    exact ⟨answer :: answers, .cons hAnswer hAnswers, by rw [List.map_cons, List.map_cons, hOutcome, hOutcomes]⟩

theorem checkTasks_nodup {seen : List GoString} (h : checkTasks library seen tasks = .ok ()) :
    (tasks.map (·.id)).Nodup ∧ ∀ task ∈ tasks, task.id ∉ seen := by
  induction tasks generalizing seen with
  | nil => exact ⟨List.nodup_nil, nofun⟩
  | cons task _ ih =>
    simp only [checkTasks, bind_eq_ok, require_eq_ok] at h
    obtain ⟨_, _, _, hFresh, hRest⟩ := h
    obtain ⟨hNodup, hLater⟩ := ih hRest
    simp only [List.mem_cons, not_or] at hLater
    refine ⟨List.nodup_cons.mpr ⟨?_, hNodup⟩,
      List.forall_mem_cons.mpr ⟨hFresh, fun other hOther => (hLater other hOther).2⟩⟩
    intro hMember
    obtain ⟨other, hOther, hSame⟩ := List.mem_map.mp hMember
    exact (hLater other hOther).1 hSame

theorem newEngine_ok {options : Options} (h : newEngine options = .ok engine) : engine.options = options := by
  unfold newEngine at h
  split_ifs at h
  cases h
  rfl

/-- Whatever needs a slot is counted by its channel. -/
theorem Coherent.countP_le (h : Coherent engine investigationID tasks state) (semaphore : Semaphore)
    {p : Goroutine → Bool} (hHolds : ∀ goroutine, p goroutine = true → 1 ≤ goroutine.holds semaphore) :
    (state.goroutines.countP p : Int) ≤ engine.capacity semaphore := by
  have hLoad : state.goroutines.countP p ≤ state.channels semaphore := h.held semaphore ▸ countP_le_load hHolds
  exact (Int.ofNat_le.mpr hLoad).trans (h.room semaphore)

theorem Coherent.reports (h : Coherent engine investigationID tasks state) {report : Report} {failed : Bool}
    (hReturned : state.returned = some (report, failed)) :
    (∃ answers, List.Forall₂ Answers tasks answers ∧
      report.evidence = answers.filterMap (fun | .ok evidence => some evidence | .error _ => none) ∧
      report.failures = answers.filterMap (fun | .ok _ => none | .error failure => some failure)) ∧
    (report.status = .statusCompleted ↔ report.failures = []) := by
  obtain ⟨hDone, rfl⟩ := h.returned report failed hReturned
  obtain ⟨answers, hAnswers, hOutcomes⟩ := exists_answers fun goroutine hMember =>
    h.settled goroutine hMember (by rw [hDone goroutine hMember]; decide)
  rw [h.tasks] at hAnswers
  refine ⟨⟨answers, hAnswers, ?_, ?_⟩, ?_⟩
  · simp only [reportOf, hOutcomes, List.filterMap_map]
    exact congrArg (List.filterMap · answers) (funext fun answer => by cases answer <;> rfl)
  · simp only [reportOf, hOutcomes, List.filterMap_map]
    exact congrArg (List.filterMap · answers) (funext fun answer => by cases answer <;> rfl)
  · simp only [reportOf, List.length_pos_iff]
    split <;> simp_all

end Runs

/-- In every interleaving of an admitted list of tasks, under every behaviour of the task functions and wherever the
context is cancelled, at most `MaxParallel` task functions run at once and at most `MaxPerSource` of one source; until
`Run` returns something can always happen, and it happens at most so many times; what `Run` then reports is one
answer for each task, in the order of the tasks. -/
theorem fan_out_is_bounded (library : Library) {options : Options} {engine : Engine} (investigationID : GoString)
    (tasks : List Task) (cancelled : Bool) (events : List Event) {state : State}
    (hEngine : newEngine options = .ok engine) (hAdmitted : checkRun library engine investigationID tasks = .ok ())
    (hRun : run library engine investigationID (start cancelled tasks) events = some state) :
    (state.goroutines.countP (·.position = .running) : Int) ≤ options.maxParallel ∧
    (∀ source, (state.goroutines.countP (fun goroutine => goroutine.position = .running ∧
      goroutine.task.source = source) : Int) ≤ options.maxPerSource) ∧
    (state.returned = none →
      ∃ event, event ≠ .cancel ∧ (step library engine investigationID state event).isSome = true) ∧
    events.length ≤ 7 * tasks.length + 2 ∧
    ∀ report failed, state.returned = some (report, failed) → (tasks.map (·.id)).Nodup ∧
      (∃ answers, List.Forall₂ Answers tasks answers ∧
        report.evidence = answers.filterMap (fun | .ok evidence => some evidence | .error _ => none) ∧
        report.failures = answers.filterMap (fun | .ok _ => none | .error failure => some failure)) ∧
      (report.status = .statusCompleted ↔ report.failures = []) := by
  obtain rfl := newEngine_ok hEngine
  obtain ⟨hCoherent, hLength⟩ := (start_coherent cancelled).run hRun
  refine ⟨hCoherent.countP_le .global ?_, fun source => hCoherent.countP_le (.source source) ?_, hCoherent.progress, ?_, ?_⟩
  · intro goroutine hRunning
    simp [Goroutine.holds, of_decide_eq_true hRunning]
  · intro goroutine hRunning
    simp [Goroutine.holds, of_decide_eq_true hRunning]
  · have hStart := start_remaining cancelled tasks
    omega
  · intro report failed hReturned
    simp only [checkRun, bind_eq_ok, require_eq_ok] at hAdmitted
    obtain ⟨_, _, _, _, hChecked⟩ := hAdmitted
    exact ⟨(checkTasks_nodup hChecked).1, hCoherent.reports hReturned⟩

namespace Sample

def options : Options := ⟨3, 2, 1⟩

def engine : Engine := ⟨options, by decide, by decide, by decide⟩

def library : Library := ⟨id, fun _ => true⟩

def prometheus : GoString := ascii "prometheus"

def tasks : List Task := [⟨ascii "errors", prometheus, true⟩, ⟨ascii "latency", prometheus, true⟩,
  ⟨ascii "logs", ascii "loki", true⟩]

/-- The second task returns its result, the third panics, the first waits for its source until the context ends. -/
def events : List Event :=
  [.spawn, .spawn, .spawn, .goroutine 1 .send, .goroutine 2 .send, .goroutine 1 .send, .goroutine 2 .send, .cancel,
    .goroutine 0 .contextDone, .goroutine 2 (.finish .panicked []),
    .goroutine 1 (.finish (.returned ⟨prometheus, ascii "rate", 0, 0, [], false, []⟩) (ascii "evidence-1"))] ++
  ([1, 1, 1, 2, 2, 2, 0].map (.goroutine · .deferred)) ++ [.wait]

end Sample

theorem fan_out_is_bounded_sample : ∃ state report failed,
    run Sample.library Sample.engine (ascii "case") (start false Sample.tasks) Sample.events = some state ∧
      state.returned = some (report, failed) ∧ (report.status = .statusCompleted ↔ report.failures = []) := by
  have hRun : (run Sample.library Sample.engine (ascii "case") (start false Sample.tasks) Sample.events).any
      (fun state => state.returned.isSome) = true := by
    decide
  obtain ⟨state, hState, hReturned⟩ := (Option.any_eq_true _ _).mp hRun
  obtain ⟨⟨report, failed⟩, hReport⟩ := Option.isSome_iff_exists.mp hReturned
  have hEngine : newEngine Sample.options = .ok Sample.engine := rfl
  obtain ⟨_, _, _, _, hReports⟩ :=
    fan_out_is_bounded Sample.library (ascii "case") Sample.tasks false Sample.events hEngine rfl hState
  exact ⟨state, report, failed, hState, hReport, (hReports report failed hReport).2.2⟩

end AiopsSystem.InvestigationEngine
