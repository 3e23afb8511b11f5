import AiopsSystem.Investigations.Idempotency

/-! # The life cycle of investigations

Four invariants, each over the tables it is about: the pointer to the active
investigation of an incident, the tasks of an investigation, the evidence of a
task, and the hypotheses. Each is kept by every write; together they say what an
investigation in a given status looks like.
-/

namespace AiopsSystem.Investigations

open Go Go.Section GoMap List

def OwnTask (repository : Repository) (item : Investigation) (task : ReadTask) : Prop :=
  repository.tasks.get? (scopeKey item.workspaceID task.id) = some task ∧ task.investigationID = item.id

def Pointed (repository : Repository) : Prop :=
  ∀ key item, repository.investigations.get? key = some item → item.active = true →
    item.id ≠ [] ∧ repository.activeInvestigation.get? (scopeKey item.workspaceID item.incidentID) = some item.id

structure Settled (repository : Repository) (item : Investigation) : Prop where
  ended : item.active = false → ∀ task, OwnTask repository item task → task.pending = false
  completed : item.status = .completed → ∀ task, OwnTask repository item task → task.status = .evidence
  partially : item.status = .partially → ∃ task, OwnTask repository item task ∧ task.status ≠ .evidence
  model : item.modelStatus = .running ∨ item.modelStatus = .completed →
    ∀ task, OwnTask repository item task → task.pending = false

structure TaskBook (repository : Repository) : Prop where
  listed : ∀ key task, repository.tasks.get? key = some task → ∃ ids,
    repository.taskIDsByInvestigation.get? (scopeKey task.workspaceID task.investigationID) = some ids ∧ task.id ∈ ids
  owned : ∀ key ids taskID, repository.taskIDsByInvestigation.get? key = some ids → taskID ∈ ids →
    ∃ task, repository.tasks.get? (scopeKey key.workspaceID taskID) = some task ∧ task.investigationID = key.resourceID
  settled : ∀ key item, repository.investigations.get? key = some item → Settled repository item

structure EvidenceBook (repository : Repository) : Prop where
  status : ∀ key task, repository.tasks.get? key = some task → task.pending = true ∨ task.ended = true
  held : ∀ key task, repository.tasks.get? key = some task → task.status = .evidence →
    ∃ record, repository.evidence.get? (scopeKey task.workspaceID task.evidenceID) = some record ∧
      record.taskID = task.id
  named : ∀ key record, repository.evidence.get? key = some record →
    ∃ task, repository.tasks.get? (scopeKey record.workspaceID record.taskID) = some task ∧
      task.status = .evidence ∧ task.evidenceID = record.id ∧ task.investigationID = record.investigationID

structure HypothesisBook (repository : Repository) : Prop where
  cited : ∀ key hypothesis, repository.hypotheses.get? key = some hypothesis →
    ∀ evidenceID ∈ hypothesis.evidenceIDs, ∃ record,
      repository.evidence.get? (scopeKey hypothesis.workspaceID evidenceID) = some record ∧
        record.investigationID = hypothesis.investigationID
  confirmed : ∀ key hypothesis, repository.hypotheses.get? key = some hypothesis → hypothesis.status = .confirmed →
    hypothesis.id ≠ [] ∧ ∃ incident,
      repository.incidents.get? (scopeKey hypothesis.workspaceID hypothesis.incidentID) = some incident ∧
        incident.confirmedHypothesisID = hypothesis.id

/-! ## The pointer to the active investigation -/

section Pointers

variable {repository repository' : Repository}

theorem Pointed.drop (h : Pointed repository) (hSound : Sound repository) (hDrop : Drop repository repository') :
    Pointed repository' := by
  cases hDrop with
  | incident => exact h
  | investigation incidentKey _ hPointer hEnded =>
    intro key item hItem hActive
    obtain ⟨hID, hOwn⟩ := h key item hItem hActive
    refine ⟨hID, ?_⟩
    have hOther : scopeKey item.workspaceID item.incidentID ≠ incidentKey := by
      rintro rfl
      rw [hOwn] at hPointer
      cases hPointer
      have hKey := hSound.investigations key item hItem
      rw [← hKey] at hItem
      have hFound : repository.investigations.get? (scopeKey item.workspaceID item.id) = some item := hItem
      rw [show (scopeKey item.workspaceID item.incidentID).workspaceID = item.workspaceID from rfl, hFound] at hEnded
      simp [Option.filter, hActive] at hEnded
    exact (get?_erase ..).trans ((if_neg hOther).trans hOwn)

variable {item next : Investigation}

theorem Pointed.replace (h : Pointed repository) {key : ScopeKey}
    (hItem : repository.investigations.get? key = some item) (hNext : item.Continues next)
    (hActive : next.active → item.active)
    (hInvestigations : repository'.investigations = repository.investigations.insert key next)
    (hPointers : repository'.activeInvestigation = repository.activeInvestigation) : Pointed repository' := by
  intro other found hFound hFoundActive
  rw [hInvestigations] at hFound
  rw [hPointers]
  rcases get?_insert_cases hFound with ⟨_, rfl⟩ | ⟨_, hBefore⟩
  · obtain ⟨hID, hWorkspace, hIncident⟩ := hNext.same
    rw [hID, hWorkspace, hIncident]
    exact h key item hItem (hActive hFoundActive)
  · exact h other found hBefore hFoundActive

theorem Pointed.close (h : Pointed repository) (hSound : Sound repository) {workspaceID investigationID : GoString}
    (hItem : repository.investigations.get? (scopeKey workspaceID investigationID) = some item)
    (hNext : item.Continues next) (hEnded : next.active = false)
    (hInvestigations : repository'.investigations =
      repository.investigations.insert (scopeKey workspaceID investigationID) next)
    (hPointers : repository'.activeInvestigation =
      repository.withoutActive (scopeKey workspaceID next.incidentID) next.id) : Pointed repository' := by
  intro other found hFound hFoundActive
  rw [hInvestigations] at hFound
  rcases get?_insert_cases hFound with ⟨_, rfl⟩ | ⟨hOther, hBefore⟩
  · rw [hEnded] at hFoundActive
    cases hFoundActive
  · obtain ⟨hID, hOwn⟩ := h other found hBefore hFoundActive
    refine ⟨hID, ?_⟩
    rw [hPointers, Repository.withoutActive]
    split
    · rename_i hPointer
      obtain ⟨hItemID, hWorkspace⟩ := hSound.investigation_id hItem
      have hNotSame : scopeKey found.workspaceID found.incidentID ≠ scopeKey workspaceID next.incidentID := by
        intro hSame
        rw [hSame, hPointer] at hOwn
        have hFoundID : found.id = investigationID :=
          (Option.some.inj hOwn).symm.trans (hNext.same.1.trans hItemID)
        have hFoundWorkspace : found.workspaceID = workspaceID := congrArg ScopeKey.workspaceID hSame
        have hKey : scopeKey found.workspaceID found.id = other := hSound.investigations other found hBefore
        rw [hFoundID, hFoundWorkspace] at hKey
        exact hOther hKey.symm
      exact (get?_erase ..).trans ((if_neg hNotSame).trans hOwn)
    · exact hOwn

theorem Ending.inactive {workspaceID : GoString} {item : Investigation} {status : InvestigationStatus}
    {candidates : List ReadTask} (h : Ending repository workspaceID item status candidates) :
    status ≠ .queued ∧ status ≠ .running := by
  cases h with
  | stopped _ _ hStatus => rcases hStatus with rfl | rfl <;> decide
  | settled =>
    unfold derivedStatus
    split <;> decide

theorem Investigation.active_eq_false {item : Investigation} (h : item.status ≠ .queued ∧ item.status ≠ .running) :
    item.active = false := by
  simp [Investigation.active, h]

theorem Pointed.write (h : Pointed repository) (hSound : Sound repository) (hWrite : Write repository repository') :
    Pointed repository' := by
  cases hWrite with
  | signal | dismissal | opening | counting | joining | feedback => exact h
  | creation _ _ _ _ _ _ _ _ _ hNone hID _ hItem =>
    intro other found hFound hActive
    rcases get?_insert_cases hFound with ⟨_, rfl⟩ | ⟨_, hBefore⟩
    · rw [hItem.1]
      exact ⟨hID, get?_insert_self⟩
    · obtain ⟨hFoundID, hOwn⟩ := h other found hBefore hActive
      refine ⟨hFoundID, (get?_insert_of_ne ?_).trans hOwn⟩
      intro hSame
      rw [← hSame, hOwn] at hNone
      simp [Option.filter, hFoundID] at hNone
  | completion _ _ _ _ _ _ _ commitAt _ hItem _ _ _ hActive =>
    have hContinues := advancedInvestigation_continues hActive commitAt
    refine h.replace hItem hContinues (fun _ => hActive) ?_ rfl
    have hID := (hSound.investigation_id hItem).1
    rw [← hID, ← hContinues.same.1]
    rfl
  | start _ _ item _ commitAt _ hItem hStatus _ hEnded =>
    have hActive : item.active = true := by simp [Investigation.active, hStatus.1]
    exact h.replace hItem (startedInvestigation_continues hStatus.1 commitAt) (fun _ => hActive) rfl rfl
  | finalization request _ item _ _ commitAt _ hItem hActive _ hEnding =>
    have hContinues := finalizedInvestigation_continues hActive request commitAt
    refine h.close hSound hItem hContinues (Investigation.active_eq_false hEnding.inactive) ?_ rfl
    rw [← (hSound.investigation_id hItem).1]
    rfl
  | failure request _ item _ commitAt _ hItem hActive hEnding =>
    have hContinues := failedInvestigation_continues hActive request.failureCode commitAt
    exact h.close hSound hItem hContinues (Investigation.active_eq_false hEnding.inactive) rfl rfl

end Pointers

/-! ## The tasks of an investigation -/

section Tasks

variable {repository repository' : Repository} {item : Investigation}

def Touches (item : Investigation) (tasks tasks' : GoMap ScopeKey ReadTask) : Prop :=
  ∀ key task, tasks'.get? key = some task → tasks.get? key = some task ∨
    task.workspaceID = item.workspaceID ∧ task.investigationID = item.id

structure Rewrites (item : Investigation) (tasks tasks' : GoMap ScopeKey ReadTask) : Prop where
  touches : Touches item tasks tasks'
  grows : GoMap.Grows ReadTask.Continues tasks tasks'
  keyed : GoMap.Keyed (fun task => scopeKey task.workspaceID task.id) tasks'

variable {other : Investigation} {tasks : List ReadTask}

theorem Rewrites.own_iff (h : Rewrites item repository.tasks repository'.tasks)
    (hOther : scopeKey other.workspaceID other.id ≠ scopeKey item.workspaceID item.id) (task : ReadTask) :
    OwnTask repository' other task ↔ OwnTask repository other task := by
  have hNotItem : ∀ found : ReadTask, repository'.tasks.get? (scopeKey other.workspaceID found.id) = some found →
      found.investigationID = other.id → repository.tasks.get? (scopeKey other.workspaceID found.id) = some found := by
    intro found hFound hOwner
    rcases h.touches _ found hFound with hBefore | ⟨hWorkspace, hItem⟩
    · exact hBefore
    · have hKey : found.workspaceID = other.workspaceID := congrArg ScopeKey.workspaceID (h.keyed _ found hFound)
      exact absurd (by rw [← hKey, hWorkspace, ← hOwner, hItem]) hOther
  constructor
  · rintro ⟨hStored, hOwner⟩
    exact ⟨hNotItem task hStored hOwner, hOwner⟩
  · rintro ⟨hStored, hOwner⟩
    obtain ⟨found, hFound, hContinues⟩ := h.grows _ task hStored
    have hID := hContinues.same.1
    rw [← hID] at hFound
    have hBefore := hNotItem found hFound (hContinues.same.2.2.trans hOwner)
    rw [hID, hStored] at hBefore
    cases hBefore
    exact ⟨hFound, hOwner⟩

theorem Settled.congr (h : Settled repository other)
    (hOwn : ∀ task, OwnTask repository' other task ↔ OwnTask repository other task) : Settled repository' other where
  ended hEnded task hTask := h.ended hEnded task ((hOwn task).mp hTask)
  completed hStatus task hTask := h.completed hStatus task ((hOwn task).mp hTask)
  partially hStatus := by
    obtain ⟨task, hTask, hNotEvidence⟩ := h.partially hStatus
    exact ⟨task, (hOwn task).mpr hTask, hNotEvidence⟩
  model hModel task hTask := h.model hModel task ((hOwn task).mp hTask)

variable {workspaceID : GoString}

theorem TaskBook.own_iff (h : TaskBook repository) (hSound : Sound repository)
    (hWorkspace : item.workspaceID = workspaceID) (hTasks : repository.tasksOf workspaceID item.id = some tasks)
    (task : ReadTask) : OwnTask repository item task ↔ task ∈ tasks := by
  subst hWorkspace
  have hForall := tasksOf_eq_some.mp hTasks
  constructor
  · rintro ⟨hStored, hOwner⟩
    obtain ⟨ids, hIDs, hMem⟩ := h.listed _ task hStored
    have hWorkspace : task.workspaceID = item.workspaceID := congrArg ScopeKey.workspaceID (hSound.tasks _ task hStored)
    rw [hWorkspace, hOwner] at hIDs
    rw [hIDs] at hForall
    obtain ⟨found, hFound, hAt⟩ := exists_of_mem_left hForall hMem
    rw [hStored] at hAt
    cases hAt
    exact hFound
  · intro hMem
    refine ⟨(hSound.task_of_mem hTasks hMem).1, ?_⟩
    obtain ⟨taskID, hTaskID, hStored⟩ := exists_of_mem_right hForall hMem
    cases hIDs : repository.taskIDsByInvestigation.get? (scopeKey item.workspaceID item.id) with
    | none =>
      rw [hIDs] at hTaskID
      exact (not_mem_nil hTaskID).elim
    | some ids =>
      rw [hIDs] at hTaskID
      obtain ⟨found, hFound, hOwner⟩ := h.owned _ ids taskID hIDs hTaskID
      have hSame : some found = some task := hFound.symm.trans hStored
      cases hSame
      exact hOwner

theorem TaskBook.lists (h : TaskBook repository) {tasks' : GoMap ScopeKey ReadTask}
    (hGrows : GoMap.Grows ReadTask.Continues repository.tasks tasks')
    (hOld : ∀ key task, tasks'.get? key = some task → ∃ before, repository.tasks.get? key = some before ∧
      before.Continues task) :
    (∀ key task, tasks'.get? key = some task → ∃ ids,
      repository.taskIDsByInvestigation.get? (scopeKey task.workspaceID task.investigationID) = some ids ∧
        task.id ∈ ids) ∧
    ∀ key ids taskID, repository.taskIDsByInvestigation.get? key = some ids → taskID ∈ ids →
      ∃ task, tasks'.get? (scopeKey key.workspaceID taskID) = some task ∧ task.investigationID = key.resourceID := by
  constructor
  · intro key task hTask
    obtain ⟨before, hBefore, hContinues⟩ := hOld key task hTask
    obtain ⟨hID, hWorkspace, hOwner⟩ := hContinues.same
    rw [hID, hWorkspace, hOwner]
    exact h.listed key before hBefore
  · intro key ids taskID hIDs hMem
    obtain ⟨before, hBefore, hOwner⟩ := h.owned key ids taskID hIDs hMem
    obtain ⟨task, hTask, hContinues⟩ := hGrows _ before hBefore
    exact ⟨task, hTask, hContinues.same.2.2.trans hOwner⟩

theorem TaskBook.replace (h : TaskBook repository) (hSound : Sound repository) {investigationID : GoString}
    (next : Investigation) (hItem : repository.investigations.get? (scopeKey workspaceID investigationID) = some item)
    (hInvestigations : repository'.investigations = repository.investigations.insert
      (scopeKey workspaceID investigationID) next)
    (hLists : repository'.taskIDsByInvestigation = repository.taskIDsByInvestigation)
    (hRewrites : Rewrites item repository.tasks repository'.tasks)
    (hOld : ∀ key task, repository'.tasks.get? key = some task →
      ∃ before, repository.tasks.get? key = some before ∧ before.Continues task)
    (hSettled : Settled repository' next) : TaskBook repository' := by
  obtain ⟨hListed, hOwned⟩ := h.lists hRewrites.grows hOld
  refine ⟨?_, ?_, ?_⟩
  · rw [hLists]
    exact hListed
  · rw [hLists]
    exact hOwned
  · intro key found hFound
    rw [hInvestigations] at hFound
    rcases get?_insert_cases hFound with ⟨_, rfl⟩ | ⟨hOther, hBefore⟩
    · exact hSettled
    · refine (h.settled key found hBefore).congr (hRewrites.own_iff ?_)
      have hKey : scopeKey found.workspaceID found.id = key := hSound.investigations key found hBefore
      rw [hKey, (hSound.investigation_id hItem).1, (hSound.investigation_id hItem).2]
      exact hOther

theorem stoppedTask_not_pending (failureCode : GoString) (commitAt : Int) (task : ReadTask) :
    (stoppedTask failureCode commitAt task).pending = false := by
  unfold stoppedTask
  cases hPending : task.pending with
  | true => rfl
  | false => exact hPending

variable {status : InvestigationStatus} {candidates : List ReadTask}

section

variable (h : Ending repository workspaceID item status candidates)

include h

theorem Ending.settles (hBook : TaskBook repository)
    (hSound : Sound repository) (hWorkspace : item.workspaceID = workspaceID)
    (hTasks' : repository'.tasks = repository.storeTasks workspaceID candidates) {next : Investigation}
    (hNext : next.id = item.id ∧ next.workspaceID = item.workspaceID) (hStatus : next.status = status) :
    Settled repository' next := by
  obtain ⟨hID, hSameWorkspace⟩ := hNext
  cases h with
  | settled hTasks hEnded =>
    rename_i tasks
    have hOwn : ∀ task, OwnTask repository' next task ↔ task ∈ tasks := by
      intro task
      rw [← hBook.own_iff hSound hWorkspace hTasks, OwnTask, OwnTask, hTasks', hID, hSameWorkspace]
      rfl
    refine ⟨fun _ task hTask => hEnded task ((hOwn task).mp hTask), fun hCompleted task hTask => ?_, fun hPartially => ?_,
      fun _ task hTask => hEnded task ((hOwn task).mp hTask)⟩
    · rw [hStatus, derivedStatus] at hCompleted
      split at hCompleted
      · rename_i hAll
        exact of_decide_eq_true (all_eq_true.mp hAll task ((hOwn task).mp hTask))
      · cases hCompleted
    · rw [hStatus, derivedStatus] at hPartially
      split at hPartially
      · cases hPartially
      · rename_i hNotAll
        obtain ⟨task, hMem, hNotEvidence⟩ : ∃ task ∈ tasks, task.status ≠ .evidence := by
          simpa using hNotAll
        exact ⟨task, (hOwn task).mpr hMem, hNotEvidence⟩
  | stopped failureCode commitAt hStopped hTasks =>
    rename_i tasks
    have hEnded : ∀ task, OwnTask repository' next task → task.pending = false := by
      rintro task ⟨hStored, hOwner⟩
      rw [hTasks'] at hStored
      rcases get?_insertAll_cases hStored with ⟨hMem, _⟩ | ⟨hBefore, hAbsent⟩
      · obtain ⟨before, _, rfl⟩ := mem_map.mp hMem
        exact stoppedTask_not_pending failureCode commitAt before
      · -- a task of the investigation is among the tasks that were written
        rw [hSameWorkspace] at hBefore
        have hMem := (hBook.own_iff hSound hWorkspace hTasks task).mp ⟨hBefore, hOwner.trans hID⟩
        have hPlace := hAbsent (stoppedTask failureCode commitAt task) (mem_map_of_mem hMem)
        rw [(stoppedTask_continues failureCode commitAt task).same.1, hSameWorkspace, hWorkspace] at hPlace
        exact absurd rfl hPlace
    refine ⟨fun _ => hEnded, fun hCompleted => ?_, fun hPartially => ?_, fun _ => hEnded⟩
    · rw [hStatus] at hCompleted
      rcases hStopped with rfl | rfl <;> cases hCompleted
    · rw [hStatus] at hPartially
      rcases hStopped with rfl | rfl <;> cases hPartially

theorem Ending.old (hSound : Sound repository)
    (key : ScopeKey) (task : ReadTask) (hTask : (repository.storeTasks workspaceID candidates).get? key = some task) :
    ∃ before, repository.tasks.get? key = some before ∧ before.Continues task := by
  rcases get?_insertAll_cases hTask with ⟨hMem, rfl⟩ | ⟨hBefore, _⟩
  · obtain ⟨_, before, hStored, hContinues⟩ := h.candidate hSound hMem
    exact ⟨before, hStored, hContinues⟩
  · exact ⟨task, hBefore, .refl task⟩

theorem Ending.rewrites (hBook : TaskBook repository)
    (hSound : Sound repository) (hWorkspace : item.workspaceID = workspaceID) :
    Rewrites item repository.tasks (repository.storeTasks workspaceID candidates) := by
  obtain ⟨hGrows, hKeyed⟩ := h.tasks hSound
  refine ⟨fun _ _ hTask => ?_, hGrows, hKeyed⟩
  rcases get?_insertAll_cases hTask with ⟨hMem, _⟩ | ⟨hBefore, _⟩
  · cases h with
    | settled => cases hMem
    | stopped failureCode commitAt _ hTasks =>
      obtain ⟨before, hBefore, rfl⟩ := mem_map.mp hMem
      obtain ⟨_, hSame, hOwner⟩ := (stoppedTask_continues failureCode commitAt before).same
      refine .inr ⟨?_, hOwner.trans ((hBook.own_iff hSound hWorkspace hTasks before).mpr hBefore).2⟩
      rw [hSame, hWorkspace]
      exact (hSound.task_of_mem hTasks hBefore).2
  · exact .inl hBefore

end

theorem TaskBook.create (h : TaskBook repository) (hSound : Sound repository)
    (hNew : repository.investigations.get? (scopeKey workspaceID item.id) = none)
    (hItem : item.workspaceID = workspaceID ∧ item.status = .queued ∧ item.modelStatus = .pending)
    (hTasks : NewTasks repository workspaceID item tasks)
    (hInvestigations : repository'.investigations = repository.investigations.insert (scopeKey workspaceID item.id) item)
    (hTasks' : repository'.tasks = repository.storeTasks workspaceID tasks)
    (hLists : repository'.taskIDsByInvestigation = repository.taskIDsByInvestigation.insert
      (scopeKey workspaceID item.id) (tasks.map ReadTask.id)) :
    TaskBook repository' := by
  obtain ⟨hWorkspace, hStatus, hModel⟩ := hItem
  have hNoList : ∀ key ids, repository.taskIDsByInvestigation.get? key = some ids → key ≠ scopeKey workspaceID item.id := by
    rintro key ids hIDs rfl
    obtain ⟨_, hFound⟩ := hSound.taskLists _ ids hIDs
    rw [hNew] at hFound
    cases hFound
  have hRewrites : Rewrites item repository.tasks repository'.tasks := by
    rw [hTasks']
    refine ⟨fun key task hTask => ?_, .insertAll (fun task hTask _ hOld => ?_),
      hSound.tasks.insertAll (fun task hTask => by rw [hTasks.workspace task hTask])⟩
    · rcases get?_insertAll_cases hTask with ⟨hMem, _⟩ | ⟨hBefore, _⟩
      · exact .inr ⟨(hTasks.workspace task hMem).trans hWorkspace.symm, hTasks.owner task hMem⟩
      · exact .inl hBefore
    · cases (hTasks.fresh task hTask).symm.trans hOld
  refine ⟨?_, ?_, ?_⟩
  · intro key task hTask
    rw [hLists]
    rw [hTasks'] at hTask
    rcases get?_insertAll_cases hTask with ⟨hMem, _⟩ | ⟨hBefore, _⟩
    · rw [hTasks.workspace task hMem, hTasks.owner task hMem]
      exact ⟨_, get?_insert_self, mem_map_of_mem hMem⟩
    · obtain ⟨ids, hIDs, hMem⟩ := h.listed key task hBefore
      exact ⟨ids, (get?_insert_of_ne (hNoList _ ids hIDs)).trans hIDs, hMem⟩
  · intro key ids taskID hIDs hMem
    rw [hLists] at hIDs
    rcases get?_insert_cases hIDs with ⟨rfl, rfl⟩ | ⟨_, hBefore⟩
    · obtain ⟨task, hTask, rfl⟩ := mem_map.mp hMem
      have hNodup : (tasks.map (fun task => scopeKey workspaceID task.id)).Nodup := by
        have hMapped := hTasks.nodup.map (f := scopeKey workspaceID) fun _ _ hSame => congrArg ScopeKey.resourceID hSame
        rwa [map_map] at hMapped
      refine ⟨task, ?_, hTasks.owner task hTask⟩
      rw [hTasks']
      exact get?_insertAll_of_mem hNodup hTask
    · obtain ⟨before, hStored, hOwner⟩ := h.owned key ids taskID hBefore hMem
      obtain ⟨task, hTask, hContinues⟩ := hRewrites.grows _ before hStored
      exact ⟨task, hTask, hContinues.same.2.2.trans hOwner⟩
  · intro key found hFound
    rw [hInvestigations] at hFound
    rcases get?_insert_cases hFound with ⟨_, rfl⟩ | ⟨hOther, hBefore⟩
    · -- a queued investigation whose model has not started says nothing about its tasks yet
      refine ⟨fun hEnded => ?_, fun hCompleted => ?_, fun hPartially => ?_, fun hStarted => ?_⟩
      · simp [Investigation.active, hStatus] at hEnded
      · rw [hStatus] at hCompleted
        cases hCompleted
      · rw [hStatus] at hPartially
        cases hPartially
      · rw [hModel] at hStarted
        rcases hStarted with hStarted | hStarted <;> cases hStarted
    · refine (h.settled key found hBefore).congr (hRewrites.own_iff ?_)
      have hKey : scopeKey found.workspaceID found.id = key := hSound.investigations key found hBefore
      rw [hKey, hWorkspace]
      exact hOther

theorem TaskBook.write (h : TaskBook repository) (hSound : Sound repository) (hWrite : Write repository repository') :
    TaskBook repository' := by
  cases hWrite with
  | signal | dismissal | opening | counting | joining | feedback =>
    exact ⟨h.listed, h.owned, fun key item hItem => (h.settled key item hItem).congr (fun _ => Iff.rfl)⟩
  | creation _ _ _ _ _ _ _ _ _ _ _ hNew hItem hTasks =>
    exact h.create hSound hNew hItem hTasks rfl rfl rfl
  | completion request requestHash receiptID evidenceID item task evidence commitAt hFree hItem hTask hOwner hPending
      hActive hEvidence hReceipt =>
    have hContinues := advancedInvestigation_continues hActive commitAt
    have hTaskContinues := completedTask_continues hPending request evidenceID commitAt
    obtain ⟨hItemID, hWorkspace⟩ := hSound.investigation_id hItem
    have hTaskKey := hSound.tasks _ task hTask
    have hTaskID : task.id = request.taskID := congrArg ScopeKey.resourceID hTaskKey
    have hTaskWorkspace : task.workspaceID = request.workspaceID := congrArg ScopeKey.workspaceID hTaskKey
    obtain ⟨hGrows, hKeyed⟩ := hSound.replaceTask hTask hTaskContinues
    -- the model of an investigation with a pending task has not started
    have hModel : ¬(item.modelStatus = .running ∨ item.modelStatus = .completed) := by
      intro hStarted
      have hOwn : OwnTask repository item task := by
        refine ⟨?_, hOwner⟩
        rw [hWorkspace, hTaskID]
        exact hTask
      rw [(h.settled _ item hItem).model hStarted task hOwn] at hPending
      cases hPending
    have hStatus : (advancedInvestigation item commitAt).status = .running := by
      unfold advancedInvestigation
      split
      · rfl
      · rename_i hQueued
        simpa [Investigation.active, hQueued] using hActive
    have hSameModel : (advancedInvestigation item commitAt).modelStatus = item.modelStatus := by
      unfold advancedInvestigation
      split <;> rfl
    refine h.replace hSound (advancedInvestigation item commitAt) hItem ?_ rfl ⟨?_, hGrows, hKeyed⟩ ?_ ?_
    · rw [← hItemID, ← hContinues.same.1]
      rfl
    · intro other found hFound
      rcases get?_insert_cases hFound with ⟨_, rfl⟩ | ⟨_, hBefore⟩
      · exact .inr ⟨hTaskWorkspace.trans hWorkspace.symm, hOwner⟩
      · exact .inl hBefore
    · intro other found hFound
      rcases get?_insert_cases hFound with ⟨hOther, rfl⟩ | ⟨_, hBefore⟩
      · refine ⟨task, ?_, hTaskContinues⟩
        rw [hOther, show (completedTask task request evidenceID commitAt).id = request.taskID from hTaskID]
        exact hTask
      · exact ⟨found, hBefore, .refl found⟩
    · refine ⟨fun hEnded => ?_, fun hCompleted => ?_, fun hPartially => ?_, fun hStarted => ?_⟩
      · simp [Investigation.active, hStatus] at hEnded
      · rw [hStatus] at hCompleted
        cases hCompleted
      · rw [hStatus] at hPartially
        cases hPartially
      · rw [hSameModel] at hStarted
        exact absurd hStarted hModel
  | start _ _ item tasks commitAt _ hItem _ hTasks hEnded =>
    have hWorkspace := (hSound.investigation_id hItem).2
    have hSettled := h.settled _ item hItem
    refine h.replace hSound { item with modelStatus := .running, updatedAt := commitAt } hItem rfl rfl
      ⟨fun _ _ => .inl, .refl _, hSound.tasks⟩ (fun _ task hTask => ⟨task, hTask, .refl task⟩)
        ⟨hSettled.ended, hSettled.completed, hSettled.partially, ?_⟩
    intro _ task hTask
    have hTaskEnded := hEnded task ((h.own_iff hSound hWorkspace hTasks task).mp hTask)
    cases hTaskStatus : task.status <;> simp_all [ReadTask.ended, ReadTask.pending]
  | finalization request _ item _ _ commitAt _ hItem _ _ hEnding =>
    obtain ⟨hItemID, hWorkspace⟩ := hSound.investigation_id hItem
    refine h.replace hSound (finalizedInvestigation item request commitAt) hItem ?_ rfl
      (hEnding.rewrites h hSound hWorkspace) (hEnding.old hSound) (hEnding.settles h hSound hWorkspace rfl ⟨rfl, rfl⟩ rfl)
    rw [← hItemID]
    rfl
  | failure request _ item _ commitAt _ hItem _ hEnding =>
    have hWorkspace := (hSound.investigation_id hItem).2
    exact h.replace hSound (failedInvestigation item request.failureCode commitAt) hItem rfl rfl
      (hEnding.rewrites h hSound hWorkspace) (hEnding.old hSound) (hEnding.settles h hSound hWorkspace rfl ⟨rfl, rfl⟩ rfl)

end Tasks

/-! ## Evidence and hypotheses -/

section Evidence

variable {repository repository' : Repository}

variable {task : ReadTask}

theorem not_pending_of_evidence (h : task.status = .evidence) : task.pending = false := by
  simp [ReadTask.pending, h]

variable {key : ScopeKey}

theorem Extends.evidenceTask (h : Extends repository repository')
    (hTask : repository.tasks.get? key = some task) (hStatus : task.status = .evidence) :
    repository'.tasks.get? key = some task := by
  obtain ⟨_, hTask', hContinues⟩ := h.tasks key task hTask
  rw [hContinues.ended (not_pending_of_evidence hStatus)] at hTask'
  exact hTask'

theorem EvidenceBook.old (h : EvidenceBook repository) (hExtends : Extends repository repository') {record : Evidence}
    (hRecord : repository.evidence.get? key = some record) :
    ∃ task, repository'.tasks.get? (scopeKey record.workspaceID record.taskID) = some task ∧
      task.status = .evidence ∧ task.evidenceID = record.id ∧ task.investigationID = record.investigationID := by
  obtain ⟨task, hTask, hStatus, hRest⟩ := h.named key record hRecord
  exact ⟨task, hExtends.evidenceTask hTask hStatus, hStatus, hRest⟩

theorem EvidenceBook.keep (h : EvidenceBook repository) (hExtends : Extends repository repository')
    (hEvidence : repository'.evidence = repository.evidence)
    (hTasks : ∀ key task, repository'.tasks.get? key = some task →
      repository.tasks.get? key = some task ∨ task.status = .queued ∨ task.status = .cancelled) :
    EvidenceBook repository' := by
  refine ⟨?_, ?_, ?_⟩
  · intro key task hTask
    rcases hTasks key task hTask with hBefore | hQueued | hCancelled
    · exact h.status key task hBefore
    · exact .inl (by simp [ReadTask.pending, hQueued])
    · exact .inr (by simp [ReadTask.ended, hCancelled])
  · intro key task hTask hStatus
    rw [hEvidence]
    rcases hTasks key task hTask with hBefore | hQueued | hCancelled
    · exact h.held key task hBefore hStatus
    · cases hStatus.symm.trans hQueued
    · cases hStatus.symm.trans hCancelled
  · intro key _ hRecord
    rw [hEvidence] at hRecord
    exact h.old hExtends hRecord

theorem Ending.written {workspaceID : GoString} {item : Investigation} {status : InvestigationStatus}
    {candidates : List ReadTask} (h : Ending repository workspaceID item status candidates) (hSound : Sound repository)
    (key : ScopeKey) (task : ReadTask) (hTask : (repository.storeTasks workspaceID candidates).get? key = some task) :
    repository.tasks.get? key = some task ∨ task.status = .queued ∨ task.status = .cancelled := by
  rcases get?_insertAll_cases hTask with ⟨hMem, rfl⟩ | ⟨hBefore, _⟩
  · cases h with
    | settled => cases hMem
    | stopped _ _ _ hTasks =>
      obtain ⟨before, hBefore, rfl⟩ := mem_map.mp hMem
      have hStored := (hSound.task_of_mem hTasks hBefore).1
      unfold stoppedTask
      cases hPending : before.pending with
      | true => exact .inr (.inr rfl)
      | false => exact .inl hStored
  · exact .inl hBefore

theorem EvidenceBook.write (h : EvidenceBook repository) (hSound : Sound repository)
    (hWrite : Write repository repository') : EvidenceBook repository' := by
  have hExtends := (hWrite.keeps hSound).1
  cases hWrite with
  | signal | dismissal | opening | counting | joining | feedback | start =>
    exact h.keep hExtends rfl fun _ _ hTask => .inl hTask
  | creation _ _ _ _ _ _ _ _ _ _ _ _ _ hTasks =>
    refine h.keep hExtends rfl fun _ task hTask => ?_
    rcases get?_insertAll_cases hTask with ⟨hMem, _⟩ | ⟨hBefore, _⟩
    · exact .inr (.inl (hTasks.queued task hMem).1)
    · exact .inl hBefore
  | finalization _ _ _ _ _ _ _ _ _ _ hEnding | failure _ _ _ _ _ _ _ _ hEnding =>
    exact h.keep hExtends rfl (hEnding.written hSound)
  | completion request _ _ evidenceID item task evidence commitAt _ _ hTask hOwner _ _ hEvidence =>
    have hTaskKey := hSound.tasks _ task hTask
    have hTaskWorkspace : task.workspaceID = request.workspaceID := congrArg ScopeKey.workspaceID hTaskKey
    refine ⟨?_, ?_, ?_⟩
    · intro key found hFound
      rcases get?_insert_cases hFound with ⟨_, rfl⟩ | ⟨_, hBefore⟩
      · right
        cases hEvidence with
        | evidence _ _ hStatus => simp [ReadTask.ended, completedTask, hStatus]
        | without hStatus => rcases hStatus with hStatus | hStatus <;> simp [ReadTask.ended, completedTask, hStatus]
      · exact h.status key found hBefore
    · intro key found hFound hFoundStatus
      rcases get?_insert_cases hFound with ⟨_, rfl⟩ | ⟨_, hBefore⟩
      · cases hEvidence with
        | evidence input evidenceID =>
          refine ⟨storedEvidence request item task input evidenceID commitAt, ?_, rfl⟩
          have hWorkspace : (completedTask task request evidenceID commitAt).workspaceID = request.workspaceID :=
            hTaskWorkspace
          rw [hWorkspace]
          exact get?_insert_self
        | without hStatus =>
          have hSame : request.status = .evidence := hFoundStatus
          rcases hStatus with hStatus | hStatus <;> cases hSame.symm.trans hStatus
      · obtain ⟨record, hRecord, hNamed⟩ := h.held key found hBefore hFoundStatus
        exact ⟨record, hExtends.evidence.keeps hRecord, hNamed⟩
    · intro key record hRecord
      cases hEvidence with
      | without => exact h.old hExtends hRecord
      | evidence _ evidenceID hStatus =>
        rcases get?_insert_cases hRecord with ⟨_, rfl⟩ | ⟨_, hBefore⟩
        · exact ⟨completedTask task request evidenceID commitAt, get?_insert_self, hStatus, rfl, hOwner⟩
        · exact h.old hExtends hBefore

def SameConfirmed (before after : Incident) : Prop := after.confirmedHypothesisID = before.confirmedHypothesisID

instance : Std.Refl SameConfirmed := ⟨fun _ => rfl⟩

theorem HypothesisBook.keep (h : HypothesisBook repository) (hExtends : Extends repository repository')
    (hHypotheses : repository'.hypotheses = repository.hypotheses)
    (hIncidents : GoMap.Grows SameConfirmed repository.incidents repository'.incidents) : HypothesisBook repository' := by
  constructor
  · intro key hypothesis hHypothesis evidenceID hCited
    rw [hHypotheses] at hHypothesis
    obtain ⟨record, hRecord, hOwner⟩ := h.cited key hypothesis hHypothesis evidenceID hCited
    exact ⟨record, hExtends.evidence.keeps hRecord, hOwner⟩
  · intro key hypothesis hHypothesis hStatus
    rw [hHypotheses] at hHypothesis
    obtain ⟨hID, incident, hIncident, hNamed⟩ := h.confirmed key hypothesis hHypothesis hStatus
    obtain ⟨incident', hIncident', hSame⟩ := hIncidents _ incident hIncident
    exact ⟨hID, incident', hIncident', hSame.trans hNamed⟩

theorem grows_confirmed {incident next : Incident} (hIncident : repository.incidents.get? key = some incident)
    (hNext : SameConfirmed incident next) :
    GoMap.Grows SameConfirmed repository.incidents (repository.incidents.insert key next) := by
  refine GoMap.Grows.insert fun _ hOld => ?_
  rw [hIncident] at hOld
  cases hOld
  exact hNext

theorem HypothesisBook.write (h : HypothesisBook repository) (hSound : Sound repository)
    (hWrite : Write repository repository') : HypothesisBook repository' := by
  have hExtends := (hWrite.keeps hSound).1
  cases hWrite with
  | signal | dismissal | joining | completion | start | failure =>
    exact h.keep hExtends rfl (.refl _)
  | opening _ _ _ _ _ _ _ _ hNew =>
    exact h.keep hExtends rfl (.insert_fresh _ hNew)
  | counting request _ incident _ _ _ hIncident =>
    have hStored : repository.incidents.get? (scopeKey request.workspaceID incident.id) = some incident := by
      have hID := congrArg ScopeKey.resourceID (hSound.incidents _ incident hIncident)
      exact (congrArg (fun id => repository.incidents.get? (scopeKey request.workspaceID id)) hID).trans hIncident
    exact h.keep hExtends rfl (grows_confirmed hStored rfl)
  | creation _ _ _ _ _ _ _ _ hIncident _ _ _ _ _ hNext =>
    refine h.keep hExtends rfl (grows_confirmed hIncident ?_)
    rcases transitionedIncident_eq_ok hNext with rfl | rfl <;> rfl
  | finalization _ _ _ _ _ _ _ _ _ _ _ hHypotheses =>
    constructor
    · intro key hypothesis hHypothesis evidenceID hCited
      rcases get?_insertAll_cases hHypothesis with ⟨hMem, _⟩ | ⟨hBefore, _⟩
      · obtain ⟨record, hRecord, hOwner⟩ := hHypotheses.cited hypothesis hMem evidenceID hCited
        refine ⟨record, ?_, hOwner.trans (hHypotheses.owner hypothesis hMem).1.symm⟩
        rw [hHypotheses.workspace hypothesis hMem]
        exact hRecord
      · exact h.cited key hypothesis hBefore evidenceID hCited
    · intro key hypothesis hHypothesis hStatus
      rcases get?_insertAll_cases hHypothesis with ⟨hMem, _⟩ | ⟨hBefore, _⟩
      · cases hStatus.symm.trans (hHypotheses.proposed hypothesis hMem)
      · exact h.confirmed key hypothesis hBefore hStatus
  | feedback request _ incident _ hypothesis _ _ _ hIncident hHypothesis hOwner _ _ hJudgement =>
    have hIncidentID : incident.id = request.incidentID :=
      congrArg ScopeKey.resourceID (hSound.incidents _ incident hIncident)
    have hHypothesisWorkspace : hypothesis.workspaceID = request.workspaceID :=
      congrArg ScopeKey.workspaceID (hSound.hypotheses _ hypothesis hHypothesis)
    obtain ⟨_, hSameWorkspace, _, hSameOwner, hSameCited⟩ := hJudgement.continues.2.same
    constructor
    · intro key found hFound evidenceID hCited
      rcases get?_insert_cases hFound with ⟨_, rfl⟩ | ⟨_, hBefore⟩
      · rw [hSameCited] at hCited
        rw [hSameWorkspace, hSameOwner]
        exact h.cited _ hypothesis hHypothesis evidenceID hCited
      · exact h.cited key found hBefore evidenceID hCited
    · intro key found hFound hStatus
      have hKept : ∀ next, SameConfirmed incident next →
          ∀ key found, repository.hypotheses.get? key = some found → found.status = .confirmed →
          found.id ≠ [] ∧ ∃ named, GoMap.get? (repository.incidents.insert
            (scopeKey request.workspaceID request.incidentID) next)
              (scopeKey found.workspaceID found.incidentID) = some named ∧ named.confirmedHypothesisID = found.id := by
        intro next hSame key found hBefore hConfirmed
        obtain ⟨hID, named, hNamed, hNamedID⟩ := h.confirmed key found hBefore hConfirmed
        obtain ⟨named', hNamed', hSame'⟩ := grows_confirmed hIncident hSame _ named hNamed
        exact ⟨hID, named', hNamed', hSame'.trans hNamedID⟩
      cases hJudgement with
      | inconclusive =>
        rcases get?_insert_cases hFound with ⟨_, rfl⟩ | ⟨_, hBefore⟩
        · exact hKept incident rfl _ found hHypothesis hStatus
        · exact hKept incident rfl key found hBefore hStatus
      | rejected =>
        rcases get?_insert_cases hFound with ⟨_, rfl⟩ | ⟨_, hBefore⟩
        · cases hStatus
        · exact hKept incident rfl key found hBefore hStatus
      | confirmed now hNone _ hID =>
        rcases get?_insert_cases hFound with ⟨_, rfl⟩ | ⟨_, hBefore⟩
        · refine ⟨hID, { incident with
            confirmedHypothesisID := hypothesis.id, updatedAt := now, version := incident.version + 1 }, ?_, rfl⟩
          rw [show scopeKey hypothesis.workspaceID hypothesis.incidentID =
            scopeKey request.workspaceID request.incidentID by rw [hHypothesisWorkspace, hOwner, hIncidentID]]
          exact get?_insert_self
        · -- the incident named no hypothesis before, so the other one is of another incident
          obtain ⟨hFoundID, named, hNamed, hNamedID⟩ := h.confirmed key found hBefore hStatus
          refine ⟨hFoundID, named, (get?_insert_of_ne ?_).trans hNamed, hNamedID⟩
          intro hSame
          rw [hSame, hIncident] at hNamed
          cases hNamed
          exact hFoundID (hNamedID.symm.trans hNone)

end Evidence

/-! ## Whole runs -/

/-- What an investigation, its tasks, its evidence and its hypotheses look like in a state. -/
structure Lifecycle (repository : Repository) : Prop where
  oneActive : ∀ key item other otherItem, repository.investigations.get? key = some item →
    repository.investigations.get? other = some otherItem → item.active = true → otherItem.active = true →
    otherItem.workspaceID = item.workspaceID → otherItem.incidentID = item.incidentID → other = key
  endedTasks : ∀ key item, repository.investigations.get? key = some item → item.active = false →
    ∀ task, OwnTask repository item task → task.status ≠ .queued ∧ task.status ≠ .running
  completed : ∀ key item, repository.investigations.get? key = some item → item.status = .completed →
    ∀ task, OwnTask repository item task → task.status = .evidence
  partially : ∀ key item, repository.investigations.get? key = some item → item.status = .partially →
    ∃ task, OwnTask repository item task ∧ task.status ≠ .evidence
  model : ∀ key item, repository.investigations.get? key = some item →
    item.modelStatus = .running ∨ item.modelStatus = .completed →
    ∀ task, OwnTask repository item task → task.ended = true
  evidence : ∀ key task, repository.tasks.get? key = some task → task.status = .evidence →
    ∃! record, repository.evidence.get? (scopeKey task.workspaceID record.id) = some record ∧ record.taskID = task.id
  cited : ∀ key hypothesis, repository.hypotheses.get? key = some hypothesis →
    ∀ evidenceID ∈ hypothesis.evidenceIDs, ∃ record,
      repository.evidence.get? (scopeKey hypothesis.workspaceID evidenceID) = some record ∧
        record.investigationID = hypothesis.investigationID
  confirmed : ∀ key hypothesis, repository.hypotheses.get? key = some hypothesis → hypothesis.status = .confirmed →
    ∃ incident, repository.incidents.get? (scopeKey hypothesis.workspaceID hypothesis.incidentID) = some incident ∧
      incident.confirmedHypothesisID = hypothesis.id
  oneConfirmed : ∀ key hypothesis other otherHypothesis, repository.hypotheses.get? key = some hypothesis →
    repository.hypotheses.get? other = some otherHypothesis → hypothesis.status = .confirmed →
    otherHypothesis.status = .confirmed → otherHypothesis.workspaceID = hypothesis.workspaceID →
    otherHypothesis.incidentID = hypothesis.incidentID → other = key

structure Books (repository : Repository) : Prop where
  pointed : Pointed repository
  tasks : TaskBook repository
  evidence : EvidenceBook repository
  hypotheses : HypothesisBook repository

theorem books_newRepository : Books newRepository where
  pointed _ _ h := by cases h
  tasks := by refine ⟨?_, ?_, ?_⟩ <;> intros <;> contradiction
  evidence := by refine ⟨?_, ?_, ?_⟩ <;> intros <;> contradiction
  hypotheses := by constructor <;> intros <;> contradiction

section Books

variable {repository repository' : Repository}

theorem Books.drop (h : Books repository) (hSound : Sound repository) (hDrop : Drop repository repository') :
    Books repository' := by
  have hPointed := h.pointed.drop hSound hDrop
  obtain ⟨_, _, rfl⟩ := Quiet.sameRecords (.inr hDrop)
  refine ⟨hPointed, ⟨h.tasks.listed, h.tasks.owned, fun key item hItem => ?_⟩, { h.evidence with }, { h.hypotheses with }⟩
  exact (h.tasks.settled key item hItem).congr fun _ => Iff.rfl

theorem Books.write (h : Books repository) (hSound : Sound repository) (hWrite : Write repository repository') :
    Books repository' where
  pointed := h.pointed.write hSound hWrite
  tasks := h.tasks.write hSound hWrite
  evidence := h.evidence.write hSound hWrite
  hypotheses := h.hypotheses.write hSound hWrite

theorem EvidenceBook.unique (h : EvidenceBook repository) (hSound : Sound repository) {key : ScopeKey} {task : ReadTask}
    (hTask : repository.tasks.get? key = some task) {record : Evidence}
    (hRecord : repository.evidence.get? (scopeKey task.workspaceID record.id) = some record)
    (hNamed : record.taskID = task.id) : record.id = task.evidenceID := by
  obtain ⟨_, hFound, _, hID, _⟩ := h.named _ record hRecord
  have hWorkspace : record.workspaceID = task.workspaceID :=
    congrArg ScopeKey.workspaceID (hSound.evidence _ record hRecord)
  have hKey : scopeKey task.workspaceID task.id = key := hSound.tasks key task hTask
  rw [hWorkspace, hNamed, hKey, hTask] at hFound
  cases hFound
  exact hID.symm

theorem Books.lifecycle (h : Books repository) (hSound : Sound repository) : Lifecycle repository where
  oneActive key item other otherItem hItem hOther hActive hOtherActive hWorkspace hIncident := by
    have hPointer := (h.pointed key item hItem hActive).2
    have hOtherPointer := (h.pointed other otherItem hOther hOtherActive).2
    rw [hWorkspace, hIncident, hPointer] at hOtherPointer
    have hKey : scopeKey item.workspaceID item.id = key := hSound.investigations key item hItem
    have hOtherKey : scopeKey otherItem.workspaceID otherItem.id = other := hSound.investigations other otherItem hOther
    rw [← hKey, ← hOtherKey, hWorkspace, Option.some.inj hOtherPointer]
  endedTasks key item hItem hEnded task hTask := by
    have hPending := (h.tasks.settled key item hItem).ended hEnded task hTask
    simpa [ReadTask.pending] using hPending
  completed key item hItem := (h.tasks.settled key item hItem).completed
  partially key item hItem := (h.tasks.settled key item hItem).partially
  model key item hItem hModel task hTask := by
    have hPending := (h.tasks.settled key item hItem).model hModel task hTask
    rcases h.evidence.status _ task hTask.1 with hStill | hEnded
    · rw [hPending] at hStill
      cases hStill
    · exact hEnded
  evidence key task hTask hStatus := by
    obtain ⟨record, hRecord, hNamed⟩ := h.evidence.held key task hTask hStatus
    have hID : record.id = task.evidenceID := congrArg ScopeKey.resourceID (hSound.evidence _ record hRecord)
    refine ⟨record, ⟨hID ▸ hRecord, hNamed⟩, ?_⟩
    rintro other ⟨hOther, hOtherNamed⟩
    rw [h.evidence.unique hSound hTask hOther hOtherNamed, hRecord] at hOther
    exact (Option.some.inj hOther).symm
  cited := h.hypotheses.cited
  confirmed key hypothesis hHypothesis hStatus := (h.hypotheses.confirmed key hypothesis hHypothesis hStatus).2
  oneConfirmed key hypothesis other otherHypothesis hHypothesis hOther hStatus hOtherStatus hWorkspace hIncident := by
    obtain ⟨_, _, hNamed, hID⟩ := h.hypotheses.confirmed key hypothesis hHypothesis hStatus
    obtain ⟨_, _, hOtherNamed, hOtherID⟩ := h.hypotheses.confirmed other otherHypothesis hOther hOtherStatus
    rw [hWorkspace, hIncident, hNamed] at hOtherNamed
    cases hOtherNamed
    have hKey : scopeKey hypothesis.workspaceID hypothesis.id = key := hSound.hypotheses key hypothesis hHypothesis
    have hOtherKey : scopeKey otherHypothesis.workspaceID otherHypothesis.id = other :=
      hSound.hypotheses other otherHypothesis hOther
    rw [← hKey, ← hOtherKey, hWorkspace, ← hID, hOtherID]

end Books

/-- Every state of every run has the life cycle, and an investigation that ended is the same in every later state. -/
theorem investigations_keep_their_lifecycle (encoding : Encoding) (events : List Event) :
    (∀ n, Lifecycle ((machine encoding).stateAt events n)) ∧
    ∀ m n, m ≤ n → ∀ key item, ((machine encoding).stateAt events m).investigations.get? key = some item →
      item.status = .partially ∨ item.status = .completed ∨ item.status = .failed ∨ item.status = .cancelled →
      ((machine encoding).stateAt events n).investigations.get? key = some item := by
  constructor
  · intro n
    have hBooks : Books ((machine encoding).stateAt events n) :=
      stateAt_kept encoding books_newRepository (fun _ _ hSound hDrop h => h.drop hSound hDrop)
        (fun _ _ hSound hWrite h => h.write hSound hWrite) events n
    exact hBooks.lifecycle (stateAt_sound encoding events n)
  · intro m n hmn key item hItem hEnded
    obtain ⟨_, hItem', hContinues⟩ := (stateAt_extends encoding events hmn).investigations key item hItem
    have hInactive : item.active = false := by
      rcases hEnded with hStatus | hStatus | hStatus | hStatus <;> simp [Investigation.active, hStatus]
    rw [hContinues.ended hInactive] at hItem'
    exact hItem'

namespace Sample

def stop : FailInvestigationRequest where
  workspaceID := ascii "workspace"
  investigationID := ascii "investigation"
  idempotencyKey := ascii "stop"
  failureCode := ascii "planner_unavailable"

def stopEncoding : Encoding :=
  { encoding with
    semanticRequestHash := fun value => List.lookup value
      ((.fail (ascii "investigation") (ascii "planner_unavailable"),
        ascii "7818ee32a92141706d7d83634276c9a4e50c7c82852a2866ebfc912550151714") :: hashes) }

def stoppedRun : List Event :=
  [.commit (.registerSignal (signal (ascii "signal") second)) (env [] (ascii "tenant") (2 * second)),
    .commit (.correlateSignal (correlation (ascii "signal"))) (env [ascii "incident"] (ascii "tenant") (3 * second)),
    .commit (.createOrGetInvestigation create) (env [ascii "investigation", ascii "task"] [] (4 * second)),
    .commit (.failInvestigation stop) (env [] [] (5 * second)),
    .commit (.startModel { start (ascii "investigation") with idempotencyKey := ascii "start" })
      (env [] [] (6 * second))]

end Sample

theorem investigations_keep_their_lifecycle_sample : ∃ item,
    ((machine Sample.stopEncoding).stateAt Sample.stoppedRun 5).investigations.get?
      (scopeKey (ascii "workspace") (ascii "investigation")) = some item ∧ item.status = .failed ∧
    ((machine Sample.stopEncoding).stateAt Sample.stoppedRun 5).tasks.size = 1 ∧
    ∀ task, OwnTask ((machine Sample.stopEncoding).stateAt Sample.stoppedRun 5) item task →
      task.status ≠ .queued ∧ task.status ≠ .running := by
  have hFailed : (((machine Sample.stopEncoding).stateAt Sample.stoppedRun 4).investigations.get?
      (scopeKey (ascii "workspace") (ascii "investigation"))).map Investigation.status = some .failed := by
    decide +kernel
  have hTasks : ((machine Sample.stopEncoding).stateAt Sample.stoppedRun 5).tasks.size = 1 := by
    decide +kernel
  obtain ⟨item, hItem, hStatus⟩ := Option.map_eq_some_iff.mp hFailed
  obtain ⟨hLifecycle, hLater⟩ := investigations_keep_their_lifecycle Sample.stopEncoding Sample.stoppedRun
  have hStored := hLater 4 5 (by decide) _ item hItem (.inr (.inr (.inl hStatus)))
  have hInactive : item.active = false := by simp [Investigation.active, hStatus]
  exact ⟨item, hStored, hStatus, hTasks, (hLifecycle 5).endedTasks _ item hStored hInactive⟩

end AiopsSystem.Investigations
