import AiopsSystem.Investigations.RepositorySections

/-! # Records stay

Every record stands under its own identifiers, every key belongs to the
operation that recorded it, and no write takes a record away: an ended
investigation, an ended task, an association, a piece of evidence, a receipt,
a feedback and the record of a key stay exactly as they are.
-/

namespace AiopsSystem.Investigations

open Go Go.Section GoMap

structure Investigation.Continues (before after : Investigation) : Prop where
  same : after.id = before.id ∧ after.workspaceID = before.workspaceID ∧ after.incidentID = before.incidentID
  ended : before.active = false → after = before

structure ReadTask.Continues (before after : ReadTask) : Prop where
  same : after.id = before.id ∧ after.workspaceID = before.workspaceID ∧
    after.investigationID = before.investigationID
  ended : before.pending = false → after = before

structure Mapping where
  (workspaceID correlationKey serviceID environmentID : GoString)
  mappingStatus : MappingStatus

def Incident.mapping (incident : Incident) : Mapping :=
  ⟨incident.workspaceID, incident.correlationKey, incident.serviceID, incident.environmentID, incident.mappingStatus⟩

structure Incident.Continues (before after : Incident) : Prop where
  same : after.id = before.id ∧ after.workspaceID = before.workspaceID ∧ after.correlationKey = before.correlationKey
  tenantID : after.tenantID = before.tenantID
  mapping : after.mapping = before.mapping

structure Hypothesis.Continues (before after : Hypothesis) : Prop where
  same : after.id = before.id ∧ after.workspaceID = before.workspaceID ∧ after.incidentID = before.incidentID ∧
    after.investigationID = before.investigationID ∧ after.evidenceIDs = before.evidenceIDs

theorem Investigation.Continues.refl (item : Investigation) : item.Continues item := ⟨⟨rfl, rfl, rfl⟩, fun _ => rfl⟩

instance : Std.Refl Investigation.Continues := ⟨.refl⟩

theorem Investigation.continues_of_active {item next : Investigation} (h : item.active)
    (hSame : next.id = item.id ∧ next.workspaceID = item.workspaceID ∧ next.incidentID = item.incidentID) :
    item.Continues next :=
  ⟨hSame, fun hEnded => by rw [h] at hEnded; cases hEnded⟩

theorem Investigation.Continues.trans {first second third : Investigation} (h : first.Continues second)
    (h' : second.Continues third) : first.Continues third := by
  obtain ⟨⟨hID, hWorkspace, hIncident⟩, hEnded⟩ := h
  obtain ⟨⟨hID', hWorkspace', hIncident'⟩, hEnded'⟩ := h'
  refine ⟨⟨hID'.trans hID, hWorkspace'.trans hWorkspace, hIncident'.trans hIncident⟩, fun hFirst => ?_⟩
  have hSame := hEnded hFirst
  subst hSame
  exact hEnded' hFirst

instance : IsTrans Investigation Investigation.Continues := ⟨fun _ _ _ => .trans⟩

theorem ReadTask.Continues.refl (task : ReadTask) : task.Continues task := ⟨⟨rfl, rfl, rfl⟩, fun _ => rfl⟩

instance : Std.Refl ReadTask.Continues := ⟨.refl⟩

theorem completedTask_continues {task : ReadTask} (h : task.pending) (request : CompleteTaskRequest)
    (evidenceID : GoString) (commitAt : Int) : task.Continues (completedTask task request evidenceID commitAt) :=
  ⟨⟨rfl, rfl, rfl⟩, fun hEnded => by rw [h] at hEnded; cases hEnded⟩

theorem ReadTask.Continues.trans {first second third : ReadTask} (h : first.Continues second)
    (h' : second.Continues third) : first.Continues third := by
  obtain ⟨⟨hID, hWorkspace, hOwner⟩, hEnded⟩ := h
  obtain ⟨⟨hID', hWorkspace', hOwner'⟩, hEnded'⟩ := h'
  refine ⟨⟨hID'.trans hID, hWorkspace'.trans hWorkspace, hOwner'.trans hOwner⟩, fun hFirst => ?_⟩
  have hSame := hEnded hFirst
  subst hSame
  exact hEnded' hFirst

instance : IsTrans ReadTask ReadTask.Continues := ⟨fun _ _ _ => .trans⟩

theorem Incident.Continues.refl (incident : Incident) : incident.Continues incident := ⟨⟨rfl, rfl, rfl⟩, rfl, rfl⟩

instance : Std.Refl Incident.Continues := ⟨.refl⟩

theorem Incident.Continues.trans {first second third : Incident} (h : first.Continues second)
    (h' : second.Continues third) : first.Continues third :=
  ⟨⟨h'.same.1.trans h.same.1, h'.same.2.1.trans h.same.2.1, h'.same.2.2.trans h.same.2.2⟩,
    h'.tenantID.trans h.tenantID, h'.mapping.trans h.mapping⟩

instance : IsTrans Incident Incident.Continues := ⟨fun _ _ _ => .trans⟩

theorem Hypothesis.Continues.refl (hypothesis : Hypothesis) : hypothesis.Continues hypothesis :=
  ⟨⟨rfl, rfl, rfl, rfl, rfl⟩⟩

instance : Std.Refl Hypothesis.Continues := ⟨.refl⟩

theorem Hypothesis.Continues.trans {first second third : Hypothesis} (h : first.Continues second)
    (h' : second.Continues third) : first.Continues third := by
  obtain ⟨hID, hWorkspace, hIncident, hOwner, hCited⟩ := h.same
  obtain ⟨hID', hWorkspace', hIncident', hOwner', hCited'⟩ := h'.same
  exact ⟨⟨hID'.trans hID, hWorkspace'.trans hWorkspace, hIncident'.trans hIncident, hOwner'.trans hOwner,
    hCited'.trans hCited⟩⟩

instance : IsTrans Hypothesis Hypothesis.Continues := ⟨fun _ _ _ => .trans⟩

namespace Repository

def bound (repository : Repository) (operation : Operation) (key : ScopeKey) : Prop :=
  match operation with
  | .createInvestigation => (repository.investigationIdempotency.get? key).isSome
  | .completeTask => (repository.taskCompletionIdempotency.get? key).isSome
  | .startModel => (repository.modelStartIdempotency.get? key).isSome
  | .finalizeInvestigation => (repository.finalizeIdempotency.get? key).isSome
  | .failInvestigation => (repository.failureIdempotency.get? key).isSome
  | .recordFeedback => (repository.feedbackIdempotency.get? key).isSome

theorem bound_iff {repository : Repository} {operation : Operation} {key : ScopeKey} :
    repository.bound operation key ↔ (repository.recorded operation key).isSome := by
  cases operation <;> simp [bound, recorded]

end Repository

structure Sound (repository : Repository) : Prop where
  signals : GoMap.Keyed (fun signal => scopeKey signal.workspaceID signal.id) repository.signals
  incidents : GoMap.Keyed (fun incident => scopeKey incident.workspaceID incident.id) repository.incidents
  investigations : GoMap.Keyed (fun item => scopeKey item.workspaceID item.id) repository.investigations
  tasks : GoMap.Keyed (fun task => scopeKey task.workspaceID task.id) repository.tasks
  hypotheses : GoMap.Keyed (fun hypothesis => scopeKey hypothesis.workspaceID hypothesis.id) repository.hypotheses
  evidence : GoMap.Keyed (fun record => scopeKey record.workspaceID record.id) repository.evidence
  receipts : GoMap.Keyed (fun receipt => scopeKey receipt.workspaceID receipt.id) repository.receipts
  feedback : GoMap.Keyed (fun feedback => scopeKey feedback.workspaceID feedback.id) repository.feedback
  taskLists : ∀ key ids, repository.taskIDsByInvestigation.get? key = some ids →
    ∃ item, repository.investigations.get? key = some item
  listed : ∀ key item, repository.investigations.get? key = some item →
    ∃ ids, repository.taskIDsByInvestigation.get? key = some ids
  owned : ∀ operation key, repository.bound operation key → repository.idempotencyOwners.get? key = some operation

structure Extends (repository repository' : Repository) : Prop where
  signals : GoMap.Grows Eq repository.signals repository'.signals
  associations : GoMap.Grows Eq repository.signalIncident repository'.signalIncident
  incidents : GoMap.Grows Incident.Continues repository.incidents repository'.incidents
  investigations : GoMap.Grows Investigation.Continues repository.investigations repository'.investigations
  tasks : GoMap.Grows ReadTask.Continues repository.tasks repository'.tasks
  taskIDs : GoMap.Grows Eq repository.taskIDsByInvestigation repository'.taskIDsByInvestigation
  evidence : GoMap.Grows Eq repository.evidence repository'.evidence
  receipts : GoMap.Grows Eq repository.receipts repository'.receipts
  hypotheses : GoMap.Grows Hypothesis.Continues repository.hypotheses repository'.hypotheses
  feedback : GoMap.Grows Eq repository.feedback repository'.feedback
  createRecords : GoMap.Grows Eq repository.investigationIdempotency repository'.investigationIdempotency
  completeRecords : GoMap.Grows Eq repository.taskCompletionIdempotency repository'.taskCompletionIdempotency
  startRecords : GoMap.Grows Eq repository.modelStartIdempotency repository'.modelStartIdempotency
  finalizeRecords : GoMap.Grows Eq repository.finalizeIdempotency repository'.finalizeIdempotency
  failRecords : GoMap.Grows Eq repository.failureIdempotency repository'.failureIdempotency
  feedbackRecords : GoMap.Grows Eq repository.feedbackIdempotency repository'.feedbackIdempotency
  owners : GoMap.Grows Eq repository.idempotencyOwners repository'.idempotencyOwners

section Extends

variable {repository repository' repository'' : Repository}

theorem Extends.refl (repository : Repository) : Extends repository repository :=
  ⟨.refl _, .refl _, .refl _, .refl _, .refl _, .refl _, .refl _, .refl _, .refl _, .refl _, .refl _, .refl _, .refl _,
    .refl _, .refl _, .refl _, .refl _⟩

theorem Extends.trans (h : Extends repository repository') (h' : Extends repository' repository'') :
    Extends repository repository'' where
  signals := h.signals.trans h'.signals
  associations := h.associations.trans h'.associations
  incidents := h.incidents.trans h'.incidents
  investigations := h.investigations.trans h'.investigations
  tasks := h.tasks.trans h'.tasks
  taskIDs := h.taskIDs.trans h'.taskIDs
  evidence := h.evidence.trans h'.evidence
  receipts := h.receipts.trans h'.receipts
  hypotheses := h.hypotheses.trans h'.hypotheses
  feedback := h.feedback.trans h'.feedback
  createRecords := h.createRecords.trans h'.createRecords
  completeRecords := h.completeRecords.trans h'.completeRecords
  startRecords := h.startRecords.trans h'.startRecords
  finalizeRecords := h.finalizeRecords.trans h'.finalizeRecords
  failRecords := h.failRecords.trans h'.failRecords
  feedbackRecords := h.feedbackRecords.trans h'.feedbackRecords
  owners := h.owners.trans h'.owners

theorem Quiet.extends (h : Quiet repository repository') : Extends repository repository' := by
  obtain ⟨_, _, rfl⟩ := h.sameRecords
  exact { Extends.refl repository with }

theorem Quiet.sound (h : Quiet repository repository') (hSound : Sound repository) : Sound repository' := by
  obtain ⟨_, _, rfl⟩ := h.sameRecords
  exact { hSound with }

end Extends

/-! ## Free keys -/

section Free

variable {repository repository' : Repository} {operation : Operation} {key : ScopeKey}

theorem Repository.Free.owner (h : repository.Free operation key) {other : Operation}
    (hOther : repository.idempotencyOwners.get? key = some other) : other = operation := by
  have hMatches := h.1
  rw [Repository.idempotencyOwnerMatches, hOther] at hMatches
  simpa using hMatches

theorem Repository.Free.owners (h : repository.Free operation key) :
    GoMap.Grows Eq repository.idempotencyOwners (repository.idempotencyOwners.insert key operation) :=
  GoMap.Grows.insert (fun _ hOld => h.owner hOld)

theorem Repository.Free.owned (h : repository.Free operation key)
    (hOwned : ∀ other otherKey, repository.bound other otherKey →
      repository.idempotencyOwners.get? otherKey = some other)
    (hOwners : repository'.idempotencyOwners = repository.idempotencyOwners.insert key operation)
    (hOwn : ∀ otherKey, repository'.bound operation otherKey → otherKey = key ∨ repository.bound operation otherKey)
    (hRest : ∀ other, other ≠ operation → repository'.bound other = repository.bound other) (other : Operation)
    (otherKey : ScopeKey) (hRecorded : repository'.bound other otherKey) :
    repository'.idempotencyOwners.get? otherKey = some other := by
  rw [hOwners]
  by_cases hOther : other = operation
  · subst hOther
    rcases hOwn otherKey hRecorded with rfl | hBefore
    · exact get?_insert_self
    · exact h.owners.keeps (hOwned other otherKey hBefore)
  · rw [hRest other hOther] at hRecorded
    exact h.owners.keeps (hOwned other otherKey hRecorded)

theorem insert_unrecorded {V α : Type} {table : GoMap ScopeKey V} {value : V} {recorded : V → α}
    (h : (table.get? key).map recorded = none) : GoMap.Grows Eq table (table.insert key value) :=
  .insert_fresh _ (Option.map_eq_none_iff.mp h)

theorem isSome_of_insert {V : Type} {table : GoMap ScopeKey V} {other : ScopeKey} {value : V}
    (h : (GoMap.get? (table.insert key value) other).isSome) : other = key ∨ (table.get? other).isSome := by
  obtain ⟨_, hFound⟩ := Option.isSome_iff_exists.mp h
  rcases get?_insert_cases hFound with ⟨hKey, _⟩ | ⟨_, hTable⟩
  · exact .inl hKey
  · exact .inr (by rw [hTable]; rfl)

end Free

/-! ## What each write keeps -/

section Writes

variable {repository : Repository}

variable {workspaceID investigationID : GoString} {task : ReadTask}

theorem Sound.task_of_mem (h : Sound repository) {tasks : List ReadTask}
    (hTasks : repository.tasksOf workspaceID investigationID = some tasks) (hTask : task ∈ tasks) :
    repository.tasks.get? (scopeKey workspaceID task.id) = some task ∧ task.workspaceID = workspaceID := by
  obtain ⟨taskID, _, hStored⟩ := exists_of_mem_right (tasksOf_eq_some.mp hTasks) hTask
  have hKey := h.tasks _ _ hStored
  have hID : task.id = taskID := congrArg ScopeKey.resourceID hKey
  exact ⟨hID ▸ hStored, congrArg ScopeKey.workspaceID hKey⟩

theorem stoppedTask_continues (failureCode : GoString) (commitAt : Int) (task : ReadTask) :
    task.Continues (stoppedTask failureCode commitAt task) := by
  unfold stoppedTask
  cases hPending : task.pending with
  | true => exact ⟨⟨rfl, rfl, rfl⟩, fun h => by rw [hPending] at h; cases h⟩
  | false => exact .refl task

variable {item : Investigation}

variable {status : InvestigationStatus} {candidates : List ReadTask} {next : Incident} {commitAt : Int}

theorem Ending.candidate (h : Ending repository workspaceID item status candidates) (hSound : Sound repository)
    {candidate : ReadTask} (hMem : candidate ∈ candidates) :
    candidate.workspaceID = workspaceID ∧ ∃ task, repository.tasks.get? (scopeKey workspaceID candidate.id) = some task ∧
      task.Continues candidate := by
  cases h with
  | settled => cases hMem
  | stopped failureCode commitAt _ hTasks =>
    obtain ⟨task, hTask, rfl⟩ := List.mem_map.mp hMem
    obtain ⟨hStored, hWorkspace⟩ := hSound.task_of_mem hTasks hTask
    have hContinues := stoppedTask_continues failureCode commitAt task
    refine ⟨hContinues.same.2.1.trans hWorkspace, task, ?_, hContinues⟩
    rw [hContinues.same.1]
    exact hStored

theorem Ending.tasks (h : Ending repository workspaceID item status candidates) (hSound : Sound repository) :
    GoMap.Grows ReadTask.Continues repository.tasks (repository.storeTasks workspaceID candidates) ∧
      GoMap.Keyed (fun task => scopeKey task.workspaceID task.id) (repository.storeTasks workspaceID candidates) := by
  constructor
  · refine GoMap.Grows.insertAll fun candidate hMem _ hOld => ?_
    obtain ⟨_, task, hTask, hContinues⟩ := h.candidate hSound hMem
    rw [hTask] at hOld
    cases hOld
    exact hContinues
  · refine hSound.tasks.insertAll fun candidate hMem => ?_
    rw [(h.candidate hSound hMem).1]

variable {incident : Incident}

theorem Judgement.continues {incident' : Incident} {hypothesis hypothesis' : Hypothesis}
    (h : Judgement incident hypothesis incident' hypothesis') :
    incident.Continues incident' ∧ hypothesis.Continues hypothesis' := by
  cases h with
  | confirmed => exact ⟨⟨⟨rfl, rfl, rfl⟩, rfl, rfl⟩, ⟨⟨rfl, rfl, rfl, rfl, rfl⟩⟩⟩
  | rejected => exact ⟨.refl incident, ⟨⟨rfl, rfl, rfl, rfl, rfl⟩⟩⟩
  | inconclusive => exact ⟨.refl incident, .refl hypothesis⟩

theorem advancedInvestigation_continues (h : item.active) (commitAt : Int) :
    item.Continues (advancedInvestigation item commitAt) := by
  refine Investigation.continues_of_active h ?_
  unfold advancedInvestigation
  split <;> exact ⟨rfl, rfl, rfl⟩

theorem finalizedInvestigation_continues (h : item.active) (request : FinalizeInvestigationRequest)
    (commitAt : Int) : item.Continues (finalizedInvestigation item request commitAt) :=
  Investigation.continues_of_active h ⟨rfl, rfl, rfl⟩

theorem failedInvestigation_continues (h : item.active) (failureCode : GoString) (commitAt : Int) :
    item.Continues (failedInvestigation item failureCode commitAt) :=
  Investigation.continues_of_active h ⟨rfl, rfl, rfl⟩

theorem startedInvestigation_continues (h : item.status = .running) (commitAt : Int) :
    item.Continues { item with modelStatus := .running, updatedAt := commitAt } :=
  Investigation.continues_of_active (by simp [Investigation.active, h]) ⟨rfl, rfl, rfl⟩

theorem Sound.investigation_id (h : Sound repository)
    (hItem : repository.investigations.get? (scopeKey workspaceID investigationID) = some item) :
    item.id = investigationID ∧ item.workspaceID = workspaceID :=
  ⟨congrArg ScopeKey.resourceID (h.investigations _ _ hItem), congrArg ScopeKey.workspaceID (h.investigations _ _ hItem)⟩

theorem Sound.replaceInvestigation (h : Sound repository) {id : GoString} {next : Investigation}
    (hItem : repository.investigations.get? (scopeKey workspaceID investigationID) = some item)
    (hNext : item.Continues next) (hID : id = next.id ∨ id = investigationID) :
    GoMap.Grows Investigation.Continues repository.investigations
        (repository.investigations.insert (scopeKey workspaceID id) next) ∧
      GoMap.Keyed (fun item => scopeKey item.workspaceID item.id)
        (repository.investigations.insert (scopeKey workspaceID id) next) ∧
      ∀ key found, GoMap.get? (repository.investigations.insert (scopeKey workspaceID id) next) key = some found →
        ∃ ids, repository.taskIDsByInvestigation.get? key = some ids := by
  obtain ⟨hItemID, hWorkspace⟩ := h.investigation_id hItem
  have hSame : id = investigationID := by
    rcases hID with hID | hID
    · exact hID.trans (hNext.same.1.trans hItemID)
    · exact hID
  subst hSame
  refine ⟨?_, ?_, ?_⟩
  · refine GoMap.Grows.insert fun _ hOld => ?_
    rw [hItem] at hOld
    cases hOld
    exact hNext
  · refine h.investigations.insert ?_
    rw [hNext.same.1, hNext.same.2.1, hItemID, hWorkspace]
  · intro key found hFound
    rcases get?_insert_cases hFound with ⟨rfl, _⟩ | ⟨_, hBefore⟩
    · exact h.listed _ item hItem
    · exact h.listed key found hBefore

theorem Sound.replaceTask (h : Sound repository) {taskID : GoString} {next : ReadTask}
    (hTask : repository.tasks.get? (scopeKey workspaceID taskID) = some task) (hNext : task.Continues next) :
    GoMap.Grows ReadTask.Continues repository.tasks (repository.tasks.insert (scopeKey workspaceID next.id) next) ∧
      GoMap.Keyed (fun task => scopeKey task.workspaceID task.id)
        (repository.tasks.insert (scopeKey workspaceID next.id) next) := by
  have hKey := h.tasks _ _ hTask
  have hID : next.id = taskID := hNext.same.1.trans (congrArg ScopeKey.resourceID hKey)
  have hWorkspace : next.workspaceID = workspaceID := hNext.same.2.1.trans (congrArg ScopeKey.workspaceID hKey)
  constructor
  · refine GoMap.Grows.insert fun _ hOld => ?_
    rw [hID, hTask] at hOld
    cases hOld
    exact hNext
  · refine h.tasks.insert ?_
    rw [hWorkspace]

theorem Sound.replaceIncident (h : Sound repository) {incidentID id : GoString}
    (hIncident : repository.incidents.get? (scopeKey workspaceID incidentID) = some incident)
    (hNext : incident.Continues next) (hID : id = next.id ∨ id = incidentID) :
    GoMap.Grows Incident.Continues repository.incidents (repository.incidents.insert (scopeKey workspaceID id) next) ∧
      GoMap.Keyed (fun incident => scopeKey incident.workspaceID incident.id)
        (repository.incidents.insert (scopeKey workspaceID id) next) := by
  have hKey := h.incidents _ _ hIncident
  have hIncidentID : incident.id = incidentID := congrArg ScopeKey.resourceID hKey
  have hWorkspace : incident.workspaceID = workspaceID := congrArg ScopeKey.workspaceID hKey
  have hSame : id = incidentID := by
    rcases hID with hID | hID
    · exact hID.trans (hNext.same.1.trans hIncidentID)
    · exact hID
  subst hSame
  constructor
  · refine GoMap.Grows.insert fun _ hOld => ?_
    rw [hIncident] at hOld
    cases hOld
    exact hNext
  · refine h.incidents.insert ?_
    rw [hNext.same.1, hNext.same.2.1, hIncidentID, hWorkspace]

theorem transitionedIncident_continues
    (h : transitionedIncident incident commitAt = .ok next) : incident.Continues next := by
  rcases transitionedIncident_eq_ok h with rfl | rfl
  · exact .refl next
  · exact ⟨⟨rfl, rfl, rfl⟩, rfl, rfl⟩

theorem Completion.evidenceGrows {request : CompleteTaskRequest} {evidenceID : GoString}
    {evidence : Option Evidence} (h : Completion repository request item task commitAt evidenceID evidence) :
    GoMap.Grows Eq repository.evidence (evidence.elim repository.evidence (fun record =>
      repository.evidence.insert (scopeKey request.workspaceID record.id) record)) := by
  cases h with
  | evidence _ _ _ _ hFresh => exact GoMap.Grows.insert_fresh _ hFresh
  | without => exact .refl _

theorem Sound.keptLists (h : Sound repository) {investigations : GoMap ScopeKey Investigation}
    (hGrows : GoMap.Grows Investigation.Continues repository.investigations investigations) (key : ScopeKey)
    (ids : List GoString) (hIDs : repository.taskIDsByInvestigation.get? key = some ids) :
    ∃ item, investigations.get? key = some item := by
  obtain ⟨item, hItem⟩ := h.taskLists key ids hIDs
  obtain ⟨item', hItem', _⟩ := hGrows key item hItem
  exact ⟨item', hItem'⟩

/-- A new investigation comes with its task list. -/
theorem Sound.newList (h : Sound repository) {key : ScopeKey} (item : Investigation) (ids : List GoString)
    (hNew : repository.investigations.get? key = none) :
    repository.taskIDsByInvestigation.get? key = none ∧
    (∀ otherKey found, GoMap.get? (repository.taskIDsByInvestigation.insert key ids) otherKey = some found →
      ∃ owner, GoMap.get? (repository.investigations.insert key item) otherKey = some owner) ∧
    ∀ otherKey found, GoMap.get? (repository.investigations.insert key item) otherKey = some found →
      ∃ list, GoMap.get? (repository.taskIDsByInvestigation.insert key ids) otherKey = some list := by
  refine ⟨?_, ?_, ?_⟩
  · cases hList : repository.taskIDsByInvestigation.get? key with
    | none => rfl
    | some found =>
      obtain ⟨_, hItem⟩ := h.taskLists _ found hList
      rw [hNew] at hItem
      cases hItem
  · intro otherKey found hFound
    rcases get?_insert_cases hFound with ⟨rfl, _⟩ | ⟨_, hBefore⟩
    · exact ⟨item, get?_insert_self⟩
    · exact h.keptLists (.insert_fresh item hNew) otherKey found hBefore
  · intro otherKey found hFound
    rcases get?_insert_cases hFound with ⟨rfl, _⟩ | ⟨hOther, hBefore⟩
    · exact ⟨_, get?_insert_self⟩
    · obtain ⟨list, hList⟩ := h.listed otherKey found hBefore
      exact ⟨list, (get?_insert_of_ne hOther).trans hList⟩

theorem Write.keeps {repository' : Repository} (h : Write repository repository') (hSound : Sound repository) :
    Extends repository repository' ∧ Sound repository' := by
  cases h with
  | signal _ _ hFresh =>
    exact ⟨{ Extends.refl repository with signals := .insert_fresh _ hFresh },
      { hSound with signals := hSound.signals.insert rfl }⟩
  | dismissal _ _ _ hFresh =>
    exact ⟨{ Extends.refl repository with associations := .insert_fresh _ hFresh }, { hSound with }⟩
  | opening _ _ _ _ _ _ hFresh _ hNew =>
    refine ⟨{ Extends.refl repository with
      associations := .insert_fresh _ hFresh
      incidents := .insert_fresh _ hNew }, { hSound with incidents := hSound.incidents.insert rfl }⟩
  | counting _ signal incident now _ hFresh hIncident =>
    have hContinues : incident.Continues (countedIncident incident signal.observedAt now) := ⟨⟨rfl, rfl, rfl⟩, rfl, rfl⟩
    obtain ⟨hGrows, hKeyed⟩ := hSound.replaceIncident hIncident hContinues (.inl rfl)
    exact ⟨{ Extends.refl repository with
      associations := .insert_fresh _ hFresh
      incidents := hGrows }, { hSound with incidents := hKeyed }⟩
  | joining _ _ _ _ hFree =>
    exact ⟨{ Extends.refl repository with
      createRecords := insert_unrecorded hFree.2
      owners := hFree.owners }, { hSound with
      owned := hFree.owned hSound.owned rfl (fun _ => isSome_of_insert) (by rintro ⟨⟩ h <;> first | rfl | cases h rfl) }⟩
  | creation key _ _ _ item tasks _ hFree hIncident _ _ hNew hItem hTasks hNext =>
    obtain ⟨hNoList, hLists, hListed⟩ := hSound.newList item (tasks.map ReadTask.id) hNew
    obtain ⟨hIncidents, hKeyed⟩ := hSound.replaceIncident hIncident (transitionedIncident_continues hNext) (.inr rfl)
    refine ⟨{ Extends.refl repository with
      incidents := hIncidents
      investigations := .insert_fresh item hNew
      tasks := .insertAll (fun task hTask old hOld => ?_)
      taskIDs := .insert_fresh _ hNoList
      createRecords := insert_unrecorded hFree.2
      owners := hFree.owners }, { hSound with
      incidents := hKeyed
      investigations := hSound.investigations.insert (by rw [hItem.1])
      tasks := hSound.tasks.insertAll (fun task hTask => by rw [hTasks.workspace task hTask])
      taskLists := hLists
      listed := hListed
      owned := hFree.owned hSound.owned rfl (fun _ => isSome_of_insert) (by rintro ⟨⟩ h <;> first | rfl | cases h rfl) }⟩
    cases (hTasks.fresh task hTask).symm.trans hOld
  | completion request _ _ evidenceID _ task evidence commitAt hFree hItem hTask _ hPending hActive hEvidence
      hReceipt =>
    obtain ⟨hGrows, hKeyed, hListed⟩ := hSound.replaceInvestigation hItem (advancedInvestigation_continues hActive commitAt)
      (.inl rfl)
    obtain ⟨hTasks, hKeyedTasks⟩ := hSound.replaceTask hTask (completedTask_continues hPending request evidenceID commitAt)
    refine ⟨{ Extends.refl repository with
      tasks := hTasks
      investigations := hGrows
      evidence := hEvidence.evidenceGrows
      receipts := .insert_fresh _ hReceipt
      completeRecords := insert_unrecorded hFree.2
      owners := hFree.owners }, { hSound with
      tasks := hKeyedTasks
      investigations := hKeyed
      listed := hListed
      evidence := ?_
      receipts := hSound.receipts.insert rfl
      taskLists := hSound.keptLists hGrows
      owned := hFree.owned hSound.owned rfl (fun _ => isSome_of_insert) (by rintro ⟨⟩ h <;> first | rfl | cases h rfl) }⟩
    cases hEvidence with
    | evidence => exact hSound.evidence.insert rfl
    | without => exact hSound.evidence
  | start _ _ item _ commitAt hFree hItem hStatus =>
    obtain ⟨hGrows, hKeyed, hListed⟩ := hSound.replaceInvestigation hItem
      (startedInvestigation_continues hStatus.1 commitAt) (.inr rfl)
    exact ⟨{ Extends.refl repository with
      investigations := hGrows
      startRecords := insert_unrecorded hFree.2
      owners := hFree.owners }, { hSound with
      investigations := hKeyed
      listed := hListed
      taskLists := hSound.keptLists hGrows
      owned := hFree.owned hSound.owned rfl (fun _ => isSome_of_insert) (by rintro ⟨⟩ h <;> first | rfl | cases h rfl) }⟩
  | finalization request _ item _ hypotheses commitAt hFree hItem hActive _ hEnding hHypotheses =>
    obtain ⟨hGrows, hKeyed, hListed⟩ := hSound.replaceInvestigation hItem
      (finalizedInvestigation_continues hActive request commitAt) (.inl rfl)
    obtain ⟨hTasks, hKeyedTasks⟩ := hEnding.tasks hSound
    refine ⟨{ Extends.refl repository with
      investigations := hGrows
      tasks := hTasks
      hypotheses := .insertAll (fun hypothesis hMem old hOld => ?_)
      finalizeRecords := insert_unrecorded hFree.2
      owners := hFree.owners }, { hSound with
      investigations := hKeyed
      listed := hListed
      tasks := hKeyedTasks
      hypotheses := hSound.hypotheses.insertAll (fun hypothesis hMem => by
        rw [hHypotheses.workspace hypothesis hMem]; rfl)
      taskLists := hSound.keptLists hGrows
      owned := hFree.owned hSound.owned rfl (fun _ => isSome_of_insert) (by rintro ⟨⟩ h <;> first | rfl | cases h rfl) }⟩
    cases (hHypotheses.fresh hypothesis hMem).symm.trans hOld
  | failure request _ item _ commitAt hFree hItem hActive hEnding =>
    obtain ⟨hGrows, hKeyed, hListed⟩ := hSound.replaceInvestigation hItem
      (failedInvestigation_continues hActive request.failureCode commitAt) (.inr rfl)
    obtain ⟨hTasks, hKeyedTasks⟩ := hEnding.tasks hSound
    exact ⟨{ Extends.refl repository with
      investigations := hGrows
      tasks := hTasks
      failRecords := insert_unrecorded hFree.2
      owners := hFree.owners }, { hSound with
      investigations := hKeyed
      listed := hListed
      tasks := hKeyedTasks
      taskLists := hSound.keptLists hGrows
      owned := hFree.owned hSound.owned rfl (fun _ => isSome_of_insert) (by rintro ⟨⟩ h <;> first | rfl | cases h rfl) }⟩
  | feedback _ _ _ _ _ _ feedback hFree hIncident hHypothesis _ hNew hWorkspace hJudgement =>
    obtain ⟨hNext, hNextHypothesis⟩ := hJudgement.continues
    obtain ⟨hGrows, hKeyed⟩ := hSound.replaceIncident hIncident hNext (.inr rfl)
    refine ⟨{ Extends.refl repository with
      incidents := hGrows
      hypotheses := .insert (fun old hOld => ?_)
      feedback := .insert_fresh _ hNew
      feedbackRecords := insert_unrecorded hFree.2
      owners := hFree.owners }, { hSound with
      incidents := hKeyed
      hypotheses := hSound.hypotheses.insert ?_
      feedback := hSound.feedback.insert (by rw [hWorkspace])
      owned := hFree.owned hSound.owned rfl (fun _ => isSome_of_insert) (by rintro ⟨⟩ h <;> first | rfl | cases h rfl) }⟩
    · rw [hHypothesis] at hOld
      cases hOld
      exact hNextHypothesis
    · rw [hNextHypothesis.same.1, hNextHypothesis.same.2.1]
      exact hSound.hypotheses _ _ hHypothesis

end Writes

end AiopsSystem.Investigations
