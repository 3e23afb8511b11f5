import AiopsSystem.Go.Digest
import AiopsSystem.Investigations.RepositoryRuns

/-! # Idempotency keys

The six operations with a key share one space of keys in each workspace. The
first success binds the key to its operation and its request hash; from then on
the key answers every request, the same one with the same resources and any
other with a conflict.
-/

namespace AiopsSystem.Investigations

open Go Go.Section

section Bindings

variable {repository repository' : Repository} {operation : Operation} {key : ScopeKey} {requestHash : GoString}
  {resourceIDs : List GoString}

theorem Extends.tasksOf (h : Extends repository repository') (hSound : Sound repository)
    {workspaceID investigationID : GoString} {item : Investigation} {tasks : List ReadTask}
    (hItem : repository.investigations.get? (scopeKey workspaceID investigationID) = some item)
    (hTasks : repository.tasksOf workspaceID investigationID = some tasks) :
    ∃ tasks', repository'.tasksOf workspaceID investigationID = some tasks' ∧
      tasks'.map ReadTask.id = tasks.map ReadTask.id := by
  obtain ⟨_, hIDs⟩ := hSound.listed _ item hItem
  have hIDs' := h.taskIDs.keeps hIDs
  simp only [tasksOf_eq_some, hIDs, hIDs', Option.getD_some] at hTasks ⊢
  clear hIDs hIDs'
  induction hTasks with
  | nil => exact ⟨[], .nil, rfl⟩
  | @cons taskID task _ _ hTask _ ih =>
    obtain ⟨task', hTask', hContinues⟩ := h.tasks _ task hTask
    obtain ⟨tasks', hTasks', hNames⟩ := ih
    exact ⟨task' :: tasks', .cons hTask' hTasks', by rw [List.map_cons, List.map_cons, hContinues.same.1, hNames]⟩

theorem Extends.evidenceAt (h : Extends repository repository') {workspaceID evidenceID : GoString}
    {evidence : Option Evidence} (hEvidence : EvidenceAt repository workspaceID evidenceID evidence) :
    EvidenceAt repository' workspaceID evidenceID evidence := by
  cases evidence with
  | none => exact hEvidence
  | some evidence => exact ⟨hEvidence.1, h.evidence.keeps hEvidence.2⟩

theorem Binds.extend (h : Binds repository operation key requestHash resourceIDs) (hSound : Sound repository)
    (hExtends : Extends repository repository') : Binds repository' operation key requestHash resourceIDs := by
  obtain ⟨_, hRecorded, rfl⟩ := h.record
  refine ⟨hExtends.owners.keeps h.owner, ?_⟩
  cases operation with
  | createInvestigation =>
    obtain ⟨record, item, tasks, hRecord, hHash, hItem, hTasks, rfl⟩ := recorded_create_iff.mp hRecorded
    obtain ⟨item', hItem', hContinues⟩ := hExtends.investigations _ item hItem
    obtain ⟨tasks', hTasks', hNames⟩ := hExtends.tasksOf hSound hItem hTasks
    refine ⟨_, recorded_create_iff.mpr
      ⟨record, item', tasks', hExtends.createRecords.keeps hRecord, hHash, hItem', hTasks', rfl⟩, ?_⟩
    simp only [Answer.resourceIDs, hContinues.same.1, hNames]
  | completeTask =>
    obtain ⟨record, task, receipt, evidence, hRecord, hHash, hTask, hReceipt, hEvidence, rfl⟩ :=
      recorded_complete_iff.mp hRecorded
    obtain ⟨task', hTask', hContinues⟩ := hExtends.tasks _ task hTask
    refine ⟨_, recorded_complete_iff.mpr ⟨record, task', receipt, evidence, hExtends.completeRecords.keeps hRecord, hHash,
      hTask', hExtends.receipts.keeps hReceipt, hExtends.evidenceAt hEvidence, rfl⟩, ?_⟩
    simp only [Answer.resourceIDs, hContinues.same.1]
  | startModel =>
    obtain ⟨record, hRecord, hHash, rfl⟩ := recorded_start_iff.mp hRecorded
    exact ⟨_, recorded_start_iff.mpr ⟨record, hExtends.startRecords.keeps hRecord, hHash, rfl⟩, rfl⟩
  | finalizeInvestigation =>
    obtain ⟨record, hRecord, hHash, rfl⟩ := recorded_finalize_iff.mp hRecorded
    exact ⟨_, recorded_finalize_iff.mpr ⟨record, hExtends.finalizeRecords.keeps hRecord, hHash, rfl⟩, rfl⟩
  | failInvestigation =>
    obtain ⟨record, item, hRecord, hHash, hItem, rfl⟩ := recorded_fail_iff.mp hRecorded
    obtain ⟨item', hItem', hContinues⟩ := hExtends.investigations _ item hItem
    refine ⟨_, recorded_fail_iff.mpr ⟨record, item', hExtends.failRecords.keeps hRecord, hHash, hItem', rfl⟩, ?_⟩
    simp only [Answer.resourceIDs, hContinues.same.1]
  | recordFeedback =>
    obtain ⟨record, feedback, hRecord, hHash, hFeedback, rfl⟩ := recorded_feedback_iff.mp hRecorded
    exact ⟨_, recorded_feedback_iff.mpr
      ⟨record, feedback, hExtends.feedbackRecords.keeps hRecord, hHash, hExtends.feedback.keeps hFeedback, rfl⟩, rfl⟩

def AnswersAs (bound request : KeyedRequest) (resourceIDs : List GoString) (reply : Reply) : Prop :=
  if request.operation = bound.operation ∧ request.requestHash = bound.requestHash then
    ∃ answer, reply = .ok answer ∧ answer.resourceIDs = resourceIDs
  else reply = .error .idempotencyConflict

theorem Binds.replay {bound request : KeyedRequest}
    (h : Binds repository bound.operation bound.key bound.requestHash resourceIDs) (hKey : request.key = bound.key) :
    ∃ reply, repository.replay request.operation request.key request.requestHash = some reply ∧
      AnswersAs bound request resourceIDs reply := by
  obtain ⟨answer, hRecorded, hIDs⟩ := h.record
  unfold Repository.replay AnswersAs Repository.idempotencyOwnerMatches
  rw [hKey, h.owner]
  by_cases hOperation : request.operation = bound.operation
  · rw [hOperation, hRecorded]
    by_cases hHash : request.requestHash = bound.requestHash
    · refine ⟨.ok answer, ?_, ?_⟩
      · simp [hHash]
      · rw [if_pos ⟨rfl, hHash⟩]
        exact ⟨answer, rfl, hIDs⟩
    · refine ⟨.error .idempotencyConflict, ?_, ?_⟩
      · have hOther : bound.requestHash ≠ request.requestHash := fun hSame => hHash hSame.symm
        simp [hOther]
      · rw [if_neg (fun hBoth => hHash hBoth.2)]
  · refine ⟨.error .idempotencyConflict, ?_, ?_⟩
    · have hOther : bound.operation ≠ request.operation := fun hSame => hOperation hSame.symm
      simp [hOther]
    · rw [if_neg (fun hBoth => hOperation hBoth.1)]

theorem Sound.binds_of_replay (h : Sound repository) {answer : Answer}
    (hReplay : repository.replay operation key requestHash = some (.ok answer)) :
    Binds repository operation key requestHash answer.resourceIDs := by
  unfold Repository.replay at hReplay
  by_cases hOwner : repository.idempotencyOwnerMatches key operation = false
  · rw [if_pos hOwner] at hReplay
    cases hReplay
  · rw [if_neg hOwner, Option.map_eq_some_iff] at hReplay
    obtain ⟨⟨hash, _⟩, hRecorded, hReply⟩ := hReplay
    by_cases hHash : hash = requestHash
    · simp only [hHash, ne_eq, not_true_eq_false, if_false] at hReply
      rw [hHash, hReply] at hRecorded
      exact ⟨h.owned _ _ (Repository.bound_iff.mpr (by rw [hRecorded]; rfl)), answer, hRecorded, rfl⟩
    · simp only [ne_eq, hHash, not_false_eq_true, if_true] at hReply
      cases hReply

end Bindings

def Event.call : Event → Call
  | .begin call _ => call
  | .commit call _ => call

def Event.live : Event → Bool
  | .begin _ contextDone => !contextDone
  | .commit _ _ => true

section Steps

variable {encoding : Encoding} {repository : Repository}

theorem step_handles (hSound : Sound repository) {event : Event} {request : KeyedRequest} (hLive : event.live)
    (hRequest : event.call.keyedRequest encoding = some (.ok request)) :
    match (repository.step encoding event).1 with
    | none => (repository.step encoding event).2 = repository
    | some reply => Handles request repository reply (repository.step encoding event).2 := by
  cases event with
  | commit => exact locked_handles hSound hRequest
  | begin call contextDone =>
    cases contextDone with
    | true => cases hLive
    | false =>
      cases call with
      | createOrGetInvestigation create =>
        simp only [Event.call, Call.keyedRequest, Option.some.injEq] at hRequest
        cases hArguments : createArguments encoding create with
        | error =>
          rw [hArguments] at hRequest
          cases hRequest
        | ok result =>
          rw [hArguments] at hRequest
          cases hRequest
          simp only [Repository.step, look, hArguments, Bool.false_eq_true, if_false]
          cases hReplay : repository.replay .createInvestigation
              (scopeKey create.workspaceID create.idempotencyKey) result.2 with
          | none => trivial
          | some => exact .inl ⟨hReplay, rfl⟩
      | registerSignal | correlateSignal => cases hRequest
      | _ => rfl

theorem Handles.binds (hSound : Sound repository) {request : KeyedRequest} {answer : Answer} {repository' : Repository}
    (h : Handles request repository (.ok answer) repository') :
    Binds repository' request.operation request.key request.requestHash answer.resourceIDs := by
  rcases h with ⟨hReplay, rfl⟩ | ⟨_, _, hBinds, _⟩
  · exact hSound.binds_of_replay hReplay
  · exact hBinds

end Steps

/-- Once a request with a key succeeded, its key stays bound to its operation, its request hash and its resources:
every later request with the key that is valid and has a live context changes nothing, is answered with the same
resources if it is the same and with a conflict if it is not. And no call that returns an error changes a record. -/
theorem keys_stay_bound (encoding : Encoding) (events : List Event) :
    (∀ n event request answer, events[n]? = some event → event.live = true →
      event.call.keyedRequest encoding = some (.ok request) →
      (((machine encoding).stateAt events n).step encoding event).1 = some (.ok answer) →
      ∀ m, n < m → Binds ((machine encoding).stateAt events m) request.operation request.key request.requestHash
          answer.resourceIDs ∧
        ∀ later request', events[m]? = some later → later.live = true →
          later.call.keyedRequest encoding = some (.ok request') → request'.key = request.key →
          (machine encoding).stateAt events (m + 1) = (machine encoding).stateAt events m ∧
            ∀ reply, (((machine encoding).stateAt events m).step encoding later).1 = some reply →
              AnswersAs request request' answer.resourceIDs reply) ∧
    ∀ n event failure, events[n]? = some event →
      (((machine encoding).stateAt events n).step encoding event).1 = some (.error failure) →
      SameRecords ((machine encoding).stateAt events n) ((machine encoding).stateAt events (n + 1)) := by
  constructor
  · intro n event request answer hEvent hLive hRequest hReply m hLater
    have hHandles := step_handles (stateAt_sound encoding events n) hLive hRequest
    rw [hReply] at hHandles
    have hNow := hHandles.binds (stateAt_sound encoding events n)
    have hBinds : Binds ((machine encoding).stateAt events m) request.operation request.key request.requestHash
        answer.resourceIDs := by
      refine Binds.extend ?_ (stateAt_sound encoding events (n + 1)) (stateAt_extends encoding events hLater)
      rw [(machine encoding).stateAt_succ hEvent]
      exact hNow
    refine ⟨hBinds, fun later request' hEvent' hLive' hRequest' hKey => ?_⟩
    obtain ⟨reply, hReplay, hAnswers⟩ := hBinds.replay hKey
    have hHandles' := step_handles (stateAt_sound encoding events m) hLive' hRequest'
    rw [(machine encoding).stateAt_succ hEvent']
    change (((machine encoding).stateAt events m).step encoding later).2 = _ ∧ _
    cases hReply' : (((machine encoding).stateAt events m).step encoding later).1 with
    | none =>
      rw [hReply'] at hHandles'
      exact ⟨hHandles', fun _ h => by cases h⟩
    | some =>
      rw [hReply'] at hHandles'
      rcases hHandles' with ⟨hSame, hState⟩ | ⟨hFree, _⟩
      · rw [hReplay] at hSame
        cases hSame
        exact ⟨hState, fun _ h => by cases h; exact hAnswers⟩
      · rw [Repository.replay_eq_none.mpr hFree] at hReplay
        cases hReplay
  · intro n event failure hEvent hReply
    have hMoves := step_moves encoding (stateAt_sound encoding events n) event
    rw [hReply] at hMoves
    rw [(machine encoding).stateAt_succ hEvent]
    exact Quiet.sameRecords hMoves

/-! ## A run -/

namespace Sample

def connectorDigest : GoString := ascii "c08c6acfff81cafe379f88061e6b71bfbf2e9b5c5fcba037f0ac69a6b896d41b"

def spec : TaskSpec where
  key := ascii "metrics"
  connectorID := ascii "prometheus-v1-" ++ connectorDigest
  operation := ascii "range_query"
  input := ascii "\x7b\"namespace\":\"payments\"\x7d"

def plan : PlanBinding where
  schemaVersion := PlanBinding.schemaVersionV1
  manifestDigest := ascii "05b3abf2579a5eb66403cd78be557fd860633a1fe2103c7642030defe32c657f"
  registryDigest := ascii "872491a30d60d598962de6e7b834ab76b2aa65fbab102c6ebaaae6acdc238822"
  profileDigest := ascii "1900eab6c028483d7126599ee6f50de0d27907b5c65fa90524580b4b0f9852b0"
  tasksHash := ascii "7bdbc66101862f3481fa3689b64b2477da42504c290068f5ff7a521a07ed8d3d"

def scope : TaskSpecScope where
  tenantID := ascii "tenant"
  workspaceID := ascii "workspace"
  environmentID := ascii "production"
  serviceID := ascii "payments"
  mappingStatus := .exact

def components : TaskRuntimeComponents where
  connectorDigest := connectorDigest
  targetDigest := ascii "34a04005bcaf206eec990bd9637d9fdb6725e0a0c0d4aebf003f17f4c956eb5c"
  executorDigest := ascii "8fba13dab71d6fdd8a9b9db1f06e81315dfbfd69167b6097f724604db3c91cdf"

def inputHash : GoString := ascii "6cddcb2890483bd4c3217e4c62f5215b6bdb4428e58d3becf441ecd9e777d383"

def hashes : List (RequestSemantics × GoString) :=
  [(.taskSpecs [spec], plan.tasksHash),
    (.readTaskRuntime plan.registryDigest scope spec.key 1 spec.connectorID spec.operation inputHash components,
      ascii "22a674802750f9920d1e386886aeb49642b4fe90607b585dded811745fc2c97a"),
    (.create (ascii "incident") plan.tasksHash plan,
      ascii "47e31c9edf8723432e87bc290e993bfc383745273aed040c882b3c59659b66dc"),
    (.startModel (ascii "investigation"), ascii "6b064db890a4c692efaf766fbf818b1f8be9dfc3d71baafd70c6eefe92b0be37")]

def encoding : Encoding where
  safeJSONObject _ := true
  safeText _ := true
  safeMetadata _ _ := true
  trimmed _ := true
  sha256Hex := digestTable [(spec.input, inputHash)]
  semanticRequestHash value := List.lookup value hashes
  transform := some
  taskTargetMaterial _ := false

def env (ids : List GoString) (tenantID : GoString) (clock : Int) : Environment where
  contextDone := false
  clock := clock
  ids index := (ids[index]?).getD []
  tenant := some tenantID
  authorize _ _ := .authorized
  bindRuntime _ _ _ := .bound components

def signal (id : GoString) (observedAt : Int) : Signal where
  id := id
  workspaceID := ascii "workspace"
  integrationID := ascii "integration"
  provider := ascii "alertmanager"
  providerEventID := id
  payloadHash := ascii "239f59ed55e737c77147cf55ad0c1b030b6d7ee748a7426952f9b852d5a935e5"
  fingerprint := id
  status := .firing
  labels := ∅
  observedAt := observedAt

def correlation (signalID : GoString) : CorrelateSignalRequest where
  workspaceID := ascii "workspace"
  signalID := signalID
  expectedSignalHash := []
  correlationKey := ascii "payments/errors"
  serviceID := ascii "payments"
  environmentID := ascii "production"
  mappingStatus := .exact

def create : CreateOrGetInvestigationRequest where
  workspaceID := ascii "workspace"
  incidentID := ascii "incident"
  idempotencyKey := ascii "key"
  planBinding := plan
  tasks := [spec]

def start (investigationID : GoString) : StartModelRequest where
  workspaceID := ascii "workspace"
  investigationID := investigationID
  idempotencyKey := ascii "key"

/-- A signal opens an incident, the incident is investigated under a key, and the key is used again for the same and for
another operation. -/
def run (investigationID : GoString) : List Event :=
  [.commit (.registerSignal (signal (ascii "signal") second)) (env [] (ascii "tenant") (2 * second)),
    .commit (.correlateSignal (correlation (ascii "signal"))) (env [ascii "incident"] (ascii "tenant") (3 * second)),
    .commit (.createOrGetInvestigation create) (env [ascii "investigation", ascii "task"] [] (4 * second)),
    .begin (.createOrGetInvestigation create) false,
    .commit (.startModel (start investigationID)) (env [] [] (5 * second))]

end Sample

theorem sample_createArguments : createArguments Sample.encoding Sample.create =
    .ok ([Sample.spec], ascii "47e31c9edf8723432e87bc290e993bfc383745273aed040c882b3c59659b66dc") := by
  decide +kernel

theorem exists_ok {reply : Option Reply} (h : reply.any Except.toBool) : ∃ answer, reply = some (.ok answer) := by
  cases reply with
  | none => cases h
  | some reply =>
    cases reply with
    | error => cases h
    | ok answer => exact ⟨answer, rfl⟩

/-- After the investigation was created under the key, the key keeps it and starts no model. -/
theorem keys_stay_bound_sample : ∃ answer : Answer,
    Binds ((machine Sample.encoding).stateAt (Sample.run (ascii "investigation")) 4) .createInvestigation
      (scopeKey (ascii "workspace") (ascii "key"))
      (ascii "47e31c9edf8723432e87bc290e993bfc383745273aed040c882b3c59659b66dc") answer.resourceIDs ∧
    (((machine Sample.encoding).stateAt (Sample.run (ascii "investigation")) 4).step Sample.encoding
      (.commit (.startModel (Sample.start (ascii "investigation"))) (Sample.env [] [] (5 * second)))).1 =
      some (.error .idempotencyConflict) := by
  have hCreated : (((machine Sample.encoding).stateAt (Sample.run (ascii "investigation")) 2).step
      Sample.encoding (.commit (.createOrGetInvestigation Sample.create)
        (Sample.env [ascii "investigation", ascii "task"] [] (4 * second)))).1.any Except.toBool = true := by
    decide +kernel
  obtain ⟨answer, hAnswer⟩ := exists_ok hCreated
  have hRequest : (Event.commit (.createOrGetInvestigation Sample.create)
      (Sample.env [ascii "investigation", ascii "task"] [] (4 * second))).call.keyedRequest Sample.encoding =
        some (.ok ⟨.createInvestigation, scopeKey (ascii "workspace") (ascii "key"),
          ascii "47e31c9edf8723432e87bc290e993bfc383745273aed040c882b3c59659b66dc"⟩) := by
    simp only [Event.call, Call.keyedRequest, sample_createArguments]
    rfl
  obtain ⟨hBinds, hLater⟩ := (keys_stay_bound Sample.encoding (Sample.run (ascii "investigation"))).1 2 _ _ answer rfl rfl
    hRequest hAnswer 4 (by decide)
  refine ⟨answer, hBinds, ?_⟩
  have hStart : (Event.commit (.startModel (Sample.start (ascii "investigation")))
      (Sample.env [] [] (5 * second))).call.keyedRequest Sample.encoding = some (.ok ⟨.startModel,
        scopeKey (ascii "workspace") (ascii "key"),
        ascii "6b064db890a4c692efaf766fbf818b1f8be9dfc3d71baafd70c6eefe92b0be37"⟩) := by
    have hArguments : startModelArguments Sample.encoding (Sample.start (ascii "investigation")) =
        .ok (ascii "6b064db890a4c692efaf766fbf818b1f8be9dfc3d71baafd70c6eefe92b0be37") := by
      decide +kernel
    simp only [Event.call, Call.keyedRequest, hArguments]
    rfl
  obtain ⟨_, hReplies⟩ := hLater _ _ rfl rfl hStart rfl
  exact congrArg some (hReplies _ rfl)

/-- A malformed request is refused before its key is looked at: with the key bound to a creation, starting a model of an
investigation without an identifier is an invalid request and not a conflict. -/
theorem malformed_request_is_not_a_conflict :
    ((machine Sample.encoding).stateAt (Sample.run []) 4).idempotencyOwners.get?
        (scopeKey (ascii "workspace") (ascii "key")) = some .createInvestigation ∧
      (((machine Sample.encoding).stateAt (Sample.run []) 4).step Sample.encoding
        (.commit (.startModel (Sample.start [])) (Sample.env [] [] (5 * second)))).1 = some (.error .invalidRequest) := by
  constructor
  · decide +kernel
  · rfl

end AiopsSystem.Investigations
