import AiopsSystem.Credential.DurableIssuance

/-! # The calls on the copies of one handle

A session is a sequence of `Issue` and `RecordNoCredential` calls, each on a
copy of the handle and through any broker, with the events of each call and
what it returned. One call at most consumes the handle.
-/

namespace AiopsSystem.Credential.DurableBroker

open Go Program Stage List

section Chain

/-- What the repository and the issuer answered when a credential was issued. -/
structure Answers where
  authorized : ChildCreateAuthorization
  child : DurableChild
  (anchored activated : Revocation)

def Answers.events (answers : Answers) (prepared : ConsumedPreparedCredential) : List BrokerEvent :=
  [⟨.authorizeChildCreate { permit := prepared.permit, fence := prepared.request.fence }, .ok answers.authorized⟩,
    ⟨.createChild prepared.resolved.issuer {
      revocationID := prepared.revocationID
      profileRevision := prepared.resolved.profile.revision
      databaseAuthorizedAt := answers.authorized.databaseAuthorizedAt
      ttl := answers.authorized.ttl
      credentialExpiresAt := prepared.expiresAt }, (answers.child, false)⟩,
    ⟨.recordAnchor {
      revocationID := prepared.revocationID
      fence := prepared.request.fence
      accessor := answers.child.accessor }, .ok answers.anchored⟩,
    ⟨.activate { revocationID := prepared.revocationID, fence := prepared.request.fence }, .ok answers.activated⟩]

/-- The answers were accepted one after the other, and the credential ends with the child at the latest. -/
structure Answers.Accepted (answers : Answers) (prepared : ConsumedPreparedCredential) (credential : DurableCredential) :
    Prop where
  authorized : validChildCreateAuthorization answers.authorized prepared = true
  anchored : validAnchoredResult answers.anchored answers.authorized.revocation prepared = true
  activated : validActiveResult answers.activated answers.anchored prepared = true
  child : credential.expiresAt ≤ answers.child.expiresAt
  authorization : credential.expiresAt ≤ answers.authorized.credentialExpiresAt

variable {prepared : ConsumedPreparedCredential} {trace : List BrokerEvent}

variable {dispatched : Dispatched} {credential : DurableCredential}

theorem dispatchChild_ok (h : Runs (dispatchChild prepared).run trace (.ok dispatched)) :
    validChildCreateAuthorization dispatched.authorized prepared ∧
      [⟨.authorizeChildCreate { permit := prepared.permit, fence := prepared.request.fence },
          .ok dispatched.authorized⟩,
        (⟨.createChild prepared.resolved.issuer {
          revocationID := prepared.revocationID
          profileRevision := prepared.resolved.profile.revision
          databaseAuthorizedAt := dispatched.authorized.databaseAuthorizedAt
          ttl := dispatched.authorized.ttl
          credentialExpiresAt := prepared.expiresAt }, (dispatched.child, dispatched.createFailed)⟩ : BrokerEvent)].Sublist
        trace := by
  iterate 3 obtain ⟨_, _, _, rfl, _, h⟩ := runs_ok_bind.mp h
  obtain ⟨authorized, _, _, rfl, hAuthorize, h⟩ := runs_ok_bind.mp h
  obtain ⟨_, _, _, rfl, hValid, h⟩ := runs_ok_bind.mp h
  obtain ⟨⟨child, createFailed⟩, _, _, rfl, hCreate, h⟩ := runs_ok_bind.mp h
  iterate 3 obtain ⟨_, _, _, rfl, _, h⟩ := runs_ok_bind.mp h
  obtain ⟨rfl, rfl⟩ := runs_ok_pure.mp h
  obtain rfl := runs_perform.mp (runs_ok_attemptOr.mp hAuthorize)
  obtain rfl := runs_perform.mp (runs_ok_lift.mp hCreate)
  obtain ⟨rfl, hAuthorized⟩ := runs_ok_check.mp hValid
  have hLater : ∀ {first rest events : List BrokerEvent}, events.Sublist rest → events.Sublist (first ++ rest) :=
    fun h => h.trans (sublist_append_right _ _)
  exact ⟨hAuthorized, hLater (hLater (hLater (by simp)))⟩

theorem activateChild_ok {answer : Except Unit Revocation}
    (h : Runs (activateChild prepared dispatched answer).run trace (.ok credential)) :
    ∃ anchored activated now, answer = .ok anchored ∧ dispatched.createFailed = false ∧
      validAnchoredResult anchored dispatched.authorized.revocation prepared ∧
      validActiveResult activated anchored prepared ∧
      validDynamicSecret { secret := credential.secret, expiresAt := credential.expiresAt } dispatched.authorized
        dispatched.child.expiresAt now ∧
      (⟨.activate { revocationID := prepared.revocationID, fence := prepared.request.fence }, .ok activated⟩ :
        BrokerEvent) ∈ trace := by
  obtain ⟨anchored, _, _, rfl, hAnswer, h⟩ := runs_ok_bind.mp h
  obtain ⟨_, _, _, rfl, hAnchored, h⟩ := runs_ok_bind.mp h
  obtain ⟨_, _, _, rfl, _, h⟩ := runs_ok_bind.mp h
  obtain ⟨_, _, _, rfl, hChild, h⟩ := runs_ok_bind.mp h
  obtain ⟨_, _, _, rfl, _, h⟩ := runs_ok_bind.mp h
  obtain ⟨_, _, _, rfl, _, h⟩ := runs_ok_bind.mp h
  obtain ⟨⟨_, _⟩, _, _, rfl, _, h⟩ := runs_ok_bind.mp h
  obtain ⟨_, _, _, rfl, hDynamic, h⟩ := runs_ok_bind.mp h
  iterate 3 obtain ⟨_, _, _, rfl, _, h⟩ := runs_ok_bind.mp h
  obtain ⟨activated, _, _, rfl, hActivate, h⟩ := runs_ok_bind.mp h
  obtain ⟨_, _, _, rfl, hActivated, h⟩ := runs_ok_bind.mp h
  obtain ⟨_, _, _, rfl, _, h⟩ := runs_ok_bind.mp h
  obtain ⟨rfl, rfl⟩ := runs_ok_pure.mp h
  obtain ⟨_, hAnswer⟩ := runs_ok_attemptOr.mp hAnswer
  obtain ⟨_, _, _, _, _, hClock⟩ := runs_ok_bind.mp hDynamic
  obtain ⟨now, _, _, _, _, hSecret⟩ := runs_ok_bind.mp hClock
  obtain rfl := runs_perform.mp (runs_ok_attemptOr.mp hActivate)
  refine ⟨anchored, activated, now, hAnswer.symm, (runs_ok_check.mp hChild).2.1, (runs_ok_check.mp hAnchored).2,
    (runs_ok_check.mp hActivated).2, (runs_ok_check.mp hSecret).2, ?_⟩
  simp

theorem issueConsumed_ok (h : Runs (issueConsumed prepared).run trace (.ok credential)) :
    ∃ answers : Answers, answers.Accepted prepared credential ∧ (answers.events prepared).Sublist trace := by
  obtain ⟨⟨authorized, child, _⟩, _, _, rfl, hFirst, _, _, rfl, hRest⟩ := runs_ok_bind.mp h
  obtain ⟨hAuthorized, hDispatched⟩ := dispatchChild_ok hFirst
  obtain ⟨anchored, activated, _, rfl, rfl, hAnchored, hActivated, hDynamic, hActivate⟩ := activateChild_ok hRest
  simp only [validDynamicSecret, Bool.and_eq_true, decide_eq_true_eq] at hDynamic
  refine ⟨⟨authorized, child, anchored, activated⟩, ⟨hAuthorized, hAnchored, hActivated, hDynamic.1.2, hDynamic.2⟩, ?_⟩
  exact hDispatched.append ((singleton_sublist.mpr hActivate).cons_cons _)

theorem validSuccessor_fields {status : RevocationStatus} {present : Bool} {revocation before : Revocation}
    (h : validSuccessor prepared status present revocation before) :
    revocation.status = status ∧ revocation.version = before.version + 1 ∧
      sameDurableFrozenRevocation revocation before := by
  simp only [validSuccessor, validFrozenRevocation, Bool.and_eq_true, beq_iff_eq] at h
  tauto

theorem sameDurableFrozenRevocation_trans {first second third : Revocation}
    (h : sameDurableFrozenRevocation first second) (h' : sameDurableFrozenRevocation second third) :
    sameDurableFrozenRevocation first third := by
  simp only [sameDurableFrozenRevocation, Bool.and_eq_true, beq_iff_eq] at h h' ⊢
  grind

end Chain

section Prepare

theorem prepare_ok {caller : Caller} {request : PrepareDurableCredentialRequest} {trace : List BrokerEvent}
    {handle : PreparedDurableCredential} {state : PreparedState}
    (h : Runs (prepare caller request).run trace (.ok (handle, state))) :
    ∃ contents preparation result, state.phase = .ready ∧ state.contents = some contents ∧
      contents.revocationID = state.revocationID ∧ contents.prepared = result.revocation ∧
      (⟨.prepare preparation, .ok result⟩ : BrokerEvent) ∈ trace ∧
      preparation.credentialExpiresAt = contents.expiresAt ∧
      result.revocation.version = 1 ∧ result.revocation.status = .prepared := by
  iterate 4 obtain ⟨_, _, _, rfl, _, h⟩ := runs_ok_bind.mp h
  obtain ⟨resolved, _, _, rfl, _, h⟩ := runs_ok_bind.mp h
  iterate 4 obtain ⟨_, _, _, rfl, _, h⟩ := runs_ok_bind.mp h
  obtain ⟨revocationID, _, _, rfl, _, h⟩ := runs_ok_bind.mp h
  iterate 3 obtain ⟨_, _, _, rfl, _, h⟩ := runs_ok_bind.mp h
  obtain ⟨expiresAt, _, _, rfl, _, h⟩ := runs_ok_bind.mp h
  obtain ⟨result, _, _, rfl, hPrepare, h⟩ := runs_ok_bind.mp h
  obtain ⟨_, _, _, rfl, _, h⟩ := runs_ok_bind.mp h
  obtain ⟨_, _, _, rfl, hValid, h⟩ := runs_ok_bind.mp h
  obtain ⟨rfl, hState⟩ := runs_ok_pure.mp h
  obtain ⟨rfl, rfl⟩ := Prod.mk.inj hState
  obtain rfl := runs_perform.mp (runs_ok_attemptOr.mp hPrepare)
  have hFields := (runs_ok_check.mp hValid).2
  simp only [validPreparedResult, validFrozenRevocation, Bool.and_eq_true, beq_iff_eq] at hFields
  let preparation : PrepareRequest := {
    revocationID := revocationID
    fence := request.fence
    issuer := resolved.profile.issuerID
    issuerRevision := resolved.profile.revision
    credentialExpiresAt := expiresAt }
  refine ⟨_, preparation, result, rfl, rfl, rfl, rfl, ?_, rfl, hFields.1.1, by tauto⟩
  simp [preparation]

end Prepare

section Sessions

variable {state : PreparedState}

def Idle (events : List BrokerEvent) : Prop := ∀ event ∈ events, event.request.inspects = true

theorem calls_validDurableResolution (resolved : ResolvedDurableIssuer) :
    Calls Request.inspects (validDurableResolution resolved) := by
  unfold validDurableResolution
  split
  · trivial
  dsimp only
  split
  · trivial
  refine ⟨rfl, fun _ => ?_⟩
  dsimp only
  split
  · trivial
  · exact ⟨rfl, fun _ => trivial⟩

variable {events : List BrokerEvent}

theorem spend_cases {α : Type} {phase : Phase} {use : ConsumedPreparedCredential → Step α} {caller : Caller}
    {handle : PreparedDurableCredential} {outcome : Except BrokerError α}
    {state' : PreparedState} (h : Runs (spend phase use caller handle state) events (outcome, state')) :
    (Idle events ∧ state' = state ∧ ∃ failure, outcome = .error failure) ∨
      ∃ contents idle rest, state.phase = .ready ∧ state.contents = some contents ∧ events = idle ++ rest ∧
        Idle idle ∧ state' = { state with phase := phase, contents := none } ∧
        Runs (use { contents with revocationID := state.revocationID }).run rest outcome := by
  unfold spend at h
  split at h
  · obtain ⟨rfl, hBoth⟩ := h
    cases hBoth
    exact .inl ⟨forall_mem_nil _, rfl, _, rfl⟩
  obtain ⟨ended, events, rfl, h⟩ := h
  have hContext : ∀ {rest : List BrokerEvent}, Idle rest → Idle (⟨.contextErr, ended⟩ :: rest) :=
    fun hRest => forall_mem_cons.mpr ⟨rfl, hRest⟩
  cases ended with
  | true =>
    obtain ⟨rfl, hBoth⟩ := h
    cases hBoth
    exact .inl ⟨hContext (forall_mem_nil _), rfl, _, rfl⟩
  | false =>
    obtain ⟨⟨consumed, left⟩, first, rest, rfl, hConsume, hRest⟩ := runs_bind.mp h
    unfold consumePrepared at hConsume
    split at hConsume
    · split at hConsume
      · obtain ⟨rfl, hBoth⟩ := hConsume
        cases hBoth
        obtain ⟨rfl, hBoth⟩ := hRest
        cases hBoth
        exact .inl ⟨hContext (forall_mem_nil _), rfl, _, rfl⟩
      · rename_i broker contents _ hContents hAccepted
        obtain ⟨resolution, first, rest, rfl, hResolution, hConsumed⟩ := runs_bind.mp hConsume
        have hIdle := (calls_validDurableResolution contents.resolved).trace hResolution
        cases resolution with
        | false =>
          obtain ⟨rfl, hBoth⟩ := hConsumed
          cases hBoth
          obtain ⟨rfl, hBoth⟩ := hRest
          cases hBoth
          refine .inl ⟨hContext ?_, rfl, _, rfl⟩
          rwa [append_nil, append_nil]
        | true =>
          obtain ⟨rfl, hBoth⟩ := hConsumed
          cases hBoth
          obtain ⟨used, last, _, rfl, hUsed, rfl, hBoth⟩ := runs_bind.mp hRest
          cases hBoth
          refine .inr ⟨contents, ⟨.contextErr, false⟩ :: first, last, ?_, hContents, ?_, hContext hIdle, rfl, hUsed⟩
          · by_contra hPhase
            exact hAccepted (.inr (.inl hPhase))
          · simp
    · obtain ⟨rfl, hBoth⟩ := hConsume
      cases hBoth
      obtain ⟨rfl, hBoth⟩ := hRest
      cases hBoth
      exact .inl ⟨hContext (forall_mem_nil _), rfl, _, rfl⟩

inductive Outcome where
  | issue (result : Except BrokerError DurableCredential)
  | recordNoCredential (result : Except BrokerError Revocation)

/-- One call: who made it on which copy, its events, what it returned, and the state the copies share afterwards. -/
structure CallRecord where
  caller : Caller
  handle : PreparedDurableCredential
  events : List BrokerEvent
  outcome : Outcome
  state : PreparedState

namespace CallRecord

def Performed (record : CallRecord) (state : PreparedState) : Prop :=
  match record.outcome with
  | .issue result => Runs (issue record.caller record.handle state) record.events (result, record.state)
  | .recordNoCredential result =>
    Runs (recordNoCredential record.caller record.handle state) record.events (result, record.state)

/-- The call found nothing to consume. -/
structure Idles (record : CallRecord) (state : PreparedState) : Prop where
  events : Idle record.events
  state : record.state = state
  failed : ∀ credential, record.outcome ≠ .issue (.ok credential)

def Spends (record : CallRecord) (prepared : ConsumedPreparedCredential) (events : List BrokerEvent) : Prop :=
  match record.outcome with
  | .issue result => record.state.phase = .issuing ∧ Runs (issueConsumed prepared).run events result
  | .recordNoCredential result =>
    record.state.phase = .noCredential ∧ Runs (recordNoCredentialConsumed prepared).run events result

variable {record : CallRecord}

theorem Performed.cases (h : record.Performed state) :
    record.Idles state ∨ ∃ contents idle rest, state.phase = .ready ∧ state.contents = some contents ∧
      record.events = idle ++ rest ∧ Idle idle ∧
      record.Spends { contents with revocationID := state.revocationID } rest := by
  obtain ⟨_, _, events, outcome, _⟩ := record
  cases outcome with
  | issue =>
    rcases spend_cases h with ⟨hIdle, hState, _, rfl⟩ | ⟨contents, idle, rest, hPhase, hContents, hEvents, hIdle, rfl, hRun⟩
    · exact .inl ⟨hIdle, hState, fun _ hIssued => nomatch hIssued⟩
    · exact .inr ⟨contents, idle, rest, hPhase, hContents, hEvents, hIdle, rfl, hRun⟩
  | recordNoCredential =>
    rcases spend_cases h with ⟨hIdle, hState, _⟩ | ⟨contents, idle, rest, hPhase, hContents, hEvents, hIdle, rfl, hRun⟩
    · exact .inl ⟨hIdle, hState, fun _ hIssued => nomatch hIssued⟩
    · exact .inr ⟨contents, idle, rest, hPhase, hContents, hEvents, hIdle, rfl, hRun⟩

theorem Spends.phase {prepared : ConsumedPreparedCredential}
    (h : record.Spends prepared events) : record.state.phase ≠ .ready := by
  unfold Spends at h
  split at h <;> simp [h.1]

end CallRecord

def Session : PreparedState → List CallRecord → Prop
  | _, [] => True
  | state, record :: rest => record.Performed state ∧ Session record.state rest

variable {records : List CallRecord}

theorem Session.spent (h : Session state records) (hPhase : state.phase ≠ .ready) :
    ∀ record ∈ records, record.Idles state := by
  induction records generalizing state with
  | nil => exact forall_mem_nil _
  | cons _ _ ih =>
    obtain ⟨hRecord, hRest⟩ := h
    rcases hRecord.cases with hIdles | ⟨_, _, _, hReady, _⟩
    · have hLater := ih hRest (hIdles.state ▸ hPhase)
      rw [hIdles.state] at hLater
      exact forall_mem_cons.mpr ⟨hIdles, hLater⟩
    · exact absurd hReady hPhase

/-- One call of the session consumed the handle; the calls before and after it did nothing. -/
structure Spent (state : PreparedState) (contents : ConsumedPreparedCredential) (records : List CallRecord) where
  before : List CallRecord
  record : CallRecord
  after : List CallRecord
  (idle rest : List BrokerEvent)
  records_eq : records = before ++ record :: after
  events_eq : record.events = idle ++ rest
  idles : Idle idle
  spends : record.Spends { contents with revocationID := state.revocationID } rest
  before_idles : ∀ other ∈ before, other.Idles state
  after_idles : ∀ other ∈ after, other.Idles record.state

variable {contents : ConsumedPreparedCredential}

theorem Session.cases (hContents : state.contents = some contents) (h : Session state records) :
    (∀ record ∈ records, record.Idles state) ∨ Nonempty (Spent state contents records) := by
  induction records with
  | nil => exact .inl (forall_mem_nil _)
  | cons record rest ih =>
    obtain ⟨hRecord, hRest⟩ := h
    rcases hRecord.cases with hIdles | ⟨found, idle, events, _, hFound, hEvents, hIdle, hSpends⟩
    · rw [hIdles.state] at hRest
      rcases ih hRest with hAll | hSpent
      · exact .inl (forall_mem_cons.mpr ⟨hIdles, hAll⟩)
      · obtain ⟨spent⟩ := hSpent
        exact .inr (.intro { spent with
          before := record :: spent.before
          records_eq := congrArg (record :: ·) spent.records_eq
          before_idles := forall_mem_cons.mpr ⟨hIdles, spent.before_idles⟩ })
    · rw [hContents] at hFound
      cases hFound
      exact .inr (.intro {
        before := [], record := record, after := rest, idle := idle, rest := events, records_eq := rfl
        events_eq := hEvents, idles := hIdle, spends := hSpends, before_idles := forall_mem_nil _
        after_idles := hRest.spent hSpends.phase })

section Counts

variable {kind : Request → Bool}

theorem Idle.countP (hKind : ∀ request : Request, request.inspects → kind request = false) (h : Idle events) :
    events.countP (fun event => kind event.request) = 0 := by
  rw [countP_eq_zero]
  intro event hEvent
  rw [hKind event.request (h event hEvent)]
  exact Bool.false_ne_true

theorem countP_idles (hKind : ∀ request : Request, request.inspects → kind request = false)
    {records : List CallRecord} (h : ∀ record ∈ records, record.Idles state) :
    (records.flatMap CallRecord.events).countP (fun event => kind event.request) = 0 := by
  refine Idle.countP hKind ?_
  intro event hEvent
  obtain ⟨record, hRecord, hEvent⟩ := mem_flatMap.mp hEvent
  exact (h record hRecord).events event hEvent

/-- What the consuming call asks for once is asked for once in the whole session. -/
theorem Session.countP_le_one {records : List CallRecord} (hContents : state.contents = some contents)
    (h : Session state records) (hKind : ∀ request : Request, request.inspects → kind request = false)
    (hIssue : ∀ prepared, AtMost kind 1 (issueConsumed prepared).run)
    (hNone : ∀ prepared, AtMost kind 0 (recordNoCredentialConsumed prepared).run) :
    (records.flatMap CallRecord.events).countP (fun event => kind event.request) ≤ 1 := by
  rcases h.cases hContents with hIdles | hSpent
  · rw [countP_idles hKind hIdles]
    exact Nat.zero_le 1
  · obtain ⟨spent⟩ := hSpent
    rw [spent.records_eq, flatMap_append, flatMap_cons, spent.events_eq]
    simp only [countP_append, countP_idles hKind spent.before_idles, countP_idles hKind spent.after_idles,
      spent.idles.countP hKind, Nat.zero_add, Nat.add_zero]
    have hSpends := spent.spends
    unfold CallRecord.Spends at hSpends
    split at hSpends
    · exact hIssue _ _ _ hSpends.2
    · exact (hNone _ _ _ hSpends.2).trans (Nat.zero_le 1)

end Counts

theorem recordNoCredentialConsumed_calls (prepared : ConsumedPreparedCredential) {allowed : Request → Prop}
    (hAllowed : ∀ request, allowed (.recordNoCredential request)) :
    Only allowed (recordNoCredentialConsumed prepared).run := by
  refine Stage.only_bind (only_attemptOr ((only_perform _).mpr (hAllowed _)) (fun _ => trivial)) fun _ => ?_
  exact Stage.only_bind (only_check trivial) fun _ => Stage.only_pure _

theorem Spent.anchored (spent : Spent state contents records)
    {record : CallRecord} (hRecord : record ∈ records) {before after : List BrokerEvent} {anchor : BrokerEvent}
    (hEvents : record.events = before ++ anchor :: after) (hAnchor : anchor.request.anchors) :
    record = spent.record ∧ ∃ earlier, spent.rest = earlier ++ anchor :: after := by
  have hIdle : ∀ {shared}, ¬ record.Idles shared := by
    intro shared hIdles
    rw [inspects_quiet.anchors _ (hIdles.events anchor (by simp [hEvents]))] at hAnchor
    cases hAnchor
  rw [spent.records_eq, mem_append, mem_cons] at hRecord
  rcases hRecord with hBefore | rfl | hAfter
  · exact absurd (spent.before_idles record hBefore) hIdle
  · refine ⟨rfl, anchor_after ?_ hAnchor (spent.events_eq.symm.trans hEvents)⟩
    exact fun event hEvent => inspects_quiet.anchors _ (spent.idles event hEvent)
  · exact absurd (spent.after_idles record hAfter) hIdle

/-- The credential came out of one chain of versions of the revocation that was prepared for the handle. -/
def ChainOf (prepareEvents : List BrokerEvent) (prepared : ConsumedPreparedCredential) (record : CallRecord)
    (credential : DurableCredential) : Prop :=
  ∃ (preparation : PrepareRequest) (result : PrepareResult) (answers : Answers),
    (⟨.prepare preparation, .ok result⟩ : BrokerEvent) ∈ prepareEvents ∧
    (answers.events prepared).Sublist record.events ∧
    [result.revocation, answers.authorized.revocation, answers.anchored, answers.activated].map
        (fun revocation => (revocation.status, revocation.version)) =
      [(.prepared, 1), (.prepared, 2), (.anchored, 3), (.active, 4)] ∧
    (∀ revocation ∈ [answers.authorized.revocation, answers.anchored, answers.activated],
      sameDurableFrozenRevocation revocation result.revocation = true) ∧
    credential.expiresAt ≤ answers.child.expiresAt ∧ credential.expiresAt ≤ preparation.credentialExpiresAt

end Sessions

section Sample

def Request.revokes : Request → Bool
  | .requestRevocation _ => true
  | _ => false

def sampleID : GoString := ascii "6f1c2f1e-0b2a-4c3d-8e4f-5a6b7c8d9e0f"

def sampleCaller : Caller := { broker := some { address := 1 }, nilContext := false }

def sampleRequest : PrepareDurableCredentialRequest where
  fence := { actionID := ascii "action-1", runnerID := ascii "runner-1", token := ascii "lease-1", epoch := 1 }
  selection := {
    tenantID := ascii "tenant-1", workspaceID := ascii "workspace-1", environmentID := ascii "staging"
    production := false, actionType := ascii "restart", connectorID := ascii "vault", permission := ascii "patch"
    resource := ascii "api" }
  requestedTTL := 300 * second
  policyExpiresAt := 2000 * second

def sampleResolved : ResolvedDurableIssuer where
  profile := { issuerID := ascii "issuer-1", revision := ascii "revision-1", credentialTTL := 300 * second }
  issuer := some { address := 2 }

def sampleRevocation (status : RevocationStatus) (version anchoredAt activatedAt : Int) : Revocation where
  id := sampleID
  tenantID := sampleRequest.selection.tenantID
  workspaceID := sampleRequest.selection.workspaceID
  environmentID := sampleRequest.selection.environmentID
  actionID := sampleRequest.fence.actionID
  targetKey := ascii "cluster-1/api"
  production := false
  runnerID := sampleRequest.fence.runnerID
  actionLeaseEpoch := 1
  issuer := sampleResolved.profile.issuerID
  issuerRevision := sampleResolved.profile.revision
  actionType := sampleRequest.selection.actionType
  connectorID := sampleRequest.selection.connectorID
  permission := sampleRequest.selection.permission
  resource := sampleRequest.selection.resource
  credentialTTLSeconds := 300
  credentialExpiresAt := 1300 * second
  status := status
  accessorPresent := anchoredAt ≠ 0
  availableAt := 1000 * second
  createdAt := 1000 * second
  updatedAt := 1000 * second
  anchoredAt := anchoredAt
  activatedAt := activatedAt
  version := version

def samplePermit : ChildCreatePermit := { revocationID := sampleID, token := ascii "permit-1" }

def sampleAnswers : Behaviour dependencies := fun _ request =>
  match request with
  | .contextErr | .candidateErr => false
  | .candidateDone | .timeoutSource _ | .finalizeContextSource _ => true
  | .clock => 1000 * second
  | .timeNow => 0
  | .uuidSource => .ok sampleID
  | .candidateDeadline => some { instant := second, monotonic := true }
  | .resolveDurableIssuer _ => .ok sampleResolved
  | .issuerID _ => sampleResolved.profile.issuerID
  | .issuerRevision _ => sampleResolved.profile.revision
  | .validateManager _ | .inspectChild _ _ _ => .ok ()
  | .createChild _ _ => ({ token := ascii "child", accessor := some (ascii "accessor"), expiresAt := 1100 * second }, false)
  | .issueDynamic _ _ _ => ({ secret := ascii "secret", expiresAt := 1100 * second }, false)
  | .prepare _ => .ok { revocation := sampleRevocation .prepared 1 0 0, created := true, permit := some samplePermit }
  | .authorizeChildCreate _ => .ok {
      revocation := sampleRevocation .prepared 2 0 0, databaseAuthorizedAt := 1000 * second
      credentialExpiresAt := 1300 * second, ttl := 100 * second, vaultCallBudget := childCreateVaultCallBudget }
  | .recordAnchor _ => .ok (sampleRevocation .anchored 3 (1000 * second) 0)
  | .activate _ => .ok (sampleRevocation .active 4 (1000 * second) (1000 * second))
  | .recordNoCredential _ => .ok (sampleRevocation .noCredential 2 0 0)
  | .requestRevocation _ => .ok (sampleRevocation .revocationPending 4 (1000 * second) 0)

/-- The anchor cannot be recorded; then the context source fails, and twenty seconds pass in the fallback. -/
def stalledAnswers : Behaviour dependencies := fun n request =>
  match request with
  | .recordAnchor _ => .error ()
  | .finalizeContextSource _ => decide (n < 28)
  | .timeNow => if n < 31 then 0 else postDispatchPersistenceTimeout
  | request => sampleAnswers n request

def sampleState : PreparedState where
  broker := { address := 1 }
  phase := .ready
  revocationID := sampleID
  contents := some {
    request := sampleRequest, resolved := sampleResolved, prepared := sampleRevocation .prepared 1 0 0
    permit := samplePermit, revocationID := sampleID, expiresAt := 1300 * second }

theorem sampleState_prepared : Runs (prepare sampleCaller sampleRequest).run
    ((prepare sampleCaller sampleRequest).run.execute sampleAnswers 0).1
    (.ok ({ revocationID := sampleID }, sampleState)) := by
  have h := runs_execute sampleAnswers 0 (prepare sampleCaller sampleRequest).run
  have hValue : ((prepare sampleCaller sampleRequest).run.execute sampleAnswers 0).2 =
      .ok ({ revocationID := sampleID }, sampleState) := by decide +kernel
  rwa [hValue] at h

def sampleRecord (behaviour : Behaviour dependencies) : CallRecord :=
  let run := (issue sampleCaller { revocationID := sampleID } sampleState).execute behaviour 0
  { caller := sampleCaller, handle := { revocationID := sampleID }, events := run.1, outcome := .issue run.2.1
    state := run.2.2 }

theorem sampleRecord_session (behaviour : Behaviour dependencies) : Session sampleState [sampleRecord behaviour] :=
  ⟨runs_execute behaviour 0 _, trivial⟩

end Sample

/-- A handle that was prepared is spent once, a child that was anchored is revoked or handed out, and a credential that
is handed out belongs to the revocation that was prepared for it. -/
theorem issuance_single_use_and_compensated {caller : Caller} {request : PrepareDurableCredentialRequest}
    {handle : PreparedDurableCredential} {state : PreparedState} {prepareEvents : List BrokerEvent}
    {records : List CallRecord} (hPrepare : Runs (prepare caller request).run prepareEvents (.ok (handle, state)))
    (hSession : Session state records) :
    (records.flatMap CallRecord.events).countP (fun event => event.request.authorizes) ≤ 1 ∧
      (records.flatMap CallRecord.events).countP (fun event => event.request.creates) ≤ 1 ∧
      ((∃ record ∈ records, record.state.phase = .noCredential) → ∀ record ∈ records, ∀ event ∈ record.events,
        event.request.authorizes = false ∧ event.request.creates = false) ∧
      (∀ record ∈ records, ∀ failure, record.outcome = .issue (.error failure) → ∀ before anchor after,
        record.events = before ++ anchor :: after → anchor.request.anchors = true →
          Compensated state.revocationID after) ∧
      ∀ record ∈ records, ∀ credential, record.outcome = .issue (.ok credential) →
        ∃ prepared, state.contents = some prepared ∧ ChainOf prepareEvents prepared record credential := by
  obtain ⟨contents, preparation, result, hPhase, hContents, hID, hPrepared, hEvent, hExpires, hVersion, hStatus⟩ :=
    prepare_ok hPrepare
  have hSame : { contents with revocationID := state.revocationID } = contents := by rw [← hID]
  refine ⟨?_, ?_, ?_, ?_, ?_⟩
  · exact hSession.countP_le_one hContents inspects_quiet.authorizes (fun _ => issueConsumed_authorizes)
      (fun prepared => atMost_of_only (recordNoCredentialConsumed_calls prepared (fun _ => rfl)))
  · exact hSession.countP_le_one hContents inspects_quiet.creates (fun _ => issueConsumed_creates)
      (fun prepared => atMost_of_only (recordNoCredentialConsumed_calls prepared (fun _ => rfl)))
  · rintro ⟨record, hRecord, hNone⟩
    have hIdle : ∀ {other : CallRecord} {shared}, other.Idles shared → ∀ event ∈ other.events,
        event.request.authorizes = false ∧ event.request.creates = false := fun hOther event hEvent =>
      ⟨inspects_quiet.authorizes _ (hOther.events event hEvent), inspects_quiet.creates _ (hOther.events event hEvent)⟩
    rcases hSession.cases hContents with hIdles | hSpent
    · exact fun other hOther => hIdle (hIdles other hOther)
    obtain ⟨spent⟩ := hSpent
    have hSpender : spent.record.state.phase = .noCredential := by
      rw [spent.records_eq, List.mem_append, List.mem_cons] at hRecord
      rcases hRecord with hBefore | rfl | hAfter
      · rw [(spent.before_idles record hBefore).state, hPhase] at hNone
        cases hNone
      · exact hNone
      · rwa [(spent.after_idles record hAfter).state] at hNone
    intro other hOther
    rw [spent.records_eq, List.mem_append, List.mem_cons] at hOther
    rcases hOther with hBefore | rfl | hAfter
    · exact hIdle (spent.before_idles other hBefore)
    · intro event hEvent
      rw [spent.events_eq, List.mem_append] at hEvent
      rcases hEvent with hIdleEvent | hRest
      · exact ⟨inspects_quiet.authorizes _ (spent.idles event hIdleEvent),
          inspects_quiet.creates _ (spent.idles event hIdleEvent)⟩
      · have hSpends := spent.spends
        unfold CallRecord.Spends at hSpends
        split at hSpends
        · rw [hSpender] at hSpends
          cases hSpends.1
        · have hQuiet : ∀ prepared, Only (fun request : Request =>
              request.authorizes = false ∧ request.creates = false) (recordNoCredentialConsumed prepared).run :=
            fun prepared => recordNoCredentialConsumed_calls prepared (fun _ => ⟨rfl, rfl⟩)
          exact (hQuiet _).trace hSpends.2 event hRest
    · exact hIdle (spent.after_idles other hAfter)
  · intro record hRecord failure hFailure before anchor after hEvents hAnchor
    rcases hSession.cases hContents with hIdles | hSpent
    · rw [inspects_quiet.anchors _ ((hIdles record hRecord).events anchor (by simp [hEvents]))] at hAnchor
      cases hAnchor
    · obtain ⟨spent⟩ := hSpent
      obtain ⟨rfl, _, hRest⟩ := spent.anchored hRecord hEvents hAnchor
      have hSpends := spent.spends
      simp only [CallRecord.Spends, hFailure] at hSpends
      exact issueConsumed_compensates hSpends.2 hRest hAnchor
  · intro record hRecord credential hIssued
    rcases hSession.cases hContents with hIdles | hSpent
    · exact absurd hIssued ((hIdles record hRecord).failed credential)
    obtain ⟨spent⟩ := hSpent
    rw [spent.records_eq, List.mem_append, List.mem_cons] at hRecord
    rcases hRecord with hBefore | rfl | hAfter
    · exact absurd hIssued ((spent.before_idles record hBefore).failed credential)
    · have hSpends := spent.spends
      simp only [CallRecord.Spends, hIssued, hSame] at hSpends
      obtain ⟨answers, hAccepted, hAnswers⟩ := issueConsumed_ok hSpends.2
      have hAuthorized := hAccepted.authorized
      simp only [validChildCreateAuthorization, Bool.and_eq_true, decide_eq_true_eq, beq_iff_eq] at hAuthorized
      obtain ⟨hSecond, hSecondVersion, hSecondSame⟩ := validSuccessor_fields hAuthorized.1.1.1.1.1.1.1.1
      obtain ⟨hThird, hThirdVersion, hThirdSame⟩ := validSuccessor_fields hAccepted.anchored
      obtain ⟨hFourth, hFourthVersion, hFourthSame⟩ := validSuccessor_fields hAccepted.activated
      rw [hPrepared] at hSecondVersion hSecondSame
      have hThirdSame := sameDurableFrozenRevocation_trans hThirdSame hSecondSame
      refine ⟨contents, hContents, preparation, result, answers, hEvent, ?_, ?_, ?_, hAccepted.child, ?_⟩
      · rw [spent.events_eq]
        exact hAnswers.trans (List.sublist_append_right _ _)
      · simp [hStatus, hVersion, hSecond, hSecondVersion, hThird, hThirdVersion, hFourth, hFourthVersion]
      · simp [hSecondSame, hThirdSame, sameDurableFrozenRevocation_trans hFourthSame hThirdSame]
      · rw [hExpires, ← hAuthorized.1.1.1.1.1.1.2]
        exact hAccepted.authorization
    · exact absurd hIssued ((spent.after_idles record hAfter).failed credential)

theorem sample_issuance_single_use :
    (sampleRecord sampleAnswers).events.countP (fun event => event.request.creates) = 1 ∧
      ∃ credential prepared, (sampleRecord sampleAnswers).outcome = .issue (.ok credential) ∧
        ChainOf ((prepare sampleCaller sampleRequest).run.execute sampleAnswers 0).1 prepared
          (sampleRecord sampleAnswers) credential := by
  have h := issuance_single_use_and_compensated sampleState_prepared (sampleRecord_session sampleAnswers)
  let credential : DurableCredential := {
    revocationID := sampleID, expiresAt := 1100 * second, secret := ascii "secret"
    activeSnapshot := sampleRevocation .active 4 (1000 * second) (1000 * second) }
  have hIssued : (sampleRecord sampleAnswers).outcome = .issue (.ok credential) :=
    congrArg Outcome.issue (by decide +kernel)
  obtain ⟨prepared, _, hChain⟩ := h.2.2.2.2 _ List.mem_cons_self credential hIssued
  refine ⟨le_antisymm ?_ (by decide +kernel), credential, prepared, hIssued, hChain⟩
  simpa using h.2.1

/-- A child is anchored, the credential is refused, and no revocation is requested. -/
theorem stalled_issuance_abandons_child :
    Runs (prepare sampleCaller sampleRequest).run ((prepare sampleCaller sampleRequest).run.execute sampleAnswers 0).1
        (.ok ({ revocationID := sampleID }, sampleState)) ∧
      Session sampleState [sampleRecord stalledAnswers] ∧
      (sampleRecord stalledAnswers).outcome =
        .issue (.error (.durableCredentialIssuance (ascii "anchor child accessor"))) ∧
      (∃ event ∈ (sampleRecord stalledAnswers).events, event.request.anchors = true) ∧
      ∀ event ∈ (sampleRecord stalledAnswers).events, event.request.revokes = false := by
  refine ⟨sampleState_prepared, sampleRecord_session stalledAnswers, congrArg Outcome.issue (by decide +kernel), ?_, ?_⟩
  · exact List.any_eq_true.mp (by decide +kernel)
  · intro event hEvent
    have hNone : (sampleRecord stalledAnswers).events.all (fun event => event.request.revokes == false) = true := by
      decide +kernel
    exact beq_iff_eq.mp (List.all_eq_true.mp hNone event hEvent)

end AiopsSystem.Credential.DurableBroker
