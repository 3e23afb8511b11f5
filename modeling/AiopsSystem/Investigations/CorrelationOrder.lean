import AiopsSystem.Investigations.Correlation

/-! # Correlating the signals of one tenant

A call that correlates a firing signal meets no refusal if what is stored under
its key has the tenant and the mapping of the signal. Every call under the key
keeps it so, hence calls for the signals of one tenant all succeed, and the
incident they end with does not depend on their order or repetition.
-/

namespace AiopsSystem.Investigations

open Go Go.Section GoMap

/-! ## What stored records passed -/

section Validity

variable {incident : Incident}

/-- `Validate` of a correlated incident, apart what an update of the times leaves alone and the times themselves. -/
structure Incident.Valid (incident : Incident) : Prop where
  identity : validResourceID incident.id = true ∧ validResourceID incident.tenantID = true ∧
    validResourceID incident.workspaceID = true
  scope : (incident.serviceID = [] ∨ validResourceID incident.serviceID = true) ∧
    (incident.environmentID = [] ∨ validResourceID incident.environmentID = true)
  hypothesis : incident.confirmedHypothesisID = [] ∨ validResourceID incident.confirmedHypothesisID = true
  texts : incident.severity ≠ [] ∧ incident.title ≠ []
  mapped : match incident.mappingStatus with
    | .exact => incident.serviceID ≠ [] ∧ incident.environmentID ≠ []
    | .ambiguous | .unresolved => True
    | .other _ => False
  opened : incident.openedAt ≠ 0
  updated : incident.updatedAt ≠ 0 ∧ incident.openedAt ≤ incident.updatedAt
  version : 0 < incident.version
  correlated : validCorrelationKey incident.correlationKey = true ∧ incident.lastSignalAt ≠ 0 ∧
    0 < incident.signalCount ∧ incident.openedAt ≤ incident.lastSignalAt ∧ incident.lastSignalAt ≤ incident.updatedAt

theorem ne_nil_of_validCorrelationKey {value : GoString} (h : validCorrelationKey value) : value ≠ [] := by
  rintro rfl
  cases h

theorem Incident.Valid.key_ne_nil (h : incident.Valid) : incident.correlationKey ≠ [] :=
  ne_nil_of_validCorrelationKey h.correlated.1

theorem Incident.valid_iff (hKey : incident.correlationKey ≠ []) : incident.valid ↔ incident.Valid := by
  unfold Incident.valid
  rw [if_neg hKey]
  simp only [Bool.and_eq_true, Bool.or_eq_true, beq_iff_eq, decide_eq_true_eq]
  constructor
  · rintro ⟨⟨⟨⟨⟨⟨⟨⟨⟨⟨⟨⟨⟨hID, hTenant⟩, hWorkspace⟩, hService⟩, hEnvironment⟩, hHypothesis⟩, hSeverity⟩, hTitle⟩, hOpened⟩,
      hUpdated⟩, hOrder⟩, hVersion⟩, ⟨⟨⟨hValid, hLast⟩, hCount⟩, hFirst⟩, hEnd⟩, hMapping⟩
    refine ⟨⟨hID, hTenant, hWorkspace⟩, ⟨hService, hEnvironment⟩, hHypothesis, ⟨hSeverity, hTitle⟩, ?_, hOpened,
      ⟨hUpdated, hOrder⟩, hVersion, hValid, hLast, hCount, hFirst, hEnd⟩
    cases hStatus : incident.mappingStatus <;> simp_all
  · rintro ⟨⟨hID, hTenant, hWorkspace⟩, ⟨hService, hEnvironment⟩, hHypothesis, ⟨hSeverity, hTitle⟩, hMapping, hOpened,
      ⟨hUpdated, hOrder⟩, hVersion, hValid, hLast, hCount, hFirst, hEnd⟩
    refine ⟨⟨⟨⟨⟨⟨⟨⟨⟨⟨⟨⟨⟨hID, hTenant⟩, hWorkspace⟩, hService⟩, hEnvironment⟩, hHypothesis⟩, hSeverity⟩, hTitle⟩, hOpened⟩,
      hUpdated⟩, hOrder⟩, hVersion⟩, ⟨⟨⟨hValid, hLast⟩, hCount⟩, hFirst⟩, hEnd⟩, ?_⟩
    cases hStatus : incident.mappingStatus <;> simp_all

theorem latestTime_bounds (first second third : Int) :
    first ≤ latestTime [first, second, third] ∧ second ≤ latestTime [first, second, third] ∧
      third ≤ latestTime [first, second, third] := by
  simp only [latestTime, List.foldl]
  split_ifs <;> omega

theorem countedIncident_valid (h : incident.Valid) {observedAt now : Int} (hObserved : observedAt ≠ 0) (hNow : 0 < now) :
    (countedIncident incident observedAt now).Valid := by
  obtain ⟨hValid, hLast, hCount, hFirst, _⟩ := h.correlated
  have hOpened := h.opened
  obtain ⟨_, hLater, hEnd⟩ := latestTime_bounds incident.updatedAt now
    (if incident.lastSignalAt < observedAt then observedAt else incident.lastSignalAt)
  refine ⟨h.identity, h.scope, h.hypothesis, h.texts, h.mapped, ?_, ⟨?_, ?_⟩, ?_, hValid, ?_, ?_, ?_, hEnd⟩
  · simp only [countedIncident]
    split <;> omega
  · exact (hNow.trans_le hLater).ne'
  · refine le_trans ?_ hEnd
    simp only [countedIncident]
    split <;> split <;> omega
  · exact h.version.trans (lt_add_one _)
  · simp only [countedIncident]
    split <;> omega
  · exact hCount.trans (lt_add_one _)
  · simp only [countedIncident]
    split <;> split <;> omega

variable {request : CorrelateSignalRequest} {incidentID tenantID : GoString} {observedAt now : Int}

theorem openedIncident_valid (hRequest : request.valid) (hID : validResourceID incidentID)
    (hTenant : validResourceID tenantID) (hObserved : observedAt ≠ 0) (hNow : 0 < now) :
    (openedIncident request incidentID tenantID observedAt now).validForCreate := by
  simp only [CorrelateSignalRequest.valid, Bool.and_eq_true] at hRequest
  obtain ⟨⟨⟨⟨hWorkspace, _⟩, hKey⟩, hMapping⟩, _⟩ := hRequest
  have hLater : now ≤ laterTime now observedAt ∧ observedAt ≤ laterTime now observedAt := by
    unfold laterTime
    split <;> omega
  have hValid : (openedIncident request incidentID tenantID observedAt now).Valid := by
    refine ⟨⟨hID, hTenant, hWorkspace⟩, ?_, .inl rfl, ⟨(nofun), (nofun)⟩, ?_, hObserved,
      ⟨(hNow.trans_le hLater.1).ne', hLater.2⟩, Int.one_pos, hKey, hObserved, Int.one_pos, le_rfl, hLater.2⟩
    all_goals simp only [openedIncident]
    all_goals cases hStatus : request.mappingStatus <;> simp_all [validMapping, ne_nil_of_validResourceID]
  have hOpen := (Incident.valid_iff hValid.key_ne_nil).mpr hValid
  simp only [Incident.validForCreate, Bool.and_eq_true]
  exact ⟨⟨⟨hOpen, rfl⟩, rfl⟩, rfl⟩

theorem valid_of_openedIncident (h : (openedIncident request incidentID tenantID observedAt now).valid) :
    (openedIncident request incidentID tenantID observedAt now).Valid := by
  refine (Incident.valid_iff fun hEmpty => ?_).mp h
  -- an incident without a key counts no signals
  rw [Incident.valid, if_pos hEmpty] at h
  simp [openedIncident] at h

theorem transitionedIncident_valid {next : Incident} {commitAt : Int} (h : incident.Valid)
    (hNext : transitionedIncident incident commitAt = .ok next) : next.Valid := by
  unfold transitionedIncident at hNext
  split at hNext
  next =>
    simp only [bind_eq_ok, require_eq_ok] at hNext
    obtain ⟨_, ⟨hCommit, hAfter⟩, hSame⟩ := hNext
    cases hSame
    obtain ⟨hKey, hLast, hCount, hFirst, hEnd⟩ := h.correlated
    exact ⟨h.identity, h.scope, h.hypothesis, h.texts, h.mapped, h.opened, ⟨hCommit, h.updated.2.trans hAfter⟩,
      h.version.trans (lt_add_one _), hKey, hLast, hCount, hFirst, hEnd.trans hAfter⟩
  next =>
    cases hNext
    exact h

end Validity

structure Admitted (repository : Repository) : Prop where
  signals : ∀ key signal, repository.signals.get? key = some signal → signal.observedAt ≠ 0 ∧
    ∃ tenantID, repository.signalTenants.get? key = some tenantID ∧ validResourceID tenantID = true
  incidents : ∀ key incident, repository.incidents.get? key = some incident → incident.Valid
  pointers : ∀ key id, repository.activeIncidentByCorrelation.get? key = some id → ∃ incident,
    repository.incidents.get? (scopeKey key.workspaceID id) = some incident ∧ incident.correlationKey = key.resourceID

section Admission

variable {repository repository' : Repository}

theorem Admitted.drop (h : Admitted repository) (hDrop : Drop repository repository') : Admitted repository' := by
  cases hDrop with
  | incident =>
    refine ⟨h.signals, h.incidents, ?_⟩
    intro key id hPointer
    rw [Repository.dropActiveIncident, get?_erase] at hPointer
    split at hPointer
    next => cases hPointer
    next => exact h.pointers key id hPointer
  | investigation => exact ⟨h.signals, h.incidents, h.pointers⟩

theorem Admitted.keep (h : Admitted repository) (hWrite : Write repository repository') (hSound : Sound repository)
    (hSignals : repository'.signals = repository.signals) (hTenants : repository'.signalTenants = repository.signalTenants)
    (hPointers : repository'.activeIncidentByCorrelation = repository.activeIncidentByCorrelation)
    (hIncidents : ∀ key incident, repository'.incidents.get? key = some incident → incident.Valid) :
    Admitted repository' := by
  refine ⟨?_, hIncidents, ?_⟩
  · rw [hSignals, hTenants]
    exact h.signals
  · intro key id hPointer
    rw [hPointers] at hPointer
    obtain ⟨incident, hIncident, hKey⟩ := h.pointers key id hPointer
    obtain ⟨incident', hIncident', hContinues⟩ := (hWrite.keeps hSound).1.incidents _ incident hIncident
    exact ⟨incident', hIncident', hContinues.same.2.2.trans hKey⟩

theorem Admitted.insert (h : Admitted repository) {key : ScopeKey} {next : Incident} (hNext : next.Valid)
    (other : ScopeKey) (found : Incident) (hFound : GoMap.get? (repository.incidents.insert key next) other = some found) :
    found.Valid := by
  rcases get?_insert_cases hFound with ⟨_, rfl⟩ | ⟨_, hBefore⟩
  · exact hNext
  · exact h.incidents other found hBefore

theorem Admitted.write (h : Admitted repository) (hSound : Sound repository) (hWrite : Write repository repository') :
    Admitted repository' := by
  have hKeep := h.keep hWrite hSound
  cases hWrite with
  | signal signal tenantID _ hObserved hTenant =>
    refine ⟨?_, h.incidents, h.pointers⟩
    intro key found hFound
    rcases get?_insert_cases hFound with ⟨rfl, rfl⟩ | ⟨hOther, hBefore⟩
    · exact ⟨hObserved, tenantID, get?_insert_self, hTenant⟩
    · obtain ⟨hTime, stored, hStored, hValid⟩ := h.signals key found hBefore
      exact ⟨hTime, stored, (get?_insert_of_ne hOther).trans hStored, hValid⟩
  | opening _ _ _ _ _ _ _ _ hNew _ _ hValid =>
    refine ⟨h.signals, h.insert (valid_of_openedIncident hValid), ?_⟩
    intro key id hPointer
    rcases get?_insert_cases hPointer with ⟨rfl, rfl⟩ | ⟨_, hBefore⟩
    · exact ⟨_, get?_insert_self, rfl⟩
    · obtain ⟨incident, hIncident, hKey⟩ := h.pointers key id hBefore
      exact ⟨incident, (Grows.insert_fresh (R := Eq) _ hNew).keeps hIncident, hKey⟩
  | counting _ _ incident _ _ _ hIncident _ hValid =>
    refine hKeep rfl rfl rfl (h.insert ((Incident.valid_iff ?_).mp hValid))
    exact (h.incidents _ incident hIncident).key_ne_nil
  | creation _ _ incident _ _ _ _ _ hIncident _ _ _ _ _ hNext =>
    exact hKeep rfl rfl rfl (h.insert (transitionedIncident_valid (h.incidents _ incident hIncident) hNext))
  | feedback _ _ incident _ _ _ _ _ hIncident _ _ _ _ hJudgement =>
    have hBefore := h.incidents _ incident hIncident
    refine hKeep rfl rfl rfl (h.insert ?_)
    cases hJudgement with
    | confirmed _ _ _ _ hValid =>
      refine (Incident.valid_iff ?_).mp hValid
      exact hBefore.key_ne_nil
    | rejected | inconclusive => exact hBefore
  | _ => exact hKeep rfl rfl rfl h.incidents

theorem admitted_newRepository : Admitted newRepository where
  signals _ _ h := by cases h
  incidents _ _ h := by cases h
  pointers _ _ h := by cases h

theorem stateAt_admitted (encoding : Encoding) (events : List Event) (n : Nat) :
    Admitted ((machine encoding).stateAt events n) :=
  stateAt_kept encoding admitted_newRepository (fun _ _ _ hDrop h => h.drop hDrop)
    (fun _ _ hSound hWrite h => h.write hSound hWrite) events n

end Admission

/-! ## Signals of one tenant under one mapping -/

def CorrelateSignalRequest.key (request : CorrelateSignalRequest) : ScopeKey :=
  scopeKey request.workspaceID request.signalID

def CorrelateSignalRequest.mapping (request : CorrelateSignalRequest) : Mapping :=
  ⟨request.workspaceID, request.correlationKey, request.serviceID, request.environmentID, request.mappingStatus⟩

def Mapping.association (mapping : Mapping) (incidentID : GoString) : SignalAssociation :=
  ⟨incidentID, mapping.correlationKey, mapping.mappingStatus, mapping.serviceID, mapping.environmentID⟩

structure FiringOf (tenantID : GoString) (key : ScopeKey) (repository : Repository) : Prop where
  tenant : repository.signalTenants.get? key = some tenantID
  signal : ∃ signal, repository.signals.get? key = some signal ∧ signal.status = .firing

/-- No incident under the key of the mapping has another tenant or another mapping. -/
def Unopposed (mapping : Mapping) (tenantID : GoString) (repository : Repository) : Prop :=
  ∀ place incident, repository.incidents.get? place = some incident → incident.workspaceID = mapping.workspaceID →
    incident.correlationKey = mapping.correlationKey → incident.tenantID = tenantID ∧ incident.mapping = mapping

structure Correlatable (mapping : Mapping) (tenantID : GoString) (key : ScopeKey) (repository : Repository) : Prop where
  association : ∀ association, repository.signalIncident.get? key = some association →
    ∃ incidentID, association = mapping.association incidentID
  unopposed : Unopposed mapping tenantID repository

/-- A call that correlates one of the signals, or another signal under their key, is for one of them and has their
mapping. -/
def Event.Conforms (mapping : Mapping) (signals : Set ScopeKey) (event : Event) : Prop :=
  ∀ request, event.call = .correlateSignal request →
    (request.key ∈ signals ∨
      request.workspaceID = mapping.workspaceID ∧ request.correlationKey = mapping.correlationKey) →
    request.key ∈ signals ∧ request.mapping = mapping

section Writes

variable {repository repository' : Repository}

theorem Write.tenant (hWrite : Write repository repository') {key : ScopeKey} {signal : Signal}
    (hSignal : repository.signals.get? key = some signal) :
    repository'.signalTenants.get? key = repository.signalTenants.get? key := by
  cases hWrite with
  | signal _ _ hFresh =>
    refine get?_insert_of_ne ?_
    rintro rfl
    rw [hFresh] at hSignal
    cases hSignal
  | _ => rfl

theorem step_tenant (encoding : Encoding) (hSound : Sound repository) (event : Event) {key : ScopeKey} {signal : Signal}
    (hSignal : repository.signals.get? key = some signal) :
    (repository.step encoding event).2.signalTenants.get? key = repository.signalTenants.get? key := by
  rcases step_cases encoding hSound event with hQuiet | ⟨between, hQuiet, hWrite⟩
  · obtain ⟨_, _, hSame⟩ := hQuiet.sameRecords
    rw [hSame]
  · obtain ⟨_, _, rfl⟩ := hQuiet.sameRecords
    exact hWrite.tenant hSignal

theorem activeIncident_stored (hSound : Sound repository) {request : CorrelateSignalRequest} {incident : Incident}
    (h : activeIncident repository request = some incident) : incident.workspaceID = request.workspaceID ∧
      repository.incidents.get? (scopeKey request.workspaceID incident.id) = some incident := by
  have hKey : scopeKey incident.workspaceID incident.id = _ := hSound.incidents _ incident h
  have hWorkspace : incident.workspaceID = request.workspaceID := congrArg ScopeKey.workspaceID hKey
  refine ⟨hWorkspace, ?_⟩
  rw [← hWorkspace, hKey]
  exact h

/-- An incident continues a stored one, or the write opened it for a signal that had no association. -/
theorem Write.incident_cases (hWrite : Write repository repository') (hSound : Sound repository) {key : ScopeKey}
    {incident : Incident} (hIncident : repository'.incidents.get? key = some incident) :
    (∃ before, repository.incidents.get? key = some before ∧ before.Continues incident) ∨
      ∃ request : CorrelateSignalRequest, repository.signalIncident.get? request.key = none ∧
        repository'.signalIncident.get? request.key = some (request.association incident.id) ∧
        repository.signalTenants.get? request.key = some incident.tenantID ∧ incident.mapping = request.mapping := by
  cases hBefore : repository.incidents.get? key with
  | some before =>
    obtain ⟨_, hAfter, hContinues⟩ := (hWrite.keeps hSound).1.incidents key before hBefore
    rw [hIncident] at hAfter
    cases hAfter
    exact .inl ⟨before, rfl, hContinues⟩
  | none =>
    have hNone : ∀ found, repository.incidents.get? key ≠ some found := by
      rw [hBefore]
      exact fun _ => nofun
    have hReplaced : ∀ {place : ScopeKey} {old next : Incident}, repository.incidents.get? place = some old →
        GoMap.get? (repository.incidents.insert place next) key ≠ some incident := by
      intro place old next hOld hInsert
      rcases get?_insert_cases hInsert with ⟨rfl, _⟩ | ⟨_, hSame⟩
      · exact hNone old hOld
      · exact hNone incident hSame
    cases hWrite with
    | opening request signal incidentID tenantID now _ hFresh _ _ _ hTenant =>
      rcases get?_insert_cases hIncident with ⟨_, rfl⟩ | ⟨_, hSame⟩
      · exact .inr ⟨request, hFresh, get?_insert_self, hTenant, rfl⟩
      · exact absurd hSame (hNone incident)
    | counting _ _ counted _ _ _ hStored =>
      exact absurd hIncident (hReplaced (activeIncident_stored hSound hStored).2)
    | creation _ _ _ _ _ _ _ _ hStored => exact absurd hIncident (hReplaced hStored)
    | feedback _ _ _ _ _ _ _ _ hStored => exact absurd hIncident (hReplaced hStored)
    | _ => exact absurd hIncident (hNone incident)

/-- A signal that comes under a key had no association, and a stored incident of the key is the one that counts it. -/
theorem Write.under_cases (hWrite : Write repository repository') (hSound : Sound repository)
    (hCorrelated : Correlated repository) {workspaceID correlationKey : GoString} {key : ScopeKey}
    (hUnder : repository'.Under workspaceID correlationKey key) : repository.Under workspaceID correlationKey key ∨
      ∃ (request : CorrelateSignalRequest) (incidentID : GoString), key = request.key ∧
        repository.signalIncident.get? key = none ∧
        repository'.signalIncident.get? key = some (request.association incidentID) ∧
        ∀ place incident, repository.incidents.get? place = some incident → incident.workspaceID = workspaceID →
          incident.correlationKey = correlationKey → repository.signalTenants.get? key = some incident.tenantID ∧
            incident.mapping = request.mapping := by
  obtain ⟨hWorkspace, association, hAssociation, hKey, hNamed⟩ := hUnder
  cases hWrite with
  | dismissal =>
    rcases get?_insert_cases hAssociation with ⟨_, rfl⟩ | ⟨_, hBefore⟩
    · exact absurd rfl hNamed
    · exact .inl ⟨hWorkspace, association, hBefore, hKey, hNamed⟩
  | opening request _ incidentID _ _ _ hFresh _ _ hNone =>
    rcases get?_insert_cases hAssociation with ⟨rfl, rfl⟩ | ⟨_, hBefore⟩
    · refine .inr ⟨request, incidentID, rfl, hFresh, get?_insert_self, ?_⟩
      rintro place incident hIncident rfl rfl
      -- an incident of the key would have been the active one
      have hPointer := (hCorrelated.incidents place incident hIncident).pointer
      have hPlace : scopeKey incident.workspaceID incident.id = place := hSound.incidents place incident hIncident
      rw [← hWorkspace, ← hKey] at hPointer
      have hGone := hNone _ hPointer
      rw [← hPlace, ← hWorkspace] at hIncident
      cases hGone.symm.trans hIncident
    · exact .inl ⟨hWorkspace, association, hBefore, hKey, hNamed⟩
  | counting request _ counted _ _ hFresh hActive hCountedKey _ hTenant hMapping =>
    rcases get?_insert_cases hAssociation with ⟨rfl, rfl⟩ | ⟨_, hBefore⟩
    · refine .inr ⟨request, counted.id, rfl, hFresh, get?_insert_self, ?_⟩
      rintro place incident hIncident rfl rfl
      obtain ⟨hOwn, hStored⟩ := activeIncident_stored hSound hActive
      have hSame := hCorrelated.unique hSound hStored hIncident (hWorkspace.symm.trans hOwn.symm)
        (hKey.symm.trans hCountedKey.symm)
      rw [hSame, hStored] at hIncident
      cases hIncident
      refine ⟨hTenant, ?_⟩
      simp only [Incident.mapping, CorrelateSignalRequest.mapping, hOwn, hCountedKey, hMapping]
    · exact .inl ⟨hWorkspace, association, hBefore, hKey, hNamed⟩
  | _ => exact .inl ⟨hWorkspace, association, hAssociation, hKey, hNamed⟩

end Writes

section Steps

variable (encoding : Encoding) {repository : Repository}

/-- A new association has the mapping of the request that the event carries. -/
theorem step_request (hSound : Sound repository) {event : Event} {request : CorrelateSignalRequest} {incidentID : GoString}
    (hFresh : repository.signalIncident.get? request.key = none)
    (hAssociation : (repository.step encoding event).2.signalIncident.get? request.key =
      some (request.association incidentID)) :
    ∃ called, event.call = .correlateSignal called ∧ called.key = request.key ∧ called.mapping = request.mapping := by
  rcases step_associations encoding hSound event request.key with hSame | ⟨called, calledID, hCall, hKey, hNew⟩
  · rw [hSame, hFresh] at hAssociation
    cases hAssociation
  · change request.key = called.key at hKey
    rw [hNew] at hAssociation
    have hWorkspace : request.workspaceID = called.workspaceID := congrArg ScopeKey.workspaceID hKey
    refine ⟨called, hCall, hKey.symm, ?_⟩
    simp only [CorrelateSignalRequest.association, Option.some.injEq, SignalAssociation.mk.injEq] at hAssociation
    simp only [CorrelateSignalRequest.mapping, hWorkspace, hAssociation]

theorem step_incidents (hSound : Sound repository) (event : Event) {place : ScopeKey} {incident : Incident}
    (hIncident : (repository.step encoding event).2.incidents.get? place = some incident) :
    (∃ before, repository.incidents.get? place = some before ∧ before.Continues incident) ∨
      ∃ request, event.call = .correlateSignal request ∧ incident.mapping = request.mapping ∧
        repository.signalTenants.get? request.key = some incident.tenantID := by
  rcases step_cases encoding hSound event with hQuiet | ⟨between, hQuiet, hWrite⟩
  · obtain ⟨_, _, hSame⟩ := hQuiet.sameRecords
    rw [hSame] at hIncident
    exact .inl ⟨incident, hIncident, .refl incident⟩
  · have hBetween := hQuiet.sound hSound
    obtain ⟨_, _, rfl⟩ := hQuiet.sameRecords
    refine (hWrite.incident_cases hBetween hIncident).imp_right ?_
    rintro ⟨opened, hFresh, hAssociation, hTenant, hMapping⟩
    obtain ⟨request, hCall, hKey, hSame⟩ := step_request encoding hSound hFresh hAssociation
    exact ⟨request, hCall, hMapping.trans hSame.symm, hKey ▸ hTenant⟩

theorem step_under (hSound : Sound repository) (hCorrelated : Correlated repository) (event : Event)
    {workspaceID correlationKey : GoString} {key : ScopeKey}
    (hUnder : (repository.step encoding event).2.Under workspaceID correlationKey key) :
    repository.Under workspaceID correlationKey key ∨ ∃ request, event.call = .correlateSignal request ∧
      key = request.key ∧ request.correlationKey = correlationKey ∧ repository.signalIncident.get? key = none ∧
      ∀ place incident, repository.incidents.get? place = some incident → incident.workspaceID = workspaceID →
        incident.correlationKey = correlationKey → repository.signalTenants.get? key = some incident.tenantID ∧
          incident.mapping = request.mapping := by
  rcases step_cases encoding hSound event with hQuiet | ⟨between, hQuiet, hWrite⟩
  · obtain ⟨_, _, hSame⟩ := hQuiet.sameRecords
    rw [hSame] at hUnder
    exact .inl hUnder
  · have hBetween := hQuiet.sound hSound
    have hTallied : Correlated between := by
      rcases hQuiet with rfl | hDrop
      · exact hCorrelated
      · exact hCorrelated.drop hDrop
    obtain ⟨_, _, rfl⟩ := hQuiet.sameRecords
    refine (hWrite.under_cases hBetween hTallied hUnder).imp_right ?_
    rintro ⟨written, incidentID, rfl, hFresh, hAssociation, hIncidents⟩
    obtain ⟨request, hCall, hKey, hMapping⟩ := step_request encoding hSound hFresh hAssociation
    obtain ⟨_, _, hStored, hCorrelationKey, _⟩ := hUnder
    cases hAssociation.symm.trans hStored
    refine ⟨request, hCall, hKey.symm, (congrArg Mapping.correlationKey hMapping).trans hCorrelationKey, hFresh, ?_⟩
    rw [hMapping]
    exact hIncidents

variable {mapping : Mapping} {tenantID : GoString} {signals : Set ScopeKey} {key : ScopeKey}

theorem FiringOf.step (h : FiringOf tenantID key repository) (hSound : Sound repository) (event : Event) :
    FiringOf tenantID key (repository.step encoding event).2 := by
  obtain ⟨signal, hSignal, hFiring⟩ := h.signal
  refine ⟨(step_tenant encoding hSound event hSignal).trans h.tenant, signal, ?_, hFiring⟩
  exact (step_extends encoding hSound event).signals.keeps hSignal

theorem Correlatable.step (h : Correlatable mapping tenantID key repository) (hSound : Sound repository)
    (hKey : key ∈ signals) (hSignals : ∀ key ∈ signals, FiringOf tenantID key repository) {event : Event}
    (hEvent : event.Conforms mapping signals) : Correlatable mapping tenantID key (repository.step encoding event).2 := by
  constructor
  · intro association hAssociation
    rcases step_associations encoding hSound event key with hSame | ⟨request, incidentID, hCall, rfl, hNew⟩
    · exact h.association association (hSame.symm.trans hAssociation)
    · obtain ⟨_, rfl⟩ := hEvent request hCall (.inl hKey)
      rw [hNew] at hAssociation
      exact ⟨incidentID, (Option.some.inj hAssociation).symm⟩
  · intro place incident hIncident hWorkspace hCorrelationKey
    rcases step_incidents encoding hSound event hIncident with
      ⟨before, hBefore, hContinues⟩ | ⟨request, hCall, hMapping, hTenant⟩
    · obtain ⟨_, hSameWorkspace, hSameKey⟩ := hContinues.same
      have hSame := h.unopposed place before hBefore (hSameWorkspace.symm.trans hWorkspace)
        (hSameKey.symm.trans hCorrelationKey)
      exact ⟨hContinues.tenantID.trans hSame.1, hContinues.mapping.trans hSame.2⟩
    · have hRequestWorkspace : incident.workspaceID = request.workspaceID := congrArg Mapping.workspaceID hMapping
      have hRequestKey : incident.correlationKey = request.correlationKey := congrArg Mapping.correlationKey hMapping
      obtain ⟨hSignal, rfl⟩ := hEvent request hCall
        (.inr ⟨hRequestWorkspace.symm.trans hWorkspace, hRequestKey.symm.trans hCorrelationKey⟩)
      exact ⟨Option.some.inj (hTenant.symm.trans (hSignals _ hSignal).tenant), hMapping⟩

end Steps

section Tails

variable {encoding : Encoding} {events : List Event} {mapping : Mapping} {tenantID : GoString} {signals : Set ScopeKey}
  {m n : Nat} (hmn : m ≤ n)
  (hSignals : ∀ key ∈ signals, FiringOf tenantID key ((machine encoding).stateAt events m))
include hmn hSignals

theorem stateAt_firing : ∀ key ∈ signals, FiringOf tenantID key ((machine encoding).stateAt events n) :=
  (machine encoding).stateAt_from (P := fun repository => ∀ key ∈ signals, FiringOf tenantID key repository) hSignals
    (fun k event _ _ h key hKey => (h key hKey).step encoding (stateAt_sound encoding events k) event) hmn

variable (hTail : ∀ k event, m ≤ k → events[k]? = some event → event.Conforms mapping signals) {key : ScopeKey}
include hTail

theorem Correlatable.stateAt (h : Correlatable mapping tenantID key ((machine encoding).stateAt events m))
    (hKey : key ∈ signals) : Correlatable mapping tenantID key ((machine encoding).stateAt events n) := by
  refine (machine encoding).stateAt_from (P := Correlatable mapping tenantID key) h
    (fun k event hmk hEvent hBefore => ?_) hmn
  exact hBefore.step encoding (stateAt_sound encoding events k) hKey (stateAt_firing hmk hSignals)
    (hTail k event hmk hEvent)

/-- Only a signal that could be correlated when the tail started comes under the key. -/
theorem stateAt_under
    (hUnder : ((machine encoding).stateAt events n).Under mapping.workspaceID mapping.correlationKey key) :
    ((machine encoding).stateAt events m).Under mapping.workspaceID mapping.correlationKey key ∨
      key ∈ signals ∧ Correlatable mapping tenantID key ((machine encoding).stateAt events m) := by
  revert hUnder
  refine (machine encoding).stateAt_from (P := fun repository => repository.Under mapping.workspaceID
    mapping.correlationKey key → _) .inl (fun k event hmk hEvent ih hUnder => ?_) hmn
  rcases step_under encoding (stateAt_sound encoding events k) (stateAt_correlated encoding events k) event hUnder with
    hBefore | ⟨request, hCall, rfl, hCorrelationKey, hFresh, hIncidents⟩
  · exact ih hBefore
  · have hExtends := stateAt_extends encoding events hmk
    obtain ⟨hSignal, rfl⟩ := hTail k event hmk hEvent request hCall (.inr ⟨hUnder.1, hCorrelationKey⟩)
    refine .inr ⟨hSignal, ?_, ?_⟩
    · intro association hAssociation
      rw [hExtends.associations.keeps hAssociation] at hFresh
      cases hFresh
    · intro place incident hIncident hWorkspace hKey
      obtain ⟨incident', hIncident', hContinues⟩ := hExtends.incidents place incident hIncident
      obtain ⟨_, hSameWorkspace, hSameKey⟩ := hContinues.same
      obtain ⟨hTenant, hMapping⟩ := hIncidents place incident' hIncident' (hSameWorkspace.trans hWorkspace)
        (hSameKey.trans hKey)
      rw [(stateAt_firing hmk hSignals _ hSignal).tenant] at hTenant
      exact ⟨(Option.some.inj hTenant ▸ hContinues.tenantID).symm, hContinues.mapping.symm.trans hMapping⟩

end Tails

/-! ## Calls that meet no refusal -/

structure Admissible (encoding : Encoding) (repository : Repository) (request : CorrelateSignalRequest) : Prop where
  valid : request.valid = true
  snapshot : repository.signalSnapshotMatches encoding request.key request.expectedSignalHash = true

/-- A section of a call with a live context. Under the write lock the clock is past the zero time, and where an incident
is to be opened its identifier is valid and new. -/
inductive LiveCall (repository : Repository) (request : CorrelateSignalRequest) : Event → Prop where
  | begin : LiveCall repository request (.begin (.correlateSignal request) false)
  | commit (env : Environment) (hClock : 0 < env.clock)
      (hID : activeIncident repository request = none → validResourceID (env.ids 0) = true ∧
        repository.incidents.get? (scopeKey request.workspaceID (env.ids 0)) = none) :
      LiveCall repository request (.commit (.correlateSignal request) env)

section Progress

variable {encoding : Encoding} {repository : Repository} {request : CorrelateSignalRequest} {tenantID : GoString}

theorem Unopposed.activeIncident (h : Unopposed request.mapping tenantID repository) (hCorrelated : Correlated repository)
    (hAdmitted : Admitted repository) (hSound : Sound repository) {incident : Incident}
    (hIncident : activeIncident repository request = some incident) : incident.tenantID = tenantID ∧
      incident.mapping = request.mapping := by
  obtain ⟨hWorkspace, hStored⟩ := activeIncident_stored hSound hIncident
  refine h _ incident hStored hWorkspace ?_
  -- the key names the incident: an incident's identifier is not empty
  cases hPointer : repository.activeIncidentByCorrelation.get? (scopeKey request.workspaceID request.correlationKey) with
  | none =>
    have hKey := hSound.incidents _ incident hIncident
    rw [hPointer] at hKey
    exact absurd (congrArg ScopeKey.resourceID hKey) (hCorrelated.incidents _ incident hStored).named
  | some id =>
    obtain ⟨other, hOther, hKey⟩ := hAdmitted.pointers _ id hPointer
    unfold Investigations.activeIncident at hIncident
    rw [hPointer, Option.getD_some] at hIncident
    cases hOther.symm.trans hIncident
    exact hKey

section

variable (h : Correlatable request.mapping tenantID request.key repository)
  (hFiring : FiringOf tenantID request.key repository) (hCorrelated : Correlated repository)
include h hFiring hCorrelated

theorem Correlatable.replay : repository.correlationReplay request.key request = none ∨
    ∃ result, repository.correlationReplay request.key request = some (.ok result) := by
  obtain ⟨signal, hStored, _⟩ := hFiring.signal
  unfold Repository.correlationReplay
  rw [hStored]
  cases hAssociation : repository.signalIncident.get? request.key with
  | none => exact .inl rfl
  | some association =>
    obtain ⟨incidentID, rfl⟩ := h.association association hAssociation
    have hMatches : (request.mapping.association incidentID).matches request := SignalAssociation.matches_iff.mpr rfl
    simp only [Option.map_some, hMatches, Bool.true_eq_false, if_false]
    by_cases hEmpty : (request.mapping.association incidentID).incidentID = []
    · exact .inr ⟨{}, by rw [if_pos hEmpty]⟩
    · obtain ⟨incident, hIncident, _⟩ := (hCorrelated.associations _ _ hAssociation).incident hEmpty
      change repository.incidents.get? (scopeKey request.workspaceID _) = _ at hIncident
      exact .inr ⟨{ incident := some incident, associated := true }, by rw [if_neg hEmpty, hIncident]⟩

variable (hAdmitted : Admitted repository)
include hAdmitted

theorem Correlatable.entry (hRequest : Admissible encoding repository request) :
    ∃ replay, correlationEntry encoding repository request = .ok (tenantID, replay) := by
  obtain ⟨signal, hStored, _⟩ := hFiring.signal
  obtain ⟨_, _, hRecorded, hValid⟩ := hAdmitted.signals request.key signal hStored
  rw [hFiring.tenant] at hRecorded
  cases hRecorded
  have hOwn : (repository.signalTenants.get? request.key).filter validResourceID = some tenantID := by
    rw [hFiring.tenant, Option.filter_some, if_pos hValid]
  unfold correlationEntry
  simp only [show scopeKey request.workspaceID request.signalID = request.key from rfl, hOwn,
    require_of hRequest.snapshot]
  rcases h.replay hFiring hCorrelated with hReplay | ⟨result, hReplay⟩
  · exact ⟨none, by rw [hReplay]; rfl⟩
  · exact ⟨some result, by rw [hReplay]; rfl⟩

theorem Correlatable.commit (hSound : Sound repository) (hRequest : Admissible encoding repository request)
    {env : Environment} (hLive : LiveCall repository request (.commit (.correlateSignal request) env)) :
    Ends (correlateSignal encoding env request) repository (fun reply _ => ∃ result, reply = .ok result) := by
  obtain ⟨signal, hStored, hStatus⟩ := hFiring.signal
  obtain ⟨hObserved, _, hRecorded, hValidTenant⟩ := hAdmitted.signals request.key signal hStored
  rw [hFiring.tenant] at hRecorded
  cases hRecorded
  obtain ⟨replay, hEntry⟩ := h.entry hFiring hCorrelated hAdmitted hRequest
  cases hLive with
  | commit _ hClock hID =>
    unfold correlateSignal
    refine .attempt_ok (require_of hRequest.valid) ?_
    refine .get ?_
    refine .attempt_ok hEntry ?_
    cases replay with
    | some result => exact .pure ⟨result, rfl⟩
    | none =>
      refine .found_some hStored ?_
      refine .pass hClock.ne' ?_
      cases hIncident : Investigations.activeIncident repository request with
      | some incident =>
        have hActive := (hCorrelated.incidents _ incident hIncident).active
        obtain ⟨hOwner, hMapping⟩ := h.unopposed.activeIncident hCorrelated hAdmitted hSound hIncident
        have hCounted := countedIncident_valid (hAdmitted.incidents _ incident hIncident) hObserved hClock
        simp only [hActive, if_true]
        refine .pass hOwner ?_
        refine .pass ⟨congrArg Mapping.correlationKey hMapping, congrArg Mapping.mappingStatus hMapping,
          congrArg Mapping.serviceID hMapping, congrArg Mapping.environmentID hMapping⟩ ?_
        refine .pass ((Incident.valid_iff hCounted.key_ne_nil).mpr hCounted) ?_
        exact .set (.pure ⟨_, rfl⟩)
      | none =>
        obtain ⟨hValidID, hNew⟩ := hID hIncident
        simp only
        unfold openIncident
        refine .get ?_
        rw [if_neg (by simp [hStatus])]
        refine .attempt_ok (a := env.ids 0) (by rw [newID, require_of hValidID]; rfl) ?_
        refine .pass hNew ?_
        refine .pass (openedIncident_valid hRequest.valid hValidID hValidTenant hObserved hClock) ?_
        exact .set (.pure ⟨_, rfl⟩)

theorem Correlatable.succeeds (hSound : Sound repository) (hRequest : Admissible encoding repository request)
    {event : Event} (hLive : LiveCall repository request event) {reply : Reply}
    (hReply : (repository.step encoding event).1 = some reply) : ∃ result, reply = .ok (.correlated result) := by
  have hCase := hLive
  cases hCase with
  | begin =>
    obtain ⟨replay, hEntry⟩ := h.entry hFiring hCorrelated hAdmitted hRequest
    simp only [Repository.step, look, hRequest.valid, hEntry, if_true, Bool.false_eq_true, if_false,
      Option.map_eq_some_iff] at hReply
    obtain ⟨result, _, rfl⟩ := hReply
    exact ⟨result, rfl⟩
  | commit env =>
    have hEnds : Ends (locked encoding env (.correlateSignal request)) repository
        (fun reply _ => ∃ result, reply = .ok (.correlated result)) := by
      refine ends_map.mpr ((h.commit hFiring hCorrelated hAdmitted hSound hRequest hLive).mono ?_)
      rintro _ _ ⟨result, rfl⟩
      exact ⟨result, rfl⟩
    exact Option.some.inj hReply ▸ hEnds

end

end Progress

/-! ## Order and repetition -/

/-- The call returns at this event, where it is live and its request admissible. -/
def Answered (encoding : Encoding) (events : List Event) (n : Nat) (request : CorrelateSignalRequest) (reply : Reply) :
    Prop :=
  ∃ event, events[n]? = some event ∧ Admissible encoding ((machine encoding).stateAt events n) request ∧
    LiveCall ((machine encoding).stateAt events n) request event ∧
    (((machine encoding).stateAt events n).step encoding event).1 = some reply

/-- Each of the signals has a call in the tail that returns, whatever it returns. -/
structure CorrelatesAll (encoding : Encoding) (events tail : List Event) (mapping : Mapping) (signals : Set ScopeKey) :
    Prop where
  conforms : ∀ event ∈ tail, event.Conforms mapping signals
  each : ∀ key ∈ signals, ∃ n request reply, events.length ≤ n ∧ request.key = key ∧
    Answered encoding (events ++ tail) n request reply

section Order

variable {encoding : Encoding} {events tail : List Event} {mapping : Mapping} {tenantID : GoString}
  {signals : Set ScopeKey}

theorem LiveCall.call_eq {repository : Repository} {request : CorrelateSignalRequest} {event : Event}
    (h : LiveCall repository request event) : event.call = .correlateSignal request := by
  cases h with
  | begin | commit => rfl

theorem conforms_append (hTail : ∀ event ∈ tail, event.Conforms mapping signals) (k : Nat) (event : Event)
    (hk : events.length ≤ k) (hEvent : (events ++ tail)[k]? = some event) : event.Conforms mapping signals := by
  rw [List.getElem?_append_right hk] at hEvent
  exact hTail event (List.mem_of_getElem? hEvent)

variable (hSignals : ∀ key ∈ signals, FiringOf tenantID key ((machine encoding).run events))
include hSignals

theorem Answered.succeeds {n : Nat} {request : CorrelateSignalRequest} {reply : Reply}
    (h : Answered encoding (events ++ tail) n request reply) (hTail : ∀ event ∈ tail, event.Conforms mapping signals)
    (hn : events.length ≤ n) (hSignal : request.key ∈ signals)
    (hStart : Correlatable mapping tenantID request.key ((machine encoding).run events)) :
    ∃ result, reply = .ok (.correlated result) := by
  obtain ⟨event, hEvent, hRequest, hLive, hStep⟩ := h
  obtain ⟨_, rfl⟩ := conforms_append hTail n event hn hEvent request hLive.call_eq (.inl hSignal)
  rw [← (machine encoding).stateAt_append events tail] at hSignals hStart
  have hCorrelatable := hStart.stateAt hn hSignals (conforms_append hTail) hSignal
  exact hCorrelatable.succeeds (stateAt_firing hn hSignals _ hSignal) (stateAt_correlated encoding _ _)
    (stateAt_admitted encoding _ _) (stateAt_sound encoding _ _) hRequest hLive hStep

theorem CorrelatesAll.correlating (h : CorrelatesAll encoding events tail mapping signals) :
    Correlating encoding events tail mapping.workspaceID mapping.correlationKey
      { key | key ∈ signals ∧ Correlatable mapping tenantID key ((machine encoding).run events) } := by
  constructor
  · intro key hUnder
    have hLength : events.length ≤ (events ++ tail).length := by simp
    rw [← (machine encoding).stateAt_append events tail] at hSignals ⊢
    rw [← (machine encoding).stateAt_length (events ++ tail)] at hUnder
    exact stateAt_under hLength hSignals (conforms_append h.conforms) hUnder
  · rintro key ⟨hKey, hStart⟩
    obtain ⟨n, request, reply, hn, rfl, hReply⟩ := h.each key hKey
    obtain ⟨result, rfl⟩ := hReply.succeeds hSignals h.conforms hn hKey hStart
    obtain ⟨event, hEvent, _, hLive, hStep⟩ := hReply
    obtain ⟨_, rfl⟩ := conforms_append h.conforms n event hn hEvent request hLive.call_eq (.inl hKey)
    obtain ⟨k, rfl⟩ := Nat.exists_eq_add_of_le hn
    rw [List.getElem?_append_right hn, Nat.add_sub_cancel_left] at hEvent
    exact ⟨k, event, .correlated result, hEvent, ⟨request, hLive.call_eq, rfl, rfl⟩, hStep⟩

omit hSignals in
theorem CorrelatesAll.workspace (h : CorrelatesAll encoding events tail mapping signals) {key : ScopeKey}
    (hKey : key ∈ signals) : key.workspaceID = mapping.workspaceID := by
  obtain ⟨n, request, _, hn, rfl, event, hEvent, _, hLive, _⟩ := h.each key hKey
  obtain ⟨_, rfl⟩ := conforms_append h.conforms n event hn hEvent request hLive.call_eq (.inl hKey)
  rfl

end Order

/-- In every state of every run an incident counts the signals that are associated with it, an association never
changes and a correlation key has one active incident. Calls for firing signals of one tenant with one key and mapping
succeed unless something else is stored for the signal or the key, and in whatever order they are made and repeated the
incident ends with the same count and the same times. -/
theorem incidents_count_their_signals (encoding : Encoding) :
    (∀ (events : List Event) (m n : Nat), m ≤ n → ∀ key association,
      ((machine encoding).stateAt events m).signalIncident.get? key = some association →
      ((machine encoding).stateAt events n).signalIncident.get? key = some association) ∧
    (∀ (events : List Event) (n : Nat) key incident,
      ((machine encoding).stateAt events n).incidents.get? key = some incident →
      incident.signalCount = ((machine encoding).stateAt events n).associated incident ∧
      IsLeast (((machine encoding).stateAt events n).observedTimes incident.workspaceID incident.id) incident.openedAt ∧
      IsGreatest (((machine encoding).stateAt events n).observedTimes incident.workspaceID incident.id)
        incident.lastSignalAt ∧
      incident.signalCount ≤ incident.version ∧
      ∀ other otherIncident, ((machine encoding).stateAt events n).incidents.get? other = some otherIncident →
        isActiveIncident incident.status = true → isActiveIncident otherIncident.status = true →
        otherIncident.workspaceID = incident.workspaceID → otherIncident.correlationKey = incident.correlationKey →
        other = key) ∧
    ∀ (events : List Event) (mapping : Mapping) (tenantID : GoString) (signals : Set ScopeKey),
      (∀ key ∈ signals, FiringOf tenantID key ((machine encoding).run events)) →
      (∀ tail : List Event, (∀ event ∈ tail, event.Conforms mapping signals) → ∀ n request reply, events.length ≤ n →
        request.key ∈ signals → Correlatable mapping tenantID request.key ((machine encoding).run events) →
        Answered encoding (events ++ tail) n request reply → ∃ result, reply = .ok (.correlated result)) ∧
      ∀ first second : List Event, CorrelatesAll encoding events first mapping signals →
        CorrelatesAll encoding events second mapping signals →
        ((∃ key ∈ signals, Correlatable mapping tenantID key ((machine encoding).run events)) →
          ∃ incident, IncidentUnder ((machine encoding).run (events ++ first)) mapping.workspaceID
            mapping.correlationKey incident) ∧
        ∀ incident, IncidentUnder ((machine encoding).run (events ++ first)) mapping.workspaceID mapping.correlationKey
            incident →
          ∃ incident', IncidentUnder ((machine encoding).run (events ++ second)) mapping.workspaceID
              mapping.correlationKey incident' ∧
            incident'.signalCount = incident.signalCount ∧ incident'.openedAt = incident.openedAt ∧
            incident'.lastSignalAt = incident.lastSignalAt := by
  refine ⟨?_, ?_, ?_⟩
  · intro events m n hmn key association hAssociation
    exact (stateAt_extends encoding events hmn).associations.keeps hAssociation
  · intro events n key incident hIncident
    have hCorrelated := stateAt_correlated encoding events n
    have hTally := hCorrelated.incidents key incident hIncident
    refine ⟨hTally.count, hTally.opened, hTally.last, hTally.version, ?_⟩
    intro other otherIncident hOther _ _ hWorkspace hKey
    exact hCorrelated.unique (stateAt_sound encoding events n) hIncident hOther hWorkspace hKey
  · intro events mapping tenantID signals hSignals
    constructor
    · intro tail hTail n request reply hn hSignal hStart hReply
      exact hReply.succeeds hSignals hTail hn hSignal hStart
    · intro first second hFirst hSecond
      refine Correlating.agree (fun key hKey => ?_) (hFirst.correlating hSignals) (hSecond.correlating hSignals)
      exact ⟨hFirst.workspace hKey.1, (hSignals key hKey.1).signal⟩

namespace Sample

def register (id : GoString) (observedAt : Int) (tenantID : GoString) (clock : Int) : Event :=
  .commit (.registerSignal (signal id observedAt)) (env [] tenantID clock)

def correlate (clock : Int) (signalID : GoString) : Event :=
  .commit (.correlateSignal (correlation signalID)) (env [ascii "incident"] [] clock)

def registered (tenantID otherID : GoString) : List Event :=
  [register (ascii "first") second tenantID (3 * second), register (ascii "second") (2 * second) otherID (3 * second)]

/-- Two signals that were observed before the zero time, by a clock before it. -/
def registeredEarly : List Event :=
  [register (ascii "first") (-3 * second) (ascii "tenant") (-second),
    register (ascii "second") (-2 * second) (ascii "tenant") (-second)]

def inOrder (clock : Int) : List Event := [correlate clock (ascii "first"), correlate clock (ascii "second")]

def outOfOrder (clock : Int) : List Event :=
  [correlate clock (ascii "second"), correlate clock (ascii "first"), correlate clock (ascii "second")]

def keys : Set ScopeKey :=
  { key | key = scopeKey (ascii "workspace") (ascii "first") ∨ key = scopeKey (ascii "workspace") (ascii "second") }

def opened (events : List Event) : Option (Int × Int × Int) :=
  (((machine encoding).run events).incidents.get? (scopeKey (ascii "workspace") (ascii "incident"))).map
    fun incident => (incident.signalCount, incident.openedAt, incident.lastSignalAt)

def mapping : Mapping := (correlation []).mapping

def oneTenant : List Event := registered (ascii "tenant") (ascii "tenant")

end Sample

theorem sample_conforms {id : GoString} (clock : Int) (h : scopeKey (ascii "workspace") id ∈ Sample.keys) :
    (Sample.correlate clock id).Conforms Sample.mapping Sample.keys := by
  rintro request hCall _
  cases hCall
  exact ⟨h, rfl⟩

theorem sample_firing : ∀ key ∈ Sample.keys,
    FiringOf (ascii "tenant") key ((machine Sample.encoding).run Sample.oneTenant) := by
  rintro key (rfl | rfl)
  · exact ⟨by decide +kernel, Sample.signal (ascii "first") second, by decide +kernel, rfl⟩
  · exact ⟨by decide +kernel, Sample.signal (ascii "second") (2 * second), by decide +kernel, rfl⟩

theorem sample_correlatable : Correlatable Sample.mapping (ascii "tenant") (scopeKey (ascii "workspace") (ascii "first"))
    ((machine Sample.encoding).run Sample.oneTenant) := by
  constructor
  · have hNone : ((machine Sample.encoding).run Sample.oneTenant).signalIncident.get?
        (scopeKey (ascii "workspace") (ascii "first")) = none := by
      decide +kernel
    intro association hAssociation
    rw [hNone] at hAssociation
    cases hAssociation
  · intro place incident hIncident hWorkspace hKey
    have hPointer := ((run_correlated Sample.encoding Sample.oneTenant).incidents place incident hIncident).pointer
    have hNone : ((machine Sample.encoding).run Sample.oneTenant).activeIncidentByCorrelation.get?
        (scopeKey Sample.mapping.workspaceID Sample.mapping.correlationKey) = none := by
      decide +kernel
    rw [hWorkspace, hKey, hNone] at hPointer
    cases hPointer

theorem sample_answered (events : List Event) (n : Nat) (id : GoString) (key : ScopeKey)
    (hKey : key = scopeKey (ascii "workspace") id) (hEvent : events[n]? = some (Sample.correlate (4 * second) id))
    (hValid : (Sample.correlation id).valid = true)
    (hFresh : (activeIncident ((machine Sample.encoding).stateAt events n) (Sample.correlation id)).isNone = true →
      (((machine Sample.encoding).stateAt events n).incidents.get?
        (scopeKey (ascii "workspace") (ascii "incident"))).isNone = true) :
    ∃ request reply, request.key = key ∧ Answered Sample.encoding events n request reply := by
  subst hKey
  refine ⟨Sample.correlation id, _, rfl, _, hEvent, ⟨hValid, rfl⟩, .commit _ (by decide) fun hNone => ⟨by decide, ?_⟩, rfl⟩
  exact Option.isNone_iff_eq_none.mp (hFresh (Option.isNone_iff_eq_none.mpr hNone))

theorem sample_inOrder :
    CorrelatesAll Sample.encoding Sample.oneTenant (Sample.inOrder (4 * second)) Sample.mapping Sample.keys := by
  constructor
  · intro event hEvent
    simp only [Sample.inOrder, List.mem_cons, List.not_mem_nil, or_false] at hEvent
    rcases hEvent with rfl | rfl
    · exact sample_conforms _ (.inl rfl)
    · exact sample_conforms _ (.inr rfl)
  · intro key hKey
    rcases hKey with hKey | hKey
    · obtain ⟨request, reply, hAnswer⟩ := sample_answered (Sample.oneTenant ++ Sample.inOrder (4 * second)) 2
        (ascii "first") key hKey rfl (by decide) (by decide +kernel)
      exact ⟨2, request, reply, by decide, hAnswer⟩
    · obtain ⟨request, reply, hAnswer⟩ := sample_answered (Sample.oneTenant ++ Sample.inOrder (4 * second)) 3
        (ascii "second") key hKey rfl (by decide) (by decide +kernel)
      exact ⟨3, request, reply, by decide, hAnswer⟩

theorem sample_outOfOrder :
    CorrelatesAll Sample.encoding Sample.oneTenant (Sample.outOfOrder (4 * second)) Sample.mapping Sample.keys := by
  constructor
  · intro event hEvent
    simp only [Sample.outOfOrder, List.mem_cons, List.not_mem_nil, or_false] at hEvent
    rcases hEvent with rfl | rfl | rfl
    · exact sample_conforms _ (.inr rfl)
    · exact sample_conforms _ (.inl rfl)
    · exact sample_conforms _ (.inr rfl)
  · intro key hKey
    rcases hKey with hKey | hKey
    · obtain ⟨request, reply, hAnswer⟩ := sample_answered (Sample.oneTenant ++ Sample.outOfOrder (4 * second)) 3
        (ascii "first") key hKey rfl (by decide) (by decide +kernel)
      exact ⟨3, request, reply, by decide, hAnswer⟩
    · obtain ⟨request, reply, hAnswer⟩ := sample_answered (Sample.oneTenant ++ Sample.outOfOrder (4 * second)) 2
        (ascii "second") key hKey rfl (by decide) (by decide +kernel)
      exact ⟨2, request, reply, by decide, hAnswer⟩

theorem incidents_count_their_signals_sample :
    Sample.opened (Sample.oneTenant ++ Sample.inOrder (4 * second)) = some (2, second, 2 * second) ∧
    ∃ incident, IncidentUnder ((machine Sample.encoding).run (Sample.oneTenant ++ Sample.outOfOrder (4 * second)))
        (ascii "workspace") (ascii "payments/errors") incident ∧
      incident.signalCount = 2 ∧ incident.openedAt = second ∧ incident.lastSignalAt = 2 * second := by
  have hOpened : Sample.opened (Sample.oneTenant ++ Sample.inOrder (4 * second)) = some (2, second, 2 * second) := by
    decide +kernel
  refine ⟨hOpened, ?_⟩
  obtain ⟨found, hFound, hTally⟩ := Option.map_eq_some_iff.mp hOpened
  obtain ⟨_, hAgree⟩ := (incidents_count_their_signals Sample.encoding).2.2 _ _ _ _ sample_firing
  obtain ⟨hExists, hSame⟩ := hAgree _ _ sample_inOrder sample_outOfOrder
  obtain ⟨incident, hIncident⟩ := hExists ⟨_, .inl rfl, sample_correlatable⟩
  obtain ⟨incident', hIncident', hCount, hFirst, hLast⟩ := hSame incident hIncident
  refine ⟨incident', hIncident', ?_⟩
  -- both are the incident of the key, so it is the one that was evaluated
  have hKey : found.workspaceID = Sample.mapping.workspaceID ∧ found.correlationKey = Sample.mapping.correlationKey := by
    have hKeys : (((machine Sample.encoding).run (Sample.oneTenant ++ Sample.inOrder (4 * second))).incidents.get?
        (scopeKey (ascii "workspace") (ascii "incident"))).map (fun incident =>
          (incident.workspaceID, incident.correlationKey)) = some (ascii "workspace", ascii "payments/errors") := by
      decide +kernel
    rw [hFound] at hKeys
    exact Prod.mk.inj (Option.some.inj hKeys)
  have hPlace := (run_correlated _ _).unique (run_sound _ _) hFound hIncident.stored
    ((hIncident.workspace (run_sound _ _)).trans hKey.1.symm) (hIncident.key.trans hKey.2.symm)
  have hStored := hIncident.stored
  rw [hPlace, hFound] at hStored
  cases hStored
  rw [hCount, hFirst, hLast]
  simpa only [Prod.mk.injEq] using hTally

/-- Two signals of a workspace that were registered under two tenants: only the first that is correlated is counted, and
the incident's times depend on which it is. So it is with signals of one tenant while the clock is before the zero time:
the time of the update would be the zero time, and the second signal is refused. -/
theorem correlation_order_matters_across_tenants :
    Sample.opened (Sample.registered (ascii "tenant") (ascii "other") ++ Sample.inOrder (4 * second)) =
      some (1, second, second) ∧
    Sample.opened (Sample.registered (ascii "tenant") (ascii "other") ++ Sample.outOfOrder (4 * second)) =
      some (1, 2 * second, 2 * second) ∧
    Sample.opened (Sample.registeredEarly ++ Sample.inOrder (-second)) = some (1, -3 * second, -3 * second) ∧
    Sample.opened (Sample.registeredEarly ++ Sample.outOfOrder (-second)) = some (1, -2 * second, -2 * second) := by
  refine ⟨?_, ?_, ?_, ?_⟩ <;> decide +kernel

end AiopsSystem.Investigations
