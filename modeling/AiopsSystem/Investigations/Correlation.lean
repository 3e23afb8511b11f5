import AiopsSystem.Investigations.Idempotency
import Mathlib.Order.Bounds.Basic

/-! # Signals and the incidents that count them

An incident counts the signals that are associated with it: how many there are,
when the first was observed and when the last. The invariant is kept by every
write; two runs that have correlated the same signals under one key therefore
end with the same count and the same times, in whatever order they did it.
-/

namespace AiopsSystem.Investigations

open Go Go.Section GoMap

namespace Repository

def belongs (workspaceID incidentID : GoString) (key : ScopeKey) (association : SignalAssociation) : Bool :=
  key.workspaceID == workspaceID && association.incidentID == incidentID

def associated (repository : Repository) (incident : Incident) : Nat :=
  repository.signalIncident.countEntries (belongs incident.workspaceID incident.id)

def observedTimes (repository : Repository) (workspaceID incidentID : GoString) : Set Int :=
  { time | ∃ key association signal, repository.signalIncident.get? key = some association ∧
    belongs workspaceID incidentID key association = true ∧ repository.signals.get? key = some signal ∧
    signal.observedAt = time }

end Repository

open Repository (belongs associated observedTimes)

/-- An incident counts its signals, and its correlation key names it while it is active. -/
structure Tally (repository : Repository) (incident : Incident) : Prop where
  named : incident.id ≠ []
  count : incident.signalCount = repository.associated incident
  opened : IsLeast (repository.observedTimes incident.workspaceID incident.id) incident.openedAt
  last : IsGreatest (repository.observedTimes incident.workspaceID incident.id) incident.lastSignalAt
  version : incident.signalCount ≤ incident.version
  active : isActiveIncident incident.status = true
  pointer : repository.activeIncidentByCorrelation.get? (scopeKey incident.workspaceID incident.correlationKey) =
    some incident.id

structure Grounded (repository : Repository) (key : ScopeKey) (association : SignalAssociation) : Prop where
  signal : ∃ signal, repository.signals.get? key = some signal ∧
    (association.incidentID = [] → signal.status = .resolved)
  incident : association.incidentID ≠ [] → ∃ incident,
    repository.incidents.get? (scopeKey key.workspaceID association.incidentID) = some incident ∧
      incident.correlationKey = association.correlationKey

structure Correlated (repository : Repository) : Prop where
  associations : ∀ key association, repository.signalIncident.get? key = some association →
    Grounded repository key association
  incidents : ∀ key incident, repository.incidents.get? key = some incident → Tally repository incident

section Times

variable {repository repository' : Repository} {workspaceID incidentID : GoString}

theorem observedTimes_congr (hAssociations : repository'.signalIncident = repository.signalIncident)
    (hSignals : GoMap.Grows Eq repository.signals repository'.signals)
    (hGrounded : ∀ key association, repository.signalIncident.get? key = some association →
      Grounded repository key association) :
    repository'.observedTimes workspaceID incidentID = repository.observedTimes workspaceID incidentID := by
  ext time
  unfold observedTimes
  rw [hAssociations]
  constructor
  · rintro ⟨key, association, signal, hAssociation, hBelongs, hSignal, hTime⟩
    obtain ⟨_, hSignal', _⟩ := (hGrounded key association hAssociation).signal
    have hSame := hSignals.keeps hSignal'
    rw [hSignal] at hSame
    cases hSame
    exact ⟨key, association, signal, hAssociation, hBelongs, hSignal', hTime⟩
  · rintro ⟨key, association, signal, hAssociation, hBelongs, hSignal, hTime⟩
    exact ⟨key, association, signal, hAssociation, hBelongs, hSignals.keeps hSignal, hTime⟩

theorem observedTimes_insert (after : Repository) {key : ScopeKey} {association : SignalAssociation} {signal : Signal}
    (hFresh : repository.signalIncident.get? key = none) (hSignal : repository.signals.get? key = some signal)
    (hAssociations : after.signalIncident = repository.signalIncident.insert key association)
    (hSignals : after.signals = repository.signals) :
    after.observedTimes workspaceID incidentID =
      if belongs workspaceID incidentID key association = true then
        insert signal.observedAt (repository.observedTimes workspaceID incidentID)
      else repository.observedTimes workspaceID incidentID := by
  have hMem : ∀ time, time ∈ after.observedTimes workspaceID incidentID ↔
      belongs workspaceID incidentID key association ∧ signal.observedAt = time ∨
        time ∈ repository.observedTimes workspaceID incidentID := by
    intro time
    unfold observedTimes
    rw [hAssociations, hSignals]
    constructor
    · rintro ⟨other, found, stored, hFound, hBelongs, hStored, hTime⟩
      rcases get?_insert_cases hFound with ⟨rfl, rfl⟩ | ⟨_, hBefore⟩
      · rw [hSignal] at hStored
        cases hStored
        exact .inl ⟨hBelongs, hTime⟩
      · exact .inr ⟨other, found, stored, hBefore, hBelongs, hStored, hTime⟩
    · rintro (⟨hBelongs, hTime⟩ | ⟨other, found, stored, hFound, hBelongs, hStored, hTime⟩)
      · exact ⟨key, association, signal, get?_insert_self, hBelongs, hSignal, hTime⟩
      · have hOther : other ≠ key := by
          rintro rfl
          rw [hFresh] at hFound
          cases hFound
        exact ⟨other, found, stored, (get?_insert_of_ne hOther).trans hFound, hBelongs, hStored, hTime⟩
  ext time
  rw [hMem]
  split
  · rename_i hBelongs
    simp only [hBelongs, true_and, Set.mem_insert_iff, eq_comm]
  · rename_i hBelongs
    simp [hBelongs]

end Times

section Tallies

variable {repository repository' : Repository}

structure Incident.Recounts (incident next : Incident) : Prop extends incident.Continues next where
  count : next.signalCount = incident.signalCount
  times : next.openedAt = incident.openedAt ∧ next.lastSignalAt = incident.lastSignalAt
  version : incident.version ≤ next.version
  active : isActiveIncident next.status = true

variable {incident : Incident}

theorem Tally.refl (h : Tally repository incident) : incident.Recounts incident :=
  ⟨.refl incident, rfl, ⟨rfl, rfl⟩, le_rfl, h.active⟩

theorem Tally.keep {incident next : Incident} (h : Tally repository incident) (hNext : incident.Recounts next)
    (hCount : repository'.associated incident = repository.associated incident)
    (hTimes : repository'.observedTimes incident.workspaceID incident.id =
      repository.observedTimes incident.workspaceID incident.id)
    (hPointer : repository'.activeIncidentByCorrelation.get?
        (scopeKey incident.workspaceID incident.correlationKey) = some incident.id) : Tally repository' next := by
  obtain ⟨⟨⟨hID, hWorkspace, hKey⟩, _, _⟩, hSignalCount, ⟨hOpened, hLast⟩, hVersion, hActive⟩ := hNext
  have hAssociated : repository'.associated next = repository.associated incident := by
    rw [← hCount]
    unfold associated
    rw [hID, hWorkspace]
  constructor
  · rw [hID]
    exact h.named
  · rw [hSignalCount, hAssociated]
    exact h.count
  · rw [hID, hWorkspace, hOpened, hTimes]
    exact h.opened
  · rw [hID, hWorkspace, hLast, hTimes]
    exact h.last
  · have hOld := h.version
    omega
  · exact hActive
  · rw [hID, hWorkspace, hKey]
    exact hPointer

variable {key : ScopeKey} {association : SignalAssociation}

theorem Grounded.mono (h : Grounded repository key association)
    (hSignals : GoMap.Grows Eq repository.signals repository'.signals)
    (hIncidents : GoMap.Grows Incident.Continues repository.incidents repository'.incidents) :
    Grounded repository' key association := by
  obtain ⟨signal, hSignal, hResolved⟩ := h.signal
  refine ⟨⟨signal, hSignals.keeps hSignal, hResolved⟩, fun hID => ?_⟩
  obtain ⟨incident, hIncident, hKey⟩ := h.incident hID
  obtain ⟨incident', hIncident', hContinues⟩ := hIncidents _ incident hIncident
  exact ⟨incident', hIncident', hContinues.same.2.2.trans hKey⟩

theorem associated_insert (incident : Incident) (hFresh : repository.signalIncident.get? key = none)
    (hAssociations : repository'.signalIncident = repository.signalIncident.insert key association) :
    repository'.associated incident = repository.associated incident +
      if belongs incident.workspaceID incident.id key association then 1 else 0 := by
  unfold associated
  rw [hAssociations]
  exact countEntries_insert_of_none hFresh association _

theorem Tally.other (h : Tally repository incident) (after : Repository) {signal : Signal}
    (hFresh : repository.signalIncident.get? key = none) (hSignal : repository.signals.get? key = some signal)
    (hAssociations : after.signalIncident = repository.signalIncident.insert key association)
    (hSignals : after.signals = repository.signals)
    (hOther : belongs incident.workspaceID incident.id key association = false)
    (hPointer : after.activeIncidentByCorrelation.get? (scopeKey incident.workspaceID incident.correlationKey) =
      some incident.id) :
    Tally after incident := by
  refine h.keep h.refl ?_ ?_ hPointer
  · rw [associated_insert incident hFresh hAssociations, hOther]
    simp
  · rw [observedTimes_insert _ hFresh hSignal hAssociations hSignals, hOther]
    simp

theorem Correlated.replace (h : Correlated repository) (hSound : Sound repository) {workspaceID id : GoString}
    {incident next : Incident} (hIncident : repository.incidents.get? (scopeKey workspaceID id) = some incident)
    (hNext : incident.Recounts next)
    (hIncidents : repository'.incidents = repository.incidents.insert (scopeKey workspaceID id) next)
    (hAssociations : repository'.signalIncident = repository.signalIncident)
    (hSignals : repository'.signals = repository.signals)
    (hPointers : repository'.activeIncidentByCorrelation = repository.activeIncidentByCorrelation) :
    Correlated repository' := by
  have hGrows : GoMap.Grows Incident.Continues repository.incidents repository'.incidents := by
    rw [hIncidents]
    exact (hSound.replaceIncident hIncident hNext.toContinues (.inr rfl)).1
  have hSignalsGrow : GoMap.Grows Eq repository.signals repository'.signals := by
    rw [hSignals]
    exact .refl _
  have hKeep : ∀ other next', Tally repository other → other.Recounts next' → Tally repository' next' := by
    intro other next' hTally hNext'
    refine hTally.keep hNext' ?_ (observedTimes_congr hAssociations hSignalsGrow h.associations) ?_
    · unfold associated
      rw [hAssociations]
    · rw [hPointers]
      exact hTally.pointer
  constructor
  · intro key association hAssociation
    rw [hAssociations] at hAssociation
    exact (h.associations key association hAssociation).mono hSignalsGrow hGrows
  · intro key found hFound
    rw [hIncidents] at hFound
    rcases get?_insert_cases hFound with ⟨_, rfl⟩ | ⟨_, hBefore⟩
    · exact hKeep incident found (h.incidents _ incident hIncident) hNext
    · have hTally := h.incidents key found hBefore
      exact hKeep found found hTally hTally.refl

theorem Correlated.drop (h : Correlated repository) (hDrop : Drop repository repository') : Correlated repository' := by
  cases hDrop with
  | incident _ incident hIncident hEnded =>
    have hActive := (h.incidents _ incident hIncident).active
    rw [hEnded] at hActive
    cases hActive
  | investigation =>
    exact ⟨fun key association hAssociation => { h.associations key association hAssociation with },
      fun key incident hIncident => { h.incidents key incident hIncident with }⟩

theorem Correlated.unique (h : Correlated repository) (hSound : Sound repository) {first second : ScopeKey}
    {incident other : Incident} (hIncident : repository.incidents.get? first = some incident)
    (hOther : repository.incidents.get? second = some other) (hWorkspace : other.workspaceID = incident.workspaceID)
    (hKey : other.correlationKey = incident.correlationKey) : second = first := by
  have hPointer := (h.incidents first incident hIncident).pointer
  have hPointer' := (h.incidents second other hOther).pointer
  rw [hWorkspace, hKey, hPointer] at hPointer'
  rw [← hSound.incidents first incident hIncident, ← hSound.incidents second other hOther]
  simp only [hWorkspace, Option.some.inj hPointer']

theorem belongs_iff {workspaceID incidentID : GoString} :
    belongs workspaceID incidentID key association ↔
      key.workspaceID = workspaceID ∧ association.incidentID = incidentID := by
  simp only [belongs, Bool.and_eq_true, beq_iff_eq]

variable {request : CorrelateSignalRequest} {tenantID : GoString} {now : Int}

theorem Correlated.signal {signal : Signal} (h : Correlated repository)
    (hFresh : repository.signals.get? (scopeKey signal.workspaceID signal.id) = none) :
    Correlated (repository.storeSignal signal tenantID) := by
  have hSignals : GoMap.Grows Eq repository.signals (repository.storeSignal signal tenantID).signals :=
    .insert_fresh _ hFresh
  constructor
  · intro key association hAssociation
    exact (h.associations key association hAssociation).mono hSignals (.refl _)
  · intro key incident hIncident
    have hTally := h.incidents key incident hIncident
    exact hTally.keep hTally.refl rfl (observedTimes_congr rfl hSignals h.associations) hTally.pointer

section Association

variable {signal : Signal}
  (hSignal : repository.signals.get? (scopeKey request.workspaceID request.signalID) = some signal)
  (hFresh : repository.signalIncident.get? (scopeKey request.workspaceID request.signalID) = none)
include hSignal hFresh

variable {incidentID : GoString} {incident : Incident}

theorem Tally.first
    (hGrounded : ∀ key association, repository.signalIncident.get? key = some association →
      Grounded repository key association)
    (hID : incidentID ≠ []) (hNew : repository.incidents.get? (scopeKey request.workspaceID incidentID) = none) :
    Tally (repository.storeOpened request (openedIncident request incidentID tenantID signal.observedAt now))
      (openedIncident request incidentID tenantID signal.observedAt now) := by
  -- Nothing was associated with the incident before: an association names an incident that is stored.
  have hNone : ∀ key association, repository.signalIncident.get? key = some association →
      belongs request.workspaceID incidentID key association = false := by
    intro key association hAssociation
    cases hBelongs : belongs request.workspaceID incidentID key association with
    | false => rfl
    | true =>
      obtain ⟨hWorkspace, hIncidentID⟩ := belongs_iff.mp hBelongs
      obtain ⟨incident, hIncident, _⟩ := (hGrounded key association hAssociation).incident (hIncidentID ▸ hID)
      rw [hWorkspace, hIncidentID, hNew] at hIncident
      cases hIncident
  have hBelongs : belongs request.workspaceID incidentID (scopeKey request.workspaceID request.signalID)
      (request.association incidentID) = true := belongs_iff.mpr ⟨rfl, rfl⟩
  have hEmpty : repository.observedTimes request.workspaceID incidentID = ∅ := by
    ext time
    constructor
    · rintro ⟨key, association, _, hAssociation, hIs, _⟩
      rw [hNone key association hAssociation] at hIs
      cases hIs
    · exact False.elim
  have hTimes : (repository.storeOpened request
      (openedIncident request incidentID tenantID signal.observedAt now)).observedTimes request.workspaceID incidentID =
        {signal.observedAt} := by
    refine (observedTimes_insert (repository.storeOpened request _) hFresh hSignal rfl rfl).trans
      ((if_pos hBelongs).trans ?_)
    rw [hEmpty]
    exact insert_empty_eq _
  constructor
  · exact hID
  · rw [associated_insert _ hFresh rfl]
    have hZero : repository.associated (openedIncident request incidentID tenantID signal.observedAt now) = 0 :=
      countEntries_eq_zero hNone
    rw [hZero]
    change (1 : Int) = ((0 + if belongs request.workspaceID incidentID
      (scopeKey request.workspaceID request.signalID) (request.association incidentID) then 1 else 0 : Nat) : Int)
    rw [if_pos hBelongs]
    rfl
  · exact hTimes ▸ isLeast_singleton
  · exact hTimes ▸ isGreatest_singleton
  · exact le_rfl
  · rfl
  · exact get?_insert_self

theorem Tally.next (h : Tally repository incident) (hWorkspace : incident.workspaceID = request.workspaceID) :
    Tally (repository.storeCounted request (countedIncident incident signal.observedAt now))
      (countedIncident incident signal.observedAt now) := by
  have hBelongs : belongs incident.workspaceID incident.id (scopeKey request.workspaceID request.signalID)
      (request.association incident.id) = true := belongs_iff.mpr ⟨hWorkspace.symm, rfl⟩
  have hTimes : (repository.storeCounted request (countedIncident incident signal.observedAt now)).observedTimes
      incident.workspaceID incident.id =
        insert signal.observedAt (repository.observedTimes incident.workspaceID incident.id) :=
    (observedTimes_insert (repository.storeCounted request _) hFresh hSignal rfl rfl).trans (if_pos hBelongs)
  constructor
  · exact h.named
  · rw [associated_insert _ hFresh rfl]
    have hOne : (if belongs incident.workspaceID incident.id (scopeKey request.workspaceID request.signalID)
      (request.association incident.id) then 1 else 0) = 1 := if_pos hBelongs
    change incident.signalCount + 1 = ((repository.associated incident + (if belongs incident.workspaceID
      incident.id (scopeKey request.workspaceID request.signalID) (request.association incident.id) then 1 else 0) :
        Nat) : Int)
    rw [hOne, h.count]
    rfl
  · have hLeast := h.opened.insert signal.observedAt
    rw [← hTimes] at hLeast
    have hMin : (countedIncident incident signal.observedAt now).openedAt = min signal.observedAt incident.openedAt := by
      simp only [countedIncident]
      split <;> omega
    rw [hMin]
    exact hLeast
  · have hGreatest := h.last.insert signal.observedAt
    rw [← hTimes] at hGreatest
    have hMax : (countedIncident incident signal.observedAt now).lastSignalAt =
        max signal.observedAt incident.lastSignalAt := by
      simp only [countedIncident]
      split <;> omega
    rw [hMax]
    exact hGreatest
  · have hVersion := h.version
    simp only [countedIncident]
    omega
  · exact h.active
  · exact h.pointer

variable (h : Correlated repository)
include h

theorem Correlated.dismissal (hResolved : signal.status = .resolved) : Correlated (repository.storeDismissal request) := by
  constructor
  · intro key association hAssociation
    rcases get?_insert_cases hAssociation with ⟨rfl, rfl⟩ | ⟨_, hBefore⟩
    · exact ⟨⟨signal, hSignal, fun _ => hResolved⟩, fun hID => absurd rfl hID⟩
    · exact { h.associations key association hBefore with }
  · intro key incident hIncident
    have hTally := h.incidents key incident hIncident
    refine hTally.other (repository.storeDismissal request) hFresh hSignal rfl rfl ?_ hTally.pointer
    exact Bool.eq_false_iff.mpr fun hBelongs => hTally.named (belongs_iff.mp hBelongs).2.symm

theorem Correlated.opening (hSound : Sound repository)
    (hID : incidentID ≠ []) (hNew : repository.incidents.get? (scopeKey request.workspaceID incidentID) = none)
    (hNone : ∀ id, repository.activeIncidentByCorrelation.get?
        (scopeKey request.workspaceID request.correlationKey) = some id →
      repository.incidents.get? (scopeKey request.workspaceID id) = none) :
    Correlated (repository.storeOpened request
      (openedIncident request incidentID tenantID signal.observedAt now)) := by
  constructor
  · intro key association hAssociation
    rcases get?_insert_cases hAssociation with ⟨rfl, rfl⟩ | ⟨_, hBefore⟩
    · exact ⟨⟨signal, hSignal, fun hEmpty => absurd hEmpty hID⟩, fun _ => ⟨_, get?_insert_self, rfl⟩⟩
    · exact (h.associations key association hBefore).mono (.refl _) (.insert_fresh _ hNew)
  · intro key incident hIncident
    rcases get?_insert_cases hIncident with ⟨rfl, rfl⟩ | ⟨hOther, hBefore⟩
    · exact Tally.first hSignal hFresh h.associations hID hNew
    · have hTally := h.incidents key incident hBefore
      have hKey := hSound.incidents key incident hBefore
      refine hTally.other (repository.storeOpened request _) hFresh hSignal rfl rfl ?_ ?_
      · refine Bool.eq_false_iff.mpr fun hBelongs => hOther ?_
        obtain ⟨hWorkspace, hSameID⟩ := belongs_iff.mp hBelongs
        rw [← hKey]
        exact congr (congrArg scopeKey hWorkspace.symm) hSameID.symm
      · -- The key of the new incident named no stored incident.
        refine (get?_insert_of_ne ?_).trans hTally.pointer
        intro hSameKey
        have hPointer := hTally.pointer
        rw [hSameKey] at hPointer
        have hStored := hNone _ hPointer
        have hWorkspace : incident.workspaceID = request.workspaceID := congrArg ScopeKey.workspaceID hSameKey
        rw [← hWorkspace] at hStored
        rw [← hKey, hStored] at hBefore
        cases hBefore

theorem Correlated.counting (hSound : Sound repository) (hIncident : activeIncident repository request = some incident)
    (hKey : incident.correlationKey = request.correlationKey) :
    Correlated (repository.storeCounted request (countedIncident incident signal.observedAt now)) := by
  have hStored := hSound.incidents _ incident hIncident
  have hWorkspace : incident.workspaceID = request.workspaceID := congrArg ScopeKey.workspaceID hStored
  have hTally := h.incidents _ incident hIncident
  have hContinues : incident.Continues (countedIncident incident signal.observedAt now) := ⟨⟨rfl, rfl, rfl⟩, rfl, rfl⟩
  have hGrows := (hSound.replaceIncident hIncident hContinues (.inl rfl)).1
  constructor
  · intro key association hAssociation
    rcases get?_insert_cases hAssociation with ⟨rfl, rfl⟩ | ⟨_, hBefore⟩
    · exact ⟨⟨signal, hSignal, fun hEmpty => absurd hEmpty hTally.named⟩, fun _ => ⟨_, get?_insert_self, hKey⟩⟩
    · exact (h.associations key association hBefore).mono (.refl _) hGrows
  · intro key found hFound
    rcases get?_insert_cases hFound with ⟨rfl, rfl⟩ | ⟨hOther, hBefore⟩
    · exact hTally.next hSignal hFresh hWorkspace
    · have hTally' := h.incidents key found hBefore
      refine hTally'.other (repository.storeCounted request _) hFresh hSignal rfl rfl ?_ hTally'.pointer
      refine Bool.eq_false_iff.mpr fun hBelongs => hOther ?_
      obtain ⟨hSameWorkspace, hSameID⟩ := belongs_iff.mp hBelongs
      rw [← hSound.incidents key found hBefore]
      exact congr (congrArg scopeKey hSameWorkspace.symm) hSameID.symm

end Association

theorem Correlated.write (h : Correlated repository) (hSound : Sound repository) (hWrite : Write repository repository') :
    Correlated repository' := by
  cases hWrite with
  | signal signal _ hFresh => exact h.signal hFresh
  | dismissal _ _ hSignal hFresh hResolved => exact h.dismissal hSignal hFresh hResolved
  | opening _ _ _ _ _ hSignal hFresh hID hNew hNone =>
    exact h.opening hSignal hFresh hSound hID hNew hNone
  | counting _ _ _ _ hSignal hFresh hIncident hKey =>
    exact h.counting hSignal hFresh hSound hIncident hKey
  | creation _ _ incident _ _ _ _ _ hIncident _ _ _ _ _ hNext =>
    have hTally := h.incidents _ incident hIncident
    rcases transitionedIncident_eq_ok hNext with rfl | rfl
    · exact h.replace hSound hIncident hTally.refl rfl rfl rfl rfl
    · refine h.replace hSound hIncident ?_ rfl rfl rfl rfl
      exact ⟨⟨⟨rfl, rfl, rfl⟩, rfl, rfl⟩, rfl, ⟨rfl, rfl⟩, by simp, rfl⟩
  | feedback _ _ incident _ _ _ _ _ hIncident _ _ _ _ hJudgement =>
    have hTally := h.incidents _ incident hIncident
    cases hJudgement with
    | confirmed =>
      refine h.replace hSound hIncident ?_ rfl rfl rfl rfl
      exact ⟨⟨⟨rfl, rfl, rfl⟩, rfl, rfl⟩, rfl, ⟨rfl, rfl⟩, by simp, hTally.active⟩
    | rejected | inconclusive =>
      exact h.replace hSound hIncident hTally.refl rfl rfl rfl rfl
  | _ =>
    exact ⟨fun key association hAssociation => { h.associations key association hAssociation with },
      fun key incident hIncident => { h.incidents key incident hIncident with }⟩

end Tallies

section Runs

variable (encoding : Encoding)

theorem correlated_newRepository : Correlated newRepository where
  associations _ _ h := by cases h
  incidents _ _ h := by cases h

theorem stateAt_correlated (events : List Event) (n : Nat) : Correlated ((machine encoding).stateAt events n) :=
  stateAt_kept encoding correlated_newRepository (fun _ _ _ hDrop h => h.drop hDrop)
    (fun _ _ hSound hWrite h => h.write hSound hWrite) events n

theorem Treats.signalIncident {request : Except RepositoryError KeyedRequest} {repository repository' : Repository}
    {reply : Reply} (h : Treats request repository reply repository') :
    repository'.signalIncident = repository.signalIncident := by
  cases request with
  | error => rw [h.2]
  | ok =>
    rcases h with ⟨_, rfl⟩ | ⟨_, hSettles⟩
    · rfl
    · cases reply with
      | error => exact Quiet.signalIncident hSettles
      | ok => exact hSettles.2.2

variable {repository : Repository}

theorem locked_registerSignal {env : Environment} {signal : Signal} :
    Ends (locked encoding env (.registerSignal signal)) repository
      (fun _ repository' => repository'.signalIncident = repository.signalIncident) :=
  ends_map.mpr (registerSignal_ends.mono (fun _ _ h => h.1))

def Associates (request : CorrelateSignalRequest) (repository : Repository) (reply : Reply) (repository' : Repository) :
    Prop :=
  match reply with
  | .error _ => repository'.signalIncident = repository.signalIncident
  | .ok _ => (∃ incidentID, repository'.signalIncident.get? (scopeKey request.workspaceID request.signalID) =
        some (request.association incidentID)) ∧
      ∀ key, key ≠ scopeKey request.workspaceID request.signalID →
        repository'.signalIncident.get? key = repository.signalIncident.get? key

theorem locked_correlateSignal {env : Environment} {request : CorrelateSignalRequest} :
    Ends (locked encoding env (.correlateSignal request)) repository (Associates request repository) := by
  refine ends_map.mpr (correlateSignal_correlates.mono (fun reply _ h => ?_))
  cases reply with
  | error => exact Quiet.signalIncident h
  | ok => exact h.2

def Event.correlates (event : Event) (signal : ScopeKey) (correlationKey : GoString) : Prop :=
  ∃ request, event.call = .correlateSignal request ∧ signal = scopeKey request.workspaceID request.signalID ∧
    request.correlationKey = correlationKey

theorem step_associations (hSound : Sound repository) (event : Event) (key : ScopeKey) :
    (repository.step encoding event).2.signalIncident.get? key = repository.signalIncident.get? key ∨
      ∃ request incidentID, event.call = .correlateSignal request ∧
        key = scopeKey request.workspaceID request.signalID ∧
        (repository.step encoding event).2.signalIncident.get? key = some (request.association incidentID) := by
  cases event with
  | begin => exact .inl rfl
  | commit call env =>
    cases hCall : call.keyedRequest encoding with
    | some request =>
      have hTreats : Treats request repository _ _ := @locked_handles encoding env repository hSound _ _ hCall
      exact .inl (congrArg (GoMap.get? · key) hTreats.signalIncident)
    | none =>
      cases call with
      | registerSignal signal =>
        have hSame : _ = repository.signalIncident := @locked_registerSignal encoding repository env signal
        exact .inl (congrArg (GoMap.get? · key) hSame)
      | correlateSignal request =>
        have hAssociates : Associates request repository _ _ := @locked_correlateSignal encoding repository env request
        cases hReply : ((locked encoding env (.correlateSignal request)).exec repository).1 with
        | error =>
          rw [hReply] at hAssociates
          exact .inl (congrArg (GoMap.get? · key) hAssociates)
        | ok =>
          rw [hReply] at hAssociates
          obtain ⟨⟨incidentID, hAssociation⟩, hOthers⟩ := hAssociates
          by_cases hOwn : key = scopeKey request.workspaceID request.signalID
          · exact .inr ⟨request, incidentID, rfl, hOwn, hOwn ▸ hAssociation⟩
          · exact .inl (hOthers key hOwn)
      | _ => cases hCall

theorem step_correlated {event : Event} {key : ScopeKey} {correlationKey : GoString} {answer : Answer}
    (hEvent : event.correlates key correlationKey) (hReply : (repository.step encoding event).1 = some (.ok answer)) :
    ∃ association, (repository.step encoding event).2.signalIncident.get? key = some association ∧
      association.correlationKey = correlationKey := by
  obtain ⟨request, hCall, rfl, rfl⟩ := hEvent
  cases event with
  | commit _ env =>
    cases hCall
    have hAssociates : Associates request repository _ _ := @locked_correlateSignal encoding repository env request
    rw [Option.some.inj hReply] at hAssociates
    obtain ⟨incidentID, hAssociation⟩ := hAssociates.1
    exact ⟨_, hAssociation, rfl⟩
  | begin _ contextDone =>
    cases hCall
    simp only [Repository.step, look] at hReply
    cases contextDone with
    | true => cases hReply
    | false =>
      simp only [Bool.false_eq_true, if_false] at hReply
      by_cases hValid : request.valid
      · rw [if_pos hValid] at hReply
        cases hEntry : correlationEntry encoding repository request with
        | error =>
          rw [hEntry] at hReply
          cases hReply
        | ok entry =>
          obtain ⟨_, replay⟩ := entry
          have hReplay := (correlationEntry_eq_ok hEntry).2
          cases replay with
          | none =>
            rw [hEntry] at hReply
            cases hReply
          | some =>
            obtain ⟨incidentID, hAssociation⟩ := hReplay
            exact ⟨_, hAssociation, rfl⟩
      · rw [if_neg hValid] at hReply
        cases hReply

end Runs

/-! ## The signals under one key -/

def Repository.Under (repository : Repository) (workspaceID correlationKey : GoString) (key : ScopeKey) : Prop :=
  key.workspaceID = workspaceID ∧ ∃ association, repository.signalIncident.get? key = some association ∧
    association.correlationKey = correlationKey ∧ association.incidentID ≠ []

structure IncidentUnder (repository : Repository) (workspaceID correlationKey : GoString) (incident : Incident) :
    Prop where
  stored : repository.incidents.get? (scopeKey workspaceID incident.id) = some incident
  key : incident.correlationKey = correlationKey

section Under

variable {repository repository' : Repository} {workspaceID correlationKey : GoString} {incident : Incident}

section

variable (h : IncidentUnder repository workspaceID correlationKey incident) (hSound : Sound repository)
include h hSound

theorem IncidentUnder.workspace : incident.workspaceID = workspaceID :=
  congrArg ScopeKey.workspaceID (hSound.incidents _ incident h.stored)

theorem IncidentUnder.belongs_iff (hCorrelated : Correlated repository) (key : ScopeKey) :
    (∃ association, repository.signalIncident.get? key = some association ∧
      belongs incident.workspaceID incident.id key association) ↔
      repository.Under workspaceID correlationKey key := by
  have hWorkspace := h.workspace hSound
  have hTally := hCorrelated.incidents _ incident h.stored
  simp only [AiopsSystem.Investigations.belongs_iff]
  constructor
  · rintro ⟨association, hAssociation, hKey, hID⟩
    have hNamed : association.incidentID ≠ [] := hID ▸ hTally.named
    obtain ⟨other, hOther, hOtherKey⟩ := (hCorrelated.associations key association hAssociation).incident hNamed
    rw [hKey, hID, hWorkspace, h.stored] at hOther
    cases hOther
    exact ⟨hKey.trans hWorkspace, association, hAssociation, hOtherKey.symm.trans h.key, hNamed⟩
  · rintro ⟨hKey, association, hAssociation, hCorrelationKey, hNamed⟩
    refine ⟨association, hAssociation, hKey.trans hWorkspace.symm, ?_⟩
    obtain ⟨other, hOther, hOtherKey⟩ := (hCorrelated.associations key association hAssociation).incident hNamed
    have hOtherWorkspace : other.workspaceID = key.workspaceID :=
      congrArg ScopeKey.workspaceID (hSound.incidents _ other hOther)
    have hSame := hCorrelated.unique hSound h.stored hOther ((hOtherWorkspace.trans hKey).trans hWorkspace.symm)
      ((hOtherKey.trans hCorrelationKey).trans h.key.symm)
    exact congrArg ScopeKey.resourceID hSame

end

theorem Repository.Under.exists_incident {key : ScopeKey} (h : repository.Under workspaceID correlationKey key)
    (hSound : Sound repository) (hCorrelated : Correlated repository) :
    ∃ incident, IncidentUnder repository workspaceID correlationKey incident := by
  obtain ⟨hKey, association, hAssociation, hCorrelationKey, hNamed⟩ := h
  obtain ⟨incident, hIncident, hIncidentKey⟩ := (hCorrelated.associations key association hAssociation).incident hNamed
  have hID : incident.id = association.incidentID := congrArg ScopeKey.resourceID (hSound.incidents _ incident hIncident)
  refine ⟨incident, ?_, hIncidentKey.trans hCorrelationKey⟩
  rw [hID, ← hKey]
  exact hIncident

theorem IncidentUnder.agree (h : IncidentUnder repository workspaceID correlationKey incident) (hSound : Sound repository)
    (hCorrelated : Correlated repository) (hSound' : Sound repository') (hCorrelated' : Correlated repository')
    (hUnder : ∀ key, repository.Under workspaceID correlationKey key ↔ repository'.Under workspaceID correlationKey key)
    (hSignals : ∀ key, repository.Under workspaceID correlationKey key →
      repository.signals.get? key = repository'.signals.get? key) :
    ∃ incident', IncidentUnder repository' workspaceID correlationKey incident' ∧
      incident'.signalCount = incident.signalCount ∧ incident'.openedAt = incident.openedAt ∧
      incident'.lastSignalAt = incident.lastSignalAt := by
  have hTally := hCorrelated.incidents _ incident h.stored
  obtain ⟨key, association, _, hAssociation, hBelongs, _⟩ := hTally.opened.1
  have hKey := (h.belongs_iff hSound hCorrelated key).mp ⟨association, hAssociation, hBelongs⟩
  obtain ⟨incident', h'⟩ := ((hUnder key).mp hKey).exists_incident hSound' hCorrelated'
  have hTally' := hCorrelated'.incidents _ incident' h'.stored
  have hSame : ∀ key, (∃ association, repository.signalIncident.get? key = some association ∧
      belongs incident.workspaceID incident.id key association) ↔
      ∃ association, repository'.signalIncident.get? key = some association ∧
        belongs incident'.workspaceID incident'.id key association := by
    intro key
    rw [h.belongs_iff hSound hCorrelated, h'.belongs_iff hSound' hCorrelated', hUnder]
  have hCount : repository.associated incident = repository'.associated incident' := by
    refine countEntries_congr fun key => ?_
    rw [Bool.eq_iff_iff]
    simpa only [Option.any_eq_true] using hSame key
  have hTimes : repository.observedTimes incident.workspaceID incident.id =
      repository'.observedTimes incident'.workspaceID incident'.id := by
    ext time
    constructor
    · rintro ⟨key, association, signal, hAssociation, hBelongs, hSignal, hTime⟩
      obtain ⟨association', hAssociation', hBelongs'⟩ := (hSame key).mp ⟨association, hAssociation, hBelongs⟩
      have hUnderKey := (h.belongs_iff hSound hCorrelated key).mp ⟨association, hAssociation, hBelongs⟩
      exact ⟨key, association', signal, hAssociation', hBelongs', (hSignals key hUnderKey).symm.trans hSignal, hTime⟩
    · rintro ⟨key, association', signal, hAssociation', hBelongs', hSignal, hTime⟩
      obtain ⟨association, hAssociation, hBelongs⟩ := (hSame key).mpr ⟨association', hAssociation', hBelongs'⟩
      have hUnderKey := (h.belongs_iff hSound hCorrelated key).mp ⟨association, hAssociation, hBelongs⟩
      exact ⟨key, association, signal, hAssociation, hBelongs, (hSignals key hUnderKey).trans hSignal, hTime⟩
  refine ⟨incident', h', ?_, ?_, ?_⟩
  · rw [hTally.count, hTally'.count, hCount]
  · exact hTally'.opened.unique (hTimes ▸ hTally.opened)
  · exact hTally'.last.unique (hTimes ▸ hTally.last)

end Under

/-- The tail of a run adds these signals of the workspace under the key and no others, each of them by a call that
returns without an error. -/
structure Correlating (encoding : Encoding) (events tail : List Event) (workspaceID correlationKey : GoString)
    (signals : Set ScopeKey) : Prop where
  only : ∀ key, ((machine encoding).run (events ++ tail)).Under workspaceID correlationKey key →
    ((machine encoding).run events).Under workspaceID correlationKey key ∨ key ∈ signals
  each : ∀ key ∈ signals, ∃ (n : Nat) (event : Event) (answer : Answer), tail[n]? = some event ∧
    event.correlates key correlationKey ∧
    (((machine encoding).stateAt (events ++ tail) (events.length + n)).step encoding event).1 = some (.ok answer)

section Tails

variable {encoding : Encoding} {events tail : List Event} {workspaceID correlationKey : GoString}
  {signals : Set ScopeKey}

theorem run_sound (encoding : Encoding) (events : List Event) : Sound ((machine encoding).run events) := by
  rw [← (machine encoding).stateAt_length events]
  exact stateAt_sound encoding events _

theorem run_correlated (encoding : Encoding) (events : List Event) : Correlated ((machine encoding).run events) := by
  rw [← (machine encoding).stateAt_length events]
  exact stateAt_correlated encoding events _

theorem run_extends (encoding : Encoding) (events tail : List Event) :
    Extends ((machine encoding).run events) ((machine encoding).run (events ++ tail)) := by
  have hLength : events.length ≤ (events ++ tail).length := by simp
  rw [← (machine encoding).stateAt_append events tail, ← (machine encoding).stateAt_length (events ++ tail)]
  exact stateAt_extends encoding (events ++ tail) hLength

theorem Correlating.under (h : Correlating encoding events tail workspaceID correlationKey signals)
    (hFiring : ∀ key ∈ signals, key.workspaceID = workspaceID ∧
      ∃ signal, ((machine encoding).run events).signals.get? key = some signal ∧ signal.status = .firing)
    (key : ScopeKey) : ((machine encoding).run (events ++ tail)).Under workspaceID correlationKey key ↔
      ((machine encoding).run events).Under workspaceID correlationKey key ∨ key ∈ signals := by
  have hExtends := run_extends encoding events tail
  refine ⟨h.only key, ?_⟩
  rintro (⟨hWorkspace, association, hAssociation, hRest⟩ | hKey)
  · exact ⟨hWorkspace, association, hExtends.associations.keeps hAssociation, hRest⟩
  · obtain ⟨hWorkspace, signal, hSignal, hStatus⟩ := hFiring key hKey
    obtain ⟨n, event, _, hEvent, hCorrelates, hReply⟩ := h.each key hKey
    obtain ⟨association, hAssociation, hCorrelationKey⟩ := step_correlated encoding hCorrelates hReply
    have hAt : (events ++ tail)[events.length + n]? = some event := by
      rw [List.getElem?_append_right (by omega), Nat.add_sub_cancel_left]
      exact hEvent
    have hNext : ((machine encoding).stateAt (events ++ tail) (events.length + n + 1)).signalIncident.get? key =
        some association := by
      rw [(machine encoding).stateAt_succ hAt]
      exact hAssociation
    obtain ⟨hInside, _⟩ := List.getElem?_eq_some_iff.mp hAt
    have hLast := (stateAt_extends encoding (events ++ tail) hInside).associations.keeps hNext
    rw [(machine encoding).stateAt_length] at hLast
    refine ⟨hWorkspace, association, hLast, hCorrelationKey, fun hUnnamed => ?_⟩
    -- a firing signal is never dismissed
    obtain ⟨_, hOther, hResolved⟩ := ((run_correlated encoding (events ++ tail)).associations key association hLast).signal
    rw [hExtends.signals.keeps hSignal] at hOther
    cases hOther
    rw [hResolved hUnnamed] at hStatus
    cases hStatus

/-- Two runs that go on from one state and correlate the same firing signals under one key, each of them at least once
without an error, end with the same count and the same times. -/
theorem Correlating.agree {first second : List Event}
    (hFiring : ∀ key ∈ signals, key.workspaceID = workspaceID ∧
      ∃ signal, ((machine encoding).run events).signals.get? key = some signal ∧ signal.status = .firing)
    (hFirst : Correlating encoding events first workspaceID correlationKey signals)
    (hSecond : Correlating encoding events second workspaceID correlationKey signals) :
    (signals.Nonempty →
      ∃ incident, IncidentUnder ((machine encoding).run (events ++ first)) workspaceID correlationKey incident) ∧
    ∀ incident, IncidentUnder ((machine encoding).run (events ++ first)) workspaceID correlationKey incident →
      ∃ incident', IncidentUnder ((machine encoding).run (events ++ second)) workspaceID correlationKey incident' ∧
        incident'.signalCount = incident.signalCount ∧ incident'.openedAt = incident.openedAt ∧
        incident'.lastSignalAt = incident.lastSignalAt := by
  have hUnder := hFirst.under hFiring
  constructor
  · rintro ⟨key, hKey⟩
    exact ((hUnder key).mpr (.inr hKey)).exists_incident (run_sound _ _) (run_correlated _ _)
  · intro incident hIncident
    refine hIncident.agree (run_sound _ _) (run_correlated _ _) (run_sound _ _) (run_correlated _ _)
      (fun key => (hUnder key).trans (hSecond.under hFiring key).symm) (fun key hKey => ?_)
    obtain ⟨signal, hSignal⟩ : ∃ signal, ((machine encoding).run events).signals.get? key = some signal := by
      rcases (hUnder key).mp hKey with ⟨_, association, hAssociation, _⟩ | hSignals
      · obtain ⟨signal, hSignal, _⟩ := ((run_correlated encoding events).associations key association hAssociation).signal
        exact ⟨signal, hSignal⟩
      · obtain ⟨_, signal, hSignal, _⟩ := hFiring key hSignals
        exact ⟨signal, hSignal⟩
    rw [(run_extends encoding events first).signals.keeps hSignal,
      (run_extends encoding events second).signals.keeps hSignal]

end Tails

end AiopsSystem.Investigations
