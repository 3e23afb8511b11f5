import AiopsSystem.Credential.RepositoryMoves

/-! # What each operation of the repository does

One lemma for each operation, proved by following its statements: every guard
that fails leaves the repository as it was, and what is stored at the end is a
path of moves.
-/

namespace AiopsSystem.Credential

open Go Go.Section Served List

section Sections

variable {sha256Hex : GoString → GoString} {env : Environment} {call : Call} {α : Type}
  {repository : MemoryRepository}

variable {n : Nat}

variable {operation : ActionInspection → Locked α} {actionID : GoString} {id : GoString} {limit : Nat}
  {items : List MemoryPreparedClaim} {fence : ClaimFence}

/-- A source that does not conform may turn any reply into an error, whatever was written before. -/
theorem Ends.inspecting {Q : Except CredentialError α → MemoryRepository → Prop}
    (hError : ∀ failure, Q (.error failure) repository)
    (hLost : ¬ env.Conforming → ∀ reply state failure, Q reply state → Q (.error failure) state)
    (h : ∀ inspection, env.Inspected n actionID inspection → Ends (operation inspection) repository Q) :
    Ends (withLockedActionInspection env n actionID operation) repository Q := by
  unfold withLockedActionInspection
  cases hSource : env.source with
  | none => exact hError _
  | some source =>
    dsimp only
    cases hInspections : (source n actionID).inspections with
    | nil =>
      dsimp only
      split
      · exact hError _
      · split <;> exact hError _
    | cons inspection again =>
      have hOperation := h inspection ⟨source, hSource, by rw [hInspections]; rfl⟩
      have hOnce : env.Conforming → again = [] ∧ (source n actionID).returned none = none := by
        intro hConforming
        obtain ⟨hLength, hReturned⟩ := hConforming source hSource n actionID
        rw [hInspections, length_cons] at hLength
        exact ⟨eq_nil_of_length_eq_zero (by omega), hReturned (by rw [hInspections]; exact cons_ne_nil _ _) none⟩
      unfold Ends at hOperation ⊢
      rcases hExec : (operation inspection).exec repository with ⟨reply, _⟩
      rw [hExec] at hOperation
      rw [exec]
      simp only [hExec]
      cases reply with
      | error =>
        dsimp only
        split
        · exact hOperation
        · rename_i hAgain
          exact hLost (fun hConforming => hAgain (hOnce hConforming).1) _ _ _ hOperation
      | ok =>
        dsimp only
        split
        · rename_i hAgain
          exact hLost (fun hConforming => hAgain (hOnce hConforming).1) _ _ _ hOperation
        · split
          · exact hOperation
          · rename_i hFailure
            refine hLost (fun hConforming => ?_) _ _ _ hOperation
            cases (hOnce hConforming).2.symm.trans hFailure

theorem Served.inspecting (h : ∀ inspection, env.Inspected n actionID inspection →
      Ends (operation inspection) repository (Served sha256Hex env call repository)) :
    Ends (withLockedActionInspection env n actionID operation) repository (Served sha256Hex env call repository) :=
  Ends.inspecting (fun _ => .same)
    (fun hNot _ _ _ hServed => ⟨hServed.moved, fun hConforming => absurd hConforming hNot⟩) h

theorem Served.entered {valid : Prop} [Decidable valid] {failure : CredentialError} {next : Unit → Locked α}
    (h : Ends (next ()) repository (Served sha256Hex env call repository)) :
    Ends (attempt (contextError env) >>= fun _ => ensure valid failure >>= next) repository
      (Served sha256Hex env call repository) := by
  apply Ends.attempt fun _ _ => .same
  intro _ _
  exact .ensure .same fun _ => h

theorem authorizeChildCreate_served (request : AuthorizeChildCreateRequest) :
    Ends (authorizeChildCreate sha256Hex env request) repository
      (Served sha256Hex env (.authorizeChildCreate request) repository) := by
  unfold authorizeChildCreate
  apply entered
  apply inspecting
  intro _ hInspected
  apply Ends.get
  apply Ends.found .same
  intro _ hRecord
  apply Ends.ensure .same
  rintro ⟨hFence, hScope, hBound, hCurrent⟩
  apply Ends.ensure .same
  intro _
  apply Ends.ensure .same
  intro hPermit
  apply Ends.ensure .same
  rintro ⟨hStatus, _⟩
  apply Ends.ensure .same
  intro hFirst
  apply Ends.ensure .same
  intro hMinimum
  apply Ends.modify
  apply Ends.pure
  exact .stored hRecord (.single (.authorize hInspected hFence hScope hBound hCurrent hPermit hStatus hFirst rfl hMinimum))

variable {record : MemoryRevocationRecord}

theorem applyRequestRevocation_path {record' : MemoryRevocationRecord}
    (hCall : call.mayRequest) (h : record.applyRequestRevocation (env.clock n) = .ok record') :
    Path sha256Hex env call id record record' := by
  unfold MemoryRevocationRecord.applyRequestRevocation at h
  split at h
  · rename_i hStatus
    cases h
    exact .single (.request n hCall (.inl hStatus))
  · rename_i hStatus
    cases h
    exact .single (.request n hCall (.inr hStatus))
  all_goals cases h
  all_goals exact .refl

variable {repository' : MemoryRepository}

theorem requestUnless_served {current : Prop} [Decidable current] (hCall : call.mayRequest)
    (hMoved : Moved sha256Hex env call repository repository') (hRecord : repository'.record? id = some record)
    (hAccepts : repository' = repository ∨ record.revocation.status = .anchored ∨ record.revocation.status = .active) :
    Ends (requestUnless current id record (env.clock n)) repository' (Served sha256Hex env call repository) := by
  unfold requestUnless
  split
  · exact .ok hMoved
  · apply Ends.attempt
    · intro _ hFailure
      rcases hAccepts with rfl | hStatus | hStatus
      · exact .same
      all_goals
        rw [MemoryRevocationRecord.applyRequestRevocation, hStatus] at hFailure
        cases hFailure
    · intro _ hApplied
      apply Ends.modify
      apply Ends.pure
      exact .ok (hMoved.trans (.store hRecord (applyRequestRevocation_path hCall hApplied)))

theorem recordAnchor_served (request : RecordAnchorRequest) :
    Ends (recordAnchor sha256Hex env request) repository (Served sha256Hex env (.recordAnchor request) repository) := by
  unfold recordAnchor
  apply entered
  apply inspecting
  intro inspection _
  apply Ends.get
  apply Ends.found .same
  intro record hRecord
  apply Ends.ensure .same
  intro _
  apply Ends.ensure .same
  intro hAuthorized
  split
  · apply Ends.ensure .same
    intro _
    apply Ends.found .same
    intro matching _
    apply Ends.ensure .same
    intro _
    exact requestUnless_served rfl .refl hRecord (.inl rfl)
  · rename_i hStatus
    apply Ends.found .same
    intro reference hProtect
    apply Ends.modify
    refine requestUnless_served rfl (.store hRecord (.single (.anchor (not_not.mp hStatus) hAuthorized hProtect))) ?_
      (.inr (.inl rfl))
    rw [MemoryRepository.record?_store, if_pos rfl]

theorem activate_served (request : ActionTransitionRequest) :
    Ends (activate sha256Hex env request) repository (Served sha256Hex env (.activate request) repository) := by
  unfold activate
  apply entered
  apply inspecting
  intro inspection _
  apply Ends.get
  apply Ends.found .same
  intro record hRecord
  apply Ends.ensure .same
  intro _
  split
  · rename_i hStatus
    split
    · apply Ends.modify
      refine requestUnless_served rfl (.store hRecord (.single (.activate hStatus))) ?_ (.inr (.inr rfl))
      rw [MemoryRepository.record?_store, if_pos rfl]
    · exact requestUnless_served rfl .refl hRecord (.inl rfl)
  · exact requestUnless_served rfl .refl hRecord (.inl rfl)
  all_goals exact .same

theorem actionTransition_served {request : ActionTransitionRequest}
    {transition : MemoryRevocationRecord → Int → Except CredentialError MemoryRevocationRecord}
    (h : ∀ record record', transition record (env.clock 0) = .ok record' →
      Path sha256Hex env call request.revocationID record record') :
    Ends (actionTransition sha256Hex env request transition) repository (Served sha256Hex env call repository) := by
  unfold actionTransition
  apply entered
  apply Ends.attempt fun _ _ => .same
  intro _ _
  apply Ends.get
  apply Ends.found .same
  intro record hRecord
  apply Ends.ensure .same
  intro _
  apply Ends.attempt fun _ _ => .same
  intro record' hTransition
  apply Ends.modify
  apply Ends.pure
  exact .stored hRecord (h record record' hTransition)

theorem recordNoCredential_served (request : ActionTransitionRequest) :
    Ends (recordNoCredential sha256Hex env request) repository
      (Served sha256Hex env (.recordNoCredential request) repository) := by
  apply actionTransition_served
  intro record record' hTransition
  unfold noCredentialTransition at hTransition
  split at hTransition
  · rename_i hStatus
    simp only [bind_eq_ok, require_eq_ok] at hTransition
    obtain ⟨_, hNone, hRecord'⟩ := hTransition
    cases hRecord'
    exact .single (.noCredential hStatus hNone)
  · cases hTransition
    exact .refl
  · cases hTransition

theorem requestRevocation_served (request : ActionTransitionRequest) :
    Ends (requestRevocation sha256Hex env request) repository
      (Served sha256Hex env (.requestRevocation request) repository) := by
  unfold requestRevocation
  split
  · apply entered
    apply Ends.get
    apply Ends.found .same
    intro _ hRecord
    apply Ends.attempt fun _ _ => .same
    intro _ hApplied
    apply Ends.modify
    apply Ends.pure
    exact .stored hRecord (applyRequestRevocation_path rfl hApplied)
  · exact actionTransition_served fun _ _ hApplied => applyRequestRevocation_path rfl hApplied

theorem candidates_present {test : MemoryRevocationRecord → Bool}
    {less : MemoryRevocationRecord → MemoryRevocationRecord → Bool}
    {entry : GoString × MemoryRevocationRecord} (h : entry ∈ (candidates env repository test less).take limit) :
    repository.record? entry.1 = some entry.2 ∧ test entry.2 := by
  have hSorted := GoMap.mem_sortSlice.mp (mem_of_mem_take h)
  obtain ⟨hRanged, hTest⟩ := mem_filter.mp hSorted
  exact ⟨GoMap.get?_of_mem_ranged hRanged, hTest⟩

theorem candidates_nodup (env : Environment) (repository : MemoryRepository) (test : MemoryRevocationRecord → Bool)
    (less : MemoryRevocationRecord → MemoryRevocationRecord → Bool) (limit : Nat) :
    (((candidates env repository test less).take limit).map Prod.fst).Nodup := by
  have hRanged : ((repository.records.ranged env.visit).map Prod.fst).Nodup := GoMap.ranged_nodup _ _
  have hFiltered : (((repository.records.ranged env.visit).filter (fun entry => test entry.2)).map Prod.fst).Nodup :=
    hRanged.sublist (filter_sublist.map Prod.fst)
  have hSorted := ((GoMap.perm_sortSlice (fun left right => less left.2 right.2) _).map Prod.fst).nodup_iff.mpr hFiltered
  exact hSorted.sublist ((take_sublist _ _).map _)

variable {entries : List (GoString × MemoryRevocationRecord)}

theorem changeAll_moved {change : MemoryRevocationRecord → MemoryRevocationRecord}
    (hMoved : Moved sha256Hex env call repository repository') (hNodup : (entries.map Prod.fst).Nodup)
    (hPresent : ∀ entry ∈ entries, repository'.record? entry.1 = some entry.2)
    (hMove : ∀ entry ∈ entries, Move sha256Hex env call entry.1 entry.2 (change entry.2)) :
    Ends (changeAll change entries) repository' (Served sha256Hex env call repository) := by
  induction entries generalizing repository' with
  | nil => exact .ok hMoved
  | cons entry _ ih =>
    obtain ⟨hFresh, hRest⟩ := nodup_cons.mp hNodup
    apply Ends.modify
    apply Ends.bind
    refine .mono (ih (hMoved.trans (.store (hPresent entry mem_cons_self)
      (.single (hMove entry mem_cons_self)))) hRest ?_ ?_) ?_
    · intro other hOther
      rw [MemoryRepository.record?_store, if_neg]
      · exact hPresent other (mem_cons_of_mem _ hOther)
      · intro hSame
        exact hFresh (mem_map.mpr ⟨other, hOther, hSame⟩)
    · intro other hOther
      exact hMove other (mem_cons_of_mem _ hOther)
    · intro reply _ hServed
      cases reply with
      | error failure => exact ⟨hServed.moved, fun hConforming _ _ => hServed.unchanged hConforming failure rfl⟩
      | ok => exact .ok hServed.moved

theorem recoverPrepared_served (limit : Int) :
    Ends (recoverPrepared env limit) repository (Served sha256Hex env (.recoverPrepared limit) repository) := by
  unfold recoverPrepared
  apply entered
  apply Ends.get
  apply changeAll_moved .refl (candidates_nodup _ _ _ _ _)
  · intro entry hEntry
    exact (candidates_present hEntry).1
  · intro entry hEntry
    exact .recover (candidates_present hEntry).2

theorem recoverExhausted_served (limit : Int) :
    Ends (recoverExhausted sha256Hex env limit) repository
      (Served sha256Hex env (.recoverExhausted limit) repository) := by
  unfold recoverExhausted
  apply entered
  apply Ends.get
  apply changeAll_moved .refl (candidates_nodup _ _ _ _ _)
  · intro entry hEntry
    exact (candidates_present hEntry).1
  · intro entry hEntry
    exact .exhaust (candidates_present hEntry).2

theorem recoverManagedItem_served (hCall : call.mayRequest) (n : Nat) (id actionID : GoString) :
    Ends (recoverManagedItem env n id actionID) repository (Served sha256Hex env call repository) := by
  apply inspecting
  intro inspection _
  apply Ends.get
  split
  · exact .same
  · rename_i record hRecord
    split
    · exact .same
    · apply Ends.attempt (fun _ _ => .same)
      intro record' hApplied
      apply Ends.modify
      apply Ends.pure
      exact .stored hRecord (applyRequestRevocation_path hCall hApplied)

theorem recoverManagedItems_moved {recovered : List Revocation} (hCall : call.mayRequest)
    (hMoved : Moved sha256Hex env call repository repository') :
    Moved sha256Hex env call repository (recoverManagedItems env limit n entries recovered repository').2 := by
  induction entries generalizing n recovered repository' with
  | nil => exact hMoved
  | cons entry rest ih =>
    have hItem : Served sha256Hex env call repository' _ _ :=
      recoverManagedItem_served hCall n entry.1 entry.2.revocation.actionID
    rw [recoverManagedItems]
    split
    · exact hMoved
    · split
      · rename_i hExec
        rw [hExec] at hItem
        exact hMoved.trans hItem.moved
      · rename_i hExec
        rw [hExec] at hItem
        exact ih (hMoved.trans hItem.moved)
      · rename_i hExec
        rw [hExec] at hItem
        exact ih (hMoved.trans hItem.moved)

theorem recoverManaged_served (limit : Int) :
    Ends (recoverManaged env limit) repository (Served sha256Hex env (.recoverManaged limit) repository) := by
  unfold recoverManaged
  apply entered
  apply Ends.get
  exact .ok (recoverManagedItems_moved rfl .refl)

theorem prepareClaims_entries (h : prepareClaims env n entries = .ok items) :
    items.map (fun item => (item.id, item.record)) = entries := by
  induction entries generalizing n items with
  | nil =>
    cases h
    rfl
  | cons _ _ ih =>
    rw [prepareClaims] at h
    simp only [bind_eq_ok, require_eq_ok, orFail_eq_ok] at h
    obtain ⟨_, _, _, _, _, _, _, hClaims, hItems⟩ := h
    cases hItems
    rw [map_cons, ih hClaims]

theorem issueClaims_moved {request : ClaimRevocationsRequest}
    (hMoved : Moved sha256Hex env (.claimRevocations request) repository repository')
    (hNodup : (items.map (·.id)).Nodup) (hPresent : ∀ item ∈ items, repository'.record? item.id = some item.record)
    (hClaimable : ∀ item ∈ items, revocationClaimable (env.clock 0) item.record) :
    Ends (issueClaims sha256Hex request (env.clock 0) items) repository'
      (Served sha256Hex env (.claimRevocations request) repository) := by
  induction items generalizing repository' with
  | nil => exact .ok hMoved
  | cons item rest ih =>
    obtain ⟨hFresh, hRest⟩ := nodup_cons.mp hNodup
    have hRecord := hPresent item mem_cons_self
    have hClaim : Move sha256Hex env (.claimRevocations request) item.id item.record
        (item.record.claimed sha256Hex request.workerID item.token (env.clock 0) request.leaseDuration) :=
      .claim (hClaimable item mem_cons_self)
    have hStill : ∀ record, ∀ other ∈ rest, (repository'.store item.id record).record? other.id = some other.record := by
      intro record other hOther
      rw [MemoryRepository.record?_store, if_neg]
      · exact hPresent other (mem_cons_of_mem _ hOther)
      · intro hSame
        exact hFresh (mem_map.mpr ⟨other, hOther, hSame⟩)
    have hOthers : ∀ other ∈ rest, revocationClaimable (env.clock 0) other.record :=
      fun other hOther => hClaimable other (mem_cons_of_mem _ hOther)
    rw [issueClaims]
    split
    · apply Ends.modify
      exact ih (hMoved.trans (.store hRecord (.tail (.single hClaim) (.poison rfl)))) hRest (hStill _) hOthers
    · apply Ends.modify
      apply Ends.bind
      refine .mono (ih (hMoved.trans (.store hRecord (.single hClaim))) hRest (hStill _) hOthers) ?_
      intro reply _ hServed
      cases reply with
      | error failure => exact ⟨hServed.moved, fun hConforming _ _ => hServed.unchanged hConforming failure rfl⟩
      | ok => exact .ok hServed.moved

theorem claimRevocations_served (request : ClaimRevocationsRequest) :
    Ends (claimRevocations sha256Hex env request) repository
      (Served sha256Hex env (.claimRevocations request) repository) := by
  unfold claimRevocations
  apply entered
  apply Ends.get
  apply Ends.attempt fun _ _ => .same
  intro items hItems
  have hEntries := prepareClaims_entries hItems
  have hEntry : ∀ item ∈ items, (item.id, item.record) ∈ (candidates env repository
      (revocationClaimable (env.clock 0)) claimOrder).take request.limit.toNat := by
    intro item hItem
    rw [← hEntries]
    exact mem_map_of_mem hItem
  apply issueClaims_moved .refl
  · have hNodup := candidates_nodup env repository (revocationClaimable (env.clock 0)) claimOrder request.limit.toNat
    rwa [← hEntries, map_map] at hNodup
  · intro item hItem
    exact (candidates_present (hEntry item hItem)).1
  · intro item hItem
    exact (candidates_present (hEntry item hItem)).2

theorem Ends.claimRecord {β : Type} {now : Int} {next : MemoryRevocationRecord → Locked β}
    {Q : Except CredentialError β → MemoryRepository → Prop} (hError : ∀ failure, Q (.error failure) repository)
    (h : ∀ record, repository.record? fence.revocationID = some record →
      record.matchesMemoryClaim fence (sha256Hex fence.token) now → Ends (next record) repository Q) :
    Ends (claimRecord sha256Hex fence now >>= next) repository Q := by
  apply Ends.bind
  unfold Credential.claimRecord
  apply Ends.get
  apply Ends.found
  · exact hError _
  · intro record hRecord
    apply Ends.ensure
    · exact hError _
    · intro hClaim
      exact h record hRecord hClaim

theorem heartbeat_served (request : HeartbeatRequest) :
    Ends (heartbeat sha256Hex env request) repository (Served sha256Hex env (.heartbeat request) repository) := by
  unfold heartbeat
  apply entered
  apply Ends.claimRecord fun _ => .same
  intro _ hRecord hClaim
  apply Ends.modify
  apply Ends.pure
  exact .stored hRecord (.single (.heartbeat hClaim))

theorem completeRevocation_served (fence : ClaimFence) :
    Ends (completeRevocation sha256Hex env fence) repository
      (Served sha256Hex env (.completeRevocation fence) repository) := by
  unfold completeRevocation
  apply entered
  apply Ends.get
  apply Ends.found .same
  intro _ hRecord
  split
  · apply Ends.ensure .same
    intro _
    exact .same
  · apply Ends.ensure .same
    intro hClaim
    apply Ends.modify
    apply Ends.pure
    exact .stored hRecord (.single (.complete hClaim))

theorem failClaim_served {code : FailureCode} {detail : GoString}
    {transition : MemoryRevocationRecord → Int → MemoryRevocationRecord}
    (h : ∀ record, record.matchesMemoryClaim fence (sha256Hex fence.token) (env.clock 0) →
      Move sha256Hex env call fence.revocationID record
        ((transition record (env.clock 0)).claimFailed sha256Hex code detail (env.clock 0))) :
    Ends (failClaim sha256Hex env fence code detail transition) repository (Served sha256Hex env call repository) := by
  unfold failClaim
  apply entered
  apply Ends.claimRecord fun _ => .same
  intro record hRecord hClaim
  apply Ends.modify
  apply Ends.pure
  exact .stored hRecord (.single (h record hClaim))

theorem retryRevocation_served (request : RetryRevocationRequest) :
    Ends (retryRevocation sha256Hex env request) repository
      (Served sha256Hex env (.retryRevocation request) repository) := by
  unfold retryRevocation
  apply Ends.ensure .same
  intro _
  exact failClaim_served fun _ hClaim => .retry hClaim

theorem requireManual_served (request : RequireManualRequest) :
    Ends (requireManual sha256Hex env request) repository
      (Served sha256Hex env (.requireManual request) repository) := by
  unfold requireManual
  apply Ends.ensure .same
  intro _
  exact failClaim_served fun _ hClaim => .manual hClaim

theorem requeueManual_served (request : RequeueManualRequest) :
    Ends (requeueManual env request) repository (Served sha256Hex env (.requeueManual request) repository) := by
  unfold requeueManual
  apply entered
  apply Ends.get
  apply Ends.found .same
  intro _ hRecord
  split
  · exact .same
  · apply Ends.ensure .same
    rintro ⟨hStatus, hEvidence, hConfirmations⟩
    apply Ends.modify
    apply Ends.pure
    exact .stored hRecord (.single (.requeue hStatus hEvidence hConfirmations))

/-- The guard before a confirmation is stored already implies what the branch after it tests again. -/
theorem confirmed_hasPlatformAdmin {request : ExternalConfirmationRequest} {now : Int}
    (hNew : record.confirmations.get? request.subject = none)
    (hGuard : record.confirmations.size < 1 ∨ request.platformAdmin ∨ hasPlatformAdmin record.confirmations)
    (hSize : 2 ≤ (record.confirmed request now).confirmations.size) :
    hasPlatformAdmin (record.confirmed request now).confirmations := by
  have hInsert : ∀ subject, (record.confirmed request now).confirmations.get? subject = _ :=
    fun subject => GoMap.get?_insert record.confirmations request.subject subject _
  rw [hasPlatformAdmin, GoMap.anyEntry_iff]
  rcases hGuard with hEmpty | hAdmin | hAdmin
  · have hGrown : (record.confirmed request now).confirmations.size = record.confirmations.size + 1 :=
      GoMap.size_insert_of_none hNew _
    omega
  · exact ⟨request.subject, _, (hInsert request.subject).trans (if_pos rfl), hAdmin⟩
  · rw [hasPlatformAdmin, GoMap.anyEntry_iff] at hAdmin
    obtain ⟨subject, confirmation, hSubject, hFlag⟩ := hAdmin
    refine ⟨subject, confirmation, ?_, hFlag⟩
    rw [hInsert, if_neg]
    · exact hSubject
    · rintro rfl
      rw [hNew] at hSubject
      cases hSubject

def Fresh (request : ExternalConfirmationRequest) (record : MemoryRevocationRecord) : Prop :=
  record.revocation.status = .manualRequired ∧ record.confirmations.get? request.subject = none

theorem submitExternalConfirmation_outcome (sha256Hex : GoString → GoString) (request : ExternalConfirmationRequest) :
    Ends (submitExternalConfirmation env request) repository (fun reply repository' =>
      (repository' = repository ∧ ∀ result, reply = .ok result →
        ∀ record, repository.record? request.revocationID = some record → ¬ Fresh request record) ∨
      ∃ record record' result, repository.record? request.revocationID = some record ∧ reply = .ok result ∧
        Fresh request record ∧ repository' = repository.store request.revocationID record' ∧
        Move sha256Hex env (.submitExternalConfirmation request) request.revocationID record record') := by
  have hFailed : ∀ failure : CredentialError, ∀ result : ConfirmationResult,
      (.error failure : Except CredentialError ConfirmationResult) = .ok result →
      ∀ record, repository.record? request.revocationID = some record → ¬ Fresh request record := by
    intro _ _ h
    cases h
  unfold submitExternalConfirmation submitExternalConfirmationAround
  apply Ends.attempt fun failure _ => .inl ⟨rfl, hFailed failure⟩
  intro _ _
  apply Ends.ensure (.inl ⟨rfl, hFailed _⟩)
  rintro ⟨_, _, hHash⟩
  apply Ends.get
  apply Ends.found (.inl ⟨rfl, hFailed _⟩)
  intro record hRecord
  apply Ends.ensure (.inl ⟨rfl, hFailed _⟩)
  intro hStatus
  apply Ends.ensure (.inl ⟨rfl, hFailed _⟩)
  intro hEvidence
  split
  · rename_i existing hExisting
    apply Ends.ensure (.inl ⟨rfl, hFailed _⟩)
    intro _
    refine .inl ⟨rfl, ?_⟩
    rintro _ _ found hFound ⟨_, hNew⟩
    obtain rfl : record = found := Option.some.inj (hRecord.symm.trans hFound)
    rw [hExisting] at hNew
    cases hNew
  · rename_i hNew
    apply Ends.ensure (.inl ⟨rfl, hFailed _⟩)
    intro hOpen
    have hManual : record.revocation.status = .manualRequired := hStatus.resolve_right hOpen
    apply Ends.ensure (.inl ⟨rfl, hFailed _⟩)
    intro hGuard
    apply Ends.modify
    split
    · rename_i hSize
      have hAdmin := confirmed_hasPlatformAdmin hNew hGuard hSize
      rw [if_neg (by rw [hAdmin]; exact Bool.true_eq_false.mp)]
      apply Ends.modify
      apply Ends.pure
      rw [MemoryRepository.store_store]
      exact .inr ⟨record, _, _, hRecord, rfl, ⟨hManual, hNew⟩, rfl,
        .confirmLast hManual hHash hEvidence hNew hSize hAdmin⟩
    · rename_i hSize
      apply Ends.pure
      exact .inr ⟨record, _, _, hRecord, rfl, ⟨hManual, hNew⟩, rfl,
        .confirm hManual hHash hEvidence hNew (not_le.mp hSize)⟩

theorem submitExternalConfirmation_served (request : ExternalConfirmationRequest) :
    Ends (submitExternalConfirmation env request) repository
      (Served sha256Hex env (.submitExternalConfirmation request) repository) := by
  refine .mono (submitExternalConfirmation_outcome sha256Hex request) ?_
  rintro reply repository' (⟨rfl, _⟩ | ⟨record, record', result, hRecord, rfl, _, rfl, hMove⟩)
  · exact .same
  · exact .stored hRecord (.single hMove)

theorem get_served (id : GoString) :
    Ends (Credential.get env id) repository (Served sha256Hex env (.get id) repository) := by
  unfold Credential.get
  apply entered
  apply Ends.get
  apply Ends.found .same
  intro _ _
  exact .same

theorem list_served (filter : ListFilter) :
    Ends (Credential.list env filter) repository (Served sha256Hex env (.list filter) repository) := by
  unfold Credential.list
  apply entered
  exact .same

end Sections

end AiopsSystem.Credential
