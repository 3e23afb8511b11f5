import AiopsSystem.Credential.RepositorySteps
import AiopsSystem.Go.Digest

/-! # The life of a revocation

The protected accessor is present exactly from the anchor to the end of the
revocation, the two terminal statuses are final, and every change of a record
raises its version.
-/

namespace AiopsSystem.Credential

open Go Go.Section MemoryRepository MemoryRevocationRecord

def accessorStatus : RevocationStatus → Bool
  | .anchored | .active | .revocationPending | .revoking | .manualRequired => true
  | .prepared | .revoked | .noCredential => false

def Protecting (input : Call × Environment) : Prop :=
  ∀ context accessor reference, input.2.protector.protect context accessor = some reference →
    reference.ciphertext ≠ []

structure Shaped (record : MemoryRevocationRecord) : Prop where
  present : record.revocation.accessorPresent = accessorStatus record.revocation.status
  ciphertext : record.protectedReference.ciphertext ≠ [] ↔ accessorStatus record.revocation.status = true

namespace Shaped

variable {record record' : MemoryRevocationRecord}

theorem keep (h : Shaped record) (hOld : accessorStatus record.revocation.status)
    (hNew : accessorStatus record'.revocation.status)
    (hPresent : record'.revocation.accessorPresent = record.revocation.accessorPresent)
    (hReference : record'.protectedReference = record.protectedReference) : Shaped record' where
  present := by rw [hPresent, h.present, hOld, hNew]
  ciphertext := by
    rw [hReference, hNew]
    exact ⟨fun _ => rfl, fun _ => h.ciphertext.mpr hOld⟩

theorem bare (hStatus : accessorStatus record.revocation.status = false)
    (hPresent : record.revocation.accessorPresent = false) (hReference : record.protectedReference.ciphertext = []) :
    Shaped record where
  present := by rw [hPresent, hStatus]
  ciphertext := by
    rw [hReference, hStatus]
    exact ⟨fun h => absurd rfl h, fun h => absurd h Bool.false_ne_true⟩

theorem ciphertext_eq_nil (h : Shaped record) (hStatus : accessorStatus record.revocation.status = false) :
    record.protectedReference.ciphertext = [] := by
  by_contra hSome
  rw [h.ciphertext.mp hSome] at hStatus
  cases hStatus

end Shaped

theorem accessorStatus_eq_false_of_terminal {revocation : Revocation} (h : revocation.terminal) :
    accessorStatus revocation.status = false := by
  simp only [Revocation.terminal, Bool.or_eq_true, beq_iff_eq] at h
  rcases h with h | h <;> rw [h] <;> rfl

theorem accessorStatus_of_managed {status : RevocationStatus} (h : status = .anchored ∨ status = .active) :
    accessorStatus status := by
  rcases h with rfl | rfl <;> rfl

variable {record : MemoryRevocationRecord} {now : Int}

theorem accessorStatus_of_claimable
    (h : revocationClaimable now record) : accessorStatus record.revocation.status := by
  simp only [revocationClaimable, decide_eq_true_eq] at h
  rcases h.1 with ⟨hStatus, _⟩ | ⟨hStatus, _⟩ <;> rw [hStatus] <;> rfl

theorem accessorStatus_of_exhaustible
    (h : revocationExhaustible now record) : accessorStatus record.revocation.status := by
  simp only [revocationExhaustible, decide_eq_true_eq] at h
  rcases h.1 with hStatus | ⟨hStatus, _⟩ <;> rw [hStatus] <;> rfl

theorem accessorStatus_of_claim {fence : ClaimFence} {digest : GoString}
    (h : record.matchesMemoryClaim fence digest now) : accessorStatus record.revocation.status := by
  rw [h.1]
  rfl

theorem retrying_cases (record : MemoryRevocationRecord) (now delay : Int) :
    (record.retrying now delay = record.requiringManual now ∨
      record.retrying now delay = { record with revocation := { record.revocation with
        status := .revocationPending
        availableAt := now + delay } }) := by
  unfold MemoryRevocationRecord.retrying
  split
  · exact .inl rfl
  · exact .inr rfl

section Moves

variable {sha256Hex : GoString → GoString} {env : Environment} {call : Call} {id : GoString}
  {record record' : MemoryRevocationRecord}

section

variable (h : Move sha256Hex env call id record record')

include h

theorem Move.open : record.revocation.status = .prepared ∨ accessorStatus record.revocation.status := by
  cases h with
  | authorize _ _ _ _ _ _ hStatus | anchor hStatus | noCredential hStatus => exact .inl hStatus
  | recover hRecoverable =>
    simp only [preparedRecoverable, decide_eq_true_eq] at hRecoverable
    exact .inl hRecoverable.1
  | request _ _ hManaged => exact .inr (accessorStatus_of_managed hManaged)
  | activate hStatus => exact .inr (accessorStatus_of_managed (.inl hStatus))
  | exhaust hExhaustible => exact .inr (accessorStatus_of_exhaustible hExhaustible)
  | claim hClaimable => exact .inr (accessorStatus_of_claimable hClaimable)
  | poison hStatus | requeue hStatus | confirm hStatus | confirmLast hStatus =>
    right
    rw [hStatus]
    rfl
  | heartbeat hClaim | complete hClaim | retry hClaim | manual hClaim => exact .inr (accessorStatus_of_claim hClaim)

theorem Move.shaped (hProtecting : Protecting (call, env)) (hShaped : Shaped record) : Shaped record' := by
  cases h with
  | authorize | heartbeat | confirm => exact ⟨hShaped.present, hShaped.ciphertext⟩
  | anchor _ _ hProtect => exact ⟨rfl, ⟨fun _ => rfl, fun _ => hProtecting _ _ _ hProtect⟩⟩
  | request _ _ hManaged => exact hShaped.keep (accessorStatus_of_managed hManaged) rfl rfl rfl
  | activate hStatus => exact hShaped.keep (accessorStatus_of_managed (.inl hStatus)) rfl rfl rfl
  | noCredential hStatus =>
    have hBare : accessorStatus record.revocation.status = false := by rw [hStatus]; rfl
    exact .bare rfl (hShaped.present.trans hBare) (hShaped.ciphertext_eq_nil hBare)
  | recover hRecoverable =>
    simp only [preparedRecoverable, decide_eq_true_eq] at hRecoverable
    have hBare : accessorStatus record.revocation.status = false := by rw [hRecoverable.1]; rfl
    exact .bare rfl (hShaped.present.trans hBare) hRecoverable.2.1
  | exhaust hExhaustible =>
    refine hShaped.keep (accessorStatus_of_exhaustible hExhaustible) rfl ?_ ?_
    all_goals simp only [exhausted, failing, requiringManual, clearActiveClaim, bump]
  | claim hClaimable => exact hShaped.keep (accessorStatus_of_claimable hClaimable) rfl rfl rfl
  | poison hStatus =>
    refine hShaped.keep (by rw [hStatus]; rfl) rfl ?_ ?_
    all_goals simp only [poisoned, failing, requiringManual, clearActiveClaim, bump]
  | complete | confirmLast => exact .bare rfl rfl rfl
  | retry hClaim =>
    rcases retrying_cases record (env.clock 0) _ with hRetry | hRetry <;> rw [hRetry]
    all_goals refine hShaped.keep (accessorStatus_of_claim hClaim) rfl ?_ ?_
    all_goals simp only [claimFailed, failing, requiringManual, clearActiveClaim, bump]
  | manual hClaim =>
    refine hShaped.keep (accessorStatus_of_claim hClaim) rfl ?_ ?_
    all_goals simp only [claimFailed, failing, requiringManual, clearActiveClaim, bump]
  | requeue hStatus => exact hShaped.keep (by rw [hStatus]; rfl) rfl rfl rfl

theorem Move.version_lt : record.revocation.version < record'.revocation.version := by
  cases h with
  | retry =>
    rcases retrying_cases record (env.clock 0) _ with hRetry | hRetry <;> rw [hRetry]
    all_goals exact Int.lt_succ _
  | _ => exact Int.lt_succ _

theorem Move.managed (hManaged : accessorStatus record.revocation.status) :
    accessorStatus record'.revocation.status ∨ record'.revocation.status = .revoked := by
  have hNotPrepared : record.revocation.status ≠ .prepared := by
    intro hStatus
    rw [hStatus] at hManaged
    cases hManaged
  cases h with
  | authorize _ _ _ _ _ _ hStatus | anchor hStatus | noCredential hStatus => exact absurd hStatus hNotPrepared
  | recover hRecoverable =>
    simp only [preparedRecoverable, decide_eq_true_eq] at hRecoverable
    exact absurd hRecoverable.1 hNotPrepared
  | complete | confirmLast => exact .inr rfl
  | heartbeat | confirm => exact .inl hManaged
  | retry =>
    rcases retrying_cases record (env.clock 0) _ with hRetry | hRetry <;> rw [hRetry]
    all_goals exact .inl rfl
  | _ => exact .inl rfl

end

end Moves

structure Advances (record record' : MemoryRevocationRecord) : Prop where
  final : record.revocation.terminal = true → record' = record
  managed : accessorStatus record.revocation.status = true →
    accessorStatus record'.revocation.status = true ∨ record'.revocation.status = .revoked
  version : record' = record ∨ record.revocation.version < record'.revocation.version

theorem Advances.refl (record : MemoryRevocationRecord) : Advances record record :=
  ⟨fun _ => rfl, .inl, .inl rfl⟩

theorem Advances.trans {first second third : MemoryRevocationRecord} (h : Advances first second)
    (h' : Advances second third) : Advances first third where
  final := by
    intro hFinal
    have hSecond := h.final hFinal
    subst hSecond
    exact h'.final hFinal
  managed := by
    intro hManaged
    rcases h.managed hManaged with hStill | hRevoked
    · exact h'.managed hStill
    · rw [h'.final (by rw [Revocation.terminal, hRevoked]; rfl)]
      exact .inr hRevoked
  version := by
    rcases h.version with rfl | hFirst
    · exact h'.version
    · rcases h'.version with rfl | hSecond
      · exact .inr hFirst
      · exact .inr (hFirst.trans hSecond)

theorem Move.advances {sha256Hex : GoString → GoString} {env : Environment} {call : Call} {id : GoString}
    {record record' : MemoryRevocationRecord} (h : Move sha256Hex env call id record record') :
    Advances record record' where
  final := by
    intro hFinal
    rcases h.open with hStatus | hStatus
    · rw [Revocation.terminal, hStatus] at hFinal
      cases hFinal
    · rw [accessorStatus_eq_false_of_terminal hFinal] at hStatus
      cases hStatus
  managed := h.managed
  version := .inr h.version_lt

theorem shaped_invariant (sha256Hex : GoString → GoString) :
    RecordInvariant sha256Hex Protecting (fun _ record => Shaped record) where
  created := fun _ _ _ _ _ _ => .bare rfl rfl rfl
  move := fun _ _ _ _ _ hProtecting hMove hShaped => hMove.shaped hProtecting hShaped

section Managed

variable {env : Environment} {repository repository' : MemoryRepository}

theorem recoverManagedItem_effect (hConforming : env.Conforming) (repository : MemoryRepository) (n : Nat)
    (id actionID : GoString) :
    Ends (recoverManagedItem env n id actionID) repository (fun reply repository' =>
      match reply with
      | .ok (some transitioned) =>
        ∃ record', repository' = repository.store id record' ∧ record'.revocation = transitioned
      | _ => repository' = repository) := by
  apply Ends.inspecting (fun _ => rfl) (absurd hConforming)
  intro _ _
  apply Ends.get
  split
  · exact rfl
  · split
    · exact rfl
    · apply Ends.attempt (fun _ _ => rfl)
      intro record' _
      apply Ends.modify
      apply Ends.pure
      exact ⟨record', rfl, rfl⟩

def Reported (repository : MemoryRepository) (recovered : List Revocation) (repository' : MemoryRepository) : Prop :=
  ∀ id record record', repository.record? id = some record → repository'.record? id = some record' →
    record' ≠ record → record'.revocation ∈ recovered

theorem recoverManagedItems_reported (hConforming : env.Conforming) {limit n : Nat}
    {entries : List (GoString × MemoryRevocationRecord)} {recovered : List Revocation}
    (h : Reported repository recovered repository') :
    Reported repository (recoverManagedItems env limit n entries recovered repository').1.recovered
      (recoverManagedItems env limit n entries recovered repository').2 := by
  induction entries generalizing n recovered repository' with
  | nil => exact h
  | cons entry rest ih =>
    have hItem := recoverManagedItem_effect hConforming repository' n entry.1 entry.2.revocation.actionID
    unfold Ends at hItem
    rw [recoverManagedItems]
    split
    · exact h
    · split
      · rename_i middle hExec
        rw [hExec] at hItem
        obtain rfl : middle = repository' := hItem
        exact h
      · rename_i middle hExec
        rw [hExec] at hItem
        obtain rfl : middle = repository' := hItem
        exact ih h
      · rename_i transitioned _ hExec
        rw [hExec] at hItem
        obtain ⟨stored, rfl, rfl⟩ := hItem
        refine ih ?_
        intro id record record' hRecord hRecord' hChanged
        rcases GoMap.get?_insert_cases hRecord' with ⟨_, rfl⟩ | ⟨_, hRecord'⟩
        · exact List.mem_append_right _ List.mem_cons_self
        · exact List.mem_append_left _ (h id record record' hRecord hRecord' hChanged)

theorem recoverManaged_reported (hConforming : env.Conforming) (limit : Int) :
    Ends (recoverManaged env limit) repository (fun reply repository' =>
      ∀ recovery, reply = .ok recovery → Reported repository recovery.recovered repository') := by
  unfold recoverManaged
  apply Ends.attempt
  · nofun
  intro _ _
  apply Ends.ensure
  · nofun
  intro _
  apply Ends.get
  intro recovery hReply
  cases hReply
  apply recoverManagedItems_reported hConforming
  intro _ _ _ hRecord hRecord' hChanged
  rw [hRecord] at hRecord'
  cases hRecord'
  exact absurd rfl hChanged

end Managed

namespace MemoryRepository

/-- The accessor is kept exactly while a child credential may exist, the terminal statuses are final, a record that
had an accessor never ends without a credential, and every change raises the version. With a conforming source a call
that fails changes nothing; `RecoverManaged` alone may fail after changes, and then returns every record it changed. -/
theorem revocation_life_cycle (sha256Hex : GoString → GoString) (inputs : List (Call × Environment))
    (hProtecting : ∀ input ∈ inputs, Protecting input) :
    (∀ n id record, ((machine sha256Hex).stateAt inputs n).record? id = some record →
      (record.revocation.accessorPresent = true ↔ accessorStatus record.revocation.status = true) ∧
      (record.protectedReference.ciphertext ≠ [] ↔ accessorStatus record.revocation.status = true)) ∧
    (∀ m n id record, m ≤ n → ((machine sha256Hex).stateAt inputs m).record? id = some record →
      ∃ record', ((machine sha256Hex).stateAt inputs n).record? id = some record' ∧
        (record.revocation.status = .revoked → record'.revocation.status = .revoked) ∧
        (record.revocation.status = .noCredential → record'.revocation.status = .noCredential) ∧
        (accessorStatus record.revocation.status = true → record'.revocation.status ≠ .noCredential)) ∧
    (∀ n input, inputs[n]? = some input →
      (∀ id record record', ((machine sha256Hex).stateAt inputs n).record? id = some record →
        ((machine sha256Hex).stateAt inputs (n + 1)).record? id = some record' → record' ≠ record →
        record.revocation.version < record'.revocation.version) ∧
      (input.2.Conforming → ∀ failure, (((machine sha256Hex).stateAt inputs n).step sha256Hex input).1 = .error failure →
        (machine sha256Hex).stateAt inputs (n + 1) = (machine sha256Hex).stateAt inputs n) ∧
      (input.2.Conforming → ∀ limit recovery, input.1 = .recoverManaged limit →
        (((machine sha256Hex).stateAt inputs n).step sha256Hex input).1 = .ok (.managed recovery) →
        ∀ id record record', ((machine sha256Hex).stateAt inputs n).record? id = some record →
          ((machine sha256Hex).stateAt inputs (n + 1)).record? id = some record' → record' ≠ record →
          record'.revocation ∈ recovery.recovered)) := by
  have hInvariant := shaped_invariant sha256Hex
  refine ⟨?_, ?_, ?_⟩
  · intro n id record hRecord
    have hShaped := hInvariant.stateAt hProtecting n id record hRecord
    exact ⟨by rw [hShaped.present], hShaped.ciphertext⟩
  · intro m n id record hmn hRecord
    obtain ⟨record', hRecord', hAdvances⟩ := hInvariant.related Advances.refl (fun _ _ _ => Advances.trans)
      (fun _ _ _ _ _ _ hMove _ => hMove.advances) hProtecting hmn hRecord
    refine ⟨record', hRecord', ?_, ?_, ?_⟩
    · intro hStatus
      rw [hAdvances.final (by rw [Revocation.terminal, hStatus]; rfl)]
      exact hStatus
    · intro hStatus
      rw [hAdvances.final (by rw [Revocation.terminal, hStatus]; rfl)]
      exact hStatus
    · intro hManaged hNone
      rcases hAdvances.managed hManaged with hStill | hRevoked
      · rw [hNone] at hStill
        cases hStill
      · rw [hNone] at hRevoked
        cases hRevoked
  · rintro n ⟨call, env⟩ hInput
    have hMember := List.mem_of_getElem? hInput
    rw [Machine.stateAt_succ _ hInput]
    refine ⟨?_, ?_, ?_⟩
    · intro id record record' hRecord hRecord' hChanged
      obtain ⟨later, hLater, hAdvances⟩ := hInvariant.step_related Advances.refl (fun _ _ _ => Advances.trans)
        (hProtecting _ hMember) (fun _ _ _ hMove _ => hMove.advances) (hInvariant.stateAt hProtecting n) hRecord
      obtain rfl : record' = later := Option.some.inj (hRecord'.symm.trans hLater)
      exact hAdvances.version.resolve_left hChanged
    · intro hConforming failure hFailure
      rcases step_outcome ((machine sha256Hex).stateAt inputs n) call env with
        hServed | ⟨request, metadata, permitToken, rfl, _, hStep⟩
      · exact hServed.unchanged hConforming failure hFailure
      · rw [hStep] at hFailure
        cases hFailure
    · rintro hConforming limit recovery rfl hRecovery
      have hReported : Ends (Answer.managed <$> recoverManaged env limit) ((machine sha256Hex).stateAt inputs n)
          (fun reply repository' => ∀ recovery, reply = .ok (.managed recovery) →
            Reported ((machine sha256Hex).stateAt inputs n) recovery.recovered repository') := by
        apply ends_map.mpr
        refine Ends.mono (recoverManaged_reported hConforming limit) ?_
        intro reply repository' h recovery hReply
        cases reply with
        | error => cases hReply
        | ok =>
          cases hReply
          exact h recovery rfl
      exact hReported recovery hRecovery

section Sample

def sampleID : GoString := ascii "6f1c2f1e-0b2a-4c3d-8e4f-5a6b7c8d9e0f"

def sampleClock : Int := unixEpoch + 1783000100 * second

def sampleFence : ActionFence where
  actionID := ascii "action-1"
  runnerID := ascii "runner-1"
  token := ascii "lease-token-1"
  epoch := 1

def sampleMetadata : ActionMetadata where
  actionID := ascii "action-1"
  tenantID := ascii "tenant-1"
  workspaceID := ascii "workspace-1"
  environmentID := ascii "staging"
  targetKey := ascii "cluster-1/payments/api"
  production := false
  runnerID := ascii "runner-1"
  leaseEpoch := 1
  status := .running
  leaseExpiresAt := sampleClock + 20 * minute
  authorizationExpiresAt := sampleClock + 20 * minute
  cancelRequestedAt := 0
  runnerEnabled := true
  runnerPool := ascii "WRITE"
  scopeRevision := 1
  runnerScopeRevision := 1
  exactScopeAuthorized := true
  actionType := ascii "kubernetes.restart"
  connectorID := ascii "connector-1"
  permission := ascii "deployments.patch"
  resource := ascii "payments/api"
  credentialTTLSeconds := 600

def sampleDigest : GoString → GoString :=
  digestTable [
    (ascii "lease-token-1", ascii "9c643ab414e95a4ed50d456956689fac158a15060e609ce622c3bf667af0f63a"),
    (ascii "permit-1", ascii "78fe2c1f9acaa46c349434e12d2c99700e8be52ed4bf9064332a8c7bde660e1d"),
    (ascii "claim-token-1", ascii "fe628665630a347f9df9e91070c8ea2295292a6ebe7fe100cd0853bbea07c4ea")]

def sampleEnvironment (clock : Int) : Environment where
  context := .live
  interrupted := false
  clock := fun _ => clock
  resolve := fun _ => some sampleMetadata
  source := some (fun _ _ => {
    inspections := [{ metadata := sampleMetadata, leaseTokenSHA256 := sampleDigest (ascii "lease-token-1") }]
    returned := fun failure => failure })
  protector := {
    protect := fun _ _ => some { ciphertext := ascii "sealed", accessorHMAC := [7], keyID := ascii "key-1" }
    matchesReference := fun _ _ _ => some true
    unprotect := fun _ _ => some (some (ascii "accessor-1")) }
  permit := some (ascii "permit-1")
  token := fun _ => some (ascii "claim-token-1")
  visit := { keys := [sampleID, ascii "oidc:alice", ascii "oidc:bob"], nodup := by decide }

def samplePrepare : PrepareRequest where
  revocationID := sampleID
  fence := sampleFence
  issuer := ascii "vault"
  issuerRevision := ascii "revision-1"
  credentialExpiresAt := sampleClock + 5 * minute

def samplePermit : AuthorizeChildCreateRequest where
  permit := { revocationID := sampleID, token := ascii "permit-1" }
  fence := sampleFence

def sampleClaimFence : ClaimFence where
  revocationID := sampleID
  workerID := ascii "worker-1"
  token := ascii "claim-token-1"
  epoch := 1

def sampleRun : List (Call × Environment) :=
  [(.prepare samplePrepare, sampleEnvironment sampleClock),
    (.authorizeChildCreate samplePermit, sampleEnvironment sampleClock),
    (.recordAnchor { revocationID := sampleID, fence := sampleFence, accessor := some (ascii "accessor-1") },
      sampleEnvironment sampleClock),
    (.requestRevocation { revocationID := sampleID, fence := noActionFence }, sampleEnvironment sampleClock),
    (.claimRevocations { workerID := ascii "worker-1", limit := 10, leaseDuration := 30 * second },
      sampleEnvironment sampleClock),
    (.completeRevocation sampleClaimFence, sampleEnvironment sampleClock)]

def sampleStatusAt (n : Nat) : Option RevocationStatus :=
  (((machine sampleDigest).stateAt sampleRun n).record? sampleID).map (·.revocation.status)

example : (List.range 7).map sampleStatusAt = [none, some .prepared, some .prepared, some .anchored,
    some .revocationPending, some .revoking, some .revoked] := by decide +kernel

/-- The claim is completed once more with a fence of another epoch. -/
def sampleRefusal : Call × Environment :=
  (.completeRevocation { sampleClaimFence with epoch := 2 }, sampleEnvironment sampleClock)

theorem sampleRun_protecting : ∀ input ∈ sampleRun ++ [sampleRefusal], Protecting input := by
  intro input hInput _ _ _ hReference
  simp only [sampleRun, List.cons_append, List.nil_append, List.mem_cons, List.not_mem_nil, or_false] at hInput
  rcases hInput with rfl | rfl | rfl | rfl | rfl | rfl | rfl
  all_goals cases hReference
  all_goals decide

theorem sampleEnvironment_conforming (clock : Int) : (sampleEnvironment clock).Conforming := by
  intro _ hSource _ _
  cases hSource
  exact ⟨Nat.le_refl 1, fun _ _ => rfl⟩

end Sample

theorem revocation_life_cycle_revoked :
    (∀ input ∈ sampleRun ++ [sampleRefusal], Protecting input) ∧
      (∃ record, ((machine sampleDigest).stateAt (sampleRun ++ [sampleRefusal]) 3).record? sampleID = some record ∧
        record.revocation.status = .anchored ∧ record.revocation.accessorPresent = true) ∧
      sampleRefusal.2.Conforming ∧
      (machine sampleDigest).stateAt (sampleRun ++ [sampleRefusal]) 7 =
        (machine sampleDigest).stateAt (sampleRun ++ [sampleRefusal]) 6 := by
  have hStatus : (((machine sampleDigest).stateAt (sampleRun ++ [sampleRefusal]) 3).record? sampleID).map
      (·.revocation.status) = some .anchored := by
    decide +kernel
  obtain ⟨record, hRecord, hAnchored⟩ := Option.map_eq_some_iff.mp hStatus
  obtain ⟨hShape, _, hSteps⟩ := revocation_life_cycle sampleDigest (sampleRun ++ [sampleRefusal]) sampleRun_protecting
  have hConforming := sampleEnvironment_conforming sampleClock
  refine ⟨sampleRun_protecting, ⟨record, hRecord, hAnchored, ?_⟩, hConforming, ?_⟩
  · apply (hShape 3 sampleID record hRecord).1.mpr
    rw [hAnchored]
    rfl
  · have hRefused : (((machine sampleDigest).stateAt (sampleRun ++ [sampleRefusal]) 6).step sampleDigest
        sampleRefusal).1.toBool = false := by
      decide +kernel
    cases hReply : (((machine sampleDigest).stateAt (sampleRun ++ [sampleRefusal]) 6).step sampleDigest
        sampleRefusal).1 with
    | ok =>
      rw [hReply] at hRefused
      cases hRefused
    | error failure => exact (hSteps 6 sampleRefusal rfl).2.1 hConforming failure hReply

end MemoryRepository

end AiopsSystem.Credential
