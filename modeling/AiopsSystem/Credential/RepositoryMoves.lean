import AiopsSystem.Credential.RepositoryMachine
import Mathlib.Data.List.Nodup
import Mathlib.Logic.Relation

/-! # What one section does to the records

`Move` lists every change of one record with the guards it passed. A section
moves each record along a path of such changes, most often of length one, and
only `Prepare` creates a record; a section that fails changes nothing as long
as the action source keeps its contract.
-/

namespace AiopsSystem.Credential

open Go Go.Section

/-- The contract of an atomic action source: it invokes the callback at most once and returns its error. -/
def Environment.Conforming (env : Environment) : Prop :=
  ∀ source, env.source = some source → ∀ n actionID, (source n actionID).inspections.length ≤ 1 ∧
    ((source n actionID).inspections ≠ [] → ∀ failure, (source n actionID).returned failure = failure)

/-- The atomic source handed this inspection to the first call of the callback. -/
def Environment.Inspected (env : Environment) (n : Nat) (actionID : GoString) (inspection : ActionInspection) : Prop :=
  ∃ source, env.source = some source ∧ (source n actionID).inspections.head? = some inspection

def Call.mayRequest : Call → Bool
  | .recordAnchor _ | .activate _ | .recoverManaged _ | .recoverManagedItem _ _ | .requestRevocation _ => true
  | _ => false

inductive Move (sha256Hex : GoString → GoString) (env : Environment) :
    Call → GoString → MemoryRevocationRecord → MemoryRevocationRecord → Prop
  | authorize {request record inspection ttl}
      (hInspected : env.Inspected 0 request.fence.actionID inspection)
      (hFence : record.frozenActionFenceMatches sha256Hex request.fence)
      (hScope : inspectionScopeMatches record.revocation inspection.metadata)
      (hBound : record.revocation.credentialExpiresAt ≤ inspection.metadata.authorizationExpiresAt)
      (hCurrent : record.inspectionFenceCurrent inspection (env.clock 0) 0)
      (hPermit : record.childCreatePermitSHA256 = sha256Hex request.permit.token)
      (hStatus : record.revocation.status = .prepared) (hFirst : record.childCreateAuthorizedAt = 0)
      (hTTL : ttl = (timeSub record.revocation.credentialExpiresAt (env.clock 0) -
        childCreateExpiryReserve).tdiv vaultTTLQuantum * vaultTTLQuantum)
      (hMinimum : minChildCreateTTL ≤ ttl) :
      Move sha256Hex env (.authorizeChildCreate request) request.permit.revocationID record
        (record.childCreateAuthorized (env.clock 0) ttl)
  | anchor {request record reference} (hStatus : record.revocation.status = .prepared)
      (hAuthorized : record.childCreateAuthorizedAt ≠ 0)
      (hProtect : env.protector.protect (referenceContext record.revocation) request.accessor = some reference) :
      Move sha256Hex env (.recordAnchor request) request.revocationID record
        (record.anchored reference (env.clock 1))
  | request {call id record} (n : Nat) (hCall : call.mayRequest = true)
      (hManaged : record.revocation.status = .anchored ∨ record.revocation.status = .active) :
      Move sha256Hex env call id record (record.revocationRequested (env.clock n))
  | activate {request record} (hStatus : record.revocation.status = .anchored) :
      Move sha256Hex env (.activate request) request.revocationID record (record.activated (env.clock 0))
  | noCredential {request record} (hStatus : record.revocation.status = .prepared)
      (hNone : record.childCreateAuthorizedAt = 0) :
      Move sha256Hex env (.recordNoCredential request) request.revocationID record
        (record.withoutCredential (env.clock 0))
  | recover {limit id record} (hRecoverable : preparedRecoverable (env.clock 0) record = true) :
      Move sha256Hex env (.recoverPrepared limit) id record (record.withoutCredential (env.clock 0))
  | exhaust {limit id record} (hExhaustible : revocationExhaustible (env.clock 0) record = true) :
      Move sha256Hex env (.recoverExhausted limit) id record (record.exhausted sha256Hex (env.clock 0))
  | claim {request id record token} (hClaimable : revocationClaimable (env.clock 0) record = true) :
      Move sha256Hex env (.claimRevocations request) id record
        (record.claimed sha256Hex request.workerID token (env.clock 0) request.leaseDuration)
  | poison {request id record} (hStatus : record.revocation.status = .revoking) :
      Move sha256Hex env (.claimRevocations request) id record (record.poisoned sha256Hex (env.clock 0))
  | heartbeat {request record}
      (hClaim : record.matchesMemoryClaim request.fence (sha256Hex request.fence.token) (env.clock 0)) :
      Move sha256Hex env (.heartbeat request) request.fence.revocationID record
        (record.beaten (env.clock 0) request.extension)
  | complete {fence record}
      (hClaim : record.matchesMemoryClaim fence (sha256Hex fence.token) (env.clock 0)) :
      Move sha256Hex env (.completeRevocation fence) fence.revocationID record
        (record.completed fence (sha256Hex fence.token) (env.clock 0))
  | retry {request record}
      (hClaim : record.matchesMemoryClaim request.fence (sha256Hex request.fence.token) (env.clock 0)) :
      Move sha256Hex env (.retryRevocation request) request.fence.revocationID record
        ((record.retrying (env.clock 0) request.delay).claimFailed sha256Hex request.failureCode
          request.failureDetail (env.clock 0))
  | manual {request record}
      (hClaim : record.matchesMemoryClaim request.fence (sha256Hex request.fence.token) (env.clock 0)) :
      Move sha256Hex env (.requireManual request) request.fence.revocationID record
        ((record.requiringManual (env.clock 0)).claimFailed sha256Hex request.failureCode
          request.failureDetail (env.clock 0))
  | requeue {request record} (hStatus : record.revocation.status = .manualRequired)
      (hEvidence : record.revocation.evidenceHash = []) (hConfirmations : record.confirmations.size = 0) :
      Move sha256Hex env (.requeueManual request) request.revocationID record (record.requeued (env.clock 0))
  | confirm {request record} (hStatus : record.revocation.status = .manualRequired)
      (hHash : validSHA256 request.evidenceHash = true)
      (hEvidence : record.revocation.evidenceHash = [] ∨ record.revocation.evidenceHash = request.evidenceHash)
      (hNew : record.confirmations.get? request.subject = none)
      (hSize : (record.confirmed request (env.clock 0)).confirmations.size < 2) :
      Move sha256Hex env (.submitExternalConfirmation request) request.revocationID record
        (record.confirmed request (env.clock 0))
  | confirmLast {request record} (hStatus : record.revocation.status = .manualRequired)
      (hHash : validSHA256 request.evidenceHash = true)
      (hEvidence : record.revocation.evidenceHash = [] ∨ record.revocation.evidenceHash = request.evidenceHash)
      (hNew : record.confirmations.get? request.subject = none)
      (hSize : 2 ≤ (record.confirmed request (env.clock 0)).confirmations.size)
      (hAdmin : hasPlatformAdmin (record.confirmed request (env.clock 0)).confirmations = true) :
      Move sha256Hex env (.submitExternalConfirmation request) request.revocationID record
        ((record.confirmed request (env.clock 0)).externallyRevoked (env.clock 0))

abbrev Path (sha256Hex : GoString → GoString) (env : Environment) (call : Call) (id : GoString) :=
  Relation.ReflTransGen (Move sha256Hex env call id)

/-- Every record moves along a path, none is created, and the index is as before. -/
structure Moved (sha256Hex : GoString → GoString) (env : Environment) (call : Call)
    (repository repository' : MemoryRepository) : Prop where
  path : ∀ id record, repository.record? id = some record →
    ∃ record', repository'.record? id = some record' ∧ Path sha256Hex env call id record record'
  absent : ∀ id, repository.record? id = none → repository'.record? id = none
  index : repository'.actionEpochs = repository.actionEpochs

/-- A section that does not create a record: it moves the records, and fails only without a change. -/
structure Served (sha256Hex : GoString → GoString) (env : Environment) (call : Call) {α : Type}
    (repository : MemoryRepository) (reply : Except CredentialError α) (repository' : MemoryRepository) : Prop where
  moved : Moved sha256Hex env call repository repository'
  unchanged : env.Conforming → ∀ failure, reply = .error failure → repository' = repository

section Rules

variable {sha256Hex : GoString → GoString} {env : Environment} {call : Call} {α : Type}
  {repository repository' : MemoryRepository}

theorem Moved.refl : Moved sha256Hex env call repository repository where
  path := fun _ record hRecord => ⟨record, hRecord, .refl⟩
  absent := fun _ h => h
  index := rfl

theorem Moved.trans {repository'' : MemoryRepository} (h : Moved sha256Hex env call repository repository')
    (h' : Moved sha256Hex env call repository' repository'') : Moved sha256Hex env call repository repository'' where
  path := by
    intro id record hRecord
    obtain ⟨record', hRecord', hPath⟩ := h.path id record hRecord
    obtain ⟨record'', hRecord'', hPath'⟩ := h'.path id record' hRecord'
    exact ⟨record'', hRecord'', hPath.trans hPath'⟩
  absent := fun id hNone => h'.absent id (h.absent id hNone)
  index := h'.index.trans h.index

variable {record record' : MemoryRevocationRecord} {id : GoString} {reply : Except CredentialError α}

theorem Moved.store
    (hRecord : repository.record? id = some record) (hPath : Path sha256Hex env call id record record') :
    Moved sha256Hex env call repository (repository.store id record') where
  path := by
    intro other otherRecord hOther
    rw [MemoryRepository.record?_store]
    by_cases h : other = id
    · subst h
      rw [hRecord] at hOther
      cases hOther
      exact ⟨record', if_pos rfl, hPath⟩
    · exact ⟨otherRecord, by rw [if_neg h, hOther], .refl⟩
  absent := by
    intro other hOther
    rw [MemoryRepository.record?_store]
    by_cases h : other = id
    · rw [h, hRecord] at hOther
      cases hOther
    · rw [if_neg h, hOther]
  index := rfl

theorem Served.same : Served sha256Hex env call repository reply repository where
  moved := .refl
  unchanged := fun _ _ _ => rfl

theorem Served.ok {value : α} (h : Moved sha256Hex env call repository repository') :
    Served sha256Hex env call repository (.ok value) repository' where
  moved := h
  unchanged := fun _ _ hReply => nomatch hReply

theorem Served.stored {value : α}
    (hRecord : repository.record? id = some record) (hPath : Path sha256Hex env call id record record') :
    Served sha256Hex env call repository (.ok value) (repository.store id record') :=
  .ok (.store hRecord hPath)

theorem Served.map {β : Type} {f : α → β} (h : Served sha256Hex env call repository reply repository') :
    Served sha256Hex env call repository (reply.map f) repository' where
  moved := h.moved
  unchanged := by
    intro hConforming _ hReply
    cases reply with
    | ok => cases hReply
    | error failure' => exact h.unchanged hConforming failure' rfl

end Rules

end AiopsSystem.Credential
