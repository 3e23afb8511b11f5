import AiopsSystem.Credential.MemoryRepository
import AiopsSystem.Machine.Run

/-! # The credential repository as a machine

A step is one locked section. `RecoverManaged` takes the lock once for every
candidate; besides the uninterrupted call, the machine has a step for one
candidate alone, so the sections of one call may be separated by other calls.
-/

namespace AiopsSystem.Credential

open Go Go.Section

inductive Call where
  | prepare (request : PrepareRequest)
  | authorizeChildCreate (request : AuthorizeChildCreateRequest)
  | recordAnchor (request : RecordAnchorRequest)
  | activate (request : ActionTransitionRequest)
  | recordNoCredential (request : ActionTransitionRequest)
  | recoverPrepared (limit : Int)
  | recoverManaged (limit : Int)
  | recoverManagedItem (id actionID : GoString)
  | recoverExhausted (limit : Int)
  | requestRevocation (request : ActionTransitionRequest)
  | claimRevocations (request : ClaimRevocationsRequest)
  | heartbeat (request : HeartbeatRequest)
  | completeRevocation (fence : ClaimFence)
  | retryRevocation (request : RetryRevocationRequest)
  | requireManual (request : RequireManualRequest)
  | requeueManual (request : RequeueManualRequest)
  | submitExternalConfirmation (request : ExternalConfirmationRequest)
  | get (id : GoString)
  | list (filter : ListFilter)

inductive Answer where
  | prepared (result : PrepareResult)
  | authorization (result : ChildCreateAuthorization)
  | revocation (result : Revocation)
  | revocations (result : List Revocation)
  | managed (result : ManagedRecovery)
  | managedItem (result : Option Revocation)
  | claims (result : List ClaimedRevocation)
  | confirmation (result : ConfirmationResult)

abbrev Reply := Except CredentialError Answer

namespace MemoryRepository

variable (sha256Hex : GoString → GoString)

def perform (call : Call) (env : Environment) : Locked Answer :=
  match call with
  | .prepare request => Answer.prepared <$> prepare sha256Hex env request
  | .authorizeChildCreate request => Answer.authorization <$> authorizeChildCreate sha256Hex env request
  | .recordAnchor request => Answer.revocation <$> recordAnchor sha256Hex env request
  | .activate request => Answer.revocation <$> activate sha256Hex env request
  | .recordNoCredential request => Answer.revocation <$> recordNoCredential sha256Hex env request
  | .recoverPrepared limit => Answer.revocations <$> recoverPrepared env limit
  | .recoverManaged limit => Answer.managed <$> recoverManaged env limit
  | .recoverManagedItem id actionID => Answer.managedItem <$> recoverManagedItem env 0 id actionID
  | .recoverExhausted limit => Answer.revocations <$> recoverExhausted sha256Hex env limit
  | .requestRevocation request => Answer.revocation <$> requestRevocation sha256Hex env request
  | .claimRevocations request => Answer.claims <$> claimRevocations sha256Hex env request
  | .heartbeat request => Answer.revocation <$> heartbeat sha256Hex env request
  | .completeRevocation fence => Answer.revocation <$> completeRevocation sha256Hex env fence
  | .retryRevocation request => Answer.revocation <$> retryRevocation sha256Hex env request
  | .requireManual request => Answer.revocation <$> requireManual sha256Hex env request
  | .requeueManual request => Answer.revocation <$> requeueManual env request
  | .submitExternalConfirmation request => Answer.confirmation <$> submitExternalConfirmation env request
  | .get id => Answer.revocation <$> Credential.get env id
  | .list filter => Answer.revocations <$> Credential.list env filter

def step (repository : MemoryRepository) (input : Call × Environment) : Reply × MemoryRepository :=
  (perform sha256Hex input.1 input.2).exec repository

def machine : Machine MemoryRepository (Call × Environment) Reply where
  init := newMemoryRepository
  step := step sha256Hex

end MemoryRepository

end AiopsSystem.Credential
