import AiopsSystem.Go.Text

/-! # Leases of executions

The record a queue keeps about one execution, the identity a claim hands out
and the status alphabet. The zero value of a Go field is its default here;
`unset` is the empty status string and `unknown` any text that is no constant.
-/

namespace AiopsSystem.ExecutionLease

open Go

inductive Pool where
  | read
  | write
  | unknown
deriving DecidableEq

def Pool.text : Pool → GoString
  | .read => ascii "READ"
  | .write => ascii "WRITE"
  | .unknown => []

inductive Status where
  | unset
  | queued
  | leased
  | running
  | finalizing
  | succeeded
  | failed
  | cancelled
  | uncertain
  | unknown
deriving DecidableEq

def Status.text : Status → GoString
  | .queued => ascii "QUEUED"
  | .leased => ascii "LEASED"
  | .running => ascii "RUNNING"
  | .finalizing => ascii "FINALIZING"
  | .succeeded => ascii "SUCCEEDED"
  | .failed => ascii "FAILED"
  | .cancelled => ascii "CANCELLED"
  | .uncertain => ascii "UNCERTAIN"
  | .unset | .unknown => []

def terminalStatus (status : Status) : Bool :=
  status == .succeeded || status == .failed || status == .cancelled || status == .uncertain

structure LeaseIdentity where
  (executionID runnerID token : GoString)
  epoch : Int

structure Execution where
  executionID : GoString := []
  targetKey : GoString := []
  pool : Pool := .unknown
  production : Bool := false
  status : Status := .unset
  completionStatus : Status := .unset
  runnerID : GoString := []
  runnerTenantID : GoString := []
  runnerWorkspaceID : GoString := []
  runnerEnvironmentID : GoString := []
  scopeRevision : Int := 0
  leaseToken : GoString := []
  leaseEpoch : Int := 0
  leaseExpiresAt : Int := 0
  leaseAcquiredAt : Int := 0
  lastHeartbeatAt : Int := 0
  heartbeatSeq : Int := 0
  cancelRequestedAt : Int := 0
  cancelReasonHash : GoString := []
  startedAt : Int := 0
  completedAt : Int := 0
  resultHash : GoString := []
  reconciliationResultHash : GoString := []
  reconciliationID : GoString := []
  reconciliationActor : GoString := []
  reconciledAt : Int := 0
  createdAt : Int := 0
  updatedAt : Int := 0
deriving DecidableEq

namespace Execution

def fence (execution : Execution) : LeaseIdentity where
  executionID := execution.executionID
  runnerID := execution.runnerID
  token := execution.leaseToken
  epoch := execution.leaseEpoch

def terminal (execution : Execution) : Bool := terminalStatus execution.status

end Execution

structure ReconcileRequest where
  (executionID reconciliationID actorID : GoString)
  status : Status
  resultHash : GoString

end AiopsSystem.ExecutionLease
