import QuantApp.Core.Runtime
import QuantApp.Verified.KeyedTable

/-!
# The command ledger

The statements of `src/services/execution_command_repository.py` over the
`execution_commands` table, a list of rows with a unique `idempotency_key`.  The
redacted broker response and its hash are written and never read by the code
modelled here, and are left out.
-/

namespace QuantApp.Services

open Core Verified

variable {rows written : List ExecutionCommand} {idempotencyKey : String} {status : CommandStatus}
  {expectedVersion : Option Int} {updated : ExecutionCommand}

inductive CommandType
  | submit
  | cancel
  | replace
  deriving DecidableEq, Repr

inductive CommandStatus
  | requested
  | acknowledged
  | failed
  | ambiguous
  | preBrokerAborted
  | completed
  deriving DecidableEq, Repr

/-- The wire text of a command status. -/
def CommandStatus.value : CommandStatus → String
  | .requested => "REQUESTED"
  | .acknowledged => "ACKNOWLEDGED"
  | .failed => "FAILED"
  | .ambiguous => "AMBIGUOUS"
  | .preBrokerAborted => "PRE_BROKER_ABORTED"
  | .completed => "COMPLETED"

/-- One command.  The constructor strips `idempotency_key`. -/
structure ExecutionCommand where
  idempotencyKey : String
  commandType : CommandType
  environment : String
  accountNo : String
  symbol : String
  leaseEpoch : Int := 0
  ownerDeviceId : String := ""
  leaseToken : String := ""
  targetBrokerOrderId : String := ""
  requestedAt : IsoText
  status : CommandStatus := .requested
  version : Int := 1
  source : String := ""

/-- `f"SUBMIT:{client_order_id}"`. -/
def submitKey (clientOrderId : String) : String := "SUBMIT:" ++ clientOrderId

/-- `f"CANCEL:{cancel_command_id}"`. -/
def cancelKey (cancelCommandId : String) : String := "CANCEL:" ++ cancelCommandId

/-- `f"REPLACE:{replace_command_id}"`. -/
def replaceKey (replaceCommandId : String) : String := "REPLACE:" ++ replaceCommandId

theorem strip_submitKey {id : String} (hId : strip id = id) (hNamed : id ≠ "") :
    strip (submitKey id) = submitKey id :=
  strip_append (by decide +kernel) (by decide) hId hNamed

/-- `get_command` and `get_command_by_idempotency_key`. -/
def getCommand (rows : List ExecutionCommand) (idempotencyKey : String) : Option ExecutionCommand :=
  lookup ExecutionCommand.idempotencyKey idempotencyKey rows

def insertCommand (rows : List ExecutionCommand) (command : ExecutionCommand) :
    Except Raised (List ExecutionCommand) :=
  if command.requestedAt.reading = none then
    .error
      { cls := .valueError
        message := "requested_at='" ++ command.requestedAt.text ++
          "' is not a valid ISO-8601 timestamp" }
  else if (getCommand rows command.idempotencyKey).isSome then
    .error
      { cls := .duplicateCommand
        message := "Command with idempotency_key='" ++ command.idempotencyKey ++
          "' was already recorded" }
  else .ok (rows ++ [command])

/-- `update_command_response`: a compare-and-set that applies only while the stored
command is still REQUESTED. -/
def updateCommandResponse (rows : List ExecutionCommand) (idempotencyKey : String)
    (status : CommandStatus) (expectedVersion : Option Int) :
    Except Raised (List ExecutionCommand × ExecutionCommand) :=
  match getCommand rows idempotencyKey with
  | none =>
    .error
      { cls := .commandNotFound
        message := "No command found for idempotency_key='" ++ idempotencyKey ++ "'" }
  | some current =>
    let guardVersion := expectedVersion.getD current.version
    if current.status = .requested ∧ current.version = guardVersion then
      let written := { current with status := status, version := guardVersion + 1 }
      .ok (store ExecutionCommand.idempotencyKey written rows, written)
    else
      .error
        { cls := .commandResponseConflict
          message := "idempotency_key='" ++ idempotencyKey ++ "' response update rejected -- " ++
            "expected status=REQUESTED and version=" ++ toString guardVersion ++
            ", found status='" ++ current.status.value ++ "' version=" ++
            toString current.version }

/-! ## What a write changes -/

/-- The idempotency keys that are recorded. -/
def commandKeys (rows : List ExecutionCommand) : List String :=
  rows.map ExecutionCommand.idempotencyKey

theorem getCommand_eq_none_iff :
    getCommand rows idempotencyKey = none ↔ idempotencyKey ∉ commandKeys rows :=
  lookup_eq_none_iff

theorem insertCommand_ok {command : ExecutionCommand}
    (h : insertCommand rows command = .ok written) :
    command.idempotencyKey ∉ commandKeys rows ∧ written = rows ++ [command] := by
  unfold insertCommand at h
  split at h
  · cases h
  split at h
  · cases h
  · rename_i hAbsent
    cases h
    rw [Bool.not_eq_true, Option.isSome_eq_false_iff, Option.isNone_iff_eq_none,
      getCommand_eq_none_iff] at hAbsent
    exact ⟨hAbsent, rfl⟩

variable
  (h : updateCommandResponse rows idempotencyKey status expectedVersion = .ok (written, updated))
include h

/-- A response settles the REQUESTED row of its key and no other. -/
theorem updateCommandResponse_ok :
    ∃ current, getCommand rows idempotencyKey = some current ∧ current.status = .requested ∧
      updated = { current with status := status, version := current.version + 1 } ∧
      written = store ExecutionCommand.idempotencyKey updated rows := by
  unfold updateCommandResponse at h
  cases hFound : getCommand rows idempotencyKey with
  | none =>
    rw [hFound] at h
    cases h
  | some current =>
    rw [hFound] at h
    dsimp only at h
    split at h
    · rename_i hGuard
      cases h
      have hVersion : expectedVersion.getD current.version = current.version := hGuard.2.symm
      refine ⟨current, rfl, hGuard.1, ?_, rfl⟩
      rw [hVersion]
    · cases h

theorem commandKeys_updateCommandResponse : commandKeys written = commandKeys rows := by
  obtain ⟨_, _, _, _, rfl⟩ := updateCommandResponse_ok h
  exact map_key_store

end QuantApp.Services
