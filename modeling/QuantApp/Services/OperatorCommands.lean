import QuantApp.Services.SharedDocuments

/-!
# Operator commands

The rows of `operator_commands` (`src/services/operator_commands.py`): requests of the
operator, accepted, started and finished by the device that owns execution.
-/

namespace QuantApp.Services

open Core

inductive OperatorCommandType
  | addBuyToday
  | setBreakoutPrice
  | clearBreakoutPrice
  | cancelEntry
  | sellPartial
  | cancelPartialSell
  | sellAll
  | cancelSellAll
  | moveStopOrb
  | moveStopBreakeven
  | moveStopManualPrice
  | setPartialSellQuantity
  | lockOperatorControl
  | unlockOperatorControl
  deriving DecidableEq, Repr

inductive OperatorCommandStatus
  | pending
  | accepted
  | rejected
  | executing
  | brokerSubmitted
  | filled
  | partiallyFilled
  | completed
  | failed
  | cancelled
  | expired
  deriving DecidableEq, Repr

def OperatorCommandStatus.value : OperatorCommandStatus → String
  | .pending => "PENDING"
  | .accepted => "ACCEPTED"
  | .rejected => "REJECTED"
  | .executing => "EXECUTING"
  | .brokerSubmitted => "BROKER_SUBMITTED"
  | .filled => "FILLED"
  | .partiallyFilled => "PARTIALLY_FILLED"
  | .completed => "COMPLETED"
  | .failed => "FAILED"
  | .cancelled => "CANCELLED"
  | .expired => "EXPIRED"

/-- Membership in `TERMINAL_OPERATOR_COMMAND_STATUSES`. -/
def OperatorCommandStatus.isTerminal : OperatorCommandStatus → Bool
  | .rejected | .filled | .completed | .failed | .cancelled | .expired => true
  | _ => false

/-- Membership in the `active_statuses` of `submit_operator_command`. -/
def OperatorCommandStatus.isActive : OperatorCommandStatus → Bool
  | .pending | .accepted | .executing | .brokerSubmitted | .partiallyFilled => true
  | _ => false

theorem OperatorCommandStatus.isActive_eq (status : OperatorCommandStatus) :
    status.isActive = !status.isTerminal := by
  cases status <;> rfl

/-- One row of the table. -/
structure OperatorCommandRecord where
  commandId : String
  idempotencyKey : String
  commandType : OperatorCommandType
  symbol : String
  payload : String
  status : OperatorCommandStatus
  requestedByDevice : String
  requestedByHost : String
  createdAt : Instant
  acceptedAt : Option Instant := none
  executingAt : Option Instant := none
  brokerSubmittedAt : Option Instant := none
  completedAt : Option Instant := none
  rejectedAt : Option Instant := none
  failedAt : Option Instant := none
  errorMessage : String := ""
  executorDeviceId : String := ""
  executorHost : String := ""
  brokerOrderId : String := ""
  stateBeforeHash : String := ""
  stateAfterHash : String := ""
  deriving DecidableEq, Repr

/-! ## Conflicts -/

def partialSellConflicts : List OperatorCommandType :=
  [.sellPartial, .cancelPartialSell, .sellAll, .cancelSellAll, .setPartialSellQuantity]

def stopConflicts : List OperatorCommandType :=
  [.moveStopOrb, .moveStopBreakeven, .moveStopManualPrice]

/-- `conflict_types` of `submit_operator_command`. -/
def conflictTypes : OperatorCommandType → List OperatorCommandType
  | .sellPartial | .cancelPartialSell | .sellAll | .cancelSellAll | .setPartialSellQuantity =>
    partialSellConflicts
  | .moveStopOrb | .moveStopBreakeven | .moveStopManualPrice => stopConflicts
  | other => [other]

theorem mem_conflictTypes_comm {first second : OperatorCommandType}
    (h : first ∈ conflictTypes second) : second ∈ conflictTypes first := by
  revert h
  cases first <;> cases second <;> decide

/-- The row is active, of the symbol, and of a type that conflicts with the given one. -/
def conflictsWith (symbol : String) (commandType : OperatorCommandType)
    (record : OperatorCommandRecord) : Bool :=
  record.symbol = symbol && record.commandType ∈ conflictTypes commandType && record.status.isActive

/-! ## Transitions -/

/-- `_current_owner_device_id`, on the locked role row. -/
def currentOwnerDeviceId (key : RoleKey) (row : Option SharedRow) : Except String String :=
  match row with
  | none => .ok ""
  | some row => do
    let payload ← decodePayload row.payload key.value
    pure (if key = .operatorControl ∧ payload.locked then "" else strip payload.deviceId)

/-- What `submit_operator_command` is called with. -/
structure OperatorRequest where
  requester : LocalDeviceRole
  commandType : OperatorCommandType
  symbol : String
  payload : String
  idempotencyKey : String
  commandId : String
  deriving Repr

variable (request : OperatorRequest)

def OperatorRequest.key : String := strip request.idempotencyKey

def OperatorRequest.normalizedSymbol : String := upper (strip request.symbol)

/-- The check of `submit_operator_command` before its transaction. -/
def requireIdempotencyKey : Except String Unit :=
  if request.key = "" then .error "Operator command requires an idempotency key" else .ok ()

/-- The ownership check of `submit_operator_command`. -/
def requireOperatorOwner (row : Option SharedRow) :
    Except String Unit := do
  let owner ← currentOwnerDeviceId .operatorControl row
  if owner = "" then
    .error "Operator Control is Locked; no new manual commands are accepted."
  else if owner ≠ request.requester.deviceId then
    .error "This device is not the current Operator Control owner."
  else .ok ()

/-- The row `submit_operator_command` inserts. -/
def submittedRecord (serverNow : Instant) : OperatorCommandRecord :=
  { commandId := strip request.commandId
    idempotencyKey := request.key
    commandType := request.commandType
    symbol := request.normalizedSymbol
    payload := request.payload
    status := .pending
    requestedByDevice := request.requester.deviceId
    requestedByHost := request.requester.hostname
    createdAt := serverNow }

variable (executor : LocalDeviceRole)

/-- The ownership check of `claim_next_operator_command`. -/
def requireExecutionOwner (message : String) (row : Option SharedRow) : Except String Unit := do
  let owner ← currentOwnerDeviceId .mainDevice row
  if owner ≠ executor.deviceId then .error message else .ok ()

def claimRefused : String := "Only the current Execution Owner may process operator commands."

def startRefused : String := "Execution ownership changed before the operator command ran."

/-- The `UPDATE` of `claim_next_operator_command`. -/
def acceptedRecord (serverNow : Instant) (record : OperatorCommandRecord) : OperatorCommandRecord :=
  { record with
    status := .accepted
    acceptedAt := some serverNow
    executorDeviceId := executor.deviceId
    executorHost := executor.hostname }

/-- The `WHERE` of `start_operator_command`. -/
def canStart (record : OperatorCommandRecord) : Bool :=
  record.status = .accepted && record.executorDeviceId = executor.deviceId

def startedRecord (serverNow : Instant) (record : OperatorCommandRecord) : OperatorCommandRecord :=
  { record with status := .executing, executingAt := some serverNow }

/-- The outcome `finish_operator_command` records. -/
structure OperatorOutcome where
  status : OperatorCommandStatus
  errorMessage : String := ""
  brokerOrderId : String := ""
  stateBeforeHash : String := ""
  stateAfterHash : String := ""
  deriving Repr

/-- The statuses a command may be finished as. -/
def requireFinishStatus (status : OperatorCommandStatus) : Except String Unit :=
  match status with
  | .rejected | .brokerSubmitted | .filled | .partiallyFilled | .completed | .failed
  | .cancelled | .expired => .ok ()
  | _ => .error ("Cannot finish an operator command as " ++ status.value ++ ".")

/-- `source_statuses` of `finish_operator_command`. -/
def isSourceStatus (target source : OperatorCommandStatus) : Bool :=
  source = .executing ||
    ((source = .brokerSubmitted || source = .partiallyFilled) &&
      (target = .partiallyFilled || target = .filled || target = .failed ||
        target = .cancelled || target = .expired))

variable (outcome : OperatorOutcome)

/-- The `WHERE` of `finish_operator_command`. -/
def canFinish (record : OperatorCommandRecord) : Bool :=
  isSourceStatus outcome.status record.status && record.executorDeviceId = executor.deviceId

def finishedRecord (serverNow : Instant) (record : OperatorCommandRecord) : OperatorCommandRecord :=
  let finished :=
    { record with
      status := outcome.status
      errorMessage := outcome.errorMessage
      brokerOrderId := outcome.brokerOrderId
      stateBeforeHash := outcome.stateBeforeHash
      stateAfterHash := outcome.stateAfterHash }
  match outcome.status with
  | .rejected => { finished with rejectedAt := some serverNow }
  | .brokerSubmitted => { finished with brokerSubmittedAt := some serverNow }
  | .failed => { finished with failedAt := some serverNow }
  | _ => { finished with completedAt := some serverNow }

theorem finishedRecord_fields (serverNow : Instant) (record : OperatorCommandRecord) :
    (finishedRecord outcome serverNow record).commandId = record.commandId ∧
      (finishedRecord outcome serverNow record).idempotencyKey = record.idempotencyKey ∧
        (finishedRecord outcome serverNow record).commandType = record.commandType ∧
          (finishedRecord outcome serverNow record).symbol = record.symbol ∧
            (finishedRecord outcome serverNow record).status = outcome.status := by
  unfold finishedRecord
  dsimp only
  split <;> exact ⟨rfl, rfl, rfl, rfl, by simp_all⟩

theorem isSourceStatus_active {target source : OperatorCommandStatus}
    (h : isSourceStatus target source = true) :
    source.isTerminal = false ∧ source ≠ .pending ∧ source ≠ .accepted := by
  revert h
  cases source <;> cases target <;> decide

end QuantApp.Services
