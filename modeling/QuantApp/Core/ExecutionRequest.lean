import QuantApp.Core.OrderState

/-!
# Requests to the guarded gateway

`src/core/execution_request.py` and the lease and the source of
`src/core/execution_mode.py`.  Texts are as `__post_init__` leaves them:
environments and symbols in upper case, identities stripped.  The pre-trade risk
decision a request carries is opaque to this module; the gateway only asks the
risk module whether it stands.
-/

namespace QuantApp.Core

structure ExecutionLease where
  deviceId : String
  leaseToken : String
  leaseEpoch : Int := 0

inductive ExecutionSource
  | legacyBuyDashboard
  | kanbanBoard
  | system
  deriving Repr

/-- The wire text of a source (`ExecutionSource.value`). -/
def ExecutionSource.value : ExecutionSource → String
  | .legacyBuyDashboard => "LEGACY_BUY_DASHBOARD"
  | .kanbanBoard => "KANBAN_BOARD"
  | .system => "SYSTEM"

/-- A `float`: `none` is a value `math.isfinite` refuses. -/
abbrev FloatValue := Option ℚ

structure SubmitExecutionRequest where
  clientOrderId : String
  environment : String
  accountNo : String
  symbol : String
  side : OrderSide
  intent : OrderIntent
  quantity : Int
  limitPrice : FloatValue
  exchange : String := "NASD"
  executionPolicy : String := regularLimitExecution
  attemptGroupId : String := ""
  attemptNumber : Int := 1
  attemptDeadlineAt : Option String := none
  lease : Option ExecutionLease := none
  source : ExecutionSource := .system
  replacesExecutionOrderId : String := ""
  preparedCapitalReservationId : String := ""
  preparedCapitalReservationVersion : Nat := 0
  strategyInstanceId : String := ""
  emergency : Bool := false
  clientOrderIdStripped : strip clientOrderId = clientOrderId := by decide +kernel

structure CancelExecutionRequest where
  clientOrderId : String
  cancelCommandId : String
  environment : String
  accountNo : String
  lease : Option ExecutionLease := none
  source : ExecutionSource := .system
  strategyInstanceId : String := ""
  emergency : Bool := false
  protectiveEntryCompletion : Bool := false
  symbol : String := ""
  brokerOrderId : String := ""
  quantity : Nat := 0
  side : String := ""
  exchange : String := "NASD"

structure ReplaceExecutionRequest where
  clientOrderId : String
  replaceCommandId : String
  newClientOrderId : String
  newQuantity : Int
  newLimitPrice : FloatValue
  environment : String
  accountNo : String
  lease : Option ExecutionLease := none
  source : ExecutionSource := .system
  strategyInstanceId : String := ""
  newClientOrderIdStripped : strip newClientOrderId = newClientOrderId := by decide +kernel

end QuantApp.Core
