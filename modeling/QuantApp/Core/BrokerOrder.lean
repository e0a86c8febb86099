import QuantApp.Core.ExecutionOrderRecord

/-!
# The engine's broker order

`BrokerOrder` of `src/core/order_state.py`: the order the trading engine and the
end-of-day pass look up, reconcile and act on, and its projection from a stored
record (`src/core/execution_result.py`).
-/

namespace QuantApp.Core

/-- `applied_filled_quantity` is the part of `filled_quantity` that a card has
already been given. -/
structure BrokerOrder where
  clientOrderId : String
  environment : String
  accountNo : String
  symbol : String
  side : OrderSide
  intent : OrderIntent
  quantityRequested : Int
  limitPrice : ℚ
  exchange : String := ""
  status : OrderStatus
  executionPolicy : String := regularLimitExecution
  brokerOrderId : String := ""
  filledQuantity : Int := 0
  appliedFilledQuantity : Int := 0
  remainingQuantity : Int := 0
  avgFillPrice : ℚ := 0
  attemptGroupId : String := ""
  attemptNumber : Int := 1
  attemptDeadlineAt : Option String := none
  capitalReservationId : String := ""
  deriving DecidableEq

/-- `_EXECUTION_TO_BROKER_STATUS`. -/
def ExecutionOrderStatus.toBrokerStatus : ExecutionOrderStatus → OrderStatus
  | .prepared => .created
  | .submitting => .submitting
  | .acknowledged => .accepted
  | .working => .working
  | .partiallyFilled => .partiallyFilled
  | .filled => .filled
  | .cancelPending => .cancelRequested
  | .cancelled | .cancelledLocally => .cancelled
  | .rejected | .notAcceptedConfirmed => .rejected
  | .expired => .expired
  | .unknownSubmissionState => .unknownSubmissionState

/-- `broker_order_from_execution_record`.  What the order has been credited with starts
at zero. -/
def brokerOrderFromExecutionRecord (record : ExecutionOrderRecord) : BrokerOrder :=
  { clientOrderId := record.clientOrderId
    environment := record.environment
    accountNo := record.accountNo
    symbol := record.symbol
    side := record.side
    intent := record.intent
    quantityRequested := record.submittedQuantity
    limitPrice := record.submittedLimitPrice
    exchange := record.exchange
    status := record.status.toBrokerStatus
    executionPolicy := record.executionPolicy
    brokerOrderId := record.brokerOrderId
    filledQuantity := record.filledQuantity
    remainingQuantity :=
      if record.remainingQuantity = 0 ∧ record.filledQuantity = 0 then record.submittedQuantity
      else record.remainingQuantity
    avgFillPrice := record.averageFillPrice
    attemptGroupId := record.attemptGroupId
    attemptNumber := record.attemptNumber
    attemptDeadlineAt := record.attemptDeadlineAt
    capitalReservationId := record.capitalReservationId }

end QuantApp.Core
