import QuantApp.Core.Runtime

/-!
# Broker-facing order vocabulary and recovery states

`src/core/order_state.py` and `src/core/order_recovery_state.py`: the sides,
intents and statuses a broker row can carry, the normalized broker row itself,
and the transition table of `OrderRecoveryState`.
-/

namespace QuantApp.Core

inductive OrderSide
  | buy
  | sell
  deriving DecidableEq, Repr

/-- The wire text of a side (`OrderSide.value`). -/
def OrderSide.value : OrderSide → String
  | .buy => "BUY"
  | .sell => "SELL"

inductive OrderIntent
  | entry
  | stopLoss
  | partialExit
  | momentumExit
  | partialTakeProfit
  | manualExit
  | unknown
  deriving DecidableEq, Repr

inductive OrderStatus
  | created
  | submitting
  | accepted
  | rejected
  | working
  | unknownSubmissionState
  | partiallyFilled
  | filled
  | cancelRequested
  | cancelled
  | expired
  | unknown
  deriving DecidableEq, Repr

/-- The wire text of a status (`OrderStatus.value`). -/
def OrderStatus.value : OrderStatus → String
  | .created => "CREATED"
  | .submitting => "SUBMITTING"
  | .accepted => "ACCEPTED"
  | .rejected => "REJECTED"
  | .working => "WORKING"
  | .unknownSubmissionState => "UNKNOWN_SUBMISSION_STATE"
  | .partiallyFilled => "PARTIALLY_FILLED"
  | .filled => "FILLED"
  | .cancelRequested => "CANCEL_REQUESTED"
  | .cancelled => "CANCELLED"
  | .expired => "EXPIRED"
  | .unknown => "UNKNOWN"

/-- `execution_policy` of a broker-reserved market-on-open order. -/
def reservedMooExecution : String := "RESERVED_MOO"

/-- `execution_policy` of an ordinary limit order. -/
def regularLimitExecution : String := "REGULAR_LIMIT"

/-- Membership in `OPEN_ORDER_STATUSES`. -/
def isOpenStatus : OrderStatus → Bool
  | .created | .submitting | .accepted | .working | .unknownSubmissionState
  | .partiallyFilled | .cancelRequested | .unknown => true
  | .filled | .cancelled | .rejected | .expired => false

/-- Membership in `CLOSED_ORDER_STATUSES`. -/
def isClosedStatus : OrderStatus → Bool
  | .filled | .cancelled | .rejected | .expired => true
  | _ => false

/-- One normalized broker order row.  The constructor upper-cases `symbol` and
coerces the numbers; the adapter delivers `broker_order_id` stripped, and an
empty `submitted_at` is `none`. -/
structure BrokerOrderStatusSnapshot where
  symbol : String
  brokerOrderId : String := ""
  side : OrderSide := .buy
  status : OrderStatus := .unknown
  quantityRequested : Int := 0
  filledQuantity : Int := 0
  remainingQuantity : Int := 0
  avgFillPrice : ℚ := 0
  limitPrice : ℚ := 0
  submittedAt : Option IsoText := none
  checkedAt : IsoText
  deriving DecidableEq

/-! ## `OrderRecoveryState` -/

inductive OrderRecoveryState
  | none_
  | discovering
  | brokerIdentityUncertain
  | cancelRequired
  | cancelRequested
  | awaitingCancelConfirmation
  | terminalReconciled
  | manualInterventionRequired
  deriving DecidableEq, Repr

/-- The wire text of a recovery state (`OrderRecoveryState.value`). -/
def OrderRecoveryState.value : OrderRecoveryState → String
  | .none_ => "NONE"
  | .discovering => "DISCOVERING"
  | .brokerIdentityUncertain => "BROKER_IDENTITY_UNCERTAIN"
  | .cancelRequired => "CANCEL_REQUIRED"
  | .cancelRequested => "CANCEL_REQUESTED"
  | .awaitingCancelConfirmation => "AWAITING_CANCEL_CONFIRMATION"
  | .terminalReconciled => "TERMINAL_RECONCILED"
  | .manualInterventionRequired => "MANUAL_INTERVENTION_REQUIRED"

/-- `_SPECIFIC_TRANSITIONS`, without the row common to every state. -/
def specificRecoveryTransitions : OrderRecoveryState → List OrderRecoveryState
  | .none_ => [.discovering]
  | .discovering => [.none_, .brokerIdentityUncertain]
  | .brokerIdentityUncertain => [.cancelRequired]
  | .cancelRequired => [.cancelRequested]
  | .cancelRequested => [.awaitingCancelConfirmation]
  | .awaitingCancelConfirmation => [.terminalReconciled]
  | .terminalReconciled => []
  | .manualInterventionRequired => []

/-- `allowed_recovery_transitions`: every state but the manual one may also
escalate to manual intervention. -/
def allowedRecoveryTransitions (current : OrderRecoveryState) : List OrderRecoveryState :=
  if current = .manualInterventionRequired then
    specificRecoveryTransitions current
  else
    specificRecoveryTransitions current ++ [.manualInterventionRequired]

end QuantApp.Core
