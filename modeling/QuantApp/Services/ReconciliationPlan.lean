import QuantApp.Core.AccountBrokerSnapshot
import QuantApp.Core.CapitalReservation
import QuantApp.Core.DiscoveredExternalOrder
import QuantApp.Core.TradeCardState
import QuantApp.Verified.KeyedTable

/-!
# What reconciliation reads and returns

The local state of one account, the commands, alerts and classifications of a
reconciliation pass, the plan it returns, and `classify_execution_order`
(`src/services/account_reconciliation.py`).

The tables behind the local state have unique keys: one card per
(environment, account, symbol), one execution order per client id and per
EXACT broker id, one reservation and one external order per id.  The reservation
id an order links is a `uuid4().hex` or empty, so stripping it changes nothing.
`AccountLocalState` carries these constraints, so a dictionary built from one
of its tables is a `lookup` in it.
-/

namespace QuantApp.Services

open Core Verified

inductive ReconciliationCategory
  | entryBuy
  | entryCompletionBuy
  | partialSell
  | sellAll
  | stopLossSell
  | reservedMooSell
  | unknownSubmission
  | terminalOrder
  | manualBrokerPosition
  | discoveredExternalOrder
  | orphanCapitalReservation
  | liveOrderWithoutReservation
  | unrecognized
  deriving DecidableEq, Repr

inductive ReconciliationCommandType
  | cancelKnownOrder
  | emergencySellAll
  deriving DecidableEq, Repr

inductive ReconciliationAlertSeverity
  | info
  | warning
  | critical
  deriving Repr

structure ReconciliationClassification where
  category : ReconciliationCategory
  subjectId : String
  deriving Repr

structure ReconciliationCommand where
  commandType : ReconciliationCommandType
  environment : String
  accountNo : String
  symbol : String
  clientOrderId : String := ""
  quantity : Int := 0
  reason : String := ""
  deriving DecidableEq, Repr

structure ReconciliationAlert where
  code : String
  severity : ReconciliationAlertSeverity
  message : String
  symbol : String := ""
  clientOrderId : String := ""
  brokerOrderId : String := ""
  deriving Repr

/-! ## Local state -/

def orderKey (order : ExecutionOrderRecord) : CardKey :=
  (order.environment, order.accountNo, order.symbol)

/-- The order owns its broker id: its identity is EXACT and the id is not blank. -/
def hasExactId (order : ExecutionOrderRecord) : Bool :=
  order.brokerIdentityStatus = .exact_ && order.brokerOrderId ≠ ""

theorem hasExactId_identity {order : ExecutionOrderRecord} (h : hasExactId order = true) :
    order.brokerIdentityStatus = .exact_ := by
  simp only [hasExactId, Bool.and_eq_true, decide_eq_true_eq] at h
  exact h.1

structure AccountLocalState where
  cards : List TradeCardState := []
  executionOrders : List ExecutionOrderRecord := []
  capitalReservations : List CapitalReservation := []
  externalOrders : List DiscoveredExternalOrder := []
  cardsKeyed : Keyed TradeCardState.cardKey cards := by
    first
      | with_reducible exact keyed_nil _
      | with_reducible exact keyed_singleton _ _
      | decide +kernel
  ordersKeyed : Keyed ExecutionOrderRecord.clientOrderId executionOrders := by
    first
      | with_reducible exact keyed_nil _
      | with_reducible exact keyed_singleton _ _
      | decide +kernel
  exactIdsKeyed : Keyed ExecutionOrderRecord.brokerOrderId
    (executionOrders.filter hasExactId) := by
    first
      | with_reducible exact keyed_filter_nil _ _
      | with_reducible exact keyed_filter_singleton _ _ _
      | decide +kernel
  reservationsKeyed : Keyed CapitalReservation.reservationId capitalReservations := by
    first
      | with_reducible exact keyed_nil _
      | with_reducible exact keyed_singleton _ _
      | decide +kernel
  externalsKeyed : Keyed DiscoveredExternalOrder.externalOrderId externalOrders := by
    first
      | with_reducible exact keyed_nil _
      | with_reducible exact keyed_singleton _ _
      | decide +kernel
  externalBrokerIdsKeyed : Keyed DiscoveredExternalOrder.brokerOrderId externalOrders := by
    first
      | with_reducible exact keyed_nil _
      | with_reducible exact keyed_singleton _ _
      | decide +kernel
  reservationLinksStripped : ∀ order ∈ executionOrders,
    strip order.capitalReservationId = order.capitalReservationId := by
    first
      | with_reducible exact fun _ hNone => absurd hNone List.not_mem_nil
      | decide +kernel

structure ReconciliationPlan where
  snapshotId : String
  cardCreates : List TradeCardState := []
  cardUpdates : List TradeCardState := []
  orderUpdates : List ExecutionOrderRecord := []
  reservationUpdates : List CapitalReservation := []
  externalOrderCreates : List DiscoveredExternalOrder := []
  externalOrderUpdates : List DiscoveredExternalOrder := []
  commands : List ReconciliationCommand := []
  alerts : List ReconciliationAlert := []
  classifications : List ReconciliationClassification := []

/-- A row of the local state in its version after a pass: the plan's update
when there is one, and the row itself otherwise. -/
def updatedRow {α κ : Type} [DecidableEq κ] (key : α → κ) (updates : List α) (row : α) : α :=
  (lookup key (key row) updates).getD row

namespace ReconciliationPlan

variable (plan : ReconciliationPlan) (localState : AccountLocalState)

/-- The cards after the plan has been applied. -/
def reducedCards : List TradeCardState :=
  localState.cards.map (updatedRow TradeCardState.cardKey plan.cardUpdates) ++ plan.cardCreates

/-- The execution orders after the plan has been applied. -/
def reducedOrders : List ExecutionOrderRecord :=
  localState.executionOrders.map
    (updatedRow ExecutionOrderRecord.clientOrderId plan.orderUpdates)

/-- The reservations after the plan has been applied. -/
def reducedReservations : List CapitalReservation :=
  localState.capitalReservations.map
    (updatedRow CapitalReservation.reservationId plan.reservationUpdates)

end ReconciliationPlan

/-! ## Classification -/

def classifyExecutionOrder (order : ExecutionOrderRecord) (card : Option TradeCardState) :
    ReconciliationCategory :=
  if (order.status = .submitting ∨ order.status = .unknownSubmissionState) ∨
      order.brokerIdentityStatus = .ambiguous then
    .unknownSubmission
  else if order.status.isTerminal then
    .terminalOrder
  else if order.executionPolicy = reservedMooExecution then
    .reservedMooSell
  else if order.side = .buy ∧ order.intent = .entry then
    match card with
    | some card =>
      if card.boardStatus = .openPosition ∨ 0 < card.entryRemainingTargetQuantity then
        .entryCompletionBuy
      else .entryBuy
    | none => .entryBuy
  else if order.side = .sell then
    if order.intent = .stopLoss then .stopLossSell
    else if order.intent = .partialExit ∨ order.intent = .partialTakeProfit then .partialSell
    else
      match card with
      | some card => if card.boardStatus = .sellAll then .sellAll else .unrecognized
      | none => .unrecognized
  else .unrecognized

/-- `_operational_category`: the behavioral branch of a terminal order. -/
def operationalCategory (order : ExecutionOrderRecord) (card : TradeCardState)
    (classified : ReconciliationCategory) : ReconciliationCategory :=
  if classified ≠ .terminalOrder then classified
  else if order.executionPolicy = reservedMooExecution then .reservedMooSell
  else if order.side = .buy ∧ order.intent = .entry then
    if 0 < card.brokerQuantity ∨ 0 < card.entryRemainingTargetQuantity then
      .entryCompletionBuy
    else .entryBuy
  else if order.side = .sell then
    if order.intent = .stopLoss then .stopLossSell
    else if order.intent = .partialExit ∨ order.intent = .partialTakeProfit then .partialSell
    else .sellAll
  else classified

end QuantApp.Services
