import QuantApp.Core.BrokerOrder
import QuantApp.Services.BrokerPositions
import QuantApp.Services.CardProjection

/-!
# Resolving an entry order and protecting its fills

`decide_attempt_deadline_action` and `resolve_entry_order` of
`src/services/entry_attempt_manager.py`, and the two functions of
`src/services/trading_engine.py` that give an observed fill to the card.
-/

namespace QuantApp.Services

open Core

inductive AttemptDeadlineAction
  | stillWorking
  | awaitCancelConfirmation
  | moveToOpenPosition
  | confirmedCancelledWithFill
  | confirmedCancelledZeroFill
  | blockSymbolPendingReconciliation
  | releaseAndRetryAfterCooldown
  deriving DecidableEq, Repr

def decideAttemptDeadlineAction (order : BrokerOrder) : AttemptDeadlineAction :=
  match order.status with
  | .filled => .moveToOpenPosition
  | .cancelled =>
    if 0 < order.filledQuantity then .confirmedCancelledWithFill
    else .confirmedCancelledZeroFill
  | .cancelRequested => .awaitCancelConfirmation
  | .unknownSubmissionState | .unknown => .blockSymbolPendingReconciliation
  | .rejected => .releaseAndRetryAfterCooldown
  | _ => .stillWorking

/-- The action concludes the order at the broker. -/
def AttemptDeadlineAction.isTerminal : AttemptDeadlineAction → Bool
  | .moveToOpenPosition | .confirmedCancelledWithFill | .confirmedCancelledZeroFill
  | .releaseAndRetryAfterCooldown => true
  | _ => false

/-- The broker is asked to cancel: the order still works and its deadline has
passed or somebody wants it gone. -/
def asksCancel (order : BrokerOrder) (atDeadline cancelRequested : Bool) : Bool :=
  decideAttemptDeadlineAction order = .stillWorking && (atDeadline || cancelRequested)

/-- The action `EntryAttemptManager.resolve_entry_order` returns. -/
def resolveEntryOrder (order : BrokerOrder) (atDeadline cancelRequested : Bool) :
    AttemptDeadlineAction :=
  if asksCancel order atDeadline cancelRequested then .awaitCancelConfirmation
  else decideAttemptDeadlineAction order

/-! ## Fills -/

/-- `TradingEngine._apply_cumulative_fill`.  `holding` is what
`refresh_broker_position` answers; `none` when it is not wired or has no answer. -/
def applyCumulativeFill (card : TradeCardState) (order : BrokerOrder)
    (holding : Option BrokerHolding) : TradeCardState × BrokerOrder :=
  match holding with
  | some holding =>
    ({ card with
        brokerQuantity := holding.quantity
        averageEntryPrice := holding.averagePrice
        orderableQuantity := holding.quantity },
      { order with appliedFilledQuantity := order.filledQuantity })
  | none =>
    let delta := max 0 (order.filledQuantity - order.appliedFilledQuantity)
    if 0 < delta then
      let priorCost := card.brokerQuantity * card.averageEntryPrice
      let newCost := delta * order.avgFillPrice
      let newQuantity := card.brokerQuantity + delta
      ({ card with
          averageEntryPrice := if 0 < newQuantity then (priorCost + newCost) / newQuantity else 0
          brokerQuantity := newQuantity
          orderableQuantity := newQuantity },
        { order with appliedFilledQuantity := order.filledQuantity })
    else (card, order)

/-- A liquidation of the card owns its column. -/
def isLiquidating (card : TradeCardState) : Bool :=
  card.exitAllRequired || card.boardStatus = .sellAll || card.boardStatus = .partialSell

/-- `TradingEngine._protect_new_fill`. -/
def protectNewFill (card : TradeCardState) (order : BrokerOrder)
    (holding : Option BrokerHolding) : TradeCardState × BrokerOrder :=
  let applied := applyCumulativeFill card order holding
  let remainingTarget := max 0 (card.targetPositionQuantity - applied.1.brokerQuantity)
  let counted := { applied.1 with entryRemainingTargetQuantity := remainingTarget }
  let placed :=
    if isLiquidating counted then counted
    else
      { counted with
        boardStatus := .openPosition
        positionRuntimeStatus := if 0 < remainingTarget then .entryCompleting else .opened }
  -- the first fill of the card, not of the order
  if card.brokerQuantity ≤ 0 then
    (applyFirstFillStop placed (placed.entryOrbLow.getD 0)
      (firstNonemptyText placed.entryOrbWindow placed.selectedOrbWindow), applied.2)
  else ({ placed with stopQuantity := placed.brokerQuantity }, applied.2)

variable (card : TradeCardState) (order : BrokerOrder) (holding : Option BrokerHolding)
include card order holding

/-- The fill moves neither the stop nor what a stop is computed from. -/
theorem applyCumulativeFill_stop :
    (applyCumulativeFill card order holding).1.activeStopPrice = card.activeStopPrice ∧
      (applyCumulativeFill card order holding).1.entryOrbLow = card.entryOrbLow := by
  unfold applyCumulativeFill
  cases holding with
  | some => exact ⟨rfl, rfl⟩
  | none =>
    dsimp only
    split <;> exact ⟨rfl, rfl⟩

/-- The first fill installs the ORB low; a later one keeps the stop. -/
theorem protectNewFill_stop :
    (protectNewFill card order holding).1.activeStopPrice =
      if card.brokerQuantity ≤ 0 then some (card.entryOrbLow.getD 0)
      else card.activeStopPrice := by
  obtain ⟨hStop, hLow⟩ := applyCumulativeFill_stop card order holding
  unfold protectNewFill
  dsimp only
  by_cases hFirst : card.brokerQuantity ≤ 0
  · rw [if_pos hFirst, if_pos hFirst]
    split <;> simp [applyFirstFillStop, hLow]
  · rw [if_neg hFirst, if_neg hFirst]
    split <;> exact hStop

end QuantApp.Services
