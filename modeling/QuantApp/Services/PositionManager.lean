import QuantApp.Core.TradeCardState

/-!
# Position manager

The parts of `src/services/position_manager.py` that reconciliation calls: the
first-fill and breakeven stops, the partial-exit refresh and `confirm_flat`.
Rounding follows Python's `round` (half to even) on exact rationals.
-/

namespace QuantApp.Services

open Core

/-- `round(value, digits)`. -/
def roundDigits (value : ℚ) (digits : Nat) : ℚ := roundHalfEven (value * 10 ^ digits) / 10 ^ digits

def roundUpToValidTick (price : ℚ) (tickSize : ℚ := 1 / 100) : ℚ :=
  if price ≤ 0 then 0
  else
    let effectiveTick := if price < 1 then 1 / 10000 else tickSize
    let ticks := ⌈roundDigits (price / effectiveTick) 6 - 1 / 1000000000⌉
    roundDigits (ticks * effectiveTick) 4

variable (config : ExecutionConfig)

def computeBreakevenStopPrice (averageEntryPrice : ℚ) : ℚ :=
  roundUpToValidTick (averageEntryPrice * (1 + config.breakevenBufferBps / 10000))

variable (card : TradeCardState)

/-- `PositionManager.apply_first_fill_stop`. -/
def applyFirstFillStop (entryOrbLow : ℚ) (entryOrbWindow : String) : TradeCardState :=
  { card with
    stopType := some .orbLow
    activeStopPrice := some entryOrbLow
    stopQuantity := card.brokerQuantity
    entryOrbWindow := some entryOrbWindow
    entryOrbLow := some entryOrbLow }

/-- `PositionManager.apply_breakeven_stop`. -/
def applyBreakevenStop (card : TradeCardState) : TradeCardState :=
  let breakeven := computeBreakevenStopPrice config card.averageEntryPrice
  if card.activeStopPrice.getD 0 ≤ breakeven then
    { card with
      stopType := some .breakeven
      activeStopPrice := some breakeven
      stopQuantity := card.brokerQuantity }
  else
    { card with stopQuantity := card.brokerQuantity }

/-- `PositionManager.on_partial_exit_filled`. -/
def onPartialExitFilled (card : TradeCardState) (refreshedBrokerQuantity : Int) : TradeCardState :=
  let tightened := applyBreakevenStop config
    { card with
      brokerQuantity := refreshedBrokerQuantity
      orderableQuantity := refreshedBrokerQuantity }
  { tightened with boardStatus := .openPosition, positionRuntimeStatus := .opened }

/-- The card `confirm_flat` leaves: closed, without stops, pending requests or
order correlations. -/
def closedFlat : TradeCardState :=
  { card with
    boardStatus := .closed
    positionRuntimeStatus := .closed
    stopType := none
    activeStopPrice := none
    stopQuantity := 0
    pendingStop := {}
    exitAllRequired := false
    sellAllAtMarketOpen := false
    marketDataOutageStartedAt := none
    marketDataOutageRiskTier := ""
    entryAttemptGroupId := ""
    entryAttemptCount := 0
    entryClientOrderId := ""
    entryPendingAttemptNumber := 0
    entrySubmissionUnresolved := false
    entryCancelInFlight := false
    entryCancelReason := ""
    entryCancelCommandId := ""
    entryRemainingTargetQuantity := 0
    exitAttemptGroupId := ""
    exitAttemptCount := 0
    exitClientOrderId := ""
    exitPendingAttemptNumber := 0
    exitSubmissionUnresolved := false
    exitCancelInFlight := false
    exitCancelRequestedAt := none
    exitCancelCommandId := ""
    reservedSellQuantity := 0
    nextExitRetryAt := none
    lastExitError := "" }

/-- `PositionManager.confirm_flat`. -/
def confirmFlat : Except Raised TradeCardState :=
  if 0 < card.brokerQuantity then
    .error
      { cls := .valueError
        message := "Cannot close " ++ card.symbol ++ ": broker_quantity is " ++
          toString card.brokerQuantity ++ ", not zero" }
  else .ok (closedFlat card)

theorem confirmFlat_of_empty {card : TradeCardState} (h : card.brokerQuantity ≤ 0) :
    confirmFlat card = .ok (closedFlat card) :=
  if_neg (by omega)

/-! ## What the stop rules leave alone

None of them touches the identity of the card or its entry correlation. -/

@[simp] theorem onPartialExitFilled_cardKey (config : ExecutionConfig)
    (card : TradeCardState) (quantity : Int) :
    (onPartialExitFilled config card quantity).cardKey = card.cardKey := by
  unfold onPartialExitFilled applyBreakevenStop TradeCardState.cardKey
  dsimp only
  split <;> rfl

end QuantApp.Services
