import QuantApp.Services.PositionManager

/-!
# Concluding a partial exit

`TradingEngine._complete_partial_exit` of `src/services/trading_engine.py`: the
quantity the broker lets the account order becomes the position, and the exit
correlation is retired.
-/

namespace QuantApp.Services

open Core

def exitCancelStalledWarning : String := "EXIT_CANCEL_STALLED"

/-- `TradingEngine._clear_exit_cancel_tracking`. -/
def clearExitCancelTracking (card : TradeCardState) : TradeCardState :=
  { card with
    exitCancelInFlight := false
    exitCancelRequestedAt := none
    exitCancelCommandId := ""
    warnings := card.warnings.filter (· ≠ exitCancelStalledWarning) }

/-- The exit correlation of a partial sell, retired. -/
def retirePartialExit (card : TradeCardState) : TradeCardState :=
  { card with
    pendingPartialSellQuantity := 0
    reservedSellQuantity := 0
    exitClientOrderId := ""
    exitPendingAttemptNumber := 0
    exitSubmissionUnresolved := false
    exitAttemptGroupId := ""
    exitAttemptCount := 0
    nextExitRetryAt := none
    lastExitError := "" }

/-- `TradingEngine._complete_partial_exit`. -/
def completePartialExit (config : ExecutionConfig) (card : TradeCardState)
    (remaining : Int) : TradeCardState :=
  let cleared := clearExitCancelTracking card
  retirePartialExit
    (if remaining < cleared.brokerQuantity then onPartialExitFilled config cleared remaining
    else
      { cleared with
        brokerQuantity := remaining
        orderableQuantity := remaining
        boardStatus := .openPosition
        positionRuntimeStatus := .opened })

end QuantApp.Services
