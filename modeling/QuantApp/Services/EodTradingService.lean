import QuantApp.Services.CancelLifecycle
import QuantApp.Services.EntryOrderResolution

/-!
# The end-of-day pass

The two branches of `src/services/eod_trading_service.py` that a card with a
position reaches: a pending entry is resolved, and the completion of a target is
given up.
-/

namespace QuantApp.Services

open Core

/-- What the broker side answers the end-of-day pass: the open entry order of the card as
it is reconciled, the outcome of a cancel, and the identity minted for it. -/
structure EodAnswers where
  openEntryOrder : Option BrokerOrder
  cancel : CancelAnswer
  mintedCommandId : String

/-- Membership in `_UNRESOLVED_STATUSES`. -/
def isUnresolvedAtEod (status : OrderStatus) : Bool :=
  status = .unknownSubmissionState || status = .unknown

variable (card : TradeCardState)

/-- The order correlation is retired once the broker has confirmed a final status. -/
def retireEntryAtEod : TradeCardState :=
  { card with
    entryCancelInFlight := false
    entryCancelReason := ""
    entryCancelCommandId := ""
    entryAttemptGroupId := ""
    entryClientOrderId := ""
    entryPendingAttemptNumber := 0
    entrySubmissionUnresolved := false
    capitalReservationId := "" }

/-- What a terminal entry leaves of the card. -/
def concludeEntryAtEod (order : BrokerOrder) : TradeCardState :=
  let retired := retireEntryAtEod card
  if 0 < order.filledQuantity then
    let opened :=
      { retired with
        boardStatus := .openPosition
        brokerQuantity := order.filledQuantity
        orderableQuantity := order.filledQuantity
        averageEntryPrice := order.avgFillPrice
        entryRemainingTargetQuantity := 0
        positionRuntimeStatus := .opened }
    { applyFirstFillStop opened (opened.entryOrbLow.getD 0)
        (firstNonemptyText opened.entryOrbWindow opened.selectedOrbWindow) with
      entryRuntimeStatus := none }
  else
    { retired with
      boardStatus := .buylist
      sessionDate := none
      entryRuntimeStatus := none }

variable (answers : EodAnswers)

/-- `EodTradingService._resolve_entry_pending_at_eod`: the card it leaves, also when the
cancel raises. -/
def resolveEntryPendingAtEod : TradeCardState :=
  match answers.openEntryOrder with
  | none => { card with entryRuntimeStatus := some .dataUnavailable }
  | some order =>
    if isUnresolvedAtEod order.status then
      { card with entryRuntimeStatus := some .dataUnavailable }
    else
      let reasoned :=
        if card.entryCancelInFlight then card else { card with entryCancelReason := "EOD" }
      let action := resolveEntryOrder order true true
      let cancelled :=
        if asksCancel order true true then
          requestCancelWithLifecycle reasoned .entry answers.mintedCommandId answers.cancel
        else (reasoned, false)
      if cancelled.2 then cancelled.1
      else if action.isTerminal then concludeEntryAtEod cancelled.1 order
      else if action = .awaitCancelConfirmation then
        { cancelled.1 with entryCancelInFlight := true }
      else { cancelled.1 with entryRuntimeStatus := some .dataUnavailable }

/-- `EodTradingService._stop_incomplete_target_completion`. -/
def stopIncompleteTargetCompletion : TradeCardState :=
  if card.entryRemainingTargetQuantity ≤ 0 then card
  else
    match answers.openEntryOrder with
    | some _ =>
      let cancelled := requestCancelWithLifecycle card .entry answers.mintedCommandId answers.cancel
      if cancelled.2 then cancelled.1
      else
        let tracked :=
          if cancelled.1.entryCancelInFlight then cancelled.1
          else
            { cancelled.1 with entryCancelInFlight := true, entryCancelReason := "EOD" }
        { tracked with
          entryRemainingTargetQuantity := 0
          positionRuntimeStatus := .opened }
    | none =>
      { card with
        entryAttemptGroupId := ""
        entryAttemptCount := 0
        entryClientOrderId := ""
        entryPendingAttemptNumber := 0
        entrySubmissionUnresolved := false
        entryRemainingTargetQuantity := 0
        positionRuntimeStatus := .opened }

/-- `EodTradingService.run_eod_cleanup` on a card that is past BUY_TODAY. -/
def runEodCleanup : TradeCardState :=
  if card.boardStatus = .entryPending then resolveEntryPendingAtEod card answers
  else if card.boardStatus = .openPosition then stopIncompleteTargetCompletion card answers
  else card

end QuantApp.Services
