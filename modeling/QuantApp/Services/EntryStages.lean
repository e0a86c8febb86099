import QuantApp.Services.ExitStages

/-!
# The entry side of the trading engine

`_reconcile_entry_orders`, `_apply_entry_resolution` and the end of
`_process_entry_completion` of `src/services/trading_engine.py`, for one card that has no
replacement pending.
-/

namespace QuantApp.Services

open Core

variable (card : TradeCardState)

/-- Membership in `_entry_tracking_scope`. -/
def tracksEntry : Bool :=
  card.boardStatus = .entryPending ||
    (card.boardStatus = .openPosition && decide (0 < card.entryRemainingTargetQuantity)) ||
    card.entryCancelInFlight

/-- What a pass over the entry order of a card is answered: the order as it was looked up
and reconciled, what `refresh_broker_position` reports at the two places it is asked, and
the cancel.  A position refresh that is not wired reports nothing. -/
structure EntryAnswers where
  now : Instant
  refreshed : Except Raised (Option BrokerOrder)
  firstHolding : Except Raised (Option BrokerHolding) := .ok none
  secondHolding : Except Raised (Option BrokerHolding) := .ok none
  cancel : CancelAnswer
  cancelCommandId : String

/-- The reason a cancel is escalated for. -/
def escalationReason : String :=
  if card.entryBlockReason = "cancel_requested" then "USER_CANCEL"
  else if card.entryBlockReason = "eod_cancel_requested" then "EOD"
  else "TTL_REPRICE"

/-- The order correlation of an entry that ended at the broker is retired. -/
def retireEntryOrder : TradeCardState :=
  { card with
    entryCancelInFlight := false
    entryCancelReason := ""
    entryCancelCommandId := ""
    entryClientOrderId := ""
    entryPendingAttemptNumber := 0
    entrySubmissionUnresolved := false }

/-- The runtime status of a position whose entry may be completed. -/
def completionStatus : PositionRuntimeStatus :=
  if 0 < card.entryRemainingTargetQuantity then .entryCompleting else .opened

variable (runtime : EngineRuntime)

variable (now : Instant)

/-- A card without a position waits for the retry cooldown. -/
def awaitRetry (card : TradeCardState) : TradeCardState :=
  { card with
    boardStatus := .buyToday
    entryRuntimeStatus := some .retryCooldown
    nextRetryAt := some (now + secondsToMicros runtime.config.entryRetryCooldownSeconds) }

/-- The FILLED branch of `_apply_entry_resolution`. -/
def resolveFilled (order : BrokerOrder)
    (holding : Option BrokerHolding) : TradeCardState × BrokerOrder :=
  let filled := protectNewFill card order holding
  let retired : TradeCardState :=
    { retireEntryOrder filled.1 with
      entryRuntimeStatus := none
      entryBlockReason := ""
      nextRetryAt := none }
  (if retired.entryRemainingTargetQuantity ≤ 0 then
    { retired with entryAttemptGroupId := "" }
  else retired, filled.2)

/-- The CANCELLED branch of an order with a fill. -/
def resolveCancelledWithFill (order : BrokerOrder)
    (holding : Option BrokerHolding) : TradeCardState × BrokerOrder :=
  let filled := if card.brokerQuantity ≤ 0 then protectNewFill card order holding
    else (card, order)
  let retryRemainder := filled.1.entryCancelReason = "TTL_REPRICE"
  let kept :=
    if retryRemainder then filled.1
    else { filled.1 with entryRemainingTargetQuantity := 0, entryAttemptGroupId := "" }
  let retired : TradeCardState :=
    { retireEntryOrder kept with
      entryRuntimeStatus := none
      entryBlockReason := ""
      nextRetryAt := none }
  (if retired.exitAllRequired then retired
  else { retired with positionRuntimeStatus := completionStatus retired }, filled.2)

/-- The CANCELLED branch of an order without a fill. -/
def resolveCancelledZeroFill (alreadyHasPosition : Bool) (card : TradeCardState) : TradeCardState :=
  let reason := card.entryCancelReason
  let retired := retireEntryOrder card
  if alreadyHasPosition then
    let kept :=
      if reason = "TTL_REPRICE" then retired
      else { retired with entryRemainingTargetQuantity := 0, entryAttemptGroupId := "" }
    let quiet := { kept with entryRuntimeStatus := none, entryBlockReason := "" }
    if quiet.exitAllRequired then quiet
    else { quiet with positionRuntimeStatus := completionStatus quiet }
  else if reason = "USER_CANCEL" ∨ reason = "EOD" then
    { retired with
      boardStatus := .buylist
      sessionDate := none
      entryRuntimeStatus := none
      entryBlockReason := ""
      entryAttemptGroupId := "" }
  else awaitRetry runtime now retired

/-- The REJECTED branch. -/
def resolveRejected (alreadyHasPosition : Bool) (card : TradeCardState) : TradeCardState :=
  let retired := retireEntryOrder card
  if alreadyHasPosition then
    let kept := { retired with entryRemainingTargetQuantity := 0, entryAttemptGroupId := "" }
    let opened := if kept.exitAllRequired then kept
      else { kept with positionRuntimeStatus := .opened }
    { opened with entryRuntimeStatus := none }
  else awaitRetry runtime now retired

/-- `_apply_entry_resolution`, where `holding` is what the position refresh reports to a
fill it protects. -/
def applyEntryResolution
    (holding : Except Raised (Option BrokerHolding)) (alreadyHasPosition : Bool)
    (action : AttemptDeadlineAction) (card : TradeCardState) (order : BrokerOrder) :
    TradeCardState × BrokerOrder :=
  match action with
  | .stillWorking => (card, order)
  | .awaitCancelConfirmation => ({ card with entryCancelInFlight := true }, order)
  | .moveToOpenPosition =>
    match holding with
    | .ok holding => resolveFilled card order holding
    | .error _ => (card, order)
  | .confirmedCancelledWithFill =>
    match holding with
    | .ok holding => resolveCancelledWithFill card order holding
    | .error _ =>
      -- only a first fill asks for the position
      if card.brokerQuantity ≤ 0 then (card, order)
      else resolveCancelledWithFill card order none
  | .confirmedCancelledZeroFill =>
    (resolveCancelledZeroFill runtime now alreadyHasPosition card, order)
  | .releaseAndRetryAfterCooldown =>
    (resolveRejected runtime now alreadyHasPosition card, order)
  | .blockSymbolPendingReconciliation =>
    ({ card with entryRuntimeStatus := some .orderPending }, order)

/-- `_reconcile_entry_orders` from the reconciled order on. -/
def reconcileEntryOrder (answers : EntryAnswers)
    (card : TradeCardState) (refreshed : BrokerOrder) : TradeCardState × BrokerOrder :=
  let observed : Except Raised (TradeCardState × BrokerOrder) :=
    if card.brokerQuantity < refreshed.filledQuantity then
      (fun holding => protectNewFill card refreshed holding) <$> answers.firstHolding
    else .ok (card, refreshed)
  match observed with
  | .error _ => (card, refreshed)
  | .ok (card, order) =>
    let cancelRequested := card.entryBlockReason = "cancel_requested" ||
      card.entryBlockReason = "eod_cancel_requested"
    let deadlinePassed := attemptDeadlinePassed runtime order answers.now
    let alreadyHasPosition := decide (0 < card.brokerQuantity)
    let reasoned :=
      if card.entryCancelInFlight = false ∧ (deadlinePassed ∨ cancelRequested) then
        { card with entryCancelReason := escalationReason card }
      else card
    let cancelled :=
      if asksCancel order deadlinePassed cancelRequested then
        requestCancelWithLifecycle reasoned .entry answers.cancelCommandId answers.cancel
      else (reasoned, false)
    -- a cancel that raises ends the pass over the card
    if cancelled.2 then (cancelled.1, order)
    else
      applyEntryResolution runtime answers.now answers.secondHolding alreadyHasPosition
        (resolveEntryOrder order deadlinePassed cancelRequested) cancelled.1 order

/-- `_reconcile_entry_orders` on a card without a pending replacement: the card, and the
order with what it has been credited with. -/
def reconcileEntryOrders (answers : EntryAnswers)
    (card : TradeCardState) : TradeCardState × Option BrokerOrder :=
  if tracksEntry card then
    match answers.refreshed with
    | .ok (some order) =>
      let reconciled := reconcileEntryOrder runtime answers card order
      (reconciled.1, some reconciled.2)
    | _ => (card, none)
  else (card, none)

end QuantApp.Services
