import QuantApp.Services.CancelLifecycle
import QuantApp.Services.EntryOrderResolution
import QuantApp.Services.PartialExit
import QuantApp.Verified.Procedure

/-!
# The exit side of the trading engine

The stages of `src/services/trading_engine.py` that work a partial sell and a
liquidation, for one card.  A stage is a procedure over the card and the sell orders
that were handed to the gateway; what its callbacks answer is an argument, and an
exception leaves the card as far as the stage had come.
-/

namespace QuantApp.Services

open Core Verified
open Procedure (raise ofExcept attempt)

/-! ## The engine's surroundings -/

/-- The constants and library functions the engine reads. -/
structure EngineRuntime where
  config : ExecutionConfig := {}
  deriveExecutionClientOrderId : String → Int → CardKey → OrderIntent → String
  fromisoformat : String → Option Instant

/-- A sell order as it was handed to `request_exit_submit`. -/
structure SellSubmission where
  clientOrderId : String
  attemptGroupId : String
  attemptNumber : Int
  quantity : Int
  intent : OrderIntent

/-- The card a stage works on, and the sell orders it has handed over. -/
structure Desk where
  card : TradeCardState
  submitted : List SellSubmission := []

abbrev Engine (α : Type) := Procedure Desk Raised α

def currentCard : Engine TradeCardState := Procedure.read Desk.card

def setCard (change : TradeCardState → TradeCardState) : Engine PUnit :=
  Procedure.update (fun desk => { desk with card := change desk.card })

/-- How `submit_sell_order` ends: without a price, with another exception before the
identity is prepared, with one while it is stored, with one of the gateway, or with a
result that is rejected or not. -/
inductive SubmissionAnswer
  | unpriced (message : String)
  | unprepared (error : Raised)
  | unstored (error : Raised)
  | failed (error : Raised)
  | rejected (message : String)
  | accepted

/-- What the callbacks answer one stage; `later` is the clock of a back-off. -/
structure ExitAnswers where
  now : Instant
  later : Instant
  findOpenSellOrder : Except Raised (Option BrokerOrder)
  reconcileSellOrder : Except Raised BrokerOrder
  refreshOrderableQuantity : Except Raised Int
  findOpenEntryOrder : Except Raised (Option BrokerOrder)
  cancel : CancelAnswer
  cancelError : Raised
  cancelCommandId : String
  tradingHalted : Bool
  marketIsOpen : Bool
  submission : SubmissionAnswer
  exitGroupId : String

/-! ## Cancels and submissions -/

/-- The exception a refused cancel ends with. -/
def ExitAnswers.cancelFailure (answers : ExitAnswers) : Raised :=
  if answers.cancel = .rejected then
    { answers.cancelError with cls := .guardedCancellationRejected }
  else answers.cancelError

/-- `PositionActionCallbacks.request_cancel`. -/
def positionRequestCancel (answers : ExitAnswers) (scope : CancelScope) : Engine PUnit := do
  let card ← currentCard
  let outcome := requestCancelWithLifecycle card scope answers.cancelCommandId answers.cancel
  setCard (fun _ => outcome.1)
  if outcome.2 then raise answers.cancelFailure else pure ⟨⟩

/-- `prepare_exit_identity`: a stored identity is used again. -/
def prepareExitIdentity (runtime : EngineRuntime) (intent : OrderIntent) (mintedGroupId : String)
    (card : TradeCardState) : TradeCardState :=
  if card.exitClientOrderId ≠ "" then card
  else
    let groupId := if card.exitAttemptGroupId ≠ "" then card.exitAttemptGroupId else mintedGroupId
    let number := max 1 (card.exitAttemptCount + 1)
    { card with
      exitAttemptGroupId := groupId
      exitPendingAttemptNumber := number
      exitClientOrderId := runtime.deriveExecutionClientOrderId groupId number card.cardKey intent
      exitSubmissionUnresolved := false }

/-- The submission of a card whose identity is prepared. -/
def submissionOf (card : TradeCardState) (quantity : Int) (intent : OrderIntent) : SellSubmission :=
  { clientOrderId := card.exitClientOrderId
    attemptGroupId := card.exitAttemptGroupId
    attemptNumber :=
      if card.exitPendingAttemptNumber ≠ 0 then card.exitPendingAttemptNumber
      else max 1 (card.exitAttemptCount + 1)
    quantity := quantity
    intent := intent }

/-- The order is handed to the gateway. -/
def handOver (quantity : Int) (intent : OrderIntent) : Engine PUnit :=
  Procedure.update (fun desk =>
    { desk with submitted := desk.submitted ++ [submissionOf desk.card quantity intent] })

/-- `submit_sell_order`: the message of a rejection, if the order was rejected. -/
def submitSellOrder (runtime : EngineRuntime) (answers : ExitAnswers) (quantity : Int)
    (intent : OrderIntent) : Engine (Option String) :=
  match answers.submission with
  | .unpriced message =>
    raise { cls := .executionGradeDataUnavailable, message := message }
  | .unprepared error => raise error
  | .unstored error => do
    setCard (prepareExitIdentity runtime intent answers.exitGroupId)
    raise error
  | .failed error => do
    setCard (prepareExitIdentity runtime intent answers.exitGroupId)
    handOver quantity intent
    raise error
  | .rejected message => do
    setCard (prepareExitIdentity runtime intent answers.exitGroupId)
    handOver quantity intent
    pure (some message)
  | .accepted => do
    setCard (prepareExitIdentity runtime intent answers.exitGroupId)
    handOver quantity intent
    pure none

/-- `GuardedSubmissionAmbiguousError`, `AmbiguousPostBrokerPersistenceError` and
`DuplicateCommandError`. -/
def leavesUnresolved (cls : ExceptionClass) : Bool :=
  cls = .guardedSubmissionAmbiguous || cls = .ambiguousPostBrokerPersistence ||
    cls = .duplicateCommand

/-! ## The bookkeeping of an exit -/

/-- `text[:500]`. -/
def truncated (text : String) : String := String.ofList (text.toList.take 500)

def consumeExitAttempt (card : TradeCardState) : TradeCardState :=
  let attemptNumber :=
    if card.exitPendingAttemptNumber ≠ 0 then card.exitPendingAttemptNumber
    else card.exitAttemptCount + 1
  { card with exitAttemptCount := max card.exitAttemptCount attemptNumber }

/-- The identity of an exit is dropped. -/
def dropExitIdentity (card : TradeCardState) : TradeCardState :=
  { card with
    exitClientOrderId := ""
    exitPendingAttemptNumber := 0
    exitSubmissionUnresolved := false }

/-- `EXIT_RETRY_COOLDOWN_SECONDS` from the clock on. -/
def exitRetryAt (runtime : EngineRuntime) (answers : ExitAnswers) : Instant :=
  answers.later + secondsToMicros runtime.config.exitRetryCooldownSeconds

def backOffExitRetry (runtime : EngineRuntime) (answers : ExitAnswers) (message : String)
    (card : TradeCardState) : TradeCardState :=
  { dropExitIdentity (consumeExitAttempt card) with
    lastExitError := truncated message
    nextExitRetryAt := some (exitRetryAt runtime answers) }

/-- An ambiguous submission stays on the card until it is reconciled. -/
def leaveUnresolved (message : String) (card : TradeCardState) : TradeCardState :=
  { card with
    exitSubmissionUnresolved := true
    nextExitRetryAt := none
    lastExitError := truncated ("UNRESOLVED: " ++ message) }

def retireTerminalExitAttempt (card : TradeCardState) : TradeCardState :=
  let cleared := clearExitCancelTracking card
  if cleared.exitClientOrderId ≠ "" ∨ cleared.exitPendingAttemptNumber ≠ 0 then
    dropExitIdentity (consumeExitAttempt cleared)
  else cleared

/-- The card waits for `next_exit_retry_at`. -/
def waitsForExitRetry (card : TradeCardState) (now : Instant) : Bool :=
  card.nextExitRetryAt.any (fun retryAt => decide (now < retryAt))

def attemptDeadlinePassed (runtime : EngineRuntime) (order : BrokerOrder) (now : Instant) : Bool :=
  match order.attemptDeadlineAt with
  | none => false
  | some text =>
    text ≠ "" && (runtime.fromisoformat text).any (fun deadline => decide (deadline ≤ now))

def escalateExitCancelIfDue (runtime : EngineRuntime) (answers : ExitAnswers)
    (order : BrokerOrder) (force : Bool) : Engine PUnit := do
  let card ← currentCard
  if card.exitCancelInFlight then
    match card.exitCancelRequestedAt with
    | none => pure ⟨⟩
    | some requestedAt =>
      if secondsToMicros runtime.config.exitCancelConfirmationTimeoutSeconds <
            answers.now - requestedAt ∧
          exitCancelStalledWarning ∉ card.warnings then
        setCard (fun card =>
          { card with warnings := card.warnings ++ [exitCancelStalledWarning] })
      else pure ⟨⟩
  else if force || attemptDeadlinePassed runtime order answers.now then do
    positionRequestCancel answers .exit
    setCard (fun card =>
      { card with exitCancelInFlight := true, exitCancelRequestedAt := some answers.now })
  else pure ⟨⟩

/-! ## Partial sells -/

/-- The submission of `_process_partial_sell_requests`. -/
def submitPartialSell (runtime : EngineRuntime) (answers : ExitAnswers) : Engine PUnit := do
  match ← ofExcept answers.findOpenSellOrder with
  | some _ => pure ⟨⟩
  | none => do
    let remaining ← ofExcept answers.refreshOrderableQuantity
    let card ← currentCard
    let quantity := min card.pendingPartialSellQuantity remaining
    if quantity ≤ 0 then pure ⟨⟩
    else do
      match ← submitSellOrder runtime answers quantity .partialExit with
      | some message =>
        setCard (backOffExitRetry runtime answers
          (if message ≠ "" then message else "Partial sell rejected"))
      | none =>
        setCard (fun card =>
          { consumeExitAttempt card with
            reservedSellQuantity := quantity
            nextExitRetryAt := none
            lastExitError := "" })

def processPartialSellRequests (runtime : EngineRuntime) (answers : ExitAnswers) :
    Engine PUnit := do
  let card ← currentCard
  if card.boardStatus ≠ .partialSell ∨ card.pendingPartialSellQuantity ≤ 0 ∨
      card.exitSubmissionUnresolved ∨ waitsForExitRetry card answers.now then pure ⟨⟩
  else do
    match ← attempt (submitPartialSell runtime answers) with
    | .ok _ => pure ⟨⟩
    | .error error =>
      if leavesUnresolved error.cls then setCard (leaveUnresolved error.message)
      else setCard (backOffExitRetry runtime answers error.message)

/-- The body of `_reconcile_partial_sell_fills`. -/
def concludePartialSell (runtime : EngineRuntime) (answers : ExitAnswers) : Engine PUnit := do
  match ← ofExcept answers.findOpenSellOrder with
  | none => do
    let card ← currentCard
    if card.pendingPartialSellQuantity ≤ 0 then do
      let remaining ← ofExcept answers.refreshOrderableQuantity
      setCard (fun card => completePartialExit runtime.config card remaining)
    else setCard clearExitCancelTracking
  | some _ => do
    let refreshed ← ofExcept answers.reconcileSellOrder
    if isOpenStatus refreshed.status then do
      let card ← currentCard
      escalateExitCancelIfDue runtime answers refreshed
        (decide (card.pendingPartialSellQuantity ≤ 0))
    else do
      let remaining ← ofExcept answers.refreshOrderableQuantity
      setCard (fun card => completePartialExit runtime.config card remaining)

def reconcilePartialSellFills (runtime : EngineRuntime) (answers : ExitAnswers) :
    Engine PUnit := do
  let card ← currentCard
  if card.boardStatus ≠ .partialSell then pure ⟨⟩
  else do
    let _ ← attempt (concludePartialSell runtime answers)
    pure ⟨⟩

/-! ## Liquidations -/

/-- `_entry_conflict_clear_for_liquidation`: no completion BUY is in the way. -/
def entryConflictClear (answers : ExitAnswers) : Engine Bool := do
  setCard (fun card => { card with entryRemainingTargetQuantity := 0 })
  match ← ofExcept answers.findOpenEntryOrder with
  | some _ => do
    let card ← currentCard
    if card.entryCancelInFlight then pure false
    else do
      setCard (fun card =>
        { card with entryCancelInFlight := true, entryCancelReason := "EXIT_ALL" })
      positionRequestCancel answers .entry
      pure false
  | none => do
    let card ← currentCard
    pure (!(card.entryCancelInFlight || card.entrySubmissionUnresolved))

/-- `PositionManager.start_sell_all`, without a working BUY. -/
def startSellAll (card : TradeCardState) : TradeCardState :=
  { card with
    exitAllRequired := true
    boardStatus := .sellAll
    positionRuntimeStatus := .liquidating }

/-- `PositionManager.queue_sell_all_at_market_open`. -/
def queueSellAllAtMarketOpen (card : TradeCardState) : TradeCardState :=
  { card with
    boardStatus := .sellAll
    positionRuntimeStatus := .queuedForOpen
    sellAllAtMarketOpen := true
    exitAllRequired := true }

def initiateSellAll (answers : ExitAnswers) (queueForMarketOpen : Bool) : Engine PUnit := do
  setCard startSellAll
  if queueForMarketOpen then setCard queueSellAllAtMarketOpen else pure ⟨⟩
  let _ ← entryConflictClear answers
  pure ⟨⟩

def processQueuedMarketOpenSells (answers : ExitAnswers) : Engine PUnit := do
  let card ← currentCard
  if card.boardStatus ≠ .sellAll ∨ !card.sellAllAtMarketOpen ∨ !answers.marketIsOpen then
    pure ⟨⟩
  else do
    let _ ← attempt (do
      initiateSellAll answers false
      setCard (fun card => { card with sellAllAtMarketOpen := false }))
    pure ⟨⟩

/-- The body of `_reconcile_sell_all_orders`. -/
def concludeSellAllOrder (runtime : EngineRuntime) (answers : ExitAnswers) : Engine PUnit := do
  match ← ofExcept answers.findOpenSellOrder with
  | none => setCard retireTerminalExitAttempt
  | some _ => do
    let refreshed ← ofExcept answers.reconcileSellOrder
    if isOpenStatus refreshed.status then
      escalateExitCancelIfDue runtime answers refreshed
        (decide (refreshed.intent = .partialExit))
    else do
      let remaining ← ofExcept answers.refreshOrderableQuantity
      setCard (fun card =>
        retireTerminalExitAttempt
          { card with brokerQuantity := remaining, orderableQuantity := remaining })

def reconcileSellAllOrders (runtime : EngineRuntime) (answers : ExitAnswers) :
    Engine PUnit := do
  let card ← currentCard
  if card.boardStatus ≠ .sellAll then pure ⟨⟩
  else do
    let _ ← attempt (concludeSellAllOrder runtime answers)
    pure ⟨⟩

def tradingHaltExitWarning : String := "TRADING_HALT_EXIT_PENDING"

/-- What a liquidation does with the quantity the broker lets the account order. -/
def liquidateRemaining (runtime : EngineRuntime) (answers : ExitAnswers) (remaining : Int) :
    Engine PUnit :=
  if remaining ≤ 0 then do
    setCard (fun card =>
      if card.brokerQuantity ≠ 0 then
        { card with brokerQuantity := 0, orderableQuantity := 0 }
      else card)
    let card ← currentCard
    let flat ← ofExcept (confirmFlat card)
    setCard (fun _ => flat)
  else do
    let card ← currentCard
    if !answers.marketIsOpen && !card.sellAllAtMarketOpen then pure ⟨⟩
    else do
      setCard (fun card =>
        { card with brokerQuantity := remaining, orderableQuantity := remaining })
      match ← submitSellOrder runtime answers remaining .manualExit with
      | some message =>
        setCard (backOffExitRetry runtime answers
          (if message ≠ "" then message else "Sell All rejected"))
      | none =>
        setCard (fun card =>
          let consumed := consumeExitAttempt card
          let opened :=
            if consumed.sellAllAtMarketOpen then
              { consumed with
                sellAllAtMarketOpen := false
                positionRuntimeStatus := .liquidating }
            else consumed
          { opened with nextExitRetryAt := none, lastExitError := "" })

/-- The liquidation of a card nothing stands in the way of, unless trading is halted. -/
def sellUnlessHalted (runtime : EngineRuntime) (answers : ExitAnswers) : Engine PUnit := do
  let card ← currentCard
  if answers.tradingHalted then
    if tradingHaltExitWarning ∈ card.warnings then pure ⟨⟩
    else
      setCard (fun card =>
        { card with warnings := card.warnings ++ [tradingHaltExitWarning] })
  else do
    setCard (fun card =>
      { card with warnings := card.warnings.filter (· ≠ tradingHaltExitWarning) })
    let remaining ← ofExcept answers.refreshOrderableQuantity
    liquidateRemaining runtime answers remaining

/-- The body of `_retry_incomplete_sell_alls`. -/
def submitSellAll (runtime : EngineRuntime) (answers : ExitAnswers) : Engine PUnit := do
  let clearToSell ← entryConflictClear answers
  if !clearToSell then pure ⟨⟩
  else do
    match ← ofExcept answers.findOpenSellOrder with
    | some _ => pure ⟨⟩
    | none => do
      setCard retireTerminalExitAttempt
      sellUnlessHalted runtime answers

/-- The exceptions of `_retry_incomplete_sell_alls`. -/
def handleSellAllError (runtime : EngineRuntime) (answers : ExitAnswers) (error : Raised)
    (card : TradeCardState) : TradeCardState :=
  if leavesUnresolved error.cls then leaveUnresolved error.message card
  else if error.cls = .guardedCancellationRejected ∨
      error.cls = .guardedCancellationPreBrokerAborted then
    { card with
      nextExitRetryAt := none
      lastExitError := truncated ("Entry cancel rejected: " ++ error.message) }
  else if error.cls = .executionGradeDataUnavailable then
    { dropExitIdentity card with
      lastExitError := truncated error.message
      nextExitRetryAt := some (exitRetryAt runtime answers) }
  else backOffExitRetry runtime answers error.message card

def retryIncompleteSellAlls (runtime : EngineRuntime) (answers : ExitAnswers) :
    Engine PUnit := do
  let card ← currentCard
  if card.boardStatus ≠ .sellAll ∨ waitsForExitRetry card answers.now ∨
      card.exitSubmissionUnresolved then pure ⟨⟩
  else do
    match ← attempt (submitSellAll runtime answers) with
    | .ok _ => pure ⟨⟩
    | .error error => setCard (handleSellAllError runtime answers error)

/-- The exit stages of a heartbeat, in the order `run_heartbeat` runs them. -/
inductive ExitStage
  | processPartialSellRequests
  | reconcilePartialSellFills
  | processQueuedMarketOpenSells
  | reconcileSellAllOrders
  | retryIncompleteSellAlls
  deriving DecidableEq

def ExitStage.run (runtime : EngineRuntime) (answers : ExitAnswers) : ExitStage → Engine PUnit
  | .processPartialSellRequests => Services.processPartialSellRequests runtime answers
  | .reconcilePartialSellFills => Services.reconcilePartialSellFills runtime answers
  | .processQueuedMarketOpenSells => Services.processQueuedMarketOpenSells answers
  | .reconcileSellAllOrders => Services.reconcileSellAllOrders runtime answers
  | .retryIncompleteSellAlls => Services.retryIncompleteSellAlls runtime answers

/-! ## Quotes -/

def evaluateStopTrigger (card : TradeCardState) (currentPrice : ℚ) : Bool :=
  card.exitAllRequired ||
    card.activeStopPrice.any (fun stop => decide (0 < stop) && decide (currentPrice ≤ stop))

def dataStaleWarning : String := "DATA_STALE"

/-- A quote as `evaluate_quote` reads it; `stopOverride` is the entry of the card in
`stop_price_overrides`. -/
structure EngineQuote where
  lastPrice : ℚ
  regularSession : Bool := true
  stopOverride : Option ℚ := none

def handleStopTriggeredDuringPartialSell (answers : ExitAnswers) (working : Bool) :
    Engine PUnit := do
  setCard (fun card => { card with exitAllRequired := true })
  if working then positionRequestCancel answers .exit else pure ⟨⟩
  setCard (fun card =>
    { card with
      pendingPartialSellQuantity := 0
      boardStatus := .sellAll
      positionRuntimeStatus := .liquidating })

/-- The stop of a card is judged, with the override of the quote in its place. -/
def judgeStop (quote : EngineQuote) (card : TradeCardState) : TradeCardState :=
  let fresh := { card with warnings := card.warnings.filter (· ≠ dataStaleWarning) }
  let judged :=
    match quote.stopOverride with
    | none => fresh
    | some stop => { fresh with activeStopPrice := some stop }
  if evaluateStopTrigger judged quote.lastPrice then { fresh with exitAllRequired := true }
  else fresh

def evaluateQuoteForCard (answers : ExitAnswers) (quote : EngineQuote) : Engine PUnit := do
  setCard (judgeStop quote)
  let card ← currentCard
  if card.exitAllRequired ∧ card.boardStatus ≠ .sellAll then
    if card.boardStatus = .partialSell then do
      let working ← ofExcept answers.findOpenSellOrder
      handleStopTriggeredDuringPartialSell answers working.isSome
    else initiateSellAll answers false
  else pure ⟨⟩

/-- `evaluate_quote` on a card of the quote's symbol. -/
def evaluateQuote (answers : ExitAnswers) (quote : EngineQuote) : Engine PUnit := do
  let card ← currentCard
  if quote.regularSession ∧
      (card.boardStatus = .openPosition ∨ card.boardStatus = .partialSell) then do
    let _ ← attempt (evaluateQuoteForCard answers quote)
    pure ⟨⟩
  else pure ⟨⟩

end QuantApp.Services
