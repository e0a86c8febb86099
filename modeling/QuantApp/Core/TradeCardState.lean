import QuantApp.Core.Runtime

/-!
# The trade card

`src/core/trade_card_state.py`: the aggregate of one (environment, account,
symbol) card, with the fields reconciliation and the position manager read or
write.  Texts the source tests for truth stay texts; optional instants and
prices are `Option`.
-/

namespace QuantApp.Core

inductive BoardStatus
  | watchlist
  | buylist
  | buyToday
  | entryPending
  | openPosition
  | partialSell
  | sellAll
  | closed
  deriving DecidableEq, Repr

inductive EntryRuntimeStatus
  | orbForming
  | waitingBreakout
  | armed
  | executeReady
  | riskInvalid
  | waitingForCapital
  | retryCooldown
  | orderPending
  | replacePending
  | cancelPending
  | dataUnavailable
  | sessionComplete
  deriving DecidableEq, Repr

inductive PositionRuntimeStatus
  | none_
  | opened
  | entryCompleting
  | partialExitPending
  | exitAllRequired
  | liquidating
  | queuedForOpen
  | closed
  | reconciling
  deriving DecidableEq, Repr

inductive StopType
  | orbLow
  | breakeven
  | manualPrice
  deriving DecidableEq, Repr

/-- The fields `clear_orb_generation_metadata` resets, in one record: the ORB
execution state of the current entry generation.  The two JSON objects are
kept as their text. -/
structure OrbGenerationMetadata where
  entryExecutionPrice : Option ℚ := none
  entryExecutionPriceManual : Bool := false
  entryFloorPrice : Option ℚ := none
  entryBreakoutTrigger : Option ℚ := none
  entryOrbScore : Option ℚ := none
  entryScoreVersion : String := ""
  entryRangeClosedAt : Option Instant := none
  entryBreakoutConfirmedAt : Option Instant := none
  entryCandidateCreatedAt : Option Instant := none
  entryOrderGeneration : Int := 0
  entryParentIntentId : String := ""
  orbCandidateStates : String := ""
  pendingEntryReplacement : String := ""
  deriving DecidableEq

/-- A stop request waiting for the feed rule (`pending_stop_*`). -/
structure PendingStop where
  stopType : Option StopType := none
  price : Option ℚ := none
  quantity : Int := 0
  commandId : String := ""
  requestedAt : Option Instant := none
  deriving DecidableEq

structure TradeCardState where
  environment : String
  accountNo : String
  symbol : String
  name : String := ""
  version : Int := 1
  boardStatus : BoardStatus := .watchlist
  previousBoardStatus : Option BoardStatus := none
  boardStatusUpdatedAt : Instant := 0
  sessionDate : Option CalendarDate := none
  watchlistMember : Bool := false
  buylistMember : Bool := false
  returnToBuylistAfterClose : Bool := false
  buyTodayNote : String := ""
  selectedOrbWindow : Option String := none
  positionPercent : ℚ := 0
  plannedQuantity : Int := 0
  targetPositionQuantity : Int := 0
  entryOrbWindow : Option String := none
  entryOrbHigh : Option ℚ := none
  entryOrbLow : Option ℚ := none
  entryTrigger : Option ℚ := none
  orbGeneration : OrbGenerationMetadata := {}
  stopAdr : Option ℚ := none
  entryRuntimeStatus : Option EntryRuntimeStatus := none
  entryBlockReason : String := ""
  nextRetryAt : Option Instant := none
  entryAttemptGroupId : String := ""
  entryAttemptCount : Int := 0
  entryClientOrderId : String := ""
  entryPendingAttemptNumber : Int := 0
  entrySubmissionUnresolved : Bool := false
  entryCancelInFlight : Bool := false
  entryCancelReason : String := ""
  entryCancelCommandId : String := ""
  positionRuntimeStatus : PositionRuntimeStatus := .none_
  brokerQuantity : Int := 0
  orderableQuantity : Int := 0
  averageEntryPrice : ℚ := 0
  entryRemainingTargetQuantity : Int := 0
  stopType : Option StopType := none
  activeStopPrice : Option ℚ := none
  stopQuantity : Int := 0
  pendingStop : PendingStop := {}
  exitAllRequired : Bool := false
  sellAllAtMarketOpen : Bool := false
  pendingPartialSellQuantity : Int := 0
  reservedSellQuantity : Int := 0
  nextExitRetryAt : Option Instant := none
  exitAttemptCount : Int := 0
  exitAttemptGroupId : String := ""
  exitClientOrderId : String := ""
  exitPendingAttemptNumber : Int := 0
  exitSubmissionUnresolved : Bool := false
  lastExitError : String := ""
  exitCancelInFlight : Bool := false
  exitCancelRequestedAt : Option Instant := none
  exitCancelCommandId : String := ""
  capitalReservationId : String := ""
  marketDataOutageStartedAt : Option Instant := none
  marketDataOutageRiskTier : String := ""
  createdAt : Instant := 0
  updatedAt : Instant := 0
  warnings : List String := []
  deriving DecidableEq

/-- The (environment, account, symbol) row identity. -/
abbrev CardKey := String × String × String

def TradeCardState.cardKey (card : TradeCardState) : CardKey :=
  (card.environment, card.accountNo, card.symbol)

/-- The part of `TradeCardState.__post_init__` that can refuse a new card: only
the production environment and a non-blank symbol are accepted. -/
def requireTradeCardIdentity (environment symbol : String) : Except Raised Unit :=
  if environment ≠ "PROD" then
    .error
      { cls := .valueError
        message := "TradeCardState supports the PROD environment only" }
  else if symbol = "" then
    .error { cls := .valueError, message := "TradeCardState requires a symbol" }
  else .ok ()

end QuantApp.Core
