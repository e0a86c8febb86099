import QuantApp.Services.CardArguments
import QuantApp.Services.ReducerRaises

/-!
# Storing and reloading a trade card

`TradeCardState.__post_init__`, `to_dict` and `from_dict` of
`src/core/trade_card_state.py`, with every field of the card.  A card the constructor made
comes back from its own payload as `restored` says (`fromDict_toDict`), and `restored` is
the card itself just when it `SurvivesRestart`.
-/

namespace QuantApp.Services

open Core Verified

variable {card : CompleteCard} {clock : ConstructionClock} {arguments : CardArguments}

/-- The card with the fields only its payload needs besides. -/
structure CompleteCard extends BreakoutCard where
  kanbanPriority : Int := 0
  kisWsSymbolKey : String := ""
  riskPercent : ℚ := 1 / 100
  entryReplacementHistory : List String := []
  deriving DecidableEq

/-- The card with its execution state replaced. -/
def CompleteCard.withState (card : CompleteCard) (state : TradeCardState) : CompleteCard :=
  { card with toBreakoutCard := card.toBreakoutCard.withState state }

/-- The arguments of `TradeCardState(...)`.  The four JSON fields are texts, empty for an
empty object; an item of the history is `none` when it is not an object. -/
structure CardArguments where
  environment : Option String
  accountNo : Option String
  symbol : Option String
  name : Option String := some ""
  version : Option Int := some 1
  kanbanPriority : Option Int := some 0
  boardStatus : EnumArgument BoardStatus := .member .watchlist
  previousBoardStatus : Option (EnumArgument BoardStatus) := none
  boardStatusUpdatedAt : TimestampArgument := .absent
  sessionDate : DateArgument := .absent
  watchlistMember : Bool := false
  watchlistSessionDate : DateArgument := .absent
  buylistMember : Bool := false
  returnToBuylistAfterClose : Bool := false
  buyTodayNote : Option String := some ""
  lastBuyTodaySessionDate : DateArgument := .absent
  rejectedOrbSnapshot : Option String := some ""
  kisWsSymbolKey : Option String := some ""
  breakoutPrice : Option PythonFloat := none
  selectedOrbWindow : Option String := none
  bufferPct : Option PythonFloat := some (.finite (1 / 1000))
  riskPercent : Option PythonFloat := some (.finite (1 / 100))
  positionPercent : Option PythonFloat := some (.finite 0)
  plannedQuantity : Option Int := some 0
  targetPositionQuantity : Option Int := some 0
  entryOrbWindow : Option String := none
  entryOrbHigh : Option PythonFloat := none
  entryOrbLow : Option PythonFloat := none
  entryTrigger : Option PythonFloat := none
  entryExecutionPrice : Option PythonFloat := none
  entryExecutionPriceManual : Bool := false
  entryFloorPrice : Option PythonFloat := none
  entryBreakoutTrigger : Option PythonFloat := none
  entryOrbScore : Option PythonFloat := none
  entryScoreVersion : Option String := some ""
  entryRangeClosedAt : TimestampArgument := .absent
  entryBreakoutConfirmedAt : TimestampArgument := .absent
  entryCandidateCreatedAt : TimestampArgument := .absent
  entryOrderGeneration : Option Int := some 0
  entryParentIntentId : Option String := some ""
  orbCandidateStates : Option String := some ""
  pendingEntryReplacement : Option String := some ""
  entryReplacementHistory : Option (List (Option String)) := some []
  stopAdr : Option PythonFloat := none
  entryRuntimeStatus : Option (EnumArgument EntryRuntimeStatus) := none
  entryBlockReason : Option String := some ""
  nextRetryAt : TimestampArgument := .absent
  entryAttemptGroupId : Option String := some ""
  entryAttemptCount : Option Int := some 0
  entryClientOrderId : Option String := some ""
  entryPendingAttemptNumber : Option Int := some 0
  entrySubmissionUnresolved : Bool := false
  entryCancelInFlight : Bool := false
  entryCancelReason : Option String := some ""
  entryCancelCommandId : Option String := some ""
  positionRuntimeStatus : EnumArgument PositionRuntimeStatus := .member .none_
  brokerQuantity : Option Int := some 0
  orderableQuantity : Option Int := some 0
  averageEntryPrice : Option PythonFloat := some (.finite 0)
  entryRemainingTargetQuantity : Option Int := some 0
  stopType : Option (EnumArgument StopType) := none
  activeStopPrice : Option PythonFloat := none
  stopQuantity : Option Int := some 0
  pendingStopType : Option (EnumArgument StopType) := none
  pendingStopPrice : Option PythonFloat := none
  pendingStopQuantity : Option Int := some 0
  pendingStopCommandId : Option String := some ""
  pendingStopRequestedAt : TimestampArgument := .absent
  exitAllRequired : Bool := false
  sellAllAtMarketOpen : Bool := false
  pendingPartialSellQuantity : Option Int := some 0
  reservedSellQuantity : Option Int := some 0
  nextExitRetryAt : TimestampArgument := .absent
  exitAttemptCount : Option Int := some 0
  exitAttemptGroupId : Option String := some ""
  exitClientOrderId : Option String := some ""
  exitPendingAttemptNumber : Option Int := some 0
  exitSubmissionUnresolved : Bool := false
  lastExitError : Option String := some ""
  exitCancelInFlight : Bool := false
  exitCancelRequestedAt : TimestampArgument := .absent
  exitCancelCommandId : Option String := some ""
  capitalReservationId : Option String := some ""
  marketDataLastTrustedPrice : Option PythonFloat := none
  marketDataLastTrustedAt : TimestampArgument := .absent
  marketDataOutageStartedAt : TimestampArgument := .absent
  marketDataOutageRiskTier : Option String := some ""
  createdAt : TimestampArgument := .absent
  updatedAt : TimestampArgument := .absent
  warnings : Option (List String) := some []

/-- What the clock shows when a required timestamp is missing. -/
structure ConstructionClock where
  boardStatusUpdatedAt : Instant := 0
  createdAt : Instant := 0
  updatedAt : Instant := 0

/-! ## The constructor -/

/-- The timestamps and dates `__post_init__` reads before it checks the risk. -/
structure PlanDates where
  boardStatusUpdatedAt : Instant
  sessionDate : Option CalendarDate
  watchlistSessionDate : Option CalendarDate
  lastBuyTodaySessionDate : Option CalendarDate

def readPlanDates (clock : ConstructionClock) (arguments : CardArguments) :
    Except Raised PlanDates := do
  let boardStatusUpdatedAt ←
    parseTimestamp clock.boardStatusUpdatedAt arguments.boardStatusUpdatedAt
  let sessionDate ← parseOptionalDate arguments.sessionDate
  let watchlistSessionDate ← parseOptionalDate arguments.watchlistSessionDate
  let lastBuyTodaySessionDate ← parseOptionalDate arguments.lastBuyTodaySessionDate
  pure { boardStatusUpdatedAt, sessionDate, watchlistSessionDate, lastBuyTodaySessionDate }

/-- The timestamps it reads after that. -/
structure LifecycleTimes where
  entryRangeClosedAt : Option Instant
  entryBreakoutConfirmedAt : Option Instant
  entryCandidateCreatedAt : Option Instant
  nextRetryAt : Option Instant
  pendingStopRequestedAt : Option Instant
  nextExitRetryAt : Option Instant
  exitCancelRequestedAt : Option Instant
  marketDataLastTrustedAt : Option Instant
  marketDataOutageStartedAt : Option Instant
  createdAt : Instant
  updatedAt : Instant

def readLifecycleTimes (clock : ConstructionClock) (arguments : CardArguments) :
    Except Raised LifecycleTimes := do
  let entryRangeClosedAt ← optionalTimestamp arguments.entryRangeClosedAt
  let entryBreakoutConfirmedAt ← optionalTimestamp arguments.entryBreakoutConfirmedAt
  let entryCandidateCreatedAt ← optionalTimestamp arguments.entryCandidateCreatedAt
  let nextRetryAt ← optionalTimestamp arguments.nextRetryAt
  let pendingStopRequestedAt ← optionalTimestamp arguments.pendingStopRequestedAt
  let nextExitRetryAt ← optionalTimestamp arguments.nextExitRetryAt
  let exitCancelRequestedAt ← optionalTimestamp arguments.exitCancelRequestedAt
  let marketDataLastTrustedAt ← optionalTimestamp arguments.marketDataLastTrustedAt
  let marketDataOutageStartedAt ← optionalTimestamp arguments.marketDataOutageStartedAt
  let createdAt ← parseTimestamp clock.createdAt arguments.createdAt
  let updatedAt ← parseTimestamp clock.updatedAt arguments.updatedAt
  pure
    { entryRangeClosedAt
      entryBreakoutConfirmedAt
      entryCandidateCreatedAt
      nextRetryAt
      pendingStopRequestedAt
      nextExitRetryAt
      exitCancelRequestedAt
      marketDataLastTrustedAt
      marketDataOutageStartedAt
      createdAt
      updatedAt }

/-- `risk_percent` is a fraction of the account. -/
def requireRiskFraction (risk : ℚ) : Except Raised Unit :=
  if 0 ≤ risk ∧ risk ≤ 1 then .ok ()
  else
    .error
      { cls := .valueError
        message := "risk_percent must be an account-risk fraction from 0 to 1" }

/-- `self.entry_trigger or self.entry_orb_high`: the execution price of a card that gives
none. -/
def executionPriceDefault (entryTrigger entryOrbHigh : Option ℚ) : Option ℚ :=
  if entryTrigger = none ∨ entryTrigger = some 0 then entryOrbHigh else entryTrigger

/-- The fields `__post_init__` leaves, when it does not raise. -/
def normalizedCard (arguments : CardArguments) (dates : PlanDates) (times : LifecycleTimes) :
    CompleteCard :=
  { environment := environmentKey arguments.environment
    accountNo := strip (arguments.accountNo.getD "")
    symbol := cardSymbolKey arguments.symbol
    name := arguments.name.getD ""
    version := intOr arguments.version 1
    kanbanPriority := arguments.kanbanPriority.getD 0
    boardStatus := boardStatusOf arguments.boardStatus
    previousBoardStatus := arguments.previousBoardStatus.map boardStatusOf
    boardStatusUpdatedAt := dates.boardStatusUpdatedAt
    sessionDate := dates.sessionDate
    watchlistMember := arguments.watchlistMember
    watchlistSessionDate := dates.watchlistSessionDate
    buylistMember := arguments.buylistMember
    returnToBuylistAfterClose := arguments.returnToBuylistAfterClose
    buyTodayNote := arguments.buyTodayNote.getD ""
    lastBuyTodaySessionDate := dates.lastBuyTodaySessionDate
    rejectedOrbSnapshot := arguments.rejectedOrbSnapshot.getD ""
    kisWsSymbolKey := strip (arguments.kisWsSymbolKey.getD "")
    breakoutPrice := finiteFloat arguments.breakoutPrice none
    selectedOrbWindow := orbWindow arguments.selectedOrbWindow
    bufferPct := finiteFloatOr arguments.bufferPct (1 / 1000)
    riskPercent := finiteFloatOr arguments.riskPercent (1 / 100)
    positionPercent := max 0 (finiteFloatOr arguments.positionPercent 0)
    plannedQuantity := arguments.plannedQuantity.getD 0
    targetPositionQuantity := arguments.targetPositionQuantity.getD 0
    entryOrbWindow := orbWindow arguments.entryOrbWindow
    entryOrbHigh := finiteFloat arguments.entryOrbHigh none
    entryOrbLow := finiteFloat arguments.entryOrbLow none
    entryTrigger := finiteFloat arguments.entryTrigger none
    orbGeneration :=
      { entryExecutionPrice :=
          finiteFloat arguments.entryExecutionPrice
            (executionPriceDefault (finiteFloat arguments.entryTrigger none)
              (finiteFloat arguments.entryOrbHigh none))
        entryExecutionPriceManual := arguments.entryExecutionPriceManual
        entryFloorPrice := finiteFloat arguments.entryFloorPrice none
        entryBreakoutTrigger := finiteFloat arguments.entryBreakoutTrigger none
        entryOrbScore := finiteFloat arguments.entryOrbScore none
        entryScoreVersion := arguments.entryScoreVersion.getD ""
        entryRangeClosedAt := times.entryRangeClosedAt
        entryBreakoutConfirmedAt := times.entryBreakoutConfirmedAt
        entryCandidateCreatedAt := times.entryCandidateCreatedAt
        entryOrderGeneration := max 0 (arguments.entryOrderGeneration.getD 0)
        entryParentIntentId := arguments.entryParentIntentId.getD ""
        orbCandidateStates := arguments.orbCandidateStates.getD ""
        pendingEntryReplacement := arguments.pendingEntryReplacement.getD "" }
    entryReplacementHistory := (arguments.entryReplacementHistory.getD []).filterMap id
    stopAdr := finiteFloat arguments.stopAdr none
    entryRuntimeStatus := arguments.entryRuntimeStatus.map entryRuntimeStatusOf
    entryBlockReason := arguments.entryBlockReason.getD ""
    nextRetryAt := times.nextRetryAt
    entryAttemptGroupId := arguments.entryAttemptGroupId.getD ""
    entryAttemptCount := arguments.entryAttemptCount.getD 0
    entryClientOrderId := arguments.entryClientOrderId.getD ""
    entryPendingAttemptNumber := arguments.entryPendingAttemptNumber.getD 0
    entrySubmissionUnresolved := arguments.entrySubmissionUnresolved
    entryCancelInFlight := arguments.entryCancelInFlight
    entryCancelReason := arguments.entryCancelReason.getD ""
    entryCancelCommandId := arguments.entryCancelCommandId.getD ""
    positionRuntimeStatus := positionRuntimeStatusOf arguments.positionRuntimeStatus
    brokerQuantity := arguments.brokerQuantity.getD 0
    orderableQuantity := arguments.orderableQuantity.getD 0
    averageEntryPrice := finiteFloatOr arguments.averageEntryPrice 0
    entryRemainingTargetQuantity := arguments.entryRemainingTargetQuantity.getD 0
    stopType := arguments.stopType.map stopTypeOf
    activeStopPrice := finiteFloat arguments.activeStopPrice none
    stopQuantity := arguments.stopQuantity.getD 0
    pendingStop :=
      { stopType := arguments.pendingStopType.map stopTypeOf
        price := finiteFloat arguments.pendingStopPrice none
        quantity := arguments.pendingStopQuantity.getD 0
        commandId := arguments.pendingStopCommandId.getD ""
        requestedAt := times.pendingStopRequestedAt }
    exitAllRequired := arguments.exitAllRequired
    sellAllAtMarketOpen := arguments.sellAllAtMarketOpen
    pendingPartialSellQuantity := arguments.pendingPartialSellQuantity.getD 0
    reservedSellQuantity := arguments.reservedSellQuantity.getD 0
    nextExitRetryAt := times.nextExitRetryAt
    exitAttemptCount := arguments.exitAttemptCount.getD 0
    exitAttemptGroupId := arguments.exitAttemptGroupId.getD ""
    exitClientOrderId := arguments.exitClientOrderId.getD ""
    exitPendingAttemptNumber := arguments.exitPendingAttemptNumber.getD 0
    exitSubmissionUnresolved := arguments.exitSubmissionUnresolved
    lastExitError := arguments.lastExitError.getD ""
    exitCancelInFlight := arguments.exitCancelInFlight
    exitCancelRequestedAt := times.exitCancelRequestedAt
    exitCancelCommandId := arguments.exitCancelCommandId.getD ""
    capitalReservationId := arguments.capitalReservationId.getD ""
    marketDataLastTrustedPrice := finiteFloat arguments.marketDataLastTrustedPrice none
    marketDataLastTrustedAt := times.marketDataLastTrustedAt
    marketDataOutageStartedAt := times.marketDataOutageStartedAt
    marketDataOutageRiskTier := upper (arguments.marketDataOutageRiskTier.getD "")
    createdAt := times.createdAt
    updatedAt := times.updatedAt
    warnings := arguments.warnings.getD [] }

/-- `TradeCardState.__post_init__`. -/
def postInit (clock : ConstructionClock) (arguments : CardArguments) :
    Except Raised CompleteCard := do
  requireTradeCardIdentity (environmentKey arguments.environment) (cardSymbolKey arguments.symbol)
  let dates ← readPlanDates clock arguments
  requireRiskFraction (finiteFloatOr arguments.riskPercent (1 / 100))
  let times ← readLifecycleTimes clock arguments
  pure (normalizedCard arguments dates times)

/-! ## The payload -/

/-- The entries of a payload, under their keys. -/
structure CardPayload where
  environment : Stored String := .missing
  accountNo : Stored String := .missing
  symbol : Stored String := .missing
  name : Stored String := .missing
  version : Stored Int := .missing
  kanbanPriority : Stored Int := .missing
  boardStatus : Stored String := .missing
  previousBoardStatus : Stored String := .missing
  boardStatusUpdatedAt : Stored IsoText := .missing
  sessionDate : Stored DateText := .missing
  watchlistMember : Stored Bool := .missing
  watchlistSessionDate : Stored DateText := .missing
  buylistMember : Stored Bool := .missing
  returnToBuylistAfterClose : Stored Bool := .missing
  buyTodayNote : Stored String := .missing
  lastBuyTodaySessionDate : Stored DateText := .missing
  rejectedOrbSnapshot : Stored String := .missing
  kisWsSymbolKey : Stored String := .missing
  breakoutPrice : Stored PythonFloat := .missing
  selectedOrbWindow : Stored String := .missing
  bufferPct : Stored PythonFloat := .missing
  riskPercent : Stored PythonFloat := .missing
  riskUnit : Stored String := .missing
  positionPercent : Stored PythonFloat := .missing
  plannedQuantity : Stored Int := .missing
  targetPositionQuantity : Stored Int := .missing
  entryOrbWindow : Stored String := .missing
  entryOrbHigh : Stored PythonFloat := .missing
  entryOrbLow : Stored PythonFloat := .missing
  entryTrigger : Stored PythonFloat := .missing
  entryExecutionPrice : Stored PythonFloat := .missing
  entryExecutionPriceManual : Stored Bool := .missing
  entryFloorPrice : Stored PythonFloat := .missing
  entryBreakoutTrigger : Stored PythonFloat := .missing
  entryOrbScore : Stored PythonFloat := .missing
  entryScoreVersion : Stored String := .missing
  entryRangeClosedAt : Stored IsoText := .missing
  entryBreakoutConfirmedAt : Stored IsoText := .missing
  entryCandidateCreatedAt : Stored IsoText := .missing
  entryOrderGeneration : Stored Int := .missing
  entryParentIntentId : Stored String := .missing
  orbCandidateStates : Stored String := .missing
  pendingEntryReplacement : Stored String := .missing
  entryReplacementHistory : Stored (List (Option String)) := .missing
  stopAdr : Stored PythonFloat := .missing
  entryRuntimeStatus : Stored String := .missing
  entryBlockReason : Stored String := .missing
  nextRetryAt : Stored IsoText := .missing
  entryAttemptGroupId : Stored String := .missing
  entryAttemptCount : Stored Int := .missing
  entryClientOrderId : Stored String := .missing
  entryPendingAttemptNumber : Stored Int := .missing
  entrySubmissionUnresolved : Stored Bool := .missing
  entryCancelInFlight : Stored Bool := .missing
  entryCancelReason : Stored String := .missing
  entryCancelCommandId : Stored String := .missing
  positionRuntimeStatus : Stored String := .missing
  brokerQuantity : Stored Int := .missing
  orderableQuantity : Stored Int := .missing
  averageEntryPrice : Stored PythonFloat := .missing
  entryRemainingTargetQuantity : Stored Int := .missing
  stopType : Stored String := .missing
  activeStopPrice : Stored PythonFloat := .missing
  stopQuantity : Stored Int := .missing
  pendingStopType : Stored String := .missing
  pendingStopPrice : Stored PythonFloat := .missing
  pendingStopQuantity : Stored Int := .missing
  pendingStopCommandId : Stored String := .missing
  pendingStopRequestedAt : Stored IsoText := .missing
  exitAllRequired : Stored Bool := .missing
  sellAllAtMarketOpen : Stored Bool := .missing
  pendingPartialSellQuantity : Stored Int := .missing
  reservedSellQuantity : Stored Int := .missing
  nextExitRetryAt : Stored IsoText := .missing
  exitAttemptCount : Stored Int := .missing
  exitAttemptGroupId : Stored String := .missing
  exitClientOrderId : Stored String := .missing
  exitPendingAttemptNumber : Stored Int := .missing
  exitSubmissionUnresolved : Stored Bool := .missing
  lastExitError : Stored String := .missing
  exitCancelInFlight : Stored Bool := .missing
  exitCancelRequestedAt : Stored IsoText := .missing
  exitCancelCommandId : Stored String := .missing
  capitalReservationId : Stored String := .missing
  marketDataLastTrustedPrice : Stored PythonFloat := .missing
  marketDataLastTrustedAt : Stored IsoText := .missing
  marketDataOutageStartedAt : Stored IsoText := .missing
  marketDataOutageRiskTier : Stored String := .missing
  createdAt : Stored IsoText := .missing
  updatedAt : Stored IsoText := .missing
  warnings : Stored (List String) := .missing

/-- `TradeCardState.to_dict`. -/
def toDict (card : CompleteCard) : CardPayload :=
  { environment := .value card.environment
    accountNo := .value card.accountNo
    symbol := .value card.symbol
    name := .value card.name
    version := .value card.version
    kanbanPriority := .value card.kanbanPriority
    boardStatus := .value (boardStatusText card.boardStatus)
    previousBoardStatus := .ofOption (card.previousBoardStatus.map boardStatusText)
    boardStatusUpdatedAt := .value (isoformat card.boardStatusUpdatedAt)
    sessionDate := .ofOption (card.sessionDate.map isoDateText)
    watchlistMember := .value card.watchlistMember
    watchlistSessionDate := .ofOption (card.watchlistSessionDate.map isoDateText)
    buylistMember := .value card.buylistMember
    returnToBuylistAfterClose := .value card.returnToBuylistAfterClose
    buyTodayNote := .value card.buyTodayNote
    lastBuyTodaySessionDate := .ofOption (card.lastBuyTodaySessionDate.map isoDateText)
    rejectedOrbSnapshot := .value card.rejectedOrbSnapshot
    kisWsSymbolKey := .value card.kisWsSymbolKey
    breakoutPrice := .ofOption (card.breakoutPrice.map .finite)
    selectedOrbWindow := .ofOption card.selectedOrbWindow
    bufferPct := .value (.finite card.bufferPct)
    riskPercent := .value (.finite card.riskPercent)
    riskUnit := .value "fraction"
    positionPercent := .value (.finite card.positionPercent)
    plannedQuantity := .value card.plannedQuantity
    targetPositionQuantity := .value card.targetPositionQuantity
    entryOrbWindow := .ofOption card.entryOrbWindow
    entryOrbHigh := .ofOption (card.entryOrbHigh.map .finite)
    entryOrbLow := .ofOption (card.entryOrbLow.map .finite)
    entryTrigger := .ofOption (card.entryTrigger.map .finite)
    entryExecutionPrice := .ofOption (card.orbGeneration.entryExecutionPrice.map .finite)
    entryExecutionPriceManual := .value card.orbGeneration.entryExecutionPriceManual
    entryFloorPrice := .ofOption (card.orbGeneration.entryFloorPrice.map .finite)
    entryBreakoutTrigger := .ofOption (card.orbGeneration.entryBreakoutTrigger.map .finite)
    entryOrbScore := .ofOption (card.orbGeneration.entryOrbScore.map .finite)
    entryScoreVersion := .value card.orbGeneration.entryScoreVersion
    entryRangeClosedAt := .ofOption (card.orbGeneration.entryRangeClosedAt.map isoformat)
    entryBreakoutConfirmedAt :=
      .ofOption (card.orbGeneration.entryBreakoutConfirmedAt.map isoformat)
    entryCandidateCreatedAt := .ofOption (card.orbGeneration.entryCandidateCreatedAt.map isoformat)
    entryOrderGeneration := .value card.orbGeneration.entryOrderGeneration
    entryParentIntentId := .value card.orbGeneration.entryParentIntentId
    orbCandidateStates := .value card.orbGeneration.orbCandidateStates
    pendingEntryReplacement := .value card.orbGeneration.pendingEntryReplacement
    entryReplacementHistory := .value (card.entryReplacementHistory.map some)
    stopAdr := .ofOption (card.stopAdr.map .finite)
    entryRuntimeStatus := .ofOption (card.entryRuntimeStatus.map entryRuntimeStatusText)
    entryBlockReason := .value card.entryBlockReason
    nextRetryAt := .ofOption (card.nextRetryAt.map isoformat)
    entryAttemptGroupId := .value card.entryAttemptGroupId
    entryAttemptCount := .value card.entryAttemptCount
    entryClientOrderId := .value card.entryClientOrderId
    entryPendingAttemptNumber := .value card.entryPendingAttemptNumber
    entrySubmissionUnresolved := .value card.entrySubmissionUnresolved
    entryCancelInFlight := .value card.entryCancelInFlight
    entryCancelReason := .value card.entryCancelReason
    entryCancelCommandId := .value card.entryCancelCommandId
    positionRuntimeStatus := .value (positionRuntimeStatusText card.positionRuntimeStatus)
    brokerQuantity := .value card.brokerQuantity
    orderableQuantity := .value card.orderableQuantity
    averageEntryPrice := .value (.finite card.averageEntryPrice)
    entryRemainingTargetQuantity := .value card.entryRemainingTargetQuantity
    stopType := .ofOption (card.stopType.map stopTypeText)
    activeStopPrice := .ofOption (card.activeStopPrice.map .finite)
    stopQuantity := .value card.stopQuantity
    pendingStopType := .ofOption (card.pendingStop.stopType.map stopTypeText)
    pendingStopPrice := .ofOption (card.pendingStop.price.map .finite)
    pendingStopQuantity := .value card.pendingStop.quantity
    pendingStopCommandId := .value card.pendingStop.commandId
    pendingStopRequestedAt := .ofOption (card.pendingStop.requestedAt.map isoformat)
    exitAllRequired := .value card.exitAllRequired
    sellAllAtMarketOpen := .value card.sellAllAtMarketOpen
    pendingPartialSellQuantity := .value card.pendingPartialSellQuantity
    reservedSellQuantity := .value card.reservedSellQuantity
    nextExitRetryAt := .ofOption (card.nextExitRetryAt.map isoformat)
    exitAttemptCount := .value card.exitAttemptCount
    exitAttemptGroupId := .value card.exitAttemptGroupId
    exitClientOrderId := .value card.exitClientOrderId
    exitPendingAttemptNumber := .value card.exitPendingAttemptNumber
    exitSubmissionUnresolved := .value card.exitSubmissionUnresolved
    lastExitError := .value card.lastExitError
    exitCancelInFlight := .value card.exitCancelInFlight
    exitCancelRequestedAt := .ofOption (card.exitCancelRequestedAt.map isoformat)
    exitCancelCommandId := .value card.exitCancelCommandId
    capitalReservationId := .value card.capitalReservationId
    marketDataLastTrustedPrice := .ofOption (card.marketDataLastTrustedPrice.map .finite)
    marketDataLastTrustedAt := .ofOption (card.marketDataLastTrustedAt.map isoformat)
    marketDataOutageStartedAt := .ofOption (card.marketDataOutageStartedAt.map isoformat)
    marketDataOutageRiskTier := .value card.marketDataOutageRiskTier
    createdAt := .value (isoformat card.createdAt)
    updatedAt := .value (isoformat card.updatedAt)
    warnings := .value card.warnings }

/-- A payload holds a number under one of the keys of the opening range. -/
def hasOrbGeometry (data : CardPayload) : Bool :=
  strip (data.selectedOrbWindow.get.getD "") ≠ "" &&
    ((finiteFloat data.entryOrbHigh.get none).isSome ||
      (finiteFloat data.entryOrbLow.get none).isSome ||
      (finiteFloat data.entryTrigger.get none).isSome)

/-- `_persisted_risk_fraction`: a payload without a unit may hold percentage points. -/
def persistedRiskFraction (data : CardPayload) : ℚ :=
  let risk := finiteFloatOr data.riskPercent.get (1 / 100)
  if strip (data.riskUnit.get.getD "") = "" ∧ 2 / 100 < risk ∧
      (1 < risk ∨ hasOrbGeometry data = false) then
    risk / 100
  else risk

/-- The arguments `from_dict` calls the constructor with. -/
def argumentsOfDict (clock : ConstructionClock) (data : CardPayload) : CardArguments :=
  { environment := some (data.environment.str "PROD")
    accountNo := some (data.accountNo.str "")
    symbol := some (data.symbol.str "")
    name := some (data.name.str "")
    version := some (intOr data.version.get 1)
    kanbanPriority := some (data.kanbanPriority.get.getD 0)
    boardStatus := data.boardStatus.enum .watchlist
    previousBoardStatus := data.previousBoardStatus.get.map .text
    boardStatusUpdatedAt := .ofText data.boardStatusUpdatedAt.get
    sessionDate := .ofText data.sessionDate.get
    watchlistMember := data.watchlistMember.get.getD false
    watchlistSessionDate := .ofText data.watchlistSessionDate.get
    buylistMember := data.buylistMember.get.getD false
    returnToBuylistAfterClose := data.returnToBuylistAfterClose.get.getD false
    buyTodayNote := some (data.buyTodayNote.str "")
    lastBuyTodaySessionDate := .ofText data.lastBuyTodaySessionDate.get
    rejectedOrbSnapshot := some (data.rejectedOrbSnapshot.get.getD "")
    kisWsSymbolKey := some (data.kisWsSymbolKey.str "")
    breakoutPrice := data.breakoutPrice.get
    selectedOrbWindow := data.selectedOrbWindow.get
    bufferPct := data.bufferPct.getOr (.finite (1 / 1000))
    riskPercent := some (.finite (persistedRiskFraction data))
    positionPercent := data.positionPercent.getOr (.finite 0)
    plannedQuantity := some (data.plannedQuantity.get.getD 0)
    targetPositionQuantity := some (data.targetPositionQuantity.get.getD 0)
    entryOrbWindow := data.entryOrbWindow.get
    entryOrbHigh := data.entryOrbHigh.get
    entryOrbLow := data.entryOrbLow.get
    entryTrigger := data.entryTrigger.get
    entryExecutionPrice := data.entryExecutionPrice.get
    entryExecutionPriceManual := data.entryExecutionPriceManual.get.getD false
    entryFloorPrice := data.entryFloorPrice.get
    entryBreakoutTrigger := data.entryBreakoutTrigger.get
    entryOrbScore := data.entryOrbScore.get
    entryScoreVersion := some (data.entryScoreVersion.str "")
    entryRangeClosedAt := .ofText data.entryRangeClosedAt.get
    entryBreakoutConfirmedAt := .ofText data.entryBreakoutConfirmedAt.get
    entryCandidateCreatedAt := .ofText data.entryCandidateCreatedAt.get
    entryOrderGeneration := some (data.entryOrderGeneration.get.getD 0)
    entryParentIntentId := some (data.entryParentIntentId.str "")
    orbCandidateStates := some (data.orbCandidateStates.get.getD "")
    pendingEntryReplacement := some (data.pendingEntryReplacement.get.getD "")
    entryReplacementHistory := some (data.entryReplacementHistory.get.getD [])
    stopAdr := data.stopAdr.get
    entryRuntimeStatus := data.entryRuntimeStatus.get.map .text
    entryBlockReason := some (data.entryBlockReason.str "")
    nextRetryAt := .ofText data.nextRetryAt.get
    entryAttemptGroupId := some (data.entryAttemptGroupId.str "")
    entryAttemptCount := some (data.entryAttemptCount.get.getD 0)
    entryClientOrderId := some (data.entryClientOrderId.str "")
    entryPendingAttemptNumber := some (data.entryPendingAttemptNumber.get.getD 0)
    entrySubmissionUnresolved := data.entrySubmissionUnresolved.get.getD false
    entryCancelInFlight := data.entryCancelInFlight.get.getD false
    entryCancelReason := some (data.entryCancelReason.str "")
    entryCancelCommandId := some (data.entryCancelCommandId.str "")
    positionRuntimeStatus := data.positionRuntimeStatus.enum .none_
    brokerQuantity := some (data.brokerQuantity.get.getD 0)
    orderableQuantity := some (data.orderableQuantity.get.getD 0)
    averageEntryPrice := data.averageEntryPrice.getOr (.finite 0)
    entryRemainingTargetQuantity := some (data.entryRemainingTargetQuantity.get.getD 0)
    stopType := data.stopType.get.map .text
    activeStopPrice := data.activeStopPrice.get
    stopQuantity := some (data.stopQuantity.get.getD 0)
    pendingStopType := data.pendingStopType.get.map .text
    pendingStopPrice := data.pendingStopPrice.get
    pendingStopQuantity := some (data.pendingStopQuantity.get.getD 0)
    pendingStopCommandId := some (data.pendingStopCommandId.str "")
    pendingStopRequestedAt := .ofText data.pendingStopRequestedAt.get
    exitAllRequired := data.exitAllRequired.get.getD false
    sellAllAtMarketOpen := data.sellAllAtMarketOpen.get.getD false
    pendingPartialSellQuantity := some (data.pendingPartialSellQuantity.get.getD 0)
    reservedSellQuantity := some (data.reservedSellQuantity.get.getD 0)
    nextExitRetryAt := .ofText data.nextExitRetryAt.get
    exitAttemptCount := some (data.exitAttemptCount.get.getD 0)
    exitAttemptGroupId := some (data.exitAttemptGroupId.str "")
    exitClientOrderId := some (data.exitClientOrderId.str "")
    exitPendingAttemptNumber := some (data.exitPendingAttemptNumber.get.getD 0)
    exitSubmissionUnresolved := data.exitSubmissionUnresolved.get.getD false
    lastExitError := some (data.lastExitError.str "")
    exitCancelInFlight := data.exitCancelInFlight.get.getD false
    exitCancelRequestedAt := .ofText data.exitCancelRequestedAt.get
    exitCancelCommandId := some (data.exitCancelCommandId.str "")
    capitalReservationId := some (data.capitalReservationId.str "")
    marketDataLastTrustedPrice := data.marketDataLastTrustedPrice.get
    marketDataLastTrustedAt := .ofText data.marketDataLastTrustedAt.get
    marketDataOutageStartedAt := .ofText data.marketDataOutageStartedAt.get
    marketDataOutageRiskTier := some (data.marketDataOutageRiskTier.str "")
    createdAt := data.createdAt.orNow clock.createdAt
    updatedAt := data.updatedAt.orNow clock.updatedAt
    warnings := some (data.warnings.get.getD []) }

/-- `TradeCardState.from_dict`. -/
def fromDict (clock : ConstructionClock) (data : CardPayload) : Except Raised CompleteCard :=
  postInit clock (argumentsOfDict clock data)

/-! ## What the constructor makes sure of -/

/-- The part of a normal card in its execution state. -/
structure StateNormalized (card : TradeCardState) : Prop where
  environment : card.environment = "PROD"
  accountNo : strip card.accountNo = card.accountNo
  symbol : cardSymbolKey (some card.symbol) = card.symbol
  named : card.symbol ≠ ""
  version : card.version ≠ 0
  positionPercent : 0 ≤ card.positionPercent
  generation : 0 ≤ card.orbGeneration.entryOrderGeneration
  riskTier : upper card.marketDataOutageRiskTier = card.marketDataOutageRiskTier

/-- A card whose fields the constructor would keep, but for the execution price and the
two windows. -/
structure Normalized (card : CompleteCard) : Prop where
  state : StateNormalized card.toTradeCardState
  kisWsSymbolKey : strip card.kisWsSymbolKey = card.kisWsSymbolKey
  risk : 0 ≤ card.riskPercent ∧ card.riskPercent ≤ 1

theorem requireRiskFraction_eq_ok_iff {risk : ℚ} :
    requireRiskFraction risk = .ok () ↔ 0 ≤ risk ∧ risk ≤ 1 := by
  unfold requireRiskFraction
  split <;> simp_all

/-- What the constructor checked, and the card it returns. -/
theorem postInit_ok (h : postInit clock arguments = .ok card) :
    ∃ dates times, environmentKey arguments.environment = "PROD" ∧
      cardSymbolKey arguments.symbol ≠ "" ∧
      (0 ≤ finiteFloatOr arguments.riskPercent (1 / 100) ∧
        finiteFloatOr arguments.riskPercent (1 / 100) ≤ 1) ∧
      normalizedCard arguments dates times = card := by
  obtain ⟨_, hIdentity, hRest⟩ := bind_eq_ok.mp h
  obtain ⟨dates, _, hRest⟩ := bind_eq_ok.mp hRest
  obtain ⟨_, hRisk, hRest⟩ := bind_eq_ok.mp hRest
  obtain ⟨times, _, hCard⟩ := bind_eq_ok.mp hRest
  obtain ⟨hEnvironment, hNamed⟩ := requireTradeCardIdentity_ok.mp hIdentity
  exact ⟨dates, times, hEnvironment, hNamed, requireRiskFraction_eq_ok_iff.mp hRisk,
    Except.ok.inj hCard⟩

theorem postInit_normalized (h : postInit clock arguments = .ok card) : Normalized card := by
  obtain ⟨dates, times, hEnvironment, hNamed, hRisk, hMade⟩ := postInit_ok h
  rw [← hMade]
  exact
    { state :=
        { environment := hEnvironment
          accountNo := strip_strip (arguments.accountNo.getD "")
          symbol := cardSymbolKey_cardSymbolKey arguments.symbol
          named := hNamed
          version := intOr_ne_zero arguments.version one_ne_zero
          positionPercent := le_max_left 0 (finiteFloatOr arguments.positionPercent 0)
          generation := le_max_left 0 (arguments.entryOrderGeneration.getD 0)
          riskTier := upper_upper (arguments.marketDataOutageRiskTier.getD "") }
      kisWsSymbolKey := strip_strip (arguments.kisWsSymbolKey.getD "")
      risk := hRisk }

/-! ## The round trip -/

/-- The card after a restart: a window is stripped, or dropped when it is empty, and a
missing execution price is filled in. -/
def restored (card : CompleteCard) : CompleteCard :=
  card.withState
    { card.toTradeCardState with
      selectedOrbWindow := orbWindow card.selectedOrbWindow
      entryOrbWindow := orbWindow card.entryOrbWindow
      orbGeneration :=
        { card.orbGeneration with
          entryExecutionPrice := card.orbGeneration.entryExecutionPrice.or
            (executionPriceDefault card.entryTrigger card.entryOrbHigh) } }

theorem persistedRiskFraction_toDict (card : CompleteCard) :
    persistedRiskFraction (toDict card) = card.riskPercent := by
  have hUnit : strip "fraction" ≠ "" := by decide +kernel
  exact if_neg (fun hNone => hUnit hNone.1)

def planDates (card : CompleteCard) : PlanDates :=
  { boardStatusUpdatedAt := card.boardStatusUpdatedAt
    sessionDate := card.sessionDate
    watchlistSessionDate := card.watchlistSessionDate
    lastBuyTodaySessionDate := card.lastBuyTodaySessionDate }

theorem readPlanDates_toDict (clock : ConstructionClock) (card : CompleteCard) :
    readPlanDates clock (argumentsOfDict clock (toDict card)) = .ok (planDates card) := by
  unfold readPlanDates
  simp only [argumentsOfDict, toDict, Stored.get_value, Stored.get_ofOption,
    TimestampArgument.ofText_some, parseTimestamp_isoformat, parseOptionalDate_isoDate]
  rfl

def lifecycleTimes (card : CompleteCard) : LifecycleTimes :=
  { entryRangeClosedAt := card.orbGeneration.entryRangeClosedAt
    entryBreakoutConfirmedAt := card.orbGeneration.entryBreakoutConfirmedAt
    entryCandidateCreatedAt := card.orbGeneration.entryCandidateCreatedAt
    nextRetryAt := card.nextRetryAt
    pendingStopRequestedAt := card.pendingStop.requestedAt
    nextExitRetryAt := card.nextExitRetryAt
    exitCancelRequestedAt := card.exitCancelRequestedAt
    marketDataLastTrustedAt := card.marketDataLastTrustedAt
    marketDataOutageStartedAt := card.marketDataOutageStartedAt
    createdAt := card.createdAt
    updatedAt := card.updatedAt }

theorem readLifecycleTimes_toDict (clock : ConstructionClock) (card : CompleteCard) :
    readLifecycleTimes clock (argumentsOfDict clock (toDict card)) = .ok (lifecycleTimes card) := by
  unfold readLifecycleTimes
  simp only [argumentsOfDict, toDict, Stored.get_ofOption, optionalTimestamp_isoformat,
    Stored.parseTimestamp_orNow]
  rfl

private theorem filterMap_map_some (items : List String) :
    (items.map some).filterMap id = items := by
  rw [List.filterMap_map]
  exact List.filterMap_some

theorem normalizedCard_toDict (clock : ConstructionClock) (h : Normalized card) :
    normalizedCard (argumentsOfDict clock (toDict card)) (planDates card)
      (lifecycleTimes card) = restored card := by
  have hEnvironment : environmentKey (some card.environment) = card.environment := by
    rw [h.state.environment]
    decide +kernel
  have hVersion : intOr (some card.version) 1 = card.version := intOr_of_ne_zero 1 h.state.version
  have hPosition : max 0 card.positionPercent = card.positionPercent :=
    max_eq_right h.state.positionPercent
  have hGeneration : max 0 card.orbGeneration.entryOrderGeneration =
      card.orbGeneration.entryOrderGeneration :=
    max_eq_right h.state.generation
  have hAccount := h.state.accountNo
  have hSymbol := h.state.symbol
  have hTier := h.state.riskTier
  have hKis := h.kisWsSymbolKey
  unfold normalizedCard argumentsOfDict
  simp only [persistedRiskFraction_toDict]
  simp only [toDict, Stored.str_value, Stored.get_value, Stored.get_ofOption, Stored.getOr_value,
    Stored.enum_value, Option.getD_some, finiteFloat_map_finite, finiteFloatOr_finite,
    Option.or_none, boardStatusOf_text, positionRuntimeStatusOf_text, map_boardStatusOf,
    map_entryRuntimeStatusOf, map_stopTypeOf, filterMap_map_some, hEnvironment, hVersion,
    hPosition, hGeneration, hAccount, hSymbol, hTier, hKis]
  rfl

/-- A normal card comes back as `restored` says. -/
theorem fromDict_toDict (clock : ConstructionClock) (h : Normalized card) :
    fromDict clock (toDict card) = .ok (restored card) := by
  have hIdentity : requireTradeCardIdentity
      (environmentKey (argumentsOfDict clock (toDict card)).environment)
      (cardSymbolKey (argumentsOfDict clock (toDict card)).symbol) = .ok () := by
    have hEnvironment : environmentKey (some card.environment) = "PROD" := by
      rw [h.state.environment]
      decide +kernel
    have hNamed : cardSymbolKey (some card.symbol) ≠ "" := by
      rw [h.state.symbol]
      exact h.state.named
    exact requireTradeCardIdentity_ok.mpr ⟨hEnvironment, hNamed⟩
  have hRisk : requireRiskFraction
      (finiteFloatOr (argumentsOfDict clock (toDict card)).riskPercent (1 / 100)) = .ok () := by
    simp only [argumentsOfDict, persistedRiskFraction_toDict, finiteFloatOr_finite]
    exact requireRiskFraction_eq_ok_iff.mpr h.risk
  unfold fromDict postInit
  rw [hIdentity, readPlanDates_toDict, hRisk, readLifecycleTimes_toDict]
  exact congrArg Except.ok (normalizedCard_toDict clock h)

/-! ## The cards a restart gives back -/

/-- A window as the constructor leaves one: there is none, or its text is stripped and not
empty. -/
def WindowKept (window : Option String) : Prop :=
  ∀ text, window = some text → text ≠ "" ∧ strip text = text

/-- Both windows are kept, and an execution price is missing only on a card that has neither
a trigger nor the high of an opening range. -/
structure SurvivesRestart (card : TradeCardState) : Prop where
  selectedOrbWindow : WindowKept card.selectedOrbWindow
  entryOrbWindow : WindowKept card.entryOrbWindow
  executionPrice : card.orbGeneration.entryExecutionPrice = none →
    (card.entryTrigger = none ∨ card.entryTrigger = some 0) ∧ card.entryOrbHigh = none

theorem orbWindow_eq_self_iff {window : Option String} :
    orbWindow window = window ↔ WindowKept window := by
  cases window with
  | none => simp [orbWindow, WindowKept]
  | some text => by_cases hEmpty : text = "" <;> simp [orbWindow, WindowKept, hEmpty]

theorem executionPriceDefault_eq_none_iff {entryTrigger entryOrbHigh : Option ℚ} :
    executionPriceDefault entryTrigger entryOrbHigh = none ↔
      (entryTrigger = none ∨ entryTrigger = some 0) ∧ entryOrbHigh = none := by
  unfold executionPriceDefault
  by_cases hUnset : entryTrigger = none ∨ entryTrigger = some 0
  · simp [hUnset]
  · rw [if_neg hUnset]
    constructor
    · intro hNone
      exact absurd (Or.inl hNone) hUnset
    · intro hBoth
      exact absurd hBoth.1 hUnset

private theorem or_eq_self_iff {value default : Option ℚ} :
    value.or default = value ↔ (value = none → default = none) := by
  cases value <;> simp

/-- The restart changes nothing just when none of the three fields is filled in. -/
theorem restored_eq_self_iff : restored card = card ↔ SurvivesRestart card.toTradeCardState := by
  constructor
  · intro hSame
    have hSelected : orbWindow card.selectedOrbWindow = card.selectedOrbWindow :=
      congrArg (fun after : CompleteCard => after.selectedOrbWindow) hSame
    have hEntry : orbWindow card.entryOrbWindow = card.entryOrbWindow :=
      congrArg (fun after : CompleteCard => after.entryOrbWindow) hSame
    have hPrice : card.orbGeneration.entryExecutionPrice.or
        (executionPriceDefault card.entryTrigger card.entryOrbHigh) =
          card.orbGeneration.entryExecutionPrice :=
      congrArg (fun after : CompleteCard => after.orbGeneration.entryExecutionPrice) hSame
    exact ⟨orbWindow_eq_self_iff.mp hSelected, orbWindow_eq_self_iff.mp hEntry,
      fun hNone => executionPriceDefault_eq_none_iff.mp (or_eq_self_iff.mp hPrice hNone)⟩
  · intro hKept
    have hSelected := orbWindow_eq_self_iff.mpr hKept.selectedOrbWindow
    have hEntry := orbWindow_eq_self_iff.mpr hKept.entryOrbWindow
    have hPrice : card.orbGeneration.entryExecutionPrice.or
        (executionPriceDefault card.entryTrigger card.entryOrbHigh) =
          card.orbGeneration.entryExecutionPrice :=
      or_eq_self_iff.mpr fun hNone =>
        executionPriceDefault_eq_none_iff.mpr (hKept.executionPrice hNone)
    unfold restored
    rw [hSelected, hEntry, hPrice]
    rfl

theorem fromDict_toDict_eq_self_iff (clock : ConstructionClock) (h : Normalized card) :
    fromDict clock (toDict card) = .ok card ↔ SurvivesRestart card.toTradeCardState := by
  rw [fromDict_toDict clock h, Except.ok.injEq]
  exact restored_eq_self_iff

/-- A constructor argument the windows of the card survive with: it is not all blanks. -/
def WindowGiven (window : Option String) : Prop :=
  ∀ text, window = some text → text ≠ "" → strip text ≠ ""

theorem windowKept_orbWindow_iff {window : Option String} :
    WindowKept (orbWindow window) ↔ WindowGiven window := by
  cases window with
  | none => simp [orbWindow, WindowKept, WindowGiven]
  | some text =>
    by_cases hEmpty : text = "" <;>
      simp [orbWindow, WindowKept, WindowGiven, hEmpty, strip_strip]

/-- A card the constructor returns survives a restart just when neither of its windows was
given as blanks. -/
theorem postInit_survives_iff (h : postInit clock arguments = .ok card) :
    SurvivesRestart card.toTradeCardState ↔
      WindowGiven arguments.selectedOrbWindow ∧ WindowGiven arguments.entryOrbWindow := by
  obtain ⟨dates, times, _, _, _, hMade⟩ := postInit_ok h
  have hSelected : card.selectedOrbWindow = orbWindow arguments.selectedOrbWindow := by
    rw [← hMade]
    rfl
  have hEntry : card.entryOrbWindow = orbWindow arguments.entryOrbWindow := by
    rw [← hMade]
    rfl
  have hPrice : card.orbGeneration.entryExecutionPrice = none →
      executionPriceDefault card.entryTrigger card.entryOrbHigh = none := by
    rw [← hMade]
    exact fun hNone => eq_none_of_finiteFloat hNone
  rw [← windowKept_orbWindow_iff, ← windowKept_orbWindow_iff, ← hSelected, ← hEntry]
  exact ⟨fun hKept => ⟨hKept.selectedOrbWindow, hKept.entryOrbWindow⟩,
    fun hKept => ⟨hKept.1, hKept.2,
      fun hNone => executionPriceDefault_eq_none_iff.mp (hPrice hNone)⟩⟩

end QuantApp.Services
