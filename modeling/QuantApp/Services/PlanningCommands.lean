import QuantApp.Services.ExitCommands

/-!
# Planning commands of the board

`MoveToWatchlist`, `RemoveFromBuylist`, `MoveToBuylist`, `ClearBreakoutPrice` and
`CancelEntry` of `src/services/execution_workflow_service.py`: the policy, the conflict
guard and the mutation of the card.  The guard judges a card by its execution evidence
(`has_durable_execution_evidence`); what it accepts leaves an entry identity where it is
(`accepted_on_identity`).
-/

namespace QuantApp.Services

open Core Verified

/-- The card with the planning fields the commands of this module read or write. -/
structure PlannedCard extends TradeCardState where
  watchlistSessionDate : Option CalendarDate := none
  breakoutPrice : Option ℚ := none
  marketDataLastTrustedPrice : Option ℚ := none
  marketDataLastTrustedAt : Option Instant := none
  deriving DecidableEq

inductive PlanningCommand
  | moveToWatchlist
  | removeFromBuylist
  | moveToBuylist
  | clearBreakoutPrice
  | cancelEntry

/-- The fields of `BoardActionContext` the planning commands read, and the session date
the exchange calendar gives. -/
structure PlanningContext where
  localOperatorControl : Bool := false
  regularSessionOpen : Option Bool := none
  currentOrNextSessionDate : CalendarDate := 0

/-! ## The evidence on a card -/

def hasDurableExecutionEvidence (card : TradeCardState) : Bool :=
  card.nextRetryAt ≠ none ||
    card.entryAttemptGroupId ≠ "" ||
    card.entryAttemptCount ≠ 0 ||
    card.entryClientOrderId ≠ "" ||
    card.entryPendingAttemptNumber ≠ 0 ||
    card.entrySubmissionUnresolved ||
    card.entryCancelInFlight ||
    card.entryCancelReason ≠ "" ||
    card.entryCancelCommandId ≠ "" ||
    card.orbGeneration.pendingEntryReplacement ≠ "" ||
    card.positionRuntimeStatus ≠ .none_ ||
    card.brokerQuantity ≠ 0 ||
    card.orderableQuantity ≠ 0 ||
    card.averageEntryPrice ≠ 0 ||
    card.entryRemainingTargetQuantity ≠ 0 ||
    card.stopType ≠ none ||
    card.activeStopPrice ≠ none ||
    card.stopQuantity ≠ 0 ||
    card.pendingStop.stopType ≠ none ||
    card.pendingStop.price ≠ none ||
    card.pendingStop.quantity ≠ 0 ||
    card.pendingStop.commandId ≠ "" ||
    card.pendingStop.requestedAt ≠ none ||
    card.exitAllRequired ||
    card.sellAllAtMarketOpen ||
    card.pendingPartialSellQuantity ≠ 0 ||
    card.reservedSellQuantity ≠ 0 ||
    card.nextExitRetryAt ≠ none ||
    card.exitAttemptCount ≠ 0 ||
    card.exitAttemptGroupId ≠ "" ||
    card.exitClientOrderId ≠ "" ||
    card.exitPendingAttemptNumber ≠ 0 ||
    card.exitSubmissionUnresolved ||
    card.lastExitError ≠ "" ||
    card.exitCancelInFlight ||
    card.exitCancelRequestedAt ≠ none ||
    card.exitCancelCommandId ≠ "" ||
    card.capitalReservationId ≠ "" ||
    card.returnToBuylistAfterClose

/-- `has_legacy_planning_stop`: the stop a migrated, never traded card came with. -/
def hasLegacyPlanningStop (card : TradeCardState) : Bool :=
  card.version = 1 && "migrated_from_buylist" ∈ card.warnings &&
    (card.boardStatus = .watchlist || card.boardStatus = .buylist) &&
    card.stopType = some .manualPrice &&
    card.activeStopPrice.any (fun price => 0 < price) &&
    card.stopQuantity = 0 &&
    !hasDurableExecutionEvidence { card with stopType := none, activeStopPrice := none }

section

variable {card : TradeCardState} (h : card.entryClientOrderId ≠ "")
include h

theorem evidence_of_identity : hasDurableExecutionEvidence card = true := by
  simp [hasDurableExecutionEvidence, h]

theorem not_legacy_of_identity : hasLegacyPlanningStop card = false := by
  have hEvidence : hasDurableExecutionEvidence
      { card with stopType := none, activeStopPrice := none } = true := evidence_of_identity h
  simp [hasLegacyPlanningStop, hEvidence]

end

/-! ## The guards -/

/-- What a planning command is handled with: the orders of the card and the unowned
broker orders of the account, both read outside the card's transaction. -/
structure PlanningEvidence where
  ownedOrders : List ExecutionOrderRecord := []
  externalOrders : List DiscoveredExternalOrder := []

/-- The orders of the card that have not ended. -/
def PlanningEvidence.activeOrders (evidence : PlanningEvidence) : List ExecutionOrderRecord :=
  evidence.ownedOrders.filter (fun order => !order.status.isTerminal)

/-- `_require_breakout_plan_mutation_policy`, for a planning command. -/
def requireBreakoutPlanMutationPolicy (command : PlanningCommand) (card : TradeCardState)
    (context : PlanningContext) : Except Raised Unit :=
  match command with
  | .clearBreakoutPrice =>
    if context.localOperatorControl = false then
      .error (boardCommandRejected
        "Only the current Operator Control owner may change breakout planning")
    else if context.regularSessionOpen = none then
      .error (boardCommandRejected
        "Market-session state is unavailable; breakout planning fails closed")
    else if card.boardStatus ≠ .watchlist ∧ card.boardStatus ≠ .buylist ∧
        card.boardStatus ≠ .buyToday then
      .error (boardCommandRejected
        ("Cannot change breakout planning from " ++ boardStatusText card.boardStatus))
    else if card.boardStatus = .buyToday ∧ context.regularSessionOpen = some true then
      .error (boardCommandRejected
        "The published Buy Today plan is immutable during regular market hours")
    else .ok ()
  | _ => .ok ()

/-- A card leaves or enters the watchlist only without execution evidence. -/
def requirePlanningStageMove (card : TradeCardState) (evidence : PlanningEvidence) :
    Except Raised Unit :=
  let legacyPlanningStop := hasLegacyPlanningStop card && evidence.ownedOrders.isEmpty
  if evidence.activeOrders ≠ [] ∨
      (hasDurableExecutionEvidence card = true ∧ legacyPlanningStop = false) then
    .error (boardCommandRejected
      ("Planning membership cannot change while order, reservation, or " ++
        "position evidence exists"))
  else .ok ()

/-- An unowned order of the account keeps its card on the board. -/
def requireNoHiddenExternal (card : TradeCardState) (evidence : PlanningEvidence) :
    Except Raised Unit :=
  if evidence.externalOrders.any (isActiveExternalOrder card) then
    .error (boardCommandRejected
      "Planning membership cannot hide an active unowned external broker order")
  else .ok ()

/-- The checks of `MoveToBuylist`. -/
def requireNoEntryLifecycle (card : PlannedCard) (evidence : PlanningEvidence) :
    Except Raised Unit :=
  if card.boardStatus = .entryPending ∨
      (card.boardStatus = .buyToday ∧
        (card.entryClientOrderId ≠ "" ∨ card.entrySubmissionUnresolved ∨
          card.entryCancelInFlight ∨
          evidence.activeOrders.any (fun order => order.side = .buy))) then
    .error (boardCommandRejected
      ("A BUY identity/order already exists; request entry cancellation and wait for " ++
        "broker-confirmed terminal reconciliation"))
  else if card.breakoutPrice.getD 0 ≤ 0 then
    .error (boardCommandRejected "Set a breakout price before adding this symbol to Buylist")
  else .ok ()

/-- The common part of the guard.  It reads the orders of a request and not which command
it is. -/
def requireNoOpenConflict (card : TradeCardState) (evidence : PlanningEvidence) :
    Except Raised Unit :=
  requireNoConflict card
    { command := .requestSellAll
      ownedOrders := evidence.ownedOrders
      externalOrders := evidence.externalOrders }

/-- `_require_board_action_not_conflicted`, for a planning command. -/
def requirePlanningNotConflicted (command : PlanningCommand) (card : PlannedCard)
    (evidence : PlanningEvidence) : Except Raised Unit := do
  match command with
  | .moveToWatchlist | .removeFromBuylist =>
    requirePlanningStageMove card.toTradeCardState evidence
    requireNoHiddenExternal card.toTradeCardState evidence
  | .moveToBuylist =>
    if card.boardStatus = .watchlist then
      requirePlanningStageMove card.toTradeCardState evidence
    requireNoEntryLifecycle card evidence
  | .clearBreakoutPrice =>
    if evidence.activeOrders ≠ [] ∨
        hasDurableExecutionEvidence card.toTradeCardState = true then
      .error (boardCommandRejected
        ("Breakout planning cannot be removed after entry, order, reservation, or " ++
          "position evidence exists"))
    requireNoOpenConflict card.toTradeCardState evidence
  | .cancelEntry =>
    requireNoOpenConflict card.toTradeCardState evidence
    if card.entryBlockReason = "cancel_requested" then
      .error (boardCommandRejected "Entry cancellation is already pending")

/-! ## The mutation -/

def clearExecutableEntryPlan (legacyPlanningStop : Bool) (card : PlannedCard) : PlannedCard :=
  let unstopped : PlannedCard :=
    if legacyPlanningStop then
      { card with stopType := none, activeStopPrice := none, stopQuantity := 0 }
    else card
  { unstopped with
    selectedOrbWindow := none
    positionPercent := 0
    plannedQuantity := 0
    targetPositionQuantity := 0
    entryOrbWindow := none
    entryOrbHigh := none
    entryOrbLow := none
    entryTrigger := none
    orbGeneration := {}
    stopAdr := none
    entryBlockReason := ""
    nextRetryAt := none
    entryAttemptGroupId := ""
    entryAttemptCount := 0
    entryClientOrderId := ""
    entryPendingAttemptNumber := 0
    entrySubmissionUnresolved := false
    entryCancelInFlight := false
    entryCancelReason := ""
    entryCancelCommandId := ""
    entryRemainingTargetQuantity := 0
    capitalReservationId := ""
    marketDataLastTrustedPrice := none
    marketDataLastTrustedAt := none
    marketDataOutageStartedAt := none
    marketDataOutageRiskTier := "" }

/-- `_move_board_card`, on the card with its planning fields. -/
def movePlannedCard (card : PlannedCard) (target : BoardStatus) : Except Raised PlannedCard := do
  let moved ← moveBoardCard card.toTradeCardState target
  pure { card with toTradeCardState := moved }

/-- `MoveToWatchlist`. -/
def applyMoveToWatchlist (card : PlannedCard) (context : PlanningContext) :
    Except Raised PlannedCard := do
  let moved ← movePlannedCard card .watchlist
  let cleared := clearExecutableEntryPlan (hasLegacyPlanningStop card.toTradeCardState) moved
  pure { cleared with
    watchlistMember := true
    watchlistSessionDate := some context.currentOrNextSessionDate
    buylistMember := false
    sessionDate := none
    entryRuntimeStatus := none
    buyTodayNote := "" }

/-- `RemoveFromBuylist`. -/
def applyRemoveFromBuylist (card : PlannedCard) : Except Raised PlannedCard := do
  let moved ← movePlannedCard card .watchlist
  let cleared := clearExecutableEntryPlan (hasLegacyPlanningStop card.toTradeCardState) moved
  pure { cleared with
    buylistMember := false
    sessionDate := none
    entryRuntimeStatus := none
    buyTodayNote := "" }

/-- `MoveToBuylist`. -/
def applyMoveToBuylist (card : PlannedCard) : Except Raised PlannedCard := do
  let moved ← movePlannedCard card .buylist
  let cleared := clearExecutableEntryPlan (hasLegacyPlanningStop card.toTradeCardState) moved
  let planned : PlannedCard :=
    { cleared with
      buylistMember := true
      buyTodayNote := ""
      sessionDate := none
      entryRuntimeStatus := none
      entryBlockReason := "" }
  pure (if planned.entryClientOrderId = "" ∧ planned.brokerQuantity ≤ 0 then
    { planned with entryAttemptGroupId := "", entryAttemptCount := 0 }
  else planned)

/-- `ClearBreakoutPrice`: from `BUY_TODAY` the card passes through the buylist. -/
def applyClearBreakoutPrice (card : PlannedCard) : Except Raised PlannedCard := do
  let moved ←
    if card.boardStatus = .buyToday then do
      let listed ← movePlannedCard card .buylist
      movePlannedCard listed .watchlist
    else if card.boardStatus = .buylist then movePlannedCard card .watchlist
    else pure card
  let cleared := clearExecutableEntryPlan (hasLegacyPlanningStop card.toTradeCardState) moved
  pure { cleared with
    breakoutPrice := none
    buylistMember := false
    sessionDate := none
    buyTodayNote := ""
    entryRuntimeStatus := none }

/-- `CancelEntry`: without an identity the card returns to the buylist at once, with one
the engine is asked to cancel. -/
def applyCancelEntry (card : PlannedCard) : Except Raised PlannedCard :=
  if card.boardStatus = .buyToday ∧ card.entryClientOrderId = "" then do
    let moved ← movePlannedCard card .buylist
    pure { moved with
      buyTodayNote := ""
      entryRuntimeStatus := none
      entryBlockReason := ""
      entryAttemptGroupId := ""
      entryAttemptCount := 0
      entryClientOrderId := ""
      entryPendingAttemptNumber := 0
      entrySubmissionUnresolved := false }
  else if card.boardStatus = .buyToday ∨ card.boardStatus = .entryPending then
    .ok { card with entryBlockReason := "cancel_requested" }
  else
    .error (boardCommandRejected
      ("Cannot cancel an entry from " ++ boardStatusText card.boardStatus))

/-- The planning commands of `_apply_board_mutation`. -/
def applyPlanning (command : PlanningCommand) (card : PlannedCard) (context : PlanningContext) :
    Except Raised PlannedCard :=
  match command with
  | .moveToWatchlist => applyMoveToWatchlist card context
  | .removeFromBuylist => applyRemoveFromBuylist card
  | .moveToBuylist => applyMoveToBuylist card
  | .clearBreakoutPrice => applyClearBreakoutPrice card
  | .cancelEntry => applyCancelEntry card

/-! ## What an accepted command does to an entry identity -/

/-- The columns in which the board shows an entry order or a position. -/
def InExecutionColumn (status : BoardStatus) : Prop :=
  status = .buyToday ∨ status = .entryPending ∨ status = .openPosition ∨
    status = .partialSell ∨ status = .sellAll

instance (status : BoardStatus) : Decidable (InExecutionColumn status) := by
  unfold InExecutionColumn
  infer_instance

section Accepted

variable {card after : PlannedCard} {evidence : PlanningEvidence} {context : PlanningContext}
  {target : BoardStatus}

theorem requirePlanningStageMove_refuses (hId : card.entryClientOrderId ≠ "") :
    requirePlanningStageMove card.toTradeCardState evidence ≠ .ok () := by
  have hEvidence : hasDurableExecutionEvidence card.toTradeCardState = true :=
    evidence_of_identity hId
  have hLegacy : hasLegacyPlanningStop card.toTradeCardState = false := not_legacy_of_identity hId
  simp [requirePlanningStageMove, hEvidence, hLegacy]

theorem requireNoEntryLifecycle_ok (h : requireNoEntryLifecycle card evidence = .ok ()) :
    card.boardStatus ≠ .entryPending ∧
      (card.boardStatus = .buyToday → card.entryClientOrderId = "") := by
  unfold requireNoEntryLifecycle at h
  split at h
  · cases h
  · next hLifecycle =>
      refine ⟨fun hPending => hLifecycle (Or.inl hPending), ?_⟩
      intro hToday
      by_contra hId
      exact hLifecycle (Or.inr ⟨hToday, Or.inl hId⟩)

theorem movePlannedCard_ok (h : movePlannedCard card target = .ok after) :
    card.boardStatus = target ∨ target ∈ allowedBoardTransitions card.boardStatus := by
  by_contra hEdge
  simp [movePlannedCard, moveBoardCard, hEdge, bind, Except.bind] at h

theorem buyToday_of_move_to_buylist (h : movePlannedCard card .buylist = .ok after)
    (hColumn : InExecutionColumn card.boardStatus) : card.boardStatus = .buyToday := by
  have hEdge := movePlannedCard_ok h
  rcases hColumn with hStatus | hStatus | hStatus | hStatus | hStatus <;>
    rw [hStatus] at hEdge ⊢ <;> simp [allowedBoardTransitions] at hEdge

/-- On a card that names an entry order in a column of the execution board, the guard lets
through no command but the cancellation request. -/
theorem accepted_on_identity {command : PlanningCommand}
    (hGuard : requirePlanningNotConflicted command card evidence = .ok ())
    (hApplied : applyPlanning command card context = .ok after)
    (hId : card.entryClientOrderId ≠ "") (hColumn : InExecutionColumn card.boardStatus) :
    after = { card with entryBlockReason := "cancel_requested" } := by
  have hRefuses : requirePlanningStageMove card.toTradeCardState evidence ≠ .ok () :=
    requirePlanningStageMove_refuses hId
  cases command with
  | moveToWatchlist | removeFromBuylist =>
    obtain ⟨_, hMove, _⟩ := bind_eq_ok.mp hGuard
    exact absurd hMove hRefuses
  | moveToBuylist =>
    have hStatus : card.boardStatus ≠ .watchlist := by
      rcases hColumn with h | h | h | h | h <;> simp [h]
    have hLifecycle : requireNoEntryLifecycle card evidence = .ok () := by
      simpa [requirePlanningNotConflicted, hStatus] using hGuard
    obtain ⟨moved, hMove, _⟩ := bind_eq_ok.mp hApplied
    have hToday := buyToday_of_move_to_buylist hMove hColumn
    exact absurd ((requireNoEntryLifecycle_ok hLifecycle).2 hToday) hId
  | clearBreakoutPrice =>
    have hEvidence : hasDurableExecutionEvidence card.toTradeCardState = true :=
      evidence_of_identity hId
    simp [requirePlanningNotConflicted, hEvidence, bind, Except.bind] at hGuard
  | cancelEntry =>
    simp only [applyPlanning, applyCancelEntry, hId, and_false, if_false] at hApplied
    split at hApplied
    · exact (Except.ok.inj hApplied).symm
    · cases hApplied

end Accepted

end QuantApp.Services
