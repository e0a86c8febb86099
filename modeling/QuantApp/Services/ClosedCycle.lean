import QuantApp.Services.PlanningCommands

/-!
# The end of a trade cycle

`SetBreakoutPrice` of `src/services/execution_workflow_service.py` starts a new buylist
cycle on a closed card, unless `_closed_card_cycle_blockers` finds something of the old
cycle on it.  `closing_ends_cycle_iff` compares what `PositionManager.confirm_flat` clears
with what blocks the restart and with what counts as execution evidence after it.
-/

namespace QuantApp.Services

open Core Verified

/-- The card with the planning fields `SetBreakoutPrice` writes besides. -/
structure BreakoutCard extends PlannedCard where
  bufferPct : ℚ := 1 / 1000
  lastBuyTodaySessionDate : Option CalendarDate := none
  rejectedOrbSnapshot : String := ""
  deriving DecidableEq

/-- `SetBreakoutPrice`.  `none` is a float that is not finite. -/
structure SetBreakoutPrice where
  price : Option ℚ
  bufferPct : Option ℚ := some (1 / 1000)
  requestedAt : Instant

def closedCardCycleBlockers (card : TradeCardState) : List String :=
  (if 0 < card.brokerQuantity then ["broker quantity is not flat"] else []) ++
  (if 0 < card.orderableQuantity then ["orderable quantity is not flat"] else []) ++
  (if card.positionRuntimeStatus ≠ .none_ ∧ card.positionRuntimeStatus ≠ .closed then
    ["position reconciliation is not terminal"] else []) ++
  (if card.nextRetryAt ≠ none ∨ card.entrySubmissionUnresolved ∨ card.entryCancelInFlight ∨
      card.entryCancelCommandId ≠ "" ∨ card.entryRemainingTargetQuantity ≠ 0 then
    ["entry reconciliation is not terminal"] else []) ++
  (if card.pendingStop.stopType ≠ none ∨ card.pendingStop.price ≠ none ∨
      card.pendingStop.quantity ≠ 0 ∨ card.pendingStop.commandId ≠ "" ∨
      card.pendingStop.requestedAt ≠ none then
    ["stop state is still active"] else []) ++
  (if card.exitAllRequired ∨ card.sellAllAtMarketOpen ∨ card.pendingPartialSellQuantity ≠ 0 ∨
      card.reservedSellQuantity ≠ 0 ∨ card.nextExitRetryAt ≠ none ∨
      card.exitSubmissionUnresolved ∨ card.exitCancelInFlight ∨
      card.exitCancelRequestedAt ≠ none ∨ card.exitCancelCommandId ≠ "" then
    ["exit reconciliation is not terminal"] else []) ++
  (if card.capitalReservationId ≠ "" then ["capital remains reserved"] else [])

/-! ## The guards -/

/-- `_require_breakout_plan_mutation_policy`, for `SetBreakoutPrice`. -/
def requireSetBreakoutPolicy (command : SetBreakoutPrice) (card : TradeCardState)
    (context : PlanningContext) : Except Raised Unit :=
  if !command.price.any (fun price => 0 < price) then
    .error (boardCommandRejected "Breakout price must be a finite positive number")
  else if !command.bufferPct.any (fun buffer => 0 ≤ buffer ∧ buffer ≤ 1) then
    .error (boardCommandRejected "ORB buffer must be between 0% and 100%")
  else if context.localOperatorControl = false then
    .error (boardCommandRejected
      "Only the current Operator Control owner may change breakout planning")
  else if card.boardStatus ≠ .watchlist ∧ card.boardStatus ≠ .buylist ∧
      card.boardStatus ≠ .buyToday ∧ card.boardStatus ≠ .entryPending ∧
      card.boardStatus ≠ .closed then
    .error (boardCommandRejected
      ("Cannot change breakout planning from " ++ boardStatusText card.boardStatus))
  else .ok ()

/-- `order_belongs_to_current_card_cycle`: an order time that cannot be read counts, and so
does the whole second of the boundary. -/
def orderBelongsToCurrentCardCycle (card : TradeCardState) (order : ExecutionOrderRecord) : Bool :=
  let latest := max card.createdAt card.boardStatusUpdatedAt
  let cycleBoundary := latest - latest % 1000000
  order.preparedAt.reading.all (fun reading => cycleBoundary ≤ reading.assumeUtc)

def orderHasCurrentCycleFill (card : TradeCardState) (order : ExecutionOrderRecord) : Bool :=
  (0 < order.filledQuantity || order.status = .filled) &&
    (!order.status.isTerminal || orderBelongsToCurrentCardCycle card order)

def hasConfirmedFillOrPositionEvidence (card : TradeCardState) (evidence : PlanningEvidence) :
    Bool :=
  0 < card.brokerQuantity || 0 < card.orderableQuantity || 0 < card.averageEntryPrice ||
    card.positionRuntimeStatus ≠ .none_ ||
    evidence.ownedOrders.any (orderHasCurrentCycleFill card)

/-- `_require_board_action_not_conflicted`, for `SetBreakoutPrice`. -/
def requireSetBreakoutNotConflicted (card : TradeCardState) (evidence : PlanningEvidence) :
    Except Raised Unit :=
  if card.boardStatus = .closed then
    if closedCardCycleBlockers card ≠ [] then
      .error (boardCommandRejected
        ("Cannot start a new breakout plan from CLOSED while " ++
          String.intercalate "; " (closedCardCycleBlockers card)))
    else if evidence.activeOrders ≠ [] then
      .error (boardCommandRejected
        ("Cannot start a new breakout plan from CLOSED while an " ++ "owned order is still active"))
    else if evidence.externalOrders.any (isActiveExternalOrder card) then
      .error (boardCommandRejected
        ("Cannot start a new breakout plan from CLOSED while an " ++
          "unowned broker order is still active"))
    else .ok ()
  else if hasConfirmedFillOrPositionEvidence card evidence then
    .error (boardCommandRejected
      "Breakout price cannot change after a fill or position is confirmed")
  else if card.boardStatus = .watchlist ∧
      (evidence.activeOrders ≠ [] ∨ hasDurableExecutionEvidence card = true) then
    .error (boardCommandRejected
      ("Breakout planning cannot change on a hidden Watchlist card while execution " ++
        "evidence exists"))
  else .ok ()

/-! ## The mutation -/

/-- `clear_executable_entry_plan`, on the card with its breakout fields. -/
def BreakoutCard.clearPlan (card : BreakoutCard) (legacyPlanningStop : Bool) : BreakoutCard :=
  { card with toPlannedCard := clearExecutableEntryPlan legacyPlanningStop card.toPlannedCard }

def restartClosedCycle (command : SetBreakoutPrice) (card : BreakoutCard) : BreakoutCard :=
  { card.clearPlan (hasLegacyPlanningStop card.toTradeCardState) with
    previousBoardStatus := some card.boardStatus
    boardStatus := .buylist
    boardStatusUpdatedAt := command.requestedAt
    sessionDate := none
    lastBuyTodaySessionDate := none
    rejectedOrbSnapshot := ""
    buyTodayNote := ""
    entryRuntimeStatus := none
    positionRuntimeStatus := .none_
    brokerQuantity := 0
    orderableQuantity := 0
    averageEntryPrice := 0
    stopType := none
    activeStopPrice := none
    stopQuantity := 0
    pendingStop := {}
    exitAllRequired := false
    sellAllAtMarketOpen := false
    pendingPartialSellQuantity := 0
    reservedSellQuantity := 0
    nextExitRetryAt := none
    exitAttemptCount := 0
    exitAttemptGroupId := ""
    exitClientOrderId := ""
    exitPendingAttemptNumber := 0
    exitSubmissionUnresolved := false
    lastExitError := ""
    exitCancelInFlight := false
    exitCancelRequestedAt := none
    exitCancelCommandId := ""
    returnToBuylistAfterClose := false
    warnings := [] }

/-- The end of the `SetBreakoutPrice` branch: the buffer of a new plan, the price, and the
membership. -/
def writeBreakoutPlan (command : SetBreakoutPrice) (hadCanonicalTarget : Bool)
    (card : BreakoutCard) : BreakoutCard :=
  { card with
    bufferPct :=
      if (card.boardStatus = .watchlist ∨ card.boardStatus = .buylist) ∧
          hadCanonicalTarget = false then
        command.bufferPct.getD card.bufferPct
      else card.bufferPct
    breakoutPrice := command.price
    buylistMember := card.buylistMember || decide (card.boardStatus ≠ .watchlist) }

/-- The `SetBreakoutPrice` branch of `_apply_board_mutation`. -/
def applySetBreakoutPrice (command : SetBreakoutPrice) (card : BreakoutCard)
    (activeOrders : List ExecutionOrderRecord) : BreakoutCard :=
  let legacyPlanningStop := hasLegacyPlanningStop card.toTradeCardState
  let restarting : Bool := card.boardStatus = .closed
  let started := if restarting then restartClosedCycle command card else card
  let hadCanonicalTarget : Bool := !restarting && 0 < started.breakoutPrice.getD 0
  let preserve : Bool := !restarting &&
    (activeOrders ≠ [] || hasDurableExecutionEvidence started.toTradeCardState)
  if preserve then writeBreakoutPlan command hadCanonicalTarget started
  else
    let planned := writeBreakoutPlan command hadCanonicalTarget
      (started.clearPlan legacyPlanningStop)
    { planned with
      buyTodayNote := ""
      entryRuntimeStatus := if planned.boardStatus = .buyToday then some .orbForming else none }

/-- `request_board_action` on `SetBreakoutPrice`. -/
def requestSetBreakoutPrice (command : SetBreakoutPrice) (card : BreakoutCard)
    (evidence : PlanningEvidence) (context : PlanningContext) :
    Except Raised BreakoutCard := do
  requireSetBreakoutPolicy command card.toTradeCardState context
  requireSetBreakoutNotConflicted card.toTradeCardState evidence
  pure (applySetBreakoutPrice command card evidence.activeOrders)

/-- The card with its execution state replaced. -/
def BreakoutCard.withState (card : BreakoutCard) (state : TradeCardState) : BreakoutCard :=
  { card with toPlannedCard := { card.toPlannedCard with toTradeCardState := state } }

@[simp] theorem BreakoutCard.withState_toTradeCardState (card : BreakoutCard)
    (state : TradeCardState) : (card.withState state).toTradeCardState = state := rfl

/-! ## What blocks a restart -/

private theorem line_eq_nil_iff {p : Prop} [Decidable p] {line : String} :
    (if p then [line] else []) = [] ↔ ¬ p := by
  split <;> simp_all

theorem closedCardCycleBlockers_closedFlat_eq_nil_iff {card : TradeCardState}
    (hBroker : card.brokerQuantity = 0) (hOrderable : card.orderableQuantity = 0) :
    closedCardCycleBlockers (closedFlat card) = [] ↔
      card.nextRetryAt = none ∧ card.pendingPartialSellQuantity = 0 ∧
        card.capitalReservationId = "" := by
  unfold closedCardCycleBlockers
  simp only [List.append_eq_nil_iff, line_eq_nil_iff]
  simp [closedFlat, hBroker, hOrderable, and_assoc]

/-! ## What a restart leaves -/

theorem no_evidence_after_restart (command : SetBreakoutPrice) (card : BreakoutCard) :
    hasDurableExecutionEvidence (restartClosedCycle command card).toTradeCardState = false := by
  simp [hasDurableExecutionEvidence, restartClosedCycle, BreakoutCard.clearPlan,
    clearExecutableEntryPlan]

theorem no_evidence_after_clearPlan {card : BreakoutCard} (legacyPlanningStop : Bool)
    (h : hasDurableExecutionEvidence card.toTradeCardState = false) :
    hasDurableExecutionEvidence (card.clearPlan legacyPlanningStop).toTradeCardState =
      false := by
  cases legacyPlanningStop <;>
    simp_all [hasDurableExecutionEvidence, BreakoutCard.clearPlan, clearExecutableEntryPlan]

/-- Whatever a closed card still carries, a price set on it leaves a buylist card without
execution evidence. -/
theorem restarted_clean {command : SetBreakoutPrice} {card : BreakoutCard}
    {activeOrders : List ExecutionOrderRecord} (hClosed : card.boardStatus = .closed) :
    (applySetBreakoutPrice command card activeOrders).boardStatus = .buylist ∧
      hasDurableExecutionEvidence
        (applySetBreakoutPrice command card activeOrders).toTradeCardState = false := by
  have hRestarted := no_evidence_after_restart command card
  have hCleared := no_evidence_after_clearPlan
    (hasLegacyPlanningStop card.toTradeCardState) hRestarted
  unfold applySetBreakoutPrice
  simp only [hClosed, decide_true, Bool.not_true, Bool.false_and, Bool.false_eq_true, if_false,
    if_true]
  refine ⟨?_, ?_⟩
  · simp [writeBreakoutPlan, BreakoutCard.clearPlan, clearExecutableEntryPlan, restartClosedCycle]
  · -- the note and the runtime status are no evidence
    exact hCleared

/-! ## The cycle as a whole -/

section Accepted

variable {command : SetBreakoutPrice} {card : BreakoutCard} {evidence : PlanningEvidence}
  {context : PlanningContext}

theorem requestSetBreakoutPrice_ok {after : BreakoutCard}
    (h : requestSetBreakoutPrice command card evidence context = .ok after) :
    after = applySetBreakoutPrice command card evidence.activeOrders := by
  obtain ⟨_, _, hGuarded⟩ := bind_eq_ok.mp h
  obtain ⟨_, _, hApplied⟩ := bind_eq_ok.mp hGuarded
  exact (Except.ok.inj hApplied).symm

end Accepted

/-- The closed cycle is over: nothing blocks a restart, and every accepted restart leaves a
buylist card without execution evidence. -/
def CycleEnded (card : BreakoutCard) : Prop :=
  closedCardCycleBlockers card.toTradeCardState = [] ∧
    ∀ (command : SetBreakoutPrice) (evidence : PlanningEvidence) (context : PlanningContext)
      (after : BreakoutCard),
      requestSetBreakoutPrice command card evidence context = .ok after →
      after.boardStatus = .buylist ∧ hasDurableExecutionEvidence after.toTradeCardState = false

/-- `confirm_flat` on a flat card returns a closed card, and it ends the cycle just when no
entry retry, no requested partial sell and no capital reservation was left on the card. -/
theorem closing_ends_cycle_iff (card : BreakoutCard) (hBroker : card.brokerQuantity = 0)
    (hOrderable : card.orderableQuantity = 0) :
    (∃ closed, confirmFlat card.toTradeCardState = .ok closed ∧ closed.boardStatus = .closed ∧
        CycleEnded (card.withState closed)) ↔
      card.nextRetryAt = none ∧ card.pendingPartialSellQuantity = 0 ∧
        card.capitalReservationId = "" := by
  have hFlat : confirmFlat card.toTradeCardState = .ok (closedFlat card.toTradeCardState) :=
    confirmFlat_of_empty (by omega)
  rw [← closedCardCycleBlockers_closedFlat_eq_nil_iff hBroker hOrderable]
  constructor
  · rintro ⟨closed, hConfirmed, _, hEnded⟩
    rw [hFlat] at hConfirmed
    rw [Except.ok.inj hConfirmed]
    exact hEnded.1
  · intro hBlockers
    refine ⟨closedFlat card.toTradeCardState, hFlat, rfl, hBlockers, ?_⟩
    intro command evidence context after hAccepted
    rw [requestSetBreakoutPrice_ok hAccepted]
    exact restarted_clean rfl

/-- A position opened under a capital reservation, and sold outside the application until
the broker reports nothing. -/
def soldReservedCard : BreakoutCard :=
  { environment := "PROD"
    accountNo := "50068923"
    symbol := "AAPL"
    version := 7
    boardStatus := .openPosition
    previousBoardStatus := some .entryPending
    buylistMember := true
    breakoutPrice := some 190
    positionRuntimeStatus := .opened
    averageEntryPrice := 191
    stopType := some .orbLow
    activeStopPrice := some 188
    stopQuantity := 10
    capitalReservationId := "reservation-1" }

/-- Its flat confirmation closes it, and the reservation blocks the next cycle. -/
theorem reservation_blocks_restart :
    confirmFlat soldReservedCard.toTradeCardState =
        .ok (closedFlat soldReservedCard.toTradeCardState) ∧
      closedCardCycleBlockers (closedFlat soldReservedCard.toTradeCardState) =
        ["capital remains reserved"] ∧
      ¬ ∀ card : BreakoutCard, card.brokerQuantity = 0 → card.orderableQuantity = 0 →
        ∀ closed, confirmFlat card.toTradeCardState = .ok closed →
          closedCardCycleBlockers closed = [] := by
  have hBlocked : closedCardCycleBlockers (closedFlat soldReservedCard.toTradeCardState) =
      ["capital remains reserved"] := by decide +kernel
  refine ⟨confirmFlat_of_empty (by decide), hBlocked, ?_⟩
  intro hAll
  have hNone := hAll soldReservedCard rfl rfl _ (confirmFlat_of_empty (by decide))
  rw [hBlocked] at hNone
  cases hNone

/-- Without the reservation the same position ends its cycle. -/
theorem closing_ends_cycle_released :
    ∃ closed,
      confirmFlat { soldReservedCard with capitalReservationId := "" }.toTradeCardState =
        .ok closed ∧
      closed.boardStatus = .closed ∧
      CycleEnded
        (BreakoutCard.withState { soldReservedCard with capitalReservationId := "" } closed) :=
  (closing_ends_cycle_iff { soldReservedCard with capitalReservationId := "" } rfl rfl).mpr
    ⟨rfl, rfl, rfl⟩

end QuantApp.Services
