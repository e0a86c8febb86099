import QuantApp.Services.PositionManager
import QuantApp.Services.OrderEvidence

/-!
# Projecting an order onto its trade card

The functions of `src/services/account_reconciliation.py` that mutate one
card: definitive non-acceptance of an entry, adoption of a live entry by a
BUY_TODAY card, and `_project_exact_order_to_card` with one definition for
each operational category.
-/

namespace QuantApp.Services

open Core Verified

variable {order : ExecutionOrderRecord} {row : BrokerOrderStatusSnapshot}
  {snapshot : AccountBrokerSnapshot} {card next : TradeCardState}
  {alerts : List ReconciliationAlert} {config : ExecutionConfig}
  {holding : Option AccountHoldingSnapshot} {category : ReconciliationCategory}

/-- `_card_tracks_order`, for a card that exists. -/
def cardTracksOrder (card : TradeCardState) (order : ExecutionOrderRecord) : Bool :=
  if order.side = .buy then
    card.entryClientOrderId = order.clientOrderId ||
      (order.attemptGroupId ≠ "" && card.entryAttemptGroupId = order.attemptGroupId)
  else
    card.exitClientOrderId = order.clientOrderId ||
      (order.attemptGroupId ≠ "" && card.exitAttemptGroupId = order.attemptGroupId)

def clearEntryCardTracking (card : TradeCardState) (retireAttemptGroup : Bool) : TradeCardState :=
  { card with
    entryClientOrderId := ""
    entryCancelCommandId := ""
    entryCancelInFlight := false
    entryCancelReason := ""
    entryPendingAttemptNumber := 0
    entrySubmissionUnresolved := false
    entryAttemptGroupId := if retireAttemptGroup then "" else card.entryAttemptGroupId }

def clearExitCardTracking (card : TradeCardState) (retireAttemptGroup : Bool) : TradeCardState :=
  { card with
    exitClientOrderId := ""
    exitCancelCommandId := ""
    exitCancelInFlight := false
    exitCancelRequestedAt := none
    exitPendingAttemptNumber := 0
    exitSubmissionUnresolved := false
    reservedSellQuantity := 0
    exitAttemptGroupId := if retireAttemptGroup then "" else card.exitAttemptGroupId
    exitAttemptCount := if retireAttemptGroup then 0 else card.exitAttemptCount }

/-! ## Before the broker rows -/

def applyDefinitiveEntryNonacceptance (card : TradeCardState) (observedAt : Instant) :
    TradeCardState :=
  let cleared :=
    { clearEntryCardTracking card true with
      entryAttemptCount := 0
      entryRemainingTargetQuantity := 0
      capitalReservationId := ""
      entryRuntimeStatus := none
      entryBlockReason := ""
      nextRetryAt := none }
  if 0 < card.brokerQuantity then
    { cleared with
      boardStatus := .openPosition
      positionRuntimeStatus :=
        if card.exitAllRequired then card.positionRuntimeStatus else .opened }
  else
    { cleared with
      previousBoardStatus := some card.boardStatus
      boardStatus := .buylist
      boardStatusUpdatedAt := observedAt
      sessionDate := none
      buylistMember := true
      buyTodayNote := "Entry rejected by broker"
      selectedOrbWindow := none
      positionPercent := 0
      plannedQuantity := 0
      targetPositionQuantity := 0
      entryOrbWindow := none
      entryOrbHigh := none
      entryOrbLow := none
      entryTrigger := none
      orbGeneration := {}
      stopAdr := none }

/-- The guard of the definitive non-acceptance branch. -/
def entryDefinitivelyRejected (card : TradeCardState) (order : ExecutionOrderRecord) : Bool :=
  cardTracksOrder card order && order.side = .buy && order.intent = .entry &&
    (order.status = .rejected || order.status = .notAcceptedConfirmed) &&
    order.brokerIdentityStatus = .noBrokerOrderConfirmed &&
    (card.boardStatus = .buyToday || card.boardStatus = .entryPending ||
      card.boardStatus = .openPosition)

/-- The guard of the branch that moves a BUY_TODAY card to ENTRY_PENDING. -/
def adoptsLiveEntry (card : TradeCardState) (order : ExecutionOrderRecord)
    (category : ReconciliationCategory) : Bool :=
  cardTracksOrder card order &&
    (category = .entryBuy || category = .entryCompletionBuy) &&
    order.status.isOpen && card.boardStatus = .buyToday

/-- What the classification loop does to the card of one order. -/
def projectLocalOrder (observedAt : Instant) (order : ExecutionOrderRecord)
    (category : ReconciliationCategory) (card : TradeCardState) : TradeCardState :=
  let settled :=
    if entryDefinitivelyRejected card order then
      applyDefinitiveEntryNonacceptance card observedAt
    else card
  if adoptsLiveEntry settled order category then
    { settled with
      boardStatus := .entryPending
      entryRuntimeStatus := some .orderPending
      entryAttemptGroupId := order.attemptGroupId
      entryAttemptCount := order.attemptNumber }
  else settled

/-! ## From one broker row -/

def consumeExitCardAttempt (card : TradeCardState) (order : ExecutionOrderRecord) :
    TradeCardState :=
  { card with
    exitAttemptCount :=
      max card.exitAttemptCount (max card.exitPendingAttemptNumber order.attemptNumber)
    exitAttemptGroupId :=
      if order.attemptGroupId ≠ "" then order.attemptGroupId else card.exitAttemptGroupId }

/-- The row's status is one of the terminal execution statuses. -/
def rowIsTerminal (row : BrokerOrderStatusSnapshot) : Bool :=
  match snapshotStatus row.status with
  | some target => target.isTerminal
  | none => false

/-- `a or b or ""` on two optional texts. -/
def firstNonemptyText (first second : Option String) : String :=
  if first.getD "" ≠ "" then first.getD "" else second.getD ""

/-- The stop part of an entry fill: the initial ORB stop when the card has no
stop yet, otherwise only the protected quantity. -/
def projectFillStop (card : TradeCardState) (quantity : Int) : TradeCardState :=
  match card.stopType, card.entryOrbLow with
  | none, some low =>
    if low ≠ 0 then
      applyFirstFillStop card low (firstNonemptyText card.entryOrbWindow card.selectedOrbWindow)
    else { card with stopQuantity := quantity }
  | _, _ => { card with stopQuantity := quantity }

/-- The position an entry row with a fill shows. -/
def projectEntryFill (order : ExecutionOrderRecord) (row : BrokerOrderStatusSnapshot)
    (holding : Option AccountHoldingSnapshot) (card : TradeCardState) : TradeCardState :=
  let openAtBroker := isOpenStatus row.status
  let quantity :=
    match holding with
    | some holding => holding.quantity
    | none => max card.brokerQuantity row.filledQuantity
  let remainingTarget := max 0 (card.targetPositionQuantity - quantity)
  projectFillStop
    { card with
      boardStatus := .openPosition
      brokerQuantity := quantity
      orderableQuantity :=
        match holding with
        | some holding => holding.orderable
        | none => quantity
      averageEntryPrice :=
        match holding with
        | some holding =>
          if holding.averagePrice ≠ 0 then holding.averagePrice else row.avgFillPrice
        | none => row.avgFillPrice
      entryRemainingTargetQuantity := remainingTarget
      positionRuntimeStatus :=
        if openAtBroker ∧ 0 < remainingTarget then .entryCompleting else .opened
      entryRuntimeStatus := if openAtBroker then some .orderPending else none
      entryClientOrderId := if openAtBroker then order.clientOrderId else "" }
    quantity

/-- A TTL reprice keeps the unfilled remainder of its attempt group. -/
def retriesRemainder (card : TradeCardState) : Bool :=
  card.entryCancelReason = "TTL_REPRICE" && 0 < card.entryRemainingTargetQuantity

/-- The end of a filled entry at a terminal row. -/
def retireFilledEntry (card : TradeCardState) : TradeCardState :=
  if retriesRemainder card then clearEntryCardTracking card false
  else
    clearEntryCardTracking
      { card with entryRemainingTargetQuantity := 0, positionRuntimeStatus := .opened } true

/-! A fill stop and a retired entry leave the position where it is. -/

theorem projectFillStop_position (card : TradeCardState) (quantity : Int) :
    (projectFillStop card quantity).brokerQuantity = card.brokerQuantity ∧
      (projectFillStop card quantity).boardStatus = card.boardStatus := by
  unfold projectFillStop
  split
  · split <;> exact ⟨rfl, rfl⟩
  · exact ⟨rfl, rfl⟩

theorem retireFilledEntry_position (card : TradeCardState) :
    (retireFilledEntry card).brokerQuantity = card.brokerQuantity ∧
      (retireFilledEntry card).boardStatus = card.boardStatus := by
  unfold retireFilledEntry
  split <;> exact ⟨rfl, rfl⟩

/-- The ENTRY_BUY and ENTRY_COMPLETION_BUY branch. -/
def projectEntry (order : ExecutionOrderRecord) (row : BrokerOrderStatusSnapshot)
    (holding : Option AccountHoldingSnapshot) (card : TradeCardState) : TradeCardState :=
  if 0 < row.filledQuantity then
    let filled := projectEntryFill order row holding card
    if rowIsTerminal row then retireFilledEntry filled else filled
  else if rowIsTerminal row then
    clearEntryCardTracking
      { card with
        boardStatus := if 0 < card.brokerQuantity then .openPosition else .buylist
        positionRuntimeStatus :=
          if 0 < card.brokerQuantity then .opened else card.positionRuntimeStatus
        entryRuntimeStatus := none
        entryRemainingTargetQuantity := 0 } true
  else if isOpenStatus row.status then
    { card with
      boardStatus := .entryPending
      entryRuntimeStatus := some .orderPending
      entryClientOrderId := order.clientOrderId }
  else card

/-- The fields both sell branches set when the broker still shows the order. -/
def holdExitOrder (order : ExecutionOrderRecord) (row : BrokerOrderStatusSnapshot)
    (card : TradeCardState) : TradeCardState :=
  { card with
    reservedSellQuantity := max 0 row.remainingQuantity
    exitClientOrderId := order.clientOrderId
    exitPendingAttemptNumber := max card.exitPendingAttemptNumber order.attemptNumber }

/-- The alert of a terminal exit that cannot be projected without holdings. -/
def terminalWithoutHoldings (code message : String) (order : ExecutionOrderRecord) :
    ReconciliationAlert :=
  { code := code
    severity := .critical
    message := message
    symbol := order.symbol
    clientOrderId := order.clientOrderId
    brokerOrderId := order.brokerOrderId }

/-- The PARTIAL_SELL branch. -/
def projectPartialSell (config : ExecutionConfig) (order : ExecutionOrderRecord)
    (row : BrokerOrderStatusSnapshot) (snapshot : AccountBrokerSnapshot)
    (holding : Option AccountHoldingSnapshot) (card : TradeCardState) :
    Except Raised (TradeCardState × List ReconciliationAlert) :=
  if isOpenStatus row.status then
    .ok (holdExitOrder order row
      { card with boardStatus := .partialSell, positionRuntimeStatus := .partialExitPending },
      [])
  else if rowIsTerminal row = false then .ok (card, [])
  else if snapshot.completeness.holdingsComplete = false then
    .ok ({ card with exitSubmissionUnresolved := true },
      [terminalWithoutHoldings "PARTIAL_EXIT_TERMINAL_WITHOUT_HOLDINGS"
        "Terminal partial exit cannot be projected without fresh holdings" order])
  else do
    let remaining := (holding.map (·.quantity)).getD 0
    let cleared := clearExitCardTracking { card with pendingPartialSellQuantity := 0 } true
    if remaining ≤ 0 then
      let flat ← confirmFlat { cleared with brokerQuantity := 0, orderableQuantity := 0 }
      pure (flat, [])
    else if 0 < row.filledQuantity then
      pure (onPartialExitFilled config cleared remaining, [])
    else
      pure ({ cleared with
        brokerQuantity := remaining
        orderableQuantity := (holding.map (·.orderable)).getD remaining
        boardStatus := .openPosition
        positionRuntimeStatus := .opened }, [])

/-- The SELL_ALL, STOP_LOSS_SELL and RESERVED_MOO_SELL branch. -/
def projectLiquidation (operational : ReconciliationCategory) (order : ExecutionOrderRecord)
    (row : BrokerOrderStatusSnapshot) (snapshot : AccountBrokerSnapshot)
    (holding : Option AccountHoldingSnapshot) (card : TradeCardState) :
    Except Raised (TradeCardState × List ReconciliationAlert) :=
  if isOpenStatus row.status then
    .ok (holdExitOrder order row
      { card with
        boardStatus := .sellAll
        exitAllRequired := true
        sellAllAtMarketOpen := operational = .reservedMooSell
        positionRuntimeStatus :=
          if operational = .reservedMooSell then .queuedForOpen else .liquidating }, [])
  else if rowIsTerminal row = false then .ok (card, [])
  else if snapshot.completeness.holdingsComplete = false then
    .ok ({ card with exitSubmissionUnresolved := true },
      [terminalWithoutHoldings "LIQUIDATION_TERMINAL_WITHOUT_HOLDINGS"
        "Terminal liquidation cannot be projected without fresh holdings" order])
  else do
    let remaining := (holding.map (·.quantity)).getD 0
    let cleared :=
      { clearExitCardTracking card (remaining ≤ 0) with
        sellAllAtMarketOpen := false
        brokerQuantity := remaining
        orderableQuantity := (holding.map (·.orderable)).getD remaining }
    if remaining ≤ 0 then
      let flat ← confirmFlat cleared
      pure (flat, [])
    else
      pure ({ cleared with
        boardStatus := .sellAll
        exitAllRequired := true
        positionRuntimeStatus := .liquidating }, [])

/-- `_project_exact_order_to_card`, for a card linked to the order. -/
def projectExactOrderToCard (config : ExecutionConfig) (order : ExecutionOrderRecord)
    (row : BrokerOrderStatusSnapshot) (snapshot : AccountBrokerSnapshot)
    (category : ReconciliationCategory) (card : TradeCardState) :
    Except Raised (TradeCardState × List ReconciliationAlert) :=
  let holding :=
    if snapshot.completeness.holdingsComplete then snapshot.holdingFor order.symbol else none
  let operational := operationalCategory order card category
  let consumed := if order.side = .sell then consumeExitCardAttempt card order else card
  match operational with
  | .entryBuy | .entryCompletionBuy => .ok (projectEntry order row holding consumed, [])
  | .partialSell => projectPartialSell config order row snapshot holding consumed
  | .sellAll | .stopLossSell | .reservedMooSell =>
    projectLiquidation operational order row snapshot holding consumed
  | _ => .ok (consumed, [])

/-! ## Every projection stays on its card -/

theorem applyDefinitiveEntryNonacceptance_cardKey (card : TradeCardState) (observedAt : Instant) :
    (applyDefinitiveEntryNonacceptance card observedAt).cardKey = card.cardKey := by
  unfold applyDefinitiveEntryNonacceptance
  dsimp only
  by_cases hHeld : 0 < card.brokerQuantity
  · rw [if_pos hHeld]
    rfl
  · rw [if_neg hHeld]
    rfl

/-- The classification loop refuses a card's entry or leaves the card, and may then adopt the
order. -/
theorem projectLocalOrder_of {P : TradeCardState → Prop} {observedAt : Instant} (hCard : P card)
    (hRejected : entryDefinitivelyRejected card order = true →
      P (applyDefinitiveEntryNonacceptance card observedAt))
    (hAdopted : ∀ settled, P settled → adoptsLiveEntry settled order category = true →
      P { settled with
        boardStatus := .entryPending
        entryRuntimeStatus := some .orderPending
        entryAttemptGroupId := order.attemptGroupId
        entryAttemptCount := order.attemptNumber }) :
    P (projectLocalOrder observedAt order category card) := by
  have hSettled : P (if entryDefinitivelyRejected card order then
      applyDefinitiveEntryNonacceptance card observedAt else card) := by
    split
    next hRefused => exact hRejected hRefused
    · exact hCard
  unfold projectLocalOrder
  dsimp only
  generalize (if entryDefinitivelyRejected card order = true then
    applyDefinitiveEntryNonacceptance card observedAt else card) = settled at hSettled ⊢
  split
  next hAdopts => exact hAdopted _ hSettled hAdopts
  · exact hSettled

theorem projectLocalOrder_cardKey (observedAt : Instant) (order : ExecutionOrderRecord)
    (category : ReconciliationCategory) (card : TradeCardState) :
    (projectLocalOrder observedAt order category card).cardKey = card.cardKey :=
  projectLocalOrder_of (P := fun after => after.cardKey = card.cardKey) rfl
    (fun _ => applyDefinitiveEntryNonacceptance_cardKey card observedAt) (fun _ hKey _ => hKey)

theorem projectFillStop_cardKey (card : TradeCardState) (quantity : Int) :
    (projectFillStop card quantity).cardKey = card.cardKey := by
  unfold projectFillStop
  split
  · split <;> rfl
  · rfl

theorem retireFilledEntry_cardKey (card : TradeCardState) :
    (retireFilledEntry card).cardKey = card.cardKey := by
  unfold retireFilledEntry
  split <;> rfl

theorem projectEntry_cardKey (order : ExecutionOrderRecord) (row : BrokerOrderStatusSnapshot)
    (holding : Option AccountHoldingSnapshot) (card : TradeCardState) :
    (projectEntry order row holding card).cardKey = card.cardKey := by
  have hFill : (projectEntryFill order row holding card).cardKey = card.cardKey := by
    unfold projectEntryFill
    exact projectFillStop_cardKey _ _
  unfold projectEntry
  dsimp only
  split
  · split
    · rw [retireFilledEntry_cardKey]
      exact hFill
    · exact hFill
  split
  · rfl
  split <;> rfl

/-- What the two sell branches share: the broker still works the order, or the
row says nothing, or holdings are missing, or the exit is projected. -/
theorem projectPartialSell_ok
    (h : projectPartialSell config order row snapshot holding card = .ok (next, alerts)) :
    next.cardKey = card.cardKey ∧
      (snapshot.completeness.holdingsComplete = false →
        next.brokerQuantity = card.brokerQuantity ∧
          (next.boardStatus = card.boardStatus ∨ next.boardStatus = .partialSell)) := by
  unfold projectPartialSell at h
  split at h
  · cases h
    exact ⟨rfl, fun _ => ⟨rfl, Or.inr rfl⟩⟩
  split at h
  · cases h
    exact ⟨rfl, fun _ => ⟨rfl, Or.inl rfl⟩⟩
  split at h
  · cases h
    exact ⟨rfl, fun _ => ⟨rfl, Or.inl rfl⟩⟩
  rename_i hComplete
  refine ⟨?_, fun hMissing => absurd hMissing hComplete⟩
  dsimp only at h
  split at h
  · rw [confirmFlat_of_empty (le_refl 0)] at h
    cases h
    rfl
  split at h
  · cases h
    rw [onPartialExitFilled_cardKey]
    rfl
  · cases h
    rfl

theorem projectLiquidation_ok {operational : ReconciliationCategory}
    (h : projectLiquidation operational order row snapshot holding card = .ok (next, alerts)) :
    next.cardKey = card.cardKey ∧
      (snapshot.completeness.holdingsComplete = false →
        next.brokerQuantity = card.brokerQuantity ∧
          (next.boardStatus = card.boardStatus ∨ next.boardStatus = .sellAll)) := by
  unfold projectLiquidation at h
  split at h
  · cases h
    exact ⟨rfl, fun _ => ⟨rfl, Or.inr rfl⟩⟩
  split at h
  · cases h
    exact ⟨rfl, fun _ => ⟨rfl, Or.inl rfl⟩⟩
  split at h
  · cases h
    exact ⟨rfl, fun _ => ⟨rfl, Or.inl rfl⟩⟩
  rename_i hComplete
  refine ⟨?_, fun hMissing => absurd hMissing hComplete⟩
  dsimp only at h
  split at h
  · rename_i hEmpty
    rw [confirmFlat_of_empty (by exact hEmpty)] at h
    cases h
    rfl
  · cases h
    rfl

/-- A projection is one of the three branches, or only consumes the attempt. -/
theorem projectExactOrderToCard_ok
    (h : projectExactOrderToCard config order row snapshot category card = .ok (next, alerts)) :
    let holding :=
      if snapshot.completeness.holdingsComplete then snapshot.holdingFor order.symbol else none
    let consumed := if order.side = .sell then consumeExitCardAttempt card order else card
    (next = projectEntry order row holding consumed ∧
        (operationalCategory order card category = .entryBuy ∨
          operationalCategory order card category = .entryCompletionBuy)) ∨
      projectPartialSell config order row snapshot holding consumed = .ok (next, alerts) ∨
      (∃ operational,
        projectLiquidation operational order row snapshot holding consumed = .ok (next, alerts)) ∨
      next = consumed := by
  unfold projectExactOrderToCard at h
  dsimp only at h ⊢
  split at h
  · rename_i hCategory
    cases h
    exact Or.inl ⟨rfl, Or.inl hCategory⟩
  · rename_i hCategory
    cases h
    exact Or.inl ⟨rfl, Or.inr hCategory⟩
  · exact Or.inr (Or.inl h)
  · exact Or.inr (Or.inr (Or.inl ⟨_, h⟩))
  · exact Or.inr (Or.inr (Or.inl ⟨_, h⟩))
  · exact Or.inr (Or.inr (Or.inl ⟨_, h⟩))
  · cases h
    exact Or.inr (Or.inr (Or.inr rfl))

theorem consumed_cardKey (card : TradeCardState) (order : ExecutionOrderRecord) :
    (if order.side = .sell then consumeExitCardAttempt card order else card).cardKey =
      card.cardKey := by
  split <;> rfl

theorem projectExactOrderToCard_cardKey
    (h : projectExactOrderToCard config order row snapshot category card = .ok (next, alerts)) :
    next.cardKey = card.cardKey := by
  rcases projectExactOrderToCard_ok h with ⟨rfl, _⟩ | hPartial | ⟨_, hLiquidation⟩ | rfl
  · rw [projectEntry_cardKey, consumed_cardKey]
  · rw [(projectPartialSell_ok hPartial).1, consumed_cardKey]
  · rw [(projectLiquidation_ok hLiquidation).1, consumed_cardKey]
  · exact consumed_cardKey card order

end QuantApp.Services
