import QuantApp.Services.AccountReconciliation
import QuantApp.Services.EodTradingService
import QuantApp.Services.PartialExit
import QuantApp.Services.StopRequests
import QuantApp.Verified.LabelledRuns

/-!
# The stop of a held card

Between the first fill and `confirm_flat` the stop of a card should only rise.  The
guards compare with the stop when a change is requested; what an acknowledgement, a
first fill and the end-of-day pass install is not compared with anything.  The stop
keeps rising in exactly the steps that find no higher stop than the one they install.
-/

namespace QuantApp.Services

open Core Verified

variable {card next before after : TradeCardState} {snapshot : AccountBrokerSnapshot}
  {config : ExecutionConfig} {order : ExecutionOrderRecord} {row : BrokerOrderStatusSnapshot}
  {alerts : List ReconciliationAlert} {environment accountNo : String}
  {change : Option TradeCardState} {holding : Option AccountHoldingSnapshot}

/-! ## The steps -/

/-- One operation on the card: the engine's fills and partial exits, the board's stop
changes, the reducer's and the position manager's projections, the end-of-day pass. -/
inductive StopEvent
  | fill (order : BrokerOrder) (holding : Option BrokerHolding)
  | partialExit (remaining : Int)
  | request (request : StopRequest)
  | acknowledge
  | localOrder (observedAt : Instant) (order : ExecutionOrderRecord)
      (category : ReconciliationCategory)
  | exactOrder (order : ExecutionOrderRecord) (row : BrokerOrderStatusSnapshot)
      (snapshot : AccountBrokerSnapshot) (category : ReconciliationCategory)
  | reported (holding : AccountHoldingSnapshot)
  | unheld (snapshot : AccountBrokerSnapshot)
  | staleEntry (snapshot : AccountBrokerSnapshot) (orders : List ExecutionOrderRecord)
  | position (now : Instant) (environment accountNo : String) (holding : BrokerHolding)
  | positionExit (environment accountNo : String) (holdings : List BrokerHolding)
  | endOfDay (answers : EodAnswers)

/-- What the operation makes of the card. -/
def StopEvent.apply (config : ExecutionConfig) (card : TradeCardState) :
    StopEvent → Except Raised TradeCardState
  | .fill order holding => .ok (protectNewFill card order holding).1
  | .partialExit remaining => .ok (completePartialExit config card remaining)
  | .request asked => requestStop config card asked
  | .acknowledge => .ok (acknowledgePendingStopChange card)
  | .localOrder observedAt order category =>
    .ok (projectLocalOrder observedAt order category card)
  | .exactOrder order row snapshot category =>
    Prod.fst <$> projectExactOrderToCard config order row snapshot category card
  | .reported holding => .ok (applyHolding card holding)
  | .unheld snapshot => sweepUnheldCard snapshot card
  | .staleEntry snapshot orders => .ok (retireStaleEntry snapshot orders card)
  | .position now environment accountNo holding =>
    (·.getD card) <$> holdPosition now environment accountNo card holding
  | .positionExit environment accountNo holdings =>
    (·.getD card) <$> exitPosition environment accountNo holdings card
  | .endOfDay answers => .ok (runEodCleanup card answers)

/-- `confirm_flat` has closed the card. -/
def FlatConfirmed (card : TradeCardState) : Prop :=
  card.boardStatus = .closed ∧ card.positionRuntimeStatus = .closed ∧ card.activeStopPrice = none

/-- One operation that does not close the card. -/
def HeldStep (config : ExecutionConfig) (before : TradeCardState) (event : StopEvent)
    (after : TradeCardState) : Prop :=
  event.apply config before = .ok after ∧ ¬ FlatConfirmed after

/-! ## Keeping the stop -/

/-- The stop has not decreased, and has not been lost. -/
def StopKept (before after : TradeCardState) : Prop :=
  ∀ price, before.activeStopPrice = some price →
    ∃ raised, after.activeStopPrice = some raised ∧ price ≤ raised

/-- The card has no stop above `price`. -/
def StopAtMost (card : TradeCardState) (price : ℚ) : Prop :=
  ∀ current, card.activeStopPrice = some current → current ≤ price

theorem StopKept.of_eq (h : after.activeStopPrice = before.activeStopPrice) :
    StopKept before after := by
  intro price hPrice
  exact ⟨price, h.trans hPrice, le_refl price⟩

theorem StopKept.trans {first second third : TradeCardState} (h : StopKept first second)
    (h' : StopKept second third) : StopKept first third := by
  intro price hPrice
  obtain ⟨middle, hMiddle, hFirst⟩ := h price hPrice
  obtain ⟨raised, hRaised, hSecond⟩ := h' middle hMiddle
  exact ⟨raised, hRaised, hFirst.trans hSecond⟩

/-- An installed price keeps the stop exactly when the stop was not above it. -/
theorem stopKept_iff_of_installs {price : ℚ} (h : after.activeStopPrice = some price) :
    StopKept before after ↔ StopAtMost before price := by
  constructor
  · intro hKept current hCurrent
    obtain ⟨raised, hRaised, hLe⟩ := hKept current hCurrent
    rw [h] at hRaised
    cases hRaised
    exact hLe
  · intro hAtMost current hCurrent
    exact ⟨price, h, hAtMost current hCurrent⟩

/-! ## The installing steps -/

/-- A row that makes the reducer install the ORB low: an entry with a fill, on a card
without a stop type. -/
def ProjectsFirstStop (card : TradeCardState) (order : ExecutionOrderRecord)
    (row : BrokerOrderStatusSnapshot) (category : ReconciliationCategory) : Prop :=
  (operationalCategory order card category = .entryBuy ∨
      operationalCategory order card category = .entryCompletionBuy) ∧
    0 < row.filledQuantity ∧ card.stopType = none ∧ card.entryOrbLow.getD 0 ≠ 0

/-- The end-of-day pass finds the pending entry terminal, with a fill. -/
def ConcludesFillAtEod (card : TradeCardState) (answers : EodAnswers) : Prop :=
  card.boardStatus = .entryPending ∧
    ∃ order, answers.openEntryOrder = some order ∧ 0 < order.filledQuantity ∧
      (decideAttemptDeadlineAction order).isTerminal = true

/-- What the operation installs without comparing it is not below the stop. -/
def InstallsNoLower (card : TradeCardState) : StopEvent → Prop
  | .fill _ _ => card.brokerQuantity ≤ 0 → StopAtMost card (card.entryOrbLow.getD 0)
  | .acknowledge => card.pendingStop.commandId ≠ "" →
      ∀ price, card.pendingStop.price = some price → StopAtMost card price
  | .exactOrder order row _ category => ProjectsFirstStop card order row category →
      StopAtMost card (card.entryOrbLow.getD 0)
  | .endOfDay answers => ConcludesFillAtEod card answers → StopAtMost card (card.entryOrbLow.getD 0)
  | _ => True

/-! ## Steps that compare before they raise -/

/-- A breakeven stop is installed only where it is not below the stop. -/
theorem applyBreakevenStop_kept (config : ExecutionConfig) (card : TradeCardState) :
    StopKept card (applyBreakevenStop config card) := by
  intro price hPrice
  unfold applyBreakevenStop
  dsimp only
  by_cases hBelow : card.activeStopPrice.getD 0 ≤
      computeBreakevenStopPrice config card.averageEntryPrice
  · rw [if_pos hBelow]
    rw [hPrice] at hBelow
    exact ⟨_, rfl, hBelow⟩
  · rw [if_neg hBelow]
    exact ⟨price, hPrice, le_refl price⟩

theorem onPartialExitFilled_kept (config : ExecutionConfig) (card : TradeCardState)
    (remaining : Int) : StopKept card (onPartialExitFilled config card remaining) :=
  applyBreakevenStop_kept config
    { card with brokerQuantity := remaining, orderableQuantity := remaining }

open StopKept (of_eq)

theorem completePartialExit_kept (config : ExecutionConfig) (card : TradeCardState)
    (remaining : Int) : StopKept card (completePartialExit config card remaining) := by
  unfold completePartialExit
  dsimp only
  by_cases hLess : remaining < (clearExitCancelTracking card).brokerQuantity
  · rw [if_pos hLess]
    exact onPartialExitFilled_kept config (clearExitCancelTracking card) remaining
  · rw [if_neg hLess]
    exact of_eq rfl

/-! ## Steps that leave the stop -/

theorem projectLocalOrder_stop (observedAt : Instant) (order : ExecutionOrderRecord)
    (category : ReconciliationCategory) (card : TradeCardState) :
    (projectLocalOrder observedAt order category card).activeStopPrice =
      card.activeStopPrice := by
  apply projectLocalOrder_of (P := fun after => after.activeStopPrice = card.activeStopPrice) rfl
  · intro _
    unfold applyDefinitiveEntryNonacceptance
    dsimp only
    split <;> rfl
  · exact fun _ hStop _ => hStop

theorem applyHolding_stop (card : TradeCardState) (holding : AccountHoldingSnapshot) :
    (applyHolding card holding).activeStopPrice = card.activeStopPrice := by
  unfold applyHolding
  dsimp only
  split
  · split <;> rfl
  · rfl

theorem retireStaleEntry_stop (snapshot : AccountBrokerSnapshot)
    (orders : List ExecutionOrderRecord) (card : TradeCardState) :
    (retireStaleEntry snapshot orders card).activeStopPrice = card.activeStopPrice := by
  unfold retireStaleEntry
  split <;> rfl

theorem takePosition_stop (card : TradeCardState) (quantity : Int) (price : ℚ) :
    (takePosition card quantity price).activeStopPrice = card.activeStopPrice := by
  unfold takePosition
  dsimp only
  split <;> rfl

theorem holdPosition_stop {now : Instant} {holding : BrokerHolding}
    (h : holdPosition now environment accountNo card holding = .ok change) :
    (change.getD card).activeStopPrice = card.activeStopPrice := by
  unfold holdPosition at h
  by_cases hIntent : preservesIntent card.boardStatus = true
  · rw [if_pos hIntent] at h
    cases h
    split <;> rfl
  rw [if_neg hIntent] at h
  split at h
  · cases h
    exact takePosition_stop { card with boardStatus := .openPosition } _ _
  · cases h
    rfl

theorem confirmFlat_ok (h : confirmFlat card = .ok next) : FlatConfirmed next := by
  unfold confirmFlat at h
  split at h
  · cases h
  · cases h
    exact ⟨rfl, rfl, rfl⟩

theorem sweepUnheldCard_stop (h : sweepUnheldCard snapshot card = .ok next) :
    next.activeStopPrice = card.activeStopPrice ∨ FlatConfirmed next := by
  unfold sweepUnheldCard at h
  split at h
  · dsimp only at h
    split at h
    · exact Or.inr (confirmFlat_ok h)
    · cases h
      exact Or.inl rfl
  · cases h
    exact Or.inl rfl

theorem exitPosition_stop {holdings : List BrokerHolding}
    (h : exitPosition environment accountNo holdings card = .ok change) :
    (change.getD card).activeStopPrice = card.activeStopPrice ∨
      FlatConfirmed (change.getD card) := by
  obtain ⟨_, hSame, hAfter⟩ := exitPosition_succeeds environment accountNo holdings card
  rw [h] at hSame
  cases hSame
  rw [hAfter]
  unfold exitedCard
  split
  · exact Or.inl rfl
  split
  · exact Or.inl rfl
  split
  · exact Or.inl rfl
  · exact Or.inr ⟨rfl, rfl, rfl⟩

/-! ## The reducer's exact rows -/

theorem projectPartialSell_kept
    (h : projectPartialSell config order row snapshot holding card = .ok (next, alerts)) :
    StopKept card next ∨ FlatConfirmed next := by
  unfold projectPartialSell at h
  split at h
  · cases h
    exact Or.inl (of_eq rfl)
  split at h
  · cases h
    exact Or.inl (of_eq rfl)
  split at h
  · cases h
    exact Or.inl (of_eq rfl)
  dsimp only at h
  split at h
  · rw [confirmFlat_of_empty (le_refl 0)] at h
    cases h
    exact Or.inr ⟨rfl, rfl, rfl⟩
  split at h
  · cases h
    exact Or.inl (onPartialExitFilled_kept config
      (clearExitCardTracking { card with pendingPartialSellQuantity := 0 } true) _)
  · cases h
    exact Or.inl (of_eq rfl)

theorem projectLiquidation_kept {operational : ReconciliationCategory}
    (h : projectLiquidation operational order row snapshot holding card = .ok (next, alerts)) :
    StopKept card next ∨ FlatConfirmed next := by
  unfold projectLiquidation at h
  split at h
  · cases h
    exact Or.inl (of_eq rfl)
  split at h
  · cases h
    exact Or.inl (of_eq rfl)
  split at h
  · cases h
    exact Or.inl (of_eq rfl)
  dsimp only at h
  split at h
  · rename_i hEmpty
    rw [confirmFlat_of_empty (by exact hEmpty)] at h
    cases h
    exact Or.inr ⟨rfl, rfl, rfl⟩
  · cases h
    exact Or.inl (of_eq rfl)

theorem projectFillStop_stop (card : TradeCardState) (quantity : Int) :
    (projectFillStop card quantity).activeStopPrice =
      if card.stopType = none ∧ card.entryOrbLow.getD 0 ≠ 0 then
        some (card.entryOrbLow.getD 0)
      else card.activeStopPrice := by
  unfold projectFillStop
  cases hType : card.stopType with
  | some => simp
  | none =>
    cases hLow : card.entryOrbLow with
    | none => simp
    | some low =>
      by_cases hZero : low = 0
      · simp [hZero]
      · simp [hZero, applyFirstFillStop]

theorem projectEntry_stop (order : ExecutionOrderRecord) (row : BrokerOrderStatusSnapshot)
    (holding : Option AccountHoldingSnapshot) (card : TradeCardState) :
    (projectEntry order row holding card).activeStopPrice =
      if 0 < row.filledQuantity ∧ card.stopType = none ∧ card.entryOrbLow.getD 0 ≠ 0 then
        some (card.entryOrbLow.getD 0)
      else card.activeStopPrice := by
  have hFill : (projectEntryFill order row holding card).activeStopPrice =
      if card.stopType = none ∧ card.entryOrbLow.getD 0 ≠ 0 then
        some (card.entryOrbLow.getD 0)
      else card.activeStopPrice := by
    unfold projectEntryFill
    exact projectFillStop_stop _ _
  have hRetired : (retireFilledEntry (projectEntryFill order row holding card)).activeStopPrice =
      (projectEntryFill order row holding card).activeStopPrice := by
    unfold retireFilledEntry
    split <;> rfl
  unfold projectEntry
  dsimp only
  by_cases hFilled : 0 < row.filledQuantity
  · rw [if_pos hFilled]
    simp only [hFilled, true_and]
    rw [← hFill]
    split
    · exact hRetired
    · rfl
  · have hKeeps : ¬ (0 < row.filledQuantity ∧ card.stopType = none ∧
        card.entryOrbLow.getD 0 ≠ 0) := fun h => hFilled h.1
    rw [if_neg hFilled, if_neg hKeeps]
    split
    · rfl
    split <;> rfl

theorem consumed_stop (card : TradeCardState) (order : ExecutionOrderRecord) :
    (if order.side = .sell then consumeExitCardAttempt card order else card).activeStopPrice =
        card.activeStopPrice ∧
      (if order.side = .sell then consumeExitCardAttempt card order else card).stopType =
        card.stopType ∧
      (if order.side = .sell then consumeExitCardAttempt card order else card).entryOrbLow =
        card.entryOrbLow := by
  split <;> exact ⟨rfl, rfl, rfl⟩

theorem projectExactOrderToCard_kept_iff {category : ReconciliationCategory}
    (h : projectExactOrderToCard config order row snapshot category card = .ok (next, alerts))
    (hOpen : ¬ FlatConfirmed next) :
    StopKept card next ↔
      (ProjectsFirstStop card order row category → StopAtMost card (card.entryOrbLow.getD 0)) := by
  obtain ⟨hStop, hType, hLow⟩ := consumed_stop card order
  unfold projectExactOrderToCard at h
  generalize hConsumed :
    (if order.side = .sell then consumeExitCardAttempt card order else card) = consumed at *
  have hFrom : ∀ {after : TradeCardState}, StopKept consumed after → StopKept card after :=
    fun hKept => (of_eq hStop).trans hKept
  dsimp only at h
  by_cases hEntry : operationalCategory order card category = .entryBuy ∨
      operationalCategory order card category = .entryCompletionBuy
  · -- the entry branch installs the ORB low when it projects the first stop
    generalize hHolding : (if snapshot.completeness.holdingsComplete = true then
      snapshot.holdingFor order.symbol else none) = holding at h
    have hNext : next = projectEntry order row holding consumed := by
      rcases hEntry with hBuy | hBuy
      all_goals
        rw [hBuy] at h
        cases h
        rfl
    have hAfter := projectEntry_stop order row holding consumed
    rw [← hNext, hType, hLow, hStop] at hAfter
    by_cases hFirst : 0 < row.filledQuantity ∧ card.stopType = none ∧ card.entryOrbLow.getD 0 ≠ 0
    · rw [if_pos hFirst] at hAfter
      have hProjects : ProjectsFirstStop card order row category := ⟨hEntry, hFirst⟩
      rw [stopKept_iff_of_installs hAfter]
      exact ⟨fun hAtMost _ => hAtMost, fun hAtMost => hAtMost hProjects⟩
    · rw [if_neg hFirst] at hAfter
      constructor
      · intro _ hProjects
        exact absurd hProjects.2 hFirst
      · intro _
        exact of_eq hAfter
  · -- no other branch installs anything it has not compared
    have hKept : StopKept card next := by
      cases hOperational : operationalCategory order card category
      case entryBuy => exact absurd (Or.inl hOperational) hEntry
      case entryCompletionBuy => exact absurd (Or.inr hOperational) hEntry
      case partialSell =>
        rw [hOperational] at h
        exact hFrom ((projectPartialSell_kept h).resolve_right hOpen)
      case sellAll | stopLossSell | reservedMooSell =>
        rw [hOperational] at h
        exact hFrom ((projectLiquidation_kept h).resolve_right hOpen)
      all_goals
        rw [hOperational] at h
        cases h
        exact hFrom (of_eq rfl)
    constructor
    · intro _ hProjects
      exact absurd hProjects.1 hEntry
    · intro _
      exact hKept

/-! ## The end-of-day pass -/

theorem concludeEntryAtEod_stop (card : TradeCardState) (order : BrokerOrder) :
    (concludeEntryAtEod card order).activeStopPrice =
      if 0 < order.filledQuantity then some (card.entryOrbLow.getD 0)
      else card.activeStopPrice := by
  unfold concludeEntryAtEod
  dsimp only
  by_cases hFilled : 0 < order.filledQuantity
  · rw [if_pos hFilled, if_pos hFilled]
    rfl
  · rw [if_neg hFilled, if_neg hFilled]
    rfl

theorem not_terminal_of_unresolved {order : BrokerOrder}
    (h : isUnresolvedAtEod order.status = true) :
    (decideAttemptDeadlineAction order).isTerminal = false := by
  simp only [isUnresolvedAtEod, Bool.or_eq_true, decide_eq_true_eq] at h
  rcases h with hUnknown | hUnknown
  all_goals simp [decideAttemptDeadlineAction, hUnknown, AttemptDeadlineAction.isTerminal]

theorem not_terminal_of_asks {order : BrokerOrder} {atDeadline cancelRequested : Bool}
    (h : asksCancel order atDeadline cancelRequested = true) :
    (decideAttemptDeadlineAction order).isTerminal = false := by
  simp only [asksCancel, Bool.and_eq_true, decide_eq_true_eq] at h
  rw [h.1]
  rfl

theorem resolveEntryPendingAtEod_stop (card : TradeCardState) (answers : EodAnswers)
    (order : BrokerOrder) (hOrder : answers.openEntryOrder = some order) :
    (resolveEntryPendingAtEod card answers).activeStopPrice =
      if 0 < order.filledQuantity ∧ (decideAttemptDeadlineAction order).isTerminal = true then
        some (card.entryOrbLow.getD 0)
      else card.activeStopPrice := by
  unfold resolveEntryPendingAtEod
  rw [hOrder]
  dsimp only
  by_cases hUnresolved : isUnresolvedAtEod order.status = true
  · rw [if_pos hUnresolved]
    simp [not_terminal_of_unresolved hUnresolved]
  rw [if_neg hUnresolved]
  generalize hReasoned : (if card.entryCancelInFlight = true then card
    else { card with entryCancelReason := "EOD" }) = reasoned
  have hSame : reasoned.activeStopPrice = card.activeStopPrice ∧
      reasoned.entryOrbLow = card.entryOrbLow := by
    rw [← hReasoned]
    split <;> exact ⟨rfl, rfl⟩
  by_cases hAsks : asksCancel order true true = true
  · -- the cancel is asked for, and the card waits or the exception leaves it
    have hAction : resolveEntryOrder order true true = .awaitCancelConfirmation := if_pos hAsks
    have hCancelled := (requestCancelWithLifecycle_position reasoned .entry
      answers.mintedCommandId answers.cancel).1
    rw [if_pos hAsks, hAction]
    simp only [not_terminal_of_asks hAsks, Bool.false_eq_true, and_false, if_false]
    split
    all_goals exact hCancelled.trans hSame.1
  · have hAction : resolveEntryOrder order true true = decideAttemptDeadlineAction order :=
      if_neg hAsks
    rw [if_neg hAsks, hAction]
    simp only [Bool.false_eq_true, if_false]
    cases (decideAttemptDeadlineAction order).isTerminal with
    | true =>
      simp only [if_true, and_true]
      rw [concludeEntryAtEod_stop, hSame.1, hSame.2]
    | false =>
      simp only [Bool.false_eq_true, and_false, if_false]
      split <;> exact hSame.1

theorem stopIncompleteTargetCompletion_stop (card : TradeCardState) (answers : EodAnswers) :
    (stopIncompleteTargetCompletion card answers).activeStopPrice = card.activeStopPrice := by
  have hCancelled := (requestCancelWithLifecycle_position card .entry
    answers.mintedCommandId answers.cancel).1
  unfold stopIncompleteTargetCompletion
  split
  · rfl
  cases answers.openEntryOrder with
  | none => rfl
  | some =>
    dsimp only
    split
    · exact hCancelled
    split <;> exact hCancelled

theorem runEodCleanup_kept_iff (card : TradeCardState) (answers : EodAnswers) :
    StopKept card (runEodCleanup card answers) ↔
      (ConcludesFillAtEod card answers → StopAtMost card (card.entryOrbLow.getD 0)) := by
  have hIdle : ¬ ConcludesFillAtEod card answers →
      (runEodCleanup card answers).activeStopPrice = card.activeStopPrice →
        (StopKept card (runEodCleanup card answers) ↔ (ConcludesFillAtEod card answers →
          StopAtMost card (card.entryOrbLow.getD 0))) := by
    intro hNot hStop
    exact ⟨fun _ hConcludes => absurd hConcludes hNot, fun _ => of_eq hStop⟩
  by_cases hPending : card.boardStatus = .entryPending
  · have hRun : runEodCleanup card answers = resolveEntryPendingAtEod card answers :=
      if_pos hPending
    cases hOrder : answers.openEntryOrder with
    | none =>
      apply hIdle
      · rintro ⟨_, order, hSome, _⟩
        rw [hOrder] at hSome
        cases hSome
      · rw [hRun, resolveEntryPendingAtEod, hOrder]
    | some order =>
      have hStop := resolveEntryPendingAtEod_stop card answers order hOrder
      rw [← hRun] at hStop
      by_cases hFill : 0 < order.filledQuantity ∧
          (decideAttemptDeadlineAction order).isTerminal = true
      · rw [if_pos hFill] at hStop
        have hConcludes : ConcludesFillAtEod card answers := ⟨hPending, order, hOrder, hFill⟩
        rw [stopKept_iff_of_installs hStop]
        exact ⟨fun hAtMost _ => hAtMost, fun hAtMost => hAtMost hConcludes⟩
      · rw [if_neg hFill] at hStop
        apply hIdle _ hStop
        rintro ⟨_, other, hOther, hConcluded⟩
        rw [hOrder] at hOther
        cases hOther
        exact hFill hConcluded
  · apply hIdle
    · rintro ⟨hBoard, _⟩
      exact hPending hBoard
    · unfold runEodCleanup
      rw [if_neg hPending]
      split
      · exact stopIncompleteTargetCompletion_stop card answers
      · rfl

/-! ## Every step, and every run -/

/-- A step keeps the stop exactly when it installs no lower one unseen. -/
theorem heldStep_kept_iff {event : StopEvent} (h : HeldStep config before event after) :
    StopKept before after ↔ InstallsNoLower before event := by
  obtain ⟨hApply, hOpen⟩ := h
  cases event with
  | fill order holding =>
    cases hApply
    have hStop := protectNewFill_stop before order holding
    by_cases hFirst : before.brokerQuantity ≤ 0
    · rw [if_pos hFirst] at hStop
      rw [stopKept_iff_of_installs hStop]
      exact ⟨fun hAtMost _ => hAtMost, fun hAtMost => hAtMost hFirst⟩
    · rw [if_neg hFirst] at hStop
      exact ⟨fun _ hEmpty => absurd hEmpty hFirst, fun _ => of_eq hStop⟩
  | partialExit remaining =>
    cases hApply
    exact iff_of_true (completePartialExit_kept config before remaining) trivial
  | request =>
    obtain ⟨pending, rfl, _⟩ := requestStop_ok hApply
    exact iff_of_true (of_eq rfl) trivial
  | acknowledge =>
    cases hApply
    have hStop := acknowledgePendingStopChange_stop before
    by_cases hNothing : before.pendingStop.commandId = "" ∨ before.pendingStop.price = none
    · rw [if_pos hNothing] at hStop
      apply iff_of_true (of_eq hStop)
      intro hCommand price hPrice
      rcases hNothing with hEmpty | hEmpty
      · exact absurd hEmpty hCommand
      · rw [hEmpty] at hPrice
        cases hPrice
    · rw [if_neg hNothing] at hStop
      obtain ⟨hCommand, hSome⟩ := not_or.mp hNothing
      obtain ⟨price, hPrice⟩ := Option.ne_none_iff_exists'.mp hSome
      rw [hPrice] at hStop
      rw [stopKept_iff_of_installs hStop]
      constructor
      · intro hAtMost _ other hOther
        rw [hPrice] at hOther
        cases hOther
        exact hAtMost
      · intro hAtMost
        exact hAtMost hCommand price hPrice
  | localOrder =>
    cases hApply
    exact iff_of_true (of_eq (projectLocalOrder_stop _ _ _ _)) trivial
  | exactOrder =>
    obtain ⟨⟨next, alerts⟩, hProjected, rfl⟩ := map_eq_ok.mp hApply
    exact projectExactOrderToCard_kept_iff hProjected hOpen
  | reported =>
    cases hApply
    exact iff_of_true (of_eq (applyHolding_stop _ _)) trivial
  | unheld =>
    have hStop := (sweepUnheldCard_stop hApply).resolve_right hOpen
    exact iff_of_true (of_eq hStop) trivial
  | staleEntry =>
    cases hApply
    exact iff_of_true (of_eq (retireStaleEntry_stop _ _ _)) trivial
  | position =>
    obtain ⟨change, hChange, rfl⟩ := map_eq_ok.mp hApply
    exact iff_of_true (of_eq (holdPosition_stop hChange)) trivial
  | positionExit =>
    obtain ⟨change, hChange, rfl⟩ := map_eq_ok.mp hApply
    have hStop := (exitPosition_stop hChange).resolve_right hOpen
    exact iff_of_true (of_eq hStop) trivial
  | endOfDay answers =>
    cases hApply
    exact runEodCleanup_kept_iff before answers

/-- Between two states of a card that nothing closes in between, the stop has not
decreased, when no step found a stop above the one it installs. -/
theorem stop_never_widens {config : ExecutionConfig} {start finish : TradeCardState}
    (hRun : RunWith (HeldStep config) InstallsNoLower start finish) : StopKept start finish := by
  apply RunWith.invariant hRun
  · exact StopKept.of_eq rfl
  · intro before event after hKept hInstalls hStep
    exact hKept.trans ((heldStep_kept_iff hStep).mpr hInstalls)

/-! ### One partial exit between a request and its acknowledgement -/

/-- Ten shares at 100 with the stop at the ORB low, five of them being sold. -/
def trackedStopCard : TradeCardState :=
  { environment := "PROD"
    accountNo := "1"
    symbol := "AAPL"
    boardStatus := .partialSell
    positionRuntimeStatus := .partialExitPending
    brokerQuantity := 10
    orderableQuantity := 10
    averageEntryPrice := 100
    pendingPartialSellQuantity := 5
    entryOrbLow := some 95
    stopType := some .orbLow
    activeStopPrice := some 95
    stopQuantity := 10 }

variable (stopType : StopType)

variable (price : ℚ)

/-- The card once the stop command is accepted. -/
def requestedStopCard : TradeCardState :=
  { trackedStopCard with
    pendingStop :=
      { stopType := some stopType
        price := some price
        quantity := 10
        commandId := "s1"
        requestedAt := some 0 } }

/-- The card once five shares remain: its stop is the breakeven price. -/
def tightenedStopCard : TradeCardState :=
  completePartialExit {} (requestedStopCard stopType price) 5

/-- The request is accepted and the exit fills, whichever of the two prices is asked for. -/
theorem run_tightenedStopCard {P : TradeCardState → StopEvent → Prop} (command : StopCommand)
    (stopType : StopType) (price : ℚ)
    (hAccepted : requestStop {} trackedStopCard
      { command := command, commandId := "s1", requestedAt := 0 } =
        .ok (requestedStopCard stopType price))
    (hRequest : P trackedStopCard
      (.request { command := command, commandId := "s1", requestedAt := 0 }))
    (hExit : P (requestedStopCard stopType price) (.partialExit 5)) :
    RunWith (HeldStep {}) P trackedStopCard (tightenedStopCard stopType price) := by
  have hFirst : RunWith (HeldStep {}) P trackedStopCard (requestedStopCard stopType price) := by
    apply RunWith.step (RunWith.refl trackedStopCard) hRequest
    exact ⟨hAccepted, fun hFlat => by cases hFlat.1⟩
  apply RunWith.step hFirst hExit
  exact ⟨rfl, fun hFlat => by cases hFlat.1⟩

theorem tightenedStopCard_stop :
    (tightenedStopCard stopType price).activeStopPrice = some (10015 / 100) := by
  have hBreakeven : computeBreakevenStopPrice {} 100 = 10015 / 100 := by decide +kernel
  have hRaises : (95 : ℚ) ≤ 10015 / 100 := by norm_num
  have hTightened : (applyBreakevenStop {}
      { clearExitCancelTracking (requestedStopCard stopType price) with
        brokerQuantity := 5, orderableQuantity := 5 }).activeStopPrice =
        some (10015 / 100) := by
    simp [applyBreakevenStop, requestedStopCard, trackedStopCard, clearExitCancelTracking,
      hBreakeven,
      hRaises]
  exact hTightened

theorem tightenedStopCard_pending :
    (tightenedStopCard stopType price).pendingStop =
      (requestedStopCard stopType price).pendingStop := by
  unfold tightenedStopCard completePartialExit onPartialExitFilled applyBreakevenStop
  dsimp only
  split
  · split <;> rfl
  · rfl

/-- The acknowledgement installs what was asked, on a card that stays open. -/
theorem acknowledge_tightenedStopCard :
    (acknowledgePendingStopChange (tightenedStopCard stopType price)).activeStopPrice = some price ∧
      HeldStep {} (tightenedStopCard stopType price) .acknowledge
        (acknowledgePendingStopChange (tightenedStopCard stopType price)) := by
  have hPending := tightenedStopCard_pending stopType price
  have hStop : (acknowledgePendingStopChange (tightenedStopCard stopType price)).activeStopPrice =
      some price := by
    rw [acknowledgePendingStopChange_stop, hPending]
    rfl
  refine ⟨hStop, rfl, ?_⟩
  rintro ⟨_, _, hNone⟩
  rw [hStop] at hNone
  cases hNone

/-- A manual stop at 101 is above the breakeven price the exit installs meanwhile. -/
theorem stop_never_widens_manual :
    StopKept trackedStopCard (acknowledgePendingStopChange (tightenedStopCard .manualPrice
      101)) := by
  have hTightened := run_tightenedStopCard (P := InstallsNoLower) (.setManualStop 101) .manualPrice
    101 (by decide +kernel) trivial trivial
  have hInstalls : InstallsNoLower (tightenedStopCard .manualPrice 101) .acknowledge := by
    intro _ price hPrice current hCurrent
    rw [tightenedStopCard_stop] at hCurrent
    rw [tightenedStopCard_pending] at hPrice
    cases hPrice
    cases hCurrent
    norm_num
  apply @stop_never_widens {}
  exact RunWith.step hTightened hInstalls (acknowledge_tightenedStopCard .manualPrice 101).2

/-- The stop asked back to the ORB low is acknowledged after the exit has raised it. -/
theorem stop_widened :
    ¬ ∀ (config : ExecutionConfig) (start middle finish : TradeCardState),
        0 < start.brokerQuantity →
          RunWith (HeldStep config) (fun _ _ => True) start middle →
            RunWith (HeldStep config) (fun _ _ => True) middle finish → StopKept middle finish := by
  intro hKept
  have hTightened := run_tightenedStopCard (P := fun _ _ => True) .setOrbStop .orbLow 95
    (by decide +kernel) trivial trivial
  obtain ⟨hStop, hStep⟩ := acknowledge_tightenedStopCard .orbLow 95
  have hAcknowledged : RunWith (HeldStep {}) (fun _ _ => True) (tightenedStopCard .orbLow 95)
      (acknowledgePendingStopChange (tightenedStopCard .orbLow 95)) :=
    RunWith.step (RunWith.refl _) trivial hStep
  obtain ⟨raised, hRaised, hLe⟩ := hKept {} trackedStopCard _ _ (by decide) hTightened hAcknowledged
    (10015 / 100) (tightenedStopCard_stop .orbLow 95)
  rw [hStop] at hRaised
  cases hRaised
  norm_num at hLe

end QuantApp.Services
