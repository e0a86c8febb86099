import QuantApp.Services.EntryStages
import QuantApp.Services.EodTradingService
import QuantApp.Services.HeldThroughStages
import QuantApp.Services.HoldingsMirrored
import QuantApp.Services.MissingEvidence
import QuantApp.Services.PositionSnapshots
import QuantApp.Verified.LabelledRuns

/-!
# A position ends on the broker's word

The heartbeat stages and the reducer passes over one card, with the raw answers of the
position query behind them.  A held card loses its position only in a step that is
answered a listing without shares of its symbol, provided that no step takes an answer
that says nothing, or says how many shares can be ordered, for one that says none is held.
-/

namespace QuantApp.Services

open Core Verified

variable {card after : TradeCardState} {holding : Option BrokerHolding} {order : BrokerOrder}
  {runtime : EngineRuntime} {answers : EntryAnswers}

/-! ## The entry stages -/

theorem applyCumulativeFill_held (order : BrokerOrder)
    (hReported : ∀ found ∈ holding, 0 < found.quantity) :
    StaysHeld card (applyCumulativeFill card order holding).1 := by
  intro hHeld
  unfold applyCumulativeFill
  cases holding with
  | some found => exact ⟨hReported found rfl, id⟩
  | none =>
    dsimp only
    split
    · refine ⟨?_, id⟩
      show 0 < card.brokerQuantity + _
      omega
    · exact ⟨hHeld, id⟩

/-- A fill that is protected puts the card into a position column or leaves it there. -/
theorem protectNewFill_held (order : BrokerOrder)
    (hReported : ∀ found ∈ holding, 0 < found.quantity) :
    StaysHeld card (protectNewFill card order holding).1 := by
  apply StaysHeld.trans (applyCumulativeFill_held order hReported)
  unfold protectNewFill
  dsimp only
  split
  · split
    · exact staysHeld_of_same rfl (Or.inl rfl)
    · exact staysHeld_of_same rfl (Or.inr (by simp [applyFirstFillStop]))
  · split
    · exact staysHeld_of_same rfl (Or.inl rfl)
    · exact staysHeld_of_same rfl (Or.inr (by simp))

theorem resolveFilled_held (hReported : ∀ found ∈ holding, 0 < found.quantity) :
    StaysHeld card (resolveFilled card order holding).1 := by
  apply StaysHeld.trans (protectNewFill_held order hReported)
  unfold resolveFilled
  dsimp only
  split <;> exact staysHeld_of_same rfl (Or.inl rfl)

theorem resolveCancelledWithFill_held :
    StaysHeld card (resolveCancelledWithFill card order holding).1 := by
  intro hHeld
  have hSecond : ¬ card.brokerQuantity ≤ 0 := by omega
  unfold resolveCancelledWithFill
  rw [if_neg hSecond]
  dsimp only
  split <;> split <;> exact ⟨hHeld, id⟩

theorem resolveCancelledZeroFill_held (runtime : EngineRuntime) (now : Instant) (held : Bool)
    (card : TradeCardState) : StaysHeld card (resolveCancelledZeroFill runtime now held card) := by
  unfold resolveCancelledZeroFill
  dsimp only
  split
  · split <;> split <;> exact staysHeld_of_same rfl (Or.inl rfl)
  split
  · exact staysHeld_of_same rfl (Or.inr (by simp))
  · exact staysHeld_of_same rfl (Or.inr (by simp [awaitRetry]))

theorem resolveRejected_held (runtime : EngineRuntime) (now : Instant) (held : Bool)
    (card : TradeCardState) : StaysHeld card (resolveRejected runtime now held card) := by
  unfold resolveRejected
  dsimp only
  split
  · split <;> exact staysHeld_of_same rfl (Or.inl rfl)
  · exact staysHeld_of_same rfl (Or.inr (by simp [awaitRetry]))

theorem applyEntryResolution_held {now : Instant} {holding : Except Raised (Option BrokerHolding)}
    {held : Bool} {action : AttemptDeadlineAction}
    (hReported : ∀ found, holding = .ok (some found) → 0 < found.quantity) :
    StaysHeld card (applyEntryResolution runtime now holding held action card order).1 := by
  unfold applyEntryResolution
  cases action with
  | stillWorking => exact staysHeld_refl card
  | awaitCancelConfirmation | blockSymbolPendingReconciliation =>
    exact staysHeld_of_same rfl (Or.inl rfl)
  | moveToOpenPosition =>
    cases holding with
    | ok =>
      apply resolveFilled_held
      rintro found hFound
      exact hReported found (by rw [Option.mem_def.mp hFound])
    | error => exact staysHeld_refl card
  | confirmedCancelledWithFill =>
    cases holding with
    | ok => exact resolveCancelledWithFill_held
    | error =>
      dsimp only
      split
      · exact staysHeld_refl card
      · exact resolveCancelledWithFill_held
  | confirmedCancelledZeroFill => exact resolveCancelledZeroFill_held runtime now held card
  | releaseAndRetryAfterCooldown => exact resolveRejected_held runtime now held card

section

variable (hFirst : ∀ found, answers.firstHolding = .ok (some found) → 0 < found.quantity)
  (hSecond : ∀ found, answers.secondHolding = .ok (some found) → 0 < found.quantity)
include hFirst hSecond

theorem reconcileEntryOrder_held {refreshed : BrokerOrder} :
    StaysHeld card (reconcileEntryOrder runtime answers card refreshed).1 := by
  unfold reconcileEntryOrder
  dsimp only
  split
  · exact staysHeld_refl card
  rename_i observed order hObserved
  have hProtected : StaysHeld card observed := by
    split at hObserved
    · obtain ⟨holding, hHolding, hFill⟩ := map_eq_ok.mp hObserved
      have hSame : (protectNewFill card refreshed holding).1 = observed := congrArg Prod.fst hFill
      rw [← hSame]
      apply protectNewFill_held
      intro found hFound
      exact hFirst found (by rw [hHolding, Option.mem_def.mp hFound])
    · cases hObserved
      exact staysHeld_refl card
  apply hProtected.trans
  have hResolved : ∀ (cancelled : TradeCardState × Bool) (held : Bool)
      (action : AttemptDeadlineAction), StaysHeld observed cancelled.1 →
      StaysHeld observed (if cancelled.2 = true then (cancelled.1, order)
        else applyEntryResolution runtime answers.now answers.secondHolding held action
          cancelled.1 order).1 := by
    intro cancelled held action hKept
    apply hKept.trans
    split
    · exact staysHeld_refl _
    · exact applyEntryResolution_held hSecond
  apply hResolved
  have hCancel : ∀ reasoned : TradeCardState, StaysHeld reasoned
      (requestCancelWithLifecycle reasoned .entry answers.cancelCommandId answers.cancel).1 := by
    intro reasoned
    obtain ⟨_, hQuantity, hBoard⟩ := requestCancelWithLifecycle_position reasoned .entry
      answers.cancelCommandId answers.cancel
    exact staysHeld_of_same hQuantity (Or.inl hBoard)
  by_cases hAsks : asksCancel order (attemptDeadlinePassed runtime order answers.now)
      (decide (observed.entryBlockReason = "cancel_requested") ||
        decide (observed.entryBlockReason = "eod_cancel_requested")) = true
  · rw [if_pos hAsks]
    apply StaysHeld.trans _ (hCancel _)
    split <;> exact staysHeld_of_same rfl (Or.inl rfl)
  · rw [if_neg hAsks]
    split <;> exact staysHeld_of_same rfl (Or.inl rfl)

theorem reconcileEntryOrders_held :
    StaysHeld card (reconcileEntryOrders runtime answers card).1 := by
  unfold reconcileEntryOrders
  split
  · split
    · exact reconcileEntryOrder_held hFirst hSecond
    · exact staysHeld_refl card
  · exact staysHeld_refl card

end

/-! ## The end of the day -/

theorem concludeEntryAtEod_held (card : TradeCardState) (order : BrokerOrder) :
    StaysHeld card (concludeEntryAtEod card order) := by
  unfold concludeEntryAtEod
  dsimp only
  split
  · rename_i hFilled
    intro _
    refine ⟨hFilled, ?_⟩
    intro hClosed
    cases hClosed
  · exact staysHeld_of_same rfl (Or.inr (by simp))

theorem runEodCleanup_held (card : TradeCardState) (answers : EodAnswers) :
    StaysHeld card (runEodCleanup card answers) := by
  have hCancel : ∀ reasoned : TradeCardState, StaysHeld reasoned
      (requestCancelWithLifecycle reasoned .entry answers.mintedCommandId answers.cancel).1 := by
    intro reasoned
    obtain ⟨_, hQuantity, hBoard⟩ := requestCancelWithLifecycle_position reasoned .entry
      answers.mintedCommandId answers.cancel
    exact staysHeld_of_same hQuantity (Or.inl hBoard)
  unfold runEodCleanup
  split
  · unfold resolveEntryPendingAtEod
    cases answers.openEntryOrder with
    | none => exact staysHeld_of_same rfl (Or.inl rfl)
    | some order =>
      dsimp only
      split
      · exact staysHeld_of_same rfl (Or.inl rfl)
      have hResolved : ∀ cancelled : TradeCardState × Bool, StaysHeld card cancelled.1 →
          StaysHeld card (if cancelled.2 = true then cancelled.1
            else if (resolveEntryOrder order true true).isTerminal = true then
              concludeEntryAtEod cancelled.1 order
            else if resolveEntryOrder order true true = .awaitCancelConfirmation then
              { cancelled.1 with entryCancelInFlight := true }
            else { cancelled.1 with entryRuntimeStatus := some .dataUnavailable }) := by
        intro cancelled hKept
        apply hKept.trans
        split
        · exact staysHeld_refl _
        split
        · exact concludeEntryAtEod_held _ order
        split <;> exact staysHeld_of_same rfl (Or.inl rfl)
      apply hResolved
      by_cases hAsks : asksCancel order true true = true
      · rw [if_pos hAsks]
        apply StaysHeld.trans _ (hCancel _)
        split <;> exact staysHeld_of_same rfl (Or.inl rfl)
      · rw [if_neg hAsks]
        split <;> exact staysHeld_of_same rfl (Or.inl rfl)
  split
  · unfold stopIncompleteTargetCompletion
    split
    · exact staysHeld_refl card
    cases answers.openEntryOrder with
    | none => exact staysHeld_of_same rfl (Or.inl rfl)
    | some =>
      dsimp only
      apply StaysHeld.trans (hCancel card)
      split
      · exact staysHeld_refl _
      · split <;> exact staysHeld_of_same rfl (Or.inl rfl)
  · exact staysHeld_refl card

/-! ## The reducer -/

theorem ProjectedBy.held_quantity {config : ExecutionConfig} {snapshot : AccountBrokerSnapshot}
    {row : BrokerOrderStatusSnapshot} {order : ExecutionOrderRecord} {projection : TradeCardState}
    (h : ProjectedBy config snapshot row order card projection)
    (hHeld : SymbolHeld snapshot order.symbol) (hPosition : 0 < card.brokerQuantity) :
    0 < projection.brokerQuantity := by
  obtain ⟨holding, hReported, hPositive⟩ := hHeld.reported
  have hConsumed := (consumedCard_position order card).1
  have hSold : ¬ holding.quantity ≤ 0 := not_le.mpr hPositive
  cases h with
  | entry _ hProjection =>
    rw [hReported] at hProjection
    have hFill : (projectEntryFill order row (some holding) card).brokerQuantity =
        holding.quantity := by
      unfold projectEntryFill
      exact (projectFillStop_position _ _).1
    rw [hProjection]
    unfold projectEntry
    dsimp only
    split
    · split
      · rw [(retireFilledEntry_position _).1, hFill]
        exact hPositive
      · rw [hFill]
        exact hPositive
    split
    · exact hPosition
    split <;> exact hPosition
  | partialExit _ hProjected =>
    rw [hReported] at hProjected
    unfold projectPartialSell at hProjected
    split at hProjected
    · cases hProjected
      exact hConsumed ▸ hPosition
    split at hProjected
    · cases hProjected
      exact hConsumed ▸ hPosition
    rw [if_neg (by simp [hHeld.complete])] at hProjected
    dsimp only [Option.map_some, Option.getD_some] at hProjected
    rw [if_neg hSold] at hProjected
    split at hProjected
    · cases hProjected
      unfold onPartialExitFilled applyBreakevenStop
      dsimp only
      split <;> exact hPositive
    · cases hProjected
      exact hPositive
  | liquidation _ _ _ hProjected =>
    rw [hReported] at hProjected
    unfold projectLiquidation at hProjected
    split at hProjected
    · cases hProjected
      exact hConsumed ▸ hPosition
    split at hProjected
    · cases hProjected
      exact hConsumed ▸ hPosition
    rw [if_neg (by simp [hHeld.complete])] at hProjected
    dsimp only [Option.map_some, Option.getD_some] at hProjected
    rw [if_neg hSold] at hProjected
    cases hProjected
    exact hPositive
  | unnamed _ _ hProjection =>
    rw [hProjection, hConsumed]
    exact hPosition

section Reduced

variable {runtime : Runtime} {snapshot : AccountBrokerSnapshot} {localState : AccountLocalState}
  {final : ReduceState} {card : TradeCardState}

/-- The exact loop leaves a held card of a held symbol held. -/
theorem exact_held (run : ReducerRun runtime snapshot localState final)
    (hHeld : SymbolHeld snapshot card.symbol) (hCard : card ∈ localState.cards)
    (hPosition : 0 < card.brokerQuantity) :
    ∃ current, cardIn run.exact card.cardKey = some current ∧ 0 < current.brokerQuantity ∧
      (card.boardStatus ≠ .closed → current.boardStatus ≠ .closed) := by
  let P : TradeCardState → Prop := fun current =>
    0 < current.brokerQuantity ∧ (card.boardStatus ≠ .closed → current.boardStatus ≠ .closed)
  have hStart : P card := ⟨hPosition, id⟩
  have hKeeps : ∀ order ∈ localState.executionOrders, orderKey order = card.cardKey →
      ∀ current, current.cardKey = card.cardKey → P current →
        P (projectLocalOrder snapshot.observedAt order
          (classifyExecutionOrder order (some current)) current) := by
    intro order _ _ current _ hCurrent
    have hKept := keepsPosition_projectLocalOrder snapshot.observedAt order
      (classifyExecutionOrder order (some current)) current
    refine ⟨lt_of_lt_of_le hCurrent.1 hKept.quantity, ?_⟩
    intro hOpen hClosed
    exact hCurrent.2 hOpen (hKept.closed hClosed)
  obtain ⟨⟨classified, hClassified, hAfter⟩, hCategories⟩ :=
    classifyLocalOrders_card (P := P) hCard hStart hKeeps
  have hSame := classified_same snapshot localState
  apply rows_card (P := P) localState.ordersKeyed' hSame hClassified hAfter _ run.exactRows
  intro row _ order current next hCurrent hProjection
  obtain ⟨met, _, hCategory⟩ := hCategories order hProjection.order_mem hProjection.sameKey
  have hSymbol : order.symbol = card.symbol :=
    congrArg (fun key : CardKey => key.2.2) hProjection.sameKey
  have hBy := hProjection.by_branch hCategory
  rw [← hSymbol] at hHeld
  exact ⟨hBy.held_quantity hHeld hCurrent.1, fun hOpen => hBy.held_column hHeld (hCurrent.2 hOpen)⟩

variable (h : reduceLocalState runtime snapshot localState = .ok final)
  (hCard : card ∈ localState.cards) (hAfter : cardIn final card.cardKey = some after)
include h hCard hAfter

/-- A pass over an account that holds the symbol leaves the card held. -/
theorem reduced_held (hComplete : snapshot.completeness.holdingsComplete = true)
    (hSymbol : ∃ holding ∈ snapshot.holdings, holding.symbol = card.symbol)
    (hPositive : ∀ holding ∈ snapshot.holdings, 0 < holding.quantity) : StaysHeld card after := by
  intro hPosition
  obtain ⟨run⟩ := nonempty_reducerRun h
  obtain ⟨reported, hReported, hReportedSymbol⟩ := hSymbol
  have hIsHeld : isHeld snapshot card.symbol = true :=
    List.any_eq_true.mpr ⟨reported, hReported, by simpa using hReportedSymbol⟩
  obtain ⟨current, hCurrent, hQuantity, hOpen⟩ :=
    exact_held run (symbolHeld_of_holding hComplete hPositive hIsHeld) hCard hPosition
  rcases run.cardIn_final card.cardKey with ⟨hIncomplete, _⟩ | ⟨_, ⟨hNone, _⟩ | ⟨held, swept,
    orders, hHeldCard, hSwept, _, hFinal⟩⟩
  · rw [hComplete] at hIncomplete
    cases hIncomplete
  · rw [hCurrent] at hNone
    exact absurd hNone heldCard_ne_none
  let P : TradeCardState → Prop := fun other =>
    0 < other.brokerQuantity ∧ (card.boardStatus ≠ .closed → other.boardStatus ≠ .closed)
  have hShown : ∃ other, heldCard snapshot card.cardKey (some current) = some other ∧ P other := by
    apply heldCard_some (P := P) ⟨hQuantity, hOpen⟩
    intro other holding hHolding _ hOther
    obtain ⟨hApplied, hColumn⟩ := applyHolding_position other holding
    refine ⟨by rw [hApplied]; exact hPositive holding hHolding, ?_⟩
    intro hCardOpen hClosed
    have hPositioned := hColumn.mpr (hOther.2 hCardOpen)
    rw [hClosed] at hPositioned
    cases hPositioned
  obtain ⟨other, hOther, hKept, hColumn⟩ := hShown
  rw [hCurrent, hOther] at hHeldCard
  cases hHeldCard
  have hKey := heldCard_key (cardIn_key _ current hCurrent) hOther
  have hSameSymbol : held.symbol = card.symbol := congrArg (fun key : CardKey => key.2.2) hKey
  rw [hFinal, retired_of_held (hSameSymbol.symm ▸ hIsHeld) hSwept] at hAfter
  cases hAfter
  refine ⟨hKept, ?_⟩
  intro hClosed
  by_contra hCardOpen
  exact hColumn hCardOpen hClosed

/-- Without complete holdings a pass takes no position away. -/
theorem reduced_held_of_incomplete (hIncomplete : snapshot.completeness.holdingsComplete = false) :
    StaysHeld card after := by
  intro hPosition
  have hCards := cards_keepPosition hIncomplete h
  obtain ⟨before, hBefore, hKept⟩ := forall₂_mem_right hCards (lookup_mem hAfter)
  have hSame : before = card := by
    apply localState.cardsKeyed.eq_of_mem hBefore hCard
    rw [← hKept.key]
    exact lookup_key hAfter
  subst hSame
  exact ⟨lt_of_lt_of_le hPosition hKept.quantity, hKept.closed⟩

end Reduced

/-! ## Runs -/

/-- What happens to a card: a stage of a heartbeat with the answer of the position query it
may take, a quote, the stage of the entry orders with the answers of the two position
refreshes if they are wired, the end of the day, what the other stages write, and a pass of
the reducer over the account. -/
inductive PositionEvent
  | exitStage (stage : ExitStage) (answers : ExitAnswers) (positions : Except Raised JsonValue)
  | quote (answers : ExitAnswers) (quote : EngineQuote)
  | entryOrders (answers : EntryAnswers) (first second : Option (Except Raised JsonValue))
  | endOfDay (answers : EodAnswers)
  | bookkeeping
  | reducerPass (positions : Except Raised JsonValue) (runtime : Runtime)
      (snapshot : AccountBrokerSnapshot) (localState : AccountLocalState)

/-- `refresh_orderable_quantity` of the card. -/
def quantityFrom (python : PythonText) (card : TradeCardState)
    (positions : Except Raised JsonValue) : Except Raised Int := do
  let snapshot ← positions
  refreshOrderableQuantity python card.symbol snapshot

/-- `refresh_broker_position` of the card, if it is wired. -/
def holdingFrom (python : PythonText) (card : TradeCardState) :
    Option (Except Raised JsonValue) → Except Raised (Option BrokerHolding)
  | none => .ok none
  | some positions => do
    let snapshot ← positions
    refreshBrokerPosition python card snapshot

/-- One step of a card. -/
inductive PositionStep (python : PythonText) (engine : EngineRuntime) :
    TradeCardState → PositionEvent → TradeCardState → Prop
  | exitStage (card : TradeCardState) (stage : ExitStage) (answers : ExitAnswers)
      (positions : Except Raised JsonValue) :
      PositionStep python engine card (.exitStage stage answers positions)
        (stage.run engine (answers.withQuantity (quantityFrom python card positions))
          { card := card }).2.card
  | quote (card : TradeCardState) (answers : ExitAnswers) (quote : EngineQuote) :
      PositionStep python engine card (.quote answers quote)
        (evaluateQuote answers quote { card := card }).2.card
  | entryOrders (card : TradeCardState) (answers : EntryAnswers)
      (first second : Option (Except Raised JsonValue)) :
      PositionStep python engine card (.entryOrders answers first second)
        (reconcileEntryOrders engine
          { answers with
            firstHolding := holdingFrom python card first
            secondHolding := holdingFrom python card second } card).1
  | endOfDay (card : TradeCardState) (answers : EodAnswers) :
      PositionStep python engine card (.endOfDay answers) (runEodCleanup card answers)
  | bookkeeping {card after : TradeCardState} :
      after.cardKey = card.cardKey → after.brokerQuantity = card.brokerQuantity →
      (after.boardStatus = .closed → card.boardStatus = .closed) →
      PositionStep python engine card .bookkeeping after
  | reducerPass {card after : TradeCardState} {positions : Except Raised JsonValue}
      {runtime : Runtime} {snapshot : AccountBrokerSnapshot} {localState : AccountLocalState}
      {final : ReduceState} :
      requireTradeCardIdentity card.environment card.symbol = .ok () →
      OfAccount snapshot card → FetchedFrom python positions snapshot →
      card ∈ localState.cards → reduceLocalState runtime snapshot localState = .ok final →
      cardIn final card.cardKey = some after →
      PositionStep python engine card (.reducerPass positions runtime snapshot localState) after

/-- The step is answered a listing of the holdings without shares of the card's symbol. -/
def PositionEvent.ReportedFlat (python : PythonText) (card : TradeCardState) :
    PositionEvent → Prop
  | .exitStage _ _ positions =>
    ∃ answer, positions = .ok answer ∧ ReportsFlat python card.symbol answer
  | .reducerPass positions _ _ _ =>
    ∃ answer, positions = .ok answer ∧ ReportsFlat python card.symbol answer
  | _ => False

/-- A stage that asks for the position of a held card is answered that none is held, or
shares that can be ordered, or what it cannot read; a pass with complete holdings has a row
that says how many are held, or says that none is. -/
def Conclusive (python : PythonText) (card : TradeCardState) (event : PositionEvent) : Prop :=
  0 < card.brokerQuantity →
    match event with
    | .exitStage stage answers positions =>
      stage.asksPositions answers card = true → ∀ answer, positions = .ok answer →
        ReportsFlat python card.symbol answer ∨
          ListsOrderable python (upper card.symbol) answer ∨
          Unreadable python (upper card.symbol) answer
    | .reducerPass positions _ snapshot _ =>
      snapshot.completeness.holdingsComplete = true → ∀ answer, positions = .ok answer →
        ReportsFlat python card.symbol answer ∨ ListsHeld python card.symbol answer
    | _ => True

theorem requireTradeCardIdentity_named {environment symbol : String}
    (h : requireTradeCardIdentity environment symbol = .ok ()) : symbol ≠ "" := by
  intro hBlank
  unfold requireTradeCardIdentity at h
  rw [if_pos hBlank] at h
  split at h <;> cases h

theorem holdingFrom_positive {python : PythonText} {positions : Option (Except Raised JsonValue)}
    {found : BrokerHolding} (h : holdingFrom python card positions = .ok (some found)) :
    0 < found.quantity := by
  unfold holdingFrom at h
  cases positions with
  | none => cases h
  | some =>
    obtain ⟨snapshot, _, hRefreshed⟩ := bind_eq_ok.mp h
    exact refreshBrokerPosition_positive hRefreshed

section Steps

variable {python : PythonText} {engine : EngineRuntime} {start finish card after : TradeCardState}
  {event : PositionEvent}

/-- One step on conclusive answers takes a position only on a flat report. -/
theorem PositionStep.held (h : PositionStep python engine card event after)
    (hConclusive : Conclusive python card event) (hNotFlat : ¬ event.ReportedFlat python card) :
    StaysHeld card after := by
  cases h with
  | exitStage stage answers positions =>
    intro hHeld
    have hKept : StaysHeld card (stage.run engine
        (answers.withQuantity (quantityFrom python card positions))
        { card := card }).2.card := by
      apply stage.run_held { card := card }
      intro hAsks remaining hRemaining
      obtain ⟨answer, hAnswer, hRead⟩ := bind_eq_ok.mp hRemaining
      rcases hConclusive hHeld hAsks answer hAnswer with hFlat | hListed | hUnreadable
      · exact absurd ⟨answer, hAnswer, hFlat⟩ hNotFlat
      · exact refreshOrderableQuantity_positive hListed hRead
      · exact absurd hRead (refreshOrderableQuantity_unreadable hUnreadable)
    exact hKept hHeld
  | quote answers quote => exact staysHeld_placeRules.keeps_evaluateQuote quote { card := card }
  | entryOrders =>
    exact reconcileEntryOrders_held (fun found hFound => holdingFrom_positive hFound)
      (fun found hFound => holdingFrom_positive hFound)
  | endOfDay answers => exact runEodCleanup_held card answers
  | bookkeeping _ hQuantity hClosed =>
    intro hHeld
    rw [hQuantity]
    exact ⟨hHeld, hClosed⟩
  | @reducerPass _ positions runtime snapshot localState final hIdentity _ hFetched hCard hReduced
      hAfter =>
      by_cases hComplete : snapshot.completeness.holdingsComplete = true
      · intro hHeld
        obtain ⟨answer, hAnswer⟩ : ∃ answer, positions = .ok answer := by
          cases positions with
          | ok answer => exact ⟨answer, rfl⟩
          | error =>
            have hMissing := hFetched.1
            rw [hComplete] at hMissing
            cases hMissing
        rw [hAnswer] at hFetched
        rcases hConclusive hHeld hComplete answer hAnswer with hFlat | hListed
        · exact absurd ⟨answer, hAnswer, hFlat⟩ hNotFlat
        · obtain ⟨hSymbol, hPositive⟩ := held_of_listed hFetched hComplete
            (requireTradeCardIdentity_named hIdentity) hListed
          exact reduced_held hReduced hCard hAfter hComplete hSymbol hPositive hHeld
      · exact reduced_held_of_incomplete hReduced hCard hAfter (by simpa using hComplete)

/-- The event takes the card's position, if at all, on a flat report. -/
def EndsOnFlat (python : PythonText) (engine : EngineRuntime) (card : TradeCardState)
    (event : PositionEvent) : Prop :=
  ∀ after, PositionStep python engine card event after → ¬ StaysHeld card after →
    event.ReportedFlat python card

/-- In a run on conclusive answers every step takes a position only on a flat report; where
a position that was held is gone at the end, some step was reported flat. -/
theorem position_ends_on_confirmation
    (hRun : RunWith (PositionStep python engine) (Conclusive python) start finish) :
    RunWith (PositionStep python engine) (EndsOnFlat python engine) start finish ∧
      (0 < start.brokerQuantity → start.boardStatus ≠ .closed →
        (finish.brokerQuantity ≤ 0 ∨ finish.boardStatus = .closed) →
        ∃ before event after,
          RunWith (PositionStep python engine) (Conclusive python) start before ∧
          PositionStep python engine before event after ∧
          RunWith (PositionStep python engine) (Conclusive python) after finish ∧
          0 < before.brokerQuantity ∧ before.boardStatus ≠ .closed ∧
          (after.brokerQuantity ≤ 0 ∨ after.boardStatus = .closed) ∧
          event.ReportedFlat python before) := by
  have hEach : ∀ card event, Conclusive python card event →
    EndsOnFlat python engine card event := by
    intro card event hConclusive after hStep hLost
    by_contra hNotFlat
    exact hLost (hStep.held hConclusive hNotFlat)
  refine ⟨hRun.mono hEach, ?_⟩
  intro hHeld hOpen hEnded
  let Positioned : TradeCardState → Prop := fun card =>
    0 < card.brokerQuantity ∧ card.boardStatus ≠ .closed
  have hGone : ¬ Positioned finish := by
    rintro ⟨hQuantity, hColumn⟩
    rcases hEnded with hEmpty | hClosed
    · omega
    · exact hColumn hClosed
  obtain ⟨before, event, after, hFirst, hMet, hStep, hRest, hBefore, hAfter⟩ :=
    hRun.crossing (I := Positioned) ⟨hHeld, hOpen⟩ hGone
  have hLost : ¬ StaysHeld before after := by
    intro hKept
    obtain ⟨hQuantity, hColumn⟩ := hKept hBefore.1
    exact hAfter ⟨hQuantity, fun hClosed => hBefore.2 (hColumn hClosed)⟩
  have hTaken : after.brokerQuantity ≤ 0 ∨ after.boardStatus = .closed := by
    by_cases hQuantity : 0 < after.brokerQuantity
    · right
      by_contra hColumn
      exact hAfter ⟨hQuantity, hColumn⟩
    · left
      omega
  exact ⟨before, event, after, hFirst, hStep, hRest, hBefore.1, hBefore.2, hTaken,
    hEach before event hMet after hStep hLost⟩

end Steps

/-! ## Locked shares, an empty answer and an unreadable row -/

/-- Text conversions for answers whose numbers are JSON numbers or no numbers. -/
def plainText : PythonText := { floatOfText := fun _ => none, str := fun _ => "" }

/-- An engine whose client ids spell out what they are derived from. -/
def plainEngine : EngineRuntime :=
  { deriveExecutionClientOrderId := fun groupId number _ _ => groupId ++ ":" ++ toString number
    fromisoformat := fun _ => none }

/-- Ten shares that are to be sold, with nothing working at the broker. -/
def tenSharesCard : TradeCardState :=
  { sampleCard with
    boardStatus := .sellAll
    exitAllRequired := true
    brokerQuantity := 10
    orderableQuantity := 10
    entryClientOrderId := ""
    entryAttemptGroupId := "" }

/-- No order is found, the market is open, and a submission is accepted. -/
def idleAnswers : ExitAnswers :=
  { now := 0
    later := 0
    findOpenSellOrder := .ok none
    reconcileSellOrder := .error { cls := .attributeError, message := "" }
    refreshOrderableQuantity := .ok 0
    findOpenEntryOrder := .ok none
    cancel := .rejected
    cancelError := { cls := .valueError, message := "" }
    cancelCommandId := "k1"
    tradingHalted := false
    marketIsOpen := true
    submission := .accepted
    exitGroupId := "x1" }

/-- An account whose overseas holdings are these rows. -/
def holdingsAnswer (rows : List (List (String × JsonValue))) : JsonValue :=
  .object [("overseas", .object [("holdings", .list (rows.map .object))])]

/-- Ten shares are held, and another order has locked all of them. -/
def lockedRow : List (String × JsonValue) :=
  [("symbol", .text "AAPL"), ("quantity", .number (.finite 10)),
    ("orderable_quantity", .number (.finite 0))]

/-- A row whose quantity is no number. -/
def unreadableRow : List (String × JsonValue) :=
  [("symbol", .text "AAPL"), ("quantity", .text "n/a")]

/-- The stage of `_retry_incomplete_sell_alls` on an answer. -/
def retryOn (answer : JsonValue) : PositionEvent :=
  .exitStage .retryIncompleteSellAlls idleAnswers (.ok answer)

/-- The card is closed in a step that was not reported flat. -/
def ClosedUnconfirmed (card : TradeCardState) (event : PositionEvent) : Prop :=
  0 < card.brokerQuantity ∧ ¬ event.ReportedFlat plainText card ∧
    ∃ after, PositionStep plainText plainEngine card event after ∧
      after.boardStatus = .closed ∧ after.brokerQuantity = 0

theorem not_reportsFlat_of_row {row : List (String × JsonValue)}
    (hSymbol : accountSymbol plainText row = "AAPL")
    (hQuantity : accountQuantity plainText row ≠ .ok (some 0)) :
    ¬ ReportsFlat plainText "AAPL" (holdingsAnswer [row]) := by
  rintro ⟨rows, hRows, hZero⟩
  have hListed : rows = [.object row] := (Except.ok.inj hRows).symm
  subst hListed
  obtain ⟨fields, hSame, hHolds⟩ := hZero (.object row) List.mem_cons_self ⟨row, rfl, hSymbol⟩
  cases hSame
  exact hQuantity hHolds

/-- The account of the reducer's pass, with the ten shares in SELL_ALL. -/
def tenSharesState : AccountLocalState :=
  { heldState with cards := [tenSharesCard], cardsKeyed := keyed_singleton _ _ }

theorem closed_unconfirmed :
    ClosedUnconfirmed tenSharesCard (retryOn (holdingsAnswer [lockedRow])) ∧
      ClosedUnconfirmed tenSharesCard (retryOn (.object [])) ∧
      ClosedUnconfirmed tenSharesCard
        (.reducerPass (.ok (holdingsAnswer [unreadableRow])) sampleRuntime
          { sampleSnapshot with orders := [] } tenSharesState) := by
  have hLocked : ¬ ReportsFlat plainText "AAPL" (holdingsAnswer [lockedRow]) :=
    not_reportsFlat_of_row (by decide +kernel) (by decide +kernel)
  have hUnreadable : ¬ ReportsFlat plainText "AAPL" (holdingsAnswer [unreadableRow]) :=
    not_reportsFlat_of_row (by decide +kernel) (by decide +kernel)
  refine ⟨⟨by decide, ?_, _, .exitStage tenSharesCard .retryIncompleteSellAlls idleAnswers
    (.ok (holdingsAnswer [lockedRow])), by decide +kernel, by decide +kernel⟩,
    ⟨by decide, ?_, _, .exitStage tenSharesCard .retryIncompleteSellAlls idleAnswers
      (.ok (.object [])), by decide +kernel, by decide +kernel⟩,
    ⟨by decide, ?_, closedFlat { tenSharesCard with brokerQuantity := 0, orderableQuantity := 0 },
      ?_, rfl, rfl⟩⟩
  · rintro ⟨answer, hAnswer, hFlat⟩
    cases hAnswer
    exact hLocked hFlat
  · rintro ⟨answer, hAnswer, rows, hRows, _⟩
    cases hAnswer
    cases hRows
  · rintro ⟨answer, hAnswer, hFlat⟩
    cases hAnswer
    exact hUnreadable hFlat
  · have hFetched : fetchHoldings plainText (.ok (holdingsAnswer [unreadableRow])) = .ok [] := by
      rfl
    let final : ReduceState :=
      (reduceLocalState sampleRuntime { sampleSnapshot with orders := [] }
        tenSharesState).toOption.getD (ReduceState.start tenSharesState)
    have hFinal : reduceLocalState sampleRuntime { sampleSnapshot with orders := [] }
        tenSharesState = .ok final := by rfl
    have hSnapshot : FetchedFrom plainText (.ok (holdingsAnswer [unreadableRow]))
        { sampleSnapshot with orders := [] } := by
      unfold FetchedFrom
      rw [hFetched]
      exact ⟨rfl, rfl⟩
    exact .reducerPass (by decide +kernel) ⟨rfl, rfl⟩ hSnapshot List.mem_cons_self hFinal
      (by decide +kernel)

/-- The card after the ten shares are sold and the account is listed without them. -/
def soldOutCard : TradeCardState :=
  (ExitStage.run plainEngine
    (idleAnswers.withQuantity (quantityFrom plainText tenSharesCard (.ok (holdingsAnswer []))))
    .retryIncompleteSellAlls { card := tenSharesCard }).2.card

theorem position_ends_on_confirmation_sold_out :
    soldOutCard.boardStatus = .closed ∧
      RunWith (PositionStep plainText plainEngine) (EndsOnFlat plainText plainEngine)
        tenSharesCard soldOutCard := by
  have hFlat : ReportsFlat plainText "AAPL" (holdingsAnswer []) :=
    ⟨[], rfl, fun row hRow => absurd hRow List.not_mem_nil⟩
  have hConclusive : Conclusive plainText tenSharesCard (retryOn (holdingsAnswer [])) := by
    intro _ _ answer hAnswer
    cases hAnswer
    exact Or.inl hFlat
  have hRun : RunWith (PositionStep plainText plainEngine) (Conclusive plainText)
      tenSharesCard soldOutCard :=
    (RunWith.refl tenSharesCard).step hConclusive
      (.exitStage tenSharesCard .retryIncompleteSellAlls idleAnswers (.ok (holdingsAnswer [])))
  exact ⟨by decide +kernel, (position_ends_on_confirmation hRun).1⟩

end QuantApp.Services
