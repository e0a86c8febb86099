import QuantApp.Services.CardPersistence
import QuantApp.Services.ExitStages

/-!
# Trade cards across a restart

The operations of `PositionManager` (`src/services/position_manager.py`) on one card, with
`acknowledge_pending_stop_change` and `clear_orb_generation_metadata` of
`src/core/trade_card_state.py`.  All but two of them leave alone what a restart might fill
in (`apply_planKept`); `card_survives_restart_iff` says which cards of a run come back.
-/

namespace QuantApp.Services

open Core Verified

variable {card before after : TradeCardState} {config : ExecutionConfig} {operation : CardOperation}

/-! ## The operations on one card -/

/-- `TradeCardState.clear_orb_generation_metadata`. -/
def clearOrbGenerationMetadata (card : TradeCardState) : TradeCardState :=
  { card with orbGeneration := {} }

/-- `PositionManager.apply_manual_stop`.  The prices named in the text of the refusal are
left out. -/
def applyManualStop (config : ExecutionConfig) (card : TradeCardState) (requestedPrice : ℚ) :
    Except Raised TradeCardState :=
  if requestedPrice < minimumManualStopPrice config card then
    .error
      { cls := .valueError
        message := "Manual stop cannot widen risk below the minimum (max of breakeven and " ++
          "the current active stop, section 646-659)" }
  else
    .ok { card with stopType := some .manualPrice, activeStopPrice := some requestedPrice }

/-- `PositionManager.evaluate_tick`. -/
def evaluateTick (card : TradeCardState) (currentPrice : ℚ) : TradeCardState :=
  if evaluateStopTrigger card currentPrice then { card with exitAllRequired := true } else card

/-- A cancel a sequence asks for: the identity minted for it and the gateway's answer. -/
structure CancelCall where
  minted : String
  answer : CancelAnswer

/-- The card after the cancel of a sequence, when there is an order to cancel.  A cancel
that raises ends the sequence. -/
def cancelThen (scope : CancelScope) (cancel : Option CancelCall)
    (rest : TradeCardState → TradeCardState) (card : TradeCardState) : TradeCardState :=
  match cancel with
  | none => rest card
  | some call =>
    let outcome := requestCancelWithLifecycle card scope call.minted call.answer
    if outcome.2 then outcome.1 else rest outcome.1

/-- `PositionManager.handle_stop_triggered_during_partial_sell`. -/
def stopTriggeredDuringPartialSell (cancel : Option CancelCall) (card : TradeCardState) :
    TradeCardState :=
  cancelThen .exit cancel
    (fun cancelled =>
      { cancelled with
        pendingPartialSellQuantity := 0
        boardStatus := .sellAll
        positionRuntimeStatus := .liquidating })
    { card with exitAllRequired := true }

/-- `PositionManager.start_sell_all`, with the working BUY it cancels. -/
def startSellAllCancelling (cancel : Option CancelCall) (card : TradeCardState) : TradeCardState :=
  cancelThen .entry cancel
    (fun cancelled =>
      { cancelled with boardStatus := .sellAll, positionRuntimeStatus := .liquidating })
    { card with exitAllRequired := true }

/-- The card a call leaves: one that raises has not written it. -/
def leaves (card : TradeCardState) : Except Raised TradeCardState → TradeCardState
  | .ok next => next
  | .error _ => card

/-- The card a step of the holdings pass leaves: it may write none. -/
def leavesWritten (card : TradeCardState) :
    Except Raised (Option TradeCardState) → TradeCardState
  | .ok change => change.getD card
  | .error _ => card

/-- An operation on a card.  The last two are the steps `reconcile_broker_positions` takes
at a held card and at one whose symbol is not held; a pass that raises has taken some of
its steps. -/
inductive CardOperation
  | clearOrbGenerationMetadata
  | acknowledgePendingStopChange
  | applyFirstFillStop (entryOrbLow : ℚ) (entryOrbWindow : String)
  | applyBreakevenStop
  | applyManualStop (requestedPrice : ℚ)
  | onPartialExitFilled (refreshedBrokerQuantity : Int)
  | evaluateTick (currentPrice : ℚ)
  | handleStopTriggeredDuringPartialSell (cancel : Option CancelCall)
  | startSellAll (cancel : Option CancelCall)
  | queueSellAllAtMarketOpen
  | confirmFlat
  | discoverManualPosition (brokerQuantity : Int) (averageEntryPrice : ℚ)
  | reconcileManualExit (brokerQuantity : Int)
  | holdPosition (holding : BrokerHolding)
  | exitPosition (environment accountNo : String) (holdings : List BrokerHolding)

/-- The card an operation leaves, also when it raises. -/
def CardOperation.apply (config : ExecutionConfig) (card : TradeCardState) :
    CardOperation → TradeCardState
  | .clearOrbGenerationMetadata => Services.clearOrbGenerationMetadata card
  | .acknowledgePendingStopChange => Services.acknowledgePendingStopChange card
  | .applyFirstFillStop entryOrbLow entryOrbWindow =>
    Services.applyFirstFillStop card entryOrbLow entryOrbWindow
  | .applyBreakevenStop => Services.applyBreakevenStop config card
  | .applyManualStop requestedPrice =>
    leaves card (Services.applyManualStop config card requestedPrice)
  | .onPartialExitFilled refreshedBrokerQuantity =>
    Services.onPartialExitFilled config card refreshedBrokerQuantity
  | .evaluateTick currentPrice => Services.evaluateTick card currentPrice
  | .handleStopTriggeredDuringPartialSell cancel => stopTriggeredDuringPartialSell cancel card
  | .startSellAll cancel => startSellAllCancelling cancel card
  | .queueSellAllAtMarketOpen => Services.queueSellAllAtMarketOpen card
  | .confirmFlat => leaves card (Services.confirmFlat card)
  | .discoverManualPosition brokerQuantity averageEntryPrice =>
    leaves card
      (Services.discoverManualPosition 0 (some card) card.environment card.accountNo card.symbol
        card.name brokerQuantity averageEntryPrice)
  | .reconcileManualExit brokerQuantity =>
    leaves card (Services.reconcileManualExit card brokerQuantity)
  | .holdPosition holding =>
    leavesWritten card
      (Services.holdPosition 0 card.environment card.accountNo card holding)
  | .exitPosition environment accountNo holdings =>
    leavesWritten card (Services.exitPosition environment accountNo holdings card)

/-- The card after a list of operations. -/
def runOperations (config : ExecutionConfig) (card : CompleteCard)
    (operations : List CardOperation) : CompleteCard :=
  operations.foldl
    (fun card operation => card.withState (operation.apply config card.toTradeCardState)) card

/-! ## What the operations leave alone -/

/-- The fields of a card the constructor would change, or fills another one from. -/
structure PlanPart where
  environment : String
  accountNo : String
  symbol : String
  version : Int
  positionPercent : ℚ
  selectedOrbWindow : Option String
  entryOrbWindow : Option String
  entryOrbHigh : Option ℚ
  entryTrigger : Option ℚ
  orbGeneration : OrbGenerationMetadata

def planPart (card : TradeCardState) : PlanPart :=
  { environment := card.environment
    accountNo := card.accountNo
    symbol := card.symbol
    version := card.version
    positionPercent := card.positionPercent
    selectedOrbWindow := card.selectedOrbWindow
    entryOrbWindow := card.entryOrbWindow
    entryOrbHigh := card.entryOrbHigh
    entryTrigger := card.entryTrigger
    orbGeneration := card.orbGeneration }

/-- The plan of a card is kept, and so is the risk tier of an outage, unless it is
cleared. -/
structure PlanKept (before after : TradeCardState) : Prop where
  plan : planPart after = planPart before
  riskTier : after.marketDataOutageRiskTier = before.marketDataOutageRiskTier ∨
    after.marketDataOutageRiskTier = ""

theorem PlanKept.refl (card : TradeCardState) : PlanKept card card := ⟨rfl, .inl rfl⟩

theorem PlanKept.trans {first second third : TradeCardState} (h : PlanKept first second)
    (hNext : PlanKept second third) : PlanKept first third := by
  refine ⟨hNext.plan.trans h.plan, ?_⟩
  cases hNext.riskTier with
  | inl hSame => exact hSame ▸ h.riskTier
  | inr hCleared => exact .inr hCleared

theorem planKept_stampCancelCommand (card : TradeCardState) (scope : CancelScope)
    (minted : String) : PlanKept card (stampCancelCommand card scope minted) := by
  unfold stampCancelCommand
  cases scope <;> dsimp only <;> split <;> exact ⟨rfl, .inl rfl⟩

theorem planKept_requestCancel (card : TradeCardState) (scope : CancelScope)
    (minted : String) (answer : CancelAnswer) :
    PlanKept card (requestCancelWithLifecycle card scope minted answer).1 := by
  have hStamped := planKept_stampCancelCommand card scope minted
  unfold requestCancelWithLifecycle
  cases scope <;> cases answer <;> dsimp only
  case entry.answered status protective =>
    split <;> exact hStamped.trans ⟨rfl, .inl rfl⟩
  all_goals exact hStamped.trans ⟨rfl, .inl rfl⟩

/-- A sequence that cancels first keeps the plan when the rest of it does. -/
theorem planKept_cancelThen {scope : CancelScope} {cancel : Option CancelCall}
    {rest : TradeCardState → TradeCardState} {start : TradeCardState} (hStart : PlanKept card start)
    (hRest : ∀ cancelled, PlanKept cancelled (rest cancelled)) :
    PlanKept card (cancelThen scope cancel rest start) := by
  cases cancel with
  | none => exact hStart.trans (hRest start)
  | some call =>
    have hCancel := planKept_requestCancel start scope call.minted call.answer
    unfold cancelThen
    dsimp only
    split
    · exact hStart.trans hCancel
    · exact (hStart.trans hCancel).trans (hRest _)

theorem planKept_takePosition (card : TradeCardState) (quantity : Int) (price : ℚ) :
    PlanKept card (takePosition { card with boardStatus := .openPosition } quantity price) := by
  unfold takePosition
  dsimp only
  split <;> exact ⟨rfl, .inl rfl⟩

theorem planKept_applyBreakevenStop (config : ExecutionConfig) (card : TradeCardState) :
    PlanKept card (applyBreakevenStop config card) := by
  unfold applyBreakevenStop
  dsimp only
  split <;> exact ⟨rfl, .inl rfl⟩

theorem planKept_confirmFlat (card : TradeCardState) :
    PlanKept card (leaves card (confirmFlat card)) := by
  unfold confirmFlat
  split
  · exact .refl card
  · exact ⟨rfl, .inr rfl⟩

theorem planKept_reconcileManualExit (card : TradeCardState) (quantity : Int) :
    PlanKept card (leaves card (reconcileManualExit card quantity)) := by
  unfold reconcileManualExit
  dsimp only
  by_cases hEmpty : quantity ≤ 0
  · rw [if_pos hEmpty, confirmFlat_of_empty hEmpty]
    exact ⟨rfl, .inr rfl⟩
  · rw [if_neg hEmpty]
    exact ⟨rfl, .inl rfl⟩

theorem planKept_holdPosition (card : TradeCardState) (holding : BrokerHolding) :
    PlanKept card
      (leavesWritten card (holdPosition 0 card.environment card.accountNo card holding)) := by
  unfold holdPosition
  split
  · split
    · exact ⟨rfl, .inl rfl⟩
    · exact .refl card
  split
  · exact planKept_takePosition card holding.quantity holding.averagePrice
  · exact .refl card

theorem planKept_exitPosition (environment accountNo : String) (holdings : List BrokerHolding)
    (card : TradeCardState) :
    PlanKept card (leavesWritten card (exitPosition environment accountNo holdings card)) := by
  obtain ⟨change, hChange, hAfter⟩ := exitPosition_succeeds environment accountNo holdings card
  rw [hChange]
  show PlanKept card (change.getD card)
  rw [hAfter]
  split
  · exact .refl card
  unfold exitedCard
  split
  · exact .refl card
  split
  · exact ⟨rfl, .inl rfl⟩
  · exact ⟨rfl, .inr rfl⟩

/-- The operations but the two that write a window or clear an execution price. -/
def CardOperation.keepsPlan : CardOperation → Bool
  | .clearOrbGenerationMetadata => false
  | .applyFirstFillStop _ _ => false
  | _ => true

theorem apply_planKept (card : TradeCardState) (h : operation.keepsPlan = true) :
    PlanKept card (operation.apply config card) := by
  cases operation with
  | clearOrbGenerationMetadata | applyFirstFillStop => cases h
  | acknowledgePendingStopChange =>
    show PlanKept card (acknowledgePendingStopChange card)
    unfold acknowledgePendingStopChange
    split <;> exact ⟨rfl, .inl rfl⟩
  | applyBreakevenStop => exact planKept_applyBreakevenStop config card
  | applyManualStop requestedPrice =>
    show PlanKept card (leaves card (applyManualStop config card requestedPrice))
    unfold applyManualStop
    split <;> exact ⟨rfl, .inl rfl⟩
  | onPartialExitFilled quantity =>
    have hTightened := planKept_applyBreakevenStop config
      { card with brokerQuantity := quantity, orderableQuantity := quantity }
    exact ⟨hTightened.plan, hTightened.riskTier⟩
  | evaluateTick currentPrice =>
    show PlanKept card (evaluateTick card currentPrice)
    unfold evaluateTick
    split <;> exact ⟨rfl, .inl rfl⟩
  | handleStopTriggeredDuringPartialSell cancel =>
    show PlanKept card (stopTriggeredDuringPartialSell cancel card)
    unfold stopTriggeredDuringPartialSell
    exact planKept_cancelThen ⟨rfl, .inl rfl⟩ fun _ => ⟨rfl, .inl rfl⟩
  | startSellAll cancel =>
    show PlanKept card (startSellAllCancelling cancel card)
    unfold startSellAllCancelling
    exact planKept_cancelThen ⟨rfl, .inl rfl⟩ fun _ => ⟨rfl, .inl rfl⟩
  | queueSellAllAtMarketOpen => exact ⟨rfl, .inl rfl⟩
  | confirmFlat => exact planKept_confirmFlat card
  | discoverManualPosition quantity price =>
    exact planKept_takePosition card quantity price
  | reconcileManualExit quantity => exact planKept_reconcileManualExit card quantity
  | holdPosition holding => exact planKept_holdPosition card holding
  | exitPosition environment accountNo holdings =>
    exact planKept_exitPosition environment accountNo holdings card

/-! ## What a run keeps -/

theorem PlanKept.normalized (h : PlanKept before after) (hBefore : StateNormalized before) :
    StateNormalized after := by
  have hEnvironment : after.environment = before.environment := congrArg PlanPart.environment h.plan
  have hAccount : after.accountNo = before.accountNo := congrArg PlanPart.accountNo h.plan
  have hSymbol : after.symbol = before.symbol := congrArg PlanPart.symbol h.plan
  have hVersion : after.version = before.version := congrArg PlanPart.version h.plan
  have hPosition : after.positionPercent = before.positionPercent :=
    congrArg PlanPart.positionPercent h.plan
  have hGeneration : after.orbGeneration = before.orbGeneration :=
    congrArg PlanPart.orbGeneration h.plan
  have hTier : upper after.marketDataOutageRiskTier = after.marketDataOutageRiskTier := by
    cases h.riskTier with
    | inl hSame =>
      rw [hSame]
      exact hBefore.riskTier
    | inr hCleared =>
      rw [hCleared]
      rfl
  exact
    { environment := hEnvironment.trans hBefore.environment
      accountNo := hAccount ▸ hBefore.accountNo
      symbol := hSymbol ▸ hBefore.symbol
      named := hSymbol ▸ hBefore.named
      version := hVersion ▸ hBefore.version
      positionPercent := hPosition ▸ hBefore.positionPercent
      generation := hGeneration ▸ hBefore.generation
      riskTier := hTier }

theorem PlanKept.survives (h : PlanKept before after) (hBefore : SurvivesRestart before) :
    SurvivesRestart after := by
  have hSelected : after.selectedOrbWindow = before.selectedOrbWindow :=
    congrArg PlanPart.selectedOrbWindow h.plan
  have hEntry : after.entryOrbWindow = before.entryOrbWindow :=
    congrArg PlanPart.entryOrbWindow h.plan
  have hHigh : after.entryOrbHigh = before.entryOrbHigh := congrArg PlanPart.entryOrbHigh h.plan
  have hTrigger : after.entryTrigger = before.entryTrigger := congrArg PlanPart.entryTrigger h.plan
  have hGeneration : after.orbGeneration = before.orbGeneration :=
    congrArg PlanPart.orbGeneration h.plan
  refine ⟨hSelected ▸ hBefore.selectedOrbWindow, hEntry ▸ hBefore.entryOrbWindow, ?_⟩
  rw [hHigh, hTrigger, hGeneration]
  exact hBefore.executionPrice

/-- No operation undoes what the constructor made sure of. -/
theorem apply_normalized (config : ExecutionConfig) (operation : CardOperation)
    (h : StateNormalized card) : StateNormalized (operation.apply config card) := by
  cases operation with
  | clearOrbGenerationMetadata =>
    exact ⟨h.environment, h.accountNo, h.symbol, h.named, h.version, h.positionPercent,
      le_refl 0, h.riskTier⟩
  | applyFirstFillStop =>
    exact ⟨h.environment, h.accountNo, h.symbol, h.named, h.version, h.positionPercent,
      h.generation, h.riskTier⟩
  | _ => exact (apply_planKept card rfl).normalized h

/-- The operations a card survives: nothing may fill in the execution price a clear leaves
missing, and a first fill names the window as the constructor would. -/
def OperationSurvives (card : TradeCardState) : CardOperation → Prop
  | .clearOrbGenerationMetadata =>
    (card.entryTrigger = none ∨ card.entryTrigger = some 0) ∧ card.entryOrbHigh = none
  | .applyFirstFillStop _ entryOrbWindow =>
    entryOrbWindow ≠ "" ∧ strip entryOrbWindow = entryOrbWindow
  | _ => True

/-- One operation the card survives keeps it one a restart gives back. -/
theorem apply_survives (hStep : OperationSurvives card operation) (h : SurvivesRestart card) :
    SurvivesRestart (operation.apply config card) := by
  cases operation with
  | clearOrbGenerationMetadata =>
    exact ⟨h.selectedOrbWindow, h.entryOrbWindow, fun _ => hStep⟩
  | applyFirstFillStop =>
    refine ⟨h.selectedOrbWindow, ?_, h.executionPrice⟩
    intro text hText
    cases hText
    exact hStep
  | _ => exact (apply_planKept card rfl).survives h

/-- Every operation of the run is one the card it meets survives. -/
def RunSurvives (config : ExecutionConfig) : CompleteCard → List CardOperation → Prop
  | _, [] => True
  | card, operation :: rest =>
    OperationSurvives card.toTradeCardState operation ∧
      RunSurvives config (card.withState (operation.apply config card.toTradeCardState)) rest

theorem runOperations_normalized (config : ExecutionConfig) {card : CompleteCard}
    (operations : List CardOperation) (h : Normalized card) :
    Normalized (runOperations config card operations) := by
  induction operations generalizing card with
  | nil => exact h
  | cons operation rest ih =>
    have hState := apply_normalized config operation h.state
    exact ih ⟨hState, h.kisWsSymbolKey, h.risk⟩

theorem runOperations_survives {card : CompleteCard} {operations : List CardOperation}
    (hRun : RunSurvives config card operations) (h : SurvivesRestart card.toTradeCardState) :
    SurvivesRestart (runOperations config card operations).toTradeCardState := by
  induction operations generalizing card with
  | nil => exact h
  | cons operation rest ih => exact ih hRun.2 (apply_survives hRun.1 h)

/-- A card of a run comes back from its own payload unchanged just when its windows are
stripped and not empty and no execution price is filled in; it does so at the end of every
run that meets no other operation. -/
theorem card_survives_restart_iff {config : ExecutionConfig} {created : ConstructionClock}
    {arguments : CardArguments} {start : CompleteCard}
    (hStart : postInit created arguments = .ok start) (operations : List CardOperation)
    (reloaded : ConstructionClock) :
    let card := runOperations config start operations
    (fromDict reloaded (toDict card) = .ok card ↔ SurvivesRestart card.toTradeCardState) ∧
      (WindowGiven arguments.selectedOrbWindow → WindowGiven arguments.entryOrbWindow →
        RunSurvives config start operations → fromDict reloaded (toDict card) = .ok card) := by
  intro card
  have hNormal : Normalized card :=
    runOperations_normalized config operations (postInit_normalized hStart)
  have hIff := fromDict_toDict_eq_self_iff reloaded hNormal
  refine ⟨hIff, ?_⟩
  intro hSelected hEntry hRun
  have hFirst := (postInit_survives_iff hStart).mpr ⟨hSelected, hEntry⟩
  exact hIff.mpr (runOperations_survives hRun hFirst)

/-- A card planned at a trigger of 190. -/
def triggeredArguments : CardArguments :=
  { environment := some "PROD"
    accountNo := some "1"
    symbol := some "AAPL"
    selectedOrbWindow := some "5m"
    entryTrigger := some (.finite 190) }

/-- The card made of them. -/
def triggeredCard : CompleteCard :=
  { environment := "PROD"
    accountNo := "1"
    symbol := "AAPL"
    selectedOrbWindow := some "5m"
    entryTrigger := some 190
    orbGeneration := { entryExecutionPrice := some 190 } }

theorem postInit_triggeredArguments : postInit {} triggeredArguments = .ok triggeredCard := by
  decide +kernel

theorem card_survives_restart_filled :
    postInit {} triggeredArguments = .ok triggeredCard ∧
      fromDict {} (toDict (runOperations {} triggeredCard [.applyFirstFillStop 185 "5m"])) =
        .ok (runOperations {} triggeredCard [.applyFirstFillStop 185 "5m"]) := by
  have hSelected : WindowGiven triggeredArguments.selectedOrbWindow := by
    intro text hText _
    cases hText
    decide +kernel
  have hEntry : WindowGiven triggeredArguments.entryOrbWindow := by
    intro text hText
    cases hText
  have hFill : OperationSurvives triggeredCard.toTradeCardState
      (.applyFirstFillStop 185 "5m") :=
    ⟨by decide, by decide +kernel⟩
  exact ⟨postInit_triggeredArguments,
    (card_survives_restart_iff postInit_triggeredArguments [.applyFirstFillStop 185 "5m"] {}).2
      hSelected hEntry ⟨hFill, trivial⟩⟩

/-- After `clear_orb_generation_metadata` the card has no execution price; after the restart
it has its trigger as one. -/
theorem cleared_price_comes_back :
    postInit {} triggeredArguments = .ok triggeredCard ∧
      (runOperations {} triggeredCard
        [.clearOrbGenerationMetadata]).orbGeneration.entryExecutionPrice = none ∧
      (fromDict {} (toDict (runOperations {} triggeredCard [.clearOrbGenerationMetadata]))).map
        (fun card => card.orbGeneration.entryExecutionPrice) = .ok (some 190) ∧
      fromDict {} (toDict (runOperations {} triggeredCard [.clearOrbGenerationMetadata])) ≠
        .ok (runOperations {} triggeredCard [.clearOrbGenerationMetadata]) := by
  refine ⟨?_, ?_, ?_, ?_⟩ <;> decide +kernel

/-! ## Restart after restart -/

theorem windowGiven_orbWindow (window : Option String) : WindowGiven (orbWindow window) := by
  cases window with
  | none => simp [orbWindow, WindowGiven]
  | some text =>
    by_cases hEmpty : text = "" <;> simp [orbWindow, WindowGiven, hEmpty, strip_strip]

theorem restored_normalized {card : CompleteCard} (h : Normalized card) :
    Normalized (restored card) :=
  ⟨{ h.state with }, h.kisWsSymbolKey, h.risk⟩

theorem restored_survives {card : CompleteCard} (hSelected : WindowGiven card.selectedOrbWindow)
    (hEntry : WindowGiven card.entryOrbWindow) :
    SurvivesRestart (restored card).toTradeCardState where
  selectedOrbWindow := windowKept_orbWindow_iff.mpr hSelected
  entryOrbWindow := windowKept_orbWindow_iff.mpr hEntry
  executionPrice := fun hNone =>
    executionPriceDefault_eq_none_iff.mp (Option.or_eq_none_iff.mp hNone).2

/-- From the second restart on the card stays as it is, from the first one on unless a window
is all blanks. -/
def Settles (first second : ConstructionClock) (card : CompleteCard) : Prop :=
  ∃ once twice, fromDict first (toDict card) = .ok once ∧
    fromDict second (toDict once) = .ok twice ∧
    (WindowGiven card.selectedOrbWindow → WindowGiven card.entryOrbWindow → twice = once) ∧
    ∀ later, fromDict later (toDict twice) = .ok twice

/-- Whatever was done to a card, restarts settle it. -/
theorem restarts_settle {config : ExecutionConfig} {created : ConstructionClock}
    {arguments : CardArguments} {start : CompleteCard}
    (hStart : postInit created arguments = .ok start) (operations : List CardOperation)
    (first second : ConstructionClock) :
    Settles first second (runOperations config start operations) := by
  have hNormal : Normalized (runOperations config start operations) :=
    runOperations_normalized config operations (postInit_normalized hStart)
  have hOnce := restored_normalized hNormal
  refine ⟨_, _, fromDict_toDict first hNormal, fromDict_toDict second hOnce, ?_, ?_⟩
  · intro hSelected hEntry
    exact restored_eq_self_iff.mpr (restored_survives hSelected hEntry)
  · intro later
    exact (fromDict_toDict_eq_self_iff later (restored_normalized hOnce)).mpr
      (restored_survives (windowGiven_orbWindow _) (windowGiven_orbWindow _))

/-- A card whose execution price was cleared and whose first fill named a window of blanks. -/
theorem restarts_settle_cleared :
    Settles {} {} (runOperations {} triggeredCard
      [.clearOrbGenerationMetadata, .applyFirstFillStop 185 " "]) :=
  restarts_settle postInit_triggeredArguments _ {} {}

end QuantApp.Services
