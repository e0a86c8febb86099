import QuantApp.Services.EntryReplacement
import QuantApp.Services.EodTradingService

/-!
# What the engine does to a card

The calls of `src/services/trading_engine.py` on one card: `evaluate_quote`,
`evaluate_entry_quote`, `evaluate_pending_stop_handoff` and the eleven stages of
`run_heartbeat`.  The stages that submit entries are given by the gate a card has to pass;
what they make of a card past its gate is left open.
-/

namespace QuantApp.Services

open Core Verified

/-- Membership in `_TICK_REACTIVE_POSITION_STATUSES`. -/
def tickReactive (card : TradeCardState) : Bool :=
  card.boardStatus = .openPosition || card.boardStatus = .partialSell

/-! ## Gates -/

/-- The stages and calls that work on an entry. -/
inductive EntryGate
  | recoverRetryableCards
  | evaluateBuyToday
  | evaluateEntryQuote
  | processEntryCompletion
  | resetBuyTodayAtEod

/-- The guard at the head of each. -/
def EntryGate.admits (card : TradeCardState) : EntryGate → Bool
  | .recoverRetryableCards | .evaluateBuyToday | .resetBuyTodayAtEod =>
    card.boardStatus = .buyToday
  | .evaluateEntryQuote => card.boardStatus = .buyToday || card.boardStatus = .entryPending
  | .processEntryCompletion =>
    card.boardStatus = .openPosition && decide (0 < card.entryRemainingTargetQuantity) &&
      !card.exitAllRequired && !card.entrySubmissionUnresolved

/-! ## Quotes between a stop request and the feed -/

/-- `evaluate_pending_stop_handoff` on a card of the quote's symbol: the requested stop
stands in for the active one while the quote is judged. -/
def evaluatePendingStopHandoff (answers : ExitAnswers) (quote : EngineQuote)
    (receivedAt : Instant) : Engine PUnit := do
  let card ← currentCard
  let pendingPrice := card.pendingStop.price.getD 0
  if quote.regularSession && tickReactive card && card.pendingStop.commandId ≠ "" &&
      card.pendingStop.requestedAt.any (fun requestedAt => decide (requestedAt ≤ receivedAt)) &&
      decide (0 < pendingPrice) && decide (quote.lastPrice ≤ pendingPrice) &&
      !card.exitAllRequired then do
    setCard (fun card => { card with activeStopPrice := some pendingPrice })
    let result ← Procedure.attempt
      (evaluateQuoteForCard answers { quote with stopOverride := none })
    setCard (fun judged => { judged with activeStopPrice := card.activeStopPrice })
    Procedure.ofExcept result
  else pure ⟨⟩

/-! ## The outage monitor -/

/-- What `_detect_stale_position_quotes` writes on a card, and whether it starts a
liquidation, queued for the market open or not. -/
structure OutageView where
  warnings : List String
  startedAt : Option Instant
  riskTier : String
  liquidates : Option Bool

/-- `_detect_stale_position_quotes`, given what it decides. -/
def detectStalePositionQuotes (answers : ExitAnswers) (view : OutageView) : Engine PUnit := do
  setCard (fun card =>
    { card with
      warnings := view.warnings
      marketDataOutageStartedAt := view.startedAt
      marketDataOutageRiskTier := view.riskTier })
  let card ← currentCard
  match view.liquidates with
  | some queueForMarketOpen =>
    if tickReactive card && !card.exitAllRequired then do
      let _ ← Procedure.attempt (initiateSellAll answers queueForMarketOpen)
      pure ⟨⟩
    else pure ⟨⟩
  | none => pure ⟨⟩

/-! ## Events -/

inductive EngineEvent
  | quote (answers : ExitAnswers) (quote : EngineQuote)
  | pendingStopHandoff (answers : ExitAnswers) (quote : EngineQuote) (receivedAt : Instant)
  /-- A gated call; past its gate it leaves `left` and submits this many entry orders. -/
  | gated (gate : EntryGate) (left : TradeCardState) (submitted : Nat)
  | entryOrders (answers : EntryAnswers) (resume : ResumeAnswer)
  | exitStage (stage : ExitStage) (answers : ExitAnswers)
  | outage (answers : ExitAnswers) (view : OutageView)
  | endOfDay (answers : EodAnswers)

/-- A card, how many entry orders were submitted for it, and whether `confirm_flat` has
closed it. -/
structure EngineWorld where
  card : TradeCardState
  entrySubmissions : Nat
  confirmedFlat : Bool

/-- The card is as `confirm_flat` leaves it. -/
def leftByConfirmFlat (card : TradeCardState) : Bool := decide (closedFlat card = card)

/-- A call has left this card and submitted this many entry orders. -/
def EngineWorld.left (world : EngineWorld) (card : TradeCardState) (submitted : Nat) :
    EngineWorld :=
  { card := card
    entrySubmissions := world.entrySubmissions + submitted
    confirmedFlat := world.confirmedFlat || leftByConfirmFlat card }

def EngineWorld.next (runtime : EngineRuntime) (text : ReplacementText) (world : EngineWorld) :
    EngineEvent → EngineWorld
  | .quote answers quote =>
    world.left (evaluateQuote answers quote { card := world.card }).2.card 0
  | .pendingStopHandoff answers quote receivedAt =>
    world.left
      (evaluatePendingStopHandoff answers quote receivedAt { card := world.card }).2.card 0
  | .gated gate left submitted =>
    if gate.admits world.card then world.left left submitted else world
  | .entryOrders answers resume =>
    let passed := reconcileTrackedEntry runtime text answers resume world.card
    world.left passed.1 (if passed.2 then 1 else 0)
  | .exitStage stage answers =>
    world.left (stage.run runtime answers { card := world.card }).2.card 0
  | .outage answers view =>
    world.left (detectStalePositionQuotes answers view { card := world.card }).2.card 0
  | .endOfDay answers =>
    if world.card.boardStatus = .buyToday then world
    else world.left (runEodCleanup world.card answers) 0

def EngineStep (runtime : EngineRuntime) (text : ReplacementText) (before : EngineWorld)
    (event : EngineEvent) (after : EngineWorld) : Prop :=
  after = before.next runtime text event

end QuantApp.Services
