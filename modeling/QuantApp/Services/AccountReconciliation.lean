import Mathlib.Data.List.Sort
import QuantApp.Services.CardProjection
import QuantApp.Services.ReservationSettlement
import QuantApp.Services.EmergencySell

/-!
# The account reconciliation reducer

`reduce_account_reconciliation` of `src/services/account_reconciliation.py`.
`ReduceState` holds the cloned records and the accumulators the Python body
mutates; each loop of the body is one pass over it, in the source's order.
`reduceLocalState` runs the passes and `planOf` compares the result with the
local state it started from.
-/

namespace QuantApp.Services

open Core Verified
open TradeCardState (cardKey)

structure ReduceState where
  cards : List TradeCardState
  orders : List ExecutionOrderRecord
  reservations : List CapitalReservation
  externals : List DiscoveredExternalOrder
  categories : List (String × ReconciliationCategory) := []
  consumedBrokerIds : List String := []
  candidateIds : List String := []
  alerts : List ReconciliationAlert := []
  commands : List ReconciliationCommand := []
  classifications : List ReconciliationClassification := []

/-- The clones the reducer starts from. -/
def ReduceState.start (localState : AccountLocalState) : ReduceState :=
  { cards := localState.cards
    orders := localState.executionOrders
    reservations := localState.capitalReservations
    externals := localState.externalOrders }

/-- A critical alert. -/
def criticalAlert (code message symbol clientOrderId brokerOrderId : String) :
    ReconciliationAlert :=
  { code := code
    severity := .critical
    message := message
    symbol := symbol
    clientOrderId := clientOrderId
    brokerOrderId := brokerOrderId }

/-! ## Every local order is classified before any decision -/

/-- One local order of the classification loop. -/
def classifyLocalOrder (snapshot : AccountBrokerSnapshot) (state : ReduceState)
    (order : ExecutionOrderRecord) : ReduceState :=
  let card := lookup cardKey (orderKey order) state.cards
  let category := classifyExecutionOrder order card
  { state with
    cards :=
      match card with
      | none => state.cards
      | some card =>
        store cardKey
          (projectLocalOrder snapshot.observedAt order category card) state.cards
    categories := state.categories ++ [(order.clientOrderId, category)]
    classifications :=
      state.classifications ++ [{ category := category, subjectId := order.clientOrderId }]
    alerts := state.alerts ++
      (if category = .unrecognized then
        [criticalAlert "UNRECOGNIZED_LOCAL_ORDER_COMBINATION"
          "Local order combination has no reconciliation branch" order.symbol
          order.clientOrderId ""]
      else []) }

def classifyLocalOrders (snapshot : AccountBrokerSnapshot) (state : ReduceState) : ReduceState :=
  state.orders.foldl (classifyLocalOrder snapshot) state

/-! ## Exact broker identity -/

/-- `order_by_broker_id.get`. -/
def exactOrderFor (orders : List ExecutionOrderRecord) (brokerOrderId : String) :
    Option ExecutionOrderRecord :=
  lookup ExecutionOrderRecord.brokerOrderId brokerOrderId (orders.filter hasExactId)

/-- `category_by_client_order_id[...]`; every local order has an entry. -/
def categoryOf (categories : List (String × ReconciliationCategory)) (clientOrderId : String) :
    ReconciliationCategory :=
  (categories.lookup clientOrderId).getD .unrecognized

/-- The alert of a contradiction, when there is one. -/
def contradictionAlerts (order : ExecutionOrderRecord) (contradiction : Option String) :
    List ReconciliationAlert :=
  (contradiction.map (fun text =>
    criticalAlert "BROKER_STATUS_CONTRADICTION" text order.symbol order.clientOrderId
      order.brokerOrderId)).toList

/-- One row of the exact loop, for the order it belongs to. -/
def reconcileExactOrder (runtime : Runtime) (snapshot : AccountBrokerSnapshot)
    (state : ReduceState) (row : BrokerOrderStatusSnapshot) (exact : ExecutionOrderRecord) :
    Except Raised ReduceState := do
  let (applied, contradiction) ← applyExactOrderSnapshot runtime exact row
  let reconciled :=
    { state with
      orders := store ExecutionOrderRecord.clientOrderId applied state.orders
      consumedBrokerIds := state.consumedBrokerIds ++ [row.brokerOrderId]
      alerts := state.alerts ++ contradictionAlerts applied contradiction }
  match lookup cardKey (orderKey applied) state.cards with
  | none => pure reconciled
  | some card =>
    if cardTracksOrder card applied then
      let (projected, alerts) ← projectExactOrderToCard runtime.config applied row snapshot
        (categoryOf state.categories applied.clientOrderId) card
      pure { reconciled with
        cards := store cardKey projected state.cards
        alerts := reconciled.alerts ++ alerts }
    else pure reconciled

/-- One row of the exact loop. -/
def reconcileExactRow (runtime : Runtime) (snapshot : AccountBrokerSnapshot)
    (state : ReduceState) (row : BrokerOrderStatusSnapshot) : Except Raised ReduceState :=
  match exactOrderFor state.orders row.brokerOrderId with
  | none => .ok state
  | some exact => reconcileExactOrder runtime snapshot state row exact

/-! ## Ambiguous submissions -/

/-- The sort order of heuristic candidates: submission time text, then client id. -/
def candidateBefore (a b : ExecutionOrderRecord) : Prop :=
  let started := fun (order : ExecutionOrderRecord) =>
    (order.submissionStartedAt.getD order.preparedAt).text
  started a < started b ∨ started a = started b ∧ a.clientOrderId ≤ b.clientOrderId

instance : DecidableRel candidateBefore := fun a b => by
  unfold candidateBefore
  infer_instance

/-- The candidates of one row. -/
def candidatesFor (config : ExecutionConfig) (state : ReduceState)
    (row : BrokerOrderStatusSnapshot) : List ExecutionOrderRecord :=
  state.orders.filter (fun order =>
    isAmbiguousSubmission order && !(state.candidateIds.contains order.clientOrderId) &&
      heuristicCandidate config row order)

/-- One row of the heuristic loop. -/
def retainCandidateRow (config : ExecutionConfig) (state : ReduceState)
    (row : BrokerOrderStatusSnapshot) : ReduceState :=
  if row.brokerOrderId ∈ state.consumedBrokerIds then state
  else
    match (candidatesFor config state row).insertionSort candidateBefore with
    | [] => state
    | candidate :: others =>
      { state with
        orders := store ExecutionOrderRecord.clientOrderId
          (retainedCandidate candidate row.brokerOrderId) state.orders
        candidateIds := state.candidateIds ++ [candidate.clientOrderId]
        consumedBrokerIds := state.consumedBrokerIds ++ [row.brokerOrderId]
        alerts := state.alerts ++
          [criticalAlert "AMBIGUOUS_SUBMISSION_HEURISTIC_CANDIDATE"
            "Candidate retained for manual resolution; broker identity was not claimed"
            candidate.symbol candidate.clientOrderId ""] ++
          (if others ≠ [] then
            [criticalAlert "AMBIGUOUS_CANDIDATE_COLLISION"
              "One broker order matched multiple ambiguous local submissions"
              candidate.symbol candidate.clientOrderId ""]
          else []) }

/-- An ambiguous submission that no row was retained for. -/
def isUncorrelated (candidateIds : List String) (order : ExecutionOrderRecord) : Bool :=
  isAmbiguousSubmission order && !(candidateIds.contains order.clientOrderId)

/-- The escalation loop behind complete open-order and history answers. -/
def escalateUncorrelated (snapshot : AccountBrokerSnapshot) (state : ReduceState) : ReduceState :=
  if snapshot.completeness.openOrdersComplete && snapshot.completeness.historyComplete then
    { state with
      orders := state.orders.map (fun order =>
        if isUncorrelated state.candidateIds order then escalatedSubmission order else order)
      alerts := state.alerts ++
        (state.orders.filter (isUncorrelated state.candidateIds)).map (fun order =>
          criticalAlert "AMBIGUOUS_SUBMISSION_MANUAL_INTERVENTION"
            "No verified external correlation capability exists; never resubmit"
            order.symbol order.clientOrderId "") }
  else state

/-! ## Unowned broker orders -/

/-- The status recorded for an unowned row: a status without an entry in the
table is broker-open and fences as UNKNOWN_SUBMISSION_STATE. -/
def externalStatus (row : BrokerOrderStatusSnapshot) : ExecutionOrderStatus :=
  (snapshotStatus row.status).getD .unknownSubmissionState

/-- `new_discovered_external_order` as the reducer calls it, dismissed at once
when the row is already terminal. -/
def discoveredExternal (runtime : Runtime) (snapshot : AccountBrokerSnapshot)
    (row : BrokerOrderStatusSnapshot) : DiscoveredExternalOrder :=
  { environment := snapshot.environment
    accountNo := snapshot.accountNo
    symbol := row.symbol
    side := row.side
    brokerOrderId := row.brokerOrderId
    quantityRequested := row.quantityRequested
    filledQuantity := row.filledQuantity
    limitPrice := row.limitPrice
    brokerStatus := externalStatus row
    externalOrderId := runtime.uuid5Hex ("quant-app://discovered-order/" ++
      snapshot.environment ++ "/" ++ snapshot.accountNo ++ "/" ++ row.brokerOrderId)
    discoveredAt := isoformat snapshot.observedAt
    disposition :=
      if (externalStatus row).isTerminal then .dismissedTerminal else .discoveredUnowned }

/-- What a row does to an external order seen before. -/
def observeExternal (external : DiscoveredExternalOrder) (row : BrokerOrderStatusSnapshot) :
    DiscoveredExternalOrder :=
  { external with
    brokerStatus := externalStatus row
    filledQuantity := row.filledQuantity
    disposition :=
      if external.disposition = .discoveredUnowned ∧ (externalStatus row).isTerminal then
        .dismissedTerminal
      else external.disposition }

/-- The alert of an unowned order that fences its symbol. -/
def unownedAlert (message symbol brokerOrderId : String) : ReconciliationAlert :=
  criticalAlert "DISCOVERED_UNOWNED_BROKER_ORDER" message symbol "" brokerOrderId

/-- The classification and alert of a row whose status has no entry in the table. -/
def noteUnrecognizedStatus (state : ReduceState) (row : BrokerOrderStatusSnapshot) : ReduceState :=
  if snapshotStatus row.status = none then
    { state with
      classifications := state.classifications ++
        [{ category := .unrecognized, subjectId := row.brokerOrderId }]
      alerts := state.alerts ++
        [criticalAlert "UNRECOGNIZED_BROKER_ORDER_STATUS"
          "Broker order status could not be normalized safely" row.symbol ""
          row.brokerOrderId] }
  else state

/-- One row of the external-order loop. -/
def recordExternalRow (runtime : Runtime) (snapshot : AccountBrokerSnapshot)
    (state : ReduceState) (row : BrokerOrderStatusSnapshot) : ReduceState :=
  if row.brokerOrderId = "" ∨ row.brokerOrderId ∈ state.consumedBrokerIds then state
  else
    let noted := noteUnrecognizedStatus state row
    match lookup DiscoveredExternalOrder.brokerOrderId row.brokerOrderId state.externals with
    | none =>
      let external := discoveredExternal runtime snapshot row
      { noted with
        externals := state.externals ++ [external]
        classifications := noted.classifications ++
          [{ category := .discoveredExternalOrder, subjectId := external.externalOrderId }]
        alerts := noted.alerts ++
          (if (externalStatus row).isTerminal then []
          else
            [unownedAlert ("Broker order is not claimed by any local record; all " ++
              "mutations for this account and symbol are fenced") row.symbol
              row.brokerOrderId]) }
    | some external =>
      { noted with
        externals :=
          store DiscoveredExternalOrder.brokerOrderId (observeExternal external row)
            state.externals
        alerts := noted.alerts ++
          (if external.disposition = .discoveredUnowned ∧ (externalStatus row).isOpen then
            [unownedAlert ("Active unowned broker order continues to fence all mutations " ++
              "for this account and symbol") row.symbol row.brokerOrderId]
          else []) }

/-- The alerts of durable unowned orders no row of this snapshot alerted. -/
def alertDurableExternals (state : ReduceState) : ReduceState :=
  let alerted := (state.alerts.filter (·.code = "DISCOVERED_UNOWNED_BROKER_ORDER")).map
    (·.brokerOrderId)
  { state with
    alerts := state.alerts ++
      (state.externals.filter (fun external =>
        external.disposition = .discoveredUnowned && external.brokerStatus.isOpen &&
          !(alerted.contains external.brokerOrderId))).map (fun external =>
            unownedAlert ("Durable active unowned broker order continues to fence all " ++
              "mutations for this account and symbol") external.symbol
              external.brokerOrderId) }

/-! ## Holdings -/

/-- The card of a position the application did not open. -/
def manualPositionCard (snapshot : AccountBrokerSnapshot) (holding : AccountHoldingSnapshot) :
    TradeCardState :=
  { environment := snapshot.environment
    accountNo := snapshot.accountNo
    symbol := holding.symbol
    name := holding.symbol
    boardStatus := .openPosition
    watchlistMember := true
    buylistMember := true
    returnToBuylistAfterClose := true
    brokerQuantity := holding.quantity
    orderableQuantity := holding.orderable
    averageEntryPrice := holding.averagePrice
    positionRuntimeStatus := .opened
    entryBlockReason := "manual_position_requires_stop"
    warnings := ["STOP_REQUIRED"]
    boardStatusUpdatedAt := snapshot.observedAt
    sessionDate := some snapshot.sessionDate
    createdAt := snapshot.observedAt
    updatedAt := snapshot.observedAt }

/-- The board columns a broker position overrides. -/
def isPrePosition (status : BoardStatus) : Bool :=
  status = .watchlist || status = .buylist || status = .buyToday || status = .entryPending

/-- The card of a symbol the broker reports held. -/
def applyHolding (card : TradeCardState) (holding : AccountHoldingSnapshot) : TradeCardState :=
  let held :=
    { card with
      brokerQuantity := holding.quantity
      orderableQuantity := holding.orderable
      averageEntryPrice :=
        if holding.averagePrice ≠ 0 then holding.averagePrice else card.averageEntryPrice }
  if isPrePosition card.boardStatus then
    let opened :=
      { held with
        boardStatus := .openPosition
        positionRuntimeStatus := .opened
        entryRuntimeStatus := none }
    if card.stopType = none then
      { opened with
        warnings :=
          if "STOP_REQUIRED" ∈ card.warnings then card.warnings
          else card.warnings ++ ["STOP_REQUIRED"]
        entryBlockReason := "broker_position_requires_stop" }
    else opened
  else held

variable (snapshot : AccountBrokerSnapshot)

variable (state : ReduceState)

/-- One holding of the holdings loop. -/
def reconcileHolding (holding : AccountHoldingSnapshot) : Except Raised ReduceState :=
  let key : CardKey := (snapshot.environment, snapshot.accountNo, holding.symbol)
  match lookup cardKey key state.cards with
  | none => do
    requireTradeCardIdentity snapshot.environment holding.symbol
    pure { state with
      cards := state.cards ++ [manualPositionCard snapshot holding]
      classifications := state.classifications ++
        [{ category := .manualBrokerPosition
           subjectId := snapshot.environment ++ ":" ++ snapshot.accountNo ++ ":" ++
             holding.symbol }] }
  | some card =>
    .ok { state with
      cards := store cardKey (applyHolding card holding) state.cards }

/-- The symbol is one of the reported holdings. -/
def isHeld (symbol : String) : Bool := snapshot.holdings.any (·.symbol = symbol)

/-- The card of a position a complete holdings answer no longer lists. -/
def sweepUnheldCard (card : TradeCardState) : Except Raised TradeCardState :=
  if card.environment = snapshot.environment ∧ card.accountNo = snapshot.accountNo ∧
      0 < card.brokerQuantity ∧ isHeld snapshot card.symbol = false then
    let emptied := { card with brokerQuantity := 0, orderableQuantity := 0 }
    if card.boardStatus = .openPosition ∨ card.boardStatus = .partialSell ∨
        card.boardStatus = .sellAll then
      confirmFlat emptied
    else .ok emptied
  else .ok card

/-- A pending entry without a local record, a position or a broker row goes back
to the Buylist. -/
def retireStaleEntry (orders : List ExecutionOrderRecord)
    (card : TradeCardState) : TradeCardState :=
  if snapshot.completeness.allows .terminalOrderConclusion ∧
      card.boardStatus = .entryPending ∧
      orders.any (fun order => orderKey order = card.cardKey) = false ∧
      isHeld snapshot card.symbol = false ∧
      snapshot.orders.any (·.symbol = card.symbol) = false then
    clearEntryCardTracking { card with boardStatus := .buylist, entryRuntimeStatus := none } true
  else card

/-- The holdings part of the reducer. -/
def reconcileHoldings : Except Raised ReduceState :=
  if snapshot.completeness.allows .positionQuantityUpdate then do
    let held ← snapshot.holdings.foldlM (reconcileHolding snapshot) state
    let swept ← held.cards.mapM (sweepUnheldCard snapshot)
    pure { held with cards := swept.map (retireStaleEntry snapshot held.orders) }
  else .ok state

/-! ## Absence and capital -/

variable (config : ExecutionConfig)

/-- The absence loop. -/
def recordAbsences (snapshot : AccountBrokerSnapshot)
    (state : ReduceState) : Except Raised ReduceState := do
  let observed ← state.orders.mapM (absenceStep config snapshot state.consumedBrokerIds)
  pure { state with
    orders := observed.map Prod.fst
    alerts := state.alerts ++ observed.flatMap Prod.snd }

/-- The settlement of linked reservations. -/
def settleReservations : ReduceState :=
  let settled := settleReservationsFromReplacementLeaves state.orders state.reservations
    snapshot.observedAt
  { state with reservations := settled.1, alerts := state.alerts ++ settled.2 }

/-- An open reservation no local order refers to. -/
def isOrphanReservation (orders : List ExecutionOrderRecord) (reservation : CapitalReservation) :
    Bool :=
  reservation.isOpen &&
    !(orders.any (fun order => order.capitalReservationId ≠ "" &&
      order.capitalReservationId = reservation.reservationId))

/-- The alert of an orphan reservation. -/
def orphanAlert (reservation : CapitalReservation) (outcome : OrphanOutcome) :
    ReconciliationAlert :=
  { code := "ORPHAN_CAPITAL_RESERVATION_REQUIRES_REVIEW"
    severity := if outcome = .releasedAfterTwoCompleteGenerations then .info else .critical
    message := "Orphan reservation evidence outcome: " ++ outcome.value ++
      ". Capital is released only after two complete, independent account generations in " ++
      "the same US session."
    symbol := reservation.symbol }

/-- One reservation of the orphan loop, with its alert. -/
def orphanStep (snapshot : AccountBrokerSnapshot)
    (orders : List ExecutionOrderRecord) (reservation : CapitalReservation) :
    Except Raised (CapitalReservation × List ReconciliationAlert) :=
  if isOrphanReservation orders reservation then do
    let (observed, outcome) ← recordOrphanReservationAbsence config reservation snapshot
    pure (observed, [orphanAlert reservation outcome])
  else .ok (reservation, [])

/-- The orphan loop. -/
def recordOrphans (snapshot : AccountBrokerSnapshot)
    (state : ReduceState) : Except Raised ReduceState := do
  let observed ← state.reservations.mapM (orphanStep config snapshot state.orders)
  pure { state with
    reservations := observed.map Prod.fst
    classifications := state.classifications ++
      (state.reservations.filter (isOrphanReservation state.orders)).map (fun reservation =>
        { category := .orphanCapitalReservation, subjectId := reservation.reservationId })
    alerts := state.alerts ++ observed.flatMap Prod.snd }

/-- A live entry order without an open reservation of its own. -/
def lacksReservation (reservations : List CapitalReservation) (order : ExecutionOrderRecord) :
    Bool :=
  order.status.isOpen && order.side = .buy && order.intent = .entry &&
    !(((lookup CapitalReservation.reservationId order.capitalReservationId reservations).map
      (·.isOpen)).getD false)

/-- The classifications and alerts of live entries without a reservation. -/
def alertLiveWithoutReservation (state : ReduceState) : ReduceState :=
  let lacking := state.orders.filter (lacksReservation state.reservations)
  { state with
    classifications := state.classifications ++ lacking.map (fun order =>
      { category := .liveOrderWithoutReservation, subjectId := order.clientOrderId })
    alerts := state.alerts ++ lacking.map (fun order =>
      criticalAlert "LIVE_ORDER_WITHOUT_CAPITAL_RESERVATION"
        "Live BUY order has no matching open durable capital reservation" order.symbol
        order.clientOrderId "") }

/-! ## Emergency sells -/

/-- The card asks for a complete exit. -/
def wantsEmergencySell (card : TradeCardState) : Bool :=
  card.boardStatus = .sellAll || card.exitAllRequired

variable (snapshot : AccountBrokerSnapshot)

/-- The commands of one card's decision. -/
def emergencyCommands (symbol : String)
    (decision : EmergencySellDecision) : List ReconciliationCommand :=
  if decision.cancelClientOrderId ≠ "" then
    [{ commandType := .cancelKnownOrder
       environment := snapshot.environment
       accountNo := snapshot.accountNo
       symbol := symbol
       clientOrderId := decision.cancelClientOrderId
       reason := decision.reason }]
  else if 0 < decision.quantity then
    [{ commandType := .emergencySellAll
       environment := snapshot.environment
       accountNo := snapshot.accountNo
       symbol := symbol
       quantity := decision.quantity
       reason := decision.reason }]
  else []

/-- The alerts of one card's decision. -/
def emergencyAlerts (symbol : String) (decision : EmergencySellDecision) :
    List ReconciliationAlert :=
  if decision.cancelClientOrderId = "" ∧ decision.quantity ≤ 0 ∧
      decision.manualInterventionRequired then
    [criticalAlert "EMERGENCY_SELL_QUANTITY_UNCERTAIN" decision.reason symbol "" ""]
  else []

/-- The emergency loop. -/
def decideEmergencySells (state : ReduceState) : ReduceState :=
  let decide := fun (card : TradeCardState) =>
    decideEmergencySell snapshot card.symbol state.orders
  let cards := state.cards.filter wantsEmergencySell
  { state with
    commands := state.commands ++
      cards.flatMap (fun card => emergencyCommands snapshot card.symbol (decide card))
    alerts := state.alerts ++
      cards.flatMap (fun card => emergencyAlerts card.symbol (decide card)) }

/-! ## The reducer -/

/-- The body of `reduce_account_reconciliation` up to the plan. -/
def reduceLocalState (runtime : Runtime) (snapshot : AccountBrokerSnapshot)
    (localState : AccountLocalState) : Except Raised ReduceState := do
  let classified := classifyLocalOrders snapshot (ReduceState.start localState)
  let exact ← snapshot.orders.foldlM (reconcileExactRow runtime snapshot) classified
  let retained := snapshot.orders.foldl (retainCandidateRow runtime.config) exact
  let escalated := escalateUncorrelated snapshot retained
  let external := snapshot.orders.foldl (recordExternalRow runtime snapshot) escalated
  let positioned ← reconcileHoldings snapshot (alertDurableExternals external)
  let observed ← recordAbsences runtime.config snapshot positioned
  let orphaned ← recordOrphans runtime.config snapshot (settleReservations snapshot observed)
  pure (decideEmergencySells snapshot (alertLiveWithoutReservation orphaned))

/-- The rows of `final` whose key is in `original` and whose value is not the
original one. -/
def changedRows {α κ : Type} [DecidableEq α] [DecidableEq κ] (key : α → κ)
    (original final : List α) : List α :=
  final.filter (fun row =>
    match lookup key (key row) original with
    | some old => row ≠ old
    | none => false)

/-- The rows of `final` whose key is not in `original`. -/
def createdRows {α κ : Type} [DecidableEq κ] (key : α → κ) (original final : List α) : List α :=
  final.filter (fun row => (lookup key (key row) original).isNone)

/-- The plan: what differs between the local state and its reduced copy. -/
def planOf (localState : AccountLocalState) (final : ReduceState) : ReconciliationPlan :=
  { snapshotId := snapshot.snapshotId
    cardCreates := createdRows cardKey localState.cards final.cards
    cardUpdates := changedRows cardKey localState.cards final.cards
    orderUpdates :=
      changedRows ExecutionOrderRecord.clientOrderId localState.executionOrders final.orders
    reservationUpdates :=
      changedRows CapitalReservation.reservationId localState.capitalReservations
        final.reservations
    externalOrderCreates :=
      createdRows DiscoveredExternalOrder.externalOrderId localState.externalOrders
        final.externals
    externalOrderUpdates :=
      changedRows DiscoveredExternalOrder.externalOrderId localState.externalOrders
        final.externals
    commands := final.commands
    alerts := final.alerts
    classifications := final.classifications }

def reduceAccountReconciliation (runtime : Runtime) (snapshot : AccountBrokerSnapshot)
    (localState : AccountLocalState) : Except Raised ReconciliationPlan :=
  (planOf snapshot localState) <$> reduceLocalState runtime snapshot localState

/-! ## A small account

One order, one row and one snapshot, from which the concrete runs of the
following modules are built. -/

/-- A timestamp of the sample session. -/
def sampleTime : IsoText := isoformat 1785456000000000

def sampleRuntime : Runtime := { utcNowIso := sampleTime, uuid5Hex := fun name => "uuid5:" ++ name }

/-- An owned entry order for ten shares at 100, working at the broker as `B1`. -/
def sampleOrder : ExecutionOrderRecord :=
  { environment := "PROD"
    accountNo := "1"
    symbol := "AAPL"
    side := .buy
    intent := .entry
    clientOrderId := "c1"
    brokerOrderId := "B1"
    attemptGroupId := "g1"
    submittedQuantity := 10
    submittedLimitPrice := 100
    preparedAt := sampleTime
    status := .working
    remainingQuantity := 10
    brokerIdentityStatus := .exact_
    clientOrderIdNamed := c1_ne_empty }

theorem sampleOrder_linksStripped : ∀ order ∈ [sampleOrder],
    strip order.capitalReservationId = order.capitalReservationId := by
  decide +kernel

/-- The card the entry belongs to. -/
def sampleCard : TradeCardState :=
  { environment := "PROD"
    accountNo := "1"
    symbol := "AAPL"
    boardStatus := .entryPending
    entryClientOrderId := "c1"
    entryAttemptGroupId := "g1"
    targetPositionQuantity := 10 }

/-- The broker's row for that order. -/
def sampleRow : BrokerOrderStatusSnapshot :=
  { symbol := "AAPL"
    brokerOrderId := "B1"
    status := .working
    quantityRequested := 10
    remainingQuantity := 10
    limitPrice := 100
    checkedAt := sampleTime }

/-- The ten shares it buys. -/
def sampleHolding : AccountHoldingSnapshot :=
  { symbol := "AAPL", quantity := 10, averagePrice := 100 }

/-- Every source of the account answered. -/
def completeAnswer : SnapshotCompleteness :=
  { holdingsComplete := true
    openOrdersComplete := true
    historyComplete := true
    reservedOrdersComplete := true
    accountBalanceComplete := true }

def sampleSnapshot : AccountBrokerSnapshot :=
  { environment := "PROD"
    accountNo := "1"
    completeness := completeAnswer
    orders := [sampleRow]
    observedAt := 1785456000000000
    sessionDate := 20665
    snapshotId := "s1" }

/-- The plan of a run that returned one. -/
def returnedPlan (result : Except Raised ReconciliationPlan) : ReconciliationPlan :=
  match result with
  | .ok plan => plan
  | .error _ => { snapshotId := "" }

theorem eq_returnedPlan {result : Except Raised ReconciliationPlan}
    (h : result.isOk = true) : result = .ok (returnedPlan result) := by
  cases result with
  | error => cases h
  | ok => rfl

example :
    let localState : AccountLocalState :=
      { cards := [sampleCard], executionOrders := [sampleOrder]
        reservationLinksStripped := sampleOrder_linksStripped }
    let plan := returnedPlan (reduceAccountReconciliation sampleRuntime
      { sampleSnapshot with
        orders := [{ sampleRow with
          status := .partiallyFilled, filledQuantity := 4, remainingQuantity := 6
          avgFillPrice := 100 }]
        holdings := [{ symbol := "AAPL", quantity := 4, averagePrice := 100 }] }
      localState)
    (plan.orderUpdates.map (fun order => (order.status, order.filledQuantity)),
      plan.cardUpdates.map (fun card => (card.boardStatus, card.brokerQuantity))) =
      ([(.partiallyFilled, 4)], [(.openPosition, 4)]) := by
  decide +kernel

end QuantApp.Services
