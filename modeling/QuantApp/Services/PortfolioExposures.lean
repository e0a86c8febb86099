import QuantApp.Core.DiscoveredExternalOrder
import QuantApp.Core.TradeCardState
import QuantApp.Risk.Portfolio
import QuantApp.Verified.Dictionary

/-!
# The exposures of an account

`_portfolio_position_from_card` and `_portfolio_projected_exposures` of
`src/services/buyboard_runtime.py`: what the portfolio decision is told about the
positions, the pending entries, the reservations and the unowned orders of an account.
-/

namespace QuantApp.Services

open Core Risk Verified

def riskStrategyId : String := "ORB_KANBAN"

def kanbanGroups : RiskGroups := { strategyId := riskStrategyId }

/-! ## Positions -/

/-- The positive prices of a card, `trusted` being its last trusted market price. -/
def valuationPrices (trusted : Option ℚ) (card : TradeCardState) : List ℚ :=
  [trusted.getD 0, card.averageEntryPrice, card.activeStopPrice.getD 0].filter (0 < ·)

def portfolioPositionFromCard (trusted : TradeCardState → Option ℚ) (card : TradeCardState) :
    Except Raised (Option PortfolioPositionRisk) :=
  if card.brokerQuantity ≤ 0 then .ok none
  else
    match valuationPrices (trusted card) card with
    | [] =>
      .error
        { cls := .valueError
          message := "Open position " ++ card.symbol ++ " has no usable valuation price" }
    | price :: rest =>
      if card.activeStopPrice.getD 0 < 0 then
        .error
          { cls := .valueError
            message := "Open position " ++ card.symbol ++ " has an invalid stop price" }
      else
        some <$> makePosition card.symbol card.brokerQuantity (rest.foldl max price)
          (card.activeStopPrice.getD 0) kanbanGroups

/-- The positions of the cards of an account. -/
def portfolioPositions (trusted : TradeCardState → Option ℚ) (cards : List TradeCardState) :
    Except Raised (List PortfolioPositionRisk) :=
  (fun positions => positions.filterMap id) <$> cards.mapM (portfolioPositionFromCard trusted)

/-! ## Projected exposures -/

variable (cards : List TradeCardState)

/-- `stop_for`: the entry stop of the symbol's card, if it lies below the price. -/
def stopFor (symbol : String) (referencePrice : ℚ) : ℚ :=
  match cards.reverse.find? (·.symbol = symbol) with
  | none => 0
  | some card =>
    let low := card.entryOrbLow.getD 0
    let active := card.activeStopPrice.getD 0
    if 0 < low ∧ low < referencePrice then low
    else if 0 < active ∧ active < referencePrice then active
    else 0

/-- A pending entry: a BUY of intent ENTRY that is not terminal, with shares left. -/
def isPendingEntry (order : ExecutionOrderRecord) : Bool :=
  order.side = .buy && order.intent = .entry && !order.status.isTerminal &&
    decide (0 < order.remainingQuantity)

/-- The open reservations of an account, under their ids. -/
abbrev OpenReservations := Dictionary String CapitalReservation

def openReservations (activeReservations : List CapitalReservation) : OpenReservations :=
  Dictionary.fileUnder CapitalReservation.reservationId (activeReservations.filter (·.isOpen))

variable (reservations : OpenReservations)

/-- `active_reservation_id`: the reservation an order names, if it is open. -/
def activeReservationId (order : ExecutionOrderRecord) : String :=
  if order.capitalReservationId ∈ reservations then order.capitalReservationId else ""

def pendingNotional (order : ExecutionOrderRecord) : ℚ :=
  order.remainingQuantity * order.submittedLimitPrice

/-- What the open reservation an order names still holds. -/
def namedNotional (order : ExecutionOrderRecord) : ℚ :=
  ((reservations.get? order.capitalReservationId).map (·.remainingReservedNotional)).getD 0

/-- The exposure of a pending entry: the larger of its own notional and what the open
reservation it names still holds. -/
def pendingExposure (order : ExecutionOrderRecord) : Except Raised PortfolioProjectedExposure :=
  let price := order.submittedLimitPrice
  let grossNotional := max (pendingNotional order) (namedNotional reservations order)
  let stop := stopFor cards order.symbol price
  let openRisk := if 0 < stop then order.remainingQuantity * (price - stop) else grossNotional
  let reservedRisk :=
    ((reservations.get? order.capitalReservationId).map (·.remainingProjectedOpenRisk)).getD 0
  let activeId := activeReservationId reservations order
  makeExposure order.symbol grossNotional (max openRisk reservedRisk)
    (if activeId = "" then "PENDING_BUY_WITHOUT_ACTIVE_RESERVATION" else "PENDING_BUY")
    activeId kanbanGroups

/-- The exposures of the pending entries so far, and `seen_reservation_ids`. -/
structure PendingProjection where
  exposures : List PortfolioProjectedExposure := []
  seenReservationIds : List String := []

/-- The projection after an exposure that names `activeId`. -/
def PendingProjection.add (projection : PendingProjection) (activeId : String)
    (exposure : PortfolioProjectedExposure) : PendingProjection :=
  { exposures := projection.exposures ++ [exposure]
    seenReservationIds :=
      if activeId = "" then projection.seenReservationIds
      else projection.seenReservationIds ++ [activeId] }

/-- One turn of the loop over the orders: a reservation is counted with the first pending
entry that names it. -/
def addPendingExposure (projection : PendingProjection) (order : ExecutionOrderRecord) :
    Except Raised PendingProjection :=
  if isPendingEntry order then
    let activeId := activeReservationId reservations order
    if order.submittedLimitPrice ≤ 0 then
      .error
        { cls := .valueError
          message := "Pending BUY " ++ order.clientOrderId ++ " has no usable valuation price" }
    else if activeId ∈ projection.seenReservationIds then .ok projection
    else projection.add activeId <$> pendingExposure cards reservations order
  else .ok projection

/-- The exposure of a reservation no pending entry has counted. -/
def reservationExposure (reservation : CapitalReservation) :
    Except Raised PortfolioProjectedExposure :=
  makeExposure reservation.symbol reservation.remainingReservedNotional
    (activeOpenRisk reservation) "ACTIVE_CAPITAL_RESERVATION" reservation.reservationId
    kanbanGroups

/-- The reservations that are counted on their own. -/
def unnamedReservations (seenReservationIds : List String) : List CapitalReservation :=
  reservations.values.filter (fun reservation =>
    !seenReservationIds.contains reservation.reservationId &&
      decide (0 < reservation.remainingReservedNotional))

/-- An unowned BUY with shares left. -/
def isUnresolvedExternalBuy (order : DiscoveredExternalOrder) : Bool :=
  order.side = .buy && order.disposition = .discoveredUnowned &&
    !order.brokerStatus.isTerminal && decide (0 < order.quantityRequested - order.filledQuantity)

/-- The exposure of an unowned BUY: all of it is at risk. -/
def externalExposure (order : DiscoveredExternalOrder) : Except Raised PortfolioProjectedExposure :=
  if order.limitPrice ≤ 0 then
    .error
      { cls := .valueError
        message := "Unresolved external BUY " ++ order.brokerOrderId ++
          " has no usable valuation price" }
  else
    let notional := (order.quantityRequested - order.filledQuantity) * order.limitPrice
    makeExposure order.symbol notional notional "UNRESOLVED_EXTERNAL_BUY" "" {}

def portfolioProjectedExposures
    (executionOrders : List ExecutionOrderRecord) (activeReservations : List CapitalReservation)
    (externalOrders : List DiscoveredExternalOrder) :
    Except Raised (List PortfolioProjectedExposure) := do
  let reservations := openReservations activeReservations
  let pending ← executionOrders.foldlM (addPendingExposure cards reservations) {}
  let held ←
    (unnamedReservations reservations pending.seenReservationIds).mapM reservationExposure
  let external ← (externalOrders.filter isUnresolvedExternalBuy).mapM externalExposure
  pure (pending.exposures ++ held ++ external)

end QuantApp.Services
