import QuantApp.Services.CapitalReservationRepository

/-!
# Portfolio risk

`src/risk/portfolio.py`: the positions and projected exposures of an account, and the
decision about one more entry with the specification its reservation is checked by.
Symbols, strategies and groups are normalized texts.
-/

namespace QuantApp.Risk

open Core Services

def maxPortfolioPositions : Int := 30

structure PortfolioRiskLimits where
  maxSimultaneousPositions : Int := maxPortfolioPositions
  maxTotalOpenRiskFraction : ℚ := 1 / 10
  maxGrossNotionalFraction : ℚ := 1
  maxSinglePositionNotionalFraction : ℚ := 3 / 10
  maxIncrementalBuyingPowerFraction : ℚ := 0
  maxDailyLossFraction : ℚ := 0
  maxDrawdownFraction : ℚ := 0
  maxSectorNotionalFraction : ℚ := 0
  maxIndustryNotionalFraction : ℚ := 0
  maxCorrelationGroupNotionalFraction : ℚ := 0
  maxStrategyNotionalFraction : ℚ := 0
  maxFxAge : Int := secondsToMicros 300

/-! ## Positions and exposures -/

/-- The classification a concentration limit groups by. -/
structure RiskGroups where
  strategyId : String := ""
  sector : String := ""
  industry : String := ""
  correlationGroup : String := ""

/-- A filled position.  `__post_init__` refuses any other values. -/
structure PortfolioPositionRisk where
  symbol : String
  quantity : Int
  markPrice : ℚ
  stopPrice : ℚ
  groups : RiskGroups := {}
  symbolNamed : strip symbol ≠ ""
  quantityPositive : 0 < quantity
  markPricePositive : 0 < markPrice
  stopPriceNonneg : 0 ≤ stopPrice

def PortfolioPositionRisk.notional (position : PortfolioPositionRisk) : ℚ :=
  position.quantity * position.markPrice

def PortfolioPositionRisk.openRisk (position : PortfolioPositionRisk) : ℚ :=
  position.quantity * max 0 (position.markPrice - position.stopPrice)

/-- `PortfolioPositionRisk(...)`. -/
def makePosition (symbol : String) (quantity : Int) (markPrice stopPrice : ℚ)
    (groups : RiskGroups) : Except Raised PortfolioPositionRisk :=
  if hSymbol : strip symbol = "" then
    .error { cls := .valueError, message := "position symbol is required" }
  else if hQuantity : quantity ≤ 0 then
    .error { cls := .valueError, message := "position quantity must be positive" }
  else if markPrice < 0 then
    .error { cls := .valueError, message := "mark_price must be finite and non-negative" }
  else if hMark : markPrice ≤ 0 then
    .error { cls := .valueError, message := "mark_price must be positive" }
  else if hStop : stopPrice < 0 then
    .error { cls := .valueError, message := "stop_price must be finite and non-negative" }
  else
    .ok
      { symbol := symbol
        quantity := quantity
        markPrice := markPrice
        stopPrice := stopPrice
        groups := groups
        symbolNamed := hSymbol
        quantityPositive := by omega
        markPricePositive := lt_of_not_ge hMark
        stopPriceNonneg := le_of_not_gt hStop }

/-- An exposure without a filled position; `reservation_id` names the reservation row that
holds it, and is empty for one that no row holds. -/
structure PortfolioProjectedExposure where
  symbol : String
  grossNotionalUsd : ℚ
  openRiskUsd : ℚ
  source : String
  reservationId : String := ""
  groups : RiskGroups := {}
  symbolNamed : strip symbol ≠ ""
  grossPositive : 0 < grossNotionalUsd
  openRiskNonneg : 0 ≤ openRiskUsd

/-- `PortfolioProjectedExposure(...)`, for a source that is named. -/
def makeExposure (symbol : String) (grossNotionalUsd openRiskUsd : ℚ)
    (source reservationId : String) (groups : RiskGroups) :
    Except Raised PortfolioProjectedExposure :=
  if hSymbol : strip symbol = "" then
    .error { cls := .valueError, message := "projected exposure symbol is required" }
  else if grossNotionalUsd < 0 then
    .error
      { cls := .valueError, message := "gross_notional_usd must be finite and non-negative" }
  else if hGross : grossNotionalUsd ≤ 0 then
    .error { cls := .valueError, message := "projected gross notional must be positive" }
  else if hRisk : openRiskUsd < 0 then
    .error { cls := .valueError, message := "open_risk_usd must be finite and non-negative" }
  else
    .ok
      { symbol := symbol
        grossNotionalUsd := grossNotionalUsd
        openRiskUsd := openRiskUsd
        source := source
        reservationId := reservationId
        groups := groups
        symbolNamed := hSymbol
        grossPositive := lt_of_not_ge hGross
        openRiskNonneg := le_of_not_gt hRisk }

/-- What the manager reads of either of them. -/
structure RiskItem where
  symbol : String
  notional : ℚ
  openRisk : ℚ
  groups : RiskGroups

def PortfolioPositionRisk.item (position : PortfolioPositionRisk) : RiskItem :=
  { symbol := position.symbol
    notional := position.notional
    openRisk := position.openRisk
    groups := position.groups }

def PortfolioProjectedExposure.item (exposure : PortfolioProjectedExposure) : RiskItem :=
  { symbol := exposure.symbol
    notional := exposure.grossNotionalUsd
    openRisk := exposure.openRiskUsd
    groups := exposure.groups }

def totalNotional (items : List RiskItem) : ℚ := (items.map (·.notional)).sum

def totalOpenRisk (items : List RiskItem) : ℚ := (items.map (·.openRisk)).sum

/-- The notional of one symbol. -/
def symbolNotional (symbol : String) (items : List RiskItem) : ℚ :=
  totalNotional (items.filter (·.symbol = symbol))

/-- The number of different symbols. -/
def symbolCount (symbols : List String) : Int := symbols.eraseDups.length

/-! ## The decision -/

structure ProposedPortfolioEntry where
  symbol : String
  quantity : Int
  referencePrice : ℚ
  stopPrice : ℚ
  environment : String := ""
  accountNo : String := ""
  groups : RiskGroups := {}

def ProposedPortfolioEntry.asPosition (proposal : ProposedPortfolioEntry) :
    Except Raised PortfolioPositionRisk :=
  makePosition proposal.symbol proposal.quantity proposal.referencePrice proposal.stopPrice
    proposal.groups

/-- The account at the time of the decision; a rate observed at a naive time counts as not
observed. -/
structure PortfolioRiskSnapshot where
  accountEquityUsd : ℚ
  usableBuyingPowerUsd : ℚ
  positions : List PortfolioPositionRisk := []
  projectedExposures : List PortfolioProjectedExposure := []
  dailyRealizedPnlUsd : Option ℚ := none
  dailyUnrealizedPnlUsd : Option ℚ := none
  highWaterEquityUsd : Option ℚ := none
  equitySourceCurrency : String := "USD"
  fxRateToUsd : Option ℚ := none
  fxObservedAt : Option Instant := none
  evaluatedAt : Instant

structure PortfolioRiskDecision where
  approved : Bool
  reasons : List String
  positionCountAfter : Int
  totalOpenRiskAfterUsd : ℚ
  grossNotionalAfterUsd : ℚ
  proposedNotionalUsd : ℚ
  reservationSpec : Option PortfolioRiskReservationSpec := none

/-- `text (value>limit)`, when a set limit is exceeded. -/
def limitReason (text : String) (value limit : ℚ) : List String :=
  if limit < value then [text ++ " (" ++ percent2 value ++ ">" ++ percent2 limit ++ ")"] else []

/-- The same for a limit that zero disables. -/
def optionalLimitReason (text : String) (value limit : ℚ) : List String :=
  if 0 < limit then limitReason text value limit else []

/-- `_check_concentration`; `title` is the label as a title. -/
def checkConcentration (existing : List RiskItem) (proposed : RiskItem) (equity : ℚ)
    (group : RiskGroups → String) (limit : ℚ) (label title : String) : List String :=
  if limit ≤ 0 then []
  else if group proposed.groups = "" then [title ++ " classification is required"]
  else if equity ≤ 0 then []
  else
    let notional :=
      totalNotional (existing.filter (fun item => group item.groups = group proposed.groups)) +
        proposed.notional
    limitReason ("Maximum " ++ label ++ " concentration would be exceeded") (notional / equity)
      limit

variable (limits : PortfolioRiskLimits)

variable (snapshot : PortfolioRiskSnapshot)

/-- The daily loss and drawdown reasons. -/
def lossReasons : List String :=
  let equity := snapshot.accountEquityUsd
  (if 0 < limits.maxDailyLossFraction then
    match snapshot.dailyRealizedPnlUsd, snapshot.dailyUnrealizedPnlUsd with
    | some realized, some unrealized =>
      if 0 < equity ∧ realized + unrealized < -(equity * limits.maxDailyLossFraction) then
        ["Maximum daily realized plus unrealized loss reached"]
      else []
    | _, _ => ["Fresh realized and unrealized daily P&L are required"]
  else []) ++
  (if 0 < limits.maxDrawdownFraction then
    match snapshot.highWaterEquityUsd with
    | some highWater =>
      if highWater ≤ 0 then ["Fresh high-water equity is required for drawdown control"]
      else if limits.maxDrawdownFraction ≤ max 0 ((highWater - equity) / highWater) then
        ["Maximum portfolio drawdown reached"]
      else []
    | none => ["Fresh high-water equity is required for drawdown control"]
  else [])

/-- The reason of an equity that was converted at a missing or old rate. -/
def fxReasons : List String :=
  if snapshot.equitySourceCurrency = "" ∨ snapshot.equitySourceCurrency = "USD" then []
  else
    match snapshot.fxObservedAt, snapshot.fxRateToUsd with
    | some observed, some rate =>
      if rate ≤ 0 ∨ limits.maxFxAge < snapshot.evaluatedAt - observed then
        ["FX rate used for account equity is missing or stale"]
      else []
    | _, _ => ["FX rate used for account equity is missing or stale"]

/-- The exposures that remain once a replaced reservation is taken out. -/
def remainingExposures (replacedReservationId : String) : List PortfolioProjectedExposure :=
  snapshot.projectedExposures.filter (fun exposure =>
    !(replacedReservationId ≠ "" && exposure.reservationId = replacedReservationId))

/-- `atomic_baseline`: what no reservation row holds. -/
def atomicBaseline (replacedReservationId : String) : List RiskItem :=
  snapshot.positions.map (·.item) ++
    ((remainingExposures snapshot replacedReservationId).filter (·.reservationId = "")).map (·.item)

/-- The specification of an evaluated entry. -/
def reservationSpecOf (proposal : ProposedPortfolioEntry)
    (proposed : PortfolioPositionRisk) (equity : ℚ) (baseline : List RiskItem) :
    PortfolioRiskReservationSpec :=
  { environment := proposal.environment
    accountNo := proposal.accountNo
    symbol := proposed.symbol
    proposedNotionalUsd := proposed.notional
    proposedOpenRiskUsd := proposed.openRisk
    accountEquityUsd := equity
    baselinePositionSymbols := baseline.map (·.symbol)
    baselineOpenRiskUsd := totalOpenRisk baseline
    baselineGrossNotionalUsd := totalNotional baseline
    baselineSymbolNotionalUsd := symbolNotional proposed.symbol baseline
    maxSimultaneousPositions := limits.maxSimultaneousPositions
    maxTotalOpenRiskFraction := limits.maxTotalOpenRiskFraction
    maxGrossNotionalFraction := limits.maxGrossNotionalFraction
    maxSinglePositionNotionalFraction := limits.maxSinglePositionNotionalFraction }

/-- `PortfolioRiskManager.evaluate_entry`. -/
def evaluateEntry (proposal : ProposedPortfolioEntry)
    (snapshot : PortfolioRiskSnapshot) (replacedReservationId : String) :
    PortfolioRiskDecision :=
  match proposal.asPosition with
  | .error error =>
    { approved := false
      reasons := ["Invalid portfolio-risk proposal: " ++ error.message]
      positionCountAfter := snapshot.positions.length
      totalOpenRiskAfterUsd := totalOpenRisk (snapshot.positions.map (·.item))
      grossNotionalAfterUsd := totalNotional (snapshot.positions.map (·.item))
      proposedNotionalUsd := 0 }
  | .ok proposed =>
    let equity := snapshot.accountEquityUsd
    let buyingPower := snapshot.usableBuyingPowerUsd
    let exposures := remainingExposures snapshot replacedReservationId
    let existing := snapshot.positions.map (·.item) ++ exposures.map (·.item)
    let positionCountAfter := symbolCount (existing.map (·.symbol) ++ [proposed.symbol])
    let totalOpenRiskAfter := totalOpenRisk existing + proposed.openRisk
    let grossNotionalAfter := totalNotional existing + proposed.notional
    let symbolNotionalAfter := symbolNotional proposed.symbol existing + proposed.notional
    let reasons :=
      (if exposures.any (·.source = "PENDING_BUY_WITHOUT_ACTIVE_RESERVATION") then
        ["Existing pending BUY has no active capital reservation; reconcile it before " ++
          "adding exposure"]
      else []) ++
      (if equity ≤ 0 then ["Fresh positive account equity is required"] else []) ++
      (if buyingPower ≤ 0 then ["Fresh positive usable buying power is required"] else []) ++
      (if limits.maxSimultaneousPositions < positionCountAfter then
        ["Maximum simultaneous positions would be exceeded (" ++
          toString positionCountAfter ++ ">" ++
          toString limits.maxSimultaneousPositions ++ ")"]
      else []) ++
      (if 0 < equity then
        optionalLimitReason "Maximum total open risk would be exceeded"
          (totalOpenRiskAfter / equity) limits.maxTotalOpenRiskFraction ++
        optionalLimitReason "Maximum gross notional would be exceeded"
          (grossNotionalAfter / equity) limits.maxGrossNotionalFraction ++
        limitReason "Maximum single-position notional would be exceeded"
          (symbolNotionalAfter / equity) limits.maxSinglePositionNotionalFraction
      else []) ++
      (if 0 < buyingPower then
        optionalLimitReason
          "Maximum incremental buying-power utilization would be exceeded"
          (proposed.notional / buyingPower) limits.maxIncrementalBuyingPowerFraction
      else []) ++
      lossReasons limits snapshot ++
      checkConcentration existing proposed.item equity (·.sector)
        limits.maxSectorNotionalFraction "sector" "Sector" ++
      checkConcentration existing proposed.item equity (·.industry)
        limits.maxIndustryNotionalFraction "industry" "Industry" ++
      checkConcentration existing proposed.item equity (·.correlationGroup)
        limits.maxCorrelationGroupNotionalFraction "correlation group" "Correlation Group" ++
      checkConcentration existing proposed.item equity (·.strategyId)
        limits.maxStrategyNotionalFraction "strategy" "Strategy" ++
      fxReasons limits snapshot
    { approved := reasons.isEmpty
      reasons := reasons.eraseDups
      positionCountAfter := positionCountAfter
      totalOpenRiskAfterUsd := totalOpenRiskAfter
      grossNotionalAfterUsd := grossNotionalAfter
      proposedNotionalUsd := proposed.notional
      reservationSpec :=
        if strip proposal.environment ≠ "" ∧ strip proposal.accountNo ≠ "" then
          some (reservationSpecOf limits proposal proposed equity
            (atomicBaseline snapshot replacedReservationId))
        else none }

theorem evaluateEntry_spec {limits : PortfolioRiskLimits} {proposal : ProposedPortfolioEntry}
    {snapshot : PortfolioRiskSnapshot} {replacedReservationId : String}
    {spec : PortfolioRiskReservationSpec}
    (h : (evaluateEntry limits proposal snapshot replacedReservationId).reservationSpec =
      some spec) :
    ∃ proposed, proposal.asPosition = .ok proposed ∧
      spec = reservationSpecOf limits proposal proposed snapshot.accountEquityUsd
        (atomicBaseline snapshot replacedReservationId) := by
  unfold evaluateEntry at h
  cases hProposed : proposal.asPosition with
  | error => simp [hProposed] at h
  | ok proposed =>
    simp only [hProposed, Option.ite_none_right_eq_some, Option.some.injEq] at h
    exact ⟨proposed, rfl, h.2.symm⟩

end QuantApp.Risk
