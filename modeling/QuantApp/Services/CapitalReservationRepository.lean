import QuantApp.Core.CapitalReservation
import QuantApp.Verified.KeyedTable
import QuantApp.Verified.ExceptFold

/-!
# The capital reservation repository

The transactions of `src/services/capital_reservation_repository.py` over the
`capital_reservations` table.  The table is the list of its rows, keyed by
`reservation_id`.  Each function is the body of one transaction: the lock of
the account's row makes it atomic, and an exception leaves the table as it was.
Environments and symbols are in upper case, as `__post_init__` leaves them.
-/

namespace QuantApp.Services

open Core Verified
open CapitalReservation (reservationId)

variable {rows written : List CapitalReservation} {reservation : CapitalReservation}

/-! ## Texts of amounts -/

/-- `f"{x:.2f}"`. -/
def fixed2 (x : ℚ) : String :=
  let cents := roundHalfEven (|x| * 100)
  (if x < 0 then "-" else "") ++ toString (cents / 100) ++ "." ++ zeroPadded 2 (cents % 100)

/-- `f"{x:.2%}"`. -/
def percent2 (x : ℚ) : String := fixed2 (x * 100) ++ "%"

/-- `repr` of an id. -/
def quoted (text : String) : String := "'" ++ text ++ "'"

example : (fixed2 (-1 / 3), percent2 (1 / 8)) = ("-0.33", "12.50%") := by decide +kernel

/-! ## Reading -/

/-- The RESERVED and PARTIALLY_CONSUMED rows of an account. -/
def activeReservations (rows : List CapitalReservation) (environment accountNo : String) :
    List CapitalReservation :=
  rows.filter (fun row =>
    row.environment = environment && row.accountNo = accountNo && row.isOpen)

/-- The capital that reservations hold. -/
def reservedNotional (rows : List CapitalReservation) : ℚ :=
  (rows.map (·.remainingReservedNotional)).sum

/-- The comparison tolerance of the repository. -/
def moneyTolerance : ℚ := 1 / 1000000

/-! ## Writing -/

def insertReservation (rows : List CapitalReservation) (reservation : CapitalReservation) :
    Except Raised (List CapitalReservation) :=
  if (lookup reservationId reservation.reservationId rows).isSome then
    .error
      { cls := .duplicateReservation
        message := "CapitalReservation " ++ quoted reservation.reservationId ++ " already exists" }
  else .ok (rows ++ [reservation])

/-- The row `update_reservation` writes over `stored`: every column it sets. -/
def writtenRow (stored reservation : CapitalReservation) (version : Int) : CapitalReservation :=
  { stored with
    requestedNotional := reservation.requestedNotional
    remainingReservedNotional := reservation.remainingReservedNotional
    projectedOpenRisk := reservation.projectedOpenRisk
    remainingProjectedOpenRisk := reservation.remainingProjectedOpenRisk
    status := reservation.status
    version := version
    releasedAt := reservation.releasedAt
    absenceCount := reservation.absenceCount
    lastAbsenceSnapshotId := reservation.lastAbsenceSnapshotId
    lastAbsenceObservedAt := reservation.lastAbsenceObservedAt
    lastAbsenceSessionDate := reservation.lastAbsenceSessionDate }

/-- `update_reservation`: the table and the object with its new version. -/
def updateReservation (rows : List CapitalReservation) (reservation : CapitalReservation)
    (expectedVersion : Int) : Except Raised (List CapitalReservation × CapitalReservation) :=
  match lookup reservationId reservation.reservationId rows with
  | none =>
    .error
      { cls := .runtimeError
        message := "CapitalReservation " ++ quoted reservation.reservationId ++
          " not found for update" }
  | some stored =>
    if stored.version = expectedVersion then
      let next := expectedVersion + 1
      .ok (store reservationId (writtenRow stored reservation next) rows,
        { reservation with version := next })
    else
      .error
        { cls := .capitalReservationVersionConflict
          message := "reservation_id=" ++ quoted reservation.reservationId ++
            " version conflict (expected " ++ toString expectedVersion ++ ", stored " ++
            toString stored.version ++ ")" }

/-! ## Portfolio risk -/

/-- `PortfolioRiskReservationSpec`: the fields the repository reads. -/
structure PortfolioRiskReservationSpec where
  environment : String
  accountNo : String
  symbol : String
  proposedNotionalUsd : ℚ
  proposedOpenRiskUsd : ℚ
  accountEquityUsd : ℚ
  baselinePositionSymbols : List String := []
  baselineOpenRiskUsd : ℚ := 0
  baselineGrossNotionalUsd : ℚ := 0
  baselineSymbolNotionalUsd : ℚ := 0
  maxSimultaneousPositions : Int
  maxTotalOpenRiskFraction : ℚ
  maxGrossNotionalFraction : ℚ
  maxSinglePositionNotionalFraction : ℚ

/-- A `ProjectedPortfolioRiskLimitError`. -/
def riskLimitError (message : String) : Raised :=
  { cls := .projectedPortfolioRiskLimit, message := message }

/-- The risk an active row still carries; without one, all of its hold. -/
def activeOpenRisk (row : CapitalReservation) : ℚ :=
  if 0 < row.remainingProjectedOpenRisk then row.remainingProjectedOpenRisk
  else row.remainingReservedNotional

/-- One limit of the portfolio: the reason to refuse when `value` over the
equity exceeds a positive `limit`. -/
def fractionReason (label : String) (value equity limit : ℚ) : List String :=
  if 0 < limit ∧ limit < value / equity then
    [label ++ " " ++ percent2 (value / equity) ++ " exceeds " ++ percent2 limit]
  else []

/-- The reasons `_require_projected_portfolio_capacity` collects. -/
def portfolioReasons (reservation : CapitalReservation) (activeRows : List CapitalReservation)
    (spec : PortfolioRiskReservationSpec) : List String :=
  let symbols := (spec.baselinePositionSymbols.filter (fun symbol => strip symbol ≠ "") ++
    activeRows.map (·.symbol) ++ [reservation.symbol]).eraseDups
  let positions := (symbols.length : Int)
  (if 0 < spec.maxSimultaneousPositions ∧ spec.maxSimultaneousPositions < positions then
    ["position count " ++ toString positions ++ " exceeds " ++
      toString spec.maxSimultaneousPositions]
  else []) ++
  fractionReason "open risk"
    (spec.baselineOpenRiskUsd + (activeRows.map activeOpenRisk).sum + spec.proposedOpenRiskUsd)
    spec.accountEquityUsd spec.maxTotalOpenRiskFraction ++
  fractionReason "gross notional"
    (spec.baselineGrossNotionalUsd + reservedNotional activeRows + spec.proposedNotionalUsd)
    spec.accountEquityUsd spec.maxGrossNotionalFraction ++
  fractionReason "single-position notional"
    (spec.baselineSymbolNotionalUsd +
      reservedNotional (activeRows.filter (fun row => row.symbol = reservation.symbol)) +
      spec.proposedNotionalUsd)
    spec.accountEquityUsd spec.maxSinglePositionNotionalFraction

def requireProjectedPortfolioCapacity (reservation : CapitalReservation)
    (activeRows : List CapitalReservation) (spec : PortfolioRiskReservationSpec) :
    Except Raised Unit :=
  if (spec.environment, spec.accountNo, spec.symbol) ≠
        (reservation.environment, reservation.accountNo, reservation.symbol) ∨
      moneyTolerance < |spec.proposedNotionalUsd - reservation.requestedNotional| ∨
      moneyTolerance < |spec.proposedOpenRiskUsd - reservation.projectedOpenRisk| then
    .error (riskLimitError ("Entry blocked: projected-risk reservation does not match the " ++
      "exact order. No broker request was sent; rebuild the entry decision before retrying."))
  else if spec.accountEquityUsd ≤ 0 ∨ spec.baselineOpenRiskUsd < 0 ∨
      spec.baselineGrossNotionalUsd < 0 ∨ spec.baselineSymbolNotionalUsd < 0 then
    .error (riskLimitError ("Entry blocked: fresh positive account equity and finite " ++
      "projected exposure are required. No broker request was sent; refresh account state " ++
      "and retry."))
  else
    match portfolioReasons reservation activeRows spec with
    | [] => .ok ()
    | reasons =>
      .error (riskLimitError ("Entry blocked by account-wide projected risk: " ++
        String.intercalate "; " reasons ++ ". No broker request was sent. Safe to retry " ++
        "after exposure or reservations decrease and canonical state is refreshed."))

/-! ## Entries -/

/-- An `InsufficientAvailableCapitalError`. -/
def insufficientCapitalError (message : String) : Raised :=
  { cls := .insufficientAvailableCapital, message := message }

def insertReservationIfAvailable (rows : List CapitalReservation)
    (reservation : CapitalReservation) (buyingPower : ℚ)
    (portfolioRiskSpec : Option PortfolioRiskReservationSpec) :
    Except Raised (List CapitalReservation) := do
  if 0 < reservation.requestedNotional then
    let active := activeReservations rows reservation.environment reservation.accountNo
    let available := buyingPower - reservedNotional active
    if available < reservation.requestedNotional then
      throw (insufficientCapitalError ("Capital reservation denied for " ++
        reservation.environment ++ "/" ++ reservation.accountNo ++ "/" ++ reservation.symbol ++
        ": requested " ++ fixed2 reservation.requestedNotional ++ ", available " ++
        fixed2 available))
    match portfolioRiskSpec with
    | some spec => requireProjectedPortfolioCapacity reservation active spec
    | none => pure ()
  insertReservation rows reservation

/-! ## Replacements -/

/-- What a replacement asks for: the arguments `prepare_reservation_for_replacement`
and `activate_prepared_replacement_reservation` share. -/
structure ReplacementRequest where
  environment : String
  accountNo : String
  symbol : String
  notional : ℚ
  openRisk : ℚ

/-- The environment, account and symbol of a reservation. -/
def reservationScope (reservation : CapitalReservation) : String × String × String :=
  (reservation.environment, reservation.accountNo, reservation.symbol)

/-- The environment, account and symbol of a replacement. -/
def ReplacementRequest.scope (request : ReplacementRequest) : String × String × String :=
  (request.environment, request.accountNo, request.symbol)

/-- The transition hold: the larger of the original and the replacement leg. -/
def preparedHold (original : CapitalReservation) (request : ReplacementRequest) :
    CapitalReservation :=
  let originalRisk :=
    if original.remainingProjectedOpenRisk ≤ 0 ∧ 0 < original.remainingReservedNotional then
      original.remainingReservedNotional
    else original.remainingProjectedOpenRisk
  let notional := max original.remainingReservedNotional request.notional
  let risk := max originalRisk request.openRisk
  { original with
    requestedNotional := notional
    remainingReservedNotional := notional
    projectedOpenRisk := risk
    remainingProjectedOpenRisk := risk }

/-- `prepare_reservation_for_replacement`: the table, the prepared reservation
and the snapshot taken before the transfer. -/
def prepareReservationForReplacement (rows : List CapitalReservation)
    (originalReservationId : String) (request : ReplacementRequest) (buyingPower : ℚ)
    (portfolioRiskSpec : PortfolioRiskReservationSpec) :
    Except Raised (List CapitalReservation × CapitalReservation × CapitalReservation) := do
  if originalReservationId = "" ∨ request.notional ≤ 0 ∨ request.openRisk < 0 then
    throw (riskLimitError ("Replacement blocked: a finite, positive transferred reservation " ++
      "is required. The original order was not cancelled."))
  let active := activeReservations rows request.environment request.accountNo
  match lookup reservationId originalReservationId active with
  | none =>
    throw (riskLimitError ("Replacement blocked: the original entry reservation is missing " ++
      "or closed. The original order was not cancelled."))
  | some original =>
    if reservationScope original ≠ request.scope then
      throw (riskLimitError ("Replacement blocked: the original reservation belongs to a " ++
        "different scope. The original order was not cancelled."))
    let others := active.filter (fun row => row.reservationId ≠ originalReservationId)
    let available := buyingPower - reservedNotional others
    if available + moneyTolerance < request.notional then
      throw (insufficientCapitalError ("Replacement reservation denied for " ++
        request.environment ++ "/" ++ request.accountNo ++ "/" ++ request.symbol ++
        ": requested " ++ fixed2 request.notional ++ ", net available " ++
        fixed2 available ++ ". The original order was not cancelled."))
    -- the fresh id of this reservation is never read
    let replacement := CapitalReservation.create "" request.environment request.accountNo
      request.symbol original.attemptGroupId request.notional request.openRisk
    requireProjectedPortfolioCapacity replacement others portfolioRiskSpec
    let (written, prepared) ←
      updateReservation rows (preparedHold original request) original.version
    pure (written, prepared, original)

/-- The prepared hold as the replacement's own reservation. -/
def activatedHold (reservation : CapitalReservation) (request : ReplacementRequest) :
    CapitalReservation :=
  { reservation with
    requestedNotional := request.notional
    remainingReservedNotional := request.notional
    projectedOpenRisk := request.openRisk
    remainingProjectedOpenRisk := request.openRisk
    status := .reserved
    releasedAt := none }

def activatePreparedReplacementReservation (rows : List CapitalReservation)
    (preparedReservationId : String) (expectedVersion : Int) (request : ReplacementRequest) :
    Except Raised (List CapitalReservation × CapitalReservation) :=
  match lookup reservationId preparedReservationId rows with
  | none =>
    .error (riskLimitError "Replacement blocked: its prepared reservation no longer exists.")
  | some reservation =>
    if reservation.isOpen = false ∨ reservation.version ≠ expectedVersion ∨
        reservationScope reservation ≠ request.scope then
      .error (riskLimitError
        "Replacement blocked: its prepared reservation changed before submission.")
    else if request.notional ≤ 0 ∨ request.openRisk < 0 ∨
        reservation.remainingReservedNotional + moneyTolerance < request.notional ∨
        reservation.remainingProjectedOpenRisk + moneyTolerance < request.openRisk then
      .error (riskLimitError
        "Replacement blocked: its exact exposure exceeds the prepared transition hold.")
    else updateReservation rows (activatedHold reservation request) reservation.version

def restorePreparedReplacementReservation (rows : List CapitalReservation)
    (preparedReservation previousReservation : CapitalReservation) :
    Except Raised (List CapitalReservation × CapitalReservation) :=
  match lookup reservationId preparedReservation.reservationId rows with
  | none =>
    .error
      { cls := .capitalReservationVersionConflict
        message := "Prepared replacement reservation disappeared before restoration" }
  | some current =>
    if current.version ≠ preparedReservation.version then
      .error
        { cls := .capitalReservationVersionConflict
          message := "Prepared replacement reservation changed before restoration" }
    else
      updateReservation rows { previousReservation with version := current.version }
        current.version

/-! ## What a write changes -/

theorem insertReservation_ok (h : insertReservation rows reservation = .ok written) :
    reservation.reservationId ∉ rows.map reservationId ∧ written = rows ++ [reservation] := by
  unfold insertReservation at h
  split at h
  · cases h
  · rename_i hAbsent
    cases h
    rw [Bool.not_eq_true, Option.isSome_eq_false_iff, Option.isNone_iff_eq_none,
      lookup_eq_none_iff] at hAbsent
    exact ⟨hAbsent, rfl⟩

/-- A write that passes the version check replaces the stored row. -/
theorem updateReservation_ok {updated : CapitalReservation} {expectedVersion : Int}
    (h : updateReservation rows reservation expectedVersion = .ok (written, updated)) :
    ∃ stored, lookup reservationId reservation.reservationId rows =
        some stored ∧
      stored.version = expectedVersion ∧
      written = store reservationId
        (writtenRow stored reservation (expectedVersion + 1)) rows ∧
      updated = { reservation with version := expectedVersion + 1 } := by
  unfold updateReservation at h
  cases hFound : lookup reservationId reservation.reservationId rows with
  | none =>
    rw [hFound] at h
    cases h
  | some stored =>
    simp only [hFound] at h
    by_cases hVersion : stored.version = expectedVersion
    · rw [if_pos hVersion] at h
      cases h
      exact ⟨stored, rfl, hVersion, rfl, rfl⟩
    · rw [if_neg hVersion] at h
      cases h

end QuantApp.Services
