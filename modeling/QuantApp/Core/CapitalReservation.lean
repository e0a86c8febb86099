import QuantApp.Core.Runtime

/-!
# Capital reservations

`src/core/capital_reservation.py`: the reservation record, its open statuses
and its `consume`/`release`/`expire` mutations.
-/

namespace QuantApp.Core

inductive CapitalReservationStatus
  | reserved
  | partiallyConsumed
  | consumed
  | released
  | expired
  deriving DecidableEq, Repr

/-- Membership in `OPEN_RESERVATION_STATUSES`. -/
def CapitalReservationStatus.isOpen : CapitalReservationStatus → Bool
  | .reserved | .partiallyConsumed => true
  | _ => false

structure CapitalReservation where
  reservationId : String
  environment : String
  accountNo : String
  symbol : String
  attemptGroupId : String := ""
  requestedNotional : ℚ
  remainingReservedNotional : ℚ
  projectedOpenRisk : ℚ := 0
  remainingProjectedOpenRisk : ℚ := 0
  status : CapitalReservationStatus := .reserved
  version : Int := 1
  releasedAt : Option Instant := none
  absenceCount : Int := 0
  lastAbsenceSnapshotId : String := ""
  lastAbsenceObservedAt : Option IsoText := none
  lastAbsenceSessionDate : Option String := none
  deriving DecidableEq

def CapitalReservation.isOpen (reservation : CapitalReservation) : Bool := reservation.status.isOpen

/-- `CapitalReservation.create`; the fresh `uuid4().hex` is an argument. -/
def CapitalReservation.create (reservationId environment accountNo symbol
    attemptGroupId : String) (requestedNotional projectedOpenRisk : ℚ) :
    CapitalReservation :=
  { reservationId := reservationId
    environment := environment
    accountNo := accountNo
    symbol := symbol
    attemptGroupId := attemptGroupId
    requestedNotional := requestedNotional
    remainingReservedNotional := requestedNotional
    projectedOpenRisk := max 0 projectedOpenRisk
    remainingProjectedOpenRisk := max 0 projectedOpenRisk }

/-- The rounding floor below which `consume` treats a remainder as zero. -/
def consumedNotionalFloor : ℚ := 1 / 1000000000

variable (reservation : CapitalReservation)

/-- `consume`: a fill used `notional` of the reservation. -/
def CapitalReservation.consume (notional : ℚ) : CapitalReservation :=
  let previous := reservation.remainingReservedNotional
  let remaining := max 0 (previous - max 0 notional)
  let scaledRisk :=
    if consumedNotionalFloor < previous then
      reservation.remainingProjectedOpenRisk * (remaining / previous)
    else reservation.remainingProjectedOpenRisk
  if remaining ≤ consumedNotionalFloor then
    { reservation with
      remainingReservedNotional := remaining
      remainingProjectedOpenRisk := 0
      status := .consumed }
  else
    { reservation with
      remainingReservedNotional := remaining
      remainingProjectedOpenRisk := scaledRisk
      status := .partiallyConsumed }

/-- `release`: give back the unconsumed remainder. -/
def CapitalReservation.release (now : Instant) : CapitalReservation :=
  { reservation with
    remainingReservedNotional := 0
    remainingProjectedOpenRisk := 0
    status := .released
    releasedAt := some now }

/-- `expire`: the reservation lapsed. -/
def CapitalReservation.expire (now : Instant) : CapitalReservation :=
  { reservation with
    remainingReservedNotional := 0
    remainingProjectedOpenRisk := 0
    status := .expired
    releasedAt := some now }

def availableForNewEntries (buyingPower : ℚ) (activeReservations : List CapitalReservation) : ℚ :=
  buyingPower -
    ((activeReservations.filter (·.isOpen)).map (·.remainingReservedNotional)).sum

end QuantApp.Core
