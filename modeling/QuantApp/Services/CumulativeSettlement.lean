import Mathlib.Data.NNRat.Defs
import Mathlib.Tactic.FieldSimp
import Mathlib.Tactic.Linarith
import Mathlib.Tactic.Ring
import QuantApp.Services.ReservationSettlement

/-!
# Fill by fill, or all at once

`CapitalReservation.consume` takes one fill after the other from a reservation, and
`_settle_capital_reservation` sets it from the cumulative fill of its live entry order.  Both
leave the same, except where they leave exactly the amount that `consume` rounds to nothing.
-/

namespace QuantApp.Services

open Core

section Consumption

variable {reservation current : CapitalReservation} {amount : ℚ}

/-- Nothing was taken from the reservation yet. -/
structure Untouched (reservation : CapitalReservation) : Prop where
  remaining : reservation.remainingReservedNotional = reservation.requestedNotional
  risk : reservation.remainingProjectedOpenRisk = reservation.projectedOpenRisk
  isOpen : reservation.isOpen = true

/-- The open risk that goes with what is left of a reservation. -/
def riskLeft (reservation : CapitalReservation) (taken : ℚ) : ℚ :=
  reservation.projectedOpenRisk * (reservation.requestedNotional - taken) /
    reservation.requestedNotional

/-- `taken` is gone from the reservation; what is left above the floor has its share of the
risk. -/
structure ConsumedTo (reservation : CapitalReservation) (taken : ℚ) (current : CapitalReservation) :
    Prop where
  remaining : current.remainingReservedNotional = reservation.requestedNotional - taken
  risk : consumedNotionalFloor < reservation.requestedNotional - taken →
    current.remainingProjectedOpenRisk = riskLeft reservation taken

/-- After a fill, what is left at or below the floor is closed and has no risk. -/
structure ConsumedByFill (reservation : CapitalReservation) (taken : ℚ)
    (current : CapitalReservation) : Prop extends ConsumedTo reservation taken current where
  closed : reservation.requestedNotional - taken ≤ consumedNotionalFloor →
    current.remainingProjectedOpenRisk = 0
  isOpen : current.isOpen = decide (consumedNotionalFloor < reservation.requestedNotional - taken)

theorem consumedNotionalFloor_pos : 0 < consumedNotionalFloor := by
  unfold consumedNotionalFloor
  norm_num

theorem Untouched.consumedTo (h : Untouched reservation) :
    ConsumedTo reservation 0 reservation where
  remaining := by rw [h.remaining, sub_zero]
  risk := by
    intro hLeft
    rw [sub_zero] at hLeft
    have hRequested : reservation.requestedNotional ≠ 0 := by
      have hFloor := consumedNotionalFloor_pos
      linarith
    unfold riskLeft
    rw [h.risk, sub_zero, mul_div_assoc, div_self hRequested, mul_one]

theorem ConsumedTo.consume {fill : ℚ} (h : ConsumedTo reservation amount current) (hFill : 0 ≤ fill)
    (hWithin : amount + fill ≤ reservation.requestedNotional) :
    ConsumedByFill reservation (amount + fill) (current.consume fill) := by
  have hFloor := consumedNotionalFloor_pos
  have hRemaining : max 0 (current.remainingReservedNotional - max 0 fill) =
      reservation.requestedNotional - (amount + fill) := by
    rw [max_eq_right hFill, h.remaining, max_eq_right (by linarith)]
    ring
  by_cases hLeft : consumedNotionalFloor < reservation.requestedNotional - (amount + fill)
  · have hBefore : consumedNotionalFloor < reservation.requestedNotional - amount := by linarith
    have hConsumed : current.consume fill =
        { current with
          remainingReservedNotional := reservation.requestedNotional - (amount + fill)
          remainingProjectedOpenRisk := riskLeft reservation amount *
            ((reservation.requestedNotional - (amount + fill)) /
              (reservation.requestedNotional - amount))
          status := .partiallyConsumed } := by
      unfold CapitalReservation.consume
      dsimp only
      rw [hRemaining, if_neg (not_le.mpr hLeft), h.remaining, if_pos hBefore, h.risk hBefore]
    have hRequested : reservation.requestedNotional - amount ≠ 0 := by linarith
    rw [hConsumed]
    exact
      { remaining := rfl
        risk := fun _ => by
          show riskLeft reservation amount * _ = riskLeft reservation (amount + fill)
          unfold riskLeft
          field_simp
        closed := fun hAtFloor => absurd hAtFloor (not_le.mpr hLeft)
        isOpen := (decide_eq_true hLeft).symm }
  · have hAtFloor := not_lt.mp hLeft
    have hConsumed : current.consume fill =
        { current with
          remainingReservedNotional := reservation.requestedNotional - (amount + fill)
          remainingProjectedOpenRisk := 0
          status := .consumed } := by
      unfold CapitalReservation.consume
      dsimp only
      rw [hRemaining, if_pos hAtFloor]
    rw [hConsumed]
    exact
      { remaining := rfl
        risk := fun hAbove => absurd hAbove hLeft
        closed := fun _ => rfl
        isOpen := (decide_eq_false hLeft).symm }

/-- The fills in turn. -/
def consumeAll (reservation : CapitalReservation) (fills : List ℚ≥0) : CapitalReservation :=
  fills.foldl (fun current (fill : ℚ≥0) => current.consume fill) reservation

/-- The sum of the fills. -/
def totalFilled (fills : List ℚ≥0) : ℚ := (fills.map NNRat.cast).sum

theorem totalFilled_concat (fills : List ℚ≥0) (fill : ℚ≥0) :
    totalFilled (fills ++ [fill]) = totalFilled fills + fill := by
  unfold totalFilled
  rw [List.map_append, List.sum_append]
  simp

theorem consumeAll_concat (fills : List ℚ≥0) (fill : ℚ≥0) :
    consumeAll reservation (fills ++ [fill]) = (consumeAll reservation fills).consume fill := by
  unfold consumeAll
  rw [List.foldl_append]
  rfl

theorem consumedTo_consumeAll (h : Untouched reservation) (fills : List ℚ≥0)
    (hWithin : totalFilled fills ≤ reservation.requestedNotional) :
    ConsumedTo reservation (totalFilled fills) (consumeAll reservation fills) := by
  induction fills using List.reverseRecOn with
  | nil => exact h.consumedTo
  | append_singleton fills fill ih =>
    rw [totalFilled_concat] at hWithin ⊢
    rw [consumeAll_concat]
    have hFill : (0 : ℚ) ≤ fill := fill.coe_nonneg
    exact ((ih (by linarith)).consume hFill hWithin).toConsumedTo

end Consumption

section Agreement

variable {reservation : CapitalReservation} {order : ExecutionOrderRecord} {fills : List ℚ≥0}
  {observedAt : Instant}

/-- A live entry order. -/
structure LiveEntryOrder (order : ExecutionOrderRecord) : Prop where
  live : order.status.isTerminal = false
  side : order.side = .buy
  intent : order.intent = .entry

/-- What the two settlements are compared by. -/
structure SameHold (first second : CapitalReservation) : Prop where
  remaining : first.remainingReservedNotional = second.remainingReservedNotional
  risk : first.remainingProjectedOpenRisk = second.remainingProjectedOpenRisk
  isOpen : first.isOpen = second.isOpen

/-- A live entry order with a fill within the reservation. -/
theorem settle_liveEntry (h : Untouched reservation) (hLive : LiveEntryOrder order)
    (hFilled : 0 < consumedNotional order)
    (hWithin : consumedNotional order ≤ reservation.requestedNotional) :
    settleCapitalReservation order reservation observedAt =
      { reservation with
        remainingReservedNotional := reservation.requestedNotional - consumedNotional order
        remainingProjectedOpenRisk := riskLeft reservation (consumedNotional order)
        status :=
          if reservation.requestedNotional - consumedNotional order ≤ 0 then .consumed
          else .partiallyConsumed } := by
  have hRemainder : settledRemainder order reservation =
      reservation.requestedNotional - consumedNotional order :=
    max_eq_right (by linarith)
  have hRisk : settledOpenRisk order reservation =
      riskLeft reservation (consumedNotional order) := by
    unfold settledOpenRisk riskLeft
    rw [if_pos (by linarith), hRemainder]
  unfold settleCapitalReservation
  rw [if_neg (by rw [h.isOpen]; exact Bool.true_eq_false.mp), if_neg (by rw [hLive.live]; decide),
    if_neg (by rw [hLive.side, hLive.intent]; decide), hRemainder, hRisk, if_neg]
  rintro ⟨hSame, _⟩
  rw [h.remaining] at hSame
  linarith

/-- Fills that add up to the request, or leave more than the floor of it, settle alike one by one
and all at once. -/
theorem incremental_settlement_agrees (h : Untouched reservation) (hLive : LiveEntryOrder order)
    (hTotal : totalFilled fills = consumedNotional order) (hFilled : 0 < consumedNotional order)
    (hWithin : consumedNotional order = reservation.requestedNotional ∨
      consumedNotional order < reservation.requestedNotional - consumedNotionalFloor) :
    SameHold (consumeAll reservation fills)
      (settleCapitalReservation order reservation observedAt) := by
  have hFloor := consumedNotionalFloor_pos
  have hRequested : consumedNotional order ≤ reservation.requestedNotional := by
    rcases hWithin with hAll | hLeft
    · exact hAll.le
    · linarith
  rw [settle_liveEntry h hLive hFilled hRequested]
  rcases List.eq_nil_or_concat fills with rfl | ⟨earlier, fill, rfl⟩
  · rw [← hTotal] at hFilled
    exact absurd hFilled (lt_irrefl 0)
  rw [List.concat_eq_append] at hTotal ⊢
  rw [totalFilled_concat] at hTotal
  have hFill : (0 : ℚ) ≤ fill := fill.coe_nonneg
  have hTaken := consumedTo_consumeAll h earlier (by linarith)
  have hLast := hTaken.consume hFill (by linarith)
  rw [← consumeAll_concat, hTotal] at hLast
  rcases hWithin with hAll | hLeft
  · have hNothing : reservation.requestedNotional - consumedNotional order = 0 := by linarith
    refine ⟨hLast.remaining, ?_, ?_⟩
    · rw [hLast.closed (by linarith)]
      show 0 = riskLeft reservation (consumedNotional order)
      unfold riskLeft
      rw [hNothing, mul_zero, zero_div]
    · rw [hLast.isOpen, hNothing, if_pos (le_refl 0)]
      exact decide_eq_false (not_lt.mpr hFloor.le)
  · have hAbove : consumedNotionalFloor <
        reservation.requestedNotional - consumedNotional order := by linarith
    refine ⟨hLast.remaining, hLast.risk hAbove, ?_⟩
    rw [hLast.isOpen, decide_eq_true hAbove, if_neg (by linarith)]
    rfl

end Agreement

/-- A working entry order with shares filled at a price. -/
def filledEntry (shares : Int) (price : ℚ) : ExecutionOrderRecord :=
  { environment := "PROD"
    accountNo := "1"
    symbol := "AAPL"
    side := .buy
    intent := .entry
    clientOrderId := "c1"
    submittedQuantity := 10
    preparedAt := isoformat 0
    status := .working
    filledQuantity := shares
    averageFillPrice := price
    clientOrderIdNamed := c1_ne_empty }

def heldReservation (notional risk : ℚ) : CapitalReservation :=
  CapitalReservation.create "r1" "PROD" "1" "AAPL" "g1" notional risk

/-- Three fills of a hundred reserved, sixty of it. -/
theorem incremental_settlement_agrees_sixty :
    SameHold (consumeAll (heldReservation 100 5) [10, 30, 20])
      (settleCapitalReservation (filledEntry 6 10) (heldReservation 100 5) 0) :=
  incremental_settlement_agrees ⟨rfl, rfl, rfl⟩ ⟨rfl, rfl, rfl⟩ (by decide +kernel)
    (by decide +kernel) (Or.inr (by decide +kernel))

def floorLeft : ExecutionOrderRecord := filledEntry 1 (999999999 / 1000000000)

/-- One fill that leaves the floor itself: `consume` closes the reservation, the settlement of
the order keeps it open with its share of the risk. -/
theorem settlement_differs_at_floor :
    ∃ fills : List ℚ≥0, totalFilled fills = consumedNotional floorLeft ∧
      0 < consumedNotional floorLeft ∧
      consumedNotional floorLeft ≤ (heldReservation 1 1).requestedNotional - consumedNotionalFloor ∧
      Untouched (heldReservation 1 1) ∧ LiveEntryOrder floorLeft ∧
      ¬ SameHold (consumeAll (heldReservation 1 1) fills)
        (settleCapitalReservation floorLeft (heldReservation 1 1) 0) := by
  refine ⟨[999999999 / 1000000000], by decide +kernel, by decide +kernel, by decide +kernel,
    ⟨rfl, by decide +kernel, rfl⟩, ⟨rfl, rfl, rfl⟩, ?_⟩
  intro hSame
  have hOpen := hSame.isOpen
  revert hOpen
  decide +kernel
end QuantApp.Services
