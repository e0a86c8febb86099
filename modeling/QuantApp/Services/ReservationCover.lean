import Mathlib.Tactic.Linarith
import QuantApp.Services.ReducerRun

/-!
# What a pass leaves of the hold of a live entry

A live entry order may still buy `submitted - filled` shares at its limit.
Settlement recomputes the remainder of the linked reservation as
`requested_notional` minus the cumulative fill, so one pass keeps that exposure
covered as long as `requested_notional` is at least what the whole order was
submitted for; in the transition-hold statuses it leaves the reservation alone.
-/

namespace QuantApp.Services

open Core Verified

variable {snapshot : AccountBrokerSnapshot} {order applied : ExecutionOrderRecord}
  {state : ReduceState} {config : ExecutionConfig} {reservation : CapitalReservation}
  {rows : List BrokerOrderStatusSnapshot}

/-- What the order may still buy. -/
def openExposure (order : ExecutionOrderRecord) : ℚ :=
  (order.submittedQuantity - order.filledQuantity) * order.submittedLimitPrice

/-- What the whole order was submitted for. -/
def submittedNotional (order : ExecutionOrderRecord) : ℚ :=
  order.submittedQuantity * order.submittedLimitPrice

/-- A BUY ENTRY order whose fills cost at most its limit. -/
structure EntryAtLimit (order : ExecutionOrderRecord) : Prop where
  side : order.side = .buy
  intent : order.intent = .entry
  limit : 0 < order.submittedLimitPrice
  filled : 0 ≤ order.filledQuantity
  average : order.averageFillPrice ≤ order.submittedLimitPrice

/-- The reservation is open and holds what the order may still buy. -/
structure Covers (order : ExecutionOrderRecord) (reservation : CapitalReservation) : Prop where
  isOpen : reservation.isOpen = true
  hold : openExposure order ≤ reservation.remainingReservedNotional

/-- Settling the order does not reach into what it may still buy: it is held, or
settled from the whole request with shares left to fill. -/
def Settleable (order : ExecutionOrderRecord) (reservation : CapitalReservation) : Prop :=
  isTransitionHoldStatus order.status = true ∨
    submittedNotional order ≤ reservation.requestedNotional ∧
      order.filledQuantity < order.submittedQuantity

section Settlement

variable {order : ExecutionOrderRecord} {reservation : CapitalReservation}

theorem consumedNotional_le (h : EntryAtLimit order) :
    consumedNotional order ≤ order.filledQuantity * order.submittedLimitPrice := by
  have hFilled : (0 : ℚ) ≤ order.filledQuantity := by exact_mod_cast h.filled
  unfold consumedNotional
  dsimp only
  refine max_le (mul_nonneg hFilled h.limit.le) (mul_le_mul_of_nonneg_left ?_ hFilled)
  split
  · exact h.average
  · exact le_refl _

theorem openExposure_eq (order : ExecutionOrderRecord) :
    openExposure order =
      submittedNotional order - order.filledQuantity * order.submittedLimitPrice := by
  unfold openExposure submittedNotional
  ring

theorem openExposure_le_settledRemainder (h : EntryAtLimit order)
    (hWhole : submittedNotional order ≤ reservation.requestedNotional) :
    openExposure order ≤ settledRemainder order reservation := by
  have hConsumed := consumedNotional_le h
  refine le_trans ?_ (le_max_right _ _)
  rw [openExposure_eq]
  linarith

theorem openExposure_pos (h : EntryAtLimit order)
    (hPartial : order.filledQuantity < order.submittedQuantity) : 0 < openExposure order := by
  have hLeft : (order.filledQuantity : ℚ) < order.submittedQuantity := by exact_mod_cast hPartial
  unfold openExposure
  exact mul_pos (by linarith) h.limit

/-- Settling a live order from its whole request keeps its exposure covered. -/
theorem covers_settle (h : EntryAtLimit order) (hLive : order.status.isOpen = true)
    (hWhole : submittedNotional order ≤ reservation.requestedNotional)
    (hPartial : order.filledQuantity < order.submittedQuantity)
    (hCovers : Covers order reservation) (observedAt : Instant) :
    Covers order (settleCapitalReservation order reservation observedAt) := by
  have hRemainder := openExposure_le_settledRemainder h hWhole
  have hPositive := (openExposure_pos h hPartial).trans_le hRemainder
  have hTerminal : ¬ order.status.isTerminal = true := by
    intro hTerminal
    rw [ExecutionOrderStatus.isOpen_eq_not_terminal, hTerminal] at hLive
    cases hLive
  have hEntry : ¬ (order.side ≠ .buy ∨ order.intent ≠ .entry) := by
    rw [h.side, h.intent]
    simp
  unfold settleCapitalReservation
  rw [if_neg (by rw [hCovers.isOpen]; simp), if_neg hTerminal, if_neg hEntry]
  split
  · exact hCovers
  · refine { isOpen := ?_, hold := hRemainder }
    unfold CapitalReservation.isOpen
    dsimp only
    rw [if_neg (not_le.mpr hPositive)]
    rfl

theorem requestedNotional_settle (order : ExecutionOrderRecord)
    (reservation : CapitalReservation) (observedAt : Instant) :
    (settleCapitalReservation order reservation observedAt).requestedNotional =
      reservation.requestedNotional := by
  unfold settleCapitalReservation
  split
  · rfl
  split
  · rfl
  split
  · rfl
  split <;> rfl

/-- The order a group is settled by is one of its orders, and a live one is in
no transition-hold status. -/
theorem leafDecision_settle {linked : List ExecutionOrderRecord}
    {owner : ExecutionOrderRecord} (h : leafDecision linked = .settle owner) :
    owner ∈ linked ∧
      (owner.status.isOpen = true → isTransitionHoldStatus owner.status = false) := by
  unfold leafDecision at h
  dsimp only at h
  split at h
  · split at h
    · rename_i leaf hLeaves _
      have hMem : leaf ∈ (replacementLeaves linked).filter (·.status.isOpen) := by
        rw [hLeaves]
        exact List.mem_cons_self
      split at h
      · cases h
      · rename_i hHold
        cases h
        refine ⟨List.mem_of_mem_filter (List.mem_of_mem_filter hMem), fun _ => ?_⟩
        rw [Bool.not_eq_true] at hHold
        exact hHold
    · cases h
  · rename_i hNone
    split at h
    · rename_i leaf hLeaf
      cases h
      have hMem : owner ∈ linked := by
        refine List.mem_of_mem_filter (?_ : owner ∈ replacementLeaves linked)
        rw [hLeaf]
        exact List.mem_cons_self
      refine ⟨hMem, fun hOpen => ?_⟩
      have hLive : owner ∈ linked.filter (·.status.isOpen) := List.mem_filter.mpr ⟨hMem, hOpen⟩
      rw [hNone] at hLive
      cases hLive
    · cases h

end Settlement

/-! ## Through the last passes of the reducer -/

/-- Every row of the order's reservation covers it and may be settled. -/
def Kept (order : ExecutionOrderRecord) (rows : List CapitalReservation) : Prop :=
  ∀ reservation ∈ rows, reservation.reservationId = order.capitalReservationId →
    Covers order reservation ∧ Settleable order reservation

section Passes

variable {order : ExecutionOrderRecord} {orders : List ExecutionOrderRecord}

/-- No other order is linked to the order's reservation. -/
def OnlyLinked (order : ExecutionOrderRecord) (orders : List ExecutionOrderRecord) : Prop :=
  ∀ other ∈ orders, linkedReservationId other = order.capitalReservationId → other = order

theorem Kept.settleGroup {observedAt : Instant} {reservationId : String}
    {state : List CapitalReservation × List ReconciliationAlert} (h : Kept order state.1)
    (hEntry : EntryAtLimit order) (hLive : order.status.isOpen = true)
    (hOnly : OnlyLinked order orders) :
    Kept order (settleReservationGroup orders observedAt state reservationId).1 := by
  unfold settleReservationGroup
  split
  · exact h
  rename_i reservation hFound
  split
  · exact h
  split
  · exact h
  · rename_i owner hDecision
    obtain ⟨hOwner, hOwnerHold⟩ := leafDecision_settle hDecision
    obtain ⟨hOwnerMem, hOwnerLink⟩ := List.mem_filter.mp hOwner
    intro row hRow hId
    rcases mem_store hRow with rfl | hOld
    · rw [settleCapitalReservation_reservationId] at hId
      have hLinked : linkedReservationId owner = order.capitalReservationId := by
        rw [of_decide_eq_true hOwnerLink, ← hId, lookup_key hFound]
      obtain rfl : owner = order := hOnly owner hOwnerMem hLinked
      obtain ⟨hCovers, hSettleable⟩ := h reservation (lookup_mem hFound) hId
      rcases hSettleable with hHold | ⟨hWhole, hPartial⟩
      · rw [hOwnerHold hLive] at hHold
        cases hHold
      · refine ⟨covers_settle hEntry hLive hWhole hPartial hCovers observedAt,
          Or.inr ⟨?_, hPartial⟩⟩
        rw [requestedNotional_settle]
        exact hWhole
    · exact h row hOld hId
  · exact h

theorem Kept.settleReservations (h : Kept order state.reservations) (hEntry : EntryAtLimit order)
    (hLive : order.status.isOpen = true) (hOnly : OnlyLinked order state.orders) :
    Kept order (settleReservations snapshot state).reservations := by
  refine foldl_invariant
    (fun (settled : List CapitalReservation × List ReconciliationAlert) =>
      Kept order settled.1) h ?_
  intro settled reservationId _ hSettled
  exact hSettled.settleGroup hEntry hLive hOnly

theorem recordOrphanReservationAbsence_reservationId {observed : CapitalReservation}
    {outcome : OrphanOutcome}
    (h : recordOrphanReservationAbsence config reservation snapshot = .ok (observed, outcome)) :
    observed.reservationId = reservation.reservationId := by
  unfold recordOrphanReservationAbsence at h
  split at h
  · cases h; rfl
  split at h
  · cases h
    split <;> rfl
  split at h
  · cases h; rfl
  split at h
  · cases h; rfl
  split at h
  · cases h; rfl
  split at h
  · cases h; rfl
  · cases h
  split at h
  all_goals cases h; rfl

theorem not_orphan_of_linked (hMem : order ∈ orders) (hNamed : order.capitalReservationId ≠ "")
    (hId : reservation.reservationId = order.capitalReservationId) :
    isOrphanReservation orders reservation = false := by
  have hLinked : orders.any (fun order => order.capitalReservationId ≠ "" &&
      order.capitalReservationId = reservation.reservationId) = true := by
    refine List.any_eq_true.mpr ⟨order, hMem, ?_⟩
    simp [hNamed, hId]
  rw [isOrphanReservation, hLinked, Bool.not_true, Bool.and_false]

theorem Kept.recordOrphans {next : ReduceState} (h : Kept order state.reservations)
    (hMem : order ∈ state.orders) (hNamed : order.capitalReservationId ≠ "")
    (hNext : recordOrphans config snapshot state = .ok next) : Kept order next.reservations := by
  obtain ⟨observed, hObserved, hNext⟩ := bind_eq_ok.mp hNext
  cases hNext
  intro row hRow hId
  obtain ⟨pair, hPair, rfl⟩ := List.mem_map.mp hRow
  obtain ⟨before, hBefore, hStep⟩ := forall₂_mem_right (mapM_forall₂ hObserved) hPair
  unfold orphanStep at hStep
  by_cases hOrphan : isOrphanReservation state.orders before = true
  · rw [if_pos hOrphan] at hStep
    obtain ⟨⟨after, outcome⟩, hAfter, hPairEq⟩ := bind_eq_ok.mp hStep
    cases hPairEq
    have hSameId := recordOrphanReservationAbsence_reservationId hAfter
    rw [not_orphan_of_linked hMem hNamed (hSameId.symm.trans hId)] at hOrphan
    cases hOrphan
  · rw [if_neg hOrphan] at hStep
    cases hStep
    exact h before hBefore hId

end Passes

/-! ## Through a whole pass -/

section Pass

variable {runtime : Runtime} {snapshot : AccountBrokerSnapshot}
  {localState : AccountLocalState} {final : ReduceState}

/-- A pass keeps what covers a live entry, for the order as the pass leaves it. -/
theorem kept_of_reduce (h : reduceLocalState runtime snapshot localState = .ok final)
    (hMem : order ∈ final.orders) (hEntry : EntryAtLimit order) (hLive : order.status.isOpen = true)
    (hNamed : order.capitalReservationId ≠ "") (hOnly : OnlyLinked order final.orders)
    (hKept : Kept order localState.capitalReservations) : Kept order final.reservations := by
  obtain ⟨run⟩ := nonempty_reducerRun h
  have hReservations : final.reservations = run.orphaned.reservations := by
    rw [congrArg ReduceState.reservations run.final_eq]
    rfl
  rw [hReservations]
  rw [run.final_orders] at hMem hOnly
  rw [← (recordAbsences_frame run.absences).2.1.trans run.positioned_reservations] at hKept
  exact (hKept.settleReservations hEntry hLive hOnly).recordOrphans hMem hNamed run.orphans

/-- The rows of an order never report a higher price than `limit`. -/
theorem RowsEffect.average_le {limit : ℚ} (h : RowsEffect order rows applied)
    (hOrder : order.averageFillPrice ≤ limit) (hRows : ∀ row ∈ rows, row.avgFillPrice ≤ limit) :
    applied.averageFillPrice ≤ limit := by
  induction h with
  | nil => exact hOrder
  | @cons order middle applied row rows hRow _ ih =>
    refine ih ?_ (fun other hOther => hRows other (List.mem_cons_of_mem row hOther))
    rw [hRow.average]
    unfold mergedAverage
    split
    · exact hRows row List.mem_cons_self
    · exact hOrder

/-- Rows that report fewer than `quantity` shares leave fewer filled. -/
theorem RowsEffect.filled_lt {quantity : Int} (h : RowsEffect order rows applied)
    (hOrder : order.filledQuantity < quantity)
    (hRows : ∀ row ∈ rows, row.filledQuantity < quantity) :
    applied.filledQuantity < quantity := by
  induction h with
  | nil => exact hOrder
  | @cons order middle applied row rows hRow _ ih =>
    refine ih ?_ (fun other hOther => hRows other (List.mem_cons_of_mem row hOther))
    rw [hRow.filled]
    exact max_lt hOrder (hRows row List.mem_cons_self)

theorem isOpen_of_reachable {old new : ExecutionOrderStatus} (h : StatusReachable old new)
    (hOpen : new.isOpen = true) : old.isOpen = true := by
  rcases h.cases_head with rfl | ⟨between, hEdge, _⟩
  · exact hOpen
  · cases old <;> first | rfl | cases hEdge

end Pass

end QuantApp.Services
