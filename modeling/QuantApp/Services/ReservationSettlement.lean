import QuantApp.Services.OrderEvidence
import QuantApp.Verified.ExceptFold

/-!
# Settling capital reservations

`_settle_capital_reservation`, `_settle_reservations_from_replacement_leaves`
and `_record_orphan_reservation_absence` of
`src/services/account_reconciliation.py`.
-/

namespace QuantApp.Services

open Core Verified

variable {groups : List String}

/-- `consumed_notional`: the cumulative fill at the average fill price, or at
the limit while no average is known. -/
def consumedNotional (order : ExecutionOrderRecord) : ℚ :=
  let fillPrice :=
    if order.averageFillPrice ≠ 0 then order.averageFillPrice else order.submittedLimitPrice
  max 0 (order.filledQuantity * fillPrice)

/-- The remainder a live entry order leaves reserved. -/
def settledRemainder (order : ExecutionOrderRecord) (reservation : CapitalReservation) : ℚ :=
  max 0 (reservation.requestedNotional - consumedNotional order)

/-- The open risk scaled to that remainder. -/
def settledOpenRisk (order : ExecutionOrderRecord) (reservation : CapitalReservation) : ℚ :=
  if 0 < reservation.requestedNotional then
    reservation.projectedOpenRisk * settledRemainder order reservation /
      reservation.requestedNotional
  else 0

/-- `_settle_capital_reservation`, for a reservation that exists. -/
def settleCapitalReservation (order : ExecutionOrderRecord) (reservation : CapitalReservation)
    (observedAt : Instant) : CapitalReservation :=
  if reservation.isOpen = false then reservation
  else if order.status.isTerminal then
    { reservation with
      remainingReservedNotional := 0
      remainingProjectedOpenRisk := 0
      status :=
        if 0 < reservation.requestedNotional ∧
            reservation.requestedNotional ≤ consumedNotional order then .consumed
        else .released
      releasedAt := some observedAt }
  else if order.side ≠ .buy ∨ order.intent ≠ .entry then reservation
  else if settledRemainder order reservation = reservation.remainingReservedNotional ∧
      settledOpenRisk order reservation = reservation.remainingProjectedOpenRisk then
    reservation
  else
    { reservation with
      remainingReservedNotional := settledRemainder order reservation
      remainingProjectedOpenRisk := settledOpenRisk order reservation
      status := if settledRemainder order reservation ≤ 0 then .consumed else .partiallyConsumed }

/-- `_RESERVATION_TRANSITION_HOLD_STATUSES`. -/
def isTransitionHoldStatus : ExecutionOrderStatus → Bool
  | .prepared | .submitting | .cancelPending | .unknownSubmissionState => true
  | _ => false

/-! ## Replacement chains -/

/-- The reservation id an order is grouped under; blank ids form no group. -/
def linkedReservationId (order : ExecutionOrderRecord) : String := strip order.capitalReservationId

/-- The orders linked to one reservation, in table order. -/
def linkedOrders (orders : List ExecutionOrderRecord) (reservationId : String) :
    List ExecutionOrderRecord :=
  orders.filter (fun order => linkedReservationId order = reservationId)

/-- The linked orders that no linked order replaces. -/
def replacementLeaves (linked : List ExecutionOrderRecord) : List ExecutionOrderRecord :=
  linked.filter (fun order =>
    !(linked.any (fun other => other.replacesExecutionOrderId = order.clientOrderId)))

/-- What `_settle_reservations_from_replacement_leaves` decides for one group. -/
inductive LeafDecision
  | hold
  | settle (owner : ExecutionOrderRecord)
  | conflict (message : String) (sample : Option ExecutionOrderRecord)

/-- The decision for the orders linked to one open reservation. -/
def leafDecision (linked : List ExecutionOrderRecord) : LeafDecision :=
  let leaves := replacementLeaves linked
  let liveOrders := linked.filter (·.status.isOpen)
  let liveLeaves := leaves.filter (·.status.isOpen)
  match liveOrders with
  | live :: others =>
    match others, liveLeaves with
    | [], [owner] => if isTransitionHoldStatus owner.status then .hold else .settle owner
    | _, _ =>
      .conflict ("One capital reservation has multiple or non-leaf live orders; its hold " ++
        "was preserved for manual reconciliation") (some live)
  | [] =>
    match leaves with
    | [leaf] => .settle leaf
    | _ =>
      .conflict ("Capital reservation replacement chain has no unique terminal leaf; its " ++
        "hold was preserved for manual reconciliation")
        (leaves.head?.or linked.head?)

/-- The alert of a replacement chain that cannot be settled. -/
def chainConflictAlert (message : String) (sample : ExecutionOrderRecord) : ReconciliationAlert :=
  { code := "CAPITAL_RESERVATION_REPLACEMENT_CHAIN_CONFLICT"
    severity := .critical
    message := message
    symbol := sample.symbol
    clientOrderId := sample.clientOrderId
    brokerOrderId := sample.brokerOrderId }

/-- One group of `_settle_reservations_from_replacement_leaves`. -/
def settleReservationGroup (orders : List ExecutionOrderRecord) (observedAt : Instant)
    (state : List CapitalReservation × List ReconciliationAlert) (reservationId : String) :
    List CapitalReservation × List ReconciliationAlert :=
  match lookup CapitalReservation.reservationId reservationId state.1 with
  | none => state
  | some reservation =>
    if reservation.isOpen = false then state
    else
      match leafDecision (linkedOrders orders reservationId) with
      | .hold => state
      | .settle owner =>
        (store CapitalReservation.reservationId
          (settleCapitalReservation owner reservation observedAt) state.1, state.2)
      | .conflict message sample =>
        (state.1, state.2 ++ (sample.map (chainConflictAlert message)).toList)

/-- The group ids in the order the orders mention them. -/
def reservationGroupIds (orders : List ExecutionOrderRecord) : List String :=
  ((orders.map linkedReservationId).filter (· ≠ "")).eraseDups

def settleReservationsFromReplacementLeaves (orders : List ExecutionOrderRecord)
    (reservations : List CapitalReservation) (observedAt : Instant) :
    List CapitalReservation × List ReconciliationAlert :=
  (reservationGroupIds orders).foldl (settleReservationGroup orders observedAt)
    (reservations, [])

/-! ### What settlement leaves alone -/

@[simp] theorem settleCapitalReservation_reservationId (order : ExecutionOrderRecord)
    (reservation : CapitalReservation) (observedAt : Instant) :
    (settleCapitalReservation order reservation observedAt).reservationId =
      reservation.reservationId := by
  unfold settleCapitalReservation
  split
  · rfl
  split
  · rfl
  split
  · rfl
  split <;> rfl

/-- One reservation before and after settlement: its id stays, and so does all
of it when its id is not among `groups`. -/
def SettledWithin (groups : List String) (before after : CapitalReservation) : Prop :=
  after.reservationId = before.reservationId ∧ (before.reservationId ∉ groups → after = before)

theorem SettledWithin.refl (groups : List String) (reservation : CapitalReservation) :
    SettledWithin groups reservation reservation :=
  ⟨rfl, fun _ => rfl⟩

theorem SettledWithin.trans {a b c : CapitalReservation} (hab : SettledWithin groups a b)
    (hbc : SettledWithin groups b c) : SettledWithin groups a c := by
  refine ⟨hbc.1.trans hab.1, fun hUnlinked => ?_⟩
  rw [← hab.2 hUnlinked]
  refine hbc.2 ?_
  rw [hab.1]
  exact hUnlinked

theorem map_reservationId_of_settled {xs ys : List CapitalReservation}
    (h : List.Forall₂ (SettledWithin groups) xs ys) :
    ys.map CapitalReservation.reservationId = xs.map CapitalReservation.reservationId := by
  induction h with
  | nil => rfl
  | cons hHead _ ih => rw [List.map_cons, List.map_cons, hHead.1, ih]

theorem settleReservationGroup_settledWithin {orders : List ExecutionOrderRecord}
    {observedAt : Instant} {reservationId : String}
    {state : List CapitalReservation × List ReconciliationAlert}
    (hKeyed : Keyed CapitalReservation.reservationId state.1) (hGroup : reservationId ∈ groups) :
    List.Forall₂ (SettledWithin groups) state.1
      (settleReservationGroup orders observedAt state reservationId).1 := by
  have hRefl : List.Forall₂ (SettledWithin groups) state.1 state.1 :=
    List.forall₂_same.mpr (fun reservation _ => SettledWithin.refl groups reservation)
  unfold settleReservationGroup
  split
  · exact hRefl
  rename_i reservation hFound
  split
  · exact hRefl
  split
  · exact hRefl
  · rename_i owner _
    have hId := lookup_key hFound
    have hLookup : lookup CapitalReservation.reservationId
        (settleCapitalReservation owner reservation observedAt).reservationId state.1 =
          some reservation := by
      rw [settleCapitalReservation_reservationId, hId]
      exact hFound
    refine forall₂_store hKeyed hLookup (SettledWithin.refl groups) ⟨?_, ?_⟩
    · exact settleCapitalReservation_reservationId owner reservation observedAt
    · intro hUnlinked
      rw [hId] at hUnlinked
      exact absurd hGroup hUnlinked
  · exact hRefl

/-- Settlement writes only reservations that some order links. -/
theorem settleReservations_settledWithin (orders : List ExecutionOrderRecord)
    {reservations : List CapitalReservation} (observedAt : Instant)
    (hKeyed : Keyed CapitalReservation.reservationId reservations) :
    List.Forall₂ (SettledWithin (reservationGroupIds orders)) reservations
      (settleReservationsFromReplacementLeaves orders reservations observedAt).1 := by
  unfold settleReservationsFromReplacementLeaves
  refine foldl_invariant
    (fun (state : List CapitalReservation × List ReconciliationAlert) =>
      List.Forall₂ (SettledWithin (reservationGroupIds orders)) reservations state.1)
    (List.forall₂_same.mpr (fun reservation _ => SettledWithin.refl _ reservation)) ?_
  intro state reservationId hGroup hState
  have hKeyed' : Keyed CapitalReservation.reservationId state.1 := by
    unfold Keyed
    rw [map_reservationId_of_settled hState]
    exact hKeyed
  exact forall₂_comp (fun _ _ _ hab hbc => hab.trans hbc) hState
    (settleReservationGroup_settledWithin hKeyed' hGroup)

/-! ## Orphan reservations -/

inductive OrphanOutcome
  | incompleteEvidence
  | contradictoryBrokerEvidence
  | firstAbsence
  | sameGeneration
  | sessionChangedReset
  | invalidFirstObservationReset
  | tooSoon
  | releasedAfterTwoCompleteGenerations
  deriving DecidableEq, Repr

/-- The text `_record_orphan_reservation_absence` returns. -/
def OrphanOutcome.value : OrphanOutcome → String
  | .incompleteEvidence => "INCOMPLETE_EVIDENCE"
  | .contradictoryBrokerEvidence => "CONTRADICTORY_BROKER_EVIDENCE"
  | .firstAbsence => "FIRST_ABSENCE"
  | .sameGeneration => "SAME_GENERATION"
  | .sessionChangedReset => "SESSION_CHANGED_RESET"
  | .invalidFirstObservationReset => "INVALID_FIRST_OBSERVATION_RESET"
  | .tooSoon => "TOO_SOON"
  | .releasedAfterTwoCompleteGenerations => "RELEASED_AFTER_TWO_COMPLETE_GENERATIONS"

def clearReservationAbsence (reservation : CapitalReservation) : CapitalReservation :=
  { reservation with
    absenceCount := 0
    lastAbsenceSnapshotId := ""
    lastAbsenceObservedAt := none
    lastAbsenceSessionDate := none }

/-- The evidence a reservation's absence needs. -/
def orphanEvidenceComplete (completeness : SnapshotCompleteness) : Bool :=
  completeness.holdingsComplete && completeness.openOrdersComplete &&
    completeness.historyComplete && completeness.reservedOrdersComplete

def recordOrphanReservationAbsence (config : ExecutionConfig)
    (reservation : CapitalReservation) (snapshot : AccountBrokerSnapshot) :
    Except Raised (CapitalReservation × OrphanOutcome) :=
  if orphanEvidenceComplete snapshot.completeness = false then
    .ok (reservation, .incompleteEvidence)
  else if (snapshot.holdingFor reservation.symbol).isSome ∨
      snapshot.orders.any (·.symbol = reservation.symbol) then
    .ok (if reservation.absenceCount ≠ 0 then clearReservationAbsence reservation
      else reservation, .contradictoryBrokerEvidence)
  else if reservation.absenceCount ≤ 0 then
    .ok ({ reservation with
      absenceCount := 1
      lastAbsenceSnapshotId := snapshot.snapshotId
      lastAbsenceObservedAt := some (isoformat snapshot.observedAt)
      lastAbsenceSessionDate := some (isoDate snapshot.sessionDate) }, .firstAbsence)
  else if reservation.lastAbsenceSnapshotId = snapshot.snapshotId then
    .ok (reservation, .sameGeneration)
  else if reservation.lastAbsenceSessionDate ≠ some (isoDate snapshot.sessionDate) then
    .ok (clearReservationAbsence reservation, .sessionChangedReset)
  else
    match reservation.lastAbsenceObservedAt.bind (·.reading) with
    | none => .ok (clearReservationAbsence reservation, .invalidFirstObservationReset)
    | some (.naive _) => .error naiveSubtraction
    | some (.aware firstAt) =>
      if snapshot.observedAt - firstAt <
          secondsToMicros config.minAbsenceConfirmationIntervalSeconds then
        .ok (reservation, .tooSoon)
      else
        .ok ({ reservation with
          absenceCount := 2
          lastAbsenceSnapshotId := snapshot.snapshotId
          lastAbsenceObservedAt := some (isoformat snapshot.observedAt)
          remainingReservedNotional := 0
          status := .released
          releasedAt := some snapshot.observedAt }, .releasedAfterTwoCompleteGenerations)

end QuantApp.Services
