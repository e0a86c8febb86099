import QuantApp.Services.RowIndependence

/-!
# The order of the broker's rows

Past the exact and the heuristic loop the passes read the rows only as a set.
So snapshots whose rows have the same trace, that is, list dependent rows in
the same order, leave the same cards, orders and reservations; and for each
kind of dependent rows there are two whose order matters.
-/

namespace QuantApp.Services

open Core Verified

variable {s t : ReduceState} {rows : List BrokerOrderStatusSnapshot}

/-! ## The passes that read the rows as a set -/

/-- What the later passes read of a state. -/
structure SameRecords (a b : ReduceState) : Prop where
  cards : a.cards = b.cards
  orders : a.orders = b.orders
  reservations : a.reservations = b.reservations
  consumed : ∀ id, id ∈ a.consumedBrokerIds ↔ id ∈ b.consumedBrokerIds

theorem Alike.escalated (h : Alike s t) (snapshot : AccountBrokerSnapshot) :
    SameRecords (escalateUncorrelated snapshot s) (escalateUncorrelated snapshot t) := by
  unfold escalateUncorrelated
  split
  · have hUncorrelated : isUncorrelated s.candidateIds = isUncorrelated t.candidateIds := by
      funext order
      unfold isUncorrelated
      have hContains : s.candidateIds.contains order.clientOrderId =
          t.candidateIds.contains order.clientOrderId := by
        rw [Bool.eq_iff_iff, List.contains_iff_mem, List.contains_iff_mem]
        exact h.candidates order.clientOrderId
      rw [hContains]
    refine ⟨h.cards, ?_, h.reservations, h.consumed⟩
    dsimp only
    rw [h.orders, hUncorrelated]
  · exact ⟨h.cards, h.orders, h.reservations, h.consumed⟩

theorem SameTables.sameRecords {a b : ReduceState} (ha : SameTables s a) (hb : SameTables t b)
    (h : SameRecords s t) : SameRecords a b := by
  refine ⟨?_, ?_, ?_, ?_⟩
  · rw [ha.cards, hb.cards, h.cards]
  · rw [ha.orders, hb.orders, h.orders]
  · rw [ha.reservations, hb.reservations, h.reservations]
  · rw [ha.consumed, hb.consumed]
    exact h.consumed

section Reordered

variable {snapshot : AccountBrokerSnapshot} {rows : List BrokerOrderStatusSnapshot}

theorem any_of_perm {rows' : List BrokerOrderStatusSnapshot} (h : List.Perm rows rows')
    (p : BrokerOrderStatusSnapshot → Bool) : rows.any p = rows'.any p := by
  rw [Bool.eq_iff_iff, List.any_eq_true, List.any_eq_true]
  constructor
  · rintro ⟨row, hRow, hp⟩
    exact ⟨row, h.mem_iff.mp hRow, hp⟩
  · rintro ⟨row, hRow, hp⟩
    exact ⟨row, h.mem_iff.mpr hRow, hp⟩

theorem SameRecords.reconcileHolding (h : SameRecords s t) (holding : AccountHoldingSnapshot) :
    Agree SameRecords (reconcileHolding snapshot s holding)
      (reconcileHolding snapshot t holding) := by
  unfold Services.reconcileHolding
  dsimp only
  rw [h.cards]
  split
  · cases requireTradeCardIdentity snapshot.environment holding.symbol with
    | error raised => exact .error raised raised
    | ok => exact .ok ⟨rfl, h.orders, h.reservations, h.consumed⟩
  · exact .ok ⟨rfl, h.orders, h.reservations, h.consumed⟩

theorem retireStaleEntry_of_perm (h : List.Perm snapshot.orders rows)
    (orders : List ExecutionOrderRecord) (card : TradeCardState) :
    retireStaleEntry { snapshot with orders := rows } orders card =
      retireStaleEntry snapshot orders card := by
  have hAny := any_of_perm h (fun row => row.symbol = card.symbol)
  unfold retireStaleEntry isHeld
  dsimp only
  rw [hAny]

theorem reconcileHoldings_respects (hPerm : List.Perm snapshot.orders rows) (h : SameRecords s t) :
    Agree SameRecords (reconcileHoldings snapshot s)
      (reconcileHoldings { snapshot with orders := rows } t) := by
  unfold reconcileHoldings
  dsimp only
  split
  · refine Agree.bind (Agree.foldlM h (fun _ _ holding _ hst => hst.reconcileHolding holding)) ?_
    intro held held' hHeld
    rw [hHeld.cards, hHeld.orders]
    change Agree SameRecords (held'.cards.mapM (sweepUnheldCard snapshot) >>= _)
      (held'.cards.mapM (sweepUnheldCard snapshot) >>= _)
    refine Agree.bind (Agree.refl (fun _ => rfl) _) ?_
    rintro swept _ rfl
    refine .ok ⟨?_, rfl, hHeld.reservations, hHeld.consumed⟩
    apply List.map_congr_left
    intro card _
    exact (retireStaleEntry_of_perm hPerm held'.orders card).symm
  · exact .ok h

theorem absenceStep_of_mem_iff {config : ExecutionConfig} {consumed consumed' : List String}
    (h : ∀ id, id ∈ consumed ↔ id ∈ consumed') (order : ExecutionOrderRecord) :
    absenceStep config snapshot consumed order = absenceStep config snapshot consumed' order := by
  unfold absenceStep
  simp only [h order.brokerOrderId]

theorem recordAbsences_respects (config : ExecutionConfig) (h : SameRecords s t) :
    Agree SameRecords (recordAbsences config snapshot s)
      (recordAbsences config { snapshot with orders := rows } t) := by
  have hSteps : absenceStep config snapshot s.consumedBrokerIds =
      absenceStep config { snapshot with orders := rows } t.consumedBrokerIds := by
    funext order
    exact absenceStep_of_mem_iff h.consumed order
  unfold recordAbsences
  rw [hSteps, h.orders]
  refine Agree.bind (Agree.refl (fun _ => rfl) _) ?_
  rintro observed _ rfl
  exact .ok ⟨h.cards, rfl, h.reservations, h.consumed⟩

variable (hPerm : List.Perm snapshot.orders rows) (config : ExecutionConfig)
include hPerm config

theorem orphanStep_of_perm (orders : List ExecutionOrderRecord) (reservation : CapitalReservation) :
    orphanStep config { snapshot with orders := rows } orders reservation =
      orphanStep config snapshot orders reservation := by
  have hAny := any_of_perm hPerm (fun row => row.symbol = reservation.symbol)
  unfold orphanStep recordOrphanReservationAbsence
  dsimp only
  rw [hAny]
  rfl

theorem recordOrphans_respects (h : SameRecords s t) :
    Agree SameRecords (recordOrphans config snapshot (settleReservations snapshot s))
      (recordOrphans config { snapshot with orders := rows }
        (settleReservations { snapshot with orders := rows } t)) := by
  unfold recordOrphans settleReservations
  dsimp only
  rw [h.orders, h.reservations]
  have hSteps : orphanStep config { snapshot with orders := rows } t.orders =
      orphanStep config snapshot t.orders := by
    funext reservation
    exact orphanStep_of_perm hPerm config t.orders reservation
  rw [hSteps]
  refine Agree.bind (Agree.refl (fun _ => rfl) _) ?_
  rintro observed _ rfl
  exact .ok ⟨h.cards, rfl, rfl, h.consumed⟩

end Reordered

/-! ## The whole pass -/

/-- Two plans leave the same cards, orders and reservations. -/
structure SameReduction (localState : AccountLocalState) (p q : ReconciliationPlan) : Prop where
  cards : p.reducedCards localState = q.reducedCards localState
  orders : p.reducedOrders localState = q.reducedOrders localState
  reservations : p.reducedReservations localState = q.reducedReservations localState

variable (runtime : Runtime)

theorem externalPass_tables (snapshot : AccountBrokerSnapshot)
    (rows : List BrokerOrderStatusSnapshot) (state : ReduceState) :
    SameTables state
      (alertDurableExternals (rows.foldl (recordExternalRow runtime snapshot) state)) := by
  have hRows := recordExternalRows_tables runtime snapshot rows state
  exact ⟨hRows.orders, hRows.cards, hRows.reservations, hRows.consumed, hRows.commands⟩

/-- Reordered rows leave the same state for the holdings part. -/
theorem sameRecords_unpositioned {runtime : Runtime} {snapshot : AccountBrokerSnapshot}
    {localState : AccountLocalState} {exact exact' : ReduceState}
    (h : Exchanged (DependentRows localState.executionOrders) snapshot.orders rows)
    (hExact : snapshot.orders.foldlM (reconcileExactRow runtime snapshot)
      (classifyLocalOrders snapshot (ReduceState.start localState)) = .ok exact)
    (hAlike : ExactAlike localState.executionOrders exact exact') :
    SameRecords
      (alertDurableExternals (snapshot.orders.foldl (recordExternalRow runtime snapshot)
        (escalateUncorrelated snapshot
          (snapshot.orders.foldl (retainCandidateRow runtime.config) exact))))
      (alertDurableExternals
        (rows.foldl (recordExternalRow runtime { snapshot with orders := rows })
          (escalateUncorrelated snapshot
            (rows.foldl (retainCandidateRow runtime.config) exact')))) := by
  let run : ExactRun runtime snapshot localState := { exact := exact, exactRows := hExact }
  have hKeyed := classified_keyed snapshot localState
  have hConsumed := (exactRows_consumed hKeyed hExact).1
  rw [classifyLocalOrders_orders] at hConsumed
  have hRetain : RetainAlike localState.executionOrders snapshot.orders exact exact' := by
    refine { alike := hAlike.alike, keyed := run.exact_keyed, claimed := ?_ }
    intro row hRow hClaimed
    rw [hConsumed]
    refine List.mem_append_right _ (List.mem_map.mpr ⟨row, List.mem_filter.mpr ⟨hRow, ?_⟩, rfl⟩)
    exact Option.isSome_iff_ne_none.mpr hClaimed
  have hEscalated := (retainRows_alike runtime.config h hRetain).escalated snapshot
  exact (externalPass_tables runtime snapshot snapshot.orders _).sameRecords
    (externalPass_tables runtime { snapshot with orders := rows } rows _) hEscalated

theorem reduceLocalState_reordered (snapshot : AccountBrokerSnapshot)
    (localState : AccountLocalState)
    (h : Exchanged (DependentRows localState.executionOrders) snapshot.orders rows) :
    Agree SameRecords (reduceLocalState runtime snapshot localState)
      (reduceLocalState runtime { snapshot with orders := rows } localState) := by
  have hStart : ExactAlike localState.executionOrders
      (classifyLocalOrders snapshot (ReduceState.start localState))
      (classifyLocalOrders snapshot (ReduceState.start localState)) := by
    refine { alike := Alike.refl _, same := ?_ }
    rw [classifyLocalOrders_orders]
    exact List.forall₂_same.mpr (fun order _ => SameOrder.refl order)
  have hExactRows := (exactRows_commuting runtime snapshot localState.ordersKeyed').foldlM
    (fun _ _ => trivial) h hStart
  unfold reduceLocalState
  refine hExactRows.bind_of_eq ?_
  intro exact exact' hExact _ hAlike
  refine (reconcileHoldings_respects h.perm (sameRecords_unpositioned h hExact hAlike)).bind ?_
  intro positioned positioned' hPositioned
  refine (recordAbsences_respects runtime.config hPositioned).bind ?_
  intro observed observed' hObserved
  refine (recordOrphans_respects h.perm runtime.config hObserved).bind ?_
  intro orphaned orphaned' hOrphaned
  exact .ok ⟨hOrphaned.cards, hOrphaned.orders, hOrphaned.reservations, hOrphaned.consumed⟩

/-- Snapshots whose rows have the same trace either both raise or leave the same
cards, orders and reservations. -/
theorem reduce_of_sameTrace (snapshot : AccountBrokerSnapshot)
    (localState : AccountLocalState) (rows : List BrokerOrderStatusSnapshot)
    (h : SameTrace (DependentRows localState.executionOrders) snapshot.orders rows) :
    Agree (SameReduction localState)
      (reduceAccountReconciliation runtime snapshot localState)
      (reduceAccountReconciliation runtime { snapshot with orders := rows } localState) := by
  have hAgree := reduceLocalState_reordered runtime snapshot localState
    (exchanged_of_sameTrace (DependentRows.refl _) DependentRows.symm h)
  refine hAgree.map ?_
  intro final final' hSame
  refine { cards := ?_, orders := ?_, reservations := ?_ }
  · unfold ReconciliationPlan.reducedCards planOf
    rw [hSame.cards]
  · unfold ReconciliationPlan.reducedOrders planOf
    rw [hSame.orders]
  · unfold ReconciliationPlan.reducedReservations planOf
    rw [hSame.reservations]

def workingState : AccountLocalState :=
  { cards := [sampleCard], executionOrders := [sampleOrder]
    reservationLinksStripped := sampleOrder_linksStripped }

theorem reduce_of_sameTrace_sample :
    Agree (SameReduction workingState)
      (reduceAccountReconciliation sampleRuntime
        { sampleSnapshot with
          orders := [sampleRow, { sampleRow with symbol := "MSFT", brokerOrderId := "X1" }] }
        workingState)
      (reduceAccountReconciliation sampleRuntime
        { sampleSnapshot with
          orders := [{ sampleRow with symbol := "MSFT", brokerOrderId := "X1" }, sampleRow] }
        workingState) := by
  refine reduce_of_sameTrace _ _ _ _ (sameTrace_of_exchanged (DependentRows.refl _)
    DependentRows.symm ?_)
  exact .swap [] (by decide +kernel)

/-! ### Where the order does matter -/

theorem SameReduction.of_returned {localState : AccountLocalState}
    {x y : Except Raised ReconciliationPlan} (h : Agree (SameReduction localState) x y)
    (hReturned : x.isOk = true) :
    SameReduction localState (returnedPlan x) (returnedPlan y) := by
  cases h with
  | ok hSame => exact hSame
  | error => cases hReturned

/-- Rows of one order: a fill before and after the working order. -/
def fillThenWorking : AccountBrokerSnapshot :=
  { sampleSnapshot with
    orders := [{ sampleRow with
      status := .filled, filledQuantity := 10, remainingQuantity := 0 }, sampleRow] }

/-- Rows of two orders of one card: a cancelled original and its partly filled
replacement. -/
def cancelledThenReplacement : AccountBrokerSnapshot :=
  { sampleSnapshot with
    completeness := { completeAnswer with holdingsComplete := false }
    orders :=
      [{ sampleRow with brokerOrderId := "B0", status := .cancelled },
        { sampleRow with
          status := .partiallyFilled, filledQuantity := 4, remainingQuantity := 6 }] }

def replacedState : AccountLocalState :=
  { cards := [sampleCard]
    executionOrders := [{ sampleOrder with
      clientOrderId := "c0", clientOrderIdNamed := by decide +kernel
      brokerOrderId := "B0", status := .cancelled, remainingQuantity := 0 }, sampleOrder] }

/-- Two unclaimed rows that match one ambiguous submission. -/
def twoCandidates : AccountBrokerSnapshot :=
  { sampleSnapshot with
    orders := [{ sampleRow with brokerOrderId := "X1", submittedAt := some sampleTime },
      { sampleRow with brokerOrderId := "X2", submittedAt := some sampleTime }] }

def ambiguousState : AccountLocalState :=
  { executionOrders := [{ sampleOrder with
      brokerOrderId := "", status := .unknownSubmissionState
      brokerIdentityStatus := .ambiguous, submissionStartedAt := some sampleTime }] }

/-- The rows in reverse leave the same cards, orders and reservations. -/
def ReversalAgrees (snapshot : AccountBrokerSnapshot) (localState : AccountLocalState) : Prop :=
  Agree (SameReduction localState)
    (reduceAccountReconciliation sampleRuntime snapshot localState)
    (reduceAccountReconciliation sampleRuntime
      { snapshot with orders := snapshot.orders.reverse } localState)

/-- For each kind of dependent rows there are two whose order matters. -/
theorem rowOrder_matters :
    ¬ ReversalAgrees fillThenWorking workingState ∧
      ¬ ReversalAgrees cancelledThenReplacement replacedState ∧
      ¬ ReversalAgrees twoCandidates ambiguousState := by
  refine ⟨?_, ?_, ?_⟩
  · intro h
    exact absurd (SameReduction.of_returned h (by decide +kernel)).orders (by decide +kernel)
  · intro h
    exact absurd (SameReduction.of_returned h (by decide +kernel)).cards (by decide +kernel)
  · intro h
    exact absurd (SameReduction.of_returned h (by decide +kernel)).orders (by decide +kernel)

end QuantApp.Services
