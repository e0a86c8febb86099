import QuantApp.Services.ReducerRun

/-!
# Nothing is concluded from missing evidence

An order's status moves only when the snapshot lists a row with the order's
exact broker id, no order gains an exact identity or loses its broker id, and
without a complete holdings answer no position shrinks and no card closes.
The card half is a relation every card write respects (`KeepsPosition`).
-/

namespace QuantApp.Services

open Core Verified

variable {snapshot : AccountBrokerSnapshot}

/-! ## Orders -/

/-- A status that moved was moved by a row with the order's exact id. -/
theorem OrderFate.row_of_status_changed {before after : ExecutionOrderRecord}
    (h : OrderFate snapshot before after) (hChanged : after.status ≠ before.status) :
    before.brokerIdentityStatus = .exact_ ∧
      ∃ row ∈ snapshot.orders, row.brokerOrderId = before.brokerOrderId := by
  obtain ⟨middle, hRows, hQuiet⟩ := h
  cases hMatching : rowsFor before snapshot.orders with
  | nil =>
    rw [hMatching] at hRows
    cases hRows
    exact absurd hQuiet.status hChanged
  | cons row =>
    have hMem : row ∈ rowsFor before snapshot.orders := by
      rw [hMatching]
      exact List.mem_cons_self
    obtain ⟨hRow, hMatch⟩ := List.mem_filter.mp hMem
    simp only [hasExactId, Bool.and_eq_true, decide_eq_true_eq] at hMatch
    exact ⟨hMatch.1.1, row, hRow, hMatch.2⟩

/-! ## Cards -/

/-- The position did not shrink and the card did not close. -/
structure KeepsPosition (before after : TradeCardState) : Prop where
  key : after.cardKey = before.cardKey
  quantity : before.brokerQuantity ≤ after.brokerQuantity
  closed : after.boardStatus = .closed → before.boardStatus = .closed

theorem KeepsPosition.refl (card : TradeCardState) : KeepsPosition card card := ⟨rfl, le_refl _, id⟩

theorem KeepsPosition.trans {a b c : TradeCardState} (hab : KeepsPosition a b)
    (hbc : KeepsPosition b c) : KeepsPosition a c :=
  ⟨hbc.key.trans hab.key, le_trans hab.quantity hbc.quantity, fun h => hab.closed (hbc.closed h)⟩

theorem keepsPosition_nonacceptance (card : TradeCardState) (observedAt : Instant) :
    KeepsPosition card (applyDefinitiveEntryNonacceptance card observedAt) := by
  refine ⟨applyDefinitiveEntryNonacceptance_cardKey card observedAt, ?_, ?_⟩
  · unfold applyDefinitiveEntryNonacceptance
    dsimp only
    by_cases hHeld : 0 < card.brokerQuantity
    · rw [if_pos hHeld]
      exact le_refl _
    · rw [if_neg hHeld]
      exact le_refl _
  · unfold applyDefinitiveEntryNonacceptance
    dsimp only
    by_cases hHeld : 0 < card.brokerQuantity
    · rw [if_pos hHeld]
      intro hClosed
      cases hClosed
    · rw [if_neg hHeld]
      intro hClosed
      cases hClosed

theorem keepsPosition_projectLocalOrder (observedAt : Instant) (order : ExecutionOrderRecord)
    (category : ReconciliationCategory) (card : TradeCardState) :
    KeepsPosition card (projectLocalOrder observedAt order category card) := by
  apply projectLocalOrder_of (KeepsPosition.refl card)
    (fun _ => keepsPosition_nonacceptance card observedAt)
  intro settled hSettled _
  refine ⟨hSettled.key, hSettled.quantity, ?_⟩
  intro hClosed
  cases hClosed

/-- Without a holding, an entry row can only raise the position. -/
theorem keepsPosition_projectEntry (order : ExecutionOrderRecord)
    (row : BrokerOrderStatusSnapshot) (card : TradeCardState) :
    KeepsPosition card (projectEntry order row none card) := by
  refine ⟨projectEntry_cardKey order row none card, ?_, ?_⟩
  · have hFill : (projectEntryFill order row none card).brokerQuantity =
        max card.brokerQuantity row.filledQuantity := by
      unfold projectEntryFill
      rw [(projectFillStop_position _ _).1]
    unfold projectEntry
    dsimp only
    split
    · split
      · rw [(retireFilledEntry_position _).1, hFill]
        exact le_max_left _ _
      · rw [hFill]
        exact le_max_left _ _
    split
    · exact le_refl _
    split <;> exact le_refl _
  · have hFill : (projectEntryFill order row none card).boardStatus = .openPosition := by
      unfold projectEntryFill
      rw [(projectFillStop_position _ _).2]
    unfold projectEntry
    dsimp only
    split
    · split
      · rw [(retireFilledEntry_position _).2, hFill]
        intro hClosed
        cases hClosed
      · rw [hFill]
        intro hClosed
        cases hClosed
    split
    · unfold clearEntryCardTracking
      dsimp only
      split
      all_goals
        intro hClosed
        cases hClosed
    split
    · intro hClosed
      cases hClosed
    · exact id

theorem keepsPosition_consumed (card : TradeCardState) (order : ExecutionOrderRecord) :
    KeepsPosition card
      (if order.side = .sell then consumeExitCardAttempt card order else card) := by
  split <;> exact ⟨rfl, le_refl _, id⟩

/-- Without complete holdings, a projection keeps the position. -/
theorem keepsPosition_projectExactOrderToCard {config : ExecutionConfig}
    {order : ExecutionOrderRecord} {row : BrokerOrderStatusSnapshot}
    {category : ReconciliationCategory} {card next : TradeCardState}
    {alerts : List ReconciliationAlert}
    (hIncomplete : snapshot.completeness.holdingsComplete = false)
    (h : projectExactOrderToCard config order row snapshot category card = .ok (next, alerts)) :
    KeepsPosition card next := by
  have hConsumed := keepsPosition_consumed card order
  have hOfSell : ∀ {consumed : TradeCardState} (sold : BoardStatus), KeepsPosition card consumed →
      sold ≠ .closed → next.cardKey = consumed.cardKey →
      next.brokerQuantity = consumed.brokerQuantity →
      (next.boardStatus = consumed.boardStatus ∨ next.boardStatus = sold) →
      KeepsPosition card next := by
    intro consumed sold hConsumed hSold hKey hQuantity hBoard
    refine hConsumed.trans ⟨hKey, le_of_eq hQuantity.symm, ?_⟩
    intro hClosed
    rcases hBoard with hBoard | hBoard
    · rw [← hBoard]
      exact hClosed
    · exact absurd (hBoard.symm.trans hClosed) hSold
  have hCases := projectExactOrderToCard_ok h
  simp only [hIncomplete, Bool.false_eq_true, if_false] at hCases
  rcases hCases with ⟨rfl, _⟩ | hPartial | ⟨_, hLiquidation⟩ | rfl
  · exact hConsumed.trans (keepsPosition_projectEntry order row _)
  · obtain ⟨hKey, hMissing⟩ := projectPartialSell_ok hPartial
    exact hOfSell .partialSell hConsumed (by decide) hKey (hMissing hIncomplete).1
      (hMissing hIncomplete).2
  · obtain ⟨hKey, hMissing⟩ := projectLiquidation_ok hLiquidation
    exact hOfSell .sellAll hConsumed (by decide) hKey (hMissing hIncomplete).1
      (hMissing hIncomplete).2
  · exact hConsumed

/-- Without complete holdings, the cards of a run keep their positions, and
there are no others. -/
theorem cards_keepPosition {runtime : Runtime} {localState : AccountLocalState}
    {final : ReduceState} (hIncomplete : snapshot.completeness.holdingsComplete = false)
    (h : reduceLocalState runtime snapshot localState = .ok final) :
    List.Forall₂ KeepsPosition localState.cards final.cards := by
  obtain ⟨run⟩ := nonempty_reducerRun h
  have hExact : List.Forall₂ KeepsPosition localState.cards run.exact.cards :=
    run.exact_cards KeepsPosition.refl (fun _ _ _ hab hbc => hab.trans hbc)
      (fun _ _ hKeeps => hKeeps.key) (keepsPosition_projectLocalOrder snapshot.observedAt)
      (fun _ _ _ _ _ _ hProject =>
        keepsPosition_projectExactOrderToCard hIncomplete hProject)
  have hPositioned : run.positioned.cards = run.exact.cards := by
    have hHoldings := run.holdings
    unfold reconcileHoldings at hHoldings
    rw [if_neg (by simp [SnapshotCompleteness.allows, hIncomplete])] at hHoldings
    have hState : alertDurableExternals run.external = run.positioned := Except.ok.inj hHoldings
    rw [← hState, run.external_tables.cards]
    have hEscalated := (escalateUncorrelated_frame snapshot run.retained).1
    have hRetained := (retainCandidates_frame runtime.config snapshot.orders run.exact).1
    exact hEscalated.trans hRetained
  rw [run.final_cards, hPositioned]
  exact hExact

/-! ## The plan -/

/-- Reconciliation concludes nothing from missing evidence. -/
theorem no_conclusion_from_missing_evidence (runtime : Runtime)
    (snapshot : AccountBrokerSnapshot) (localState : AccountLocalState)
    (plan : ReconciliationPlan)
    (h : reduceAccountReconciliation runtime snapshot localState = .ok plan) :
    (∀ old ∈ localState.executionOrders, ∀ new ∈ plan.orderUpdates,
      new.clientOrderId = old.clientOrderId →
        (new.status ≠ old.status → old.brokerIdentityStatus = .exact_ ∧
          ∃ row ∈ snapshot.orders, row.brokerOrderId = old.brokerOrderId) ∧
        (old.brokerIdentityStatus ≠ .exact_ →
          new.brokerIdentityStatus ≠ .exact_ ∧ new.brokerOrderId = old.brokerOrderId)) ∧
    (snapshot.completeness.holdingsComplete = false →
      plan.cardCreates = [] ∧
      ∀ old ∈ localState.cards, ∀ new ∈ plan.cardUpdates, new.cardKey = old.cardKey →
        old.brokerQuantity ≤ new.brokerQuantity ∧
          (new.boardStatus = .closed → old.boardStatus = .closed)) := by
  constructor
  · intro old hOld new hNew hClient
    have hFate := fate_of_orderUpdate h hOld hNew hClient
    refine ⟨hFate.row_of_status_changed, ?_⟩
    intro hNotExact
    rw [hFate.same.brokerIdentityStatus]
    exact ⟨hNotExact, hFate.same.brokerOrderId⟩
  · intro hIncomplete
    obtain ⟨final, hFinal, rfl⟩ := reduceAccountReconciliation_ok.mp h
    have hCards := cards_keepPosition hIncomplete hFinal
    have hKeys := map_cardKey_of_forall₂ (fun _ _ hKeeps => hKeeps.key) hCards
    constructor
    · refine List.filter_eq_nil_iff.mpr ?_
      intro card hCard hCreated
      have hMem : card.cardKey ∈ localState.cards.map TradeCardState.cardKey := by
        rw [← hKeys]
        exact List.mem_map_of_mem hCard
      rw [Option.isNone_iff_eq_none, lookup_eq_none_iff] at hCreated
      exact hCreated hMem
    · intro old hOld new hNew hKey
      obtain ⟨before, hBefore, hKeeps⟩ := forall₂_mem_right hCards (mem_changedRows hNew).1
      have hEq : before = old := by
        refine localState.cardsKeyed.eq_of_mem hBefore hOld ?_
        rw [← hKey, hKeeps.key]
      rw [← hEq]
      exact ⟨hKeeps.quantity, hKeeps.closed⟩

/-- A partial fill seen without holdings: one order and one card are updated. -/
theorem no_conclusion_from_missing_evidence_sample :
    ∃ plan, reduceAccountReconciliation sampleRuntime
        { sampleSnapshot with
          completeness := { completeAnswer with holdingsComplete := false }
          orders := [{ sampleRow with
            status := .partiallyFilled, filledQuantity := 4, remainingQuantity := 6 }] }
        { cards := [sampleCard], executionOrders := [sampleOrder]
          reservationLinksStripped := sampleOrder_linksStripped } = .ok plan ∧
      plan.orderUpdates.map (·.status) = [.partiallyFilled] ∧
      plan.cardUpdates.map (·.brokerQuantity) = [4] ∧ plan.cardCreates = [] := by
  refine ⟨_, eq_returnedPlan (by decide +kernel), by decide +kernel, by decide +kernel, ?_⟩
  exact ((no_conclusion_from_missing_evidence _ _ _ _
    (eq_returnedPlan (by decide +kernel))).2 (by decide +kernel)).1

end QuantApp.Services
