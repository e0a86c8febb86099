import QuantApp.Services.AccountReconciliation
import QuantApp.Services.OrderEvolution

/-!
# The passes of one reducer run

`ReducerRun` names the states between the passes of a run that returns.  Each
pass is described once: which tables it leaves alone, and how it relates the
rows of the tables it writes.  `ReducerRun.orders_evolve` is the fate of every
order over a whole run; `reducedOrders_planOf` says that the plan reproduces
the reducer's final tables.
-/

namespace QuantApp.Services

open Core Verified
open RecoveryUpdate (refl)
open ReduceState (cards commands externals orders reservations start)
open ExecutionOrderRecord (clientOrderId)
open TradeCardState (cardKey)

variable {snapshot : AccountBrokerSnapshot} {state next final : ReduceState} {runtime : Runtime}
  {localState : AccountLocalState} {row : BrokerOrderStatusSnapshot}
  {xs ys orders : List ExecutionOrderRecord} {config : ExecutionConfig}
  {R : TradeCardState → TradeCardState → Prop} {cards cards' : List TradeCardState}
  {brokerOrderId : String} {exact order applied a b before after : ExecutionOrderRecord}
  {rows : List BrokerOrderStatusSnapshot} {plan : ReconciliationPlan}

/-! ## Keys of the order table -/

/-- Client ids and exact broker ids are unique. -/
structure OrdersKeyed (orders : List ExecutionOrderRecord) : Prop where
  client : Keyed clientOrderId orders
  exactIds : Keyed ExecutionOrderRecord.brokerOrderId (orders.filter hasExactId)

theorem AccountLocalState.ordersKeyed' (localState : AccountLocalState) :
    OrdersKeyed localState.executionOrders :=
  { client := localState.ordersKeyed, exactIds := localState.exactIdsKeyed }

theorem map_clientOrderId_of_same (h : List.Forall₂ SameOrder xs ys) :
    ys.map clientOrderId = xs.map clientOrderId := by
  induction h with
  | nil => rfl
  | cons hHead _ ih => simp [hHead.clientOrderId, ih]

theorem map_exactIds_of_same (h : List.Forall₂ SameOrder xs ys) :
    (ys.filter hasExactId).map ExecutionOrderRecord.brokerOrderId =
      (xs.filter hasExactId).map ExecutionOrderRecord.brokerOrderId := by
  induction h with
  | nil => rfl
  | @cons x y xs ys hHead _ ih =>
    by_cases hExact : hasExactId x = true
    · have hExact' : hasExactId y = true := by rw [hHead.hasExactId]; exact hExact
      simp [hExact, hExact', hHead.brokerOrderId, ih]
    · have hExact' : ¬ hasExactId y = true := by rw [hHead.hasExactId]; exact hExact
      simp [hExact, hExact', ih]

theorem sameOrders_trans {zs : List ExecutionOrderRecord} (hxy : List.Forall₂ SameOrder xs ys)
    (hyz : List.Forall₂ SameOrder ys zs) : List.Forall₂ SameOrder xs zs :=
  forall₂_comp (fun a b c (hab : SameOrder a b) (hbc : SameOrder b c) => hab.trans hbc) hxy hyz

theorem OrdersKeyed.of_same (h : OrdersKeyed xs) (hSame : List.Forall₂ SameOrder xs ys) :
    OrdersKeyed ys := by
  refine { client := ?_, exactIds := ?_ }
  · unfold Keyed
    rw [map_clientOrderId_of_same hSame]
    exact h.client
  · unfold Keyed
    rw [map_exactIds_of_same hSame]
    exact h.exactIds

theorem exactOrderFor_some (h : exactOrderFor orders brokerOrderId = some exact) :
    exact ∈ orders ∧ hasExactId exact = true ∧ exact.brokerOrderId = brokerOrderId := by
  have hMem := List.mem_filter.mp (lookup_mem h)
  exact ⟨hMem.1, hMem.2, lookup_key h⟩

theorem exactOrderFor_of_mem (hKeyed : OrdersKeyed orders) (hOrder : order ∈ orders)
    (hExact : hasExactId order = true) : exactOrderFor orders order.brokerOrderId = some order :=
  hKeyed.exactIds.lookup_of_mem (List.mem_filter.mpr ⟨hOrder, hExact⟩)

theorem exactOrderFor_eq_none :
    exactOrderFor orders brokerOrderId = none ↔
      ∀ order ∈ orders, hasExactId order = true → order.brokerOrderId ≠ brokerOrderId := by
  unfold exactOrderFor
  rw [lookup_eq_none_iff]
  simp only [List.mem_map, List.mem_filter, not_exists, not_and, and_imp]

/-! ## One row of the exact loop -/

/-- What one row does to the card of the order it belongs to. -/
inductive CardStep (runtime : Runtime) (snapshot : AccountBrokerSnapshot) (state : ReduceState)
    (row : BrokerOrderStatusSnapshot) (applied : ExecutionOrderRecord) :
    List TradeCardState → Prop
  | missing : lookup cardKey (orderKey applied) state.cards = none →
      CardStep runtime snapshot state row applied state.cards
  | unlinked {card : TradeCardState} :
      lookup cardKey (orderKey applied) state.cards = some card →
      cardTracksOrder card applied = false →
      CardStep runtime snapshot state row applied state.cards
  | projected {card projection : TradeCardState} {alerts : List ReconciliationAlert} :
      lookup cardKey (orderKey applied) state.cards = some card →
      cardTracksOrder card applied = true →
      projectExactOrderToCard runtime.config applied row snapshot
        (categoryOf state.categories applied.clientOrderId) card = .ok (projection, alerts) →
      CardStep runtime snapshot state row applied
        (store cardKey projection state.cards)

/-- What a row of an exact order does to the whole state. -/
structure ExactRowStep (runtime : Runtime) (snapshot : AccountBrokerSnapshot)
    (state : ReduceState) (row : BrokerOrderStatusSnapshot) (exact applied : ExecutionOrderRecord)
    (next : ReduceState) : Prop where
  found : exactOrderFor state.orders row.brokerOrderId = some exact
  applied_ok : ∃ contradiction,
    applyExactOrderSnapshot runtime exact row = .ok (applied, contradiction)
  orders : next.orders = store clientOrderId applied state.orders
  consumed : next.consumedBrokerIds = state.consumedBrokerIds ++ [row.brokerOrderId]
  cards : CardStep runtime snapshot state row applied next.cards
  reservations : next.reservations = state.reservations
  externals : next.externals = state.externals
  categories : next.categories = state.categories
  candidateIds : next.candidateIds = state.candidateIds
  commands : next.commands = state.commands

theorem reconcileExactRow_cases (h : reconcileExactRow runtime snapshot state row = .ok next) :
    (exactOrderFor state.orders row.brokerOrderId = none ∧ next = state) ∨
      ∃ exact applied, ExactRowStep runtime snapshot state row exact applied next := by
  unfold reconcileExactRow at h
  cases hFound : exactOrderFor state.orders row.brokerOrderId with
  | none =>
    simp only [hFound] at h
    cases h
    exact Or.inl ⟨rfl, rfl⟩
  | some exact =>
    simp only [hFound] at h
    unfold reconcileExactOrder at h
    obtain ⟨⟨applied, contradiction⟩, hApplied, h⟩ := bind_eq_ok.mp h
    dsimp only at h
    refine Or.inr ⟨exact, applied, ?_⟩
    cases hCard : lookup cardKey (orderKey applied) state.cards with
    | none =>
      simp only [hCard] at h
      cases h
      exact
        { found := hFound, applied_ok := ⟨contradiction, hApplied⟩, orders := rfl
          consumed := rfl, cards := .missing hCard, reservations := rfl, externals := rfl
          categories := rfl, candidateIds := rfl, commands := rfl }
    | some card =>
      simp only [hCard] at h
      by_cases hTracks : cardTracksOrder card applied = true
      · rw [if_pos hTracks] at h
        obtain ⟨⟨projection, alerts⟩, hProjected, h⟩ := bind_eq_ok.mp h
        cases h
        exact
          { found := hFound, applied_ok := ⟨contradiction, hApplied⟩, orders := rfl
            consumed := rfl, cards := .projected hCard hTracks hProjected
            reservations := rfl, externals := rfl, categories := rfl
            candidateIds := rfl, commands := rfl }
      · rw [if_neg hTracks] at h
        cases h
        exact
          { found := hFound, applied_ok := ⟨contradiction, hApplied⟩, orders := rfl
            consumed := rfl
            cards := .unlinked hCard (by simpa using hTracks), reservations := rfl
            externals := rfl, categories := rfl, candidateIds := rfl, commands := rfl }

theorem ExactRowStep.effect (h : ExactRowStep runtime snapshot state row exact applied next) :
    RowEffect exact row applied := by
  obtain ⟨contradiction, hApplied⟩ := h.applied_ok
  have hExact := (exactOrderFor_some h.found).2.1
  refine applyExactOrderSnapshot_effect ?_ hApplied
  simp only [hasExactId, Bool.and_eq_true, decide_eq_true_eq] at hExact
  exact hExact.1

/-- A row advances the one order whose exact id it carries. -/
theorem reconcileExactRow_orders (hKeyed : OrdersKeyed state.orders)
    (h : reconcileExactRow runtime snapshot state row = .ok next) :
    List.Forall₂ (fun before after => RowsEffect before (rowsFor before [row]) after)
      state.orders next.orders := by
  rcases reconcileExactRow_cases h with ⟨hNone, rfl⟩ | ⟨exact, applied, hStep⟩
  · refine List.forall₂_same.mpr ?_
    intro order hOrder
    have hNot := exactOrderFor_eq_none.mp hNone order hOrder
    have hRows : rowsFor order [row] = [] := by
      simp only [rowsFor, List.filter_eq_nil_iff, List.mem_singleton, Bool.and_eq_true,
        decide_eq_true_eq, not_and]
      rintro _ rfl hExact hEq
      exact hNot hExact hEq.symm
    rw [hRows]
    exact .nil order
  · obtain ⟨hMem, hExact, hId⟩ := exactOrderFor_some hStep.found
    have hEffect := hStep.effect
    rw [hStep.orders]
    unfold store
    refine List.forall₂_map_right_iff.mpr (List.forall₂_same.mpr ?_)
    intro order hOrder
    by_cases hClient : order.clientOrderId = applied.clientOrderId
    · have hEq : order = exact := by
        refine hKeyed.client.eq_of_mem hOrder hMem ?_
        rw [hClient, hEffect.same.clientOrderId]
      subst hEq
      have hRows : rowsFor order [row] = [row] := by
        simp [rowsFor, hExact, hId]
      rw [if_pos hClient, hRows]
      exact .cons hEffect (.nil _)
    · have hRows : rowsFor order [row] = [] := by
        simp only [rowsFor, List.filter_eq_nil_iff, List.mem_singleton, Bool.and_eq_true,
          decide_eq_true_eq, not_and]
        rintro _ rfl hOrderExact hEq
        have hFound := exactOrderFor_of_mem hKeyed hOrder hOrderExact
        rw [← hEq, hStep.found] at hFound
        cases hFound
        exact hClient hEffect.same.clientOrderId.symm
      rw [if_neg hClient, hRows]
      exact .nil order

theorem rowsFor_cons (order : ExecutionOrderRecord) (row : BrokerOrderStatusSnapshot)
    (rows : List BrokerOrderStatusSnapshot) :
    rowsFor order (row :: rows) = rowsFor order [row] ++ rowsFor order rows := by
  simp only [rowsFor, ← List.filter_append, List.singleton_append]

theorem SameOrder.rowsFor (h : SameOrder a b) (rows : List BrokerOrderStatusSnapshot) :
    rowsFor b rows = rowsFor a rows := by
  unfold Services.rowsFor
  rw [h.hasExactId, h.brokerOrderId]

theorem RowsEffect.append {c : ExecutionOrderRecord} {rows' : List BrokerOrderStatusSnapshot}
    (hab : RowsEffect a rows b) (hbc : RowsEffect b rows' c) : RowsEffect a (rows ++ rows') c := by
  induction hab with
  | nil => exact hbc
  | cons hRow _ ih => exact .cons hRow (ih hbc)

/-- The exact loop takes every order through the rows that carry its exact id. -/
theorem exactRows_orders (hKeyed : OrdersKeyed state.orders)
    (h : rows.foldlM (reconcileExactRow runtime snapshot) state = .ok final) :
    List.Forall₂ (fun before after => RowsEffect before (rowsFor before rows) after)
      state.orders final.orders := by
  induction rows generalizing state with
  | nil =>
    cases h
    exact List.forall₂_same.mpr (fun order _ => .nil order)
  | cons row rows ih =>
    obtain ⟨next, hRow, hRows⟩ := foldlM_cons_ok.mp h
    have hFirst := reconcileExactRow_orders hKeyed hRow
    have hSame : List.Forall₂ SameOrder state.orders next.orders :=
      hFirst.imp (fun _ _ hEffect => hEffect.same)
    have hRest := ih (hKeyed.of_same hSame) hRows
    refine forall₂_comp ?_ hFirst hRest
    intro before between after hHead hTail
    rw [rowsFor_cons]
    rw [hHead.same.rowsFor] at hTail
    exact hHead.append hTail

/-! ## The passes that leave orders quiet -/

theorem OrdersKeyed.lookup_of_mem (hKeyed : OrdersKeyed orders) (h : order ∈ orders) :
    lookup clientOrderId order.clientOrderId orders = some order :=
  hKeyed.client.lookup_of_mem h

@[simp] theorem classifyLocalOrders_orders (snapshot : AccountBrokerSnapshot)
    (state : ReduceState) : (classifyLocalOrders snapshot state).orders = state.orders :=
  foldl_frame orders (fun _ _ _ => rfl)

theorem classified_same (snapshot : AccountBrokerSnapshot) (localState : AccountLocalState) :
    List.Forall₂ SameOrder localState.executionOrders
      (classifyLocalOrders snapshot (start localState)).orders := by
  rw [classifyLocalOrders_orders]
  exact List.forall₂_same.mpr (fun order _ => SameOrder.refl order)

theorem classified_keyed (snapshot : AccountBrokerSnapshot) (localState : AccountLocalState) :
    OrdersKeyed (classifyLocalOrders snapshot (start localState)).orders := by
  rw [classifyLocalOrders_orders]
  exact localState.ordersKeyed'

theorem candidate_mem {candidate : ExecutionOrderRecord} {others : List ExecutionOrderRecord}
    (h : (candidatesFor config state row).insertionSort candidateBefore = candidate :: others) :
    candidate ∈ state.orders ∧ isAmbiguousSubmission candidate = true := by
  have hMem : candidate ∈ candidatesFor config state row := by
    rw [← List.mem_insertionSort candidateBefore, h]
    exact List.mem_cons_self
  have hCandidate := List.mem_filter.mp hMem
  simp only [Bool.and_eq_true] at hCandidate
  exact ⟨hCandidate.1, hCandidate.2.1.1⟩

theorem retainCandidateRow_orders (config : ExecutionConfig) (hKeyed : OrdersKeyed state.orders)
    (row : BrokerOrderStatusSnapshot) :
    List.Forall₂ RecoveryUpdate state.orders (retainCandidateRow config state row).orders := by
  have hRefl : List.Forall₂ RecoveryUpdate state.orders state.orders :=
    List.forall₂_same.mpr (fun order _ => refl order)
  unfold retainCandidateRow
  split
  · exact hRefl
  split
  · exact hRefl
  · rename_i candidate others hSorted
    have hMem := (candidate_mem hSorted).1
    have hUpdate := recoveryUpdate_retainedCandidate candidate row.brokerOrderId
    have hLookup : lookup clientOrderId
        (retainedCandidate candidate row.brokerOrderId).clientOrderId state.orders =
          some candidate := by
      rw [hUpdate.quiet.same.clientOrderId]
      exact hKeyed.lookup_of_mem hMem
    exact forall₂_store hKeyed.client hLookup refl hUpdate

theorem retainCandidates_orders (config : ExecutionConfig) (rows : List BrokerOrderStatusSnapshot)
    (hKeyed : OrdersKeyed state.orders) :
    List.Forall₂ RecoveryUpdate state.orders
      (rows.foldl (retainCandidateRow config) state).orders := by
  induction rows generalizing state with
  | nil => exact List.forall₂_same.mpr (fun order _ => refl order)
  | cons row rows ih =>
    have hRow := retainCandidateRow_orders config hKeyed row
    have hKeyed' := hKeyed.of_same (hRow.imp (fun _ _ hUpdate => hUpdate.quiet.same))
    refine forall₂_comp ?_ hRow (ih hKeyed')
    intro before between after hFirst hRest
    exact hFirst.trans hRest

theorem escalateUncorrelated_orders (snapshot : AccountBrokerSnapshot) (state : ReduceState) :
    List.Forall₂ RecoveryUpdate state.orders
      (escalateUncorrelated snapshot state).orders := by
  unfold escalateUncorrelated
  split
  · refine List.forall₂_map_right_iff.mpr (List.forall₂_same.mpr ?_)
    intro order _
    split
    · exact recoveryUpdate_escalatedSubmission order
    · exact refl order
  · exact List.forall₂_same.mpr (fun order _ => refl order)

theorem recordAbsences_orders {observed : ReduceState}
    (h : recordAbsences config snapshot state = .ok observed) :
    List.Forall₂ QuietUpdate state.orders observed.orders := by
  obtain ⟨pairs, hPairs, hObserved⟩ := bind_eq_ok.mp h
  cases hObserved
  refine List.forall₂_map_right_iff.mpr ((mapM_forall₂ hPairs).imp ?_)
  intro order pair hPair
  exact quietUpdate_absenceStep hPair

/-! ## Frames of the passes -/

/-- The tables and accumulators only some passes write. -/
structure SameTables (before after : ReduceState) : Prop where
  orders : after.orders = before.orders
  cards : after.cards = before.cards
  reservations : after.reservations = before.reservations
  consumed : after.consumedBrokerIds = before.consumedBrokerIds
  commands : after.commands = before.commands

theorem SameTables.trans {a b c : ReduceState} (hab : SameTables a b) (hbc : SameTables b c) :
    SameTables a c :=
  { orders := hbc.orders.trans hab.orders
    cards := hbc.cards.trans hab.cards
    reservations := hbc.reservations.trans hab.reservations
    consumed := hbc.consumed.trans hab.consumed
    commands := hbc.commands.trans hab.commands }

theorem recordExternalRow_tables (runtime : Runtime) (snapshot : AccountBrokerSnapshot)
    (state : ReduceState) (row : BrokerOrderStatusSnapshot) :
    SameTables state (recordExternalRow runtime snapshot state row) := by
  unfold recordExternalRow noteUnrecognizedStatus
  split
  · exact ⟨rfl, rfl, rfl, rfl, rfl⟩
  split <;> split <;> exact ⟨rfl, rfl, rfl, rfl, rfl⟩

theorem recordExternalRows_tables (runtime : Runtime) (snapshot : AccountBrokerSnapshot)
    (rows : List BrokerOrderStatusSnapshot) (state : ReduceState) :
    SameTables state (rows.foldl (recordExternalRow runtime snapshot) state) := by
  induction rows generalizing state with
  | nil => exact ⟨rfl, rfl, rfl, rfl, rfl⟩
  | cons row rows ih =>
    exact (recordExternalRow_tables runtime snapshot state row).trans (ih _)

theorem retainCandidateRow_frame (config : ExecutionConfig) (state : ReduceState)
    (row : BrokerOrderStatusSnapshot) :
    (retainCandidateRow config state row).cards = state.cards ∧
      (retainCandidateRow config state row).reservations = state.reservations ∧
      (retainCandidateRow config state row).externals = state.externals ∧
      (retainCandidateRow config state row).commands = state.commands := by
  unfold retainCandidateRow
  split
  · exact ⟨rfl, rfl, rfl, rfl⟩
  split <;> exact ⟨rfl, rfl, rfl, rfl⟩

theorem retainCandidates_frame (config : ExecutionConfig)
    (rows : List BrokerOrderStatusSnapshot) (state : ReduceState) :
    (rows.foldl (retainCandidateRow config) state).cards = state.cards ∧
      (rows.foldl (retainCandidateRow config) state).reservations = state.reservations ∧
      (rows.foldl (retainCandidateRow config) state).externals = state.externals ∧
      (rows.foldl (retainCandidateRow config) state).commands = state.commands := by
  have hFrame := retainCandidateRow_frame config
  exact ⟨foldl_frame cards (fun state row _ => (hFrame state row).1),
    foldl_frame reservations (fun state row _ => (hFrame state row).2.1),
    foldl_frame externals (fun state row _ => (hFrame state row).2.2.1),
    foldl_frame commands (fun state row _ => (hFrame state row).2.2.2)⟩

theorem escalateUncorrelated_frame (snapshot : AccountBrokerSnapshot) (state : ReduceState) :
    (escalateUncorrelated snapshot state).cards = state.cards ∧
      (escalateUncorrelated snapshot state).reservations = state.reservations ∧
      (escalateUncorrelated snapshot state).externals = state.externals ∧
      (escalateUncorrelated snapshot state).consumedBrokerIds = state.consumedBrokerIds ∧
      (escalateUncorrelated snapshot state).commands = state.commands := by
  unfold escalateUncorrelated
  split <;> exact ⟨rfl, rfl, rfl, rfl, rfl⟩

/-- What the holdings part does not write. -/
structure HoldingsFrame (before after : ReduceState) : Prop where
  orders : after.orders = before.orders
  reservations : after.reservations = before.reservations
  externals : after.externals = before.externals
  consumed : after.consumedBrokerIds = before.consumedBrokerIds
  commands : after.commands = before.commands

theorem reconcileHolding_frame {holding : AccountHoldingSnapshot}
    (h : reconcileHolding snapshot state holding = .ok next) : HoldingsFrame state next := by
  unfold reconcileHolding at h
  dsimp only at h
  split at h
  · obtain ⟨_, _, hNext⟩ := bind_eq_ok.mp h
    cases hNext
    exact ⟨rfl, rfl, rfl, rfl, rfl⟩
  · cases h
    exact ⟨rfl, rfl, rfl, rfl, rfl⟩

theorem reconcileHoldings_frame (h : reconcileHoldings snapshot state = .ok next) :
    HoldingsFrame state next := by
  unfold reconcileHoldings at h
  split at h
  · obtain ⟨held, hHeld, h⟩ := bind_eq_ok.mp h
    obtain ⟨swept, _, h⟩ := bind_eq_ok.mp h
    cases h
    have hFrame : HoldingsFrame state held := by
      refine foldlM_invariant (HoldingsFrame state) ⟨rfl, rfl, rfl, rfl, rfl⟩ ?_ hHeld
      intro before holding after _ hBefore hStep
      have hOne := reconcileHolding_frame hStep
      exact ⟨hOne.orders.trans hBefore.orders, hOne.reservations.trans hBefore.reservations,
        hOne.externals.trans hBefore.externals, hOne.consumed.trans hBefore.consumed,
        hOne.commands.trans hBefore.commands⟩
    exact ⟨hFrame.orders, hFrame.reservations, hFrame.externals, hFrame.consumed, hFrame.commands⟩
  · cases h
    exact ⟨rfl, rfl, rfl, rfl, rfl⟩

theorem recordAbsences_frame (h : recordAbsences config snapshot state = .ok next) :
    next.cards = state.cards ∧ next.reservations = state.reservations ∧
      next.externals = state.externals ∧ next.commands = state.commands := by
  obtain ⟨_, _, hNext⟩ := bind_eq_ok.mp h
  cases hNext
  exact ⟨rfl, rfl, rfl, rfl⟩

theorem recordOrphans_frame (h : recordOrphans config snapshot state = .ok next) :
    next.cards = state.cards ∧ next.orders = state.orders ∧
      next.externals = state.externals ∧ next.commands = state.commands := by
  obtain ⟨_, _, hNext⟩ := bind_eq_ok.mp h
  cases hNext
  exact ⟨rfl, rfl, rfl, rfl⟩

/-! ## The states of one run -/

/-- The state after the exact loop of a run that gets past it. -/
structure ExactRun (runtime : Runtime) (snapshot : AccountBrokerSnapshot)
    (localState : AccountLocalState) where
  exact : ReduceState
  exactRows : snapshot.orders.foldlM (reconcileExactRow runtime snapshot)
    (classifyLocalOrders snapshot (ReduceState.start localState)) = .ok exact

/-- The state after the holdings part of a run that gets past it. -/
structure PositionedRun (runtime : Runtime) (snapshot : AccountBrokerSnapshot)
    (localState : AccountLocalState) extends ExactRun runtime snapshot localState where
  positioned : ReduceState
  holdings : reconcileHoldings snapshot
    (alertDurableExternals
      (snapshot.orders.foldl (recordExternalRow runtime snapshot)
        (escalateUncorrelated snapshot
          (snapshot.orders.foldl (retainCandidateRow runtime.config) exact)))) = .ok positioned

/-- The states of a run that returns `final`, at the points where it can raise. -/
structure ReducerRun (runtime : Runtime) (snapshot : AccountBrokerSnapshot)
    (localState : AccountLocalState) (final : ReduceState) extends
    PositionedRun runtime snapshot localState where
  /-- after the absence loop -/
  observed : ReduceState
  /-- after the orphan loop -/
  orphaned : ReduceState
  absences : recordAbsences runtime.config snapshot positioned = .ok observed
  orphans : recordOrphans runtime.config snapshot (settleReservations snapshot observed) =
    .ok orphaned
  final_eq : final = decideEmergencySells snapshot (alertLiveWithoutReservation orphaned)

theorem nonempty_reducerRun (h : reduceLocalState runtime snapshot localState = .ok final) :
    Nonempty (ReducerRun runtime snapshot localState final) := by
  obtain ⟨exact, hExact, h⟩ := bind_eq_ok.mp h
  obtain ⟨positioned, hPositioned, h⟩ := bind_eq_ok.mp h
  obtain ⟨observed, hObserved, h⟩ := bind_eq_ok.mp h
  obtain ⟨orphaned, hOrphaned, h⟩ := bind_eq_ok.mp h
  cases h
  exact
    ⟨{ exact := exact, positioned := positioned, observed := observed, orphaned := orphaned
       exactRows := hExact, holdings := hPositioned, absences := hObserved
       orphans := hOrphaned, final_eq := rfl }⟩

namespace ExactRun

variable {runtime : Runtime} {snapshot : AccountBrokerSnapshot}
  {localState : AccountLocalState}

/-- The state after the heuristic loop. -/
def retained (run : ExactRun runtime snapshot localState) : ReduceState :=
  snapshot.orders.foldl (retainCandidateRow runtime.config) run.exact

/-- The state after the escalation of uncorrelated submissions. -/
def escalated (run : ExactRun runtime snapshot localState) : ReduceState :=
  escalateUncorrelated snapshot run.retained

/-- The state after the external-order loop. -/
def external (run : ExactRun runtime snapshot localState) : ReduceState :=
  snapshot.orders.foldl (recordExternalRow runtime snapshot) run.escalated

variable (run : ExactRun runtime snapshot localState)
include run

theorem external_tables : SameTables run.escalated (alertDurableExternals run.external) := by
  have hRows := recordExternalRows_tables runtime snapshot snapshot.orders run.escalated
  exact ⟨hRows.orders, hRows.cards, hRows.reservations, hRows.consumed, hRows.commands⟩

theorem exact_orders :
    List.Forall₂ (fun before after =>
      RowsEffect before (rowsFor before snapshot.orders) after)
      localState.executionOrders run.exact.orders := by
  have hKeyed := classified_keyed snapshot localState
  have hRows := exactRows_orders hKeyed run.exactRows
  rwa [classifyLocalOrders_orders] at hRows

theorem exact_keyed : OrdersKeyed run.exact.orders :=
  localState.ordersKeyed'.of_same (run.exact_orders.imp (fun _ _ hRows => hRows.same))

end ExactRun

namespace PositionedRun

variable {runtime : Runtime} {snapshot : AccountBrokerSnapshot}
  {localState : AccountLocalState}

variable (run : PositionedRun runtime snapshot localState)
include run

theorem holdingsFrame : HoldingsFrame (alertDurableExternals run.external) run.positioned :=
  reconcileHoldings_frame run.holdings

theorem positioned_orders : run.positioned.orders = run.escalated.orders :=
  run.holdingsFrame.orders.trans run.external_tables.orders

theorem positioned_reservations : run.positioned.reservations = localState.capitalReservations := by
  have hClassified :
      (classifyLocalOrders snapshot (start localState)).reservations =
        localState.capitalReservations :=
    foldl_frame reservations (fun _ _ _ => rfl)
  have hExact : run.exact.reservations = localState.capitalReservations := by
    refine foldlM_invariant
      (fun (state : ReduceState) => state.reservations = localState.capitalReservations)
      hClassified ?_ run.exactRows
    intro state row next _ hState hStep
    rcases reconcileExactRow_cases hStep with ⟨_, rfl⟩ | ⟨exact, applied, hRow⟩
    · exact hState
    · rw [hRow.reservations]
      exact hState
  have hRetained : run.retained.reservations = run.exact.reservations :=
    (retainCandidates_frame runtime.config snapshot.orders run.exact).2.1
  have hEscalated : run.escalated.reservations = run.retained.reservations :=
    (escalateUncorrelated_frame snapshot run.retained).2.1
  rw [run.holdingsFrame.reservations, run.external_tables.reservations, hEscalated, hRetained,
    hExact]

theorem positioned_recovery :
    List.Forall₂ RecoveryUpdate run.exact.orders run.positioned.orders := by
  have hRetained := retainCandidates_orders runtime.config snapshot.orders run.exact_keyed
  have hEscalated := escalateUncorrelated_orders snapshot run.retained
  rw [run.positioned_orders]
  refine forall₂_comp ?_ hRetained hEscalated
  intro before between after hFirst hRest
  exact hFirst.trans hRest

end PositionedRun

namespace ReducerRun

variable {runtime : Runtime} {snapshot : AccountBrokerSnapshot}
  {localState : AccountLocalState} {final : ReduceState}

variable (run : ReducerRun runtime snapshot localState final)
include run

theorem final_orders : final.orders = run.observed.orders := by
  exact (congrArg orders run.final_eq).trans
    (recordOrphans_frame run.orphans).2.1

theorem final_cards : final.cards = run.positioned.cards := by
  have hOrphans : final.cards = run.observed.cards :=
    (congrArg cards run.final_eq).trans (recordOrphans_frame run.orphans).1
  exact hOrphans.trans (recordAbsences_frame run.absences).1

theorem final_externals : final.externals = run.external.externals := by
  have hOrphans : final.externals = run.observed.externals :=
    (congrArg externals run.final_eq).trans (recordOrphans_frame run.orphans).2.2.1
  exact hOrphans.trans
    ((recordAbsences_frame run.absences).2.2.1.trans run.holdingsFrame.externals)

theorem orphaned_commands : run.orphaned.commands = [] := by
  have hClassified :
      (classifyLocalOrders snapshot (start localState)).commands = [] :=
    foldl_frame commands (fun _ _ _ => rfl)
  have hExact : run.exact.commands = [] := by
    refine foldlM_invariant (fun (state : ReduceState) => state.commands = []) hClassified ?_
      run.exactRows
    intro state row next _ hState hStep
    rcases reconcileExactRow_cases hStep with ⟨_, rfl⟩ | ⟨exact, applied, hRow⟩
    · exact hState
    · rw [hRow.commands]
      exact hState
  have hRetained : run.retained.commands = [] :=
    (retainCandidates_frame runtime.config snapshot.orders run.exact).2.2.2.trans hExact
  have hEscalated : run.escalated.commands = [] :=
    (escalateUncorrelated_frame snapshot run.retained).2.2.2.2.trans hRetained
  have hPositioned : run.positioned.commands = [] :=
    run.holdingsFrame.commands.trans (run.external_tables.commands.trans hEscalated)
  have hObserved : run.observed.commands = [] :=
    (recordAbsences_frame run.absences).2.2.2.trans hPositioned
  exact (recordOrphans_frame run.orphans).2.2.2.trans hObserved

/-- Every command of the run is the decision of one of its final cards. -/
theorem mem_final_commands {command : ReconciliationCommand} (h : command ∈ final.commands) :
    ∃ card ∈ final.cards, command ∈ emergencyCommands snapshot card.symbol
      (decideEmergencySell snapshot card.symbol final.orders) := by
  have hCommands : command ∈
      (decideEmergencySells snapshot (alertLiveWithoutReservation run.orphaned)).commands :=
    (congrArg commands run.final_eq) ▸ h
  have hCards : final.cards = run.orphaned.cards := by
    rw [congrArg cards run.final_eq]
    rfl
  have hOrders : final.orders = run.orphaned.orders := by
    rw [congrArg orders run.final_eq]
    rfl
  rcases List.mem_append.mp hCommands with hOld | hNew
  · have hNone : command ∈ run.orphaned.commands := hOld
    rw [run.orphaned_commands] at hNone
    cases hNone
  · obtain ⟨card, hCard, hCommand⟩ := List.mem_flatMap.mp hNew
    refine ⟨card, ?_, ?_⟩
    · rw [hCards]
      exact (List.mem_filter.mp hCard).1
    · rw [hOrders]
      exact hCommand

theorem quiet_orders : List.Forall₂ QuietUpdate run.exact.orders final.orders := by
  have hObserved := recordAbsences_orders run.absences
  rw [run.final_orders]
  refine forall₂_comp ?_ run.positioned_recovery hObserved
  intro before between after hRecovery hQuiet
  exact hRecovery.quiet.trans hQuiet

end ReducerRun

/-- The fate of one order over a whole run: its exact rows, one after the other,
and then updates that leave status and quantities alone. -/
def OrderFate (snapshot : AccountBrokerSnapshot) (before after : ExecutionOrderRecord) : Prop :=
  ∃ middle, RowsEffect before (rowsFor before snapshot.orders) middle ∧ QuietUpdate middle after

theorem OrderFate.same (h : OrderFate snapshot before after) : SameOrder before after := by
  obtain ⟨middle, hRows, hQuiet⟩ := h
  exact hRows.same.trans hQuiet.same

theorem OrderFate.status (h : OrderFate snapshot before after) :
    after.status = (lifecycleAfter before snapshot.orders).status := by
  obtain ⟨middle, hRows, hQuiet⟩ := h
  rw [hQuiet.status]
  exact congrArg Lifecycle.status hRows.lifecycle

theorem orders_evolve (h : reduceLocalState runtime snapshot localState = .ok final) :
    List.Forall₂ (OrderFate snapshot) localState.executionOrders final.orders := by
  obtain ⟨run⟩ := nonempty_reducerRun h
  refine forall₂_comp ?_ run.exact_orders run.quiet_orders
  intro before middle after hRows hQuiet
  exact ⟨middle, hRows, hQuiet⟩

/-! ## Cards through the classification and exact loops -/

/-- The card table of a state, as a function. -/
def cardIn (state : ReduceState) (key : CardKey) : Option TradeCardState :=
  lookup cardKey key state.cards

theorem cardIn_key (key : CardKey) (card : TradeCardState) (h : cardIn state key = some card) :
    card.cardKey = key :=
  lookup_key h

/-- One card write of a row relates the card tables row by row. -/
theorem CardStep.forall₂ (h : CardStep runtime snapshot state row applied cards)
    (hKeyed : Keyed cardKey state.cards) (hRefl : ∀ card, R card card)
    (hKey : ∀ card next, R card next → next.cardKey = card.cardKey)
    (hProject : ∀ (category : ReconciliationCategory) (card next : TradeCardState)
      (alerts : List ReconciliationAlert),
      projectExactOrderToCard runtime.config applied row snapshot category card =
        .ok (next, alerts) → R card next) : List.Forall₂ R state.cards cards := by
  cases h with
  | missing | unlinked => exact List.forall₂_same.mpr (fun card _ => hRefl card)
  | projected hCard hTracks hProjected =>
    rename_i card projection alerts
    have hStep := hProject _ _ _ _ hProjected
    have hLookup : lookup cardKey projection.cardKey state.cards =
        some card := by
      rw [hKey _ _ hStep, lookup_key hCard]
      exact hCard
    exact forall₂_store hKeyed hLookup hRefl hStep

section

variable (hKey : ∀ card next, R card next → next.cardKey = card.cardKey)
  (h : List.Forall₂ R cards cards')
include hKey h

theorem map_cardKey_of_forall₂ : cards'.map cardKey = cards.map cardKey := by
  induction h with
  | nil => rfl
  | cons hHead _ ih => rw [List.map_cons, List.map_cons, hKey _ _ hHead, ih]

theorem keyed_of_forall₂ (hKeyed : Keyed cardKey cards) : Keyed cardKey cards' := by
  unfold Keyed
  rw [map_cardKey_of_forall₂ hKey h]
  exact hKeyed

end

/-- A relation that every card write before the holdings part respects holds
between the local cards and the cards the exact loop leaves. -/
theorem ExactRun.exact_cards (run : ExactRun runtime snapshot localState)
    (hRefl : ∀ card, R card card) (hTrans : ∀ a b c, R a b → R b c → R a c)
    (hKey : ∀ card next, R card next → next.cardKey = card.cardKey)
    (hLocal : ∀ (order : ExecutionOrderRecord) (category : ReconciliationCategory)
      (card : TradeCardState),
      R card (projectLocalOrder snapshot.observedAt order category card))
    (hProject : ∀ (order : ExecutionOrderRecord) (row : BrokerOrderStatusSnapshot)
      (category : ReconciliationCategory) (card next : TradeCardState)
      (alerts : List ReconciliationAlert),
      projectExactOrderToCard runtime.config order row snapshot category card =
        .ok (next, alerts) → R card next) : List.Forall₂ R localState.cards run.exact.cards := by
  have hSame : ∀ cards : List TradeCardState, List.Forall₂ R cards cards :=
    fun cards => List.forall₂_same.mpr (fun card _ => hRefl card)
  have hClassified : List.Forall₂ R localState.cards
      (classifyLocalOrders snapshot (start localState)).cards := by
    refine foldl_invariant
      (fun (state : ReduceState) => List.Forall₂ R localState.cards state.cards)
      (hSame localState.cards) ?_
    intro state order _ hState
    have hKeyed := keyed_of_forall₂ hKey hState localState.cardsKeyed
    unfold classifyLocalOrder
    dsimp only
    split
    · exact hState
    · rename_i card hCard
      have hStep := hLocal order (classifyExecutionOrder order
        (lookup cardKey (orderKey order) state.cards)) card
      refine forall₂_comp hTrans hState (forall₂_store hKeyed ?_ hRefl hStep)
      rw [hKey _ _ hStep, lookup_key hCard]
      exact hCard
  refine foldlM_invariant
    (fun (state : ReduceState) => List.Forall₂ R localState.cards state.cards) hClassified ?_
      run.exactRows
  intro state row next _ hState hStep
  rcases reconcileExactRow_cases hStep with ⟨_, rfl⟩ | ⟨exact, applied, hRow⟩
  · exact hState
  · have hKeyed := keyed_of_forall₂ hKey hState localState.cardsKeyed
    exact forall₂_comp hTrans hState
      (hRow.cards.forall₂ hKeyed hRefl hKey (hProject applied row))

/-! ## The plan reproduces the final tables -/

section Plan

variable {α κ : Type} [DecidableEq α] [DecidableEq κ] {key : α → κ}

theorem mem_changedRows {original final : List α} {row : α}
    (h : row ∈ changedRows key original final) :
    row ∈ final ∧ ∃ old, lookup key (key row) original = some old ∧ row ≠ old := by
  obtain ⟨hMem, hChanged⟩ := List.mem_filter.mp h
  refine ⟨hMem, ?_⟩
  cases hOld : lookup key (key row) original with
  | none => simp [hOld] at hChanged
  | some old => exact ⟨old, rfl, by simpa [hOld] using hChanged⟩

/-- A row of the final table is found again through the updates. -/
theorem updatedRow_changedRows {original final : List α} (hFinal : Keyed key final)
    {old row : α} (hOld : lookup key (key row) original = some old) (hRow : row ∈ final) :
    updatedRow key (changedRows key original final) old = row := by
  have hKey : key old = key row := lookup_key hOld
  unfold updatedRow
  rw [hKey]
  by_cases hSame : row = old
  · have hNone : lookup key (key row) (changedRows key original final) = none := by
      rw [lookup_eq_none_iff]
      intro hMem
      obtain ⟨other, hOther, hOtherKey⟩ := List.mem_map.mp hMem
      obtain ⟨hOtherFinal, before, hBefore, hNe⟩ := mem_changedRows hOther
      have hEq := hFinal.eq_of_mem hOtherFinal hRow hOtherKey
      rw [hOtherKey, hOld] at hBefore
      cases hBefore
      exact hNe (hEq.trans hSame)
    rw [hNone, hSame]
    rfl
  · have hMem : row ∈ changedRows key original final := by
      refine List.mem_filter.mpr ⟨hRow, ?_⟩
      simp [hOld, hSame]
    have hKeyed : Keyed key (changedRows key original final) :=
      List.Nodup.sublist (List.Sublist.map key List.filter_sublist) hFinal
    rw [hKeyed.lookup_of_mem hMem]
    rfl

/-- A table whose keys did not change is the original with its updates. -/
theorem map_updatedRow {original final : List α} (hOriginal : Keyed key original)
    (hKeys : final.map key = original.map key) :
    original.map (updatedRow key (changedRows key original final)) = final := by
  have hFinal : Keyed key final := by
    unfold Keyed
    rw [hKeys]
    exact hOriginal
  have hPairs : ∀ (xs ys : List α), (∀ x ∈ xs, x ∈ original) → (∀ y ∈ ys, y ∈ final) →
      ys.map key = xs.map key →
      xs.map (updatedRow key (changedRows key original final)) = ys := by
    intro xs
    induction xs with
    | nil =>
      intro ys _ _ hNil
      rw [List.map_nil, List.map_eq_nil_iff] at hNil
      rw [hNil]
      rfl
    | cons x xs ih =>
      intro ys hxs hys hCons
      cases ys with
      | nil => simp at hCons
      | cons y ys =>
        simp only [List.map_cons, List.cons.injEq] at hCons
        have hOld : lookup key (key y) original = some x := by
          rw [hCons.1]
          exact hOriginal.lookup_of_mem (hxs x List.mem_cons_self)
        rw [List.map_cons, updatedRow_changedRows hFinal hOld (hys y List.mem_cons_self),
          ih ys (fun z hz => hxs z (List.mem_cons_of_mem x hz))
            (fun z hz => hys z (List.mem_cons_of_mem y hz)) hCons.2]
  exact hPairs original final (fun _ hx => hx) (fun _ hy => hy) hKeys

omit [DecidableEq α] [DecidableEq κ] in
theorem map_append_split {original final : List α} {fresh : List κ}
    (hKeys : final.map key = original.map key ++ fresh) :
    ∃ evolved created, final = evolved ++ created ∧ evolved.map key = original.map key ∧
      created.map key = fresh := by
  obtain ⟨evolved, created, rfl, hEvolved, hCreated⟩ := List.map_eq_append_iff.mp hKeys
  exact ⟨evolved, created, rfl, hEvolved, hCreated⟩

/-- A table that grew at its end is the original with its updates, then the new rows. -/
theorem map_updatedRow_append {original final : List α} {fresh : List κ}
    (hFinal : Keyed key final) (hKeys : final.map key = original.map key ++ fresh) :
    original.map (updatedRow key (changedRows key original final)) ++
      createdRows key original final = final := by
  obtain ⟨evolved, created, rfl, hEvolved, rfl⟩ := map_append_split hKeys
  have hDisjoint : ∀ row ∈ created, key row ∉ original.map key := by
    intro row hRow hOld
    have hNodup : (evolved.map key ++ created.map key).Nodup := by
      rw [← List.map_append]
      exact hFinal
    rw [hEvolved] at hNodup
    exact List.disjoint_of_nodup_append hNodup hOld (List.mem_map_of_mem hRow)
  have hOriginal : Keyed key original := by
    unfold Keyed
    rw [← hEvolved]
    exact List.Nodup.sublist (List.Sublist.map key (List.sublist_append_left _ _)) hFinal
  have hCreated : createdRows key original (evolved ++ created) = created := by
    have hOldRows : createdRows key original evolved = [] := by
      refine List.filter_eq_nil_iff.mpr ?_
      intro row hRow hNone
      rw [Option.isNone_iff_eq_none, lookup_eq_none_iff, ← hEvolved] at hNone
      exact hNone (List.mem_map_of_mem hRow)
    have hNewRows : createdRows key original created = created := by
      refine List.filter_eq_self.mpr ?_
      intro row hRow
      rw [Option.isNone_iff_eq_none, lookup_eq_none_iff]
      exact hDisjoint row hRow
    have hSplit : createdRows key original (evolved ++ created) =
        createdRows key original evolved ++ createdRows key original created :=
      List.filter_append evolved created
    rw [hSplit, hOldRows, hNewRows, List.nil_append]
  have hChanged : changedRows key original (evolved ++ created) =
      changedRows key original evolved := by
    have hSplit : changedRows key original (evolved ++ created) =
        changedRows key original evolved ++ changedRows key original created :=
      List.filter_append evolved created
    have hNone : changedRows key original created = [] := by
      refine List.filter_eq_nil_iff.mpr ?_
      intro row hRow
      simp [lookup_eq_none_iff.mpr (hDisjoint row hRow)]
    rw [hSplit, hNone, List.append_nil]
  rw [hCreated, hChanged, map_updatedRow hOriginal hEvolved]

end Plan

theorem reducedOrders_planOf (h : reduceLocalState runtime snapshot localState = .ok final) :
    (planOf snapshot localState final).reducedOrders localState = final.orders := by
  have hSame := (orders_evolve h).imp (fun _ _ hFate => hFate.same)
  exact map_updatedRow localState.ordersKeyed (map_clientOrderId_of_same hSame)

theorem reduceAccountReconciliation_ok :
    reduceAccountReconciliation runtime snapshot localState = .ok plan ↔
      ∃ final, reduceLocalState runtime snapshot localState = .ok final ∧
        planOf snapshot localState final = plan :=
  map_eq_ok

/-- A plan update is the final version of the local order with its client id. -/
theorem fate_of_orderUpdate (h : reduceAccountReconciliation runtime snapshot localState = .ok plan)
    {old new : ExecutionOrderRecord} (hOld : old ∈ localState.executionOrders)
    (hNew : new ∈ plan.orderUpdates) (hClient : new.clientOrderId = old.clientOrderId) :
    OrderFate snapshot old new := by
  obtain ⟨final, hFinal, rfl⟩ := reduceAccountReconciliation_ok.mp h
  have hMem := (mem_changedRows hNew).1
  obtain ⟨before, hBefore, hFate⟩ := forall₂_mem_right (orders_evolve hFinal) hMem
  have hEq : before = old := by
    refine localState.ordersKeyed.eq_of_mem hBefore hOld ?_
    rw [← hClient, hFate.same.clientOrderId]
  rw [← hEq]
  exact hFate

end QuantApp.Services
