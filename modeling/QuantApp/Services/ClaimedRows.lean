import QuantApp.Services.ReducerRun

/-!
# Which rows local orders claim

A row is claimed by an EXACT order that carries its id, or retained as the
heuristic candidate of an ambiguous submission.  Both happen before any row
becomes an external order.  `claimedBrokerIds` computes the claimed ids from
the snapshot and the stored orders alone, and `ExactRun.retained_consumed`
shows that the reducer's `consumed_broker_ids` are these.
-/

namespace QuantApp.Services

open Core Verified
open ExecutionOrderRecord (clientOrderId)

variable {rows : List BrokerOrderStatusSnapshot} {orders xs ys : List ExecutionOrderRecord}
  {runtime : Runtime} {snapshot : AccountBrokerSnapshot} {a b : ReduceState}

/-- The ids of the rows that an EXACT order claims, in row order. -/
def exactlyClaimedIds (rows : List BrokerOrderStatusSnapshot)
    (orders : List ExecutionOrderRecord) : List String :=
  (rows.filter (fun row => (exactOrderFor orders row.brokerOrderId).isSome)).map
    (·.brokerOrderId)

/-- The state in which the heuristic loop finds the stored orders. -/
def matchedState (rows : List BrokerOrderStatusSnapshot) (orders : List ExecutionOrderRecord) :
    ReduceState :=
  { cards := []
    orders := orders
    reservations := []
    externals := []
    consumedBrokerIds := exactlyClaimedIds rows orders }

/-- The ids of the rows that are claimed exactly or retained as candidates. -/
def claimedBrokerIds (config : ExecutionConfig) (rows : List BrokerOrderStatusSnapshot)
    (orders : List ExecutionOrderRecord) : List String :=
  (rows.foldl (retainCandidateRow config) (matchedState rows orders)).consumedBrokerIds

/-! ## The exact loop -/

theorem exactOrderFor_isSome_iff {brokerOrderId : String} :
    (exactOrderFor orders brokerOrderId).isSome = true ↔
      brokerOrderId ∈ (orders.filter hasExactId).map ExecutionOrderRecord.brokerOrderId := by
  unfold exactOrderFor
  rw [← not_iff_not, ← lookup_eq_none_iff, Bool.not_eq_true, Option.isSome_eq_false_iff,
    Option.isNone_iff_eq_none]

theorem exactOrderFor_isSome_of_same (h : List.Forall₂ SameOrder xs ys) (brokerOrderId : String) :
    (exactOrderFor ys brokerOrderId).isSome = (exactOrderFor xs brokerOrderId).isSome := by
  rw [Bool.eq_iff_iff, exactOrderFor_isSome_iff, exactOrderFor_isSome_iff, map_exactIds_of_same h]

/-- The exact loop consumes the ids of the rows it matches. -/
theorem exactRows_consumed {state final : ReduceState} (hKeyed : OrdersKeyed state.orders)
    (h : rows.foldlM (reconcileExactRow runtime snapshot) state = .ok final) :
    final.consumedBrokerIds =
        state.consumedBrokerIds ++ exactlyClaimedIds rows state.orders ∧
      final.candidateIds = state.candidateIds := by
  induction rows generalizing state with
  | nil =>
    cases h
    exact ⟨(List.append_nil _).symm, rfl⟩
  | cons row rows ih =>
    obtain ⟨next, hRow, hRows⟩ := foldlM_cons_ok.mp h
    have hSame : List.Forall₂ SameOrder state.orders next.orders :=
      (reconcileExactRow_orders hKeyed hRow).imp (fun _ _ hEffect => hEffect.same)
    obtain ⟨hConsumed, hCandidates⟩ := ih (hKeyed.of_same hSame) hRows
    have hTail : exactlyClaimedIds rows next.orders = exactlyClaimedIds rows state.orders := by
      unfold exactlyClaimedIds
      simp only [exactOrderFor_isSome_of_same hSame]
    rw [hConsumed, hCandidates, hTail]
    rcases reconcileExactRow_cases hRow with ⟨hNone, rfl⟩ | ⟨exact, applied, hStep⟩
    · have hHead : exactlyClaimedIds (row :: rows) next.orders =
          exactlyClaimedIds rows next.orders := by
        simp [exactlyClaimedIds, hNone]
      rw [hHead]
      exact ⟨rfl, rfl⟩
    · have hHead : exactlyClaimedIds (row :: rows) state.orders =
          row.brokerOrderId :: exactlyClaimedIds rows state.orders := by
        simp [exactlyClaimedIds, hStep.found]
      rw [hHead, hStep.consumed, hStep.candidateIds, List.append_assoc]
      exact ⟨rfl, rfl⟩

/-- Rows of exact ids leave ambiguous submissions as they are, and make none. -/
theorem RowsEffect.ambiguous {before after : ExecutionOrderRecord}
    (h : RowsEffect before (rowsFor before rows) after) :
    isAmbiguousSubmission after = isAmbiguousSubmission before ∧
      (isAmbiguousSubmission before = true → after = before) := by
  by_cases hExact : hasExactId before = true
  · have hIdentity : before.brokerIdentityStatus = .exact_ := by
      simp only [hasExactId, Bool.and_eq_true, decide_eq_true_eq] at hExact
      exact hExact.1
    have hBefore : isAmbiguousSubmission before = false := by
      simp [isAmbiguousSubmission, hIdentity]
    have hAfter : isAmbiguousSubmission after = false := by
      simp [isAmbiguousSubmission, h.same.brokerIdentityStatus, hIdentity]
    rw [hBefore, hAfter]
    exact ⟨rfl, fun hTrue => by cases hTrue⟩
  · have hNone : rowsFor before rows = [] := by
      simp [rowsFor, hExact]
    rw [hNone] at h
    cases h
    exact ⟨rfl, fun _ => rfl⟩

theorem filter_ambiguous_of_rowsEffect
    (h : List.Forall₂ (fun before after => RowsEffect before (rowsFor before rows) after)
      xs ys) : ys.filter isAmbiguousSubmission = xs.filter isAmbiguousSubmission := by
  induction h with
  | nil => rfl
  | @cons x y xs ys hHead _ ih =>
    obtain ⟨hSame, hFixed⟩ := hHead.ambiguous
    by_cases hAmbiguous : isAmbiguousSubmission x = true
    · rw [hFixed hAmbiguous, List.filter_cons_of_pos hAmbiguous,
        List.filter_cons_of_pos hAmbiguous, ih]
    · have hAmbiguous' : ¬ isAmbiguousSubmission y = true := by rw [hSame]; exact hAmbiguous
      rw [List.filter_cons_of_neg hAmbiguous, List.filter_cons_of_neg hAmbiguous', ih]

/-! ## The heuristic loop reads ambiguous submissions only -/

/-- Two states the heuristic loop cannot tell apart. -/
structure SameAmbiguity (a b : ReduceState) : Prop where
  keyed : OrdersKeyed a.orders
  keyed' : OrdersKeyed b.orders
  ambiguous : a.orders.filter isAmbiguousSubmission = b.orders.filter isAmbiguousSubmission
  consumed : a.consumedBrokerIds = b.consumedBrokerIds
  candidates : a.candidateIds = b.candidateIds

theorem candidatesFor_eq (config : ExecutionConfig) (state : ReduceState)
    (row : BrokerOrderStatusSnapshot) :
    candidatesFor config state row = (state.orders.filter isAmbiguousSubmission).filter
      (fun order => !(state.candidateIds.contains order.clientOrderId) &&
        heuristicCandidate config row order) := by
  unfold candidatesFor
  rw [List.filter_filter]
  apply List.filter_congr
  intro order _
  rw [Bool.and_assoc, Bool.and_comm]

theorem isAmbiguousSubmission_retained (order : ExecutionOrderRecord) (brokerOrderId : String) :
    isAmbiguousSubmission (retainedCandidate order brokerOrderId) =
      isAmbiguousSubmission order := by
  have hQuiet := (recoveryUpdate_retainedCandidate order brokerOrderId).quiet
  unfold isAmbiguousSubmission
  rw [hQuiet.same.brokerIdentityStatus, hQuiet.status]

theorem filter_store_ambiguous {old new : ExecutionOrderRecord} (hKeyed : OrdersKeyed orders)
    (hOld : old ∈ orders) (hClient : new.clientOrderId = old.clientOrderId)
    (hAmbiguous : isAmbiguousSubmission old = true)
    (hAmbiguous' : isAmbiguousSubmission new = true) :
    (store clientOrderId new orders).filter isAmbiguousSubmission =
      store clientOrderId new
        (orders.filter isAmbiguousSubmission) := by
  unfold store
  rw [List.filter_map]
  congr 1
  apply List.filter_congr
  intro order hOrder
  rw [Function.comp_apply]
  by_cases hSame : order.clientOrderId = new.clientOrderId
  · have hEq : order = old := hKeyed.client.eq_of_mem hOrder hOld (hSame.trans hClient)
    rw [if_pos hSame, hAmbiguous', hEq, hAmbiguous]
  · rw [if_neg hSame]

theorem SameAmbiguity.step (h : SameAmbiguity a b) (config : ExecutionConfig)
    (row : BrokerOrderStatusSnapshot) :
    SameAmbiguity (retainCandidateRow config a row) (retainCandidateRow config b row) := by
  have hCandidates : candidatesFor config a row = candidatesFor config b row := by
    rw [candidatesFor_eq, candidatesFor_eq, h.ambiguous, h.candidates]
  have hKeyed := h.keyed.of_same ((retainCandidateRow_orders config h.keyed row).imp
    (fun _ _ hUpdate => hUpdate.quiet.same))
  have hKeyed' := h.keyed'.of_same ((retainCandidateRow_orders config h.keyed' row).imp
    (fun _ _ hUpdate => hUpdate.quiet.same))
  by_cases hConsumed : row.brokerOrderId ∈ a.consumedBrokerIds
  · have hConsumed' : row.brokerOrderId ∈ b.consumedBrokerIds := by
      rw [← h.consumed]
      exact hConsumed
    unfold retainCandidateRow
    rw [if_pos hConsumed, if_pos hConsumed']
    exact h
  · have hConsumed' : ¬ row.brokerOrderId ∈ b.consumedBrokerIds := by
      rw [← h.consumed]
      exact hConsumed
    cases hSorted : (candidatesFor config a row).insertionSort candidateBefore with
    | nil =>
      have hSorted' := hSorted
      rw [hCandidates] at hSorted'
      unfold retainCandidateRow
      rw [if_neg hConsumed, if_neg hConsumed']
      simp only [hSorted, hSorted']
      exact h
    | cons candidate =>
      have hSorted' := hSorted
      rw [hCandidates] at hSorted'
      obtain ⟨hMem, hAmbiguous⟩ := candidate_mem hSorted
      have hMem' := (candidate_mem hSorted').1
      have hClient :
          (retainedCandidate candidate row.brokerOrderId).clientOrderId =
            candidate.clientOrderId :=
        (recoveryUpdate_retainedCandidate candidate row.brokerOrderId).quiet.same.clientOrderId
      have hRetained := (isAmbiguousSubmission_retained candidate row.brokerOrderId).trans
        hAmbiguous
      unfold retainCandidateRow at hKeyed hKeyed' ⊢
      rw [if_neg hConsumed] at hKeyed ⊢
      rw [if_neg hConsumed'] at hKeyed' ⊢
      simp only [hSorted, hSorted'] at hKeyed hKeyed' ⊢
      refine
        { keyed := hKeyed
          keyed' := hKeyed'
          ambiguous := ?_
          consumed := ?_
          candidates := ?_ }
      · show (store clientOrderId _ a.orders).filter _ = (store clientOrderId _ b.orders).filter _
        rw [filter_store_ambiguous h.keyed hMem hClient hAmbiguous hRetained,
          filter_store_ambiguous h.keyed' hMem' hClient hAmbiguous hRetained, h.ambiguous]
      · show a.consumedBrokerIds ++ _ = b.consumedBrokerIds ++ _
        rw [h.consumed]
      · show a.candidateIds ++ _ = b.candidateIds ++ _
        rw [h.candidates]

theorem SameAmbiguity.run (h : SameAmbiguity a b) (config : ExecutionConfig)
    (rows : List BrokerOrderStatusSnapshot) :
    SameAmbiguity (rows.foldl (retainCandidateRow config) a)
      (rows.foldl (retainCandidateRow config) b) := by
  induction rows generalizing a b with
  | nil => exact h
  | cons row rows ih => exact ih (h.step config row)

/-- The reducer consumes the claimed ids, whatever the exact loop did. -/
theorem ExactRun.retained_consumed {localState : AccountLocalState}
    (run : ExactRun runtime snapshot localState) :
    run.retained.consumedBrokerIds =
      claimedBrokerIds runtime.config snapshot.orders localState.executionOrders := by
  have hKeyed := classified_keyed snapshot localState
  obtain ⟨hConsumed, hCandidates⟩ := exactRows_consumed hKeyed run.exactRows
  have hStartConsumed :
      (classifyLocalOrders snapshot (ReduceState.start localState)).consumedBrokerIds = [] :=
    foldl_frame ReduceState.consumedBrokerIds (fun _ _ _ => rfl)
  have hStartCandidates :
      (classifyLocalOrders snapshot (ReduceState.start localState)).candidateIds = [] :=
    foldl_frame ReduceState.candidateIds (fun _ _ _ => rfl)
  rw [classifyLocalOrders_orders, hStartConsumed, List.nil_append] at hConsumed
  rw [hStartCandidates] at hCandidates
  have hStart : SameAmbiguity run.exact
      (matchedState snapshot.orders localState.executionOrders) :=
    { keyed := run.exact_keyed
      keyed' := localState.ordersKeyed'
      ambiguous := filter_ambiguous_of_rowsEffect run.exact_orders
      consumed := hConsumed
      candidates := hCandidates }
  exact (hStart.run runtime.config snapshot.orders).consumed

theorem subset_foldl_retain (config : ExecutionConfig) (rows : List BrokerOrderStatusSnapshot)
    (state : ReduceState) :
    state.consumedBrokerIds ⊆ (rows.foldl (retainCandidateRow config) state).consumedBrokerIds :=
  foldl_invariant (fun (next : ReduceState) =>
    state.consumedBrokerIds ⊆ next.consumedBrokerIds) (fun _ h => h) (by
      intro next row _ hNext id hId
      unfold retainCandidateRow
      split
      · exact hNext hId
      split
      · exact hNext hId
      · exact List.mem_append.mpr (Or.inl (hNext hId)))

theorem claimed_of_exact {config : ExecutionConfig} {order : ExecutionOrderRecord}
    {row : BrokerOrderStatusSnapshot} (hOrder : order ∈ orders) (hExact : hasExactId order = true)
    (hRow : row ∈ rows) (hId : row.brokerOrderId = order.brokerOrderId) :
    order.brokerOrderId ∈ claimedBrokerIds config rows orders := by
  refine subset_foldl_retain config rows (matchedState rows orders) ?_
  refine List.mem_map.mpr ⟨row, List.mem_filter.mpr ⟨hRow, ?_⟩, hId⟩
  rw [exactOrderFor_isSome_iff, hId]
  exact List.mem_map_of_mem (List.mem_filter.mpr ⟨hOrder, hExact⟩)

end QuantApp.Services
