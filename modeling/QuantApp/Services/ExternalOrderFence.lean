import QuantApp.Services.ClaimedRows

/-!
# The fence of unowned broker orders

`require_no_active_unowned_external_order` of
`src/services/discovered_external_order_repository.py`, and which rows of a
snapshot it fences after a reconciliation pass.

The external-order loop treats every broker id on its own: the stored order of
an id, if any, sees the unclaimed rows of that id in turn
(`lookup_recordExternalRows`).  An order that was dismissed once stays
dismissed, so `unclaimedRow_fenced_iff` has to ask for an order of the symbol
that no observation, stored or listed, has dismissed.
-/

namespace QuantApp.Services

open Core Verified
open DiscoveredExternalOrder (brokerOrderId)

variable {row : BrokerOrderStatusSnapshot} {snapshot : AccountBrokerSnapshot}
  {symbol environment accountNo : String} {runtime : Runtime}
  {rows : List BrokerOrderStatusSnapshot} {external : DiscoveredExternalOrder}
  {externals : List DiscoveredExternalOrder} {stored : Option DiscoveredExternalOrder}

/-! ## The execution-boundary check -/

/-- `repr` of a text without quotes and backslashes. -/
def pythonRepr (text : String) : String := "'" ++ text ++ "'"

/-- `terminal_statuses` of the fence. -/
def isBrokerTerminal (status : ExecutionOrderStatus) : Bool :=
  status = .filled || status = .cancelled || status = .expired || status = .rejected

/-- A row of the fence's first query that is still active. -/
def isActiveUnowned (environment accountNo symbol : String) (external : DiscoveredExternalOrder) :
    Bool :=
  external.environment = environment && external.accountNo = accountNo &&
    external.symbol = symbol && external.disposition = .discoveredUnowned &&
    !(isBrokerTerminal external.brokerStatus)

/-- A row of `find_active_unlinked_adopted_order`. -/
def isActiveAdopted (environment accountNo symbol allowedClientOrderId : String)
    (order : ExecutionOrderRecord) : Bool :=
  order.environment = environment && order.accountNo = accountNo && order.symbol = symbol &&
    order.origin = .userAdopted && !order.status.isTerminal &&
    !(strip allowedClientOrderId ≠ "" && order.clientOrderId = strip allowedClientOrderId)

/-- `ActiveExternalOrderFenceError`. -/
def fenceError (message : String) : Raised :=
  { cls := .activeExternalOrderFence, message := message }

/-- `require_no_active_unowned_external_order` over the two tables it reads. -/
def requireNoActiveUnownedExternalOrder (externals : List DiscoveredExternalOrder)
    (executionOrders : List ExecutionOrderRecord) (environment accountNo symbol : String)
    (allowedAdoptedClientOrderId : String := "") : Except Raised Unit :=
  let scope := environment ++ "/" ++ accountNo ++ "/" ++ symbol
  match externals.find? (isActiveUnowned environment accountNo symbol) with
  | some active =>
    .error (fenceError (scope ++ " is fenced by active unowned broker_order_id=" ++
      pythonRepr active.brokerOrderId ++ " (external_order_id=" ++
      pythonRepr active.externalOrderId ++ "); wait for a terminal broker observation or " ++
      "explicitly resolve the order"))
  | none =>
    match executionOrders.find?
        (isActiveAdopted environment accountNo symbol allowedAdoptedClientOrderId) with
    | some adopted =>
      .error (fenceError (scope ++ " is fenced by active adopted client_order_id=" ++
        pythonRepr adopted.clientOrderId ++ " (broker_order_id=" ++
        pythonRepr adopted.brokerOrderId ++ "); wait for terminal reconciliation or " ++
        "explicitly resolve/link that exact order"))
    | none => .ok ()

/-- The fence rejects a mutation of the symbol. -/
def FenceRejects (externals : List DiscoveredExternalOrder)
    (executionOrders : List ExecutionOrderRecord) (environment accountNo symbol : String) :
    Prop :=
  ∃ raised, requireNoActiveUnownedExternalOrder externals executionOrders environment accountNo
    symbol = .error raised ∧ raised.cls = .activeExternalOrderFence

theorem fenceRejects_iff {executionOrders : List ExecutionOrderRecord} :
    FenceRejects externals executionOrders environment accountNo symbol ↔
      (∃ external ∈ externals, isActiveUnowned environment accountNo symbol external = true) ∨
        ∃ order ∈ executionOrders,
          isActiveAdopted environment accountNo symbol "" order = true := by
  unfold FenceRejects requireNoActiveUnownedExternalOrder
  cases hExternal : externals.find? (isActiveUnowned environment accountNo symbol) with
  | some active =>
    have hActive : isActiveUnowned environment accountNo symbol active = true :=
      List.find?_some hExternal
    constructor
    · intro _
      exact Or.inl ⟨active, List.mem_of_find?_eq_some hExternal, hActive⟩
    · intro _
      exact ⟨_, rfl, rfl⟩
  | none =>
    have hNone := List.find?_eq_none.mp hExternal
    cases hAdopted : executionOrders.find? (isActiveAdopted environment accountNo symbol "") with
    | some adopted =>
      have hActive : isActiveAdopted environment accountNo symbol "" adopted = true :=
        List.find?_some hAdopted
      constructor
      · intro _
        exact Or.inr ⟨adopted, List.mem_of_find?_eq_some hAdopted, hActive⟩
      · intro _
        exact ⟨_, rfl, rfl⟩
    | none =>
      have hNoneAdopted := List.find?_eq_none.mp hAdopted
      constructor
      · rintro ⟨raised, hRaised, _⟩
        cases hRaised
      · rintro (⟨external, hMem, hActive⟩ | ⟨order, hMem, hActive⟩)
        · exact absurd hActive (hNone external hMem)
        · exact absurd hActive (hNoneAdopted order hMem)

/-! ## One broker id in the external-order loop -/

/-- The external order of an id after one of its unclaimed rows. -/
def externalAfterRow (runtime : Runtime) (snapshot : AccountBrokerSnapshot)
    (row : BrokerOrderStatusSnapshot) : Option DiscoveredExternalOrder → DiscoveredExternalOrder
  | none => discoveredExternal runtime snapshot row
  | some external => observeExternal external row

/-- The row has an id that nothing claims. -/
def isUnclaimed (claimed : List String) (row : BrokerOrderStatusSnapshot) : Bool :=
  row.brokerOrderId ≠ "" && !(claimed.contains row.brokerOrderId)

theorem isUnclaimed_iff {claimed : List String} :
    isUnclaimed claimed row = true ↔ ¬ (row.brokerOrderId = "" ∨ row.brokerOrderId ∈ claimed) := by
  simp [isUnclaimed, not_or]

/-- The rows of one id that reach the external-order loop. -/
def unclaimedRows (claimed : List String) (brokerOrderId : String)
    (rows : List BrokerOrderStatusSnapshot) : List BrokerOrderStatusSnapshot :=
  rows.filter (fun row => row.brokerOrderId = brokerOrderId && isUnclaimed claimed row)

theorem recordExternalRow_externals (runtime : Runtime) (snapshot : AccountBrokerSnapshot)
    (state : ReduceState) (row : BrokerOrderStatusSnapshot) :
    (recordExternalRow runtime snapshot state row).externals =
      if row.brokerOrderId = "" ∨ row.brokerOrderId ∈ state.consumedBrokerIds then
        state.externals
      else
        upsert brokerOrderId row.brokerOrderId
          (externalAfterRow runtime snapshot row) state.externals := by
  unfold recordExternalRow upsert
  split
  · rfl
  · dsimp only
    cases lookup brokerOrderId row.brokerOrderId state.externals with
    | none | some => rfl

theorem externalAfterRow_brokerOrderId (found : Option DiscoveredExternalOrder) (hFound : found =
      lookup brokerOrderId row.brokerOrderId externals) :
    (externalAfterRow runtime snapshot row found).brokerOrderId = row.brokerOrderId := by
  cases found with
  | none => rfl
  | some external =>
    show external.brokerOrderId = row.brokerOrderId
    exact lookup_key hFound.symm

theorem lookup_recordExternalRows (runtime : Runtime) (snapshot : AccountBrokerSnapshot)
    (brokerOrderId : String) (rows : List BrokerOrderStatusSnapshot) (state : ReduceState) :
    lookup DiscoveredExternalOrder.brokerOrderId brokerOrderId
        (rows.foldl (recordExternalRow runtime snapshot) state).externals =
      (unclaimedRows state.consumedBrokerIds brokerOrderId rows).foldl
        (fun found row => some (externalAfterRow runtime snapshot row found))
        (lookup DiscoveredExternalOrder.brokerOrderId brokerOrderId state.externals) := by
  induction rows generalizing state with
  | nil => rfl
  | cons row rows ih =>
    have hConsumed := (recordExternalRow_tables runtime snapshot state row).consumed
    rw [List.foldl_cons, ih, hConsumed, recordExternalRow_externals]
    by_cases hSkip : row.brokerOrderId = "" ∨ row.brokerOrderId ∈ state.consumedBrokerIds
    · have hClaimed : ¬ isUnclaimed state.consumedBrokerIds row = true := fun hRow =>
        isUnclaimed_iff.mp hRow hSkip
      have hRows : unclaimedRows state.consumedBrokerIds brokerOrderId (row :: rows) =
          unclaimedRows state.consumedBrokerIds brokerOrderId rows := by
        simp [unclaimedRows, hClaimed]
      rw [if_pos hSkip, hRows]
    · have hUnclaimed : isUnclaimed state.consumedBrokerIds row = true := isUnclaimed_iff.mpr hSkip
      rw [if_neg hSkip]
      by_cases hId : row.brokerOrderId = brokerOrderId
      · have hRows : unclaimedRows state.consumedBrokerIds brokerOrderId (row :: rows) =
            row :: unclaimedRows state.consumedBrokerIds brokerOrderId rows := by
          simp [unclaimedRows, hUnclaimed, hId]
        rw [hRows, List.foldl_cons, ← hId, lookup_upsert_self externalAfterRow_brokerOrderId]
      · have hRows : unclaimedRows state.consumedBrokerIds brokerOrderId (row :: rows) =
            unclaimedRows state.consumedBrokerIds brokerOrderId rows := by
          simp [unclaimedRows, hId]
        rw [hRows, lookup_upsert_of_ne (Ne.symm hId) externalAfterRow_brokerOrderId]

theorem keyed_recordExternalRows (runtime : Runtime) (snapshot : AccountBrokerSnapshot)
    (rows : List BrokerOrderStatusSnapshot) {state : ReduceState}
    (hKeyed : Keyed brokerOrderId state.externals) :
    Keyed brokerOrderId
      (rows.foldl (recordExternalRow runtime snapshot) state).externals := by
  refine foldl_invariant (fun (next : ReduceState) =>
    Keyed brokerOrderId next.externals) hKeyed ?_
  intro next row _ hNext
  rw [recordExternalRow_externals]
  split
  · exact hNext
  · exact hNext.upsert externalAfterRow_brokerOrderId

/-! ## Which ids stay fenced -/

/-- No row of the id is terminal at the broker. -/
def NoTerminalRow (rows : List BrokerOrderStatusSnapshot) : Prop :=
  ∀ row ∈ rows, isClosedStatus row.status = false

/-- The observations of one broker id leave an active unowned order of `symbol`:
a stored order that was never dismissed, or else a first row for the symbol,
and no terminal row.  A stored status counts only while no row replaces it. -/
def StaysUnowned (snapshot : AccountBrokerSnapshot) (symbol : String)
    (stored : Option DiscoveredExternalOrder) (rows : List BrokerOrderStatusSnapshot) : Prop :=
  NoTerminalRow rows ∧
    match stored with
    | some external =>
      external.environment = snapshot.environment ∧
        external.accountNo = snapshot.accountNo ∧ external.symbol = symbol ∧
        external.disposition = .discoveredUnowned ∧
        (rows = [] → isBrokerTerminal external.brokerStatus = false)
    | none => ∃ first rest, rows = first :: rest ∧ first.symbol = symbol

theorem externalStatus_terminal (row : BrokerOrderStatusSnapshot) :
    (externalStatus row).isTerminal = isClosedStatus row.status ∧
      isBrokerTerminal (externalStatus row) = isClosedStatus row.status := by
  unfold externalStatus
  cases row.status <;> exact ⟨rfl, rfl⟩

theorem isActiveUnowned_iff :
    isActiveUnowned environment accountNo symbol external = true ↔
      external.environment = environment ∧ external.accountNo = accountNo ∧
        external.symbol = symbol ∧ external.disposition = .discoveredUnowned ∧
        isBrokerTerminal external.brokerStatus = false := by
  simp only [isActiveUnowned, Bool.and_eq_true, decide_eq_true_eq, Bool.not_eq_true', and_assoc]

/-- An observed order is still unowned when it was and the row is not terminal. -/
theorem observeExternal_disposition :
    (observeExternal external row).disposition = .discoveredUnowned ↔
      external.disposition = .discoveredUnowned ∧ isClosedStatus row.status = false := by
  unfold observeExternal
  dsimp only
  rw [(externalStatus_terminal row).1]
  by_cases hClosed : isClosedStatus row.status = true
  · by_cases hUnowned : external.disposition = .discoveredUnowned
    all_goals simp [hClosed, hUnowned]
  · simp [hClosed]

theorem noTerminalRow_cons :
    NoTerminalRow (row :: rows) ↔ isClosedStatus row.status = false ∧ NoTerminalRow rows := by
  unfold NoTerminalRow
  exact List.forall_mem_cons

/-- One more row in front: the stored order is the observed one. -/
theorem staysUnowned_cons :
    StaysUnowned snapshot symbol (some external) (row :: rows) ↔
      StaysUnowned snapshot symbol (some (observeExternal external row)) rows := by
  unfold StaysUnowned
  rw [noTerminalRow_cons]
  constructor
  · rintro ⟨⟨hOpen, hRows⟩, hEnvironment, hAccount, hSymbol, hUnowned, _⟩
    refine ⟨hRows, hEnvironment, hAccount, hSymbol,
      observeExternal_disposition.mpr ⟨hUnowned, hOpen⟩, ?_⟩
    intro _
    rw [← hOpen]
    exact (externalStatus_terminal row).2
  · rintro ⟨hRows, hEnvironment, hAccount, hSymbol, hUnowned, _⟩
    obtain ⟨hBefore, hOpen⟩ := observeExternal_disposition.mp hUnowned
    exact ⟨⟨hOpen, hRows⟩, hEnvironment, hAccount, hSymbol, hBefore, fun hNil => by cases hNil⟩

/-- A discovered order is unowned when its first row is not terminal. -/
theorem staysUnowned_discovered :
    StaysUnowned snapshot symbol none (row :: rows) ↔
      StaysUnowned snapshot symbol (some (discoveredExternal runtime snapshot row)) rows := by
  have hDisposition :
      (discoveredExternal runtime snapshot row).disposition = .discoveredUnowned ↔
        isClosedStatus row.status = false := by
    unfold discoveredExternal
    dsimp only
    rw [(externalStatus_terminal row).1]
    by_cases hClosed : isClosedStatus row.status = true
    all_goals simp [hClosed]
  unfold StaysUnowned
  rw [noTerminalRow_cons]
  constructor
  · rintro ⟨⟨hOpen, hRows⟩, first, rest, hCons, hSymbol⟩
    cases hCons
    refine ⟨hRows, rfl, rfl, hSymbol, hDisposition.mpr hOpen, ?_⟩
    intro _
    rw [← hOpen]
    exact (externalStatus_terminal row).2
  · rintro ⟨hRows, _, _, hSymbol, hUnowned, _⟩
    exact ⟨⟨hDisposition.mp hUnowned, hRows⟩, row, rows, rfl, hSymbol⟩

/-- The order an id ends with is active exactly when its observations leave it so. -/
theorem active_after_rows :
    (∃ after, rows.foldl (fun found row => some (externalAfterRow runtime snapshot row found))
        stored = some after ∧
        isActiveUnowned snapshot.environment snapshot.accountNo symbol after = true) ↔
      StaysUnowned snapshot symbol stored rows := by
  induction rows generalizing stored with
  | nil =>
    cases stored with
    | none => simp [StaysUnowned]
    | some =>
      simp only [List.foldl_nil, Option.some.injEq, exists_eq_left', isActiveUnowned_iff,
        StaysUnowned, NoTerminalRow, List.not_mem_nil, false_implies, implies_true,
        true_and, forall_const]
  | cons row rows ih =>
    rw [List.foldl_cons, ih]
    cases stored with
    | none => exact staysUnowned_discovered.symm
    | some => exact staysUnowned_cons.symm

/-! ## The fence after a run -/

/-- The claimed ids of a run's snapshot. -/
def claimedIn (runtime : Runtime) (snapshot : AccountBrokerSnapshot)
    (localState : AccountLocalState) : List String :=
  claimedBrokerIds runtime.config snapshot.orders localState.executionOrders

/-- Some broker id ends as an active unowned order of the symbol. -/
def HasActiveUnowned (runtime : Runtime) (snapshot : AccountBrokerSnapshot)
    (localState : AccountLocalState) (symbol : String) : Prop :=
  ∃ brokerOrderId, StaysUnowned snapshot symbol
    (lookup DiscoveredExternalOrder.brokerOrderId brokerOrderId localState.externalOrders)
    (unclaimedRows (claimedIn runtime snapshot localState) brokerOrderId snapshot.orders)

namespace ReducerRun

variable {runtime : Runtime} {snapshot : AccountBrokerSnapshot}
  {localState : AccountLocalState} {final : ReduceState}

variable (run : ReducerRun runtime snapshot localState final)
include run

/-- The external-order loop starts from the stored external orders. -/
theorem escalated_externals : run.escalated.externals = localState.externalOrders := by
  have hClassified :
      (classifyLocalOrders snapshot (ReduceState.start localState)).externals =
        localState.externalOrders :=
    foldl_frame ReduceState.externals (fun _ _ _ => rfl)
  have hExact : run.exact.externals = localState.externalOrders := by
    refine foldlM_invariant (fun (state : ReduceState) =>
      state.externals = localState.externalOrders) hClassified ?_ run.exactRows
    intro state row next _ hState hStep
    rcases reconcileExactRow_cases hStep with ⟨_, rfl⟩ | ⟨exact, applied, hRow⟩
    · exact hState
    · rw [hRow.externals]
      exact hState
  have hRetained := (retainCandidates_frame runtime.config snapshot.orders run.exact).2.2.1
  have hEscalated := (escalateUncorrelated_frame snapshot run.retained).2.2.1
  exact hEscalated.trans (hRetained.trans hExact)

theorem escalated_consumed :
    run.escalated.consumedBrokerIds = claimedIn runtime snapshot localState :=
  (escalateUncorrelated_frame snapshot run.retained).2.2.2.1.trans run.retained_consumed

theorem keyed_final_externals : Keyed brokerOrderId final.externals := by
  rw [run.final_externals]
  refine keyed_recordExternalRows runtime snapshot snapshot.orders ?_
  rw [run.escalated_externals]
  exact localState.externalBrokerIdsKeyed

theorem lookup_final_externals (brokerOrderId : String) :
    lookup DiscoveredExternalOrder.brokerOrderId brokerOrderId final.externals =
      (unclaimedRows (claimedIn runtime snapshot localState) brokerOrderId
        snapshot.orders).foldl
        (fun found row => some (externalAfterRow runtime snapshot row found))
        (lookup DiscoveredExternalOrder.brokerOrderId brokerOrderId localState.externalOrders) := by
  rw [run.final_externals]
  have hRows := lookup_recordExternalRows runtime snapshot brokerOrderId snapshot.orders
    run.escalated
  rw [run.escalated_consumed, run.escalated_externals] at hRows
  exact hRows

/-- The final external orders hold an active one of the symbol exactly when some
id stays unowned. -/
theorem exists_activeUnowned_iff (symbol : String) :
    (∃ external ∈ final.externals,
        isActiveUnowned snapshot.environment snapshot.accountNo symbol external = true) ↔
      HasActiveUnowned runtime snapshot localState symbol := by
  constructor
  · rintro ⟨external, hMem, hActive⟩
    have hFound := run.keyed_final_externals.lookup_of_mem hMem
    rw [run.lookup_final_externals] at hFound
    exact ⟨external.brokerOrderId, active_after_rows.mp ⟨external, hFound, hActive⟩⟩
  · rintro ⟨brokerOrderId, hStays⟩
    obtain ⟨external, hFound, hActive⟩ := active_after_rows.mpr hStays
    rw [← run.lookup_final_externals] at hFound
    exact ⟨external, lookup_mem hFound, hActive⟩

end ReducerRun

/-- An id with at least one row in the loop has an external order afterwards. -/
theorem isSome_after_rows (h : rows ≠ [] ∨ stored.isSome = true) :
    (rows.foldl (fun found row => some (externalAfterRow runtime snapshot row found))
      stored).isSome = true := by
  induction rows generalizing stored with
  | nil =>
    rcases h with hNil | hStored
    · exact absurd rfl hNil
    · exact hStored
  | cons row rows ih => exact ih (Or.inr rfl)

/-- A broker id with an unclaimed row has exactly one external order afterwards. -/
theorem unclaimedRow_recorded_once {localState : AccountLocalState} {final : ReduceState}
    (h : reduceLocalState runtime snapshot localState = .ok final) (hRow : row ∈ snapshot.orders)
    (hId : row.brokerOrderId ≠ "")
    (hUnclaimed : row.brokerOrderId ∉ claimedIn runtime snapshot localState) :
    (final.externals.filter (·.brokerOrderId = row.brokerOrderId)).length = 1 := by
  obtain ⟨run⟩ := nonempty_reducerRun h
  have hMem : row ∈ unclaimedRows (claimedIn runtime snapshot localState) row.brokerOrderId
      snapshot.orders := by
    refine List.mem_filter.mpr ⟨hRow, ?_⟩
    rw [isUnclaimed_iff.mpr (not_or.mpr ⟨hId, hUnclaimed⟩)]
    simp
  have hFound : (lookup brokerOrderId row.brokerOrderId
      final.externals).isSome = true := by
    rw [run.lookup_final_externals]
    exact isSome_after_rows (Or.inl (List.ne_nil_of_mem hMem))
  obtain ⟨external, hExternal⟩ := Option.isSome_iff_exists.mp hFound
  exact run.keyed_final_externals.length_filter hExternal

/-- What a fenced row has: one external order, and the fence rejects its symbol.
`executionOrders` is the order table the fence reads beside it. -/
def RowFenced (snapshot : AccountBrokerSnapshot) (externals : List DiscoveredExternalOrder)
    (executionOrders : List ExecutionOrderRecord) (row : BrokerOrderStatusSnapshot) : Prop :=
  (externals.filter (·.brokerOrderId = row.brokerOrderId)).length = 1 ∧
    FenceRejects externals executionOrders snapshot.environment snapshot.accountNo row.symbol

/-- A stored external order that an earlier pass dismissed. -/
def dismissedExternal : DiscoveredExternalOrder :=
  { environment := "PROD"
    accountNo := "1"
    symbol := "AAPL"
    side := .buy
    brokerOrderId := "B1"
    brokerStatus := .cancelled
    externalOrderId := "e1"
    discoveredAt := sampleTime
    disposition := .dismissedTerminal }

/-- The final state of a run that returned one. -/
def returnedState (result : Except Raised ReduceState) : ReduceState :=
  match result with
  | .ok final => final
  | .error _ => { cards := [], orders := [], reservations := [], externals := [] }

theorem eq_returnedState {result : Except Raised ReduceState} (h : result.isOk = true) :
    result = .ok (returnedState result) := by
  cases result with
  | error => cases h
  | ok => rfl

end QuantApp.Services
