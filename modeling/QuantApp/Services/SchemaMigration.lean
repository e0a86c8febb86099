import QuantApp.Core.BrokerOrder
import QuantApp.Services.StoredOrders

/-!
# The migration of the legacy orders

`_migrate_legacy_orders` of `src/services/schema_migration.py` writes a record for each order of
the legacy ledger that the execution order table does not have.  `legacy_orders_migrated_iff`
says which ledgers it carries over whole.
-/

namespace QuantApp.Services

open Core Verified

/-- An order of the legacy ledger; `load_orders` refuses a blank `client_order_id`. -/
structure LegacyOrder extends BrokerOrder where
  submittedAt : IsoText
  named : strip clientOrderId ≠ ""

/-- What `load_orders` returns: the stripped id of a record is none of the ids before it. -/
structure LegacyLedger where
  orders : List LegacyOrder
  distinct : orders.Pairwise (fun earlier later =>
    strip later.clientOrderId ≠ earlier.clientOrderId)

variable {rows written added : List ExecutionOrderRecord} {order : LegacyOrder}
  {orders rest : List LegacyOrder}

/-! ## `_migrate_legacy_orders` -/

/-- The local `terminal`. -/
def LegacyOrder.terminal (order : LegacyOrder) : Bool :=
  order.status ∈ [OrderStatus.filled, .cancelled, .rejected, .expired]

/-- The status of an order that has a broker id. -/
def identifiedStatus : OrderStatus → ExecutionOrderStatus
  | .accepted => .acknowledged
  | .working => .working
  | .partiallyFilled => .partiallyFilled
  | .filled => .filled
  | .cancelRequested => .cancelPending
  | .cancelled => .cancelled
  | .rejected => .rejected
  | .expired => .expired
  | .created | .submitting | .unknownSubmissionState | .unknown => .working

/-- The locals `status`, `identity` and `broker_order_id`. -/
def migratedIdentity (order : LegacyOrder) : ExecutionOrderStatus × BrokerIdentityStatus × String :=
  if order.status = .rejected ∧ order.brokerOrderId = "" then
    (.rejected, .noBrokerOrderConfirmed, "")
  else if order.brokerOrderId = "" then (.unknownSubmissionState, .ambiguous, "")
  else (identifiedStatus order.status, .exact_, order.brokerOrderId)

/-- The record of a legacy order; the constructor strips the id. -/
def migratedRecord (order : LegacyOrder) : ExecutionOrderRecord :=
  { environment := order.environment
    accountNo := order.accountNo
    symbol := order.symbol
    side := order.side
    intent := order.intent
    clientOrderId := strip order.clientOrderId
    brokerOrderId := (migratedIdentity order).2.2
    attemptGroupId := order.attemptGroupId
    attemptNumber := order.attemptNumber
    attemptDeadlineAt := order.attemptDeadlineAt
    submittedQuantity := order.quantityRequested
    submittedLimitPrice := order.limitPrice
    exchange := order.exchange
    executionPolicy := order.executionPolicy
    preparedAt := order.submittedAt
    ownerDeviceId := "migration"
    status := (migratedIdentity order).1
    filledQuantity := order.filledQuantity
    remainingQuantity := order.remainingQuantity
    averageFillPrice := order.avgFillPrice
    brokerIdentityStatus := (migratedIdentity order).2.1
    recoveryState := if order.terminal then .none_ else .brokerIdentityUncertain
    capitalReservationId := order.capitalReservationId
    clientOrderIdNamed := order.named }

/-- One turn of the loop; the checks of the constructor are the first of the insert. -/
def migrateLegacyOrder (rows : List ExecutionOrderRecord) (order : LegacyOrder) :
    Except Raised (List ExecutionOrderRecord) :=
  if (getExecutionOrder rows order.clientOrderId).isSome then .ok rows
  else insertExecutionOrder rows (migratedRecord order)

/-- `_migrate_legacy_orders`: the table when it returns. -/
def migrateLegacyOrders (rows : List ExecutionOrderRecord) (ledger : LegacyLedger) :
    Except Raised (List ExecutionOrderRecord) :=
  ledger.orders.foldlM migrateLegacyOrder rows

/-! ## One record -/

theorem migratedRecord_brokerOrderId (order : LegacyOrder) :
    (migratedRecord order).brokerOrderId = order.brokerOrderId := by
  unfold migratedRecord migratedIdentity
  dsimp only
  split
  · rename_i hRejected
    exact hRejected.2.symm
  split
  · rename_i hNone
    exact hNone.symm
  · rfl

theorem migratedRecord_terminal_iff (order : LegacyOrder) :
    (migratedRecord order).status.isTerminal = true ↔
      order.terminal = true ∧ (order.brokerOrderId ≠ "" ∨ order.status = .rejected) := by
  by_cases hNone : order.brokerOrderId = "" <;>
    cases hStatus : order.status <;>
    simp [migratedRecord, migratedIdentity, LegacyOrder.terminal, identifiedStatus,
      ExecutionOrderStatus.isTerminal, hNone, hStatus]

/-- Quantities and attempt number that the record may carry. -/
structure LegacyOrder.Fits (order : LegacyOrder) : Prop where
  filledNonneg : 0 ≤ order.filledQuantity
  remainingNonneg : 0 ≤ order.remainingQuantity
  fillsFit : order.filledQuantity + order.remainingQuantity ≤ order.quantityRequested
  attempt : 1 ≤ order.attemptNumber

theorem migratedRecord_consistent_iff (order : LegacyOrder) :
    (migratedRecord order).Consistent ↔ order.Fits := by
  constructor
  · intro h
    exact ⟨h.filledNonneg, h.remainingNonneg, h.fillsFit, h.attempt⟩
  · intro h
    have hFilled := h.filledNonneg
    have hRemaining := h.remainingNonneg
    have hFits := h.fillsFit
    refine
      { identity := ?_
        noBrokerOrder := ?_
        applicationPermissions := fun _ => rfl
        adoptedFrom := nofun
        submittedNonneg := by dsimp only [migratedRecord]; omega
        filledNonneg := hFilled
        remainingNonneg := hRemaining
        fillsFit := hFits
        attempt := h.attempt
        epoch := le_refl _ }
    · by_cases hNone : order.brokerOrderId = "" <;>
        cases hStatus : order.status <;>
        simp [migratedRecord, migratedIdentity, identifiedStatus, legalIdentityStatuses, hNone,
          hStatus]
    · by_cases hNone : order.brokerOrderId = ""
      · intro _
        rw [migratedRecord_brokerOrderId, hNone]
      · simp [migratedRecord, migratedIdentity, hNone]

/-! ## The loop -/

/-- The orders the table does not have. -/
def pendingOrders (rows : List ExecutionOrderRecord) (orders : List LegacyOrder) :
    List LegacyOrder :=
  orders.filter (fun order => (getExecutionOrder rows order.clientOrderId).isNone)

/-- Two records claim one order of the broker. -/
def SharesIdentity (record other : ExecutionOrderRecord) : Prop :=
  ∃ key, identityKeyOrNone record = some key ∧ identityKeyOrNone other = some key

/-- What the table asks of the orders that are inserted one after the other. -/
structure InsertedInTurn (rows : List ExecutionOrderRecord) (orders : List LegacyOrder) : Prop where
  fits : ∀ order ∈ orders, order.Fits
  unclaimed : ∀ order ∈ orders, ∀ row ∈ rows, ¬ SharesIdentity (migratedRecord order) row
  apart : orders.Pairwise (fun earlier later =>
    ¬ SharesIdentity (migratedRecord later) (migratedRecord earlier))

theorem insertedInTurn_cons :
    InsertedInTurn rows (order :: rest) ↔
      order.Fits ∧ (∀ row ∈ rows, ¬ SharesIdentity (migratedRecord order) row) ∧
        InsertedInTurn (rows ++ [migratedRecord order]) rest := by
  constructor
  · intro h
    obtain ⟨hFirst, hRest⟩ := List.pairwise_cons.mp h.apart
    refine ⟨h.fits order List.mem_cons_self, h.unclaimed order List.mem_cons_self,
      { fits := fun later hLater => h.fits later (List.mem_cons_of_mem _ hLater)
        unclaimed := fun later hLater row hRow => ?_
        apart := hRest }⟩
    rcases List.mem_append.mp hRow with hOld | hNew
    · exact h.unclaimed later (List.mem_cons_of_mem _ hLater) row hOld
    · rw [List.mem_singleton.mp hNew]
      exact hFirst later hLater
  · rintro ⟨hFits, hFree, h⟩
    refine
      { fits := List.forall_mem_cons.mpr ⟨hFits, h.fits⟩
        unclaimed := List.forall_mem_cons.mpr ⟨hFree, ?_⟩
        apart := List.pairwise_cons.mpr ⟨?_, h.apart⟩ }
    · intro later hLater row hRow
      exact h.unclaimed later hLater row (List.mem_append_left _ hRow)
    · intro later hLater
      exact h.unclaimed later hLater _ (List.mem_append_right _ (List.mem_singleton_self _))

theorem insert_migrated_iff (hAbsent : getExecutionOrder rows (strip order.clientOrderId) = none) :
    insertExecutionOrder rows (migratedRecord order) = .ok written ↔
      (order.Fits ∧ ∀ row ∈ rows, ¬ SharesIdentity (migratedRecord order) row) ∧
        written = rows ++ [migratedRecord order] := by
  rw [insertExecutionOrder_eq_ok_iff, ← migratedRecord_consistent_iff]
  refine and_congr_left fun _ => ⟨fun h => ⟨h.consistent, ?_⟩, fun h => ?_⟩
  · rintro row hRow ⟨key, hOwn, hOther⟩
    have hSame := h.identity row hRow key hOwn hOther
    exact lookup_eq_none_iff.mp hAbsent (List.mem_map.mpr ⟨row, hRow, hSame⟩)
  · exact
      { consistent := h.1
        absent := hAbsent
        identity := fun row hRow key hOwn hOther => absurd ⟨key, hOwn, hOther⟩ (h.2 row hRow)
        adoption := unclaimed_of_none rfl }

/-- An order that has been inserted is none of those that follow. -/
theorem pendingOrders_insert (hOrder : strip order.clientOrderId = order.clientOrderId)
    (hDistinct : ∀ later ∈ rest, strip later.clientOrderId ≠ order.clientOrderId)
    (hStripped : ∀ later ∈ pendingOrders rows rest,
      strip later.clientOrderId = later.clientOrderId) :
    pendingOrders (rows ++ [migratedRecord order]) rest = pendingOrders rows rest := by
  apply List.filter_congr
  intro later hLater
  cases hFound : getExecutionOrder rows later.clientOrderId with
  | some row =>
    have hStill : getExecutionOrder (rows ++ [migratedRecord order]) later.clientOrderId =
        some row := by
      unfold getExecutionOrder at hFound ⊢
      rw [lookup_append, hFound, Option.some_or]
    rw [hStill]
  | none =>
    have hPending : later ∈ pendingOrders rows rest :=
      List.mem_filter.mpr ⟨hLater, by rw [hFound, Option.isNone_none]⟩
    have hNe : order.clientOrderId ≠ later.clientOrderId := by
      intro hSame
      exact hDistinct later hLater ((hStripped later hPending).trans hSame.symm)
    have hStill : getExecutionOrder (rows ++ [migratedRecord order]) later.clientOrderId =
        none := by
      apply lookup_eq_none_iff.mpr
      rw [List.map_append, List.mem_append, not_or]
      refine ⟨lookup_eq_none_iff.mp hFound, ?_⟩
      rw [List.map_singleton, List.mem_singleton]
      exact fun h => hNe (hOrder.symm.trans h.symm)
    rw [hStill]

/-- The loop returns if the missing orders can be inserted, and appends their records. -/
theorem migrate_eq_ok_iff
    (hDistinct : orders.Pairwise (fun earlier later =>
      strip later.clientOrderId ≠ earlier.clientOrderId))
    (hStripped : ∀ order ∈ pendingOrders rows orders,
      strip order.clientOrderId = order.clientOrderId) :
    orders.foldlM migrateLegacyOrder rows = .ok written ↔
      InsertedInTurn rows (pendingOrders rows orders) ∧
        written = rows ++ (pendingOrders rows orders).map migratedRecord := by
  induction orders generalizing rows with
  | nil =>
    have hNone : InsertedInTurn rows [] :=
      { fits := by simp, unclaimed := by simp, apart := List.Pairwise.nil }
    show (Except.ok rows = .ok written) ↔ InsertedInTurn rows [] ∧ written = rows ++ []
    rw [List.append_nil, and_iff_right hNone, Except.ok.injEq, eq_comm]
  | cons order rest ih =>
    obtain ⟨hFirst, hRest⟩ := List.pairwise_cons.mp hDistinct
    rw [foldlM_cons_ok]
    by_cases hPresent : (getExecutionOrder rows order.clientOrderId).isSome = true
    · have hPending : pendingOrders rows (order :: rest) = pendingOrders rows rest := by
        unfold pendingOrders
        rw [List.filter_cons_of_neg (by simpa using Option.isSome_iff_ne_none.mp hPresent)]
      rw [hPending] at hStripped ⊢
      rw [← ih hRest hStripped]
      unfold migrateLegacyOrder
      rw [if_pos hPresent]
      exact ⟨fun ⟨_, hStep, h⟩ => by cases hStep; exact h, fun h => ⟨rows, rfl, h⟩⟩
    · have hAbsent : getExecutionOrder rows order.clientOrderId = none :=
        Option.not_isSome_iff_eq_none.mp hPresent
      have hPending : pendingOrders rows (order :: rest) = order :: pendingOrders rows rest := by
        unfold pendingOrders
        rw [List.filter_cons_of_pos (by rw [hAbsent, Option.isNone_none])]
      rw [hPending] at hStripped ⊢
      obtain ⟨hOrder, hStripped⟩ := List.forall_mem_cons.mp hStripped
      have hInserted := pendingOrders_insert hOrder hFirst hStripped
      have hTail := @ih (rows ++ [migratedRecord order]) hRest (by rwa [hInserted])
      rw [hInserted, List.append_assoc] at hTail
      unfold migrateLegacyOrder
      rw [if_neg hPresent, insertedInTurn_cons, List.map_cons]
      constructor
      · rintro ⟨_, hStep, h⟩
        obtain ⟨⟨hFits, hFree⟩, rfl⟩ := (insert_migrated_iff (by rwa [hOrder])).mp hStep
        obtain ⟨hInsertable, hWritten⟩ := hTail.mp h
        exact ⟨⟨hFits, hFree, hInsertable⟩, hWritten⟩
      · rintro ⟨⟨hFits, hFree, hInsertable⟩, hWritten⟩
        exact ⟨_, (insert_migrated_iff (by rwa [hOrder])).mpr ⟨⟨hFits, hFree⟩, rfl⟩,
          hTail.mpr ⟨hInsertable, hWritten⟩⟩

/-- Every record of the table was there or has the stripped id of the record of an order. -/
theorem stripped_of_migrated (h : orders.foldlM migrateLegacyOrder rows = .ok written) :
    ∀ record ∈ written, record ∈ rows ∨ strip record.clientOrderId = record.clientOrderId := by
  refine foldlM_invariant (fun table => ∀ record ∈ table, record ∈ rows ∨
    strip record.clientOrderId = record.clientOrderId) (fun record hRecord => .inl hRecord) ?_ h
  intro table order table' _ hTable hStep
  unfold migrateLegacyOrder at hStep
  split at hStep
  · cases hStep
    exact hTable
  · obtain ⟨_, _, rfl⟩ := insertExecutionOrder_ok hStep
    exact forall_mem_concat hTable (.inr (strip_strip _))

/-! ## The migration as a whole -/

/-- What an order is to become. -/
structure Becomes (order : LegacyOrder) (record : ExecutionOrderRecord) : Prop where
  clientOrderId : record.clientOrderId = order.clientOrderId
  filledQuantity : record.filledQuantity = order.filledQuantity
  terminal : order.terminal = true → record.status.isTerminal = true
  live : order.terminal = false →
    record.status.isTerminal = false ∧ record.brokerOrderId = order.brokerOrderId

/-- The migration returns, each missing order has become one record behind the records that were
there, and a second migration stores nothing. -/
def LegacyOrdersMigrated (rows : List ExecutionOrderRecord) (ledger : LegacyLedger) : Prop :=
  ∃ added, migrateLegacyOrders rows ledger = .ok (rows ++ added) ∧
    List.Forall₂ Becomes (pendingOrders rows ledger.orders) added ∧
    migrateLegacyOrders (rows ++ added) ledger = .ok (rows ++ added)

/-- Each missing order has an id without blanks around it, a broker id if it ended other than by
a rejection, and what the table asks for. -/
structure Migratable (rows : List ExecutionOrderRecord) (orders : List LegacyOrder) : Prop
    extends InsertedInTurn rows orders where
  stripped : ∀ order ∈ orders, strip order.clientOrderId = order.clientOrderId
  identified : ∀ order ∈ orders, order.terminal = true →
    order.brokerOrderId ≠ "" ∨ order.status = .rejected

theorem becomes_migratedRecord_iff (hStripped : strip order.clientOrderId = order.clientOrderId) :
    Becomes order (migratedRecord order) ↔
      (order.terminal = true → order.brokerOrderId ≠ "" ∨ order.status = .rejected) := by
  constructor
  · intro h hTerminal
    exact ((migratedRecord_terminal_iff order).mp (h.terminal hTerminal)).2
  · intro h
    refine
      { clientOrderId := hStripped
        filledQuantity := rfl
        terminal := fun hTerminal =>
          (migratedRecord_terminal_iff order).mpr ⟨hTerminal, h hTerminal⟩
        live := fun hLive => ⟨?_, migratedRecord_brokerOrderId order⟩ }
    rw [← Bool.not_eq_true, migratedRecord_terminal_iff, hLive]
    simp

theorem migrate_again (hAll : ∀ order ∈ orders,
      (getExecutionOrder rows order.clientOrderId).isSome = true) :
    orders.foldlM migrateLegacyOrder rows = .ok rows := by
  induction orders with
  | nil => rfl
  | cons order rest ih =>
    obtain ⟨hOrder, hRest⟩ := List.forall_mem_cons.mp hAll
    rw [foldlM_cons_ok]
    refine ⟨rows, ?_, ih hRest⟩
    unfold migrateLegacyOrder
    rw [if_pos hOrder]

/-- The ledger is carried over whole exactly if its missing orders can be. -/
theorem legacy_orders_migrated_iff (rows : List ExecutionOrderRecord) (ledger : LegacyLedger) :
    LegacyOrdersMigrated rows ledger ↔ Migratable rows (pendingOrders rows ledger.orders) := by
  constructor
  · rintro ⟨added, hRun, hBecomes, _⟩
    have hStripped : ∀ order ∈ pendingOrders rows ledger.orders,
        strip order.clientOrderId = order.clientOrderId := by
      intro order hOrder
      obtain ⟨record, hRecord, h⟩ := forall₂_mem_left hBecomes hOrder
      rw [← h.clientOrderId]
      rcases stripped_of_migrated hRun record (List.mem_append_right _ hRecord) with
        hOld | hStripped
      · have hMissing := Option.isNone_iff_eq_none.mp (List.mem_filter.mp hOrder).2
        rw [← h.clientOrderId] at hMissing
        exact absurd (List.mem_map.mpr ⟨record, hOld, rfl⟩) (lookup_eq_none_iff.mp hMissing)
      · exact hStripped
    obtain ⟨hInsertable, hAdded⟩ := (migrate_eq_ok_iff ledger.distinct hStripped).mp hRun
    rw [List.append_cancel_left hAdded, List.forall₂_map_right_iff, List.forall₂_same] at hBecomes
    exact
      { hInsertable with
        stripped := hStripped
        identified := fun order hOrder =>
          (becomes_migratedRecord_iff (hStripped order hOrder)).mp (hBecomes order hOrder) }
  · intro h
    refine ⟨_, (migrate_eq_ok_iff ledger.distinct h.stripped).mpr ⟨h.toInsertedInTurn, rfl⟩, ?_, ?_⟩
    · rw [List.forall₂_map_right_iff, List.forall₂_same]
      exact fun order hOrder =>
        (becomes_migratedRecord_iff (h.stripped order hOrder)).mpr (h.identified order hOrder)
    · apply migrate_again
      intro order hOrder
      rw [getExecutionOrder, lookup_isSome_iff, List.map_append, List.mem_append]
      by_cases hMissing : order ∈ pendingOrders rows ledger.orders
      · refine .inr (List.mem_map.mpr ⟨_, List.mem_map.mpr ⟨order, hMissing, rfl⟩, ?_⟩)
        exact h.stripped order hMissing
      · refine .inl (lookup_isSome_iff.mp ?_)
        by_contra hAbsent
        rw [Bool.not_eq_true, Option.isSome_eq_false_iff] at hAbsent
        exact hMissing (List.mem_filter.mpr ⟨hOrder, hAbsent⟩)

/-- An entry without a broker id that `clear_unknown_submission_order` has closed. -/
def clearedOrder : LegacyOrder :=
  { clientOrderId := "c1"
    environment := "PROD"
    accountNo := "1"
    symbol := "AAPL"
    side := .buy
    intent := .entry
    quantityRequested := 10
    limitPrice := 100
    status := .expired
    remainingQuantity := 10
    submittedAt := isoformat 0
    named := by rw [strip_c1]; exact c1_ne_empty }

/-- Its record is again one whose submission is unknown. -/
theorem cleared_order_revived :
    ¬ LegacyOrdersMigrated [] ⟨[clearedOrder], List.pairwise_singleton _ _⟩ := by
  rintro ⟨added, hRun, hBecomes, _⟩
  have hStored : migrateLegacyOrders [] ⟨[clearedOrder], List.pairwise_singleton _ _⟩ =
      .ok [migratedRecord clearedOrder] := rfl
  obtain rfl : [migratedRecord clearedOrder] = added := Except.ok.inj (hStored.symm.trans hRun)
  have hBecomes : List.Forall₂ Becomes [clearedOrder] [migratedRecord clearedOrder] := hBecomes
  obtain ⟨hOrder, _⟩ := List.forall₂_cons.mp hBecomes
  have hTerminal := hOrder.terminal rfl
  exact absurd hTerminal (by decide)

end QuantApp.Services
