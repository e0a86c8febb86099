import QuantApp.Services.CapitalLedger
import QuantApp.Services.GatewayWorld
import QuantApp.Services.ReservationCover

/-!
# Runs of a guarded entry and its replacements

The durable orders and reservations of one account while reconciliation passes,
`replace_guarded` of `src/services/execution_command_gateway.py` and its cancel
take turns.  A pass is `reduce_account_reconciliation` on what is stored,
followed by the writes of its plan; a prepare, the status changes of the cancel
and a restore are each a transaction of their own.  The versions of orders,
which no step of a run reads, are left out.
-/

namespace QuantApp.Services

open Core Verified
open CapitalReservation (reservationId version)

variable {snapshot : AccountBrokerSnapshot} {updates : List CapitalReservation}

/-! ## The cancel of a replacement -/

/-- What `_do_cancel` commits to the order: the request before the broker call, a
rejection, or an ambiguous outcome. -/
inductive CancelStage
  | requested
  | rejected
  | ambiguous
  deriving Repr

/-- The order after a stage of `_do_cancel`. -/
def cancelStage (now : IsoText) (record : ExecutionOrderRecord) :
    CancelStage → Except Raised ExecutionOrderRecord
  | .requested =>
    if cancellableForReplace record then applyStatusTransition record .cancelPending none now
    else
      .error
        { cls := .cancelNotPermitted
          message := "client_order_id=" ++ quoted record.clientOrderId ++
            " is not currently cancellable (status=" ++ record.status.value ++
            ", recovery_state=" ++ record.recoveryState.value ++ ", origin=" ++
            record.origin.value ++ ")" }
  | .rejected => applyStatusTransition record .working none now
  | .ambiguous => transitionRecoveryState record .discovering

/-! ## Runs -/

/-- The durable orders and reservations of an account. -/
structure AccountBooks where
  orders : List ExecutionOrderRecord
  ledger : CapitalLedger

inductive HoldEvent
  | pass (snapshot : AccountBrokerSnapshot)
  | prepare (originalReservationId : String) (request : ReplacementRequest)
      (portfolioRiskSpec : PortfolioRiskReservationSpec)
  | restore (preparedReservation previousReservation : CapitalReservation)
  | cancel (clientOrderId : String) (stage : CancelStage)

/-- The reservation writes of `apply_reconciliation_plan`. -/
def applyReservationUpdates (ledger : CapitalLedger) (updates : List CapitalReservation) :
    Except Raised CapitalLedger :=
  updates.foldlM (fun ledger reservation => do
    let (rows, _) ← updateReservation ledger.rows reservation reservation.version
    pure (ledger.committed rows reservation.reservationId)) ledger

/-- One committed step. -/
inductive HoldStep (environment accountNo : String) (buyingPower : String → String → ℚ)
    (books : AccountBooks) : HoldEvent → AccountBooks → Prop
  | pass {runtime : Runtime} {snapshot : AccountBrokerSnapshot} {localState : AccountLocalState}
      {plan : ReconciliationPlan} {ledger : CapitalLedger} :
      snapshot.environment = environment → snapshot.accountNo = accountNo →
      localState.executionOrders = books.orders →
      localState.capitalReservations = activeReservations books.ledger.rows environment accountNo →
      reduceAccountReconciliation runtime snapshot localState = .ok plan →
      applyReservationUpdates books.ledger plan.reservationUpdates = .ok ledger →
      HoldStep environment accountNo buyingPower books (.pass snapshot)
        { orders := plan.reducedOrders localState, ledger := ledger }
  | prepare {originalReservationId : String} {request : ReplacementRequest}
      {portfolioRiskSpec : PortfolioRiskReservationSpec} {ledger : CapitalLedger} :
      transact buyingPower books.ledger
        (.prepare originalReservationId request portfolioRiskSpec) = .ok ledger →
      HoldStep environment accountNo buyingPower books
        (.prepare originalReservationId request portfolioRiskSpec)
        { books with ledger := ledger }
  | restore {preparedReservation previousReservation : CapitalReservation}
      {ledger : CapitalLedger} :
      (preparedReservation, previousReservation) ∈ books.ledger.prepared →
      transact buyingPower books.ledger
        (.restore preparedReservation previousReservation) = .ok ledger →
      HoldStep environment accountNo buyingPower books
        (.restore preparedReservation previousReservation) { books with ledger := ledger }
  | cancel {now : IsoText} {clientOrderId : String} {stage : CancelStage}
      {record updated : ExecutionOrderRecord} :
      lookup ExecutionOrderRecord.clientOrderId clientOrderId books.orders = some record →
      cancelStage now record stage = .ok updated →
      HoldStep environment accountNo buyingPower books (.cancel clientOrderId stage)
        { books with
          orders := store ExecutionOrderRecord.clientOrderId updated books.orders }

/-- The books that `allowed` steps reach. -/
inductive HoldRun (allowed : AccountBooks → HoldEvent → Prop) (environment accountNo : String)
    (buyingPower : String → String → ℚ) (start : AccountBooks) : AccountBooks → Prop
  | start : HoldRun allowed environment accountNo buyingPower start start
  | step {books next : AccountBooks} {event : HoldEvent} :
      HoldRun allowed environment accountNo buyingPower start books → allowed books event →
      HoldStep environment accountNo buyingPower books event next →
      HoldRun allowed environment accountNo buyingPower start next

/-- A guarded BUY ENTRY submission: one transaction reserves `quantity * limit`
under a fresh id and inserts the order. -/
structure EntrySubmission (environment accountNo : String)
    (buyingPower : String → String → ℚ) (before : AccountBooks) (order : ExecutionOrderRecord)
    (start : AccountBooks) : Prop where
  side : order.side = .buy
  intent : order.intent = .entry
  quantity : 0 < order.submittedQuantity
  limit : 0 < order.submittedLimitPrice
  unfilled : order.filledQuantity = 0 ∧ order.averageFillPrice = 0
  reserved : ∃ request portfolioRiskSpec,
    request.reservationId = order.capitalReservationId ∧
      request.environment = environment ∧ request.accountNo = accountNo ∧
      request.notional = submittedNotional order ∧
      transact buyingPower before.ledger (.insert request portfolioRiskSpec) = .ok start.ledger
  inserted : start.orders = before.orders ++ [order]
  clientIds : Keyed ExecutionOrderRecord.clientOrderId start.orders
  named : order.capitalReservationId ≠ ""
  fresh : ∀ other ∈ before.orders, other.capitalReservationId ≠ order.capitalReservationId

/-- What the repository keeps of a ledger: the history matches the rows, and what
a prepare returned is in it. -/
structure Logged (ledger : CapitalLedger) : Prop where
  versioned : Versioned reservationId version
    ledger.rows ledger.history
  prepared : ∀ pair ∈ ledger.prepared, pair.1 ∈ ledger.history ∧
    pair.2.reservationId = pair.1.reservationId

/-- The linked reservation is open and holds what the order may still buy. -/
def ReservationCovers (order : ExecutionOrderRecord) (rows : List CapitalReservation) : Prop :=
  ∃ reservation, lookup reservationId order.capitalReservationId rows =
    some reservation ∧ Covers order reservation

/-! ## What a pass observes -/

/-- The status a pass leaves the order in. -/
def statusAfter (order : ExecutionOrderRecord) (snapshot : AccountBrokerSnapshot) :
    ExecutionOrderStatus :=
  (lifecycleAfter order snapshot.orders).status

/-- A pass observes fills at an average price of at most the limit, and fewer than
all shares while the order stays live. -/
def ObservesAtLimit (clientOrderId : String) (books : AccountBooks) : HoldEvent → Prop
  | .pass snapshot =>
    ∀ order ∈ books.orders, order.clientOrderId = clientOrderId →
      ∀ row ∈ rowsFor order snapshot.orders,
        row.avgFillPrice ≤ order.submittedLimitPrice ∧
          ((statusAfter order snapshot).isOpen = true →
            row.filledQuantity < order.submittedQuantity)
  | _ => True

/-- A pass that settles the live order finds its reservation with a
`requested_notional` of the whole submission. -/
def SettlesWholeRequest (clientOrderId : String) (books : AccountBooks) : HoldEvent → Prop
  | .pass snapshot =>
    ∀ order ∈ books.orders, order.clientOrderId = clientOrderId →
      (statusAfter order snapshot).isOpen = true →
      isTransitionHoldStatus (statusAfter order snapshot) = false →
      ∀ row ∈ books.ledger.rows, row.reservationId = order.capitalReservationId →
        submittedNotional order ≤ row.requestedNotional
  | _ => True

/-! ## The invariant -/

/-- The hold of a live order: what is stored covers it, and so does every snapshot
a prepare of its reservation could be restored to. -/
structure HoldKept (environment accountNo : String) (order : ExecutionOrderRecord)
    (ledger : CapitalLedger) : Prop where
  unfilled : order.filledQuantity < order.submittedQuantity
  stored : ∃ row, lookup reservationId order.capitalReservationId
    ledger.rows = some row ∧ ofAccount environment accountNo row = true ∧ Covers order row
  prepared : ∀ pair ∈ ledger.prepared,
    pair.1.reservationId = order.capitalReservationId → Covers order pair.2

/-- What every reachable state satisfies, for the entry as it stands. -/
structure EntryHeld (environment accountNo : String) (order : ExecutionOrderRecord)
    (books : AccountBooks) : Prop where
  mem : order ∈ books.orders
  entry : EntryAtLimit order
  named : order.capitalReservationId ≠ ""
  clientIds : Keyed ExecutionOrderRecord.clientOrderId books.orders
  only : ∀ other ∈ books.orders, other.capitalReservationId = order.capitalReservationId →
    other.clientOrderId = order.clientOrderId
  logged : Logged books.ledger
  hold : order.status.isOpen = true → HoldKept environment accountNo order books.ledger

variable {environment accountNo : String} {buyingPower : String → String → ℚ}

/-! ### Writes of the ledger -/

section Writes

variable {ledger next : CapitalLedger} {before after : CapitalReservation}
  {order : ExecutionOrderRecord}

theorem RowWrite.logged (hWrite : RowWrite ledger next before after) (h : Logged ledger)
    (hPrepared : ∀ pair ∈ next.prepared, pair ∈ ledger.prepared ∨
      pair.1 = after ∧ pair.2.reservationId = after.reservationId) : Logged next := by
  refine { versioned := ?_, prepared := ?_ }
  · rw [hWrite.rows, hWrite.history]
    exact h.versioned.store hWrite.found hWrite.newer
  · intro pair hPair
    rw [hWrite.history]
    rcases hPrepared pair hPair with hOld | ⟨hNew, hId⟩
    · obtain ⟨hLogged, hSameId⟩ := h.prepared pair hOld
      exact ⟨List.mem_append_left _ hLogged, hSameId⟩
    · rw [hNew]
      exact ⟨List.mem_append_right _ List.mem_cons_self, hId⟩

/-- A write keeps the hold when what it writes over the order's reservation covers
the order. -/
theorem RowWrite.holdKept (hWrite : RowWrite ledger next before after)
    (h : HoldKept environment accountNo order ledger)
    (hCovers : after.reservationId = order.capitalReservationId → Covers order before →
      Covers order after)
    (hPrepared : ∀ pair ∈ next.prepared, pair ∈ ledger.prepared ∨
      (pair.1.reservationId = order.capitalReservationId → Covers order pair.2)) :
    HoldKept environment accountNo order next := by
  obtain ⟨row, hRow, hAccount, hRowCovers⟩ := h.stored
  refine { unfilled := h.unfilled, stored := ?_, prepared := ?_ }
  · rw [hWrite.rows]
    by_cases hId : after.reservationId = order.capitalReservationId
    · have hFound := hWrite.found
      rw [hId, hRow] at hFound
      obtain rfl : row = before := Option.some.inj hFound
      refine ⟨after, ?_, ?_, hCovers hId hRowCovers⟩
      · rw [← hId]
        exact lookup_store_self hWrite.found
      · rw [hWrite.ofAccount_eq]
        exact hAccount
    · refine ⟨row, ?_, hAccount, hRowCovers⟩
      rw [lookup_store_of_ne (Ne.symm hId)]
      exact hRow
  · intro pair hPair hId
    rcases hPrepared pair hPair with hOld | hNew
    · exact h.prepared pair hOld hId
    · exact hNew hId

theorem rowWrite_of_planUpdate {reservation : CapitalReservation} (h : (do
      let (rows, _) ← updateReservation ledger.rows reservation reservation.version
      pure (ledger.committed rows reservation.reservationId) : Except Raised CapitalLedger) =
        .ok next) :
    next.prepared = ledger.prepared ∧ ∃ stored,
      stored.reservationId = reservation.reservationId ∧
      RowWrite ledger next stored
        (writtenRow stored reservation (reservation.version + 1)) := by
  obtain ⟨⟨rows, updated⟩, hUpdate, hNext⟩ := bind_eq_ok.mp h
  cases hNext
  obtain ⟨stored, hStored, _, hWrite⟩ := rowWrite_of_update hUpdate
  exact ⟨rfl, stored, lookup_key hStored, hWrite⟩

theorem applyReservationUpdates_logged (h : Logged ledger)
    (hOk : applyReservationUpdates ledger updates = .ok next) : Logged next := by
  refine foldlM_invariant Logged h ?_ hOk
  intro current reservation written _ hCurrent hStep
  obtain ⟨hPrepared, stored, _, hWrite⟩ := rowWrite_of_planUpdate hStep
  refine hWrite.logged hCurrent ?_
  intro pair hPair
  rw [hPrepared] at hPair
  exact Or.inl hPair

/-- The plan's writes keep the hold when every update of the order's reservation
covers the order. -/
theorem applyReservationUpdates_holdKept (h : HoldKept environment accountNo order ledger)
    (hUpdates : ∀ update ∈ updates, update.reservationId = order.capitalReservationId →
      Covers order update) (hOk : applyReservationUpdates ledger updates = .ok next) :
    HoldKept environment accountNo order next := by
  refine foldlM_invariant (HoldKept environment accountNo order) h ?_ hOk
  intro current reservation written hUpdate hCurrent hStep
  obtain ⟨hPrepared, stored, hId, hWrite⟩ := rowWrite_of_planUpdate hStep
  refine hWrite.holdKept hCurrent ?_ ?_
  · intro hLinked _
    have hCovers := hUpdates reservation hUpdate (hId.symm.trans hLinked)
    exact { isOpen := hCovers.isOpen, hold := hCovers.hold }
  · intro pair hPair
    rw [hPrepared] at hPair
    exact Or.inl hPair

end Writes

/-! ### The order moves on -/

section Orders

variable {order after : ExecutionOrderRecord}

/-- Two versions of an order, the later with at least the fills of the earlier. -/
structure Observed (order after : ExecutionOrderRecord) : Prop where
  same : SameOrder order after
  filled : order.filledQuantity ≤ after.filledQuantity

theorem Observed.openExposure_le (h : Observed order after) (hEntry : EntryAtLimit order) :
    openExposure after ≤ openExposure order := by
  have hFilled : (order.filledQuantity : ℚ) ≤ after.filledQuantity := by
    exact_mod_cast h.filled
  unfold openExposure
  rw [h.same.submittedQuantity, h.same.submittedLimitPrice]
  exact mul_le_mul_of_nonneg_right (by linarith) hEntry.limit.le

theorem Observed.holdKept {ledger : CapitalLedger} (h : Observed order after)
    (hEntry : EntryAtLimit order) (hUnfilled : after.filledQuantity < after.submittedQuantity)
    (hHold : HoldKept environment accountNo order ledger) :
    HoldKept environment accountNo after ledger := by
  have hLess := h.openExposure_le hEntry
  have hCovers : ∀ reservation, Covers order reservation → Covers after reservation :=
    fun _ hCovers => { isOpen := hCovers.isOpen, hold := hLess.trans hCovers.hold }
  obtain ⟨row, hRow, hAccount, hRowCovers⟩ := hHold.stored
  refine { unfilled := hUnfilled, stored := ⟨row, ?_, hAccount, hCovers row hRowCovers⟩
           prepared := ?_ }
  · rw [h.same.capitalReservationId]
    exact hRow
  · intro pair hPair hId
    rw [h.same.capitalReservationId] at hId
    exact hCovers pair.2 (hHold.prepared pair hPair hId)

theorem observed_of_fate (h : OrderFate snapshot order after) : Observed order after := by
  obtain ⟨middle, hRows, hQuiet⟩ := h
  refine { same := hRows.same.trans hQuiet.same, filled := ?_ }
  rw [hQuiet.filled]
  exact hRows.filled_le

theorem isOpen_of_fate (h : OrderFate snapshot order after) (hLive : after.status.isOpen = true) :
    order.status.isOpen = true := by
  obtain ⟨middle, hRows, hQuiet⟩ := h
  rw [hQuiet.status] at hLive
  exact isOpen_of_reachable hRows.reachable hLive

theorem EntryAtLimit.of_fate (h : EntryAtLimit order)
    (hRows : ∀ row ∈ rowsFor order snapshot.orders,
      row.avgFillPrice ≤ order.submittedLimitPrice) (hFate : OrderFate snapshot order after) :
    EntryAtLimit after := by
  have hObserved := observed_of_fate hFate
  obtain ⟨middle, hEffect, hQuiet⟩ := hFate
  refine
    { side := hObserved.same.side.trans h.side
      intent := hObserved.same.intent.trans h.intent
      limit := ?_
      filled := h.filled.trans hObserved.filled
      average := ?_ }
  · rw [hObserved.same.submittedLimitPrice]
    exact h.limit
  · rw [hObserved.same.submittedLimitPrice, hQuiet.average]
    exact hEffect.average_le h.average hRows

theorem unfilled_of_fate (h : order.filledQuantity < order.submittedQuantity)
    (hRows : ∀ row ∈ rowsFor order snapshot.orders,
      row.filledQuantity < order.submittedQuantity) (hFate : OrderFate snapshot order after) :
    after.filledQuantity < after.submittedQuantity := by
  rw [(observed_of_fate hFate).same.submittedQuantity]
  obtain ⟨middle, hEffect, hQuiet⟩ := hFate
  rw [hQuiet.filled]
  exact hEffect.filled_lt h hRows

end Orders

end QuantApp.Services
