import QuantApp.Services.ReplacementRuns

/-!
# The exposure of a guarded entry stays covered

Every step of a run keeps the hold of the entry, as long as a pass that settles
the live order finds the whole submission in `requested_notional`.  A prepare
rewrites that field from the remainder, and the first pass after it that settles
subtracts the same fills again.
-/

namespace QuantApp.Services

open Core Verified

variable {ledger : CapitalLedger} {record updated : ExecutionOrderRecord}
  {localState : AccountLocalState} {now : IsoText}

variable {environment accountNo : String} {buyingPower : String → String → ℚ}

/-! ## Each step -/

section Steps

variable {order : ExecutionOrderRecord} {books next : AccountBooks}

/-- What the ledger stores under the order's reservation covers the order. -/
theorem HoldKept.covers_of_mem {row : CapitalReservation}
    (h : HoldKept environment accountNo order ledger) (hLogged : Logged ledger)
    (hRow : row ∈ ledger.rows) (hId : row.reservationId = order.capitalReservationId) :
    Covers order row := by
  obtain ⟨stored, hStored, _, hCovers⟩ := h.stored
  have hFound := hLogged.versioned.keyed.lookup_of_mem hRow
  rw [hId, hStored] at hFound
  rw [← Option.some.inj hFound]
  exact hCovers

/-- The order stays the only one linked to its reservation. -/
theorem onlyLinked_of_same {final : List ExecutionOrderRecord} {after : ExecutionOrderRecord}
    (hOnly : ∀ other ∈ localState.executionOrders,
      other.capitalReservationId = order.capitalReservationId →
        other.clientOrderId = order.clientOrderId)
    (hSame : List.Forall₂ SameOrder localState.executionOrders final) (hAfter : after ∈ final)
    (hAfterSame : SameOrder order after) : OnlyLinked after final := by
  have hKeyed : Keyed ExecutionOrderRecord.clientOrderId final := by
    unfold Keyed
    rw [map_clientOrderId_of_same hSame]
    exact localState.ordersKeyed
  intro other hOther hLink
  obtain ⟨before, hBefore, hBeforeSame⟩ := forall₂_mem_right hSame hOther
  unfold linkedReservationId at hLink
  rw [hBeforeSame.capitalReservationId, localState.reservationLinksStripped before hBefore,
    hAfterSame.capitalReservationId] at hLink
  refine hKeyed.eq_of_mem hOther hAfter ?_
  rw [hBeforeSame.clientOrderId, hAfterSame.clientOrderId]
  exact hOnly before hBefore hLink

section

variable (h : EntryHeld environment accountNo order books)
include h

/-- A pass keeps the hold when it settles from the whole request. -/
theorem EntryHeld.pass {snapshot : AccountBrokerSnapshot}
    (hObserves : ObservesAtLimit order.clientOrderId books (.pass snapshot))
    (hWhole : SettlesWholeRequest order.clientOrderId books (.pass snapshot))
    (hStep : HoldStep environment accountNo buyingPower books (.pass snapshot) next) :
    ∃ after, Observed order after ∧ EntryHeld environment accountNo after next := by
  cases hStep with
  | @pass runtime _ localState plan ledger hEnvironment hAccountNo hOrders hReservations hPlan
      hApplied =>
    obtain ⟨final, hFinal, rfl⟩ := reduceAccountReconciliation_ok.mp hPlan
    have hFates := orders_evolve hFinal
    have hSame := hFates.imp (fun _ _ hFate => hFate.same)
    have hOnly := h.only
    have hMem := h.mem
    rw [← hOrders] at hMem hOnly
    obtain ⟨after, hAfter, hFate⟩ := forall₂_mem_left hFates hMem
    have hObserved := observed_of_fate hFate
    have hRows := hObserves order h.mem rfl
    have hEntry := h.entry.of_fate (fun row hRow => (hRows row hRow).1) hFate
    have hNamed : after.capitalReservationId ≠ "" := by
      rw [hObserved.same.capitalReservationId]
      exact h.named
    have hOnlyLinked := onlyLinked_of_same hOnly hSame hAfter hObserved.same
    have hFinalOrders : (planOf snapshot localState final).reducedOrders localState =
        final.orders := reducedOrders_planOf hFinal
    refine ⟨after, hObserved, ?_⟩
    rw [hFinalOrders]
    refine
      { mem := hAfter
        entry := hEntry
        named := hNamed
        clientIds := ?_
        only := ?_
        logged := applyReservationUpdates_logged h.logged hApplied
        hold := ?_ }
    · unfold Keyed
      rw [map_clientOrderId_of_same hSame]
      exact localState.ordersKeyed
    · intro other hOther hLink
      obtain ⟨before, hBefore, hBeforeSame⟩ := forall₂_mem_right hSame hOther
      rw [hBeforeSame.capitalReservationId, hObserved.same.capitalReservationId] at hLink
      rw [hBeforeSame.clientOrderId, hObserved.same.clientOrderId]
      exact hOnly before hBefore hLink
    · intro hLive
      have hStatus : after.status = statusAfter order snapshot := hFate.status
      have hHold := h.hold (isOpen_of_fate hFate hLive)
      have hStatusLive : (statusAfter order snapshot).isOpen = true := by
        rw [← hStatus]
        exact hLive
      have hUnfilled := unfilled_of_fate hHold.unfilled
        (fun row hRow => (hRows row hRow).2 hStatusLive) hFate
      have hHeld := hObserved.holdKept h.entry hUnfilled hHold
      have hKept : Kept after localState.capitalReservations := by
        intro row hRow hId
        rw [hReservations] at hRow
        have hStored := List.mem_of_mem_filter hRow
        refine ⟨hHeld.covers_of_mem h.logged hStored hId, ?_⟩
        by_cases hHoldStatus : isTransitionHoldStatus after.status = true
        · exact Or.inl hHoldStatus
        · rw [Bool.not_eq_true, hStatus] at hHoldStatus
          rw [hObserved.same.capitalReservationId] at hId
          have hRequested := hWhole order h.mem rfl hStatusLive hHoldStatus row hStored hId
          refine Or.inr ⟨?_, hUnfilled⟩
          unfold submittedNotional
          rw [hObserved.same.submittedQuantity, hObserved.same.submittedLimitPrice]
          exact hRequested
      have hFinalKept := kept_of_reduce hFinal hAfter hEntry hLive hNamed hOnlyLinked hKept
      refine applyReservationUpdates_holdKept hHeld ?_ hApplied
      intro update hUpdate hId
      exact (hFinalKept update (mem_changedRows hUpdate).1 hId).1

theorem EntryHeld.prepare {originalReservationId : String} {request : ReplacementRequest}
    {portfolioRiskSpec : PortfolioRiskReservationSpec}
    (hOk : transact buyingPower books.ledger (.prepare originalReservationId request
      portfolioRiskSpec) = .ok ledger) :
    EntryHeld environment accountNo order { books with ledger := ledger } := by
  obtain ⟨previous, hActive, hWrite, hPrepared, _⟩ := prepare_write h.logged.versioned.keyed hOk
  have hNew : ∀ pair ∈ ledger.prepared, pair ∈ books.ledger.prepared ∨
      pair = (preparedRow previous request, previous) := by
    intro pair hPair
    rw [hPrepared] at hPair
    rcases List.mem_append.mp hPair with hOld | hNew
    · exact Or.inl hOld
    · exact Or.inr (List.mem_singleton.mp hNew)
  refine { h with logged := ?_, hold := ?_ }
  · refine hWrite.logged h.logged ?_
    intro pair hPair
    refine (hNew pair hPair).imp_right ?_
    rintro rfl
    exact ⟨rfl, rfl⟩
  · intro hLive
    have hHold := h.hold hLive
    refine hWrite.holdKept hHold ?_ ?_
    · intro _ hCovers
      exact { isOpen := hCovers.isOpen, hold := hCovers.hold.trans (le_max_left _ _) }
    · intro pair hPair
      refine (hNew pair hPair).imp_right ?_
      rintro rfl hId
      exact hHold.covers_of_mem h.logged (lookup_mem hWrite.found) hId

theorem EntryHeld.restore {preparedReservation previousReservation : CapitalReservation}
    (hIssued : (preparedReservation, previousReservation) ∈ books.ledger.prepared)
    (hOk : transact buyingPower books.ledger (.restore preparedReservation previousReservation) =
      .ok ledger) :
    EntryHeld environment accountNo order { books with ledger := ledger } := by
  obtain ⟨hLogged, hId⟩ := h.logged.prepared _ hIssued
  obtain ⟨hWrite, hPrepared⟩ := restore_write h.logged.versioned hLogged hId hOk
  have hOld : ∀ pair ∈ ledger.prepared, pair ∈ books.ledger.prepared := by
    intro pair hPair
    rwa [hPrepared] at hPair
  refine { h with logged := ?_, hold := ?_ }
  · exact hWrite.logged h.logged (fun pair hPair => Or.inl (hOld pair hPair))
  · intro hLive
    have hHold := h.hold hLive
    refine hWrite.holdKept hHold ?_ (fun pair hPair => Or.inl (hOld pair hPair))
    intro hLinked _
    have hCovers := hHold.prepared _ hIssued hLinked
    exact { isOpen := hCovers.isOpen, hold := hCovers.hold }

end

/-- A status change that has nothing to do with fills. -/
structure StatusChange (record updated : ExecutionOrderRecord) : Prop where
  same : SameOrder record updated
  filled : updated.filledQuantity = record.filledQuantity
  average : updated.averageFillPrice = record.averageFillPrice
  live : updated.status.isOpen = true → record.status.isOpen = true

theorem statusChange_of_transition {target : ExecutionOrderStatus}
    (hTarget : target = .cancelPending ∨ target = .working)
    (h : applyStatusTransition record target none now = .ok updated) :
    StatusChange record updated := by
  unfold applyStatusTransition at h
  split at h
  · cases h
  · rename_i hAllowed
    obtain ⟨identified, hIdentified, h⟩ := bind_eq_ok.mp h
    obtain ⟨_, _, hUpdated⟩ := bind_eq_ok.mp h
    cases hUpdated
    have hRecord : identified = record := by
      rcases hTarget with rfl | rfl <;>
        simpa [transitionIdentity, bind, Except.bind, pure, Except.pure, eq_comm] using
          hIdentified
    have hMoved : transitioned identified target now = { record with status := target } := by
      rw [hRecord]
      rcases hTarget with rfl | rfl <;> simp [transitioned]
    rw [hMoved]
    refine { same := rfl, filled := rfl, average := rfl, live := fun _ => ?_ }
    exact isOpen_of_reachable (Relation.ReflTransGen.single (not_not.mp hAllowed))
      (by rcases hTarget with rfl | rfl <;> rfl)

theorem statusChange_of_stage {stage : CancelStage}
    (h : cancelStage now record stage = .ok updated) :
    StatusChange record updated := by
  cases stage with
  | requested =>
    unfold cancelStage at h
    dsimp only at h
    split at h
    · exact statusChange_of_transition (Or.inl rfl) h
    · cases h
  | rejected => exact statusChange_of_transition (Or.inr rfl) h
  | ambiguous =>
    unfold cancelStage transitionRecoveryState at h
    dsimp only at h
    split at h
    · obtain ⟨_, _, hUpdated⟩ := bind_eq_ok.mp h
      cases hUpdated
      exact { same := rfl, filled := rfl, average := rfl, live := id }
    · cases h

variable (h : EntryHeld environment accountNo order books)
include h

/-- A stage of a cancel changes no quantity and no reservation. -/
theorem EntryHeld.cancel {clientOrderId : String}
    (hRecord : lookup ExecutionOrderRecord.clientOrderId clientOrderId books.orders = some record)
    (hChange : StatusChange record updated) :
    ∃ after, Observed order after ∧ EntryHeld environment accountNo after
      { books with
        orders := store ExecutionOrderRecord.clientOrderId updated books.orders } := by
  have hFound : lookup ExecutionOrderRecord.clientOrderId updated.clientOrderId books.orders =
      some record := by
    rw [hChange.same.clientOrderId, lookup_key hRecord]
    exact hRecord
  have hOrders : List.Forall₂ SameOrder books.orders
      (store ExecutionOrderRecord.clientOrderId updated books.orders) :=
    forall₂_store h.clientIds hFound SameOrder.refl hChange.same
  have hOnly : ∀ other ∈ store ExecutionOrderRecord.clientOrderId updated books.orders,
      other.capitalReservationId = order.capitalReservationId →
        other.clientOrderId = order.clientOrderId := by
    intro other hOther hLink
    obtain ⟨before, hBefore, hSame⟩ := forall₂_mem_right hOrders hOther
    rw [hSame.clientOrderId]
    exact h.only before hBefore (hSame.capitalReservationId.symm.trans hLink)
  by_cases hId : record.clientOrderId = order.clientOrderId
  · obtain rfl : record = order := h.clientIds.eq_of_mem (lookup_mem hRecord) h.mem hId
    have hObserved : Observed record updated :=
      { same := hChange.same, filled := hChange.filled.ge }
    refine ⟨updated, hObserved, ?_⟩
    refine
      { mem := lookup_mem (lookup_store_self hFound)
        entry := ?_
        named := ?_
        clientIds := h.clientIds.store
        only := ?_
        logged := h.logged
        hold := ?_ }
    · refine
        { side := hChange.same.side.trans h.entry.side
          intent := hChange.same.intent.trans h.entry.intent
          limit := ?_
          filled := ?_
          average := ?_ }
      · rw [hChange.same.submittedLimitPrice]
        exact h.entry.limit
      · rw [hChange.filled]
        exact h.entry.filled
      · rw [hChange.average, hChange.same.submittedLimitPrice]
        exact h.entry.average
    · rw [hChange.same.capitalReservationId]
      exact h.named
    · rw [hChange.same.capitalReservationId, hChange.same.clientOrderId]
      exact hOnly
    · intro hLive
      have hHold := h.hold (hChange.live hLive)
      refine hObserved.holdKept h.entry ?_ hHold
      rw [hChange.filled, hChange.same.submittedQuantity]
      exact hHold.unfilled
  · refine ⟨order, { same := rfl, filled := le_refl _ }, ?_⟩
    refine { h with mem := ?_, clientIds := h.clientIds.store, only := hOnly }
    refine List.mem_map.mpr ⟨order, h.mem, if_neg ?_⟩
    rw [hChange.same.clientOrderId]
    exact Ne.symm hId

theorem EntryHeld.step {event : HoldEvent}
    (hObserves : ObservesAtLimit order.clientOrderId books event)
    (hWhole : SettlesWholeRequest order.clientOrderId books event)
    (hStep : HoldStep environment accountNo buyingPower books event next) :
    ∃ after, Observed order after ∧ EntryHeld environment accountNo after next := by
  cases event with
  | pass => exact h.pass hObserves hWhole hStep
  | prepare =>
    cases hStep with
    | prepare hOk => exact ⟨order, { same := rfl, filled := le_refl _ }, h.prepare hOk⟩
  | restore =>
    cases hStep with
    | restore hIssued hOk =>
      exact ⟨order, { same := rfl, filled := le_refl _ }, h.restore hIssued hOk⟩
  | cancel =>
    cases hStep with
    | cancel hRecord hOk => exact h.cancel hRecord (statusChange_of_stage hOk)

end Steps

/-! ## From the submission on -/

section Runs

variable {order : ExecutionOrderRecord} {before start books : AccountBooks}

theorem EntrySubmission.entryHeld
    (h : EntrySubmission environment accountNo buyingPower before order start)
    (hLogged : Logged before.ledger) : EntryHeld environment accountNo order start := by
  obtain ⟨request, portfolioRiskSpec, hId, hEnvironment, hAccountNo, hNotional, hOk⟩ := h.reserved
  obtain ⟨rows, hInserted, hLedger⟩ := bind_eq_ok.mp hOk
  obtain ⟨hAbsent, hRows, _⟩ := insertReservationIfAvailable_ok hInserted
  have hFresh : request.reservationId ∉
      before.ledger.rows.map CapitalReservation.reservationId := hAbsent
  have hFound : lookup CapitalReservation.reservationId request.reservationId rows =
      some request.reservation := by
    rw [hRows, lookup_append, lookup_eq_none_iff.mpr hFresh, Option.none_or]
    simp [lookup, EntryRequest.reservation, CapitalReservation.create]
  have hLedgerEq : before.ledger.committed rows request.reservationId = start.ledger :=
    Except.ok.inj hLedger
  have hStartRows : start.ledger.rows = rows := by
    rw [← hLedgerEq]
    rfl
  have hHistory : start.ledger.history = before.ledger.history ++ [request.reservation] := by
    rw [← hLedgerEq]
    unfold CapitalLedger.committed
    rw [hFound]
    rfl
  have hPrepared : start.ledger.prepared = before.ledger.prepared := by
    rw [← hLedgerEq]
    rfl
  have hMem : order ∈ start.orders := by
    rw [h.inserted]
    exact List.mem_append_right _ List.mem_cons_self
  refine
    { mem := hMem
      entry := ?_
      named := h.named
      clientIds := h.clientIds
      only := ?_
      logged := ?_
      hold := fun _ => ?_ }
  · exact
      { h with
        filled := h.unfilled.1.ge
        average := by
          rw [h.unfilled.2]
          exact h.limit.le }
  · rw [h.inserted]
    exact forall_mem_concat (fun other hOld hLink => absurd hLink (h.fresh other hOld)) fun _ => rfl
  · refine { versioned := ?_, prepared := ?_ }
    · rw [hStartRows, hHistory, hRows]
      exact hLogged.versioned.insert hFresh
    · intro pair hPair
      rw [hPrepared] at hPair
      obtain ⟨hPairLogged, hPairId⟩ := hLogged.prepared pair hPair
      rw [hHistory]
      exact ⟨List.mem_append_left _ hPairLogged, hPairId⟩
  · refine { unfilled := ?_, stored := ⟨request.reservation, ?_, ?_, ?_⟩, prepared := ?_ }
    · rw [h.unfilled.1]
      exact h.quantity
    · rw [hStartRows, ← hId]
      exact hFound
    · unfold ofAccount
      simp [EntryRequest.reservation, CapitalReservation.create, hEnvironment, hAccountNo]
    · refine { isOpen := rfl, hold := ?_ }
      show openExposure order ≤ request.notional
      rw [hNotional, openExposure_eq, h.unfilled.1]
      simp
    · intro pair hPair hLink
      rw [hPrepared] at hPair
      obtain ⟨hPairLogged, _⟩ := hLogged.prepared pair hPair
      obtain ⟨row, hRow, hKey, _⟩ := hLogged.versioned.current pair.1 hPairLogged
      refine absurd ?_ hFresh
      show request.reservationId ∈ _
      rw [hId, ← hLink, ← hKey]
      exact List.mem_map_of_mem hRow

/-- While no pass settles from a rewritten request, every live state of the order
is covered by its open reservation. -/
theorem holdRun_reservationCovers (hLogged : Logged before.ledger)
    (hSubmitted : EntrySubmission environment accountNo buyingPower before order start)
    (hRun : HoldRun
      (fun books event => ObservesAtLimit order.clientOrderId books event ∧
        SettlesWholeRequest order.clientOrderId books event)
      environment accountNo buyingPower start books) :
    ∀ current ∈ books.orders, current.clientOrderId = order.clientOrderId →
      current.status.isOpen = true → ReservationCovers current books.ledger.rows := by
  have hHeld : ∃ current, SameOrder order current ∧
      EntryHeld environment accountNo current books := by
    induction hRun with
    | start => exact ⟨order, rfl, hSubmitted.entryHeld hLogged⟩
    | step _ hAllowedStep hStep ih =>
      obtain ⟨current, hSame, hHeld⟩ := ih
      obtain ⟨hObserves, hWhole⟩ := hAllowedStep
      rw [← hSame.clientOrderId] at hObserves hWhole
      obtain ⟨after, hObserved, hAfter⟩ := hHeld.step hObserves hWhole hStep
      exact ⟨after, hSame.trans hObserved.same, hAfter⟩
  obtain ⟨tracked, hSame, hHeld⟩ := hHeld
  intro current hCurrent hId hLive
  obtain rfl : current = tracked :=
    hHeld.clientIds.eq_of_mem hCurrent hHeld.mem (hId.trans hSame.clientOrderId.symm)
  obtain ⟨row, hRow, _, hCovers⟩ := (hHeld.hold hLive).stored
  exact ⟨row, hRow, hCovers⟩

end Runs

/-! ## A partial fill, a prepare and an unsettled cancel -/

/-- A hundred shares at ten, acknowledged as `B1`. -/
def sampleEntryOrder : ExecutionOrderRecord :=
  { sampleOrder with
    status := .acknowledged
    submittedQuantity := 100
    submittedLimitPrice := 10
    remainingQuantity := 100
    capitalReservationId := "R1"
    clientOrderIdNamed := by decide +kernel }

def sampleEntryRequest : EntryRequest :=
  { reservationId := "R1", environment := "PROD", accountNo := "1", symbol := "AAPL"
    attemptGroupId := "g1", notional := 1000, openRisk := 0, notionalNonneg := by norm_num }

/-- A thousand of buying power. -/
def samplePower : String → String → ℚ := fun _ _ => 1000

def unsubmittedBooks : AccountBooks := { orders := [], ledger := CapitalLedger.start [] }

def submittedBooks : AccountBooks :=
  { orders := [sampleEntryOrder]
    ledger := okOr (transact samplePower unsubmittedBooks.ledger
      (.insert sampleEntryRequest none)) unsubmittedBooks.ledger }

theorem entrySubmission_sample :
    EntrySubmission "PROD" "1" samplePower unsubmittedBooks sampleEntryOrder
      submittedBooks where
  side := rfl
  intent := rfl
  quantity := by decide +kernel
  limit := by decide +kernel
  unfilled := by decide +kernel
  reserved := ⟨sampleEntryRequest, none, rfl, rfl, rfl, by decide +kernel,
    eq_okOr (by decide +kernel)⟩
  inserted := rfl
  clientIds := by decide +kernel
  named := by decide +kernel
  fresh := fun other hOther => by cases hOther

theorem logged_unsubmitted : Logged unsubmittedBooks.ledger :=
  { versioned := Versioned.start (by decide)
    prepared := fun pair hPair => by cases hPair }

/-- Forty of the hundred shares are filled at ten. -/
def fortyFilledSnapshot : AccountBrokerSnapshot :=
  { sampleSnapshot with
    completeness := { openOrdersComplete := true, historyComplete := true }
    orders := [{ sampleRow with
      status := .partiallyFilled, quantityRequested := 100, filledQuantity := 40
      remainingQuantity := 60, avgFillPrice := 10, limitPrice := 10 }] }

/-- The books after a pass on that snapshot. -/
def passedBooks (books : AccountBooks) (localState : AccountLocalState) : AccountBooks :=
  let plan := returnedPlan
    (reduceAccountReconciliation sampleRuntime fortyFilledSnapshot localState)
  { orders := plan.reducedOrders localState
    ledger := okOr (applyReservationUpdates books.ledger plan.reservationUpdates)
      books.ledger }

theorem holdStep_passedBooks {books : AccountBooks}
    (hOrders : localState.executionOrders = books.orders)
    (hReservations : localState.capitalReservations =
      activeReservations books.ledger.rows "PROD" "1")
    (hPlan : (reduceAccountReconciliation sampleRuntime fortyFilledSnapshot localState).isOk = true)
    (hApplied : (applyReservationUpdates books.ledger (returnedPlan
      (reduceAccountReconciliation sampleRuntime fortyFilledSnapshot
        localState)).reservationUpdates).isOk = true) :
    HoldStep "PROD" "1" samplePower books (.pass fortyFilledSnapshot)
      (passedBooks books localState) :=
  .pass rfl rfl hOrders hReservations (eq_returnedPlan hPlan) (eq_okOr hApplied)

def submittedLocal : AccountLocalState :=
  { executionOrders := submittedBooks.orders
    capitalReservations := activeReservations submittedBooks.ledger.rows "PROD" "1" }

def filledBooks : AccountBooks := passedBooks submittedBooks submittedLocal

theorem holdStep_filled :
    HoldStep "PROD" "1" samplePower submittedBooks (.pass fortyFilledSnapshot) filledBooks :=
  holdStep_passedBooks rfl rfl (by decide +kernel) (by decide +kernel)

theorem holdRun_sample :
    HoldRun (fun books event => ObservesAtLimit "c1" books event ∧
        SettlesWholeRequest "c1" books event) "PROD" "1" samplePower submittedBooks
        filledBooks ∧
      filledBooks.orders.map (·.status) = [.partiallyFilled] ∧
      ∀ current ∈ filledBooks.orders, current.clientOrderId = "c1" →
        current.status.isOpen = true → ReservationCovers current filledBooks.ledger.rows := by
  have hObserves : ObservesAtLimit "c1" submittedBooks (.pass fortyFilledSnapshot) := by
    unfold ObservesAtLimit
    decide +kernel
  have hWhole : SettlesWholeRequest "c1" submittedBooks (.pass fortyFilledSnapshot) := by
    unfold SettlesWholeRequest
    decide +kernel
  have hRun : HoldRun (fun books event => ObservesAtLimit "c1" books event ∧
      SettlesWholeRequest "c1" books event) "PROD" "1" samplePower submittedBooks
      filledBooks := HoldRun.start.step ⟨hObserves, hWhole⟩ holdStep_filled
  refine ⟨hRun, by decide +kernel, ?_⟩
  exact holdRun_reservationCovers logged_unsubmitted entrySubmission_sample hRun

/-- The replacement is for the sixty shares left. -/
def sampleRemainder : ReplacementRequest :=
  { environment := "PROD", accountNo := "1", symbol := "AAPL", notional := 600, openRisk := 0 }

def sampleRemainderSpec : PortfolioRiskReservationSpec :=
  { sampleRiskSpec with proposedNotionalUsd := 600 }

def preparedBooks : AccountBooks :=
  { filledBooks with
    ledger := okOr (transact samplePower filledBooks.ledger
      (.prepare "R1" sampleRemainder sampleRemainderSpec)) filledBooks.ledger }

/-- The order as the cancel of its replacement finds it. -/
def filledOrder : ExecutionOrderRecord := preparedBooks.orders.headD sampleEntryOrder

def cancellingBooks : AccountBooks :=
  { preparedBooks with
    orders := store ExecutionOrderRecord.clientOrderId
      (okOr (cancelStage sampleTime filledOrder .requested) filledOrder)
      preparedBooks.orders }

def cancellingLocal : AccountLocalState :=
  { executionOrders := cancellingBooks.orders
    capitalReservations := activeReservations cancellingBooks.ledger.rows "PROD" "1" }

/-- The books once the broker still shows the order partially filled. -/
def observedBooks : AccountBooks := passedBooks cancellingBooks cancellingLocal

/-- The prepare rewrote the request to the remainder of 600, and the pass subtracts
the same fill of 400 from it again: 200 is held for sixty shares at ten. -/
theorem replacement_uncovers :
    ¬ ∀ books, HoldRun (ObservesAtLimit "c1") "PROD" "1" samplePower submittedBooks books →
      ∀ current ∈ books.orders, current.clientOrderId = "c1" →
        current.status.isOpen = true → ReservationCovers current books.ledger.rows := by
  intro h
  have hRows : ∀ books : AccountBooks, books.orders.all (fun order =>
        order.brokerOrderId = "B1" && order.submittedLimitPrice = 10 &&
          order.submittedQuantity = 100) = true →
      ObservesAtLimit "c1" books (.pass fortyFilledSnapshot) := by
    intro books hOrders order hOrder _ row hRow
    have hFields := List.all_eq_true.mp hOrders order hOrder
    simp only [Bool.and_eq_true, decide_eq_true_eq] at hFields
    have hOnly : row ∈ fortyFilledSnapshot.orders := List.mem_of_mem_filter hRow
    simp only [fortyFilledSnapshot, List.mem_singleton] at hOnly
    rw [hOnly, hFields.1.2, hFields.2]
    exact ⟨by decide +kernel, fun _ => by decide +kernel⟩
  have hPrepared : HoldStep "PROD" "1" samplePower filledBooks
      (.prepare "R1" sampleRemainder sampleRemainderSpec) preparedBooks :=
    .prepare (eq_okOr (by decide +kernel))
  have hRecord : lookup ExecutionOrderRecord.clientOrderId "c1" preparedBooks.orders =
      some filledOrder := by
    decide +kernel
  have hStage : cancelStage sampleTime filledOrder .requested =
      .ok (okOr (cancelStage sampleTime filledOrder .requested) filledOrder) :=
    eq_okOr (by decide +kernel)
  have hCancelling : HoldStep "PROD" "1" samplePower preparedBooks (.cancel "c1" .requested)
      cancellingBooks := .cancel hRecord hStage
  have hObserved : HoldStep "PROD" "1" samplePower cancellingBooks
      (.pass fortyFilledSnapshot) observedBooks :=
    holdStep_passedBooks rfl rfl (by decide +kernel) (by decide +kernel)
  have hFilled : HoldRun (ObservesAtLimit "c1") "PROD" "1" samplePower submittedBooks
      filledBooks := HoldRun.start.step (hRows _ (by decide +kernel)) holdStep_filled
  have hHeld : HoldRun (ObservesAtLimit "c1") "PROD" "1" samplePower submittedBooks
      preparedBooks := hFilled.step (show ObservesAtLimit "c1" filledBooks
        (.prepare "R1" sampleRemainder sampleRemainderSpec) from trivial) hPrepared
  have hSent : HoldRun (ObservesAtLimit "c1") "PROD" "1" samplePower submittedBooks
      cancellingBooks := hHeld.step (show ObservesAtLimit "c1" preparedBooks
        (.cancel "c1" .requested) from trivial) hCancelling
  have hRun : HoldRun (ObservesAtLimit "c1") "PROD" "1" samplePower submittedBooks
      observedBooks := hSent.step (hRows _ (by decide +kernel)) hObserved
  have hLive : ∃ current ∈ observedBooks.orders, current.clientOrderId = "c1" ∧
      current.status.isOpen = true ∧ openExposure current = 600 ∧
      (lookup CapitalReservation.reservationId current.capitalReservationId
        observedBooks.ledger.rows).map (·.remainingReservedNotional) = some 200 := by
    decide +kernel
  obtain ⟨current, hCurrent, hId, hOpen, hExposure, hRemaining⟩ := hLive
  obtain ⟨reservation, hFound, hCovers⟩ := h _ hRun current hCurrent hId hOpen
  rw [hFound, Option.map_some, Option.some.injEq] at hRemaining
  have hHold := hCovers.hold
  rw [hExposure, hRemaining] at hHold
  norm_num at hHold

end QuantApp.Services
