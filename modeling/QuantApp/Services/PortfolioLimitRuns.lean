import QuantApp.Services.ReservationLimits

/-!
# Portfolio limits over a window

What the window between the evaluation of an entry and the check of its reservation does
to the reservations the snapshot counted, and what the check then guarantees.
-/

namespace QuantApp.Services

open Core Risk Verified
open CapitalReservation (create reservationId)

variable {buyingPower : String → String → ℚ} {exposure : PortfolioProjectedExposure}
  {rows : List CapitalReservation} {environment accountNo : String} {cards : List TradeCardState}
  {ledger next : CapitalLedger} {transaction : CapitalTransaction}
  {P : RiskBooks → RiskEvent → Prop} {start finish : RiskBooks} {row : CapitalReservation}
  {snapshot : PortfolioRiskSnapshot}

/-! ## Exposures that a reservation holds -/

theorem makeExposure_id {symbol : String} {gross risk : ℚ} {source reservationId : String}
    {groups : RiskGroups}
    (h : makeExposure symbol gross risk source reservationId groups = .ok exposure) :
    exposure.reservationId = reservationId := by
  unfold makeExposure at h
  repeat' split at h
  all_goals cases h
  rfl

/-- An exposure that names a reservation names one of `rows`. -/
def NamesOneOf (rows : List CapitalReservation) (exposure : PortfolioProjectedExposure) : Prop :=
  exposure.reservationId ≠ "" → ∃ row ∈ rows, row.reservationId = exposure.reservationId

theorem pendingExposure_names {order : ExecutionOrderRecord}
    (h : pendingExposure cards (openReservations rows) order = .ok exposure) :
    NamesOneOf rows exposure := by
  intro hNamed
  have hId : exposure.reservationId = activeReservationId (openReservations rows) order :=
    makeExposure_id h
  rw [hId] at hNamed ⊢
  unfold activeReservationId at hNamed ⊢
  split at hNamed
  next hOpen =>
    rw [if_pos hOpen]
    obtain ⟨row, hRow⟩ := Dictionary.exists_get? hOpen
    unfold openReservations at hRow
    rw [Dictionary.get?_fileUnder] at hRow
    refine ⟨row, ?_, by simpa using List.find?_some hRow⟩
    exact (List.mem_filter.mp (List.mem_reverse.mp (List.mem_of_find?_eq_some hRow))).1
  · exact absurd rfl hNamed

/-- Every exposure that names a reservation names one that was active. -/
theorem portfolioProjectedExposures_names {executionOrders : List ExecutionOrderRecord}
    {externalOrders : List DiscoveredExternalOrder} {exposures : List PortfolioProjectedExposure}
    (h : portfolioProjectedExposures cards executionOrders rows externalOrders =
      .ok exposures) : ∀ exposure ∈ exposures, NamesOneOf rows exposure := by
  obtain ⟨pending, hPending, hRest⟩ := bind_eq_ok.mp h
  obtain ⟨held, hHeld, hRest⟩ := bind_eq_ok.mp hRest
  obtain ⟨external, hExternal, hPure⟩ := bind_eq_ok.mp hRest
  cases hPure
  have hPendingNamed : ∀ exposure ∈ pending.exposures, NamesOneOf rows exposure := by
    apply foldlM_invariant
      (fun projection : PendingProjection =>
        ∀ exposure ∈ projection.exposures, NamesOneOf rows exposure) _ _ hPending
    · simp
    · intro before order after _ hBefore hStep
      unfold addPendingExposure at hStep
      dsimp only at hStep
      split at hStep
      · split at hStep
        · cases hStep
        · split at hStep
          · cases hStep
            exact hBefore
          · obtain ⟨exposure, hExposure, rfl⟩ := map_eq_ok.mp hStep
            exact forall_mem_concat hBefore (pendingExposure_names hExposure)
      · cases hStep
        exact hBefore
  intro exposure hExposure
  rcases List.mem_append.mp hExposure with hKnown | hUnowned
  · rcases List.mem_append.mp hKnown with hFirst | hSecond
    · exact hPendingNamed exposure hFirst
    · obtain ⟨row, hRow, hMade⟩ := forall₂_mem_right (mapM_forall₂ hHeld) hSecond
      intro _
      have hActive := 
        (List.mem_filter.mp (Dictionary.mem_of_mem_fileUnder (List.mem_filter.mp hRow).1)).1
      exact ⟨row, hActive, (makeExposure_id hMade).symm⟩
  · obtain ⟨order, _, hMade⟩ := forall₂_mem_right (mapM_forall₂ hExternal) hUnowned
    unfold externalExposure at hMade
    split at hMade
    · cases hMade
    · intro hNamed
      exact absurd (makeExposure_id hMade) hNamed

/-! ## What a transaction does to the rows -/

/-- A transaction writes one stored row or appends a row with a new id, and logs it. -/
theorem transact_change (h : transact buyingPower ledger transaction = .ok next) :
    (∃ before after, RowWrite ledger next before after) ∨
      ∃ row, next.rows = ledger.rows ++ [row] ∧ ∃ logged, next.history =
        ledger.history ++ logged := by
  cases transaction with
  | insert request =>
    obtain ⟨rows, hInserted, hNext⟩ := bind_eq_ok.mp h
    cases hNext
    obtain ⟨_, rfl, _⟩ := insertReservationIfAvailable_ok hInserted
    exact Or.inr ⟨request.reservation, rfl, _, rfl⟩
  | prepare originalReservationId request =>
    obtain ⟨⟨rows, prepared, previous⟩, hPrepare, hNext⟩ := bind_eq_ok.mp h
    cases hNext
    obtain ⟨hActive, _, _, hUpdate⟩ := prepareReservationForReplacement_ok hPrepare
    have hKey : (preparedHold previous request).reservationId = originalReservationId := by
      show previous.reservationId = originalReservationId
      exact lookup_key hActive
    obtain ⟨stored, _, _, hWrite⟩ := rowWrite_of_update hUpdate
    rw [hKey] at hWrite
    apply Or.inl
    exact ⟨stored, _, { hWrite with }⟩
  | activate preparedReservationId expectedVersion request =>
    obtain ⟨⟨rows, activated⟩, hActivate, hNext⟩ := bind_eq_ok.mp h
    cases hNext
    obtain ⟨reservation, hFound, _, _, _, _, hUpdate⟩ :=
      activatePreparedReplacementReservation_ok hActivate
    have hKey : (activatedHold reservation request).reservationId =
        preparedReservationId := by
      show reservation.reservationId = preparedReservationId
      exact lookup_key hFound
    obtain ⟨stored, _, _, hWrite⟩ := rowWrite_of_update hUpdate
    rw [hKey] at hWrite
    exact Or.inl ⟨stored, _, hWrite⟩
  | restore =>
    obtain ⟨⟨rows, restored⟩, hRestore, hNext⟩ := bind_eq_ok.mp h
    cases hNext
    obtain ⟨stored, _, _, hWrite⟩ :=
      rowWrite_of_update (restorePreparedReplacementReservation_ok hRestore)
    exact Or.inl ⟨stored, _, hWrite⟩
  | write =>
    obtain ⟨⟨rows, updated⟩, hUpdate, hNext⟩ := bind_eq_ok.mp h
    cases hNext
    obtain ⟨stored, _, _, hWrite⟩ := rowWrite_of_update hUpdate
    rw [reservationId_mutations] at hWrite
    exact Or.inl ⟨stored, _, hWrite⟩

/-! ## A reservation across the window -/

/-- The reservation `id` of the account still stands, open unless one of the transactions
since `logged` closed it. -/
def Followed (id environment accountNo : String) (logged : List CapitalReservation)
    (ledger : CapitalLedger) : Prop :=
  ∃ since row, ledger.history = logged ++ since ∧
    lookup CapitalReservation.reservationId id ledger.rows = some row ∧
    ofAccount environment accountNo row = true ∧
    (row.isOpen = true ∨ ∃ closed ∈ since, closed.reservationId = id ∧ closed.isOpen = false)

theorem Followed.transact {id : String} {logged : List CapitalReservation}
    (h : Followed id environment accountNo logged ledger)
    (hOk : transact buyingPower ledger transaction = .ok next) :
    Followed id environment accountNo logged next := by
  obtain ⟨since, row, hHistory, hFound, hAccount, hOpen⟩ := h
  rcases transact_change hOk with ⟨before, after, hWrite⟩ | ⟨fresh, hRows, more, hMore⟩
  · have hNext : next.history = logged ++ (since ++ [after]) := by
      rw [hWrite.history, hHistory, List.append_assoc]
    by_cases hSame : after.reservationId = id
    · -- the reservation itself was written
      have hBefore : before = row := by
        have hFound' := hWrite.found
        rw [hSame, hFound] at hFound'
        exact (Option.some.inj hFound').symm
      have hAfter : lookup reservationId id next.rows = some after := by
        rw [hWrite.rows, ← hSame]
        exact lookup_store_self hWrite.found
      have hOwned : ofAccount environment accountNo after = true := by
        rw [hWrite.ofAccount_eq, hBefore]
        exact hAccount
      refine ⟨since ++ [after], after, hNext, hAfter, hOwned, ?_⟩
      cases hStill : after.isOpen with
      | true => exact Or.inl rfl
      | false => exact Or.inr ⟨after, by simp, hSame, hStill⟩
    · have hKept : lookup reservationId id next.rows = some row := by
        rw [hWrite.rows, lookup_store_of_ne (fun hEq => hSame hEq.symm)]
        exact hFound
      refine ⟨since ++ [after], row, hNext, hKept, hAccount, ?_⟩
      rcases hOpen with hStill | ⟨closed, hMem, hClosed⟩
      · exact Or.inl hStill
      · exact Or.inr ⟨closed, List.mem_append_left _ hMem, hClosed⟩
  · have hKept : lookup reservationId id next.rows = some row := by
      rw [hRows, lookup_append, hFound]
      rfl
    have hNext : next.history = logged ++ (since ++ more) := by
      rw [hMore, hHistory, List.append_assoc]
    refine ⟨since ++ more, row, hNext, hKept, hAccount, ?_⟩
    rcases hOpen with hStill | ⟨closed, hMem, hClosed⟩
    · exact Or.inl hStill
    · exact Or.inr ⟨closed, List.mem_append_left _ hMem, hClosed⟩

section

variable (hRun : RunWith (RiskStep buyingPower) P start finish)
  (hKeyed : Keyed reservationId start.ledger.rows)
  (hActive : row ∈ activeReservations start.ledger.rows environment accountNo)
include hRun hKeyed hActive

/-- A reservation that was active is followed through any run. -/
theorem run_followed :
    Followed row.reservationId environment accountNo start.ledger.history finish.ledger := by
  apply RunWith.invariant
    (I := fun books => Followed row.reservationId environment accountNo start.ledger.history
      books.ledger) hRun
  · obtain ⟨hMem, hFacts⟩ := List.mem_filter.mp hActive
    rw [Bool.and_eq_true] at hFacts
    exact ⟨[], row, by simp, hKeyed.lookup_of_mem hMem, hFacts.1, Or.inl hFacts.2⟩
  · intro before event after hBefore _ hStep
    cases event with
    | capital =>
      obtain ⟨ledger, hOk, rfl⟩ := hStep
      exact hBefore.transact hOk
    | project card =>
      have hAfter : after =
          { before with cards := store TradeCardState.cardKey card before.cards } := hStep
      rw [hAfter]
      exact hBefore

/-! ## Nothing is left out -/

/-- No exposure of before the check is in neither half: the positions held at the check
and the unreserved exposures of the snapshot are in the baseline, and a reservation the
snapshot counted is re-read, unless a transaction of the window closed it. -/
structure NothingLeftOut (start finish : RiskBooks) (environment accountNo : String)
    (exposures : List PortfolioProjectedExposure) (held : List PortfolioPositionRisk)
    (baseline : List RiskItem) : Prop where
  positions : ∀ position ∈ held, ∃ item ∈ baseline, item.symbol = position.symbol ∧
    position.notional ≤ item.notional ∧ position.openRisk ≤ item.openRisk
  unreserved : ∀ exposure ∈ exposures, exposure.reservationId = "" → exposure.item ∈ baseline
  reserved : ∀ exposure ∈ exposures, exposure.reservationId ≠ "" →
    (∃ row ∈ activeReservations finish.ledger.rows environment accountNo,
      row.reservationId = exposure.reservationId) ∨
    ∃ closed ∈ finish.ledger.history.drop start.ledger.history.length,
      closed.reservationId = exposure.reservationId ∧ closed.isOpen = false

theorem reserved_or_closed :
    (∃ kept ∈ activeReservations finish.ledger.rows environment accountNo,
      kept.reservationId = row.reservationId) ∨
    ∃ closed ∈ finish.ledger.history.drop start.ledger.history.length,
      closed.reservationId = row.reservationId ∧ closed.isOpen = false := by
  obtain ⟨since, kept, hHistory, hFound, hAccount, hOpen⟩ := run_followed hRun hKeyed hActive
  rcases hOpen with hOpen | hClosed
  · apply Or.inl
    refine ⟨kept, ?_, lookup_key hFound⟩
    apply List.mem_filter.mpr
    refine ⟨lookup_mem hFound, ?_⟩
    rw [Bool.and_eq_true]
    exact ⟨hAccount, hOpen⟩
  · apply Or.inr
    rw [hHistory, List.drop_left]
    exact hClosed

end

/-! ## The baseline -/

theorem accountCards_notRaised {trusted : TradeCardState → Option ℚ}
    {earlier later : List TradeCardState}
    (h : List.Forall₂ (NotRaised trusted) earlier later) (environment accountNo : String) :
    List.Forall₂ (NotRaised trusted) (accountCards environment accountNo earlier)
      (accountCards environment accountNo later) := by
  apply List.rel_filter _ h
  intro old new hSame
  have hEnvironment : new.environment = old.environment :=
    congrArg (fun key : CardKey => key.1) hSame.key
  have hAccount : new.accountNo = old.accountNo := congrArg (fun key : CardKey => key.2.1) hSame.key
  simp [hEnvironment, hAccount]

theorem atomicBaseline_heldBy {held : List RiskItem}
    (h : HeldBy (snapshot.positions.map (·.item)) held) :
    HeldBy (atomicBaseline snapshot "") held := by
  apply h.append_left
  intro item hItem
  obtain ⟨exposure, _, rfl⟩ := List.mem_map.mp hItem
  exact ⟨exposure.grossPositive.le, exposure.openRiskNonneg⟩

theorem mem_atomicBaseline (hMem : exposure ∈ snapshot.projectedExposures)
    (hFree : exposure.reservationId = "") : exposure.item ∈ atomicBaseline snapshot "" := by
  apply List.mem_append_right
  apply List.mem_map_of_mem
  simp [remainingExposures, hMem, hFree]

theorem baselineHolds_of_heldBy {limits : PortfolioRiskLimits}
    {proposal : ProposedPortfolioEntry} {proposed : PortfolioPositionRisk} {equity : ℚ}
    {baseline : List RiskItem} {held : List PortfolioPositionRisk}
    (h : HeldBy baseline (held.map (·.item))) :
    BaselineHolds (reservationSpecOf limits proposal proposed equity baseline)
      (held.map (·.item)) where
  symbols := by
    intro item hItem
    obtain ⟨other, hOther, hSymbol, _⟩ := h.each item hItem
    obtain ⟨position, _, rfl⟩ := List.mem_map.mp hItem
    apply List.mem_filter.mpr
    refine ⟨List.mem_map.mpr ⟨other, hOther, hSymbol⟩, ?_⟩
    exact decide_eq_true position.symbolNamed
  openRisk := h.openRisk
  gross := h.notional
  single := h.single _

/-! ## The limits at the reservation -/

/-- If no fill raises a position between the evaluation of an entry and the check of its
reservation, an inserted reservation respects the limits with what is held then, and no
exposure of before is left out. -/
theorem limits_hold_at_reservation {buyingPower : String → String → ℚ}
    {trusted : TradeCardState → Option ℚ} {start finish : RiskBooks}
    {evaluation : EntryEvaluation} {snapshot : PortfolioRiskSnapshot}
    {spec : PortfolioRiskReservationSpec} {reservation : CapitalReservation} {power : ℚ}
    {written : List CapitalReservation} {held : List PortfolioPositionRisk}
    (hKeyed : Keyed CapitalReservation.reservationId start.ledger.rows)
    (hSnapshot : evaluation.snapshot trusted start = .ok snapshot)
    (hSpec : (evaluateEntry evaluation.limits evaluation.proposal snapshot
      "").reservationSpec = some spec)
    (hRun : RunWith (RiskStep buyingPower) (RaisesNone trusted) start finish)
    (hRequested : 0 < reservation.requestedNotional)
    (hInserted : insertReservationIfAvailable finish.ledger.rows reservation power
      (some spec) = .ok written)
    (hHeld : portfolioPositions trusted
      (accountCards spec.environment spec.accountNo finish.cards) = .ok held) :
    WithinLimits spec (held.map (·.item))
        (activeReservations finish.ledger.rows spec.environment spec.accountNo) ∧
      NothingLeftOut start finish spec.environment spec.accountNo
        snapshot.projectedExposures held (atomicBaseline snapshot "") := by
  obtain ⟨proposed, hProposed, rfl⟩ := evaluateEntry_spec hSpec
  obtain ⟨positions, hPositions, hRest⟩ := bind_eq_ok.mp hSnapshot
  obtain ⟨exposures, hExposures, hPure⟩ := bind_eq_ok.mp hRest
  cases hPure
  have hCards := accountCards_notRaised (run_notRaised hRun)
    evaluation.proposal.environment evaluation.proposal.accountNo
  have hBaseline : HeldBy
      (atomicBaseline
        { evaluation.account with
          positions := positions
          projectedExposures := exposures } "") (held.map (·.item)) :=
    atomicBaseline_heldBy (heldBy_of_notRaised hCards hPositions hHeld)
  have hChecked := insertReservationIfAvailable_checked hRequested hInserted
  constructor
  · have hScope := requireProjectedPortfolioCapacity_scope hChecked
    rw [← hScope.1, ← hScope.2] at hChecked
    exact withinLimits_of_capacity hChecked (baselineHolds_of_heldBy hBaseline)
  · exact
      { positions := by
          intro position hPosition
          obtain ⟨item, hItem, hFacts⟩ := hBaseline.each position.item
            (List.mem_map_of_mem hPosition)
          exact ⟨item, hItem, hFacts⟩
        unreserved := fun exposure hMem hFree => mem_atomicBaseline hMem hFree
        reserved := by
          intro exposure hMem hNamed
          obtain ⟨row, hRow, hId⟩ :=
            portfolioProjectedExposures_names hExposures exposure hMem hNamed
          rw [← hId]
          exact reserved_or_closed hRun hKeyed hRow }

/-! ## A fill between the two -/

deriving instance DecidableEq for PortfolioRiskReservationSpec

/-- IBM is held; a BUY of MSFT is pending, with its reservation. -/
def ibmHeld : TradeCardState :=
  { environment := "PROD", accountNo := "1", symbol := "IBM", brokerQuantity := 30
    averageEntryPrice := 10, activeStopPrice := some (99 / 10) }

def msftPending : TradeCardState :=
  { environment := "PROD", accountNo := "1", symbol := "MSFT", entryOrbLow := some (99 / 10) }

def msftFilled : TradeCardState :=
  { msftPending with
    brokerQuantity := 30
    averageEntryPrice := 10
    activeStopPrice := some (99 / 10) }

def msftOrder : ExecutionOrderRecord :=
  { environment := "PROD", accountNo := "1", symbol := "MSFT", side := .buy, intent := .entry
    clientOrderId := "c1", brokerOrderId := "B1", submittedQuantity := 30
    submittedLimitPrice := 10, preparedAt := isoformat 0, status := .working
    remainingQuantity := 30, brokerIdentityStatus := .exact_
    capitalReservationId := "r1", clientOrderIdNamed := c1_ne_empty }

def msftReservation : CapitalReservation :=
  CapitalReservation.create "r1" "PROD" "1" "MSFT" "g1" 300 3

def windowStart : RiskBooks :=
  { cards := [ibmHeld, msftPending]
    ledger := { rows := [msftReservation], history := [msftReservation], prepared := [] } }

/-- Thirty AAPL at ten, on an equity of a thousand. -/
def aaplEvaluation : EntryEvaluation :=
  { limits := {}
    proposal :=
      { symbol := "AAPL", quantity := 30, referencePrice := 10, stopPrice := 99 / 10
        environment := "PROD", accountNo := "1", groups := kanbanGroups }
    account := { accountEquityUsd := 1000, usableBuyingPowerUsd := 2000, evaluatedAt := 0 }
    executionOrders := [msftOrder]
    externalOrders := [] }

/-- Its specification: the baseline is the position in IBM. -/
def aaplSpec : PortfolioRiskReservationSpec :=
  { environment := "PROD", accountNo := "1", symbol := "AAPL"
    proposedNotionalUsd := 300, proposedOpenRiskUsd := 3, accountEquityUsd := 1000
    baselinePositionSymbols := ["IBM"], baselineOpenRiskUsd := 3
    baselineGrossNotionalUsd := 300, maxSimultaneousPositions := 30
    maxTotalOpenRiskFraction := 1 / 10, maxGrossNotionalFraction := 1
    maxSinglePositionNotionalFraction := 3 / 10 }

def aaplReservation : CapitalReservation :=
  CapitalReservation.create "r3" "PROD" "1" "AAPL" "g3" 300 3

/-- An entry of ORCL, evaluated after the fill. -/
def orclEntry : EntryRequest :=
  { reservationId := "r2", environment := "PROD", accountNo := "1", symbol := "ORCL"
    attemptGroupId := "g2", notional := 300, openRisk := 3, notionalNonneg := by norm_num }

def orclSpec : PortfolioRiskReservationSpec :=
  { aaplSpec with
    symbol := "ORCL"
    baselinePositionSymbols := ["IBM", "MSFT"]
    baselineOpenRiskUsd := 6
    baselineGrossNotionalUsd := 600 }

/-- No price beside the card's own. -/
def noTrustedPrice : TradeCardState → Option ℚ := fun _ => none

/-- The reservation of MSFT is released in the window. -/
theorem limits_hold_at_reservation_released :
    ∃ snapshot finish held, aaplEvaluation.snapshot noTrustedPrice windowStart = .ok snapshot ∧
      WithinLimits aaplSpec (held.map PortfolioPositionRisk.item)
        (activeReservations finish.ledger.rows "PROD" "1") ∧
      NothingLeftOut windowStart finish "PROD" "1" snapshot.projectedExposures held
        (atomicBaseline snapshot "") := by
  have hAll : (do
      let snapshot ← aaplEvaluation.snapshot noTrustedPrice windowStart
      let released ← transact (fun _ _ => 2000) windowStart.ledger
        (.write msftReservation [.release 0])
      let _ ← insertReservationIfAvailable released.rows aaplReservation 2000 (some aaplSpec)
      let _ ← portfolioPositions noTrustedPrice (accountCards "PROD" "1" windowStart.cards)
      pure (evaluateEntry aaplEvaluation.limits aaplEvaluation.proposal snapshot
        "").reservationSpec) = .ok (some aaplSpec) := by
    decide +kernel
  obtain ⟨snapshot, hSnapshot, hRest⟩ := bind_eq_ok.mp hAll
  obtain ⟨released, hReleased, hRest⟩ := bind_eq_ok.mp hRest
  obtain ⟨written, hInserted, hRest⟩ := bind_eq_ok.mp hRest
  obtain ⟨held, hHeld, hPure⟩ := bind_eq_ok.mp hRest
  have hSpec := Except.ok.inj hPure
  have hRun : RunWith (RiskStep (fun _ _ => 2000)) (RaisesNone noTrustedPrice) windowStart
      { windowStart with ledger := released } := by
    have hRelease : RiskStep (fun _ _ => 2000) windowStart
        (.capital (.write msftReservation [.release 0]))
        { windowStart with ledger := released } := ⟨released, hReleased, rfl⟩
    have hRaises : RaisesNone noTrustedPrice windowStart
        (.capital (.write msftReservation [.release 0])) := trivial
    exact (RunWith.refl windowStart).step hRaises hRelease
  have hKeyed : Keyed CapitalReservation.reservationId windowStart.ledger.rows := by decide
  have hRequested : 0 < aaplReservation.requestedNotional := by decide +kernel
  refine ⟨snapshot, { windowStart with ledger := released }, held, hSnapshot, ?_⟩
  exact limits_hold_at_reservation hKeyed hSnapshot hSpec hRun hRequested hInserted hHeld

/-- MSFT fills, its reservation is consumed, and ORCL is evaluated and reserved: the check
of AAPL still passes, with MSFT in neither half and the gross limit exceeded. -/
theorem fill_left_out :
    ∃ snapshot finish written held,
      aaplEvaluation.snapshot noTrustedPrice windowStart = .ok snapshot ∧
      (evaluateEntry aaplEvaluation.limits aaplEvaluation.proposal snapshot
        "").reservationSpec = some aaplSpec ∧
      RunWith (RiskStep (fun _ _ => 2000)) (fun _ _ => True) windowStart finish ∧
      insertReservationIfAvailable finish.ledger.rows aaplReservation 2000 (some aaplSpec) =
        .ok written ∧
      portfolioPositions noTrustedPrice (accountCards "PROD" "1" finish.cards) = .ok held ∧
      ¬WithinLimits aaplSpec (held.map PortfolioPositionRisk.item)
        (activeReservations finish.ledger.rows "PROD" "1") ∧
      ¬NothingLeftOut windowStart finish "PROD" "1" snapshot.projectedExposures held
        (atomicBaseline snapshot "") := by
  have hAll : (do
      let snapshot ← aaplEvaluation.snapshot noTrustedPrice windowStart
      let settled ← transact (fun _ _ => 2000) windowStart.ledger
        (.write msftReservation [.consume 300])
      let reserved ← transact (fun _ _ => 2000) settled (.insert orclEntry (some orclSpec))
      let _ ← insertReservationIfAvailable reserved.rows aaplReservation 2000 (some aaplSpec)
      let held ← portfolioPositions noTrustedPrice
        (accountCards "PROD" "1" [ibmHeld, msftFilled])
      pure ((evaluateEntry aaplEvaluation.limits aaplEvaluation.proposal snapshot
          "").reservationSpec,
        totalNotional (held.map PortfolioPositionRisk.item) +
          reservedNotional (activeReservations reserved.rows "PROD" "1"),
        held.map PortfolioPositionRisk.symbol,
        (atomicBaseline snapshot "").map RiskItem.symbol)) =
      .ok (some aaplSpec, 900, ["IBM", "MSFT"], ["IBM"]) := by
    decide +kernel
  obtain ⟨snapshot, hSnapshot, hRest⟩ := bind_eq_ok.mp hAll
  obtain ⟨settled, hSettled, hRest⟩ := bind_eq_ok.mp hRest
  obtain ⟨reserved, hReserved, hRest⟩ := bind_eq_ok.mp hRest
  obtain ⟨written, hInserted, hRest⟩ := bind_eq_ok.mp hRest
  obtain ⟨held, hHeld, hPure⟩ := bind_eq_ok.mp hRest
  have hValues := Except.ok.inj hPure
  simp only [Prod.mk.injEq] at hValues
  obtain ⟨hSpec, hGross, hSymbols, hBaseline⟩ := hValues
  have hRun : RunWith (RiskStep (fun _ _ => 2000)) (fun _ _ => True) windowStart
      { cards := [ibmHeld, msftFilled], ledger := reserved } := by
    have hFill : RiskStep (fun _ _ => 2000) windowStart (.project msftFilled)
        { windowStart with cards := [ibmHeld, msftFilled] } := rfl
    have hSettle : RiskStep (fun _ _ => 2000)
        { windowStart with cards := [ibmHeld, msftFilled] }
        (.capital (.write msftReservation [.consume 300]))
        { cards := [ibmHeld, msftFilled], ledger := settled } := ⟨settled, hSettled, rfl⟩
    have hReserve : RiskStep (fun _ _ => 2000)
        { cards := [ibmHeld, msftFilled], ledger := settled }
        (.capital (.insert orclEntry (some orclSpec)))
        { cards := [ibmHeld, msftFilled], ledger := reserved } := ⟨reserved, hReserved, rfl⟩
    exact (((RunWith.refl windowStart).step trivial hFill).step trivial hSettle).step trivial
      hReserve
  refine ⟨snapshot, { cards := [ibmHeld, msftFilled], ledger := reserved }, written, held,
    hSnapshot, hSpec, hRun, hInserted, hHeld, ?_, ?_⟩
  · intro hWithin
    have hGrossLimit := hWithin.gross (by decide +kernel)
    rw [hGross] at hGrossLimit
    revert hGrossLimit
    decide +kernel
  · intro hNothing
    have hMsft : "MSFT" ∈ held.map PortfolioPositionRisk.symbol := by
      rw [hSymbols]
      decide
    obtain ⟨position, hPosition, hName⟩ := List.mem_map.mp hMsft
    obtain ⟨item, hItem, hSymbol, _⟩ := hNothing.positions position hPosition
    have hCounted : item.symbol ∈ (atomicBaseline snapshot "").map RiskItem.symbol :=
      List.mem_map_of_mem hItem
    rw [hBaseline, hSymbol, hName] at hCounted
    revert hCounted
    decide

end QuantApp.Services
