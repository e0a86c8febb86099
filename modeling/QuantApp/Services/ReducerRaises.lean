import QuantApp.Services.ClaimedRows
import QuantApp.Services.CardRun

/-!
# Where a pass can raise

A pass raises in four places only: a row that advances the status of an order
validates the record, a holding without a card builds one, and the absence
checks of orders and of orphan reservations subtract a stored first
observation.  For each of them this module says exactly when it does.
-/

namespace QuantApp.Services

open Core Verified
open TradeCardState (cardKey)

variable {snapshot : AccountBrokerSnapshot} {state : ReduceState}
  {rows : List BrokerOrderStatusSnapshot} {config : ExecutionConfig}
  {row : BrokerOrderStatusSnapshot} {orders xs ys : List ExecutionOrderRecord}
  {order before after : ExecutionOrderRecord} {holding : AccountHoldingSnapshot} {runtime : Runtime}
  {localState : AccountLocalState} {reservation : CapitalReservation}

/-! ## Projections and recovery never raise -/

theorem projectPartialSell_succeeds (config : ExecutionConfig) (order : ExecutionOrderRecord)
    (row : BrokerOrderStatusSnapshot) (snapshot : AccountBrokerSnapshot)
    (holding : Option AccountHoldingSnapshot) (card : TradeCardState) :
    ∃ result, projectPartialSell config order row snapshot holding card = .ok result := by
  unfold projectPartialSell
  split
  · exact ⟨_, rfl⟩
  split
  · exact ⟨_, rfl⟩
  split
  · exact ⟨_, rfl⟩
  dsimp only
  split
  · rw [confirmFlat_of_empty (le_refl 0)]
    exact ⟨_, rfl⟩
  split <;> exact ⟨_, rfl⟩

theorem projectLiquidation_succeeds (operational : ReconciliationCategory)
    (order : ExecutionOrderRecord) (row : BrokerOrderStatusSnapshot)
    (snapshot : AccountBrokerSnapshot) (holding : Option AccountHoldingSnapshot)
    (card : TradeCardState) :
    ∃ result, projectLiquidation operational order row snapshot holding card = .ok result := by
  unfold projectLiquidation
  split
  · exact ⟨_, rfl⟩
  split
  · exact ⟨_, rfl⟩
  split
  · exact ⟨_, rfl⟩
  dsimp only
  split
  · rename_i hEmpty
    rw [confirmFlat_of_empty (by exact hEmpty)]
    exact ⟨_, rfl⟩
  · exact ⟨_, rfl⟩

theorem projectExactOrderToCard_succeeds (config : ExecutionConfig)
    (order : ExecutionOrderRecord) (row : BrokerOrderStatusSnapshot)
    (snapshot : AccountBrokerSnapshot) (category : ReconciliationCategory)
    (card : TradeCardState) :
    ∃ result, projectExactOrderToCard config order row snapshot category card = .ok result := by
  unfold projectExactOrderToCard
  dsimp only
  split
  · exact ⟨_, rfl⟩
  · exact ⟨_, rfl⟩
  · exact projectPartialSell_succeeds _ _ _ _ _ _
  · exact projectLiquidation_succeeds _ _ _ _ _ _
  · exact projectLiquidation_succeeds _ _ _ _ _ _
  · exact projectLiquidation_succeeds _ _ _ _ _ _
  · exact ⟨_, rfl⟩

/-! ## The exact loop -/

/-- An order whose remaining rows can all be applied. -/
structure Applicable (rows : List BrokerOrderStatusSnapshot) (order : ExecutionOrderRecord) :
    Prop where
  sound : SoundRecord order
  fits : OrderRowsFit order (rowsFor order rows)

theorem rowsFor_of_exact (hExact : hasExactId order = true)
    (hId : row.brokerOrderId = order.brokerOrderId) :
    rowsFor order (row :: rows) = row :: rowsFor order rows := by
  simp [rowsFor, hExact, hId]

theorem reconcileExactRow_succeeds (runtime : Runtime) (snapshot : AccountBrokerSnapshot)
    (hOrders : ∀ order ∈ state.orders, hasExactId order = true → Applicable (row :: rows) order) :
    ∃ next, reconcileExactRow runtime snapshot state row = .ok next := by
  unfold reconcileExactRow
  cases hFound : exactOrderFor state.orders row.brokerOrderId with
  | none => exact ⟨_, rfl⟩
  | some exact =>
    obtain ⟨hMem, hExact, hId⟩ := exactOrderFor_some hFound
    have hApplicable := hOrders exact hMem hExact
    have hFits := hApplicable.fits
    rw [rowsFor_of_exact hExact hId.symm] at hFits
    obtain ⟨applied, contradiction, hApplied⟩ := applyExactOrderSnapshot_succeeds
      (hasExactId_identity hExact) hApplicable.sound hFits.1
    dsimp only
    unfold reconcileExactOrder
    rw [hApplied]
    simp only [bind, Except.bind]
    split
    · exact ⟨_, rfl⟩
    split
    · rename_i card _ _
      obtain ⟨projection, hProjection⟩ := projectExactOrderToCard_succeeds runtime.config
        applied row snapshot (categoryOf state.categories applied.clientOrderId) card
      rw [hProjection]
      exact ⟨_, rfl⟩
    · exact ⟨_, rfl⟩

theorem applicable_tail (hEffect : RowsEffect before (rowsFor before [row]) after)
    (hBefore : hasExactId before = true → Applicable (row :: rows) before)
    (hExact : hasExactId after = true) : Applicable rows after := by
  have hExactBefore : hasExactId before = true := by
    rw [← hEffect.same.hasExactId]
    exact hExact
  have hApplicable := hBefore hExactBefore
  have hTail : rowsFor after rows = rowsFor before rows := hEffect.same.rowsFor rows
  by_cases hId : row.brokerOrderId = before.brokerOrderId
  · have hOne : rowsFor before [row] = [row] := rowsFor_of_exact hExactBefore hId
    rw [hOne] at hEffect
    cases hEffect with
    | cons hRow hNil =>
      cases hNil
      refine { sound := hRow.sound hApplicable.sound (hasExactId_identity hExactBefore)
               fits := ?_ }
      have hFits := hApplicable.fits
      rw [rowsFor_of_exact hExactBefore hId] at hFits
      rw [hTail, hRow.rowsFit_tail]
      exact hFits.2
  · have hOne : rowsFor before [row] = [] := by simp [rowsFor, hId]
    have hCons : rowsFor before (row :: rows) = rowsFor before rows := by simp [rowsFor, hId]
    rw [hOne] at hEffect
    cases hEffect
    have hFits := hApplicable.fits
    rw [hCons] at hFits
    exact { sound := hApplicable.sound, fits := hFits }

theorem exactRows_succeed (runtime : Runtime) (snapshot : AccountBrokerSnapshot)
    (hKeyed : OrdersKeyed state.orders)
    (hOrders : ∀ order ∈ state.orders, hasExactId order = true → Applicable rows order) :
    ∃ final, rows.foldlM (reconcileExactRow runtime snapshot) state = .ok final := by
  induction rows generalizing state with
  | nil => exact ⟨state, rfl⟩
  | cons row rows ih =>
    obtain ⟨next, hNext⟩ := reconcileExactRow_succeeds runtime snapshot hOrders
    have hEffects := reconcileExactRow_orders hKeyed hNext
    have hKeyed' := hKeyed.of_same (hEffects.imp (fun _ _ hEffect => hEffect.same))
    have hOrders' : ∀ order ∈ next.orders, hasExactId order = true →
        Applicable rows order := by
      intro after hAfter
      obtain ⟨before, hBefore, hEffect⟩ := forall₂_mem_right hEffects hAfter
      exact applicable_tail hEffect (hOrders before hBefore)
    obtain ⟨final, hFinal⟩ := ih hKeyed' hOrders'
    exact ⟨final, foldlM_cons_ok.mpr ⟨next, hNext, hFinal⟩⟩

/-! ## Holdings -/

/-- A holding without a card of its own is one a card can be built for. -/
def HoldingBuildable (snapshot : AccountBrokerSnapshot) (keys : List CardKey)
    (holding : AccountHoldingSnapshot) : Prop :=
  (snapshot.environment, snapshot.accountNo, holding.symbol) ∉ keys →
    snapshot.environment = "PROD" ∧ holding.symbol ≠ ""

theorem requireTradeCardIdentity_ok {environment symbol : String} :
    requireTradeCardIdentity environment symbol = .ok () ↔ environment = "PROD" ∧ symbol ≠ "" := by
  unfold requireTradeCardIdentity
  by_cases hEnvironment : environment = "PROD"
  · by_cases hSymbol : symbol = ""
    all_goals simp [hEnvironment, hSymbol]
  · simp [hEnvironment]

/-- One holding raises only when it needs a card that cannot be built; afterwards
its key is in the table. -/
theorem reconcileHolding_ok_iff :
    (∃ next, reconcileHolding snapshot state holding = .ok next) ↔
      HoldingBuildable snapshot (state.cards.map cardKey) holding := by
  unfold HoldingBuildable
  cases hCard : lookup cardKey (holdingKey snapshot holding) state.cards with
  | none =>
    have hAbsent : holdingKey snapshot holding ∉ state.cards.map cardKey :=
      lookup_eq_none_iff.mp hCard
    constructor
    · rintro ⟨next, hNext⟩ _
      unfold reconcileHolding at hNext
      unfold holdingKey at hCard
      simp only [hCard] at hNext
      obtain ⟨_, hRequire, _⟩ := bind_eq_ok.mp hNext
      exact requireTradeCardIdentity_ok.mp hRequire
    · intro hBuildable
      have hRequire := requireTradeCardIdentity_ok.mpr (hBuildable hAbsent)
      unfold reconcileHolding
      unfold holdingKey at hCard
      simp only [hCard, hRequire, bind, Except.bind]
      exact ⟨_, rfl⟩
  | some =>
    have hPresent : holdingKey snapshot holding ∈ state.cards.map cardKey := by
      by_contra hAbsent
      rw [lookup_eq_none_iff.mpr hAbsent] at hCard
      cases hCard
    constructor
    · intro _ hAbsent
      exact absurd hPresent hAbsent
    · intro _
      unfold reconcileHolding
      unfold holdingKey at hCard
      simp only [hCard]
      exact ⟨_, rfl⟩

theorem reconcileHolding_keys {next : ReduceState}
    (h : reconcileHolding snapshot state holding = .ok next) (key : CardKey) :
    key ∈ next.cards.map cardKey ↔
      key ∈ state.cards.map cardKey ∨ key = holdingKey snapshot holding := by
  unfold reconcileHolding at h
  cases hCard : lookup cardKey
      (snapshot.environment, snapshot.accountNo, holding.symbol) state.cards with
  | none =>
    simp only [hCard] at h
    obtain ⟨_, _, hNext⟩ := bind_eq_ok.mp h
    cases hNext
    rw [List.map_append, List.mem_append, List.map_singleton, List.mem_singleton]
    rfl
  | some card =>
    simp only [hCard] at h
    cases h
    rw [map_key_store]
    constructor
    · exact Or.inl
    · rintro (hOld | rfl)
      · exact hOld
      · exact List.mem_map.mpr ⟨card, lookup_mem hCard, lookup_key hCard⟩

theorem reconcileHolding_foldlM_ok_iff {holdings : List AccountHoldingSnapshot} :
    (∃ final, holdings.foldlM (reconcileHolding snapshot) state = .ok final) ↔
      ∀ holding ∈ holdings, HoldingBuildable snapshot (state.cards.map cardKey) holding := by
  induction holdings generalizing state with
  | nil =>
    exact ⟨fun _ holding hNil => absurd hNil List.not_mem_nil, fun _ => ⟨state, rfl⟩⟩
  | cons holding holdings ih =>
    constructor
    · rintro ⟨final, hFinal⟩
      obtain ⟨next, hNext, hRest⟩ := foldlM_cons_ok.mp hFinal
      have hHead := reconcileHolding_ok_iff.mp ⟨next, hNext⟩
      have hTail := ih.mp ⟨final, hRest⟩
      intro other hOther
      rcases List.mem_cons.mp hOther with rfl | hOther
      · exact hHead
      · intro hAbsent
        by_cases hSame : holdingKey snapshot other = holdingKey snapshot holding
        · -- a second row of the same symbol finds the card the first one built
          have hSymbol : other.symbol = holding.symbol := by
            simpa [holdingKey] using hSame
          rw [hSymbol]
          refine hHead ?_
          rwa [← hSymbol]
        · refine hTail other hOther ?_
          intro hPresent
          rcases (reconcileHolding_keys hNext _).mp hPresent with hOld | hNew
          · exact hAbsent hOld
          · exact hSame hNew
    · intro hBuildable
      obtain ⟨next, hNext⟩ := reconcileHolding_ok_iff.mpr
        (hBuildable holding List.mem_cons_self)
      have hTail : ∀ other ∈ holdings, HoldingBuildable snapshot
          (next.cards.map cardKey) other := by
        intro other hOther hAbsent
        refine hBuildable other (List.mem_cons_of_mem holding hOther) ?_
        intro hPresent
        exact hAbsent ((reconcileHolding_keys hNext _).mpr (Or.inl hPresent))
      obtain ⟨final, hFinal⟩ := ih.mpr hTail
      exact ⟨final, foldlM_cons_ok.mpr ⟨next, hNext, hFinal⟩⟩

theorem sweepUnheldCard_succeeds (snapshot : AccountBrokerSnapshot) (card : TradeCardState) :
    ∃ swept, sweepUnheldCard snapshot card = .ok swept := by
  unfold sweepUnheldCard
  split
  · dsimp only
    split
    · rw [confirmFlat_of_empty (le_refl 0)]
      exact ⟨_, rfl⟩
    · exact ⟨_, rfl⟩
  · exact ⟨_, rfl⟩

/-- The holdings part raises only for a card that cannot be built. -/
theorem reconcileHoldings_ok_iff :
    (∃ next, reconcileHoldings snapshot state = .ok next) ↔
      (snapshot.completeness.holdingsComplete = true → ∀ holding ∈ snapshot.holdings,
        HoldingBuildable snapshot (state.cards.map cardKey) holding) := by
  unfold reconcileHoldings
  by_cases hComplete : snapshot.completeness.holdingsComplete = true
  · have hAllowed : snapshot.completeness.allows .positionQuantityUpdate = true := hComplete
    rw [if_pos hAllowed]
    constructor
    · rintro ⟨next, hNext⟩ _
      obtain ⟨held, hHeld, _⟩ := bind_eq_ok.mp hNext
      exact reconcileHolding_foldlM_ok_iff.mp ⟨held, hHeld⟩
    · intro hBuildable
      obtain ⟨held, hHeld⟩ := reconcileHolding_foldlM_ok_iff.mpr (hBuildable hComplete)
      obtain ⟨swept, hSwept⟩ := mapM_succeeds_iff.mpr
        (fun card (_ : card ∈ held.cards) => sweepUnheldCard_succeeds snapshot card)
      exact ⟨_, bind_eq_ok.mpr ⟨held, hHeld, bind_eq_ok.mpr ⟨swept, hSwept, rfl⟩⟩⟩
  · have hAllowed : ¬ snapshot.completeness.allows .positionQuantityUpdate = true := hComplete
    rw [if_neg hAllowed]
    exact ⟨fun _ hTrue => absurd hTrue hComplete, fun _ => ⟨state, rfl⟩⟩

/-! ## Stored absences -/

/-- The quantity the snapshot reports held for the order's symbol. -/
def heldQuantity (snapshot : AccountBrokerSnapshot) (symbol : String) : Int :=
  ((snapshot.holdingFor symbol).map (·.quantity)).getD 0

/-- A stored timestamp that is read without a UTC offset. -/
def isNaive (stored : Option IsoText) : Bool :=
  match stored.bind (·.reading) with
  | some (.naive _) => true
  | _ => false

/-- The second absence of an order is measured against a naive first one. -/
structure ReadsNaiveAbsence (snapshot : AccountBrokerSnapshot) (order : ExecutionOrderRecord) :
    Prop where
  uncontradicted :
    absenceContradicted order snapshot (heldQuantity snapshot order.symbol) = false
  counted : 0 < order.absenceCount
  generation : snapshot.snapshotId ≠ order.lastAbsenceSnapshotId
  identity : order.lastAbsenceBrokerOrderId = order.brokerOrderId
  session : order.lastAbsenceSessionDate = some (isoDate snapshot.sessionDate)
  naive : isNaive order.lastAbsenceObservedAt = true

theorem recordAbsence_ok_iff (config : ExecutionConfig) (snapshot : AccountBrokerSnapshot)
    (order : ExecutionOrderRecord) :
    (∃ observed, recordAbsence config order snapshot (heldQuantity snapshot order.symbol) =
      .ok observed) ↔ ¬ ReadsNaiveAbsence snapshot order := by
  unfold recordAbsence
  by_cases hContradicted :
      absenceContradicted order snapshot (heldQuantity snapshot order.symbol) = true
  · rw [if_pos hContradicted]
    refine ⟨fun _ hNaive => ?_, fun _ => ⟨_, rfl⟩⟩
    rw [hNaive.uncontradicted] at hContradicted
    cases hContradicted
  rw [if_neg hContradicted]
  by_cases hCount : order.absenceCount ≤ 0
  · rw [if_pos hCount]
    exact ⟨fun _ hNaive => absurd hNaive.counted (by omega), fun _ => ⟨_, rfl⟩⟩
  rw [if_neg hCount]
  by_cases hGeneration : snapshot.snapshotId = order.lastAbsenceSnapshotId
  · rw [if_pos hGeneration]
    exact ⟨fun _ hNaive => hNaive.generation hGeneration, fun _ => ⟨_, rfl⟩⟩
  rw [if_neg hGeneration]
  by_cases hIdentity : order.lastAbsenceBrokerOrderId = order.brokerOrderId
  case neg =>
    rw [if_pos hIdentity]
    exact ⟨fun _ hNaive => hIdentity hNaive.identity, fun _ => ⟨_, rfl⟩⟩
  rw [if_neg (not_not.mpr hIdentity)]
  by_cases hSession : order.lastAbsenceSessionDate = some (isoDate snapshot.sessionDate)
  case neg =>
    rw [if_pos hSession]
    exact ⟨fun _ hNaive => hSession hNaive.session, fun _ => ⟨_, rfl⟩⟩
  rw [if_neg (not_not.mpr hSession)]
  cases hReading : order.lastAbsenceObservedAt.bind (·.reading) with
  | none =>
    refine ⟨fun _ hNaive => ?_, fun _ => ⟨_, rfl⟩⟩
    have hFalse := hNaive.naive
    simp [isNaive, hReading] at hFalse
  | some reading =>
    cases reading with
    | naive =>
      constructor
      · rintro ⟨_, hOk⟩
        cases hOk
      · intro hNot
        refine absurd ?_ hNot
        exact
          { uncontradicted := by simpa using hContradicted
            counted := by omega
            generation := hGeneration
            identity := hIdentity
            session := hSession
            naive := by simp [isNaive, hReading] }
    | aware =>
      constructor
      · intro _ hNaive
        have hFalse := hNaive.naive
        simp [isNaive, hReading] at hFalse
      · intro _
        dsimp only
        split
        · exact ⟨_, rfl⟩
        split <;> exact ⟨_, rfl⟩

/-- The absence check of an order no row claims subtracts a naive time. -/
structure NaiveOrderAbsence (snapshot : AccountBrokerSnapshot) (claimed : List String)
    (order : ExecutionOrderRecord) : Prop where
  named : order.brokerOrderId ≠ ""
  live : order.status.isTerminal = false
  unclaimed : order.brokerOrderId ∉ claimed
  complete : absenceEvidenceComplete order snapshot = true
  reads : ReadsNaiveAbsence snapshot order

theorem absenceStep_ok_iff {claimed : List String} :
    (∃ observed, absenceStep config snapshot claimed order = .ok observed) ↔
      ¬ NaiveOrderAbsence snapshot claimed order := by
  unfold absenceStep
  by_cases hSkipped : order.brokerOrderId = "" ∨ order.status.isTerminal ∨
      order.brokerOrderId ∈ claimed ∨ absenceEvidenceComplete order snapshot = false
  · rw [if_pos hSkipped]
    refine ⟨fun _ hNaive => ?_, fun _ => ⟨_, rfl⟩⟩
    rcases hSkipped with hBlank | hTerminal | hClaimed | hIncomplete
    · exact hNaive.named hBlank
    · rw [hNaive.live] at hTerminal
      cases hTerminal
    · exact hNaive.unclaimed hClaimed
    · rw [hNaive.complete] at hIncomplete
      cases hIncomplete
  · rw [if_neg hSkipped]
    simp only [not_or, Bool.not_eq_true, Bool.not_eq_false] at hSkipped
    obtain ⟨hNamed, hLive, hUnclaimed, hComplete⟩ := hSkipped
    have hReads := recordAbsence_ok_iff config snapshot order
    constructor
    · rintro ⟨observed, hOk⟩ hNaive
      obtain ⟨pair, hRecord, _⟩ := bind_eq_ok.mp hOk
      exact hReads.mp ⟨pair, hRecord⟩ hNaive.reads
    · intro hNot
      obtain ⟨⟨record, outcome⟩, hRecord⟩ := hReads.mpr (fun hNaive =>
        hNot ⟨hNamed, hLive, hUnclaimed, hComplete, hNaive⟩)
      unfold heldQuantity at hRecord
      simp only [hRecord, bind, Except.bind]
      split <;> exact ⟨_, rfl⟩

/-- Recovery updates do not touch what the absence check reads. -/
theorem RecoveryUpdate.naiveOrderAbsence_iff (h : RecoveryUpdate before after)
    (snapshot : AccountBrokerSnapshot) (claimed : List String) :
    NaiveOrderAbsence snapshot claimed after ↔ NaiveOrderAbsence snapshot claimed before := by
  obtain ⟨recovery, candidates, rfl⟩ := h
  constructor
  all_goals
    rintro ⟨hNamed, hLive, hUnclaimed, hComplete, hReads⟩
    exact ⟨hNamed, hLive, hUnclaimed, hComplete, { hReads with }⟩

/-- The absence loop succeeds when no order of the table reads a naive time. -/
theorem recordAbsences_ok_iff :
    (∃ next, recordAbsences config snapshot state = .ok next) ↔
      ∀ order ∈ state.orders, ¬ NaiveOrderAbsence snapshot state.consumedBrokerIds order := by
  unfold recordAbsences
  constructor
  · rintro ⟨next, hNext⟩ order hOrder
    obtain ⟨observed, hObserved, _⟩ := bind_eq_ok.mp hNext
    exact absenceStep_ok_iff.mp (mapM_succeeds_iff.mp ⟨observed, hObserved⟩ order hOrder)
  · intro hNone
    obtain ⟨observed, hObserved⟩ := mapM_succeeds_iff.mpr
      (fun order hOrder => absenceStep_ok_iff.mpr (hNone order hOrder))
    exact ⟨_, bind_eq_ok.mpr ⟨observed, hObserved, rfl⟩⟩

variable (run : PositionedRun runtime snapshot localState)

/-- An order no row claims reaches the absence loop with at most its recovery
state and candidates changed. -/
theorem PositionedRun.unclaimed_recovery :
    List.Forall₂ (fun before after => SameOrder before after ∧
      (before.brokerOrderId ∉
          claimedBrokerIds runtime.config snapshot.orders localState.executionOrders →
        RecoveryUpdate before after))
      localState.executionOrders run.positioned.orders := by
  have hLocal : List.Forall₂ (fun before middle => SameOrder before middle ∧
      (before.brokerOrderId ∉
          claimedBrokerIds runtime.config snapshot.orders localState.executionOrders →
        middle = before)) localState.executionOrders run.exact.orders := by
    have hMembers : List.Forall₂ (fun before middle => before ∈ localState.executionOrders ∧
        RowsEffect before (rowsFor before snapshot.orders) middle)
        localState.executionOrders run.exact.orders :=
      (List.forall₂_and_left _ _).mpr ⟨fun _ hMem => hMem, run.exact_orders⟩
    refine hMembers.imp ?_
    rintro before middle ⟨hMem, hRows⟩
    refine ⟨hRows.same, fun hUnclaimed => ?_⟩
    have hNone : rowsFor before snapshot.orders = [] := by
      refine List.filter_eq_nil_iff.mpr ?_
      intro row hRow hMatch
      simp only [Bool.and_eq_true, decide_eq_true_eq] at hMatch
      exact hUnclaimed (claimed_of_exact hMem hMatch.1 hRow hMatch.2)
    rw [hNone] at hRows
    cases hRows
    rfl
  refine forall₂_comp ?_ hLocal run.positioned_recovery
  rintro before middle after ⟨hSame, hFixed⟩ hRecovery
  refine ⟨hSame.trans hRecovery.quiet.same, fun hUnclaimed => ?_⟩
  rwa [hFixed hUnclaimed] at hRecovery

theorem PositionedRun.naiveOrderAbsence_iff :
    (∀ order ∈ run.positioned.orders,
        ¬ NaiveOrderAbsence snapshot run.positioned.consumedBrokerIds order) ↔
      ∀ order ∈ localState.executionOrders, ¬ NaiveOrderAbsence snapshot
        (claimedBrokerIds runtime.config snapshot.orders localState.executionOrders) order := by
  have hConsumed : run.positioned.consumedBrokerIds =
      claimedBrokerIds runtime.config snapshot.orders localState.executionOrders := by
    rw [run.holdingsFrame.consumed, run.external_tables.consumed]
    exact ((escalateUncorrelated_frame snapshot run.retained).2.2.2.1).trans
      run.retained_consumed
  rw [hConsumed]
  constructor
  · intro hNone order hOrder hNaive
    obtain ⟨after, hAfter, _, hRecovery⟩ := forall₂_mem_left run.unclaimed_recovery hOrder
    exact hNone after hAfter
      (((hRecovery hNaive.unclaimed).naiveOrderAbsence_iff snapshot _).mpr hNaive)
  · intro hNone after hAfter hNaive
    obtain ⟨order, hOrder, hSame, hRecovery⟩ := forall₂_mem_right run.unclaimed_recovery hAfter
    have hUnclaimed := hNaive.unclaimed
    rw [hSame.brokerOrderId] at hUnclaimed
    exact hNone order hOrder
      (((hRecovery hUnclaimed).naiveOrderAbsence_iff snapshot _).mp hNaive)

/-! ## Orphan reservations -/

/-- The orphan check of a reservation subtracts a naive time. -/
structure NaiveOrphanAbsence (snapshot : AccountBrokerSnapshot)
    (orders : List ExecutionOrderRecord) (reservation : CapitalReservation) : Prop where
  orphan : isOrphanReservation orders reservation = true
  complete : orphanEvidenceComplete snapshot.completeness = true
  unheld : (snapshot.holdingFor reservation.symbol).isSome = false
  unlisted : snapshot.orders.any (·.symbol = reservation.symbol) = false
  counted : 0 < reservation.absenceCount
  generation : reservation.lastAbsenceSnapshotId ≠ snapshot.snapshotId
  session : reservation.lastAbsenceSessionDate = some (isoDate snapshot.sessionDate)
  naive : isNaive reservation.lastAbsenceObservedAt = true

theorem orphanStep_ok_iff :
    (∃ observed, orphanStep config snapshot orders reservation = .ok observed) ↔
      ¬ NaiveOrphanAbsence snapshot orders reservation := by
  unfold orphanStep
  by_cases hOrphan : isOrphanReservation orders reservation = true
  case neg =>
    rw [if_neg hOrphan]
    exact ⟨fun _ hNaive => hOrphan hNaive.orphan, fun _ => ⟨_, rfl⟩⟩
  rw [if_pos hOrphan]
  unfold recordOrphanReservationAbsence
  by_cases hComplete : orphanEvidenceComplete snapshot.completeness = true
  case neg =>
    rw [if_pos (by simpa using hComplete)]
    exact ⟨fun _ hNaive => hComplete hNaive.complete, fun _ => ⟨_, rfl⟩⟩
  rw [if_neg (by simp [hComplete])]
  by_cases hSeen : (snapshot.holdingFor reservation.symbol).isSome = true ∨
      snapshot.orders.any (·.symbol = reservation.symbol) = true
  · rw [if_pos hSeen]
    refine ⟨fun _ hNaive => ?_, fun _ => ⟨_, rfl⟩⟩
    rcases hSeen with hHeld | hListed
    · rw [hNaive.unheld] at hHeld
      cases hHeld
    · rw [hNaive.unlisted] at hListed
      cases hListed
  rw [if_neg hSeen]
  by_cases hCount : reservation.absenceCount ≤ 0
  · rw [if_pos hCount]
    exact ⟨fun _ hNaive => absurd hNaive.counted (by omega), fun _ => ⟨_, rfl⟩⟩
  rw [if_neg hCount]
  by_cases hGeneration : reservation.lastAbsenceSnapshotId = snapshot.snapshotId
  · rw [if_pos hGeneration]
    exact ⟨fun _ hNaive => hNaive.generation hGeneration, fun _ => ⟨_, rfl⟩⟩
  rw [if_neg hGeneration]
  by_cases hSession : reservation.lastAbsenceSessionDate = some (isoDate snapshot.sessionDate)
  case neg =>
    rw [if_pos hSession]
    exact ⟨fun _ hNaive => hSession hNaive.session, fun _ => ⟨_, rfl⟩⟩
  rw [if_neg (not_not.mpr hSession)]
  cases hReading : reservation.lastAbsenceObservedAt.bind (·.reading) with
  | none =>
    refine ⟨fun _ hNaive => ?_, fun _ => ⟨_, rfl⟩⟩
    have hFalse := hNaive.naive
    simp [isNaive, hReading] at hFalse
  | some reading =>
    cases reading with
    | naive =>
      constructor
      · rintro ⟨_, hOk⟩
        cases hOk
      · intro hNot
        simp only [not_or, Bool.not_eq_true] at hSeen
        refine absurd ?_ hNot
        exact
          { orphan := hOrphan
            complete := hComplete
            unheld := hSeen.1
            unlisted := hSeen.2
            counted := by omega
            generation := hGeneration
            session := hSession
            naive := by simp [isNaive, hReading] }
    | aware =>
      constructor
      · intro _ hNaive
        have hFalse := hNaive.naive
        simp [isNaive, hReading] at hFalse
      · intro _
        dsimp only
        split <;> exact ⟨_, rfl⟩

theorem recordOrphans_ok_iff :
    (∃ next, recordOrphans config snapshot state = .ok next) ↔
      ∀ reservation ∈ state.reservations,
        ¬ NaiveOrphanAbsence snapshot state.orders reservation := by
  unfold recordOrphans
  constructor
  · rintro ⟨next, hNext⟩ reservation hReservation
    obtain ⟨observed, hObserved, _⟩ := bind_eq_ok.mp hNext
    exact orphanStep_ok_iff.mp
      (mapM_succeeds_iff.mp ⟨observed, hObserved⟩ reservation hReservation)
  · intro hNone
    obtain ⟨observed, hObserved⟩ := mapM_succeeds_iff.mpr
      (fun reservation hReservation => orphanStep_ok_iff.mpr (hNone reservation hReservation))
    exact ⟨_, bind_eq_ok.mpr ⟨observed, hObserved, rfl⟩⟩

theorem unlinked_of_orphan
    (hStripped : ∀ order ∈ orders, strip order.capitalReservationId = order.capitalReservationId)
    (hOrphan : isOrphanReservation orders reservation = true) :
    reservation.reservationId ∉ reservationGroupIds orders := by
  intro hGroup
  simp only [reservationGroupIds, List.mem_eraseDups, List.mem_filter, List.mem_map,
    decide_eq_true_eq] at hGroup
  obtain ⟨⟨order, hOrder, hLink⟩, hNamed⟩ := hGroup
  unfold linkedReservationId at hLink
  rw [hStripped order hOrder] at hLink
  have hLinked : orders.any (fun order => order.capitalReservationId ≠ "" &&
      order.capitalReservationId = reservation.reservationId) = true := by
    refine List.any_eq_true.mpr ⟨order, hOrder, ?_⟩
    simp [hLink, hNamed]
  rw [isOrphanReservation, hLinked] at hOrphan
  simp at hOrphan

theorem isOrphanReservation_of_same (h : List.Forall₂ SameOrder xs ys)
    (reservation : CapitalReservation) :
    isOrphanReservation ys reservation = isOrphanReservation xs reservation := by
  unfold isOrphanReservation
  congr 2
  induction h with
  | nil => rfl
  | cons hHead _ ih => rw [List.any_cons, List.any_cons, hHead.capitalReservationId, ih]

theorem naiveOrphanAbsence_of_same (h : List.Forall₂ SameOrder xs ys)
    (snapshot : AccountBrokerSnapshot) (reservation : CapitalReservation) :
    NaiveOrphanAbsence snapshot ys reservation ↔ NaiveOrphanAbsence snapshot xs reservation := by
  have hOrphan := isOrphanReservation_of_same h reservation
  constructor
  · intro hNaive
    exact { hNaive with orphan := by rw [← hOrphan]; exact hNaive.orphan }
  · intro hNaive
    exact { hNaive with orphan := by rw [hOrphan]; exact hNaive.orphan }

/-- Settlement neither makes nor resolves an orphan, so the orphan loop finds the
stored reservations. -/
theorem settled_naiveOrphanAbsence_iff {before after : List CapitalReservation}
    (hStripped : ∀ order ∈ orders, strip order.capitalReservationId = order.capitalReservationId)
    (hSettled : List.Forall₂ (SettledWithin (reservationGroupIds orders)) before after) :
    (∀ reservation ∈ after, ¬ NaiveOrphanAbsence snapshot orders reservation) ↔
      ∀ reservation ∈ before, ¬ NaiveOrphanAbsence snapshot orders reservation := by
  constructor
  · intro hNone reservation hMem hNaive
    obtain ⟨settled, hAfter, _, hFixed⟩ := forall₂_mem_left hSettled hMem
    have hEq := hFixed (unlinked_of_orphan hStripped hNaive.orphan)
    rw [hEq] at hAfter
    exact hNone reservation hAfter hNaive
  · intro hNone settled hAfter hNaive
    obtain ⟨reservation, hMem, hId, hFixed⟩ := forall₂_mem_right hSettled hAfter
    have hUnlinked := unlinked_of_orphan hStripped hNaive.orphan
    rw [hId] at hUnlinked
    rw [hFixed hUnlinked] at hNaive
    exact hNone reservation hMem hNaive

end QuantApp.Services
