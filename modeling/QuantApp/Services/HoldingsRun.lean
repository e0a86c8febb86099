import QuantApp.Services.LiquidationKept
import QuantApp.Services.BrokerPositions

/-!
# A card through a pass with complete holdings

The run of one card whose symbol the snapshot holds, and of one it does not.  A
held card is never closed by a row and ends with the holding's quantity.  An
unheld card that has shares keeps them until a terminal exit row or the sweep
empties it; one without shares stays outside the position columns unless an open
row in its reach puts it into a sell column.
-/

namespace QuantApp.Services

open Core Verified
open ExecutionOrderRecord (clientOrderId)

variable {order : ExecutionOrderRecord} {orders : List ExecutionOrderRecord}
  {start current card next met projection : TradeCardState} {snapshot : AccountBrokerSnapshot}
  {config : ExecutionConfig} {symbol : String} {alerts : List ReconciliationAlert} {key : CardKey}
  {holding : AccountHoldingSnapshot}

/-! ## The orders that can come to reach a card -/

/-- The card tracks the order, or an order of the same side and attempt group. -/
def InReach (orders : List ExecutionOrderRecord) (card : TradeCardState)
    (order : ExecutionOrderRecord) : Prop :=
  cardTracksOrder card order = true ∨
    (order.attemptGroupId ≠ "" ∧ ∃ linked ∈ orders, orderKey linked = card.cardKey ∧
      linked.side = order.side ∧ cardTracksOrder card linked = true ∧
      linked.attemptGroupId = order.attemptGroupId)

/-- What the card tracks now was in its reach at the start. -/
def ReachKept (orders : List ExecutionOrderRecord) (start current : TradeCardState) : Prop :=
  ∀ order ∈ orders, orderKey order = start.cardKey → cardTracksOrder current order = true →
    InReach orders start order

section Reach

variable {orders : List ExecutionOrderRecord} {start before after : TradeCardState}
  {order other : ExecutionOrderRecord}

theorem InReach.same_group (h : InReach orders start order) (hOrder : order ∈ orders)
    (hKey : orderKey order = start.cardKey) (hSide : order.side = other.side)
    (hGroup : order.attemptGroupId = other.attemptGroupId) (hGrouped : other.attemptGroupId ≠ "") :
    InReach orders start other := by
  rcases h with hTracked | ⟨_, linked, hLinked, hLinkedKey, hLinkedSide, hLinkedTracked, hSame⟩
  · exact Or.inr ⟨hGrouped, order, hOrder, hKey, hSide, hTracked, hGroup⟩
  · exact Or.inr ⟨hGrouped, linked, hLinked, hLinkedKey, hLinkedSide.trans hSide, hLinkedTracked,
      hSame.trans hGroup⟩

theorem ReachKept.step (hKeyed : Keyed clientOrderId orders)
    (h : ReachKept orders start before) (hOrder : order ∈ orders)
    (hKey : orderKey order = start.cardKey) (hTracked : cardTracksOrder before order = true)
    (hLinks : LinksThrough order before after) : ReachKept orders start after := by
  intro other hOther hOtherKey hTracks
  have hReach := h order hOrder hKey hTracked
  rcases hLinks.tracked hTracks with hKept | hOwn | ⟨hSide, hGrouped, hSameGroup, _⟩
  · exact h other hOther hOtherKey hKept
  · rwa [← hKeyed.eq_of_mem hOrder hOther hOwn]
  · exact hReach.same_group hOrder hKey hSide hSameGroup hGrouped

end Reach

theorem closedFlat_untracked (card : TradeCardState) (order : ExecutionOrderRecord) :
    cardTracksOrder (closedFlat card) order = false := by
  have hNamed : ¬ "" = order.clientOrderId := fun h => order.clientOrderIdNamed h.symm
  unfold cardTracksOrder
  simp only [closedFlat]
  split <;> simp [hNamed]

/-! ## The rows that put an empty card into a sell column -/

/-- The orders whose open row puts a card that was not in SELL_ALL into a sell column:
partial exits, and the liquidations that do not depend on the card they were
classified against. -/
def opensExit (order : ExecutionOrderRecord) : Bool :=
  isPartialExit order ||
    (!isUnresolved order && (order.executionPolicy = reservedMooExecution ||
      (order.side = .sell && (order.intent = .stopLoss || order.status.isTerminal))))

/-- Any other order than an entry has no branch for a card classified outside SELL_ALL. -/
theorem operational_of_quiet (hExact : hasExactId order = true) (hMet : met.boardStatus ≠ .sellAll)
    (hQuiet : opensExit order = false) (hEntry : isEntryOrder order = false)
    (card : TradeCardState) :
    let operational := operationalCategory order card (classifyExecutionOrder order (some met))
    operational = .unknownSubmission ∨ operational = .unrecognized ∨
      operational = .terminalOrder := by
  have hBranch := rowBranch_operational hExact met card
  simp only [opensExit, Bool.or_eq_false_iff] at hQuiet
  dsimp only
  generalize hOperational : operationalCategory order card
    (classifyExecutionOrder order (some met)) = operational at hBranch
  cases hBranch with
  | entry hIs =>
    rw [hEntry] at hIs
    cases hIs
  | partialExit hIs =>
    rw [hQuiet.1] at hIs
    cases hIs
  | unnamed _ _ hCategory => exact hCategory
  | liquidation _ hNotPartial hKind hCategory =>
    have hNotAmbiguous : order.brokerIdentityStatus ≠ .ambiguous := by
      rw [hasExactId_identity hExact]
      simp
    have hClassified : classifyExecutionOrder order (some met) = .unknownSubmission ∨
        classifyExecutionOrder order (some met) = .unrecognized := by
      by_cases hUnresolved : isUnresolved order = true
      · left
        simp only [isUnresolved, Bool.or_eq_true, decide_eq_true_eq] at hUnresolved
        simp [classifyExecutionOrder, hUnresolved]
      · right
        simp only [isUnresolved, Bool.or_eq_true, decide_eq_true_eq, not_or] at hUnresolved
        have hLater : order.executionPolicy ≠ reservedMooExecution ∧
            (order.side = .sell → order.intent ≠ .stopLoss ∧ order.status.isTerminal = false) := by
          simpa [isUnresolved, hUnresolved] using hQuiet.2
        obtain ⟨hPolicy, hSell⟩ := hLater
        have hSide : order.side = .sell := hKind.resolve_left hPolicy
        obtain ⟨hStop, hOpen⟩ := hSell hSide
        have hIntent : order.intent ≠ .partialExit ∧ order.intent ≠ .partialTakeProfit := by
          simpa [isPartialExit, isUnresolved, hUnresolved, hPolicy, hSide] using hNotPartial
        simp [classifyExecutionOrder, hUnresolved, hNotAmbiguous, hOpen, hPolicy, hSide, hStop,
          hIntent, hMet]
    rw [← hOperational] at hCategory
    rcases hClassified with hUnknown | hUnrecognized
    · simp [operationalCategory, hUnknown] at hCategory
    · simp [operationalCategory, hUnrecognized] at hCategory

/-! ## One row on a card whose symbol is not held -/

theorem reportedHolding_of_unheld (h : isHeld snapshot symbol = false) :
    reportedHolding snapshot symbol = none := by
  have hNone : snapshot.holdingFor symbol = none := by
    apply List.find?_eq_none.mpr
    intro holding hHolding hSymbol
    have hAny : isHeld snapshot symbol = true := List.any_eq_true.mpr ⟨holding, hHolding, hSymbol⟩
    rw [h] at hAny
    cases hAny
  unfold reportedHolding
  rw [hNone, ite_self]

/-- An entry row never lowers the quantity of an unheld card, and leaves a card without
shares outside the position columns. -/
theorem projectEntry_unheld (order : ExecutionOrderRecord) (row : BrokerOrderStatusSnapshot)
    (card : TradeCardState) :
    card.brokerQuantity ≤ (projectEntry order row none card).brokerQuantity ∧
      ((projectEntry order row none card).brokerQuantity ≤ 0 →
        isPosition (projectEntry order row none card).boardStatus = false) := by
  have hFill : (projectEntryFill order row none card).brokerQuantity =
      max card.brokerQuantity row.filledQuantity := by
    unfold projectEntryFill
    exact (projectFillStop_position _ _).1
  unfold projectEntry
  dsimp only
  split
  · rename_i hFilled
    have hBoth : (if rowIsTerminal row = true then
        retireFilledEntry (projectEntryFill order row none card)
        else projectEntryFill order row none card).brokerQuantity =
          max card.brokerQuantity row.filledQuantity := by
      split
      · rw [(retireFilledEntry_position _).1, hFill]
      · exact hFill
    rw [hBoth]
    constructor
    · exact le_max_left _ _
    · intro hEmpty
      omega
  split
  · constructor
    · exact le_refl _
    · intro hEmpty
      have hNotHeld : ¬ 0 < card.brokerQuantity := not_lt.mpr hEmpty
      show isPosition (if 0 < card.brokerQuantity then .openPosition else .buylist) = false
      rw [if_neg hNotHeld]
      rfl
  rename_i hTerminal
  have hOpen : isOpenStatus row.status = true := by
    rw [rowIsTerminal_eq_not_open] at hTerminal
    simpa using hTerminal
  rw [if_pos hOpen]
  exact ⟨le_refl _, fun _ => rfl⟩

/-- What a row makes of a card whose symbol a complete answer does not list. -/
inductive UnheldStep (order : ExecutionOrderRecord) (row : BrokerOrderStatusSnapshot)
    (card next : TradeCardState) : Prop
  | entry : isEntryOrder order = true → next = projectEntry order row none card →
      UnheldStep order row card next
  | opened : isEntryOrder order = false → isOpenStatus row.status = true →
      next.brokerQuantity = card.brokerQuantity → UnheldStep order row card next
  | emptied {card' : TradeCardState} : card'.brokerQuantity = 0 → next = closedFlat card' →
      UnheldStep order row card next
  | kept : next = consumedCard order card → UnheldStep order row card next

/-- Without the holding, both sell branches leave the quantity of a working order or close. -/
theorem projectExit_unheld {row : BrokerOrderStatusSnapshot}
    (hComplete : snapshot.completeness.holdingsComplete = true)
    (h : (∃ config, projectPartialSell config order row snapshot none card = .ok (next, alerts)) ∨
      ∃ operational,
        projectLiquidation operational order row snapshot none card = .ok (next, alerts)) :
    (isOpenStatus row.status = true ∧ next.brokerQuantity = card.brokerQuantity) ∨
      ∃ emptied : TradeCardState, emptied.brokerQuantity = 0 ∧ next = closedFlat emptied := by
  unfold projectPartialSell projectLiquidation at h
  rcases h with ⟨_, h⟩ | ⟨_, h⟩
  all_goals
    split at h
    · rename_i hOpen
      cases h
      exact Or.inl ⟨hOpen, rfl⟩
    rename_i hNotOpen
    have hTerminal := rowIsTerminal_of_not_open hNotOpen
    rw [if_neg hTerminal, if_neg (by simp [hComplete])] at h
    dsimp only [Option.map_none, Option.getD_none] at h
    rw [if_pos (le_refl 0), confirmFlat_of_empty (le_refl 0)] at h
    cases h
    exact Or.inr ⟨_, rfl, rfl⟩

theorem consumedCard_position (order : ExecutionOrderRecord) (card : TradeCardState) :
    (consumedCard order card).brokerQuantity = card.brokerQuantity ∧
      (consumedCard order card).boardStatus = card.boardStatus := by
  unfold consumedCard
  split <;> exact ⟨rfl, rfl⟩

theorem consumedCard_links (order : ExecutionOrderRecord) (card : TradeCardState) :
    LinksThrough order card (consumedCard order card) := by
  obtain ⟨_, _, hExitId, hEntryId, hEntryGroup⟩ := consumedCard_frame order card
  exact
    { entryClientOrderId := Or.inl hEntryId
      entryAttemptGroupId := Or.inl hEntryGroup
      exitClientOrderId := Or.inl hExitId
      exitAttemptGroupId := (consumedCard_exitGroup order card).imp id Or.inr }

theorem not_entry_of_partialExit (h : isPartialExit order = true) : isEntryOrder order = false := by
  simp only [isPartialExit, Bool.and_eq_true, decide_eq_true_eq] at h
  simp [isEntryOrder, h.1.2]

theorem ProjectedBy.unheld {row : BrokerOrderStatusSnapshot}
    (h : ProjectedBy config snapshot row order card projection)
    (hComplete : snapshot.completeness.holdingsComplete = true)
    (hUnheld : isHeld snapshot order.symbol = false) : UnheldStep order row card projection := by
  have hReported := reportedHolding_of_unheld hUnheld
  have hQuantity := (consumedCard_position order card).1
  cases h with
  | entry hEntry hProjection =>
    rw [hReported] at hProjection
    exact .entry hEntry hProjection
  | partialExit hPartial hProjected =>
    rw [hReported] at hProjected
    rcases projectExit_unheld hComplete (.inl ⟨_, hProjected⟩) with
      ⟨hOpen, hSame⟩ | ⟨emptied, hEmpty, hFlat⟩
    · exact .opened (not_entry_of_partialExit hPartial) hOpen (hSame.trans hQuantity)
    · exact .emptied hEmpty hFlat
  | liquidation hNotEntry _ _ hProjected =>
    rw [hReported] at hProjected
    rcases projectExit_unheld hComplete (.inr ⟨_, hProjected⟩) with
      ⟨hOpen, hSame⟩ | ⟨emptied, hEmpty, hFlat⟩
    · exact .opened hNotEntry hOpen (hSame.trans hQuantity)
    · exact .emptied hEmpty hFlat
  | unnamed _ _ hProjection => exact .kept hProjection

/-! ## The classification of an empty card -/

theorem side_of_entry_category {card : Option TradeCardState}
    (h : classifyExecutionOrder order card = .entryBuy ∨
      classifyExecutionOrder order card = .entryCompletionBuy) : order.side = .buy := by
  unfold classifyExecutionOrder at h
  grind

/-- What the classification loop keeps of a card: its quantity and, without shares, a
column outside the positions and its reach. -/
structure StillEmpty (orders : List ExecutionOrderRecord) (start current : TradeCardState) :
    Prop where
  quantity : current.brokerQuantity = start.brokerQuantity
  column : start.brokerQuantity = 0 → isPosition current.boardStatus = false
  reach : ReachKept orders start current

section

variable (hKeyed : Keyed clientOrderId orders)
  (h : StillEmpty orders start current) (hOrder : order ∈ orders)
  (hKey : orderKey order = start.cardKey)
include hKeyed h hOrder hKey

theorem StillEmpty.rejected (hTracked : cardTracksOrder current order = true)
    (observedAt : Instant) :
    StillEmpty orders start (applyDefinitiveEntryNonacceptance current observedAt) := by
  have hFields : (applyDefinitiveEntryNonacceptance current observedAt).brokerQuantity =
        current.brokerQuantity ∧
      (¬ 0 < current.brokerQuantity →
        (applyDefinitiveEntryNonacceptance current observedAt).boardStatus = .buylist) ∧
      LinksThrough order current (applyDefinitiveEntryNonacceptance current observedAt) := by
    unfold applyDefinitiveEntryNonacceptance
    dsimp only
    split
    · rename_i hHeld
      exact ⟨rfl, fun hEmpty => absurd hHeld hEmpty,
        ⟨Or.inr (Or.inl rfl), Or.inr (Or.inl rfl), Or.inl rfl, Or.inl rfl⟩⟩
    · exact ⟨rfl, fun _ => rfl, ⟨Or.inr (Or.inl rfl), Or.inr (Or.inl rfl), Or.inl rfl, Or.inl rfl⟩⟩
  obtain ⟨hQuantity, hBoard, hLinks⟩ := hFields
  constructor
  · exact hQuantity.trans h.quantity
  · intro hStart
    have hEmpty : ¬ 0 < current.brokerQuantity := by
      rw [h.quantity, hStart]
      omega
    rw [hBoard hEmpty]
    rfl
  · exact h.reach.step hKeyed hOrder hKey hTracked hLinks

theorem StillEmpty.adopted (hTracked : cardTracksOrder current order = true)
    (hBuy : order.side = .buy) :
    StillEmpty orders start
      { current with
        boardStatus := .entryPending
        entryRuntimeStatus := some .orderPending
        entryAttemptGroupId := order.attemptGroupId
        entryAttemptCount := order.attemptNumber } := by
  constructor
  · exact h.quantity
  · intro _
    rfl
  · apply h.reach.step hKeyed hOrder hKey hTracked
    exact ⟨Or.inl rfl, Or.inr (Or.inr ⟨hBuy, rfl⟩), Or.inl rfl, Or.inl rfl⟩

theorem StillEmpty.classified (observedAt : Instant) :
    StillEmpty orders start
      (projectLocalOrder observedAt order (classifyExecutionOrder order (some current))
        current) := by
  apply projectLocalOrder_of h
  · intro hRejected
    simp only [entryDefinitivelyRejected, Bool.and_eq_true, decide_eq_true_eq] at hRejected
    have hTracked : cardTracksOrder current order = true := by tauto
    exact h.rejected hKeyed hOrder hKey hTracked observedAt
  · intro settled hSettled hAdopts
    simp only [adoptsLiveEntry, Bool.and_eq_true, Bool.or_eq_true, decide_eq_true_eq] at hAdopts
    exact hSettled.adopted hKeyed hOrder hKey hAdopts.1.1.1
      (side_of_entry_category hAdopts.1.1.2)

end

/-! ## The rows of a card that leaves its position -/

/-- An unheld card in the exact loop still has shares to lose, or it has none, is outside
the position columns, and tracks only what was in reach of a card without shares. -/
def Leaving (orders : List ExecutionOrderRecord) (start current : TradeCardState) : Prop :=
  0 < current.brokerQuantity ∨
    (current.brokerQuantity = 0 ∧ isPosition current.boardStatus = false ∧
      ∀ order ∈ orders, orderKey order = start.cardKey → cardTracksOrder current order = true →
        start.brokerQuantity = 0 ∧ InReach orders start order)

theorem leaving_closedFlat (h : card.brokerQuantity = 0) :
    Leaving orders start (closedFlat card) := by
  refine Or.inr ⟨h, rfl, ?_⟩
  intro order _ _ hTracked
  rw [closedFlat_untracked] at hTracked
  cases hTracked

section

variable (hKeyed : Keyed clientOrderId orders)
  (h : Leaving orders start current) (hOrder : order ∈ orders)
  (hKey : orderKey order = start.cardKey) (hTracked : cardTracksOrder current order = true)
include hKeyed h hOrder hKey hTracked

theorem Leaving.through (hLinks : LinksThrough order current next)
    (hGrows : current.brokerQuantity ≤ next.brokerQuantity)
    (hColumn : next.brokerQuantity ≤ 0 → isPosition current.boardStatus = false →
      isPosition next.boardStatus = false) : Leaving orders start next := by
  rcases h with hShares | ⟨hEmpty, hBoard, hTracks⟩
  · left
    exact lt_of_lt_of_le hShares hGrows
  by_cases hFilled : 0 < next.brokerQuantity
  · exact Or.inl hFilled
  right
  refine ⟨by omega, hColumn (not_lt.mp hFilled) hBoard, ?_⟩
  intro other hOther hOtherKey hOtherTracked
  have hReach : ReachKept orders start current :=
    fun linked hLinked hLinkedKey hLinkedTracked =>
      (hTracks linked hLinked hLinkedKey hLinkedTracked).2
  have hNext := hReach.step hKeyed hOrder hKey hTracked hLinks
  exact ⟨(hTracks order hOrder hKey hTracked).1, hNext other hOther hOtherKey hOtherTracked⟩

theorem Leaving.entry (row : BrokerOrderStatusSnapshot) :
    Leaving orders start (projectEntry order row none current) := by
  obtain ⟨hGrows, hColumn⟩ := projectEntry_unheld order row current
  exact h.through hKeyed hOrder hKey hTracked
    (projectEntry_linksFrom order row none current).through hGrows fun hNone _ => hColumn hNone

theorem Leaving.kept : Leaving orders start (consumedCard order current) := by
  obtain ⟨hQuantity, hBoard⟩ := consumedCard_position order current
  exact h.through hKeyed hOrder hKey hTracked (consumedCard_links order current) hQuantity.ge
    fun _ hColumn => hBoard ▸ hColumn

end

/-- A row of an unheld card, when no open row in reach of an empty card opens a sell
column. -/
theorem Leaving.row {runtime : Runtime} {categories : List (String × ReconciliationCategory)}
    {row : BrokerOrderStatusSnapshot} (hKeyed : Keyed clientOrderId orders)
    (h : Leaving orders start current)
    (hRow : RowProjection runtime snapshot orders categories start.cardKey row order current next)
    (hComplete : snapshot.completeness.holdingsComplete = true)
    (hUnheld : isHeld snapshot start.symbol = false)
    (hCategory : categoryOf categories order.clientOrderId =
      classifyExecutionOrder order (some met))
    (hMet : start.brokerQuantity = 0 → met.boardStatus ≠ .sellAll)
    (hQuiet : start.brokerQuantity = 0 → InReach orders start order → opensExit order = true →
      isOpenStatus row.status = false) : Leaving orders start next := by
  have hSymbol : order.symbol = start.symbol := congrArg (fun key : CardKey => key.2.2) hRow.sameKey
  have hStep := (hRow.by_branch hCategory).unheld hComplete (by rwa [hSymbol])
  have hKept := h.kept hKeyed hRow.order_mem hRow.sameKey hRow.tracked
  cases hStep with
  | entry _ hNext =>
    rw [hNext]
    exact h.entry hKeyed hRow.order_mem hRow.sameKey hRow.tracked row
  | emptied hEmpty hNext =>
    rw [hNext]
    exact leaving_closedFlat hEmpty
  | kept hNext => rwa [hNext]
  | opened hNotEntry hOpen hSame =>
    rcases h with hShares | ⟨hEmpty, _, hTracks⟩
    · left
      rwa [hSame]
    -- without shares only an order without a branch is left
    obtain ⟨hStart, hReach⟩ := hTracks order hRow.order_mem hRow.sameKey hRow.tracked
    have hNoExit : opensExit order = false := by
      by_contra hExit
      rw [hQuiet hStart hReach (by simpa using hExit)] at hOpen
      cases hOpen
    have hOperational := operational_of_quiet hRow.exactId (hMet hStart) hNoExit hNotEntry current
    obtain ⟨alerts, hProjected⟩ := hRow.projected
    rw [hCategory] at hProjected
    unfold projectExactOrderToCard at hProjected
    dsimp only at hProjected hOperational
    have hNext : next = consumedCard order current := by
      rcases hOperational with hUnknown | hUnrecognized | hTerminal
      · rw [hUnknown] at hProjected
        cases hProjected
        rfl
      · rw [hUnrecognized] at hProjected
        cases hProjected
        rfl
      · rw [hTerminal] at hProjected
        cases hProjected
        rfl
    rwa [hNext]

/-! ## The cards the mirror needs -/

/-- The card belongs to the snapshot's account. -/
def OfAccount (snapshot : AccountBrokerSnapshot) (card : TradeCardState) : Prop :=
  card.environment = snapshot.environment ∧ card.accountNo = snapshot.accountNo

/-- The snapshot lists an owned order of the card as open at the broker. -/
structure ListedOpen (snapshot : AccountBrokerSnapshot) (localState : AccountLocalState)
    (card : TradeCardState) (order : ExecutionOrderRecord) (row : BrokerOrderStatusSnapshot) :
    Prop where
  order_mem : order ∈ localState.executionOrders
  sameKey : orderKey order = card.cardKey
  exactId : hasExactId order = true
  row_mem : row ∈ snapshot.orders
  brokerOrderId : order.brokerOrderId = row.brokerOrderId
  opened : isOpenStatus row.status = true

/-- A card whose holdings the pass mirrors: a held one is not CLOSED; one that is not
held has shares to lose, or has none, is outside the position columns, and no open row
in its reach puts it into a sell column. -/
structure CardFits (snapshot : AccountBrokerSnapshot) (localState : AccountLocalState)
    (card : TradeCardState) : Prop where
  held : isHeld snapshot card.symbol = true → card.boardStatus ≠ .closed
  nonneg : isHeld snapshot card.symbol = false → 0 ≤ card.brokerQuantity
  column : isHeld snapshot card.symbol = false → card.brokerQuantity = 0 →
    isPosition card.boardStatus = false
  quiet : isHeld snapshot card.symbol = false → card.brokerQuantity = 0 → ∀ order row,
    ListedOpen snapshot localState card order row →
      InReach localState.executionOrders card order → opensExit order = false

/-! ## The run of an unheld card -/

theorem StillEmpty.leaving (h : StillEmpty orders start current)
    (hNonneg : 0 ≤ start.brokerQuantity) : Leaving orders start current := by
  by_cases hStart : start.brokerQuantity = 0
  · right
    refine ⟨h.quantity.trans hStart, h.column hStart, ?_⟩
    intro order hOrder hKey hTracked
    exact ⟨hStart, h.reach order hOrder hKey hTracked⟩
  · left
    rw [h.quantity]
    omega

section Run

variable {runtime : Runtime} {snapshot : AccountBrokerSnapshot}
  {localState : AccountLocalState} {final : ReduceState} {card : TradeCardState}

variable (run : ReducerRun runtime snapshot localState final)

theorem leaving_exact
    (hComplete : snapshot.completeness.holdingsComplete = true) (hCard : card ∈ localState.cards)
    (hUnheld : isHeld snapshot card.symbol = false)
    (hFits : CardFits snapshot localState card) :
    ∃ current, cardIn run.exact card.cardKey = some current ∧
      Leaving localState.executionOrders card current := by
  obtain ⟨⟨classified, hClassified, hEmpty⟩, hCategories⟩ :=
    classifyLocalOrders_card (P := StillEmpty localState.executionOrders card) hCard
      ⟨rfl, hFits.column hUnheld, fun _ _ _ hTracked => Or.inl hTracked⟩
      (fun order hOrder hKey _ _ hCurrent =>
        hCurrent.classified localState.ordersKeyed hOrder hKey snapshot.observedAt)
  have hSame := classified_same snapshot localState
  refine rows_card localState.ordersKeyed' hSame hClassified
    (hEmpty.leaving (hFits.nonneg hUnheld)) ?_ run.exactRows
  intro row hRow order current next hCurrent hProjection
  obtain ⟨met, hMet, hCategory⟩ := hCategories order hProjection.order_mem hProjection.sameKey
  refine hCurrent.row localState.ordersKeyed hProjection hComplete hUnheld hCategory ?_ ?_
  · intro hStart hSellAll
    have hColumn := hMet.column hStart
    rw [hSellAll] at hColumn
    cases hColumn
  · intro hStart hReach hExit
    by_contra hOpen
    have hListed : ListedOpen snapshot localState card order row :=
      { order_mem := hProjection.order_mem, sameKey := hProjection.sameKey
        exactId := hProjection.exactId, row_mem := hRow
        brokerOrderId := hProjection.brokerOrderId, opened := by simpa using hOpen }
    rw [hFits.quiet hUnheld hStart order row hListed hReach] at hExit
    cases hExit

theorem Leaving.swept {swept : TradeCardState} (h : Leaving orders start current)
    (hAccount : OfAccount snapshot current) (hUnheld : isHeld snapshot current.symbol = false)
    (hSwept : sweepUnheldCard snapshot current = .ok swept) :
    swept.brokerQuantity = 0 ∧ isPosition swept.boardStatus = false := by
  unfold sweepUnheldCard at hSwept
  rcases h with hShares | ⟨hEmpty, hColumn, _⟩
  · rw [if_pos ⟨hAccount.1, hAccount.2, hShares, hUnheld⟩] at hSwept
    dsimp only at hSwept
    split at hSwept
    · rw [confirmFlat_of_empty (le_refl 0)] at hSwept
      cases hSwept
      exact ⟨rfl, rfl⟩
    · rename_i hOther
      cases hSwept
      refine ⟨rfl, ?_⟩
      simpa [isPosition, not_or, and_assoc] using hOther
  · have hNoShares : ¬ 0 < current.brokerQuantity := by omega
    rw [if_neg (by simp [hNoShares])] at hSwept
    cases hSwept
    exact ⟨hEmpty, hColumn⟩

/-- A pending entry that goes back to the Buylist was no position. -/
theorem retireStaleEntry_position (snapshot : AccountBrokerSnapshot)
    (orders : List ExecutionOrderRecord) (card : TradeCardState) :
    (retireStaleEntry snapshot orders card).brokerQuantity = card.brokerQuantity ∧
      isPosition (retireStaleEntry snapshot orders card).boardStatus =
        isPosition card.boardStatus := by
  unfold retireStaleEntry
  split
  · rename_i hPending
    refine ⟨rfl, ?_⟩
    rw [hPending.2.1]
    rfl
  · exact ⟨rfl, rfl⟩

/-- Without a holding of its key a card only meets the sweep and the retirement. -/
theorem heldCard_of_unheld (hUnheld : isHeld snapshot key.2.2 = false)
    (found : Option TradeCardState) : heldCard snapshot key found = found := by
  have hNone : snapshot.holdings.filter (fun holding => holdingKey snapshot holding = key) =
      [] := by
    apply List.filter_eq_nil_iff.mpr
    intro holding hHolding hKey
    have hSymbol : holding.symbol = key.2.2 :=
      congrArg (fun key : CardKey => key.2.2) (by simpa using hKey)
    have hAny : isHeld snapshot key.2.2 = true :=
      List.any_eq_true.mpr ⟨holding, hHolding, by simpa using hSymbol⟩
    rw [hUnheld] at hAny
    cases hAny
  unfold heldCard
  rw [hNone]
  rfl

theorem final_of_unheld
    (hComplete : snapshot.completeness.holdingsComplete = true)
    (hUnheld : isHeld snapshot key.2.2 = false) (hCurrent : cardIn run.exact key = some current) :
    ∃ swept orders, sweepUnheldCard snapshot current = .ok swept ∧
      cardIn final key = some (retireStaleEntry snapshot orders swept) := by
  have hHeld := heldCard_of_unheld hUnheld (cardIn run.exact key)
  rcases run.cardIn_final key with ⟨hIncomplete, _⟩ | ⟨_, ⟨hNone, _⟩ | ⟨held, swept, orders,
    hHeldCard, hSwept, _, hFinal⟩⟩
  · rw [hComplete] at hIncomplete
    cases hIncomplete
  · rw [hHeld, hCurrent] at hNone
    cases hNone
  · rw [hHeld, hCurrent] at hHeldCard
    cases hHeldCard
    exact ⟨swept, orders, hSwept, hFinal⟩

/-! ## The run of a held card -/

theorem ProjectedBy.held_column {row : BrokerOrderStatusSnapshot}
    (h : ProjectedBy config snapshot row order card projection)
    (hHeld : SymbolHeld snapshot order.symbol) (hOpen : card.boardStatus ≠ .closed) :
    projection.boardStatus ≠ .closed := by
  obtain ⟨holding, hReported, hPositive⟩ := hHeld.reported
  cases h with
  | entry _ hProjection =>
    obtain ⟨hColumn, _⟩ := projectEntry_exit order row (reportedHolding snapshot order.symbol) card
    rw [← hProjection] at hColumn
    rcases hColumn with hColumn | hColumn | hColumn <;> simp [hColumn]
  | partialExit _ hProjected =>
    rw [hReported] at hProjected
    obtain ⟨hColumn, _⟩ := projectPartialSell_held hHeld.complete hPositive hProjected
    rcases hColumn with hColumn | hColumn <;> simp [hColumn]
  | liquidation _ _ _ hProjected =>
    rw [hReported] at hProjected
    obtain ⟨hColumn, _⟩ := projectLiquidation_held hHeld.complete hPositive hProjected
    simp [hColumn]
  | unnamed _ _ hProjection =>
    rwa [hProjection, (consumedCard_position order card).2]

theorem projectLocalOrder_column (hOpen : card.boardStatus ≠ .closed) (observedAt : Instant)
    (order : ExecutionOrderRecord) (category : ReconciliationCategory) :
    (projectLocalOrder observedAt order category card).boardStatus ≠ .closed := by
  apply projectLocalOrder_of (P := fun after => after.boardStatus ≠ .closed) hOpen
  · intro _
    unfold applyDefinitiveEntryNonacceptance
    dsimp only
    split <;> simp
  · simp

theorem symbolHeld_of_holding (hComplete : snapshot.completeness.holdingsComplete = true)
    (hPositive : ∀ holding ∈ snapshot.holdings, 0 < holding.quantity)
    (hHeld : isHeld snapshot symbol = true) : SymbolHeld snapshot symbol := by
  cases hFound : snapshot.holdingFor symbol with
  | none =>
    obtain ⟨holding, hHolding, hSymbol⟩ := List.any_eq_true.mp hHeld
    exact absurd hSymbol (List.find?_eq_none.mp hFound holding hHolding)
  | some holding =>
    exact ⟨hComplete, holding, hFound, hPositive holding (List.mem_of_find?_eq_some hFound)⟩

variable (run : ReducerRun runtime snapshot localState final)

theorem held_exact (hHeld : SymbolHeld snapshot card.symbol) (hCard : card ∈ localState.cards)
    (hOpen : card.boardStatus ≠ .closed) :
    ∃ current, cardIn run.exact card.cardKey = some current ∧ current.boardStatus ≠ .closed := by
  obtain ⟨⟨classified, hClassified, hStart⟩, hCategories⟩ :=
    classifyLocalOrders_card (P := fun current => current.boardStatus ≠ .closed) hCard hOpen
      (fun order _ _ _ _ hCurrent =>
        projectLocalOrder_column hCurrent snapshot.observedAt order _)
  have hSame := classified_same snapshot localState
  apply rows_card (P := fun current => current.boardStatus ≠ .closed) localState.ordersKeyed'
    hSame hClassified hStart _ run.exactRows
  intro row _ order current next hCurrent hProjection
  obtain ⟨met, _, hCategory⟩ := hCategories order hProjection.order_mem hProjection.sameKey
  have hSymbol : order.symbol = card.symbol :=
    congrArg (fun key : CardKey => key.2.2) hProjection.sameKey
  exact (hProjection.by_branch hCategory).held_column (by rwa [hSymbol]) hCurrent

theorem heldCard_of_holding (hSymbols : Keyed AccountHoldingSnapshot.symbol snapshot.holdings)
    (hHolding : holding ∈ snapshot.holdings) (found : Option TradeCardState) :
    heldCard snapshot (holdingKey snapshot holding) found =
      some (match found with
        | none => manualPositionCard snapshot holding
        | some card => applyHolding card holding) := by
  have hKeys : Keyed (holdingKey snapshot) snapshot.holdings := by
    apply List.Nodup.of_map (fun key : CardKey => key.2.2)
    rw [List.map_map]
    exact hSymbols
  unfold heldCard
  rw [hKeys.filter_key (hKeys.lookup_of_mem hHolding)]
  rfl

theorem final_of_holding (hComplete : snapshot.completeness.holdingsComplete = true)
    (hSymbols : Keyed AccountHoldingSnapshot.symbol snapshot.holdings)
    (hHolding : holding ∈ snapshot.holdings) :
    cardIn final (holdingKey snapshot holding) =
      some (match cardIn run.exact (holdingKey snapshot holding) with
        | none => manualPositionCard snapshot holding
        | some card => applyHolding card holding) := by
  have hShown := heldCard_of_holding hSymbols hHolding
    (cardIn run.exact (holdingKey snapshot holding))
  rcases run.cardIn_final (holdingKey snapshot holding) with ⟨hIncomplete, _⟩ | ⟨_, ⟨hNone, _⟩ |
    ⟨held, swept, orders, hHeldCard, hSwept, _, hFinal⟩⟩
  · rw [hComplete] at hIncomplete
    cases hIncomplete
  · rw [hShown] at hNone
    cases hNone
  have hKey : held.cardKey = holdingKey snapshot holding := by
    rw [hShown] at hHeldCard
    cases hCurrent : cardIn run.exact (holdingKey snapshot holding) with
    | none =>
      rw [hCurrent] at hHeldCard
      cases hHeldCard
      rfl
    | some current =>
      rw [hCurrent] at hHeldCard
      cases hHeldCard
      exact (applyHolding_cardKey current holding).trans (cardIn_key _ current hCurrent)
  have hSymbol : held.symbol = holding.symbol := congrArg (fun key : CardKey => key.2.2) hKey
  have hReported : isHeld snapshot held.symbol = true :=
    List.any_eq_true.mpr ⟨holding, hHolding, by simp [hSymbol]⟩
  rw [hFinal, retired_of_held hReported hSwept, ← hHeldCard, hShown]

/-- A holding puts its quantity on the card and moves it to a position unless the card
is CLOSED. -/
theorem applyHolding_position (card : TradeCardState) (holding : AccountHoldingSnapshot) :
    (applyHolding card holding).brokerQuantity = holding.quantity ∧
      (isPosition (applyHolding card holding).boardStatus = true ↔ card.boardStatus ≠ .closed) := by
  unfold applyHolding
  dsimp only
  split
  · rename_i hPre
    have hOpen : card.boardStatus ≠ .closed := by
      intro hClosed
      simp [isPrePosition, hClosed] at hPre
    split <;> exact ⟨rfl, fun _ => hOpen, fun _ => rfl⟩
  · rename_i hPost
    refine ⟨rfl, ?_⟩
    show isPosition card.boardStatus = true ↔ _
    cases hBoard : card.boardStatus <;> simp_all [isPosition, isPrePosition]

end Run

end QuantApp.Services
