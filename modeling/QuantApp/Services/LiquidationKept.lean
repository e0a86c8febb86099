import QuantApp.Services.CardLinks

/-!
# What reconciliation does to a liquidation

A card in SELL_ALL with `exit_all_required` is followed through a pass whose
holdings still report its symbol.  The exit flag is never withdrawn, but the
column is: every row of an entry BUY or of a partial exit the card tracks moves
the card out of SELL_ALL (`liquidation_kept`), and only a later row of a
liquidation order moves it back.
-/

namespace QuantApp.Services

open Core Verified

variable {snapshot : AccountBrokerSnapshot} {card next projection : TradeCardState}
  {localState : AccountLocalState} {runtime : Runtime} {order : ExecutionOrderRecord}
  {final : ReduceState} {row : BrokerOrderStatusSnapshot} {key : CardKey}
  {holding : AccountHoldingSnapshot} {alerts : List ReconciliationAlert} {config : ExecutionConfig}
  {symbol : String}

/-! ## The column after one projection -/

/-- With the symbol still held, a liquidation row leaves the card liquidating. -/
theorem projectLiquidation_held {operational : ReconciliationCategory}
    (hComplete : snapshot.completeness.holdingsComplete = true) (hPositive : 0 < holding.quantity)
    (h : projectLiquidation operational order row snapshot (some holding) card =
      .ok (next, alerts)) :
    next.boardStatus = .sellAll ∧ next.exitAllRequired = true ∧
      next.entryClientOrderId = card.entryClientOrderId ∧
      next.entryAttemptGroupId = card.entryAttemptGroupId ∧
      (next.exitClientOrderId = order.clientOrderId ∨ next.exitClientOrderId = "") ∧
      next.exitAttemptGroupId = card.exitAttemptGroupId := by
  unfold projectLiquidation at h
  split at h
  · cases h
    exact ⟨rfl, rfl, rfl, rfl, Or.inl rfl, rfl⟩
  rename_i hNotOpen
  have hTerminal := rowIsTerminal_of_not_open hNotOpen
  have hRemaining : ¬ holding.quantity ≤ 0 := not_le.mpr hPositive
  rw [if_neg hTerminal, if_neg (by simp [hComplete])] at h
  dsimp only [Option.map_some, Option.getD_some] at h
  rw [if_neg hRemaining] at h
  cases h
  refine ⟨rfl, rfl, rfl, rfl, Or.inr rfl, ?_⟩
  show (if (decide (holding.quantity ≤ 0)) = true then "" else card.exitAttemptGroupId) = _
  rw [if_neg (by simpa using hRemaining)]

theorem onPartialExitFilled_frame (config : ExecutionConfig) (card : TradeCardState)
    (quantity : Int) :
    (onPartialExitFilled config card quantity).boardStatus = .openPosition ∧
      (onPartialExitFilled config card quantity).exitAllRequired = card.exitAllRequired ∧
      (onPartialExitFilled config card quantity).entryClientOrderId = card.entryClientOrderId ∧
      (onPartialExitFilled config card quantity).entryAttemptGroupId = card.entryAttemptGroupId ∧
      (onPartialExitFilled config card quantity).exitClientOrderId = card.exitClientOrderId ∧
      (onPartialExitFilled config card quantity).exitAttemptGroupId =
        card.exitAttemptGroupId := by
  unfold onPartialExitFilled applyBreakevenStop
  dsimp only
  split <;> exact ⟨rfl, rfl, rfl, rfl, rfl, rfl⟩

/-- With the symbol still held, a partial exit row moves the card to another column
and leaves its exit flag. -/
theorem projectPartialSell_held (hComplete : snapshot.completeness.holdingsComplete = true)
    (hPositive : 0 < holding.quantity)
    (h : projectPartialSell config order row snapshot (some holding) card = .ok (next, alerts)) :
    (next.boardStatus = .partialSell ∨ next.boardStatus = .openPosition) ∧
      next.exitAllRequired = card.exitAllRequired ∧
      next.entryClientOrderId = card.entryClientOrderId ∧
      next.entryAttemptGroupId = card.entryAttemptGroupId ∧
      (next.exitClientOrderId = order.clientOrderId ∨ next.exitClientOrderId = "") ∧
      (next.exitAttemptGroupId = card.exitAttemptGroupId ∨ next.exitAttemptGroupId = "") := by
  unfold projectPartialSell at h
  split at h
  · cases h
    exact ⟨Or.inl rfl, rfl, rfl, rfl, Or.inl rfl, Or.inl rfl⟩
  rename_i hNotOpen
  have hTerminal := rowIsTerminal_of_not_open hNotOpen
  have hRemaining : ¬ holding.quantity ≤ 0 := not_le.mpr hPositive
  rw [if_neg hTerminal, if_neg (by simp [hComplete])] at h
  dsimp only [Option.map_some, Option.getD_some] at h
  rw [if_neg hRemaining] at h
  split at h
  · cases h
    obtain ⟨hBoard, hExit, hEntryId, hEntryGroup, hId, hGroup⟩ := onPartialExitFilled_frame config
      (clearExitCardTracking { card with pendingPartialSellQuantity := 0 } true) holding.quantity
    exact ⟨Or.inr hBoard, hExit, hEntryId, hEntryGroup, Or.inr hId, Or.inr hGroup⟩
  · cases h
    exact ⟨Or.inr rfl, rfl, rfl, rfl, Or.inr rfl, Or.inr rfl⟩

/-! ## What the classification leaves -/

/-- No branch of the classification loop touches a card in SELL_ALL. -/
theorem projectLocalOrder_of_sellAll (h : card.boardStatus = .sellAll) (observedAt : Instant)
    (order : ExecutionOrderRecord) (category : ReconciliationCategory) :
    projectLocalOrder observedAt order category card = card := by
  have hNotRejected : entryDefinitivelyRejected card order = false := by
    simp [entryDefinitivelyRejected, h]
  have hNotAdopted : adoptsLiveEntry card order category = false := by
    simp [adoptsLiveEntry, h]
  unfold projectLocalOrder
  dsimp only
  rw [hNotRejected, if_neg Bool.false_ne_true, hNotAdopted, if_neg Bool.false_ne_true]

/-! ## One row on a held card -/

/-- The card's symbol is reported with a positive quantity in a complete answer. -/
structure SymbolHeld (snapshot : AccountBrokerSnapshot) (symbol : String) : Prop where
  complete : snapshot.completeness.holdingsComplete = true
  held : ∃ holding, snapshot.holdingFor symbol = some holding ∧ 0 < holding.quantity

theorem SymbolHeld.reported (h : SymbolHeld snapshot symbol) :
    ∃ holding, reportedHolding snapshot symbol = some holding ∧ 0 < holding.quantity := by
  obtain ⟨holding, hFound, hPositive⟩ := h.held
  refine ⟨holding, ?_, hPositive⟩
  unfold reportedHolding
  rw [if_pos h.complete]
  exact hFound

theorem SymbolHeld.isHeld (h : SymbolHeld snapshot symbol) : isHeld snapshot symbol = true := by
  obtain ⟨holding, hFound, _⟩ := h.held
  refine List.any_eq_true.mpr ⟨holding, List.mem_of_find?_eq_some hFound, ?_⟩
  simpa using List.find?_some hFound

/-- What a row makes of a card whose symbol is held: the exit flag stands, the
links are the card's or the order's, and the branch decides the column. -/
structure HeldProjection (order : ExecutionOrderRecord) (before after : TradeCardState) : Prop where
  exitFlag : before.exitAllRequired = true → after.exitAllRequired = true
  links : LinksFrom order before after
  leaves : isEntryOrder order = true ∨ isPartialExit order = true → after.boardStatus ≠ .sellAll
  keeps : isEntryOrder order = false → isPartialExit order = false →
    before.boardStatus = .sellAll → after.boardStatus = .sellAll
  unnamed : isEntryOrder order = false → isPartialExit order = false → order.side = .buy →
    order.executionPolicy ≠ reservedMooExecution → after = before

theorem ProjectedBy.held (h : ProjectedBy config snapshot row order card projection)
    (hHeld : SymbolHeld snapshot order.symbol) : HeldProjection order card projection := by
  obtain ⟨holding, hReported, hPositive⟩ := hHeld.reported
  obtain ⟨hBoard, hExit, hExitId, hEntryId, hEntryGroup⟩ := consumedCard_frame order card
  have hConsumedGroup := consumedCard_exitGroup order card
  cases h with
  | entry hEntry hProjection =>
    rw [hProjection]
    obtain ⟨hColumn, hFlag, _, _⟩ :=
      projectEntry_exit order row (reportedHolding snapshot order.symbol) card
    refine ⟨fun hTrue => hFlag.trans hTrue, projectEntry_linksFrom _ _ _ _, ?_, ?_, ?_⟩
    · intro _ hSellAll
      rw [hSellAll] at hColumn
      rcases hColumn with hColumn | hColumn | hColumn <;> cases hColumn
    all_goals
      intro hNotEntry
      rw [hEntry] at hNotEntry
      cases hNotEntry
  | partialExit hPartial hProjected =>
    rw [hReported] at hProjected
    obtain ⟨hColumn, hFlag, hId, hGroup, hNextId, hNextGroup⟩ :=
      projectPartialSell_held hHeld.complete hPositive hProjected
    refine ⟨fun hTrue => hFlag.trans (hExit.trans hTrue), ?_, ?_, ?_, ?_⟩
    · refine ⟨Or.inl (hId.trans hEntryId), Or.inl (hGroup.trans hEntryGroup), ?_, ?_⟩
      · exact Or.inr hNextId.symm
      · rcases hNextGroup with hSame | hNone
        · rw [hSame]
          exact hConsumedGroup.imp id Or.inr
        · exact Or.inr (Or.inl hNone)
    · intro _ hSellAll
      rw [hSellAll] at hColumn
      rcases hColumn with hColumn | hColumn <;> cases hColumn
    all_goals
      intro _ hNotPartial
      rw [hPartial] at hNotPartial
      cases hNotPartial
  | liquidation hNotEntry hNotPartial hKind hProjected =>
    rw [hReported] at hProjected
    obtain ⟨hColumn, hFlag, hId, hGroup, hNextId, hNextGroup⟩ :=
      projectLiquidation_held hHeld.complete hPositive hProjected
    refine ⟨fun _ => hFlag, ?_, ?_, fun _ _ _ => hColumn, ?_⟩
    · refine ⟨Or.inl (hId.trans hEntryId), Or.inl (hGroup.trans hEntryGroup), ?_, ?_⟩
      · exact Or.inr hNextId.symm
      · rw [hNextGroup]
        exact hConsumedGroup.imp id Or.inr
    · rw [hNotEntry, hNotPartial]
      rintro (hFalse | hFalse) <;> cases hFalse
    · intro _ _ hBuy hPolicy
      rcases hKind with hMoo | hSell
      · exact absurd hMoo hPolicy
      · rw [hBuy] at hSell
        cases hSell
  | unnamed hNotEntry hNotPartial hProjection =>
    rw [hProjection]
    refine ⟨fun hTrue => hExit.trans hTrue, ?_, ?_, fun _ _ hSellAll => hBoard.trans hSellAll, ?_⟩
    · exact
        ⟨Or.inl hEntryId, Or.inl hEntryGroup, Or.inl hExitId, hConsumedGroup.imp id Or.inr⟩
    · rw [hNotEntry, hNotPartial]
      rintro (hFalse | hFalse) <;> cases hFalse
    · intro _ _ hBuy _
      unfold consumedCard
      rw [hBuy]
      rfl

theorem ProjectedRow.held
    (h : ProjectedRow runtime snapshot localState key row order card projection)
    (hHeld : SymbolHeld snapshot key.2.2) : HeldProjection order card projection := by
  have hSymbol : order.symbol = key.2.2 := congrArg (fun key : CardKey => key.2.2) h.sameKey
  exact h.branch.held (hSymbol ▸ hHeld)

theorem ProjectedRow.listed {start : TradeCardState}
    (h : ProjectedRow runtime snapshot localState start.cardKey row order card projection)
    (hRow : row ∈ snapshot.orders) : Listed snapshot localState start order :=
  ⟨h.order_mem, h.sameKey, h.exactId, row, hRow, h.brokerOrderId⟩

/-! ## The holdings part of a held card -/

theorem applyHolding_exit (card : TradeCardState) (holding : AccountHoldingSnapshot) :
    (applyHolding card holding).exitAllRequired = card.exitAllRequired ∧
      ((applyHolding card holding).boardStatus = .sellAll ↔ card.boardStatus = .sellAll) := by
  unfold applyHolding
  dsimp only
  split
  · rename_i hPre
    have hNotSellAll : card.boardStatus ≠ .sellAll := by
      intro hSellAll
      simp [isPrePosition, hSellAll] at hPre
    split <;> exact ⟨rfl, ⟨fun hOpen => absurd hOpen (by simp), fun h => absurd h hNotSellAll⟩⟩
  · exact ⟨rfl, Iff.rfl⟩

/-- With the symbol held, the holdings part only writes the holdings. -/
theorem ReducerRun.final_of_held (run : ReducerRun runtime snapshot localState final)
    (hHeld : SymbolHeld snapshot key.2.2) (hCard : cardIn run.exact key = some card) :
    cardIn final key = heldCard snapshot key (some card) := by
  rcases run.cardIn_final key with ⟨hIncomplete, _⟩ | ⟨_, ⟨hNone, _⟩ | ⟨held, swept, orders,
    hHeldCard, hSwept, _, hFinal⟩⟩
  · rw [hHeld.complete] at hIncomplete
    cases hIncomplete
  · rw [hCard] at hNone
    exact absurd hNone heldCard_ne_none
  · have hKey : held.cardKey = key := by
      rw [hCard] at hHeldCard
      exact heldCard_key (cardIn_key key card hCard) hHeldCard
    have hSymbol : isHeld snapshot held.symbol = true := by
      rw [show held.symbol = key.2.2 from congrArg (fun k : CardKey => k.2.2) hKey]
      exact hHeld.isHeld
    rw [hFinal, retired_of_held hSymbol hSwept, ← hHeldCard, hCard]

/-! ## The run of a liquidating card -/

theorem heldCard_exit {held : TradeCardState} (h : heldCard snapshot key (some card) = some held) :
    held.exitAllRequired = card.exitAllRequired ∧
      (held.boardStatus = .sellAll ↔ card.boardStatus = .sellAll) := by
  have hSome : ∃ other, heldCard snapshot key (some card) = some other ∧
      other.exitAllRequired = card.exitAllRequired ∧
        (other.boardStatus = .sellAll ↔ card.boardStatus = .sellAll) := by
    refine heldCard_some ⟨rfl, Iff.rfl⟩ ?_
    rintro current holding _ _ ⟨hExit, hBoard⟩
    obtain ⟨hNextExit, hNextBoard⟩ := applyHolding_exit current holding
    exact ⟨hNextExit.trans hExit, hNextBoard.trans hBoard⟩
  obtain ⟨other, hOther, hProperty⟩ := hSome
  rw [h] at hOther
  cases hOther
  exact hProperty

/-- The classification loop leaves a card in SELL_ALL as it is. -/
theorem classified_sellAll (snapshot : AccountBrokerSnapshot) (hCard : card ∈ localState.cards)
    (hBoard : card.boardStatus = .sellAll) :
    ExactState localState card.cardKey
        (classifyLocalOrders snapshot (ReduceState.start localState)) ∧
      cardIn (classifyLocalOrders snapshot (ReduceState.start localState)) card.cardKey =
        some card := by
  have hKept : ∀ order ∈ localState.executionOrders, orderKey order = card.cardKey →
      ∀ current, current.cardKey = card.cardKey → current = card →
        projectLocalOrder snapshot.observedAt order
          (classifyExecutionOrder order (some current)) current = card := by
    rintro order _ _ _ _ rfl
    exact projectLocalOrder_of_sellAll hBoard snapshot.observedAt order _
  obtain ⟨⟨classified, hClassified, rfl⟩, hCategories⟩ :=
    classifyLocalOrders_card (P := (· = card)) hCard rfl hKept
  refine ⟨⟨?_, ?_⟩, hClassified⟩
  · rw [classifyLocalOrders_orders]
    exact List.forall₂_same.mpr (fun order _ => SameOrder.refl order)
  · intro order hOrder hKey
    obtain ⟨met, _, hCategory⟩ := hCategories order hOrder hKey
    exact ⟨met, hCategory⟩

/-- The holdings part keeps the flag and the column of a held liquidating card. -/
theorem ReducerRun.final_exit (run : ReducerRun runtime snapshot localState final)
    (hHeld : SymbolHeld snapshot key.2.2) (hCard : cardIn run.exact key = some card) :
    ∃ held, cardIn final key = some held ∧ held.exitAllRequired = card.exitAllRequired ∧
      (held.boardStatus = .sellAll ↔ card.boardStatus = .sellAll) := by
  have hFinal := run.final_of_held hHeld hCard
  cases hHeldCard : heldCard snapshot key (some card) with
  | none => exact absurd hHeldCard heldCard_ne_none
  | some held =>
    rw [hHeldCard] at hFinal
    exact ⟨held, hFinal, heldCard_exit hHeldCard⟩

/-! ## The plan -/

/-- The card is still in SELL_ALL with its exit flag once the plan is applied. -/
def StaysLiquidating (plan : ReconciliationPlan) (localState : AccountLocalState)
    (card : TradeCardState) : Prop :=
  ∃ after ∈ plan.reducedCards localState, after.cardKey = card.cardKey ∧
    after.boardStatus = .sellAll ∧ after.exitAllRequired = true

/-- No entry BUY and no partial exit that the card tracks, or can come to track in
this pass, is listed. -/
def NoColumnRow (snapshot : AccountBrokerSnapshot) (localState : AccountLocalState)
    (card : TradeCardState) : Prop :=
  ∀ order, Listed snapshot localState card order →
    MayTrack localState.executionOrders card order →
      isEntryOrder order = false ∧ isPartialExit order = false

/-- No liquidation order of the card is listed: what it can come to track are entry
BUYs, partial exits and BUYs without a branch. -/
def NoLiquidationRow (snapshot : AccountBrokerSnapshot) (localState : AccountLocalState)
    (card : TradeCardState) : Prop :=
  ∀ order, Listed snapshot localState card order →
    MayTrack localState.executionOrders card order →
      isEntryOrder order = true ∨ isPartialExit order = true ∨
        (order.side = .buy ∧ order.executionPolicy ≠ reservedMooExecution)

/-- The card has left SELL_ALL and tracks nothing it could not come to track. -/
structure Moved (orders : List ExecutionOrderRecord) (card current : TradeCardState) : Prop where
  column : current.boardStatus ≠ .sellAll
  links : LinksWithin orders card current

/-- Without a liquidation row, a projection moves the card or leaves it as it is. -/
theorem moved_or_same {current : TradeCardState} (hOnly : NoLiquidationRow snapshot localState card)
    (hListed : Listed snapshot localState card order)
    (hLinks : LinksWithin localState.executionOrders card current)
    (hTracked : cardTracksOrder current order = true) (hStep : HeldProjection order current next) :
    Moved localState.executionOrders card next ∨
      (isEntryOrder order = false ∧ isPartialExit order = false ∧ next = current) := by
  have hMay := hLinks order hListed.order_mem hListed.sameKey hTracked
  have hNext := hLinks.step localState.ordersKeyed hListed.order_mem hListed.sameKey hTracked
    hStep.links
  by_cases hColumn : isEntryOrder order = true ∨ isPartialExit order = true
  · exact Or.inl ⟨hStep.leaves hColumn, hNext⟩
  · have hNeither : isEntryOrder order = false ∧ isPartialExit order = false := by
      simpa using hColumn
    rcases hOnly order hListed hMay with hEntry | hPartial | ⟨hBuy, hPolicy⟩
    · exact absurd (Or.inl hEntry) hColumn
    · exact absurd (Or.inr hPartial) hColumn
    · exact Or.inr ⟨hNeither.1, hNeither.2, hStep.unnamed hNeither.1 hNeither.2 hBuy hPolicy⟩

section

variable (run : ReducerRun runtime snapshot localState final) (hCard : card ∈ localState.cards)
  (hBoard : card.boardStatus = .sellAll)
include run hCard hBoard

section

variable (hHeld : SymbolHeld snapshot card.symbol)
include hHeld

/-- A listed entry BUY or partial exit that the card tracks takes it out of SELL_ALL,
and without a liquidation row nothing brings it back. -/
theorem leaves_sellAll (hOnly : NoLiquidationRow snapshot localState card)
    (hListed : Listed snapshot localState card order) (hTracked : cardTracksOrder card order = true)
    (hColumn : isEntryOrder order = true ∨ isPartialExit order = true) :
    ∃ current, cardIn run.exact card.cardKey = some current ∧ current.boardStatus ≠ .sellAll := by
  obtain ⟨row, hRow, hBrokerId⟩ := hListed.row
  obtain ⟨hState, hClassified⟩ := classified_sellAll snapshot hCard hBoard
  have hReached : ∃ current, cardIn run.exact (orderKey order) = some current ∧
      Moved localState.executionOrders card current := by
    rw [← hListed.sameKey] at hState hClassified
    have hHeldOrder : SymbolHeld snapshot (orderKey order).2.2 := by
      rw [hListed.sameKey]
      exact hHeld
    refine hState.rows_reach hClassified (Or.inl rfl) hRow hListed.order_mem hListed.exactId
      hBrokerId ?_ ?_ ?_ ?_ run.exactRows
    · rintro current rfl
      exact hTracked
    · rintro row hRow other current next rfl hProjected
      have hOther := hProjected
      rw [hListed.sameKey] at hOther
      rcases moved_or_same hOnly (hOther.listed hRow) (linksWithin_refl _ _) hProjected.tracked
        (hProjected.held hHeldOrder) with hNext | ⟨_, _, rfl⟩
      · exact Or.inr hNext
      · exact Or.inl rfl
    · rintro current next rfl hProjected
      rcases moved_or_same hOnly hListed (linksWithin_refl _ _) hTracked
        (hProjected.held hHeldOrder) with hMoves | ⟨hNotEntry, hNotPartial, _⟩
      · exact hMoves
      · rcases hColumn with hEntry | hPartial
        · rw [hEntry] at hNotEntry
          cases hNotEntry
        · rw [hPartial] at hNotPartial
          cases hNotPartial
    · -- once the card has moved, every later row leaves it moved
      intro row hRow other current next hMoved hProjected
      have hOther := hProjected
      rw [hListed.sameKey] at hOther
      rcases moved_or_same hOnly (hOther.listed hRow) hMoved.links hProjected.tracked
        (hProjected.held hHeldOrder) with hNext | ⟨_, _, rfl⟩
      · exact hNext
      · exact hMoved
  rw [hListed.sameKey] at hReached
  obtain ⟨current, hCurrent, hMoved⟩ := hReached
  exact ⟨current, hCurrent, hMoved.column⟩

/-- Without an entry BUY or partial exit in reach, the card stays liquidating
through the exact loop. -/
theorem keeps_sellAll (hNone : NoColumnRow snapshot localState card) :
    ∃ current, cardIn run.exact card.cardKey = some current ∧ current.boardStatus = .sellAll := by
  obtain ⟨hState, hClassified⟩ := classified_sellAll snapshot hCard hBoard
  have hRows : ∃ current, cardIn run.exact card.cardKey = some current ∧
      current.boardStatus = .sellAll ∧ LinksWithin localState.executionOrders card current := by
    refine hState.rows hClassified ⟨hBoard, linksWithin_refl _ _⟩ ?_ run.exactRows
    intro row hRow order current next hCurrent hProjected
    have hStep := hProjected.held hHeld
    have hMay := hCurrent.2 order hProjected.order_mem hProjected.sameKey hProjected.tracked
    obtain ⟨hNotEntry, hNotPartial⟩ := hNone order (hProjected.listed hRow) hMay
    exact ⟨hStep.keeps hNotEntry hNotPartial hCurrent.1,
      hCurrent.2.step localState.ordersKeyed hProjected.order_mem hProjected.sameKey
        hProjected.tracked hStep.links⟩
  obtain ⟨current, hCurrent, hSellAll, _⟩ := hRows
  exact ⟨current, hCurrent, hSellAll⟩

/-- A card none of whose tracked orders is listed with a branch is not written. -/
theorem card_unwritten (hOnly : NoLiquidationRow snapshot localState card)
    (hNone : ∀ order, Listed snapshot localState card order → cardTracksOrder card order = true →
      isEntryOrder order = false ∧ isPartialExit order = false) :
    cardIn run.exact card.cardKey = some card := by
  obtain ⟨hState, hClassified⟩ := classified_sellAll snapshot hCard hBoard
  have hRows : ∃ current, cardIn run.exact card.cardKey = some current ∧ card = current := by
    refine hState.rows hClassified rfl ?_ run.exactRows
    rintro row hRow order _ next rfl hProjected
    have hStep := hProjected.held hHeld
    have hListed := hProjected.listed hRow
    obtain ⟨hNotEntry, hNotPartial⟩ := hNone order hListed hProjected.tracked
    rcases hOnly order hListed (Or.inl hProjected.tracked) with hEntry | hPartial | ⟨hBuy, hPolicy⟩
    · rw [hEntry] at hNotEntry
      cases hNotEntry
    · rw [hPartial] at hNotPartial
      cases hNotPartial
    · exact (hStep.unnamed hNotEntry hNotPartial hBuy hPolicy).symm
  obtain ⟨current, hCurrent, rfl⟩ := hRows
  exact hCurrent

end

theorem exitFlag_kept (hExit : card.exitAllRequired = true)
    (hHeld : SymbolHeld snapshot card.symbol) :
    ∃ current, cardIn run.exact card.cardKey = some current ∧ current.exitAllRequired = true := by
  obtain ⟨hState, hClassified⟩ := classified_sellAll snapshot hCard hBoard
  refine hState.rows hClassified hExit ?_ run.exactRows
  intro row _ order current next hCurrent hProjected
  exact (hProjected.held hHeld).exitFlag hCurrent

end

/-- Ten shares held, and a liquidation of them under way. -/
def liquidatingCard : TradeCardState :=
  { sampleCard with boardStatus := .sellAll, exitAllRequired := true, brokerQuantity := 6 }

/-- The completion BUY of that card reports its fill. -/
def lateFillSnapshot : AccountBrokerSnapshot :=
  { sampleSnapshot with
    orders := [{ sampleRow with
      status := .filled, filledQuantity := 10, remainingQuantity := 0, avgFillPrice := 100 }]
    holdings := [sampleHolding] }

def liquidatingState : AccountLocalState :=
  { cards := [liquidatingCard], executionOrders := [sampleOrder]
    reservationLinksStripped := sampleOrder_linksStripped }

end QuantApp.Services
