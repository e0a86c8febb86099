import QuantApp.Services.CardRun

/-!
# The links and the column of one card

What one projection may write in the columns and in the order links of a card,
which orders a card can come to track during a pass, and the exact loop seen
from one card: every row leaves the card alone or is projected by the branch
of an order the card tracks.
-/

namespace QuantApp.Services

open Core Verified

variable {card after held : TradeCardState} {order : ExecutionOrderRecord}
  {snapshot : AccountBrokerSnapshot} {key : CardKey} {P : TradeCardState → Prop}

/-! ## The column and the exit after one projection -/

theorem rowIsTerminal_eq_not_open (row : BrokerOrderStatusSnapshot) :
    rowIsTerminal row = !isOpenStatus row.status := by
  unfold rowIsTerminal
  cases row.status <;> rfl

theorem rowIsTerminal_of_not_open {row : BrokerOrderStatusSnapshot}
    (h : ¬ isOpenStatus row.status = true) : ¬ rowIsTerminal row = false := by
  rw [rowIsTerminal_eq_not_open]
  simpa using h

theorem projectFillStop_exit (card : TradeCardState) (quantity : Int) :
    (projectFillStop card quantity).boardStatus = card.boardStatus ∧
      (projectFillStop card quantity).exitAllRequired = card.exitAllRequired ∧
      (projectFillStop card quantity).exitClientOrderId = card.exitClientOrderId ∧
      (projectFillStop card quantity).exitAttemptGroupId = card.exitAttemptGroupId := by
  unfold projectFillStop
  split
  · split <;> exact ⟨rfl, rfl, rfl, rfl⟩
  · exact ⟨rfl, rfl, rfl, rfl⟩

theorem retireFilledEntry_exit (card : TradeCardState) :
    (retireFilledEntry card).boardStatus = card.boardStatus ∧
      (retireFilledEntry card).exitAllRequired = card.exitAllRequired ∧
      (retireFilledEntry card).exitClientOrderId = card.exitClientOrderId ∧
      (retireFilledEntry card).exitAttemptGroupId = card.exitAttemptGroupId := by
  unfold retireFilledEntry
  split <;> exact ⟨rfl, rfl, rfl, rfl⟩

/-- An entry row puts the card into one of three columns and leaves its exit alone. -/
theorem projectEntry_exit (order : ExecutionOrderRecord) (row : BrokerOrderStatusSnapshot)
    (holding : Option AccountHoldingSnapshot) (card : TradeCardState) :
    ((projectEntry order row holding card).boardStatus = .openPosition ∨
        (projectEntry order row holding card).boardStatus = .buylist ∨
        (projectEntry order row holding card).boardStatus = .entryPending) ∧
      (projectEntry order row holding card).exitAllRequired = card.exitAllRequired ∧
      (projectEntry order row holding card).exitClientOrderId = card.exitClientOrderId ∧
      (projectEntry order row holding card).exitAttemptGroupId = card.exitAttemptGroupId := by
  have hFill : (projectEntryFill order row holding card).boardStatus = .openPosition ∧
      (projectEntryFill order row holding card).exitAllRequired = card.exitAllRequired ∧
      (projectEntryFill order row holding card).exitClientOrderId = card.exitClientOrderId ∧
      (projectEntryFill order row holding card).exitAttemptGroupId =
        card.exitAttemptGroupId := by
    unfold projectEntryFill
    obtain ⟨hBoard, hExit, hId, hGroup⟩ := projectFillStop_exit _ _
    exact ⟨hBoard, hExit, hId, hGroup⟩
  unfold projectEntry
  dsimp only
  split
  · split
    · obtain ⟨hBoard, hExit, hId, hGroup⟩ :=
        retireFilledEntry_exit (projectEntryFill order row holding card)
      rw [hBoard, hExit, hId, hGroup]
      exact ⟨Or.inl hFill.1, hFill.2⟩
    · exact ⟨Or.inl hFill.1, hFill.2⟩
  split
  · refine ⟨?_, rfl, rfl, rfl⟩
    show (if 0 < card.brokerQuantity then BoardStatus.openPosition else .buylist) = _ ∨ _
    split
    · exact Or.inl rfl
    · exact Or.inr (Or.inl rfl)
  rename_i hTerminal
  have hOpen : isOpenStatus row.status = true := by
    rw [rowIsTerminal_eq_not_open] at hTerminal
    simpa using hTerminal
  rw [if_pos hOpen]
  exact ⟨Or.inr (Or.inr rfl), rfl, rfl, rfl⟩

theorem consumedCard_frame (order : ExecutionOrderRecord) (card : TradeCardState) :
    (consumedCard order card).boardStatus = card.boardStatus ∧
      (consumedCard order card).exitAllRequired = card.exitAllRequired ∧
      (consumedCard order card).exitClientOrderId = card.exitClientOrderId ∧
      (consumedCard order card).entryClientOrderId = card.entryClientOrderId ∧
      (consumedCard order card).entryAttemptGroupId = card.entryAttemptGroupId := by
  unfold consumedCard
  split <;> exact ⟨rfl, rfl, rfl, rfl, rfl⟩

theorem consumedCard_exitGroup (order : ExecutionOrderRecord) (card : TradeCardState) :
    (consumedCard order card).exitAttemptGroupId = card.exitAttemptGroupId ∨
      order.side = .sell ∧ (consumedCard order card).exitAttemptGroupId = order.attemptGroupId := by
  unfold consumedCard consumeExitCardAttempt
  split
  · rename_i hSell
    dsimp only
    split
    · exact Or.inr ⟨hSell, rfl⟩
    · exact Or.inl rfl
  · exact Or.inl rfl

/-! ## The orders a card can come to track -/

variable (orders : List ExecutionOrderRecord)

/-- The card tracks the order, or comes to track it through a SELL of the order's
attempt group. -/
def MayTrack (card : TradeCardState) (order : ExecutionOrderRecord) : Prop :=
  cardTracksOrder card order = true ∨
    (order.side = .sell ∧ order.attemptGroupId ≠ "" ∧
      ∃ exit ∈ orders, orderKey exit = card.cardKey ∧ exit.side = .sell ∧
        cardTracksOrder card exit = true ∧ exit.attemptGroupId = order.attemptGroupId)

/-- What the card tracks now it could already come to track before. -/
def LinksWithin (before after : TradeCardState) : Prop :=
  ∀ order ∈ orders, orderKey order = before.cardKey → cardTracksOrder after order = true →
    MayTrack orders before order

theorem linksWithin_refl (card : TradeCardState) : LinksWithin orders card card :=
  fun _ _ _ hTracks => Or.inl hTracks

theorem tracks_buy (h : order.side = .buy) :
    cardTracksOrder card order = true ↔ card.entryClientOrderId = order.clientOrderId ∨
      (order.attemptGroupId ≠ "" ∧ card.entryAttemptGroupId = order.attemptGroupId) := by
  simp [cardTracksOrder, h]

theorem tracks_sell (h : order.side = .sell) :
    cardTracksOrder card order = true ↔ card.exitClientOrderId = order.clientOrderId ∨
      (order.attemptGroupId ≠ "" ∧ card.exitAttemptGroupId = order.attemptGroupId) := by
  simp [cardTracksOrder, h]

/-- The links a projection may write: its own card's, none, or those of its order. -/
structure LinksFrom (order : ExecutionOrderRecord) (before after : TradeCardState) : Prop where
  entryClientOrderId : after.entryClientOrderId = before.entryClientOrderId ∨
    after.entryClientOrderId = "" ∨ after.entryClientOrderId = order.clientOrderId
  entryAttemptGroupId : after.entryAttemptGroupId = before.entryAttemptGroupId ∨
    after.entryAttemptGroupId = ""
  exitClientOrderId : after.exitClientOrderId = before.exitClientOrderId ∨
    after.exitClientOrderId = "" ∨ after.exitClientOrderId = order.clientOrderId
  exitAttemptGroupId : after.exitAttemptGroupId = before.exitAttemptGroupId ∨
    after.exitAttemptGroupId = "" ∨
    (order.side = .sell ∧ after.exitAttemptGroupId = order.attemptGroupId)

/-- The links a step may write: the card's own, none, or those of an order it tracks. -/
structure LinksThrough (order : ExecutionOrderRecord) (before after : TradeCardState) : Prop where
  entryClientOrderId : after.entryClientOrderId = before.entryClientOrderId ∨
    after.entryClientOrderId = "" ∨ after.entryClientOrderId = order.clientOrderId
  entryAttemptGroupId : after.entryAttemptGroupId = before.entryAttemptGroupId ∨
    after.entryAttemptGroupId = "" ∨
    (order.side = .buy ∧ after.entryAttemptGroupId = order.attemptGroupId)
  exitClientOrderId : after.exitClientOrderId = before.exitClientOrderId ∨
    after.exitClientOrderId = "" ∨ after.exitClientOrderId = order.clientOrderId
  exitAttemptGroupId : after.exitAttemptGroupId = before.exitAttemptGroupId ∨
    after.exitAttemptGroupId = "" ∨
    (order.side = .sell ∧ after.exitAttemptGroupId = order.attemptGroupId)

theorem LinksFrom.through {before after : TradeCardState} (h : LinksFrom order before after) :
    LinksThrough order before after :=
  { h with
    entryAttemptGroupId := h.entryAttemptGroupId.imp id Or.inl }

/-- An order tracked through the written links was tracked before, is their order or is in its
attempt group. -/
theorem LinksThrough.tracked {before after : TradeCardState} {other : ExecutionOrderRecord}
    (hLinks : LinksThrough order before after) (hTracks : cardTracksOrder after other = true) :
    cardTracksOrder before other = true ∨ order.clientOrderId = other.clientOrderId ∨
      (order.side = other.side ∧ other.attemptGroupId ≠ "" ∧
        order.attemptGroupId = other.attemptGroupId ∧
        (other.side = .buy → after.entryAttemptGroupId = other.attemptGroupId)) := by
  have hNamed := other.clientOrderIdNamed
  cases hSide : other.side with
  | buy =>
    rw [tracks_buy hSide] at hTracks ⊢
    rcases hTracks with hId | ⟨hGrouped, hGroup⟩
    · rcases hLinks.entryClientOrderId with hKept | hNone | hOwn
      · exact Or.inl (Or.inl (hKept ▸ hId))
      · exact absurd (hId.symm.trans hNone) hNamed
      · exact Or.inr (Or.inl (hOwn.symm.trans hId))
    · rcases hLinks.entryAttemptGroupId with hKept | hNone | ⟨hBuy, hOwn⟩
      · exact Or.inl (Or.inr ⟨hGrouped, hKept ▸ hGroup⟩)
      · exact absurd (hGroup.symm.trans hNone) hGrouped
      · exact Or.inr (Or.inr ⟨hBuy, hGrouped, hOwn.symm.trans hGroup, fun _ => hGroup⟩)
  | sell =>
    rw [tracks_sell hSide] at hTracks ⊢
    rcases hTracks with hId | ⟨hGrouped, hGroup⟩
    · rcases hLinks.exitClientOrderId with hKept | hNone | hOwn
      · exact Or.inl (Or.inl (hKept ▸ hId))
      · exact absurd (hId.symm.trans hNone) hNamed
      · exact Or.inr (Or.inl (hOwn.symm.trans hId))
    · rcases hLinks.exitAttemptGroupId with hKept | hNone | ⟨hSell, hOwn⟩
      · exact Or.inl (Or.inr ⟨hGrouped, hKept ▸ hGroup⟩)
      · exact absurd (hGroup.symm.trans hNone) hGrouped
      · exact Or.inr (Or.inr ⟨hSell, hGrouped, hOwn.symm.trans hGroup, by simp⟩)

theorem LinksWithin.step {orders : List ExecutionOrderRecord} {start before : TradeCardState}
    (hKeyed : Keyed ExecutionOrderRecord.clientOrderId orders) (h : LinksWithin orders start before)
    (hOrder : order ∈ orders) (hKey : orderKey order = start.cardKey)
    (hTracked : cardTracksOrder before order = true) (hLinks : LinksFrom order before after) :
    LinksWithin orders start after := by
  intro other hOther hOtherKey hTracks
  rcases hLinks.through.tracked hTracks with hKept | hOwn | ⟨hSide, hGrouped, hSameGroup, hBuy⟩
  · exact h other hOther hOtherKey hKept
  · rw [← hKeyed.eq_of_mem hOrder hOther hOwn]
    exact h order hOrder hKey hTracked
  cases hOtherSide : other.side with
  | buy =>
    rcases hLinks.entryAttemptGroupId with hKept | hNone
    · exact h other hOther hOtherKey
        ((tracks_buy hOtherSide).mpr (Or.inr ⟨hGrouped, hKept ▸ hBuy hOtherSide⟩))
    · exact absurd ((hBuy hOtherSide).symm.trans hNone) hGrouped
  | sell =>
    -- the order's own attempt group: tracked already, or in reach through it
    rcases h order hOrder hKey hTracked with hStart | ⟨_, _, exit, hExit, hExitRest⟩
    · exact Or.inr ⟨hOtherSide, hGrouped, order, hOrder, hKey, hSide.trans hOtherSide, hStart,
        hSameGroup⟩
    · refine Or.inr ⟨hOtherSide, hGrouped, exit, hExit, hExitRest.1, hExitRest.2.1,
        hExitRest.2.2.1, ?_⟩
      rw [hExitRest.2.2.2, hSameGroup]

theorem projectFillStop_links (card : TradeCardState) (quantity : Int) :
    (projectFillStop card quantity).entryClientOrderId = card.entryClientOrderId ∧
      (projectFillStop card quantity).entryAttemptGroupId = card.entryAttemptGroupId := by
  unfold projectFillStop
  split
  · split <;> exact ⟨rfl, rfl⟩
  · exact ⟨rfl, rfl⟩

theorem projectEntry_linksFrom (order : ExecutionOrderRecord) (row : BrokerOrderStatusSnapshot)
    (holding : Option AccountHoldingSnapshot) (card : TradeCardState) :
    LinksFrom order card (projectEntry order row holding card) := by
  obtain ⟨_, _, hExitId, hExitGroup⟩ := projectEntry_exit order row holding card
  have hFillId : (projectEntryFill order row holding card).entryClientOrderId =
      if isOpenStatus row.status then order.clientOrderId else "" := by
    unfold projectEntryFill
    exact (projectFillStop_links _ _).1
  have hFillGroup : (projectEntryFill order row holding card).entryAttemptGroupId =
      card.entryAttemptGroupId := by
    unfold projectEntryFill
    exact (projectFillStop_links _ _).2
  refine ⟨?_, ?_, Or.inl hExitId, Or.inl hExitGroup⟩
  · unfold projectEntry
    dsimp only
    split
    · split
      · unfold retireFilledEntry
        split <;> exact Or.inr (Or.inl rfl)
      · rw [hFillId]
        split
        · exact Or.inr (Or.inr rfl)
        · exact Or.inr (Or.inl rfl)
    split
    · exact Or.inr (Or.inl rfl)
    split
    · exact Or.inr (Or.inr rfl)
    · exact Or.inl rfl
  · unfold projectEntry
    dsimp only
    split
    · split
      · unfold retireFilledEntry
        split
        · exact Or.inl hFillGroup
        · exact Or.inr rfl
      · exact Or.inl hFillGroup
    split
    · exact Or.inr rfl
    split <;> exact Or.inl rfl

/-! ## The exact loop, seen from one card -/

/-- A row that is projected onto the card of `key` by the branch of one of the local
orders. -/
structure ProjectedRow (runtime : Runtime) (snapshot : AccountBrokerSnapshot)
    (localState : AccountLocalState) (key : CardKey) (row : BrokerOrderStatusSnapshot)
    (order : ExecutionOrderRecord) (card projection : TradeCardState) : Prop where
  order_mem : order ∈ localState.executionOrders
  sameKey : orderKey order = key
  exactId : hasExactId order = true
  brokerOrderId : order.brokerOrderId = row.brokerOrderId
  tracked : cardTracksOrder card order = true
  branch : ProjectedBy runtime.config snapshot row order card projection

/-- A state of the exact loop: versions of the local orders, each with the category
it was classified with. -/
structure ExactState (localState : AccountLocalState) (key : CardKey) (state : ReduceState) :
    Prop where
  same : List.Forall₂ SameOrder localState.executionOrders state.orders
  classified : ∀ order ∈ localState.executionOrders, orderKey order = key →
    ∃ met, categoryOf state.categories order.clientOrderId = classifyExecutionOrder order (some met)

/-- The card of `key` in a state of the exact loop satisfies `P`. -/
def HoldsAt (localState : AccountLocalState) (key : CardKey) (P : TradeCardState → Prop)
    (state : ReduceState) : Prop :=
  ExactState localState key state ∧ ∃ card, cardIn state key = some card ∧ P card

section ExactState

variable {runtime : Runtime} {snapshot : AccountBrokerSnapshot}
  {localState : AccountLocalState} {key : CardKey} {state next : ReduceState}
  {card : TradeCardState}

theorem ExactState.after_rows {rows : List BrokerOrderStatusSnapshot}
    (hState : ExactState localState key state)
    (h : rows.foldlM (reconcileExactRow runtime snapshot) state = .ok next) :
    ExactState localState key next := by
  obtain ⟨hSame, hCategories⟩ := same_reconcileExactRows localState.ordersKeyed' hState.same h
  exact ⟨hSame, by rw [hCategories]; exact hState.classified⟩

/-- One row leaves the card alone or is projected onto it. -/
theorem ExactState.row {row : BrokerOrderStatusSnapshot}
    (hState : ExactState localState key state) (hCard : cardIn state key = some card)
    (h : reconcileExactRow runtime snapshot state row = .ok next) :
    ExactState localState key next ∧
      (cardIn next key = some card ∨
        ∃ order projection, ProjectedRow runtime snapshot localState key row order card
          projection ∧ cardIn next key = some projection) := by
  have hOneRow : [row].foldlM (reconcileExactRow runtime snapshot) state = .ok next :=
    foldlM_cons_ok.mpr ⟨next, h, rfl⟩
  refine ⟨hState.after_rows hOneRow, ?_⟩
  rcases cardIn_reconcileExactRow hState.same hCard h with
    hKept | ⟨order, projection, hProjection, hNext⟩
  · exact Or.inl hKept
  obtain ⟨met, hCategory⟩ := hState.classified order hProjection.order_mem hProjection.sameKey
  exact Or.inr ⟨order, projection,
    { order_mem := hProjection.order_mem, sameKey := hProjection.sameKey
      exactId := hProjection.exactId, brokerOrderId := hProjection.brokerOrderId
      tracked := hProjection.tracked, branch := hProjection.by_branch hCategory }, hNext⟩

/-- A row of an exact order that the card tracks is projected onto it. -/
theorem ExactState.tracked_row {row : BrokerOrderStatusSnapshot}
    (hState : ExactState localState (orderKey order) state)
    (hOrder : order ∈ localState.executionOrders) (hExactId : hasExactId order = true)
    (hBrokerId : order.brokerOrderId = row.brokerOrderId)
    (hCard : cardIn state (orderKey order) = some card)
    (hTracks : cardTracksOrder card order = true)
    (h : reconcileExactRow runtime snapshot state row = .ok next) :
    ∃ projection, ProjectedRow runtime snapshot localState (orderKey order) row order card
      projection ∧ cardIn next (orderKey order) = some projection := by
  obtain ⟨projection, hProjection, hNext⟩ := projected_of_tracked localState.ordersKeyed'
    hState.same hOrder hExactId hBrokerId hCard hTracks h
  obtain ⟨met, hCategory⟩ := hState.classified order hOrder rfl
  exact ⟨projection,
    { order_mem := hOrder, sameKey := rfl, exactId := hExactId, brokerOrderId := hBrokerId
      tracked := hTracks, branch := hProjection.by_branch hCategory }, hNext⟩

/-- What every projection of a tracked row preserves of the card holds after any rows. -/
theorem ExactState.rows {rows : List BrokerOrderStatusSnapshot}
    (hState : ExactState localState key state) (hCard : cardIn state key = some card)
    (hStart : P card)
    (hStep : ∀ row ∈ rows, ∀ order current next, P current →
      ProjectedRow runtime snapshot localState key row order current next → P next)
    (h : rows.foldlM (reconcileExactRow runtime snapshot) state = .ok next) :
    ∃ after, cardIn next key = some after ∧ P after := by
  have hStartAt : HoldsAt localState key P state := ⟨hState, card, hCard, hStart⟩
  have hInvariant : HoldsAt localState key P next := by
    refine foldlM_invariant (HoldsAt localState key P) hStartAt ?_ h
    rintro before row after hRow ⟨hBefore, current, hCurrent, hP⟩ hOne
    obtain ⟨hAfter, hKept | ⟨order, projection, hProjected, hNext⟩⟩ := hBefore.row hCurrent hOne
    · exact ⟨hAfter, current, hKept, hP⟩
    · exact ⟨hAfter, projection, hNext, hStep row hRow order current projection hP hProjected⟩
  exact hInvariant.2

/-- What every projection leads from `P` to `P` or to the stable `Q`, and the row of a
tracked order from `P` to `Q`, is `Q` after the rows. -/
theorem ExactState.rows_reach {rows : List BrokerOrderStatusSnapshot} {Q : TradeCardState → Prop}
    {row : BrokerOrderStatusSnapshot} (hState : ExactState localState (orderKey order) state)
    (hCard : cardIn state (orderKey order) = some card) (hStart : P card ∨ Q card)
    (hRow : row ∈ rows) (hOrder : order ∈ localState.executionOrders)
    (hExactId : hasExactId order = true) (hBrokerId : order.brokerOrderId = row.brokerOrderId)
    (hTracks : ∀ current, P current → cardTracksOrder current order = true)
    (hStep : ∀ row ∈ rows, ∀ other current next, P current →
      ProjectedRow runtime snapshot localState (orderKey order) row other current next →
        P next ∨ Q next)
    (hHit : ∀ current next, P current →
      ProjectedRow runtime snapshot localState (orderKey order) row order current next → Q next)
    (hStay : ∀ row ∈ rows, ∀ other current next, Q current →
      ProjectedRow runtime snapshot localState (orderKey order) row other current next → Q next)
    (h : rows.foldlM (reconcileExactRow runtime snapshot) state = .ok next) :
    ∃ after, cardIn next (orderKey order) = some after ∧ Q after := by
  have hOpen : HoldsAt localState (orderKey order) P state ∨
      HoldsAt localState (orderKey order) Q state :=
    hStart.imp (fun hP => ⟨hState, card, hCard, hP⟩) (fun hQ => ⟨hState, card, hCard, hQ⟩)
  have hReached : HoldsAt localState (orderKey order) Q next := by
    refine foldlM_reaches hOpen hRow ?_ ?_ ?_ h
    · rintro before other after hOther ⟨hBefore, current, hCurrent, hP⟩ hOne
      obtain ⟨hAfter, hKept | ⟨other', projection, hProjected, hNext⟩⟩ := hBefore.row hCurrent hOne
      · exact Or.inl ⟨hAfter, current, hKept, hP⟩
      · exact (hStep other hOther other' current projection hP hProjected).imp
          (fun hNextP => ⟨hAfter, projection, hNext, hNextP⟩)
          (fun hNextQ => ⟨hAfter, projection, hNext, hNextQ⟩)
    · rintro before after ⟨hBefore, current, hCurrent, hP⟩ hOne
      obtain ⟨projection, hProjected, hNext⟩ :=
        hBefore.tracked_row hOrder hExactId hBrokerId hCurrent (hTracks current hP) hOne
      exact ⟨(hBefore.row hCurrent hOne).1, projection, hNext,
        hHit current projection hP hProjected⟩
    · rintro before other after hOther ⟨hBefore, current, hCurrent, hQ⟩ hOne
      obtain ⟨hAfter, hKept | ⟨other', projection, hProjected, hNext⟩⟩ := hBefore.row hCurrent hOne
      · exact ⟨hAfter, current, hKept, hQ⟩
      · exact ⟨hAfter, projection, hNext,
        hStay other hOther other' current projection hQ hProjected⟩
  exact hReached.2

end ExactState

/-- A row of the snapshot carries the exact id of an order of the card. -/
structure Listed (snapshot : AccountBrokerSnapshot) (localState : AccountLocalState)
    (card : TradeCardState) (order : ExecutionOrderRecord) : Prop where
  order_mem : order ∈ localState.executionOrders
  sameKey : orderKey order = card.cardKey
  exactId : hasExactId order = true
  row : ∃ row ∈ snapshot.orders, order.brokerOrderId = row.brokerOrderId

/-! ## The holdings part -/

/-- What every holding of the key preserves of the card holds after the holdings loop. -/
theorem heldCard_some (hStart : P card)
    (hStep : ∀ card, ∀ holding ∈ snapshot.holdings, holdingKey snapshot holding = key →
      P card → P (applyHolding card holding)) :
    ∃ held, heldCard snapshot key (some card) = some held ∧ P held := by
  unfold heldCard
  refine foldl_invariant (fun (found : Option TradeCardState) => ∃ held, found = some held ∧ P held)
    ⟨card, rfl, hStart⟩ ?_
  rintro _ holding hHolding ⟨held, rfl, hHeld⟩
  obtain ⟨hMem, hKey⟩ := List.mem_filter.mp hHolding
  exact ⟨_, rfl, hStep held holding hMem (by simpa using hKey) hHeld⟩

theorem heldCard_key (hKey : card.cardKey = key)
    (h : heldCard snapshot key (some card) = some held) :
    held.cardKey = key := by
  have hSome : ∃ other, heldCard snapshot key (some card) = some other ∧ other.cardKey = key :=
    heldCard_some hKey (fun current holding _ _ hCurrent =>
      (applyHolding_cardKey current holding).trans hCurrent)
  obtain ⟨other, hOther, hOtherKey⟩ := hSome
  rw [h] at hOther
  cases hOther
  exact hOtherKey

theorem heldCard_ne_none : heldCard snapshot key (some card) ≠ none := by
  have hSome : ∃ other, heldCard snapshot key (some card) = some other ∧ True :=
    heldCard_some trivial (fun _ _ _ _ _ => trivial)
  obtain ⟨other, hOther, _⟩ := hSome
  rw [hOther]
  exact Option.some_ne_none other

/-- The one card of a key after the plan is the reducer's final card. -/
theorem reducedCard_unique {runtime : Runtime} {localState : AccountLocalState}
    {final : ReduceState} (h : reduceLocalState runtime snapshot localState = .ok final)
    (hHeld : cardIn final key = some held) :
    (after ∈ (planOf snapshot localState final).reducedCards localState ∧
      after.cardKey = key) ↔ after = held := by
  obtain ⟨run⟩ := nonempty_reducerRun h
  rw [reducedCards_planOf h]
  constructor
  · rintro ⟨hAfter, rfl⟩
    have hFound := run.final_grows.1.lookup_of_mem hAfter
    unfold cardIn at hHeld
    rw [hFound] at hHeld
    exact Option.some.inj hHeld
  · rintro rfl
    exact ⟨lookup_mem hHeld, lookup_key hHeld⟩

end QuantApp.Services
