import QuantApp.Services.ReducerRun

/-!
# Following one card through a run

Every pass of the reducer writes at most one card at a time, and only under
its own key.  This module reads the card of one key off the state after each
pass: the classification loop, the exact loop, the holdings part and the plan.
What holds of the card along a run is then a fold over the orders of its key
and the rows that are projected onto it.
-/

namespace QuantApp.Services

open Core Verified
open TradeCardState (cardKey)

variable {snapshot : AccountBrokerSnapshot} {state next final : ReduceState}
  {card met projection : TradeCardState} {orders : List ExecutionOrderRecord} {runtime : Runtime}
  {order before after : ExecutionOrderRecord} {key : CardKey} {row : BrokerOrderStatusSnapshot}
  {P : TradeCardState → Prop} {categories : List (String × ReconciliationCategory)}
  {clientOrderId : String} {category : ReconciliationCategory} {localState : AccountLocalState}
  {rows : List BrokerOrderStatusSnapshot} {holding : AccountHoldingSnapshot}

/-! ## The projection reads what an order keeps -/

theorem cardTracksOrder_of_same (h : SameOrder before after) (card : TradeCardState) :
    cardTracksOrder card after = cardTracksOrder card before :=
  (congrArg (cardTracksOrder card) h).symm

theorem projectExactOrderToCard_immutable (config : ExecutionConfig)
    (order : ExecutionOrderRecord) (row : BrokerOrderStatusSnapshot)
    (snapshot : AccountBrokerSnapshot) (category : ReconciliationCategory)
    (card : TradeCardState) :
    projectExactOrderToCard config (immutablePart order) row snapshot category card =
      projectExactOrderToCard config order row snapshot category card := rfl

theorem projectExactOrderToCard_of_same (h : SameOrder before after) (config : ExecutionConfig)
    (row : BrokerOrderStatusSnapshot) (snapshot : AccountBrokerSnapshot)
    (category : ReconciliationCategory) (card : TradeCardState) :
    projectExactOrderToCard config after row snapshot category card =
      projectExactOrderToCard config before row snapshot category card := by
  rw [← projectExactOrderToCard_immutable config after,
    ← projectExactOrderToCard_immutable config before, show immutablePart after = _ from h.symm]

/-! ## One order of the classification loop -/

theorem cardIn_classifyLocalOrder (snapshot : AccountBrokerSnapshot) (state : ReduceState)
    (order : ExecutionOrderRecord) (key : CardKey) :
    cardIn (classifyLocalOrder snapshot state order) key =
      if orderKey order = key then
        (cardIn state key).map (fun card =>
          projectLocalOrder snapshot.observedAt order (classifyExecutionOrder order (some card))
            card)
      else cardIn state key := by
  unfold classifyLocalOrder cardIn
  dsimp only
  cases hCard : lookup cardKey (orderKey order) state.cards with
  | none =>
    by_cases hKey : orderKey order = key
    · rw [if_pos hKey, ← hKey, hCard]
      rfl
    · rw [if_neg hKey]
  | some card =>
    have hCardKey : card.cardKey = orderKey order := lookup_key hCard
    have hProjectedKey := projectLocalOrder_cardKey snapshot.observedAt order
      (classifyExecutionOrder order (some card)) card
    by_cases hKey : orderKey order = key
    · rw [if_pos hKey, ← hKey, hCard]
      have hOld : lookup cardKey (projectLocalOrder snapshot.observedAt order
          (classifyExecutionOrder order (some card)) card).cardKey state.cards = some card := by
        rw [hProjectedKey, hCardKey]
        exact hCard
      have hSelf := lookup_store_self hOld
      rwa [hProjectedKey, hCardKey] at hSelf
    · rw [if_neg hKey]
      refine lookup_store_of_ne ?_
      rw [hProjectedKey, hCardKey]
      exact fun hEq => hKey hEq.symm

/-- A property of the card of one key that every order of that key preserves
holds after the classification of any orders. -/
theorem classified_card (hCard : cardIn state key = some card) (hStart : P card)
    (hStep : ∀ order ∈ orders, orderKey order = key → ∀ card, card.cardKey = key → P card →
      P (projectLocalOrder snapshot.observedAt order
        (classifyExecutionOrder order (some card)) card)) :
    ∃ after, cardIn (orders.foldl (classifyLocalOrder snapshot) state) key = some after ∧
      P after := by
  refine foldl_invariant
    (fun (state : ReduceState) => ∃ after, cardIn state key = some after ∧ P after)
    ⟨card, hCard, hStart⟩ ?_
  rintro before order hOrder ⟨current, hCurrent, hP⟩
  rw [cardIn_classifyLocalOrder]
  by_cases hKey : orderKey order = key
  · rw [if_pos hKey, hCurrent]
    exact ⟨_, rfl, hStep order hOrder hKey current (cardIn_key key current hCurrent) hP⟩
  · rw [if_neg hKey]
    exact ⟨current, hCurrent, hP⟩

/-! ## The recorded categories -/

theorem categoryOf_append_of_none (h : categories.lookup clientOrderId = none) :
    categoryOf (categories ++ [(clientOrderId, category)]) clientOrderId = category := by
  unfold categoryOf
  rw [List.lookup_append, h]
  simp

theorem lookup_categories_append {other : String} (hne : clientOrderId ≠ other) :
    (categories ++ [(other, category)]).lookup clientOrderId = categories.lookup clientOrderId := by
  rw [List.lookup_append]
  have hNone : [(other, category)].lookup clientOrderId = none := by
    simp [List.lookup_cons, beq_false_of_ne hne]
  rw [hNone, Option.or_none]

theorem categories_frame (hFresh : ∀ order ∈ orders, order.clientOrderId ≠ clientOrderId) :
    (orders.foldl (classifyLocalOrder snapshot) state).categories.lookup clientOrderId =
      state.categories.lookup clientOrderId := by
  refine foldl_frame (fun (state : ReduceState) => state.categories.lookup clientOrderId) ?_
  intro before order hOrder
  exact lookup_categories_append (hFresh order hOrder).symm

/-- The category of an order is its classification against the card it met. -/
theorem category_classified {before after : List ExecutionOrderRecord}
    (hState : state.categories = [])
    (hKeyed : Keyed ExecutionOrderRecord.clientOrderId (before ++ order :: after)) :
    categoryOf ((before ++ order :: after).foldl (classifyLocalOrder snapshot) state).categories
        order.clientOrderId =
      classifyExecutionOrder order
        (cardIn (before.foldl (classifyLocalOrder snapshot) state) (orderKey order)) := by
  have hKeys : (before.map ExecutionOrderRecord.clientOrderId ++ order.clientOrderId ::
      after.map ExecutionOrderRecord.clientOrderId).Nodup := by
    have hKeyed' := hKeyed
    unfold Keyed at hKeyed'
    rwa [List.map_append, List.map_cons] at hKeyed'
  have hBefore : ∀ other ∈ before, other.clientOrderId ≠ order.clientOrderId := by
    intro other hOther hEq
    exact (List.disjoint_of_nodup_append hKeys) (List.mem_map_of_mem hOther)
      (by rw [hEq]; exact List.mem_cons_self)
  have hAfter : ∀ other ∈ after, other.clientOrderId ≠ order.clientOrderId := by
    intro other hOther hEq
    refine (List.nodup_cons.mp hKeys.of_append_right).1 ?_
    rw [← hEq]
    exact List.mem_map_of_mem hOther
  rw [List.foldl_append, List.foldl_cons]
  have hUnseen : (before.foldl (classifyLocalOrder snapshot) state).categories.lookup
      order.clientOrderId = none := by
    rw [categories_frame hBefore, hState]
    rfl
  unfold categoryOf
  rw [categories_frame hAfter]
  exact categoryOf_append_of_none hUnseen

/-- What every classification preserves of a local card holds after the loop, and
of the card that each order of its key was classified against. -/
theorem classifyLocalOrders_card (hCard : card ∈ localState.cards) (hStart : P card)
    (hStep : ∀ order ∈ localState.executionOrders, orderKey order = card.cardKey →
      ∀ current, current.cardKey = card.cardKey → P current →
        P (projectLocalOrder snapshot.observedAt order
          (classifyExecutionOrder order (some current)) current)) :
    (∃ after, cardIn (classifyLocalOrders snapshot (ReduceState.start localState))
        card.cardKey = some after ∧ P after) ∧
      ∀ order ∈ localState.executionOrders, orderKey order = card.cardKey →
        ∃ met, P met ∧
          categoryOf (classifyLocalOrders snapshot (ReduceState.start localState)).categories
            order.clientOrderId = classifyExecutionOrder order (some met) := by
  have hFound : cardIn (ReduceState.start localState) card.cardKey = some card :=
    localState.cardsKeyed.lookup_of_mem hCard
  refine ⟨classified_card hFound hStart hStep, ?_⟩
  intro order hOrder hKey
  obtain ⟨before, after, hSplit⟩ := List.append_of_mem hOrder
  have hBefore : ∀ other ∈ before, orderKey other = card.cardKey →
      ∀ current, current.cardKey = card.cardKey → P current →
        P (projectLocalOrder snapshot.observedAt other
          (classifyExecutionOrder other (some current)) current) := by
    intro other hOther
    exact hStep other (by rw [hSplit]; exact List.mem_append_left _ hOther)
  obtain ⟨met, hMet, hP⟩ := classified_card hFound hStart hBefore
  refine ⟨met, hP, ?_⟩
  have hKeyed : Keyed ExecutionOrderRecord.clientOrderId (before ++ order :: after) := by
    rw [← hSplit]
    exact localState.ordersKeyed
  unfold classifyLocalOrders
  rw [show (ReduceState.start localState).orders = localState.executionOrders from rfl, hSplit,
    category_classified rfl hKeyed, hKey, hMet]

/-! ## The branch a row takes -/

/-- An exact order is unresolved when its local status still waits for the
submission; its rows are not projected. -/
def isUnresolved (order : ExecutionOrderRecord) : Bool :=
  order.status = .submitting || order.status = .unknownSubmissionState

/-- The orders whose rows take the entry branch. -/
def isEntryOrder (order : ExecutionOrderRecord) : Bool :=
  !isUnresolved order && order.executionPolicy ≠ reservedMooExecution &&
    order.side = .buy && order.intent = .entry

/-- The orders whose rows take the partial-exit branch. -/
def isPartialExit (order : ExecutionOrderRecord) : Bool :=
  !isUnresolved order && order.executionPolicy ≠ reservedMooExecution &&
    order.side = .sell && (order.intent = .partialExit || order.intent = .partialTakeProfit)

/-- The branch of `_project_exact_order_to_card` that an exact order takes; whether
the order is still open locally, and the card it was classified against, do not
decide it. -/
inductive RowBranch (order : ExecutionOrderRecord) : ReconciliationCategory → Prop
  | entry {category : ReconciliationCategory} : isEntryOrder order = true →
      category = .entryBuy ∨ category = .entryCompletionBuy → RowBranch order category
  | partialExit : isPartialExit order = true → RowBranch order .partialSell
  | liquidation {category : ReconciliationCategory} : isEntryOrder order = false →
      isPartialExit order = false →
      order.executionPolicy = reservedMooExecution ∨ order.side = .sell →
      category = .sellAll ∨ category = .stopLossSell ∨ category = .reservedMooSell →
      RowBranch order category
  | unnamed {category : ReconciliationCategory} : isEntryOrder order = false →
      isPartialExit order = false →
      category = .unknownSubmission ∨ category = .unrecognized ∨ category = .terminalOrder →
      RowBranch order category

theorem rowBranch_operational (hExact : hasExactId order = true) (met card : TradeCardState) :
    RowBranch order
      (operationalCategory order card (classifyExecutionOrder order (some met))) := by
  have hIdentity := hasExactId_identity hExact
  by_cases hUnresolved : isUnresolved order = true
  · have hStatus := hUnresolved
    simp only [isUnresolved, Bool.or_eq_true, decide_eq_true_eq] at hStatus
    refine .unnamed (by simp [isEntryOrder, hUnresolved]) (by simp [isPartialExit, hUnresolved])
      (Or.inl ?_)
    simp [classifyExecutionOrder, operationalCategory, hStatus]
  have hStatus : ¬ ((order.status = .submitting ∨ order.status = .unknownSubmissionState) ∨
      order.brokerIdentityStatus = .ambiguous) := by
    simp only [isUnresolved, Bool.or_eq_true, decide_eq_true_eq] at hUnresolved
    simp [hUnresolved, hIdentity]
  unfold classifyExecutionOrder operationalCategory
  rw [if_neg hStatus]
  by_cases hPolicy : order.executionPolicy = reservedMooExecution
  · rw [if_pos hPolicy, if_pos hPolicy]
    refine .liquidation (by simp [isEntryOrder, hPolicy]) (by simp [isPartialExit, hPolicy])
      (Or.inl hPolicy) (Or.inr (Or.inr ?_))
    split <;> simp
  rw [if_neg hPolicy, if_neg hPolicy]
  cases hSide : order.side with
  | buy =>
    have hNotPartial : isPartialExit order = false := by simp [isPartialExit, hSide]
    by_cases hEntry : order.intent = .entry
    · refine .entry (by simp [isEntryOrder, hUnresolved, hPolicy, hSide, hEntry]) ?_
      grind
    · refine .unnamed (by simp [isEntryOrder, hEntry]) hNotPartial (Or.inr ?_)
      grind
  | sell =>
    have hNotEntry : isEntryOrder order = false := by simp [isEntryOrder, hSide]
    by_cases hPartial : order.intent = .partialExit ∨ order.intent = .partialTakeProfit
    · have hStop : order.intent ≠ .stopLoss := by
        intro hStop
        rw [hStop] at hPartial
        simp at hPartial
      have hBranch : ∀ category, category = ReconciliationCategory.partialSell →
          RowBranch order category := by
        rintro _ rfl
        exact .partialExit (by simp [isPartialExit, hUnresolved, hPolicy, hSide, hPartial])
      refine hBranch _ ?_
      grind
    · have hNotPartial : isPartialExit order = false := by
        simp [isPartialExit, not_or.mp hPartial]
      by_cases hLiquidates : order.intent = .stopLoss ∨ order.status.isTerminal = true ∨
          met.boardStatus = .sellAll
      · refine .liquidation hNotEntry hNotPartial (Or.inr hSide) ?_
        grind
      · refine .unnamed hNotEntry hNotPartial ?_
        grind

/-- The card a SELL row is projected onto has consumed the order's attempt. -/
def consumedCard (order : ExecutionOrderRecord) (card : TradeCardState) : TradeCardState :=
  if order.side = .sell then consumeExitCardAttempt card order else card

/-- The holding a projection looks at. -/
def reportedHolding (snapshot : AccountBrokerSnapshot) (symbol : String) :
    Option AccountHoldingSnapshot :=
  if snapshot.completeness.holdingsComplete then snapshot.holdingFor symbol else none

/-- What one projected row makes of a card, by the branch of its order. -/
inductive ProjectedBy (config : ExecutionConfig) (snapshot : AccountBrokerSnapshot)
    (row : BrokerOrderStatusSnapshot) (order : ExecutionOrderRecord)
    (card projection : TradeCardState) : Prop
  | entry : isEntryOrder order = true →
      projection = projectEntry order row (reportedHolding snapshot order.symbol) card →
      ProjectedBy config snapshot row order card projection
  | partialExit {alerts : List ReconciliationAlert} : isPartialExit order = true →
      projectPartialSell config order row snapshot (reportedHolding snapshot order.symbol)
        (consumedCard order card) = .ok (projection, alerts) →
      ProjectedBy config snapshot row order card projection
  | liquidation {operational : ReconciliationCategory} {alerts : List ReconciliationAlert} :
      isEntryOrder order = false → isPartialExit order = false →
      order.executionPolicy = reservedMooExecution ∨ order.side = .sell →
      projectLiquidation operational order row snapshot (reportedHolding snapshot order.symbol)
        (consumedCard order card) = .ok (projection, alerts) →
      ProjectedBy config snapshot row order card projection
  | unnamed : isEntryOrder order = false → isPartialExit order = false →
      projection = consumedCard order card →
      ProjectedBy config snapshot row order card projection

theorem projectExactOrderToCard_by {config : ExecutionConfig} {alerts : List ReconciliationAlert}
    (hExact : hasExactId order = true)
    (h : projectExactOrderToCard config order row snapshot
      (classifyExecutionOrder order (some met)) card = .ok (projection, alerts)) :
    ProjectedBy config snapshot row order card projection := by
  have hBranch := rowBranch_operational hExact met card
  unfold projectExactOrderToCard at h
  dsimp only at h
  generalize operationalCategory order card (classifyExecutionOrder order (some met)) =
    operational at h hBranch
  cases hBranch with
  | entry hEntry hCategory =>
    have hBuy : order.side = .buy := by
      simp only [isEntryOrder, Bool.and_eq_true, decide_eq_true_eq] at hEntry
      exact hEntry.1.2
    refine .entry hEntry ?_
    rcases hCategory with rfl | rfl
    all_goals
      cases h
      rw [hBuy]
      rfl
  | partialExit hPartial => exact .partialExit hPartial h
  | liquidation hNotEntry hNotPartial hExit hCategory =>
    rcases hCategory with rfl | rfl | rfl
    all_goals exact .liquidation hNotEntry hNotPartial hExit h
  | unnamed hNotEntry hNotPartial hCategory =>
    refine .unnamed hNotEntry hNotPartial ?_
    rcases hCategory with rfl | rfl | rfl
    all_goals
      cases h
      rfl

/-! ## One row of the exact loop -/

/-- A row projected onto the card of `key`, for one of the local orders. -/
structure RowProjection (runtime : Runtime) (snapshot : AccountBrokerSnapshot)
    (orders : List ExecutionOrderRecord)
    (categories : List (String × ReconciliationCategory)) (key : CardKey)
    (row : BrokerOrderStatusSnapshot) (order : ExecutionOrderRecord)
    (card projection : TradeCardState) : Prop where
  order_mem : order ∈ orders
  exactId : hasExactId order = true
  brokerOrderId : order.brokerOrderId = row.brokerOrderId
  sameKey : orderKey order = key
  tracked : cardTracksOrder card order = true
  projected : ∃ alerts, projectExactOrderToCard runtime.config order row snapshot
    (categoryOf categories order.clientOrderId) card = .ok (projection, alerts)

theorem RowProjection.by_branch
    (h : RowProjection runtime snapshot orders categories key row order card projection)
    (hCategory : categoryOf categories order.clientOrderId =
      classifyExecutionOrder order (some met)) :
    ProjectedBy runtime.config snapshot row order card projection := by
  obtain ⟨alerts, hProjected⟩ := h.projected
  rw [hCategory] at hProjected
  exact projectExactOrderToCard_by h.exactId hProjected

/-- A row leaves the card of `key` alone, or is projected onto it. -/
theorem cardIn_reconcileExactRow (hOrders : List.Forall₂ SameOrder orders state.orders)
    (hCard : cardIn state key = some card)
    (h : reconcileExactRow runtime snapshot state row = .ok next) :
    cardIn next key = some card ∨
      ∃ order projection, RowProjection runtime snapshot orders state.categories key row order
        card projection ∧ cardIn next key = some projection := by
  rcases reconcileExactRow_cases h with ⟨_, rfl⟩ | ⟨exact, applied, hRow⟩
  · exact Or.inl hCard
  obtain ⟨hMem, hExactId, hBrokerId⟩ := exactOrderFor_some hRow.found
  obtain ⟨order, hOrder, hSame⟩ := forall₂_mem_right hOrders hMem
  have hApplied : SameOrder order applied := hSame.trans hRow.effect.same
  have hCards := hRow.cards
  unfold cardIn
  generalize next.cards = cards at hCards
  cases hCards with
  | missing | unlinked => exact Or.inl hCard
  | projected hFound hTracks hProjected =>
    rename_i found projection alerts
    have hFoundKey : found.cardKey = orderKey applied := lookup_key hFound
    have hProjectionKey := projectExactOrderToCard_cardKey hProjected
    have hStored : projection.cardKey = orderKey applied := hProjectionKey.trans hFoundKey
    by_cases hKey : orderKey applied = key
    · right
      have hSameCard : found = card := by
        have hLookup : cardIn state key = some found := by
          rw [← hKey]
          exact hFound
        rw [hCard] at hLookup
        exact (Option.some.inj hLookup).symm
      rw [hSameCard] at hTracks hProjected
      refine ⟨order, projection, ?_, ?_⟩
      · rw [projectExactOrderToCard_of_same hApplied, hApplied.clientOrderId] at hProjected
        exact
          { order_mem := hOrder
            exactId := by rw [← hSame.hasExactId]; exact hExactId
            brokerOrderId := by rw [← hSame.brokerOrderId]; exact hBrokerId
            sameKey := by rw [← hApplied.orderKey]; exact hKey
            tracked := by rw [← cardTracksOrder_of_same hApplied]; exact hTracks
            projected := ⟨alerts, hProjected⟩ }
      · have hOld : lookup cardKey projection.cardKey state.cards =
            some found := by
          rw [hStored]
          exact hFound
        have hSelf := lookup_store_self hOld
        rwa [hStored, hKey] at hSelf
    · left
      refine (lookup_store_of_ne ?_).trans hCard
      rw [hStored]
      exact fun hEq => hKey hEq.symm

section

variable (hKeyed : OrdersKeyed orders) (hSame : List.Forall₂ SameOrder orders state.orders)
include hKeyed hSame

theorem same_reconcileExactRows
    (h : rows.foldlM (reconcileExactRow runtime snapshot) state = .ok final) :
    List.Forall₂ SameOrder orders final.orders ∧ final.categories = state.categories := by
  refine foldlM_invariant (fun (current : ReduceState) =>
    List.Forall₂ SameOrder orders current.orders ∧ current.categories = state.categories)
    ⟨hSame, rfl⟩ ?_ h
  rintro before row after _ ⟨hOrders, hCategories⟩ hStep
  have hEffects := reconcileExactRow_orders (hKeyed.of_same hOrders) hStep
  refine ⟨sameOrders_trans hOrders (hEffects.imp (fun _ _ hEffect => hEffect.same)), ?_⟩
  rcases reconcileExactRow_cases hStep with ⟨_, rfl⟩ | ⟨exact, applied, hRow⟩
  · exact hCategories
  · rw [hRow.categories, hCategories]

/-- A property of the card of one key that every projection onto it preserves
holds after any rows. -/
theorem rows_card (hCard : cardIn state key = some card) (hStart : P card)
    (hStep : ∀ row ∈ rows, ∀ order card projection, P card →
      RowProjection runtime snapshot orders state.categories key row order card projection →
      P projection)
    (h : rows.foldlM (reconcileExactRow runtime snapshot) state = .ok final) :
    ∃ after, cardIn final key = some after ∧ P after := by
  induction rows generalizing state card with
  | nil =>
    cases h
    exact ⟨card, hCard, hStart⟩
  | cons row rows ih =>
    obtain ⟨next, hRow, hRows⟩ := foldlM_cons_ok.mp h
    have hOne : ([row] : List BrokerOrderStatusSnapshot).foldlM
        (reconcileExactRow runtime snapshot) state = .ok next :=
      foldlM_cons_ok.mpr ⟨next, hRow, rfl⟩
    obtain ⟨hNextSame, hCategories⟩ := same_reconcileExactRows hKeyed hSame hOne
    have hRest : ∀ later ∈ rows, ∀ order card projection, P card →
        RowProjection runtime snapshot orders next.categories key later order card
          projection → P projection := by
      rw [hCategories]
      intro later hLater
      exact hStep later (List.mem_cons_of_mem row hLater)
    rcases cardIn_reconcileExactRow hSame hCard hRow with
      hKept | ⟨order, projection, hProjection, hNext⟩
    · exact ih hNextSame hKept hStart hRest hRows
    · have hP := hStep row List.mem_cons_self order card projection hStart hProjection
      exact ih hNextSame hNext hP hRest hRows

/-- A row of an exact order that the card tracks is projected onto it. -/
theorem projected_of_tracked (hOrder : order ∈ orders) (hExactId : hasExactId order = true)
    (hBrokerId : order.brokerOrderId = row.brokerOrderId)
    (hCard : cardIn state (orderKey order) = some card)
    (hTracks : cardTracksOrder card order = true)
    (h : reconcileExactRow runtime snapshot state row = .ok next) :
    ∃ projection, RowProjection runtime snapshot orders state.categories (orderKey order) row
      order card projection ∧ cardIn next (orderKey order) = some projection := by
  obtain ⟨current, hCurrent, hCurrentSame⟩ := forall₂_mem_left hSame hOrder
  have hFound : exactOrderFor state.orders row.brokerOrderId = some current := by
    rw [← hBrokerId, ← hCurrentSame.brokerOrderId]
    refine exactOrderFor_of_mem (hKeyed.of_same hSame) hCurrent ?_
    rw [hCurrentSame.hasExactId]
    exact hExactId
  rcases reconcileExactRow_cases h with ⟨hNone, _⟩ | ⟨exact, applied, hRow⟩
  · rw [hNone] at hFound
    cases hFound
  have hExact : exact = current := by
    have hRowFound := hRow.found
    rw [hFound] at hRowFound
    exact (Option.some.inj hRowFound).symm
  have hApplied : SameOrder order applied := by
    have hEffect := hRow.effect.same
    rw [hExact] at hEffect
    exact hCurrentSame.trans hEffect
  have hLookup : lookup cardKey (orderKey applied) state.cards = some card := by
    rw [hApplied.orderKey]
    exact hCard
  have hCards := hRow.cards
  unfold cardIn
  generalize next.cards = cards at hCards
  cases hCards with
  | missing hMissing =>
    rw [hLookup] at hMissing
    cases hMissing
  | unlinked hUnlinked hUntracked =>
    rw [hLookup] at hUnlinked
    cases hUnlinked
    rw [cardTracksOrder_of_same hApplied, hTracks] at hUntracked
    cases hUntracked
  | projected hProjectedCard hTracked hProjected =>
    rename_i found projection alerts
    rw [hLookup] at hProjectedCard
    cases hProjectedCard
    have hKey : projection.cardKey = orderKey order :=
      (projectExactOrderToCard_cardKey hProjected).trans (lookup_key hCard)
    rw [projectExactOrderToCard_of_same hApplied, hApplied.clientOrderId] at hProjected
    refine ⟨projection,
      { order_mem := hOrder, exactId := hExactId, brokerOrderId := hBrokerId, sameKey := rfl
        tracked := hTracks, projected := ⟨alerts, hProjected⟩ }, ?_⟩
    have hOld : lookup cardKey projection.cardKey state.cards = some card := by
      rw [hKey]
      exact hCard
    have hSelf := lookup_store_self hOld
    rwa [hKey] at hSelf

end

/-! ## The holdings part -/

/-- The key of a holding's card. -/
def holdingKey (snapshot : AccountBrokerSnapshot) (holding : AccountHoldingSnapshot) : CardKey :=
  (snapshot.environment, snapshot.accountNo, holding.symbol)

@[simp] theorem applyHolding_cardKey (card : TradeCardState) (holding : AccountHoldingSnapshot) :
    (applyHolding card holding).cardKey = card.cardKey := by
  unfold applyHolding
  dsimp only
  split
  · split <;> rfl
  · rfl

theorem sweepUnheldCard_cardKey {swept : TradeCardState}
    (h : sweepUnheldCard snapshot card = .ok swept) : swept.cardKey = card.cardKey := by
  unfold sweepUnheldCard at h
  split at h
  · dsimp only at h
    split at h
    · rw [confirmFlat_of_empty (le_refl 0)] at h
      cases h
      rfl
    · cases h
      rfl
  · cases h
    rfl

@[simp] theorem retireStaleEntry_cardKey (snapshot : AccountBrokerSnapshot)
    (orders : List ExecutionOrderRecord) (card : TradeCardState) :
    (retireStaleEntry snapshot orders card).cardKey = card.cardKey := by
  unfold retireStaleEntry
  split <;> rfl

/-- The sweep and the retirement leave a held card alone. -/
theorem retired_of_held {swept : TradeCardState} (hHeld : isHeld snapshot card.symbol = true)
    (h : sweepUnheldCard snapshot card = .ok swept) :
    retireStaleEntry snapshot orders swept = card := by
  unfold sweepUnheldCard at h
  rw [if_neg (by simp [hHeld])] at h
  cases h
  unfold retireStaleEntry
  rw [if_neg (by simp [hHeld])]

theorem cardIn_reconcileHolding (h : reconcileHolding snapshot state holding = .ok next)
    (key : CardKey) :
    cardIn next key =
      if holdingKey snapshot holding = key then
        some (match cardIn state key with
          | none => manualPositionCard snapshot holding
          | some card => applyHolding card holding)
      else cardIn state key := by
  unfold reconcileHolding at h
  dsimp only at h
  cases hCard : lookup cardKey (holdingKey snapshot holding) state.cards with
  | none =>
    rw [show (snapshot.environment, snapshot.accountNo, holding.symbol) =
      holdingKey snapshot holding from rfl, hCard] at h
    obtain ⟨_, _, hNext⟩ := bind_eq_ok.mp h
    cases hNext
    unfold cardIn
    dsimp only
    rw [lookup_append]
    by_cases hKey : holdingKey snapshot holding = key
    · rw [if_pos hKey, ← hKey, hCard, Option.none_or]
      simp [lookup, holdingKey, manualPositionCard, cardKey]
    · rw [if_neg hKey]
      have hNone : lookup cardKey key [manualPositionCard snapshot holding] =
          none := by
        have hNe : ¬ (manualPositionCard snapshot holding).cardKey = key := hKey
        simp [lookup, hNe]
      rw [hNone, Option.or_none]
  | some card =>
    rw [show (snapshot.environment, snapshot.accountNo, holding.symbol) =
      holdingKey snapshot holding from rfl, hCard] at h
    cases h
    have hCardKey : card.cardKey = holdingKey snapshot holding := lookup_key hCard
    unfold cardIn
    dsimp only
    by_cases hKey : holdingKey snapshot holding = key
    · rw [if_pos hKey, ← hKey, hCard]
      have hOld : lookup cardKey (applyHolding card holding).cardKey
          state.cards = some card := by
        rw [applyHolding_cardKey, hCardKey]
        exact hCard
      have hSelf := lookup_store_self hOld
      rwa [applyHolding_cardKey, hCardKey] at hSelf
    · rw [if_neg hKey]
      refine lookup_store_of_ne ?_
      rw [applyHolding_cardKey, hCardKey]
      exact fun hEq => hKey hEq.symm

/-- Cards are only added, at the end and under new keys. -/
structure CardsGrow (before after : ReduceState) : Prop where
  keyed : Keyed cardKey after.cards
  keys : ∃ fresh, after.cards.map cardKey = before.cards.map cardKey ++ fresh

theorem CardsGrow.trans {a b c : ReduceState} (hab : CardsGrow a b) (hbc : CardsGrow b c) :
    CardsGrow a c := by
  obtain ⟨first, hFirst⟩ := hab.keys
  obtain ⟨second, hSecond⟩ := hbc.keys
  exact ⟨hbc.keyed, first ++ second, by rw [hSecond, hFirst, List.append_assoc]⟩

theorem CardsGrow.of_sameKeys {before after : ReduceState} (hKeyed : Keyed cardKey before.cards)
    (hKeys : after.cards.map cardKey = before.cards.map cardKey) : CardsGrow before after := by
  refine ⟨?_, [], by rw [hKeys, List.append_nil]⟩
  unfold Keyed
  rw [hKeys]
  exact hKeyed

theorem reconcileHolding_grows (hKeyed : Keyed cardKey state.cards)
    (h : reconcileHolding snapshot state holding = .ok next) : CardsGrow state next := by
  unfold reconcileHolding at h
  dsimp only at h
  split at h
  · rename_i hNone
    obtain ⟨_, _, hNext⟩ := bind_eq_ok.mp h
    cases hNext
    refine ⟨hKeyed.append_fresh (lookup_eq_none_iff.mp hNone), ?_⟩
    exact ⟨_, List.map_append⟩
  · rename_i card hCard
    cases h
    refine CardsGrow.of_sameKeys hKeyed ?_
    exact map_key_store

/-- The card of `key` once every holding of the key has been written to it. -/
def heldCard (snapshot : AccountBrokerSnapshot) (key : CardKey) (found : Option TradeCardState) :
    Option TradeCardState :=
  (snapshot.holdings.filter (fun holding => holdingKey snapshot holding = key)).foldl
    (fun found holding =>
      some (match found with
        | none => manualPositionCard snapshot holding
        | some card => applyHolding card holding)) found

theorem cardIn_reconcileHeld {holdings : List AccountHoldingSnapshot} {held : ReduceState}
    (h : holdings.foldlM (reconcileHolding snapshot) state = .ok held) (key : CardKey) :
    cardIn held key =
      (holdings.filter (fun holding => holdingKey snapshot holding = key)).foldl
        (fun found holding =>
          some (match found with
            | none => manualPositionCard snapshot holding
            | some card => applyHolding card holding)) (cardIn state key) := by
  induction holdings generalizing state with
  | nil =>
    cases h
    rfl
  | cons holding holdings ih =>
    obtain ⟨next, hStep, hRest⟩ := foldlM_cons_ok.mp h
    rw [ih hRest, cardIn_reconcileHolding hStep key]
    by_cases hKey : holdingKey snapshot holding = key
    · rw [List.filter_cons_of_pos (by simpa using hKey), List.foldl_cons, if_pos hKey]
    · rw [List.filter_cons_of_neg (by simpa using hKey), if_neg hKey]

theorem cardIn_reconcileHoldings (h : reconcileHoldings snapshot state = .ok next) (key : CardKey) :
    (snapshot.completeness.holdingsComplete = false ∧ cardIn next key = cardIn state key) ∨
      (snapshot.completeness.holdingsComplete = true ∧
        ((heldCard snapshot key (cardIn state key) = none ∧ cardIn next key = none) ∨
          ∃ held swept, heldCard snapshot key (cardIn state key) = some held ∧
            sweepUnheldCard snapshot held = .ok swept ∧
            cardIn next key = some (retireStaleEntry snapshot state.orders swept))) := by
  unfold reconcileHoldings at h
  by_cases hComplete : snapshot.completeness.holdingsComplete = true
  · rw [if_pos (show snapshot.completeness.allows .positionQuantityUpdate = true
      from hComplete)] at h
    obtain ⟨held, hHeld, h⟩ := bind_eq_ok.mp h
    obtain ⟨swept, hSwept, h⟩ := bind_eq_ok.mp h
    cases h
    refine Or.inr ⟨hComplete, ?_⟩
    have hOrders : held.orders = state.orders := by
      refine foldlM_invariant (fun (current : ReduceState) => current.orders = state.orders)
        rfl ?_ hHeld
      intro before holding after _ hBefore hStep
      rw [(reconcileHolding_frame hStep).orders, hBefore]
    have hFound : heldCard snapshot key (cardIn state key) = cardIn held key :=
      (cardIn_reconcileHeld hHeld key).symm
    rw [hFound]
    have hRows : List.Forall₂ (fun before after => ∃ middle,
        sweepUnheldCard snapshot before = .ok middle ∧
          after = retireStaleEntry snapshot held.orders middle)
        held.cards (swept.map (retireStaleEntry snapshot held.orders)) := by
      refine List.forall₂_map_right_iff.mpr ((mapM_forall₂ hSwept).imp ?_)
      intro before middle hMiddle
      exact ⟨middle, hMiddle, rfl⟩
    have hKey : ∀ before after, (∃ middle, sweepUnheldCard snapshot before = .ok middle ∧
        after = retireStaleEntry snapshot held.orders middle) → after.cardKey = before.cardKey := by
      rintro before _ ⟨middle, hMiddle, rfl⟩
      rw [retireStaleEntry_cardKey, sweepUnheldCard_cardKey hMiddle]
    cases hCard : cardIn held key with
    | none =>
      refine Or.inl ⟨rfl, ?_⟩
      have hKeys := map_cardKey_of_forall₂ hKey hRows
      unfold cardIn
      rw [lookup_eq_none_iff, hKeys, ← lookup_eq_none_iff]
      exact hCard
    | some card =>
      obtain ⟨after, hAfter, middle, hMiddle, rfl⟩ := lookup_forall₂ hKey hRows hCard
      refine Or.inr ⟨card, middle, rfl, hMiddle, ?_⟩
      rw [← hOrders]
      exact hAfter
  · rw [if_neg (show ¬ snapshot.completeness.allows .positionQuantityUpdate = true
      from hComplete)] at h
    cases h
    exact Or.inl ⟨by simpa using hComplete, rfl⟩

theorem reconcileHoldings_grows (hKeyed : Keyed cardKey state.cards)
    (h : reconcileHoldings snapshot state = .ok next) : CardsGrow state next := by
  unfold reconcileHoldings at h
  split at h
  · obtain ⟨held, hHeld, h⟩ := bind_eq_ok.mp h
    obtain ⟨swept, hSwept, h⟩ := bind_eq_ok.mp h
    cases h
    have hGrows : CardsGrow state held := by
      refine foldlM_invariant (CardsGrow state) (CardsGrow.of_sameKeys hKeyed rfl) ?_ hHeld
      intro before holding after _ hBefore hStep
      exact hBefore.trans (reconcileHolding_grows hBefore.keyed hStep)
    refine hGrows.trans (CardsGrow.of_sameKeys hGrows.keyed ?_)
    dsimp only
    rw [List.map_map]
    have hSame : cardKey ∘ retireStaleEntry snapshot held.orders =
        cardKey :=
      funext (retireStaleEntry_cardKey snapshot held.orders)
    rw [hSame]
    exact map_cardKey_of_forall₂ (fun _ _ hStep => sweepUnheldCard_cardKey hStep)
      (mapM_forall₂ hSwept)
  · cases h
    exact CardsGrow.of_sameKeys hKeyed rfl

/-! ## The whole run -/

namespace ReducerRun

variable {runtime : Runtime} {snapshot : AccountBrokerSnapshot}
  {localState : AccountLocalState} {final : ReduceState}

variable (run : ReducerRun runtime snapshot localState final)
include run

theorem external_cards : (alertDurableExternals run.external).cards = run.exact.cards := by
  rw [run.external_tables.cards]
  have hEscalated := (escalateUncorrelated_frame snapshot run.retained).1
  exact hEscalated.trans (retainCandidates_frame runtime.config snapshot.orders run.exact).1

theorem exact_cardKeys : run.exact.cards.map cardKey = localState.cards.map cardKey := by
  refine map_cardKey_of_forall₂ (fun _ _ hKey => hKey)
    (show List.Forall₂ (fun before after : TradeCardState => after.cardKey = before.cardKey)
      localState.cards run.exact.cards from
        run.exact_cards (fun _ => rfl) (fun _ _ _ hab hbc => hbc.trans hab)
          (fun _ _ hKey => hKey) (projectLocalOrder_cardKey snapshot.observedAt)
          (fun _ _ _ _ _ _ hProjected => projectExactOrderToCard_cardKey hProjected))

theorem final_grows :
    Keyed cardKey final.cards ∧
      ∃ fresh, final.cards.map cardKey = localState.cards.map cardKey ++ fresh := by
  have hKeyed : Keyed cardKey (alertDurableExternals run.external).cards := by
    unfold Keyed
    rw [run.external_cards, run.exact_cardKeys]
    exact localState.cardsKeyed
  have hGrows := reconcileHoldings_grows hKeyed run.holdings
  rw [run.final_cards]
  refine ⟨hGrows.keyed, ?_⟩
  rw [← run.exact_cardKeys, ← run.external_cards]
  exact hGrows.keys

theorem cardIn_final (key : CardKey) :
    (snapshot.completeness.holdingsComplete = false ∧
        cardIn final key = cardIn run.exact key) ∨
      (snapshot.completeness.holdingsComplete = true ∧
        ((heldCard snapshot key (cardIn run.exact key) = none ∧ cardIn final key = none) ∨
          ∃ held swept orders, heldCard snapshot key (cardIn run.exact key) = some held ∧
            sweepUnheldCard snapshot held = .ok swept ∧
            List.Forall₂ SameOrder localState.executionOrders orders ∧
            cardIn final key = some (retireStaleEntry snapshot orders swept))) := by
  have hFinal : cardIn final key = cardIn run.positioned key := by
    unfold cardIn
    rw [run.final_cards]
  have hBefore : cardIn (alertDurableExternals run.external) key = cardIn run.exact key := by
    unfold cardIn
    rw [run.external_cards]
  rw [hFinal]
  rcases cardIn_reconcileHoldings run.holdings key with
    ⟨hIncomplete, hSame⟩ | ⟨hComplete, ⟨hNone, hAfter⟩ | ⟨held, swept, hHeld, hSwept, hAfter⟩⟩
  · exact Or.inl ⟨hIncomplete, hSame.trans hBefore⟩
  · have hUnheld : heldCard snapshot key (cardIn run.exact key) = none := by
      rw [← hBefore]
      exact hNone
    exact Or.inr ⟨hComplete, Or.inl ⟨hUnheld, hAfter⟩⟩
  · have hHeldCard : heldCard snapshot key (cardIn run.exact key) = some held := by
      rw [← hBefore]
      exact hHeld
    refine Or.inr ⟨hComplete, Or.inr ⟨held, swept, _, hHeldCard, hSwept, ?_, hAfter⟩⟩
    have hOrders : (alertDurableExternals run.external).orders = run.positioned.orders :=
      run.external_tables.orders.trans run.positioned_orders.symm
    rw [show (alertDurableExternals (snapshot.orders.foldl (recordExternalRow runtime snapshot)
      (escalateUncorrelated snapshot (snapshot.orders.foldl
        (retainCandidateRow runtime.config) run.exact)))).orders = run.positioned.orders
      from hOrders]
    refine sameOrders_trans (run.exact_orders.imp (fun _ _ hRows => hRows.same)) ?_
    exact run.positioned_recovery.imp (fun _ _ hUpdate => hUpdate.quiet.same)

end ReducerRun

theorem reducedCards_planOf (h : reduceLocalState runtime snapshot localState = .ok final) :
    (planOf snapshot localState final).reducedCards localState = final.cards := by
  obtain ⟨run⟩ := nonempty_reducerRun h
  obtain ⟨hKeyed, fresh, hKeys⟩ := run.final_grows
  exact map_updatedRow_append hKeyed hKeys

end QuantApp.Services
