import QuantApp.Services.HoldingsRun

/-!
# The mirrored holdings

After a pass over a snapshot with complete holdings every held symbol is to have
one card, with the reported quantity and in a position column, and every other
card of the account is to be empty and outside those columns; the position
manager's own pass is to agree.  Two kinds of local cards break this.  The
reducer moves a held card to OPEN_POSITION from the columns before a position
only, so a CLOSED card whose symbol is held again stays CLOSED; and its sweep
skips a card without shares, whatever its column, so a position card that lost
its shares already, or that an open exit row puts into a sell column, stays
there.
-/

namespace QuantApp.Services

open Core Verified
open TradeCardState (cardKey)

variable {card : TradeCardState} {now : Instant} {symbolName : String → String}
  {pass : PositionPass} {key : CardKey} {cards : List TradeCardState} {symbol : String}

/-! ## The mirror -/

/-- Every held symbol has one card, with the reported quantity and in a position column;
every other card of the account is empty and outside those columns. -/
structure Mirrored (snapshot : AccountBrokerSnapshot) (cards : List TradeCardState) : Prop where
  held : ∀ holding ∈ snapshot.holdings, ∃ card,
    cards.filter (fun other => other.cardKey = holdingKey snapshot holding) = [card] ∧
      card.brokerQuantity = holding.quantity ∧ isPosition card.boardStatus = true
  unheld : ∀ card ∈ cards, OfAccount snapshot card → isHeld snapshot card.symbol = false →
    card.brokerQuantity = 0 ∧ isPosition card.boardStatus = false

/-- The holdings as the position manager reads them. -/
def brokerHoldings (snapshot : AccountBrokerSnapshot) : List BrokerHolding :=
  snapshot.holdings.map (fun holding =>
    { symbol := holding.symbol, quantity := holding.quantity,
      averagePrice := holding.averagePrice })

/-- Two versions of the account's cards have the same quantities and, but for cards that
were ENTRY_PENDING or SELL_ALL, agree on which are positions. -/
structure SamePositions (snapshot : AccountBrokerSnapshot)
    (cards reduced reconciled : List TradeCardState) : Prop where
  quantities : ∀ symbol,
    (lookup cardKey (snapshot.environment, snapshot.accountNo, symbol)
        reduced).map (·.brokerQuantity) =
      (lookup cardKey (snapshot.environment, snapshot.accountNo, symbol)
        reconciled).map (·.brokerQuantity)
  columns : ∀ symbol,
    (∀ card ∈ cards, card.cardKey = (snapshot.environment, snapshot.accountNo, symbol) →
      card.boardStatus ≠ .entryPending ∧ card.boardStatus ≠ .sellAll) →
    (lookup cardKey (snapshot.environment, snapshot.accountNo, symbol)
        reduced).map (fun card => isPosition card.boardStatus) =
      (lookup cardKey (snapshot.environment, snapshot.accountNo, symbol)
        reconciled).map (fun card => isPosition card.boardStatus)

/-- The pass mirrors the holdings, and the position manager's pass agrees. -/
def HoldingsMirrored (now : Instant) (symbolName : String → String)
    (snapshot : AccountBrokerSnapshot) (localState : AccountLocalState)
    (plan : ReconciliationPlan) : Prop :=
  Mirrored snapshot (plan.reducedCards localState) ∧
    ∃ pass, reconcileBrokerPositions now symbolName snapshot.environment snapshot.accountNo
        localState.cards (brokerHoldings snapshot) = .ok pass ∧
      SamePositions snapshot localState.cards (plan.reducedCards localState) pass.cards

section Mirror

variable {runtime : Runtime} {snapshot : AccountBrokerSnapshot}
  {localState : AccountLocalState} {final : ReduceState}

section

variable (run : ReducerRun runtime snapshot localState final)
  (hComplete : snapshot.completeness.holdingsComplete = true)
include run hComplete

/-- A key of the account that has a card in the end and is not held had one before. -/
theorem local_of_unheld (hUnheld : isHeld snapshot key.2.2 = false) {after : TradeCardState}
    (hAfter : cardIn final key = some after) : ∃ card ∈ localState.cards, card.cardKey = key := by
  have hExact : cardIn run.exact key ≠ none := by
    intro hNone
    have hHeld := heldCard_of_unheld hUnheld (cardIn run.exact key)
    rcases run.cardIn_final key with ⟨hIncomplete, _⟩ | ⟨_, ⟨_, hNoFinal⟩ | ⟨held, swept, orders,
      hHeldCard, _⟩⟩
    · rw [hComplete] at hIncomplete
      cases hIncomplete
    · rw [hAfter] at hNoFinal
      cases hNoFinal
    · rw [hHeld, hNone] at hHeldCard
      cases hHeldCard
  have hKey : key ∈ run.exact.cards.map cardKey := by
    by_contra hFresh
    exact hExact (lookup_eq_none_iff.mpr hFresh)
  rw [run.exact_cardKeys] at hKey
  exact List.mem_map.mp hKey

/-- The pass mirrors the holdings when every card of the account fits. -/
theorem mirrored_of_fits (hSymbols : Keyed AccountHoldingSnapshot.symbol snapshot.holdings)
    (hPositive : ∀ holding ∈ snapshot.holdings, 0 < holding.quantity)
    (hFits : ∀ card ∈ localState.cards, OfAccount snapshot card →
      CardFits snapshot localState card) :
    Mirrored snapshot final.cards := by
  constructor
  · intro holding hHolding
    have hFinal := final_of_holding run hComplete hSymbols hHolding
    have hReported : isHeld snapshot holding.symbol = true :=
      List.any_eq_true.mpr ⟨holding, hHolding, by simp⟩
    cases hCurrent : cardIn run.exact (holdingKey snapshot holding) with
    | none =>
      rw [hCurrent] at hFinal
      exact ⟨_, run.final_grows.1.filter_key hFinal, rfl, rfl⟩
    | some current =>
      rw [hCurrent] at hFinal
      have hKeyLocal : holdingKey snapshot holding ∈
          localState.cards.map cardKey := by
        rw [← run.exact_cardKeys]
        exact List.mem_map.mpr ⟨current, lookup_mem hCurrent, lookup_key hCurrent⟩
      obtain ⟨card, hCard, hKey⟩ := List.mem_map.mp hKeyLocal
      have hEnvironment : card.environment = snapshot.environment := congrArg Prod.fst hKey
      have hAccount : card.accountNo = snapshot.accountNo :=
        congrArg (fun key : CardKey => key.2.1) hKey
      have hSymbol : card.symbol = holding.symbol := congrArg (fun key : CardKey => key.2.2) hKey
      have hOpen : card.boardStatus ≠ .closed :=
        (hFits card hCard ⟨hEnvironment, hAccount⟩).held (by rwa [hSymbol])
      have hHeld : SymbolHeld snapshot card.symbol :=
        symbolHeld_of_holding hComplete hPositive (by rwa [hSymbol])
      obtain ⟨other, hOther, hColumn⟩ := held_exact run hHeld hCard hOpen
      rw [hKey, hCurrent] at hOther
      cases hOther
      obtain ⟨hQuantity, hPosition⟩ := applyHolding_position current holding
      exact ⟨_, run.final_grows.1.filter_key hFinal, hQuantity, hPosition.mpr hColumn⟩
  · intro after hAfter hAccount hUnheld
    have hFound : cardIn final after.cardKey = some after := run.final_grows.1.lookup_of_mem hAfter
    obtain ⟨card, hCard, hKey⟩ := local_of_unheld run hComplete hUnheld hFound
    have hEnvironment : card.environment = after.environment := congrArg Prod.fst hKey
    have hAccountNo : card.accountNo = after.accountNo :=
      congrArg (fun key : CardKey => key.2.1) hKey
    have hSymbol : card.symbol = after.symbol := congrArg (fun key : CardKey => key.2.2) hKey
    have hCardUnheld : isHeld snapshot card.symbol = false := by rwa [hSymbol]
    have hCardAccount : OfAccount snapshot card :=
      ⟨hEnvironment.trans hAccount.1, hAccountNo.trans hAccount.2⟩
    obtain ⟨current, hCurrent, hLeaving⟩ :=
      leaving_exact run hComplete hCard hCardUnheld (hFits card hCard hCardAccount)
    obtain ⟨swept, orders, hSwept, hFinal⟩ :=
      final_of_unheld run hComplete (by exact hCardUnheld) hCurrent
    have hCurrentKey : current.cardKey = card.cardKey := cardIn_key _ current hCurrent
    have hCurrentSymbol : current.symbol = card.symbol :=
      congrArg (fun key : CardKey => key.2.2) hCurrentKey
    have hCurrentAccount : OfAccount snapshot current :=
      ⟨(congrArg Prod.fst hCurrentKey).trans hCardAccount.1,
        (congrArg (fun key : CardKey => key.2.1) hCurrentKey).trans hCardAccount.2⟩
    obtain ⟨hQuantity, hColumn⟩ := hLeaving.swept hCurrentAccount
      (by rwa [hCurrentSymbol]) hSwept
    rw [hKey, hFound] at hFinal
    cases hFinal
    obtain ⟨hSameQuantity, hSameColumn⟩ := retireStaleEntry_position snapshot orders swept
    exact ⟨hSameQuantity.trans hQuantity, hSameColumn.trans hColumn⟩

end

/-! ## The position manager on the same cards -/

theorem brokerHoldings_symbols (snapshot : AccountBrokerSnapshot) :
    (brokerHoldings snapshot).map BrokerHolding.symbol =
      snapshot.holdings.map AccountHoldingSnapshot.symbol := by
  unfold brokerHoldings
  rw [List.map_map]
  rfl

section

variable (run : ReducerRun runtime snapshot localState final)
  (hComplete : snapshot.completeness.holdingsComplete = true)
  (hSymbols : Keyed AccountHoldingSnapshot.symbol snapshot.holdings)
include run hComplete hSymbols

/-- A pass that returned could create the card of every holding without one. -/
theorem identity_of_run {holding : AccountHoldingSnapshot} (hHolding : holding ∈ snapshot.holdings)
    (hUnknown : lookup cardKey (holdingKey snapshot holding) localState.cards = none) :
    requireTradeCardIdentity snapshot.environment holding.symbol = .ok () := by
  have hHoldings := run.holdings
  unfold reconcileHoldings at hHoldings
  rw [if_pos (show snapshot.completeness.allows .positionQuantityUpdate = true from hComplete)]
    at hHoldings
  obtain ⟨held, hHeld, _⟩ := bind_eq_ok.mp hHoldings
  have hFrame : ∀ before (holding : AccountHoldingSnapshot) after,
      reconcileHolding snapshot before holding = .ok after → ∀ symbol, symbol ≠ holding.symbol →
        cardIn after (snapshot.environment, snapshot.accountNo, symbol) =
          cardIn before (snapshot.environment, snapshot.accountNo, symbol) := by
    intro before holding after hStep symbol hOther
    have hKey : ¬ holdingKey snapshot holding =
        (snapshot.environment, snapshot.accountNo, symbol) := by
      intro hSame
      exact hOther (congrArg (fun key : CardKey => key.2.2) hSame).symm
    rw [cardIn_reconcileHolding hStep, if_neg hKey]
  obtain ⟨before, after, hBefore, hStep, _⟩ :=
    foldlM_at_key (f := fun symbol state =>
      cardIn state (snapshot.environment, snapshot.accountNo, symbol)) hFrame hSymbols hHolding
      hHeld
  have hStart : cardIn (alertDurableExternals run.external) (holdingKey snapshot holding) =
      none := by
    unfold cardIn
    rw [run.external_cards]
    apply lookup_eq_none_iff.mpr
    rw [run.exact_cardKeys]
    exact lookup_eq_none_iff.mp hUnknown
  have hNone : lookup cardKey
      (snapshot.environment, snapshot.accountNo, holding.symbol) before.cards = none :=
    hBefore.trans hStart
  unfold reconcileHolding at hStep
  dsimp only at hStep
  rw [hNone] at hStep
  obtain ⟨_, hIdentity, _⟩ := bind_eq_ok.mp hStep
  exact hIdentity

theorem reconcile_succeeds (now : Instant) (symbolName : String → String) :
    ∃ pass, reconcileBrokerPositions now symbolName snapshot.environment snapshot.accountNo
      localState.cards (brokerHoldings snapshot) = .ok pass := by
  apply reconcileBrokerPositions_succeeds
  · unfold Keyed
    rw [brokerHoldings_symbols]
    exact hSymbols
  · intro broker hBroker hUnknown
    obtain ⟨holding, hHolding, rfl⟩ := List.mem_map.mp hBroker
    exact identity_of_run run hComplete hSymbols hHolding hUnknown

end

theorem lookup_of_filter (h : cards.filter (fun other => other.cardKey = key) = [card]) :
    lookup cardKey key cards = some card := by
  unfold lookup
  rw [← List.head?_filter, h]
  rfl

/-- What the position manager makes of an unheld card that fits. -/
theorem exitedCard_of_fits (hFits : CardFits snapshot localState card)
    (hUnheld : isHeld snapshot card.symbol = false) :
    (exitedCard card).brokerQuantity = 0 ∧
      (card.boardStatus ≠ .sellAll → isPosition (exitedCard card).boardStatus = false) := by
  have hNonneg := hFits.nonneg hUnheld
  unfold exitedCard
  by_cases hEmpty : card.brokerQuantity ≤ 0
  · rw [if_pos hEmpty]
    have hZero : card.brokerQuantity = 0 := le_antisymm hEmpty hNonneg
    exact ⟨hZero, fun _ => hFits.column hUnheld hZero⟩
  rw [if_neg hEmpty]
  by_cases hSellAll : card.boardStatus = .sellAll
  · rw [if_pos hSellAll]
    exact ⟨rfl, fun hNot => absurd hSellAll hNot⟩
  · rw [if_neg hSellAll]
    exact ⟨rfl, fun _ => rfl⟩

theorem held_positions {reduced : List TradeCardState} (hCards : Keyed cardKey cards)
    (hSymbols : Keyed AccountHoldingSnapshot.symbol snapshot.holdings)
    (hMirrored : Mirrored snapshot reduced)
    (hPass : reconcileBrokerPositions now symbolName snapshot.environment snapshot.accountNo
      cards (brokerHoldings snapshot) = .ok pass) (hHeld : isHeld snapshot symbol = true) :
    ∃ quantity before after,
      lookup cardKey (snapshot.environment, snapshot.accountNo, symbol) reduced = some before ∧
      lookup cardKey (snapshot.environment, snapshot.accountNo, symbol)
        pass.cards = some after ∧
      before.brokerQuantity = quantity ∧ isPosition before.boardStatus = true ∧
      ShowsHolding (lookup cardKey
        (snapshot.environment, snapshot.accountNo, symbol) cards) quantity after := by
  have hBrokerSymbols : Keyed BrokerHolding.symbol (brokerHoldings snapshot) := by
    unfold Keyed
    rw [brokerHoldings_symbols]
    exact hSymbols
  obtain ⟨hShown, _⟩ := reconcileBrokerPositions_ok hCards hBrokerSymbols hPass
  obtain ⟨holding, hHolding, hSame⟩ := List.any_eq_true.mp hHeld
  have hSymbol : holding.symbol = symbol := by simpa using hSame
  rw [← hSymbol]
  obtain ⟨before, hOnly, hQuantity, hColumn⟩ := hMirrored.held holding hHolding
  obtain ⟨after, hAfter, hShows⟩ :=
    hShown { symbol := holding.symbol, quantity := holding.quantity
             averagePrice := holding.averagePrice }
      (List.mem_map.mpr ⟨holding, hHolding, rfl⟩)
  exact ⟨holding.quantity, before, after, lookup_of_filter hOnly, hAfter, hQuantity, hColumn,
    hShows⟩

section

variable (run : ReducerRun runtime snapshot localState final)
  (hComplete : snapshot.completeness.holdingsComplete = true)
  (hSymbols : Keyed AccountHoldingSnapshot.symbol snapshot.holdings)
include run hComplete hSymbols

/-- The two versions of the card of an account symbol that is not held. -/
theorem unheld_positions (hMirrored : Mirrored snapshot final.cards)
    (hPass : reconcileBrokerPositions now symbolName snapshot.environment snapshot.accountNo
      localState.cards (brokerHoldings snapshot) = .ok pass)
    (hUnheld : isHeld snapshot symbol = false) :
    (lookup cardKey (snapshot.environment, snapshot.accountNo, symbol)
        final.cards = none ∧
      lookup cardKey (snapshot.environment, snapshot.accountNo, symbol)
        pass.cards = none) ∨
    ∃ card ∈ localState.cards,
      card.cardKey = (snapshot.environment, snapshot.accountNo, symbol) ∧ ∃ reduced,
      lookup cardKey (snapshot.environment, snapshot.accountNo, symbol)
        final.cards = some reduced ∧
      lookup cardKey (snapshot.environment, snapshot.accountNo, symbol)
        pass.cards = some (exitedCard card) ∧
      reduced.brokerQuantity = 0 ∧ isPosition reduced.boardStatus = false := by
  have hBrokerSymbols : Keyed BrokerHolding.symbol (brokerHoldings snapshot) := by
    unfold Keyed
    rw [brokerHoldings_symbols]
    exact hSymbols
  obtain ⟨_, hExited⟩ := reconcileBrokerPositions_ok localState.cardsKeyed hBrokerSymbols hPass
  have hFresh : symbol ∉ (brokerHoldings snapshot).map BrokerHolding.symbol := by
    rw [brokerHoldings_symbols]
    intro hMem
    obtain ⟨holding, hHolding, hSame⟩ := List.mem_map.mp hMem
    have hAny : isHeld snapshot symbol = true :=
      List.any_eq_true.mpr ⟨holding, hHolding, by simpa using hSame⟩
    rw [hUnheld] at hAny
    cases hAny
  have hPassAt := hExited symbol hFresh
  unfold cardAt at hPassAt
  rw [hPassAt]
  cases hLocal : lookup cardKey
    (snapshot.environment, snapshot.accountNo, symbol) localState.cards with
  | none =>
    left
    refine ⟨?_, rfl⟩
    cases hAfter : lookup cardKey
      (snapshot.environment, snapshot.accountNo, symbol) final.cards with
    | none => rfl
    | some after =>
      obtain ⟨card, hCard, hKey⟩ := local_of_unheld run hComplete (by exact hUnheld) hAfter
      have hFound := localState.cardsKeyed.lookup_of_mem hCard
      rw [hKey, hLocal] at hFound
      cases hFound
  | some card =>
    right
    have hKey : card.cardKey = (snapshot.environment, snapshot.accountNo, symbol) :=
      lookup_key hLocal
    refine ⟨card, lookup_mem hLocal, hKey, ?_⟩
    obtain ⟨_, fresh, hKeys⟩ := run.final_grows
    have hMem : (snapshot.environment, snapshot.accountNo, symbol) ∈
        final.cards.map cardKey := by
      rw [hKeys, ← hKey]
      exact List.mem_append_left _ (List.mem_map_of_mem (lookup_mem hLocal))
    cases hAfter : lookup cardKey
      (snapshot.environment, snapshot.accountNo, symbol) final.cards with
    | none => exact absurd hMem (lookup_eq_none_iff.mp hAfter)
    | some reduced =>
      have hReducedKey : reduced.cardKey =
          (snapshot.environment, snapshot.accountNo, symbol) := lookup_key hAfter
      have hReducedSymbol : reduced.symbol = symbol :=
        congrArg (fun key : CardKey => key.2.2) hReducedKey
      have hAccount : OfAccount snapshot reduced :=
        ⟨congrArg Prod.fst hReducedKey, congrArg (fun key : CardKey => key.2.1) hReducedKey⟩
      exact ⟨reduced, rfl, rfl, hMirrored.unheld reduced (lookup_mem hAfter) hAccount
        (by rwa [hReducedSymbol])⟩

/-- On cards that fit, the position manager's pass ends with the mirror's positions. -/
theorem samePositions_of_fits
    (hFits : ∀ card ∈ localState.cards, OfAccount snapshot card → CardFits snapshot localState card)
    (hMirrored : Mirrored snapshot final.cards)
    (hPass : reconcileBrokerPositions now symbolName snapshot.environment snapshot.accountNo
      localState.cards (brokerHoldings snapshot) = .ok pass) :
    SamePositions snapshot localState.cards final.cards pass.cards := by
  have hExited : ∀ symbol, isHeld snapshot symbol = false → ∀ card ∈ localState.cards,
      card.cardKey = (snapshot.environment, snapshot.accountNo, symbol) →
        (exitedCard card).brokerQuantity = 0 ∧
          (card.boardStatus ≠ .sellAll → isPosition (exitedCard card).boardStatus = false) := by
    intro symbol hSymbol card hCard hKey
    have hCardSymbol : card.symbol = symbol := congrArg (fun key : CardKey => key.2.2) hKey
    exact exitedCard_of_fits
      (hFits card hCard ⟨congrArg Prod.fst hKey, congrArg (fun key : CardKey => key.2.1) hKey⟩)
      (by rwa [hCardSymbol])
  constructor
  · intro symbol
    cases hSymbol : isHeld snapshot symbol with
    | true =>
      obtain ⟨quantity, before, after, hBefore, hAfter, hQuantity, _, hShows⟩ :=
        held_positions localState.cardsKeyed hSymbols hMirrored hPass hSymbol
      rw [hBefore, hAfter]
      simp [hQuantity, hShows.quantity]
    | false =>
      rcases unheld_positions run hComplete hSymbols hMirrored hPass hSymbol with
        ⟨hNone, hPassNone⟩ | ⟨card, hCard, hKey, reduced, hReduced, hReconciled, hZero, _⟩
      · rw [hNone, hPassNone]
      · rw [hReduced, hReconciled]
        simp [hZero, (hExited symbol hSymbol card hCard hKey).1]
  · intro symbol hAside
    cases hSymbol : isHeld snapshot symbol with
    | true =>
      obtain ⟨quantity, before, after, hBefore, hAfter, _, hColumn, hShows⟩ :=
        held_positions localState.cardsKeyed hSymbols hMirrored hPass hSymbol
      have hAfterColumn : isPosition after.boardStatus = true := by
        rcases hShows.column with hPosition | ⟨old, hOld, hPending⟩
        · exact hPosition
        · exact absurd hPending (hAside old (lookup_mem hOld) (lookup_key hOld)).1
      rw [hBefore, hAfter]
      simp [hColumn, hAfterColumn]
    | false =>
      rcases unheld_positions run hComplete hSymbols hMirrored hPass hSymbol with
        ⟨hNone, hPassNone⟩ | ⟨card, hCard, hKey, reduced, hReduced, hReconciled, _, hColumn⟩
      · rw [hNone, hPassNone]
      · rw [hReduced, hReconciled]
        simp [hColumn, (hExited symbol hSymbol card hCard hKey).2 (hAside card hCard hKey).2]

end

/-! ## Cards that no order reaches -/

variable (run : ReducerRun runtime snapshot localState final)
include run

/-- Neither loop writes a card that tracks no local order. -/
theorem exact_of_untracked (hCard : card ∈ localState.cards)
    (hUntracked : ∀ order ∈ localState.executionOrders, orderKey order = card.cardKey →
      cardTracksOrder card order = false) :
    cardIn run.exact card.cardKey = some card := by
  obtain ⟨⟨classified, hClassified, hSameCard⟩, _⟩ :=
    @classifyLocalOrders_card snapshot card (fun current => current = card) localState hCard rfl
      (fun order hOrder hKey current _ hCurrent => by
        have hNotTracked := hUntracked order hOrder hKey
        rw [hCurrent]
        simp [projectLocalOrder, entryDefinitivelyRejected, adoptsLiveEntry, hNotTracked])
  have hSame := classified_same snapshot localState
  obtain ⟨after, hAfter, hAfterCard⟩ :=
    rows_card (P := fun current => current = card) localState.ordersKeyed' hSame hClassified
      hSameCard (fun row _ order current next hCurrent hProjection => by
        have hNotTracked := hUntracked order hProjection.order_mem hProjection.sameKey
        have hTracked := hProjection.tracked
        rw [hCurrent, hNotTracked] at hTracked
        cases hTracked) run.exactRows
  rw [hAfter, hAfterCard]

/-- A card no order reaches fits whenever the holdings are mirrored. -/
theorem fits_of_mirrored (hComplete : snapshot.completeness.holdingsComplete = true)
    (hSymbols : Keyed AccountHoldingSnapshot.symbol snapshot.holdings)
    (hMirrored : Mirrored snapshot final.cards) (hCard : card ∈ localState.cards)
    (hAccount : OfAccount snapshot card)
    (hUntracked : ∀ order ∈ localState.executionOrders, orderKey order = card.cardKey →
      cardTracksOrder card order = false) :
    CardFits snapshot localState card := by
  have hExact := exact_of_untracked run hCard hUntracked
  have hAccountKey : card.cardKey = (snapshot.environment, snapshot.accountNo, card.symbol) := by
    unfold cardKey
    rw [hAccount.1, hAccount.2]
  -- an unheld card without shares is left as it is
  have hLeft : isHeld snapshot card.symbol = false → card.brokerQuantity ≤ 0 →
      card.brokerQuantity = 0 ∧ isPosition card.boardStatus = false := by
    intro hUnheld hEmpty
    have hKeyUnheld : isHeld snapshot card.cardKey.2.2 = false := hUnheld
    obtain ⟨swept, orders, hSwept, hFinal⟩ := final_of_unheld run hComplete hKeyUnheld hExact
    have hNoShares : ¬ 0 < card.brokerQuantity := not_lt.mpr hEmpty
    unfold sweepUnheldCard at hSwept
    rw [if_neg (by simp [hNoShares])] at hSwept
    cases hSwept
    obtain ⟨hQuantity, hColumn⟩ := retireStaleEntry_position snapshot orders card
    have hKey : (retireStaleEntry snapshot orders card).cardKey = card.cardKey :=
      retireStaleEntry_cardKey snapshot orders card
    have hRetired := hMirrored.unheld _ (lookup_mem hFinal)
      ⟨(congrArg Prod.fst hKey).trans hAccount.1,
        (congrArg (fun key : CardKey => key.2.1) hKey).trans hAccount.2⟩
      (by rw [show (retireStaleEntry snapshot orders card).symbol = card.symbol from
            congrArg (fun key : CardKey => key.2.2) hKey]
          exact hUnheld)
    exact ⟨hQuantity.symm.trans hRetired.1, hColumn.symm.trans hRetired.2⟩
  constructor
  · intro hHeld
    obtain ⟨holding, hHolding, hSame⟩ := List.any_eq_true.mp hHeld
    have hSymbol : holding.symbol = card.symbol := by simpa using hSame
    have hHoldingKey : holdingKey snapshot holding = card.cardKey := by
      rw [hAccountKey, ← hSymbol]
      rfl
    have hFinal := final_of_holding run hComplete hSymbols hHolding
    obtain ⟨reduced, hOnly, _, hColumn⟩ := hMirrored.held holding hHolding
    have hReduced := lookup_of_filter hOnly
    rw [hHoldingKey, hExact] at hFinal
    rw [hHoldingKey] at hReduced
    unfold cardIn at hFinal
    rw [hReduced] at hFinal
    cases hFinal
    exact (applyHolding_position card holding).2.mp hColumn
  · intro hUnheld
    by_contra hNegative
    have hZero := (hLeft hUnheld (by omega)).1
    omega
  · intro hUnheld hEmpty
    exact (hLeft hUnheld (le_of_eq hEmpty)).2
  · intro _ _ order row hListed hReach
    exfalso
    rcases hReach with hTracked | ⟨_, linked, hLinked, hKey, _, hTracked, _⟩
    · rw [hUntracked order hListed.order_mem hListed.sameKey] at hTracked
      cases hTracked
    · rw [hUntracked linked hLinked hKey] at hTracked
      cases hTracked

end Mirror

/-- Six AAPL shares held. -/
def heldSnapshot : AccountBrokerSnapshot :=
  { sampleSnapshot with
    orders := []
    holdings := [{ symbol := "AAPL", quantity := 6, averagePrice := 100 }] }

/-- An AAPL position of four shares, and an MSFT position the broker no longer lists. -/
def heldState : AccountLocalState :=
  { cards :=
      [{ environment := "PROD", accountNo := "1", symbol := "AAPL"
         boardStatus := .openPosition, brokerQuantity := 4 },
       { environment := "PROD", accountNo := "1", symbol := "MSFT"
         boardStatus := .openPosition, brokerQuantity := 3 }] }

/-- A CLOSED AAPL card whose symbol is held again. -/
def boughtAgainState : AccountLocalState :=
  { cards :=
      [{ environment := "PROD", accountNo := "1", symbol := "AAPL", boardStatus := .closed }] }

end QuantApp.Services
