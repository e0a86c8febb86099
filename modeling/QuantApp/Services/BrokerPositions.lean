import QuantApp.Services.PositionManager
import QuantApp.Verified.ExceptFold
import QuantApp.Verified.KeyedTable

/-!
# The position manager's holdings pass

`PositionManager.reconcile_broker_positions` of
`src/services/position_manager.py`, with `discover_manual_position` and
`reconcile_manual_exit`.  A pass holds the cards and, in their order, the ones
it created or wrote.  Each of its two loops writes one card a step, so after the
pass a card is what its own step made of it.
-/

namespace QuantApp.Services

open Core Verified
open TradeCardState (cardKey)

variable {pass next : PositionPass} {card : TradeCardState} {change : Option TradeCardState}
  {holdings : List BrokerHolding} {holding : BrokerHolding} {cards : List TradeCardState}

/-- `BrokerHolding`; its symbol is stripped and upper-case. -/
structure BrokerHolding where
  symbol : String
  quantity : Int
  averagePrice : ℚ

def pricesMatch (a b : ℚ) : Bool := decide (|a - b| ≤ 1 / 1000000)

/-! ## One position -/

/-- The card of a position no card is known for. -/
def newPositionCard (now : Instant) (environment accountNo symbol name : String) : TradeCardState :=
  { environment := environment
    accountNo := accountNo
    symbol := symbol
    name := name
    boardStatus := .openPosition
    watchlistMember := true
    buylistMember := true
    returnToBuylistAfterClose := true
    boardStatusUpdatedAt := now
    createdAt := now
    updatedAt := now }

/-- The broker's facts, and the stop the user still has to set. -/
def takePosition (card : TradeCardState) (brokerQuantity : Int) (averageEntryPrice : ℚ) :
    TradeCardState :=
  let taken :=
    { card with
      brokerQuantity := brokerQuantity
      orderableQuantity := brokerQuantity
      averageEntryPrice := averageEntryPrice
      positionRuntimeStatus := .opened }
  if card.stopType = none then
    { taken with
      entryBlockReason := "manual_position_requires_stop"
      warnings :=
        if "STOP_REQUIRED" ∈ card.warnings then card.warnings
        else card.warnings ++ ["STOP_REQUIRED"] }
  else taken

/-- `PositionManager.discover_manual_position`. -/
def discoverManualPosition (now : Instant) (card : Option TradeCardState)
    (environment accountNo symbol name : String) (brokerQuantity : Int)
    (averageEntryPrice : ℚ) : Except Raised TradeCardState :=
  match card with
  | none => do
    requireTradeCardIdentity environment symbol
    pure (takePosition (newPositionCard now environment accountNo symbol name)
      brokerQuantity averageEntryPrice)
  | some card =>
    .ok (takePosition { card with boardStatus := .openPosition } brokerQuantity averageEntryPrice)

/-- `PositionManager.reconcile_manual_exit`. -/
def reconcileManualExit (card : TradeCardState) (brokerQuantity : Int) :
    Except Raised TradeCardState :=
  let refreshed :=
    { card with brokerQuantity := brokerQuantity, orderableQuantity := brokerQuantity }
  if brokerQuantity ≤ 0 then confirmFlat refreshed
  else .ok { refreshed with stopQuantity := min card.stopQuantity brokerQuantity }

/-! ## The pass -/

/-- Membership in `_INTENT_PRESERVING_STATUSES`. -/
def preservesIntent (status : BoardStatus) : Bool :=
  status = .sellAll || status = .partialSell || status = .entryPending

structure PositionPass where
  cards : List TradeCardState
  changed : List TradeCardState := []

/-- A card the pass wrote, when it wrote one. -/
def PositionPass.mutate (pass : PositionPass) : Option TradeCardState → PositionPass
  | none => pass
  | some card =>
    { cards := store cardKey card pass.cards
      changed := pass.changed ++ [card] }

/-- The broker's quantity or average price is not the card's. -/
def factsChanged (card : TradeCardState) (holding : BrokerHolding) : Bool :=
  card.brokerQuantity ≠ holding.quantity ||
    !(pricesMatch card.averageEntryPrice holding.averagePrice)

section Pass

variable (now : Instant) (symbolName : String → String) (environment accountNo : String)

/-- The card of a held symbol, when the first loop writes it. -/
def holdPosition (card : TradeCardState) (holding : BrokerHolding) :
    Except Raised (Option TradeCardState) :=
  if preservesIntent card.boardStatus then
    .ok (if factsChanged card holding then
      some { card with
        brokerQuantity := holding.quantity
        averageEntryPrice := holding.averagePrice }
    else none)
  else if card.boardStatus ≠ .openPosition || factsChanged card holding then
    some <$> discoverManualPosition now (some card) environment accountNo holding.symbol
      card.name holding.quantity holding.averagePrice
  else .ok none

/-- One holding of the first loop. -/
def reconcilePosition (pass : PositionPass) (holding : BrokerHolding) :
    Except Raised PositionPass :=
  match lookup cardKey (environment, accountNo, holding.symbol) pass.cards with
  | none => do
    let created ← discoverManualPosition now none environment accountNo holding.symbol
      (symbolName holding.symbol) holding.quantity holding.averagePrice
    pure { cards := pass.cards ++ [created], changed := pass.changed ++ [created] }
  | some card =>
    pass.mutate <$> holdPosition now environment accountNo card holding

/-- The card of the account, when the second loop writes it. -/
def exitPosition (holdings : List BrokerHolding) (card : TradeCardState) :
    Except Raised (Option TradeCardState) :=
  if card.environment ≠ environment ∨ card.accountNo ≠ accountNo then .ok none
  else if holdings.any (·.symbol = card.symbol) then .ok none
  else if card.brokerQuantity ≤ 0 then .ok none
  else if card.boardStatus = .sellAll then
    .ok (some { card with brokerQuantity := 0, orderableQuantity := 0 })
  else some <$> reconcileManualExit card 0

/-- One card of the second loop. -/
def reconcileExit (holdings : List BrokerHolding) (pass : PositionPass)
    (card : TradeCardState) : Except Raised PositionPass :=
  pass.mutate <$> exitPosition environment accountNo holdings card

/-- `PositionManager.reconcile_broker_positions`.  A symbol has one card in the
account, as the table of cards has. -/
def reconcileBrokerPositions (cards : List TradeCardState) (holdings : List BrokerHolding) :
    Except Raised PositionPass := do
  let holdingsBySymbol := putAll BrokerHolding.symbol holdings []
  let held ← holdingsBySymbol.foldlM
    (reconcilePosition now symbolName environment accountNo) { cards := cards }
  held.cards.foldlM (reconcileExit environment accountNo holdingsBySymbol) held

end Pass

/-! ## What one step makes of its card -/

/-- The columns of a position. -/
def isPosition (status : BoardStatus) : Bool :=
  status = .openPosition || status = .partialSell || status = .sellAll

@[simp] theorem takePosition_cardKey (card : TradeCardState) (quantity : Int) (price : ℚ) :
    (takePosition card quantity price).cardKey = card.cardKey := by
  unfold takePosition
  dsimp only
  split <;> rfl

theorem takePosition_facts (card : TradeCardState) (quantity : Int) (price : ℚ) :
    (takePosition card quantity price).brokerQuantity = quantity ∧
      (takePosition card quantity price).boardStatus = card.boardStatus := by
  unfold takePosition
  dsimp only
  split <;> exact ⟨rfl, rfl⟩

/-- The card shows the holding: its quantity, and a position column unless its entry is
still pending. -/
structure ShowsHolding (before : Option TradeCardState) (quantity : Int)
    (card : TradeCardState) : Prop where
  quantity : card.brokerQuantity = quantity
  column : isPosition card.boardStatus = true ∨
    ∃ old, before = some old ∧ old.boardStatus = .entryPending

section Pass

variable {now : Instant} {symbolName : String → String} {environment accountNo : String}

/-- A held card is written with its own key, or it shows the holding already. -/
theorem holdPosition_ok (h : holdPosition now environment accountNo card holding = .ok change) :
    (change.getD card).cardKey = card.cardKey ∧
      ShowsHolding (some card) holding.quantity (change.getD card) := by
  have hSame : factsChanged card holding = false → card.brokerQuantity = holding.quantity := by
    intro hFacts
    simp only [factsChanged, Bool.or_eq_false_iff, decide_eq_false_iff_not, not_not] at hFacts
    exact hFacts.1
  unfold holdPosition at h
  split at h
  · rename_i hIntent
    have hColumn : isPosition card.boardStatus = true ∨
        ∃ old, some card = some old ∧ old.boardStatus = .entryPending := by
      simp only [preservesIntent, Bool.or_eq_true, decide_eq_true_eq] at hIntent
      rcases hIntent with (hSellAll | hPartial) | hPending
      · exact Or.inl (by simp [isPosition, hSellAll])
      · exact Or.inl (by simp [isPosition, hPartial])
      · exact Or.inr ⟨card, rfl, hPending⟩
    by_cases hFacts : factsChanged card holding = true
    · rw [if_pos hFacts] at h
      cases h
      exact ⟨rfl, ⟨rfl, hColumn⟩⟩
    · rw [if_neg hFacts] at h
      cases h
      exact ⟨rfl, ⟨hSame (by simpa using hFacts), hColumn⟩⟩
  split at h
  · cases h
    obtain ⟨hQuantity, hBoard⟩ := takePosition_facts { card with boardStatus := .openPosition }
      holding.quantity holding.averagePrice
    exact ⟨takePosition_cardKey _ _ _, ⟨hQuantity, Or.inl (by simp [isPosition, hBoard])⟩⟩
  · rename_i hKept
    cases h
    simp only [Bool.or_eq_true, decide_eq_true_eq, not_or, not_not, Bool.not_eq_true] at hKept
    exact ⟨rfl, ⟨hSame hKept.2, Or.inl (by simp [isPosition, hKept.1])⟩⟩

theorem holdPosition_succeeds (now : Instant) (environment accountNo : String)
    (card : TradeCardState) (holding : BrokerHolding) :
    ∃ change, holdPosition now environment accountNo card holding = .ok change := by
  unfold holdPosition
  split
  · exact ⟨_, rfl⟩
  split
  all_goals exact ⟨_, rfl⟩

/-- The card of an account whose symbol the broker no longer reports: without shares it
is left alone, a liquidating card waits for its own confirmation, any other is closed. -/
def exitedCard (card : TradeCardState) : TradeCardState :=
  if card.brokerQuantity ≤ 0 then card
  else if card.boardStatus = .sellAll then
    { card with brokerQuantity := 0, orderableQuantity := 0 }
  else closedFlat { card with brokerQuantity := 0, orderableQuantity := 0 }

theorem exitedCard_cardKey (card : TradeCardState) : (exitedCard card).cardKey = card.cardKey := by
  unfold exitedCard
  split
  · rfl
  split <;> rfl

theorem exitPosition_succeeds (environment accountNo : String) (holdings : List BrokerHolding)
    (card : TradeCardState) :
    ∃ change, exitPosition environment accountNo holdings card = .ok change ∧
      change.getD card =
        if card.environment ≠ environment ∨ card.accountNo ≠ accountNo ∨
          holdings.any (·.symbol = card.symbol) = true then card
        else exitedCard card := by
  unfold exitPosition
  by_cases hAccount : card.environment ≠ environment ∨ card.accountNo ≠ accountNo
  · have hSkipped : card.environment ≠ environment ∨ card.accountNo ≠ accountNo ∨
        holdings.any (·.symbol = card.symbol) = true := by tauto
    rw [if_pos hAccount, if_pos hSkipped]
    exact ⟨none, rfl, rfl⟩
  rw [if_neg hAccount]
  by_cases hHeld : holdings.any (·.symbol = card.symbol) = true
  · rw [if_pos hHeld, if_pos (Or.inr (Or.inr hHeld))]
    exact ⟨none, rfl, rfl⟩
  have hExits : ¬ (card.environment ≠ environment ∨ card.accountNo ≠ accountNo ∨
      holdings.any (·.symbol = card.symbol) = true) := by tauto
  rw [if_neg hHeld, if_neg hExits]
  unfold exitedCard
  by_cases hEmpty : card.brokerQuantity ≤ 0
  · rw [if_pos hEmpty, if_pos hEmpty]
    exact ⟨none, rfl, rfl⟩
  rw [if_neg hEmpty, if_neg hEmpty]
  by_cases hSellAll : card.boardStatus = .sellAll
  · rw [if_pos hSellAll, if_pos hSellAll]
    exact ⟨_, rfl, rfl⟩
  · rw [if_neg hSellAll, if_neg hSellAll]
    unfold reconcileManualExit
    rw [if_pos (le_refl 0), confirmFlat_of_empty (le_refl 0)]
    exact ⟨_, rfl, rfl⟩

/-! ## The pass, seen from one card -/

/-- The card of `key`. -/
def cardAt (key : CardKey) (pass : PositionPass) : Option TradeCardState :=
  lookup cardKey key pass.cards

theorem cardAt_mutate_of_ne {key : CardKey} (hKey : (change.getD card).cardKey = card.cardKey)
    (hOther : key ≠ card.cardKey) : cardAt key (pass.mutate change) = cardAt key pass := by
  cases change with
  | none => rfl
  | some written =>
    have hWritten : written.cardKey = card.cardKey := hKey
    exact lookup_store_of_ne (by rwa [hWritten])

theorem cardAt_mutate_self (hFound : cardAt card.cardKey pass = some card)
    (hKey : (change.getD card).cardKey = card.cardKey) :
    cardAt card.cardKey (pass.mutate change) = some (change.getD card) := by
  cases change with
  | none => exact hFound
  | some written =>
    have hWritten : written.cardKey = card.cardKey := hKey
    have hOld : lookup cardKey written.cardKey pass.cards = some card := by
      rwa [hWritten]
    have hSelf := lookup_store_self hOld
    rwa [hWritten] at hSelf

theorem mutate_keyed (hKeyed : Keyed cardKey pass.cards) :
    Keyed cardKey (pass.mutate change).cards := by
  cases change with
  | none => exact hKeyed
  | some => exact hKeyed.store

/-- One holding writes the card of its symbol and no other. -/
theorem reconcilePosition_ok
    (h : reconcilePosition now symbolName environment accountNo pass holding = .ok next) :
    (∀ key, key ≠ (environment, accountNo, holding.symbol) →
        cardAt key next = cardAt key pass) ∧
      (Keyed cardKey pass.cards → Keyed cardKey next.cards) ∧
      ∃ card, cardAt (environment, accountNo, holding.symbol) next = some card ∧
        ShowsHolding (cardAt (environment, accountNo, holding.symbol) pass)
          holding.quantity card := by
  unfold reconcilePosition at h
  cases hFound : lookup cardKey (environment, accountNo, holding.symbol)
    pass.cards with
  | none =>
    rw [hFound] at h
    obtain ⟨created, hCreated, hNext⟩ := bind_eq_ok.mp h
    cases hNext
    obtain ⟨_, _, hTaken⟩ := bind_eq_ok.mp hCreated
    cases hTaken
    generalize hCard : takePosition (newPositionCard now environment accountNo holding.symbol
      (symbolName holding.symbol)) holding.quantity holding.averagePrice = created
    obtain ⟨hQuantity, hBoard⟩ := takePosition_facts (newPositionCard now environment accountNo
      holding.symbol (symbolName holding.symbol)) holding.quantity holding.averagePrice
    rw [hCard] at hQuantity hBoard
    have hKey : created.cardKey = (environment, accountNo, holding.symbol) := by
      rw [← hCard]
      exact takePosition_cardKey _ _ _
    have hColumn : isPosition created.boardStatus = true := by
      rw [hBoard]
      rfl
    refine ⟨?_, ?_, created, ?_, ⟨hQuantity, Or.inl hColumn⟩⟩
    · intro key hOther
      have hNone : lookup cardKey key [created] = none := by
        simp [lookup, hKey, Ne.symm hOther]
      show lookup cardKey key (pass.cards ++ [created]) = _
      rw [lookup_append, hNone, Option.or_none]
      rfl
    · intro hKeyed
      apply hKeyed.append_fresh
      rw [hKey]
      exact lookup_eq_none_iff.mp hFound
    · show lookup cardKey _ (pass.cards ++ [created]) = _
      rw [lookup_append, hFound, Option.none_or]
      simp [lookup, hKey]
  | some card =>
    rw [hFound] at h
    obtain ⟨change, hChange, rfl⟩ := map_eq_ok.mp h
    obtain ⟨hKey, hShows⟩ := holdPosition_ok hChange
    have hCardKey : card.cardKey = (environment, accountNo, holding.symbol) := lookup_key hFound
    rw [← hCardKey] at hFound ⊢
    have hBefore : cardAt card.cardKey pass = some card := hFound
    rw [hBefore]
    exact ⟨fun key hOther => cardAt_mutate_of_ne hKey hOther, mutate_keyed, change.getD card,
      cardAt_mutate_self hBefore hKey, hShows⟩

/-- The second loop makes of a card what `exitPosition` says. -/
theorem reconcileExit_ok (h : reconcileExit environment accountNo holdings pass card = .ok next) :
    (∀ key, key ≠ card.cardKey → cardAt key next = cardAt key pass) ∧
      (cardAt card.cardKey pass = some card → cardAt card.cardKey next = some
        (if card.environment ≠ environment ∨ card.accountNo ≠ accountNo ∨
          holdings.any (·.symbol = card.symbol) = true then card
        else exitedCard card)) := by
  obtain ⟨change, hChange, hAfter⟩ := exitPosition_succeeds environment accountNo holdings card
  unfold reconcileExit at h
  rw [hChange] at h
  cases h
  have hKey : (change.getD card).cardKey = card.cardKey := by
    rw [hAfter]
    split
    · rfl
    · exact exitedCard_cardKey card
  rw [← hAfter]
  exact ⟨fun key hOther => cardAt_mutate_of_ne hKey hOther,
    fun hFound => cardAt_mutate_self hFound hKey⟩

/-- After the pass every holding is shown by the card of its symbol, and a card of the
account whose symbol is not held has left its position. -/
theorem reconcileBrokerPositions_ok (hCards : Keyed cardKey cards)
    (hHoldings : Keyed BrokerHolding.symbol holdings)
    (h : reconcileBrokerPositions now symbolName environment accountNo cards holdings = .ok pass) :
    (∀ holding ∈ holdings, ∃ card,
        cardAt (environment, accountNo, holding.symbol) pass = some card ∧
          ShowsHolding (lookup cardKey (environment, accountNo, holding.symbol)
            cards) holding.quantity card) ∧
      ∀ symbol, symbol ∉ holdings.map BrokerHolding.symbol →
        cardAt (environment, accountNo, symbol) pass =
          (lookup cardKey (environment, accountNo, symbol) cards).map
            exitedCard := by
  unfold reconcileBrokerPositions at h
  have hPut : putAll BrokerHolding.symbol holdings [] = [] ++ holdings := putAll_of_fresh hHoldings
  rw [hPut, List.nil_append] at h
  obtain ⟨held, hHeld, hExits⟩ := bind_eq_ok.mp h
  have hHeldKeyed : Keyed cardKey held.cards := by
    apply foldlM_invariant (fun (pass : PositionPass) =>
      Keyed cardKey pass.cards) hCards _ hHeld
    intro before holding after _ hBefore hStep
    exact (reconcilePosition_ok hStep).2.1 hBefore
  have hPositionFrame : ∀ before (holding : BrokerHolding) after,
      reconcilePosition now symbolName environment accountNo before holding = .ok after →
        ∀ symbol, symbol ≠ holding.symbol →
          cardAt (environment, accountNo, symbol) after =
            cardAt (environment, accountNo, symbol) before := by
    intro before holding after hStep symbol hOther
    apply (reconcilePosition_ok hStep).1
    simpa using hOther
  have hExitFrame : ∀ before (card : TradeCardState) after,
      reconcileExit environment accountNo holdings before card = .ok after →
        ∀ key, key ≠ card.cardKey → cardAt key after = cardAt key before :=
    fun _ _ _ hStep => (reconcileExit_ok hStep).1
  -- the second loop, at a symbol that has a card after the first one
  have hExited : ∀ symbol card, cardAt (environment, accountNo, symbol) held = some card →
      cardAt (environment, accountNo, symbol) pass = some
        (if holdings.any (·.symbol = symbol) = true then card else exitedCard card) := by
    intro symbol card hFound
    have hKey : card.cardKey = (environment, accountNo, symbol) := lookup_key hFound
    rw [← hKey] at hFound ⊢
    obtain ⟨before, after, hBefore, hStep, hAfter⟩ :=
      foldlM_at_key (f := cardAt) hExitFrame hHeldKeyed (lookup_mem hFound) hExits
    rw [hAfter, (reconcileExit_ok hStep).2 (hBefore.trans hFound)]
    have hEnvironment : card.environment = environment := congrArg Prod.fst hKey
    have hAccount : card.accountNo = accountNo := congrArg (fun k : CardKey => k.2.1) hKey
    have hSymbol : card.symbol = symbol := congrArg (fun k : CardKey => k.2.2) hKey
    simp [hEnvironment, hAccount, hSymbol]
  constructor
  · intro holding hHolding
    obtain ⟨before, after, hBefore, hStep, hAfter⟩ :=
      foldlM_at_key (f := fun symbol => cardAt (environment, accountNo, symbol))
        hPositionFrame hHoldings hHolding hHeld
    obtain ⟨_, _, card, hCard, hShows⟩ := reconcilePosition_ok hStep
    have hReported : holdings.any (fun other => other.symbol = holding.symbol) = true :=
      List.any_eq_true.mpr ⟨holding, hHolding, by simp⟩
    refine ⟨card, ?_, ?_⟩
    · rw [hExited holding.symbol card (hAfter.trans hCard), if_pos hReported]
    · have hStart : cardAt (environment, accountNo, holding.symbol) before =
          lookup cardKey (environment, accountNo, holding.symbol) cards := hBefore
      rwa [hStart] at hShows
  · intro symbol hFresh
    have hKept : cardAt (environment, accountNo, symbol) held =
        lookup cardKey (environment, accountNo, symbol) cards :=
      foldlM_fresh_key (f := fun symbol => cardAt (environment, accountNo, symbol))
        hPositionFrame hFresh hHeld
    rw [← hKept]
    cases hFound : cardAt (environment, accountNo, symbol) held with
    | none =>
      have hAbsent : (environment, accountNo, symbol) ∉
          held.cards.map cardKey := lookup_eq_none_iff.mp hFound
      rw [foldlM_fresh_key (f := cardAt) hExitFrame hAbsent hExits, hFound]
      rfl
    | some card =>
      have hUnreported : ¬ holdings.any (fun other => other.symbol = symbol) = true := by
        intro hAny
        obtain ⟨holding, hHolding, hSymbol⟩ := List.any_eq_true.mp hAny
        apply hFresh
        exact List.mem_map.mpr ⟨holding, hHolding, by simpa using hSymbol⟩
      rw [hExited symbol card hFound, if_neg hUnreported]
      rfl

/-- The pass returns when every holding without a card names one that can be created. -/
theorem reconcileBrokerPositions_succeeds (hHoldings : Keyed BrokerHolding.symbol holdings)
    (hIdentity : ∀ holding ∈ holdings,
      lookup cardKey (environment, accountNo, holding.symbol) cards = none →
        requireTradeCardIdentity environment holding.symbol = .ok ()) :
    ∃ pass, reconcileBrokerPositions now symbolName environment accountNo cards holdings =
      .ok pass := by
  have hFirst : ∃ held, holdings.foldlM
      (reconcilePosition now symbolName environment accountNo) { cards := cards } = .ok held ∧
        ∀ key, cardAt key held = none → lookup cardKey key cards = none := by
    have hStart : ∀ key, cardAt key { cards := cards } = none →
        lookup cardKey key cards = none := fun _ hNone => hNone
    apply foldlM_succeeds (fun (pass : PositionPass) => ∀ key, cardAt key pass = none →
      lookup cardKey key cards = none) hStart
    intro pass holding hHolding hBefore
    obtain ⟨next, hNext⟩ : ∃ next,
        reconcilePosition now symbolName environment accountNo pass holding = .ok next := by
      unfold reconcilePosition
      cases hFound : lookup cardKey (environment, accountNo, holding.symbol)
        pass.cards with
      | none =>
        have hNamed := hIdentity holding hHolding (hBefore _ hFound)
        simp only [discoverManualPosition, hNamed]
        exact ⟨_, rfl⟩
      | some card =>
        obtain ⟨change, hChange⟩ := holdPosition_succeeds now environment accountNo card holding
        exact ⟨_, map_eq_ok.mpr ⟨change, hChange, rfl⟩⟩
    refine ⟨next, hNext, ?_⟩
    intro key hNone
    obtain ⟨hFrame, _, card, hCard, _⟩ := reconcilePosition_ok hNext
    by_cases hKey : key = (environment, accountNo, holding.symbol)
    · rw [hKey, hCard] at hNone
      cases hNone
    · exact hBefore key ((hFrame key hKey).symm.trans hNone)
  obtain ⟨held, hHeld, _⟩ := hFirst
  obtain ⟨pass, hPass, _⟩ : ∃ pass, held.cards.foldlM
      (reconcileExit environment accountNo holdings) held = .ok pass ∧ True := by
    apply foldlM_succeeds (fun (_ : PositionPass) => True) trivial
    intro pass card _ _
    obtain ⟨change, hChange, _⟩ := exitPosition_succeeds environment accountNo holdings card
    exact ⟨_, map_eq_ok.mpr ⟨change, hChange, rfl⟩, trivial⟩
  unfold reconcileBrokerPositions
  have hPut : putAll BrokerHolding.symbol holdings [] = [] ++ holdings := putAll_of_fresh hHoldings
  rw [hPut, List.nil_append]
  exact ⟨pass, bind_eq_ok.mpr ⟨held, hHeld, hPass⟩⟩

end Pass

end QuantApp.Services
