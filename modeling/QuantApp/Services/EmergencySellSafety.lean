import QuantApp.Services.ReducerRun

/-!
# When an emergency sell competes with a live one

`decideEmergencySell_sells` says everything a decision to sell rests on.  An
open row of the symbol is then claimed by an EXACT local order that is not
itself an open SELL: the order is terminal locally while the broker still
works it.  `emergencySell_safe_iff` makes this the exact condition, together
with the broker's sellable quantity when open-order discovery is incomplete.
-/

namespace QuantApp.Services

open Core Verified

variable {snapshot : AccountBrokerSnapshot}

theorem isOwnedOpenSell_iff (symbol : String) (order : ExecutionOrderRecord) :
    isOwnedOpenSell symbol order = true ↔
      order.symbol = symbol ∧ order.side = .sell ∧ order.status.isOpen = true := by
  have hOrigin : (order.origin = .application || order.origin = .userAdopted) = true := by
    cases order.origin <;> rfl
  simp only [isOwnedOpenSell, hOrigin, Bool.and_true, Bool.and_eq_true, decide_eq_true_eq]
  exact and_assoc

/-- The grounds of a decision to sell `quantity` shares. -/
structure SellGrounds (snapshot : AccountBrokerSnapshot) (symbol : String)
    (orders : List ExecutionOrderRecord) (quantity : Int) (holding : AccountHoldingSnapshot) :
    Prop where
  held : snapshot.holdingFor symbol = some holding
  positive : 0 < quantity
  noOwnedSell : ∀ order ∈ orders, order.symbol = symbol → order.side = .sell →
    order.status.isOpen = false
  rowsClaimed : ∀ row ∈ snapshot.orders, row.symbol = symbol → isOpenStatus row.status = true →
    ∃ order ∈ orders, hasExactId order = true ∧ order.brokerOrderId = row.brokerOrderId
  amount : (snapshot.completeness.openOrdersComplete = true ∧ quantity = holding.quantity) ∨
    (snapshot.completeness.openOrdersComplete = false ∧ holding.sellableQuantity = some quantity)

theorem decideAroundKnownSells_sells {holding : AccountHoldingSnapshot}
    {knownSells : List ExecutionOrderRecord}
    (hQuantity : 0 < (decideAroundKnownSells snapshot holding knownSells).quantity)
    (hCancel : (decideAroundKnownSells snapshot holding knownSells).cancelClientOrderId = "") :
    knownSells = [] ∧
      ((snapshot.completeness.openOrdersComplete = true ∧
          (decideAroundKnownSells snapshot holding knownSells).quantity = holding.quantity) ∨
        (snapshot.completeness.openOrdersComplete = false ∧ holding.sellableQuantity =
          some (decideAroundKnownSells snapshot holding knownSells).quantity)) := by
  cases knownSells with
  | cons first =>
    unfold decideAroundKnownSells at hQuantity hCancel
    dsimp only at hQuantity hCancel
    split at hCancel
    · rename_i hUnresolved
      rw [if_pos hUnresolved] at hQuantity
      exact absurd hQuantity (lt_irrefl 0)
    · exact absurd hCancel first.clientOrderIdNamed
  | nil =>
    refine ⟨rfl, ?_⟩
    unfold decideAroundKnownSells at hQuantity ⊢
    dsimp only at hQuantity ⊢
    by_cases hComplete : snapshot.completeness.openOrdersComplete = true
    · rw [if_pos hComplete]
      exact Or.inl ⟨hComplete, rfl⟩
    · rw [if_neg hComplete] at hQuantity ⊢
      refine Or.inr ⟨by simpa using hComplete, ?_⟩
      cases hSellable : holding.sellableQuantity with
      | none =>
        rw [hSellable] at hQuantity
        exact absurd hQuantity (lt_irrefl 0)
      | some => rfl

theorem decideEmergencySell_sells {symbol : String} {orders : List ExecutionOrderRecord}
    (hQuantity : 0 < (decideEmergencySell snapshot symbol orders).quantity)
    (hCancel : (decideEmergencySell snapshot symbol orders).cancelClientOrderId = "") :
    ∃ holding, SellGrounds snapshot symbol orders
      (decideEmergencySell snapshot symbol orders).quantity holding := by
  unfold decideEmergencySell at hQuantity hCancel ⊢
  split at hQuantity
  · exact absurd hQuantity (lt_irrefl 0)
  rename_i hAllowed
  rw [if_neg hAllowed] at hCancel ⊢
  cases hHolding : snapshot.holdingFor symbol with
  | none =>
    simp only [hHolding] at hQuantity
    exact absurd hQuantity (lt_irrefl 0)
  | some holding =>
    simp only [hHolding] at hQuantity hCancel ⊢
    split at hQuantity
    · exact absurd hQuantity (lt_irrefl 0)
    rename_i hPositive
    rw [if_neg hPositive] at hCancel ⊢
    split at hQuantity
    · exact absurd hQuantity (lt_irrefl 0)
    rename_i hUnresolved
    rw [if_neg hUnresolved] at hCancel ⊢
    split at hQuantity
    · exact absurd hQuantity (lt_irrefl 0)
    rename_i hExternal
    rw [if_neg hExternal] at hCancel ⊢
    have hNoUnresolved : unresolvedOwnedSells orders symbol = [] := not_not.mp hUnresolved
    have hNoExternal : externalWorkingOrders snapshot orders symbol = [] := not_not.mp hExternal
    obtain ⟨hKnown, hAmount⟩ := decideAroundKnownSells_sells hQuantity hCancel
    refine ⟨holding,
      { held := hHolding
        positive := hQuantity
        noOwnedSell := ?_
        rowsClaimed := ?_
        amount := hAmount }⟩
    · intro order hOrder hSymbol hSide
      by_contra hOpen
      have hOwned : isOwnedOpenSell symbol order = true :=
        (isOwnedOpenSell_iff symbol order).mpr ⟨hSymbol, hSide, by simpa using hOpen⟩
      by_cases hExact : hasExactId order = true
      · have hMem : order ∈ knownOwnedWorkingSells orders symbol :=
          List.mem_filter.mpr ⟨hOrder, by rw [hOwned, hExact]; rfl⟩
        rw [hKnown] at hMem
        cases hMem
      · have hMem : order ∈ unresolvedOwnedSells orders symbol := by
          refine List.mem_filter.mpr ⟨hOrder, ?_⟩
          simp [hOwned, hExact]
        rw [hNoUnresolved] at hMem
        cases hMem
    · intro row hRow hSymbol hOpen
      by_contra hUnclaimed
      have hNone : orders.any (fun order =>
          hasExactId order && order.brokerOrderId = row.brokerOrderId) = false := by
        refine List.any_eq_false.mpr ?_
        intro order hOrder hClaims
        simp only [Bool.and_eq_true, decide_eq_true_eq] at hClaims
        exact hUnclaimed ⟨order, hOrder, hClaims.1, hClaims.2⟩
      have hMem : row ∈ externalWorkingOrders snapshot orders symbol := by
        refine List.mem_filter.mpr ⟨hRow, ?_⟩
        rw [hNone]
        simp [hSymbol, hOpen]
      rw [hNoExternal] at hMem
      cases hMem

/-! ## The commands of a plan -/

/-- An emergency sell that competes with nothing: no open SELL row of the symbol,
no owned open SELL order of it, and no more shares than are held. -/
structure NoCompetingSell (snapshot : AccountBrokerSnapshot) (localState : AccountLocalState)
    (plan : ReconciliationPlan) (command : ReconciliationCommand) : Prop where
  noOpenSellRow : ∀ row ∈ snapshot.orders, row.symbol = command.symbol → row.side = .sell →
    isOpenStatus row.status = false
  noOwnedSell : ∀ order ∈ plan.reducedOrders localState, order.symbol = command.symbol →
    order.side = .sell → order.status.isOpen = false
  quantity : ∃ holding, snapshot.holdingFor command.symbol = some holding ∧
    0 < command.quantity ∧ command.quantity ≤ holding.quantity

/-- The broker's answers about the symbol agree with the local orders. -/
structure SellEvidenceAgrees (snapshot : AccountBrokerSnapshot) (localState : AccountLocalState)
    (symbol : String) : Prop where
  /-- An EXACT order whose id an open SELL row carries is a SELL of the symbol
  that the row leaves open. -/
  claimedRows : ∀ row ∈ snapshot.orders, row.symbol = symbol → row.side = .sell →
    isOpenStatus row.status = true → ∀ order ∈ localState.executionOrders,
      hasExactId order = true → order.brokerOrderId = row.brokerOrderId →
        order.symbol = symbol ∧ order.side = .sell ∧
          (lifecycleAfter order snapshot.orders).status.isOpen = true
  /-- Where open orders are unknown, no more is sellable than is held. -/
  sellable : snapshot.completeness.openOrdersComplete = true ∨
    ∀ holding, snapshot.holdingFor symbol = some holding →
      ∀ sellable ∈ holding.sellableQuantity, sellable ≤ holding.quantity

/-- A command to sell rests on grounds about the reducer's final orders. -/
theorem emergencyCommand_grounds {runtime : Runtime} {localState : AccountLocalState}
    {final : ReduceState} (h : reduceLocalState runtime snapshot localState = .ok final)
    {command : ReconciliationCommand} (hCommand : command ∈ final.commands)
    (hType : command.commandType = .emergencySellAll) :
    ∃ holding, SellGrounds snapshot command.symbol final.orders command.quantity holding := by
  obtain ⟨run⟩ := nonempty_reducerRun h
  obtain ⟨card, _, hDecision⟩ := run.mem_final_commands hCommand
  unfold emergencyCommands at hDecision
  split at hDecision
  · rw [List.mem_singleton.mp hDecision] at hType
    cases hType
  rename_i hCancel
  split at hDecision
  · rename_i hQuantity
    rw [List.mem_singleton.mp hDecision]
    exact decideEmergencySell_sells hQuantity (not_not.mp hCancel)
  · cases hDecision

/-- An emergency sell competes with nothing exactly when the broker's answers
about its symbol agree with the local orders. -/
theorem emergencySell_safe_iff (runtime : Runtime) (snapshot : AccountBrokerSnapshot)
    (localState : AccountLocalState) (plan : ReconciliationPlan)
    (h : reduceAccountReconciliation runtime snapshot localState = .ok plan)
    (command : ReconciliationCommand) (hCommand : command ∈ plan.commands)
    (hType : command.commandType = .emergencySellAll) :
    NoCompetingSell snapshot localState plan command ↔
      SellEvidenceAgrees snapshot localState command.symbol := by
  obtain ⟨final, hFinal, rfl⟩ := reduceAccountReconciliation_ok.mp h
  obtain ⟨holding, hGrounds⟩ := emergencyCommand_grounds hFinal hCommand hType
  have hFates := orders_evolve hFinal
  constructor
  · intro hSafe
    refine { claimedRows := ?_, sellable := ?_ }
    · intro row hRow hSymbol hSide hOpen
      have hClosed := hSafe.noOpenSellRow row hRow hSymbol hSide
      rw [hOpen] at hClosed
      cases hClosed
    · rcases hGrounds.amount with ⟨hComplete, _⟩ | ⟨_, hSellable⟩
      · exact Or.inl hComplete
      · right
        intro other hOther sellable hMem
        rw [hGrounds.held] at hOther
        cases hOther
        rw [hSellable] at hMem
        cases hMem
        obtain ⟨held, hHeld, _, hAtMost⟩ := hSafe.quantity
        rw [hGrounds.held] at hHeld
        cases hHeld
        exact hAtMost
  · intro hAgrees
    refine { noOpenSellRow := ?_, noOwnedSell := ?_, quantity := ⟨holding, hGrounds.held,
      hGrounds.positive, ?_⟩ }
    · intro row hRow hSymbol hSide
      by_contra hOpen
      have hOpenRow : isOpenStatus row.status = true := by simpa using hOpen
      obtain ⟨order, hOrder, hExact, hId⟩ := hGrounds.rowsClaimed row hRow hSymbol hOpenRow
      obtain ⟨before, hBefore, hFate⟩ := forall₂_mem_right hFates hOrder
      have hSame := hFate.same
      obtain ⟨hOrderSymbol, hOrderSide, hStillOpen⟩ :=
        hAgrees.claimedRows row hRow hSymbol hSide hOpenRow before hBefore
          (by rw [← hSame.hasExactId]; exact hExact)
          (by rw [← hSame.brokerOrderId]; exact hId)
      have hAfterSymbol : order.symbol = before.symbol :=
        (congrArg ExecutionOrderRecord.symbol hSame).symm
      have hAfterSide : order.side = before.side := (congrArg ExecutionOrderRecord.side hSame).symm
      have hNotOpen := hGrounds.noOwnedSell order hOrder (hAfterSymbol.trans hOrderSymbol)
        (hAfterSide.trans hOrderSide)
      rw [hFate.status, hStillOpen] at hNotOpen
      cases hNotOpen
    · rw [reducedOrders_planOf hFinal]
      exact hGrounds.noOwnedSell
    · rcases hGrounds.amount with ⟨_, hAmount⟩ | ⟨hIncomplete, hSellable⟩
      · exact le_of_eq hAmount
      · rcases hAgrees.sellable with hComplete | hBounded
        · rw [hIncomplete] at hComplete
          cases hComplete
        · exact hBounded holding hGrounds.held command.quantity hSellable

/-! ## A filled sell the broker still works -/

/-- A liquidation of ten shares that the local record holds FILLED. -/
def filledSell : ExecutionOrderRecord :=
  { sampleOrder with
    side := .sell, intent := .manualExit, status := .filled, filledQuantity := 10
    remainingQuantity := 0 }

/-- The broker's row: the same order, still working. -/
def workingSellRow : BrokerOrderStatusSnapshot := { sampleRow with side := .sell }

/-- A complete answer with that row and ten shares held. -/
def contradictedSellSnapshot : AccountBrokerSnapshot :=
  { sampleSnapshot with
    orders := [workingSellRow]
    holdings := [sampleHolding] }

/-- The account: a card that wants out and the filled sell. -/
def contradictedSellState : AccountLocalState :=
  { cards := [{ sampleCard with
      boardStatus := .sellAll, entryClientOrderId := "", entryAttemptGroupId := ""
      brokerQuantity := 10 }]
    executionOrders := [filledSell] }

/-- The plan sells all ten shares beside the working sell. -/
def competingSellCommand : ReconciliationCommand :=
  { commandType := .emergencySellAll, environment := "PROD", accountNo := "1"
    symbol := "AAPL", quantity := 10 }

/-- The filled sell is consistent, and the plan sells beside its working row. -/
theorem emergencySell_competes :
    ¬ ∀ (runtime : Runtime) (snapshot : AccountBrokerSnapshot) (localState : AccountLocalState)
        (plan : ReconciliationPlan),
      (∀ order ∈ localState.executionOrders, order.Consistent) →
      reduceAccountReconciliation runtime snapshot localState = .ok plan →
      ∀ command ∈ plan.commands, command.commandType = .emergencySellAll →
        NoCompetingSell snapshot localState plan command := by
  intro hClaim
  have hSafe := hClaim sampleRuntime contradictedSellSnapshot contradictedSellState _
    (by decide +kernel) (eq_returnedPlan (by decide +kernel)) competingSellCommand
    (by decide +kernel) rfl
  have hClosed := hSafe.noOpenSellRow workingSellRow (by decide +kernel) rfl rfl
  cases hClosed

/-- Without the row, the same account sells what it holds and nothing competes. -/
theorem emergencySell_safe_sample :
    ∃ plan, reduceAccountReconciliation sampleRuntime
        { contradictedSellSnapshot with orders := [] } contradictedSellState = .ok plan ∧
      NoCompetingSell { contradictedSellSnapshot with orders := [] } contradictedSellState plan
        competingSellCommand := by
  refine ⟨_, eq_returnedPlan (by decide +kernel), ?_⟩
  refine (emergencySell_safe_iff _ _ _ _ (eq_returnedPlan (by decide +kernel)) _
    (by decide +kernel) rfl).mpr { claimedRows := ?_, sellable := Or.inl rfl }
  intro row hRow
  cases hRow

end QuantApp.Services
