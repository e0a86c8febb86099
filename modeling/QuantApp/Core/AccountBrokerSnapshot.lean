import QuantApp.Core.OrderState

/-!
# Account-scoped broker truth

`src/core/account_broker_snapshot.py`: one immutable answer of the broker for
one account, with per-source completeness.
-/

namespace QuantApp.Core

inductive ReconciliationAction
  | newEntry
  | cancelKnownOrder
  | positionQuantityUpdate
  | terminalOrderConclusion
  | reservedMooReconciliation
  | emergencySellAll
  deriving Repr

structure SnapshotCompleteness where
  holdingsComplete : Bool := false
  openOrdersComplete : Bool := false
  historyComplete : Bool := false
  reservedOrdersComplete : Bool := false
  accountBalanceComplete : Bool := false
  deriving Repr

/-- `SnapshotCompleteness.allows`, with `_ACTION_REQUIREMENTS` inlined. -/
def SnapshotCompleteness.allows (completeness : SnapshotCompleteness) :
    ReconciliationAction → Bool
  | .newEntry => completeness.holdingsComplete && completeness.openOrdersComplete &&
      completeness.accountBalanceComplete
  | .cancelKnownOrder => completeness.openOrdersComplete
  | .positionQuantityUpdate => completeness.holdingsComplete
  | .terminalOrderConclusion => completeness.holdingsComplete &&
      completeness.openOrdersComplete && completeness.historyComplete
  | .reservedMooReconciliation => completeness.reservedOrdersComplete
  | .emergencySellAll => completeness.holdingsComplete

theorem nonneg_of_mem_none : ∀ sellable ∈ (none : Option Int), 0 ≤ sellable := by decide

/-- One holding.  The constructor upper-cases the symbol and floors both
quantities at zero. -/
structure AccountHoldingSnapshot where
  symbol : String
  quantity : Int
  averagePrice : ℚ := 0
  sellableQuantity : Option Int := none
  quantityNonneg : 0 ≤ quantity := by decide
  sellableNonneg : ∀ sellable ∈ sellableQuantity, 0 ≤ sellable := by
    first
      | with_reducible exact nonneg_of_mem_none
      | decide

/-- `holding.sellable_quantity`, or the held quantity when it is not known. -/
def AccountHoldingSnapshot.orderable (holding : AccountHoldingSnapshot) : Int :=
  holding.sellableQuantity.getD holding.quantity

/-- One account snapshot.  `environment` is upper-cased and, as every caller
names its account's environment, non-blank. -/
structure AccountBrokerSnapshot where
  environment : String
  accountNo : String
  completeness : SnapshotCompleteness
  holdings : List AccountHoldingSnapshot := []
  orders : List BrokerOrderStatusSnapshot := []
  observedAt : Instant
  sessionDate : CalendarDate
  snapshotId : String
  executionNoticeBrokerOrderIds : List String := []
  environmentNamed : environment ≠ "" := by decide

def AccountBrokerSnapshot.holdingFor (snapshot : AccountBrokerSnapshot)
    (symbol : String) : Option AccountHoldingSnapshot :=
  snapshot.holdings.find? (fun holding => holding.symbol = symbol)

end QuantApp.Core
