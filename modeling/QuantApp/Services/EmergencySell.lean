import QuantApp.Services.ReconciliationPlan

/-!
# The emergency sell decision

`_known_owned_working_sells` and `decide_emergency_sell` of
`src/services/account_reconciliation.py`.
-/

namespace QuantApp.Services

open Core

structure EmergencySellDecision where
  quantity : Int := 0
  cancelClientOrderId : String := ""
  manualInterventionRequired : Bool := false
  reason : String := ""
  deriving Repr

/-- An owned SELL of `symbol` in an open execution status.  Both order origins
are owned. -/
def isOwnedOpenSell (symbol : String) (order : ExecutionOrderRecord) : Bool :=
  order.symbol = symbol && order.side = .sell && order.status.isOpen &&
    (order.origin = .application || order.origin = .userAdopted)

def knownOwnedWorkingSells (orders : List ExecutionOrderRecord) (symbol : String) :
    List ExecutionOrderRecord :=
  orders.filter (fun order => isOwnedOpenSell symbol order && hasExactId order)

def unresolvedOwnedSells (orders : List ExecutionOrderRecord) (symbol : String) :
    List ExecutionOrderRecord :=
  orders.filter (fun order => isOwnedOpenSell symbol order && !hasExactId order)

variable (snapshot : AccountBrokerSnapshot)

/-- `external_working_orders`: open rows of the symbol whose id no EXACT order
carries. -/
def externalWorkingOrders
    (orders : List ExecutionOrderRecord) (symbol : String) : List BrokerOrderStatusSnapshot :=
  snapshot.orders.filter (fun row =>
    row.symbol = symbol && isOpenStatus row.status &&
      !(orders.any (fun order => hasExactId order && order.brokerOrderId = row.brokerOrderId)))

/-- A known sell whose last mutation is not resolved. -/
def sellMutationUnresolved (order : ExecutionOrderRecord) : Bool :=
  order.status = .cancelPending || order.recoveryState ≠ .none_

/-- The decision once no unresolved and no external order is in the way. -/
def decideAroundKnownSells
    (holding : AccountHoldingSnapshot) (knownSells : List ExecutionOrderRecord) :
    EmergencySellDecision :=
  match knownSells with
  | first :: _ =>
    if knownSells.any sellMutationUnresolved then
      { manualInterventionRequired := true
        reason := "An owned SELL mutation is unresolved; preserve its command identity and " ++
          "do not issue another broker call" }
    else
      let outstanding := (knownSells.map (fun order => max 0 order.remainingQuantity)).sum
      { quantity := max 0 (holding.quantity - outstanding)
        cancelClientOrderId := first.clientOrderId
        reason := "Prefer cancel/replace of the exact known working sell" }
  | [] =>
    if snapshot.completeness.openOrdersComplete then
      { quantity := holding.quantity }
    else
      match holding.sellableQuantity with
      | some sellable =>
        { quantity := sellable
          reason := "Open-order discovery incomplete; using broker sellable quantity" }
      | none =>
        { manualInterventionRequired := true
          reason := "Outstanding sell exposure is uncertain and the broker did not " ++
            "provide sellable quantity" }

/-- The text of a fence by external orders. -/
def externalFenceReason (holding : AccountHoldingSnapshot)
    (external : List BrokerOrderStatusSnapshot) : String :=
  let sellableNote :=
    match holding.sellableQuantity with
    | some sellable => " Broker sellable quantity is " ++ toString sellable ++ "."
    | none => ""
  "An unowned working broker order fences this symbol; automatic liquidation is fenced " ++
    "until it is terminal or adopted." ++
    (if external.any (·.side = .sell) then sellableNote else "")

def decideEmergencySell (symbol : String)
    (orders : List ExecutionOrderRecord) : EmergencySellDecision :=
  if snapshot.completeness.allows .emergencySellAll = false then
    { manualInterventionRequired := true, reason := "Fresh holdings are unavailable" }
  else
    match snapshot.holdingFor symbol with
    | none => { reason := "No broker holding remains" }
    | some holding =>
      if holding.quantity ≤ 0 then { reason := "No broker holding remains" }
      else if unresolvedOwnedSells orders symbol ≠ [] then
        { manualInterventionRequired := true
          reason := "An owned SELL submission has unresolved broker identity; never submit " ++
            "another liquidation while its outcome is ambiguous" }
      else
        let external := externalWorkingOrders snapshot orders symbol
        if external ≠ [] then
          { manualInterventionRequired := true
            reason := externalFenceReason holding external }
        else
          decideAroundKnownSells snapshot holding (knownOwnedWorkingSells orders symbol)

end QuantApp.Services
