import QuantApp.Services.ExternalOrderFence
import QuantApp.Services.StoredOrders

/-!
# The table of discovered external orders

The statements of `src/services/discovered_external_order_repository.py` over the
`discovered_external_orders` table: unique `external_order_id` and broker identity, and
updates under a version check.
-/

namespace QuantApp.Services

open Core Verified

/-- `_identity_key`: `broker_identity_key`, a text of these three. -/
def externalIdentityKey (external : DiscoveredExternalOrder) : String × String × String :=
  (external.environment, external.accountNo, strip external.brokerOrderId)

/-- Environment, account and symbol. -/
abbrev SymbolScope := String × String × String

def externalScope (external : DiscoveredExternalOrder) : SymbolScope :=
  (external.environment, external.accountNo, external.symbol)

def recordScope (order : ExecutionOrderRecord) : SymbolScope :=
  (order.environment, order.accountNo, order.symbol)

def getDiscoveredExternalOrder (rows : List DiscoveredExternalOrder) (externalOrderId : String) :
    Option DiscoveredExternalOrder :=
  lookup DiscoveredExternalOrder.externalOrderId externalOrderId rows

def getDiscoveredExternalOrderByBrokerId (rows : List DiscoveredExternalOrder)
    (external : DiscoveredExternalOrder) : Option DiscoveredExternalOrder :=
  rows.find? (fun row => externalIdentityKey row = externalIdentityKey external)

def insertDiscoveredExternalOrder (rows : List DiscoveredExternalOrder)
    (external : DiscoveredExternalOrder) : Except Raised (List DiscoveredExternalOrder) :=
  match getDiscoveredExternalOrder rows external.externalOrderId with
  | some _ =>
    .error
      { cls := .duplicateExternalOrder
        message := "DiscoveredExternalOrder for external_order_id=" ++
          pythonRepr external.externalOrderId ++ " already exists" }
  | none =>
    match getDiscoveredExternalOrderByBrokerId rows external with
    | some existing =>
      .error
        { cls := .duplicateBrokerOrderDiscovery
          message := "broker_order_id=" ++ pythonRepr external.brokerOrderId ++
            " was already discovered as external_order_id=" ++
            pythonRepr existing.externalOrderId }
    | none => .ok (rows ++ [external])

/-- `update_discovered_external_order`: the table and the order with its new version. -/
def updateDiscoveredExternalOrder (rows : List DiscoveredExternalOrder)
    (external : DiscoveredExternalOrder) (expectedVersion : Int) :
    Except Raised (List DiscoveredExternalOrder × DiscoveredExternalOrder) :=
  match getDiscoveredExternalOrder rows external.externalOrderId with
  | none =>
    .error
      { cls := .externalOrderNotFound
        message := "No DiscoveredExternalOrder for external_order_id=" ++
          pythonRepr external.externalOrderId }
  | some current =>
    if current.environment ≠ external.environment ∨ current.accountNo ≠ external.accountNo ∨
        current.symbol ≠ external.symbol ∨ current.brokerOrderId ≠ external.brokerOrderId then
      .error
        { cls := .immutableFieldChanged
          message := "external_order_id=" ++ pythonRepr external.externalOrderId ++
            ": environment/account_no/symbol/broker_order_id must not change after creation" }
    else if current.version ≠ expectedVersion then
      .error
        { cls := .externalOrderVersionConflict
          message := "external_order_id=" ++ pythonRepr external.externalOrderId ++
            " version conflict (expected " ++ toString expectedVersion ++ ", stored " ++
            toString current.version ++ ")" }
    else
      let written := { external with version := expectedVersion + 1 }
      .ok (store DiscoveredExternalOrder.externalOrderId written rows, written)

/-- A row of `find_active_execution_order_for_scope`. -/
def isActiveInScope (scope : SymbolScope) (order : ExecutionOrderRecord) : Bool :=
  recordScope order = scope && !order.status.isTerminal

def findActiveExecutionOrderForScope (orders : List ExecutionOrderRecord) (scope : SymbolScope) :
    Option ExecutionOrderRecord :=
  orders.find? (isActiveInScope scope)

/-- A row of the fence's first query, active or not. -/
def isUnownedInScope (scope : SymbolScope) (external : DiscoveredExternalOrder) : Bool :=
  externalScope external = scope && external.disposition = .discoveredUnowned

section Statements

variable {rows written : List DiscoveredExternalOrder} {external updated : DiscoveredExternalOrder}
  {expectedVersion : Int}

theorem insertDiscoveredExternalOrder_ok
    (h : insertDiscoveredExternalOrder rows external = .ok written) :
    getDiscoveredExternalOrder rows external.externalOrderId = none ∧
      written = rows ++ [external] := by
  unfold insertDiscoveredExternalOrder at h
  cases hFound : getDiscoveredExternalOrder rows external.externalOrderId with
  | some =>
    rw [hFound] at h
    cases h
  | none =>
    rw [hFound] at h
    dsimp only at h
    split at h
    · cases h
    · cases h
      exact ⟨rfl, rfl⟩

/-- An update that passes the version check replaces the stored row. -/
theorem updateDiscoveredExternalOrder_eq_ok_iff :
    updateDiscoveredExternalOrder rows external expectedVersion = .ok (written, updated) ↔
      (∃ current, getDiscoveredExternalOrder rows external.externalOrderId = some current ∧
        externalScope current = externalScope external ∧
        current.brokerOrderId = external.brokerOrderId ∧ current.version = expectedVersion) ∧
      updated = { external with version := expectedVersion + 1 } ∧
      written = store DiscoveredExternalOrder.externalOrderId updated rows := by
  unfold updateDiscoveredExternalOrder externalScope
  cases hFound : getDiscoveredExternalOrder rows external.externalOrderId with
  | none => simp
  | some =>
    dsimp only
    simp only [Option.some.injEq, exists_eq_left', Prod.mk.injEq]
    split
    next hFields =>
      refine iff_of_false (by simp) ?_
      rintro ⟨⟨⟨hEnvironment, hAccount, hSymbol⟩, hBroker, _⟩, _⟩
      simp [hEnvironment, hAccount, hSymbol, hBroker] at hFields
    next hFields =>
      simp only [not_or, not_not] at hFields
      split
      next hVersion =>
        refine iff_of_false (by simp) ?_
        rintro ⟨⟨_, _, hSame⟩, _⟩
        exact hVersion hSame
      next hVersion =>
        rw [not_not] at hVersion
        constructor
        · rintro ⟨⟩
          exact ⟨⟨⟨hFields.1, hFields.2.1, hFields.2.2.1⟩, hFields.2.2.2, hVersion⟩, rfl, rfl⟩
        · rintro ⟨_, rfl, rfl⟩
          rfl

end Statements

theorem isActiveUnowned_iff_unowned (scope : SymbolScope) {external : DiscoveredExternalOrder} :
    isActiveUnowned scope.1 scope.2.1 scope.2.2 external = true ↔
      isUnownedInScope scope external = true ∧ isBrokerTerminal external.brokerStatus = false := by
  obtain ⟨environment, accountNo, symbol⟩ := scope
  rw [isActiveUnowned_iff]
  simp [isUnownedInScope, externalScope, and_assoc]

theorem isActiveAdopted_iff (scope : SymbolScope) {order : ExecutionOrderRecord} :
    isActiveAdopted scope.1 scope.2.1 scope.2.2 "" order = true ↔
      order.origin = .userAdopted ∧ recordScope order = scope ∧
        order.status.isTerminal = false := by
  obtain ⟨environment, accountNo, symbol⟩ := scope
  have hBlank : strip "" = "" := by decide +kernel
  simp only [isActiveAdopted, recordScope, hBlank, ne_eq, not_true_eq_false, decide_false,
    Bool.false_and, Bool.not_false, Bool.and_true, Bool.and_eq_true, decide_eq_true_eq,
    Bool.not_eq_true', Prod.mk.injEq]
  tauto

end QuantApp.Services
