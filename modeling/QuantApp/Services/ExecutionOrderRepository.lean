import QuantApp.Core.ExecutionOrderRecord
import QuantApp.Verified.ExceptFold
import QuantApp.Verified.KeyedTable

/-!
# The order store

The statements of `src/services/execution_order_repository.py` over the
`execution_orders` table: unique `client_order_id`, at most one EXACT row for a
broker identity and at most one row for an adoption source, and updates under
a version check.
-/

namespace QuantApp.Services

open Core Verified

variable {rows written : List ExecutionOrderRecord} {record : ExecutionOrderRecord}

/-- `_identity_key_or_none`: `broker_identity_key`, a text of these three. -/
def identityKeyOrNone (record : ExecutionOrderRecord) : Option (String × String × String) :=
  if record.brokerIdentityStatus = .exact_ ∧ record.brokerOrderId ≠ "" then
    some (record.environment, record.accountNo, strip record.brokerOrderId)
  else none

def adoptionSourceOrNone (record : ExecutionOrderRecord) : Option String :=
  if record.adoptedFromExternalOrderId = "" then none
  else some record.adoptedFromExternalOrderId

/-- `get_execution_order` and `fetch_execution_order`. -/
def getExecutionOrder (rows : List ExecutionOrderRecord) (clientOrderId : String) :
    Option ExecutionOrderRecord :=
  lookup ExecutionOrderRecord.clientOrderId clientOrderId rows

/-- The row another order already holds this exact broker identity on. -/
def identityHolder (rows : List ExecutionOrderRecord) (record : ExecutionOrderRecord) :
    Option ExecutionOrderRecord :=
  match identityKeyOrNone record with
  | none => none
  | some key => rows.find? (fun row =>
    row.clientOrderId ≠ record.clientOrderId && identityKeyOrNone row = some key)

/-- The row another order already claims this adoption source on. -/
def adoptionHolder (rows : List ExecutionOrderRecord) (record : ExecutionOrderRecord) :
    Option ExecutionOrderRecord :=
  match adoptionSourceOrNone record with
  | none => none
  | some source => rows.find? (fun row =>
    row.clientOrderId ≠ record.clientOrderId && adoptionSourceOrNone row = some source)

def checkBrokerIdentityConflict (rows : List ExecutionOrderRecord)
    (record : ExecutionOrderRecord) : Except Raised Unit :=
  match identityHolder rows record with
  | none => .ok ()
  | some existing =>
    .error
      { cls := .brokerIdentityConflict
        message := "broker_order_id='" ++ record.brokerOrderId ++ "' is already EXACT on " ++
          "client_order_id='" ++ existing.clientOrderId ++ "' -- cannot also claim it on '" ++
          record.clientOrderId ++ "'" }

/-- `DuplicateExecutionOrderError`. -/
def duplicateExecutionOrder (record : ExecutionOrderRecord) : Raised :=
  { cls := .duplicateExecutionOrder
    message := "ExecutionOrderRecord for client_order_id='" ++ record.clientOrderId ++
      "' already exists" }

/-- The UNIQUE constraint on `adopted_from_external_order_id` at an insert, as
`_diagnose_and_raise_integrity_error` reports it. -/
def checkAdoptionSource (rows : List ExecutionOrderRecord) (record : ExecutionOrderRecord) :
    Except Raised Unit :=
  match adoptionHolder rows record with
  | none => .ok ()
  | some existing =>
    .error
      { cls := .duplicateAdoption
        message := "external_order_id='" ++ record.adoptedFromExternalOrderId ++
          "' was already adopted as client_order_id='" ++ existing.clientOrderId ++ "'" }

/-- The same constraint at an update.  The diagnosis looks for the row of the order first,
and an updated order has one. -/
def checkAdoptionSourceOfUpdate (rows : List ExecutionOrderRecord)
    (record : ExecutionOrderRecord) : Except Raised Unit :=
  match adoptionHolder rows record with
  | none => .ok ()
  | some _ => .error (duplicateExecutionOrder record)

def insertExecutionOrder (rows : List ExecutionOrderRecord) (record : ExecutionOrderRecord) :
    Except Raised (List ExecutionOrderRecord) := do
  validateConsistency record
  checkBrokerIdentityConflict rows record
  if (getExecutionOrder rows record.clientOrderId).isSome then
    .error (duplicateExecutionOrder record)
  else
    checkAdoptionSource rows record
    .ok (rows ++ [record])

/-- `update_execution_order`: the table and the record with its new version. -/
def updateExecutionOrder (rows : List ExecutionOrderRecord) (record : ExecutionOrderRecord)
    (expectedVersion : Int) :
    Except Raised (List ExecutionOrderRecord × ExecutionOrderRecord) := do
  validateConsistency record
  match getExecutionOrder rows record.clientOrderId with
  | none =>
    .error
      { cls := .executionOrderNotFound
        message := "No ExecutionOrderRecord for client_order_id='" ++ record.clientOrderId ++ "'" }
  | some current =>
    if current.environment ≠ record.environment ∨ current.accountNo ≠ record.accountNo ∨
        current.symbol ≠ record.symbol then
      .error
        { cls := .immutableFieldChanged
          message := "client_order_id='" ++ record.clientOrderId ++
            "': environment/account_no/symbol must not change after creation" }
    else if current.version ≠ expectedVersion then
      .error
        { cls := .executionOrderVersionConflict
          message := "client_order_id='" ++ record.clientOrderId ++
            "' version conflict (expected " ++ toString expectedVersion ++ ", stored " ++
            toString current.version ++ ")" }
    else
      checkBrokerIdentityConflict rows record
      checkAdoptionSourceOfUpdate rows record
      let written := { record with version := expectedVersion + 1 }
      .ok (store ExecutionOrderRecord.clientOrderId written rows, written)

/-! ## What a write changes -/

theorem insertExecutionOrder_ok (h : insertExecutionOrder rows record = .ok written) :
    record.Consistent ∧ getExecutionOrder rows record.clientOrderId = none ∧
      written = rows ++ [record] := by
  unfold insertExecutionOrder at h
  obtain ⟨_, hValid, h⟩ := bind_eq_ok.mp h
  obtain ⟨_, _, h⟩ := bind_eq_ok.mp h
  split at h
  · cases h
  · rename_i hAbsent
    obtain ⟨_, _, h⟩ := bind_eq_ok.mp h
    cases h
    rw [Bool.not_eq_true, Option.isSome_eq_false_iff, Option.isNone_iff_eq_none] at hAbsent
    exact ⟨(validateConsistency_eq_ok_iff record).mp hValid, hAbsent, rfl⟩

/-- An update that passes the version check replaces the stored row. -/
theorem updateExecutionOrder_ok {updated : ExecutionOrderRecord} {expectedVersion : Int}
    (h : updateExecutionOrder rows record expectedVersion = .ok (written, updated)) :
    record.Consistent ∧
      (∃ current, getExecutionOrder rows record.clientOrderId = some current ∧
        current.version = expectedVersion) ∧
      updated = { record with version := expectedVersion + 1 } ∧
      written = store ExecutionOrderRecord.clientOrderId updated rows := by
  unfold updateExecutionOrder at h
  obtain ⟨_, hValid, h⟩ := bind_eq_ok.mp h
  cases hFound : getExecutionOrder rows record.clientOrderId with
  | none =>
    rw [hFound] at h
    cases h
  | some current =>
    rw [hFound] at h
    dsimp only at h
    split at h
    · cases h
    split at h
    · cases h
    · rename_i hVersion
      obtain ⟨_, _, h⟩ := bind_eq_ok.mp h
      obtain ⟨_, _, h⟩ := bind_eq_ok.mp h
      cases h
      exact ⟨(validateConsistency_eq_ok_iff record).mp hValid,
        ⟨current, rfl, not_not.mp hVersion⟩, rfl, rfl⟩

end QuantApp.Services
