import QuantApp.Services.OrderPayload
import QuantApp.Verified.LabelledRuns

/-!
# The order store under concurrent writes

`insert_execution_order` and `update_execution_order`, one statement at a time, on the
columns and the payload of `execution_orders`.  Every statement sees the committed rows; a
write that goes through is committed at the same moment, since its row and its unique keys
are locked until then.  What a caller does with its transaction before and after is not
looked at: a call that is abandoned writes nothing.

The table is a map from client order ids to records: its successful writes, replayed one
after another, are what its rows read as.
-/

namespace QuantApp.Services

open Core Verified
open Function (update update_of_ne update_self)

variable {rows : OrderTable} {after state : OrderStoreState} {row : OrderRow}
  {expectedVersion : Int} {move : OrderStoreMove} {value : String} {phase : OrderWritePhase}
  {error : Raised} {violated : List OrderConstraint}

/-! ## Rows -/

/-- A row of the table: the columns, and the payload. -/
structure OrderRow where
  clientOrderId : String
  environment : String
  accountNo : String
  symbol : String
  status : String
  origin : String
  brokerIdentityStatus : String
  brokerOrderId : String
  brokerIdentityKey : Option String
  recoveryState : String
  adoptedFromExternalOrderId : Option String
  version : Int
  payload : StoredOrderPayload

def computeBrokerIdentityKey (environment accountNo brokerOrderId : String) : String :=
  upper environment ++ ":" ++ accountNo ++ ":" ++ strip brokerOrderId

/-- `_identity_key_or_none`, as the text the column holds. -/
def brokerIdentityKeyOrNone (record : DurableOrderRecord) : Option String :=
  if record.brokerIdentityStatus ≠ .exact_ ∨ record.brokerOrderId = "" then none
  else some
    (computeBrokerIdentityKey record.environment record.accountNo record.brokerOrderId)

def adoptionSource (record : DurableOrderRecord) : Option String :=
  adoptionSourceOrNone record.toExecutionOrderRecord

/-- The values an insert gives a row. -/
def insertedOrderRow (record : DurableOrderRecord) : OrderRow where
  clientOrderId := record.clientOrderId
  environment := record.environment
  accountNo := record.accountNo
  symbol := record.symbol
  status := record.status.value
  origin := record.origin.value
  brokerIdentityStatus := record.brokerIdentityStatus.value
  brokerOrderId := record.brokerOrderId
  brokerIdentityKey := brokerIdentityKeyOrNone record
  recoveryState := record.recoveryState.value
  adoptedFromExternalOrderId := adoptionSource record
  version := record.version
  payload := recordToPayload record

/-- The values an update gives a row; the identity columns stay. -/
def updatedOrderRow (row : OrderRow) (record : DurableOrderRecord) (nextVersion : Int) : OrderRow :=
  { row with
    status := record.status.value
    origin := record.origin.value
    brokerIdentityStatus := record.brokerIdentityStatus.value
    brokerOrderId := record.brokerOrderId
    brokerIdentityKey := brokerIdentityKeyOrNone record
    recoveryState := record.recoveryState.value
    adoptedFromExternalOrderId := adoptionSource record
    version := nextVersion
    payload := { recordToPayload record with version := nextVersion } }

abbrev OrderTable := List OrderRow

def findRow (rows : OrderTable) (clientOrderId : String) : Option OrderRow :=
  lookup OrderRow.clientOrderId clientOrderId rows

/-! ## Constraints -/

/-- The unique constraints of the table. -/
inductive OrderConstraint
  | clientOrderId
  | brokerIdentityKey
  | adoptedFrom
  deriving DecidableEq, Repr

/-- The exception that stands for a violated constraint. -/
def OrderConstraint.exception : OrderConstraint → ExceptionClass
  | .clientOrderId => .duplicateExecutionOrder
  | .brokerIdentityKey => .brokerIdentityConflict
  | .adoptedFrom => .duplicateAdoption

/-- A row that the selects of the diagnosis look for. -/
def OrderConstraint.holder (constraint : OrderConstraint) (rows : OrderTable)
    (record : DurableOrderRecord) : Option OrderRow :=
  match constraint with
  | .clientOrderId => findRow rows record.clientOrderId
  | .brokerIdentityKey =>
    match brokerIdentityKeyOrNone record with
    | none => none
    | some key => rows.find? (fun row => row.brokerIdentityKey = some key)
  | .adoptedFrom =>
    match adoptionSource record with
    | none => none
    | some source => rows.find? (fun row => row.adoptedFromExternalOrderId = some source)

/-- The rows other than the record's own. -/
def otherRows (rows : OrderTable) (record : DurableOrderRecord) : OrderTable :=
  rows.filter (fun row => row.clientOrderId ≠ record.clientOrderId)

def orderConstraints : List OrderConstraint := [.clientOrderId, .brokerIdentityKey, .adoptedFrom]

/-- The constraints an insert of the record violates. -/
def violatedByInsert (rows : OrderTable) (record : DurableOrderRecord) : List OrderConstraint :=
  orderConstraints.filter (fun constraint => (constraint.holder rows record).isSome)

/-- The constraints an update of the record's row violates. -/
def violatedByUpdate (rows : OrderTable) (record : DurableOrderRecord) : List OrderConstraint :=
  orderConstraints.filter
    (fun constraint => (constraint.holder (otherRows rows record) record).isSome)

/-! ## Calls -/

inductive OrderWriteCall
  | insert (record : DurableOrderRecord)
  | update (record : DurableOrderRecord) (expectedVersion : Int)
  deriving DecidableEq

def OrderWriteCall.record : OrderWriteCall → DurableOrderRecord
  | insert record => record
  | update record _ => record

/-- Where a call stands: at the read of the current row, at the pre-check, at the write, or
at one of the selects that look for the constraint a write has violated. -/
inductive OrderWritePhase
  | readsCurrent
  | checksIdentity
  | writes
  | diagnoses (constraint : OrderConstraint) (violated : List OrderConstraint)
  deriving DecidableEq

/-- How a call ended.  `replaced` is the row an update has written over, `written` the
record as it is stored, `callerVersion` the version of the caller's record afterwards,
`violated` what the failed write violated. -/
structure OrderWriteReport where
  call : OrderWriteCall
  result : Except Raised Unit
  replaced : Option OrderRow := none
  written : Option DurableOrderRecord := none
  callerVersion : Int
  violated : List OrderConstraint := []

structure OrderStoreState where
  rows : OrderTable
  calls : Nat → Option (OrderWriteCall × OrderWritePhase) := fun _ => none
  reports : List OrderWriteReport := []

namespace OrderStoreState

def goOn (state : OrderStoreState) (thread : Nat) (call : OrderWriteCall)
    (phase : OrderWritePhase) : OrderStoreState :=
  { state with calls := Function.update state.calls thread (some (call, phase)) }

/-- A call that raises: nothing is written and the caller's record is as it was. -/
def raised (state : OrderStoreState) (thread : Nat) (call : OrderWriteCall) (error : Raised)
    (violated : List OrderConstraint) : OrderStoreState :=
  { state with
    calls := Function.update state.calls thread none
    reports :=
      { call := call
        result := .error error
        callerVersion := call.record.version
        violated := violated } :: state.reports }

/-- A call that has written. -/
def stored (state : OrderStoreState) (thread : Nat) (call : OrderWriteCall) (rows : OrderTable)
    (replaced : Option OrderRow) (written : DurableOrderRecord) : OrderStoreState :=
  { rows := rows
    calls := Function.update state.calls thread none
    reports :=
      { call := call
        result := .ok ()
        replaced := replaced
        written := some written
        callerVersion := written.version } :: state.reports }

end OrderStoreState

/-- The record as it is stored under a version. -/
def storedRecord (record : DurableOrderRecord) (version : Int) : DurableOrderRecord :=
  { record with
    version := version
    adoptionPermissions := sortedPermissions record.adoptionPermissions }

def integrityError : Raised :=
  { cls := .databaseError, message := "a unique constraint was violated" }

def orderNotFound (record : DurableOrderRecord) : Raised :=
  { cls := .executionOrderNotFound
    message := "No ExecutionOrderRecord for client_order_id='" ++ record.clientOrderId ++ "'" }

def immutableFieldChanged (record : DurableOrderRecord) : Raised :=
  { cls := .immutableFieldChanged
    message := "client_order_id='" ++ record.clientOrderId ++
      "': environment/account_no/symbol must not change after creation" }

def orderVersionConflict (record : DurableOrderRecord) (detail : String) : Raised :=
  { cls := .executionOrderVersionConflict
    message := "client_order_id='" ++ record.clientOrderId ++ "' version conflict (" ++ detail ++
      ")" }

/-- `_diagnose_and_raise_integrity_error` on the row one of its selects has found. -/
def OrderConstraint.raised (constraint : OrderConstraint) (record : DurableOrderRecord)
    (holder : OrderRow) : Raised :=
  match constraint with
  | .clientOrderId => duplicateExecutionOrder record.toExecutionOrderRecord
  | .brokerIdentityKey =>
    { cls := .brokerIdentityConflict
      message := "broker_order_id='" ++ record.brokerOrderId ++ "' is already EXACT on " ++
        "client_order_id='" ++ holder.clientOrderId ++ "'" }
  | .adoptedFrom =>
    { cls := .duplicateAdoption
      message := "external_order_id='" ++ record.adoptedFromExternalOrderId ++
        "' was already adopted as client_order_id='" ++ holder.clientOrderId ++ "'" }

/-- The pre-check's refusal. -/
def identityTaken (record : DurableOrderRecord) (holder : OrderRow) : Raised :=
  { cls := .brokerIdentityConflict
    message := "broker_order_id='" ++ record.brokerOrderId ++ "' is already EXACT on " ++
      "client_order_id='" ++ holder.clientOrderId ++ "' -- cannot also claim it on '" ++
      record.clientOrderId ++ "'" }

/-- The constraint the diagnosis looks at next. -/
def OrderConstraint.following : OrderConstraint → Option OrderConstraint
  | .clientOrderId => some .brokerIdentityKey
  | .brokerIdentityKey => some .adoptedFrom
  | .adoptedFrom => none

namespace OrderStoreState

/-- `INSERT`. -/
def insertStatement (state : OrderStoreState) (thread : Nat) (record : DurableOrderRecord) :
    OrderStoreState :=
  let violated := violatedByInsert state.rows record
  if violated = [] then
    state.stored thread (.insert record) (state.rows ++ [insertedOrderRow record]) none
      (storedRecord record record.version)
  else state.goOn thread (.insert record) (.diagnoses .clientOrderId violated)

/-- `UPDATE .. WHERE version = expected_version`. -/
def updateStatement (state : OrderStoreState) (thread : Nat) (record : DurableOrderRecord)
    (expectedVersion : Int) : OrderStoreState :=
  match (findRow state.rows record.clientOrderId).filter (fun row =>
      row.version = expectedVersion) with
  | none =>
    state.raised thread (.update record expectedVersion)
      (orderVersionConflict record ("row changed concurrently after version " ++
        toString expectedVersion ++ " was read")) []
  | some row =>
    let violated := violatedByUpdate state.rows record
    if violated = [] then
      state.stored thread (.update record expectedVersion)
        (store OrderRow.clientOrderId (updatedOrderRow row record (expectedVersion + 1)) state.rows)
        (some row) (storedRecord record (expectedVersion + 1))
    else state.goOn thread (.update record expectedVersion) (.diagnoses .clientOrderId violated)

/-- The read of the current row at the start of an update. -/
def readCurrent (state : OrderStoreState) (thread : Nat) (record : DurableOrderRecord)
    (expectedVersion : Int) : OrderStoreState :=
  let call : OrderWriteCall := .update record expectedVersion
  match findRow state.rows record.clientOrderId with
  | none => state.raised thread call (orderNotFound record) []
  | some current =>
    if current.environment ≠ record.environment ∨ current.accountNo ≠ record.accountNo ∨
        current.symbol ≠ record.symbol then
      state.raised thread call (immutableFieldChanged record) []
    else if current.version ≠ expectedVersion then
      state.raised thread call (orderVersionConflict record ("expected " ++
        toString expectedVersion ++ ", stored " ++ toString current.version)) []
    else state.goOn thread call .checksIdentity

/-- The next statement of a call. -/
def statement (state : OrderStoreState) (thread : Nat) : Option OrderStoreState :=
  match state.calls thread with
  | none => none
  | some (.insert _, .readsCurrent) => none
  | some (.update record expectedVersion, .readsCurrent) =>
    some (state.readCurrent thread record expectedVersion)
  | some (call, .checksIdentity) =>
    match OrderConstraint.brokerIdentityKey.holder (otherRows state.rows call.record)
        call.record with
    | some holder => some (state.raised thread call (identityTaken call.record holder) [])
    | none => some (state.goOn thread call .writes)
  | some (.insert record, .writes) => some (state.insertStatement thread record)
  | some (.update record expectedVersion, .writes) =>
    some (state.updateStatement thread record expectedVersion)
  | some (call, .diagnoses constraint violated) =>
    match constraint.holder state.rows call.record with
    | some holder =>
      some (state.raised thread call (constraint.raised call.record holder) violated)
    | none =>
      match constraint.following with
      | some next => some (state.goOn thread call (.diagnoses next violated))
      | none => some (state.raised thread call integrityError violated)

/-- A call begins: an inconsistent record is refused before any statement. -/
def enter (state : OrderStoreState) (thread : Nat) (call : OrderWriteCall) :
    Option OrderStoreState :=
  match state.calls thread with
  | some _ => none
  | none =>
    match validateConsistency call.record.toExecutionOrderRecord with
    | .error error => some (state.raised thread call error [])
    | .ok () =>
      match call with
      | .insert _ => some (state.goOn thread call .checksIdentity)
      | .update _ _ => some (state.goOn thread call .readsCurrent)

/-- The transaction of a call ends before its write. -/
def abandon (state : OrderStoreState) (thread : Nat) : OrderStoreState :=
  { state with calls := Function.update state.calls thread none }

end OrderStoreState

inductive OrderStoreMove
  | enter (thread : Nat) (call : OrderWriteCall)
  | statement (thread : Nat)
  | abandon (thread : Nat)

def OrderStoreMove.next (move : OrderStoreMove) (state : OrderStoreState) :
    Option OrderStoreState :=
  match move with
  | .enter thread call => state.enter thread call
  | .statement thread => state.statement thread
  | .abandon thread => some (state.abandon thread)

def OrderStoreStep (before : OrderStoreState) (move : OrderStoreMove) (after : OrderStoreState) :
    Prop :=
  move.next before = some after

/-! ## What the table is -/

/-- The row stands for the record: it is read back as the record, and its columns are the
record's fields. -/
structure Stands (row : OrderRow) (record : DurableOrderRecord) : Prop where
  read : payloadToRecord row.payload = .ok record
  clientOrderId : row.clientOrderId = record.clientOrderId
  environment : row.environment = record.environment
  accountNo : row.accountNo = record.accountNo
  symbol : row.symbol = record.symbol
  status : row.status = record.status.value
  origin : row.origin = record.origin.value
  brokerIdentityStatus : row.brokerIdentityStatus = record.brokerIdentityStatus.value
  brokerOrderId : row.brokerOrderId = record.brokerOrderId
  brokerIdentityKey : row.brokerIdentityKey = brokerIdentityKeyOrNone record
  recoveryState : row.recoveryState = record.recoveryState.value
  adoptedFrom : row.adoptedFromExternalOrderId = adoptionSource record
  version : row.version = record.version
  payloadVersion : row.payload.version = row.version
  exactly : record.brokerIdentityStatus = .exact_ → record.brokerOrderId ≠ ""

/-- No two rows hold the same value of a nullable unique column. -/
def Distinct (column : OrderRow → Option String) (rows : OrderTable) : Prop :=
  ∀ row ∈ rows, ∀ other ∈ rows, ∀ value, column row = some value → column other = some value →
    row.clientOrderId = other.clientOrderId

structure SoundTable (rows : OrderTable) : Prop where
  keyed : Keyed OrderRow.clientOrderId rows
  stands : ∀ row ∈ rows, ∃ record, Stands row record
  identity : Distinct OrderRow.brokerIdentityKey rows
  adoption : Distinct OrderRow.adoptedFromExternalOrderId rows

theorem soundTable_nil : SoundTable [] := by
  constructor
  · exact List.nodup_nil
  all_goals
    intro row hRow
    cases hRow

/-- What the table reads as. -/
abbrev OrderMap := String → Option DurableOrderRecord

def readMap (rows : OrderTable) : OrderMap := fun id =>
  (findRow rows id).bind (fun row => (payloadToRecord row.payload).toOption)

/-- The successful writes of a history, one after another, the latest first. -/
def replay (start : OrderMap) : List OrderWriteReport → OrderMap
  | [] => start
  | report :: earlier =>
    match report.written with
    | none => replay start earlier
    | some record =>
      Function.update (replay start earlier) record.clientOrderId (some record)

section Claims

variable {column : OrderRow → Option String} {rows : OrderTable} {row : OrderRow}

theorem Distinct.insert (h : Distinct column rows)
    (hFree : ∀ value, column row = some value → ∀ other ∈ rows, column other ≠ some value) :
    Distinct column (rows ++ [row]) := by
  apply forall_mem_concat
  · intro first hFirst
    exact forall_mem_concat (h first hFirst) fun value hValue hSame =>
      absurd hValue (hFree value hSame first hFirst)
  · exact forall_mem_concat (fun second hSecond value hValue hSame =>
      absurd hSame (hFree value hValue second hSecond)) fun _ _ _ => rfl

theorem Distinct.store (h : Distinct column rows)
    (hFree : ∀ value, column row = some value → ∀ other ∈ rows,
      other.clientOrderId ≠ row.clientOrderId → column other ≠ some value) :
    Distinct column (store OrderRow.clientOrderId row rows) := by
  have hNew : ∀ other ∈ rows, ∀ value, column row = some value → column other = some value →
      other.clientOrderId = row.clientOrderId := by
    intro other hOther value hValue hSame
    by_contra hNe
    exact hFree value hValue other hOther hNe hSame
  apply forall_mem_store
  · intro first hFirst
    exact forall_mem_store (h first hFirst) fun value hValue hSame =>
      hNew first hFirst value hSame hValue
  · exact forall_mem_store (fun second hSecond value hValue hSame =>
      (hNew second hSecond value hValue hSame).symm) fun _ _ _ => rfl

end Claims

section Constraints

variable {rows : OrderTable} {record : DurableOrderRecord}

theorem mem_orderConstraints (constraint : OrderConstraint) : constraint ∈ orderConstraints := by
  cases constraint <;> decide

theorem violatedByInsert_eq_nil_iff :
    violatedByInsert rows record = [] ↔ ∀ constraint : OrderConstraint,
      constraint.holder rows record = none := by
  simp [violatedByInsert, List.filter_eq_nil_iff, mem_orderConstraints]

theorem violatedByUpdate_eq_nil_iff :
    violatedByUpdate rows record = [] ↔ ∀ constraint : OrderConstraint,
      constraint.holder (otherRows rows record) record = none := by
  simp [violatedByUpdate, List.filter_eq_nil_iff, mem_orderConstraints]

theorem identity_free (h : OrderConstraint.brokerIdentityKey.holder rows record = none)
    (hValue : brokerIdentityKeyOrNone record = some value) :
    ∀ row ∈ rows, row.brokerIdentityKey ≠ some value := by
  intro row hRow hSame
  unfold OrderConstraint.holder at h
  rw [hValue] at h
  have hNone := List.find?_eq_none.mp h row hRow
  simp [hSame] at hNone

theorem adoption_free (h : OrderConstraint.adoptedFrom.holder rows record = none)
    (hValue : adoptionSource record = some value) :
    ∀ row ∈ rows, row.adoptedFromExternalOrderId ≠ some value := by
  intro row hRow hSame
  unfold OrderConstraint.holder at h
  rw [hValue] at h
  have hNone := List.find?_eq_none.mp h row hRow
  simp [hSame] at hNone

theorem mem_otherRows (hRow : row ∈ rows) (hOther : row.clientOrderId ≠ record.clientOrderId) :
    row ∈ otherRows rows record :=
  List.mem_filter.mpr ⟨hRow, by simpa using hOther⟩

end Constraints

/-! ## Writes -/

/-- What a call needs to be read back: its record is as the constructor leaves it, and the
version it writes is not zero. -/
structure OrderWriteCall.Plain (call : OrderWriteCall) : Prop where
  normal : call.record.Normal
  version : (match call with
    | .insert record => record.version
    | .update _ expectedVersion => expectedVersion + 1) ≠ 0

open OrderWriteCall (insert update)

variable {record : DurableOrderRecord}

/-- The identity columns of the row are the record's fields. -/
structure SameScope (row : OrderRow) (record : DurableOrderRecord) : Prop where
  clientOrderId : row.clientOrderId = record.clientOrderId
  environment : row.environment = record.environment
  accountNo : row.accountNo = record.accountNo
  symbol : row.symbol = record.symbol

/-- A row written over one of the same scope stands for the record under the new version. -/
theorem stands_updated {version : Int} (hRecord : record.Normal) (hVersion : version ≠ 0)
    (hConsistent : record.toExecutionOrderRecord.Consistent) (hScope : SameScope row record) :
    Stands (updatedOrderRow row record version) (storedRecord record version) := by
  have hNormal : ({ record with version := version } : DurableOrderRecord).Normal :=
    { hRecord with }
  obtain ⟨read, hRead, hSame⟩ := payloadToRecord_recordToPayload hNormal
    (hConsistent.versioned version) hVersion
  exact
    { hScope with
      read := by
        rw [hSame.fields] at hRead
        exact hRead
      status := rfl
      origin := rfl
      brokerIdentityStatus := rfl
      brokerOrderId := rfl
      brokerIdentityKey := rfl
      recoveryState := rfl
      adoptedFrom := rfl
      version := rfl
      payloadVersion := rfl
      exactly := hRecord.exactly }

theorem stands_inserted (hPlain : (insert record).Plain)
    (hConsistent : record.toExecutionOrderRecord.Consistent) :
    Stands (insertedOrderRow record) (storedRecord record record.version) := by
  have hScope : SameScope (insertedOrderRow record) record := ⟨rfl, rfl, rfl, rfl⟩
  have hStands := stands_updated hPlain.normal hPlain.version hConsistent hScope
  exact hStands

section Tables

variable {rows : OrderTable} {record : DurableOrderRecord}

theorem SoundTable.inserted (h : SoundTable rows) (hPlain : (insert record).Plain)
    (hConsistent : record.toExecutionOrderRecord.Consistent)
    (hFree : violatedByInsert rows record = []) :
    SoundTable (rows ++ [insertedOrderRow record]) := by
  have hNone := violatedByInsert_eq_nil_iff.mp hFree
  have hFresh : record.clientOrderId ∉ rows.map OrderRow.clientOrderId :=
    lookup_eq_none_iff.mp (hNone .clientOrderId)
  constructor
  · exact h.keyed.append_fresh hFresh
  · exact forall_mem_concat h.stands ⟨_, stands_inserted hPlain hConsistent⟩
  · apply h.identity.insert
    intro value hValue
    exact identity_free (hNone .brokerIdentityKey) hValue
  · apply h.adoption.insert
    intro value hValue
    exact adoption_free (hNone .adoptedFrom) hValue

theorem readMap_inserted (hPlain : (insert record).Plain)
    (hConsistent : record.toExecutionOrderRecord.Consistent)
    (hFree : violatedByInsert rows record = []) :
    readMap (rows ++ [insertedOrderRow record]) =
      update (readMap rows) record.clientOrderId
        (some (storedRecord record record.version)) := by
  have hNone : findRow rows record.clientOrderId = none :=
    violatedByInsert_eq_nil_iff.mp hFree .clientOrderId
  funext id
  unfold readMap findRow
  rw [lookup_append]
  by_cases hId : id = record.clientOrderId
  · subst hId
    unfold findRow at hNone
    rw [hNone, Option.none_or, update_self]
    have hNew : lookup OrderRow.clientOrderId record.clientOrderId [insertedOrderRow record] =
        some (insertedOrderRow record) := by simp [lookup, insertedOrderRow]
    rw [hNew]
    show (payloadToRecord (insertedOrderRow record).payload).toOption = _
    rw [(stands_inserted hPlain hConsistent).read]
    rfl
  · rw [update_of_ne hId]
    have hOther : lookup OrderRow.clientOrderId id [insertedOrderRow record] = none := by
      have hNe : ¬ record.clientOrderId = id := fun hSame => hId hSame.symm
      simp [lookup, insertedOrderRow, hNe]
    rw [hOther, Option.or_none]

variable {row : OrderRow} {expectedVersion : Int}

theorem SoundTable.updated (h : SoundTable rows)
    (hPlain : (update record expectedVersion).Plain)
    (hConsistent : record.toExecutionOrderRecord.Consistent) (hScope : SameScope row record)
    (hFree : violatedByUpdate rows record = []) :
    SoundTable (store OrderRow.clientOrderId (updatedOrderRow row record (expectedVersion + 1))
      rows) := by
  have hNone := violatedByUpdate_eq_nil_iff.mp hFree
  have hId : (updatedOrderRow row record (expectedVersion + 1)).clientOrderId =
      record.clientOrderId := hScope.clientOrderId
  constructor
  · exact h.keyed.store
  · exact forall_mem_store h.stands
      ⟨_, stands_updated hPlain.normal hPlain.version hConsistent hScope⟩
  · apply h.identity.store
    intro value hValue other hOther hNe
    rw [hId] at hNe
    exact identity_free (hNone .brokerIdentityKey) hValue other (mem_otherRows hOther hNe)
  · apply h.adoption.store
    intro value hValue other hOther hNe
    rw [hId] at hNe
    exact adoption_free (hNone .adoptedFrom) hValue other (mem_otherRows hOther hNe)

theorem readMap_updated (hPlain : (OrderWriteCall.update record expectedVersion).Plain)
    (hConsistent : record.toExecutionOrderRecord.Consistent) (hScope : SameScope row record)
    (hFound : findRow rows record.clientOrderId = some row) :
    readMap (store OrderRow.clientOrderId (updatedOrderRow row record (expectedVersion + 1)) rows) =
      update (readMap rows) record.clientOrderId
        (some (storedRecord record (expectedVersion + 1))) := by
  have hId : (updatedOrderRow row record (expectedVersion + 1)).clientOrderId =
      record.clientOrderId := hScope.clientOrderId
  funext id
  unfold readMap
  by_cases hSame : id = record.clientOrderId
  · subst hSame
    rw [update_self]
    have hNew : findRow (store OrderRow.clientOrderId
        (updatedOrderRow row record (expectedVersion + 1)) rows) record.clientOrderId =
        some (updatedOrderRow row record (expectedVersion + 1)) := by
      unfold findRow at hFound ⊢
      rw [← hId] at hFound ⊢
      exact lookup_store_self hFound
    rw [hNew]
    show (payloadToRecord (updatedOrderRow row record (expectedVersion + 1)).payload).toOption = _
    have hStands : Stands (updatedOrderRow row record (expectedVersion + 1)) _ :=
      stands_updated hPlain.normal hPlain.version hConsistent hScope
    rw [hStands.read]
    rfl
  · rw [update_of_ne hSame]
    have hOther : findRow (store OrderRow.clientOrderId
        (updatedOrderRow row record (expectedVersion + 1)) rows) id = findRow rows id := by
      apply lookup_store_of_ne
      rw [hId]
      exact hSame
    rw [hOther]

end Tables

/-! ## Runs -/

/-- The rows stay, and so do their identity columns. -/
def KeepsScope (rows rows' : OrderTable) : Prop :=
  ∀ id row, findRow rows id = some row → ∃ row', findRow rows' id = some row' ∧
    row'.environment = row.environment ∧ row'.accountNo = row.accountNo ∧ row'.symbol = row.symbol

theorem keepsScope_refl (rows : OrderTable) : KeepsScope rows rows :=
  fun _ row hRow => ⟨row, hRow, rfl, rfl, rfl⟩

theorem KeepsScope.trans {first second third : OrderTable} (h : KeepsScope first second)
    (h' : KeepsScope second third) : KeepsScope first third := by
  intro id row hRow
  obtain ⟨row', hRow', hEnvironment, hAccount, hSymbol⟩ := h id row hRow
  obtain ⟨row'', hRow'', hEnvironment', hAccount', hSymbol'⟩ := h' id row' hRow'
  exact ⟨row'', hRow'', hEnvironment'.trans hEnvironment, hAccount'.trans hAccount,
    hSymbol'.trans hSymbol⟩

theorem keepsScope_insert (rows : OrderTable) (row : OrderRow) :
    KeepsScope rows (rows ++ [row]) := by
  intro id found hFound
  refine ⟨found, ?_, rfl, rfl, rfl⟩
  unfold findRow at hFound ⊢
  rw [lookup_append, hFound]
  rfl

theorem keepsScope_update (nextVersion : Int)
    (hFound : findRow rows record.clientOrderId = some row) :
    KeepsScope rows
      (store OrderRow.clientOrderId (updatedOrderRow row record nextVersion) rows) := by
  have hId : row.clientOrderId = record.clientOrderId := lookup_key hFound
  intro id found hRow
  by_cases hSame : id = record.clientOrderId
  · subst hSame
    rw [hFound] at hRow
    cases hRow
    refine ⟨updatedOrderRow row record nextVersion, ?_, rfl, rfl, rfl⟩
    have hKey : (updatedOrderRow row record nextVersion).clientOrderId = record.clientOrderId := hId
    unfold findRow at hFound ⊢
    rw [← hKey] at hFound ⊢
    exact lookup_store_self hFound
  · refine ⟨found, ?_, rfl, rfl, rfl⟩
    rw [← hRow]
    apply lookup_store_of_ne
    show id ≠ row.clientOrderId
    rw [hId]
    exact hSame

/-- What the rest of the diagnosis can still find. -/
def OrderConstraint.remaining : OrderConstraint → List OrderConstraint
  | .clientOrderId => orderConstraints
  | .brokerIdentityKey => [.brokerIdentityKey, .adoptedFrom]
  | .adoptedFrom => [.adoptedFrom]

/-- The row of the record is there, with the record's identity. -/
def ScopeThere (rows : OrderTable) (record : DurableOrderRecord) : Prop :=
  ∃ row, findRow rows record.clientOrderId = some row ∧ SameScope row record

/-- What holds between two statements of a call. -/
structure PhaseStands (rows : OrderTable) (call : OrderWriteCall) (phase : OrderWritePhase) :
    Prop where
  plain : call.Plain
  consistent : call.record.toExecutionOrderRecord.Consistent
  scope : ∀ record expectedVersion, call = .update record expectedVersion →
    phase ≠ .readsCurrent → ScopeThere rows record
  diagnosed : ∀ constraint violated, phase = .diagnoses constraint violated →
    violated ≠ [] ∧ (∃ record, call = .insert record) ∧
      ∀ other ∈ violated, other ∈ constraint.remaining

/-- The version a call writes: an insert its record's, an update the one after the version
of the row it replaces, which is the expected one. -/
def OrderWriteCall.Writes (call : OrderWriteCall) (replaced : Option OrderRow)
    (version : Int) : Prop :=
  match call with
  | .insert record => version = record.version
  | .update _ expectedVersion => version = expectedVersion + 1 ∧
      ∃ row, replaced = some row ∧ row.version = expectedVersion

/-- A success has stored the record under the version after the one it expected, a failure
has stored nothing and raises what it has violated. -/
def OrderWriteReport.Right (report : OrderWriteReport) : Prop :=
  match report.result with
  | .ok () =>
    report.written = some (storedRecord report.call.record report.callerVersion) ∧
      report.call.Writes report.replaced report.callerVersion
  | .error error =>
    report.written = none ∧ report.callerVersion = report.call.record.version ∧
      (report.violated ≠ [] → ∃ constraint ∈ report.violated, error.cls = constraint.exception) ∧
      (report.violated = [] → error.cls ≠ .duplicateExecutionOrder ∧ error.cls ≠ .duplicateAdoption)

structure StoreKept (start : OrderMap) (state : OrderStoreState) : Prop where
  table : SoundTable state.rows
  places : ∀ thread call phase, state.calls thread = some (call, phase) →
    PhaseStands state.rows call phase
  map : readMap state.rows = replay start state.reports
  reports : ∀ report ∈ state.reports, report.Right

theorem PhaseStands.keeps {rows' : OrderTable} {call : OrderWriteCall}
    (h : PhaseStands rows call phase) (hKeeps : KeepsScope rows rows') :
    PhaseStands rows' call phase where
  plain := h.plain
  consistent := h.consistent
  scope := by
    intro record expectedVersion hCall hPhase
    obtain ⟨row, hRow, hScope⟩ := h.scope record expectedVersion hCall hPhase
    obtain ⟨row', hRow', hEnvironment, hAccount, hSymbol⟩ := hKeeps _ row hRow
    exact ⟨row', hRow', lookup_key hRow', hEnvironment.trans hScope.environment,
      hAccount.trans hScope.accountNo, hSymbol.trans hScope.symbol⟩
  diagnosed := h.diagnosed

section Steps

variable {start : OrderMap} {state : OrderStoreState} {thread : Nat} {call : OrderWriteCall}

section

variable (h : StoreKept start state)
include h

theorem StoreKept.placed {place : Option (OrderWriteCall × OrderWritePhase)}
    (hKeeps : KeepsScope state.rows rows)
    (hPlace : ∀ call phase, place = some (call, phase) → PhaseStands rows call phase) (other : Nat)
    (called : OrderWriteCall) (phase : OrderWritePhase)
    (hOther : update state.calls thread place other = some (called, phase)) :
    PhaseStands rows called phase := by
  by_cases hSelf : other = thread
  · subst hSelf
    rw [update_self] at hOther
    exact hPlace called phase hOther
  · rw [update_of_ne hSelf] at hOther
    exact (h.places other called phase hOther).keeps hKeeps

theorem StoreKept.goesOn (hPhase : PhaseStands state.rows call phase) :
    StoreKept start (state.goOn thread call phase) where
  table := h.table
  places := by
    apply h.placed (keepsScope_refl _)
    intro called found hFound
    cases hFound
    exact hPhase
  map := h.map
  reports := h.reports

theorem StoreKept.raises
    (hViolated : violated ≠ [] → ∃ constraint ∈ violated, error.cls = constraint.exception)
    (hNone : violated = [] → error.cls ≠ .duplicateExecutionOrder ∧
      error.cls ≠ .duplicateAdoption) :
    StoreKept start (state.raised thread call error violated) where
  table := h.table
  places := by
    apply h.placed (keepsScope_refl _)
    intro called found hFound
    cases hFound
  map := h.map
  reports := by
    refine List.forall_mem_cons.mpr ⟨?_, h.reports⟩
    exact ⟨rfl, rfl, hViolated, hNone⟩

theorem StoreKept.refuses
    (hClass : error.cls ≠ .duplicateExecutionOrder ∧ error.cls ≠ .duplicateAdoption) :
    StoreKept start (state.raised thread call error []) :=
  h.raises (fun hNot => absurd rfl hNot) (fun _ => hClass)

theorem StoreKept.stores {replaced : Option OrderRow} {version : Int}
    (hKeeps : KeepsScope state.rows rows) (hTable : SoundTable rows)
    (hMap : readMap rows = update (readMap state.rows) call.record.clientOrderId (some
      (storedRecord call.record version)))
    (hCall : call.Writes replaced version) :
    StoreKept start (state.stored thread call rows replaced
      (storedRecord call.record version)) where
  table := hTable
  places := by
    apply h.placed hKeeps
    intro called found hFound
    cases hFound
  map := by
    show readMap rows = update (replay start state.reports) call.record.clientOrderId
      (some (storedRecord call.record version))
    rw [hMap, h.map]
  reports := by
    refine List.forall_mem_cons.mpr ⟨?_, h.reports⟩
    exact ⟨rfl, hCall⟩

end

/-! ### The statements -/

variable (h : StoreKept start state)
include h

theorem StoreKept.readsCurrent
    (hPhase : PhaseStands state.rows (.update record expectedVersion) .readsCurrent) :
    StoreKept start (state.readCurrent thread record expectedVersion) := by
  unfold OrderStoreState.readCurrent
  dsimp only
  cases hFound : findRow state.rows record.clientOrderId with
  | none => exact h.refuses (by simp [orderNotFound])
  | some current =>
    dsimp only
    split
    · exact h.refuses (by simp [immutableFieldChanged])
    next hScope =>
      split
      · exact h.refuses (by simp [orderVersionConflict])
      · simp only [not_or, not_not] at hScope
        apply h.goesOn
        refine ⟨hPhase.plain, hPhase.consistent, ?_, ?_⟩
        · intro found expected hCall _
          cases hCall
          exact ⟨current, hFound, lookup_key hFound, hScope.1, hScope.2.1, hScope.2.2⟩
        · intro constraint violated hDiagnoses
          cases hDiagnoses

theorem StoreKept.checksIdentity (hPhase : PhaseStands state.rows call .checksIdentity)
    (hPlace : state.calls thread = some (call, .checksIdentity))
    (hNext : state.statement thread = some after) : StoreKept start after := by
  unfold OrderStoreState.statement at hNext
  rw [hPlace] at hNext
  have hStays : PhaseStands state.rows call .writes := by
    refine ⟨hPhase.plain, hPhase.consistent, ?_, ?_⟩
    · intro record expectedVersion hCall _
      exact hPhase.scope record expectedVersion hCall (by decide)
    · intro constraint violated hDiagnoses
      cases hDiagnoses
  have hCases : after = state.goOn thread call .writes ∨
      ∃ holder, after = state.raised thread call (identityTaken call.record holder) [] := by
    cases call with
    | insert | update =>
      dsimp only at hNext
      split at hNext
      · exact Or.inr ⟨_, (Option.some.inj hNext).symm⟩
      · exact Or.inl (Option.some.inj hNext).symm
  cases hCases with
  | inl hGoes =>
    rw [hGoes]
    exact h.goesOn hStays
  | inr hTaken =>
    obtain ⟨holder, hTaken⟩ := hTaken
    rw [hTaken]
    exact h.refuses (by simp [identityTaken])

theorem StoreKept.inserts
    (hPhase : PhaseStands state.rows (.insert record) .writes) :
    StoreKept start (state.insertStatement thread record) := by
  unfold OrderStoreState.insertStatement
  dsimp only
  by_cases hFree : violatedByInsert state.rows record = []
  · rw [if_pos hFree]
    have hMap := readMap_inserted hPhase.plain hPhase.consistent hFree
    exact h.stores (keepsScope_insert _ _) (h.table.inserted hPhase.plain hPhase.consistent hFree)
      hMap rfl
  · rw [if_neg hFree]
    apply h.goesOn
    refine ⟨hPhase.plain, hPhase.consistent, ?_, ?_⟩
    · intro found expected hCall
      cases hCall
    · intro constraint violated hDiagnoses
      cases hDiagnoses
      exact ⟨hFree, ⟨record, rfl⟩, fun other _ => mem_orderConstraints other⟩

theorem StoreKept.updates
    (hPhase : PhaseStands state.rows (.update record expectedVersion) .writes)
    (hFree : violatedByUpdate state.rows record = []) :
    StoreKept start (state.updateStatement thread record expectedVersion) := by
  obtain ⟨row, hRow, hScope⟩ := hPhase.scope record expectedVersion rfl (by decide)
  unfold OrderStoreState.updateStatement
  rw [hRow]
  by_cases hVersion : row.version = expectedVersion
  · rw [Option.filter_some, if_pos (by simpa using hVersion)]
    dsimp only
    rw [if_pos hFree]
    have hMap := readMap_updated hPhase.plain hPhase.consistent hScope hRow
    exact h.stores (keepsScope_update _ hRow)
      (h.table.updated hPhase.plain hPhase.consistent hScope hFree) hMap
      ⟨rfl, row, rfl, hVersion⟩
  · rw [Option.filter_some, if_neg (by simpa using hVersion)]
    exact h.refuses (by simp [orderVersionConflict])

/-- A select of the diagnosis finds a row exactly where the write has failed on one. -/
theorem StoreKept.diagnoses {constraint : OrderConstraint}
    (hPhase : PhaseStands state.rows call (.diagnoses constraint violated))
    (hHolds : (constraint.holder state.rows call.record).isSome = true ↔ constraint ∈ violated)
    (hPlace : state.calls thread = some (call, .diagnoses constraint violated))
    (hNext : state.statement thread = some after) :
    StoreKept start after := by
  obtain ⟨hSome, ⟨record, hInsert⟩, hRemaining⟩ := hPhase.diagnosed constraint violated rfl
  subst hInsert
  unfold OrderStoreState.statement at hNext
  rw [hPlace] at hNext
  dsimp only at hNext
  cases hHolder : constraint.holder state.rows record with
  | some holder =>
    change (constraint.holder state.rows record).isSome = true ↔ _ at hHolds
    rw [hHolder] at hHolds
    have hMem : constraint ∈ violated := hHolds.mp rfl
    change (match constraint.holder state.rows record with
      | some holder => some (state.raised thread (.insert record)
          (constraint.raised record holder) violated)
      | none => _) = some after at hNext
    rw [hHolder] at hNext
    cases hNext
    apply h.raises
    · intro _
      exact ⟨constraint, hMem, by cases constraint <;> rfl⟩
    · intro hNone
      exact absurd hNone hSome
  | none =>
    change (constraint.holder state.rows record).isSome = true ↔ _ at hHolds
    rw [hHolder] at hHolds
    have hNot : constraint ∉ violated := fun hMem => by simpa using hHolds.mpr hMem
    change (match constraint.holder state.rows record with
      | some holder => _
      | none => match constraint.following with
        | some next => some (state.goOn thread (.insert record) (.diagnoses next violated))
        | none => some (state.raised thread (.insert record) integrityError violated)) =
      some after at hNext
    rw [hHolder] at hNext
    have hNextPhase : ∀ next, constraint.following = some next →
        PhaseStands state.rows (.insert record) (.diagnoses next violated) := by
      intro next hFollowing
      refine ⟨hPhase.plain, hPhase.consistent, ?_, ?_⟩
      · intro found expected hCall
        cases hCall
      · intro other found hDiagnoses
        cases hDiagnoses
        refine ⟨hSome, ⟨record, rfl⟩, ?_⟩
        intro other hOther
        have hBefore := hRemaining other hOther
        have hNe : other ≠ constraint := fun hSame => hNot (hSame ▸ hOther)
        revert hBefore hNe hFollowing
        cases constraint <;> cases next <;> cases other <;> decide
    cases hFollowing : constraint.following with
    | some next =>
      rw [hFollowing] at hNext
      cases hNext
      exact h.goesOn (hNextPhase next hFollowing)
    | none =>
      -- The last select has found nothing: then nothing was violated.
      exfalso
      obtain ⟨other, hOther⟩ := List.exists_mem_of_ne_nil violated hSome
      have hBefore := hRemaining other hOther
      have hNe : other ≠ constraint := fun hSame => hNot (hSame ▸ hOther)
      revert hBefore hNe hFollowing
      cases constraint <;> cases other <;> decide

end Steps

/-- What a run needs: a record is as its constructor leaves it and the version it is written
under is not zero; an update does not meet another order's claim; and what the diagnosis of
a failed insert sees is what the insert has failed on. -/
def WritesPlainly (state : OrderStoreState) : OrderStoreMove → Prop
  | .enter _ call => call.Plain
  | .statement thread =>
    (∀ record expectedVersion,
      state.calls thread = some (.update record expectedVersion, .writes) →
        violatedByUpdate state.rows record = []) ∧
    ∀ call constraint violated,
      state.calls thread = some (call, .diagnoses constraint violated) →
        ((constraint.holder state.rows call.record).isSome = true ↔ constraint ∈ violated)
  | .abandon _ => True

theorem StoreKept.step {start : OrderMap} (h : StoreKept start state)
    (hPlainly : WritesPlainly state move) (hStep : OrderStoreStep state move after) :
    StoreKept start after := by
  cases move with
  | abandon =>
    cases hStep
    refine ⟨h.table, ?_, h.map, h.reports⟩
    apply h.placed (keepsScope_refl _)
    intro called found hFound
    cases hFound
  | enter thread call =>
    change state.enter thread call = some after at hStep
    unfold OrderStoreState.enter at hStep
    split at hStep
    · cases hStep
    split at hStep
    next error hInvalid =>
      cases hStep
      have hClass := validateConsistency_error hInvalid
      exact h.refuses (by simp [hClass])
    next hValid =>
      have hConsistent := (validateConsistency_eq_ok_iff _).mp hValid
      cases call with
      | insert =>
        cases hStep
        apply h.goesOn
        refine ⟨hPlainly, hConsistent, ?_, ?_⟩
        · intro found expected hCall
          cases hCall
        · intro constraint violated hDiagnoses
          cases hDiagnoses
      | update =>
        cases hStep
        apply h.goesOn
        refine ⟨hPlainly, hConsistent, ?_, ?_⟩
        · intro found expected _ hPhase
          exact absurd rfl hPhase
        · intro constraint violated hDiagnoses
          cases hDiagnoses
  | statement thread =>
    change state.statement thread = some after at hStep
    cases hPlace : state.calls thread with
    | none =>
      unfold OrderStoreState.statement at hStep
      rw [hPlace] at hStep
      cases hStep
    | some entry =>
      obtain ⟨call, phase⟩ := entry
      have hPhase := h.places thread call phase hPlace
      cases phase with
      | checksIdentity => exact h.checksIdentity hPhase hPlace hStep
      | diagnoses constraint violated =>
        exact h.diagnoses hPhase (hPlainly.2 call constraint violated hPlace) hPlace hStep
      | readsCurrent =>
        unfold OrderStoreState.statement at hStep
        rw [hPlace] at hStep
        cases call with
        | insert => cases hStep
        | update =>
          cases hStep
          exact h.readsCurrent hPhase
      | writes =>
        unfold OrderStoreState.statement at hStep
        rw [hPlace] at hStep
        cases call with
        | insert =>
          cases hStep
          exact h.inserts hPhase
        | update record expectedVersion =>
          cases hStep
          exact h.updates hPhase (hPlainly.1 record expectedVersion hPlace)

theorem OrderStoreStep.keepsScope (hStep : OrderStoreStep state move after) :
    KeepsScope state.rows after.rows := by
  have hSame : after.rows = state.rows → KeepsScope state.rows after.rows := by
    intro hRows
    rw [hRows]
    exact keepsScope_refl _
  cases move with
  | abandon =>
    cases hStep
    exact hSame rfl
  | enter thread call =>
    change state.enter thread call = some after at hStep
    unfold OrderStoreState.enter at hStep
    split at hStep
    · cases hStep
    split at hStep
    · cases hStep
      exact hSame rfl
    · cases call <;> cases hStep <;> exact hSame rfl
  | statement thread =>
    change state.statement thread = some after at hStep
    unfold OrderStoreState.statement at hStep
    split at hStep
    · cases hStep
    · cases hStep
    · cases hStep
      apply hSame
      unfold OrderStoreState.readCurrent
      dsimp only
      repeat' (first | rfl | split)
    · split at hStep <;> cases hStep <;> exact hSame rfl
    next record hPlace =>
      cases hStep
      unfold OrderStoreState.insertStatement
      dsimp only
      split
      · exact keepsScope_insert _ _
      · exact keepsScope_refl _
    next record expectedVersion hPlace =>
      cases hStep
      unfold OrderStoreState.updateStatement
      split
      · exact keepsScope_refl _
      next row hRow =>
        dsimp only
        split
        · exact keepsScope_update _ (Option.filter_eq_some_iff.mp hRow).1
        · exact keepsScope_refl _
    · split at hStep
      · cases hStep
        exact hSame rfl
      · split at hStep <;> cases hStep <;> exact hSame rfl

/-- A map in which no two orders are the same broker order, and none adopts what another
has adopted. -/
structure UniqueRecords (map : OrderMap) : Prop where
  exactly : ∀ id id' record record', map id = some record → map id' = some record' →
    record.brokerIdentityStatus = .exact_ → record'.brokerIdentityStatus = .exact_ →
      record.environment = record'.environment → record.accountNo = record'.accountNo →
        record.brokerOrderId = record'.brokerOrderId → id = id'
  adopted : ∀ id id' record record', map id = some record → map id' = some record' →
    record.adoptedFromExternalOrderId ≠ "" →
      record.adoptedFromExternalOrderId = record'.adoptedFromExternalOrderId → id = id'

theorem SoundTable.row_of_read (h : SoundTable rows) {id : String}
    (hRead : readMap rows id = some record) :
    ∃ row ∈ rows, row.clientOrderId = id ∧ Stands row record := by
  unfold readMap at hRead
  obtain ⟨row, hRow, hPayload⟩ := Option.bind_eq_some_iff.mp hRead
  have hMem := lookup_mem hRow
  obtain ⟨found, hStands⟩ := h.stands row hMem
  rw [hStands.read] at hPayload
  cases hPayload
  exact ⟨row, hMem, lookup_key hRow, hStands⟩

theorem SoundTable.unique (h : SoundTable rows) : UniqueRecords (readMap rows) := by
  constructor
  · intro id id' record record' hRead hRead' hExact hExact' hEnvironment hAccount hBroker
    obtain ⟨row, hRow, hId, hStands⟩ := h.row_of_read hRead
    obtain ⟨row', hRow', hId', hStands'⟩ := h.row_of_read hRead'
    have hKey : brokerIdentityKeyOrNone record = some
        (computeBrokerIdentityKey record.environment record.accountNo record.brokerOrderId) := by
      unfold brokerIdentityKeyOrNone
      rw [if_neg]
      intro hEither
      exact hEither.elim (fun hNot => hNot hExact) (hStands.exactly hExact)
    have hKey' : brokerIdentityKeyOrNone record' = some
        (computeBrokerIdentityKey record.environment record.accountNo record.brokerOrderId) := by
      unfold brokerIdentityKeyOrNone
      rw [if_neg, hEnvironment, hAccount, hBroker]
      intro hEither
      exact hEither.elim (fun hNot => hNot hExact') (hStands'.exactly hExact')
    rw [← hId, ← hId']
    exact h.identity row hRow row' hRow' _ (hStands.brokerIdentityKey.trans hKey)
      (hStands'.brokerIdentityKey.trans hKey')
  · intro id id' record record' hRead hRead' hAdopted hSame
    obtain ⟨row, hRow, hId, hStands⟩ := h.row_of_read hRead
    obtain ⟨row', hRow', hId', hStands'⟩ := h.row_of_read hRead'
    have hSource : adoptionSource record = some record.adoptedFromExternalOrderId := if_neg hAdopted
    have hSource' : adoptionSource record' = some record.adoptedFromExternalOrderId := by
      rw [hSame] at hAdopted ⊢
      exact if_neg hAdopted
    rw [← hId, ← hId']
    exact h.adoption row hRow row' hRow' _ (hStands.adoptedFrom.trans hSource)
      (hStands'.adoptedFrom.trans hSource')

/-- Over every interleaving from a sound table: client order ids are unique; every row is
read back as the record it was written from, column by column and with one version; what
the table reads as is the successful writes replayed one after another, a map of unique
broker orders and adoption sources; each report is right; and the identity columns of a row
never change. -/
theorem order_store_refines_map {rows : OrderTable} {state later : OrderStoreState}
    (hRows : SoundTable rows)
    (hRun : RunWith OrderStoreStep WritesPlainly { rows := rows } state)
    (hRest : RunWith OrderStoreStep WritesPlainly state later) :
    Keyed OrderRow.clientOrderId state.rows ∧
      (∀ row ∈ state.rows, ∃ record, Stands row record) ∧
        readMap state.rows = replay (readMap rows) state.reports ∧
          UniqueRecords (readMap state.rows) ∧ (∀ report ∈ state.reports, report.Right) ∧
            KeepsScope state.rows later.rows := by
  have hStart : StoreKept (readMap rows) { rows := rows } := by
    refine ⟨hRows, ?_, rfl, ?_⟩
    · intro thread call phase hPlace
      cases hPlace
    · intro report hReport
      cases hReport
  have hKept : StoreKept (readMap rows) state := RunWith.invariant hRun hStart
    (fun _ _ _ hBefore hPlainly hStep => hBefore.step hPlainly hStep)
  have hScope : KeepsScope state.rows later.rows :=
    RunWith.invariant (I := fun s => KeepsScope state.rows s.rows) hRest (keepsScope_refl _)
      (fun _ _ _ hBefore _ hStep => hBefore.trans hStep.keepsScope)
  exact ⟨hKept.table.keyed, hKept.table.stands, hKept.map, hKept.table.unique, hKept.reports,
    hScope⟩

/-! ## Samples -/

/-- An order on its way to the broker. -/
def ambiguousOrder (clientOrderId : String) (hNamed : clientOrderId ≠ "") : DurableOrderRecord :=
  { environment := "PROD"
    accountNo := "1"
    symbol := "AAPL"
    side := .buy
    intent := .entry
    clientOrderId := clientOrderId
    submittedQuantity := 10
    preparedAt := { text := "2026-07-31T14:00:00+00:00", reading := none }
    status := .submitting
    brokerIdentityStatus := .ambiguous
    clientOrderIdNamed := hNamed }

def firstOrder : DurableOrderRecord := ambiguousOrder "o1" (by decide)

theorem plain_firstOrder : (insert firstOrder).Plain := by
  refine ⟨⟨by decide +kernel, by decide +kernel, by decide +kernel, by decide +kernel,
    by decide +kernel, by decide, by decide, ?_, by decide, ?_, by decide +kernel, by decide⟩,
    by decide⟩
  · intro observed hObserved
    cases hObserved
  · intro quantity hQuantity
    cases hQuantity

/-- A call that inserts an order, and its statements. -/
def insertMoves (thread : Nat) (record : DurableOrderRecord) : List OrderStoreMove :=
  [.enter thread (.insert record), .statement thread, .statement thread]

/-- Moves of an insert of the first order that meets no constraint. -/
def isPlainInsert (state : OrderStoreState) (move : OrderStoreMove) : Bool :=
  match move with
  | .enter _ call => call = .insert firstOrder
  | .statement thread =>
    (state.calls thread).all (fun entry => match entry with
      | (.insert _, .diagnoses _ _) => false
      | (.insert _, _) => true
      | (.update _ _, _) => false)
  | .abandon _ => true

theorem writesPlainly_of_insert (h : isPlainInsert state move = true) :
    WritesPlainly state move := by
  cases move with
  | abandon => trivial
  | enter thread call =>
    have hCall : call = .insert firstOrder := by simpa [isPlainInsert] using h
    rw [hCall]
    exact plain_firstOrder
  | statement =>
    constructor
    · intro record expectedVersion hPlace
      simp [isPlainInsert, hPlace] at h
    · intro call constraint violated hPlace
      cases call <;> simp [isPlainInsert, hPlace] at h

def insertedState : OrderStoreState :=
  (runLabels (fun state move => OrderStoreMove.next move state) isPlainInsert
    (insertMoves 0 firstOrder) { rows := [] }).get (by decide +kernel)

theorem inserted_run : RunWith OrderStoreStep WritesPlainly { rows := [] } insertedState := by
  apply RunWith.of_labels (fun _ _ _ hNext => hNext)
    (fun _ _ hPlain => writesPlainly_of_insert hPlain)
  exact (Option.some_get _).symm

theorem order_store_refines_map_inserted :
    insertedState.rows.length = 1 ∧ ∀ report ∈ insertedState.reports, report.Right := by
  have hAll := order_store_refines_map soundTable_nil inserted_run (RunWith.refl insertedState)
  exact ⟨by decide +kernel, hAll.2.2.2.2.1⟩

/-- The order is at the broker under an id. -/
def acknowledgedOrder (record : DurableOrderRecord) (brokerOrderId : String) : DurableOrderRecord :=
  { record with
    brokerOrderId := brokerOrderId
    status := .acknowledged
    brokerIdentityStatus := .exact_ }

def secondOrder : DurableOrderRecord := ambiguousOrder "o2" (by decide)

/-- Two orders are given one broker order id at the same time. -/
def racingMoves : List OrderStoreMove :=
  insertMoves 0 firstOrder ++ insertMoves 0 secondOrder ++
    [.enter 0 (.update (acknowledgedOrder firstOrder "B1") 1),
      .enter 1 (.update (acknowledgedOrder secondOrder "B1") 1),
      .statement 0, .statement 1, .statement 0, .statement 1, .statement 0, .statement 1,
      .statement 1]

def racedState : OrderStoreState :=
  (runLabels (fun state move => OrderStoreMove.next move state) (fun _ _ => true) racingMoves
    { rows := [] }).get (by decide +kernel)

theorem identity_conflict_reported_as_duplicate :
    ¬ ∀ (rows : OrderTable) (state : OrderStoreState), SoundTable rows →
      RunWith OrderStoreStep (fun _ _ => True) { rows := rows } state →
        ∀ report ∈ state.reports, report.Right := by
  intro hRight
  have hRun : RunWith OrderStoreStep (fun _ _ => True) { rows := [] } racedState := by
    apply RunWith.of_labels (fun _ _ _ hNext => hNext) (fun _ _ _ => trivial)
    exact (Option.some_get _).symm
  have hReport : ∃ report ∈ racedState.reports,
      report.result = .error (duplicateExecutionOrder secondOrder.toExecutionOrderRecord) ∧
        report.violated = [.brokerIdentityKey] := by
    refine ⟨_, List.mem_cons_self, ?_, ?_⟩ <;> decide +kernel
  obtain ⟨report, hMem, hResult, hViolated⟩ := hReport
  have h := hRight [] racedState soundTable_nil hRun report hMem
  unfold OrderWriteReport.Right at h
  rw [hResult, hViolated] at h
  obtain ⟨constraint, hConstraint, hClass⟩ := h.2.2.1 (by simp)
  rw [List.mem_singleton.mp hConstraint] at hClass
  cases hClass

end QuantApp.Services
