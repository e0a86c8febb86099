import Mathlib.Logic.Function.Basic
import QuantApp.Core.BrokerOrder
import QuantApp.Services.ReconciliationPlan
import QuantApp.Verified.LabelledRuns

/-!
# The order-lookup cache

The two caches of `build_buyboard_runtime` (`src/services/buyboard_runtime.py`) over
the stored execution orders, in canonical mode: the last read of each order, and the
last list of each card with the time it is trusted from.
-/

namespace QuantApp.Services

open Core Verified

/-- `PENDING_ORDER_RECONCILIATION_SECONDS` and `UNKNOWN_ORDER_RECONCILIATION_SECONDS`. -/
structure OrderReadCadence where
  pending : ℚ := 2
  unknown : ℚ := 1
  pending_min : 2 ≤ pending
  unknown_min : 1 ≤ unknown

/-- `monotonic()`, the stored orders with the newest first, and the caches. -/
structure OrderLookup where
  now : ℚ
  orders : List ExecutionOrderRecord
  recordCache : String → Option ExecutionOrderRecord := fun _ => none
  recordCachedAt : String → Option ℚ := fun _ => none
  cardCache : CardKey → Option (ℚ × List ExecutionOrderRecord) := fun _ => none

/-! ## Freshness -/

def guardedRecordCacheSeconds (cadence : OrderReadCadence) (record : ExecutionOrderRecord) : ℚ :=
  if record.status = .unknownSubmissionState then cadence.unknown else cadence.pending

def guardedRecordsCacheSeconds (cadence : OrderReadCadence) :
    List ExecutionOrderRecord → ℚ
  | [] => cadence.pending
  | record :: rest =>
    (rest.map (guardedRecordCacheSeconds cadence)).foldl min
      (guardedRecordCacheSeconds cadence record)

/-- What was cached at `cachedAt` for `seconds` is still trusted. -/
def isFresh (now cachedAt seconds : ℚ) : Bool :=
  decide (0 ≤ now - cachedAt) && decide (now - cachedAt < seconds)

/-! ## The calls -/

variable (lookup : OrderLookup)

/-- `list_execution_orders_for_card`. -/
def OrderLookup.ordersOf (key : CardKey) : List ExecutionOrderRecord :=
  lookup.orders.filter (fun order => orderKey order = key)

/-- `fetch_execution_order`. -/
def OrderLookup.fetch (clientOrderId : String) : Option ExecutionOrderRecord :=
  lookup.orders.find? (·.clientOrderId = clientOrderId)

/-- The record takes the place of the one with its id, or comes last. -/
def replaceOrAppend (record : ExecutionOrderRecord) :
    List ExecutionOrderRecord → List ExecutionOrderRecord
  | [] => [record]
  | existing :: rest =>
    if existing.clientOrderId = record.clientOrderId then record :: rest
    else existing :: replaceOrAppend record rest

/-- The list of a record's card once the record is remembered. -/
def OrderLookup.restampedList (record : ExecutionOrderRecord) : List ExecutionOrderRecord :=
  replaceOrAppend record (((lookup.cardCache (orderKey record)).map Prod.snd).getD [])

/-- `remember_guarded_record`, at the present time. -/
def OrderLookup.remember (record : ExecutionOrderRecord) : OrderLookup :=
  { lookup with
    recordCache := Function.update lookup.recordCache record.clientOrderId (some record)
    recordCachedAt := Function.update lookup.recordCachedAt record.clientOrderId (some lookup.now)
    cardCache :=
      Function.update lookup.cardCache (orderKey record)
        (some (lookup.now, lookup.restampedList record)) }

/-- `cache_recent_guarded_record`, for what the gateway has cached. -/
def OrderLookup.rememberRecent :
    Option ExecutionOrderRecord → OrderLookup
  | none => lookup
  | some record => lookup.remember record

variable (cadence : OrderReadCadence)

/-- The list of the card is trusted. -/
def OrderLookup.listFresh (lookup : OrderLookup)
    (key : CardKey) : Option (List ExecutionOrderRecord) :=
  match lookup.cardCache key with
  | none => none
  | some (cachedAt, records) =>
    if isFresh lookup.now cachedAt (guardedRecordsCacheSeconds cadence records) then
      some records
    else none

/-- The records `find_runtime_order` answers from. -/
def OrderLookup.recordsFor (lookup : OrderLookup) (key : CardKey) : List ExecutionOrderRecord :=
  (lookup.listFresh cadence key).getD (lookup.ordersOf key)

/-- The caches after a full read of the card. -/
def OrderLookup.readList (key : CardKey) : OrderLookup :=
  let records := lookup.ordersOf key
  { lookup with
    recordCache := records.foldl
      (fun cache record => Function.update cache record.clientOrderId (some record))
      lookup.recordCache
    recordCachedAt := records.foldl
      (fun cachedAt record => Function.update cachedAt record.clientOrderId (some lookup.now))
      lookup.recordCachedAt
    cardCache := Function.update lookup.cardCache key (some (lookup.now, records)) }

/-- An order `find_runtime_order` looks for: open, of the side, and of the intent when one
is given. -/
def isWanted (side : OrderSide) (intent : Option OrderIntent) (record : ExecutionOrderRecord) :
    Bool :=
  record.status.isOpen && record.side = side &&
    (match intent with
    | none => true
    | some wanted => record.intent = wanted)

/-- `find_runtime_order`. -/
def OrderLookup.find (cadence : OrderReadCadence) (lookup : OrderLookup) (key : CardKey)
    (side : OrderSide) (intent : Option OrderIntent) : Option BrokerOrder × OrderLookup :=
  (((lookup.recordsFor cadence key).find? (isWanted side intent)).map
      brokerOrderFromExecutionRecord,
    match lookup.listFresh cadence key with
    | some _ => lookup
    | none => lookup.readList key)

/-- The cached read of one order is trusted. -/
def OrderLookup.recordFresh (lookup : OrderLookup)
    (clientOrderId : String) : Option ExecutionOrderRecord :=
  match lookup.recordCache clientOrderId, lookup.recordCachedAt clientOrderId with
  | some record, some cachedAt =>
    if isFresh lookup.now cachedAt (guardedRecordCacheSeconds cadence record) then some record
    else none
  | _, _ => none

/-- `reconcile_runtime_order`. -/
def OrderLookup.reconcile (lookup : OrderLookup)
    (order : BrokerOrder) : BrokerOrder × OrderLookup :=
  match lookup.recordFresh cadence order.clientOrderId with
  | some record => (brokerOrderFromExecutionRecord record, lookup)
  | none =>
    match lookup.fetch order.clientOrderId with
    | some record => (brokerOrderFromExecutionRecord record, lookup.remember record)
    | none => (order, lookup)

/-- `find_runtime_entry_order_by_id`; `recent` is what the gateway has cached. -/
def OrderLookup.findById (lookup : OrderLookup) (clientOrderId : String)
    (recent : Option ExecutionOrderRecord) : Option BrokerOrder × OrderLookup :=
  match (lookup.fetch clientOrderId).or recent with
  | some record => (some (brokerOrderFromExecutionRecord record), lookup.remember record)
  | none => (none, lookup)

/-- `cancel_runtime_order`: `result` is the record the cancel returns, when it returns
one, and `recent` what the gateway has cached afterwards. -/
def OrderLookup.cancel (lookup : OrderLookup) (result recent : Option ExecutionOrderRecord) :
    OrderLookup :=
  let answered :=
    match result with
    | some record =>
      { lookup with
        recordCache := Function.update lookup.recordCache record.clientOrderId (some record) }
    | none => lookup
  answered.rememberRecent recent

end QuantApp.Services
