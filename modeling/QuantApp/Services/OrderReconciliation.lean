import Mathlib.Data.List.Sort
import QuantApp.Core.BrokerOrder
import QuantApp.Services.PositionSnapshots

/-!
# Reconciling the order ledger

`src/services/order_reconciliation.py`: the orders of the local ledger are brought up to date
from a snapshot of the holdings (`reconcile_orders_with_snapshot`) or from the broker's own
record of one order (`reconcile_order_with_broker_snapshot`).
-/

namespace QuantApp.Services

open Core Verified

/-! ## Orders of the ledger -/

/-- A `BrokerOrderStatusSnapshot` with the fields that only the ledger reads. -/
structure LedgerSnapshot extends BrokerOrderStatusSnapshot where
  clientOrderId : String := ""
  rawResponse : List (String × JsonValue) := []

/-- What `raw_status_response` keeps. -/
inductive StatusResponse
  | holdings (snapshot : JsonValue)
  | order (snapshot : LedgerSnapshot)

/-- A `BrokerOrder` with the fields that only the ledger reads. -/
structure LedgerOrder extends BrokerOrder where
  submittedAt : String
  rawStatusResponse : Option StatusResponse := none

namespace LedgerOrder

/-- `_requested_quantity`. -/
def requested (order : LedgerOrder) : Int := max 0 order.quantityRequested

/-- `_known_filled_quantity`. -/
def knownFilled (order : LedgerOrder) : Int := max 0 (min order.filledQuantity order.requested)

end LedgerOrder

section WellFilled

variable {order : LedgerOrder}

/-- The fills lie between nothing and the request. -/
structure WellFilled (order : LedgerOrder) : Prop where
  nonneg : 0 ≤ order.filledQuantity
  within : order.filledQuantity ≤ order.quantityRequested

theorem WellFilled.requested (h : WellFilled order) : order.requested = order.quantityRequested :=
  max_eq_right (h.nonneg.trans h.within)

theorem WellFilled.knownFilled (h : WellFilled order) :
    order.knownFilled = order.filledQuantity := by
  unfold LedgerOrder.knownFilled
  rw [h.requested, min_eq_left h.within, max_eq_right h.nonneg]

end WellFilled

def markFill (order : LedgerOrder) (filledQuantity : Int) (avgFillPrice : ℚ)
    (snapshot : JsonValue) : LedgerOrder :=
  let proposed := max 0 (min filledQuantity order.requested)
  let filled := max order.knownFilled proposed
  { order with
    filledQuantity := filled
    remainingQuantity := max 0 (order.requested - filled)
    avgFillPrice := if 0 < avgFillPrice then avgFillPrice else order.avgFillPrice
    rawStatusResponse := some (.holdings snapshot)
    status :=
      if 0 < order.requested ∧ order.requested ≤ filled then .filled
      else if 0 < filled then .partiallyFilled
      else if order.status ∈ [.accepted, .submitting, .created, .unknown] then .working
      else order.status }

def markWorkingIfUnfilled (order : LedgerOrder) (snapshot : JsonValue) : LedgerOrder :=
  { order with
    status :=
      if order.status ∈ [.accepted, .submitting, .created, .unknown] then .working
      else order.status
    rawStatusResponse := some (.holdings snapshot) }

/-- An order that receives no new shares. -/
def markKnown (order : LedgerOrder) (avgFillPrice : ℚ) (snapshot : JsonValue) : LedgerOrder :=
  if 0 < order.knownFilled then markFill order order.knownFilled avgFillPrice snapshot
  else markWorkingIfUnfilled order snapshot

/-! ## Holdings -/

section Holdings

variable (python : PythonText)

/-- `float(value or 0.0)` of a field; what is no finite number is zero. -/
def holdingNumber (fields : List (String × JsonValue)) (name : String) : ℚ :=
  floatOrZero python (fieldOf fields name)

/-- The holdings of one section of a snapshot. -/
def sectionHoldings (snapshot : List (String × JsonValue)) (name : String) :
    Except Raised (List (List (String × JsonValue))) :=
  match fieldOf snapshot name with
  | .object fields => do
    let rows ← ((fields.lookup "holdings").getD (.list [])).elements
    pure (rows.filterMap (fun row =>
      match row with
      | .object holding => some holding
      | _ => none))
  | _ => .ok []

/-- The first of the holdings with the largest quantity. -/
def bestHolding : List (List (String × JsonValue)) → Option (List (String × JsonValue))
  | holdings =>
    holdings.foldl (fun best holding =>
      match best with
      | none => some holding
      | some found =>
        if holdingNumber python found "quantity" < holdingNumber python holding "quantity" then
          some holding
        else best) none

/-- `_holding_for_symbol`: the quantity and the average price. -/
def holdingForSymbol (snapshot : JsonValue) (symbol : String) : Except Raised (ℚ × ℚ) :=
  match snapshot with
  | .object fields => do
    let domestic ← sectionHoldings fields "domestic"
    let overseas ← sectionHoldings fields "overseas"
    let ofSymbol := (domestic ++ overseas).filter (fun holding =>
      symbolOf python ((holding.lookup "symbol").getD (.text "")) = upper (strip symbol))
    match bestHolding python ofSymbol with
    | none => pure (0, 0)
    | some holding =>
      pure (holdingNumber python holding "quantity", holdingNumber python holding "average_price")
  | _ => .ok (0, 0)

/-! ## Allocation -/

abbrev GroupKey := String × OrderSide

def LedgerOrder.groupKey (order : LedgerOrder) : GroupKey := (order.symbol, order.side)

/-- The open orders of a symbol and side, with their places in the ledger. -/
def openGroup (orders : List LedgerOrder) (key : GroupKey) : List (LedgerOrder × Nat) :=
  orders.zipIdx.filter (fun entry => isOpenStatus entry.1.status && entry.1.groupKey = key)

/-- The keys of the open orders, each where it occurs first. -/
def groupKeys (orders : List LedgerOrder) : List GroupKey :=
  ((orders.filter (fun order => isOpenStatus order.status)).map
    LedgerOrder.groupKey).reverse.dedup.reverse

/-- `sorted(grouped_orders, key=_order_sort_key)`. -/
def inSubmissionOrder (grouped : List (LedgerOrder × Nat)) : List (LedgerOrder × Nat) :=
  grouped.mergeSort (fun first second => first.1.submittedAt ≤ second.1.submittedAt)

/-- The shares that an order can still receive. -/
def LedgerOrder.available (order : LedgerOrder) : Int := max 0 (order.requested - order.knownFilled)

/-- The loop that allocates a change of the holdings. -/
def allocateDelta (avgFillPrice : ℚ) (snapshot : JsonValue) :
    Int → List (LedgerOrder × Nat) → List (LedgerOrder × Nat)
  | _, [] => []
  | unallocated, (order, place) :: rest =>
    let allocated := min order.available unallocated
    if 0 < allocated then
      (markFill order (order.knownFilled + allocated) avgFillPrice snapshot, place) ::
        allocateDelta avgFillPrice snapshot (unallocated - allocated) rest
    else
      (markKnown order avgFillPrice snapshot, place) ::
        allocateDelta avgFillPrice snapshot unallocated rest

/-- The change of a position in the direction of a side. -/
def confirmedDelta (side : OrderSide) (current previous : ℚ) : Int :=
  match side with
  | .buy => max 0 (roundHalfEven (current - previous))
  | .sell => max 0 (roundHalfEven (previous - current))

/-- One group, without a baseline: only a single sell whose position has gone is filled. -/
def markWithoutBaseline (side : OrderSide) (current avgFillPrice : ℚ) (snapshot : JsonValue)
    (grouped : List (LedgerOrder × Nat)) : List (LedgerOrder × Nat) :=
  match grouped with
  | [(order, place)] =>
    if side = .sell ∧ current ≤ 0 ∧ 0 < order.knownFilled then
      [(markFill order order.requested avgFillPrice snapshot, place)]
    else [(markKnown order avgFillPrice snapshot, place)]
  | _ => grouped.map (fun entry => (markKnown entry.1 avgFillPrice snapshot, entry.2))

/-- The updates of one group. -/
def reconcileGroup (snapshot : JsonValue) (previous : Option JsonValue) (key : GroupKey)
    (grouped : List (LedgerOrder × Nat)) : Except Raised (List (LedgerOrder × Nat)) := do
  let (current, average) ← holdingForSymbol python snapshot key.1
  match previous with
  | none => pure (markWithoutBaseline key.2 current average snapshot (inSubmissionOrder grouped))
  | some baseline =>
    let (before, _) ← holdingForSymbol python baseline key.1
    pure (allocateDelta average snapshot (confirmedDelta key.2 current before)
      (inSubmissionOrder grouped))

/-- The orders with the updates in their places. -/
def withUpdates (updates : List (LedgerOrder × Nat)) (orders : List LedgerOrder) :
    List LedgerOrder :=
  orders.zipIdx.map (fun entry => ((lookup Prod.snd entry.2 updates).map Prod.fst).getD entry.1)

/-- `reconcile_orders_with_snapshot`.  The groups are disjoint, so each is read from the orders
as they came in. -/
def reconcileOrdersWithSnapshot (orders : List LedgerOrder) (snapshot : JsonValue)
    (previous : Option JsonValue) : Except Raised (List LedgerOrder) := do
  let updates ← (groupKeys orders).mapM (fun key =>
    reconcileGroup python snapshot previous key (openGroup orders key))
  pure (withUpdates updates.flatten orders)

end Holdings

/-! ## Direct evidence -/

def applyBrokerFillProgress (order : LedgerOrder) (snapshot : LedgerSnapshot)
    (terminal assumeFullWhenMissing : Bool) : LedgerOrder :=
  let clamped := max 0 (min snapshot.filledQuantity order.requested)
  let reported := if assumeFullWhenMissing ∧ clamped ≤ 0 then order.requested else clamped
  let filled := max order.knownFilled reported
  let reportedRemaining := max 0 snapshot.remainingQuantity
  { order with
    filledQuantity := filled
    remainingQuantity :=
      if terminal then (if 0 < filled then max 0 (order.requested - filled) else 0)
      else if reportedRemaining ≤ 0 then max 0 (order.requested - filled)
      else min (max 0 (order.requested - filled)) reportedRemaining
    avgFillPrice :=
      if 0 < snapshot.avgFillPrice then snapshot.avgFillPrice else order.avgFillPrice }

/-- The identifiers and the raw answer, taken where they are missing. -/
def withSnapshotIdentity (order : LedgerOrder) (snapshot : LedgerSnapshot) : LedgerOrder :=
  { order with
    clientOrderId :=
      if snapshot.clientOrderId ≠ "" ∧ order.clientOrderId = "" then snapshot.clientOrderId
      else order.clientOrderId
    brokerOrderId :=
      if snapshot.brokerOrderId ≠ "" ∧ order.brokerOrderId = "" then snapshot.brokerOrderId
      else order.brokerOrderId
    rawStatusResponse :=
      if snapshot.rawResponse ≠ [] then some (.order snapshot) else order.rawStatusResponse }

/-- The fills and the status that a snapshot brings. -/
def withSnapshotStatus (order : LedgerOrder) (snapshot : LedgerSnapshot) : LedgerOrder :=
  match snapshot.status with
  | .filled =>
    let progressed := applyBrokerFillProgress order snapshot true true
    { progressed with
      status := if order.requested ≤ progressed.filledQuantity then .filled
        else .partiallyFilled }
  | .partiallyFilled =>
    let progressed := applyBrokerFillProgress order snapshot false false
    { progressed with
      status := if 0 < progressed.filledQuantity then .partiallyFilled else .working }
  | .working | .accepted =>
    let progressed := applyBrokerFillProgress order snapshot false false
    { progressed with
      status := if 0 < progressed.filledQuantity then .partiallyFilled else snapshot.status }
  | .cancelRequested =>
    { applyBrokerFillProgress order snapshot false false with status := .cancelRequested }
  | .cancelled | .rejected | .expired =>
    { applyBrokerFillProgress order snapshot true false with status := snapshot.status }
  | .unknown | .created | .submitting | .unknownSubmissionState => order

/-- The limit and the remainder, where the order has none. -/
def withSnapshotDefaults (order : LedgerOrder) (snapshot : LedgerSnapshot) : LedgerOrder :=
  { order with
    limitPrice :=
      if 0 < snapshot.limitPrice ∧ order.limitPrice ≤ 0 then snapshot.limitPrice
      else order.limitPrice
    remainingQuantity :=
      if order.remainingQuantity ≤ 0 ∧ order.status ∈ [.accepted, .working] then
        max 0 (order.quantityRequested - order.filledQuantity)
      else order.remainingQuantity }

def reconcileOrderWithBrokerSnapshot (order : LedgerOrder) (snapshot : LedgerSnapshot) :
    LedgerOrder :=
  withSnapshotDefaults (withSnapshotStatus (withSnapshotIdentity order snapshot) snapshot) snapshot

end QuantApp.Services
