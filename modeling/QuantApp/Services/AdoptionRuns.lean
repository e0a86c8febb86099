import QuantApp.Services.DiscoveredExternalOrderRepository
import QuantApp.Services.ExecutionCommandGateway
import Mathlib.Logic.Function.Basic

/-!
# Adoptions, discoveries and prepared submissions

`adopt_external_order_in_db`, the external-order part of `apply_reconciliation_plan` and the
prepare transaction of `_do_submit`, one statement at a time and in any number of
transactions.  A locking read waits for the rows it returns and locks them; an insert waits
for the unique keys of its row and holds them.  A row that is not there yet is not locked by
looking for it.  A statement that raises, and a failure at any point, roll the transaction
back.
-/

namespace QuantApp.Services

open Core Verified
open DiscoveredExternalOrder (externalOrderId)

/-! ## Calls -/

/-- The rows of one broker id that nothing claims and that has no stored order. -/
structure Discovery where
  runtime : Runtime
  snapshot : AccountBrokerSnapshot
  row : BrokerOrderStatusSnapshot
  laterRows : List BrokerOrderStatusSnapshot := []
  named : (discoveredExternal runtime snapshot row).externalOrderId ≠ ""

/-- The order the reducer creates for them. -/
def Discovery.external (discovery : Discovery) : DiscoveredExternalOrder :=
  discovery.laterRows.foldl observeExternal
    (discoveredExternal discovery.runtime discovery.snapshot discovery.row)

/-- An element of `external_order_creates` or `external_order_updates`. -/
inductive ExternalWrite
  | create (discovery : Discovery)
  | update (read : DiscoveredExternalOrder) (rows : List BrokerOrderStatusSnapshot)

/-- What the reducer updates was read from the table. -/
def ExternalWrite.ReadFrom (rows : List DiscoveredExternalOrder) : ExternalWrite → Prop
  | .create _ => True
  | .update read _ => read ∈ rows

instance (rows : List DiscoveredExternalOrder) (write : ExternalWrite) :
    Decidable (write.ReadFrom rows) := by
  cases write with
  | create => exact inferInstanceAs (Decidable True)
  | update read => exact inferInstanceAs (Decidable (read ∈ rows))

inductive StoreCall
  | adopt (externalOrderId : String) (adoption : Adoption)
  | prepare (request : SubmitExecutionRequest) (now : IsoText) (limitPrice : ℚ)
      (capitalReservationId : String) (named : request.clientOrderId ≠ "")
  | reconcile (plan : List ExternalWrite)

/-- Where a transaction stands, with the rows it has read and written. -/
inductive StoreStage
  | outside
  | adopting (externalOrderId : String) (adoption : Adoption)
  | adoptionLocked (adoption : Adoption) (external : DiscoveredExternalOrder)
  | adoptionChecked (adoption : Adoption) (external : DiscoveredExternalOrder)
  | adoptionInserted (adoption : Adoption) (external adopted : DiscoveredExternalOrder)
      (record : ExecutionOrderRecord)
  | adoptionUpdated (external written : DiscoveredExternalOrder) (record : ExecutionOrderRecord)
  | preparing (record : ExecutionOrderRecord)
  | externalsFenced (record : ExecutionOrderRecord)
  | ordersFenced (record : ExecutionOrderRecord)
  | submissionInserted (record : ExecutionOrderRecord)
  | reconciling (plan : List ExternalWrite) (written : List DiscoveredExternalOrder)

def StoreCall.start : StoreCall → StoreStage
  | .adopt externalOrderId adoption => .adopting externalOrderId adoption
  | .prepare request now limitPrice capitalReservationId named =>
    .preparing (preparedRecord request now limitPrice capitalReservationId named)
  | .reconcile plan => .reconciling plan []

/-- The reads a call starts from. -/
def StoreCall.ReadFrom (rows : List DiscoveredExternalOrder) : StoreCall → Prop
  | .reconcile plan => ∀ write ∈ plan, write.ReadFrom rows
  | _ => True

instance (rows : List DiscoveredExternalOrder) (call : StoreCall) :
    Decidable (call.ReadFrom rows) := by
  cases call with
  | reconcile plan => exact inferInstanceAs (Decidable (∀ write ∈ plan, write.ReadFrom rows))
  | _ => exact inferInstanceAs (Decidable True)

/-! ## The tables under locks -/

/-- A row, or a value of a unique key. -/
inductive StoreKey
  | external (externalOrderId : String)
  | externalIdentity (key : String × String × String)
  | order (clientOrderId : String)
  | orderIdentity (key : String × String × String)
  | adoptionSource (externalOrderId : String)
  deriving DecidableEq

/-- The unique keys of an order row. -/
def orderKeys (record : ExecutionOrderRecord) : List StoreKey :=
  .order record.clientOrderId :: (identityKeyOrNone record).toList.map .orderIdentity ++
    (adoptionSourceOrNone record).toList.map .adoptionSource

/-- The unique keys of an external order row. -/
def externalKeys (external : DiscoveredExternalOrder) : List StoreKey :=
  [.external external.externalOrderId, .externalIdentity (externalIdentityKey external)]

/-- A prepared submission, with the tables its transaction was committed into. -/
structure PreparedSubmission where
  record : ExecutionOrderRecord
  externals : List DiscoveredExternalOrder
  orders : List ExecutionOrderRecord

/-- The committed rows, the locks and the transactions; and what came of the calls: the ids
of the adoptions that committed, the prepared submissions, and the adoptions that raised
after their scope check. -/
structure AdoptionWorld (Tx : Type) where
  externals : List DiscoveredExternalOrder := []
  orders : List ExecutionOrderRecord := []
  holder : StoreKey → Option Tx := fun _ => none
  stage : Tx → StoreStage := fun _ => .outside
  adoptions : List String := []
  prepares : List PreparedSubmission := []
  refusals : List (Adoption × DiscoveredExternalOrder) := []

inductive AdoptionStep (Tx : Type)
  | begin (tx : Tx) (call : StoreCall)
  | statement (tx : Tx)
  | commit (tx : Tx)
  | abort (tx : Tx)
  | progress (record : ExecutionOrderRecord) (expectedVersion : Int)

/-- An update of a stored order leaves where it came from, and an ended order ended. -/
def KeepsOrigin (orders : List ExecutionOrderRecord) (record : ExecutionOrderRecord) : Prop :=
  ∀ current ∈ orders, current.clientOrderId = record.clientOrderId →
    record.origin = current.origin ∧
      record.adoptedFromExternalOrderId = current.adoptedFromExternalOrderId ∧
      (current.status.isTerminal = true → record.status.isTerminal = true)

instance (orders : List ExecutionOrderRecord) (record : ExecutionOrderRecord) :
    Decidable (KeepsOrigin orders record) :=
  inferInstanceAs (Decidable (∀ current ∈ orders, _))

namespace AdoptionWorld

variable {Tx : Type} [DecidableEq Tx]

variable (world : AdoptionWorld Tx)

variable (tx : Tx)

/-- Wait for the keys and hold them. -/
def take (keys : List StoreKey) : Option (AdoptionWorld Tx) :=
  if ∀ key ∈ keys, world.holder key = none ∨ world.holder key = some tx then
    some { world with holder := fun key => if key ∈ keys then some tx else world.holder key }
  else none

def moveTo (stage : StoreStage) : AdoptionWorld Tx :=
  { world with stage := Function.update world.stage tx stage }

/-- The transaction ends and gives its keys back. -/
def leave : AdoptionWorld Tx :=
  { world with
    holder := fun key => if world.holder key = some tx then none else world.holder key
    stage := Function.update world.stage tx .outside }

/-- An adoption that raises after its scope check. -/
def refuse (adoption : Adoption) (external : DiscoveredExternalOrder) : AdoptionWorld Tx :=
  { world.leave tx with refusals := world.refusals ++ [(adoption, external)] }

/-- One element of a reconciliation plan. -/
def writeExternal (rest : List ExternalWrite)
    (written : List DiscoveredExternalOrder) : ExternalWrite → Option (AdoptionWorld Tx)
  | .create discovery =>
    let view := putAll DiscoveredExternalOrder.externalOrderId written world.externals
    match getDiscoveredExternalOrderByBrokerId view discovery.external with
    | some _ => some (world.moveTo tx (.reconciling rest written))
    | none =>
      (world.take tx (externalKeys discovery.external)).map fun world =>
        match insertDiscoveredExternalOrder view discovery.external with
        | .error _ => world.leave tx
        | .ok _ => world.moveTo tx (.reconciling rest (written ++ [discovery.external]))
  | .update read rows =>
    let view := putAll DiscoveredExternalOrder.externalOrderId written world.externals
    (world.take tx [.external read.externalOrderId]).map fun world =>
      match updateDiscoveredExternalOrder view (rows.foldl observeExternal read)
          read.version with
      | .error _ => world.leave tx
      | .ok (_, updated) => world.moveTo tx (.reconciling rest (written ++ [updated]))

/-- The next statement of a transaction, `none` while it waits or has none left. -/
def statement : Option (AdoptionWorld Tx) :=
  match world.stage tx with
  | .adopting externalOrderId adoption =>
    match getDiscoveredExternalOrder world.externals externalOrderId with
    | none => some (world.leave tx)
    | some external =>
      (world.take tx [.external externalOrderId]).map
        (fun world => world.moveTo tx (.adoptionLocked adoption external))
  | .adoptionLocked adoption external =>
    match findActiveExecutionOrderForScope world.orders (externalScope external) with
    | some _ => some (world.leave tx)
    | none => some (world.moveTo tx (.adoptionChecked adoption external))
  | .adoptionChecked adoption external =>
    match adoptExternalOrder external adoption with
    | .error _ => some (world.refuse tx adoption external)
    | .ok (record, adopted) =>
      (world.take tx (orderKeys record)).map fun world =>
        match insertExecutionOrder world.orders record with
        | .error _ => world.refuse tx adoption external
        | .ok _ => world.moveTo tx (.adoptionInserted adoption external adopted record)
  | .adoptionInserted adoption external adopted record =>
    match updateDiscoveredExternalOrder world.externals adopted external.version with
    | .error _ => some (world.refuse tx adoption external)
    | .ok (_, written) => some (world.moveTo tx (.adoptionUpdated external written record))
  | .preparing record =>
    let returned := world.externals.filter (isUnownedInScope (recordScope record))
    (world.take tx (returned.map (fun external => .external external.externalOrderId))).map
      fun world =>
        match world.externals.find?
            (isActiveUnowned record.environment record.accountNo record.symbol) with
        | some _ => world.leave tx
        | none => world.moveTo tx (.externalsFenced record)
  | .externalsFenced record =>
    match world.orders.find?
        (isActiveAdopted record.environment record.accountNo record.symbol "") with
    | some _ => some (world.leave tx)
    | none => some (world.moveTo tx (.ordersFenced record))
  | .ordersFenced record =>
    (world.take tx (orderKeys record)).map fun world =>
      match insertExecutionOrder world.orders record with
      | .error _ => world.leave tx
      | .ok _ => world.moveTo tx (.submissionInserted record)
  | .reconciling (write :: rest) written => world.writeExternal tx rest written write
  | _ => none

variable (world : AdoptionWorld Tx)

/-- What a commit makes of the tables. -/
def commit (tx : Tx) : Option (AdoptionWorld Tx) :=
  match world.stage tx with
  | .adoptionUpdated external written record =>
    some { world.leave tx with
      externals := store DiscoveredExternalOrder.externalOrderId written world.externals
      orders := world.orders ++ [record]
      adoptions := world.adoptions ++ [external.externalOrderId] }
  | .submissionInserted record =>
    some { world.leave tx with
      orders := world.orders ++ [record]
      prepares := world.prepares ++
        [{ record := record, externals := world.externals, orders := world.orders }] }
  | .reconciling [] written =>
    some { world.leave tx with
      externals := putAll DiscoveredExternalOrder.externalOrderId written world.externals }
  | _ => none

/-- A transaction of its own that updates one order. -/
def progress (record : ExecutionOrderRecord) (expectedVersion : Int) : Option (AdoptionWorld Tx) :=
  if KeepsOrigin world.orders record ∧ ∀ key ∈ orderKeys record, world.holder key = none then
    match updateExecutionOrder world.orders record expectedVersion with
    | .error _ => some world
    | .ok (orders, _) => some { world with orders := orders }
  else none

def next : AdoptionStep Tx → Option (AdoptionWorld Tx)
  | .begin tx call =>
    match world.stage tx with
    | .outside =>
      if call.ReadFrom world.externals then some (world.moveTo tx call.start) else none
    | _ => none
  | .statement tx => world.statement tx
  | .commit tx => world.commit tx
  | .abort tx => some (world.leave tx)
  | .progress record expectedVersion => world.progress record expectedVersion

end AdoptionWorld

end QuantApp.Services
