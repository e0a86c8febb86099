import QuantApp.Services.StopRequests
import QuantApp.Verified.Dictionary

/-!
# The coordinator of stop changes

`src/services/stop_change_coordinator.py`: the pending stop of every card as it was last
committed in this process, laid over the card objects of the runtime worker that were read
before.  Below it, the durable rows, the card objects in memory, and the critical sections of
the card locks in which a row is committed and the coordinator told.
-/

namespace QuantApp.Services

open Core Verified

structure CoordinatedStopChange where
  cardKey : CardKey
  commandId : String
  requestCardVersion : Int
  stopType : Option StopType
  price : ℚ
  quantity : Int
  requestedAt : Instant
  deriving DecidableEq

/-- The two columns in which a position is held. -/
def inOpenPosition (card : TradeCardState) : Bool :=
  card.boardStatus = .openPosition || card.boardStatus = .partialSell

namespace CoordinatedStopChange

def fromCard (card : TradeCardState) : Except Raised CoordinatedStopChange :=
  if card.pendingStop.commandId = "" then
    .error { cls := .valueError, message := "Card does not contain a pending stop change" }
  else
    match card.pendingStop.price, card.pendingStop.requestedAt with
    | none, _ =>
      .error { cls := .valueError, message := "Card does not contain a pending stop change" }
    | some _, none =>
      .error
        { cls := .valueError
          message := "Pending stop change has no durable request timestamp" }
    | some price, some requestedAt =>
      .ok
        { cardKey := card.cardKey
          commandId := card.pendingStop.commandId
          requestCardVersion := card.version
          stopType := card.pendingStop.stopType
          price := price
          quantity := card.pendingStop.quantity
          requestedAt := requestedAt }

variable (change : CoordinatedStopChange)

def matchesActive (card : TradeCardState) : Bool :=
  card.stopType = change.stopType && card.activeStopPrice = some change.price &&
    card.stopQuantity = change.quantity && card.pendingStop.commandId = ""

/-- The pending fields the change was made from. -/
def pendingStop : PendingStop :=
  { stopType := change.stopType
    price := some change.price
    quantity := change.quantity
    commandId := change.commandId
    requestedAt := some change.requestedAt }

def applyTo (card : TradeCardState) : TradeCardState :=
  { card with pendingStop := change.pendingStop }

/-- A later version of the card without a pending stop. -/
def supersededBy (card : TradeCardState) : Bool :=
  change.requestCardVersion < card.version && card.pendingStop.commandId = ""

end CoordinatedStopChange

/-- `StopChangeCoordinator._pending`. -/
abbrev StopChangeCoordinator := Dictionary CardKey CoordinatedStopChange

namespace StopChangeCoordinator

variable (coordinator : StopChangeCoordinator)

def recordDurable (card : TradeCardState) :
    Except Raised StopChangeCoordinator := do
  let change ← CoordinatedStopChange.fromCard card
  pure (coordinator.set change.cardKey change)

def reconcileDurable (card : TradeCardState) : StopChangeCoordinator × Bool :=
  match coordinator.get? card.cardKey with
  | none => (coordinator, false)
  | some change =>
    if card.pendingStop.commandId = change.commandId then (coordinator, false)
    else if change.matchesActive card ∨ change.supersededBy card then
      (coordinator.erase card.cardKey, true)
    else (coordinator, false)

/-- One card of `overlay_pending`, with the copy of the entries the call has taken. -/
def overlayCard (pending coordinator : StopChangeCoordinator) (card : TradeCardState) :
    StopChangeCoordinator × TradeCardState :=
  match pending.get? card.cardKey with
  | none => (coordinator, card)
  | some change =>
    if card.pendingStop.commandId = change.commandId then (coordinator, change.applyTo card)
    else if change.matchesActive card then (coordinator, card)
    else if !inOpenPosition card then (coordinator, card)
    else if change.supersededBy card then ((coordinator.reconcileDurable card).1, card)
    else if card.pendingStop.commandId ≠ "" then (coordinator, card)
    else (coordinator, change.applyTo card)

def overlayCards (pending : StopChangeCoordinator) :
    StopChangeCoordinator → List TradeCardState → StopChangeCoordinator × List TradeCardState
  | coordinator, [] => (coordinator, [])
  | coordinator, card :: cards =>
    let first := overlayCard pending coordinator card
    let rest := overlayCards pending first.1 cards
    (rest.1, first.2 :: rest.2)

def overlayPending (cards : List TradeCardState) : StopChangeCoordinator × List TradeCardState :=
  overlayCards coordinator coordinator cards

end StopChangeCoordinator

/-! ## Rows, objects and locks -/

/-- A card object in memory, with the version of the newest request it has carried. -/
structure HeldCard where
  card : TradeCardState
  carried : Option Int := none
  deriving DecidableEq

def HeldCard.key (held : HeldCard) : CardKey := held.card.cardKey

/-- The row a write of the object stores. -/
def HeldCard.written (held : HeldCard) : TradeCardState :=
  { held.card with version := held.card.version + 1 }

/-- What is still to be told to the coordinator before the lock of the card is released: the
card of a committed request, or that of another committed write. -/
inductive Publication where
  | record (card : TradeCardState)
  | reconcile (card : TradeCardState)

def Publication.card : Publication → TradeCardState
  | .record card => card
  | .reconcile card => card

/-- A request that cannot be recorded raises, and changes nothing. -/
def Publication.publish (coordinator : StopChangeCoordinator) :
    Publication → StopChangeCoordinator
  | .record card =>
    match coordinator.recordDurable card with
    | .ok recorded => recorded
    | .error _ => coordinator
  | .reconcile card => (coordinator.reconcileDurable card).1

/-- The rows, the coordinator, the publications under way under the locks of their cards, and
the objects in memory.  `newest` is the newest durable request of a card; it is `outstanding`
until a durable write has completed or superseded it. -/
structure StopChangeWorld where
  rows : Dictionary CardKey TradeCardState
  coordinator : StopChangeCoordinator := ∅
  locked : Dictionary CardKey Publication := ∅
  held : List HeldCard := []
  newest : Dictionary CardKey CoordinatedStopChange := ∅
  outstanding : Dictionary CardKey CoordinatedStopChange := ∅

/-- A request commits a row, as does a write of an object; both are published before the lock
is released.  An object is read from its row, edited in memory and overlaid. -/
inductive StopChangeStep where
  | request (config : ExecutionConfig) (key : CardKey) (request : StopRequest)
  | write (i : Nat)
  | publish (key : CardKey)
  | load (key : CardKey)
  | edit (i : Nat) (after : TradeCardState)
  | overlay (i : Nat)

/-- Outside of requests an object keeps its identity and version, and its pending stop unless it
is emptied. -/
def KeepsRequest (before after : TradeCardState) : Prop :=
  after.cardKey = before.cardKey ∧ after.version = before.version ∧
    (after.pendingStop = before.pendingStop ∨ after.pendingStop.commandId = "")

instance (before after : TradeCardState) : Decidable (KeepsRequest before after) :=
  inferInstanceAs (Decidable (_ ∧ _ ∧ (_ ∨ _)))

namespace StopChangeWorld

variable (world : StopChangeWorld)

/-- No object is in memory and the coordinator is empty. -/
def start (cards : List TradeCardState) : StopChangeWorld :=
  { rows := Dictionary.fileUnder TradeCardState.cardKey cards }

/-- The version the newest request of a card was committed with. -/
def newestVersion (key : CardKey) : Option Int :=
  (world.newest.get? key).map CoordinatedStopChange.requestCardVersion

def commitRequest (config : ExecutionConfig) (key : CardKey) (request : StopRequest) :
    StopChangeWorld :=
  if key ∈ world.locked then world
  else
    match world.rows.get? key with
    | none => world
    | some row =>
      match requestStop config row request with
      | .error _ => world
      | .ok card =>
        let written := { card with version := row.version + 1 }
        let world :=
          { world with
            rows := world.rows.set key written
            locked := world.locked.set key (.record written) }
        match CoordinatedStopChange.fromCard written with
        | .error _ => world
        | .ok change =>
          { world with
            newest := world.newest.set key change
            outstanding := world.outstanding.set key change }

variable (i : Nat)

variable (held : HeldCard)

/-- The object is committed, and has the new version. -/
def stored : StopChangeWorld :=
  let kept := (world.outstanding.get? held.key).any
    (fun change => change.commandId = held.written.pendingStop.commandId)
  { world with
    rows := world.rows.set held.key held.written
    locked := world.locked.set held.key (.reconcile held.written)
    held := world.held.set i { held with card := held.written }
    outstanding := if kept then world.outstanding else world.outstanding.erase held.key }

/-- `update_trade_card` under the version of the object. -/
def commitWrite : StopChangeWorld :=
  match world.held[i]? with
  | none => world
  | some held =>
    match world.rows.get? held.key with
    | none => world
    | some row =>
      if held.key ∈ world.locked ∨ row.version ≠ held.card.version then world
      else world.stored i held

def publish (key : CardKey) : StopChangeWorld :=
  match world.locked.get? key with
  | none => world
  | some publication =>
    { world with
      coordinator := publication.publish world.coordinator
      locked := world.locked.erase key }

def load (key : CardKey) : StopChangeWorld :=
  match world.rows.get? key with
  | none => world
  | some row =>
    { world with held := world.held ++ [{ card := row, carried := world.newestVersion key }] }

def edit (after : TradeCardState) : StopChangeWorld :=
  match world.held[i]? with
  | none => world
  | some held =>
    if KeepsRequest held.card after then
      { world with held := world.held.set i { held with card := after } }
    else world

/-- The coordinator and the object after an overlay. -/
def overlaid : StopChangeCoordinator × TradeCardState :=
  world.coordinator.overlayCard world.coordinator held.card

/-- The newest request the object has carried after the overlay. -/
def carriedAfter : Option Int :=
  match world.coordinator.get? held.key with
  | none => held.carried
  | some change =>
    if (world.overlaid held).2.pendingStop.commandId = change.commandId then
      some change.requestCardVersion
    else held.carried

def overlay : StopChangeWorld :=
  match world.held[i]? with
  | none => world
  | some held =>
    if held.key ∈ world.locked then world
    else
      { world with
        coordinator := (world.overlaid held).1
        held := world.held.set i
          { card := (world.overlaid held).2, carried := world.carriedAfter held } }

/-- A step that waits for a lock, raises or names nothing leaves the world as it is. -/
def next : StopChangeStep → StopChangeWorld
  | .request config key request => world.commitRequest config key request
  | .write i => world.commitWrite i
  | .publish key => world.publish key
  | .load key => world.load key
  | .edit i after => world.edit i after
  | .overlay i => world.overlay i

end StopChangeWorld

end QuantApp.Services
