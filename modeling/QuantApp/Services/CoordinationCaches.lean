import QuantApp.Core.DiscoveredExternalOrder
import QuantApp.Services.CapitalAllocator
import QuantApp.Services.RuntimeCycle
import Mathlib.Logic.Function.Basic

/-!
# The caches of the runtime cycle

`_load_cards_if_changed` of `src/ui/buyboard/runtime_worker.py` and
`load_account_local_state` of `src/services/account_reconciliation.py`, with the counters
that write transactions of the same process advance: the card generation after every card
statement, the write generation after every statement on orders, reservations or external
orders, and the table generations of `src/services/coordination_change_pulse.py` in the
commit listener.  A commit takes effect one step after its listener.

Every step adds a moment to the log.  The listeners are installed, a statement changes at
least one row, and the clock is an argument of the steps that read it.
-/

namespace QuantApp.Services

open Core Verified

/-! ## The tables and their writes -/

inductive CoordinationTable
  | tradeCards
  | executionOrders
  | capitalReservations
  | discoveredExternalOrders
  deriving DecidableEq

def TradeCardRow.key (row : TradeCardRow) : CardKey := row.card.cardKey

/-- What is committed. -/
structure CoordinationRows where
  tradeCards : List TradeCardRow := []
  executionOrders : List ExecutionOrderRecord := []
  capitalReservations : List CapitalReservation := []
  externalOrders : List DiscoveredExternalOrder := []

/-- A statement of a write transaction.  Cards are inserted at version 1 and updated from an
expected version; the other tables may be changed in any way. -/
inductive CoordinationWrite
  | insertCard (row : TradeCardRow)
  | updateCard (row : TradeCardRow) (expectedVersion : Int)
  | orders (change : List ExecutionOrderRecord → List ExecutionOrderRecord)
  | reservations (change : List CapitalReservation → List CapitalReservation)
  | externals (change : List DiscoveredExternalOrder → List DiscoveredExternalOrder)

def CoordinationWrite.table : CoordinationWrite → CoordinationTable
  | .insertCard _ => .tradeCards
  | .updateCard _ _ => .tradeCards
  | .orders _ => .executionOrders
  | .reservations _ => .capitalReservations
  | .externals _ => .discoveredExternalOrders

def TradeCardRow.versioned (row : TradeCardRow) (version : Int) : TradeCardRow :=
  { row with card := { row.card with version := version } }

/-- The rows after a statement; none where it raises. -/
def CoordinationWrite.apply (rows : CoordinationRows) :
    CoordinationWrite → Option CoordinationRows
  | .insertCard row =>
    if row.key ∈ rows.tradeCards.map TradeCardRow.key then none
    else some { rows with tradeCards := rows.tradeCards ++ [row.versioned 1] }
  | .updateCard row expectedVersion =>
    match lookup TradeCardRow.key row.key rows.tradeCards with
    | none => none
    | some stored =>
      if stored.card.version ≠ expectedVersion then none
      else some { rows with
        tradeCards := store TradeCardRow.key (row.versioned (expectedVersion + 1)) rows.tradeCards }
  | .orders change => some { rows with executionOrders := change rows.executionOrders }
  | .reservations change =>
    some { rows with capitalReservations := change rows.capitalReservations }
  | .externals change => some { rows with externalOrders := change rows.externalOrders }

def applyWrites (rows : CoordinationRows) (writes : List CoordinationWrite) :
    Option CoordinationRows :=
  writes.foldlM CoordinationWrite.apply rows

/-! ## Transactions -/

/-- What the process shares at one moment: the committed rows and the counters. -/
structure CoordinationMoment where
  rows : CoordinationRows := {}
  cardGeneration : Nat := 0
  writeGeneration : Nat := 0
  remoteGeneration : Nat := 0
  tableGeneration : CoordinationTable → Nat := fun _ => 0

variable (moment : CoordinationMoment)

/-- `_mark_local_trade_card_changed`, or the `after_execute` listener. -/
def CoordinationMoment.marked (write : CoordinationWrite) : CoordinationMoment :=
  if write.table = .tradeCards then
    { moment with cardGeneration := moment.cardGeneration + 1 }
  else { moment with writeGeneration := moment.writeGeneration + 1 }

/-- The tables' generations move on. -/
def CoordinationMoment.pulsed (tables : List CoordinationTable) : CoordinationMoment :=
  { moment with
    tableGeneration := fun table =>
      if table ∈ tables then moment.tableGeneration table + 1
      else moment.tableGeneration table }

/-- `_mark_local_change` in the commit listener. -/
def CoordinationMoment.listened (written : List CoordinationWrite) : CoordinationMoment :=
  moment.pulsed (written.map CoordinationWrite.table)

/-- `mark_remote_coordination_change`: an event without tables is for all of them. -/
def CoordinationMoment.remotelyPulsed (tables : List CoordinationTable) : CoordinationMoment :=
  if tables = [] then { moment with remoteGeneration := moment.remoteGeneration + 1 }
  else moment.pulsed tables

/-- Where a transaction stands: what it has written and what it has still to write; a
statement has returned before its mark is made. -/
inductive TransactionStage
  | outside
  | executing (written rest : List CoordinationWrite)
  | returned (written : List CoordinationWrite) (write : CoordinationWrite)
      (rest : List CoordinationWrite)
  | committing (written : List CoordinationWrite)

inductive TransactionStep
  | begin (writes : List CoordinationWrite)
  | execute
  | mark
  | listen
  | takeEffect
  | rollBack

def TransactionStage.next :
    TransactionStage → TransactionStep → Option (TransactionStage × CoordinationMoment)
  | .outside, .begin writes => some (.executing [] writes, moment)
  | .executing written (write :: rest), .execute =>
    some (.returned written write rest, moment)
  | .returned written write rest, .mark =>
    some (.executing (written ++ [write]) rest, moment.marked write)
  | .executing written [], .listen => some (.committing written, moment.listened written)
  | .committing written, .takeEffect =>
    (applyWrites moment.rows written).map (fun rows => (.outside, { moment with rows := rows }))
  | .executing _ _, .rollBack => some (.outside, moment)
  | .returned _ _ _, .rollBack => some (.outside, moment)
  | .committing _, .rollBack => some (.outside, moment)
  | _, _ => none

/-! ## `_load_cards_if_changed` -/

/-- The fields of the worker and the constants that the two functions read; times are in
microseconds. -/
structure CacheConfig where
  environment : String
  accountNo : String
  crossDevice : Bool
  interval : Int
  reconciliationCache : Int

def CacheConfig.covers (config : CacheConfig) (row : TradeCardRow) : Bool :=
  (config.environment = "" || row.card.environment = upper config.environment) &&
    (config.accountNo = "" || row.card.accountNo = config.accountNo)

/-- The rows that a query of the worker selects. -/
def selectedCards (config : CacheConfig) (rows : CoordinationRows) : List TradeCardRow :=
  rows.tradeCards.filter config.covers

/-- `get_trade_card_collection_revision` of the selected rows. -/
def collectionRevision (selected : List TradeCardRow) : TradeCardCollectionRevision :=
  { rowCount := selected.length
    versionSum := (selected.map (fun row => row.card.version)).sum
    updatedAt := (selected.map TradeCardRow.updatedAt).max? }

/-- The token of `coordination_table_change_generation` for the cards. -/
def cardPulse : Nat × Nat := (moment.remoteGeneration, moment.tableGeneration .tradeCards)

structure LoadedCards where
  initialized : Bool := false
  cards : List TradeCardState := []
  revision : Option TradeCardCollectionRevision := none
  checkedAt : Option Instant := none
  localGeneration : Nat := 0
  pulseGeneration : Nat × Nat := (0, 0)

/-- Where a call stands, with the moment it started at. -/
inductive CardCall
  | idle
  | started (start : Nat) (now : Instant) (force : Bool)
  | readLocal (start : Nat) (now : Instant) (force : Bool) (localGeneration : Nat)
  | querying (start : Nat) (now : Instant) (force : Bool) (localGeneration : Nat)
      (pulseGeneration : Nat × Nat)
  | listing (start : Nat) (localGeneration : Nat) (pulseGeneration : Nat × Nat)
      (revision : TradeCardCollectionRevision)

/-- The worker's cache, its call, and what its calls have returned. -/
structure CardReader where
  cache : LoadedCards := {}
  call : CardCall := .idle
  answers : List (Nat × List TradeCardState) := []

inductive CardCallStep
  | begin (now : Instant) (force : Bool)
  | readLocal
  | readPulse
  | queryRevision
  | queryFails
  | listCards
  | listFails

/-- Nothing has changed as far as the generations tell. -/
def LoadedCards.hit (config : CacheConfig) (cache : LoadedCards) (now : Instant) (force : Bool)
    (localGeneration : Nat) (pulseGeneration : Nat × Nat) : Bool :=
  !force && cache.initialized && localGeneration = cache.localGeneration &&
    (!config.crossDevice || pulseGeneration = cache.pulseGeneration) &&
    cache.checkedAt.isSome &&
    (!config.crossDevice || decide (now - cache.checkedAt.getD 0 < config.interval))

def CardReader.answered (reader : CardReader) (start : Nat) (cards : List TradeCardState) :
    CardReader :=
  { reader with call := .idle, answers := reader.answers ++ [(start, cards)] }

/-- The revision is the cached one, and a reload is not forced. -/
def LoadedCards.unchanged (cache : LoadedCards) (force : Bool)
    (revision : TradeCardCollectionRevision) : Bool :=
  !force && cache.initialized && cache.revision = some revision

/-- One statement of the call; `index` is the number of the present moment. -/
def CardReader.next (config : CacheConfig) (moment : CoordinationMoment) (index : Nat)
    (reader : CardReader) : CardCallStep → Option CardReader
  | .begin now force =>
    match reader.call with
    | .idle => some { reader with call := .started index now force }
    | _ => none
  | .readLocal =>
    match reader.call with
    | .started start now force =>
      some { reader with call := .readLocal start now force moment.cardGeneration }
    | _ => none
  | .readPulse =>
    match reader.call with
    | .readLocal start now force localGeneration =>
      if reader.cache.hit config now force localGeneration (cardPulse moment) then
        some (reader.answered start reader.cache.cards)
      else
        some { reader with
          call := .querying start now force localGeneration (cardPulse moment) }
    | _ => none
  | .queryRevision =>
    match reader.call with
    | .querying start now force localGeneration pulseGeneration =>
      let revision := collectionRevision (selectedCards config moment.rows)
      let checked : CardReader := { reader with
        cache := { reader.cache with
          checkedAt := some now
          localGeneration := localGeneration
          pulseGeneration := pulseGeneration } }
      if reader.cache.unchanged force revision then
        some (checked.answered start reader.cache.cards)
      else
        some { checked with
          call := .listing start localGeneration pulseGeneration revision }
    | _ => none
  | .queryFails =>
    match reader.call with
    | .querying _ _ _ _ _ => some { reader with call := .idle }
    | _ => none
  | .listCards =>
    match reader.call with
    | .listing start _ _ revision =>
      let cards := (selectedCards config moment.rows).map TradeCardRow.card
      let loaded : CardReader := { reader with
        cache := { reader.cache with
          cards := cards
          initialized := true
          revision := some revision } }
      some (loaded.answered start cards)
    | _ => none
  | .listFails =>
    match reader.call with
    | .listing _ _ _ _ => some { reader with call := .idle }
    | _ => none

/-! ## `load_account_local_state` -/

/-- The environment and the account of a call. -/
abbrev AccountKey := String × String

/-- The relational part of an `AccountLocalState`. -/
structure RelationalState where
  executionOrders : List ExecutionOrderRecord := []
  capitalReservations : List CapitalReservation := []
  externalOrders : List DiscoveredExternalOrder := []

variable (key : AccountKey)

variable (rows : CoordinationRows)

def listExecutionOrdersForAccount : List ExecutionOrderRecord :=
  rows.executionOrders.filter (fun order => order.environment = key.1 && order.accountNo = key.2)

/-- `list_active_reservations` of the account. -/
def listReservationsForAccount : List CapitalReservation :=
  listActiveReservations rows.capitalReservations key.1 key.2

/-- `list_discovered_external_orders_for_account`. -/
def listExternalOrdersForAccount : List DiscoveredExternalOrder :=
  rows.externalOrders.filter (fun order => order.environment = key.1 && order.accountNo = key.2)

/-- The write generation, and the token of the three tables. -/
abbrev StateGeneration := Nat × Nat × Nat × Nat × Nat

def statePulse (moment : CoordinationMoment) : Nat × Nat × Nat × Nat :=
  (moment.remoteGeneration, moment.tableGeneration .capitalReservations,
    moment.tableGeneration .discoveredExternalOrders, moment.tableGeneration .executionOrders)

def stateGeneration (moment : CoordinationMoment) : StateGeneration :=
  (moment.writeGeneration, statePulse moment)

/-- `_CachedAccountRelationalState`. -/
structure CachedRelationalState where
  generation : StateGeneration
  loadedAt : Int
  state : RelationalState

/-- Where a call stands: what it has read so far. -/
inductive StateCall
  | idle
  | started (start : Nat) (key : AccountKey)
  | readWrites (start : Nat) (key : AccountKey) (writes : Nat)
  | generated (start : Nat) (key : AccountKey) (generation : StateGeneration)
  | missed (start : Nat) (key : AccountKey) (generation : StateGeneration) (now : Int)
  | readOrders (start : Nat) (key : AccountKey) (generation : StateGeneration) (now : Int)
      (orders : List ExecutionOrderRecord)
  | readReservations (start : Nat) (key : AccountKey) (generation : StateGeneration)
      (now : Int) (orders : List ExecutionOrderRecord) (reservations : List CapitalReservation)
  | readAll (start : Nat) (key : AccountKey) (generation : StateGeneration) (now : Int)
      (state : RelationalState)
  | rereadWrites (start : Nat) (key : AccountKey) (generation : StateGeneration) (now : Int)
      (state : RelationalState) (writes : Nat)
  | verified (start : Nat) (key : AccountKey) (generation : StateGeneration) (now : Int)
      (state : RelationalState)

/-- What a call has returned. -/
structure StateAnswer where
  start : Nat
  key : AccountKey
  state : RelationalState

/-- The cache that all callers share, their calls, and what these have returned. -/
structure StateReaders (Reader : Type) where
  cache : AccountKey → Option CachedRelationalState := fun _ => none
  calls : Reader → StateCall := fun _ => .idle
  answers : List StateAnswer := []

inductive StateStep
  | begin (key : AccountKey)
  | readWrites
  | readPulse
  | lookUp (now : Int) (notificationsAvailable : Bool)
  | listOrders
  | listReservations
  | listExternals
  | rereadWrites
  | rereadPulse
  | keep
  | fails

/-- The cached entry may be used. -/
def CachedRelationalState.usable (config : CacheConfig) (cached : CachedRelationalState)
    (generation : StateGeneration) (now : Int) (notificationsAvailable : Bool) : Bool :=
  cached.generation = generation &&
    (notificationsAvailable || decide (now - cached.loadedAt < config.reconciliationCache))

section Readers

variable {Reader : Type} [DecidableEq Reader]

def StateReaders.at (readers : StateReaders Reader) (reader : Reader) (call : StateCall) :
    StateReaders Reader :=
  { readers with calls := Function.update readers.calls reader call }

def StateReaders.answered (readers : StateReaders Reader) (reader : Reader)
    (answer : StateAnswer) : StateReaders Reader :=
  { readers.at reader .idle with answers := readers.answers ++ [answer] }

/-- One statement of a call. -/
def StateReaders.next (config : CacheConfig) (moment : CoordinationMoment) (index : Nat)
    (readers : StateReaders Reader) (reader : Reader) :
    StateCall → StateStep → Option (StateReaders Reader)
  | .idle, .begin key => some (readers.at reader (.started index key))
  | .started start key, .readWrites =>
    some (readers.at reader (.readWrites start key moment.writeGeneration))
  | .readWrites start key writes, .readPulse =>
    some (readers.at reader (.generated start key (writes, statePulse moment)))
  | .generated start key generation, .lookUp now notificationsAvailable =>
    match readers.cache key with
    | some cached =>
      if cached.usable config generation now notificationsAvailable then
        some (readers.answered reader ⟨start, key, cached.state⟩)
      else some (readers.at reader (.missed start key generation now))
    | none => some (readers.at reader (.missed start key generation now))
  | .missed start key generation now, .listOrders =>
    some (readers.at reader (.readOrders start key generation now
      (listExecutionOrdersForAccount key moment.rows)))
  | .readOrders start key generation now orders, .listReservations =>
    some (readers.at reader (.readReservations start key generation now orders
      (listReservationsForAccount key moment.rows)))
  | .readReservations start key generation now orders reservations, .listExternals =>
    some (readers.at reader (.readAll start key generation now
      ⟨orders, reservations, listExternalOrdersForAccount key moment.rows⟩))
  | .readAll start key generation now state, .rereadWrites =>
    some (readers.at reader (.rereadWrites start key generation now state moment.writeGeneration))
  | .rereadWrites start key generation now state writes, .rereadPulse =>
    if (writes, statePulse moment) = generation then
      some (readers.at reader (.verified start key generation now state))
    else some (readers.answered reader ⟨start, key, state⟩)
  | .verified start key generation now state, .keep =>
    some { readers.answered reader ⟨start, key, state⟩ with
      cache := Function.update readers.cache key (some ⟨generation, now, state⟩) }
  | .missed _ _ _ _, .fails => some (readers.at reader .idle)
  | .readOrders _ _ _ _ _, .fails => some (readers.at reader .idle)
  | .readReservations _ _ _ _ _ _, .fails => some (readers.at reader .idle)
  | _, _ => none

end Readers

/-! ## The whole process -/

inductive CacheStep (Tx Reader : Type)
  | transaction (tx : Tx) (step : TransactionStep)
  | remote (tables : List CoordinationTable)
  | cards (step : CardCallStep)
  | states (reader : Reader) (step : StateStep)

structure CacheWorld (Tx Reader : Type) where
  moment : CoordinationMoment := {}
  past : List CoordinationMoment := []
  transactions : Tx → TransactionStage := fun _ => .outside
  cards : CardReader := {}
  states : StateReaders Reader := {}

section World

variable {Tx Reader : Type} [DecidableEq Tx] [DecidableEq Reader]

/-- All moments, the present one last. -/
def CacheWorld.moments (world : CacheWorld Tx Reader) : List CoordinationMoment :=
  world.past ++ [world.moment]

/-- What a step does beside adding a moment. -/
def CacheWorld.act (config : CacheConfig) (world : CacheWorld Tx Reader) :
    CacheStep Tx Reader → Option (CacheWorld Tx Reader)
  | .transaction tx step =>
    ((world.transactions tx).next world.moment step).map (fun moved =>
      { world with
        transactions := Function.update world.transactions tx moved.1
        moment := moved.2 })
  | .remote tables => some { world with moment := world.moment.remotelyPulsed tables }
  | .cards step =>
    (world.cards.next config world.moment world.past.length step).map
      (fun cards => { world with cards := cards })
  | .states reader step =>
    (world.states.next config world.moment world.past.length reader
      (world.states.calls reader) step).map (fun states => { world with states := states })

def CacheWorld.next (config : CacheConfig) (world : CacheWorld Tx Reader)
    (step : CacheStep Tx Reader) : Option (CacheWorld Tx Reader) :=
  (world.act config step).map (fun after => { after with past := world.moments })

end World

end QuantApp.Services
