import QuantApp.Core.TradeCardState
import QuantApp.Verified.Dictionary

/-!
# Runtime cycles and their cards

`_load_cards_if_changed`, `_run_one_cycle` and `_persist_changed` of
`src/ui/buyboard/runtime_worker.py`.  A cycle works on the objects of the card cache:
its stages change them in place, and what they report as changed is written at the end,
one card at a time.  What a stage makes of a card is left open here; that a cycle takes a
breach for handled only where it takes the liquidation for stored is not.

Every other writer of the table, the board commands of this process included, may
commit between any two steps, and an exception may end a cycle anywhere.
-/

namespace QuantApp.Services

open Core Verified
open TradeCardState (cardKey exitAllRequired)

/-- A row of `trade_cards`; the version of the payload is the version column. -/
structure TradeCardRow where
  card : TradeCardState
  updatedAt : Instant
  deriving DecidableEq

abbrev TradeCardRows := Dictionary CardKey TradeCardRow

structure TradeCardCollectionRevision where
  rowCount : Nat
  versionSum : Int
  updatedAt : Option Instant
  deriving DecidableEq

/-- `get_trade_card_collection_revision`. -/
def tradeCardCollectionRevision (rows : TradeCardRows) : TradeCardCollectionRevision where
  rowCount := rows.size
  versionSum := (rows.values.map (fun row => row.card.version)).sum
  updatedAt := (rows.values.map TradeCardRow.updatedAt).max?

/-! ## Loading -/

/-- The card cache of the worker. -/
structure CardCache where
  crossDeviceOperatorSync : Bool
  cachedCards : List TradeCardState := []
  cardCacheInitialized : Bool := false
  cardCollectionRevision : Option TradeCardCollectionRevision := none
  localCardChangeGeneration : Nat := 0
  lastCardChangePulseGeneration : Nat := 0
  lastCardRevisionCheckedAt : Option Instant := none

/-- What one load finds outside the worker. -/
structure LoadMoment where
  now : Instant
  localGeneration : Nat := 0
  pulseGeneration : Nat := 0
  interval : Int := 0

namespace CardCache

variable (cache : CardCache)

/-- The first gate of `_load_cards_if_changed`: nothing calls for a look at the table. -/
def isFresh (force : Bool) (moment : LoadMoment) : Bool :=
  !force && cache.cardCacheInitialized &&
    moment.localGeneration == cache.localCardChangeGeneration &&
    (!cache.crossDeviceOperatorSync ||
      moment.pulseGeneration == cache.lastCardChangePulseGeneration) &&
    cache.lastCardRevisionCheckedAt.any (fun checkedAt =>
      !cache.crossDeviceOperatorSync || moment.now - checkedAt < moment.interval)

/-- `_load_cards_if_changed`: the cache after it, and whether the cards were read from the
table. -/
def loadCardsIfChanged (force : Bool) (moment : LoadMoment)
    (rows : TradeCardRows) : CardCache × Bool :=
  if cache.isFresh force moment then (cache, false)
  else
    let revision := tradeCardCollectionRevision rows
    let checked := { cache with
      lastCardRevisionCheckedAt := some moment.now
      localCardChangeGeneration := moment.localGeneration
      lastCardChangePulseGeneration := moment.pulseGeneration }
    if force = false ∧ cache.cardCacheInitialized = true ∧
        cache.cardCollectionRevision = some revision then (checked, false)
    else
      ({ checked with
          cachedCards := rows.values.map TradeCardRow.card
          cardCacheInitialized := true
          cardCollectionRevision := some revision }, true)

/-- The object of a card in the cache. -/
def object (key : CardKey) : Option TradeCardState :=
  lookup TradeCardState.cardKey key cache.cachedCards

/-- A change of the object of a card in place. -/
def setObject (card : TradeCardState) : CardCache :=
  { cache with cachedCards := store TradeCardState.cardKey card cache.cachedCards }

end CardCache

/-- `_card_requires_quote_subscription`; the second argument tells whether the session of
a BUY_TODAY card is current. -/
def cardRequiresQuoteSubscription (sessionIsCurrent : TradeCardState → Bool)
    (card : TradeCardState) : Bool :=
  match card.boardStatus with
  | .buyToday => sessionIsCurrent card
  | .entryPending | .openPosition | .partialSell | .sellAll => true
  | _ => false

/-! ## A cycle -/

/-- What `acknowledge_stop_breach` is called with. -/
structure BreachIdentity where
  symbol : String
  cardKey : CardKey
  version : String
  deriving DecidableEq

inductive CyclePhase where
  | idle
  /-- Before the stored liquidations are counted: loads, commands, reconciliation, ORB plans. -/
  | loading
  /-- Quotes, the heartbeat and the rotated quotes. -/
  | working
  /-- `_persist_changed`. -/
  | persisting
  /-- `_acknowledge_market_breach_candidates`. -/
  | acknowledging
  deriving DecidableEq

/-- The worker, with the local variables of `_run_one_cycle`. -/
structure CycleState where
  cache : CardCache
  phase : CyclePhase := .idle
  canonicalAvailable : Bool := false
  observed : List CardKey := []
  /-- `durably_liquidating_card_keys`. -/
  durablyLiquidating : List CardKey := []
  changed : List CardKey := []
  breachAckCandidates : List BreachIdentity := []
  /-- What `_persist_changed` still has to write. -/
  toPersist : List CardKey := []
  persisted : List CardKey := []
  /-- The breaches still to be acknowledged. -/
  toAcknowledge : List BreachIdentity := []

/-- How the write of one card ends: committed, committed with an exception after it, or not
committed, where the object may have the version of the write already. -/
inductive PersistOutcome where
  | committed
  | committedRaised
  | notCommitted (bumped : Bool)

/-- What one round of `_persist_changed` leaves: the row it stored, the object, and whether
the card counts as persisted. -/
structure PersistedCard where
  stored : Option TradeCardRow
  object : TradeCardState
  reported : Bool

/-- The write of one card with the version it has, and its end. -/
def writeCard (now : Instant) (version : Int) (object : TradeCardState) :
    PersistOutcome → PersistedCard
  | .committed =>
    let written := { object with version := version, updatedAt := now }
    { stored := some { card := written, updatedAt := now }, object := written, reported := true }
  | .committedRaised =>
    let written := { object with version := version, updatedAt := now }
    { stored := some { card := written, updatedAt := now }, object := written
      reported := false }
  | .notCommitted bumped =>
    { stored := none
      object := { object with
        version := if bumped then version else object.version
        updatedAt := now }
      reported := false }

/-- One round of `_persist_changed`: `update_trade_card` under the version of the object, or
`create_trade_card` where there is no row. -/
def persistCard (now : Instant) (row : Option TradeCardRow) (object : TradeCardState)
    (outcome : PersistOutcome) : PersistedCard :=
  match row with
  | none => writeCard now 1 object outcome
  | some row =>
    if row.card.version = object.version then
      writeCard now (object.version + 1) object outcome
    else
      -- `TradeCardVersionConflictError`
      { stored := none, object := { object with updatedAt := now }, reported := false }

namespace CycleState

variable (state : CycleState)

/-- The start of `_run_one_cycle`. -/
def begin (databaseWritable databaseProbeCompleted : Bool) : CycleState :=
  { cache := state.cache, phase := .loading
    canonicalAvailable := databaseWritable || !databaseProbeCompleted }

/-- The cards that are observed, and those of them a breach of which counts as handled. -/
def observe (sessionIsCurrent : TradeCardState → Bool) : CycleState :=
  let observationCards :=
    state.cache.cachedCards.filter (cardRequiresQuoteSubscription sessionIsCurrent)
  { state with
    phase := .working
    observed := observationCards.map TradeCardState.cardKey
    durablyLiquidating :=
      (observationCards.filter TradeCardState.exitAllRequired).map TradeCardState.cardKey }

/-- A stage changes a card, and reports it or not (`_track`). -/
def change (card : TradeCardState) (reported : Bool) : CycleState :=
  { state with
    cache := state.cache.setObject card
    changed := if reported then state.changed.insert card.cardKey else state.changed }

variable (key : CardKey)

/-- `set.add`, for the candidates of the observed cards that have to be liquidated. -/
def addCandidate (version : String) (admitted : TradeCardState → Bool) : CycleState :=
  match state.cache.object key with
  | none => state
  | some card =>
    if key ∈ state.observed ∧ card.exitAllRequired ∧ admitted card then
      { state with
        breachAckCandidates := state.breachAckCandidates.insert
          { symbol := card.symbol, cardKey := key, version := version } }
    else state

/-- `_collect_market_breach_ack_candidates`, for one breached stop version of a quote. -/
def collectMarketBreachAckCandidate (version : String) : CycleState :=
  state.addCandidate key version (fun _ => true)

/-- `_latch_pending_stop_breaches`, for one card of the pending handoff and its stop
generation. -/
def latchPendingStopBreach (version : String) : CycleState :=
  if version = "0" then state
  else state.addCandidate key version (fun card => card.pendingStop.price.isSome)

/-- The stages are through: `_persist_changed` starts where the database is available. -/
def finish : CycleState :=
  { state with
    phase := .persisting
    toPersist := if state.canonicalAvailable then state.changed else [] }

def durableBreachKeys : List CardKey :=
  state.durablyLiquidating ++
    state.persisted.filter (fun key => (state.cache.object key).any TradeCardState.exitAllRequired)

/-- The breaches `_acknowledge_market_breach_candidates` acknowledges. -/
def settle : CycleState :=
  { state with
    phase := .acknowledging
    toAcknowledge := state.breachAckCandidates.filter
      (fun breach => breach.cardKey ∈ state.durableBreachKeys) }

end CycleState

end QuantApp.Services
