import QuantApp.Services.RealtimeMarketData
import QuantApp.Verified.KeyedTable

/-!
# The pending market state of a symbol

`PendingMarketState` and `PendingMarketStateAccumulator` of
`src/services/kis_realtime_market_data.py`.  Each definition is what one of the
accumulator's methods does under one of its locks; the calls that take several
locks in turn are put together in `AccumulatorCalls`.

A Python set is a list of its elements, and a dictionary the list of its rows
in insertion order; where the code takes some element of a set it takes the
first one here.
-/

namespace QuantApp.Services

open Core Verified

structure StopRule where
  cardKey : String
  price : ℚ
  version : String
  deriving DecidableEq

/-- The identity a breach of the rule is known by. -/
def StopRule.identity (rule : StopRule) : StopIdentity := (rule.cardKey, rule.version)

/-- `set.add`. -/
def addIdentity (identity : StopIdentity) (identities : List StopIdentity) : List StopIdentity :=
  if identity ∈ identities then identities else identities ++ [identity]

@[simp] theorem mem_addIdentity {identity other : StopIdentity} {identities : List StopIdentity} :
    other ∈ addIdentity identity identities ↔ other = identity ∨ other ∈ identities := by
  unfold addIdentity
  split
  · rename_i hPresent
    constructor
    · exact Or.inr
    · rintro (rfl | hOther)
      · exact hPresent
      · exact hOther
  · simp [or_comm]

/-- `set.update`. -/
def addIdentities (added identities : List StopIdentity) : List StopIdentity :=
  added.foldl (fun identities identity => addIdentity identity identities) identities

@[simp] theorem mem_addIdentities {identity : StopIdentity} {added identities : List StopIdentity} :
    identity ∈ addIdentities added identities ↔ identity ∈ added ∨ identity ∈ identities := by
  unfold addIdentities
  induction added generalizing identities with
  | nil => simp
  | cons first added ih =>
    rw [List.foldl_cons, ih, mem_addIdentity, List.mem_cons]
    tauto

/-! ## One generation of a symbol -/

structure PendingMarketState where
  latestTrade : Option QuoteSnapshot := none
  latestQuote : Option QuoteSnapshot := none
  minimumTrade : Option QuoteSnapshot := none
  maximumTrade : Option QuoteSnapshot := none
  minimumTradePriceSinceDrain : Option ℚ := none
  maximumTradePriceSinceDrain : Option ℚ := none
  firstEventAt : Option Instant := none
  lastEventAt : Option Instant := none
  eventCount : Nat := 0
  stopBreachLatched : Bool := false
  breachedStopVersion : Option String := none
  breachedStopVersions : List StopIdentity := []

namespace PendingMarketState

variable (pending : PendingMarketState)

/-- `PendingMarketState._record_event`. -/
def recordEvent (observedAt : Instant) : PendingMarketState :=
  { pending with
    firstEventAt := some (pending.firstEventAt.getD observedAt)
    lastEventAt := some observedAt
    eventCount := pending.eventCount + 1 }

/-- The identities of the rules a price breaches. -/
def breachedBy (price : ℚ) (stopRules : List StopRule) : List StopIdentity :=
  (stopRules.filter (fun rule => price ≤ rule.price)).map StopRule.identity

/-- `PendingMarketState.add_trade`. -/
def addTrade (quote : QuoteSnapshot) (stopRules : List StopRule) : PendingMarketState :=
  let price := quote.lastPrice
  let latest := { pending with latestTrade := some quote }
  if quote.regularSession = false then latest.recordEvent quote.receivedAt
  else
    let lowers := pending.minimumTradePriceSinceDrain.all (fun minimum => price < minimum)
    let raises := pending.maximumTradePriceSinceDrain.all (fun maximum => maximum < price)
    let breached := addIdentities (breachedBy price stopRules) pending.breachedStopVersions
    { latest with
      minimumTradePriceSinceDrain :=
        if lowers then some price else pending.minimumTradePriceSinceDrain
      minimumTrade := if lowers then some quote else pending.minimumTrade
      maximumTradePriceSinceDrain :=
        if raises then some price else pending.maximumTradePriceSinceDrain
      maximumTrade := if raises then some quote else pending.maximumTrade
      breachedStopVersions := breached
      stopBreachLatched := !breached.isEmpty
      breachedStopVersion :=
        if breached.isEmpty then pending.breachedStopVersion
        else breached.head?.map Prod.snd }.recordEvent quote.receivedAt

/-- `PendingMarketState.add_quote`. -/
def addQuote (quote : QuoteSnapshot) : PendingMarketState :=
  { pending with latestQuote := some quote }.recordEvent quote.receivedAt

/-- The breach fields, recomputed from a set of identities. -/
def withBreaches (breached : List StopIdentity) : PendingMarketState :=
  { pending with
    breachedStopVersions := breached
    stopBreachLatched := !breached.isEmpty
    breachedStopVersion := breached.head?.map Prod.snd }

/-- The events `drain_all` and `poll_once` can take from a generation. -/
def representatives : List QuoteSnapshot :=
  [pending.minimumTrade, pending.maximumTrade, pending.latestTrade].filterMap id

end PendingMarketState

structure DetachedMarketState where
  symbol : String
  pending : PendingMarketState
  stopRules : List StopRule
  detachedAt : Instant
  latchReplay : Bool := false

/-! ## The bucket of a symbol -/

/-- A value of `_Bucket.pending_breaches` with its key. -/
structure PendingBreach where
  identity : StopIdentity
  quote : QuoteSnapshot
  rule : StopRule

structure Bucket where
  pending : PendingMarketState := {}
  stopRules : List StopRule := []
  pendingBreaches : List PendingBreach := []

/-- `pending_breaches.get`. -/
def Bucket.breach (bucket : Bucket) (identity : StopIdentity) : Option PendingBreach :=
  lookup PendingBreach.identity identity bucket.pendingBreaches

/-- `pending_breaches.setdefault`. -/
def setDefaultBreach (breach : PendingBreach) (breaches : List PendingBreach) :
    List PendingBreach :=
  if (lookup PendingBreach.identity breach.identity breaches).isSome then breaches
  else breaches ++ [breach]

/-- Two rule dictionaries with the same rows. -/
def sameRules (rules rules' : List StopRule) : Bool :=
  rules.length = rules'.length &&
    rules.all (fun rule => lookup StopRule.cardKey rule.cardKey rules' = some rule)

namespace Bucket

variable (bucket : Bucket)

variable (quote : QuoteSnapshot)

/-- The new identities of a trade, each with the rule it breaches. -/
def newBreaches : List PendingBreach :=
  let before := bucket.pending.breachedStopVersions
  let after := (bucket.pending.addTrade quote bucket.stopRules).breachedStopVersions
  (after.filter (fun identity => identity ∉ before)).filterMap (fun identity =>
    match lookup StopRule.cardKey identity.1 bucket.stopRules with
    | some rule =>
      if rule.version = identity.2 then
        some { identity := identity, quote := quote, rule := rule }
      else none
    | none => none)

/-- `publish_trade`, under the bucket's lock. -/
def publishTrade : Bucket :=
  { bucket with
    pending := bucket.pending.addTrade quote bucket.stopRules
    pendingBreaches :=
      (bucket.newBreaches quote).foldl (fun breaches breach => setDefaultBreach breach breaches)
        bucket.pendingBreaches }

/-- `publish_quote`, under the bucket's lock. -/
def publishQuote : Bucket := { bucket with pending := bucket.pending.addQuote quote }

/-- `latch_breach`, under the bucket's lock. -/
def latchBreach (cardKey version : String) (quote : QuoteSnapshot) (stopPrice : ℚ) : Bucket :=
  let identity := (cardKey, version)
  let rule : StopRule := { cardKey := cardKey, price := stopPrice, version := version }
  { bucket with
    pendingBreaches :=
      setDefaultBreach { identity := identity, quote := quote, rule := rule }
        bucket.pendingBreaches
    pending :=
      { bucket.pending with
        breachedStopVersions := addIdentity identity bucket.pending.breachedStopVersions
        stopBreachLatched := true
        breachedStopVersion := some version } }

/-- `replace_stop_rules`, under the bucket's lock: the detached generation and the
bucket with the new rules, or nothing when the rules are the ones installed. -/
def rotate (symbol : String) (rules : List StopRule) (now : Instant) :
    Option (DetachedMarketState × Bucket) :=
  let newRules := putAll StopRule.cardKey rules []
  if sameRules bucket.stopRules newRules then none
  else
    some ({ symbol := symbol, pending := bucket.pending, stopRules := bucket.stopRules
            detachedAt := now },
          { bucket with stopRules := newRules, pending := {} })

/-- `drain`, under the bucket's lock. -/
def drain (symbol : String) (now : Instant) : DetachedMarketState × Bucket :=
  let breached := addIdentities (bucket.pendingBreaches.map PendingBreach.identity)
    bucket.pending.breachedStopVersions
  ({ symbol := symbol, pending := bucket.pending.withBreaches breached
     stopRules := bucket.stopRules, detachedAt := now },
   { bucket with pending := {} })

/-- `acknowledge_breach`, under the bucket's lock, for an outstanding identity. -/
def acknowledge (identity : StopIdentity) : Bucket :=
  { bucket with
    pendingBreaches := bucket.pendingBreaches.filter (fun breach => breach.identity ≠ identity)
    pending := bucket.pending.withBreaches
      (bucket.pending.breachedStopVersions.filter (fun other => other ≠ identity)) }

end Bucket

variable (item : DetachedMarketState)

/-- `acknowledge_breach`, under the lock of the detached generations. -/
def DetachedMarketState.acknowledge (identity : StopIdentity) : DetachedMarketState :=
  { item with
    pending := item.pending.withBreaches
      (item.pending.breachedStopVersions.filter (fun other => other ≠ identity)) }

/-! ## Draining -/

/-- A drained item without the identities that are no longer outstanding. -/
def DetachedMarketState.prune (outstanding : List PendingBreach) : DetachedMarketState :=
  { item with
    pending := item.pending.withBreaches
      (item.pending.breachedStopVersions.filter (fun identity =>
        (lookup PendingBreach.identity identity outstanding).isSome)) }

/-- The identities of a pruned item whose breaching event the item itself carries. -/
def DetachedMarketState.represented (outstanding : List PendingBreach) : List StopIdentity :=
  item.pending.breachedStopVersions.filter (fun identity =>
    (lookup PendingBreach.identity identity outstanding).any (fun breach =>
      breach.quote ∈ item.pending.representatives))

/-- The replay of an outstanding breach. -/
def latchReplay (symbol : String) (breach : PendingBreach) (now : Instant) : DetachedMarketState :=
  { symbol := symbol
    pending :=
      { latestTrade := some breach.quote
        minimumTrade := some breach.quote
        maximumTrade := some breach.quote
        minimumTradePriceSinceDrain := some breach.quote.lastPrice
        maximumTradePriceSinceDrain := some breach.quote.lastPrice
        firstEventAt := some breach.quote.receivedAt
        lastEventAt := some breach.quote.receivedAt
        eventCount := 1
        stopBreachLatched := true
        breachedStopVersion := some breach.identity.2
        breachedStopVersions := [breach.identity] }
    stopRules := [breach.rule]
    detachedAt := now
    latchReplay := true }

/-- The replays of a symbol's outstanding breaches that no drained item represents. -/
def replaysOf (symbol : String) (outstanding : List PendingBreach)
    (represented : List StopIdentity) (now : Instant) : List DetachedMarketState :=
  (outstanding.filter (fun breach => breach.identity ∉ represented)).map
    (fun breach => latchReplay symbol breach now)

/-- `drain_all` returns the items with an event or a breach. -/
def DetachedMarketState.isDelivered : Bool :=
  item.pending.eventCount ≠ 0 || item.pending.stopBreachLatched

end QuantApp.Services
