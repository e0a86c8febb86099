import Mathlib.Data.List.Sort
import QuantApp.Core.Runtime
import QuantApp.Verified.Dictionary

/-!
# The subscriptions of the realtime feed

`KisRealtimeMarketDataService` of `src/services/kis_realtime_market_data.py`, as far as
it decides what is subscribed: the desired channels of the symbols, the target they
are resolved to, the set the transport replays on a reconnect, the slots of the
present session and the acknowledgements that move them.

The calls to the transport and the alerts are collected in order.  The clock is read
once for each call here.
-/

namespace QuantApp.Services

open Core Verified

def tradeTrId : String := "HDFSCNT0"

def quoteTrId : String := "HDFSASP0"

def kisWsVerifiedTotalSubscriptionLimit : Int := 41

/-- What the broker knows a subscription by: its `tr_id` and its `tr_key`. -/
abbrev SubscriptionKey := String × String

structure KisWsSubscription where
  trId : String
  trKey : String
  symbol : String := ""
  channel : String := ""

def KisWsSubscription.key (sub : KisWsSubscription) : SubscriptionKey := (sub.trId, sub.trKey)

structure KisWsSystemFrame where
  trId : String
  trKey : String := ""
  accepted : Bool := false
  messageCode : String := ""
  message : String := ""
  isUnsubscribe : Bool := false

def KisWsSystemFrame.key (frame : KisWsSystemFrame) : SubscriptionKey := (frame.trId, frame.trKey)

/-- An acknowledgement that came before its connection was announced. -/
abbrev EarlyAck := { frame : KisWsSystemFrame // frame.isUnsubscribe = false }

inductive FeedChannel where
  | trade
  | quote
  deriving DecidableEq

def FeedChannel.value : FeedChannel → String
  | .trade => "TRADE"
  | .quote => "QUOTE"

def FeedChannel.trId : FeedChannel → String
  | .trade => tradeTrId
  | .quote => quoteTrId

/-- The position of the channel in `channel_inputs`. -/
def FeedChannel.order : FeedChannel → Nat
  | .trade => 0
  | .quote => 1

/-- The channel a subscription feeds; execution notices feed none. -/
def KisWsSubscription.feeds (sub : KisWsSubscription) : Option FeedChannel :=
  if sub.trId = tradeTrId then some .trade
  else if sub.trId = quoteTrId then some .quote
  else none

inductive ClockHealth where
  | healthy
  | futureTimestamp
  | excessiveSkew
  | nonMonotonic
  | sequenceRegression
  | sequenceMissing
  deriving DecidableEq

inductive SubscriptionSessionStatus where
  | pendingSubscribe
  | active
  | pendingUnsubscribe
  deriving DecidableEq

/-- The fields `SymbolFeedState` has once for each channel. -/
structure ChannelFeedState where
  desired : Bool := false
  acked : Bool := false
  rejectedDueToCapacity : Bool := false
  requestedAt : Option Instant := none
  error : String := ""
  configurationError : String := ""
  clockHealth : ClockHealth := .healthy

structure SymbolFeedState where
  symbol : String
  trade : ChannelFeedState := {}
  quote : ChannelFeedState := {}
  lastError : String := ""
  clockHealth : ClockHealth := .healthy
  reconnectGeneration : Int := 0

namespace SymbolFeedState

variable (state : SymbolFeedState)

def channel : FeedChannel → ChannelFeedState
  | .trade => state.trade
  | .quote => state.quote

/-- Change the fields of one channel. -/
def update (channel : FeedChannel)
    (change : ChannelFeedState → ChannelFeedState) : SymbolFeedState :=
  match channel with
  | .trade => { state with trade := change state.trade }
  | .quote => { state with quote := change state.quote }

@[simp] theorem channel_update_self (channel : FeedChannel)
    (change : ChannelFeedState → ChannelFeedState) :
    (state.update channel change).channel channel = change (state.channel channel) := by
  cases channel
  · rfl
  · rfl

theorem channel_update_of_ne {channel other : FeedChannel}
    (change : ChannelFeedState → ChannelFeedState) (hne : other ≠ channel) :
    (state.update channel change).channel other = state.channel other := by
  cases channel
  · cases other
    · exact absurd rfl hne
    · rfl
  · cases other
    · rfl
    · exact absurd rfl hne

end SymbolFeedState

/-- What is asked of the transport. -/
inductive TransportCall where
  | subscribe (sub : KisWsSubscription)
  | unsubscribe (sub : KisWsSubscription)
  | forgetSubscriptions (sub : KisWsSubscription)

/-- `symbol_key_resolver`: the key of a symbol's channel, stripped and empty where there
is none, or the text of the exception. -/
abbrev SymbolKeyResolver := String → FeedChannel → Except String String

abbrev Priorities := Dictionary String Int

abbrev FeedStates := Dictionary String SymbolFeedState

namespace FeedStates

variable (states : FeedStates)

/-- `_states.setdefault(symbol, SymbolFeedState(symbol=symbol))`. -/
def stateOf (symbol : String) : SymbolFeedState := (states.get? symbol).getD { symbol := symbol }

variable (sub : KisWsSubscription)

/-- Change the channel a subscription feeds; nothing for a subscription of no symbol. -/
def updateChannel (change : ChannelFeedState → ChannelFeedState) : FeedStates :=
  if sub.symbol = "" then states
  else
    let state := states.stateOf sub.symbol
    states.set sub.symbol
      (match sub.feeds with
      | none => state
      | some channel => state.update channel change)

/-- `_mark_channel_requested_locked`. -/
def markChannelRequested (now : Instant) (states : FeedStates) (sub : KisWsSubscription) :
    FeedStates :=
  states.updateChannel sub
    (fun channel => { channel with acked := false, requestedAt := some now })

/-- `_clear_channel_ack_locked`. -/
def clearChannelAck : FeedStates :=
  states.updateChannel sub
    (fun channel => { channel with acked := false, requestedAt := none })

/-- `_record_subscription_ack_locked`.  The symbol of a slot has a state. -/
def recordSubscriptionAck : FeedStates :=
  let states := states.updateChannel sub
    (fun channel => { channel with acked := true, requestedAt := none, error := "" })
  let state := states.stateOf sub.symbol
  if sub.symbol ≠ "" ∧ state.trade.error = "" ∧ state.quote.error = "" then
    states.set sub.symbol { state with lastError := "" }
  else states

/-- `_record_subscription_error_locked`.  The symbol of a slot has a state. -/
def recordSubscriptionError (message : String) : FeedStates :=
  let states := states.updateChannel sub
    (fun channel => { channel with error := message, requestedAt := none })
  if sub.symbol = "" then states
  else states.set sub.symbol { states.stateOf sub.symbol with lastError := message }

end FeedStates

structure FeedService where
  tradeCapacity : Nat
  quoteCapacity : Nat
  totalCapacity : Nat
  executionNoticeSubscription : Option KisWsSubscription
  states : FeedStates := ∅
  tradePriorities : Priorities := ∅
  quotePriorities : Priorities := ∅
  targetSubscriptions : Dictionary SubscriptionKey KisWsSubscription := ∅
  /-- What the transport replays on a reconnect, acknowledged or not. -/
  activeSubscriptions : Dictionary SubscriptionKey KisWsSubscription := ∅
  sessionSubscriptions : Dictionary SubscriptionKey KisWsSubscription := ∅
  sessionStatus : Dictionary SubscriptionKey SubscriptionSessionStatus := ∅
  sessionNacked : List SubscriptionKey := []
  preconnectionAcks : Dictionary SubscriptionKey EarlyAck := ∅
  maxSessionSlotsUsed : Nat := 0
  connected : Bool := false
  reconnectGeneration : Int := 0
  singleSessionConflictObservedAt : Option Instant := none
  singleSessionConflictReason : String := ""
  nackCount : Nat := 0
  transport : List TransportCall := []
  alerts : List String := []

namespace FeedService

/-! ## Symbol states -/

variable (service : FeedService)

/-- The symbols some replayed subscription of the channel is for. -/
def selectedSymbols (channel : FeedChannel) : List String :=
  (service.activeSubscriptions.values.filter (fun sub => sub.trId = channel.trId)).map
    KisWsSubscription.symbol

/-- The capacity rejection of one channel in `_refresh_capacity_rejections_locked`. -/
def withCapacityRejection (channel : FeedChannel) (state : SymbolFeedState) : SymbolFeedState :=
  state.update channel (fun feed =>
    let rejected := feed.desired && feed.configurationError = "" &&
      !(service.selectedSymbols channel).contains state.symbol
    { feed with
      rejectedDueToCapacity := rejected
      acked := if rejected then false else feed.acked })

/-- `_refresh_capacity_rejections_locked`. -/
def refreshCapacityRejections : FeedService :=
  { service with
    states := service.states.mapValues (fun _ state =>
      service.withCapacityRejection .quote (service.withCapacityRejection .trade state)) }

/-! ## The target -/

def priorities : FeedChannel → Priorities
  | .trade => service.tradePriorities
  | .quote => service.quotePriorities

def capacity : FeedChannel → Nat
  | .trade => service.tradeCapacity
  | .quote => service.quoteCapacity

/-- `prior_by_symbol_channel`: the subscription of the symbol and channel that must not be
replaced, the last one where several are pinned. -/
def priorSubscription (symbol : String) (channel : FeedChannel) : Option KisWsSubscription :=
  (service.activeSubscriptions.rows.reverse.find? (fun row =>
    row.2.symbol ≠ "" ∧ row.2.symbol = symbol ∧ row.2.channel = channel.value ∧
      (service.connected = false ∨ service.sessionStatus.get? row.1 = some .active))).map
    Prod.snd

variable (resolver : SymbolKeyResolver)

/-- The subscription of a desired channel, or its resolution error. -/
def resolveChannel (channel : FeedChannel) (symbol : String) : Except String KisWsSubscription :=
  let prior := service.priorSubscription symbol channel
  let retained (message : String) : Except String KisWsSubscription :=
    match prior with
    | none => .error message
    | some sub => .ok sub
  match resolver symbol channel with
  | .error message => retained message
  | .ok text =>
    let key := strip text
    if key = "" then retained s!"No KIS WebSocket subscription key configured for {symbol}"
    else
      let sub : KisWsSubscription :=
        { trId := channel.trId, trKey := key, symbol := symbol, channel := channel.value }
      match prior with
      | none => .ok sub
      | some pinned => .ok (if pinned.trKey ≠ sub.trKey then pinned else sub)

/-- The resolution error of a symbol's channel, empty where there is none. -/
def resolutionError (channel : FeedChannel) (symbol : String) : String :=
  if symbol ∈ service.priorities channel then
    match service.resolveChannel resolver channel symbol with
    | .error message => message
    | .ok _ => ""
  else ""

structure SubscriptionCandidate where
  priority : Int
  symbol : String
  channel : FeedChannel
  sub : KisWsSubscription

/-- The order of the tuples `(priority, symbol, channel_order, ...)`. -/
def subscriptionBefore (first second : SubscriptionCandidate) : Prop :=
  first.priority < second.priority ∨ first.priority = second.priority ∧
    (first.symbol < second.symbol ∨ first.symbol = second.symbol ∧
      first.channel.order ≤ second.channel.order)

instance : DecidableRel subscriptionBefore := fun first second =>
  inferInstanceAs (Decidable (first.priority < second.priority ∨
    first.priority = second.priority ∧ (first.symbol < second.symbol ∨
      first.symbol = second.symbol ∧ first.channel.order ≤ second.channel.order)))

/-- The candidates of one channel: its desired symbols in priority order, less the ones that
cannot be resolved, up to the capacity of the channel. -/
def channelCandidates (channel : FeedChannel) : List SubscriptionCandidate :=
  let resolved := (service.priorities channel).rows.filterMap (fun row =>
    match service.resolveChannel resolver channel row.1 with
    | .error _ => none
    | .ok sub => some { priority := row.2, symbol := row.1, channel := channel, sub := sub })
  (resolved.insertionSort subscriptionBefore).take (service.capacity channel)

/-- The target of `_rebalance_subscriptions`. -/
def resolvedTarget : Dictionary SubscriptionKey KisWsSubscription :=
  let candidates :=
    service.channelCandidates resolver .trade ++ service.channelCandidates resolver .quote
  let notice : Dictionary SubscriptionKey KisWsSubscription :=
    match service.executionNoticeSubscription with
    | none => ∅
    | some sub => if 0 < service.totalCapacity then (∅ : Dictionary _ _).set sub.key sub else ∅
  (candidates.insertionSort subscriptionBefore).foldl
    (fun target candidate => target.set candidate.sub.key candidate.sub) notice

/-! ## Reconciliation with the target -/

/-- One round of the first loop of `_reconcile_subscription_target_locked`: a replayed
subscription the target no longer has. -/
def retire (row : SubscriptionKey × KisWsSubscription) : FeedService :=
  let service := { service with
    transport := service.transport ++ [TransportCall.unsubscribe row.2]
    activeSubscriptions := service.activeSubscriptions.erase row.1
    states := service.states.clearChannelAck row.2 }
  if service.connected = true ∧ row.1 ∈ service.sessionStatus then
    { service with
      sessionSubscriptions := service.sessionSubscriptions.set row.1 row.2
      sessionStatus := service.sessionStatus.set row.1 .pendingUnsubscribe }
  else
    { service with
      sessionSubscriptions := service.sessionSubscriptions.erase row.1
      sessionStatus := service.sessionStatus.erase row.1 }

/-- `occupied`: the slots of the session, or of the next one where there is none. -/
def occupied : Nat :=
  if service.connected then service.sessionStatus.size else service.activeSubscriptions.size

/-- One round of the second loop, with its counter of occupied slots: a subscription of the
target that is not replayed yet. -/
def request (now : Instant) (state : FeedService × Nat)
    (row : SubscriptionKey × KisWsSubscription) : FeedService × Nat :=
  let (service, occupied) := state
  if row.1 ∈ service.activeSubscriptions ∨ row.1 ∈ service.sessionStatus then state
  else if row.1 ∈ service.sessionNacked ∨ service.totalCapacity ≤ occupied then state
  else
    let service := { service with
      transport := service.transport ++ [TransportCall.subscribe row.2]
      activeSubscriptions := service.activeSubscriptions.set row.1 row.2 }
    if service.connected then
      ({ service with
          sessionSubscriptions := service.sessionSubscriptions.set row.1 row.2
          sessionStatus := service.sessionStatus.set row.1 .pendingSubscribe
          states := service.states.markChannelRequested now row.2 }, occupied + 1)
    else (service, occupied + 1)

/-- The high-water mark of the occupied slots. -/
def noteSlotsUsed : FeedService :=
  { service with
    maxSessionSlotsUsed := max service.maxSessionSlotsUsed service.sessionStatus.size }

/-- The first half of `_reconcile_subscription_target_locked`: rejections and subscriptions
outside the target go. -/
def retireRemovals : FeedService :=
  let removals := service.activeSubscriptions.rows.filter
    (fun row => row.1 ∉ service.targetSubscriptions)
  removals.foldl retire { service with
    sessionNacked := service.sessionNacked.filter (· ∈ service.targetSubscriptions) }

/-- `_reconcile_subscription_target_locked`. -/
def reconcileSubscriptionTarget (now : Instant) (service : FeedService) : FeedService :=
  let service := service.retireRemovals
  let requested := service.targetSubscriptions.rows.foldl (request now) (service, service.occupied)
  requested.1.noteSlotsUsed

/-- The desired flag and the configuration error of one channel in
`_rebalance_subscriptions`. -/
def configureChannel (desired : Bool) (error : String) (feed : ChannelFeedState) :
    ChannelFeedState :=
  let configured := { feed with desired := desired, configurationError := error }
  if error = "" then configured else { configured with acked := false, requestedAt := none }

variable (resolver : SymbolKeyResolver)

/-- The state of one symbol in `_rebalance_subscriptions`. -/
def configureState (symbol : String) (state : SymbolFeedState) : SymbolFeedState :=
  let tradeError := service.resolutionError resolver .trade symbol
  let quoteError := service.resolutionError resolver .quote symbol
  let configurationError := if quoteError ≠ "" then quoteError else tradeError
  { state with
    trade := configureChannel (symbol ∈ service.tradePriorities) tradeError state.trade
    quote := configureChannel (symbol ∈ service.quotePriorities) quoteError state.quote
    lastError :=
      if configurationError ≠ "" then configurationError
      else if state.lastError = state.trade.configurationError ∨
          state.lastError = state.quote.configurationError then ""
      else state.lastError }

/-- `_rebalance_subscriptions` up to the reconciliation. -/
def retarget (service : FeedService) : FeedService :=
  let states := (service.tradePriorities.keys ++ service.quotePriorities.keys).foldl
    (fun states symbol => states.setDefault symbol { symbol := symbol }) service.states
  { service with
    states := states.mapValues (service.configureState resolver)
    targetSubscriptions := service.resolvedTarget resolver }

def rebalanceSubscriptions (now : Instant) (service : FeedService) : FeedService :=
  ((service.retarget resolver).reconcileSubscriptionTarget now).refreshCapacityRejections

/-- `_total_capacity`: one budget for all channels of the session. -/
def aggregateCapacity (trade quote : Nat) (notice : Option KisWsSubscription) :
    Option Int → Nat
  | none => trade + quote + (if notice.isSome then 1 else 0)
  | some total => (max 0 total).toNat

/-- The fields the constructor starts from. -/
def initial (tradeCapacity quoteCapacity totalCapacity : Nat)
    (executionNoticeSubscription : Option KisWsSubscription) : FeedService :=
  { tradeCapacity := tradeCapacity, quoteCapacity := quoteCapacity
    totalCapacity := totalCapacity
    executionNoticeSubscription := executionNoticeSubscription }

/-- The constructor: the capacities, then one rebalance without desired symbols. -/
def create (tradeCapacity quoteCapacity : Int) (totalCapacity : Option Int)
    (executionNoticeSubscription : Option KisWsSubscription) (resolver : SymbolKeyResolver)
    (now : Instant) : Except String FeedService :=
  let trade := (max 0 tradeCapacity).toNat
  let quote := (max 0 quoteCapacity).toNat
  let total := aggregateCapacity trade quote executionNoticeSubscription totalCapacity
  if kisWsVerifiedTotalSubscriptionLimit < total then
    .error ("KIS aggregate realtime capacity exceeds the credential-verified " ++
      s!"limit of {kisWsVerifiedTotalSubscriptionLimit}")
  else
    .ok ((initial trade quote total executionNoticeSubscription).rebalanceSubscriptions
      resolver now)

/-! ## Calls of the users of the feed -/

/-- The priorities of `configure_desired_channels`, under upper-case symbols. -/
def desiredPriorities (priorities : Priorities) : Priorities :=
  priorities.rows.foldl (fun desired row => desired.set (upper row.1) row.2) ∅

end FeedService

/-- The calls that change which symbols are desired, by the name of the method. -/
inductive FeedConfiguration where
  | subscribe (symbols : List String)
  | unsubscribe (symbols : List String)
  | configureDesiredChannels (tradePriorities quotePriorities : Priorities)

/-- What the call makes of the desired symbols. -/
def FeedConfiguration.apply (service : FeedService) : FeedConfiguration → FeedService
  | .subscribe symbols =>
    -- `SubscriptionPriority.DISPLAY_ONLY`
    let added := symbols.foldl (fun (priorities : Priorities) symbol =>
      priorities.setDefault (upper symbol) 6)
    { service with
      tradePriorities := added service.tradePriorities
      quotePriorities := added service.quotePriorities }
  | .unsubscribe symbols =>
    let removed := symbols.foldl (fun (priorities : Priorities) symbol =>
      priorities.erase (upper symbol))
    { service with
      tradePriorities := removed service.tradePriorities
      quotePriorities := removed service.quotePriorities }
  | .configureDesiredChannels tradePriorities quotePriorities =>
    { service with
      tradePriorities := FeedService.desiredPriorities tradePriorities
      quotePriorities := FeedService.desiredPriorities quotePriorities }

namespace FeedService

/-- `subscribe`, `unsubscribe` and `configure_desired_channels`. -/
def configure (configuration : FeedConfiguration) (resolver : SymbolKeyResolver) (now : Instant)
    (service : FeedService) : FeedService :=
  (configuration.apply service).rebalanceSubscriptions resolver now

/-! ## Calls of the transport -/

variable (now : Instant)

/-- The single-session conflict `_on_ack` records or forgets. -/
def noteSessionConflict (frame : KisWsSystemFrame) (service : FeedService) : FeedService :=
  if frame.accepted = false ∧ upper frame.messageCode = "OPSP8996" ∧
      "ALREADY IN USE".toList <:+: (upper frame.message).toList then
    { service with
      singleSessionConflictObservedAt := some now
      singleSessionConflictReason := frame.message }
  else if frame.accepted then
    { service with singleSessionConflictObservedAt := none, singleSessionConflictReason := "" }
  else service

/-- The message of a rejection, with its default. -/
def rejectionMessage (frame : KisWsSystemFrame) (default : String) : String :=
  if frame.message = "" then default else frame.message

variable (key : SubscriptionKey)

/-- An accepted unsubscribe: the slot is free. -/
def releaseSlot (sub : KisWsSubscription) (service : FeedService) : FeedService :=
  { service with
    sessionSubscriptions := service.sessionSubscriptions.erase key
    sessionStatus := service.sessionStatus.erase key
    states := service.states.clearChannelAck sub
  }.reconcileSubscriptionTarget now |>.refreshCapacityRejections

/-- A rejected unsubscribe did not release the slot, which stays occupied. -/
def keepSlot (sub : KisWsSubscription) (frame : KisWsSystemFrame)
    (service : FeedService) : FeedService :=
  let message := rejectionMessage frame "unsubscription NACK"
  { service with
    sessionStatus := service.sessionStatus.set key .active
    nackCount := service.nackCount + 1
    states := service.states.recordSubscriptionError sub message
    alerts := service.alerts ++
      [s!"KIS unsubscription rejected for {sub.trId}:{sub.trKey}: {message}"]
  }.refreshCapacityRejections

/-- An accepted subscribe. -/
def acknowledgeSlot (sub : KisWsSubscription) (service : FeedService) : FeedService :=
  { service with
    sessionStatus := service.sessionStatus.set key .active
    states := service.states.recordSubscriptionAck sub }

/-- A rejected subscribe frees the slot, and the key is not to be retried in the session. -/
def rejectSlot (sub : KisWsSubscription)
    (frame : KisWsSystemFrame) (service : FeedService) : FeedService :=
  let message := rejectionMessage frame "subscription NACK"
  { service with
    sessionSubscriptions := service.sessionSubscriptions.erase key
    sessionStatus := service.sessionStatus.erase key
    activeSubscriptions := service.activeSubscriptions.erase key
    sessionNacked := service.sessionNacked.insert key
    transport := service.transport ++ [TransportCall.forgetSubscriptions sub]
    nackCount := service.nackCount + 1
    states := (service.states.clearChannelAck sub).recordSubscriptionError sub message
    alerts := service.alerts ++
      [s!"KIS subscription rejected for {sub.trId}:{sub.trKey}: {message}"]
  }.reconcileSubscriptionTarget now |>.refreshCapacityRejections

/-- An acknowledgement of no slot: retained where it is early, otherwise dropped. -/
def retainEarlyAck (frame : KisWsSystemFrame) (service : FeedService) : FeedService :=
  if h : frame.isUnsubscribe = false ∧ service.connected = false ∧
      frame.key ∈ service.activeSubscriptions ∧ frame.key ∈ service.targetSubscriptions then
    { service with preconnectionAcks := service.preconnectionAcks.set frame.key ⟨frame, h.1⟩ }
  else service

def onAck (service : FeedService) (frame : KisWsSystemFrame) : FeedService :=
  let service := service.noteSessionConflict now frame
  let key := frame.key
  match service.sessionSubscriptions.get? key, service.sessionStatus.get? key with
  | some sub, some _ =>
    if frame.isUnsubscribe then
      if frame.accepted then service.releaseSlot now key sub
      else service.keepSlot key sub frame
    else if frame.accepted then service.acknowledgeSlot key sub
    else service.rejectSlot now key sub frame
  | _, _ => service.retainEarlyAck frame

variable (connected : Bool)

variable (generation : Int)

/-- The state of one symbol in `_on_connection`. -/
def connectionState (state : SymbolFeedState) : SymbolFeedState :=
  let unacked (feed : ChannelFeedState) : ChannelFeedState := { feed with acked := false }
  let state := { state with
    reconnectGeneration := generation
    trade := unacked state.trade
    quote := unacked state.quote }
  if connected = false then
    { state with
      trade := { state.trade with requestedAt := none }
      quote := { state.quote with requestedAt := none } }
  else if generation ≠ 0 then
    { state with
      lastError := ""
      trade := { state.trade with error := "", clockHealth := .healthy }
      quote := { state.quote with error := "", clockHealth := .healthy }
      clockHealth := .healthy }
  else state

/-- `_on_connection` up to the early acknowledgements: the tables of the old session go, and
the ones of a new session are the subscriptions the transport has replayed. -/
def openSession (now : Instant) (service : FeedService) : FeedService :=
  let states := service.states.mapValues (fun _ => connectionState connected generation)
  let service := { service with
    connected := connected
    reconnectGeneration := generation
    sessionSubscriptions := ∅
    sessionStatus := ∅
    sessionNacked := []
    preconnectionAcks := ∅
    states := states }
  if connected then
    { service with
      sessionSubscriptions := service.activeSubscriptions
      sessionStatus := service.activeSubscriptions.mapValues (fun _ _ => .pendingSubscribe)
      states := service.activeSubscriptions.values.foldl
        (FeedStates.markChannelRequested now) states
    }.noteSlotsUsed.reconcileSubscriptionTarget now |>.refreshCapacityRejections
  else service.refreshCapacityRejections

/-- `preconnection_acks`: what a connection replays to `_on_ack`. -/
def earlyAcks (service : FeedService) : List KisWsSystemFrame :=
  if connected then service.preconnectionAcks.values.map Subtype.val else []

def onConnection (now : Instant) (service : FeedService) : FeedService :=
  (service.earlyAcks connected).foldl (onAck now) (service.openSession connected generation now)

end FeedService

end QuantApp.Services
