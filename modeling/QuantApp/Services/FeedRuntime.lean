import QuantApp.Services.FeedEvents

/-!
# Health and errors of the feed's channels

What the events of a feed make of the health and the errors of its channels: `_reject_event`,
`_record_valid_channel_event_locked`, `clear_symbol_error` and `_expire_ack_timeouts` of
`src/services/kis_realtime_market_data.py`, and what `is_symbol_execution_ready` asks of them.
Acknowledgements, connections and configurations are those of the subscriptions.
-/

namespace QuantApp.Services

open Core Verified

namespace FeedStates

def rejectEvent (states : FeedStates) (symbol : String) (channel : FeedChannel)
    (health : ClockHealth) : FeedStates :=
  let text := EventIntake.rejectionText channel health
  let state := (states.stateOf symbol).update channel
    (fun feed => { feed with clockHealth := health, error := text })
  states.set symbol { state with clockHealth := health, lastError := text }

end FeedStates

/-- The first health that is not HEALTHY. -/
def summaryHealth (trade quote : ClockHealth) : ClockHealth :=
  if trade ≠ .healthy then trade else quote

/-- The first text that is not empty. -/
def firstText (texts : List String) : String := (texts.find? (· ≠ "")).getD ""

/-- `_record_valid_channel_event_locked`. -/
def SymbolFeedState.recordValidChannelEvent (state : SymbolFeedState) (channel : FeedChannel) :
    SymbolFeedState :=
  let state := state.update channel (fun feed =>
    { feed with
      clockHealth := .healthy
      error :=
        if feed.error = EventIntake.rejectionText channel feed.clockHealth then ""
        else feed.error })
  { state with
    clockHealth := summaryHealth state.trade.clockHealth state.quote.clockHealth
    lastError := firstText
      [state.quote.configurationError, state.trade.configurationError, state.quote.error,
        state.trade.error] }

/-- `clear_symbol_error`, for the state of the symbol. -/
def SymbolFeedState.clearError (state : SymbolFeedState) : SymbolFeedState :=
  { state with
    lastError := ""
    trade := { state.trade with error := "", clockHealth := .healthy }
    quote := { state.quote with error := "", clockHealth := .healthy }
    clockHealth := .healthy }

def ackTimeoutText (channel : FeedChannel) : String := channel.value ++ " subscription ACK timeout"

/-- One channel of `_expire_ack_timeouts`. -/
def SymbolFeedState.expireAckTimeout (rules : EventRules) (now : Instant) (channel : FeedChannel)
    (state : SymbolFeedState) : SymbolFeedState :=
  let feed := state.channel channel
  if feed.acked = false ∧ feed.requestedAt.any (rules.subscriptionAckTimeout < now - ·) ∧
      feed.error ≠ ackTimeoutText channel then
    { state.update channel (fun feed => { feed with error := ackTimeoutText channel }) with
      lastError := ackTimeoutText channel }
  else state

def FeedStates.expireAckTimeouts (rules : EventRules) (now : Instant) (states : FeedStates) :
    FeedStates :=
  states.mapValues (fun _ state =>
    (state.expireAckTimeout rules now .trade).expireAckTimeout rules now .quote)

/-- The subscriptions, the accepted events and the times of the last ones. -/
structure FeedRuntime where
  service : FeedService
  intake : EventIntake := {}
  lastEventAt : Dictionary (String × FeedChannel) Instant := ∅

namespace FeedRuntime

def withStates (runtime : FeedRuntime) (states : FeedStates) : FeedRuntime :=
  { runtime with service := { runtime.service with states := states } }

/-- `ingest_trade` and `ingest_quote`, without the accumulator the accepted event goes to. -/
def ingest (rules : EventRules) (runtime : FeedRuntime) (channel : FeedChannel)
    (quote : QuoteSnapshot) : FeedRuntime :=
  let states := runtime.service.states
  let answer := runtime.intake.acceptEvent rules channel quote
  let runtime := { runtime with intake := answer.2 }
  match answer.1 with
  | .accepted =>
    { runtime.withStates (states.set quote.symbol
        ((states.stateOf quote.symbol).recordValidChannelEvent channel)) with
      lastEventAt := runtime.lastEventAt.set (quote.symbol, channel) quote.brokerEventAt }
  | .rejected health => runtime.withStates (states.rejectEvent quote.symbol channel health)
  | .suppressed | .duplicate => runtime

def clearSymbolError (runtime : FeedRuntime) (symbol : String) : FeedRuntime :=
  let states := runtime.service.states
  runtime.withStates (states.set (upper symbol) (states.stateOf (upper symbol)).clearError)

end FeedRuntime

/-- What happens to a feed.  The acknowledgements that came before a connection are steps of
their own after it. -/
inductive RuntimeStep where
  | ingest (channel : FeedChannel) (quote : QuoteSnapshot)
  | ack (now : Instant) (frame : KisWsSystemFrame)
  | configure (configuration : FeedConfiguration) (resolver : SymbolKeyResolver) (now : Instant)
  | opened (connected : Bool) (generation : Int) (now : Instant)
  | clearSymbolError (symbol : String)
  | expireAckTimeouts (now : Instant)

namespace FeedRuntime

def next (rules : EventRules) (runtime : FeedRuntime) : RuntimeStep → FeedRuntime
  | .ingest channel quote => runtime.ingest rules channel quote
  | .ack now frame => { runtime with service := runtime.service.onAck now frame }
  | .configure configuration resolver now =>
    { runtime with service := runtime.service.configure configuration resolver now }
  | .opened connected generation now =>
    { runtime with
      service := runtime.service.openSession connected generation now
      intake := runtime.intake.onConnection rules connected }
  | .clearSymbolError symbol => runtime.clearSymbolError symbol
  | .expireAckTimeouts now =>
    runtime.withStates (runtime.service.states.expireAckTimeouts rules now)

def run (rules : EventRules) (runtime : FeedRuntime) (steps : List RuntimeStep) : FeedRuntime :=
  steps.foldl (next rules) runtime

end FeedRuntime

/-! ## Readiness -/

/-- `BROKER_EVENT_STALE_SECONDS`, `LOCAL_RECEIVE_STALE_SECONDS` and
`MAX_MARKET_DATA_QUEUE_DELAY_SECONDS`. -/
structure FreshnessBudgets where
  brokerEventStale : Int
  localReceiveStale : Int
  marketDataQueueDelay : Int

/-- `QuoteSnapshot.is_execution_fresh`. -/
def QuoteSnapshot.isExecutionFresh (budgets : FreshnessBudgets) (now : Instant)
    (quote : QuoteSnapshot) : Bool :=
  decide (0 ≤ now - quote.brokerEventAt) &&
    decide (now - quote.brokerEventAt ≤ budgets.brokerEventStale) &&
    decide (0 ≤ now - quote.receivedAt) &&
    decide (now - quote.receivedAt ≤ budgets.localReceiveStale) &&
    decide (max 0 (quote.processedAt - quote.receivedAt) ≤ budgets.marketDataQueueDelay)

/-- What readiness reads beside the states. -/
structure ReadinessInputs where
  budgets : FreshnessBudgets
  transportConnected : Bool
  latestQuote : Option QuoteSnapshot

/-- A required channel is acknowledged, has a slot and a recent event. -/
def FeedRuntime.channelReady (budgets : FreshnessBudgets) (now : Instant)
    (runtime : FeedRuntime) (symbol : String) (channel : FeedChannel) : Bool :=
  let feed := (runtime.service.states.stateOf symbol).channel channel
  feed.acked && !feed.rejectedDueToCapacity &&
    (runtime.lastEventAt.get? (symbol, channel)).any
      (fun event => decide (now - event ≤ budgets.brokerEventStale))

def FeedRuntime.isSymbolExecutionReady (rules : EventRules) (inputs : ReadinessInputs)
    (runtime : FeedRuntime) (symbol : String) (requireTrade requireQuote : Bool)
    (now : Instant) : Bool :=
  let runtime := runtime.withStates (runtime.service.states.expireAckTimeouts rules now)
  let symbol := upper symbol
  let state := runtime.service.states.stateOf symbol
  runtime.service.connected && inputs.transportConnected && decide (state.lastError = "") &&
    decide (state.clockHealth = .healthy) &&
    (!requireTrade || runtime.channelReady inputs.budgets now symbol .trade) &&
    (!requireQuote || runtime.channelReady inputs.budgets now symbol .quote) &&
    inputs.latestQuote.any (·.isExecutionFresh inputs.budgets now)

end QuantApp.Services
