import QuantApp.Services.FeedSubscriptions
import QuantApp.Services.RealtimeMarketData
import QuantApp.Verified.RecentWindow

/-!
# Which feed events are accepted

`_accept_event` of `src/services/kis_realtime_market_data.py`, the part of `_on_connection`
that forgets sequence numbers, and the suppression of channels: an event passes the clock and
sequence checks of its symbol's channel and is no repetition of a recent one, or it leaves the
cursors and the window of recent identities as they are.
-/

namespace QuantApp.Services

open Core Verified

/-- `ClockHealth.value`. -/
def ClockHealth.value : ClockHealth → String
  | .healthy => "HEALTHY"
  | .futureTimestamp => "FUTURE_TIMESTAMP"
  | .excessiveSkew => "EXCESSIVE_SKEW"
  | .nonMonotonic => "NON_MONOTONIC"
  | .sequenceRegression => "SEQUENCE_REGRESSION"
  | .sequenceMissing => "SEQUENCE_MISSING"

/-- The upper-case symbol and the channel of an event. -/
abbrev FeedKey := String × FeedChannel

/-- What an event is recognised by. -/
structure EventIdentity where
  channel : String
  sequence : Option Int
  tradeId : String
  brokerEventAt : Instant
  payloadFingerprint : String
  deriving DecidableEq

def QuoteSnapshot.identity (quote : QuoteSnapshot) : EventIdentity where
  channel := quote.channel
  sequence := quote.sequence
  tradeId := quote.tradeId
  brokerEventAt := quote.brokerEventAt
  payloadFingerprint := quote.payloadFingerprint

def QuoteSnapshot.feedKey (quote : QuoteSnapshot) (channel : FeedChannel) : FeedKey :=
  (upper quote.symbol, channel)

/-- The length of `_dedup_order`. -/
def dedupWindow : Nat := 4096

/-- The settings of the constructor and the time limits; the names of channels and semantics
are upper-case texts. -/
structure EventRules where
  confirmedSequenceChannels : List String := []
  sequenceResetByChannel : List (String × String) := []
  maxFutureBrokerEvent : Int := secondsToMicros 1
  maxBrokerClockSkew : Int := secondsToMicros 5
  subscriptionAckTimeout : Int := secondsToMicros 5

namespace EventRules

/-- The events of this quote's channel must carry sequence numbers. -/
def confirms (rules : EventRules) (quote : QuoteSnapshot) : Bool :=
  rules.confirmedSequenceChannels.contains (upper quote.channel)

/-- `reset_channels`: the channels whose sequence numbers start again with a session. -/
def resetChannels (rules : EventRules) : List FeedChannel :=
  (rules.sequenceResetByChannel.filter (·.2 = "RESET_ON_RECONNECT")).map
    (fun row => if row.1 = tradeTrId then .trade else .quote)

end EventRules

/-- The cursors of the channels, the recent identities and the counts. -/
structure EventIntake where
  lastTimestamp : Dictionary FeedKey Instant := ∅
  lastSequence : Dictionary FeedKey Int := ∅
  recent : RecentWindow EventIdentity := {}
  suppressedChannels : List FeedKey := []
  rejectedEventCounts : Dictionary String Nat := ∅
  droppedEventCount : Nat := 0
  duplicateEventCount : Nat := 0

inductive EventVerdict where
  | accepted
  | suppressed
  | rejected (health : ClockHealth)
  | duplicate
  deriving DecidableEq

namespace EventIntake

variable (rules : EventRules)

variable (intake : EventIntake)

/-- The first check an event fails: a missing sequence number, the clock, the order of its
channel, the order of its sequence numbers. -/
def rejection (channel : FeedChannel) (quote : QuoteSnapshot) : Option ClockHealth :=
  let key := quote.feedKey channel
  if rules.confirms quote ∧ quote.sequence = none then some .sequenceMissing
  else if rules.maxFutureBrokerEvent < quote.brokerEventAt - quote.receivedAt then
    some .futureTimestamp
  else if rules.maxBrokerClockSkew < |quote.receivedAt - quote.brokerEventAt| then
    some .excessiveSkew
  else if (intake.lastTimestamp.get? key).any (quote.brokerEventAt < ·) then
    some .nonMonotonic
  else if rules.confirms quote ∧ quote.sequence.any (fun sequence =>
      (intake.lastSequence.get? key).any (sequence ≤ ·)) then
    some .sequenceRegression
  else none

/-- The intake after an event it accepts. -/
def record (channel : FeedChannel) (quote : QuoteSnapshot) : EventIntake :=
  let key := quote.feedKey channel
  { intake with
    recent := intake.recent.push dedupWindow quote.identity
    lastTimestamp := intake.lastTimestamp.set key quote.brokerEventAt
    lastSequence :=
      match quote.sequence with
      | some sequence =>
        if rules.confirms quote then intake.lastSequence.set key sequence
        else intake.lastSequence
      | none => intake.lastSequence }

/-- The key of `_rejected_event_counts`, which is the error of the channel too. -/
def rejectionText (channel : FeedChannel) (health : ClockHealth) : String :=
  channel.value ++ ":" ++ health.value

def countRejection (channel : FeedChannel) (health : ClockHealth) : EventIntake :=
  let text := rejectionText channel health
  { intake with
    rejectedEventCounts := intake.rejectedEventCounts.set text
      ((intake.rejectedEventCounts.get? text).getD 0 + 1) }

def acceptEvent (channel : FeedChannel) (quote : QuoteSnapshot) : EventVerdict × EventIntake :=
  if quote.feedKey channel ∈ intake.suppressedChannels then
    (.suppressed, { intake with droppedEventCount := intake.droppedEventCount + 1 })
  else
    match intake.rejection rules channel quote with
    | some health => (.rejected health, intake.countRejection channel health)
    | none =>
      if quote.identity ∈ intake.recent.seen then
        (.duplicate,
          { intake with
            droppedEventCount := intake.droppedEventCount + 1
            duplicateEventCount := intake.duplicateEventCount + 1 })
      else (.accepted, intake.record rules channel quote)

/-- The sequence numbers a new session forgets. -/
def onConnection (connected : Bool) (intake : EventIntake) : EventIntake :=
  if connected then
    { intake with
      lastSequence :=
        intake.lastSequence.filterKeys (fun key => !rules.resetChannels.contains key.2) }
  else intake

/-- `set_qualification_channel_suppressed`, in qualification mode. -/
def setSuppressed (symbol : String) (channel : FeedChannel) (suppressed : Bool)
    (intake : EventIntake) : EventIntake :=
  let key : FeedKey := (upper symbol, channel)
  { intake with
    suppressedChannels :=
      if suppressed then intake.suppressedChannels.insert key
      else intake.suppressedChannels.filter (· ≠ key) }

end EventIntake

end QuantApp.Services
