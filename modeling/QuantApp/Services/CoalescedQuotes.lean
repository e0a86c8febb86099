import Mathlib.Data.List.Sort
import QuantApp.Services.AccumulatorCalls

/-!
# The coalesced quotes of a poll

`KisRealtimeMarketDataService.poll_once` over the generations `drain_all` returns, and
the feed between two polls, one call after the other.  `drainAll` is what a `drain_all`
call returns that no other call interrupts.
-/

namespace QuantApp.Services

open Core Verified

/-! ## Uninterrupted calls -/

namespace Accumulator

/-- A call on one symbol, run to its end. -/
def complete (now : Instant) (accumulator : Accumulator) (call : BucketCall) : Accumulator :=
  match runBody now (accumulator.ensureBucket call.symbolKey) call with
  | (shared, .inl next) => (runSection now shared next).1
  | (shared, .inr _) => shared

theorem complete_replaceStopRules (now : Instant) (accumulator : Accumulator) (symbol : String)
    (rules : List StopRule) :
    accumulator.complete now (.replaceStopRules symbol rules) =
      let ensured := accumulator.ensureBucket (upper symbol)
      match (accumulator.bucket (upper symbol)).rotate (upper symbol) rules now with
      | none => ensured
      | some (item, bucket) =>
        let installed := ensured.setBucket (upper symbol) bucket
        if item.pending.eventCount ≠ 0 then
          { installed with detached := installed.detached ++ [item] }
        else installed := by
  simp only [complete, runBody, BucketCall.symbolKey, ensureBucket_bucket]
  cases (accumulator.bucket (upper symbol)).rotate (upper symbol) rules now with
  | none => rfl
  | some rotated =>
    by_cases hEvents : rotated.1.pending.eventCount ≠ 0
    · simp only [if_pos hEvents]
      rfl
    · simp only [if_neg hEvents]

theorem complete_acknowledgeBreach (now : Instant) (accumulator : Accumulator)
    (symbol cardKey version : String) :
    accumulator.complete now (.acknowledgeBreach symbol cardKey version) =
      let ensured := accumulator.ensureBucket (upper symbol)
      let bucket := accumulator.bucket (upper symbol)
      if (bucket.breach (cardKey, version)).isNone then ensured
      else
        { ensured.setBucket (upper symbol) (bucket.acknowledge (cardKey, version)) with
          detached := ensured.detached.map (fun item =>
            if item.symbol = upper symbol then item.acknowledge (cardKey, version)
            else item) } := by
  simp only [complete, runBody, BucketCall.symbolKey, ensureBucket_bucket]
  by_cases hMissing :
      ((accumulator.bucket (upper symbol)).breach (cardKey, version)).isNone = true
  · simp only [if_pos hMissing]
  · simp only [if_neg hMissing]
    rfl

/-- `drain` of every symbol in turn. -/
def drainEach (now : Instant) : List String → Accumulator → List DetachedMarketState →
    Accumulator × List DetachedMarketState
  | [], accumulator, items => (accumulator, items)
  | symbol :: symbols, accumulator, items =>
    let (item, bucket) := (accumulator.bucket (upper symbol)).drain (upper symbol) now
    drainEach now symbols (accumulator.setBucket (upper symbol) bucket) (items ++ [item])

def outstandingOf (accumulator : Accumulator) (symbol : String) : List PendingBreach :=
  (accumulator.bucket (upper symbol)).pendingBreaches

/-- The identities the pruned items represent, each with its symbol. -/
def representedBy (accumulator : Accumulator) (pruned : List DetachedMarketState) :
    List (String × StopIdentity) :=
  pruned.flatMap (fun item =>
    (item.represented (accumulator.outstandingOf item.symbol)).map (fun identity =>
      (item.symbol, identity)))

def replaysFor (now : Instant) (accumulator : Accumulator)
    (represented : List (String × StopIdentity)) (symbols : List String) :
    List DetachedMarketState :=
  symbols.flatMap (fun symbol =>
    replaysOf symbol (accumulator.outstandingOf symbol)
      ((represented.filter (fun pair => pair.1 = symbol)).map Prod.snd) now)

/-- `drain_all`: the state it leaves and the items it returns. -/
def drainAll (now : Instant) (accumulator : Accumulator) : Accumulator × List DetachedMarketState :=
  let (drained, items) :=
    drainEach now accumulator.symbols { accumulator with detached := [] } accumulator.detached
  let pruned := items.map (fun item => item.prune (drained.outstandingOf item.symbol))
  let replays := replaysFor now drained (drained.representedBy pruned) accumulator.symbols
  (drained, (pruned ++ replays).filter DetachedMarketState.isDelivered)

end Accumulator

/-! ## `poll_once` -/

/-- `if representative is not None and representative not in representative_trades`. -/
def addRepresentative (trades : List QuoteSnapshot) : Option QuoteSnapshot → List QuoteSnapshot
  | none => trades
  | some trade => if trade ∈ trades then trades else trades ++ [trade]

/-- The order of `(received_at, broker_event_at)`. -/
def earlierTrade (trade trade' : QuoteSnapshot) : Prop :=
  trade.receivedAt < trade'.receivedAt ∨
    (trade.receivedAt = trade'.receivedAt ∧ trade.brokerEventAt ≤ trade'.brokerEventAt)

instance : DecidableRel earlierTrade := fun trade trade' =>
  inferInstanceAs (Decidable (trade.receivedAt < trade'.receivedAt ∨
    (trade.receivedAt = trade'.receivedAt ∧ trade.brokerEventAt ≤ trade'.brokerEventAt)))

/-- The order of pairs of strings. -/
def earlierIdentity (identity identity' : StopIdentity) : Prop :=
  identity.1 < identity'.1 ∨ (identity.1 = identity'.1 ∧ ¬ identity'.2 < identity.2)

instance : DecidableRel earlierIdentity := fun identity identity' =>
  inferInstanceAs (Decidable (identity.1 < identity'.1 ∨
    (identity.1 = identity'.1 ∧ ¬ identity'.2 < identity.2)))

def PendingMarketState.representativeTrades (pending : PendingMarketState) : List QuoteSnapshot :=
  let extremes := [pending.minimumTrade, pending.maximumTrade].foldl addRepresentative []
  let trades := if extremes.isEmpty then pending.latestTrade.toList else extremes
  trades.insertionSort earlierTrade

namespace DetachedMarketState

/-- The snapshot of a representative trade. -/
def tradeSnapshot (item : DetachedMarketState) (processedAt : Instant)
    (representative : QuoteSnapshot) : QuoteSnapshot :=
  { representative with
    processedAt := processedAt
    stopPriceOverrides := item.stopRules.map (fun rule => (rule.cardKey, rule.price))
    breachedStopVersions := item.pending.breachedStopVersions.insertionSort earlierIdentity
    entryTriggerEligible := representative.entryTriggerEligible && !item.latchReplay }

def latest (item : DetachedMarketState) : Option QuoteSnapshot :=
  if item.latchReplay then none else item.pending.latestQuote.or item.pending.latestTrade

def combined (item : DetachedMarketState) (cache : QuoteCache) (processedAt : Instant)
    (latest : QuoteSnapshot) : QuoteSnapshot :=
  let current := cache.get item.symbol
  { latest with
    lastPrice :=
      match item.pending.latestTrade with
      | some trade => trade.lastPrice
      | none => (current.map QuoteSnapshot.lastPrice).getD 0
    bid :=
      match item.pending.latestQuote with
      | some quote => quote.bid
      | none => current.bind QuoteSnapshot.bid
    ask :=
      match item.pending.latestQuote with
      | some quote => quote.ask
      | none => current.bind QuoteSnapshot.ask
    processedAt := processedAt }

end DetachedMarketState

/-- One drained item: the snapshots `ready` after it, and the quote cache. -/
def pollItem (processedAt : Instant) (ready : List QuoteSnapshot) (cache : QuoteCache)
    (item : DetachedMarketState) : List QuoteSnapshot × QuoteCache :=
  let ready := ready ++ item.pending.representativeTrades.map (item.tradeSnapshot processedAt)
  match item.latest with
  | none => (ready, cache)
  | some latest =>
    let combined := item.combined cache processedAt latest
    (if ready.getLast? = some combined then ready else ready ++ [combined], cache.update combined)

/-- `poll_once` over the drained items. -/
def pollItems (processedAt : Instant) (items : List DetachedMarketState) (cache : QuoteCache) :
    List QuoteSnapshot × QuoteCache :=
  items.foldl (fun polled item => pollItem processedAt polled.1 polled.2 item) ([], cache)

/-! ## The feed -/

/-- The accumulator and the quote cache of the service. -/
structure Feed where
  accumulator : Accumulator := {}
  cache : QuoteCache := fun _ => none

/-- `poll_once`: the feed it leaves and the snapshots it returns. -/
def Feed.pollOnce (feed : Feed) (now : Instant) : Feed × List QuoteSnapshot :=
  let (accumulator, items) := feed.accumulator.drainAll now
  let (ready, cache) := pollItems now items feed.cache
  ({ accumulator := accumulator, cache := cache }, ready)

/-- What happens to the feed: an accepted event or a call of the runtime, or a poll. -/
inductive FeedEvent
  | call (call : BucketCall) (now : Instant)
  | poll (now : Instant)

/-- The feed with its history: the trades accepted so far, those of them accepted since the
previous poll, and the snapshots returned so far. -/
structure FeedRun where
  feed : Feed := {}
  accepted : List QuoteSnapshot := []
  fresh : List QuoteSnapshot := []
  returned : List QuoteSnapshot := []

/-- The trade an event accepts. -/
def BucketCall.acceptedTrade : BucketCall → List QuoteSnapshot
  | .publishTrade quote => [quote]
  | _ => []

def FeedRun.next (run : FeedRun) : FeedEvent → FeedRun
  | .call call now =>
    { run with
      feed := { run.feed with accumulator := run.feed.accumulator.complete now call }
      accepted := run.accepted ++ call.acceptedTrade
      fresh := run.fresh ++ call.acceptedTrade }
  | .poll now =>
    let (feed, ready) := run.feed.pollOnce now
    { run with feed := feed, fresh := [], returned := run.returned ++ ready }

/-- One event of the feed. -/
def FeedStep (run : FeedRun) (event : FeedEvent) (after : FeedRun) : Prop := after = run.next event

/-! ## The uninterrupted calls are runs of their sections -/

section Refinement

variable {machine : AccumulatorMachine} {thread : Nat} {now : Instant}
  {shared shared' shared'' : Accumulator} {call call' call'' : RunningCall}

/-- The thread alone runs sections of its call, from one place of it to another. -/
def RunsAlone (machine : AccumulatorMachine) (thread : Nat) (shared : Accumulator)
    (call : RunningCall) (shared' : Accumulator) (call' : RunningCall) : Prop :=
  RunWith CallStep (fun _ label => ∃ running, label = .ran thread running none)
    (machine.move shared thread (some call)) (machine.move shared' thread (some call'))

/-- The thread alone runs its call to its end. -/
def ReturnsAlone (machine : AccumulatorMachine) (thread : Nat) (shared : Accumulator)
    (call : RunningCall) (shared' : Accumulator) (outcome : CallOutcome) : Prop :=
  ∃ last lastCall, RunsAlone machine thread shared call last lastCall ∧
    CallStep (machine.move last thread (some lastCall)) (.ran thread lastCall (some outcome))
      (machine.move shared' thread none)

theorem move_move (machine : AccumulatorMachine) (shared shared' : Accumulator) (thread : Nat)
    (running running' : Option RunningCall) :
    (machine.move shared thread running).move shared' thread running' =
      machine.move shared' thread running' := by
  unfold AccumulatorMachine.move
  congr 1
  funext other
  by_cases hOther : other = thread <;> simp [hOther]

theorem RunsAlone.refl : RunsAlone machine thread shared call shared call := RunWith.refl _

theorem RunsAlone.trans (h : RunsAlone machine thread shared call shared' call')
    (h' : RunsAlone machine thread shared' call' shared'' call'') :
    RunsAlone machine thread shared call shared'' call'' :=
  RunWith.trans h h'

theorem RunsAlone.section (now : Instant) (h : runSection now shared call = (shared', .inl call')) :
    RunsAlone machine thread shared call shared' call' := by
  have hRunning : (machine.move shared thread (some call)).running thread = some call := if_pos rfl
  have hStep := CallStep.continues hRunning h
  rw [move_move] at hStep
  exact (RunWith.refl _).step ⟨call, rfl⟩ hStep

open RunsAlone (refl)

theorem ReturnsAlone.section (now : Instant) {outcome : CallOutcome}
    (h : runSection now shared call = (shared', .inr outcome)) :
    ReturnsAlone machine thread shared call shared' outcome := by
  have hRunning : (machine.move shared thread (some call)).running thread = some call := if_pos rfl
  have hStep := CallStep.returns hRunning h
  rw [move_move] at hStep
  exact ⟨shared, call, refl, hStep⟩

theorem RunsAlone.returns {outcome : CallOutcome}
    (h : RunsAlone machine thread shared call shared' call')
    (h' : ReturnsAlone machine thread shared' call' shared'' outcome) :
    ReturnsAlone machine thread shared call shared'' outcome := by
  obtain ⟨last, lastCall, hRun, hReturn⟩ := h'
  exact ⟨last, lastCall, h.trans hRun, hReturn⟩

/-- A section of a bucket call is followed by at most one more. -/
theorem runBody_next {call : BucketCall} (h : runBody now shared call = (shared', .inl call')) :
    ∃ shared'' outcome, runSection now shared' call' = (shared'', .inr outcome) := by
  cases call with
  | publishTrade | publishQuote | latchBreach => cases h
  | replaceStopRules =>
    simp only [runBody] at h
    split at h
    · cases h
    · split at h
      · cases h
        exact ⟨_, _, rfl⟩
      · cases h
  | acknowledgeBreach =>
    simp only [runBody] at h
    split at h
    · cases h
    · cases h
      exact ⟨_, _, rfl⟩

/-- `complete` is what a call on one symbol does that no other call interrupts. -/
theorem complete_returns (now : Instant) (call : BucketCall) :
    ∃ outcome, ReturnsAlone machine thread shared (.enter call) (shared.complete now call)
      outcome := by
  have hEnter : RunsAlone machine thread shared (.enter call)
      (shared.ensureBucket call.symbolKey) (.body call) := RunsAlone.section now rfl
  unfold Accumulator.complete
  rcases hBody : runBody now (shared.ensureBucket call.symbolKey) call with
    ⟨shared', next | outcome⟩
  · have hNext : RunsAlone machine thread (shared.ensureBucket call.symbolKey) (.body call)
        shared' next := RunsAlone.section now hBody
    obtain ⟨shared'', outcome, hLast⟩ := runBody_next hBody
    refine ⟨outcome, (hEnter.trans hNext).returns ?_⟩
    simp only [hLast]
    exact ReturnsAlone.section now hLast
  · exact ⟨outcome, hEnter.returns (ReturnsAlone.section now hBody)⟩

theorem runsAlone_drainEach (now : Instant) (symbols todo : List String)
    (items : List DetachedMarketState) :
    RunsAlone machine thread shared (.drainSymbols symbols todo items)
      (Accumulator.drainEach now todo shared items).1
      (.drainSymbols symbols [] (Accumulator.drainEach now todo shared items).2) := by
  induction todo generalizing shared items with
  | nil => exact refl
  | cons symbol todo ih =>
    have hFirst : RunsAlone machine thread shared
        (.drainSymbols symbols (symbol :: todo) items) _ _ := RunsAlone.section now rfl
    exact hFirst.trans (ih _)

theorem runsAlone_prune (now : Instant) (symbols : List String)
    (todo done : List DetachedMarketState) (represented : List (String × StopIdentity)) :
    RunsAlone machine thread shared (.pruneItems symbols todo done represented) shared
      (.pruneItems symbols [] (done ++ todo.map (fun item =>
          item.prune (shared.outstandingOf item.symbol)))
        (represented ++ shared.representedBy (todo.map (fun item =>
          item.prune (shared.outstandingOf item.symbol))))) := by
  induction todo generalizing done represented with
  | nil =>
    have hDone : RunsAlone machine thread shared (.pruneItems symbols [] done represented)
      shared (.pruneItems symbols [] done represented) := refl
    simpa [Accumulator.representedBy] using hDone
  | cons item todo ih =>
    have hFirst : RunsAlone machine thread shared
        (.pruneItems symbols (item :: todo) done represented) _ _ := RunsAlone.section now rfl
    have hRest := hFirst.trans (ih _ _)
    simp only [List.append_assoc, List.singleton_append] at hRest
    exact hRest

theorem runsAlone_replay (now : Instant) (todo : List String) (items : List DetachedMarketState)
    (represented : List (String × StopIdentity)) :
    RunsAlone machine thread shared (.replaySymbols todo items represented) shared
      (.replaySymbols [] (items ++ shared.replaysFor now represented todo) represented) := by
  induction todo generalizing items with
  | nil =>
    have hDone : RunsAlone machine thread shared (.replaySymbols [] items represented)
      shared (.replaySymbols [] items represented) := refl
    simpa [Accumulator.replaysFor] using hDone
  | cons symbol todo ih =>
    have hFirst : RunsAlone machine thread shared
        (.replaySymbols (symbol :: todo) items represented) _ _ := RunsAlone.section now rfl
    have hRest := hFirst.trans (ih _)
    simp only [List.append_assoc] at hRest
    exact hRest

end Refinement

end QuantApp.Services
