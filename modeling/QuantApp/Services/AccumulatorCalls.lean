import QuantApp.Services.PendingMarketState
import QuantApp.Verified.LabelledRuns

/-!
# Concurrent calls of the accumulator

Every method of `PendingMarketStateAccumulator` takes its locks one after the
other, and between two of them any other call may run.  `RunningCall` is where a call
stands, `runSection` what it does until it releases its next lock, and `CallStep` one
such section of one thread, so a run of `CallStep` is an interleaving at the
granularity of the locks.
-/

namespace QuantApp.Services

open Core Verified

/-! ## The shared state -/

/-- The buckets, their symbols in insertion order, and the detached generations.  A
symbol outside `symbols` has no bucket yet. -/
structure Accumulator where
  symbols : List String := []
  bucket : String → Bucket := fun _ => {}
  detached : List DetachedMarketState := []

namespace Accumulator

/-- `_bucket`, for an upper-case symbol. -/
def ensureBucket (accumulator : Accumulator) (symbol : String) : Accumulator :=
  if symbol ∈ accumulator.symbols then accumulator
  else { accumulator with symbols := accumulator.symbols ++ [symbol] }

/-- The bucket of a symbol, rewritten under its lock. -/
def setBucket (accumulator : Accumulator) (symbol : String) (bucket : Bucket) : Accumulator :=
  { accumulator with
    bucket := fun other => if other = symbol then bucket else accumulator.bucket other }

section

variable (accumulator : Accumulator) (symbol : String)
include accumulator symbol

@[simp] theorem ensureBucket_bucket :
    (accumulator.ensureBucket symbol).bucket = accumulator.bucket := by
  unfold ensureBucket
  split <;> rfl

theorem setBucket_bucket (bucket : Bucket) (other : String) :
    (accumulator.setBucket symbol bucket).bucket other =
      if other = symbol then bucket else accumulator.bucket other := rfl

theorem mem_ensureBucket : symbol ∈ (accumulator.ensureBucket symbol).symbols := by
  unfold ensureBucket
  split
  · assumption
  · simp

end

theorem ensureBucket_symbols {accumulator : Accumulator} {symbol other : String}
    (h : other ∈ accumulator.symbols) : other ∈ (accumulator.ensureBucket symbol).symbols := by
  unfold ensureBucket
  split
  · exact h
  · simp [h]

end Accumulator

/-! ## Calls -/

/-- The calls that work on one symbol. -/
inductive BucketCall
  | publishTrade (quote : QuoteSnapshot)
  | publishQuote (quote : QuoteSnapshot)
  | latchBreach (symbol cardKey version : String) (quote : QuoteSnapshot) (stopPrice : ℚ)
  | replaceStopRules (symbol : String) (rules : List StopRule)
  | acknowledgeBreach (symbol cardKey version : String)

/-- The bucket a call works on. -/
def BucketCall.symbolKey : BucketCall → String
  | .publishTrade quote => upper quote.symbol
  | .publishQuote quote => upper quote.symbol
  | .latchBreach symbol _ _ _ _ => upper symbol
  | .replaceStopRules symbol _ => upper symbol
  | .acknowledgeBreach symbol _ _ => upper symbol

/-- What a call returns. -/
inductive CallOutcome
  | finished
  | flag (value : Bool)
  | rotated (item : Option DetachedMarketState)
  | drained (items : List DetachedMarketState)

/-- Where a call stands: what its next section is, with its local values. -/
inductive RunningCall
  | enter (call : BucketCall)
  | body (call : BucketCall)
  | appendDetached (item : DetachedMarketState)
  | acknowledgeDetached (symbol : String) (identity : StopIdentity)
  | takeDetached
  | listSymbols (items : List DetachedMarketState)
  | drainSymbols (symbols todo : List String) (items : List DetachedMarketState)
  | pruneItems (symbols : List String) (todo done : List DetachedMarketState)
      (represented : List (String × StopIdentity))
  | replaySymbols (todo : List String) (items : List DetachedMarketState)
      (represented : List (String × StopIdentity))

/-- A call that has not run yet. -/
def RunningCall.IsStart : RunningCall → Prop
  | .enter _ => True
  | .takeDetached => True
  | _ => False

/-- The section of a call under its bucket's lock. -/
def runBody (now : Instant) (accumulator : Accumulator) :
    BucketCall → Accumulator × (RunningCall ⊕ CallOutcome)
  | .publishTrade quote =>
    let symbol := upper quote.symbol
    (accumulator.setBucket symbol ((accumulator.bucket symbol).publishTrade quote), .inr .finished)
  | .publishQuote quote =>
    let symbol := upper quote.symbol
    (accumulator.setBucket symbol ((accumulator.bucket symbol).publishQuote quote), .inr .finished)
  | .latchBreach symbol cardKey version quote stopPrice =>
    let bucket := accumulator.bucket (upper symbol)
    (accumulator.setBucket (upper symbol) (bucket.latchBreach cardKey version quote stopPrice),
      .inr (.flag (bucket.breach (cardKey, version)).isNone))
  | .replaceStopRules symbol rules =>
    match (accumulator.bucket (upper symbol)).rotate (upper symbol) rules now with
    | none => (accumulator, .inr (.rotated none))
    | some (item, bucket) =>
      (accumulator.setBucket (upper symbol) bucket,
        if item.pending.eventCount ≠ 0 then .inl (.appendDetached item)
        else .inr (.rotated none))
  | .acknowledgeBreach symbol cardKey version =>
    let bucket := accumulator.bucket (upper symbol)
    if (bucket.breach (cardKey, version)).isNone then (accumulator, .inr (.flag false))
    else
      (accumulator.setBucket (upper symbol) (bucket.acknowledge (cardKey, version)),
        .inl (.acknowledgeDetached (upper symbol) (cardKey, version)))

/-- One section of a call: the shared state it leaves, and where the call stands then
or what it returns. -/
def runSection (now : Instant) (accumulator : Accumulator) :
    RunningCall → Accumulator × (RunningCall ⊕ CallOutcome)
  | .enter call => (accumulator.ensureBucket call.symbolKey, .inl (.body call))
  | .body call => runBody now accumulator call
  | .appendDetached item =>
    ({ accumulator with detached := accumulator.detached ++ [item] }, .inr (.rotated (some item)))
  | .acknowledgeDetached symbol identity =>
    ({ accumulator with
        detached := accumulator.detached.map (fun item =>
          if item.symbol = symbol then item.acknowledge identity else item) },
      .inr (.flag true))
  | .takeDetached =>
    ({ accumulator with detached := [] }, .inl (.listSymbols accumulator.detached))
  | .listSymbols items =>
    (accumulator, .inl (.drainSymbols accumulator.symbols accumulator.symbols items))
  | .drainSymbols symbols [] items => (accumulator, .inl (.pruneItems symbols items [] []))
  | .drainSymbols symbols (symbol :: todo) items =>
    let (item, bucket) := (accumulator.bucket (upper symbol)).drain (upper symbol) now
    (accumulator.setBucket (upper symbol) bucket,
      .inl (.drainSymbols symbols todo (items ++ [item])))
  | .pruneItems symbols [] done represented =>
    (accumulator, .inl (.replaySymbols symbols done represented))
  | .pruneItems symbols (item :: todo) done represented =>
    let outstanding := (accumulator.bucket (upper item.symbol)).pendingBreaches
    let pruned := item.prune outstanding
    (accumulator,
      .inl (.pruneItems symbols todo (done ++ [pruned])
        (represented ++ (pruned.represented outstanding).map (fun identity =>
          (item.symbol, identity)))))
  | .replaySymbols [] items _ =>
    (accumulator, .inr (.drained (items.filter DetachedMarketState.isDelivered)))
  | .replaySymbols (symbol :: todo) items represented =>
    let outstanding := (accumulator.bucket (upper symbol)).pendingBreaches
    (accumulator,
      .inl (.replaySymbols todo
        (items ++ replaysOf symbol outstanding
          ((represented.filter (fun pair => pair.1 = symbol)).map Prod.snd) now)
        represented))

/-! ## Threads -/

structure AccumulatorMachine where
  shared : Accumulator := {}
  running : Nat → Option RunningCall := fun _ => none

/-- The machine after a thread's call moved. -/
def AccumulatorMachine.move (machine : AccumulatorMachine) (shared : Accumulator) (thread : Nat)
    (running : Option RunningCall) : AccumulatorMachine :=
  { shared := shared
    running := fun other => if other = thread then running else machine.running other }

/-- A thread starts a call, or runs one section of the call it is in, which may end it. -/
inductive CallLabel
  | called (thread : Nat) (start : RunningCall)
  | ran (thread : Nat) (running : RunningCall) (outcome : Option CallOutcome)

inductive CallStep : AccumulatorMachine → CallLabel → AccumulatorMachine → Prop
  | call {machine : AccumulatorMachine} {thread : Nat} {start : RunningCall} :
      machine.running thread = none → start.IsStart →
      CallStep machine (.called thread start) (machine.move machine.shared thread (some start))
  | continues {machine : AccumulatorMachine} {thread : Nat} {running next : RunningCall}
      {shared : Accumulator} {now : Instant} :
      machine.running thread = some running →
      runSection now machine.shared running = (shared, .inl next) →
      CallStep machine (.ran thread running none) (machine.move shared thread (some next))
  | returns {machine : AccumulatorMachine} {thread : Nat} {running : RunningCall}
      {shared : Accumulator} {outcome : CallOutcome} {now : Instant} :
      machine.running thread = some running →
      runSection now machine.shared running = (shared, .inr outcome) →
      CallStep machine (.ran thread running (some outcome)) (machine.move shared thread none)

namespace AccumulatorMachine

/-- The machine after an idle thread started a call. -/
def start (machine : AccumulatorMachine) (thread : Nat) (call : RunningCall) : AccumulatorMachine :=
  machine.move machine.shared thread (some call)

/-- The machine after a thread ran the next section of its call, and what the call
returned if it ended. -/
def runThread (machine : AccumulatorMachine) (now : Instant) (thread : Nat) :
    AccumulatorMachine × Option CallOutcome :=
  match machine.running thread with
  | none => (machine, none)
  | some running =>
    match runSection now machine.shared running with
    | (shared, .inl next) => (machine.move shared thread (some next), none)
    | (shared, .inr outcome) => (machine.move shared thread none, some outcome)

theorem step_runThread {machine : AccumulatorMachine} {thread : Nat} {running : RunningCall}
    (h : machine.running thread = some running) (now : Instant) :
    CallStep machine (.ran thread running (machine.runThread now thread).2)
      (machine.runThread now thread).1 := by
  rcases hRun : runSection now machine.shared running with ⟨shared, next | outcome⟩
  · have hThread : machine.runThread now thread =
        (machine.move shared thread (some next), none) := by simp [runThread, h, hRun]
    rw [hThread]
    exact CallStep.continues h hRun
  · have hThread : machine.runThread now thread =
        (machine.move shared thread none, some outcome) := by simp [runThread, h, hRun]
    rw [hThread]
    exact CallStep.returns h hRun

end AccumulatorMachine

end QuantApp.Services
