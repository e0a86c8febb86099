import QuantApp.Services.CoalescedQuotes
import QuantApp.Services.OutstandingBreaches

/-!
# What the generations keep of their events

A generation keeps the extremes of its regular-session trades, whatever rotations,
latches and acknowledgements come between them, so a trade stays covered until it is
drained.  `traded symbol price` are the prices an invariant is about.
-/

namespace QuantApp.Services

open Core Verified

variable {symbol : String} {bucket : Bucket} {quote : QuoteSnapshot}

/-! ## Generations -/

/-- A regular-session event of the symbol, at a traded price. -/
def EventOf (traded : String → ℚ → Prop) (symbol : String) (quote : QuoteSnapshot) : Prop :=
  quote.regularSession = true ∧ upper quote.symbol = symbol ∧ traded symbol quote.lastPrice

theorem EventOf.mono {traded traded' : String → ℚ → Prop} (h : EventOf traded symbol quote)
    (hTraded : ∀ symbol price, traded symbol price → traded' symbol price) :
    EventOf traded' symbol quote :=
  ⟨h.1, h.2.1, hTraded _ _ h.2.2⟩

namespace PendingMarketState

/-- What a generation of the symbol keeps of its events. -/
structure Fed (traded : String → ℚ → Prop) (symbol : String) (pending : PendingMarketState) :
    Prop where
  minimum : ∀ trade, pending.minimumTrade = some trade → EventOf traded symbol trade
  maximum : ∀ trade, pending.maximumTrade = some trade → EventOf traded symbol trade
  minimumPrice :
    pending.minimumTradePriceSinceDrain = pending.minimumTrade.map QuoteSnapshot.lastPrice
  maximumPrice :
    pending.maximumTradePriceSinceDrain = pending.maximumTrade.map QuoteSnapshot.lastPrice
  latestTrade : ∀ trade, pending.latestTrade = some trade → upper trade.symbol = symbol ∧
    (trade.regularSession = true →
      traded symbol trade.lastPrice ∧ pending.minimumTrade.isSome = true)
  latestQuote : ∀ quote, pending.latestQuote = some quote → upper quote.symbol = symbol
  empty : pending.eventCount = 0 → pending.latestTrade = none ∧ pending.latestQuote = none

/-- The extremes of a generation enclose the trade. -/
structure Covers (trade : QuoteSnapshot) (pending : PendingMarketState) : Prop where
  low : ∃ lowest, pending.minimumTrade = some lowest ∧ lowest.lastPrice ≤ trade.lastPrice
  high : ∃ highest, pending.maximumTrade = some highest ∧ trade.lastPrice ≤ highest.lastPrice
  event : pending.eventCount ≠ 0

variable {traded traded' : String → ℚ → Prop}
  {symbol : String} {pending pending' : PendingMarketState}
  {quote trade : QuoteSnapshot} {stopRules : List StopRule}

theorem fed_empty : Fed traded symbol {} := by
  constructor <;> simp

theorem Fed.mono (h : pending.Fed traded symbol)
    (hTraded : ∀ symbol price, traded symbol price → traded' symbol price) :
    pending.Fed traded' symbol where
  minimum := fun trade hTrade => (h.minimum trade hTrade).mono hTraded
  maximum := fun trade hTrade => (h.maximum trade hTrade).mono hTraded
  minimumPrice := h.minimumPrice
  maximumPrice := h.maximumPrice
  latestTrade := fun trade hTrade =>
    ⟨(h.latestTrade trade hTrade).1, fun hRegular =>
      ⟨hTraded _ _ ((h.latestTrade trade hTrade).2 hRegular).1,
        ((h.latestTrade trade hTrade).2 hRegular).2⟩⟩
  latestQuote := h.latestQuote
  empty := h.empty

theorem Fed.of_events (h : pending.Fed traded symbol)
    (hEvents : pending'.withBreaches [] = pending.withBreaches []) :
    pending'.Fed traded symbol := by
  obtain ⟨⟩ := pending
  obtain ⟨⟩ := pending'
  simp only [withBreaches, mk.injEq] at hEvents
  obtain ⟨rfl, rfl, rfl, rfl, rfl, rfl, rfl, rfl, rfl, -⟩ := hEvents
  exact ⟨h.minimum, h.maximum, h.minimumPrice, h.maximumPrice, h.latestTrade, h.latestQuote,
    h.empty⟩

theorem Covers.of_events (h : pending.Covers trade)
    (hEvents : pending'.withBreaches [] = pending.withBreaches []) : pending'.Covers trade := by
  obtain ⟨⟩ := pending
  obtain ⟨⟩ := pending'
  simp only [withBreaches, mk.injEq] at hEvents
  obtain ⟨rfl, rfl, rfl, rfl, rfl, rfl, rfl, rfl, rfl, -⟩ := hEvents
  exact ⟨h.low, h.high, h.event⟩

/-! ### One trade -/

section

variable (stopRules) (h : pending.Fed traded symbol) (hRegular : quote.regularSession = true)
include h hRegular

/-- The lowest trade of a generation after a regular-session trade. -/
theorem minimumTrade_addTrade :
    (pending.addTrade quote stopRules).minimumTradePriceSinceDrain =
        (pending.addTrade quote stopRules).minimumTrade.map QuoteSnapshot.lastPrice ∧
      ((pending.addTrade quote stopRules).minimumTrade = some quote ∨
        (pending.addTrade quote stopRules).minimumTrade = pending.minimumTrade) ∧
      ∃ lowest, (pending.addTrade quote stopRules).minimumTrade = some lowest ∧
        lowest.lastPrice ≤ quote.lastPrice ∧
        ∀ least, pending.minimumTrade = some least → lowest.lastPrice ≤ least.lastPrice := by
  have hPrice := h.minimumPrice
  cases hMinimum : pending.minimumTrade with
  | none =>
    rw [hMinimum] at hPrice
    simp [addTrade, recordEvent, hRegular, hPrice]
  | some least =>
    rw [hMinimum] at hPrice
    by_cases hLower : quote.lastPrice < least.lastPrice
    · simp [addTrade, recordEvent, hRegular, hPrice, hLower, hLower.le]
    · simp [addTrade, recordEvent, hRegular, hPrice, hLower, hMinimum, not_lt.mp hLower]

theorem maximumTrade_addTrade :
    (pending.addTrade quote stopRules).maximumTradePriceSinceDrain =
        (pending.addTrade quote stopRules).maximumTrade.map QuoteSnapshot.lastPrice ∧
      ((pending.addTrade quote stopRules).maximumTrade = some quote ∨
        (pending.addTrade quote stopRules).maximumTrade = pending.maximumTrade) ∧
      ∃ highest, (pending.addTrade quote stopRules).maximumTrade = some highest ∧
        quote.lastPrice ≤ highest.lastPrice ∧
        ∀ most, pending.maximumTrade = some most → most.lastPrice ≤ highest.lastPrice := by
  have hPrice := h.maximumPrice
  cases hMaximum : pending.maximumTrade with
  | none =>
    rw [hMaximum] at hPrice
    simp [addTrade, recordEvent, hRegular, hPrice]
  | some most =>
    rw [hMaximum] at hPrice
    by_cases hHigher : most.lastPrice < quote.lastPrice
    · simp [addTrade, recordEvent, hRegular, hPrice, hHigher, hHigher.le]
    · simp [addTrade, recordEvent, hRegular, hPrice, hHigher, hMaximum, not_lt.mp hHigher]

end

@[simp] theorem latestTrade_addTrade :
    (pending.addTrade quote stopRules).latestTrade = some quote := by
  unfold addTrade
  split <;> rfl

@[simp] theorem latestQuote_addTrade :
    (pending.addTrade quote stopRules).latestQuote = pending.latestQuote := by
  unfold addTrade
  split <;> rfl

@[simp] theorem eventCount_addTrade :
    (pending.addTrade quote stopRules).eventCount = pending.eventCount + 1 := by
  unfold addTrade
  split <;> rfl

theorem addTrade_outOfSession (h : quote.regularSession = false) :
    pending.addTrade quote stopRules =
      { pending with latestTrade := some quote }.recordEvent quote.receivedAt := by
  unfold addTrade
  exact if_pos h

theorem Fed.addTrade (h : pending.Fed traded symbol) (hSymbol : upper quote.symbol = symbol)
    (hTraded : quote.regularSession = true → traded symbol quote.lastPrice) :
    (pending.addTrade quote stopRules).Fed traded symbol := by
  cases hRegular : quote.regularSession with
  | false =>
    rw [addTrade_outOfSession hRegular]
    refine ⟨h.minimum, h.maximum, h.minimumPrice, h.maximumPrice, ?_, h.latestQuote, ?_⟩
    · intro trade hTrade
      cases hTrade
      refine ⟨hSymbol, ?_⟩
      intro hTrue
      rw [hRegular] at hTrue
      cases hTrue
    · intro hEmpty
      cases hEmpty
  | true =>
    obtain ⟨hLowPrice, hLow, lowest, hLowest, -⟩ := minimumTrade_addTrade stopRules h hRegular
    obtain ⟨hHighPrice, hHigh, -⟩ := maximumTrade_addTrade stopRules h hRegular
    have hEvent : EventOf traded symbol quote := ⟨hRegular, hSymbol, hTraded hRegular⟩
    constructor
    · intro trade hTrade
      rcases hLow with hNew | hOld
      · rw [hNew] at hTrade
        cases hTrade
        exact hEvent
      · exact h.minimum trade (hOld ▸ hTrade)
    · intro trade hTrade
      rcases hHigh with hNew | hOld
      · rw [hNew] at hTrade
        cases hTrade
        exact hEvent
      · exact h.maximum trade (hOld ▸ hTrade)
    · exact hLowPrice
    · exact hHighPrice
    · intro trade hTrade
      rw [latestTrade_addTrade] at hTrade
      cases hTrade
      exact ⟨hSymbol, fun _ => ⟨hTraded hRegular, by rw [hLowest]; rfl⟩⟩
    · rw [latestQuote_addTrade]
      exact h.latestQuote
    · intro hEmpty
      rw [eventCount_addTrade] at hEmpty
      cases hEmpty

theorem Fed.addQuote (h : pending.Fed traded symbol) (hSymbol : upper quote.symbol = symbol) :
    (pending.addQuote quote).Fed traded symbol := by
  refine ⟨h.minimum, h.maximum, h.minimumPrice, h.maximumPrice, h.latestTrade, ?_, ?_⟩
  · intro latest hLatest
    cases hLatest
    exact hSymbol
  · intro hEmpty
    cases hEmpty

theorem Fed.covers_addTrade (h : pending.Fed traded symbol)
    (hRegular : quote.regularSession = true) :
    (pending.addTrade quote stopRules).Covers quote := by
  obtain ⟨-, -, lowest, hLowest, hLow, -⟩ := minimumTrade_addTrade stopRules h hRegular
  obtain ⟨-, -, highest, hHighest, hHigh, -⟩ := maximumTrade_addTrade stopRules h hRegular
  exact ⟨⟨lowest, hLowest, hLow⟩, ⟨highest, hHighest, hHigh⟩, by simp⟩

theorem Covers.addTrade (hCovers : pending.Covers trade) (h : pending.Fed traded symbol) :
    (pending.addTrade quote stopRules).Covers trade := by
  obtain ⟨⟨least, hLeast, hLow⟩, ⟨most, hMost, hHigh⟩, hEvent⟩ := hCovers
  cases hRegular : quote.regularSession with
  | false =>
    rw [addTrade_outOfSession hRegular]
    exact ⟨⟨least, hLeast, hLow⟩, ⟨most, hMost, hHigh⟩, Nat.succ_ne_zero _⟩
  | true =>
    obtain ⟨-, -, lowest, hLowest, -, hLeastLow⟩ := minimumTrade_addTrade stopRules h hRegular
    obtain ⟨-, -, highest, hHighest, -, hMostHigh⟩ := maximumTrade_addTrade stopRules h hRegular
    exact ⟨⟨lowest, hLowest, (hLeastLow least hLeast).trans hLow⟩,
      ⟨highest, hHighest, hHigh.trans (hMostHigh most hMost)⟩, by simp⟩

theorem Covers.addQuote (hCovers : pending.Covers trade) : (pending.addQuote quote).Covers trade :=
  ⟨hCovers.low, hCovers.high, Nat.succ_ne_zero _⟩

end PendingMarketState

/-! ## The accumulator -/

/-- What a bucket of the symbol keeps. -/
structure Bucket.Fed (traded : String → ℚ → Prop) (symbol : String) (bucket : Bucket) : Prop where
  pending : bucket.pending.Fed traded symbol
  breaches : ∀ breach ∈ bucket.pendingBreaches, EventOf traded symbol breach.quote

namespace Accumulator

/-- What the accumulator keeps of the events it was fed. -/
structure Fed (traded : String → ℚ → Prop) (accumulator : Accumulator) : Prop where
  upperSymbols : ∀ symbol ∈ accumulator.symbols, upper symbol = symbol
  nodup : accumulator.symbols.Nodup
  buckets : ∀ symbol, (accumulator.bucket symbol).Fed traded symbol
  detached : ∀ item ∈ accumulator.detached, item.pending.Fed traded item.symbol ∧
    item.latchReplay = false ∧ upper item.symbol = item.symbol

/-- Some generation of the trade's symbol covers it. -/
def Covers (accumulator : Accumulator) (trade : QuoteSnapshot) : Prop :=
  (∃ item ∈ accumulator.detached,
      item.symbol = upper trade.symbol ∧ item.pending.Covers trade) ∨
    (upper trade.symbol ∈ accumulator.symbols ∧
      (accumulator.bucket (upper trade.symbol)).pending.Covers trade)

variable {traded traded' : String → ℚ → Prop} {accumulator : Accumulator} {symbol : String}
  {bucket : Bucket} {trade : QuoteSnapshot}

theorem fed_empty : Fed traded {} where
  upperSymbols := by simp
  nodup := List.nodup_nil
  buckets := fun _ => ⟨PendingMarketState.fed_empty, by simp⟩
  detached := by simp

section

variable (h : accumulator.Fed traded)
include h

theorem Fed.mono (hTraded : ∀ symbol price, traded symbol price → traded' symbol price) :
    accumulator.Fed traded' where
  upperSymbols := h.upperSymbols
  nodup := h.nodup
  buckets := fun symbol =>
    ⟨(h.buckets symbol).pending.mono hTraded,
      fun breach hBreach => ((h.buckets symbol).breaches breach hBreach).mono hTraded⟩
  detached := fun item hItem =>
    ⟨(h.detached item hItem).1.mono hTraded, (h.detached item hItem).2⟩

theorem Fed.ensureBucket (hUpper : upper symbol = symbol) :
    (accumulator.ensureBucket symbol).Fed traded := by
  unfold Accumulator.ensureBucket
  by_cases hKnown : symbol ∈ accumulator.symbols
  · rw [if_pos hKnown]
    exact h
  · rw [if_neg hKnown]
    refine ⟨?_, ?_, h.buckets, h.detached⟩
    · exact forall_mem_concat h.upperSymbols hUpper
    · exact h.nodup.append (List.nodup_singleton symbol)
        (List.disjoint_singleton.mpr hKnown)

theorem Fed.setBucket (hBucket : bucket.Fed traded symbol) :
    (accumulator.setBucket symbol bucket).Fed traded := by
  refine ⟨h.upperSymbols, h.nodup, ?_, h.detached⟩
  intro other
  rw [setBucket_bucket]
  split
  · rename_i hSame
    subst hSame
    exact hBucket
  · exact h.buckets other

theorem Fed.detach {item : DetachedMarketState}
    (hItem : item.pending.Fed traded item.symbol ∧ item.latchReplay = false ∧ upper item.symbol =
      item.symbol) :
    Fed traded { accumulator with detached := accumulator.detached ++ [item] } := by
  refine ⟨h.upperSymbols, h.nodup, h.buckets, ?_⟩
  exact forall_mem_concat h.detached hItem

end

theorem Covers.ensureBucket (h : accumulator.Covers trade) :
    (accumulator.ensureBucket symbol).Covers trade := by
  have hDetached : (accumulator.ensureBucket symbol).detached = accumulator.detached := by
    unfold Accumulator.ensureBucket
    split <;> rfl
  unfold Covers
  rw [hDetached, ensureBucket_bucket]
  rcases h with hItem | ⟨hKnown, hBucket⟩
  · exact Or.inl hItem
  · exact Or.inr ⟨ensureBucket_symbols hKnown, hBucket⟩

theorem Covers.setBucket (h : accumulator.Covers trade)
    (hBucket : (accumulator.bucket symbol).pending.Covers trade → bucket.pending.Covers trade) :
    (accumulator.setBucket symbol bucket).Covers trade := by
  rcases h with hItem | ⟨hKnown, hCovers⟩
  · exact Or.inl hItem
  · apply Or.inr
    refine ⟨hKnown, ?_⟩
    rw [setBucket_bucket]
    split
    · rename_i hSame
      apply hBucket
      rwa [hSame] at hCovers
    · exact hCovers

end Accumulator

/-! ### One call -/

/-- The call is fed events of the symbol, at traded prices. -/
def BucketCall.Feeds (traded : String → ℚ → Prop) : BucketCall → Prop
  | .publishTrade quote =>
    quote.regularSession = true → traded (upper quote.symbol) quote.lastPrice
  | .latchBreach symbol _ _ quote _ => EventOf traded (upper symbol) quote
  | _ => True

section Complete

variable {traded : String → ℚ → Prop} {accumulator : Accumulator} {call : BucketCall}
  {trade : QuoteSnapshot} {now : Instant}

theorem Bucket.Fed.publishTrade (h : bucket.Fed traded symbol)
    (hSymbol : upper quote.symbol = symbol)
    (hTraded : quote.regularSession = true → traded symbol quote.lastPrice) :
    (bucket.publishTrade quote).Fed traded symbol := by
  refine ⟨h.pending.addTrade hSymbol hTraded, ?_⟩
  intro breach hBreach
  rcases mem_foldl_setDefaultBreach hBreach with hNew | hOld
  · obtain ⟨hQuote, -, hRegular, -⟩ := Bucket.mem_newBreaches hNew
    rw [hQuote]
    exact ⟨hRegular, hSymbol, hTraded hRegular⟩
  · exact h.breaches breach hOld

theorem Bucket.Fed.latchBreach {cardKey version : String} {stopPrice : ℚ}
    (h : bucket.Fed traded symbol) (hQuote : EventOf traded symbol quote) :
    (bucket.latchBreach cardKey version quote stopPrice).Fed traded symbol := by
  refine ⟨h.pending.of_events rfl, ?_⟩
  intro breach hBreach
  rcases mem_setDefaultBreach hBreach with rfl | hOld
  · exact hQuote
  · exact h.breaches breach hOld

theorem Bucket.Fed.acknowledge {identity : StopIdentity} (h : bucket.Fed traded symbol) :
    (bucket.acknowledge identity).Fed traded symbol :=
  ⟨h.pending.of_events rfl, fun breach hBreach =>
    h.breaches breach (List.mem_of_mem_filter hBreach)⟩

/-- An acknowledgement keeps what the accumulator keeps of its events. -/
theorem Accumulator.Fed.acknowledgeDetached (h : accumulator.Fed traded) (symbol : String)
    (identity : StopIdentity) :
    Accumulator.Fed traded { accumulator with
      detached := accumulator.detached.map (fun item =>
        if item.symbol = symbol then item.acknowledge identity else item) } := by
  refine ⟨h.upperSymbols, h.nodup, h.buckets, ?_⟩
  intro acknowledged hMem
  obtain ⟨item, hItem, rfl⟩ := List.mem_map.mp hMem
  obtain ⟨hFed, hRest⟩ := h.detached item hItem
  split
  · exact ⟨hFed.of_events rfl, hRest⟩
  · exact ⟨hFed, hRest⟩

theorem Accumulator.Fed.complete (h : accumulator.Fed traded) (hFeeds : call.Feeds traded)
    (now : Instant) : (accumulator.complete now call).Fed traded := by
  have hUpper : upper call.symbolKey = call.symbolKey := by
    cases call <;> exact upper_upper _
  have hEnsured := h.ensureBucket hUpper
  have hBucket := h.buckets call.symbolKey
  cases call with
  | publishTrade =>
    apply hEnsured.setBucket
    rw [Accumulator.ensureBucket_bucket]
    exact hBucket.publishTrade rfl hFeeds
  | publishQuote =>
    apply hEnsured.setBucket
    rw [Accumulator.ensureBucket_bucket]
    exact ⟨hBucket.pending.addQuote rfl, hBucket.breaches⟩
  | latchBreach =>
    apply hEnsured.setBucket
    rw [Accumulator.ensureBucket_bucket]
    exact hBucket.latchBreach hFeeds
  | replaceStopRules symbol rules =>
    rw [Accumulator.complete_replaceStopRules]
    cases hRotate : (accumulator.bucket (upper symbol)).rotate (upper symbol) rules now with
    | none => exact hEnsured
    | some rotated =>
      obtain ⟨item, bucket⟩ := rotated
      obtain ⟨hSymbol, hPending, hReplay⟩ := Bucket.rotate_item hRotate
      have hInstalled : ((accumulator.ensureBucket (upper symbol)).setBucket (upper symbol)
          bucket).Fed traded := by
        apply hEnsured.setBucket
        rw [Bucket.rotate_some hRotate]
        exact ⟨PendingMarketState.fed_empty, hBucket.breaches⟩
      simp only
      split
      · apply hInstalled.detach
        rw [hSymbol, hPending]
        exact ⟨hBucket.pending, hReplay, upper_upper symbol⟩
      · exact hInstalled
  | acknowledgeBreach =>
    rw [Accumulator.complete_acknowledgeBreach]
    simp only
    split
    · exact hEnsured
    · apply Accumulator.Fed.acknowledgeDetached
      exact hEnsured.setBucket hBucket.acknowledge

theorem Accumulator.Covers.complete (hCovers : accumulator.Covers trade)
    (h : accumulator.Fed traded) (call : BucketCall) (now : Instant) :
    (accumulator.complete now call).Covers trade := by
  cases call with
  | publishTrade =>
    apply Covers.setBucket hCovers.ensureBucket
    rw [ensureBucket_bucket]
    exact fun hPending => hPending.addTrade (h.buckets _).pending
  | publishQuote =>
    apply Covers.setBucket hCovers.ensureBucket
    rw [ensureBucket_bucket]
    exact fun hPending => hPending.addQuote
  | latchBreach =>
    apply Covers.setBucket hCovers.ensureBucket
    rw [ensureBucket_bucket]
    exact fun hPending => hPending.of_events rfl
  | replaceStopRules symbol rules =>
    rw [complete_replaceStopRules]
    cases hRotate : (accumulator.bucket (upper symbol)).rotate (upper symbol) rules now with
    | none => exact hCovers.ensureBucket
    | some rotated =>
      obtain ⟨item, bucket⟩ := rotated
      obtain ⟨hSymbol, hPending, -⟩ := Bucket.rotate_item hRotate
      -- the rotated generation takes along what the bucket covered
      by_cases hMoved : upper trade.symbol = upper symbol ∧
          (accumulator.bucket (upper symbol)).pending.Covers trade
      · have hEvents : item.pending.eventCount ≠ 0 := by
          rw [hPending]
          exact hMoved.2.event
        simp only [if_pos hEvents]
        apply Or.inl
        refine ⟨item, List.mem_append_right _ (List.mem_singleton_self item), ?_, ?_⟩
        · rw [hSymbol, hMoved.1]
        · rw [hPending]
          exact hMoved.2
      · have hInstalled : ((accumulator.ensureBucket (upper symbol)).setBucket (upper symbol)
            bucket).Covers trade := by
          have hEnsured : (accumulator.ensureBucket (upper symbol)).Covers trade :=
            hCovers.ensureBucket
          rcases hEnsured with hItem | ⟨hKnown, hBucket⟩
          · exact Or.inl hItem
          · apply Or.inr
            refine ⟨hKnown, ?_⟩
            rw [setBucket_bucket]
            split
            · rename_i hSame
              rw [ensureBucket_bucket, hSame] at hBucket
              exact absurd ⟨hSame, hBucket⟩ hMoved
            · exact hBucket
        simp only
        split
        · rcases hInstalled with ⟨other, hOther, hRest⟩ | hBucket
          · exact Or.inl ⟨other, List.mem_append_left _ hOther, hRest⟩
          · exact Or.inr hBucket
        · exact hInstalled
  | acknowledgeBreach symbol cardKey version =>
    rw [complete_acknowledgeBreach]
    simp only
    split
    · exact hCovers.ensureBucket
    · have hInstalled : ((accumulator.ensureBucket (upper symbol)).setBucket (upper symbol)
          ((accumulator.bucket (upper symbol)).acknowledge (cardKey, version))).Covers
            trade := by
        apply Covers.setBucket hCovers.ensureBucket
        rw [ensureBucket_bucket]
        exact fun hPending => hPending.of_events rfl
      rcases hInstalled with ⟨item, hItem, hSymbol, hPending⟩ | hBucket
      · apply Or.inl
        refine ⟨_, List.mem_map_of_mem hItem, ?_, ?_⟩
        · split <;> exact hSymbol
        · split
          · exact hPending.of_events rfl
          · exact hPending
      · exact Or.inr hBucket

/-- A regular-session trade is covered once it is published. -/
theorem Accumulator.Fed.covers_complete (h : accumulator.Fed traded)
    (hRegular : trade.regularSession = true) (now : Instant) :
    (accumulator.complete now (.publishTrade trade)).Covers trade := by
  apply Or.inr
  refine ⟨accumulator.mem_ensureBucket _, ?_⟩
  show (((accumulator.ensureBucket (upper trade.symbol)).setBucket (upper trade.symbol) _).bucket
    (upper trade.symbol)).pending.Covers trade
  rw [setBucket_bucket, if_pos rfl, ensureBucket_bucket]
  exact (h.buckets _).pending.covers_addTrade hRegular

end Complete

/-! ## Draining -/

section Drain

variable {traded : String → ℚ → Prop} {accumulator : Accumulator} {trade : QuoteSnapshot}
  {now : Instant}

/-- Draining distinct symbols in turn drains each bucket as it was. -/
theorem Accumulator.drainEach_items {symbols : List String} {items : List DetachedMarketState}
    (hUpper : ∀ symbol ∈ symbols, upper symbol = symbol) (hNodup : symbols.Nodup) :
    (drainEach now symbols accumulator items).2 =
      items ++ symbols.map (fun symbol => ((accumulator.bucket symbol).drain symbol now).1) := by
  induction symbols generalizing accumulator items with
  | nil => simp [drainEach]
  | cons symbol symbols ih =>
    have hSymbol : upper symbol = symbol := hUpper symbol (List.mem_cons_self ..)
    obtain ⟨hFresh, hRest⟩ := List.nodup_cons.mp hNodup
    unfold drainEach
    rw [hSymbol]
    rw [ih (fun other hOther => hUpper other (List.mem_cons_of_mem _ hOther)) hRest,
      List.append_assoc, List.map_cons, List.singleton_append]
    congr 2
    apply List.map_congr_left
    intro other hOther
    rw [setBucket_bucket, if_neg]
    rintro rfl
    exact hFresh hOther

theorem Bucket.Fed.drain (h : bucket.Fed traded symbol) (name : String) (now : Instant) :
    (bucket.drain name now).2.Fed traded symbol :=
  ⟨PendingMarketState.fed_empty, h.breaches⟩

theorem Accumulator.Fed.drainEach (h : accumulator.Fed traded) (symbols : List String)
    (items : List DetachedMarketState) :
    (Accumulator.drainEach now symbols accumulator items).1.Fed traded := by
  induction symbols generalizing accumulator items with
  | nil => exact h
  | cons symbol symbols ih =>
    exact ih (h.setBucket ((h.buckets (upper symbol)).drain (upper symbol) now)) _

@[simp] theorem Accumulator.outstandingOf_drainEach (symbols : List String)
    (items : List DetachedMarketState) (symbol : String) :
    (drainEach now symbols accumulator items).1.outstandingOf symbol =
      accumulator.outstandingOf symbol := by
  induction symbols generalizing accumulator items with
  | nil => rfl
  | cons first symbols ih =>
    unfold drainEach
    rw [ih]
    unfold outstandingOf
    rw [setBucket_bucket]
    split
    · rename_i hSame
      rw [hSame]
      rfl
    · rfl

/-- The generations `drain_all` takes. -/
def Accumulator.drainedItems (accumulator : Accumulator) (now : Instant) :
    List DetachedMarketState :=
  accumulator.detached ++
    accumulator.symbols.map (fun symbol => ((accumulator.bucket symbol).drain symbol now).1)

def Accumulator.prunedItems (accumulator : Accumulator) (now : Instant) :
    List DetachedMarketState :=
  (accumulator.drainedItems now).map (fun item =>
    item.prune (accumulator.outstandingOf item.symbol))

/-- `drain_all` returns the generations, pruned, and replays of outstanding breaches. -/
theorem Accumulator.Fed.drainAll_items (h : accumulator.Fed traded) (now : Instant) :
    ∃ replays,
      (accumulator.drainAll now).2 =
          (accumulator.prunedItems now ++ replays).filter DetachedMarketState.isDelivered ∧
        ∀ item ∈ replays, ∃ symbol breach, upper symbol = symbol ∧
          breach ∈ (accumulator.bucket symbol).pendingBreaches ∧
            item = latchReplay symbol breach now := by
  let taken : Accumulator := { accumulator with detached := [] }
  let drained := (Accumulator.drainEach now accumulator.symbols taken accumulator.detached).1
  have hItems : (Accumulator.drainEach now accumulator.symbols taken accumulator.detached).2 =
      accumulator.drainedItems now :=
    Accumulator.drainEach_items h.upperSymbols h.nodup
  refine ⟨Accumulator.replaysFor now drained (drained.representedBy (accumulator.prunedItems now))
    accumulator.symbols, ?_, ?_⟩
  · unfold Accumulator.drainAll
    simp only [Accumulator.outstandingOf_drainEach]
    show List.filter _ (List.map _ (Accumulator.drainEach now accumulator.symbols taken
      accumulator.detached).2 ++ _) = _
    rw [hItems]
    rfl
  · intro item hItem
    obtain ⟨symbol, hSymbol, hReplay⟩ := List.mem_flatMap.mp hItem
    obtain ⟨breach, hBreach, rfl⟩ := List.mem_map.mp hReplay
    have hUpper := h.upperSymbols symbol hSymbol
    have hOutstanding := List.mem_of_mem_filter hBreach
    rw [Accumulator.outstandingOf_drainEach] at hOutstanding
    refine ⟨symbol, breach, hUpper, ?_, rfl⟩
    unfold Accumulator.outstandingOf at hOutstanding
    rwa [hUpper] at hOutstanding

/-- What a pruned item keeps of the events of its generation. -/
theorem Accumulator.Fed.prunedItems (h : accumulator.Fed traded) :
    ∀ item ∈ accumulator.prunedItems now, item.pending.Fed traded item.symbol ∧
      item.latchReplay = false ∧ upper item.symbol = item.symbol := by
  intro pruned hPruned
  obtain ⟨item, hItem, rfl⟩ := List.mem_map.mp hPruned
  rcases List.mem_append.mp hItem with hDetached | hBucket
  · obtain ⟨hFed, hRest⟩ := h.detached item hDetached
    exact ⟨hFed.of_events rfl, hRest⟩
  · obtain ⟨symbol, hSymbol, rfl⟩ := List.mem_map.mp hBucket
    exact ⟨(h.buckets symbol).pending.of_events rfl, rfl, h.upperSymbols symbol hSymbol⟩

theorem Accumulator.Covers.prunedItems (h : accumulator.Covers trade) :
    ∃ item ∈ accumulator.prunedItems now,
      item.symbol = upper trade.symbol ∧ item.pending.Covers trade := by
  rcases h with ⟨item, hItem, hSymbol, hCovers⟩ | ⟨hKnown, hCovers⟩
  · exact ⟨_, List.mem_map_of_mem (List.mem_append_left _ hItem), hSymbol, hCovers.of_events rfl⟩
  · exact ⟨_, List.mem_map_of_mem (List.mem_append_right _ (List.mem_map_of_mem hKnown)), rfl,
      hCovers.of_events rfl⟩

theorem Accumulator.Fed.drainAll (h : accumulator.Fed traded) (now : Instant) :
    (accumulator.drainAll now).1.Fed traded := by
  have hTaken : Accumulator.Fed traded { accumulator with detached := [] } :=
    ⟨h.upperSymbols, h.nodup, h.buckets, by simp⟩
  exact hTaken.drainEach accumulator.symbols accumulator.detached

end Drain

end QuantApp.Services
