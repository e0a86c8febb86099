import QuantApp.Services.FedGenerations

/-!
# Coalescing agrees with tick-by-tick delivery

A poll shows the extremes of every generation, so every threshold their trades crossed;
a replay of a latched breach stays out of the quote cache.  The price of a snapshot that
a quote event stamps as regular-session is the last price the symbol traded at, in
whatever session; `coalescing_agrees_iff` says when that is the price of a
regular-session trade.
-/

namespace QuantApp.Services

open Core Verified
open DetachedMarketState (tradeSnapshot combined isDelivered)

variable {trade : QuoteSnapshot} {items : List DetachedMarketState}

/-! ## Polling -/

section Poll

variable {traded : String → ℚ → Prop} {processedAt : Instant} {ready : List QuoteSnapshot}
  {cache : QuoteCache} {item : DetachedMarketState} {snapshot : QuoteSnapshot}

/-- The representatives are the extremes, or without them the latest trade. -/
theorem PendingMarketState.mem_representativeTrades {pending : PendingMarketState} :
    trade ∈ pending.representativeTrades ↔
      (pending.minimumTrade = some trade ∨ pending.maximumTrade = some trade) ∨
        (pending.minimumTrade = none ∧ pending.maximumTrade = none ∧
          pending.latestTrade = some trade) := by
  unfold PendingMarketState.representativeTrades
  simp only [List.mem_insertionSort]
  cases hMinimum : pending.minimumTrade with
  | none =>
    cases hMaximum : pending.maximumTrade with
    | none => simp [addRepresentative, Option.mem_toList]
    | some => simp [addRepresentative, eq_comm]
  | some lowest =>
    cases hMaximum : pending.maximumTrade with
    | none => simp [addRepresentative, eq_comm]
    | some highest =>
      by_cases hSame : highest = lowest
      all_goals simp [addRepresentative, hSame, eq_comm]

theorem mem_pollItem :
    snapshot ∈ (pollItem processedAt ready cache item).1 ↔
      snapshot ∈ ready ∨
        (∃ trade ∈ item.pending.representativeTrades,
          snapshot = item.tradeSnapshot processedAt trade) ∨
        ∃ latest, item.latest = some latest ∧
          snapshot = item.combined cache processedAt latest := by
  unfold pollItem
  simp only
  cases hLatest : item.latest with
  | none => simp [eq_comm]
  | some =>
    simp only
    split
    · rename_i hLast
      have hMem := List.mem_of_getLast? hLast
      constructor
      · intro hSnapshot
        rcases List.mem_append.mp hSnapshot with hReady | hTrade
        · exact Or.inl hReady
        · obtain ⟨trade, hRepresentative, rfl⟩ := List.mem_map.mp hTrade
          exact Or.inr (Or.inl ⟨trade, hRepresentative, rfl⟩)
      · rintro (hReady | ⟨trade, hTrade, rfl⟩ | ⟨latest', hSame, rfl⟩)
        · exact List.mem_append_left _ hReady
        · exact List.mem_append_right _ (List.mem_map_of_mem hTrade)
        · cases hSame
          exact hMem
    · simp [eq_comm]

theorem pollItem_latchReplay (h : item.latchReplay = true) :
    ∃ added, pollItem processedAt ready cache item = (ready ++ added, cache) ∧
      ∀ snapshot ∈ added, snapshot.entryTriggerEligible = false := by
  refine ⟨item.pending.representativeTrades.map (item.tradeSnapshot processedAt), ?_, ?_⟩
  · simp [pollItem, DetachedMarketState.latest, h]
  · intro snapshot hSnapshot
    obtain ⟨trade, -, rfl⟩ := List.mem_map.mp hSnapshot
    simp [tradeSnapshot, h]

/-! ### The price of a combined snapshot -/

/-- The price the cache holds for a symbol, or the one a poll takes without it. -/
def cachedPrice (cache : QuoteCache) (symbol : String) : ℚ :=
  ((cache.get symbol).map QuoteSnapshot.lastPrice).getD 0

/-- A snapshot stamped as regular-session has a traded price of its symbol. -/
def Priced (traded : String → ℚ → Prop) (snapshot : QuoteSnapshot) : Prop :=
  snapshot.regularSession = true → traded (upper snapshot.symbol) snapshot.lastPrice

/-- The latest events of a generation. -/
structure Generation where
  symbol : String
  latestTrade : Option QuoteSnapshot
  latestQuote : Option QuoteSnapshot

def DetachedMarketState.generation (item : DetachedMarketState) : Generation :=
  { symbol := item.symbol, latestTrade := item.pending.latestTrade
    latestQuote := item.pending.latestQuote }

/-- The last price the symbol traded at when the generation ended, `price` being the last
one before it. -/
def Generation.lastPrice (generation : Generation) (price : ℚ) : ℚ :=
  (generation.latestTrade.map QuoteSnapshot.lastPrice).getD price

/-- In every generation that ends with a regular-session quote event, the symbol last
traded at a traded price; `prices` are the prices the symbols last traded at before. -/
def QuotesPriced (traded : String → ℚ → Prop) : (String → ℚ) → List Generation → Prop
  | _, [] => True
  | prices, generation :: generations =>
    let price := generation.lastPrice (prices generation.symbol)
    (∀ quote, generation.latestQuote = some quote → quote.regularSession = true →
      traded generation.symbol price) ∧
      QuotesPriced traded
        (fun symbol => if upper symbol = generation.symbol then price else prices symbol)
        generations

variable (latest : QuoteSnapshot)

theorem combined_lastPrice :
    (item.combined cache processedAt latest).lastPrice =
      item.generation.lastPrice (cachedPrice cache item.symbol) := by
  unfold combined Generation.lastPrice DetachedMarketState.generation
  cases item.pending.latestTrade <;> rfl

theorem combined_symbol :
    (item.combined cache processedAt latest).symbol = latest.symbol := rfl

theorem combined_regularSession :
    (item.combined cache processedAt latest).regularSession = latest.regularSession := rfl

theorem latest_eq_some (hReplay : item.latchReplay = false) {latest : QuoteSnapshot} :
    item.latest = some latest ↔ item.pending.latestQuote = some latest ∨
      (item.pending.latestQuote = none ∧ item.pending.latestTrade = some latest) := by
  unfold DetachedMarketState.latest
  rw [hReplay]
  cases item.pending.latestQuote <;> simp

section

variable (hFed : item.pending.Fed traded item.symbol)
include hFed

theorem upper_latest (hReplay : item.latchReplay = false) {latest : QuoteSnapshot}
    (h : item.latest = some latest) : upper latest.symbol = item.symbol := by
  rcases (latest_eq_some hReplay).mp h with hQuote | ⟨-, hTrade⟩
  · exact hFed.latestQuote latest hQuote
  · exact (hFed.latestTrade latest hTrade).1

theorem priced_tradeSnapshot (hTrade : trade ∈ item.pending.representativeTrades) :
    Priced traded (item.tradeSnapshot processedAt trade) := by
  intro hRegular
  show traded (upper trade.symbol) trade.lastPrice
  rcases PendingMarketState.mem_representativeTrades.mp hTrade with
    (hMinimum | hMaximum) | ⟨hMinimum, -, hLatest⟩
  · obtain ⟨-, hSymbol, hTraded⟩ := hFed.minimum trade hMinimum
    rwa [hSymbol]
  · obtain ⟨-, hSymbol, hTraded⟩ := hFed.maximum trade hMaximum
    rwa [hSymbol]
  · obtain ⟨-, hExtreme⟩ := (hFed.latestTrade trade hLatest).2 hRegular
    rw [hMinimum] at hExtreme
    cases hExtreme

/-- The snapshots of an item are priced exactly if its generation is. -/
theorem priced_pollItem (hReplay : item.latchReplay = false) :
    (∀ snapshot ∈ (pollItem processedAt ready cache item).1, Priced traded snapshot) ↔
      (∀ snapshot ∈ ready, Priced traded snapshot) ∧
        ∀ quote, item.generation.latestQuote = some quote → quote.regularSession = true →
          traded item.symbol (item.generation.lastPrice (cachedPrice cache item.symbol)) := by
  constructor
  · intro h
    constructor
    · exact fun snapshot hReady => h snapshot (mem_pollItem.mpr (Or.inl hReady))
    · intro quote hQuote hRegular
      have hLatest : item.latest = some quote := (latest_eq_some hReplay).mpr (Or.inl hQuote)
      have hPriced := h _ (mem_pollItem.mpr (Or.inr (Or.inr ⟨quote, hLatest, rfl⟩))) hRegular
      rwa [combined_lastPrice, combined_symbol, upper_latest hFed hReplay hLatest] at hPriced
  · rintro ⟨hReady, hQuotes⟩ snapshot hSnapshot
    rcases mem_pollItem.mp hSnapshot with hOld | ⟨trade, hTrade, rfl⟩ | ⟨latest, hLatest, rfl⟩
    · exact hReady snapshot hOld
    · exact priced_tradeSnapshot hFed hTrade
    · intro hRegular
      rw [combined_regularSession] at hRegular
      rw [combined_lastPrice, combined_symbol, upper_latest hFed hReplay hLatest]
      rcases (latest_eq_some hReplay).mp hLatest with hQuote | ⟨-, hTrade⟩
      · exact hQuotes latest hQuote hRegular
      · have hTraded := ((hFed.latestTrade latest hTrade).2 hRegular).1
        have hPrice : item.generation.lastPrice (cachedPrice cache item.symbol) =
            latest.lastPrice := by
          simp [Generation.lastPrice, DetachedMarketState.generation, hTrade]
        rwa [hPrice]

theorem cachedPrice_pollItem (hReplay : item.latchReplay = false)
    (hUpper : upper item.symbol = item.symbol) :
    cachedPrice (pollItem processedAt ready cache item).2 = fun symbol =>
      if upper symbol = item.symbol then
        item.generation.lastPrice (cachedPrice cache item.symbol)
      else cachedPrice cache symbol := by
  funext symbol
  unfold pollItem
  simp only
  cases hLatest : item.latest with
  | none =>
    have hTrade : item.pending.latestTrade = none := by
      unfold DetachedMarketState.latest at hLatest
      rw [hReplay] at hLatest
      simp only [Bool.false_eq_true, if_false, Option.or_eq_none_iff] at hLatest
      exact hLatest.2
    have hPrice : item.generation.lastPrice (cachedPrice cache item.symbol) =
        cachedPrice cache item.symbol := by
      simp [Generation.lastPrice, DetachedMarketState.generation, hTrade]
    rw [hPrice]
    simp only
    split
    · rename_i hSame
      unfold cachedPrice QuoteCache.get
      rw [hUpper, hSame]
    · rfl
  | some latest =>
    have hSymbol := upper_latest hFed hReplay hLatest
    unfold cachedPrice QuoteCache.get QuoteCache.update
    simp only [combined_symbol, hSymbol]
    by_cases hSame : upper symbol = item.symbol
    · rw [if_pos hSame, if_pos hSame]
      exact combined_lastPrice latest
    · rw [if_neg hSame, if_neg hSame]

end

/-- One item of a poll. -/
def pollStep (processedAt : Instant) (polled : List QuoteSnapshot × QuoteCache)
    (item : DetachedMarketState) : List QuoteSnapshot × QuoteCache :=
  pollItem processedAt polled.1 polled.2 item

/-- An item that is not delivered has no latest event, so it changes no price. -/
theorem quotesPriced_undelivered (hFed : item.pending.Fed traded item.symbol)
    (hUpper : upper item.symbol = item.symbol) (h : item.isDelivered = false)
    (generations : List Generation) :
    QuotesPriced traded (cachedPrice cache) (item.generation :: generations) ↔
      QuotesPriced traded (cachedPrice cache) generations := by
  have hEmpty : item.pending.eventCount = 0 := by
    unfold isDelivered at h
    simp only [Bool.or_eq_false_iff, decide_eq_false_iff_not, not_not] at h
    exact h.1
  obtain ⟨hTrade, hQuote⟩ := hFed.empty hEmpty
  have hPrices : (fun symbol => if upper symbol = item.generation.symbol then
      item.generation.lastPrice (cachedPrice cache item.generation.symbol)
      else cachedPrice cache symbol) = cachedPrice cache := by
    funext symbol
    by_cases hSame : upper symbol = item.generation.symbol
    · rw [if_pos hSame]
      have hItem : upper symbol = item.symbol := hSame
      simp [Generation.lastPrice, DetachedMarketState.generation, hTrade, cachedPrice,
        QuoteCache.get, hItem, hUpper]
    · rw [if_neg hSame]
  show _ ∧ QuotesPriced traded (fun symbol => if upper symbol = item.generation.symbol then
      item.generation.lastPrice (cachedPrice cache item.generation.symbol)
      else cachedPrice cache symbol) generations ↔ _
  rw [hPrices]
  simp [DetachedMarketState.generation, hQuote]

/-- A poll of fed generations shows priced snapshots exactly if the generations are. -/
theorem priced_pollItems
    (hItems : ∀ item ∈ items, item.pending.Fed traded item.symbol ∧
      item.latchReplay = false ∧ upper item.symbol = item.symbol) :
    (∀ snapshot ∈ ((items.filter isDelivered).foldl (pollStep processedAt)
        (ready, cache)).1, Priced traded snapshot) ↔
      (∀ snapshot ∈ ready, Priced traded snapshot) ∧
        QuotesPriced traded (cachedPrice cache) (items.map DetachedMarketState.generation) := by
  induction items generalizing ready cache with
  | nil => simp [QuotesPriced]
  | cons item items ih =>
    obtain ⟨hFed, hReplay, hUpper⟩ := hItems item (List.mem_cons_self ..)
    have hRest := fun other hOther => hItems other (List.mem_cons_of_mem item hOther)
    by_cases hDelivered : item.isDelivered = true
    · rw [List.filter_cons_of_pos hDelivered, List.foldl_cons]
      rw [show pollStep processedAt (ready, cache) item =
        ((pollItem processedAt ready cache item).1, (pollItem processedAt ready cache item).2)
        from rfl]
      rw [ih hRest, priced_pollItem hFed hReplay, cachedPrice_pollItem hFed hReplay hUpper,
        and_assoc]
      rfl
    · rw [List.filter_cons_of_neg hDelivered, ih hRest, List.map_cons,
        quotesPriced_undelivered hFed hUpper (by simpa using hDelivered)]

/-- The replays of breaches with traded prices show priced snapshots. -/
theorem priced_replays {replays : List DetachedMarketState}
    (hReplays : ∀ item ∈ replays, ∃ symbol breach, EventOf traded symbol breach.quote ∧
      ∃ now, item = latchReplay symbol breach now) :
    (∀ snapshot ∈ (replays.foldl (pollStep processedAt) (ready, cache)).1,
        Priced traded snapshot) ↔
      ∀ snapshot ∈ ready, Priced traded snapshot := by
  induction replays generalizing ready cache with
  | nil => rfl
  | cons item replays ih =>
    obtain ⟨symbol, breach, ⟨-, hSymbol, hTraded⟩, now, rfl⟩ :=
      hReplays item (List.mem_cons_self ..)
    rw [List.foldl_cons]
    rw [show pollStep processedAt (ready, cache) (latchReplay symbol breach now) =
      ((pollItem processedAt ready cache (latchReplay symbol breach now)).1,
        (pollItem processedAt ready cache (latchReplay symbol breach now)).2) from rfl]
    rw [ih (fun other hOther => hReplays other (List.mem_cons_of_mem _ hOther))]
    constructor
    · exact fun h snapshot hReady => h snapshot (mem_pollItem.mpr (Or.inl hReady))
    · intro h snapshot hSnapshot
      rcases mem_pollItem.mp hSnapshot with hOld | ⟨trade, hTrade, rfl⟩ | ⟨latest, hLatest, -⟩
      · exact h snapshot hOld
      · have hQuote : trade = breach.quote := by
          simpa [latchReplay, PendingMarketState.mem_representativeTrades, eq_comm]
            using hTrade
        intro _
        show traded (upper trade.symbol) trade.lastPrice
        rw [hQuote, hSymbol]
        exact hTraded
      · cases hLatest

theorem tradeSnapshot_mem
    (h : item ∈ items ∧ trade ∈ item.pending.representativeTrades ∨
      item.tradeSnapshot processedAt trade ∈ ready) :
    item.tradeSnapshot processedAt trade ∈
      (items.foldl (pollStep processedAt) (ready, cache)).1 := by
  induction items generalizing ready cache with
  | nil =>
    rcases h with ⟨hItem, -⟩ | hReady
    · cases hItem
    · exact hReady
  | cons first items ih =>
    apply ih
    rcases h with ⟨hItem, hTrade⟩ | hReady
    · rcases List.mem_cons.mp hItem with rfl | hLater
      · exact Or.inr (mem_pollItem.mpr (Or.inr (Or.inl ⟨trade, hTrade, rfl⟩)))
      · exact Or.inl ⟨hLater, hTrade⟩
    · exact Or.inr (mem_pollItem.mpr (Or.inl hReady))

end Poll

/-! ## Runs of the feed -/

/-- The symbol traded at the price in a regular session. -/
def TradedAt (accepted : List QuoteSnapshot) (symbol : String) (price : ℚ) : Prop :=
  ∃ trade ∈ accepted, trade.regularSession = true ∧ upper trade.symbol = symbol ∧
    trade.lastPrice = price

theorem TradedAt.append {accepted added : List QuoteSnapshot} {symbol : String} {price : ℚ}
    (h : TradedAt accepted symbol price) : TradedAt (accepted ++ added) symbol price := by
  obtain ⟨trade, hTrade, hRest⟩ := h
  exact ⟨trade, List.mem_append_left added hTrade, hRest⟩

/-- The generations a poll takes: the detached ones, then the current one of each symbol. -/
def Accumulator.generations (accumulator : Accumulator) : List Generation :=
  accumulator.detached.map DetachedMarketState.generation ++
    accumulator.symbols.map (fun symbol =>
      { symbol := symbol
        latestTrade := (accumulator.bucket symbol).pending.latestTrade
        latestQuote := (accumulator.bucket symbol).pending.latestQuote })

theorem generations_prunedItems (accumulator : Accumulator) (now : Instant) :
    (accumulator.prunedItems now).map DetachedMarketState.generation =
      accumulator.generations := by
  unfold Accumulator.prunedItems Accumulator.drainedItems Accumulator.generations
  simp only [List.map_append, List.map_map]
  rfl

theorem runs_next {P : FeedRun → FeedEvent → Prop} {before run : FeedRun} {event : FeedEvent}
    (h : RunWith FeedStep P before run) (hEvent : P run event) :
    RunWith FeedStep P before (run.next event) :=
  h.step hEvent rfl

namespace FeedRun

/-- The runtime latches a breach of a regular-session snapshot a poll returned. -/
def Admits (run : FeedRun) : FeedEvent → Prop
  | .call (.latchBreach symbol _ _ quote _) _ =>
    quote ∈ run.returned ∧ quote.regularSession = true ∧ upper quote.symbol = upper symbol
  | _ => True

/-- Every generation that ends with a regular-session quote event follows a regular-session
trade at the price its symbol last traded at. -/
def QuotesFollowTrades (run : FeedRun) : Prop :=
  QuotesPriced (TradedAt run.accepted) (cachedPrice run.feed.cache)
    run.feed.accumulator.generations

/-- The event is one of the runtime, and a poll follows regular-session trades. -/
def Follows (run : FeedRun) : FeedEvent → Prop
  | .call call now => run.Admits (.call call now)
  | .poll _ => run.QuotesFollowTrades

/-- A poll shows every threshold that a regular-session trade since the last poll crossed,
and no replay of a breach triggers an entry or changes the quote cache. -/
structure PollCovers (run : FeedRun) (now : Instant) : Prop where
  above : ∀ trade ∈ run.fresh, trade.regularSession = true → ∀ threshold : ℚ,
    threshold < trade.lastPrice → ∃ snapshot ∈ (run.feed.pollOnce now).2,
      upper snapshot.symbol = upper trade.symbol ∧ snapshot.regularSession = true ∧
        threshold < snapshot.lastPrice
  atOrBelow : ∀ trade ∈ run.fresh, trade.regularSession = true → ∀ threshold : ℚ,
    trade.lastPrice ≤ threshold → ∃ snapshot ∈ (run.feed.pollOnce now).2,
      upper snapshot.symbol = upper trade.symbol ∧ snapshot.regularSession = true ∧
        snapshot.lastPrice ≤ threshold
  replays : ∀ item ∈ (run.feed.accumulator.drainAll now).2, item.latchReplay = true →
    ∀ ready cache, ∃ added, pollItem now ready cache item = (ready ++ added, cache) ∧
      ∀ snapshot ∈ added, snapshot.entryTriggerEligible = false

/-- A poll agrees with tick-by-tick delivery: it covers the trades, and every snapshot it
stamps as regular-session has the price of a regular-session trade. -/
structure PollAgrees (run : FeedRun) (now : Instant) : Prop extends run.PollCovers now where
  priced : ∀ snapshot ∈ (run.feed.pollOnce now).2, Priced (TradedAt run.accepted) snapshot

/-- What the feed keeps between polls. -/
structure Sound (traded : String → ℚ → Prop) (run : FeedRun) : Prop where
  fed : run.feed.accumulator.Fed traded
  covered : ∀ trade ∈ run.fresh, trade.regularSession = true → run.feed.accumulator.Covers trade

variable {traded : String → ℚ → Prop} {run after : FeedRun} {event : FeedEvent} {now : Instant}

theorem sound_empty : Sound traded {} where
  fed := Accumulator.fed_empty
  covered := by simp

theorem Sound.call (h : run.Sound traded) {call : BucketCall} (hFeeds : call.Feeds traded) :
    (run.next (.call call now)).Sound traded := by
  refine ⟨h.fed.complete hFeeds now, ?_⟩
  intro trade hTrade hRegular
  rcases List.mem_append.mp hTrade with hOld | hNew
  · exact (h.covered trade hOld hRegular).complete h.fed call now
  · cases call with
    | publishTrade =>
      rw [List.mem_singleton.mp hNew] at hRegular ⊢
      exact h.fed.covers_complete hRegular now
    | _ => cases hNew

theorem Sound.poll (h : run.Sound traded) : (run.next (.poll now)).Sound traded :=
  ⟨h.fed.drainAll now, by simp [next]⟩

/-- An item that covers a trade is shown from its lowest to its highest. -/
theorem shown_of_covers {traded : String → ℚ → Prop} {item : DetachedMarketState}
    {cache : QuoteCache} {now : Instant} (hItem : item ∈ items)
    (hFed : item.pending.Fed traded item.symbol) (hCovers : item.pending.Covers trade) :
    (∃ lowest ∈ (items.foldl (pollStep now) ([], cache)).1, upper lowest.symbol = item.symbol ∧
        lowest.regularSession = true ∧ lowest.lastPrice ≤ trade.lastPrice) ∧
      ∃ highest ∈ (items.foldl (pollStep now) ([], cache)).1,
        upper highest.symbol = item.symbol ∧ highest.regularSession = true ∧
          trade.lastPrice ≤ highest.lastPrice := by
  obtain ⟨⟨lowest, hLowest, hLow⟩, ⟨highest, hHighest, hHigh⟩, -⟩ := hCovers
  obtain ⟨hLowRegular, hLowSymbol, -⟩ := hFed.minimum lowest hLowest
  obtain ⟨hHighRegular, hHighSymbol, -⟩ := hFed.maximum highest hHighest
  constructor
  · refine ⟨item.tradeSnapshot now lowest, tradeSnapshot_mem (Or.inl ⟨hItem, ?_⟩), hLowSymbol,
      hLowRegular, hLow⟩
    exact PendingMarketState.mem_representativeTrades.mpr (Or.inl (Or.inl hLowest))
  · refine ⟨item.tradeSnapshot now highest, tradeSnapshot_mem (Or.inl ⟨hItem, ?_⟩),
      hHighSymbol, hHighRegular, hHigh⟩
    exact PendingMarketState.mem_representativeTrades.mpr (Or.inl (Or.inr hHighest))

theorem Sound.pollCovers (h : run.Sound traded) (now : Instant) : run.PollCovers now := by
  have hShown : ∀ trade ∈ run.fresh, trade.regularSession = true →
      (∃ lowest ∈ (run.feed.pollOnce now).2, upper lowest.symbol = upper trade.symbol ∧
          lowest.regularSession = true ∧ lowest.lastPrice ≤ trade.lastPrice) ∧
        ∃ highest ∈ (run.feed.pollOnce now).2, upper highest.symbol = upper trade.symbol ∧
          highest.regularSession = true ∧ trade.lastPrice ≤ highest.lastPrice := by
    intro trade hTrade hRegular
    obtain ⟨item, hItem, hSymbol, hCovers⟩ := (h.covered trade hTrade hRegular).prunedItems
    obtain ⟨replays, hItems, -⟩ := h.fed.drainAll_items now
    have hDelivered : item.isDelivered = true := by
      simp [isDelivered, hCovers.event]
    have hDrained : item ∈ (run.feed.accumulator.drainAll now).2 := by
      rw [hItems]
      exact List.mem_filter.mpr ⟨List.mem_append_left _ hItem, hDelivered⟩
    rw [← hSymbol]
    exact shown_of_covers hDrained (h.fed.prunedItems item hItem).1 hCovers
  constructor
  · intro trade hTrade hRegular threshold hAbove
    obtain ⟨-, highest, hMem, hSymbol, hSession, hHigh⟩ := hShown trade hTrade hRegular
    exact ⟨highest, hMem, hSymbol, hSession, lt_of_lt_of_le hAbove hHigh⟩
  · intro trade hTrade hRegular threshold hBelow
    obtain ⟨⟨lowest, hMem, hSymbol, hSession, hLow⟩, -⟩ := hShown trade hTrade hRegular
    exact ⟨lowest, hMem, hSymbol, hSession, le_trans hLow hBelow⟩
  · intro item _ hReplay ready cache
    exact pollItem_latchReplay hReplay

theorem Sound.priced_pollOnce (h : run.Sound traded) (now : Instant) :
    (∀ snapshot ∈ (run.feed.pollOnce now).2, Priced traded snapshot) ↔
      QuotesPriced traded (cachedPrice run.feed.cache) run.feed.accumulator.generations := by
  obtain ⟨replays, hItems, hReplays⟩ := h.fed.drainAll_items now
  have hPolled : (run.feed.pollOnce now).2 =
      ((run.feed.accumulator.drainAll now).2.foldl (pollStep now) ([], run.feed.cache)).1 := rfl
  rw [hPolled, hItems, List.filter_append, List.foldl_append, priced_replays,
    priced_pollItems h.fed.prunedItems, generations_prunedItems]
  · simp
  · intro item hItem
    obtain ⟨symbol, breach, -, hBreach, rfl⟩ := hReplays item (List.mem_of_mem_filter hItem)
    exact ⟨symbol, breach, (h.fed.buckets symbol).breaches breach hBreach, now, rfl⟩

/-! ### The prices of accepted trades -/

theorem Sound.mono {traded' : String → ℚ → Prop} (h : run.Sound traded)
    (hTraded : ∀ symbol price, traded symbol price → traded' symbol price) :
    run.Sound traded' :=
  ⟨h.fed.mono hTraded, h.covered⟩

theorem sound_of_admitted (hRun : RunWith FeedStep Admits {} run) :
    run.Sound (fun _ _ => True) := by
  apply RunWith.invariant hRun sound_empty
  rintro before event after hSound hAdmits rfl
  cases event with
  | call call =>
    apply hSound.call
    cases call with
    | latchBreach =>
      exact ⟨hAdmits.2.1, hAdmits.2.2, trivial⟩
    | publishTrade => exact fun _ => trivial
    | _ => trivial
  | poll => exact hSound.poll

/-- In a run whose polls follow regular-session trades, every price the feed keeps and
every price it returned is that of a regular-session trade. -/
structure Faithful (run : FeedRun) : Prop where
  sound : run.Sound (TradedAt run.accepted)
  returned : ∀ snapshot ∈ run.returned, Priced (TradedAt run.accepted) snapshot

theorem Faithful.call (h : run.Faithful) {call : BucketCall}
    (hAdmits : run.Admits (.call call now)) : (run.next (.call call now)).Faithful := by
  have hSound : run.Sound (TradedAt (run.accepted ++ call.acceptedTrade)) :=
    h.sound.mono (fun _ _ hTraded => hTraded.append)
  constructor
  · apply hSound.call
    cases call with
    | publishTrade quote =>
      intro hRegular
      exact ⟨quote, List.mem_append_right _ (List.mem_singleton_self quote), hRegular, rfl, rfl⟩
    | latchBreach symbol cardKey version quote =>
      obtain ⟨hReturned, hRegular, hSymbol⟩ := hAdmits
      have hPriced := h.returned quote hReturned hRegular
      rw [hSymbol] at hPriced
      exact ⟨hRegular, hSymbol, hPriced.append⟩
    | _ => trivial
  · exact fun snapshot hSnapshot hRegular => (h.returned snapshot hSnapshot hRegular).append

theorem Faithful.poll (h : run.Faithful) (hFollows : run.QuotesFollowTrades) :
    (run.next (.poll now)).Faithful := by
  refine ⟨h.sound.poll, ?_⟩
  intro snapshot hSnapshot
  rcases List.mem_append.mp hSnapshot with hOld | hNew
  · exact h.returned snapshot hOld
  · exact (h.sound.priced_pollOnce now).mpr hFollows snapshot hNew

theorem faithful_of_follows (hRun : RunWith FeedStep Follows {} run) : run.Faithful := by
  apply RunWith.invariant hRun ⟨sound_empty, by simp⟩
  rintro before event after hFaithful hFollows rfl
  cases event with
  | call => exact hFaithful.call hFollows
  | poll => exact hFaithful.poll hFollows

end FeedRun

/-- Every poll of every run covers its trades; and in a run whose polls so far followed
regular-session trades, the next poll agrees with tick-by-tick delivery exactly if it does
so too. -/
theorem coalescing_agrees_iff (run : FeedRun) (now : Instant) :
    (RunWith FeedStep FeedRun.Admits {} run → run.PollCovers now) ∧
      (RunWith FeedStep FeedRun.Follows {} run →
        (run.PollAgrees now ↔ run.QuotesFollowTrades)) := by
  constructor
  · intro hRun
    exact (FeedRun.sound_of_admitted hRun).pollCovers now
  · intro hRun
    have hSound := (FeedRun.faithful_of_follows hRun).sound
    constructor
    · exact fun hAgrees => (hSound.priced_pollOnce now).mp hAgrees.priced
    · exact fun hFollows => ⟨hSound.pollCovers now, (hSound.priced_pollOnce now).mpr hFollows⟩

/-! ## A quote after an out-of-session trade -/

def preMarketTrade : QuoteSnapshot :=
  { symbol := "AAPL", lastPrice := 90, receivedAt := 0, brokerEventAt := 0, processedAt := 0
    regularSession := false }

/-- A quote event, stamped as a quote record is: in the regular session by default. -/
def quoteEvent : QuoteSnapshot :=
  { symbol := "AAPL", lastPrice := 0, receivedAt := 1, brokerEventAt := 1, processedAt := 1 }

def preMarketRun : FeedRun :=
  (FeedRun.next {} (.call (.publishTrade preMarketTrade) 0)).next
    (.call (.publishQuote quoteEvent) 1)

/-- The pre-market price is returned as a regular-session price. -/
theorem preMarket_price_returned :
    ¬ ∀ run now, RunWith FeedStep FeedRun.Admits {} run → FeedRun.PollAgrees run now := by
  intro h
  have hRun : RunWith FeedStep FeedRun.Admits {} preMarketRun :=
    runs_next (runs_next (RunWith.refl _) trivial) trivial
  have hReturned : { quoteEvent with lastPrice := 90, processedAt := 2 } ∈
      (preMarketRun.feed.pollOnce 2).2 := by decide +kernel
  obtain ⟨trade, hTrade, hRegular, -⟩ := (h preMarketRun 2 hRun).priced _ hReturned rfl
  have hOnly : trade = preMarketTrade := by
    simpa [preMarketRun, FeedRun.next, BucketCall.acceptedTrade] using hTrade
  rw [hOnly] at hRegular
  cases hRegular

/-- The same events, with the trade in the regular session. -/
def regularRun : FeedRun :=
  (FeedRun.next {} (.call (.publishTrade { preMarketTrade with regularSession := true }) 0)).next
    (.call (.publishQuote quoteEvent) 1)

theorem coalescing_agrees_iff_regular :
    preMarketRun.PollCovers 2 ∧ (regularRun.PollAgrees 2 ↔ regularRun.QuotesFollowTrades) := by
  have hPreMarket : RunWith FeedStep FeedRun.Admits {} preMarketRun :=
    runs_next (runs_next (RunWith.refl _) trivial) trivial
  have hRegular : RunWith FeedStep FeedRun.Follows {} regularRun :=
    runs_next (runs_next (RunWith.refl _) trivial) trivial
  exact ⟨(coalescing_agrees_iff _ 2).1 hPreMarket, (coalescing_agrees_iff _ 2).2 hRegular⟩

end QuantApp.Services
