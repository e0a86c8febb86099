import QuantApp.Services.AccumulatorCalls

/-!
# Outstanding stop breaches

A breach is outstanding from the trade that makes it until it is acknowledged, whatever
generation carries it.  `outstanding_runSection` says what one section of any call does
to an outstanding identity, and `AccumulatorMachine.Sound` is what every interleaving
of the calls keeps.

The prices are those of `priceOf`: a version determines the price of its rule.
-/

namespace QuantApp.Services

open Core Verified

variable {added : List PendingBreach} {stopRules : List StopRule} {cardKey version other : String}
  {stopPrice : ℚ}

variable {identity : StopIdentity} {now : Instant} {breach : PendingBreach}
  {breaches : List PendingBreach} {running : RunningCall} {quote : QuoteSnapshot}
  {bucket rotated : Bucket} {rules : List StopRule} {item : DetachedMarketState}
  {shared : Accumulator} {thread : Nat}

/-! ## A bucket -/

/-- The identity waits for its acknowledgement. -/
def Bucket.Outstanding (bucket : Bucket) (identity : StopIdentity) : Prop :=
  identity ∈ bucket.pendingBreaches.map PendingBreach.identity

/-- A trade breaches an installed rule of this identity. -/
def Bucket.BreachedBy (bucket : Bucket) (quote : QuoteSnapshot) (identity : StopIdentity) : Prop :=
  quote.regularSession = true ∧
    ∃ rule ∈ bucket.stopRules, rule.identity = identity ∧ quote.lastPrice ≤ rule.price

/-- What a bucket keeps, `priceOf` being the price of each identity of its symbol. -/
structure Bucket.Sound (priceOf : StopIdentity → ℚ) (symbol : String) (bucket : Bucket) : Prop where
  rulesKeyed : Keyed StopRule.cardKey bucket.stopRules
  rulePrice : ∀ rule ∈ bucket.stopRules, rule.price = priceOf rule.identity
  breachPrice : ∀ breach ∈ bucket.pendingBreaches,
    breach.quote.lastPrice ≤ priceOf breach.identity ∧ upper breach.quote.symbol = symbol
  breachedOutstanding : ∀ identity ∈ bucket.pending.breachedStopVersions,
    bucket.Outstanding identity

theorem Bucket.sound_empty (priceOf : StopIdentity → ℚ) (symbol : String) :
    Bucket.Sound priceOf symbol {} where
  rulesKeyed := List.nodup_nil
  rulePrice := by simp
  breachPrice := by simp
  breachedOutstanding := by simp

theorem mem_setDefaultBreach {other : PendingBreach}
    (h : other ∈ setDefaultBreach breach breaches) :
    other = breach ∨ other ∈ breaches := by
  unfold setDefaultBreach at h
  split at h
  · exact Or.inr h
  · simpa [or_comm] using h

theorem identity_setDefaultBreach :
    identity ∈ (setDefaultBreach breach breaches).map PendingBreach.identity ↔
      identity = breach.identity ∨ identity ∈ breaches.map PendingBreach.identity := by
  unfold setDefaultBreach
  by_cases hPresent :
      (lookup PendingBreach.identity breach.identity breaches).isSome = true
  · rw [if_pos hPresent]
    rw [lookup_isSome_iff] at hPresent
    constructor
    · exact Or.inr
    · rintro (rfl | hOld)
      · exact hPresent
      · exact hOld
  · rw [if_neg hPresent, List.map_append, List.mem_append, List.map_singleton,
      List.mem_singleton, or_comm]

theorem mem_foldl_setDefaultBreach
    (h : breach ∈ added.foldl (fun breaches breach => setDefaultBreach breach breaches) breaches) :
    breach ∈ added ∨ breach ∈ breaches := by
  induction added generalizing breaches with
  | nil => exact Or.inr h
  | cons first added ih =>
    rcases ih h with hAdded | hFirst
    · simp [hAdded]
    · rcases mem_setDefaultBreach hFirst with rfl | hOld
      · simp
      · exact Or.inr hOld

theorem identity_foldl_setDefaultBreach :
    identity ∈ (added.foldl (fun breaches breach => setDefaultBreach breach breaches)
        breaches).map PendingBreach.identity ↔
      identity ∈ added.map PendingBreach.identity ∨
        identity ∈ breaches.map PendingBreach.identity := by
  induction added generalizing breaches with
  | nil => simp
  | cons first added ih =>
    rw [List.foldl_cons, ih, identity_setDefaultBreach, List.map_cons, List.mem_cons]
    tauto

namespace PendingMarketState

@[simp] theorem breachedStopVersions_recordEvent (pending : PendingMarketState)
    (observedAt : Instant) :
    (pending.recordEvent observedAt).breachedStopVersions = pending.breachedStopVersions := rfl

theorem mem_breachedBy {price : ℚ} :
    identity ∈ breachedBy price stopRules ↔
      ∃ rule ∈ stopRules, rule.identity = identity ∧ price ≤ rule.price := by
  simp only [breachedBy, List.mem_map, List.mem_filter, decide_eq_true_eq]
  constructor
  · rintro ⟨rule, ⟨hRule, hPrice⟩, hIdentity⟩
    exact ⟨rule, hRule, hIdentity, hPrice⟩
  · rintro ⟨rule, hRule, hIdentity, hPrice⟩
    exact ⟨rule, ⟨hRule, hPrice⟩, hIdentity⟩

theorem mem_breached_addTrade {pending : PendingMarketState} :
    identity ∈ (pending.addTrade quote stopRules).breachedStopVersions ↔
      (quote.regularSession = true ∧
        ∃ rule ∈ stopRules, rule.identity = identity ∧ quote.lastPrice ≤ rule.price) ∨
      identity ∈ pending.breachedStopVersions := by
  unfold addTrade
  by_cases hRegular : quote.regularSession = false
  · simp [hRegular]
  · have hTrue : quote.regularSession = true := by simpa using hRegular
    simp [hTrue, mem_breachedBy]

end PendingMarketState

theorem Bucket.Sound.lookup_rule {priceOf : StopIdentity → ℚ} {symbol : String}
    (hSound : bucket.Sound priceOf symbol) {rule : StopRule} (hRule : rule ∈ bucket.stopRules) :
    lookup StopRule.cardKey rule.identity.1 bucket.stopRules = some rule :=
  hSound.rulesKeyed.lookup_of_mem hRule

section PublishTrade

variable {priceOf : StopIdentity → ℚ} {symbol : String} {bucket : Bucket}
  {quote : QuoteSnapshot} {identity : StopIdentity}

/-- The new breaches of a trade are of rules it breaches, with the trade as their event. -/
theorem Bucket.mem_newBreaches (h : breach ∈ bucket.newBreaches quote) :
    breach.quote = quote ∧ breach.identity ∉ bucket.pending.breachedStopVersions ∧
      bucket.BreachedBy quote breach.identity := by
  unfold Bucket.newBreaches at h
  obtain ⟨identity, hNew, hMake⟩ := List.mem_filterMap.mp h
  rw [List.mem_filter, PendingMarketState.mem_breached_addTrade, decide_eq_true_eq] at hNew
  obtain ⟨hAfter, hBefore⟩ := hNew
  have hBreached : bucket.BreachedBy quote identity := by
    rcases hAfter with hBreached | hOld
    · exact hBreached
    · exact absurd hOld hBefore
  cases hRule : lookup StopRule.cardKey identity.1 bucket.stopRules with
  | none => simp [hRule] at hMake
  | some rule =>
    rw [hRule] at hMake
    simp only at hMake
    by_cases hVersion : rule.version = identity.2
    · rw [if_pos hVersion] at hMake
      cases hMake
      exact ⟨rfl, hBefore, hBreached⟩
    · rw [if_neg hVersion] at hMake
      cases hMake

variable (hSound : bucket.Sound priceOf symbol)
include hSound

theorem Bucket.Sound.identity_newBreaches :
    identity ∈ (bucket.newBreaches quote).map PendingBreach.identity ↔
      bucket.BreachedBy quote identity ∧ identity ∉ bucket.pending.breachedStopVersions := by
  constructor
  · intro h
    obtain ⟨breach, hBreach, rfl⟩ := List.mem_map.mp h
    obtain ⟨-, hBefore, hBreached⟩ := Bucket.mem_newBreaches hBreach
    exact ⟨hBreached, hBefore⟩
  · rintro ⟨hBreached, hBefore⟩
    obtain ⟨-, rule, hRule, rfl, -⟩ := id hBreached
    apply List.mem_map.mpr
    refine ⟨{ identity := rule.identity, quote := quote, rule := rule }, ?_, rfl⟩
    apply List.mem_filterMap.mpr
    refine ⟨rule.identity, ?_, ?_⟩
    · rw [List.mem_filter, PendingMarketState.mem_breached_addTrade, decide_eq_true_eq]
      exact ⟨Or.inl hBreached, hBefore⟩
    · rw [hSound.lookup_rule hRule]
      simp [StopRule.identity]

/-- A trade makes outstanding exactly the identities it breaches. -/
theorem Bucket.Sound.outstanding_publishTrade :
    (bucket.publishTrade quote).Outstanding identity ↔
      bucket.Outstanding identity ∨ bucket.BreachedBy quote identity := by
  unfold Bucket.publishTrade Bucket.Outstanding
  rw [identity_foldl_setDefaultBreach, hSound.identity_newBreaches]
  constructor
  · rintro (⟨hBreached, -⟩ | hOld)
    · exact Or.inr hBreached
    · exact Or.inl hOld
  · rintro (hOld | hBreached)
    · exact Or.inr hOld
    · by_cases hBefore : identity ∈ bucket.pending.breachedStopVersions
      · exact Or.inr (hSound.breachedOutstanding identity hBefore)
      · exact Or.inl ⟨hBreached, hBefore⟩

theorem Bucket.Sound.publishTrade (hSymbol : upper quote.symbol = symbol) :
    (bucket.publishTrade quote).Sound priceOf symbol where
  rulesKeyed := hSound.rulesKeyed
  rulePrice := hSound.rulePrice
  breachPrice := by
    intro breach hBreach
    rcases mem_foldl_setDefaultBreach hBreach with hNew | hOld
    · obtain ⟨hQuote, -, -, rule, hRule, hIdentity, hPrice⟩ := Bucket.mem_newBreaches hNew
      rw [hQuote, ← hIdentity, ← hSound.rulePrice rule hRule]
      exact ⟨hPrice, hSymbol⟩
    · exact hSound.breachPrice breach hOld
  breachedOutstanding := by
    intro identity hIdentity
    rw [hSound.outstanding_publishTrade]
    rcases PendingMarketState.mem_breached_addTrade.mp hIdentity with hBreached | hOld
    · exact Or.inr hBreached
    · exact Or.inl (hSound.breachedOutstanding identity hOld)

end PublishTrade

/-! ### The other sections -/

section Sections

variable {priceOf : StopIdentity → ℚ} {symbol : String} {bucket : Bucket}

theorem Bucket.Sound.publishQuote (hSound : bucket.Sound priceOf symbol)
    (quote : QuoteSnapshot) : (bucket.publishQuote quote).Sound priceOf symbol where
  rulesKeyed := hSound.rulesKeyed
  rulePrice := hSound.rulePrice
  breachPrice := hSound.breachPrice
  breachedOutstanding := hSound.breachedOutstanding

theorem Bucket.outstanding_latchBreach :
    (bucket.latchBreach cardKey version quote stopPrice).Outstanding identity ↔
      bucket.Outstanding identity ∨ identity = (cardKey, version) := by
  unfold Bucket.latchBreach Bucket.Outstanding
  rw [identity_setDefaultBreach]
  exact or_comm

theorem Bucket.Sound.latchBreach (hSound : bucket.Sound priceOf symbol)
    (hPrice : quote.lastPrice ≤ priceOf (cardKey, version))
    (hSymbol : upper quote.symbol = symbol) :
    (bucket.latchBreach cardKey version quote stopPrice).Sound priceOf symbol where
  rulesKeyed := hSound.rulesKeyed
  rulePrice := hSound.rulePrice
  breachPrice := by
    intro breach hBreach
    rcases mem_setDefaultBreach hBreach with rfl | hOld
    · exact ⟨hPrice, hSymbol⟩
    · exact hSound.breachPrice breach hOld
  breachedOutstanding := by
    intro identity hIdentity
    rw [Bucket.outstanding_latchBreach]
    rcases mem_addIdentity.mp hIdentity with rfl | hOld
    · exact Or.inr rfl
    · exact Or.inl (hSound.breachedOutstanding identity hOld)

section

variable (h : bucket.rotate symbol rules now = some (item, rotated))
include h

theorem Bucket.rotate_some :
    rotated = { bucket with stopRules := putAll StopRule.cardKey rules [], pending := {} } := by
  unfold Bucket.rotate at h
  simp only at h
  split at h
  · cases h
  · cases h
    rfl

theorem Bucket.rotate_item :
    item.symbol = symbol ∧ item.pending = bucket.pending ∧ item.latchReplay = false := by
  unfold Bucket.rotate at h
  simp only at h
  split at h
  · cases h
  · cases h
    exact ⟨rfl, rfl, rfl⟩

end

theorem Bucket.Sound.rotate (hSound : bucket.Sound priceOf symbol)
    (hRules : ∀ rule ∈ rules, rule.price = priceOf rule.identity)
    (h : bucket.rotate symbol rules now = some (item, rotated)) : rotated.Sound priceOf symbol := by
  rw [Bucket.rotate_some h]
  constructor
  · exact Keyed.putAll List.nodup_nil
  · intro rule hRule
    rcases mem_putAll hRule with hNew | hNone
    · exact hRules rule hNew
    · cases hNone
  · exact hSound.breachPrice
  · simp

theorem Bucket.Sound.drain (hSound : bucket.Sound priceOf symbol) (name : String)
    (now : Instant) : (bucket.drain name now).2.Sound priceOf symbol where
  rulesKeyed := hSound.rulesKeyed
  rulePrice := hSound.rulePrice
  breachPrice := hSound.breachPrice
  breachedOutstanding := by simp [Bucket.drain]

theorem Bucket.outstanding_acknowledge {other : StopIdentity} :
    (bucket.acknowledge identity).Outstanding other ↔
      bucket.Outstanding other ∧ other ≠ identity := by
  simp only [Bucket.acknowledge, Bucket.Outstanding, List.mem_map, List.mem_filter,
    decide_eq_true_eq]
  constructor
  · rintro ⟨breach, ⟨hBreach, hNe⟩, rfl⟩
    exact ⟨⟨breach, hBreach, rfl⟩, hNe⟩
  · rintro ⟨⟨breach, hBreach, rfl⟩, hNe⟩
    exact ⟨breach, ⟨hBreach, hNe⟩, rfl⟩

theorem Bucket.Sound.acknowledge (hSound : bucket.Sound priceOf symbol)
    (identity : StopIdentity) : (bucket.acknowledge identity).Sound priceOf symbol where
  rulesKeyed := hSound.rulesKeyed
  rulePrice := hSound.rulePrice
  breachPrice := fun breach hBreach =>
    hSound.breachPrice breach (List.mem_of_mem_filter hBreach)
  breachedOutstanding := by
    intro other hOther
    have hKept : other ∈ bucket.pending.breachedStopVersions ∧ other ≠ identity := by
      simpa [Bucket.acknowledge, PendingMarketState.withBreaches] using hOther
    rw [Bucket.outstanding_acknowledge]
    exact ⟨hSound.breachedOutstanding other hKept.1, hKept.2⟩

end Sections

/-! ## The shared state -/

namespace Accumulator

def Outstanding (accumulator : Accumulator) (symbol : String) (identity : StopIdentity) : Prop :=
  (accumulator.bucket symbol).Outstanding identity

/-- Every bucket is sound, and the one with an outstanding breach is known. -/
structure Sound (priceOf : String → StopIdentity → ℚ) (accumulator : Accumulator) : Prop where
  buckets : ∀ symbol, (accumulator.bucket symbol).Sound (priceOf symbol) symbol
  known : ∀ symbol identity, accumulator.Outstanding symbol identity → symbol ∈ accumulator.symbols

theorem sound_empty (priceOf : String → StopIdentity → ℚ) : Sound priceOf {} where
  buckets := fun symbol => Bucket.sound_empty (priceOf symbol) symbol
  known := by simp [Outstanding, Bucket.Outstanding]

end Accumulator

/-- The calls as the runtime makes them: a version determines the price of its rule, and a
latched breach is of an event of the symbol at or below the price it is latched with. -/
def BucketCall.Fits (priceOf : String → StopIdentity → ℚ) : BucketCall → Prop
  | .replaceStopRules symbol rules =>
    ∀ rule ∈ rules, rule.price = priceOf (upper symbol) rule.identity
  | .latchBreach symbol cardKey version quote stopPrice =>
    stopPrice = priceOf (upper symbol) (cardKey, version) ∧ quote.lastPrice ≤ stopPrice ∧
      upper quote.symbol = upper symbol
  | _ => True

/-- A running call fits, and has found its bucket. -/
def RunningCall.Fits (priceOf : String → StopIdentity → ℚ) (symbols : List String) :
    RunningCall → Prop
  | .enter call => call.Fits priceOf
  | .body call => call.Fits priceOf ∧ call.symbolKey ∈ symbols
  | _ => True

/-- The section that takes an outstanding identity off its bucket. -/
def RunningCall.Acknowledges (symbol : String) (identity : StopIdentity) : RunningCall → Prop
  | .body (.acknowledgeBreach symbol' cardKey version) =>
    upper symbol' = symbol ∧ (cardKey, version) = identity
  | _ => False

/-- The sections that make an identity outstanding. -/
def RunningCall.Breaches (accumulator : Accumulator) (symbol : String)
    (identity : StopIdentity) : RunningCall → Prop
  | .body (.publishTrade quote) =>
    upper quote.symbol = symbol ∧ (accumulator.bucket symbol).BreachedBy quote identity
  | .body (.latchBreach symbol' cardKey version _ _) =>
    upper symbol' = symbol ∧ (cardKey, version) = identity
  | _ => False

namespace Accumulator

variable {priceOf : String → StopIdentity → ℚ} {accumulator : Accumulator}
  {symbol : String} {identity : StopIdentity} {running : RunningCall}

theorem outstanding_setBucket (other : String) (bucket : Bucket) :
    (accumulator.setBucket other bucket).Outstanding symbol identity ↔
      if symbol = other then bucket.Outstanding identity
      else accumulator.Outstanding symbol identity := by
  unfold Outstanding
  rw [setBucket_bucket]
  split <;> rfl

/-- A rewritten bucket with the same outstanding identities. -/
theorem outstanding_setBucket_same
    (h : bucket.pendingBreaches = (accumulator.bucket other).pendingBreaches) :
    (accumulator.setBucket other bucket).Outstanding symbol identity ↔
      accumulator.Outstanding symbol identity := by
  rw [outstanding_setBucket]
  split
  · rename_i hSymbol
    subst hSymbol
    unfold Outstanding Bucket.Outstanding
    rw [h]
  · rfl

/-- One section of a bucket call makes outstanding what it breaches, and no longer
outstanding what it acknowledges. -/
theorem outstanding_runBody (hSound : accumulator.Sound priceOf) (call : BucketCall)
    (now : Instant) :
    (runBody now accumulator call).1.Outstanding symbol identity ↔
      (accumulator.Outstanding symbol identity ∧
          ¬ (RunningCall.body call).Acknowledges symbol identity) ∨
        (RunningCall.body call).Breaches accumulator symbol identity := by
  cases call with
  | publishTrade quote =>
    show (accumulator.setBucket _ _).Outstanding symbol identity ↔ _
    rw [outstanding_setBucket]
    simp only [RunningCall.Acknowledges, RunningCall.Breaches, not_false_eq_true, and_true]
    by_cases hSymbol : symbol = upper quote.symbol
    · subst hSymbol
      rw [if_pos rfl, (hSound.buckets _).outstanding_publishTrade]
      simp [Outstanding]
    · simp [hSymbol, Ne.symm hSymbol]
  | publishQuote =>
    show (accumulator.setBucket _ _).Outstanding symbol identity ↔ _
    rw [outstanding_setBucket_same]
    · simp [RunningCall.Acknowledges, RunningCall.Breaches]
    · rfl
  | latchBreach symbol' =>
    show (accumulator.setBucket _ _).Outstanding symbol identity ↔ _
    rw [outstanding_setBucket]
    simp only [RunningCall.Acknowledges, RunningCall.Breaches, not_false_eq_true, and_true]
    by_cases hSymbol : symbol = upper symbol'
    · subst hSymbol
      rw [if_pos rfl, Bucket.outstanding_latchBreach]
      simp [Outstanding, eq_comm]
    · simp [hSymbol, Ne.symm hSymbol]
  | replaceStopRules symbol' rules =>
    simp only [RunningCall.Acknowledges, RunningCall.Breaches, not_false_eq_true, and_true,
      or_false, runBody]
    cases hRotate : (accumulator.bucket (upper symbol')).rotate (upper symbol') rules now with
    | none => rfl
    | some rotated =>
      obtain ⟨item, bucket⟩ := rotated
      apply outstanding_setBucket_same
      rw [Bucket.rotate_some hRotate]
  | acknowledgeBreach symbol' cardKey version =>
    simp only [RunningCall.Acknowledges, RunningCall.Breaches, or_false, runBody]
    by_cases hMissing :
        ((accumulator.bucket (upper symbol')).breach (cardKey, version)).isNone = true
    · rw [if_pos hMissing]
      show accumulator.Outstanding symbol identity ↔ _
      constructor
      · intro hOutstanding
        refine ⟨hOutstanding, ?_⟩
        rintro ⟨rfl, rfl⟩
        have hNone : lookup PendingBreach.identity (cardKey, version)
            (accumulator.bucket (upper symbol')).pendingBreaches = none := by
          simpa [Bucket.breach] using hMissing
        exact lookup_eq_none_iff.mp hNone hOutstanding
      · exact And.left
    · rw [if_neg hMissing]
      show (accumulator.setBucket _ _).Outstanding symbol identity ↔ _
      rw [outstanding_setBucket]
      by_cases hSymbol : symbol = upper symbol'
      · subst hSymbol
        rw [if_pos rfl, Bucket.outstanding_acknowledge]
        simp [Outstanding, eq_comm]
      · simp [hSymbol, Ne.symm hSymbol]

theorem outstanding_runSection (hSound : accumulator.Sound priceOf) (running : RunningCall)
    (now : Instant) (symbol : String) (identity : StopIdentity) :
    (runSection now accumulator running).1.Outstanding symbol identity ↔
      (accumulator.Outstanding symbol identity ∧ ¬ running.Acknowledges symbol identity) ∨
        running.Breaches accumulator symbol identity := by
  have hSame : ∀ {shared : Accumulator}, shared.bucket = accumulator.bucket →
      (shared.Outstanding symbol identity ↔
        (accumulator.Outstanding symbol identity ∧ ¬ False) ∨ False) := by
    intro shared hBucket
    simp [Outstanding, hBucket]
  cases running with
  | enter => exact hSame (ensureBucket_bucket _ _)
  | body call => exact outstanding_runBody hSound call now
  | appendDetached | acknowledgeDetached | takeDetached | listSymbols => exact hSame rfl
  | drainSymbols symbols todo =>
    cases todo with
    | nil => exact hSame rfl
    | cons =>
      show (accumulator.setBucket _ _).Outstanding symbol identity ↔ _
      rw [outstanding_setBucket_same]
      · simp [RunningCall.Acknowledges, RunningCall.Breaches]
      · rfl
  | pruneItems symbols todo =>
    cases todo with
    | nil | cons => exact hSame rfl
  | replaySymbols todo =>
    cases todo with
    | nil | cons => exact hSame rfl

theorem symbols_runSection (h : symbol ∈ accumulator.symbols) (running : RunningCall)
    (now : Instant) : symbol ∈ (runSection now accumulator running).1.symbols := by
  cases running with
  | enter => exact ensureBucket_symbols h
  | body call =>
    cases call with
    | publishTrade | publishQuote | latchBreach => exact h
    | replaceStopRules | acknowledgeBreach =>
      simp only [runSection, runBody]
      split <;> exact h
  | appendDetached | acknowledgeDetached | takeDetached | listSymbols => exact h
  | drainSymbols symbols todo => cases todo <;> exact h
  | pruneItems symbols todo => cases todo <;> exact h
  | replaySymbols todo => cases todo <;> exact h

theorem buckets_setBucket (h : ∀ symbol, (accumulator.bucket symbol).Sound (priceOf symbol) symbol)
    (hBucket : bucket.Sound (priceOf other) other) :
    ∀ symbol, ((accumulator.setBucket other bucket).bucket symbol).Sound (priceOf symbol)
      symbol := by
  intro symbol
  rw [setBucket_bucket]
  split
  · rename_i hSymbol
    subst hSymbol
    exact hBucket
  · exact h symbol

theorem buckets_runBody (hSound : accumulator.Sound priceOf) {call : BucketCall}
    (hFits : call.Fits priceOf) (now : Instant) :
    ∀ symbol, ((runBody now accumulator call).1.bucket symbol).Sound (priceOf symbol) symbol := by
  have hBuckets := hSound.buckets
  cases call with
  | publishTrade =>
    exact buckets_setBucket hBuckets ((hBuckets _).publishTrade rfl)
  | publishQuote quote =>
    exact buckets_setBucket hBuckets ((hBuckets _).publishQuote quote)
  | latchBreach =>
    obtain ⟨hStop, hPrice, hSymbol⟩ := hFits
    rw [hStop] at hPrice
    exact buckets_setBucket hBuckets ((hBuckets _).latchBreach hPrice hSymbol)
  | replaceStopRules symbol rules =>
    simp only [runBody]
    cases hRotate : (accumulator.bucket (upper symbol)).rotate (upper symbol) rules now with
    | none => exact hBuckets
    | some =>
      exact buckets_setBucket hBuckets ((hBuckets _).rotate hFits hRotate)
  | acknowledgeBreach symbol cardKey version =>
    simp only [runBody]
    split
    · exact hBuckets
    · exact buckets_setBucket hBuckets ((hBuckets _).acknowledge (cardKey, version))

theorem buckets_runSection (hSound : accumulator.Sound priceOf)
    (hFits : running.Fits priceOf accumulator.symbols) (now : Instant) :
    ∀ symbol,
      ((runSection now accumulator running).1.bucket symbol).Sound (priceOf symbol) symbol := by
  have hBuckets := hSound.buckets
  cases running with
  | enter =>
    show ∀ symbol, ((accumulator.ensureBucket _).bucket symbol).Sound (priceOf symbol) symbol
    rw [ensureBucket_bucket]
    exact hBuckets
  | body => exact buckets_runBody hSound hFits.1 now
  | appendDetached | acknowledgeDetached | takeDetached | listSymbols => exact hBuckets
  | drainSymbols symbols todo =>
    cases todo with
    | nil => exact hBuckets
    | cons symbol' => exact buckets_setBucket hBuckets ((hBuckets _).drain (upper symbol') now)
  | pruneItems symbols todo => cases todo <;> exact hBuckets
  | replaySymbols todo => cases todo <;> exact hBuckets

/-- What makes an identity outstanding has found its bucket. -/
theorem known_of_breaches (hFits : running.Fits priceOf accumulator.symbols)
    (h : running.Breaches accumulator symbol identity) : symbol ∈ accumulator.symbols := by
  cases running with
  | body call =>
    cases call with
    | publishTrade | latchBreach => exact h.1 ▸ hFits.2
    | _ => exact h.elim
  | _ => exact h.elim

/-- A section of a fitting call keeps the shared state sound. -/
theorem Sound.runSection (hSound : accumulator.Sound priceOf)
    (hFits : running.Fits priceOf accumulator.symbols) (now : Instant) :
    (Services.runSection now accumulator running).1.Sound priceOf where
  buckets := buckets_runSection hSound hFits now
  known := by
    intro symbol identity hOutstanding
    apply symbols_runSection
    rcases (outstanding_runSection hSound running now symbol identity).mp hOutstanding with ⟨hOld,
      -⟩ | hBreached
    · exact hSound.known symbol identity hOld
    · exact known_of_breaches hFits hBreached

end Accumulator

theorem RunningCall.Fits.next {priceOf : String → StopIdentity → ℚ} {accumulator : Accumulator}
    {next : RunningCall} (hFits : running.Fits priceOf accumulator.symbols)
    (hRun : runSection now accumulator running = (shared, .inl next)) :
    next.Fits priceOf shared.symbols := by
  cases running with
  | enter call =>
    cases hRun
    exact ⟨hFits, accumulator.mem_ensureBucket call.symbolKey⟩
  | body call =>
    cases call with
    | publishTrade | publishQuote | latchBreach => cases hRun
    | replaceStopRules =>
      simp only [runSection, runBody] at hRun
      split at hRun
      · cases hRun
      · split at hRun
        · cases hRun
          trivial
        · cases hRun
    | acknowledgeBreach =>
      simp only [runSection, runBody] at hRun
      split at hRun
      · cases hRun
      · cases hRun
        trivial
  | appendDetached | acknowledgeDetached => cases hRun
  | takeDetached | listSymbols =>
    cases hRun
    trivial
  | drainSymbols symbols todo =>
    cases todo with
    | nil | cons =>
      cases hRun
      trivial
  | pruneItems symbols todo =>
    cases todo with
    | nil | cons =>
      cases hRun
      trivial
  | replaySymbols todo =>
    cases todo with
    | nil => cases hRun
    | cons =>
      cases hRun
      trivial

theorem RunningCall.Fits.mono {priceOf : String → StopIdentity → ℚ} {symbols symbols' : List String}
    (h : running.Fits priceOf symbols) (hSymbols : ∀ symbol ∈ symbols, symbol ∈ symbols') :
    running.Fits priceOf symbols' := by
  cases running with
  | body => exact ⟨h.1, hSymbols _ h.2⟩
  | _ => exact h

/-! ## Threads -/

/-- The call a step starts is as the runtime makes it. -/
def CallLabel.Fits (priceOf : String → StopIdentity → ℚ) : CallLabel → Prop
  | .called _ start => start.Fits priceOf []
  | .ran _ _ _ => True

/-- The shared state is sound, and every call that runs fits. -/
structure AccumulatorMachine.Sound (priceOf : String → StopIdentity → ℚ)
    (machine : AccumulatorMachine) : Prop where
  shared : machine.shared.Sound priceOf
  running : ∀ thread running, machine.running thread = some running →
    running.Fits priceOf machine.shared.symbols

namespace AccumulatorMachine

variable {priceOf : String → StopIdentity → ℚ} {machine after : AccumulatorMachine}

theorem sound_empty (priceOf : String → StopIdentity → ℚ) : Sound priceOf {} where
  shared := Accumulator.sound_empty priceOf
  running := by simp

theorem move_running (machine : AccumulatorMachine) (shared : Accumulator) (thread : Nat)
    (running : Option RunningCall) (other : Nat) :
    (machine.move shared thread running).running other =
      if other = thread then running else machine.running other := rfl

variable (hSound : machine.Sound priceOf)
include hSound

theorem Sound.move {running : Option RunningCall} (hShared : shared.Sound priceOf)
    (hSymbols : ∀ symbol ∈ machine.shared.symbols, symbol ∈ shared.symbols)
    (hRunning : ∀ call, running = some call → call.Fits priceOf shared.symbols) :
    (machine.move shared thread running).Sound priceOf where
  shared := hShared
  running := by
    intro other call hCall
    rw [move_running] at hCall
    split at hCall
    · exact hRunning call hCall
    · exact (hSound.running other call hCall).mono hSymbols

/-- A section that a thread runs keeps the shared state sound and forgets no bucket. -/
theorem Sound.ran {result : RunningCall ⊕ CallOutcome}
    (hRunning : machine.running thread = some running)
    (hRun : runSection now machine.shared running = (shared, result)) :
    shared.Sound priceOf ∧ ∀ symbol ∈ machine.shared.symbols, symbol ∈ shared.symbols := by
  have hKept := hSound.shared.runSection (hSound.running thread running hRunning) now
  have hSymbols : ∀ symbol ∈ machine.shared.symbols,
      symbol ∈ (runSection now machine.shared running).1.symbols :=
    fun symbol h => Accumulator.symbols_runSection h running now
  rw [hRun] at hKept hSymbols
  exact ⟨hKept, hSymbols⟩

/-- Every step of calls the runtime makes keeps the machine sound. -/
theorem Sound.step {label : CallLabel} (hLabel : label.Fits priceOf)
    (hStep : CallStep machine label after) :
    after.Sound priceOf := by
  cases hStep with
  | call =>
    apply hSound.move hSound.shared (fun _ h => h)
    intro call hCall
    cases hCall
    exact RunningCall.Fits.mono hLabel (by simp)
  | @continues thread running next shared now hRunning hRun =>
    obtain ⟨hShared, hSymbols⟩ := hSound.ran hRunning hRun
    apply hSound.move hShared hSymbols
    intro call hCall
    cases hCall
    exact (hSound.running thread running hRunning).next hRun
  | @returns thread running shared outcome now hRunning hRun =>
    obtain ⟨hShared, hSymbols⟩ := hSound.ran hRunning hRun
    apply hSound.move hShared hSymbols
    intro call hCall
    cases hCall

/-- What a step makes outstanding, and what it acknowledges. -/
theorem Sound.outstanding_step {symbol : String} {outcome : Option CallOutcome}
    (hStep : CallStep machine (.ran thread running outcome) after) :
    after.shared.Outstanding symbol identity ↔
      (machine.shared.Outstanding symbol identity ∧ ¬ running.Acknowledges symbol identity) ∨
        running.Breaches machine.shared symbol identity := by
  cases hStep with
  | @continues _ _ next shared now hRunning hRun =>
    have hOutstanding :=
      Accumulator.outstanding_runSection hSound.shared running now symbol identity
    rwa [hRun] at hOutstanding
  | @returns _ _ shared outcome now hRunning hRun =>
    have hOutstanding :=
      Accumulator.outstanding_runSection hSound.shared running now symbol identity
    rwa [hRun] at hOutstanding

end AccumulatorMachine

end QuantApp.Services
