import QuantApp.Services.OutstandingBreaches

/-!
# Delivery of stop breaches

A `drain_all` call takes a section for every generation and every symbol, and the other
calls run between any two of them.  While an identity stays outstanding the call carries
it, in a drained generation or in a replay, to its end; while it stays acknowledged the
call drops it.
-/

namespace QuantApp.Services

open Core Verified
open AccumulatorMachine (move_running sound_empty step_runThread)

variable {outstanding : List PendingBreach} {items : List DetachedMarketState}
  {item : DetachedMarketState} {running : RunningCall} {represented : List StopIdentity}
  {now : Instant}

/-- Some returned item delivers the identity, with an event of its symbol at or below
the price of its version. -/
def Delivers (priceOf : String → StopIdentity → ℚ) (symbol : String) (identity : StopIdentity)
    (items : List DetachedMarketState) : Prop :=
  ∃ item ∈ items, item.symbol = symbol ∧ identity ∈ item.pending.breachedStopVersions ∧
    item.isDelivered = true ∧
    ∃ event ∈ item.pending.representatives,
      upper event.symbol = symbol ∧ event.lastPrice ≤ priceOf symbol identity

/-- No item of the symbol carries the identity. -/
def Withholds (symbol : String) (identity : StopIdentity) (items : List DetachedMarketState) :
    Prop :=
  ∀ item ∈ items, item.symbol = symbol → identity ∉ item.pending.breachedStopVersions

section Items

variable {priceOf : String → StopIdentity → ℚ} {symbol : String} {identity : StopIdentity}
  {items added : List DetachedMarketState}

theorem Delivers.append (h : Delivers priceOf symbol identity items) :
    Delivers priceOf symbol identity (items ++ added) := by
  obtain ⟨item, hItem, hRest⟩ := h
  exact ⟨item, List.mem_append_left added hItem, hRest⟩

theorem Delivers.append_right (h : Delivers priceOf symbol identity added) :
    Delivers priceOf symbol identity (items ++ added) := by
  obtain ⟨item, hItem, hRest⟩ := h
  exact ⟨item, List.mem_append_right items hItem, hRest⟩

theorem Delivers.filter (h : Delivers priceOf symbol identity items) :
    Delivers priceOf symbol identity (items.filter DetachedMarketState.isDelivered) := by
  obtain ⟨item, hItem, hSymbol, hIdentity, hDelivered, hEvent⟩ := h
  exact ⟨item, List.mem_filter.mpr ⟨hItem, hDelivered⟩, hSymbol, hIdentity, hDelivered, hEvent⟩

theorem Withholds.append (h : Withholds symbol identity items)
    (hAdded : Withholds symbol identity added) : Withholds symbol identity (items ++ added) := by
  intro item hItem
  rcases List.mem_append.mp hItem with hOld | hNew
  · exact h item hOld
  · exact hAdded item hNew

theorem isDelivered_withBreaches {breached : List StopIdentity} (h : identity ∈ breached)
    (hPending : item.pending = item.pending.withBreaches breached) : item.isDelivered = true := by
  have hNonempty : breached.isEmpty = false := by
    cases breached with
    | nil => cases h
    | cons => rfl
  unfold DetachedMarketState.isDelivered
  rw [hPending]
  simp [PendingMarketState.withBreaches, hNonempty]

theorem mem_breached_prune :
    identity ∈ (item.prune outstanding).pending.breachedStopVersions ↔
      identity ∈ item.pending.breachedStopVersions ∧
        identity ∈ outstanding.map PendingBreach.identity := by
  show identity ∈ List.filter _ _ ↔ _
  rw [List.mem_filter, lookup_isSome_iff]

theorem delivers_of_represented
    (hPrices : ∀ breach ∈ outstanding,
      breach.quote.lastPrice ≤ priceOf symbol breach.identity ∧
        upper breach.quote.symbol = symbol) (hSymbol : item.symbol = symbol)
    (h : identity ∈ (item.prune outstanding).represented outstanding) :
    Delivers priceOf symbol identity [item.prune outstanding] := by
  unfold DetachedMarketState.represented at h
  obtain ⟨hBreached, hEvent⟩ := List.mem_filter.mp h
  refine ⟨item.prune outstanding, List.mem_singleton_self _, hSymbol, hBreached,
    isDelivered_withBreaches hBreached rfl, ?_⟩
  cases hFound : lookup PendingBreach.identity identity outstanding with
  | none => simp [hFound] at hEvent
  | some breach =>
    have hMem : breach.quote ∈ (item.prune outstanding).pending.representatives := by
      simpa [hFound] using hEvent
    obtain ⟨hPrice, hQuote⟩ := hPrices breach (lookup_mem hFound)
    rw [lookup_key hFound] at hPrice
    exact ⟨breach.quote, hMem, hQuote, hPrice⟩

theorem delivers_replay {breach : PendingBreach} (now : Instant)
    (hPrice : breach.quote.lastPrice ≤ priceOf symbol breach.identity)
    (hQuote : upper breach.quote.symbol = symbol) :
    Delivers priceOf symbol breach.identity [latchReplay symbol breach now] :=
  ⟨latchReplay symbol breach now, List.mem_singleton_self _, rfl, List.mem_singleton_self _, rfl,
    breach.quote, by simp [latchReplay, PendingMarketState.representatives], hQuote, hPrice⟩

theorem delivers_replaysOf
    (hPrices : ∀ breach ∈ outstanding,
      breach.quote.lastPrice ≤ priceOf symbol breach.identity ∧
        upper breach.quote.symbol = symbol) (h : identity ∈ outstanding.map PendingBreach.identity)
    (hMissing : identity ∉ represented) :
    Delivers priceOf symbol identity (replaysOf symbol outstanding represented now) := by
  obtain ⟨breach, hBreach, rfl⟩ := List.mem_map.mp h
  obtain ⟨hPrice, hQuote⟩ := hPrices breach hBreach
  obtain ⟨item, hItem, hRest⟩ := delivers_replay now hPrice hQuote
  refine ⟨item, ?_, hRest⟩
  rw [List.mem_singleton.mp hItem]
  apply List.mem_map_of_mem
  rw [List.mem_filter, decide_eq_true_eq]
  exact ⟨hBreach, hMissing⟩

theorem withholds_replaysOf {other : String}
    (h : other = symbol → identity ∉ outstanding.map PendingBreach.identity) :
    Withholds symbol identity (replaysOf other outstanding represented now) := by
  intro item hItem hSymbol hIdentity
  obtain ⟨breach, hBreach, rfl⟩ := List.mem_map.mp hItem
  have hEq : identity = breach.identity := by
    simpa [latchReplay] using hIdentity
  rw [hEq] at h
  exact h hSymbol (List.mem_map_of_mem (List.mem_of_mem_filter hBreach))

end Items

/-! ## A `drain_all` call between its sections -/

/-- Where a `drain_all` call stands that will deliver the identity if it stays
outstanding. -/
def RunningCall.Carries (priceOf : String → StopIdentity → ℚ) (symbol : String)
    (identity : StopIdentity) : RunningCall → Prop
  | .takeDetached => True
  | .listSymbols _ => True
  | .drainSymbols symbols _ _ => symbol ∈ symbols
  | .pruneItems symbols _ done represented =>
    symbol ∈ symbols ∧ ((symbol, identity) ∈ represented → Delivers priceOf symbol identity done)
  | .replaySymbols todo items represented =>
    ((symbol, identity) ∈ represented → Delivers priceOf symbol identity items) ∧
      (symbol ∈ todo ∨ Delivers priceOf symbol identity items)
  | _ => False

/-- Where a `drain_all` call stands that will not deliver the identity while it stays
acknowledged. -/
def RunningCall.Drops (symbol : String) (identity : StopIdentity) : RunningCall → Prop
  | .takeDetached => True
  | .listSymbols _ => True
  | .drainSymbols _ _ _ => True
  | .pruneItems _ _ done _ => Withholds symbol identity done
  | .replaySymbols _ items _ => Withholds symbol identity items
  | _ => False

section Sections

variable {priceOf : String → StopIdentity → ℚ} {accumulator shared : Accumulator}
  {symbol : String} {identity : StopIdentity} {running later : RunningCall} {now : Instant}

/-- While the identity is outstanding, a section of the call carries it on. -/
theorem RunningCall.Carries.next (hSound : accumulator.Sound priceOf)
    (hUpper : upper symbol = symbol) (hOutstanding : accumulator.Outstanding symbol identity)
    (h : running.Carries priceOf symbol identity)
    (hRun : runSection now accumulator running = (shared, .inl later)) :
    later.Carries priceOf symbol identity := by
  have hPrices := (hSound.buckets symbol).breachPrice
  cases running with
  | takeDetached =>
    cases hRun
    trivial
  | listSymbols =>
    cases hRun
    exact hSound.known symbol identity hOutstanding
  | drainSymbols symbols todo =>
    cases todo with
    | nil =>
      cases hRun
      exact ⟨h, by simp⟩
    | cons =>
      cases hRun
      exact h
  | pruneItems symbols todo =>
    obtain ⟨hSymbols, hDone⟩ := h
    cases todo with
    | nil =>
      cases hRun
      exact ⟨hDone, Or.inl hSymbols⟩
    | cons =>
      cases hRun
      refine ⟨hSymbols, ?_⟩
      intro hRepresented
      rcases List.mem_append.mp hRepresented with hOld | hNew
      · exact (hDone hOld).append
      · obtain ⟨identity', hIdentity, hPair⟩ := List.mem_map.mp hNew
        cases hPair
        rw [hUpper] at hIdentity ⊢
        exact (delivers_of_represented hPrices rfl hIdentity).append_right
  | replaySymbols todo items represented =>
    obtain ⟨hRepresented, hTodo⟩ := h
    cases todo with
    | nil => cases hRun
    | cons =>
      cases hRun
      refine ⟨fun hOld => (hRepresented hOld).append, ?_⟩
      rcases hTodo with hTodo | hItems
      · rcases List.mem_cons.mp hTodo with rfl | hLater
        · apply Or.inr
          rw [hUpper]
          by_cases hOld : (symbol, identity) ∈ represented
          · exact (hRepresented hOld).append
          · apply Delivers.append_right
            apply delivers_replaysOf hPrices hOutstanding
            simpa using hOld
        · exact Or.inl hLater
      · exact Or.inr hItems.append
  | _ => exact h.elim

theorem RunningCall.Carries.delivers (h : running.Carries priceOf symbol identity)
    (hRun : runSection now accumulator running = (shared, .inr (.drained items))) :
    Delivers priceOf symbol identity items := by
  cases running with
  | takeDetached | listSymbols => cases hRun
  | drainSymbols symbols todo => cases todo <;> cases hRun
  | pruneItems symbols todo => cases todo <;> cases hRun
  | replaySymbols todo =>
    cases todo with
    | nil =>
      cases hRun
      rcases h.2 with hNone | hItems
      · cases hNone
      · exact hItems.filter
    | cons => cases hRun
  | _ => exact h.elim

/-- While the identity is not outstanding, a section of the call drops it. -/
theorem RunningCall.Drops.next (hUpper : upper symbol = symbol)
    (hGone : ¬ accumulator.Outstanding symbol identity) (h : running.Drops symbol identity)
    (hRun : runSection now accumulator running = (shared, .inl later)) :
    later.Drops symbol identity := by
  cases running with
  | takeDetached | listSymbols =>
    cases hRun
    trivial
  | drainSymbols symbols todo =>
    cases todo with
    | nil =>
      cases hRun
      intro item hItem
      cases hItem
    | cons =>
      cases hRun
      trivial
  | pruneItems symbols todo =>
    cases todo with
    | nil =>
      cases hRun
      exact h
    | cons item =>
      cases hRun
      apply Withholds.append h
      intro pruned hPruned hSymbol hIdentity
      rw [List.mem_singleton] at hPruned
      subst hPruned
      have hItem : item.symbol = symbol := hSymbol
      rw [mem_breached_prune, hItem, hUpper] at hIdentity
      exact hGone hIdentity.2
  | replaySymbols todo =>
    cases todo with
    | nil => cases hRun
    | cons =>
      cases hRun
      apply Withholds.append h
      apply withholds_replaysOf
      rintro rfl
      rw [hUpper]
      exact hGone
  | _ => exact h.elim

theorem RunningCall.Drops.withholds (h : running.Drops symbol identity)
    (hRun : runSection now accumulator running = (shared, .inr (.drained items))) :
    Withholds symbol identity items := by
  cases running with
  | takeDetached | listSymbols => cases hRun
  | drainSymbols symbols todo => cases todo <;> cases hRun
  | pruneItems symbols todo => cases todo <;> cases hRun
  | replaySymbols todo =>
    cases todo with
    | nil =>
      cases hRun
      intro item hItem
      exact h item (List.mem_of_mem_filter hItem)
    | cons => cases hRun
  | _ => exact h.elim

end Sections

/-! ## Runs -/

/-- The step ends a call of the thread. -/
def CallLabel.ReturnsFrom (thread : Nat) : CallLabel → Prop
  | .ran thread' _ (some _) => thread' = thread
  | _ => False

/-- The step acknowledges the identity. -/
def CallLabel.Acknowledges (symbol : String) (identity : StopIdentity) : CallLabel → Prop
  | .ran _ running _ => running.Acknowledges symbol identity
  | _ => False

/-- The step makes the identity outstanding. -/
def CallLabel.Breaches (machine : AccumulatorMachine) (symbol : String)
    (identity : StopIdentity) : CallLabel → Prop
  | .ran _ running _ => running.Breaches machine.shared symbol identity
  | _ => False

/-- The step is one of the runtime, and does not acknowledge the identity. -/
def Unacknowledged (priceOf : String → StopIdentity → ℚ) (symbol : String)
    (identity : StopIdentity) (_ : AccumulatorMachine) (label : CallLabel) : Prop :=
  label.Fits priceOf ∧ ¬ label.Acknowledges symbol identity

/-- The step is one of the runtime, and does not breach the identity. -/
def Unbreached (priceOf : String → StopIdentity → ℚ) (symbol : String)
    (identity : StopIdentity) (machine : AccumulatorMachine) (label : CallLabel) : Prop :=
  label.Fits priceOf ∧ ¬ label.Breaches machine symbol identity

/-- A whole `drain_all` call of a thread, other calls running between its sections, and
the items it returns. -/
def DrainAll (P : AccumulatorMachine → CallLabel → Prop) (thread : Nat)
    (before after : AccumulatorMachine) (items : List DetachedMarketState) : Prop :=
  ∃ started ended running,
    CallStep before (.called thread .takeDetached) started ∧
      RunWith CallStep (fun machine label => P machine label ∧ ¬ label.ReturnsFrom thread)
        started ended ∧
      CallStep ended (.ran thread running (some (.drained items))) after

section Runs

variable {priceOf : String → StopIdentity → ℚ} {machine after : AccumulatorMachine}
  {symbol : String} {identity : StopIdentity} {thread : Nat} {label : CallLabel}

/-- The identity waits for its acknowledgement in a sound machine. -/
structure AccumulatorMachine.Awaits (priceOf : String → StopIdentity → ℚ) (symbol : String)
    (identity : StopIdentity) (machine : AccumulatorMachine) : Prop where
  sound : machine.Sound priceOf
  outstanding : machine.shared.Outstanding symbol identity

/-- The identity waits for nothing in a sound machine. -/
structure AccumulatorMachine.Settled (priceOf : String → StopIdentity → ℚ) (symbol : String)
    (identity : StopIdentity) (machine : AccumulatorMachine) : Prop where
  sound : machine.Sound priceOf
  gone : ¬ machine.shared.Outstanding symbol identity

/-- Without an acknowledgement the identity stays outstanding. -/
theorem AccumulatorMachine.Awaits.step (h : machine.Awaits priceOf symbol identity)
    (hLabel : Unacknowledged priceOf symbol identity machine label)
    (hStep : CallStep machine label after) : after.Awaits priceOf symbol identity := by
  refine ⟨h.sound.step hLabel.1 hStep, ?_⟩
  cases label with
  | called =>
    cases hStep
    exact h.outstanding
  | ran =>
    rw [h.sound.outstanding_step hStep]
    exact Or.inl ⟨h.outstanding, hLabel.2⟩

theorem AccumulatorMachine.Settled.step (h : machine.Settled priceOf symbol identity)
    (hLabel : Unbreached priceOf symbol identity machine label)
    (hStep : CallStep machine label after) : after.Settled priceOf symbol identity := by
  refine ⟨h.sound.step hLabel.1 hStep, ?_⟩
  cases label with
  | called =>
    cases hStep
    exact h.gone
  | ran =>
    rw [h.sound.outstanding_step hStep]
    rintro (⟨hOutstanding, -⟩ | hBreaches)
    · exact h.gone hOutstanding
    · exact hLabel.2 hBreaches

/-- Between its return and its start a thread's call is left alone, or runs a section. -/
theorem running_step (hRunning : machine.running thread = some running)
    (hReturns : ¬ label.ReturnsFrom thread) (hStep : CallStep machine label after) :
    after.running thread = some running ∨
      ∃ now later, runSection now machine.shared running = (after.shared, .inl later) ∧
        after.running thread = some later := by
  cases hStep with
  | @call other start hIdle hStart =>
    apply Or.inl
    rw [move_running]
    by_cases hSame : thread = other
    · subst hSame
      rw [hRunning] at hIdle
      cases hIdle
    · rw [if_neg hSame, hRunning]
  | @continues other running' later shared now hOther hRun =>
    by_cases hSame : thread = other
    · subst hSame
      rw [hRunning] at hOther
      cases hOther
      exact Or.inr ⟨now, later, hRun, by rw [move_running, if_pos rfl]⟩
    · apply Or.inl
      rw [move_running, if_neg hSame, hRunning]
  | @returns other running' shared outcome now hOther hRun =>
    apply Or.inl
    have hNe : thread ≠ other := fun hSame => hReturns hSame.symm
    rw [move_running, if_neg hNe, hRunning]

theorem running_called {start : RunningCall} (hStep : CallStep machine (.called thread start)
    after) :
    after.running thread = some start ∧ after.shared = machine.shared := by
  cases hStep
  exact ⟨by rw [move_running, if_pos rfl], rfl⟩

theorem section_of_returned {outcome : CallOutcome}
    (hStep : CallStep machine (.ran thread running (some outcome)) after) :
    machine.running thread = some running ∧
      ∃ now, runSection now machine.shared running = (after.shared, .inr outcome) := by
  cases hStep with
  | @returns _ _ shared _ now hRunning hRun => exact ⟨hRunning, now, hRun⟩

/-- A `drain_all` call that runs while the identity is outstanding delivers it. -/
theorem delivers_of_drainAll (hUpper : upper symbol = symbol)
    (h : machine.Awaits priceOf symbol identity)
    (hDrain : DrainAll (Unacknowledged priceOf symbol identity) thread machine after items) :
    Delivers priceOf symbol identity items := by
  obtain ⟨started, ended, running, hCalled, hRun, hReturned⟩ := hDrain
  obtain ⟨hStarted, hShared⟩ := running_called hCalled
  have hCarried : ended.Awaits priceOf symbol identity ∧
      ∃ running, ended.running thread = some running ∧ running.Carries priceOf symbol identity := by
    apply RunWith.invariant hRun
    · refine ⟨⟨h.sound.step (by trivial) hCalled, ?_⟩, .takeDetached, hStarted, trivial⟩
      rw [hShared]
      exact h.outstanding
    · rintro before label next ⟨hAwaits, running, hRunning, hCarries⟩ ⟨hLabel, hReturns⟩ hStep
      refine ⟨hAwaits.step hLabel hStep, ?_⟩
      rcases running_step hRunning hReturns hStep with hSame | ⟨now, later, hRun, hLater⟩
      · exact ⟨running, hSame, hCarries⟩
      · exact ⟨later, hLater, hCarries.next hAwaits.sound.shared hUpper hAwaits.outstanding hRun⟩
  obtain ⟨-, last, hLast, hCarries⟩ := hCarried
  obtain ⟨hRunning, now, hSection⟩ := section_of_returned hReturned
  rw [hRunning] at hLast
  cases hLast
  exact hCarries.delivers hSection

/-- A `drain_all` call that runs while the identity is not outstanding withholds it. -/
theorem withholds_of_drainAll (hUpper : upper symbol = symbol)
    (h : machine.Settled priceOf symbol identity)
    (hDrain : DrainAll (Unbreached priceOf symbol identity) thread machine after items) :
    Withholds symbol identity items := by
  obtain ⟨started, ended, running, hCalled, hRun, hReturned⟩ := hDrain
  obtain ⟨hStarted, hShared⟩ := running_called hCalled
  have hDropped : ended.Settled priceOf symbol identity ∧
      ∃ running, ended.running thread = some running ∧ running.Drops symbol identity := by
    apply RunWith.invariant hRun
    · refine ⟨⟨h.sound.step (by trivial) hCalled, ?_⟩, .takeDetached, hStarted, trivial⟩
      rw [hShared]
      exact h.gone
    · rintro before label next ⟨hSettled, running, hRunning, hDrops⟩ ⟨hLabel, hReturns⟩ hStep
      refine ⟨hSettled.step hLabel hStep, ?_⟩
      rcases running_step hRunning hReturns hStep with hSame | ⟨now, later, hRun, hLater⟩
      · exact ⟨running, hSame, hDrops⟩
      · exact ⟨later, hLater, hDrops.next hUpper hSettled.gone hRun⟩
  obtain ⟨-, last, hLast, hDrops⟩ := hDropped
  obtain ⟨hRunning, now, hSection⟩ := section_of_returned hReturned
  rw [hRunning] at hLast
  cases hLast
  exact hDrops.withholds hSection

end Runs

/-! ## Acknowledgement -/

/-- The sections of an `acknowledge_breach` call for the identity. -/
def RunningCall.IsAcknowledgement (symbol : String) (identity : StopIdentity) :
    RunningCall → Prop
  | .enter (.acknowledgeBreach symbol' cardKey version) =>
    upper symbol' = symbol ∧ (cardKey, version) = identity
  | .body (.acknowledgeBreach symbol' cardKey version) =>
    upper symbol' = symbol ∧ (cardKey, version) = identity
  | .acknowledgeDetached symbol' identity' => symbol' = symbol ∧ identity' = identity
  | _ => False

/-- Two generations with the same events that agree on whether they carry an identity. -/
def PendingMarketState.AgreeOn (identity : StopIdentity) (pending pending' : PendingMarketState) :
    Prop :=
  pending'.withBreaches [] = pending.withBreaches [] ∧
    (identity ∈ pending'.breachedStopVersions ↔ identity ∈ pending.breachedStopVersions)

/-- Two states of the accumulator that agree on an identity: its outstanding breach, the
rules, and what every generation of the symbol carries of it. -/
structure Accumulator.AgreeOn (symbol : String) (identity : StopIdentity)
    (accumulator accumulator' : Accumulator) : Prop where
  breach : (accumulator'.bucket symbol).breach identity =
    (accumulator.bucket symbol).breach identity
  stopRules : (accumulator'.bucket symbol).stopRules = (accumulator.bucket symbol).stopRules
  pending : (accumulator.bucket symbol).pending.AgreeOn identity
    (accumulator'.bucket symbol).pending
  detached : List.Forall₂ (fun item item' => item'.symbol = item.symbol ∧
      item'.stopRules = item.stopRules ∧ item.pending.AgreeOn identity item'.pending)
    accumulator.detached accumulator'.detached

section Acknowledgement

variable {symbol : String} {identity other : StopIdentity}

theorem PendingMarketState.AgreeOn.refl (identity : StopIdentity) (pending : PendingMarketState) :
    pending.AgreeOn identity pending := ⟨rfl, Iff.rfl⟩

theorem PendingMarketState.agreeOn_discard (hNe : other ≠ identity) (pending : PendingMarketState) :
    pending.AgreeOn other (pending.withBreaches
      (pending.breachedStopVersions.filter (fun known => known ≠ identity))) := by
  refine ⟨rfl, ?_⟩
  simp [PendingMarketState.withBreaches, hNe]

open PendingMarketState.AgreeOn (refl)

theorem Accumulator.AgreeOn.of_bucket {accumulator accumulator' : Accumulator}
    (hBucket : accumulator'.bucket symbol = accumulator.bucket symbol)
    (hDetached : accumulator'.detached = accumulator.detached) :
    accumulator.AgreeOn symbol identity accumulator' := by
  constructor
  · rw [hBucket]
  · rw [hBucket]
  · rw [hBucket]
    exact refl identity _
  · rw [hDetached]
    apply List.forall₂_same.mpr
    intro item _
    exact ⟨rfl, rfl, refl identity _⟩

theorem Bucket.breach_acknowledge {bucket : Bucket} (hNe : other ≠ identity) :
    (bucket.acknowledge identity).breach other = bucket.breach other := by
  show List.find? _ (List.filter _ _) = List.find? _ _
  rw [List.find?_filter]
  congr 1
  funext breach
  by_cases hOther : breach.identity = other
  · simp [hOther, hNe]
  · simp [hOther]

/-- No section of an acknowledgement touches another identity of its symbol. -/
theorem agreeOn_acknowledgement (accumulator : Accumulator)
    (hAck : running.IsAcknowledgement symbol identity) (hNe : other ≠ identity) (now : Instant) :
    accumulator.AgreeOn symbol other (runSection now accumulator running).1 := by
  cases running with
  | enter =>
    apply Accumulator.AgreeOn.of_bucket
    · exact congrFun (accumulator.ensureBucket_bucket _) symbol
    · show (accumulator.ensureBucket _).detached = _
      unfold Accumulator.ensureBucket
      split <;> rfl
  | body call =>
    cases call with
    | acknowledgeBreach =>
      obtain ⟨rfl, rfl⟩ := hAck
      simp only [runSection, runBody]
      split
      · exact Accumulator.AgreeOn.of_bucket rfl rfl
      · constructor
        · rw [Accumulator.setBucket_bucket, if_pos rfl]
          exact Bucket.breach_acknowledge hNe
        · rw [Accumulator.setBucket_bucket, if_pos rfl]
          rfl
        · rw [Accumulator.setBucket_bucket, if_pos rfl]
          exact PendingMarketState.agreeOn_discard hNe _
        · apply List.forall₂_same.mpr
          intro item _
          exact ⟨rfl, rfl, refl other _⟩
    | _ => exact hAck.elim
  | acknowledgeDetached =>
    obtain ⟨rfl, rfl⟩ := hAck
    refine ⟨rfl, rfl, refl other _, ?_⟩
    apply List.forall₂_map_right_iff.mpr
    apply List.forall₂_same.mpr
    intro item _
    split
    · exact ⟨rfl, rfl, PendingMarketState.agreeOn_discard hNe _⟩
    · exact ⟨rfl, rfl, refl other _⟩
  | _ => exact hAck.elim

end Acknowledgement

/-! ## No stop breach is lost -/

/-- From every machine the calls of any threads can reach: a regular-session trade that
breaches an installed rule is delivered by every `drain_all` that runs before its identity
is acknowledged; an acknowledged identity is withheld by every `drain_all` that starts
before it is breached again; and an acknowledgement leaves the other identities of its
symbol as they are. -/
theorem no_breach_lost {priceOf : String → StopIdentity → ℚ} {machine : AccumulatorMachine}
    (hReach : RunWith CallStep (fun _ label => label.Fits priceOf) {} machine) :
    (∀ (thread : Nat) (quote : QuoteSnapshot) (rule : StopRule) (outcome : Option CallOutcome)
        (published : AccumulatorMachine),
      quote.regularSession = true →
      rule ∈ (machine.shared.bucket (upper quote.symbol)).stopRules →
      quote.lastPrice ≤ rule.price →
      CallStep machine (.ran thread (.body (.publishTrade quote)) outcome) published →
      ∀ (before after : AccumulatorMachine) (drainer : Nat) (items : List DetachedMarketState),
        RunWith CallStep (Unacknowledged priceOf (upper quote.symbol) rule.identity)
          published before →
        DrainAll (Unacknowledged priceOf (upper quote.symbol) rule.identity) drainer
          before after items →
        Delivers priceOf (upper quote.symbol) rule.identity items) ∧
    (∀ (thread : Nat) (symbol cardKey version : String) (outcome : Option CallOutcome)
        (acknowledged : AccumulatorMachine),
      CallStep machine (.ran thread (.body (.acknowledgeBreach symbol cardKey version)) outcome)
        acknowledged →
      ∀ (before after : AccumulatorMachine) (drainer : Nat) (items : List DetachedMarketState),
        RunWith CallStep (Unbreached priceOf (upper symbol) (cardKey, version))
          acknowledged before →
        DrainAll (Unbreached priceOf (upper symbol) (cardKey, version)) drainer
          before after items →
        Withholds (upper symbol) (cardKey, version) items) ∧
    (∀ (thread : Nat) (symbol : String) (identity other : StopIdentity) (running : RunningCall)
        (outcome : Option CallOutcome) (after : AccumulatorMachine),
      running.IsAcknowledgement symbol identity → other ≠ identity →
      CallStep machine (.ran thread running outcome) after →
      machine.shared.AgreeOn symbol other after.shared) := by
  have hSound : machine.Sound priceOf :=
    hReach.invariant (sound_empty priceOf)
      (fun _ _ _ hSound hLabel hStep => hSound.step hLabel hStep)
  refine ⟨?_, ?_, ?_⟩
  · intro thread quote rule outcome published hRegular hRule hPrice hStep before after drainer
      items hRun hDrain
    have hPublished : published.Awaits priceOf (upper quote.symbol) rule.identity := by
      refine ⟨hSound.step (by trivial) hStep, ?_⟩
      rw [hSound.outstanding_step hStep]
      exact Or.inr ⟨rfl, hRegular, rule, hRule, rfl, hPrice⟩
    have hBefore : before.Awaits priceOf (upper quote.symbol) rule.identity :=
      hRun.invariant hPublished (fun _ _ _ h hLabel hStep => h.step hLabel hStep)
    exact delivers_of_drainAll (upper_upper _) hBefore hDrain
  · intro thread symbol cardKey version outcome acknowledged hStep before after drainer items
      hRun hDrain
    have hAcknowledged : acknowledged.Settled priceOf (upper symbol) (cardKey, version) := by
      refine ⟨hSound.step (by trivial) hStep, ?_⟩
      rw [hSound.outstanding_step hStep]
      simp [RunningCall.Acknowledges, RunningCall.Breaches]
    have hBefore : before.Settled priceOf (upper symbol) (cardKey, version) :=
      hRun.invariant hAcknowledged (fun _ _ _ h hLabel hStep => h.step hLabel hStep)
    exact withholds_of_drainAll (upper_upper _) hBefore hDrain
  · intro thread symbol identity other running outcome after hAck hNe hStep
    cases hStep with
    | @continues _ _ next shared now hRunning hRun =>
      have hAgree := agreeOn_acknowledgement machine.shared hAck hNe now
      rwa [hRun] at hAgree
    | @returns _ _ shared outcome now hRunning hRun =>
      have hAgree := agreeOn_acknowledgement machine.shared hAck hNe now
      rwa [hRun] at hAgree

/-! A stop is breached once; the next `drain_all` delivers it. -/

def breachedRule : StopRule := { cardKey := "AAPL-1", price := 10, version := "1" }

def breachingTrade : QuoteSnapshot :=
  { symbol := "aapl", lastPrice := 9, receivedAt := 0, brokerEventAt := 0, processedAt := 0 }

/-- The machine in which the rule is installed and the trade has found its bucket. -/
def beforeTrade : AccumulatorMachine :=
  let installing := ({} : AccumulatorMachine).start 0
    (.enter (.replaceStopRules "aapl" [breachedRule]))
  let installed := ((installing.runThread 0 0).1.runThread 0 0).1
  ((installed.start 0 (.enter (.publishTrade breachingTrade))).runThread 0 0).1

theorem beforeTrade_reached :
    RunWith CallStep (fun _ label => label.Fits (fun _ _ => 10)) {} beforeTrade := by
  have hRule : CallLabel.Fits (fun _ _ => 10)
      (.called 0 (.enter (.replaceStopRules "aapl" [breachedRule]))) := by
    simp [CallLabel.Fits, RunningCall.Fits, BucketCall.Fits, breachedRule]
  have hTrade : CallLabel.Fits (fun _ _ => 10)
      (.called 0 (.enter (.publishTrade breachingTrade))) := trivial
  apply RunWith.step _ trivial (step_runThread rfl 0)
  refine RunWith.step ?_ ?_ (CallStep.call rfl trivial)
  · apply RunWith.step _ trivial (step_runThread rfl 0)
    apply RunWith.step _ trivial (step_runThread rfl 0)
    refine RunWith.step (RunWith.refl _) ?_ (CallStep.call rfl trivial)
    exact hRule
  · exact hTrade

/-- The machine after a `drain_all` call of another thread ran all but its last section. -/
def beforeReturn (published : AccumulatorMachine) : AccumulatorMachine :=
  (fun machine : AccumulatorMachine => (machine.runThread 0 1).1)^[7]
    (published.start 1 .takeDetached)

theorem no_breach_lost_once : ∃ published after items,
    CallStep beforeTrade (.ran 0 (.body (.publishTrade breachingTrade)) (some .finished))
        published ∧
      DrainAll (Unacknowledged (fun _ _ => 10) "AAPL" breachedRule.identity) 1 published after
        items ∧
      Delivers (fun _ _ => 10) "AAPL" breachedRule.identity items := by
  have hStep : CallStep beforeTrade
      (.ran 0 (.body (.publishTrade breachingTrade)) (some .finished))
      (beforeTrade.runThread 0 0).1 := step_runThread rfl 0
  obtain ⟨after, items, hDrain⟩ : ∃ after items,
      DrainAll (Unacknowledged (fun _ _ => 10) "AAPL" breachedRule.identity) 1
        (beforeTrade.runThread 0 0).1 after items := by
    refine ⟨_, _, _, beforeReturn (beforeTrade.runThread 0 0).1, _, CallStep.call rfl trivial, ?_,
      step_runThread rfl 0⟩
    iterate 7
      apply RunWith.step _ ⟨⟨trivial, id⟩, id⟩ (step_runThread rfl 0)
    exact RunWith.refl _
  exact ⟨_, _, _, hStep, hDrain,
    (no_breach_lost beforeTrade_reached).1 0 breachingTrade breachedRule (some .finished) _ rfl
      (by decide) (by decide) hStep _ _ 1 _ (RunWith.refl _) hDrain⟩

end QuantApp.Services
