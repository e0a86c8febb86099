import QuantApp.Services.CoordinationCaches
import QuantApp.Verified.GenerationTokens

/-!
# What writers do to the caches

A transaction makes its marks before its commit takes effect.  Each of the four values that
the two functions read has a token and a set of stages in which a transaction has made the
last mark that moves the token; a value changes only in a commit from such a stage.  The
version sum of the cards grows with every change of the cards.
-/

namespace QuantApp.Services

open Core Verified
open CoordinationWrite (apply)

variable {stage' : TransactionStage} {moment' before : CoordinationMoment} {step : TransactionStep}
  {writes written : List CoordinationWrite}

variable {write : CoordinationWrite} {rows after : CoordinationRows} {moment : CoordinationMoment}
  {table : CoordinationTable}

/-! ## Writers -/

/-- A statement on the table is among the writes. -/
def WritesTo (table : CoordinationTable) (writes : List CoordinationWrite) : Prop :=
  ∃ write ∈ writes, write.table = table

/-- No counter has gone back. -/
structure CountersLe (before after : CoordinationMoment) : Prop where
  card : before.cardGeneration ≤ after.cardGeneration
  write : before.writeGeneration ≤ after.writeGeneration
  remote : before.remoteGeneration ≤ after.remoteGeneration
  table : ∀ table, before.tableGeneration table ≤ after.tableGeneration table

theorem countersLe_marked (moment : CoordinationMoment) (write : CoordinationWrite) :
    CountersLe moment (moment.marked write) := by
  unfold CoordinationMoment.marked
  split
  · exact ⟨Nat.le_succ _, Nat.le_refl _, Nat.le_refl _, fun _ => Nat.le_refl _⟩
  · exact ⟨Nat.le_refl _, Nat.le_succ _, Nat.le_refl _, fun _ => Nat.le_refl _⟩

theorem countersLe_pulsed (moment : CoordinationMoment) (tables : List CoordinationTable) :
    CountersLe moment (moment.pulsed tables) := by
  refine ⟨Nat.le_refl _, Nat.le_refl _, Nat.le_refl _, ?_⟩
  intro table
  unfold CoordinationMoment.pulsed
  dsimp only
  split
  · exact Nat.le_succ _
  · exact Nat.le_refl _

theorem countersLe_remotelyPulsed (moment : CoordinationMoment)
    (tables : List CoordinationTable) : CountersLe moment (moment.remotelyPulsed tables) := by
  unfold CoordinationMoment.remotelyPulsed
  split
  · exact ⟨Nat.le_refl _, Nat.le_refl _, Nat.le_succ _, fun _ => Nat.le_refl _⟩
  · exact countersLe_pulsed moment tables

/-- How writers treat a value, its token, and the stages in which they have made their last
mark: the token grows with the counters, a writer gets into such a stage only by moving the
token, and changes the value only from there. -/
structure WriterDiscipline {τ V : Type} [PartialOrder τ] (token : CoordinationMoment → τ)
    (value : CoordinationRows → V) (done : TransactionStage → Prop) : Prop where
  grows : ∀ {before after}, CountersLe before after → token before ≤ token after
  outside : ¬ done .outside
  begun : ∀ {rest}, ¬ done (.executing [] rest)
  executed : ∀ {written write rest}, done (.returned written write rest) →
    done (.executing written (write :: rest))
  marked : ∀ {moment written write rest}, done (.executing (written ++ [write]) rest) →
    done (.returned written write rest) ∨ token (moment.marked write) ≠ token moment
  listened : ∀ {moment written}, done (.committing written) → done (.executing written []) ∨
    token (moment.listened written) ≠ token moment
  applied : ∀ {rows after written}, applyWrites rows written = some after →
    value after ≠ value rows → done (.committing written)
  unread : ∀ {moment : CoordinationMoment} {rows}, token { moment with rows := rows } = token moment

section Views

variable {Tx Reader τ V : Type} [DecidableEq Tx] [DecidableEq Reader] [PartialOrder τ]

/-- The world as a reader of one value sees it. -/
def CacheWorld.view (world : CacheWorld Tx Reader) (token : CoordinationMoment → τ)
    (value : CoordinationRows → V) (done : TransactionStage → Prop) : Published τ V where
  past := world.past.map (fun moment => (token moment, value moment.rows))
  token := token world.moment
  value := value world.moment.rows
  silent := ∃ tx, done (world.transactions tx)

variable {world after : CacheWorld Tx Reader} {config : CacheConfig}
  {token : CoordinationMoment → τ} {value : CoordinationRows → V}
  {done : TransactionStage → Prop}

/-- One step of a transaction, as far as a reader is concerned. -/
theorem WriterDiscipline.stage (h : WriterDiscipline token value done) {stage : TransactionStage}
    (hNext : stage.next moment step = some (stage', moment')) :
    token moment ≤ token moment' ∧ (value moment'.rows ≠ value moment.rows → done stage) ∧
      (done stage' → done stage ∨ token moment' ≠ token moment) := by
  unfold TransactionStage.next at hNext
  split at hNext
  · cases hNext
    exact ⟨le_rfl, fun hChanged => absurd rfl hChanged, fun hDone => absurd hDone h.begun⟩
  · cases hNext
    exact ⟨le_rfl, fun hChanged => absurd rfl hChanged, fun hDone => Or.inl (h.executed hDone)⟩
  next written write rest =>
    cases hNext
    refine ⟨h.grows (countersLe_marked moment write), fun hChanged => ?_, h.marked⟩
    refine absurd ?_ hChanged
    unfold CoordinationMoment.marked
    split <;> rfl
  · cases hNext
    exact ⟨h.grows (countersLe_pulsed moment _), fun hChanged => absurd rfl hChanged, h.listened⟩
  next written =>
    obtain ⟨rows, hRows, hMoved⟩ := Option.map_eq_some_iff.mp hNext
    cases hMoved
    exact ⟨h.unread.ge, fun hChanged => h.applied hRows hChanged,
      fun hDone => absurd hDone h.outside⟩
  iterate 3
    · cases hNext
      exact ⟨le_rfl, fun hChanged => absurd rfl hChanged, fun hDone => absurd hDone h.outside⟩
  · cases hNext

theorem WriterDiscipline.advances (h : WriterDiscipline token value done)
    {step : CacheStep Tx Reader} (hNext : world.next config step = some after) :
    (world.view token value done).Advances (after.view token value done) := by
  obtain ⟨acted, hAct, rfl⟩ := Option.map_eq_some_iff.mp hNext
  have hPast : world.moments.map (fun moment => (token moment, value moment.rows)) =
      (world.view token value done).log := by
    unfold CacheWorld.moments Published.log CacheWorld.view
    rw [List.map_append]
    rfl
  cases step with
  | transaction tx =>
    obtain ⟨⟨stage', moment'⟩, hStage, rfl⟩ := Option.map_eq_some_iff.mp hAct
    obtain ⟨hToken, hChanged, hMarked⟩ := h.stage hStage
    refine ⟨hPast, hToken, fun hValue => ⟨tx, hChanged hValue⟩, ?_⟩
    rintro ⟨other, hDone⟩
    by_cases hSame : other = tx
    · subst hSame
      have hStageDone : done stage' := by
        have hUpdated : Function.update world.transactions other stage' other = stage' :=
          Function.update_self ..
        rw [← hUpdated]
        exact hDone
      rcases hMarked hStageDone with hBefore | hMoved
      · exact Or.inl ⟨other, hBefore⟩
      · exact Or.inr hMoved
    · have hOther : Function.update world.transactions tx stage' other =
          world.transactions other := Function.update_of_ne hSame ..
      left
      refine ⟨other, ?_⟩
      rw [← hOther]
      exact hDone
  | remote tables =>
    cases hAct
    refine ⟨hPast, h.grows (countersLe_remotelyPulsed world.moment tables), ?_, Or.inl⟩
    intro hValue
    refine absurd ?_ hValue
    show value (world.moment.remotelyPulsed tables).rows = value world.moment.rows
    unfold CoordinationMoment.remotelyPulsed
    split <;> rfl
  | cards =>
    obtain ⟨cards, _, rfl⟩ := Option.map_eq_some_iff.mp hAct
    exact ⟨hPast, le_rfl, fun hValue => absurd rfl hValue, Or.inl⟩
  | states =>
    obtain ⟨states, _, rfl⟩ := Option.map_eq_some_iff.mp hAct
    exact ⟨hPast, le_rfl, fun hValue => absurd rfl hValue, Or.inl⟩

end Views

/-! ## The four values that are read -/

theorem applyWrites_cons {rest : List CoordinationWrite}
    (h : applyWrites rows (write :: rest) = some after) :
    ∃ between, write.apply rows = some between ∧ applyWrites between rest = some after :=
  Option.bind_eq_some_iff.mp h

/-- What every statement on other tables keeps, the writes keep that are on other tables. -/
theorem applyWrites_keep {V : Type} (table : CoordinationTable) (value : CoordinationRows → V)
    (hKeep : ∀ rows after write, apply rows write = some after →
      write.table ≠ table → value after = value rows) (h : applyWrites rows writes = some after)
    (hOther : ¬ WritesTo table writes) : value after = value rows := by
  induction writes generalizing rows with
  | nil =>
    cases h
    rfl
  | cons write rest ih =>
    obtain ⟨between, hFirst, hRest⟩ := applyWrites_cons h
    have hWrite : write.table ≠ table := fun hTable => hOther ⟨write, List.mem_cons_self, hTable⟩
    have hTail : ¬ WritesTo table rest := by
      rintro ⟨other, hMem, hTable⟩
      exact hOther ⟨other, List.mem_cons_of_mem _ hMem, hTable⟩
    rw [ih hRest hTail]
    exact hKeep rows between write hFirst hWrite

section

variable (h : write.apply rows = some after)
include h

theorem apply_tradeCards (hTable : write.table ≠ .tradeCards) :
    after.tradeCards = rows.tradeCards := by
  cases write with
  | insertCard | updateCard => exact absurd rfl hTable
  | _ => cases h; rfl

/-- A statement on the cards leaves the other tables alone. -/
theorem apply_card (hTable : write.table = .tradeCards) :
    after.executionOrders = rows.executionOrders ∧
      after.capitalReservations = rows.capitalReservations ∧
      after.externalOrders = rows.externalOrders := by
  cases write with
  | insertCard =>
    dsimp only [apply] at h
    split at h
    · cases h
    · cases h
      exact ⟨rfl, rfl, rfl⟩
  | updateCard =>
    dsimp only [apply] at h
    split at h
    · cases h
    · split at h
      · cases h
      · cases h
        exact ⟨rfl, rfl, rfl⟩
  | _ => cases hTable

theorem apply_executionOrders (hTable : write.table ≠ .executionOrders) :
    after.executionOrders = rows.executionOrders := by
  cases write with
  | insertCard | updateCard => exact (apply_card h rfl).1
  | orders => exact absurd rfl hTable
  | reservations | externals => cases h; rfl

theorem apply_capitalReservations (hTable : write.table ≠ .capitalReservations) :
    after.capitalReservations = rows.capitalReservations := by
  cases write with
  | insertCard | updateCard => exact (apply_card h rfl).2.1
  | orders | externals => cases h; rfl
  | reservations => exact absurd rfl hTable

theorem apply_externalOrders (hTable : write.table ≠ .discoveredExternalOrders) :
    after.externalOrders = rows.externalOrders := by
  cases write with
  | insertCard | updateCard => exact (apply_card h rfl).2.2
  | orders | reservations => cases h; rfl
  | externals => exact absurd rfl hTable

end

/-- The token that a call on the cards compares: with the flag both generations, without it
the local one alone. -/
def cardTokenOf (config : CacheConfig) (localGeneration : Nat) (pulseGeneration : Nat × Nat) :
    Nat × Nat × Nat :=
  (localGeneration, if config.crossDevice then pulseGeneration else (0, 0))

def cardToken (config : CacheConfig) (moment : CoordinationMoment) : Nat × Nat × Nat :=
  cardTokenOf config moment.cardGeneration (cardPulse moment)

/-- The last mark of a transaction on the cards is made: with the flag it is that of the
commit listener, without it that of the last card statement. -/
def CardMarksDone (config : CacheConfig) : TransactionStage → Prop
  | .outside => False
  | .executing written rest =>
    config.crossDevice = false ∧ WritesTo .tradeCards written ∧ ¬ WritesTo .tradeCards rest
  | .returned written write rest =>
    config.crossDevice = false ∧ WritesTo .tradeCards written ∧
      ¬ WritesTo .tradeCards (write :: rest)
  | .committing written => WritesTo .tradeCards written

/-- The commit listener of a transaction on the table has run. -/
def TableMarksDone (table : CoordinationTable) : TransactionStage → Prop
  | .committing written => WritesTo table written
  | _ => False

theorem writesTo_append :
    WritesTo table (written ++ [write]) ↔ WritesTo table written ∨ write.table = table := by
  unfold WritesTo
  simp [or_and_right, exists_or]

theorem tableGeneration_listened (h : WritesTo table written) :
    (moment.listened written).tableGeneration table = moment.tableGeneration table + 1 := by
  obtain ⟨write, hMem, hTable⟩ := h
  have hTables : table ∈ written.map CoordinationWrite.table :=
    List.mem_map.mpr ⟨write, hMem, hTable⟩
  unfold CoordinationMoment.listened CoordinationMoment.pulsed
  dsimp only
  rw [if_pos hTables]

theorem cardToken_grows (config : CacheConfig) {after : CoordinationMoment}
    (h : CountersLe before after) : cardToken config before ≤ cardToken config after := by
  unfold cardToken cardTokenOf cardPulse
  refine ⟨h.card, ?_⟩
  split
  · exact ⟨h.remote, h.table .tradeCards⟩
  · exact le_rfl

theorem cards_discipline (config : CacheConfig) :
    WriterDiscipline (cardToken config) (selectedCards config) (CardMarksDone config) where
  grows := cardToken_grows config
  outside := id
  begun := fun hDone => absurd hDone.2.1 (fun ⟨_, hMem, _⟩ => absurd hMem List.not_mem_nil)
  executed := id
  marked := by
    rintro moment written write rest ⟨hSame, hWritten, hRest⟩
    by_cases hCard : write.table = .tradeCards
    · right
      intro hToken
      have hGeneration := congrArg Prod.fst hToken
      unfold CoordinationMoment.marked cardToken cardTokenOf at hGeneration
      rw [if_pos hCard] at hGeneration
      exact absurd hGeneration (Nat.succ_ne_self _)
    · left
      refine ⟨hSame, (writesTo_append.mp hWritten).resolve_right hCard, ?_⟩
      rintro ⟨other, hMem, hTable⟩
      rcases List.mem_cons.mp hMem with rfl | hLater
      · exact hCard hTable
      · exact hRest ⟨other, hLater, hTable⟩
  listened := by
    intro moment written hDone
    cases hFlag : config.crossDevice with
    | false =>
      left
      exact ⟨hFlag, hDone, fun ⟨_, hMem, _⟩ => absurd hMem List.not_mem_nil⟩
    | true =>
      right
      intro hToken
      have hPulse := congrArg (fun token => token.2.2) hToken
      unfold cardToken cardTokenOf cardPulse at hPulse
      rw [hFlag] at hPulse
      dsimp only at hPulse
      rw [if_pos rfl, if_pos rfl, tableGeneration_listened hDone] at hPulse
      exact absurd hPulse (Nat.succ_ne_self _)
  applied := by
    intro rows after written hRows hChanged
    by_contra hOther
    refine hChanged (applyWrites_keep .tradeCards _ ?_ hRows hOther)
    intro rows after write hWrite hTable
    unfold selectedCards
    rw [apply_tradeCards hWrite hTable]
  unread := rfl

theorem stateGeneration_grows {after : CoordinationMoment} (h : CountersLe before after) :
    stateGeneration before ≤ stateGeneration after :=
  ⟨h.write, h.remote, h.table .capitalReservations, h.table .discoveredExternalOrders,
    h.table .executionOrders⟩

/-- A table of the account state: its generation is part of the token, and only statements on
it change what is read of it. -/
theorem table_discipline {V : Type} {value : CoordinationRows → V}
    {counter : Nat × Nat × Nat × Nat → Nat} (hPulse : ∀ moment, counter (statePulse moment) =
      moment.tableGeneration table)
    (hKeep : ∀ rows after write, apply rows write = some after →
      write.table ≠ table → value after = value rows) :
    WriterDiscipline stateGeneration value (TableMarksDone table) where
  grows := stateGeneration_grows
  outside := id
  begun := id
  executed := False.elim
  marked := False.elim
  listened := fun hDone => Or.inr (fun hToken => by
    have hTable := (hPulse _).symm.trans ((congrArg (counter ·.2) hToken).trans (hPulse _))
    rw [tableGeneration_listened hDone] at hTable
    exact Nat.succ_ne_self _ hTable)
  applied := by
    intro rows after written hRows hChanged
    by_contra hOther
    exact hChanged (applyWrites_keep table value hKeep hRows hOther)
  unread := rfl

variable (key : AccountKey)

theorem orders_discipline :
    WriterDiscipline stateGeneration (listExecutionOrdersForAccount key)
      (TableMarksDone .executionOrders) := by
  apply @table_discipline _ _ _ (·.2.2.2) (fun _ => rfl)
  intro rows after write hWrite hTable
  unfold listExecutionOrdersForAccount
  rw [apply_executionOrders hWrite hTable]

theorem reservations_discipline :
    WriterDiscipline stateGeneration (listReservationsForAccount key)
      (TableMarksDone .capitalReservations) := by
  apply @table_discipline _ _ _ (·.2.1) (fun _ => rfl)
  intro rows after write hWrite hTable
  unfold listReservationsForAccount
  rw [apply_capitalReservations hWrite hTable]

theorem externals_discipline :
    WriterDiscipline stateGeneration (listExternalOrdersForAccount key)
      (TableMarksDone .discoveredExternalOrders) := by
  apply @table_discipline _ _ _ (·.2.2.1) (fun _ => rfl)
  intro rows after write hWrite hTable
  unfold listExternalOrdersForAccount
  rw [apply_externalOrders hWrite hTable]

/-! ## The revision of the cards -/

def versionSum (selected : List TradeCardRow) : Int :=
  (selected.map (fun row => row.card.version)).sum

/-- No version is taken back, and rows of one version sum are the same. -/
def StoredCardsGrow (before after : List TradeCardRow) : Prop :=
  versionSum before ≤ versionSum after ∧ (versionSum before = versionSum after → before = after)

theorem StoredCardsGrow.refl (selected : List TradeCardRow) : StoredCardsGrow selected selected :=
  ⟨le_rfl, fun _ => rfl⟩

theorem StoredCardsGrow.trans {first second third : List TradeCardRow}
    (h : StoredCardsGrow first second) (hLater : StoredCardsGrow second third) :
    StoredCardsGrow first third := by
  refine ⟨h.1.trans hLater.1, ?_⟩
  intro hSame
  have hFirst : versionSum first = versionSum second := le_antisymm h.1 (hSame ▸ hLater.1)
  rw [h.2 hFirst]
  exact hLater.2 (hFirst.symm.trans hSame)

section Revision

variable {config : CacheConfig} {rows after : CoordinationRows}

theorem covers_of_key {left right : TradeCardRow} (h : left.key = right.key) :
    config.covers left = config.covers right := by
  unfold TradeCardRow.key TradeCardState.cardKey at h
  simp only [Prod.mk.injEq] at h
  unfold CacheConfig.covers
  rw [h.1, h.2.1]

/-- A version sum, with nothing for the rows that are not selected. -/
theorem versionSum_filter (selected : List TradeCardRow) :
    versionSum (selected.filter config.covers) =
      (selected.map (fun row => if config.covers row then row.card.version else 0)).sum := by
  unfold versionSum
  induction selected with
  | nil => rfl
  | cons row rest ih =>
    rw [List.filter_cons]
    by_cases hCovers : config.covers row = true
    all_goals simp [hCovers, ih]

/-- Replacing a row that is not selected changes no selection. -/
theorem filter_store_of_not_covers {row : TradeCardRow} {selected : List TradeCardRow}
    (hRow : config.covers row ≠ true) :
    (store TradeCardRow.key row selected).filter config.covers = selected.filter config.covers := by
  induction selected with
  | nil => rfl
  | cons first rest ih =>
    have hStore : store TradeCardRow.key row (first :: rest) =
        (if first.key = row.key then row else first) :: store TradeCardRow.key row rest := by
      simp [store]
    rw [hStore]
    by_cases hKey : first.key = row.key
    · have hFirst : config.covers first ≠ true := by
        rw [covers_of_key hKey]
        exact hRow
      rw [if_pos hKey, List.filter_cons_of_neg hRow, List.filter_cons_of_neg hFirst, ih]
    · rw [if_neg hKey, List.filter_cons, List.filter_cons, ih]

variable (hKeyed : Keyed TradeCardRow.key rows.tradeCards)
include hKeyed

theorem apply_grows (h : write.apply rows = some after) :
    Keyed TradeCardRow.key after.tradeCards ∧
      StoredCardsGrow (selectedCards config rows) (selectedCards config after) := by
  cases write with
  | insertCard row =>
    dsimp only [apply] at h
    split at h
    · cases h
    next hFresh =>
      cases h
      refine ⟨hKeyed.append_fresh hFresh, ?_⟩
      unfold selectedCards
      dsimp only
      rw [List.filter_append]
      by_cases hCovers : config.covers (row.versioned 1) = true
      · have hSum : versionSum (rows.tradeCards.filter config.covers ++
            [row.versioned 1].filter config.covers) =
              versionSum (rows.tradeCards.filter config.covers) + 1 := by
          unfold versionSum
          rw [List.filter_cons_of_pos hCovers, List.filter_nil, List.map_append, List.sum_append]
          rfl
        constructor
        · rw [hSum]
          omega
        · rw [hSum]
          intro hSame
          omega
      · rw [List.filter_cons_of_neg hCovers, List.filter_nil, List.append_nil]
        exact StoredCardsGrow.refl _
  | updateCard row expectedVersion =>
    dsimp only [apply] at h
    split at h
    · cases h
    next stored hStored =>
      split at h
      · cases h
      next hVersion =>
        cases h
        refine ⟨hKeyed.store, ?_⟩
        unfold selectedCards
        dsimp only
        by_cases hCovers : config.covers (row.versioned (expectedVersion + 1)) = true
        · have hOld : config.covers stored = true := by
            rw [← hCovers]
            exact covers_of_key (lookup_key hStored)
          have hReplaced : lookup TradeCardRow.key
              (row.versioned (expectedVersion + 1)).key rows.tradeCards = some stored := hStored
          have hTotal := sum_map_store
            (fun row => if config.covers row then row.card.version else 0) hKeyed hReplaced
          have hSum : versionSum ((store TradeCardRow.key
              (row.versioned (expectedVersion + 1)) rows.tradeCards).filter config.covers) =
                versionSum (rows.tradeCards.filter config.covers) + 1 := by
            rw [versionSum_filter, versionSum_filter, hTotal, if_pos hOld, if_pos hCovers]
            have hStoredVersion : stored.card.version = expectedVersion := not_not.mp hVersion
            show _ - stored.card.version + (expectedVersion + 1) = _
            omega
          constructor
          · rw [hSum]
            omega
          · rw [hSum]
            intro hSame
            omega
        · rw [filter_store_of_not_covers hCovers]
          exact StoredCardsGrow.refl _
  | orders | reservations | externals =>
    cases h
    exact ⟨hKeyed, StoredCardsGrow.refl _⟩

theorem applyWrites_grows (h : applyWrites rows writes = some after) :
    Keyed TradeCardRow.key after.tradeCards ∧
      StoredCardsGrow (selectedCards config rows) (selectedCards config after) := by
  induction writes generalizing rows with
  | nil =>
    cases h
    exact ⟨hKeyed, StoredCardsGrow.refl _⟩
  | cons write rest ih =>
    obtain ⟨between, hFirst, hRest⟩ := applyWrites_cons h
    obtain ⟨hBetween, hGrows⟩ : Keyed TradeCardRow.key between.tradeCards ∧
        StoredCardsGrow (selectedCards config rows) (selectedCards config between) :=
      apply_grows hKeyed hFirst
    obtain ⟨hAfter, hLater⟩ := ih hBetween hRest
    exact ⟨hAfter, hGrows.trans hLater⟩

end Revision

theorem stage_rows {stage : TransactionStage}
    (hNext : stage.next moment step = some (stage', moment')) :
    moment'.rows = moment.rows ∨
      ∃ written, applyWrites moment.rows written = some moment'.rows := by
  unfold TransactionStage.next at hNext
  split at hNext
  case h_3 written write rest =>
    cases hNext
    left
    unfold CoordinationMoment.marked
    split <;> rfl
  case h_5 written =>
    obtain ⟨rows, hRows, hMoved⟩ := Option.map_eq_some_iff.mp hNext
    cases hMoved
    exact Or.inr ⟨written, hRows⟩
  case h_9 => cases hNext
  all_goals
    cases hNext
    exact Or.inl rfl

/-- Every step keeps the cards keyed and lets their versions grow. -/
theorem next_grows {Tx Reader : Type} [DecidableEq Tx] [DecidableEq Reader]
    {world after : CacheWorld Tx Reader} {config : CacheConfig} {step : CacheStep Tx Reader}
    (hKeyed : Keyed TradeCardRow.key world.moment.rows.tradeCards)
    (hNext : world.next config step = some after) :
    Keyed TradeCardRow.key after.moment.rows.tradeCards ∧
      StoredCardsGrow (selectedCards config world.moment.rows)
        (selectedCards config after.moment.rows) := by
  obtain ⟨acted, hAct, rfl⟩ := Option.map_eq_some_iff.mp hNext
  show Keyed TradeCardRow.key acted.moment.rows.tradeCards ∧ _
  cases step with
  | transaction =>
    obtain ⟨⟨stage', moment'⟩, hStage, rfl⟩ := Option.map_eq_some_iff.mp hAct
    have hSame := stage_rows hStage
    rcases hSame with hRows | ⟨written, hApplied⟩
    · show Keyed TradeCardRow.key moment'.rows.tradeCards ∧
        StoredCardsGrow _ (selectedCards config moment'.rows)
      rw [hRows]
      exact ⟨hKeyed, StoredCardsGrow.refl _⟩
    · exact applyWrites_grows hKeyed hApplied
  | remote tables =>
    cases hAct
    have hRows : (world.moment.remotelyPulsed tables).rows = world.moment.rows := by
      unfold CoordinationMoment.remotelyPulsed
      split <;> rfl
    show Keyed TradeCardRow.key (world.moment.remotelyPulsed tables).rows.tradeCards ∧
      StoredCardsGrow _ (selectedCards config (world.moment.remotelyPulsed tables).rows)
    rw [hRows]
    exact ⟨hKeyed, StoredCardsGrow.refl _⟩
  | cards =>
    obtain ⟨cards, _, rfl⟩ := Option.map_eq_some_iff.mp hAct
    exact ⟨hKeyed, StoredCardsGrow.refl _⟩
  | states =>
    obtain ⟨states, _, rfl⟩ := Option.map_eq_some_iff.mp hAct
    exact ⟨hKeyed, StoredCardsGrow.refl _⟩

end QuantApp.Services
